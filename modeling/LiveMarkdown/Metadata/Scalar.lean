/-!
What plain scalars are: a tag for each, chosen by the form of the text.
-/

namespace LiveMarkdown.Metadata

/-- The full name of a tag that is known everywhere. -/
def coreTag (name : String) : String := "tag:yaml.org,2002:" ++ name

namespace Scalar

def isOctal (c : Char) : Bool := '0' ≤ c && c ≤ '7'

def isHex (c : Char) : Bool :=
  c.isDigit || ('a' ≤ c && c ≤ 'f') || ('A' ≤ c && c ≤ 'F')

/-- A text without one sign at its start. -/
def dropSign : List Char → List Char
  | '+' :: cs | '-' :: cs => cs
  | cs => cs

/-- A text without a line feed at its end. -/
def dropLastFeed (cs : List Char) : List Char :=
  if cs.getLast? = some '\n' then cs.dropLast else cs

/-- Parts of sixty: each a number below sixty behind a colon, at least one. What is left. -/
def sixties : Nat → List Char → Option (List Char)
  | 0, _ => none
  | fuel + 1, cs =>
    match cs with
    | ':' :: a :: rest =>
      let next (cs : List Char) : Option (List Char) :=
        match cs with
        | ':' :: _ => (sixties fuel cs).or (some cs)
        | cs => some cs
      match rest with
      | b :: rest' =>
        if '0' ≤ a && a ≤ '5' && b.isDigit then next rest'
        else if a.isDigit then next rest else none
      | [] => if a.isDigit then some [] else none
    | _ => none

/-- Digits and underscores, a digit first. -/
def startsDigits : List Char → Option (List Char)
  | c :: cs => if c.isDigit then some (cs.dropWhile fun c => c.isDigit || c = '_') else none
  | [] => none

/-- An exponent with a sign, or nothing, to the end. -/
def isExponent : List Char → Bool
  | [] => true
  | e :: s :: cs => (e = 'e' || e = 'E') && (s = '+' || s = '-') && cs ≠ [] && cs.all Char.isDigit
  | _ => false

def afterPoint (cs : List Char) : List Char := cs.dropWhile fun c => c.isDigit || c = '_'

def isInt (text : List Char) : Bool :=
  let cs := dropSign text
  match cs with
  | ['0'] => true
  | '0' :: 'b' :: ds => ds ≠ [] && ds.all fun c => c = '0' || c = '1' || c = '_'
  | '0' :: 'x' :: ds => ds ≠ [] && ds.all fun c => isHex c || c = '_'
  | '0' :: ds => ds.all fun c => isOctal c || c = '_'
  | _ =>
    match startsDigits cs with
    | some [] => true
    | some rest => sixties rest.length rest = some []
    | none => false

def isFloat (text : List Char) : Bool :=
  let cs := dropSign text
  let word := String.ofList cs
  let named := [".inf", ".Inf", ".INF"].contains word ||
    [".nan", ".NaN", ".NAN"].contains (String.ofList text)
  let pointed := match startsDigits cs with
    | some ('.' :: rest) => isExponent (afterPoint rest)
    | some rest =>
      match sixties rest.length rest with
      | some ('.' :: rest) => afterPoint rest = []
      | _ => false
    | none => false
  let bare := match text with
    | '.' :: c :: rest => c.isDigit && isExponent (afterPoint rest)
    | _ => false
  named || pointed || bare

/-! ### Times -/

/-- Reads between `least` and `most` digits. -/
def digits (least most : Nat) (cs : List Char) : Option (Nat × List Char) :=
  let ds := (cs.take most).takeWhile Char.isDigit
  if ds.length < least then none
  else some (ds.foldl (fun n c => n * 10 + (c.toNat - 48)) 0, cs.drop ds.length)

def mark (c : Char) : List Char → Option (List Char)
  | d :: cs => if c = d then some cs else none
  | [] => none

/-- A time zone: its sign, its hours and its minutes. Universal time has none of them. -/
structure Zone where
  shift : Option (Bool × Nat × Nat)

/-- A day, with a time of day if one is given. -/
structure Time where
  year : Nat
  month : Nat
  day : Nat
  /-- Hour, minute, second, the digits of the fraction, and the zone. -/
  clock : Option (Nat × Nat × Nat × List Char × Option Zone) := none

def isBlank (c : Char) : Bool := c = ' ' || c = '\t'

def zone? (cs : List Char) : Option (Option Zone) :=
  match cs.dropWhile isBlank with
  | ['Z'] => some (some ⟨none⟩)
  | s :: rest =>
    if s = '+' || s = '-' then do
      let (h, rest) ← digits 1 2 rest
      match rest with
      | [] => some (some ⟨some (s = '-', h, 0)⟩)
      | rest =>
        let (m, rest) ← digits 2 2 (← mark ':' rest)
        if rest = [] then some (some ⟨some (s = '-', h, m)⟩) else none
    else none
  | [] => if cs = [] then some none else none

def clock? (cs : List Char) : Option (Nat × Nat × Nat × List Char × Option Zone) := do
  let cs ← match cs with
    | 'T' :: rest | 't' :: rest => some rest
    | c :: _ => if isBlank c then some (cs.dropWhile isBlank) else none
    | [] => none
  let (h, cs) ← digits 1 2 cs
  let (m, cs) ← digits 2 2 (← mark ':' cs)
  let (s, cs) ← digits 2 2 (← mark ':' cs)
  match cs with
  | '.' :: rest =>
    return (h, m, s, rest.takeWhile Char.isDigit, ← zone? (rest.dropWhile Char.isDigit))
  | cs => return (h, m, s, [], ← zone? cs)

/-- A time as it may be written under its tag. -/
def time? (text : List Char) : Option Time := do
  let (year, cs) ← digits 4 4 text
  let (month, cs) ← digits 1 2 (← mark '-' cs)
  let (day, cs) ← digits 1 2 (← mark '-' cs)
  if cs = [] then return { year, month, day }
  return { year, month, day, clock := some (← clock? cs) }

/-- Whether a text is a time without a tag: a day alone has two digits for its month and its day. -/
def isTime (text : List Char) : Bool :=
  match time? text with
  | some t => t.clock.isSome || text.length = 10
  | none => false

/-! ### All forms -/

def truths : List String :=
  ["yes", "Yes", "YES", "no", "No", "NO", "true", "True", "TRUE", "false", "False", "FALSE",
    "on", "On", "ON", "off", "Off", "OFF"]

def nulls : List String := ["", "~", "null", "Null", "NULL"]

/-- The tag of a plain scalar. A line feed at the end does not count. -/
def plainTag (text : String) : String :=
  let cs := dropLastFeed text.toList
  let word := String.ofList cs
  if text = "" then coreTag "null"
  else if truths.contains word then coreTag "bool"
  else if isFloat cs then coreTag "float"
  else if isInt cs then coreTag "int"
  else if word = "<<" then coreTag "merge"
  else if word ≠ "" && nulls.contains word then coreTag "null"
  else if isTime cs then coreTag "timestamp"
  else if word = "=" then coreTag "value"
  else if ["!", "&", "*"].contains word then coreTag "yaml"
  else coreTag "str"

end Scalar

end LiveMarkdown.Metadata
