import LiveMarkdown.Document.Selector.Basic
import LiveMarkdown.Text.Range

/-!
The pieces of a selector. Each reader takes the rest of a text and answers with what it has read and
what is left, or with nothing.
-/

namespace LiveMarkdown.Document

namespace SelectorText

/-- Something that was read, and the rest. -/
abbrev Read (α : Type) := Option (α × List Char)

/-- A character of an identifier, written so that it stands for itself. -/
def escapeChar (mayBeDigit : Bool) (c : Char) : List Char :=
  let n := c.toNat
  let coded := '\\' :: Nat.toDigits 16 n ++ [' ']
  if n = 0 then [Char.ofNat 0xFFFD]
  else if n < 0x20 || n = 0x7F || (c.isDigit && !mayBeDigit) then coded
  else if c.isAlphanum || c == '-' || c == '_' || 0x80 ≤ n then [c]
  else ['\\', c]

/-- A text as an identifier. -/
def escape (s : String) : String :=
  String.ofList (match s.toList with
    | ['-'] => ['\\', '-']
    | '-' :: c :: cs => '-' :: escapeChar false c ++ cs.flatMap (escapeChar true)
    | c :: cs => escapeChar false c ++ cs.flatMap (escapeChar true)
    | [] => [])

def isLineEnd (c : Char) : Bool := c == '\n' || c == '\r' || c == '\x0c'

def isSpace (c : Char) : Bool := c == ' ' || c == '\t' || isLineEnd c

/-- What follows a comment at the beginning of a text. -/
def afterComment? : List Char → Option (List Char)
  | '/' :: '*' :: cs => close cs
  | _ => none
where
  close : List Char → Option (List Char)
    | '*' :: '/' :: cs => some cs
    | _ :: cs => close cs
    | [] => none

/-- Drops spaces and comments. The fuel bounds their number. -/
def skipUpTo : Nat → List Char → List Char
  | 0, cs => cs
  | fuel + 1, cs =>
    match cs with
    | c :: rest =>
      if isSpace c then skipUpTo fuel rest
      else match afterComment? cs with
        | some rest => skipUpTo fuel rest
        | none => cs
    | [] => []

def skip (cs : List Char) : List Char := skipUpTo (cs.length + 1) cs

/-- Whether only spaces and comments are left. -/
def isOver (cs : List Char) : Bool := (skip cs).isEmpty

/-! ### Names -/

def isHexDigit (c : Char) : Bool := (Text.hexDigit? c).isSome

/-- A space after an escape by number belongs to it. -/
def dropOneSpace : List Char → List Char
  | '\r' :: '\n' :: cs => cs
  | c :: cs => if isSpace c then cs else c :: cs
  | [] => []

/-- An escaped character: by its number, or by itself. -/
def escape? (cs : List Char) : Read Char :=
  match cs with
  | '\\' :: rest =>
    let ds := (rest.take 6).takeWhile isHexDigit
    if !ds.isEmpty then
      let n := Text.hexValue ds
      let c := if n = 0 then Char.ofNat 0xFFFD else Char.ofNat n
      some (c, dropOneSpace (rest.drop ds.length))
    else match rest with
      | c :: rest => if isLineEnd c then none else some (c, rest)
      | [] => some (Char.ofNat 0xFFFD, [])
  | _ => none

def isNameStart (c : Char) : Bool := c == '_' || c.isAlpha || 0xA0 ≤ c.toNat

def isNamePart (c : Char) : Bool := isNameStart c || c == '-' || c.isDigit

/-- Characters of a class, and escaped ones. The fuel bounds their number. -/
def nameChars (p : Char → Bool) : Nat → List Char → List Char × List Char
  | 0, cs => ([], cs)
  | fuel + 1, cs =>
    match cs with
    | c :: rest =>
      if p c then
        let (s, rest) := nameChars p fuel rest
        (c :: s, rest)
      else match escape? cs with
        | some (e, rest) =>
          let (s, rest) := nameChars p fuel rest
          (e :: s, rest)
        | none => ([], cs)
    | [] => ([], [])

/-- A name, with its escapes replaced. -/
def name? (cs : List Char) : Read (List Char) :=
  let n := cs.length + 1
  let (dash, body) := match cs with
    | '-' :: rest => (['-'], rest)
    | cs => ([], cs)
  match nameChars isNameStart n body with
  | ([], _) =>
    match cs with
    | '-' :: '-' :: rest =>
      let (s, rest) := nameChars isNamePart n rest
      some ('-' :: '-' :: s, rest)
    | _ => none
  | (first, rest) =>
    let (s, rest) := nameChars isNamePart n rest
    some (dash ++ first ++ s, rest)

/-- A text in quotes, with its escapes replaced. A line end that is escaped is dropped. -/
def quotedBody (q : Char) : Nat → List Char → Read (List Char)
  | 0, _ => none
  | _, [] => none
  | fuel + 1, '\\' :: '\r' :: '\n' :: cs => quotedBody q fuel cs
  | fuel + 1, c :: cs =>
    if c == q then some ([], cs)
    else if c == '\\' then
      match cs with
      | d :: rest =>
        if isLineEnd d then quotedBody q fuel rest
        else match escape? (c :: cs) with
          | some (e, rest) => (quotedBody q fuel rest).map fun (s, r) => (e :: s, r)
          | none => none
      | [] => none
    else if isLineEnd c then none
    else (quotedBody q fuel cs).map fun (s, r) => (c :: s, r)

/-- One or more names without anything between them. -/
def names : Nat → List Char → Read (List Char)
  | 0, _ => none
  | fuel + 1, cs =>
    match name? cs with
    | none => none
    | some (s, rest) =>
      match names fuel rest with
      | some (more, rest) => some (s ++ more, rest)
      | none => some (s, rest)

/-- A value: a text in quotes, or a name. -/
def value? (cs : List Char) : Read (List Char) :=
  match cs with
  | c :: rest =>
    if c == '\x22' || c == '\x27' then quotedBody c (rest.length + 1) rest
    else names (cs.length + 1) cs
  | [] => none

/-- Values with commas between them, up to a bracket. -/
def values? : Nat → List Char → Read (List (List Char))
  | 0, _ => none
  | fuel + 1, cs =>
    match value? cs with
    | none => none
    | some (v, rest) =>
      match skip rest with
      | ')' :: rest => some ([v], rest)
      | ',' :: rest => (values? fuel (skip rest)).map fun (vs, r) => (v :: vs, r)
      | _ => none

/-! ### Places -/

def digits (cs : List Char) : List Char × List Char :=
  (cs.takeWhile (·.isDigit), cs.dropWhile (·.isDigit))

def numberOf (ds : List Char) : Int := ds.foldl (fun n d => n * 10 + (d.toNat - 48 : Nat)) 0

def isN (c : Char) : Bool := c == 'n' || c == 'N'

/-- What is added to the steps: a sign and a number. -/
def offset? (cs : List Char) : Read Int :=
  let signed (sign : Int) (rest : List Char) : Read Int :=
    match digits (skip rest) with
    | ([], _) => none
    | (ds, rest) => some (sign * numberOf ds, rest)
  match skip cs with
  | '+' :: rest => signed 1 rest
  | '-' :: rest => signed (-1) rest
  | _ => none

/-- A step and an offset, and whether there is more than one place. -/
def steps? (cs : List Char) : Read (Int × Int × Bool) :=
  let (sign, body) : Int × List Char := match cs with
    | '-' :: rest => (-1, rest)
    | '+' :: rest => (1, rest)
    | cs => (1, cs)
  let (ds, rest) := digits body
  match rest with
  | c :: after =>
    if isN c then
      let step := if ds.isEmpty then sign else sign * numberOf ds
      match offset? after with
      | some (b, rest) => some ((step, b, true), rest)
      | none => some ((step, 0, true), after)
    else if ds.isEmpty then none
    else some ((sign * numberOf ds, 0, false), rest)
  | [] => if ds.isEmpty then none else some ((sign * numberOf ds, 0, false), rest)

/-- A word without regard to case. -/
def word? (w : String) (cs : List Char) : Option (List Char) :=
  if (cs.take w.length).map Char.toLower = w.toList then some (cs.drop w.length) else none

/-- The places that are asked for: the even or odd ones, or those of a step and an offset. -/
def places? (cs : List Char) : Read (Int × Int × Bool) :=
  match steps? cs with
  | some r => some r
  | none =>
    match word? "even" cs, word? "odd" cs with
    | some rest, _ => some ((2, 0, true), rest)
    | none, some rest => some ((2, 1, true), rest)
    | none, none => none

/-! ### Attributes -/

/-- A namespace in front of a name: up to a bar. -/
def space? (cs : List Char) : Read String :=
  match cs with
  | '|' :: rest => some ("", rest)
  | '*' :: '|' :: rest => some ("*", rest)
  | cs =>
    match name? cs with
    | some (s, '|' :: rest) => some (String.ofList s, rest)
    | _ => none

/-- The parts of a condition on an attribute. -/
structure AttrText where
  name : List Char
  operator : String
  value : List Char
  caseMark : Option Char

def operator? (cs : List Char) : Read String :=
  match cs with
  | '=' :: rest => some ("=", rest)
  | c :: '=' :: rest => if "!~^|*$".contains c then some (c.toString ++ "=", rest) else none
  | _ => none

/-- The bracket that ends a condition on an attribute. -/
def closed? (cs : List Char) : Option (List Char) :=
  match skip cs with
  | ']' :: rest => some rest
  | _ => none

/-- A condition on an attribute, from its bracket on. -/
def attribute? (cs : List Char) : Read AttrText :=
  match cs with
  | '[' :: rest =>
    let rest := skip rest
    let plain (cs : List Char) : Read AttrText :=
      match name? cs with
      | none => none
      | some (n, rest) =>
        let bare : Read AttrText := (closed? rest).map fun r => (⟨n, "", [], none⟩, r)
        match operator? (skip rest) with
        | none => bare
        | some (op, after) =>
          match value? (skip after) with
          | none => bare
          | some (v, after) =>
            match closed? after with
            | some r => some (⟨n, op, v, none⟩, r)
            | none =>
              match skip after with
              | c :: after =>
                let k := c.toLower
                if k == 'i' || k == 's' then
                  (closed? after).map fun r => (⟨n, op, v, some k⟩, r)
                else none
              | [] => none
    match (space? rest).bind fun (_, r) => plain r with
    | some r => some r
    | none => plain rest
  | _ => none

/-! ### Combinators -/

def isCombinator (c : Char) : Bool := c == ',' || c == '+' || c == '>' || c == '~'

/-- What stands between two compounds: a mark, or a space that no mark follows. -/
def combinator? : Nat → List Char → Read Char
  | 0, _ => none
  | fuel + 1, cs =>
    match cs with
    | [] => none
    | c :: rest =>
      if isCombinator c then some (c, skip rest)
      else
        let (isWhite, afterWhite) : Bool × List Char := match cs with
          | '\r' :: '\n' :: r => (true, r)
          | c :: r => (isSpace c, r)
          | [] => (false, [])
        let barred := match afterWhite with
          | d :: _ => isCombinator d
          | [] => false
        if isWhite && !barred then some (' ', skip afterWhite)
        else if isWhite then combinator? fuel rest
        else match afterComment? cs with
          | some rest => combinator? fuel rest
          | none => none

end SelectorText

end LiveMarkdown.Document
