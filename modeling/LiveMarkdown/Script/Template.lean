import LiveMarkdown.Script.Format

/-!
Texts with fields in braces. A field names a value, may say how the value is shown first, and may have
a specification, which can hold fields itself.
-/

namespace LiveMarkdown.Script

namespace Template

/-- The values that fields can name: arguments in order, if there can be any, and a look-up by name. -/
structure Source where
  args : Option (List Value)
  byName : String → Run Value

/-- How the fields number the arguments: by themselves, or in order; and the number of the next one. -/
structure Counter where
  automatic : Option Bool
  next : Nat

/-- A piece of a template: plain text, or a field with a name, a conversion and a specification. -/
inductive Piece where
  | plain (s : List Char)
  | field (name : List Char) (conversion : Option Char) (spec : List Char)

/-- The name of a field and what follows it. In brackets no mark ends the name. -/
def fieldName : Bool → List Char → List Char → Except String (List Char × List Char)
  | _, _, [] => .error "expected '\x7d' before end of string"
  | bracket, acc, c :: cs =>
    if bracket then fieldName (c ≠ ']') (c :: acc) cs
    else if c = '[' then fieldName true (c :: acc) cs
    else if c = '\x7b' then .error "unexpected '\x7b' in field name"
    else if c = '!' ∨ c = ':' ∨ c = '\x7d' then .ok (acc.reverse, c :: cs)
    else fieldName false (c :: acc) cs

/-- The specification of a field up to its end; inner braces come in pairs. -/
def fieldSpec : Nat → List Char → List Char → Except String (List Char × List Char)
  | _, _, [] => .error "unmatched '\x7b' in format spec"
  | depth, acc, c :: cs =>
    if c = '\x7b' then fieldSpec (depth + 1) (c :: acc) cs
    else if c = '\x7d' then
      match depth with
      | 0 => .ok (acc.reverse, cs)
      | d + 1 => fieldSpec d (c :: acc) cs
    else fieldSpec depth (c :: acc) cs

/-- Reads a field after its brace, and gives the rest. -/
def readField (cs : List Char) : Except String (Piece × List Char) := do
  let (name, rest) ← fieldName false [] cs
  match rest with
  | ':' :: rest =>
    let (spec, rest) ← fieldSpec 0 [] rest
    return (.field name none spec, rest)
  | '!' :: rest =>
    match rest with
    | [] => throw "end of string while looking for conversion specifier"
    | [_] => throw "unmatched '\x7b' in format spec"
    | c :: '\x7d' :: rest => return (.field name (some c) [], rest)
    | c :: ':' :: rest =>
      let (spec, rest) ← fieldSpec 0 [] rest
      return (.field name (some c) spec, rest)
    | _ => throw "expected ':' after conversion specifier"
  | _ :: rest => return (.field name none [], rest)
  | [] => throw "expected '\x7d' before end of string"

/-- Reads the first piece of a template, and gives the rest. -/
def readPiece (cs : List Char) : Except String (Piece × List Char) := do
  let isBrace (c : Char) : Bool := c == '\x7b' || c == '\x7d'
  let before := cs.takeWhile fun c => !isBrace c
  match cs.drop before.length with
  | [] => return (.plain before, [])
  | '\x7b' :: '\x7b' :: rest => return (.plain (before ++ ['\x7b']), rest)
  | '\x7d' :: '\x7d' :: rest => return (.plain (before ++ ['\x7d']), rest)
  | '\x7b' :: [] => throw "Single '\x7b' encountered in format string"
  | '\x7b' :: rest => if before = [] then readField rest else return (.plain before, '\x7b' :: rest)
  | _ => throw "Single '\x7d' encountered in format string"

/-- A number of an argument or of an item. -/
def number? (cs : List Char) : Run (Option Nat) := do
  let ds := cs.filterMap Text.decimalValue?
  if cs = [] ∨ ds.length ≠ cs.length then return none
  let n := ds.foldl (fun n d => n * 10 + d) 0
  if Spec.numberLimit < n then Run.valueError "Too many decimal digits in format string"
  return some n

def isPartStart (c : Char) : Bool := c == '.' || c == '['

/-- The value that a field begins with: an argument by its number, its name, or its turn. -/
def firstOf (src : Source) (st : Counter) (name : List Char) : Run (Value × Counter) := do
  let positional (i : Nat) : Run Value :=
    match src.args with
    | none => Run.valueError "Format string contains positional fields"
    | some args =>
      match args[i]? with
      | some v => return v
      | none =>
        Run.raise "IndexError"
          s!"Replacement index {i} out of range for positional args tuple"
  if name = [] then
    if st.automatic == some false then
      Run.valueError
        "cannot switch from manual field specification to automatic field numbering"
    return (← positional st.next, ⟨some true, st.next + 1⟩)
  match ← number? name with
  | some i =>
    if st.automatic == some true then
      Run.valueError
        "cannot switch from automatic field numbering to manual field specification"
    return (← positional i, { st with automatic := some false })
  | none => return (← src.byName (String.ofList name), st)

/-- Follows the attributes and indices after the first part of a field name. The fuel bounds their
number. -/
def follow (m : Machine) : Nat → Value → List Char → Run Value
  | 0, v, _ => return v
  | _, v, [] => return v
  | fuel + 1, v, '.' :: cs => do
    let name := cs.takeWhile fun c => !isPartStart c
    if name = [] then Run.valueError "Empty attribute in format string"
    follow m fuel (← m.attr v (String.ofList name)) (cs.drop name.length)
  | fuel + 1, v, '[' :: cs => do
    let key := cs.takeWhile (· ≠ ']')
    if key.length = cs.length then Run.valueError "Missing ']' in format string"
    let k : Value := match ← number? key with
      | some n => .int n
      | none => .str (String.ofList key)
    if key = [] then Run.valueError "Empty attribute in format string"
    follow m fuel (← Subscript.get m v k) (cs.drop (key.length + 1))
  | _ + 1, _, _ => Run.valueError "Only '.' or '[' may follow ']' in format field specifier"

def badConversion {α : Type} (c : Char) : Run α :=
  Run.valueError (if 32 < c.toNat && c.toNat < 127 then s!"Unknown conversion specifier {c}"
    else "Unknown conversion specifier \\x" ++ String.ofList (Nat.toDigits 16 c.toNat))

/-- Fills in the fields of a template. The depth bounds fields inside specifications; the fuel bounds
the pieces. -/
def fill (m : Machine) (src : Source) : Nat → Nat → Counter → List Char → Run (String × Counter)
  | 0, _, _, _ => Run.valueError "Max string recursion exceeded"
  | _, 0, st, _ => return ("", st)
  | _, _, st, [] => return ("", st)
  | depth + 1, fuel + 1, st, cs => do
    match readPiece cs with
    | .error e => Run.valueError e
    | .ok (.plain s, rest) =>
      let (more, st) ← fill m src (depth + 1) fuel st rest
      return (String.ofList s ++ more, st)
    | .ok (.field name conversion spec, rest) =>
      let head := name.takeWhile fun c => !isPartStart c
      let (v, st) ← firstOf src st head
      let v ← follow m name.length v (name.drop head.length)
      let v ← match conversion with
        | none => pure v
        | some c => if "rsa".toList.contains c then Format.converted m v c else badConversion c
      let (spec, st) ← if spec.contains '\x7b' then fill m src depth spec.length st spec
        else pure (String.ofList spec, st)
      let shown ← Format.value m v spec
      let (more, st) ← fill m src (depth + 1) fuel st rest
      return (shown ++ more, st)

/-- How deep specifications with fields may be inside of each other. -/
def depthLimit : Nat := 2

/-- A template with its fields filled in from arguments. -/
def ofArgs (m : Machine) (s : String) (args : List Value) (names : List (String × Value)) :
    Run String := do
  let byName (key : String) : Run Value := do
    match names.find? fun p => p.1 == key with
    | some (_, v) => return v
    | none => Subscript.keyError (.str key)
  return (← fill m ⟨some args, byName⟩ depthLimit (s.length + 1) ⟨none, 0⟩ s.toList).1

/-- A template with its fields filled in from a mapping. -/
def ofMapping (m : Machine) (s : String) (mapping : Value) : Run String := do
  let byName (key : String) : Run Value := Subscript.get m mapping (.str key)
  return (← fill m ⟨none, byName⟩ depthLimit (s.length + 1) ⟨none, 0⟩ s.toList).1

end Template

end LiveMarkdown.Script
