import LiveMarkdown.Script.Format

/-!
Texts and byte strings with marks that begin with a percent sign. Arguments fill the marks in order;
a mark with a name takes its value from a mapping.
-/

namespace LiveMarkdown.Script

namespace Percent

/-- What is left to fill marks with. -/
structure Given where
  rest : List Value
  /-- The value given alone, if marks can take named values from it. -/
  mapping : Option Value

/-- A mark after its percent sign and name. -/
structure Mark where
  flags : List Char
  width : Int
  precision : Option Int
  kind : Char

/-- What tells texts from byte strings: how the values for text marks are written, and the words of
some errors. -/
structure Style where
  bytes : Bool
  /-- The text of a value for the kinds of marks that show text. -/
  shown : Char → Value → Run (Option String)
  character : Value → Run Char
  key : List Char → Value
  noun : String

def takeArg (g : Given) : Run (Value × Given) :=
  match g.rest with
  | v :: vs => return (v, { g with rest := vs })
  | [] => Run.typeError "not enough arguments for format string"

/-- The name of a mark up to its bracket; inner brackets come in pairs. -/
def keyEnd : Nat → List Char → List Char → Option (List Char × List Char)
  | _, _, [] => none
  | depth, acc, c :: cs =>
    if c = '(' then keyEnd (depth + 1) (c :: acc) cs
    else if c = ')' then
      match depth with
      | 0 => some (acc.reverse, cs)
      | d + 1 => keyEnd d (c :: acc) cs
    else keyEnd depth (c :: acc) cs

/-- Takes the value that the name of a mark selects. -/
def takeKey (m : Machine) (st : Style) (g : Given) (cs : List Char) : Run (Given × List Char) := do
  match cs with
  | '(' :: rest =>
    match g.mapping with
    | none => Run.typeError "format requires a mapping"
    | some d =>
      match keyEnd 0 [] rest with
      | none => Run.valueError "incomplete format key"
      | some (key, rest) => return ({ g with rest := [← Subscript.get m d (st.key key)] }, rest)
  | cs => return (g, cs)

/-- A width or a precision: a number, or a star that takes an argument. -/
def takeSize (noun : String) (limit : Nat) (g : Given) (cs : List Char) :
    Run (Option Int × Given × List Char) := do
  match cs with
  | '*' :: cs =>
    let (v, g) ← takeArg g
    match ← Kind.core v with
    | .int n =>
      if n < -(limit : Int) || (limit : Int) < n then
        Run.raise "OverflowError" (if noun == "width" then
          "Python int too large to convert to C ssize_t" else "Python int too large to convert to C int")
      return (some n, g, cs)
    | .bool b => return (some (if b then 1 else 0), g, cs)
    | _ => Run.typeError "* wants int"
  | cs =>
    match Spec.takeNumber cs with
    | (some n, cs) =>
      if limit < n then Run.valueError (noun ++ " too big")
      return (some n, g, cs)
    | (none, cs) => return (none, g, cs)

/-- Reads a mark after its name. -/
def readMark (g : Given) (cs : List Char) : Run (Mark × Given × List Char) := do
  let flags := cs.takeWhile fun c => "-+ #0".toList.contains c
  let (width, g, cs) ← takeSize "width" Spec.numberLimit g (cs.drop flags.length)
  let (precision, g, cs) ← match cs with
    | '.' :: cs =>
      let (p, g, cs) ← takeSize "precision" 2147483647 g cs
      pure (some (max 0 (p.getD 0)), g, cs)
    | cs => pure (none, g, cs)
  let cs := match cs with
    | c :: rest => if c = 'l' ∨ c = 'h' ∨ c = 'L' then rest else cs
    | [] => []
  match cs with
  | [] => Run.valueError "incomplete format"
  | kind :: cs => return (⟨flags, width.getD 0, precision, kind⟩, g, cs)

/-- A number for the marks that show integers. Marks in other bases take no fractions. -/
def integer (m : Machine) (v : Value) (kind : Char) : Run Int := do
  let wanted := if "oxX".toList.contains kind then "an integer" else "a real number"
  let refuse : Run Int := do
    Run.typeError s!"%{kind} format: {wanted} is required, not {← Kind.name v}"
  let whole ← Subscript.index? m v
  match whole, "oxX".toList.contains kind with
  | some n, _ => return n
  | none, true => refuse
  | none, false =>
    if (← Kind.special? v "__int__").isSome then return ← m.call (.type "int") [v] >>= fun r =>
      match r with
      | .int n => return n
      | _ => refuse
    match ← Kind.core v with
    | .float x =>
      if Number.isNaN x then Run.valueError "cannot convert float NaN to integer"
      if Number.isInfinite x then
        Run.raise "OverflowError" "cannot convert float infinity to integer"
      return Number.truncate x
    | .fraction n d => return Int.tdiv n d
    | .decimal d =>
      match d with
      | .notANumber .. => Run.valueError "cannot convert NaN to integer"
      | .infinite _ => Run.raise "OverflowError" "cannot convert Infinity to integer"
      | d => return (d.truncate?).getD 0
    | _ => refuse

/-- A number for the marks that show fractions. -/
def real (m : Machine) (st : Style) (v : Value) : Run Float := do
  let refuse : Run Float := do
    let cls ← Kind.name v
    Run.typeError (if st.bytes then s!"float argument required, not {cls}"
      else s!"must be real number, not {cls}")
  let viaClass : Run Float := do
    match ← m.call (.type "float") [v] with
    | .float x => return x
    | _ => refuse
  if (← Kind.special? v "__float__").isSome then return ← viaClass
  match ← Kind.core v with
  | .float _ | .fraction .. | .decimal _ => viaClass
  | _ =>
    match ← Subscript.index? m v with
    | some n => Arithmetic.toFloat n
    | none => refuse

/-- The specification that a mark amounts to. -/
def specOf (k : Mark) : Spec :=
  let left := k.flags.contains '-' || k.width < 0
  { fill := if k.flags.contains '0' && !left then '0' else ' '
    align := some (if left then '<' else if k.flags.contains '0' then '=' else '>')
    sign := if k.flags.contains '+' then some '+' else if k.flags.contains ' ' then some ' '
      else none
    positiveZero := false
    alternate := k.flags.contains '#'
    width := some k.width.natAbs
    grouping := none
    precision := none
    kind := none }

/-- A value written for a mark. `place` is where the mark ends in the text. -/
def writeMark (m : Machine) (st : Style) (k : Mark) (place : Nat) (v : Value) : Run String := do
  let spec := specOf k
  let aligned (s : String) : String :=
    { spec with fill := ' ', align := some (if spec.align == some '<' then '<' else '>') }.pad '>' s
  match ← st.shown k.kind v with
  | some s =>
    return aligned (match k.precision with
      | some n => String.ofList (s.toList.take n.toNat)
      | none => s)
  | none =>
    match k.kind with
    | 'c' => return aligned (← st.character v).toString
    | 'd' | 'i' | 'u' | 'x' | 'X' | 'o' =>
      let n ← integer m v (if st.bytes && k.kind = 'i' then 'd' else k.kind)
      let (mark, ds) := match k.kind with
        | 'x' => ("0x", Format.digitsIn 16 n.natAbs)
        | 'X' => ("0X", (Format.digitsIn 16 n.natAbs).map Char.toUpper)
        | 'o' => ("0o", Format.digitsIn 8 n.natAbs)
        | _ => ("", Format.digitsIn 10 n.natAbs)
      let ds := List.replicate ((k.precision.getD 0).toNat - ds.length) '0' ++ ds
      return spec.number (decide (n < 0)) (if spec.alternate then mark else "") ds "" 3
    | 'e' | 'E' | 'f' | 'F' | 'g' | 'G' =>
      let x ← real m st v
      Format.float { spec with kind := some k.kind, precision := k.precision.map Int.toNat } "float" x
    | c =>
      let shown := if 31 ≤ c.toNat && c.toNat ≤ 126 then c else '?'
      Run.valueError s!"unsupported format character '{shown}' (0x{String.ofList (Format.digitsIn 16 c.toNat)}) at index {place}"

/-- Fills the marks of a text. The fuel bounds their number. -/
def fill (m : Machine) (st : Style) (size : Nat) : Nat → Given → List Char → Run String
  | 0, _, _ => return ""
  | fuel + 1, g, cs => do
    let before := cs.takeWhile (· ≠ '%')
    match cs.drop before.length with
    | [] =>
      if !g.rest.isEmpty && g.mapping.isNone then
        Run.typeError s!"not all arguments converted during {st.noun} formatting"
      return String.ofList before
    | _ :: '%' :: rest => return String.ofList before ++ "%" ++ (← fill m st size fuel g rest)
    | _ :: rest =>
      let (g, rest) ← takeKey m st g rest
      let (k, g, rest) ← readMark g rest
      let (v, g) ← takeArg g
      let s ← writeMark m st k (size - rest.length - 1) v
      return String.ofList before ++ s ++ (← fill m st size fuel g rest)

/-- Whether a value given alone may serve as a mapping. -/
def isMapping (st : Style) (v : Value) : Run Bool := do
  match ← Kind.core v with
  | .str _ | .tuple _ => return false
  | .bytes _ => return !st.bytes
  | .range .. => return true
  | .node n => return (← Run.forest).isTag n || (← Run.forest).isRoot n
  | c =>
    match ← Run.deref c with
    | some (.dict _) | some (.list _) | some (.userList _) | some (.userText _) | some (.memory _)
    | some (.alias ..) | some (.union _) | some (.proxy _) => return true
    | some (.byteArray _) => return !st.bytes
    | some (.instance ..) => return (← Kind.special? v "__getitem__").isSome
    | _ => return false

/-- A character for a mark in a text. -/
def character (m : Machine) (v : Value) : Run Char := do
  let refuse : Run Char := Run.typeError "%c requires int or char"
  match ← Kind.basic v with
  | .str s =>
    match s.toList with
    | [c] => return c
    | _ => refuse
  | _ =>
    match ← Subscript.index? m v with
    | some n =>
      if n < -Int.pow 2 63 || Int.pow 2 63 ≤ n then return ← refuse
      if n < 0 || 0x10ffff < n then
        Run.raise "OverflowError" "%c arg not in range(0x110000)"
      return Text.ofPoint n.toNat
    | none => refuse

def textStyle (m : Machine) : Style where
  bytes := false
  shown kind v := do
    match kind with
    | 's' => return some (← m.text v)
    | 'r' => return some (← m.shown v)
    | 'a' => return some (Format.asciiText (← m.shown v))
    | _ => return none
  character := character m
  key cs := .str (String.ofList cs)
  noun := "string"

def charsOfBytes (bs : List UInt8) : String := String.ofList (bs.map fun b => Char.ofNat b.toNat)

/-- The bytes of a value in a byte string, as characters. -/
def bytesShown (m : Machine) (v : Value) : Run String := do
  match ← Kind.core v with
  | .bytes bs => return charsOfBytes bs
  | c =>
    match ← Run.bytes? c with
    | some bs => return charsOfBytes bs
    | none =>
      match ← Kind.special? v "__bytes__" with
      | some f =>
        match ← m.call f [] with
        | .bytes bs => return charsOfBytes bs
        | r => Run.typeError s!"__bytes__ returned non-bytes (type {← Kind.name r})"
      | none =>
        Run.typeError (s!"%b requires a bytes-like object, or an object that implements __bytes__, " ++
          s!"not '{← Kind.name v}'")

/-- A character for a mark in a byte string. -/
def byteCharacter (m : Machine) (v : Value) : Run Char := do
  let refuse : Run Char :=
    Run.typeError "%c requires an integer in range(256) or a single byte"
  match ← Kind.core v, ← Run.deref (← Kind.core v) with
  | .bytes [b], _ | _, some (.byteArray [b]) => return Char.ofNat b.toNat
  | .bytes _, _ | _, some (.byteArray _) => refuse
  | .float _, _ => refuse
  | _, _ =>
    match ← Subscript.index? m v with
    | some n =>
      if n < 0 || 255 < n then Run.raise "OverflowError" "%c arg not in range(256)"
      return Char.ofNat n.toNat
    | none => refuse

def bytesStyle (m : Machine) : Style where
  bytes := true
  shown kind v := do
    match kind with
    | 's' | 'b' => return some (← bytesShown m v)
    | 'r' | 'a' => return some (Format.asciiText (← m.shown v))
    | _ => return none
  character := byteCharacter m
  key cs := .bytes (cs.map fun c => UInt8.ofNat c.toNat)
  noun := "bytes"

def given (st : Style) (arg : Value) : Run Given := do
  match ← Kind.core arg with
  | .tuple vs => return ⟨vs, none⟩
  | _ => return ⟨[arg], if ← isMapping st arg then some arg else none⟩

/-- A text with its marks filled in. -/
def text (m : Machine) (s : String) (arg : Value) : Run String := do
  let st := textStyle m
  fill m st s.length (s.length + 1) (← given st arg) s.toList

/-- A byte string with its marks filled in. -/
def bytes (m : Machine) (bs : List UInt8) (arg : Value) : Run (List UInt8) := do
  let st := bytesStyle m
  let s ← fill m st bs.length (bs.length + 1) (← given st arg) (charsOfBytes bs).toList
  return s.toList.map fun c => UInt8.ofNat c.toNat

end Percent

end LiveMarkdown.Script
