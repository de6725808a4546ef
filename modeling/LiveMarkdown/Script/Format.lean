import LiveMarkdown.Script.Day
import LiveMarkdown.Script.Subscript

/-!
Values written to a given form: fill, alignment, sign, width, grouping, precision and the kind of
presentation, as a specification asks for them.
-/

namespace LiveMarkdown.Script

/-- How a value is to be written. -/
structure Spec where
  fill : Char
  /-- Whether the specification gives an alignment itself. -/
  align : Option Char
  sign : Option Char
  positiveZero : Bool
  alternate : Bool
  width : Option Nat
  grouping : Option Char
  precision : Option Nat
  kind : Option Char

namespace Spec

def isDigit (c : Char) : Bool := '0' ≤ c && c ≤ '9'

def isAlign (c : Char) : Bool := c == '<' || c == '>' || c == '^' || c == '='

/-- The greatest number that a specification may hold. -/
def numberLimit : Nat := 9223372036854775807

def takeNumber (cs : List Char) : Option Nat × List Char :=
  let ds := cs.takeWhile isDigit
  if ds = [] then (none, cs)
  else (some (ds.foldl (fun n c => n * 10 + (c.toNat - 48)) 0), cs.drop ds.length)

def takeAlign : List Char → Option Char × Option Char × List Char
  | f :: a :: rest =>
    if isAlign a then (some f, some a, rest)
    else if isAlign f then (none, some f, a :: rest)
    else (none, none, f :: a :: rest)
  | [a] => if isAlign a then (none, some a, []) else (none, none, [a])
  | [] => (none, none, [])

def takeIf (p : Char → Bool) : List Char → Option Char × List Char
  | c :: rest => if p c then (some c, rest) else (none, c :: rest)
  | [] => (none, [])

/-- A character in a message; one that cannot be shown stands as its number. -/
def shownChar (c : Char) : String :=
  if 32 < c.toNat && c.toNat < 128 then c.toString
  else "\\x" ++ String.ofList (Nat.toDigits 16 c.toNat)

/-- The kinds whose digits can be grouped in threes. -/
def groupedKinds : List Char := "defgEG%F".toList

/-- Reads a specification for a value of a class. `zeroAlign` is the alignment that a leading zero asks
for, and `usual` the kind that is meant if none is given. -/
def read (cls : String) (zeroAlign : Char) (usual : Option Char) (s : String) :
    Except String Spec := do
  let tooLong := "Too many decimal digits in format string"
  let (fill, align, cs) := takeAlign s.toList
  let (sign, cs) := takeIf (fun c => c == '+' || c == '-' || c == ' ') cs
  let (z, cs) := takeIf (· == 'z') cs
  let (alternate, cs) := takeIf (· == '#') cs
  let (zero, cs) := if fill.isNone then takeIf (· == '0') cs else (none, cs)
  let (width, cs) := takeNumber cs
  if numberLimit < width.getD 0 then throw tooLong
  let (comma, cs) := takeIf (· == ',') cs
  let (under, cs) := takeIf (· == '_') cs
  let both := "Cannot specify both ',' and '_'."
  if comma.isSome && under.isSome then throw both
  if under.isSome && cs.head? == some ',' then throw both
  let (point, cs) := takeIf (· == '.') cs
  let (precision, cs) := if point.isSome then takeNumber cs else (none, cs)
  if numberLimit < precision.getD 0 then throw tooLong
  if point.isSome && precision.isNone then throw "Format specifier missing precision"
  if 1 < cs.length then
    throw s!"Invalid format specifier '{s}' for object of type '{cls}'"
  let kind := cs.head?.orElse fun _ => usual
  let grouping := comma.orElse fun _ => under
  match grouping, kind with
  | some g, some k =>
    if !(groupedKinds.contains k || (g == '_' && "boxX".toList.contains k)) then
      throw s!"Cannot specify '{g}' with '{shownChar k}'."
  | _, _ => pure ()
  return {
    fill := fill.getD (if zero.isSome then '0' else ' ')
    align := align.orElse fun _ => if zero.isSome then some zeroAlign else none
    sign
    positiveZero := z.isSome
    alternate := alternate.isSome
    width
    grouping
    precision
    kind }

/-- Fills a text up to the width. -/
def pad (p : Spec) (alignDefault : Char) (s : String) : String :=
  let missing := p.width.getD 0 - s.length
  let fill (n : Nat) : String := String.ofList (List.replicate n p.fill)
  match p.align.getD alignDefault with
  | '>' => fill missing ++ s
  | '=' => fill missing ++ s
  | '^' => fill (missing / 2) ++ s ++ fill (missing - missing / 2)
  | _ => s ++ fill missing

/-- Digits in groups of a size, counted from the right. -/
def group (sep : Char) (size : Nat) (ds : List Char) : List Char :=
  (ds.reverse.zipIdx.flatMap fun (c, i) => if i ≠ 0 ∧ i % size = 0 then [sep, c] else [c]).reverse

/-- Digits in groups, with so many leading zeros that they fill a width. -/
def groupFilled (sep : Char) (size width : Nat) : Nat → List Char → List Char
  | 0, ds => group sep size ds
  | fuel + 1, ds =>
    let g := group sep size ds
    if g.length < width then groupFilled sep size width fuel ('0' :: ds) else g

/-- The sign of a number as a specification asks for it. -/
def signText (p : Spec) (negative : Bool) : String :=
  if negative then "-" else match p.sign with
    | some '+' => "+"
    | some ' ' => " "
    | _ => ""

/-- A number from its sign, mark, whole part and the rest, filled up to the width. -/
def number (p : Spec) (negative : Bool) (mark : String) (whole : List Char) (rest : String)
    (size : Nat) : String :=
  let head := p.signText negative ++ mark
  let inner := p.align == some '='
  let width := p.width.getD 0
  let whole := match p.grouping with
    | some g =>
      if whole = [] then []
      else if inner && p.fill == '0' then
        groupFilled g size (width - head.length - rest.length) width whole
      else group g size whole
    | none => whole
  let body := String.ofList whole ++ rest
  if inner then
    head ++ String.ofList (List.replicate (width - head.length - body.length) p.fill) ++ body
  else p.pad '>' (head ++ body)

end Spec

namespace Format

def digitsIn (base n : Nat) : List Char := Nat.toDigits base n

def upperText (s : String) : String := s.map Char.toUpper

def unknownCode {α : Type} (kind : Char) (cls : String) : Run α :=
  Run.valueError s!"Unknown format code '{Spec.shownChar kind}' for object of type '{cls}'"

/-- A text in a form. -/
def text (cls : String) (p : Spec) (s : String) : Run String := do
  match p.kind with
  | some c => if c ≠ 's' then unknownCode c cls
  | none => pure ()
  match p.sign with
  | some ' ' => Run.valueError "Space not allowed in string format specifier"
  | some _ => Run.valueError "Sign not allowed in string format specifier"
  | none => pure ()
  if p.positiveZero then
    Run.valueError "Negative zero coercion (z) not allowed in string format specifier"
  if p.alternate then
    Run.valueError "Alternate form (#) not allowed in string format specifier"
  if p.align == some '=' then
    Run.valueError "'=' alignment not allowed in string format specifier"
  let s := match p.precision with
    | some n => String.ofList (s.toList.take n)
    | none => s
  return p.pad '<' s

/-- Splits the text of a number at its point or exponent. -/
def splitNumber (s : String) : List Char × String :=
  let whole := s.toList.takeWhile Spec.isDigit
  (whole, String.ofList (s.toList.drop whole.length))

/-- A point after the whole part of a number that has none. -/
def withPoint (s : String) : String :=
  let (whole, rest) := splitNumber s
  if whole = [] ∨ rest.toList.head? = some '.' then s else String.ofList whole ++ "." ++ rest

/-- The digits of a binary fraction for a kind of presentation; whole numbers end in `.0` if that is
asked for. -/
def magnitude (kind : Option Char) (precision : Option Nat) (alternate markWhole : Bool) (x : Float) :
    String :=
  if Number.isNaN x then "nan"
  else if Number.isInfinite x then "inf"
  else
    let b := Number.Binary.ofFloat x
    let places := precision.getD 6
    let s := match kind with
      | some 'e' | some 'E' => Number.scientificMagnitude b places
      | some 'f' | some 'F' => Number.fixedMagnitude b places
      | some 'g' | some 'G' | some 'n' => Number.generalMagnitude b places alternate false
      | some _ => Number.fixedMagnitude (Number.Binary.ofFloat (x * 100)) places
      | none =>
        match precision with
        | none => Number.showMagnitude b markWhole
        | some n => Number.generalMagnitude b n alternate markWhole
    if alternate then withPoint s else s

/-- Whether a number is shown without any digit other than zero. -/
def showsZero (s : String) : Bool :=
  (s.toList.takeWhile fun c => c ≠ 'e' && c ≠ 'E').all fun c => c == '0' || c == '.'

def isUpperKind (kind : Option Char) : Bool := kind == some 'E' || kind == some 'F' || kind == some 'G'

/-- The sign and the digits of a binary fraction in a form. -/
def signedMagnitude (p : Spec) (markWhole : Bool) (x : Float) : Bool × String :=
  let body := magnitude p.kind p.precision p.alternate markWhole x
  let negative := Number.isNegative x && !Number.isNaN x && !(p.positiveZero && showsZero body)
  (negative, if isUpperKind p.kind then upperText body else body)

def checkPrecision (p : Spec) : Run Unit := do
  if 2147483647 < p.precision.getD 0 then Run.valueError "precision too big"

/-- A binary fraction in a form. -/
def float (p : Spec) (cls : String) (x : Float) : Run String := do
  match p.kind with
  | some c => if !("eEfFgGn%".toList.contains c) then unknownCode c cls
  | none => pure ()
  checkPrecision p
  let (negative, body) := signedMagnitude p true x
  let (whole, rest) := splitNumber body
  let rest := if p.kind == some '%' then rest ++ "%" else rest
  return p.number negative "" whole rest 3

/-- A complex number in a form: both parts in the form, and the filling around them. -/
def complex (p : Spec) (re im : Float) : Run String := do
  match p.kind with
  | some c => if !("eEfFgGn".toList.contains c) then unknownCode c "complex"
  | none => pure ()
  checkPrecision p
  if p.fill == '0' then Run.valueError "Zero padding is not allowed in complex format specifier"
  if p.align == some '=' then
    Run.valueError "'=' alignment flag is not allowed in complex format specifier"
  let part (p : Spec) (x : Float) : String :=
    let (negative, body) := signedMagnitude p false x
    let (whole, rest) := splitNumber body
    { p with width := none, align := some '<' }.number negative "" whole rest 3
  let alone := p.kind.isNone && re == 0 && !Number.isNegative re
  let inner :=
    if alone then part p im ++ "j"
    else part p re ++ part { p with sign := some '+' } im ++ "j"
  return p.pad '>' (if p.kind.isNone && !alone then "(" ++ inner ++ ")" else inner)

/-- An integer in a form. -/
def int (cls : String) (p : Spec) (n : Int) : Run String := do
  let kind := p.kind.getD 'd'
  if "eEfFgG%".toList.contains kind then return ← float p cls (← Arithmetic.toFloat n)
  if !("bcdoxXn".toList.contains kind) then unknownCode kind cls
  if p.precision.isSome then
    Run.valueError "Precision not allowed in integer format specifier"
  if p.positiveZero then
    Run.valueError "Negative zero coercion (z) not allowed in integer format specifier"
  if kind == 'c' then
    if p.sign.isSome then Run.valueError "Sign not allowed with integer format specifier 'c'"
    if p.alternate then
      Run.valueError "Alternate form (#) not allowed with integer format specifier 'c'"
    if n < -Int.pow 2 63 || Int.pow 2 63 ≤ n then
      Run.raise "OverflowError" "Python int too large to convert to C long"
    if n < 0 || 0x10ffff < n then
      Run.raise "OverflowError" "%c arg not in range(0x110000)"
    return { p with grouping := none }.number false "" [] (Text.ofPoint n.toNat).toString 3
  let (mark, ds, size) := match kind with
    | 'b' => ("0b", digitsIn 2 n.natAbs, 4)
    | 'o' => ("0o", digitsIn 8 n.natAbs, 4)
    | 'x' => ("0x", digitsIn 16 n.natAbs, 4)
    | 'X' => ("0X", (digitsIn 16 n.natAbs).map Char.toUpper, 4)
    | _ => ("", digitsIn 10 n.natAbs, 3)
  return p.number (decide (n < 0)) (if p.alternate then mark else "") ds "" size

/-! ### Decimal numbers -/

/-- A decimal number cut to the digits that a kind of presentation shows, and the place of the point
among them. -/
def scaledDigits (kind : Char) (precision : Option Nat) (negative : Bool) (c : Nat) (e : Int) :
    Nat × Int × Int :=
  let ofResult : Number.Scaled → Nat × Int
    | .finite _ c e => (c, e)
    | _ => (c, e)
  let small := kind.toLower
  let e := if kind == '%' then e + 2 else e
  let (c, e) := match small, precision with
    | 'e', some n => ofResult (Number.Scaled.roundTo (n + 1) negative c e)
    | 'f', some n | '%', some n =>
      (Number.Scaled.rescaled .halfEven negative c e (-(n : Int)), -(n : Int))
    | 'g', some n =>
      if max n 1 < Number.Scaled.digitCount c then
        ofResult (Number.Scaled.roundTo (max n 1) negative c e)
      else (c, e)
    | _, _ => (c, e)
  let (c, e) := if c = 0 ∧ 0 < e ∧ (small == 'f' || small == '%') then (0, 0) else (c, e)
  let left : Int := Number.Scaled.digitCount c + e
  let point : Int := match small with
    | 'e' => if c = 0 then (match precision with
        | some n => 1 - (n : Int)
        | none => 1) else 1
    | 'g' => if e ≤ 0 ∧ -6 < left then left else 1
    | _ => left
  (c, left, point)

/-- A decimal number in a form. -/
def scaled (p : Spec) (d : Number.Scaled) : Run String := do
  let bad : Run String := Run.valueError "invalid format string"
  let kind := match p.kind with
    | some 'n' => 'g'
    | some k => k
    | none => 'G'
  if !("eEfFgG%".toList.contains kind) then return ← bad
  match d with
  | .finite s c e =>
    let (c, left, point) := scaledDigits kind p.precision s c e
    let (whole, part) := Number.positional (Number.digitsOf c) point
    let k := left - point
    let isE := kind == 'e' || kind == 'E'
    let rest := (if part = [] then (if p.alternate then "." else "") else
        "." ++ String.ofList part) ++
      (if k = 0 ∧ !isE then "" else
        (if kind.isUpper then "E" else "e") ++ (if k < 0 then "-" else "+") ++
          String.ofList (Number.digitsOf k.natAbs)) ++
      (if kind == '%' then "%" else "")
    return p.number (s && !(p.positiveZero && c == 0)) "" whole rest 3
  | d =>
    let body := (d.withSign false).text ++ (if kind == '%' then "%" else "")
    let p := if p.fill == '0' then { p with fill := ' ' } else p
    return p.number d.isNegative "" [] body 3

/-! ### All values -/

/-- A value in the form that a specification asks for. -/
def value (m : Machine) (v : Value) (spec : String) : Run String := do
  match ← Kind.special? v "__format__" with
  | some f =>
    match ← m.call f [.str spec] with
    | .str s => return s
    | r => Run.typeError s!"__format__ must return a str, not {← Kind.name r}"
  | none =>
    if spec == "" then return ← m.text v
    let cls ← Kind.name v
    let read (zeroAlign : Char) (usual : Option Char) : Run Spec := do
      match Spec.read cls zeroAlign usual spec with
      | .ok p => return p
      | .error e => Run.valueError e
    match ← Kind.basic v with
    | .str s => text cls (← read '<' (some 's')) s
    | .int n => int cls (← read '=' (some 'd')) n
    | .bool b => int cls (← read '=' (some 'd')) (if b then 1 else 0)
    | .float x => float (← read '=' none) cls x
    | .complex a b => complex (← read '=' none) a b
    | .decimal d =>
      match Spec.read cls '=' none spec with
      | .ok p => scaled p d
      | .error _ => Run.valueError "invalid format string"
    | .date y mo d => return Day.pattern { year := y, month := mo, day := d } spec.toList
    | .moment t => return Day.pattern (.ofMoment t) spec.toList
    | _ => Run.typeError s!"unsupported format string passed to {cls}.__format__"

/-- A text in which characters beyond ASCII stand as their numbers. -/
def asciiText (s : String) : String :=
  String.ofList (s.toList.flatMap fun c =>
    let n := c.toNat
    if n < 0x80 then [c]
    else if n < 0x100 then ['\\', 'x'] ++ Text.hexDigits 2 n
    else if n < 0x10000 then ['\\', 'u'] ++ Text.hexDigits 4 n
    else ['\\', 'U'] ++ Text.hexDigits 8 n)

/-- A value in a chosen form before it is formatted. -/
def converted (m : Machine) (v : Value) (conversion : Char) : Run Value := do
  match conversion with
  | 'r' => return .str (← m.shown v)
  | 'a' => return .str (asciiText (← m.shown v))
  | _ => return .str (← m.text v)

end Format

end LiveMarkdown.Script
