import LiveMarkdown.Script.Method.Argument
import LiveMarkdown.Text.Alphabet
import LiveMarkdown.Text.Case

/-!
Values turned into numbers.
-/

namespace LiveMarkdown.Script

namespace Convert

/-- The value of a digit in bases up to 36. -/
def digit? (c : Char) : Option Nat :=
  match Text.decimalValue? c with
  | some n => some n
  | none =>
    if 'a' ≤ c ∧ c ≤ 'z' then some (c.toNat - 87)
    else if 'A' ≤ c ∧ c ≤ 'Z' then some (c.toNat - 55)
    else none

/-- Digits with single underscores between them. -/
def digits? (base : Nat) : Bool → List Char → Option (List Nat)
  | between, [] => if between then some [] else none
  | between, c :: cs =>
    if c = '_' then (if between then digits? base false cs else none)
    else match digit? c with
      | some d => if d < base then (digits? base true cs).map (d :: ·) else none
      | none => none

/-- The sign of a text and the rest. -/
def takeSign : List Char → Bool × List Char
  | '-' :: cs => (true, cs)
  | '+' :: cs => (false, cs)
  | cs => (false, cs)

/-- The base that a mark asks for. -/
def markBase? (c : Char) : Option Nat :=
  if c = 'x' ∨ c = 'X' then some 16
  else if c = 'o' ∨ c = 'O' then some 8
  else if c = 'b' ∨ c = 'B' then some 2
  else none

/-- Digits after an optional mark of their base. Base 0 takes the mark's. -/
def unsigned? (base : Nat) (cs : List Char) : Option (List Nat × Nat) :=
  match cs with
  | '0' :: c :: rest =>
    match markBase? c with
    | some b =>
      if base = b ∨ base = 0 then
        let rest := match rest with
          | '_' :: r => r
          | r => r
        (digits? b false rest).map fun ds => (ds, b)
      else (digits? base false cs).map fun ds => (ds, base)
    | none =>
      if base = 0 then
        match digits? 10 false cs with
        | some ds => if ds.all (· == 0) then some (ds, 10) else none
        | none => none
      else (digits? base false cs).map fun ds => (ds, base)
  | cs =>
    let b := if base = 0 then 10 else base
    (digits? b false cs).map fun ds => (ds, b)

/-- An integer from text. -/
def intOfText? (base : Nat) (s : String) : Option (Int × Nat) :=
  let (negative, cs) := takeSign (Text.trim Text.isBlank s.toList)
  (unsigned? base cs).map fun (ds, b) =>
    let n : Nat := ds.foldl (fun n d => n * b + d) 0
    (if negative then -(n : Int) else n, ds.length)

def readInt (base : Nat) (s shown : String) : Run Int := do
  match intOfText? base s with
  | some (n, count) =>
    if Show.digitLimit < count && !([2, 4, 8, 16, 32].contains base) then
      Run.valueError s!"Exceeds the limit ({Show.digitLimit} digits) for integer string conversion: value has {count} digits; use sys.set_int_max_str_digits() to increase the limit"
    return n
  | none => Run.valueError s!"invalid literal for int() with base {base}: {shown}"

def truncateFloat (x : Float) : Run Int := do
  if Number.isNaN x then Run.valueError "cannot convert float NaN to integer"
  if Number.isInfinite x then Run.raise "OverflowError" "cannot convert float infinity to integer"
  return Number.truncate x

/-- A value as an integer. -/
def int (m : Machine) (v : Value) : Run Int := do
  let asked (name : String) : Run (Option Int) := do
    match ← Kind.special? v name with
    | some f =>
      match ← m.call f [] with
      | .int n => return some n
      | .bool b => return some (if b then 1 else 0)
      | r => Run.typeError s!"{name} returned non-int (type {← Kind.name r})"
    | none => return none
  match ← asked "__int__" with
  | some n => return n
  | none =>
    match ← asked "__index__" with
    | some n => return n
    | none =>
      let refuse : Run Int := do
        Run.typeError s!"int() argument must be a string, a bytes-like object or a real number, not '{← Kind.name v}'"
      let ofBytes (bs : List UInt8) : Run Int :=
        readInt 10 (String.ofList (bs.map fun b => Char.ofNat b.toNat)) (Text.quotedBytes bs)
      match ← Kind.basic v with
      | .int n => return n
      | .bool b => return if b then 1 else 0
      | .float x => truncateFloat x
      | .fraction n d => return Int.tdiv n d
      | .decimal d =>
        match d with
        | .notANumber .. => Run.valueError "cannot convert NaN to integer"
        | .infinite _ => Run.raise "OverflowError" "cannot convert Infinity to integer"
        | d => return (d.truncate?).getD 0
      | .str s => readInt 10 s (Text.quoted s)
      | .bytes bs => ofBytes bs
      | .ref r =>
        match ← Run.object? r with
        | some (.byteArray bs) => ofBytes bs
        | some (.memory view) => ofBytes (← Run.viewed view)
        | some (.userText s) => readInt 10 s (Text.quoted s)
        | _ => refuse
      | _ => refuse

/-- Digits with single underscores between them, without these. -/
def plainDigits? : Bool → List Char → Option (List Char)
  | _, [] => some []
  | between, c :: cs =>
    if c = '_' then
      match cs with
      | d :: _ => if between && (Text.decimalValue? d).isSome then plainDigits? false cs else none
      | [] => none
    else match Text.decimalValue? c with
      | some n => (plainDigits? true cs).map (Char.ofNat (48 + n) :: ·)
      | none => (plainDigits? false cs).map (c :: ·)

/-- The nearest binary fraction of a coefficient times a power of ten. -/
def scale (n : Nat) (e : Int) : Float :=
  if n = 0 then 0
  else if e > 400 then 1.0 / 0.0
  else if e < -(400 + (Nat.toDigits 10 n).length : Int) then 0
  else if 0 ≤ e then Number.nearestFloat (n * Nat.pow 10 e.toNat) 1
  else Number.nearestFloat n (Nat.pow 10 (-e).toNat)

/-- A decimal with an optional point and exponent. -/
def decimal? (cs : List Char) : Option Float :=
  let isDigit (c : Char) : Bool := '0' ≤ c && c ≤ '9'
  let whole := cs.takeWhile isDigit
  let rest := cs.drop whole.length
  let (part, rest) := match rest with
    | '.' :: r => (r.takeWhile isDigit, r.dropWhile isDigit)
    | r => ([], r)
  if whole = [] ∧ part = [] then none
  else
    let value (ds : List Char) : Nat := ds.foldl (fun n c => n * 10 + (c.toNat - 48)) 0
    let n := value (whole ++ part)
    match rest with
    | [] => some (scale n (-(part.length : Int)))
    | c :: r =>
      if c ≠ 'e' ∧ c ≠ 'E' then none
      else
        let (negative, ds) := takeSign r
        if ds = [] ∨ !ds.all isDigit then none
        else
          let e : Int := value ds
          some (scale n ((if negative then -e else e) - part.length))

/-- A binary fraction from text. -/
def floatOfText? (s : String) : Option Float :=
  let (negative, cs) := takeSign (Text.trim Text.isBlank s.toList)
  let x : Option Float :=
    match Text.lower (String.ofList cs) with
    | "inf" | "infinity" => some (1.0 / 0.0)
    | "nan" => some (0.0 / 0.0)
    | _ => (plainDigits? false cs).bind decimal?
  x.map fun x => if negative then -x else x

/-- A value as a binary fraction. -/
def float (m : Machine) (v : Value) : Run Float := do
  match ← Kind.special? v "__float__" with
  | some f =>
    match ← m.call f [] with
    | .float x => return x
    | r =>
      Run.typeError s!"{← Kind.name v}.__float__ returned non-float (type {← Kind.name r})"
  | none =>
    let read (s shown : String) : Run Float := do
      match floatOfText? s with
      | some x => return x
      | none => Run.valueError s!"could not convert string to float: {shown}"
    match ← Kind.basic v with
    | .float x => return x
    | .int n => Arithmetic.toFloat n
    | .bool b => return if b then 1 else 0
    | .fraction n d =>
      let x := Number.nearestFloat n.natAbs d
      return if n < 0 then -x else x
    | .decimal d =>
      match d with
      | .finite s c e =>
        let x := scale c e
        return if s then -x else x
      | .infinite s => return if s then -1.0 / 0.0 else 1.0 / 0.0
      | .notANumber _ true _ => Run.valueError "cannot convert signaling NaN to float"
      | .notANumber negative _ _ => return if negative then -(0.0 / 0.0) else 0.0 / 0.0
    | .str s => read s (Text.quoted s)
    | b =>
      if let some bs ← Run.bytes? b then
        return ← read (String.ofList (bs.map fun b => Char.ofNat b.toNat)) (← m.shown v)
      match ← Subscript.index? m v with
      | some n => Arithmetic.toFloat n
      | none =>
        Run.typeError s!"float() argument must be a string or a real number, not '{← Kind.name v}'"

/-- Whether all underscores after a character stand between digits. -/
def areJoining (before : Char) : List Char → Bool
  | [] => before ≠ '_'
  | c :: cs =>
    (if c = '_' then before.isDigit else before ≠ '_' || c.isDigit) && areJoining c cs

/-- A complex number from text: one or two parts, the imaginary one with a unit. -/
def complexOfText? (s : String) : Option (Float × Float) :=
  let cs := Text.trim Text.isBlank s.toList
  let cs := match cs with
    | '(' :: r => if r.getLast? = some ')' then Text.trim Text.isBlank r.dropLast else cs
    | cs => cs
  let unit (c : Char) : Bool := c = 'j' || c = 'J'
  let number (cs : List Char) : Option Float :=
    if cs.any Text.isBlank then none else floatOfText? (String.ofList cs)
  let imaginary (cs : List Char) : Option Float :=
    match cs with
    | [] => some 1
    | ['+'] => some 1
    | ['-'] => some (-1)
    | cs => number cs
  match cs.getLast? with
  | some l =>
    if unit l then
      let body := cs.dropLast
      -- the last sign that does not belong to an exponent separates the parts
      let cut := (List.range body.length).reverse.find? fun i =>
        match body[i]?, body[i - 1]? with
        | some c, some p => i ≠ 0 && (c = '+' || c = '-') && p ≠ 'e' && p ≠ 'E'
        | _, _ => false
      match cut with
      | some i =>
        match number (body.take i), imaginary (body.drop i) with
        | some a, some b => some (a, b)
        | _, _ => none
      | none => (imaginary body).map fun b => (0, b)
    else (number cs).map fun a => (a, 0)
  | none => none

end Convert

end LiveMarkdown.Script
