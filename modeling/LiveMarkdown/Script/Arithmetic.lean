import LiveMarkdown.Number.Scaled
import LiveMarkdown.Script.Show

/-!
Operators on numbers: integers without bounds, binary and decimal fractions, and complex numbers.
-/

namespace LiveMarkdown.Script

def BinaryOp.symbol : BinaryOp → String
  | .add => "+"
  | .sub => "-"
  | .mult => "*"
  | .matMult => "@"
  | .div => "/"
  | .mod => "%"
  | .pow => "**"
  | .leftShift => "<<"
  | .rightShift => ">>"
  | .bitOr => "|"
  | .bitXor => "^"
  | .bitAnd => "&"
  | .floorDiv => "//"

/-- The names of the methods that answer for an operator, from the left and from the right. -/
def BinaryOp.methods : BinaryOp → String × String
  | .add => ("__add__", "__radd__")
  | .sub => ("__sub__", "__rsub__")
  | .mult => ("__mul__", "__rmul__")
  | .matMult => ("__matmul__", "__rmatmul__")
  | .div => ("__truediv__", "__rtruediv__")
  | .mod => ("__mod__", "__rmod__")
  | .pow => ("__pow__", "__rpow__")
  | .leftShift => ("__lshift__", "__rlshift__")
  | .rightShift => ("__rshift__", "__rrshift__")
  | .bitOr => ("__or__", "__ror__")
  | .bitXor => ("__xor__", "__rxor__")
  | .bitAnd => ("__and__", "__rand__")
  | .floorDiv => ("__floordiv__", "__rfloordiv__")

/-- The method that changes a value in place. -/
def BinaryOp.inPlace : BinaryOp → String
  | .add => "__iadd__"
  | .sub => "__isub__"
  | .mult => "__imul__"
  | .matMult => "__imatmul__"
  | .div => "__itruediv__"
  | .mod => "__imod__"
  | .pow => "__ipow__"
  | .leftShift => "__ilshift__"
  | .rightShift => "__irshift__"
  | .bitOr => "__ior__"
  | .bitXor => "__ixor__"
  | .bitAnd => "__iand__"
  | .floorDiv => "__ifloordiv__"

namespace Arithmetic

def zeroDivision {α : Type} (message : String) : Run α := Run.raise "ZeroDivisionError" message

/-- An integer as a binary fraction; very large ones are refused. -/
def toFloat (n : Int) : Run Float := do
  let x := Number.ofInt n
  if Number.isInfinite x then
    Run.raise "OverflowError" "int too large to convert to float"
  return x

/-- Bits of two integers combined; negative integers have infinitely many leading ones. -/
def bitwise (f : Bool → Bool → Bool) (a b : Int) : Int :=
  let size := max (Nat.log2 a.natAbs) (Nat.log2 b.natAbs) + 2
  let wrap (n : Int) : Nat := (n % Int.pow 2 size).toNat
  let x := wrap a
  let y := wrap b
  let n : Nat := (List.range size).foldl (fun acc i =>
    if f (x.testBit i) (y.testBit i) then acc + Nat.pow 2 i else acc) 0
  if n.testBit (size - 1) then (n : Int) - Int.pow 2 size else n

def outOfRange {α : Type} : Run α :=
  Run.raiseWith "OverflowError" [.int 34, .str "Numerical result out of range"]

/-- A power of binary fractions. -/
def floatPow (x y : Float) : Run Value := do
  if x == 0 && y < 0 then zeroDivision "0.0 cannot be raised to a negative power"
  if x < 0 && Number.isFinite x && Number.isFinite y && Float.floor y != y then
    let size := Float.pow (-x) y
    let angle := 3.141592653589793 * y
    return .complex (size * Float.cos angle) (size * Float.sin angle)
  let r := Float.pow x y
  if Number.isInfinite r && Number.isFinite x && Number.isFinite y then outOfRange
  return .float r

/-- Quotient rounded down and remainder of binary fractions. -/
def floatDivMod (x y : Float) : Float × Float :=
  let r := if Number.isNaN x || Number.isNaN y || Number.isInfinite x then (0.0 / 0.0 : Float)
    else Number.remainder x y
  let q := (x - r) / y
  if r != 0 then
    let (r, q) := if decide (y < 0) != decide (r < 0) then (r + y, q - 1) else (r, q)
    let f := Float.floor q
    (if q == 0 then (if decide (x / y < 0) then -0.0 else 0.0) else if q - f > 0.5 then f + 1 else f, r)
  else
    let r : Float := if Number.isNegative y then -0.0 else 0.0
    let f := Float.floor q
    (if q == 0 then (if Number.isNegative (x / y) then -0.0 else 0.0)
      else if q - f > 0.5 then f + 1 else f, r)

def floatOp (op : BinaryOp) (x y : Float) : Option (Run Value) :=
  match op with
  | .add => some (pure (.float (x + y)))
  | .sub => some (pure (.float (x - y)))
  | .mult => some (pure (.float (x * y)))
  | .div => some (if y == 0 then zeroDivision "float division by zero" else pure (.float (x / y)))
  | .floorDiv => some (if y == 0 then zeroDivision "float floor division by zero"
      else pure (.float (floatDivMod x y).1))
  | .mod => some (if y == 0 then zeroDivision "float modulo" else pure (.float (floatDivMod x y).2))
  | .pow => some (floatPow x y)
  | _ => none

/-- The greatest exponent whose power is written out. -/
def exponentLimit : Int := 8589934592

/-- A power of integers; a negative exponent gives a binary fraction. -/
def intPow (x y : Int) : Run Value := do
  if 0 ≤ y then
    if x.natAbs ≤ 1 then
      return .int (if y = 0 || x = 1 then 1 else if x = 0 then 0 else if y % 2 = 0 then 1 else -1)
    if exponentLimit < y then Run.raise "MemoryError" ""
    return .int (Int.pow x y.toNat)
  if x = 0 then zeroDivision "0.0 cannot be raised to a negative power"
  floatPow (← toFloat x) (← toFloat y)

/-- The quotient of two integers as the nearest binary fraction. -/
def intDiv (x y : Int) : Run Value := do
  if y = 0 then zeroDivision "division by zero"
  let r := Number.nearestFloat x.natAbs y.natAbs
  if Number.isInfinite r then
    Run.raise "OverflowError" "integer division result too large for a float"
  return .float (if decide (x < 0) != decide (y < 0) then -r else r)

def shiftLeft (x y : Int) : Run Value := do
  if y < 0 then Run.valueError "negative shift count"
  if x = 0 then return .int 0
  if exponentLimit < y then Run.raise "OverflowError" "too many digits in integer"
  return .int (x * Int.pow 2 y.toNat)

/-- A shift by more places than the number has leaves its sign alone. -/
def shiftRight (x y : Int) : Run Value := do
  if y < 0 then Run.valueError "negative shift count"
  if exponentLimit < y then return .int (if x < 0 then -1 else 0)
  return .int (Int.fdiv x (Int.pow 2 y.toNat))

def intOp (op : BinaryOp) (x y : Int) : Option (Run Value) :=
  match op with
  | .add => some (pure (.int (x + y)))
  | .sub => some (pure (.int (x - y)))
  | .mult => some (pure (.int (x * y)))
  | .div => some (intDiv x y)
  | .floorDiv => some (if y = 0 then zeroDivision "integer division or modulo by zero"
      else pure (.int (Int.fdiv x y)))
  | .mod => some (if y = 0 then zeroDivision "integer modulo by zero"
      else pure (.int (Int.fmod x y)))
  | .pow => some (intPow x y)
  | .leftShift => some (shiftLeft x y)
  | .rightShift => some (shiftRight x y)
  | .bitOr => some (pure (.int (bitwise (· || ·) x y)))
  | .bitAnd => some (pure (.int (bitwise (· && ·) x y)))
  | .bitXor => some (pure (.int (bitwise (· != ·) x y)))
  | .matMult => none

def boolOp (op : BinaryOp) (a b : Bool) : Option (Run Value) :=
  match op with
  | .bitOr => some (pure (.bool (a || b)))
  | .bitAnd => some (pure (.bool (a && b)))
  | .bitXor => some (pure (.bool (a != b)))
  | op => intOp op (if a then 1 else 0) (if b then 1 else 0)

/-- A fraction in lowest terms. -/
def fraction (n : Int) (d : Int) : Value :=
  let g := Nat.gcd n.natAbs d.natAbs
  let s : Int := if d < 0 then -1 else 1
  .fraction (s * n / g) (d.natAbs / g)

def fractionOp (op : BinaryOp) (a : Int) (b : Nat) (c : Int) (d : Nat) : Option (Run Value) :=
  match op with
  | .add => some (pure (fraction (a * d + c * b) (b * d)))
  | .sub => some (pure (fraction (a * d - c * b) (b * d)))
  | .mult => some (pure (fraction (a * c) (b * d)))
  | .div => some (if c = 0 then zeroDivision s!"Fraction({a * d}, 0)"
      else pure (fraction (a * d) (b * c)))
  | .floorDiv => some (if c = 0 then zeroDivision "integer division or modulo by zero"
      else pure (.int (Int.fdiv (a * d) (b * c))))
  | .mod => some (if c = 0 then zeroDivision "integer division or modulo by zero"
      else pure (fraction (Int.fmod (a * d) (c * b)) (b * d)))
  | .pow => if d = 1 then
      some (if 0 ≤ c then pure (fraction (Int.pow a c.toNat) (Nat.pow b c.toNat))
        else if a = 0 then zeroDivision s!"Fraction({b}, 0)"
        else pure (fraction (Nat.pow b c.natAbs) (Int.pow a c.natAbs)))
    else none
  | _ => none

def complexProduct (p q : Float × Float) : Float × Float :=
  (p.1 * q.1 - p.2 * q.2, p.1 * q.2 + p.2 * q.1)

/-- A quotient by a number that is not zero, scaled by the larger part of the divisor. -/
def complexQuotient (p q : Float × Float) : Float × Float :=
  let (a, b) := p
  let (c, d) := q
  if Float.abs d ≤ Float.abs c then
    let r := d / c
    let n := c + d * r
    ((a + b * r) / n, (b - a * r) / n)
  else
    let r := c / d
    let n := c * r + d
    ((a * r + b) / n, (b * r - a) / n)

/-- A whole power by repeated squaring. The fuel bounds the number of binary digits. -/
def complexPower : Nat → Float × Float → Nat → Float × Float → Float × Float
  | 0, r, _, _ => r
  | fuel + 1, r, n, p =>
    if n = 0 then r
    else complexPower fuel (if n % 2 = 1 then complexProduct r p else r) (n / 2) (complexProduct p p)

def complexOp (op : BinaryOp) (a b c d : Float) : Option (Run Value) :=
  let value (p : Float × Float) : Run Value := pure (.complex p.1 p.2)
  let power (p : Float × Float) : Run Value :=
    if Number.isInfinite p.1 || Number.isInfinite p.2 then
      Run.raise "OverflowError" "complex exponentiation"
    else value p
  match op with
  | .add => some (pure (.complex (a + c) (b + d)))
  | .sub => some (pure (.complex (a - c) (b - d)))
  | .mult => some (value (complexProduct (a, b) (c, d)))
  | .div =>
    some (if c == 0 && d == 0 then zeroDivision "complex division by zero"
      else value (complexQuotient (a, b) (c, d)))
  | .pow =>
    some (if c == 0 && d == 0 then value (1, 0)
      else if a == 0 && b == 0 then
        (if c < 0 || d != 0 then zeroDivision "0.0 to a negative or complex power"
        else value (0, 0))
      else if d == 0 && c == Float.floor c && Float.abs c ≤ 100 then
        let p := complexPower 8 (1, 0) (Float.abs c).toUInt64.toNat (a, b)
        power (if c < 0 then complexQuotient (1, 0) p else p)
      else
        let size := Float.sqrt (a * a + b * b)
        let angle := Float.atan2 b a
        let len := Float.pow size c
        let (len, turn) := if d == 0 then (len, angle * c)
          else (len * Float.exp (-angle * d), angle * c + d * Float.log size)
        if Number.isInfinite turn then zeroDivision "0.0 to a negative or complex power"
        else power (len * Float.cos turn, len * Float.sin turn))
  | _ => none

/-- Why a decimal number has no result, as an exception of a program. -/
def scaledFault {α : Type} (f : Number.ScaledFault) : Run α := do
  let invalid := "InvalidOperation"
  let (cls, signals) := match f with
    | .invalid => (invalid, [invalid])
    | .badText => (invalid, ["ConversionSyntax"])
    | .zeroByZero => (invalid, ["DivisionUndefined"])
    | .impossible => (invalid, ["DivisionImpossible"])
    | .invalidByZero => (invalid, [invalid, "DivisionByZero"])
    | .byZero => ("DivisionByZero", ["DivisionByZero"])
    | .tooLarge => ("Overflow", ["Overflow"])
  Run.raiseWith cls [← Run.newList (signals.map .type)]

/-- A decimal result. -/
def scaled (r : Number.Scaled.Result Number.Scaled) : Run Value := do
  match r with
  | .ok d => return .decimal d
  | .error f => scaledFault f

def scaledOp (op : BinaryOp) (a b : Number.Scaled) : Option (Run Value) :=
  match op with
  | .add => some (scaled (a.add b))
  | .sub => some (scaled (a.sub b))
  | .mult => some (scaled (a.mul b))
  | .div => some (scaled (a.div b))
  | .floorDiv => some (scaled (a.floorDiv b))
  | .mod => some (scaled (a.mod b))
  | .pow => some (scaled (a.pow b))
  | _ => none

/-- An integer as a decimal number. -/
def scaledOfInt (n : Int) : Number.Scaled := .finite (decide (n < 0)) n.natAbs 0

def boolInt (b : Bool) : Int := if b then 1 else 0

/-- A number as a complex one. -/
def complexParts : Value → Option (Run (Float × Float))
  | .bool b => some (pure (if b then 1 else 0, 0))
  | .int n => some (do return (← toFloat n, 0))
  | .float x => some (pure (x, 0))
  | .complex a b => some (pure (a, b))
  | _ => none

/-- An operator on two numbers, if it applies to them. -/
def numeric (op : BinaryOp) (a b : Value) : Option (Run Value) :=
  let plainInt : Value → Value
    | .bool b => .int (boolInt b)
    | v => v
  match a, b with
  | .bool x, .bool y => boolOp op x y
  | a, b =>
    match plainInt a, plainInt b with
    | .int x, .int y => intOp op x y
    | .float x, .float y => floatOp op x y
    | .int x, .float y =>
      (floatOp op 1 1).map fun _ => do
        match floatOp op (← toFloat x) y with
        | some r => r
        | none => return .notImplemented
    | .float x, .int y =>
      (floatOp op 1 1).map fun _ => do
        match floatOp op x (← toFloat y) with
        | some r => r
        | none => return .notImplemented
    | .fraction a b, .fraction c d => fractionOp op a b c d
    | .fraction a b, .int c => fractionOp op a b c 1
    | .int a, .fraction c d => fractionOp op a 1 c d
    | .fraction a b, .float y =>
      floatOp op (let x := Number.nearestFloat a.natAbs b; if a < 0 then -x else x) y
    | .float x, .fraction c d =>
      floatOp op x (let y := Number.nearestFloat c.natAbs d; if c < 0 then -y else y)
    | .decimal x, .decimal y => scaledOp op x y
    | .decimal x, .int y => scaledOp op x (scaledOfInt y)
    | .int x, .decimal y => scaledOp op (scaledOfInt x) y
    | a, b =>
      match complexParts a, complexParts b with
      | some x, some y =>
        (complexOp op 1 1 1 1).map fun _ => do
          let (p, q) ← x
          let (r, s) ← y
          match complexOp op p q r s with
          | some r => r
          | none => return .notImplemented
      | _, _ => none

/-- A sign or a complement. -/
def unary (op : UnaryOp) (v : Value) : Option (Run Value) :=
  match op, v with
  | .plus, .bool b => some (pure (.int (boolInt b)))
  | .plus, .int n => some (pure (.int n))
  | .plus, .float x => some (pure (.float x))
  | .plus, .complex a b => some (pure (.complex a b))
  | .plus, .fraction n d => some (pure (.fraction n d))
  | .plus, .decimal d => some (scaled d.plus)
  | .minus, .bool b => some (pure (.int (-boolInt b)))
  | .minus, .int n => some (pure (.int (-n)))
  | .minus, .float x => some (pure (.float (-x)))
  | .minus, .complex a b => some (pure (.complex (-a) (-b)))
  | .minus, .fraction n d => some (pure (.fraction (-n) d))
  | .minus, .decimal d => some (scaled d.negate)
  | .invert, .bool b => some (pure (.int (-boolInt b - 1)))
  | .invert, .int n => some (pure (.int (-n - 1)))
  | _, _ => none

/-- A real number as an exact quotient; the values beyond the numbers have none. -/
def quotient? : Value → Option (Int × Nat)
  | .bool b => some (boolInt b, 1)
  | .int n => some (n, 1)
  | .fraction n d => some (n, d)
  | .float x =>
    if Number.isFinite x then
      let (n, d) := (Number.Binary.ofFloat x).ratio
      some (if Number.isNegative x then -(n : Int) else n, d)
    else none
  | .decimal (.finite s c e) =>
    let n : Int := if s then -(c : Int) else c
    some (if 0 ≤ e then (n * Nat.pow 10 e.toNat, 1) else (n, Nat.pow 10 (-e).toNat))
  | _ => none

/-- Positive or negative infinity. -/
def infinity? : Value → Option Bool
  | .float x => if Number.isInfinite x then some (Number.isNegative x) else none
  | .decimal (.infinite s) => some s
  | _ => none

/-- The integer that a value is. -/
def intOf? : Value → Option Int
  | .int n => some n
  | .bool b => some (if b then 1 else 0)
  | _ => none

def isReal : Value → Bool
  | .bool _ | .int _ | .float _ | .fraction .. | .decimal _ => true
  | _ => false

/-- The order of two real numbers; a value that is not a number has none. -/
def order? (a b : Value) : Option Ordering :=
  match infinity? a, infinity? b with
  | some s, some t => some (if s == t then .eq else if s then .lt else .gt)
  | some s, none => (quotient? b).map fun _ => if s then .lt else .gt
  | none, some t => (quotient? a).map fun _ => if t then .gt else .lt
  | none, none =>
    match quotient? a, quotient? b with
    | some (n, d), some (k, e) => some (Ord.compare (n * (e : Int)) (k * (d : Int)))
    | _, _ => none

/-- Whether two numbers are equal, if both are numbers. -/
def equal? (a b : Value) : Option Bool :=
  match a, b with
  | .complex p q, .complex r s => some (p == r && q == s)
  | .complex p q, b => if isReal b then some (q == 0 && order? (.float p) b == some .eq) else none
  | a, .complex p q => if isReal a then some (q == 0 && order? a (.float p) == some .eq) else none
  | a, b => if isReal a && isReal b then some (order? a b == some .eq) else none

end Arithmetic

end LiveMarkdown.Script
