/-!
Binary floating-point numbers as exact quantities: a finite number is an integer times a power of
two. Rounding, remainders and decimal digits are computed on these.
-/

namespace LiveMarkdown.Number

/-- A finite floating-point number without its sign: `mantissa * 2 ^ exponent`. -/
structure Binary where
  mantissa : Nat
  exponent : Int

namespace Binary

/-- The quantity of a finite number. -/
def ofFloat (x : Float) : Binary :=
  let bits := x.toBits.toNat
  let e : Nat := bits / Nat.pow 2 52 % Nat.pow 2 11
  let f : Nat := bits % Nat.pow 2 52
  if e = 0 then ⟨f, -1074⟩ else ⟨f + Nat.pow 2 52, Int.ofNat e - 1075⟩

/-- Numerator and denominator. -/
def ratio (b : Binary) : Nat × Nat :=
  if 0 ≤ b.exponent then (b.mantissa * Nat.pow 2 b.exponent.toNat, 1)
  else (b.mantissa, Nat.pow 2 (-b.exponent).toNat)

end Binary

/-- Whether the sign bit is set; it is for negative zero. -/
def isNegative (x : Float) : Bool := x.toBits.toNat / Nat.pow 2 63 == 1

def isFinite (x : Float) : Bool := x.toBits.toNat / Nat.pow 2 52 % Nat.pow 2 11 != 2047

def isNaN (x : Float) : Bool := !isFinite x && x.toBits.toNat % Nat.pow 2 52 != 0

def isInfinite (x : Float) : Bool := !isFinite x && x.toBits.toNat % Nat.pow 2 52 == 0

/-- A quotient rounded to the nearest integer; a half goes to the even neighbour. -/
def roundHalfEven (num den : Nat) : Nat :=
  let q := num / den
  let r := num % den
  if 2 * r < den then q
  else if den < 2 * r then q + 1
  else if q % 2 = 0 then q else q + 1

/-- A quotient of natural numbers as the nearest floating-point number. -/
def nearestFloat (num den : Nat) : Float :=
  if num = 0 then 0
  else
    -- scale so that the integer quotient has at least 64 bits, and keep a sticky last bit
    let shift : Int := 66 + (Nat.log2 den : Int) - (Nat.log2 num : Int)
    let (n, d) :=
      if 0 ≤ shift then (num * Nat.pow 2 shift.toNat, den)
      else (num, den * Nat.pow 2 (-shift).toNat)
    let q := n / d
    let q := if n % d = 0 then 2 * q else 2 * q + 1
    let e := -shift - 1
    -- the quotient has 66 to 68 bits; drop to the precision that the exponent allows
    let bits : Int := (Nat.log2 q : Int) + 1
    let drop : Int := max (bits - 53) (-1074 - e)
    let m := if 0 ≤ drop then roundHalfEven q (Nat.pow 2 drop.toNat) else q
    let e := if 0 ≤ drop then e + drop else e
    Float.scaleB (Float.ofNat m) e

/-- The integer part of a finite number. -/
def truncate (x : Float) : Int :=
  let (n, d) := (Binary.ofFloat x).ratio
  if isNegative x then -((n / d : Nat) : Int) else ((n / d : Nat) : Int)

/-- A finite number rounded down. -/
def floor (x : Float) : Int :=
  let (n, d) := (Binary.ofFloat x).ratio
  if isNegative x then -(((n + d - 1) / d : Nat) : Int) else ((n / d : Nat) : Int)

/-- A finite number rounded up. -/
def ceiling (x : Float) : Int :=
  let (n, d) := (Binary.ofFloat x).ratio
  if isNegative x then -((n / d : Nat) : Int) else (((n + d - 1) / d : Nat) : Int)

/-- A finite number rounded to an integer, a half to the even neighbour. -/
def roundEven (x : Float) : Int :=
  let (n, d) := (Binary.ofFloat x).ratio
  if isNegative x then -(roundHalfEven n d : Int) else (roundHalfEven n d : Int)

/-- An integer as the nearest floating-point number. -/
def ofInt (n : Int) : Float :=
  if n < 0 then -nearestFloat n.natAbs 1 else nearestFloat n.natAbs 1

/-- The remainder of a division that truncates, with the sign of the dividend. It is exact. -/
def remainder (x y : Float) : Float :=
  if isInfinite y then x
  else
    let (a, b) := (Binary.ofFloat x).ratio
    let (c, d) := (Binary.ofFloat y).ratio
    let r := nearestFloat (a * d % (c * b)) (b * d)
    if isNegative x then -r else r

end LiveMarkdown.Number
