import LiveMarkdown.Number.Binary

/-!
Decimal text of floating-point numbers: the fewest digits that read back as the number, and a given
number of digits correctly rounded.
-/

namespace LiveMarkdown.Number

/-- The decimal digits of a natural number. -/
def digitsOf (n : Nat) : List Char := Nat.toDigits 10 n

/-- The exponent of the leading decimal digit of a quotient that is not zero. -/
def leadingExponent (num den : Nat) : Int :=
  ((digitsOf (num * Nat.pow 10 400 / den)).length : Int) - 401

/-- Numerator and denominator of a quotient divided by a power of ten. -/
def overPowerOfTen (num den : Nat) (k : Int) : Nat × Nat :=
  if 0 ≤ k then (num, den * Nat.pow 10 k.toNat) else (num * Nat.pow 10 (-k).toNat, den)

/-- The best decimal with the given number of digits among the two neighbours of a number, if one of
them lies in the interval of the reals that round to the number. -/
def neighbour? (b : Binary) (lead : Int) (count : Nat) : Option (Nat × Int) :=
  let k := lead + 1 - count
  -- quarters of a unit in the last place
  let value := 4 * b.mantissa
  let low := value - (if b.mantissa = Nat.pow 2 52 ∧ b.exponent > -1074 then 1 else 2)
  let high := value + 2
  let (f, d) := if 2 ≤ b.exponent then (Nat.pow 2 (b.exponent - 2).toNat, 1)
    else (1, Nat.pow 2 (2 - b.exponent).toNat)
  let (w, u) := overPowerOfTen f d k
  let inside (c : Nat) : Bool :=
    if b.mantissa % 2 = 0 then low * w ≤ c * u && c * u ≤ high * w
    else low * w < c * u && c * u < high * w
  let down := value * w / u
  let up := down + 1
  let distDown := value * w - down * u
  let distUp := up * u - value * w
  match inside down && down != 0, inside up with
  | true, true =>
    if distDown < distUp || (distDown == distUp && down % 2 == 0) then some (down, k)
    else some (up, k)
  | true, false => some (down, k)
  | false, true => some (up, k)
  | false, false => none

/-- The fewest digits, and among these the nearest, that read back as the number. -/
def shortestFrom (b : Binary) (lead : Int) : Nat → Nat → Nat × Int
  | 0, _ => (b.mantissa, 0)
  | fuel + 1, count =>
    match neighbour? b lead count with
    | some r => r
    | none => shortestFrom b lead fuel (count + 1)

/-- Digits and exponent of the shortest decimal of a positive finite number. A single digit that is
rounded up to ten is a one of the next place. -/
def shortest (b : Binary) : Nat × Int :=
  let (n, d) := b.ratio
  match shortestFrom b (leadingExponent n d) 17 1 with
  | (10, k) => (1, k + 1)
  | r => r

/-- Text of an exponent: a sign and at least two digits. -/
def exponentText (e : Int) : String :=
  let ds := digitsOf e.natAbs
  (if e < 0 then "e-" else "e+") ++ String.ofList (if ds.length < 2 then '0' :: ds else ds)

/-- Digits with a point after the first `point` of them, filled with zeros where digits are missing. -/
def positional (ds : List Char) (point : Int) : List Char × List Char :=
  if point ≤ 0 then (['0'], List.replicate (-point).toNat '0' ++ ds)
  else
    let p := point.toNat
    if ds.length ≤ p then (ds ++ List.replicate (p - ds.length) '0', [])
    else (ds.take p, ds.drop p)

/-- Digits in scientific notation. -/
def scientific (ds : List Char) (point : Int) : String :=
  let front := match ds with
    | [] => []
    | [d] => [d]
    | d :: rest => d :: '.' :: rest
  String.ofList front ++ exponentText (point - 1)

/-- How a number is shown: positional from a ten-thousandth up to below ten to the sixteenth, else
scientific. Whole numbers end in `.0` if asked for. -/
def showMagnitude (b : Binary) (markWhole : Bool) : String :=
  if b.mantissa = 0 then (if markWhole then "0.0" else "0")
  else
    let (d, k) := shortest b
    let ds := digitsOf d
    let point := (ds.length : Int) + k
    if -4 < point ∧ point ≤ 16 then
      let (whole, part) := positional ds point
      String.ofList whole ++
        (if part = [] then (if markWhole then ".0" else "") else "." ++ String.ofList part)
    else scientific ds point

/-- The text of a floating-point number; whole numbers end in `.0` if asked for. -/
def showFloatWith (markWhole : Bool) (x : Float) : String :=
  if isNaN x then "nan"
  else
    let sign := if isNegative x then "-" else ""
    if isInfinite x then sign ++ "inf"
    else sign ++ showMagnitude (.ofFloat x) markWhole

/-- The text of a floating-point number. -/
def showFloat (x : Float) : String := showFloatWith true x

/-- The text of a complex number; a real part of positive zero is left out. -/
def showComplex (re im : Float) : String :=
  let imText := showFloatWith false im
  if re == 0 && !isNegative re then imText ++ "j"
  else
    let joined := if isNegative im && !isNaN im then imText else "+" ++ imText
    "(" ++ showFloatWith false re ++ joined ++ "j)"

/-- A magnitude with a fixed number of places. -/
def fixedMagnitude (b : Binary) (places : Nat) : String :=
  let (n, d) := b.ratio
  let ds := digitsOf (roundHalfEven (n * Nat.pow 10 places) d)
  let ds := List.replicate (places + 1 - ds.length) '0' ++ ds
  let whole := ds.take (ds.length - places)
  let part := ds.drop (ds.length - places)
  String.ofList whole ++ (if places = 0 then "" else "." ++ String.ofList part)

/-- A magnitude rounded to a number of significant digits: the digits and the place of the point. -/
def significant (b : Binary) (count : Nat) : List Char × Int :=
  let (n, d) := b.ratio
  if n = 0 then (List.replicate count '0', 1)
  else
    let lead := leadingExponent n d
    let (w, u) := overPowerOfTen n d (lead + 1 - count)
    let ds := digitsOf (roundHalfEven w u)
    if count < ds.length then (ds.take count, lead + 2) else (ds, lead + 1)

/-- A magnitude in scientific notation with a fixed number of places. -/
def scientificMagnitude (b : Binary) (places : Nat) : String :=
  let (ds, point) := significant b (places + 1)
  scientific ds point

/-- A magnitude with a number of significant digits, without trailing zeros unless kept. If the point
is marked, whole numbers end in `.0`, and a number that fills all digits is written scientifically. -/
def generalMagnitude (b : Binary) (count : Nat) (keepZeros markPoint : Bool) : String :=
  let count := max count 1
  let (ds, point) := significant b count
  let ds := if keepZeros then ds
    else match (ds.reverse.dropWhile (· == '0')).reverse with
      | [] => ['0']
      | r => r
  if -4 < point ∧ point ≤ (count : Int) - (if markPoint then 1 else 0) then
    let (whole, part) := positional ds point
    String.ofList whole ++
      (if part = [] then (if markPoint then ".0" else "") else "." ++ String.ofList part)
  else scientific ds point

end LiveMarkdown.Number
