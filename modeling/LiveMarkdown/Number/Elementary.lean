import LiveMarkdown.Number.Binary

/-!
Functions of analysis, to the nearest floating-point number. A quantity is held as an integer over a
power of two with many more places than a floating-point number has, so that one rounding at the end
decides the result.
-/

namespace LiveMarkdown.Number

/-- The greatest number whose square is not greater. -/
def squareRoot (n : Nat) : Nat :=
  let rec halve (fuel lo hi : Nat) : Nat :=
    match fuel with
    | 0 => lo
    | fuel + 1 =>
      if hi ≤ lo + 1 then lo
      else
        let mid := (lo + hi) / 2
        if mid * mid ≤ n then halve fuel mid hi else halve fuel lo mid
  if n = 0 then 0 else halve (Nat.log2 n + 4) (Nat.pow 2 (Nat.log2 n / 2))
    (Nat.pow 2 (Nat.log2 n / 2 + 1))

/-- The root of a quotient as the nearest floating-point number. -/
def nearestRoot (num den : Nat) : Float :=
  if num = 0 then 0
  else
    let places := 130 + (Nat.log2 den - Nat.log2 num)
    let n := num * Nat.pow 4 places
    let r := squareRoot (n / den)
    -- a root that is not exact lies above its integer part
    nearestFloat (if r * r * den = n then 2 * r else 2 * r + 1) (Nat.pow 2 (places + 1))

/-- The length of a vector. -/
def length (xs : List Float) : Float :=
  if xs.any isInfinite then 1.0 / 0.0
  else if xs.any isNaN then 0.0 / 0.0
  else
    let (n, d) := xs.foldl (fun (acc : Nat × Nat) x =>
      let (p, q) := (Binary.ofFloat x).ratio
      (acc.1 * (q * q) + p * p * acc.2, acc.2 * (q * q))) (0, 1)
    nearestRoot n d

/-! ### Integers over a power of two -/

/-- A finite number as an integer over `2 ^ places`, cut toward zero. -/
def scaled (places : Nat) (x : Float) : Int :=
  let (n, d) := (Binary.ofFloat x).ratio
  let q : Nat := n * Nat.pow 2 places / d
  if isNegative x then -(q : Int) else q

/-- An integer over `2 ^ places` as the nearest floating-point number. -/
def ofScaled (places : Nat) (n : Int) : Float :=
  let x := nearestFloat n.natAbs (Nat.pow 2 places)
  if n < 0 then -x else x

/-- The terms of a series up to one that vanishes, added up. -/
def series (next : Nat → Int → Int) : Nat → Nat → Int → Int → Int
  | 0, _, _, acc => acc
  | fuel + 1, k, term, acc =>
    if term = 0 then acc else series next fuel (k + 1) (next k term) (acc + term)

/-- A product of two quantities over `2 ^ places`. -/
def scaledMul (places : Nat) (x y : Int) : Int := Int.tdiv (x * y) (Int.pow 2 places)

/-- The exponential of a quantity over `2 ^ places`: the argument is made small, and the result is
squared as often as the argument was halved. -/
def scaledExp (places : Nat) (x : Int) : Int :=
  let halvings := 20
  let wide := places + 2 * halvings
  let r := x * Int.pow 2 halvings
  let e := series (fun k t => Int.tdiv (Int.tdiv (t * r) (Int.pow 2 wide)) (k + 1))
    wide 0 (Int.pow 2 wide) 0
  let e := (List.range halvings).foldl (fun e _ => scaledMul wide e e) e
  Int.tdiv e (Int.pow 2 (2 * halvings))

/-- The places that hold a result near one. -/
def mediumPlaces : Nat := 512

/-- `exp x - 1`, exact also near zero. -/
def expMinusOne (x : Float) : Float :=
  if !isFinite x || Float.abs x < 1e-17 then
    if isInfinite x && isNegative x then -1 else x
  else if 720 < x then 1.0 / 0.0
  else if x < -60 then -1
  else
    let p := mediumPlaces
    ofScaled p (scaledExp p (scaled p x) - Int.pow 2 p)

/-- `log (1 + x)`, exact also near zero: one step from the value that is known to a few digits. -/
def logOnePlus (x : Float) : Float :=
  if !isFinite x || Float.abs x < 1e-17 then x
  else
    let p := mediumPlaces
    let start := scaled p (Float.log (1 + x))
    let e := scaledExp p start
    let v := scaled p x + Int.pow 2 p
    ofScaled p (start + Int.tdiv (2 * (v - e) * Int.pow 2 p) (v + e))

/-! ### The error function -/

/-- The arc tangent of `1 / n` over `2 ^ places`. -/
def arcTangentOfInverse (places n : Nat) : Int :=
  let rec go (fuel : Nat) (k : Nat) (power : Int) (acc : Int) : Int :=
    match fuel with
    | 0 => acc
    | fuel + 1 =>
      if power = 0 then acc
      else
        let term := Int.tdiv power (2 * k + 1)
        go fuel (k + 1) (Int.tdiv power (n * n)) (if k % 2 = 0 then acc + term else acc - term)
  go places 0 (Int.tdiv (Int.pow 2 places) n) 0

/-- The circle's number over `2 ^ places`. -/
def scaledPi (places : Nat) : Int :=
  16 * arcTangentOfInverse places 5 - 4 * arcTangentOfInverse places 239

/-- The error function over `2 ^ places`. -/
def scaledErf (places : Nat) (x : Float) : Int :=
  let s := scaled places x
  let square := scaledMul places s s
  let rec go (fuel : Nat) (k : Nat) (power : Int) (acc : Int) : Int :=
    match fuel with
    | 0 => acc
    | fuel + 1 =>
      if power = 0 then acc
      else
        let acc := acc + Int.tdiv power (2 * k + 1)
        go fuel (k + 1) (Int.tdiv (-(scaledMul places power square)) (k + 1)) acc
  let total := go (4 * places) 0 s 0
  let rootPi := squareRoot ((scaledPi places).toNat * Nat.pow 2 places)
  Int.tdiv (2 * total * Int.pow 2 places) rootPi

/-- The error function. -/
def erf (x : Float) : Float :=
  if isNaN x then x
  else if 6 < Float.abs x then if isNegative x then -1 else 1
  else if x == 0 then x
  else if Float.abs x < 1e-9 then x * 1.1283791670955126
  else ofScaled mediumPlaces (scaledErf mediumPlaces x)

/-- What the error function lacks to one. -/
def erfComplement (x : Float) : Float :=
  if isNaN x then x
  else if 28 < x then 0
  else if x < -6 then 2
  else
    let p := 2600
    ofScaled p (Int.pow 2 p - scaledErf p x)

/-! ### The gamma function -/

/-- The coefficients of the approximation of the gamma function by a quotient of polynomials, from
the constant one on. -/
def gammaCoefficients : List (Float × Float) :=
  [(23531376880.410759, 0), (42919803642.649099, 39916800), (35711959237.355668, 120543840),
    (17921034426.037210, 150917976), (6039542586.3520280, 105258076),
    (1439720407.3117216, 45995730), (248874557.86205416, 13339535), (31426415.585400194, 2637558),
    (2876370.6289353724, 357423), (186056.26539522349, 32670), (8071.6720023658162, 1925),
    (210.82427775157935, 66), (2.5066282746310003, 1)]

def gammaQuotient (x : Float) : Float :=
  let (n, d) :=
    if x < 5 then
      gammaCoefficients.reverse.foldl
        (fun (acc : Float × Float) c => (acc.1 * x + c.1, acc.2 * x + c.2)) (0, 0)
    else
      gammaCoefficients.foldl
        (fun (acc : Float × Float) c => (acc.1 / x + c.1, acc.2 / x + c.2)) (0, 0)
  n / d

def pi : Float := 3.141592653589793

/-- The sine of a multiple of the circle's number. -/
def sinePi (x : Float) : Float :=
  let y := remainder (Float.abs x) 2
  let r :=
    if y < 0.25 then Float.sin (pi * y)
    else if y < 0.75 then Float.cos (pi * (y - 0.5))
    else if y < 1.25 then Float.sin (pi * (1 - y))
    else if y < 1.75 then -(Float.cos (pi * (y - 1.5)))
    else Float.sin (pi * (y - 2))
  if isNegative x then -r else r

def gammaShift : Float := 6.024680040776729583740234375

/-- The gamma function at a number that is not an integer below one. -/
def gamma (x : Float) : Float :=
  if isNaN x || isInfinite x then x
  else if Float.floor x == x && 0 < x && x ≤ 23 then
    Float.ofNat ((List.range (truncate x).toNat).foldl (fun p i => if i = 0 then p else p * i) 1)
  else
    let a := Float.abs x
    if a < 1e-20 then 1 / x
    else if 200 < a then if x < 0 then 0 / sinePi x else 1.0 / 0.0
    else
      let half := gammaShift - 0.5
      let y := a + half
      let z := if half < a then (y - a) - half else (y - half) - a
      let z := z * gammaShift / y
      if x < 0 then
        let r := -pi / sinePi a / a * Float.exp y / gammaQuotient a
        let r := r - z * r
        if a < 140 then r / Float.pow y (a - 0.5)
        else
          let q := Float.pow y (a / 2 - 0.25)
          r / q / q
      else
        let r := gammaQuotient a / Float.exp y
        let r := r + z * r
        if a < 140 then r * Float.pow y (a - 0.5)
        else
          let q := Float.pow y (a / 2 - 0.25)
          r * q * q

/-- The logarithm of the size of the gamma function. -/
def logGamma (x : Float) : Float :=
  if isNaN x then x
  else if isInfinite x then 1.0 / 0.0
  else if x == 1 || x == 2 then 0
  else
    let a := Float.abs x
    if a < 1e-20 then -(Float.log a)
    else
      let r := Float.log (gammaQuotient a) - gammaShift
      let r := r + (a - 0.5) * (Float.log (a + gammaShift - 0.5) - 1)
      if x < 0 then
        1.144729885849400174 - Float.log (Float.abs (sinePi a)) - Float.log a - r
      else r

/-! ### Neighbours and parts -/

/-- The fraction between a half and one, and the power of two, whose product is a finite number. -/
def splitExponent (x : Float) : Float × Int :=
  if x == 0 then (x, 0)
  else
    let b := Binary.ofFloat x
    let e := b.exponent + Nat.log2 b.mantissa + 1
    let f := nearestFloat b.mantissa (Nat.pow 2 (Nat.log2 b.mantissa + 1))
    (if isNegative x then -f else f, e)

/-- The next floating-point number toward another. -/
def nextToward (x y : Float) : Float :=
  if isNaN x || isNaN y then 0.0 / 0.0
  else if x == y then y
  else if x == 0 then
    let tiny := Float.ofBits 1
    if y < 0 then -tiny else tiny
  else
    let away := (0 < x) == (x < y)
    let bits := x.toBits
    Float.ofBits (if away then bits + 1 else bits - 1)

/-- The distance to the next floating-point number away from zero. -/
def unitInLastPlace (x : Float) : Float :=
  if isNaN x then x
  else
    let a := Float.abs x
    if isInfinite a then a
    else
      let next := nextToward a (1.0 / 0.0)
      if isInfinite next then a - nextToward a 0 else next - a

/-- The remainder of a division whose quotient is rounded to the nearest integer, a half to the even
one. -/
def evenRemainder (x y : Float) : Float :=
  if isInfinite y then x
  else
    let (a, b) := (Binary.ofFloat x).ratio
    let (c, d) := (Binary.ofFloat y).ratio
    let n := a * d
    let k := c * b
    let q := roundHalfEven n k
    let r : Int := (n : Int) - (q * k : Nat)
    let size := nearestFloat r.natAbs (b * d)
    if (r < 0) != isNegative x then -size else size

end LiveMarkdown.Number
