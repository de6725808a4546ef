import LiveMarkdown.Number.Decimal
import LiveMarkdown.Number.Elementary
import LiveMarkdown.Text.Alphabet
import LiveMarkdown.Text.Blank

/-!
Decimal numbers with an exponent: they keep the zeros that they were written with.
-/

namespace LiveMarkdown.Number

/-- A coefficient times a power of ten with a sign, or one of the values beyond the numbers. A value
that is not a number may bear a number as a mark, and may be one that no operation takes. -/
inductive Scaled where
  | finite (negative : Bool) (coefficient : Nat) (exponent : Int)
  | infinite (negative : Bool)
  | notANumber (negative signaling : Bool) (mark : Nat)
deriving DecidableEq, Repr

namespace Scaled

/-- The plain value that is not a number. -/
def nan : Scaled := .notANumber false false 0

def isNegative : Scaled → Bool
  | .finite s _ _ | .infinite s | .notANumber s _ _ => s

/-- The digits of the coefficient. -/
def digitCount (c : Nat) : Nat := (digitsOf c).length

/-- The exponent of the leading digit. -/
def adjusted (c : Nat) (e : Int) : Int := e + digitCount c - 1

/-- The text of a number with exponents that are multiples of `group`: positional as long as the
exponent is not positive and at most six zeros follow the point, else scientific. -/
def textBy (group : Nat) : Scaled → String
  | .infinite negative => if negative then "-Infinity" else "Infinity"
  | .notANumber negative signaling mark =>
    (if negative then "-" else "") ++ (if signaling then "sNaN" else "NaN") ++
      (if mark = 0 then "" else String.ofList (digitsOf mark))
  | .finite negative c e =>
    let ds := digitsOf c
    let sign := if negative then "-" else ""
    let left : Int := ds.length + e
    let point : Int :=
      if e ≤ 0 ∧ -6 < left then left
      else if group = 1 then 1
      else if c = 0 then Int.emod (left + 1) group - 1
      else Int.emod (left - 1) group + 1
    let (whole, part) := positional ds point
    let k := left - point
    sign ++ String.ofList whole ++ (if part = [] then "" else "." ++ String.ofList part) ++
      (if k = 0 then "" else
        "E" ++ (if k < 0 then "-" else "+") ++ String.ofList (digitsOf k.natAbs))

/-- The text of a number. -/
def text (d : Scaled) : String := d.textBy 1

/-- Reads the digits of the values beyond the numbers and of numbers. -/
def ofText? (s : String) : Option Scaled :=
  let cs := (Text.trim Text.isBlank s.toList).filter (· ≠ '_')
  let cs := cs.map fun c => match Text.decimalValue? c with
    | some n => Char.ofNat (48 + n)
    | none => c
  let (negative, cs) := match cs with
    | '-' :: r => (true, r)
    | '+' :: r => (false, r)
    | r => (false, r)
  let isDigit (c : Char) := '0' ≤ c && c ≤ '9'
  let value (ds : List Char) := ds.foldl (fun n c => n * 10 + (c.toNat - 48)) 0
  let small := cs.map Char.toLower
  let marked? (word : List Char) : Option Nat :=
    if word.isPrefixOf small && (small.drop word.length).all isDigit then
      some (value (small.drop word.length))
    else none
  if small = "inf".toList ∨ small = "infinity".toList then some (.infinite negative)
  else match marked? "nan".toList, marked? "snan".toList with
  | some n, _ => some (.notANumber negative false n)
  | none, some n => some (.notANumber negative true n)
  | none, none =>
    let whole := cs.takeWhile isDigit
    let (part, rest) := match cs.drop whole.length with
      | '.' :: r => (r.takeWhile isDigit, r.dropWhile isDigit)
      | r => ([], r)
    let finish (e : Int) := some (.finite negative (value (whole ++ part)) (e - part.length))
    if whole = [] ∧ part = [] then none
    else match rest with
      | [] => finish 0
      | c :: r =>
        if c ≠ 'e' ∧ c ≠ 'E' then none
        else
          let (minus, ds) := match r with
            | '-' :: r => (true, r)
            | '+' :: r => (false, r)
            | r => (false, r)
          if ds = [] ∨ !ds.all isDigit then none
          else finish (if minus then -(value ds : Int) else value ds)

/-- The integer part of a finite number. -/
def truncate? : Scaled → Option Int
  | .finite negative c e =>
    let n : Nat := if 0 ≤ e then c * Nat.pow 10 e.toNat else c / Nat.pow 10 (-e).toNat
    some (if negative then -(n : Int) else n)
  | _ => none

/-- A number with the given sign. -/
def withSign (negative : Bool) : Scaled → Scaled
  | .finite _ c e => .finite negative c e
  | .infinite _ => .infinite negative
  | .notANumber _ signaling mark => .notANumber negative signaling mark

/-- A finite number as an integer times a power of ten. -/
def signed (negative : Bool) (c : Nat) : Int := if negative then -(c : Int) else c

end Scaled

end LiveMarkdown.Number

/-!
Arithmetic on decimal numbers with an exponent. A result has at most 28 digits; a half goes to the
even neighbour. A result that is exact keeps the exponent that the operation asks for.
-/

namespace LiveMarkdown.Number

/-- Why an operation on decimal numbers has no result. -/
inductive ScaledFault where
  | invalid
  | badText
  | zeroByZero
  | byZero
  | invalidByZero
  | impossible
  | tooLarge
deriving DecidableEq, Repr

namespace Scaled

abbrev Result := Except ScaledFault

/-- The most digits of a result. -/
def precision : Nat := 28

/-- The greatest exponent of a leading digit. -/
def topExponent : Int := 999999

def bottomExponent : Int := -999999

/-- The least exponent of a last digit. -/
def leastExponent : Int := bottomExponent - (precision - 1 : Nat)

/-- How a number between two neighbours goes to one of them. -/
inductive Rounding where
  | halfEven
  | halfUp
  | halfDown
  | down
  | up
  | floor
  | ceiling
  | zeroFiveUp
deriving DecidableEq, Repr

/-- A quotient rounded to a natural number; the sign is that of the number it belongs to. -/
def Rounding.divide (r : Rounding) (negative : Bool) (n d : Nat) : Nat :=
  let q := n / d
  let rest := n % d
  let away : Bool := match r with
    | .halfEven => decide (d < 2 * rest) || (2 * rest == d && q % 2 == 1)
    | .halfUp => decide (d ≤ 2 * rest)
    | .halfDown => decide (d < 2 * rest)
    | .down => false
    | .up => rest != 0
    | .floor => rest != 0 && negative
    | .ceiling => rest != 0 && !negative
    | .zeroFiveUp => rest != 0 && q % 5 == 0
  if away then q + 1 else q

/-- A coefficient brought to another exponent. -/
def rescaled (r : Rounding) (negative : Bool) (c : Nat) (e target : Int) : Nat :=
  if target ≤ e then c * Nat.pow 10 (e - target).toNat
  else if (digitCount c : Int) + 1 < target - e then r.divide negative (if c = 0 then 0 else 1) 10
  else r.divide negative c (Nat.pow 10 (target - e).toNat)

/-- A number cut to so many digits. -/
def roundTo (digits : Nat) (negative : Bool) (c : Nat) (e : Int) : Scaled :=
  let extra := digitCount c - digits
  if extra = 0 then .finite negative c e
  else
    let c' := rescaled .halfEven negative c e (e + extra)
    if digits < digitCount c' then .finite negative (c' / 10) (e + extra + 1)
    else .finite negative c' (e + extra)

/-- A number as a result of an operation: cut to the precision and the range of exponents. -/
def fit (negative : Bool) (c : Nat) (e : Int) : Result Scaled :=
  if c = 0 then
    .ok (.finite negative 0 (max leastExponent (min topExponent e)))
  else if adjusted c e < bottomExponent then
    .ok (if leastExponent ≤ e then .finite negative c e
      else .finite negative (rescaled .halfEven negative c e leastExponent) leastExponent)
  else
    match roundTo precision negative c e with
    | .finite s c e =>
      if topExponent < adjusted c e then .error .tooLarge else .ok (.finite s c e)
    | d => .ok d

/-- What an operation makes of operands of which one is no number. -/
def propagated? : List Scaled → Option (Result Scaled)
  | ds =>
    let isSignal : Scaled → Bool
      | .notANumber _ s _ => s
      | _ => false
    let isNaN : Scaled → Bool
      | .notANumber .. => true
      | _ => false
    if ds.any isSignal then some (.error .invalid)
    else (ds.find? isNaN).map .ok

/-- A number as the result of doing nothing to it. -/
def plus : Scaled → Result Scaled
  | .finite s c e => fit (s && c != 0) c e
  | d => (propagated? [d]).getD (.ok d)

def negate : Scaled → Result Scaled
  | .finite s c e => fit (!s && c != 0) c e
  | .infinite s => .ok (.infinite (!s))
  | d => (propagated? [d]).getD (.ok d)

def abs : Scaled → Result Scaled
  | .finite _ c e => fit false c e
  | .infinite _ => .ok (.infinite false)
  | d => (propagated? [d]).getD (.ok d)

/-- The number of digits beyond which a much smaller summand shows only by its sign. -/
def sumReach : Nat := 100

/-- The sum of two finite numbers as a signed coefficient and an exponent. -/
def exactSum (s : Bool) (c : Nat) (e : Int) (t : Bool) (d : Nat) (f : Int) : Int × Int :=
  let (c, e, d, f) :=
    if c ≠ 0 ∧ d ≠ 0 ∧ adjusted d f + sumReach < min (adjusted c e) e then (c, e, 1, e - sumReach)
    else if c ≠ 0 ∧ d ≠ 0 ∧ adjusted c e + sumReach < min (adjusted d f) f then (1, f - sumReach, d, f)
    else (c, e, d, f)
  let low := min e f
  (signed s c * Int.pow 10 (e - low).toNat + signed t d * Int.pow 10 (f - low).toNat, low)

def add (a b : Scaled) : Result Scaled :=
  match propagated? [a, b], a, b with
  | some r, _, _ => r
  | none, .finite s c e, .finite t d f =>
    if c = 0 ∧ d ≠ 0 then
      -- the exponent of a zero asks for more places of the other summand, as far as there are any
      let low := max (min e f) (adjusted d f - precision + 1)
      if low < f then fit t (d * Nat.pow 10 (f - low).toNat) low else fit t d f
    else if d = 0 ∧ c ≠ 0 then
      let low := max (min e f) (adjusted c e - precision + 1)
      if low < e then fit s (c * Nat.pow 10 (e - low).toNat) low else fit s c e
    else if c = 0 then fit (s && t) 0 (min e f)
    else
      let (n, low) := exactSum s c e t d f
      fit (decide (n < 0)) n.natAbs low
  | none, .infinite s, .infinite t => if s == t then .ok a else .error .invalid
  | none, .infinite _, _ => .ok a
  | none, _, _ => .ok b

def sub (a b : Scaled) : Result Scaled :=
  match propagated? [a, b] with
  | some r => r
  | none => add a (b.withSign (!b.isNegative))

def mul (a b : Scaled) : Result Scaled :=
  let s := a.isNegative != b.isNegative
  match propagated? [a, b], a, b with
  | some r, _, _ => r
  | none, .finite _ c e, .finite _ d f => fit s (c * d) (e + f)
  | none, .finite _ c _, _ => if c = 0 then .error .invalid else .ok (.infinite s)
  | none, _, .finite _ d _ => if d = 0 then .error .invalid else .ok (.infinite s)
  | none, _, _ => .ok (.infinite s)

/-- Drops zeros at the end of a coefficient as long as the exponent stays below a bound. The fuel
bounds their number. -/
def dropZeros (bound : Int) : Nat → Nat → Int → Nat × Int
  | 0, c, e => (c, e)
  | fuel + 1, c, e =>
    if e < bound ∧ c % 10 = 0 then dropZeros bound fuel (c / 10) (e + 1) else (c, e)

/-- The quotient of two finite numbers, with enough digits to round it to so many. -/
def quotient (digits : Nat) (c : Nat) (e : Int) (d : Nat) (f : Int) : Nat × Int :=
  let shift : Int := (digitCount d : Int) - digitCount c + digits + 1
  let (n, k) := if 0 ≤ shift then (c * Nat.pow 10 shift.toNat, d)
    else (c, d * Nat.pow 10 (-shift).toNat)
  let q := n / k
  let e' := e - f - shift
  if n % k = 0 then dropZeros (e - f) (digits + digitCount c + 2) q e'
  else (if q % 5 = 0 then q + 1 else q, e')

def div (a b : Scaled) : Result Scaled :=
  let s := a.isNegative != b.isNegative
  match propagated? [a, b], a, b with
  | some r, _, _ => r
  | none, .infinite _, .infinite _ => .error .invalid
  | none, .infinite _, _ => .ok (.infinite s)
  | none, _, .infinite _ => .ok (.finite s 0 leastExponent)
  | none, .finite _ c e, .finite _ d f =>
    if d = 0 then .error (if c = 0 then .zeroByZero else .byZero)
    else if c = 0 then fit s 0 (e - f)
    else
      let (q, k) := quotient precision c e d f
      fit s q k
  | none, _, _ => .ok a

/-- Quotient towards zero and remainder of two finite numbers, of which the second is not zero. -/
def wholeParts (a b : Scaled) : Result (Scaled × Scaled) :=
  match a, b with
  | .finite s c e, .finite t d f =>
    let gap := adjusted c e - adjusted d f
    let low := min e f
    if c = 0 ∨ gap ≤ -2 then
      .ok (.finite (s != t) 0 0, .finite s (rescaled .halfEven s c e low) low)
    else if (precision : Int) < gap then .error .impossible
    else
      let n := c * Nat.pow 10 (e - low).toNat
      let k := d * Nat.pow 10 (f - low).toNat
      if precision < digitCount (n / k) then .error .impossible
      else .ok (.finite (s != t) (n / k) 0, .finite s (n % k) low)
  | _, _ => .error .invalid

def fitted : Scaled → Result Scaled
  | .finite s c e => fit s c e
  | d => .ok d

def floorDiv (a b : Scaled) : Result Scaled :=
  let s := a.isNegative != b.isNegative
  match propagated? [a, b], a, b with
  | some r, _, _ => r
  | none, .infinite _, .infinite _ => .error .invalid
  | none, .infinite _, _ => .ok (.infinite s)
  | none, _, .infinite _ => .ok (.finite s 0 0)
  | none, .finite _ c _, .finite _ d _ =>
    if d = 0 then .error (if c = 0 then .zeroByZero else .byZero)
    else do fitted (← wholeParts a b).1
  | none, _, _ => .ok a

def mod (a b : Scaled) : Result Scaled :=
  match propagated? [a, b], a, b with
  | some r, _, _ => r
  | none, .infinite _, _ => .error .invalid
  | none, .finite s c e, .infinite _ => fit s c e
  | none, .finite _ c _, .finite _ d _ =>
    if d = 0 then .error (if c = 0 then .zeroByZero else .invalid)
    else do fitted (← wholeParts a b).2
  | none, _, _ => .ok a

/-- Quotient towards zero together with the remainder. -/
def divMod (a b : Scaled) : Result (Scaled × Scaled) :=
  let s := a.isNegative != b.isNegative
  match propagated? [a, b], a, b with
  | some r, _, _ => do
    let d ← r
    return (d, d)
  | none, .infinite _, .infinite _ => .error .invalid
  | none, .infinite _, _ => .error .invalid
  | none, .finite t c e, .infinite _ => do return (.finite s 0 0, ← fit t c e)
  | none, .finite _ c _, .finite _ d _ =>
    if d = 0 then .error (if c = 0 then .zeroByZero else .invalidByZero)
    else do
      let (q, r) ← wholeParts a b
      return (← fitted q, ← fitted r)
  | none, _, _ => .error .invalid

/-- Whether a finite number is an integer. -/
def isInteger (c : Nat) (e : Int) : Bool :=
  c == 0 || decide (0 ≤ e) ||
    (decide ((-e).toNat < digitCount c) && c % Nat.pow 10 (-e).toNat == 0)

/-- The parity of a finite integer. -/
def isOdd (c : Nat) (e : Int) : Bool :=
  if 0 < e then false else (c / Nat.pow 10 (-e).toNat) % 2 == 1

/-- A power with a whole exponent by repeated squaring, each product cut to so many digits. The fuel
bounds the number of binary digits. -/
def powerSteps (digits : Nat) : Nat → Nat → Nat × Int → Nat × Int → Nat × Int
  | 0, _, _, acc => acc
  | fuel + 1, n, b, acc =>
    if n = 0 then acc
    else
      let cut (p : Nat × Int) : Nat × Int :=
        match roundTo digits false p.1 p.2 with
        | .finite _ c e => (c, e)
        | _ => p
      let times (p q : Nat × Int) : Nat × Int := cut (p.1 * q.1, p.2 + q.2)
      powerSteps digits fuel (n / 2) (if n = 1 then b else times b b)
        (if n % 2 = 1 then times acc b else acc)

def wholePower (s : Bool) (c : Nat) (e : Int) (n : Int) : Result Scaled :=
  let digits := precision + digitCount n.natAbs + 4
  let negative := s && n % 2 != 0
  if 10 * topExponent < (n.natAbs : Int) * (adjusted c e).natAbs then
    if decide (0 < n) == decide (0 < adjusted c e) then .error .tooLarge
    else .ok (.finite negative 0 leastExponent)
  else
    let base := if n < 0 then quotient (digits + 1) 1 0 c e else (c, e)
    let (c, e) := powerSteps digits (Nat.log2 n.natAbs + 1) n.natAbs base (1, 0)
    fit negative c e

/-! ### Roots, logarithms and exponentials -/

def squareRoot (a : Scaled) : Result Scaled :=
  match propagated? [a], a with
  | some r, _ => r
  | none, .infinite s => if s then .error .invalid else .ok a
  | none, .finite s c e =>
    if c = 0 then fit s 0 (Int.fdiv e 2)
    else if s then .error .invalid
    else
      -- one digit more than the precision, and a sign of what lies beyond it
      let (e', c') := if e % 2 = 0 then (Int.fdiv e 2, c) else (Int.fdiv e 2, c * 10)
      let len := (digitCount c' + 1) / 2
      let shift : Int := precision + 1 - len
      let n := if 0 ≤ shift then c' * Nat.pow 100 shift.toNat else c' / Nat.pow 100 (-shift).toNat
      let lost := decide (shift < 0) && c' % Nat.pow 100 (-shift).toNat != 0
      let r := Number.squareRoot n
      let k := e' - shift
      if r * r = n ∧ !lost then
        let (r, k) := dropZeros (Int.fdiv e 2) (precision + 2) r k
        let (r, k) := if Int.fdiv e 2 < k then
            (r * Nat.pow 10 (k - Int.fdiv e 2).toNat, Int.fdiv e 2) else (r, k)
        fit false r k
      else fit false (if r % 5 = 0 then r + 1 else r) k
  | none, _ => .ok a

/-- The digits that series are computed with. -/
def seriesDigits : Nat := 80

def seriesUnit : Nat := Nat.pow 10 seriesDigits

/-- The sum of `x^n / n!` in units of the last digit of series, term by term. -/
def expTerms (x : Int) : Nat → Nat → Int → Int → Int
  | 0, _, _, acc => acc
  | fuel + 1, n, term, acc =>
    let next := Int.tdiv (Int.tdiv (term * x) seriesUnit) n
    if next = 0 then acc else expTerms x fuel (n + 1) next (acc + next)

/-- The exponential of a small number in units of the last digit of series. -/
def expSeries (x : Int) : Int :=
  -- the argument is halved until the series is short, and the result squared as often
  let halvings : Nat := 12
  let y := expTerms (Int.tdiv x (Nat.pow 2 halvings)) 200 1 seriesUnit seriesUnit
  (List.range halvings).foldl (fun y _ => Int.tdiv (y * y) seriesUnit) y

/-- The sum of `2 z^(2n+1) / (2n+1)` in units of the last digit of series. -/
def logTerms (zz : Int) : Nat → Nat → Int → Int → Int
  | 0, _, _, acc => acc
  | fuel + 1, n, power, acc =>
    if power = 0 then acc
    else logTerms zz fuel (n + 2) (Int.tdiv (power * zz) seriesUnit) (acc + Int.tdiv (2 * power) n)

/-- The logarithm of a quotient between 1 and 10, in units of the last digit of series. -/
def logSeries (num den : Nat) : Int :=
  -- roots bring the number close to one
  let roots : Nat := 8
  let x : Nat := (List.range roots).foldl (fun x _ => Number.squareRoot (x * seriesUnit)) (num * seriesUnit / den)
  let z : Int := Int.tdiv (((x : Int) - seriesUnit) * seriesUnit) ((x : Int) + seriesUnit)
  logTerms (Int.tdiv (z * z) seriesUnit) 400 1 z 0 * Nat.pow 2 roots

def logTen : Int := logSeries 10 1

/-- The logarithm of a positive number in units of the last digit of series. -/
def logOf (c : Nat) (e : Int) : Int :=
  let k : Int := digitCount c - 1
  logSeries c (Nat.pow 10 k.toNat) + (e + k) * logTen

/-- The exponential of a number given in units of the last digit of series, as a coefficient with
many digits and an exponent. -/
def expOf (x : Int) : Nat × Int :=
  let k := Int.fdiv x logTen
  ((expSeries (x - k * logTen)).natAbs, k - seriesDigits)

/-- A number with many digits rounded to the precision; the last digits of it are not exact. -/
def roundInexact (negative : Bool) (c : Nat) (e : Int) : Result Scaled :=
  match roundTo (precision + 20) negative c e with
  | .finite s c e => do
    match ← fit s c e with
    | .finite s c e =>
      let missing := precision - digitCount c
      return .finite s (c * Nat.pow 10 missing) (e - missing)
    | d => return d
  | d => .ok d

/-- A finite number in units of the last digit of series. -/
def inUnits (s : Bool) (c : Nat) (e : Int) : Int :=
  let n := if 0 ≤ e + seriesDigits then c * Nat.pow 10 (e + seriesDigits).toNat
    else c / Nat.pow 10 (-(e + seriesDigits)).toNat
  signed s n

def exponential (a : Scaled) : Result Scaled :=
  match propagated? [a], a with
  | some r, _ => r
  | none, .infinite s => .ok (if s then .finite false 0 0 else .infinite false)
  | none, .finite s c e =>
    if c = 0 then .ok (.finite false 1 0)
    else if 8 < adjusted c e then
      if s then .ok (.finite false 0 leastExponent) else .error .tooLarge
    else if adjusted c e < -(precision + 2 : Nat) then
      .ok (.finite false (Nat.pow 10 (precision - 1)) (1 - (precision : Int)))
    else
      let (c, k) := expOf (inUnits s c e)
      roundInexact false c k
  | none, _ => .ok a

/-- The natural logarithm, or the one to base ten. -/
def logarithm (decimal : Bool) (a : Scaled) : Result Scaled :=
  match propagated? [a], a with
  | some r, _ => r
  | none, .infinite s => if s then .error .invalid else .ok a
  | none, .finite s c e =>
    if c = 0 then .ok (.infinite true)
    else if s then .error .invalid
    else if c = Nat.pow 10 (digitCount c - 1) ∧ (decimal ∨ adjusted c e = 0) then
      fit (decide (adjusted c e < 0)) (adjusted c e).natAbs 0
    else
      let x := logOf c e
      let x := if decimal then Int.tdiv (x * seriesUnit) logTen else x
      roundInexact (decide (x < 0)) x.natAbs (-(seriesDigits : Int))
  | none, _ => .ok a

def pow (a b : Scaled) : Result Scaled :=
  match propagated? [a, b], a, b with
  | some r, _, _ => r
  | none, .finite s c e, .finite t d f =>
    if d = 0 then (if c = 0 then .error .invalid else .ok (.finite false 1 0))
    else
      let whole := isInteger d f
      let odd := whole && isOdd d f
      if c = 0 then
        .ok (if t then .infinite (s && odd) else .finite (s && odd) 0 0)
      else if s && !whole then .error .invalid
      else if whole then
        if adjusted d f ≤ 12 then wholePower s c e (((Scaled.finite t d f).truncate?).getD 0)
        else if c = Nat.pow 10 (digitCount c - 1) ∧ adjusted c e = 0 then
          .ok (.finite (s && odd) 1 0)
        else if decide (0 < adjusted c e ∨ (adjusted c e = 0 ∧ c ≠ 1)) != t then .error .tooLarge
        else .ok (.finite (s && odd) 0 leastExponent)
      else if c = Nat.pow 10 (digitCount c - 1) ∧ adjusted c e = 0 then
        .ok (.finite false (Nat.pow 10 (precision - 1)) (1 - (precision : Int)))
      else
        let x := Int.tdiv (logOf c e * inUnits t d f) seriesUnit
        let (r, k) := expOf x
        roundInexact false r k
  | none, .infinite s, .finite t d f =>
    if d = 0 then .ok (.finite false 1 0)
    else
      let odd := isInteger d f && isOdd d f
      if s && !isInteger d f then .error .invalid
      else .ok (if t then .finite (s && odd) 0 0 else .infinite (s && odd))
  | none, .finite s c e, .infinite t =>
    if s && c ≠ 0 then .error .invalid
    else
      let large := c ≠ 0 ∧ (0 < adjusted c e ∨ (adjusted c e = 0 ∧ c ≠ Nat.pow 10 (digitCount c - 1)))
      if c = Nat.pow 10 (digitCount c - 1) ∧ adjusted c e = 0 then
        .ok (.finite false (Nat.pow 10 (precision - 1)) (1 - (precision : Int)))
      else .ok (if decide large != t then .infinite false else .finite false 0 0)
  | none, .infinite s, .infinite t =>
    if s then .error .invalid else .ok (if t then .finite false 0 0 else .infinite false)
  | none, _, _ => .ok a

/-! ### Order -/

/-- The order of two numbers; a value that is not a number has none. -/
def order? (a b : Scaled) : Option Ordering :=
  match a, b with
  | .notANumber .., _ | _, .notANumber .. => none
  | .infinite s, .infinite t => some (if s == t then .eq else if s then .lt else .gt)
  | .infinite s, _ => some (if s then .lt else .gt)
  | _, .infinite t => some (if t then .gt else .lt)
  | .finite s c e, .finite t d f =>
    let (n, _) := exactSum s c e (!t) d f
    some (Ord.compare n 0)

/-- The number as an integer, rounded. -/
def wholeBy (r : Rounding) : Scaled → Scaled
  | .finite s c e => if 0 ≤ e then .finite s c e else .finite s (rescaled r s c e 0) 0
  | d => d

/-- A number brought to the exponent of another one. -/
def quantize (r : Rounding) (a b : Scaled) : Result Scaled :=
  match propagated? [a, b], a, b with
  | some r, _, _ => r
  | none, .infinite _, .infinite _ => .ok a
  | none, .finite s c e, .finite _ _ f =>
    if f < leastExponent ∨ topExponent < f then .error .invalid
    else if c ≠ 0 ∧ (precision : Int) < adjusted c e - f + 1 then .error .invalid
    else
      let c' := rescaled r s c e f
      if precision < digitCount c' then .error .invalid else .ok (.finite s c' f)
  | none, _, _ => .error .invalid

/-- A number without zeros at the end. -/
def normalized (a : Scaled) : Result Scaled := do
  match ← plus a with
  | .finite s c e =>
    if c = 0 then return .finite a.isNegative 0 0
    let (c, e) := dropZeros topExponent (digitCount c) c e
    return .finite s c e
  | d => return d

/-- The exponent of the leading digit as a number. -/
def leadingDigit (a : Scaled) : Result Scaled :=
  match propagated? [a], a with
  | some r, _ => r
  | none, .infinite _ => .ok (.infinite false)
  | none, .finite _ c e =>
    if c = 0 then .error .byZero
    else .ok (.finite (decide (adjusted c e < 0)) (adjusted c e).natAbs 0)
  | none, d => .ok d

/-- The total order of all values: by sign, magnitude and exponent. -/
def totalOrder (a b : Scaled) : Ordering :=
  let rank : Scaled → Nat
    | .notANumber _ true _ => 1
    | .notANumber _ false _ => 2
    | _ => 0
  let flip (o : Ordering) : Ordering := if a.isNegative then o.swap else o
  if a.isNegative && !b.isNegative then .lt
  else if !a.isNegative && b.isNegative then .gt
  else match a, b with
    | .notANumber _ _ m, .notANumber _ _ n =>
      flip ((Ord.compare (rank b) (rank a)).swap.then (Ord.compare m n))
    | .notANumber .., _ => flip .gt
    | _, .notANumber .. => flip .lt
    | .finite s c e, .finite t d f =>
      match order? (.finite s c e) (.finite t d f) with
      | some .eq => flip (Ord.compare e f)
      | some o => o
      | none => .eq
    | a, b => (order? a b).getD .eq

end Scaled

end LiveMarkdown.Number
