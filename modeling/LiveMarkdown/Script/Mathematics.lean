import LiveMarkdown.Number.Elementary
import LiveMarkdown.Script.Native

/-!
The functions of the module for mathematics.
-/

namespace LiveMarkdown.Script

namespace Mathematics

/-- Functions of one binary fraction, with the numbers that they are defined for. -/
def real? (name : String) : Option ((Float → Float) × (Float → Bool)) :=
  let all : Float → Bool := fun _ => true
  let finite : Float → Bool := fun x => !Number.isInfinite x
  match name with
  | "sqrt" => some (Float.sqrt, fun x => 0 ≤ x)
  | "exp" => some (Float.exp, all)
  | "sin" => some (Float.sin, finite)
  | "cos" => some (Float.cos, finite)
  | "tan" => some (Float.tan, finite)
  | "asin" => some (Float.asin, fun x => -1 ≤ x && x ≤ 1)
  | "acos" => some (Float.acos, fun x => -1 ≤ x && x ≤ 1)
  | "atan" => some (Float.atan, all)
  | "sinh" => some (Float.sinh, all)
  | "cosh" => some (Float.cosh, all)
  | "tanh" => some (Float.tanh, all)
  | "asinh" => some (Float.asinh, all)
  | "acosh" => some (Float.acosh, fun x => 1 ≤ x)
  | "atanh" => some (Float.atanh, fun x => -1 < x && x < 1)
  | "fabs" => some (Float.abs, all)
  | "cbrt" => some (Float.cbrt, all)
  | "exp2" => some (Float.exp2, all)
  | "expm1" => some (Number.expMinusOne, all)
  | "log1p" => some (Number.logOnePlus, fun x => -1 < x)
  | "erf" => some (Number.erf, all)
  | "erfc" => some (Number.erfComplement, all)
  | "gamma" => some (Number.gamma, fun x => 0 < x || Float.floor x != x)
  | "lgamma" => some (Number.logGamma, fun x => 0 < x || Float.floor x != x || Number.isInfinite x)
  | _ => none

/-- The names of a module in the order in which it defines them. -/
def mathNames : List String :=
  ["acos", "acosh", "asin", "asinh", "atan", "atan2", "atanh", "cbrt", "ceil", "copysign", "cos",
    "cosh", "degrees", "dist", "erf", "erfc", "exp", "exp2", "expm1", "fabs", "factorial", "floor",
    "fmod", "frexp", "fsum", "gamma", "gcd", "hypot", "isclose", "isfinite", "isinf", "isnan",
    "isqrt", "lcm", "ldexp", "lgamma", "log", "log1p", "log10", "log2", "modf", "pow", "radians",
    "remainder", "sin", "sinh", "sqrt", "tan", "tanh", "trunc", "prod", "perm", "comb", "nextafter",
    "ulp"]

def mathConstants : List (String × Float) :=
  [("pi", 3.141592653589793), ("e", 2.718281828459045), ("tau", 6.283185307179586),
    ("inf", 1.0 / 0.0), ("nan", 0.0 / 0.0)]

def domainError {α : Type} : Run α := Run.valueError "math domain error"

/-- A number as a binary fraction. Text is no number. -/
def realArg (m : Machine) (v : Value) : Run Float := do
  match ← Kind.basic v with
  | .str _ | .bytes _ => Run.typeError s!"must be real number, not {← Kind.name v}"
  | _ =>
    match ← Iteration.catching "TypeError" (Convert.float m v) with
    | some x => return x
    | none => Run.typeError s!"must be real number, not {← Kind.name v}"

/-- A value rounded to an integer by a method of its own or by a rule for binary fractions. -/
def toInteger (m : Machine) (method : String) (rule : Float → Int) (ratio : Int → Nat → Int)
    (v : Value) : Run Value := do
  match ← Kind.special? v method with
  | some f => m.call f []
  | none =>
    match ← Kind.core v with
    | .int n => return .int n
    | .bool b => return .int (if b then 1 else 0)
    | .fraction n d => return .int (ratio n d)
    | v =>
      let x ← realArg m v
      discard (Convert.truncateFloat x)
      return .int (rule x)

def natArg (m : Machine) (v : Value) (message : String) : Run Nat := do
  let n ← Subscript.integer m v
  if n < 0 then Run.valueError message
  return n.toNat

/-- The product of `count` numbers from `start` on. -/
def risingProduct (start count : Nat) : Nat :=
  (List.range count).foldl (fun acc i => acc * (start + i)) 1

/-- How many ways there are to choose `k` of `n` things. -/
def choices (n k : Nat) : Nat :=
  let k := min k (n - k)
  risingProduct (n - k + 1) k / risingProduct 1 k

/-- The exact sum of finite binary fractions, rounded once. -/
def exactSum (xs : List Float) : Float :=
  let total : Int × Nat := xs.foldl (fun (acc : Int × Nat) x =>
    let (n, d) := (Number.Binary.ofFloat x).ratio
    let n : Int := if Number.isNegative x then -(n : Int) else n
    let e := max acc.2 d
    (acc.1 * (e / acc.2) + n * (e / d), e)) (0, 1)
  let r := Number.nearestFloat total.1.natAbs total.2
  if total.1 < 0 then -r else r

/-- A logarithm of a number; of an integer however large. -/
def logarithm (m : Machine) (f : Float → Float) (number : Run Float) (v : Value) : Run Float := do
  match ← Subscript.index? m v with
  | some n =>
    if n ≤ 0 then domainError
    let x := Number.ofInt n
    if Number.isFinite x then return f x
    let e := Nat.log2 n.natAbs + 1
    return f (Number.nearestFloat n.natAbs (Nat.pow 2 e)) + f 2 * Float.ofNat e
  | none =>
    let x ← number
    if x ≤ 0 then domainError
    return f x

def rangeError {α : Type} : Run α := Run.raise "OverflowError" "math range error"

/-- Calls a function of the module for mathematics. -/
def call (m : Machine) (binary : BinaryOp → Value → Value → Run Value) (name : String) (a : Args) :
    Run Value := do
  let full := "math." ++ name
  let real := realArg m
  let two : Run (Float × Float) := do
    match ← a.between name 2 2 with
    | [x, y] => return (← real x, ← real y)
    | _ => domainError
  match real? name with
  | some (f, isDefined) =>
    let x ← real (← a.one full)
    if !Number.isNaN x && !isDefined x then domainError
    let y := f x
    if Number.isInfinite y && Number.isFinite x then rangeError
    return .float y
  | none =>
  match name with
  | "floor" => toInteger m "__floor__" Number.floor (fun n d => Int.fdiv n d) (← a.one full)
  | "ceil" => toInteger m "__ceil__" Number.ceiling (fun n d => -(Int.fdiv (-n) d)) (← a.one full)
  | "trunc" =>
    let v ← a.one full
    match ← Kind.basic v with
    | .int _ | .bool _ | .float _ | .fraction .. | .decimal _ =>
      toInteger m "__trunc__" Number.truncate (fun n d => Int.tdiv n d) v
    | _ =>
      match ← Kind.special? v "__trunc__" with
      | some f => m.call f []
      | none => Run.typeError s!"type {← Kind.name v} doesn't define __trunc__ method"
  | "degrees" => return .float ((← real (← a.one full)) * (180.0 / Number.pi))
  | "radians" => return .float ((← real (← a.one full)) * (Number.pi / 180.0))
  | "log" =>
    match a.values with
    | [v] => return .float (← logarithm m Float.log (real v) v)
    | [v, b] =>
      let x ← logarithm m Float.log (real v) v
      let y ← logarithm m Float.log (real b) b
      if y == 0 then Run.raise "ZeroDivisionError" "float division by zero"
      return .float (x / y)
    | _ => Run.typeError "math.log requires 1 to 2 arguments"
  | "log2" =>
    let v ← a.one full
    return .float (← logarithm m Float.log2 (real v) v)
  | "log10" =>
    let v ← a.one full
    return .float (← logarithm m Float.log10 (real v) v)
  | "pow" =>
    let (x, y) ← two
    let r := Float.pow x y
    if Number.isNaN r && !Number.isNaN x && !Number.isNaN y then domainError
    if Number.isInfinite r && Number.isFinite x && Number.isFinite y then
      if x == 0 then domainError
      rangeError
    return .float r
  | "atan2" =>
    let (x, y) ← two
    return .float (Float.atan2 x y)
  | "copysign" =>
    let (x, y) ← two
    return .float (if Number.isNegative y then -(Float.abs x) else Float.abs x)
  | "fmod" =>
    let (x, y) ← two
    if Number.isNaN x || Number.isNaN y then return .float (x + y)
    if y == 0 || Number.isInfinite x then domainError
    return .float (Number.remainder x y)
  | "remainder" =>
    let (x, y) ← two
    if Number.isNaN x || Number.isNaN y then return .float (x + y)
    if y == 0 || Number.isInfinite x then domainError
    return .float (Number.evenRemainder x y)
  | "nextafter" =>
    let (x, y) ← two
    return .float (Number.nextToward x y)
  | "ulp" => return .float (Number.unitInLastPlace (← real (← a.one full)))
  | "frexp" =>
    let x ← real (← a.one full)
    if !Number.isFinite x then return .tuple [.float x, .int 0]
    let (f, e) := Number.splitExponent x
    return .tuple [.float f, .int e]
  | "ldexp" =>
    match ← a.between name 2 2 with
    | [v, e] =>
      let x ← real v
      match ← Kind.basic e with
      | .int k =>
        let y := Float.scaleB x (max (-5000) (min 5000 k))
        if Number.isInfinite y && Number.isFinite x then rangeError
        return .float y
      | _ => Run.typeError "Expected an int as second argument to ldexp."
    | _ => return .none
  | "hypot" =>
    a.noNames full
    return .float (Number.length (← a.values.mapM real))
  | "dist" =>
    match ← a.between name 2 2 with
    | [p, q] =>
      let xs ← (← Iteration.collect m p).mapM real
      let ys ← (← Iteration.collect m q).mapM real
      if xs.length ≠ ys.length then
        Run.valueError "both points must have the same number of dimensions"
      return .float (Number.length (xs.zipWith (· - ·) ys))
    | _ => return .none
  | "isnan" => return .bool (Number.isNaN (← real (← a.one full)))
  | "isinf" => return .bool (Number.isInfinite (← real (← a.one full)))
  | "isfinite" => return .bool (Number.isFinite (← real (← a.one full)))
  | "isclose" =>
    if 2 < a.count then
      Run.typeError s!"isclose() takes exactly 2 positional arguments ({a.count} given)"
    let part (i : Nat) (k : String) : Run Float := do
      match a.at? i k with
      | some v => real v
      | none => Run.typeError s!"isclose() missing required argument '{k}' (pos {i + 1})"
    let x ← part 0 "a"
    let y ← part 1 "b"
    let option (k : String) (d : Float) : Run Float := do
      match a.at? 99 k with
      | some v => real v
      | none => return d
    let relative ← option "rel_tol" 1e-9
    let absolute ← option "abs_tol" 0
    if relative < 0 || absolute < 0 then Run.valueError "tolerances must be non-negative"
    if x == y then return .bool true
    if Number.isInfinite x || Number.isInfinite y then return .bool false
    let d := Float.abs (y - x)
    return .bool (d ≤ Float.abs (relative * y) || d ≤ Float.abs (relative * x) || d ≤ absolute)
  | "factorial" =>
    let n ← natArg m (← a.one full) "factorial() not defined for negative values"
    if 9223372036854775807 < n then
      Run.raise "OverflowError" "factorial() argument should not exceed 9223372036854775807"
    return .int (risingProduct 1 n)
  | "gcd" =>
    a.noNames full
    let ns ← a.values.mapM (Subscript.integer m)
    return .int (Int.ofNat (ns.foldl (fun (g : Nat) (n : Int) => Nat.gcd g n.natAbs) 0))
  | "lcm" =>
    a.noNames full
    let ns ← a.values.mapM (Subscript.integer m)
    return .int (Int.ofNat (ns.foldl (fun (g : Nat) (n : Int) => Nat.lcm g n.natAbs) 1))
  | "isqrt" =>
    return .int
      (Number.squareRoot (← natArg m (← a.one full) "isqrt() argument must be nonnegative"))
  | "comb" =>
    match ← a.between name 2 2 with
    | [x, y] =>
      let n ← natArg m x "n must be a non-negative integer"
      let k ← natArg m y "k must be a non-negative integer"
      return .int (if n < k then 0 else choices n k)
    | _ => return .none
  | "perm" =>
    let vs ← a.between name 1 2
    let n ← natArg m ((vs[0]?).getD .none) "n must be a non-negative integer"
    let k ← match (vs[1]?).getD .none with
      | .none => pure n
      | v => natArg m v "k must be a non-negative integer"
    return .int (if n < k then 0 else risingProduct (n - k + 1) k)
  | "prod" =>
    if a.count ≠ 1 then
      Run.typeError s!"prod() takes exactly 1 positional argument ({a.count} given)"
    a.onlyNames name ["start"]
    let it ← Iteration.iter m ((a.values.head?).getD .none)
    let start := (a.at? 9 "start").getD (.int 1)
    (← Iteration.drain m it).foldlM (binary .mult) start
  | "fsum" =>
    let items ← Iteration.collect m (← a.one full)
    let xs ← items.mapM real
    let infinite := xs.filter fun x => !Number.isFinite x
    if !infinite.isEmpty then
      let x := infinite.foldl (· + ·) 0
      if Number.isNaN x && !infinite.any Number.isNaN then Run.valueError "-inf + inf in fsum"
      return .float x
    let r := exactSum xs
    if Number.isInfinite r then Run.raise "OverflowError" "intermediate overflow in fsum"
    return .float r
  | "modf" =>
    let x ← real (← a.one full)
    let signed (y : Float) : Float := if Number.isNegative x then -(Float.abs y) else Float.abs y
    if Number.isNaN x then return .tuple [.float x, .float x]
    if Number.isInfinite x then return .tuple [.float (signed 0), .float x]
    let whole := Number.ofInt (Number.truncate x)
    return .tuple [.float (signed (x - whole)), .float (signed whole)]
  | _ => Run.raise "AttributeError" s!"module 'math' has no attribute '{name}'"

end Mathematics

end LiveMarkdown.Script
