import LiveMarkdown.Script.Convert

/-!
The methods of numbers and of days.
-/

namespace LiveMarkdown.Script

namespace NumberMethod

/-! ### Integers -/

/-- The bytes of a number, the highest first. -/
def bigEndian (n count : Nat) : List UInt8 :=
  (List.range count).reverse.map fun i => UInt8.ofNat (n / Nat.pow 256 i)

/-- Whether the lowest byte comes first. -/
def lowFirst (func : String) (v : Option Value) : Run Bool := do
  match v with
  | none => return false
  | some v =>
    match ← textArg? v with
    | some "big" => return false
    | some "little" => return true
    | some _ => Run.valueError "byteorder must be either 'little' or 'big'"
    | none => Run.typeError s!"{func}() argument 'byteorder' must be str, not {← Kind.given v}"

def toBytes (m : Machine) (n : Int) (a : Args) : Run Value := do
  match ← (Signature.mk "to_bytes" ["length", "byteorder"] 0 0 ["signed"]).take a with
  | [size, order, sign] =>
    let size ← match size with
      | some v => Subscript.integer m v
      | none => pure 1
    let little ← lowFirst "to_bytes" order
    let signed ← match sign with
      | some v => Iteration.truth m v
      | none => pure false
    if size < 0 then Run.valueError "length argument must be non-negative"
    if n < 0 && !signed then
      Run.raise "OverflowError" "can't convert negative int to unsigned"
    let size := size.toNat
    let limit : Int := if signed then Int.pow 2 (8 * size) / 2 else Int.pow 2 (8 * size)
    if (limit ≤ n && n ≠ 0) || n < -limit then Run.raise "OverflowError" "int too big to convert"
    let bs := bigEndian (Int.fmod n (Int.pow 2 (8 * size))).toNat size
    return .bytes (if little then bs.reverse else bs)
  | _ => return .none

/-- The bytes that a value stands for where a number is read from bytes. -/
def byteItems (m : Machine) (v : Value) : Run (List UInt8) := do
  let refuse : Run (List UInt8) := do
    Run.typeError s!"cannot convert '{← Kind.name v}' object to bytes"
  match ← Kind.special? v "__bytes__" with
  | some f =>
    match ← m.call f [] with
    | .bytes bs => return bs
    | r => Run.typeError s!"__bytes__ returned non-bytes (type {← Kind.name r})"
  | none =>
    let c ← Kind.core v
    match c, ← Run.bytes? c with
    | _, some bs => return bs
    | .str _, _ => refuse
    | _, _ =>
      match ← Iteration.catching "TypeError" (Iteration.iter m v) with
      | none => refuse
      | some it =>
        (← Iteration.drain m it).mapM fun x => do
          let n ← Subscript.integer m x
          if n < 0 || 255 < n then Run.valueError "bytes must be in range(0, 256)"
          return UInt8.ofNat n.toNat

def fromBytes (m : Machine) (a : Args) : Run Value := do
  match ← (Signature.mk "from_bytes" ["bytes", "byteorder"] 1 0 ["signed"]).take a with
  | [some v, order, sign] =>
    let little ← lowFirst "from_bytes" order
    let signed ← match sign with
      | some v => Iteration.truth m v
      | none => pure false
    let bs ← byteItems m v
    let bs := if little then bs.reverse else bs
    let n : Nat := bs.foldl (fun (n : Nat) (b : UInt8) => n * 256 + b.toNat) 0
    let limit := Nat.pow 2 (8 * bs.length)
    return .int (if signed && limit ≤ 2 * n && !bs.isEmpty then (n : Int) - limit else n)
  | _ => return .none

def ones : Nat → Nat → Nat
  | 0, _ => 0
  | fuel + 1, n => n % 2 + ones fuel (n / 2)

def callInt (m : Machine) (n : Int) (name : String) (a : Args) : Run Value := do
  match name with
  | "to_bytes" => toBytes m n a
  | "from_bytes" => fromBytes m a
  | name =>
    a.none ("int." ++ name)
    match name with
    | "bit_length" => return .int (if n = 0 then 0 else Nat.log2 n.natAbs + 1)
    | "bit_count" => return .int (ones (Nat.log2 n.natAbs + 1) n.natAbs)
    | "as_integer_ratio" => return .tuple [.int n, .int 1]
    | _ => return .int n

/-! ### Binary fractions -/

/-- A binary fraction in base sixteen. -/
def hexText (x : Float) : String :=
  let sign := if Number.isNegative x then "-" else ""
  if Number.isNaN x then "nan"
  else if Number.isInfinite x then sign ++ "inf"
  else
    let bits := x.toBits.toNat % Nat.pow 2 63
    let e : Nat := bits / Nat.pow 2 52
    let digits := String.ofList (Text.hexDigits 13 (bits % Nat.pow 2 52))
    if bits = 0 then sign ++ "0x0.0p+0"
    else if e = 0 then sign ++ "0x0." ++ digits ++ "p-1022"
    else
      let p : Int := Int.ofNat e - 1023
      sign ++ "0x1." ++ digits ++ "p" ++ (if 0 ≤ p then "+" else "-") ++ toString p.natAbs

/-- What a text in base sixteen stands for: nothing, a number that is too large, or a number. -/
inductive HexNumber where
  | malformed
  | tooLarge
  | number (x : Float)

def hexValue (ds : List Char) : Nat := ds.foldl (fun n c => n * 16 + (Convert.digit? c).getD 0) 0

/-- Reads a binary fraction in base sixteen. -/
def readHex (s : String) : HexNumber :=
  let (negative, cs) := Convert.takeSign (Text.trim Text.isBlank s.toList)
  let signed (x : Float) : HexNumber := .number (if negative then -x else x)
  let isHex (c : Char) : Bool :=
    match Convert.digit? c with
    | some n => decide (n < 16) && decide (c.toNat < 128)
    | none => false
  match Text.lower (String.ofList cs) with
  | "inf" | "infinity" => signed (1.0 / 0.0)
  | "nan" => signed (0.0 / 0.0)
  | _ =>
    let cs := match cs with
      | '0' :: x :: r => if x = 'x' ∨ x = 'X' then r else cs
      | cs => cs
    let whole := cs.takeWhile isHex
    let (part, rest) := match cs.drop whole.length with
      | '.' :: r => (r.takeWhile isHex, r.dropWhile isHex)
      | r => ([], r)
    let finish (e : Int) : HexNumber :=
      let n := hexValue (whole ++ part)
      let e := e - 4 * part.length
      if n = 0 then signed 0
      else if 5000 < e + Nat.log2 n then .tooLarge
      else if e + Nat.log2 n < -5000 then signed 0
      else
        let x := if 0 ≤ e then Number.nearestFloat (n * Nat.pow 2 e.toNat) 1
          else Number.nearestFloat n (Nat.pow 2 (-e).toNat)
        if Number.isInfinite x then .tooLarge else signed x
    if whole = [] ∧ part = [] then .malformed
    else match rest with
      | [] => finish 0
      | c :: r =>
        if c ≠ 'p' ∧ c ≠ 'P' then .malformed
        else
          let (minus, ds) := Convert.takeSign r
          if ds = [] ∨ !ds.all Spec.isDigit then .malformed
          else
            let e : Nat := ds.foldl (fun (n : Nat) c => n * 10 + (c.toNat - 48)) 0
            finish (if minus then -(e : Int) else e)

def fromHex (m : Machine) (cls : Value) (a : Args) : Run Value := do
  let v ← a.one "float.fromhex"
  match ← textArg? v with
  | none => Run.typeError "bad argument type for built-in operation"
  | some s =>
    match readHex s with
    | .malformed => Run.valueError "invalid hexadecimal floating-point string"
    | .tooLarge => Run.raise "OverflowError" "hexadecimal value too large to represent as a float"
    | .number x =>
      match cls with
      | .type "float" => return .float x
      | cls => m.call cls [.float x]

/-- A binary fraction as a quotient in lowest terms. -/
def ratioOf (x : Float) : Int × Nat :=
  let (n, d) := (Number.Binary.ofFloat x).ratio
  let g := max 1 (Nat.gcd n d)
  let n : Int := Int.ofNat (n / g)
  (if Number.isNegative x then -n else n, d / g)

def callFloat (x : Float) (name : String) (a : Args) : Run Value := do
  a.none ("float." ++ name)
  match name with
  | "is_integer" => return .bool (Number.isFinite x && Float.floor x == x)
  | "as_integer_ratio" =>
    if Number.isNaN x then Run.valueError "cannot convert NaN to integer ratio"
    if Number.isInfinite x then
      Run.raise "OverflowError" "cannot convert Infinity to integer ratio"
    let (n, d) := ratioOf x
    return .tuple [.int n, .int d]
  | "hex" => return .str (hexText x)
  | _ => return .float x

def callComplex (x y : Float) (name : String) (a : Args) : Run Value := do
  a.none ("complex." ++ name)
  match name with
  | "conjugate" => return .complex x (-y)
  | "__getnewargs__" => return .tuple [.float x, .float y]
  | _ => return .complex x y

/-! ### Fractions -/

/-- The steps of the continued fraction of a quotient as long as the denominators stay within a limit.
The fuel bounds the number of steps. -/
def convergents (limit : Int) : Nat → Int → Int → Int → Int → Int → Int → Int × Int × Int × Int × Int
  | 0, p0, q0, p1, q1, _, d => (p0, q0, p1, q1, d)
  | fuel + 1, p0, q0, p1, q1, n, d =>
    if d = 0 then (p0, q0, p1, q1, d)
    else
      let a := Int.fdiv n d
      let q2 := q0 + a * q1
      if limit < q2 then (p0, q0, p1, q1, d)
      else convergents limit fuel p1 q1 (p0 + a * p1) q2 d (n - a * d)

/-- The nearest fraction whose denominator is within a limit. -/
def limited (n : Int) (d : Nat) (limit : Int) : Value :=
  if (d : Int) ≤ limit then .fraction n d
  else
    let (p0, q0, p1, q1, rest) := convergents limit (2 * Nat.log2 d + 8) 0 1 1 0 n d
    let k := Int.fdiv (limit - q0) q1
    -- of the two bounds the one with the smaller denominator wins a tie
    if 2 * rest * (q0 + k * q1) ≤ d then .fraction p1 q1.toNat
    else Arithmetic.fraction (p0 + k * p1) (q0 + k * q1)

def callFraction (m : Machine) (n : Int) (d : Nat) (name : String) (a : Args) : Run Value := do
  match name with
  | "limit_denominator" =>
    let limit ← match a.at? 0 "max_denominator" with
      | some v => Subscript.integer m v
      | none => pure 1000000
    if limit < 1 then Run.valueError "max_denominator should be at least 1"
    return limited n d limit
  | name =>
    if !a.names.isEmpty || a.count ≠ 0 then
      Run.typeError
        s!"Fraction.{name}() takes 1 positional argument but {a.count + a.names.length + 1} were given"
    match name with
    | "as_integer_ratio" => return .tuple [.int n, .int d]
    | _ => return .fraction n d

/-! ### Decimal numbers -/

/-- A decimal number from text, as a program gives it. -/
def scaledOfText (s : String) : Run Value :=
  match Number.Scaled.ofText? s with
  | some d => return .decimal d
  | none => Arithmetic.scaledFault .badText

/-- A binary fraction as a decimal number, exactly. -/
def scaledOfFloat (x : Float) : Number.Scaled :=
  if Number.isNaN x then .notANumber (Number.isNegative x) false 0
  else if Number.isInfinite x then .infinite (Number.isNegative x)
  else
    let (n, d) := ratioOf x
    let k := Nat.log2 d
    .finite (Number.isNegative x) (n.natAbs * Nat.pow 5 k) (-(k : Int))

/-- An operand of a method of a decimal number. -/
def operand (v : Value) : Run Number.Scaled := do
  match ← Kind.core v with
  | .decimal d => return d
  | .int n => return Arithmetic.scaledOfInt n
  | .bool b => return Arithmetic.scaledOfInt (if b then 1 else 0)
  | _ => Run.typeError s!"conversion from {← Kind.name v} to Decimal is not supported"

/-- How a name of a way of rounding is understood. -/
def rounding? (v : Value) : Run (Option Number.Scaled.Rounding) := do
  match v with
  | .none => return some .halfEven
  | .str s =>
    return match s with
      | "ROUND_HALF_EVEN" => some .halfEven
      | "ROUND_HALF_UP" => some .halfUp
      | "ROUND_HALF_DOWN" => some .halfDown
      | "ROUND_DOWN" => some .down
      | "ROUND_UP" => some .up
      | "ROUND_FLOOR" => some .floor
      | "ROUND_CEILING" => some .ceiling
      | "ROUND_05UP" => some .zeroFiveUp
      | _ => none
  | _ => return none

def roundingArg (v : Option Value) : Run Number.Scaled.Rounding := do
  match ← rounding? (v.getD .none) with
  | some r => return r
  | none =>
    Run.typeError ("valid values for rounding are:\n  [ROUND_CEILING, ROUND_FLOOR, ROUND_UP, " ++
      "ROUND_DOWN,\n   ROUND_HALF_UP, ROUND_HALF_DOWN, ROUND_HALF_EVEN,\n   ROUND_05UP]")

/-- The parts of a decimal number as a tuple with names. -/
def scaledTuple (d : Number.Scaled) : Run Value := do
  let digitItems (c : Nat) : List Value :=
    (Number.digitsOf c).map fun ch => .int (ch.toNat - 48 : Nat)
  let (digits, exponent) : List Value × Value := match d with
    | .finite _ c e => (digitItems c, .int e)
    | .infinite _ => ([.int 0], .str "F")
    | .notANumber _ signaling mark =>
      (if mark = 0 then [] else digitItems mark, .str (if signaling then "N" else "n"))
  let sign : Value := .int (if d.isNegative then 1 else 0)
  let space ← Run.alloc (.dict #[(.str "sign", sign), (.str "digits", .tuple digits),
    (.str "exponent", exponent)])
  Run.new (.instance (.type "DecimalTuple") space (some (.tuple [sign, .tuple digits, exponent])))

/-- The kind of a decimal number in words. -/
def className (d : Number.Scaled) : String :=
  match d with
  | .notANumber _ true _ => "sNaN"
  | .notANumber .. => "NaN"
  | .infinite s => if s then "-Infinity" else "+Infinity"
  | .finite s c e =>
    let sign := if s then "-" else "+"
    if c = 0 then sign ++ "Zero"
    else if Number.Scaled.adjusted c e < Number.Scaled.bottomExponent then sign ++ "Subnormal"
    else sign ++ "Normal"

/-- An order as a number. -/
def ofOrder : Ordering → Number.Scaled
  | .lt => .finite true 1 0
  | .eq => .finite false 0 0
  | .gt => .finite false 1 0

/-- The number for an order of two decimal numbers; those that are no numbers answer themselves. -/
def orderNumber (a b : Number.Scaled) : Run Value := do
  match Number.Scaled.propagated? [a, b] with
  | some r => Arithmetic.scaled r
  | none =>
    return .decimal (ofOrder ((Number.Scaled.order? a b).getD .eq))

/-- Tests of decimal numbers that need no argument. -/
def scaledTest? (d : Number.Scaled) (name : String) : Option Bool :=
  match name, d with
  | "is_nan", d => some (match d with
    | .notANumber .. => true
    | _ => false)
  | "is_qnan", d => some (match d with
    | .notANumber _ s _ => !s
    | _ => false)
  | "is_snan", d => some (match d with
    | .notANumber _ s _ => s
    | _ => false)
  | "is_infinite", d => some (match d with
    | .infinite _ => true
    | _ => false)
  | "is_finite", d => some (match d with
    | .finite .. => true
    | _ => false)
  | "is_signed", d => some d.isNegative
  | "is_zero", d => some (match d with
    | .finite _ c _ => c == 0
    | _ => false)
  | "is_normal", d => some (match d with
    | .finite _ c e => c != 0 && decide (Number.Scaled.bottomExponent ≤ Number.Scaled.adjusted c e)
    | _ => false)
  | "is_subnormal", d => some (match d with
    | .finite _ c e => c != 0 && decide (Number.Scaled.adjusted c e < Number.Scaled.bottomExponent)
    | _ => false)
  | "is_canonical", _ => some true
  | _, _ => none

/-- Methods of decimal numbers that need no argument. -/
def scaledAlone? (d : Number.Scaled) (name : String) : Option (Run Value) :=
  match name with
  | "adjusted" => some (return .int (match d with
    | .finite _ c e => Number.Scaled.adjusted c e
    | _ => 0))
  | "as_tuple" => some (scaledTuple d)
  | "as_integer_ratio" => some do
    match d with
    | .finite s c e =>
      let n := Number.Scaled.signed s c
      match if 0 ≤ e then Arithmetic.fraction (n * Nat.pow 10 e.toNat) 1
        else Arithmetic.fraction n (Nat.pow 10 (-e).toNat : Nat) with
      | .fraction n k => return .tuple [.int n, .int k]
      | v => return v
    | .infinite _ => Run.raise "OverflowError" "cannot convert Infinity to integer ratio"
    | .notANumber .. => Run.valueError "cannot convert NaN to integer ratio"
  | "canonical" | "conjugate" | "__copy__" | "__deepcopy__" => some (return .decimal d)
  | "copy_abs" => some (return .decimal (d.withSign false))
  | "copy_negate" => some (return .decimal (d.withSign (!d.isNegative)))
  | "radix" => some (return .decimal (.finite false 10 0))
  | "number_class" => some (return .str (className d))
  | "normalize" => some (Arithmetic.scaled d.normalized)
  | "sqrt" => some (Arithmetic.scaled d.squareRoot)
  | "exp" => some (Arithmetic.scaled d.exponential)
  | "ln" => some (Arithmetic.scaled (d.logarithm false))
  | "log10" => some (Arithmetic.scaled (d.logarithm true))
  | "logb" => some (Arithmetic.scaled d.leadingDigit)
  | "to_eng_string" => some (return .str (d.textBy 3))
  | _ => none

/-- Methods of decimal numbers that take another one. -/
def scaledPair? (d e : Number.Scaled) (name : String) : Option (Run Value) :=
  let choose (least magnitude : Bool) : Run Value := do
    match d, e with
    | .notANumber _ true _, _ | _, .notANumber _ true _ => Arithmetic.scaledFault .invalid
    | .notANumber .., .notANumber .. => return .decimal d
    | .notANumber .., e => Arithmetic.scaled e.plus
    | d, .notANumber .. => Arithmetic.scaled d.plus
    | d, e =>
      let (x, y) := if magnitude then (d.withSign false, e.withSign false) else (d, e)
      let o := match Number.Scaled.order? x y with
        | some .eq | none => Number.Scaled.totalOrder d e
        | some o => o
      Arithmetic.scaled (if (o == .lt) == least then d.plus else e.plus)
  match name with
  | "compare" => some (orderNumber d e)
  | "compare_signal" => some do
    match d, e with
    | .notANumber .., _ | _, .notANumber .. => Arithmetic.scaledFault .invalid
    | d, e => orderNumber d e
  | "compare_total" => some (return .decimal (ofOrder (Number.Scaled.totalOrder d e)))
  | "compare_total_mag" =>
    let o := Number.Scaled.totalOrder (d.withSign false) (e.withSign false)
    some (return .decimal (ofOrder o))
  | "copy_sign" => some (return .decimal (d.withSign e.isNegative))
  | "max" => some (choose false false)
  | "min" => some (choose true false)
  | "max_mag" => some (choose false true)
  | "min_mag" => some (choose true true)
  | "same_quantum" => some (return .bool (match d, e with
    | .finite _ _ x, .finite _ _ y => x == y
    | .infinite _, .infinite _ => true
    | .notANumber .., .notANumber .. => true
    | _, _ => false))
  | "scaleb" => some do
    match Number.Scaled.propagated? [d, e], d, e with
    | some r, _, _ => Arithmetic.scaled r
    | none, .infinite _, _ => return .decimal d
    | none, .finite s c x, .finite t k 0 =>
      let n := Number.Scaled.signed t k
      Arithmetic.scaled (Number.Scaled.fit s c (x + n))
    | none, _, _ => Arithmetic.scaledFault .invalid
  | "remainder_near" => some do
    match d, e with
    | .finite s c x, .finite _ k y =>
      if k = 0 then Arithmetic.scaledFault (if c = 0 then .zeroByZero else .invalid)
      let low := min x y
      let n := c * Nat.pow 10 (x - low).toNat
      let q := k * Nat.pow 10 (y - low).toNat
      let r : Int := (n : Int) - Number.roundHalfEven n q * q
      Arithmetic.scaled (Number.Scaled.fit (if r = 0 then s else decide (r < 0) != s) r.natAbs low)
    | _, _ => Arithmetic.scaled (d.mod e)
  | _ => none

def callDecimal (d : Number.Scaled) (name : String) (a : Args) : Run Value := do
  let other : Run Value := do
    match a.at? 0 "other" with
    | some v => return v
    | none => Run.typeError s!"{name}() missing required argument 'other' (pos 1)"
  match scaledTest? d name with
  | some b => return .bool b
  | none =>
    match scaledAlone? d name with
    | some r => r
    | none =>
      match name with
      | "quantize" =>
        match ← (Signature.named "quantize" 1 ["exp", "rounding", "context"]).take a with
        | [some e, r, _] =>
          Arithmetic.scaled (d.quantize (← roundingArg r) (← operand e))
        | _ => return .none
      | "to_integral_value" | "to_integral" | "to_integral_exact" =>
        match Number.Scaled.propagated? [d] with
        | some r => Arithmetic.scaled r
        | none => return .decimal (d.wholeBy (← roundingArg (a.at? 0 "rounding")))
      | "fma" =>
        match ← (Signature.named "fma" 2 ["other", "third", "context"]).take a with
        | [some x, some y, _] =>
          match d, ← operand x, ← operand y with
          | .finite s c e, .finite t k f, .finite u n g =>
            let (p, low) := Number.Scaled.exactSum (s != t) (c * k) (e + f) u n g
            Arithmetic.scaled (if p = 0 then Number.Scaled.fit ((s != t) && u) 0 low
              else Number.Scaled.fit (decide (p < 0)) p.natAbs low)
          | _, x, y =>
            match d.mul x with
            | .ok z => Arithmetic.scaled (z.add y)
            | .error f => Arithmetic.scaledFault f
        | _ => return .none
      | name =>
        match scaledPair? d (← operand (← other)) name with
        | some r => r
        | none => Run.raise "AttributeError" s!"'decimal.Decimal' object has no attribute '{name}'"

end NumberMethod

namespace DayMethod

open Day

/-- Some parts of a moment replaced. -/
def replaced (m : Machine) (p : Parts) (a : Args) : Run Parts := do
  let part (i : Nat) (name : String) (old : Nat) : Run Nat := do
    match a.at? i name with
    | some v => return (← Subscript.integer m v).toNat
    | none => return old
  let year ← part 0 "year" p.year
  let month ← part 1 "month" p.month
  let day ← part 2 "day" p.day
  if month < 1 || 12 < month then Run.valueError "month must be in 1..12"
  if day < 1 || Calendar.daysInMonth year month < day then
    Run.valueError "day is out of range for month"
  return { p with
    year, month, day,
    hour := ← part 3 "hour" p.hour,
    minute := ← part 4 "minute" p.minute,
    second := ← part 5 "second" p.second,
    microsecond := ← part 6 "microsecond" p.microsecond }

/-- What days and moments have in common. -/
def common (p : Parts) (name : String) (a : Args) : Run Value := do
  let weekday := Calendar.weekday p.year p.month p.day
  match name with
  | "strftime" =>
    match a.at? 0 "format" with
    | some (.str s) => return .str (pattern p s.toList)
    | some v => Run.typeError s!"strftime() argument 1 must be str, not {← Kind.given v}"
    | none => Run.typeError "strftime() missing required argument 'format' (pos 1)"
  | "weekday" => return .int weekday
  | "isoweekday" => return .int (weekday + 1 : Nat)
  | "toordinal" => return .int (Calendar.ordinal p.year p.month p.day)
  | _ => return .none

def callDate (m : Machine) (y mo d : Nat) (name : String) (a : Args) : Run Value := do
  match name with
  | "isoformat" => return .str (Show.date y mo d)
  | "replace" =>
    let p ← replaced m { year := y, month := mo, day := d } a
    return .date p.year p.month p.day
  | name => common { year := y, month := mo, day := d } name a

def callMoment (m : Machine) (t : Moment) (name : String) (a : Args) : Run Value := do
  match name with
  | "isoformat" =>
    match a.at? 0 "sep" with
    | some (.str s) => return .str (Show.moment s t)
    | _ => return .str (Show.moment "T" t)
  | "date" => return .date t.year t.month t.day
  | "replace" =>
    let p ← replaced m (.ofMoment t) a
    return .moment ⟨p.year, p.month, p.day, p.hour, p.minute, p.second, p.microsecond, t.offset⟩
  | name => common (.ofMoment t) name a

end DayMethod

end LiveMarkdown.Script
