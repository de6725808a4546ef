import LiveMarkdown.Number.Binary
import LiveMarkdown.Script.Value

/-!
Numbers that stand for values, so that equal values have equal numbers, and the order in which a set
goes through its items, which follows from these numbers.
-/

namespace LiveMarkdown.Script

namespace Digest

/-- The prime that numbers are reduced by. -/
def modulus : Nat := 2305843009213693951

/-- The number of infinity. -/
def infinity : Int := 314159

/-- No value has the number -1. -/
def reserved (h : Int) : Int := if h = -1 then -2 else h

/-- A word of 64 bits as a signed number. -/
def signedWord (h : UInt64) : Int :=
  if h.toNat < Nat.pow 2 63 then h.toNat else (h.toNat : Int) - Nat.pow 2 64

def word (h : Int) : UInt64 := UInt64.ofNat (Int.emod h (Nat.pow 2 64)).toNat

/-- A power in the residues of the modulus. The fuel bounds the binary digits of the exponent. -/
def powerMod : Nat → Nat → Nat → Nat → Nat
  | 0, _, _, acc => acc
  | fuel + 1, b, n, acc =>
    if n = 0 then acc
    else powerMod fuel (b * b % modulus) (n / 2) (if n % 2 = 1 then acc * b % modulus else acc)

/-- A quotient in the residues of the modulus. -/
def ofQuotient (n : Int) (d : Nat) : Int :=
  let inverse := powerMod 64 (d % modulus) (modulus - 2) 1
  let h : Int := if d % modulus = 0 then infinity else (n.natAbs * inverse % modulus : Nat)
  reserved (if n < 0 then -h else h)

def ofInt (n : Int) : Int :=
  let h : Int := (n.natAbs % modulus : Nat)
  reserved (if n < 0 then -h else h)

/-- The number of a binary fraction; what is not a number has one of its own. -/
def ofFloat? (x : Float) : Option Int :=
  if Number.isNaN x then none
  else if Number.isInfinite x then some (if Number.isNegative x then -infinity else infinity)
  else
    let (n, d) := (Number.Binary.ofFloat x).ratio
    some (ofQuotient (if Number.isNegative x then -(n : Int) else n) d)

def ofComplex? (a b : Float) : Option Int := do
  let h ← ofFloat? a
  let k ← ofFloat? b
  return reserved (signedWord (word h + 1000003 * word k))

/-- The number of a tuple from those of its items. -/
def ofItems (hs : List Int) : Int :=
  let p1 : UInt64 := 11400714785074694791
  let p2 : UInt64 := 14029467366897019727
  let p5 : UInt64 := 2870177450012600261
  let acc := hs.foldl (fun (acc : UInt64) h =>
    let acc : UInt64 := acc + word h * p2
    ((acc <<< 31) ||| (acc >>> 33)) * p1) p5
  let acc := acc + (UInt64.ofNat hs.length ^^^ (p5 ^^^ (3527539 : UInt64)))
  if acc == 18446744073709551615 then 1546275796 else signedWord acc

/-- The number of a set that cannot change, from those of its items. -/
def ofSet (hs : List Int) : Int :=
  let shuffled (h : UInt64) : UInt64 := ((h ^^^ (89869747 : UInt64)) ^^^ (h <<< 16)) * 3644798167
  let acc := hs.foldl (fun (acc : UInt64) h => acc ^^^ shuffled (word h)) (0 : UInt64)
  let acc := acc ^^^ ((UInt64.ofNat hs.length + 1) * 1927868237)
  let acc := acc ^^^ ((acc >>> 11) ^^^ (acc >>> 25))
  let acc := acc * 69069 + 907133923
  if acc == 18446744073709551615 then 590923713 else signedWord acc

/-- A decimal number in the residues of the modulus. -/
def ofScaled? : Number.Scaled → Option Int
  | .finite s c e =>
    let n : Nat := if 0 ≤ e then c % modulus * powerMod 64 10 e.toNat 1 % modulus
      else c % modulus * powerMod 64 (powerMod 64 10 (modulus - 2) 1) (-e).toNat 1 % modulus
    some (reserved (if s then -(n : Int) else n))
  | .infinite s => some (if s then -infinity else infinity)
  | .notANumber .. => none

/-- The number of a value that is made of numbers. -/
def ofValue? : Value → Option Int
  | .bool b => some (if b then 1 else 0)
  | .int n => some (ofInt n)
  | .float x => ofFloat? x
  | .complex a b => ofComplex? a b
  | .fraction n d => some (ofQuotient n d)
  | .decimal d => ofScaled? d
  | .tuple vs => (ofAll? vs).map ofItems
  | _ => none
where
  ofAll? : List Value → Option (List Int)
    | [] => some []
    | v :: vs =>
      match ofValue? v, ofAll? vs with
      | some h, some hs => some (h :: hs)
      | _, _ => none

/-! ### The order of sets -/

/-- A table of items with their numbers. -/
abbrev Slots := Array (Option (Value × Int))

/-- How many neighbours of a place are tried before another place is computed. -/
def neighbours : Nat := 9

/-- The place for a new item. The fuel bounds the tries. -/
def freePlace (t : Slots) : Nat → Nat → UInt64 → Nat
  | 0, i, _ => i
  | fuel + 1, i, rest =>
    let mask := t.size - 1
    let tries := if i + neighbours ≤ mask then neighbours + 1 else 1
    match (List.range tries).find? fun k => ((t[i + k]?).getD none).isNone with
    | some k => i + k
    | none =>
      let rest := rest >>> 5
      freePlace t fuel (((UInt64.ofNat i * 5 + 1 + rest) &&& UInt64.ofNat mask).toNat) rest

def put (t : Slots) (x : Value × Int) : Slots :=
  let h := word x.2
  t.set! (freePlace t (t.size + 64) (h &&& UInt64.ofNat (t.size - 1)).toNat h) (some x)

/-- The first power of two from 8 on that is greater than a number. The fuel bounds the doublings. -/
def tableSize (n : Nat) : Nat → Nat → Nat
  | 0, size => size
  | fuel + 1, size => if size ≤ n then tableSize n fuel (2 * size) else size

/-- Adds an item to a table, which grows when it is three fifths full. -/
def add (t : Slots × Nat) (x : Value × Int) : Slots × Nat :=
  let (slots, count) := t
  let slots := put slots x
  let count := count + 1
  if count * 5 < (slots.size - 1) * 3 then (slots, count)
  else
    let size := tableSize (if 50000 < count then count * 2 else count * 4) 64 8
    ((slots.toList.filterMap id).foldl put (Array.replicate size none), count)

/-- The items of a set in the order in which they are gone through, if all are made of numbers;
otherwise in the order in which they were added. -/
def setOrder (items : List Value) : List Value :=
  let pairs := items.map fun v => (ofValue? v).map fun h => (v, h)
  if pairs.all Option.isSome then
    let (t, _) := (pairs.filterMap id).foldl add (Array.replicate 8 none, 0)
    (t.toList.filterMap id).map (·.1)
  else items

end Digest

end LiveMarkdown.Script
