import LiveMarkdown.Number.Elementary
import LiveMarkdown.Script.Binding

/-!
The built-in functions.
-/

namespace LiveMarkdown.Script

namespace Native

/-- The text of an integer in a base, after its mark. -/
def based (m : Machine) (mark : String) (base : Nat) (v : Value) : Run Value := do
  let n ← Subscript.integer m v
  return .str ((if n < 0 then "-" else "") ++ mark ++
    String.ofList (Format.digitsIn base n.natAbs))

def abs (m : Machine) (v : Value) : Run Value := do
  match ← Kind.special? v "__abs__" with
  | some f => m.call f []
  | none =>
    match ← Kind.core v with
    | .int n => return .int n.natAbs
    | .bool b => return .int (if b then 1 else 0)
    | .float x => return .float (Float.abs x)
    | .complex a b =>
      let size := if Number.isInfinite a || Number.isInfinite b then 1.0 / 0.0
        else if Number.isNaN a || Number.isNaN b then 0.0 / 0.0
        else Number.length [a, b]
      if Number.isInfinite size && Number.isFinite a && Number.isFinite b then
        Run.raise "OverflowError" "absolute value too large"
      return .float size
    | .fraction n d => return .fraction n.natAbs d
    | .decimal d => Arithmetic.scaled d.abs
    | _ => Run.typeError s!"bad operand type for abs(): '{← Kind.name v}'"

/-- Whether some item, or every item, has a truth value. -/
def anyTruth (m : Machine) (want : Bool) (v : Value) : Run Bool := do
  let it ← Iteration.iter m v
  let found ← Iteration.firstWhere m it fun x => do return (← Iteration.truth m x) == want
  return found.isSome

/-- The smallest or greatest of some values; the first one wins among equals. -/
def extreme (m : Machine) (name : String) (op : CompareOp) (a : Args) : Run Value := do
  if a.count = 0 then Run.typeError s!"{name} expected at least 1 argument, got 0"
  discard ((Signature.mk name [] 0 0 ["key", "default"]).take { a with values := [] })
  let key := (a.at? 99 "key").getD .none
  let many := 1 < a.count
  if many && (a.at? 99 "default").isSome then
    Run.typeError s!"Cannot specify a default for {name}() with multiple positional arguments"
  let items ← match a.values with
    | [v] => Iteration.collect m v
    | vs => pure vs
  let keyOf (v : Value) : Run Value := match key with
    | .none => return v
    | f => m.call f [v]
  match items with
  | [] =>
    match a.at? 99 "default" with
    | some d => return d
    | none => Run.valueError s!"{name}() arg is an empty sequence"
  | v :: vs =>
    let start : Value × Value := (v, ← keyOf v)
    let best ← vs.foldlM (fun (best : Value × Value) x => do
      let k ← keyOf x
      if ← Iteration.truth m (← m.compare op k best.2) then return (x, k) else return best) start
    return best.1

def sum (m : Machine) (add : Value → Value → Run Value) (a : Args) : Run Value := do
  let vs ← (Signature.mk "sum" ["iterable", "start"] 1 1 []).take a
  let items := (vs[0]?.join).getD .none
  let start := (vs[1]?.join).getD (.int 0)
  let it ← Iteration.iter m items
  match start with
  | .str _ => Run.typeError "sum() can't sum strings [use ''.join(seq) instead]"
  | .bytes _ => Run.typeError "sum() can't sum bytes [use b''.join(seq) instead]"
  | _ => pure ()
  iterateUpTo loopLimit start fun acc => do
    match ← m.next it with
    | some x => return .inl (← add acc x)
    | none => return .inr acc

/-- An integer rounded to a multiple of a power of ten. -/
def roundInt (n : Int) (places : Int) : Int :=
  if 0 ≤ places then n
  else
    let u : Nat := Nat.pow 10 (-places).toNat
    let q := Number.roundHalfEven n.natAbs u * u
    if n < 0 then -(q : Int) else q

/-- A quotient rounded to a number of places. -/
def roundFraction (n : Int) (d : Nat) (places : Int) : Value :=
  let q (num den : Nat) : Int :=
    let q := Number.roundHalfEven num den
    if n < 0 then -(q : Int) else q
  if 0 ≤ places then
    let u : Nat := Nat.pow 10 places.toNat
    Arithmetic.fraction (q (n.natAbs * u) d) u
  else
    let u : Nat := Nat.pow 10 (-places).toNat
    .fraction (q n.natAbs (d * u) * u) 1

/-- A binary fraction rounded to a number of decimal places. -/
def roundFloat (x : Float) (places : Int) : Run Value := do
  if !Number.isFinite x then return .float x
  let (n, d) := (Number.Binary.ofFloat x).ratio
  let y :=
    if 400 < places then Float.abs x
    else if 0 ≤ places then
      Number.nearestFloat (Number.roundHalfEven (n * Nat.pow 10 places.toNat) d)
        (Nat.pow 10 places.toNat)
    else if places < -400 then 0
    else Number.nearestFloat
      (Number.roundHalfEven n (d * Nat.pow 10 (-places).toNat) * Nat.pow 10 (-places).toNat) 1
  if Number.isInfinite y then
    Run.raise "OverflowError" "rounded value too large to represent"
  return .float (if Number.isNegative x then -y else y)

/-- A decimal number rounded to an integer or to a number of places. -/
def roundScaled (d : Number.Scaled) (places : Option Int) : Run Value := do
  match places with
  | none =>
    match d with
    | .notANumber .. => Run.valueError "cannot round a NaN"
    | .infinite _ => Run.raise "OverflowError" "cannot round an infinity"
    | d => return .int (((d.wholeBy .halfEven).truncate?).getD 0)
  | some k => Arithmetic.scaled (d.quantize .halfEven (.finite false 1 (-k)))

/-- A number rounded to a number of places; a half goes to the even neighbour. -/
def round (m : Machine) (a : Args) : Run Value := do
  match ← (Signature.named "round" 1 ["number", "ndigits"]).take a with
  | [some v, digits] =>
    match ← Kind.special? v "__round__" with
    | some f => m.call f (match digits with
        | none | some .none => []
        | some k => [k])
    | none =>
      let c ← Kind.core v
      if !Arithmetic.isReal c then
        Run.typeError s!"type {← Kind.name v} doesn't define __round__ method"
      let places ← match digits.getD .none with
        | .none => pure none
        | p => do pure (some (← Subscript.integer m p))
      match c with
      | .int n => return .int (roundInt n (places.getD 0))
      | .bool b => return .int (roundInt (if b then 1 else 0) (places.getD 0))
      | .float x =>
        match places with
        | none => do
          discard (Convert.truncateFloat x)
          return .int (Number.roundEven x)
        | some k => roundFloat x k
      | .fraction n d =>
        match places with
        | none =>
          let q := Number.roundHalfEven n.natAbs d
          return .int (if n < 0 then -(q : Int) else q)
        | some k => return roundFraction n d k
      | .decimal d => roundScaled d places
      | _ => return .none
  | _ => return .none

/-- Whether a value is a class. -/
def isClass (v : Value) : Run Bool := do
  match v with
  | .type _ => return true
  | v =>
    match ← Run.deref v with
    | some (.cls _) => return true
    | _ => return false

/-- A value that claims another class by an attribute of its own is an instance of that class too. -/
def claims (m : Machine) (v c : Value) : Run Bool := do
  match v with
  | .ref _ =>
    match ← Kind.of v with
    | .ref k =>
      if (← Kind.attr? (.ref k) "__class__").isNone then return false
      match ← Iteration.catching "AttributeError" (m.attr v "__class__") with
      | some d => if ← isClass d then Kind.inherits d c else return false
      | none => return false
    | _ => return false
  | _ => return false

/-- Whether a value fits a class, one of several classes inside of each other, or a union of classes.
The classes are asked one after the other, until one fits; what is no class is refused. The fuel bounds
how deep they are inside of each other. -/
def fitsClasses (m : Machine) (asks : String) (refusal : Run Bool) (fits : Value → Run Bool) (v : Value) :
    Nat → Value → Run Bool
  | 0, _ => throw .exhausted
  | fuel + 1, c => do
    match c with
    | .tuple cs => cs.anyM (fitsClasses m asks refusal fits v fuel)
    | .type _ => fits c
    | c =>
      match ← Run.deref c with
      | some (.cls k) =>
        match ← Kind.attr? k.kind asks with
        | some f =>
          let g ← Attribute.bind m c k.kind f
          Iteration.truth m (← m.call g [v])
        | none => fits c
      | some (.union cs) =>
        let cs := cs.map fun x => match x with
          | .none => .type "NoneType"
          | x => x
        for x in cs do
          match ← Run.deref x with
          | some (.alias ..) =>
            Run.typeError
              (if asks == "__instancecheck__" then "isinstance() argument 2 cannot be a parameterized generic"
                else "issubclass() argument 2 cannot be a parameterized generic")
          | _ => pure ()
        cs.anyM (fitsClasses m asks refusal fits v fuel)
      | some (.alias ..) =>
        Run.typeError
          (if asks == "__instancecheck__" then "isinstance() argument 2 cannot be a parameterized generic"
            else "issubclass() argument 2 cannot be a parameterized generic")
      | _ =>
        match ← Kind.special? c asks with
        | some f => Iteration.truth m (← m.call f [v])
        | none => refusal

def isInstance (m : Machine) (v classes : Value) : Run Bool := do
  let cls ← Kind.of v
  -- an instance of exactly the class needs no question
  if Kind.sameClass cls classes then return true
  fitsClasses m "__instancecheck__"
    (Run.typeError "isinstance() arg 2 must be a type, a tuple of types, or a union")
    (fun c => do
      if Kind.sameClass cls c then return true
      if ← Kind.inherits cls c then return true
      claims m v c) v 100 classes

def isSubclass (m : Machine) (v classes : Value) : Run Bool := do
  let origin? : Option Value ← match ← Run.deref v with
    | some (.alias o ..) => pure (some o)
    | _ => pure none
  let checked (answer : Run Bool) : Run Bool := do
    if !(← isClass v) && origin?.isNone then Run.typeError "issubclass() arg 1 must be a class"
    answer
  fitsClasses m "__subclasscheck__"
    (checked (Run.typeError "issubclass() arg 2 must be a class, a tuple of classes, or a union"))
    (fun c => checked do
      match origin? with
      | some o => return ((← Kind.order o).drop 1).any (Kind.sameClass c)
      | none => Kind.inherits v c) v 100 classes

/-- Writes values to the output. -/
def print (m : Machine) (a : Args) : Run Value := do
  a.onlyNames "print" ["sep", "end", "file", "flush"]
  let option (name default : String) : Run String := do
    match (a.at? 99 name).getD .none with
    | .none => return default
    | v =>
      match ← textArg? v with
      | some s => return s
      | none => Run.typeError s!"{name} must be None or a string, not {← Kind.name v}"
  let sep ← option "sep" " "
  let last ← option "end" "\n"
  let parts ← a.values.mapM m.text
  Run.print (sep.intercalate parts ++ last)
  return .none

/-- A power, in a residue class if a modulus is given. -/
def modularPower (x y n : Int) : Run Value := do
  if n = 0 then Run.valueError "pow() 3rd argument cannot be 0"
  let rec power (fuel : Nat) (b : Int) (e : Nat) (acc : Int) : Int :=
    match fuel with
    | 0 => acc
    | fuel + 1 =>
      if e = 0 then acc
      else power fuel (Int.fmod (b * b) n) (e / 2) (if e % 2 = 1 then Int.fmod (acc * b) n else acc)
  if 0 ≤ y then return .int (power (Nat.log2 y.natAbs + 2) (Int.fmod x n) y.natAbs (Int.fmod 1 n))
  let k := n.natAbs
  let inverse := (List.range k).find? fun (i : Nat) => Int.fmod (x * i) k = Int.fmod 1 k
  match inverse with
  | some i => return .int (power (Nat.log2 y.natAbs + 2) i y.natAbs (Int.fmod 1 n))
  | none => Run.valueError "base is not invertible for the given modulus"

/-- A number from the content of a value; equal values have equal numbers. The fuel bounds how deep
values are inside of each other. -/
def digest (m : Machine) : Nat → Value → Run Int
  | 0, _ => throw .exhausted
  | fuel + 1, v => do
    match ← Kind.special? v "__hash__" with
    | some f =>
      match ← m.call f [] with
      | .int n =>
        return if -Int.pow 2 63 ≤ n && n < Int.pow 2 63 then Digest.reserved n else Digest.ofInt n
      | .bool b => return if b then 1 else 0
      | _ => Run.typeError "__hash__ method should return an integer"
    | none =>
      let c ← Kind.core v
      match Digest.ofValue? c with
      | some h => return h
      | none =>
        match c with
        | .tuple vs => return Digest.ofItems (← vs.mapM (digest m fuel))
        | .range a z k =>
          let n := Iteration.rangeLength a z k
          let parts : List Value := if n = 0 then [.int 0, .none, .none]
            else if n = 1 then [.int 1, .int a, .none]
            else [.int n, .int a, .int k]
          digest m fuel (.tuple parts)
        | .decimal (.notANumber _ true _) =>
          Run.typeError "Cannot hash a signaling NaN value"
        | .str s => return s.hash.toNat / 2
        | .ref r =>
          match ← Run.object? r with
          | some (.set true items) => return Digest.ofSet (← items.toList.mapM (digest m fuel))
          | some (.userText s) => return s.hash.toNat / 2
          | some (.memory view) => digest m fuel (.bytes (← Run.viewed view))
          | _ => return r * 16
        | c => return (← m.shown c).hash.toNat / 2

/-- The remainder of a power. Each of the three values is asked in turn. -/
def powerModulo (m : Machine) (x y n : Value) : Run Value := do
  match ← Kind.special? x "__pow__" with
  | some f => m.call f [y, n]
  | none =>
    let a ← Kind.basic x
    let b ← Kind.basic y
    let c ← Kind.basic n
    let isNumber : Value → Bool
      | .bool _ | .int _ | .float _ | .complex .. => true
      | _ => false
    let answer (v : Value) : Run (Option Value) := do
      match v with
      | .bool _ | .int _ =>
        match Arithmetic.intOf? a, Arithmetic.intOf? b, Arithmetic.intOf? c with
        | some p, some q, some r => return some (← modularPower p q r)
        | _, _, _ => return none
      | .float _ =>
        Run.typeError "pow() 3rd argument not allowed unless all arguments are integers"
      | .complex .. =>
        if isNumber a && isNumber b then Run.valueError "complex modulo"
        return none
      | _ => return none
    match ← [a, b, c].findSomeM? answer with
    | some r => return r
    | none =>
      Run.typeError (s!"unsupported operand type(s) for ** or pow(): '{← Kind.name x}', " ++
        s!"'{← Kind.name y}', '{← Kind.name n}'")

/-- Two numbers of which one is a binary fraction and the other can become one. -/
def floatPair? (x y : Value) : Run (Option (Float × Float)) := do
  match x, y with
  | .float p, .float q => return some (p, q)
  | .float p, y =>
    match Arithmetic.intOf? y with
    | some n => return some (p, ← Arithmetic.toFloat n)
    | none => return none
  | x, .float q =>
    match Arithmetic.intOf? x with
    | some n => return some (← Arithmetic.toFloat n, q)
    | none => return none
  | _, _ => return none

/-- The number of a value that may be a key. -/
def hash (m : Machine) (v : Value) : Run Value := do
  Comparison.hashable m v
  return .int (← digest m 100 v)

def chr (m : Machine) (v : Value) : Run Value := do
  let n ← Subscript.number m v
  if n < 0 || 0x10ffff < n then Run.valueError "chr() arg not in range(0x110000)"
  return .str (Text.ofPoint n.toNat).toString

def ord (v : Value) : Run Value := do
  match ← Kind.basic v with
  | .str s =>
    match s.toList with
    | [c] => return .int (Text.point c)
    | cs => Run.typeError s!"ord() expected a character, but string of length {cs.length} found"
  | b =>
    let bytes ← match b, ← Run.deref b with
      | .bytes bs, _ | _, some (.byteArray bs) => pure bs
      | _, _ => Run.typeError s!"ord() expected string of length 1, but {← Kind.name v} found"
    match bytes with
    | [b] => return .int b.toNat
    | bs => Run.typeError s!"ord() expected a character, but string of length {bs.length} found"

/-- The names that a namespace holds. -/
def spaceNames (r : Ref) : Run (List String) := do
  return (← Space.entries r).toList.filterMap fun (k, _) => match k with
    | .str s => some s
    | _ => none

/-- The names of the attributes that a class and those above it have. -/
def classNames (c : Value) : Run (List String) := do
  return (← (← Kind.order c).mapM fun b => do
    match b with
    | .type t => return Attribute.methodNames t ++ Member.parts t
    | b =>
      match ← Run.deref b with
      | some (.cls d) => spaceNames d.space
      | _ => return []).flatten

/-- The names of the attributes of a value that are stored with it or its classes. -/
def attributeNames (v : Value) : Run (List String) := do
  let cls ← Kind.of v
  let fieldNames (fields : Array (String × Value)) : List String :=
    (fields.toList.map (·.1)).filter fun n => n.toList.head? != some '.'
  let own ← match v, ← Run.deref v with
    | _, some (.module "builtins" _) => spaceNames (← Builtin.space)
    | _, some (.module _ space) => spaceNames space
    | _, some (.cls _) => classNames v
    | .type _, _ => classNames v
    | _, some (.instance _ space _) => do pure ((← spaceNames space) ++ (← classNames cls))
    | _, some (.exception _ _ _ _ _ fields) => do pure (fieldNames fields ++ (← classNames cls))
    | _, some (.function f) => do
      let stored ← match Attribute.ownDict? f with
        | some d => spaceNames d
        | none => pure (fieldNames f.attrs)
      pure (stored ++ (← classNames cls))
    | _, _ => classNames cls
  return (own.mergeSort fun a b => a < b || a == b).eraseReps

/-- An iterator over the items of a value from the last to the first. -/
def reversed (m : Machine) (v : Value) : Run Value := do
  let refuse : Run Value := do Run.typeError s!"'{← Kind.name v}' object is not reversible"
  match ← Kind.special? v "__reversed__" with
  | some .none => refuse
  | some f => m.call f []
  | none =>
    let items (l : List Value) : Run Value := Iteration.newIterator (.items "reversed" l.reverse)
    let entries (kind : String) (r : Ref) : Run Value := Iteration.dictIterator kind r
    let plain (b : Value) : Run Value := do
      match b with
      | .str s => items (Iteration.charItems s)
      | .tuple vs => items vs
      | .bytes bs => items (Iteration.byteItems bs)
      | .range a z s =>
        let n := Iteration.rangeLength a z s
        let last := a + (n - 1 : Int) * s
        let long := !(Iteration.isWord a && Iteration.isWord z && Iteration.isWord s)
        Iteration.newIterator (.range long last n (-s))
      | .ref r =>
        match ← Run.object? r with
        | some (.list xs) => Iteration.newIterator (.listBackwards r xs.size)
        | some (.dict _) => entries "dict_reversekeyiterator" r
        | some (.view kind source) => entries (Iteration.viewKind true kind) source
        | some (.proxy source) => entries "dict_reversekeyiterator" source
        | some (.deque _ _ changes) => Iteration.newIterator (.deque true r 0 changes)
        | some (.userList xs) => Iteration.newIterator (.items "generator" xs.toList.reverse)
        | some (.userText _) =>
          let parts ← Iteration.collect m b
          Iteration.newIterator (.items "generator" parts.reverse)
        | some (.byteArray bs) => items (Iteration.byteItems bs)
        | some (.memory view) => items (← ByteView.line view)
        | _ => refuse
      | _ => refuse
    match ← Kind.special? v "__getitem__" with
    | some _ =>
      match ← Iteration.length? m v with
      | some n => Iteration.newIterator (.indexedBackwards v n.toNat)
      | none => Run.typeError s!"object of type '{← Kind.name v}' has no len()"
    | none => plain (← Kind.basic v)

def length (m : Machine) (v : Value) : Run Value := do
  match ← Iteration.length? m v with
  | some n =>
    if !Iteration.isWord n then
      Run.raise "OverflowError" "Python int too large to convert to C ssize_t"
    return .int n
  | none => Run.typeError s!"object of type '{← Kind.name v}' has no len()"

def nameArg (v : Value) : Run String := do
  match ← textArg? v with
  | some s => return s
  | none => Run.typeError s!"attribute name must be string, not '{← Kind.name v}'"

/-- The next item of an iterator, or a default at its end. -/
def next (m : Machine) (a : Args) : Run Value := do
  let vs ← a.between "next" 1 2
  let it := (vs[0]?).getD .none
  let stop (result : Value) : Run Value := Run.raiseWith "StopIteration" (match result with
    | .none => []
    | v => [v])
  match vs[1]?, ← Run.deref it, ← Kind.special? it "__next__" with
  | none, some (.instance ..), some f => m.call f []
  | d, _, _ =>
    match ← m.next it with
    | some v => return v
    | none =>
      match d, ← Run.deref it with
      | some d, _ => return d
      | none, some (.generator g) => stop g.result
      | none, some (.pull p) => stop p.result
      | none, _ => stop .none

/-- The entries of the namespace that a value keeps its attributes in. -/
def vars (m : Machine) (v : Value) : Run Value := do
  match ← Iteration.catching "AttributeError" (m.attr v "__dict__") with
  | some d => return d
  | none => Run.typeError "vars() argument must have __dict__ attribute"

/-- Calls a built-in function that needs no view of the place of the call. -/
def call (m : Machine) (binary : BinaryOp → Value → Value → Run Value) (name : String) (a : Args) :
    Run Value := do
  match name with
  | "abs" => abs m (← a.one name)
  | "all" => return .bool (!(← anyTruth m false (← a.one name)))
  | "any" => return .bool (← anyTruth m true (← a.one name))
  | "ascii" => Format.converted m (← a.one name) 'a'
  | "bin" => based m "0b" 2 (← a.one name)
  | "oct" => based m "0o" 8 (← a.one name)
  | "hex" => based m "0x" 16 (← a.one name)
  | "callable" => return .bool (← Kind.isCallable (← a.one name))
  | "chr" => chr m (← a.one name)
  | "ord" => ord (← a.one name)
  | "delattr" =>
    match ← a.between name 2 2 with
    | [v, n] =>
      Attribute.delete m v (← nameArg n)
      return .none
    | _ => return .none
  | "dir" =>
    let v ← a.one name
    match ← Kind.special? v "__dir__" with
    | some f =>
      let names ← Iteration.collect m (← m.call f [])
      Run.newList (← Sorting.sort m names .none false)
    | none => Run.newList ((← attributeNames v).map .str)
  | "divmod" =>
    let answer (v w : Value) (method : String) : Run (Option Value) := do
      match ← Kind.special? v method with
      | some f =>
        match ← m.call f [w] with
        | .notImplemented => return none
        | r => return some r
      | none => return none
    let special (x y : Value) : Run (Option Value) := do
      match ← answer x y "__divmod__" with
      | some v => return some v
      | none => answer y x "__rdivmod__"
    match ← a.between name 2 2 with
    | [x, y] =>
      match ← special x y with
      | some v => return v
      | none =>
      match ← floatPair? x y with
      | some (p, q) =>
        if q == 0 then Arithmetic.zeroDivision "float divmod()"
        let (d, r) := Arithmetic.floatDivMod p q
        return .tuple [.float d, .float r]
      | none =>
        match ← Iteration.catching "TypeError" (binary .floorDiv x y) with
        | some q => return .tuple [q, ← binary .mod x y]
        | none =>
          Run.typeError (s!"unsupported operand type(s) for divmod(): '{← Kind.name x}' and " ++
            s!"'{← Kind.name y}'")
    | _ => return .none
  | "format" =>
    match ← a.between name 1 2 with
    | [v] => return .str (← Format.value m v "")
    | [v, s] => return .str (← Format.value m v (← Encoded.textArgument name "2" s))
    | _ => return .none
  | "getattr" =>
    match ← a.between name 2 3 with
    | [v, n] => m.attr v (← nameArg n)
    | [v, n, d] =>
      let key ← nameArg n
      return (← Iteration.catching "AttributeError" (m.attr v key)).getD d
    | _ => return .none
  | "hasattr" =>
    match ← a.between name 2 2 with
    | [v, n] =>
      let key ← nameArg n
      return .bool (← Iteration.catching "AttributeError" (m.attr v key)).isSome
    | _ => return .none
  | "setattr" =>
    match ← a.between name 3 3 with
    | [v, n, x] =>
      Attribute.set m v (← nameArg n) x
      return .none
    | _ => return .none
  | "hash" => hash m (← a.one name)
  | "id" =>
    match ← a.one name with
    | .ref r => return .int (139637976727552 + r * 64)
    | v => hash m v
  | "input" => Run.raise "EOFError" "EOF when reading a line"
  | "open" =>
    Run.raiseWith "FileNotFoundError"
      [.int 2, .str "No such file or directory", (a.values.head?).getD .none]
  | "isinstance" =>
    match ← a.between name 2 2 with
    | [v, c] => return .bool (← isInstance m v c)
    | _ => return .none
  | "issubclass" =>
    match ← a.between name 2 2 with
    | [v, c] => return .bool (← isSubclass m v c)
    | _ => return .none
  | "iter" =>
    match ← a.between name 1 2 with
    | [v] => Iteration.iter m v
    | [f, last] =>
      if !(← Kind.isCallable f) then Run.typeError "iter(v, w): v must be callable"
      Iteration.newIterator (.untilEqual f last)
    | _ => return .none
  | "len" => length m (← a.one name)
  | "max" => extreme m name .greater a
  | "min" => extreme m name .less a
  | "next" => next m a
  | "pow" =>
    match ← (Signature.named "pow" 2 ["base", "exp", "mod"]).take a with
    | [some x, some y, none] | [some x, some y, some .none] => binary .pow x y
    | [some x, some y, some n] => powerModulo m x y n
    | _ => return .none
  | "print" => print m a
  | "repr" => return .str (← m.shown (← a.one name))
  | "round" => round m a
  | "sorted" =>
    if a.count ≠ 1 then Run.typeError s!"sorted expected 1 argument, got {a.count}"
    let items ← Iteration.collect m ((a.values.head?).getD .none)
    let (key, backwards) ← ListMethod.sortArgs m { a with values := [] }
    Run.newList (← Sorting.sort m items key backwards)
  | "sum" => sum m (binary .add) a
  | "vars" =>
    match ← a.between name 0 1 with
    | v :: _ => vars m v
    | [] => return .none
  | _ => Run.raise "NameError" s!"name '{name}' is not defined"

end Native

end LiveMarkdown.Script
