import LiveMarkdown.Script.Method.Argument

/-!
The methods of dictionaries, of views of them, and of sets.
-/

namespace LiveMarkdown.Script

namespace DictMethod

/-- The entries that a value with keys gives, asked key by key. -/
def entriesByKey (m : Machine) (v keys : Value) : Run (List (Value × Value)) := do
  let found ← m.call keys []
  let refusal := s!"{← Kind.name v}.keys() returned a non-iterable (type {← Kind.name found})"
  let keys ← Iteration.drain m (← Iteration.iterOr m found refusal)
  keys.mapM fun k => do return (k, ← Subscript.get m v k)

/-- The entries of a mapping, if a value is one. -/
def mapping? (m : Machine) (v : Value) : Run (Option (List (Value × Value))) := do
  let exact (c : Value) : Run (Option (List (Value × Value))) := do
    match ← Run.deref c with
    | some (.dict es) => return some es.toList
    | some (.proxy source) =>
      match ← Run.object? source with
      | some (.dict es) => return some es.toList
      | _ => return some []
    | _ => return none
  let own ← match ← Run.deref v with
    | some (.instance ..) =>
      if (← Kind.special? v "__iter__").isSome then pure none
      else exact (← Kind.core v)
    | _ => exact v
  match own with
  | some es => return some es
  | none =>
    match v with
    | .ref _ =>
      match ← Iteration.catching "AttributeError" (m.attr v "keys") with
      | some f => return some (← entriesByKey m v f)
      | none => return none
    | _ => return none

/-- The entries of a list of pairs. -/
def pairs (m : Machine) (v : Value) : Run (List (Value × Value)) := do
  let it ← Iteration.iter m v
  let step (acc : Nat × List (Value × Value)) :
      Run ((Nat × List (Value × Value)) ⊕ List (Value × Value)) := do
    match ← m.next it with
    | none => return .inr acc.2.reverse
    | some x =>
      let i := acc.1
      match ← Iteration.catching "TypeError" (Iteration.collect m x) with
      | some [k, v] => return .inl (i + 1, (k, v) :: acc.2)
      | some l =>
        Run.valueError
          s!"dictionary update sequence element #{i} has length {l.length}; 2 is required"
      | none =>
        Run.typeError s!"cannot convert dictionary update sequence element #{i} to a sequence"
  iterateUpTo loopLimit (0, []) step

/-- The entries of a mapping, or of a list of pairs. -/
def entriesOf (m : Machine) (v : Value) : Run (List (Value × Value)) := do
  match ← mapping? m v with
  | some es => return es
  | none => pairs m v

/-- Adds entries to others; later ones win. -/
def merged (m : Machine) (es : Array (Value × Value)) (more : List (Value × Value)) :
    Run (Array (Value × Value)) :=
  more.foldlM (fun es (k, v) => do
    Comparison.hashable m k
    Comparison.putKey m es k v) es

/-- The entries that the arguments of a call give: those of a mapping, then the named ones. -/
def fromArgs (m : Machine) (func : String) (es : Array (Value × Value)) (a : Args) :
    Run (Array (Value × Value)) := do
  if 1 < a.count then
    Run.typeError s!"{func} expected at most 1 argument, got {a.count}"
  let es ← match a.values with
    | v :: _ => merged m es (← entriesOf m v)
    | [] => pure es
  merged m es (a.names.map fun (k, v) => (.str k, v))

def fromKeys (m : Machine) (a : Args) : Run Value := do
  let vs ← a.between "dict.fromkeys" 1 2
  let keys ← Iteration.collect m ((vs[0]?).getD .none)
  Run.new (.dict (← merged m #[] (keys.map fun k => (k, (vs[1]?).getD .none))))

/-- Calls a method of a dictionary. -/
def call (m : Machine) (r : Ref) (es : Array (Value × Value)) (name : String) (a : Args) :
    Run Value := do
  let full := "dict." ++ name
  let view (kind : String) : Run Value := do
    a.none full
    Run.new (.view kind r)
  match name with
  | "get" =>
    let vs ← a.between full 1 2
    let k := (vs[0]?).getD .none
    Comparison.hashable m k
    match ← Comparison.findKey m es k with
    | some i => return (es[i]?.map (·.2)).getD .none
    | none => return (vs[1]?).getD .none
  | "keys" => view "dict_keys"
  | "values" => view "dict_values"
  | "items" => view "dict_items"
  | "pop" =>
    let vs ← a.between full 1 2
    let k := (vs[0]?).getD .none
    if !es.isEmpty then Comparison.hashable m k
    match ← Comparison.findKey m es k with
    | some i =>
      Run.eraseEntry r es i
      return (es[i]?.map (·.2)).getD .none
    | none =>
      match vs[1]? with
      | some d => return d
      | none => Subscript.keyError k
  | "popitem" =>
    a.none full
    match es.back? with
    | some (k, v) =>
      Run.eraseEntry r es (es.size - 1)
      return .tuple [k, v]
    | none => Run.raise "KeyError" "popitem(): dictionary is empty"
  | "setdefault" =>
    let vs ← a.between full 1 2
    let k := (vs[0]?).getD .none
    let d := (vs[1]?).getD .none
    Comparison.hashable m k
    match ← Comparison.findKey m es k with
    | some i => return (es[i]?.map (·.2)).getD .none
    | none =>
      Run.write r (.dict (es.push (k, d)))
      return d
  | "update" =>
    Run.write r (.dict (← fromArgs m "update" es a))
    return .none
  | "copy" =>
    a.none full
    Run.new (.dict es)
  | "clear" =>
    a.none full
    Run.write r (.dict #[])
    return .none
  | "fromkeys" => fromKeys m a
  | _ => Run.raise "AttributeError" s!"'dict' object has no attribute '{name}'"

/-- Calls a method of a dictionary that cannot be changed. -/
def callProxy (m : Machine) (source : Ref) (es : Array (Value × Value)) (name : String) (a : Args) :
    Run Value :=
  call m source es name a

end DictMethod

namespace SetMethod

def without (m : Machine) (xs ys : Array Value) : Run (Array Value) :=
  xs.filterM fun v => do return (← Comparison.findItem m ys v).isNone

def within (m : Machine) (xs ys : Array Value) : Run (Array Value) :=
  xs.filterM fun v => do return (← Comparison.findItem m ys v).isSome

def union (m : Machine) (xs : Array Value) (ys : List Value) : Run (Array Value) :=
  ys.foldlM (fun acc v => do
    Comparison.hashable m v
    Comparison.addItem m acc v) xs

/-- The items that are in only one of two sets. -/
def apart (m : Machine) (xs ys : Array Value) : Run (Array Value) := do
  return (← without m xs ys) ++ (← without m ys xs)

/-- The set operation that an operator stands for. -/
def operator? (m : Machine) (op : BinaryOp) (xs ys : Array Value) : Option (Run (Array Value)) :=
  match op with
  | .bitOr => some (union m xs ys.toList)
  | .bitAnd => some (within m xs ys)
  | .sub => some (without m xs ys)
  | .bitXor => some (apart m xs ys)
  | _ => none

/-- An operator on the keys or the items of a dictionary and the items of any other value. -/
def viewOperator? (m : Machine) (op : BinaryOp) (a b : Value) : Option (Run (Array Value)) :=
  let items (v : Value) : Run (Array Value) := do
    Comparison.distinct m (← Iteration.collect m v)
  let other (v : Value) : Run (Array Value) := do return (← Iteration.collect m v).toArray
  match op with
  | .bitAnd => some do
    let xs ← other a
    let both ← within m (← other b) xs
    Comparison.distinct m both.toList
  | .bitOr => some do union m (← items a) (← other b).toList
  | .sub => some do without m (← items a) (← items b)
  | .bitXor => some do
    let xs ← items a
    apart m xs (← items b)
  | _ => none

/-- The distinct items of each argument. -/
def others (m : Machine) (a : Args) : Run (List (Array Value)) :=
  a.values.mapM fun v => do Comparison.distinct m (← Iteration.collect m v)

/-- Whether no item of a value is among others. -/
def isDisjoint (m : Machine) (items : Array Value) (v : Value) : Run Value := do
  let other ← Comparison.distinct m (← Iteration.collect m v)
  return .bool (← within m items other).isEmpty

/-- Calls a method of a set. -/
def call (m : Machine) (r : Ref) (frozen : Bool) (items : Array Value) (name : String) (a : Args) :
    Run Value := do
  let full := (if frozen then "frozenset." else "set.") ++ name
  let write (xs : Array Value) : Run Value := do
    Run.write r (.set frozen xs)
    return .none
  let new (xs : Array Value) : Run Value := Run.new (.set frozen xs)
  -- a set that is looked for among the items is taken as one that cannot change
  let lookedFor (v : Value) : Run Value := do
    match ← Run.deref v with
    | some (.set false xs) => Run.new (.set true xs)
    | _ =>
      Comparison.hashable m v
      return v
  let operands (x : Run (List (Array Value))) : Run (List (Array Value)) := do
    a.noNames full
    x
  let fold (f : Array Value → Array Value → Run (Array Value)) : Run (Array Value) := do
    (← operands (others m a)).foldlM f items
  match name with
  | "add" =>
    let v ← a.one full
    Comparison.hashable m v
    write (← Comparison.addItem m items v)
  | "remove" | "discard" =>
    let given ← a.one full
    let v ← lookedFor given
    match ← Comparison.findItem m items v with
    | some i => write (items.eraseIdxIfInBounds i)
    | none => if name == "remove" then Subscript.keyError given else return .none
  | "pop" =>
    a.none full
    match Show.setItems items with
    | v :: _ =>
      let rest ← without m items #[v]
      discard (write rest)
      return v
    | [] => Run.raise "KeyError" "pop from an empty set"
  | "union" => new (← fold fun acc o => union m acc o.toList)
  | "update" => write (← fold fun acc o => union m acc o.toList)
  | "intersection" => new (← fold (within m))
  | "intersection_update" => write (← fold (within m))
  | "difference" => new (← fold (without m))
  | "difference_update" => write (← fold (without m))
  | "symmetric_difference" =>
    discard (a.one full)
    new (← fold (apart m))
  | "symmetric_difference_update" =>
    discard (a.one full)
    write (← fold (apart m))
  | "issubset" =>
    let o ← Comparison.distinct m (← Iteration.collect m (← a.one full))
    return .bool (← Comparison.subset m items o)
  | "issuperset" =>
    let o ← Comparison.distinct m (← Iteration.collect m (← a.one full))
    return .bool (← Comparison.subset m o items)
  | "isdisjoint" => isDisjoint m items (← a.one full)
  | "copy" =>
    a.none full
    if frozen then return .ref r else new items
  | "clear" =>
    a.none full
    write #[]
  | _ => Run.raise "AttributeError" s!"'set' object has no attribute '{name}'"

end SetMethod

end LiveMarkdown.Script
