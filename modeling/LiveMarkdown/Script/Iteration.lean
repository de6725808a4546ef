import LiveMarkdown.Script.Show

/-!
Going through the items of a value, one after the other or all at once, and whether a value counts as
true.
-/

namespace LiveMarkdown.Script

namespace Iteration

/-- The number of items in a range. -/
def rangeLength (start stop step : Int) : Nat :=
  if 0 < step then (if start < stop then ((stop - start - 1) / step + 1).toNat else 0)
  else if step < 0 then (if stop < start then ((start - stop - 1) / (-step) + 1).toNat else 0)
  else 0

def rangeItems (start step : Int) (count : Nat) : List Value :=
  (List.range count).map fun (i : Nat) => Value.int (start + i * step)

def byteItems (bs : List UInt8) : List Value := bs.map fun b => .int b.toNat

def charItems (s : String) : List Value := s.toList.map fun c => .str c.toString

/-- Whether an object is an iterator by itself. -/
def isIterator (v : Value) : Run Bool := do
  match ← Run.deref v with
  | some (.iterator _) => return true
  | some (.generator g) => return g.kind == .generator
  | some (.pull _) => return true
  | some (.instance ..) => return (← Kind.special? v "__next__").isSome
  | _ => return false

def newIterator (i : Iterator) : Run Value := Run.new (.iterator i)

/-- The items of a value of fixed content. -/
def fixedItems? (v : Value) : Run (Option (String × List Value)) := do
  match v with
  | .str s =>
    let ascii := s.toList.all fun c => c.toNat < 128
    return some (if ascii then "str_ascii_iterator" else "str_iterator", charItems s)
  | .bytes bs => return some ("bytes_iterator", byteItems bs)
  | .tuple vs => return some ("tuple_iterator", vs)
  | .ref r =>
    match ← Run.object? r with
    | some (.byteArray bs) => return some ("bytearray_iterator", byteItems bs)
    | some (.memory view) =>
      return some ("memory_iterator", ← ByteView.line view)
    | some (.alias origin args _) =>
      return some ("generic_alias_iterator", [← Run.new (.alias origin args true)])
    | some (.userList items) => return some ("generator", items.toList)
    | some (.userText s) =>
      return some ("generator", ← s.toList.mapM fun c => Run.new (.userText c.toString))
    | _ => return none
  | _ => return none

/-- The kind of iterator over a dictionary that has the keys, the values or both. -/
def viewKind (backwards : Bool) (kind : String) : String :=
  let part := if kind == "dict_values" then "value" else if kind == "dict_items" then "item" else "key"
  "dict_" ++ (if backwards then "reverse" else "") ++ part ++ "iterator"

def dictIterator (kind : String) (r : Ref) : Run Value := do
  match ← Run.object? r with
  | some (.dict es) =>
    let i ← Run.alloc (.iterator (.dict kind r 0 es.size es.size))
    Run.beginWalk i
    return .ref i
  | _ => newIterator (.done kind)

/-- Whether a number fits into a machine word. -/
def isWord (n : Int) : Bool := -Int.pow 2 63 ≤ n && n < Int.pow 2 63

def rangeIterator (start stop step : Int) : Run Value := do
  let long := !(isWord start && isWord stop && isWord step)
  newIterator (.range long start (rangeLength start stop step) step)

/-- An iterator over a value. -/
def iter (m : Machine) (v : Value) : Run Value := do
  match ← Kind.special? v "__iter__" with
  | some .none => Run.typeError s!"'{← Kind.name v}' object is not iterable"
  | some f =>
    let it ← m.call f []
    if ← isIterator it then return it
    Run.typeError s!"iter() returned non-iterator of type '{← Kind.name it}'"
  | none =>
    let b ← Kind.basic v
    match ← fixedItems? b with
    | some (kind, items) => newIterator (.items kind items)
    | none =>
      match b with
      | .range a z s => rangeIterator a z s
      | .node n => newIterator (.children n 0)
      | .ref r =>
        match ← Run.object? r with
        | some (.list _) => newIterator (.list r 0)
        | some (.set _ items) => newIterator (.set r (Show.setItems items) items.size)
        | some (.deque _ _ changes) => newIterator (.deque false r 0 changes)
        | some (.dict _) => dictIterator "dict_keyiterator" r
        | some (.proxy source) => dictIterator "dict_keyiterator" source
        | some (.view kind source) => dictIterator (viewKind false kind) source
        | some (.iterator _) | some (.pull _) => return b
        | some (.generator g) =>
          if g.kind == .generator then return b
          Run.typeError s!"'{← Kind.name v}' object is not iterable"
        | _ =>
          match ← Kind.special? v "__getitem__" with
          | some _ => newIterator (.indexed v 0)
          | none => Run.typeError s!"'{← Kind.name v}' object is not iterable"
      | _ => Run.typeError s!"'{← Kind.name v}' object is not iterable"

/-- Runs a computation; `none` if it raises an exception of the given class. -/
def catching {α : Type} (cls : String) (x : Run α) : Run (Option α) :=
  tryCatch (some <$> x) fun
    | .raised e => do
      if ← Kind.isA e cls then return none
      throw (.raised e)
    | s => throw s

/-- An iterator over a value that must have one. If its class does not even claim to, it is refused in
the given words. -/
def iterOr (m : Machine) (v : Value) (refusal : String) : Run Value :=
  Run.handle (iter m v) fun e => do
    let claims := (← Kind.special? v "__iter__").isSome || (← Kind.special? v "__getitem__").isSome
    if !claims && (← Kind.isA e "TypeError") then Run.typeError refusal
    throw (.raised e)

/-- All inner iterators advanced by one; `none` as soon as one has ended. -/
def nextOfEach (m : Machine) : List Value → Run (Option (List Value))
  | [] => return some []
  | it :: its => do
    match ← m.next it with
    | none => return none
    | some v =>
      match ← nextOfEach m its with
      | none => return none
      | some vs => return some (v :: vs)

/-- The first item that a test accepts. -/
def firstWhere (m : Machine) (inner : Value) (test : Value → Run Bool) : Run (Option Value) :=
  repeatUpTo loopLimit do
    match ← m.next inner with
    | none => return some none
    | some v => if ← test v then return some (some v) else return none

/-- Ends a zip; if all inner iterators must end together, the others are asked too. -/
def zipEnd (m : Machine) (inners : List Value) : Run (Option (List Value)) := do
  let rec go (i : Nat) : List Value → Run (Option (List Value))
    | [] => return some []
    | it :: its => do
      match ← m.next it with
      | none =>
        if i = 0 then
          for (j, other) in (List.range its.length).zip its do
            if (← m.next other).isSome then
              Run.valueError (if j = 0 then "zip() argument 2 is longer than argument 1"
                else s!"zip() argument {j + 2} is longer than arguments 1-{j + 1}")
          return none
        Run.valueError (if i = 1 then "zip() argument 2 is shorter than argument 1"
          else s!"zip() argument {i + 1} is shorter than arguments 1-{i}")
      | some v =>
        match ← go (i + 1) its with
        | none => return none
        | some vs => return some (v :: vs)
  go 0 inners

/-- A size that no dictionary has: that of one which changed while it was gone through. -/
def never : Nat := Nat.pow 2 64

/-- The entry of a dictionary at a place from its end. -/
def entryBackwards (es : Array (Value × Value)) (n : Nat) : Option (Value × Value) :=
  if n < es.size then es[es.size - 1 - n]? else none

/-- Advances a built-in iterator. -/
def advance (m : Machine) (truth : Value → Run Bool) (r : Ref) (i : Iterator) :
    Run (Option Value) := do
  let keep (i : Iterator) : Run Unit := Run.write r (.iterator i)
  let stopped : Run Unit := keep (.done i.kind)
  let stop : Run (Option Value) := do
    stopped
    return none
  match i with
  | .done _ => return none
  | .items kind (v :: rest) =>
    keep (.items kind rest)
    return some v
  | .items _ [] => stop
  | .list source n =>
    match ← Run.object? source with
    | some (.list items) =>
      match items[n]? with
      | some v =>
        keep (.list source (n + 1))
        return some v
      | none => stop
    | _ => stop
  | .children parent n =>
    match ((← Run.forest).children parent)[n]? with
    | some c =>
      keep (.children parent (n + 1))
      return some (.node c)
    | none => stop
  | .listBackwards source left =>
    match left, ← Run.object? source with
    | n + 1, some (.list items) =>
      match items[n]? with
      | some v =>
        keep (.listBackwards source n)
        return some v
      | none => stop
    | _, _ => stop
  | .range long next (count + 1) step =>
    keep (.range long (next + step) count step)
    return some (.int next)
  | .range _ _ 0 _ => stop
  | .dict kind source n size left =>
    match ← Run.object? source with
    | some (.dict es) =>
      if es.size ≠ size then
        keep (.dict kind source n never left)
        Run.raise "RuntimeError" "dictionary changed size during iteration"
      match if kind.startsWith "dict_reverse" then entryBackwards es n else es[n]? with
      | some (k, v) =>
        if left = 0 then Run.raise "RuntimeError" "dictionary keys changed during iteration"
        keep (.dict kind source (n + 1) size (left - 1))
        return some (if kind.endsWith "keyiterator" then k
          else if kind.endsWith "valueiterator" then v else .tuple [k, v])
      | none =>
        Run.endWalk r
        stop
    | _ => stop
  | .set source rest size =>
    match ← Run.object? source with
    | some (.set _ items) =>
      if items.size ≠ size then
        keep (.set source rest never)
        Run.raise "RuntimeError" "Set changed size during iteration"
      match rest with
      | v :: rest =>
        keep (.set source rest size)
        return some v
      | [] => stop
    | _ => stop
  | .deque backwards source n changes =>
    match ← Run.object? source with
    | some (.deque items _ now) =>
      if n = items.size then return ← stop
      if now ≠ changes then
        stopped
        Run.raise "RuntimeError" "deque mutated during iteration"
      keep (.deque backwards source (n + 1) changes)
      return items[if backwards then items.size - 1 - n else n]?
    | _ => stop
  | .indexed source n =>
    match ← Kind.special? source "__getitem__" with
    | some f =>
      match ← catching "IndexError" (m.call f [.int n]) with
      | some v =>
        keep (.indexed source (n + 1))
        return some v
      | none => stop
    | none => stop
  | .indexedBackwards source left =>
    match left, ← Kind.special? source "__getitem__" with
    | n + 1, some f =>
      match ← catching "IndexError" (m.call f [.int n]) with
      | some v =>
        keep (.indexedBackwards source n)
        return some v
      | none => stop
    | _, _ => stop
  | .enumerate inner n =>
    match ← m.next inner with
    | some v =>
      keep (.enumerate inner (n + 1))
      return some (.tuple [.int n, v])
    | none => stop
  | .zip inners strict =>
    if inners.isEmpty then stop
    else
      match ← if strict then zipEnd m inners else nextOfEach m inners with
      | some vs => return some (.tuple vs)
      | none => stop
  | .map f inners =>
    match ← nextOfEach m inners with
    | some vs => return some (← m.call f vs)
    | none => stop
  | .filter f inner =>
    firstWhere m inner fun v => do
      match f with
      | .none => truth v
      | f => truth (← m.call f [v])
  | .untilEqual f last =>
    let v ← m.call f []
    if ← truth (← m.compare .eq v last) then stop else return some v

/-- The number of items of a value, if it has one. -/
def length? (m : Machine) (v : Value) : Run (Option Int) := do
  match ← Kind.special? v "__len__" with
  | some f =>
    match ← Kind.core (← m.call f []) with
    | .int n =>
      if n < 0 then Run.valueError "__len__() should return >= 0"
      if !isWord n then
        Run.raise "OverflowError" "cannot fit 'int' into an index-sized integer"
      return some n
    | .bool b => return some (if b then 1 else 0)
    | r => Run.typeError s!"'{← Kind.name r}' object cannot be interpreted as an integer"
  | none =>
    match ← Kind.basic v with
    | .str s => return some s.length
    | .bytes bs => return some bs.length
    | .tuple vs => return some vs.length
    | .range a z s => return some (rangeLength a z s)
    | .node n => return some ((← Run.forest).children n).length
    | .ref r =>
      match ← Run.object? r with
      | some (.list items) | some (.deque items ..) | some (.userList items) => return some items.size
      | some (.proxy source) =>
        match ← Run.object? source with
        | some (.dict es) => return some es.size
        | _ => return some 0
      | some (.dict es) => return some es.size
      | some (.set _ items) => return some items.size
      | some (.byteArray bs) => return some bs.length
      | some (.memory view) =>
        discard (Run.viewed view)
        return some view.count
      | some (.userText s) => return some s.length
      | some (.view _ source) =>
        match ← Run.object? source with
        | some (.dict es) => return some es.size
        | _ => return some 0
      | _ => return none
    | _ => return none

/-- Whether a value counts as true. -/
def truth (m : Machine) (v : Value) : Run Bool := do
  match ← Kind.special? v "__bool__" with
  | some f =>
    match ← m.call f [] with
    | .bool b => return b
    | r => Run.typeError s!"__bool__ should return bool, returned {← Kind.name r}"
  | none =>
    match v with
    | .none => return false
    | .bool b => return b
    | .int n => return n != 0
    | .float x => return x != 0
    | .complex a b => return a != 0 || b != 0
    | .fraction n _ => return n != 0
    | .decimal (.finite _ c _) => return c != 0
    | .node n =>
      match (← Run.forest).content? n with
      | some (.text _ s) => return s != ""
      | _ => return true
    | v =>
      match ← length? m v with
      | some n => return n != 0
      | none =>
        match ← Kind.core v with
        | .int n => return n != 0
        | .float x => return x != 0
        | _ => return true

/-- The next item of an iterator, if there is one. -/
def step (m : Machine) (it : Value) : Run (Option Value) := do
  match it with
  | .ref r =>
    match ← Run.object? r with
    | some (.iterator i) => advance m (truth m) r i
    | some (.generator g) =>
      if g.kind == .generator then m.ask (.resume r .none)
      else Run.typeError s!"'{← Kind.name it}' object is not an iterator"
    | some (.pull _) => m.ask (.resume r .none)
    | _ =>
      match ← Kind.special? it "__next__" with
      | some f => catching "StopIteration" (m.call f [])
      | none => Run.typeError s!"'{← Kind.name it}' object is not an iterator"
  | _ => Run.typeError s!"'{← Kind.name it}' object is not an iterator"

/-- The items that an iterator still gives. -/
def drain (m : Machine) (it : Value) : Run (List Value) := do
  let items ← iterateUpTo loopLimit (#[] : Array Value) fun acc => do
    match ← m.next it with
    | some v => return .inl (acc.push v)
    | none => return .inr acc
  return items.toList

/-- The most items that are collected at once. -/
def collectLimit : Nat := 20000000

/-- All items of a value. -/
def collect (m : Machine) (v : Value) : Run (List Value) := do
  match v with
  | .tuple vs => return vs
  | .range a z s =>
    let n := rangeLength a z s
    if Nat.pow 2 63 ≤ n then
      Run.raise "OverflowError" "Python int too large to convert to C ssize_t"
    if collectLimit < n then Run.raiseWith "MemoryError" []
    return rangeItems a s n
  | v =>
    match ← Run.deref v with
    | some (.list items) => return items.toList
    | _ => drain m (← iter m v)

end Iteration

end LiveMarkdown.Script
