import LiveMarkdown.Script.Comparison
import LiveMarkdown.Document.Edit

/-!
Reading, setting and deleting the parts of a value by index, slice or key.
-/

namespace LiveMarkdown.Script

namespace Subscript

/-- An integer that may stand for an index. -/
def index? (m : Machine) (v : Value) : Run (Option Int) := do
  match ← Kind.core v with
  | .int n => return some n
  | .bool b => return some (if b then 1 else 0)
  | _ =>
    match ← Kind.special? v "__index__" with
    | some f =>
      let r ← m.call f []
      match ← Kind.core r with
      | .int n => return some n
      | .bool b => return some (if b then 1 else 0)
      | _ => Run.typeError s!"__index__ returned non-int (type {← Kind.name r})"
    | none => return none

/-- An integer argument. -/
def integer (m : Machine) (v : Value) : Run Int := do
  match ← index? m v with
  | some n => return n
  | none => Run.typeError s!"'{← Kind.name v}' object cannot be interpreted as an integer"

/-- An integer argument that must fit into the given number of bits. -/
def bounded (m : Machine) (bits : Nat) (noun : String) (v : Value) : Run Int := do
  let n ← integer m v
  let top : Int := Nat.pow 2 (bits - 1)
  if n < -top || top ≤ n then
    Run.raise "OverflowError" s!"Python int too large to convert to C {noun}"
  return n

/-- An integer argument that counts items. -/
def size (m : Machine) (v : Value) : Run Int := bounded m 64 "ssize_t" v

/-- An integer argument that is a small number. -/
def number (m : Machine) (v : Value) : Run Int := bounded m 32 "int" v

/-- The place of an index in a sequence; negative ones count from the end. -/
def place? (n : Int) (size : Nat) : Option Nat :=
  let i := if n < 0 then n + size else n
  if 0 ≤ i ∧ i < size then some i.toNat else none

def bound (m : Machine) (v : Value) : Run (Option Int) := do
  match v with
  | .none => return none
  | v =>
    match ← index? m v with
    | some n => return some n
    | none =>
      Run.typeError "slice indices must be integers or None or have an __index__ method"

/-- The first place, the place to stop before, and the step of a slice of a sequence. -/
def sliceBounds (m : Machine) (a b c : Value) (size : Nat) : Run (Int × Int × Int) := do
  let step := (← bound m c).getD 1
  if step = 0 then Run.valueError "slice step cannot be zero"
  let n : Int := size
  let clamp (lo hi : Int) (v : Int) : Int :=
    let v := if v < 0 then v + n else v
    max lo (min hi v)
  if 0 < step then
    let start := ((← bound m a).map (clamp 0 n)).getD 0
    let stop := ((← bound m b).map (clamp 0 n)).getD n
    return (start, stop, step)
  else
    let start := ((← bound m a).map (clamp (-1) (n - 1))).getD (n - 1)
    let stop := ((← bound m b).map (clamp (-1) (n - 1))).getD (-1)
    return (start, stop, step)

/-- The places of a slice. -/
def slicePlaces (m : Machine) (a b c : Value) (size : Nat) : Run (List Nat) := do
  let (start, stop, step) ← sliceBounds m a b c size
  let count := Iteration.rangeLength start stop step
  return (List.range count).map fun (i : Nat) => (start + i * step).toNat

def sliceOf {α : Type} (m : Machine) (items : Array α) (a b c : Value) : Run (List α) := do
  return (← slicePlaces m a b c items.size).filterMap fun i => items[i]?

/-- The index of an item. It must fit into a word of the machine. -/
def position? (m : Machine) (k : Value) : Run (Option Int) := do
  match ← index? m k with
  | none => return none
  | some n =>
    if n < -Int.pow 2 63 || Int.pow 2 63 ≤ n then
      Run.raise "IndexError" s!"cannot fit '{← Kind.name k}' into an index-sized integer"
    return some n

/-! ### Views of bytes -/

/-- The distance from the first item of the item with the given indices. -/
def placeInView (ns : List Int) (extent : List (Nat × Int)) : Run Int := do
  let parts ← (ns.zip extent).zipIdx.mapM fun ((n, size, distance), i) =>
    match place? n size with
    | some k => pure (k * distance)
    | none => Run.raise "IndexError" s!"index out of bounds on dimension {i + 1}"
  return parts.foldl (· + ·) 0

/-- The item of a view at a distance from the first one. -/
def itemOfView (view : Memory) (place : Int) : Run Value := do
  let bs ← Run.viewed { view with start := view.start + place, extent := [] }
  return ByteView.read view.cell bs

/-- A view of a slice of the first dimension. -/
def sliceOfView (m : Machine) (view : Memory) (a b c : Value) : Run Memory := do
  match view.extent with
  | [] => return view
  | (n, d) :: more =>
    let (start, stop, step) ← sliceBounds m a b c n
    return { view with
      start := view.start + start * d
      extent := (Iteration.rangeLength start stop step, d * step) :: more }

/-- The indices in a tuple that has nothing else. -/
def indices? (m : Machine) (k : Value) : Run (Option (List Int)) := do
  match k with
  | .tuple ks => return (← ks.mapM (position? m)).mapM id
  | _ => return none

/-- Refuses indices that do not lead to one item. -/
def checkIndices (ns : List Int) (view : Memory) : Run Unit := do
  let dims := view.extent.length
  if ns.length < dims then Run.raise "NotImplementedError" "sub-views are not implemented"
  if dims < ns.length then
    Run.typeError s!"cannot index {dims}-dimension view with {ns.length}-element tuple"

/-- Refuses a key of a view. Slices of several dimensions are refused in words of their own. -/
def badViewKey {α : Type} (k : Value) (slices : String) : Run α := do
  let isSlice : Value → Bool
    | .slice .. => true
    | _ => false
  match k with
  | .slice .. => Run.raise "NotImplementedError" slices
  | .tuple (k :: ks) =>
    if (k :: ks).all isSlice then Run.raise "NotImplementedError" slices
    Run.typeError "memoryview: invalid slice key"
  | _ => Run.typeError "memoryview: invalid slice key"

/-- One item or a slice of a sequence. `make` builds the result of a slice. -/
def ofSequence {α : Type} (m : Machine) (noun : String) (items : Array α) (k : Value)
    (one : α → Run Value) (make : List α → Run Value) (badIndex : String → String) :
    Run Value := do
  match k with
  | .slice a b c => make (← sliceOf m items a b c)
  | k =>
    match ← position? m k with
    | some n =>
      match (place? n items.size).bind fun i => items[i]? with
      | some v => one v
      | none => Run.raise "IndexError" (if noun == "" then "index out of range"
          else noun ++ " index out of range")
    | none => Run.typeError (badIndex (← Kind.name k))

def badIndex (noun : String) (kind : String) : String :=
  s!"{noun} indices must be integers or slices, not {kind}"

def keyError {α : Type} (k : Value) : Run α := Run.raiseWith "KeyError" [k]

/-- A part of an object. -/
def ofObject (m : Machine) (v : Value) (o : Object) (k : Value) : Run Value := do
  match o with
  | .list items => ofSequence m "list" items k pure (fun l => Run.newList l) (badIndex "list")
  | .userList items =>
    ofSequence m "list" items k pure (fun l => Run.new (.userList l.toArray)) (badIndex "list")
  | .deque items .. =>
    match ← position? m k with
    | some n =>
      match (place? n items.size).bind fun i => items[i]? with
      | some v => return v
      | none => Run.raise "IndexError" "deque index out of range"
    | none => Run.typeError s!"sequence index must be integer, not '{← Kind.name k}'"
  | .userText s =>
    ofSequence m "string" s.toList.toArray k (fun c => Run.new (.userText c.toString))
      (fun cs => Run.new (.userText (String.ofList cs)))
      (fun t => s!"string indices must be integers, not '{t}'")
  | .byteArray bs =>
    ofSequence m "bytearray" bs.toArray k (fun b => pure (.int b.toNat))
      (fun l => Run.new (.byteArray l)) (badIndex "bytearray")
  | .memory view =>
    discard (Run.viewed view)
    match view.extent, k with
    | [], .tuple [] => itemOfView view 0
    | [], .ellipsis => return v
    | [], _ => Run.typeError "invalid indexing of 0-dim memory"
    | _, .slice a b c => Run.new (.memory (← sliceOfView m view a b c))
    | _ :: more, k =>
      match ← position? m k with
      | some n =>
        if !more.isEmpty then
          Run.raise "NotImplementedError" "multi-dimensional sub-views are not implemented"
        itemOfView view (← placeInView [n] view.extent)
      | none =>
        match ← indices? m k with
        | some ns =>
          checkIndices ns view
          itemOfView view (← placeInView ns view.extent)
        | none => badViewKey k "multi-dimensional slicing is not implemented"
  | .proxy source =>
    match ← Run.object? source with
    | some (.dict es) =>
      Comparison.hashable m k
      match ← Comparison.findKey m es k with
      | some i => return (es[i]?.map (·.2)).getD .none
      | none => keyError k
    | _ => keyError k
  | .dict es =>
    Comparison.hashable m k
    match ← Comparison.findKey m es k with
    | some i => return (es[i]?.map (·.2)).getD .none
    | none => keyError k
  | .alias .. | .union _ => Run.typeError s!"{← m.shown v} is not a generic class"
  | _ => Run.typeError s!"'{← Kind.name v}' object is not subscriptable"

/-- The parts that a class is given by a key: one, or those in a tuple. -/
def aliasParts : Value → List Value
  | .tuple ks => ks
  | k => [k]

/-- The built-in classes that take classes for their parts. -/
def genericClasses : List String :=
  ["list", "dict", "tuple", "set", "frozenset", "type", "deque", "OrderedDict", "defaultdict",
    "enumerate", "BaseExceptionGroup", "ExceptionGroup", "mappingproxy", "UserList"]

/-- An attribute of an element, if it has one of that name. Words stand in a list that code holds from
then on. -/
def attribute? (m : Machine) (n : Document.NodeId) (k : Value) : Run (Option Value) := do
  Comparison.hashable m k
  let found (r : Ref) : Run (Option Value) := do
    let es ← Space.entries r
    return (← Comparison.findKey m es k).bind fun i => es[i]?.map (·.2)
  match ← LiveAttributes.held? n, ← Kind.basic k with
  | some r, _ => found r
  | none, .str name =>
    match ((← Run.forest).tag? n).bind fun t => t.attr? name with
    | some (.tokens _) => found (← LiveAttributes.dictionary n)
    | some v => return some (← LiveAttributes.valueOf v)
    | none => return none
  | none, _ => return none

/-- Sets an attribute of an element. -/
def setAttribute (m : Machine) (n : Document.NodeId) (k x : Value) : Run Unit := do
  match ← LiveAttributes.held? n, (← Run.forest).tag? n, k, x with
  | none, some t, .str name, .str s =>
    modify fun w => { w with forest := w.forest.modify n fun d =>
      { d with content := .tag (t.setAttr name (.text s)) } }
  | _, _, k, x =>
    Comparison.hashable m k
    let r ← LiveAttributes.dictionary n
    let es ← Comparison.putKey m (← Space.entries r) k x
    Run.write r (.dict es)

/-- Deletes an attribute of an element, if it has one of that name. -/
def deleteAttribute (m : Machine) (n : Document.NodeId) (k : Value) : Run Unit := do
  Comparison.hashable m k
  let r ← LiveAttributes.dictionary n
  let es ← Space.entries r
  match ← Comparison.findKey m es k with
  | some i => Run.eraseEntry r es i
  | none => return ()

/-- Reads a part of a value. -/
def get (m : Machine) (v k : Value) : Run Value := do
  match ← Kind.special? v "__getitem__" with
  | some f => m.call f [k]
  | none =>
    match ← Kind.basic v with
    | .str s =>
      ofSequence m "string" s.toList.toArray k (fun c => pure (.str c.toString))
        (fun cs => pure (.str (String.ofList cs)))
        (fun t => s!"string indices must be integers, not '{t}'")
    | .bytes bs =>
      ofSequence m "" bs.toArray k (fun b => pure (.int b.toNat)) (fun l => pure (.bytes l))
        (badIndex "byte")
    | .tuple vs =>
      ofSequence m "tuple" vs.toArray k pure (fun l => pure (.tuple l)) (badIndex "tuple")
    | .range a z s =>
      let n := Iteration.rangeLength a z s
      match k with
      | .slice x y c =>
        let (start, stop, step) ← sliceBounds m x y c n
        return .range (a + start * s) (a + stop * s) (s * step)
      | k =>
        match ← index? m k with
        | some i =>
          match place? i n with
          | some i => return .int (a + i * s)
          | none => Run.raise "IndexError" "range object index out of range"
        | none => Run.typeError (badIndex "range" (← Kind.name k))
    | .node n =>
      match ← attribute? m n k with
      | some x => return x
      | none => keyError k
    | .type n =>
      if genericClasses.contains n then
        return ← Run.new (.alias v (aliasParts k))
      Run.typeError s!"type '{Kind.dotted n}' is not subscriptable"
    | b =>
      match ← Run.deref b with
      | some o =>
        match o, b.same v with
        | .dict es, false =>
          Comparison.hashable m k
          match ← Comparison.findKey m es k with
          | some _ => ofObject m b o k
          | none =>
            match ← Kind.special? v "__missing__" with
            | some f => m.call f [k]
            | none => keyError k
        | _, _ => ofObject m v o k
      | none => Run.typeError s!"'{← Kind.name v}' object is not subscriptable"

/-- Replaces a slice of a list: a run of neighbours by any number of items, else item by item. -/
def replaceSlice (m : Machine) (items : Array Value) (a b c : Value) (new : List Value) :
    Run (Array Value) := do
  let (start, stop, step) ← sliceBounds m a b c items.size
  if step = 1 then
    let i := start.toNat
    let j := max i stop.toNat
    return (items.toList.take i ++ new ++ items.toList.drop j).toArray
  let places ← slicePlaces m a b c items.size
  if places.length ≠ new.length then
    Run.valueError s!"attempt to assign sequence of size {new.length} to extended slice of size {places.length}"
  return (places.zip new).foldl (fun acc p => acc.set! p.1 p.2) items

/-- Sets an item or a slice of a list. -/
def setListItem (m : Machine) (k x : Value) (items : Array Value) (write : Array Value → Run Unit) :
    Run Unit := do
  match k with
  | .slice a b c =>
    let (_, _, step) ← sliceBounds m a b c items.size
    let new ← match ← Iteration.catching "TypeError" (Iteration.collect m x) with
      | some l => pure l
      | none =>
        Run.typeError (if step = 1 then "can only assign an iterable"
          else "must assign iterable to extended slice")
    write (← replaceSlice m items a b c new)
  | k =>
    match ← position? m k with
    | some n =>
      match place? n items.size with
      | some i => write (items.set! i x)
      | none => Run.raise "IndexError" "list assignment index out of range"
    | none => Run.typeError (badIndex "list" (← Kind.name k))

/-- A number that is a byte. -/
def byteOf (m : Machine) (x : Value) : Run UInt8 := do
  let n ← integer m x
  if n < 0 || 255 < n then Run.valueError "byte must be in range(0, 256)"
  return UInt8.ofNat n.toNat

/-- The bytes that a value gives where a part of a byte array is replaced. -/
def newBytes (m : Machine) (x : Value) : Run (List UInt8) := do
  match ← Run.bytes? x with
  | some bs => return bs
  | none =>
    let refuse : Run (List UInt8) := do
      Run.typeError s!"can assign only bytes, buffers, or iterables of ints in range(0, 256)"
    match ← Kind.basic x with
    | .str _ | .int _ | .bool _ | .float _ | .complex .. | .fraction .. | .decimal _ => refuse
    | _ =>
      match ← Iteration.catching "TypeError" (Iteration.iter m x) with
      | some it => (← Iteration.drain m it).mapM (byteOf m)
      | none => Run.typeError s!"cannot convert '{← Kind.name x}' object to bytearray"

/-- Sets a byte or a slice of a byte array. -/
def setByte (m : Machine) (r : Ref) (bs : List UInt8) (k x : Value) : Run Unit := do
  match k with
  | .slice a b c =>
    let new ← newBytes m x
    let (start, stop, step) ← sliceBounds m a b c bs.length
    if step = 1 then
      let i := start.toNat
      ByteView.setBytes r (bs.take i ++ new ++ bs.drop (max i stop.toNat))
    else
      let places ← slicePlaces m a b c bs.length
      if new.isEmpty then
        let left := bs.zipIdx.filter fun p => !places.contains p.2
        return ← ByteView.setBytes r (left.map (·.1))
      if places.length ≠ new.length then
        Run.valueError s!"attempt to assign bytes of size {new.length} to extended slice of size {places.length}"
      Run.write r (.byteArray ((places.zip new).foldl (fun acc p => acc.set p.1 p.2) bs))
  | k =>
    match ← position? m k with
    | some n =>
      match place? n bs.length with
      | some i => Run.write r (.byteArray (bs.set i (← byteOf m x)))
      | none => Run.raise "IndexError" "bytearray index out of range"
    | none => Run.typeError (badIndex "bytearray" (← Kind.name k))

/-- The bytes of a value as an item of a view. -/
def cellBytes (m : Machine) (view : Memory) (x : Value) : Run (List UInt8) := do
  let wrong {α : Type} : Run α :=
    Run.typeError s!"memoryview: invalid type for format '{view.format}'"
  let unfit {α : Type} : Run α :=
    Run.valueError s!"memoryview: invalid value for format '{view.format}'"
  let float (w : Nat) : Run (List UInt8) := do
    match ← Kind.basic x, ← Run.bytes? (← Kind.basic x) with
    | .str _, _ | _, some _ => wrong
    | _, _ =>
      match ← m.call (.type "float") [x] with
      | .float y => return Cell.bytesOfFloat w y
      | _ => wrong
  let bytes : Run (List UInt8) := do
    match view.cell with
    | .truth => return [if ← Iteration.truth m x then 1 else 0]
    | .single => float 4
    | .double => float 8
    | .character =>
      match ← Kind.basic x with
      | .bytes [b] => return [b]
      | .bytes _ => unfit
      | _ => wrong
    | .integer w signed =>
      match ← index? m x with
      | none => wrong
      | some n =>
        match Cell.bytesOfInt? w signed n with
        | some bs => return bs
        | none => unfit
  if view.cell == .truth then return ← bytes
  Run.handle bytes fun e => do
    if ← Kind.isA e "TypeError" then wrong
    if (← Kind.isA e "OverflowError") || (← Kind.isA e "ValueError") then unfit
    throw (.raised e)

/-- Sets items through a view of them, at their distances from the start. -/
def putViewed (view : Memory) (news : List (Int × List UInt8)) : Run Unit := do
  match view.source with
  | .ref r =>
    match ← Run.object? r with
    | some (.byteArray all) =>
      let bytes := news.flatMap fun (i, bs) => bs.zipIdx.map fun (b, j) => (i.toNat + j, b)
      Run.write r (.byteArray (bytes.foldl (fun acc p => acc.set! p.1 p.2) all.toArray).toList)
    | _ => return ()
  | _ => return ()

/-- What is copied to a slice of a view: the items of bytes or of another view of the same form. -/
def viewSource (x : Value) : Run Memory := do
  match ← Run.deref x with
  | some (.memory v) =>
    discard (Run.viewed v)
    return v
  | _ =>
    match ← Run.bytes? x with
    | some bs => return ⟨x, 0, [(bs.length, 1)], .byte, "B", true, false⟩
    | none => Run.typeError s!"a bytes-like object is required, not '{← Kind.name x}'"

/-- Sets an item or a slice of a view. -/
def setViewed (m : Machine) (view : Memory) (k x : Value) : Run Unit := do
  discard (Run.viewed view)
  if view.readOnly then Run.typeError "cannot modify read-only memory"
  let put (place : Int) : Run Unit := do putViewed view [(place, ← cellBytes m view x)]
  match view.extent, k with
  | [], .tuple [] | [], .ellipsis => put view.start
  | [], _ => Run.typeError "invalid indexing of 0-dim memory"
  | [_], .slice a b c =>
    let new ← viewSource x
    let target ← sliceOfView m view a b c
    if ByteView.shape target != ByteView.shape new || target.cell != new.cell then
      Run.valueError "memoryview assignment: lvalue and rvalue have different structures"
    let all := (← Run.viewed new).toArray
    let w := view.cell.width
    putViewed view ((Memory.offsets target.extent target.start).zipIdx.map fun (place, i) =>
      (place, (all.extract (i * w) (i * w + w)).toList))
  | _ :: more, k =>
    if !more.isEmpty && (← index? m k).isSome then
      Run.raise "NotImplementedError" "sub-views are not implemented"
    match ← position? m k with
    | some n =>
      put (view.start + (← placeInView [n] view.extent))
    | none =>
      match ← indices? m k with
      | some ns =>
        checkIndices ns view
        put (view.start + (← placeInView ns view.extent))
      | none =>
        badViewKey k "memoryview slice assignments are currently restricted to ndim = 1"

/-- Deletes an item or a slice of a list. -/
def deleteItems {α : Type} (m : Machine) (noun : String) (k : Value) (items : Array α) :
    Run (Array α) := do
  match k with
  | .slice a b c =>
    let places ← slicePlaces m a b c items.size
    return ((items.toList.zipIdx.filter fun p => !places.contains p.2).map (·.1)).toArray
  | k =>
    match ← position? m k with
    | some n =>
      match place? n items.size with
      | some i => return items.eraseIdxIfInBounds i
      | none =>
        Run.raise "IndexError" (if noun == "list" then "list assignment index out of range"
          else noun ++ " index out of range")
    | none => Run.typeError (badIndex noun (← Kind.name k))

/-- Whether a value belongs to a class whose instances can be asked for items by number, or for their
number, even if it refuses. -/
def isOrdered (v : Value) : Run Bool := do
  match v, ← Kind.of v with
  | .node _, _ => return true
  | _, .type cls =>
    return ["str", "bytes", "tuple", "range", "set", "frozenset", "dict_keys", "dict_values",
      "dict_items", "mappingproxy", "Fraction", "UserString", "PosixPath", "CSS"].contains cls
  | _, cls => return !(← Kind.inherits cls (.type "type"))

/-- Sets a part of a value. -/
def set (m : Machine) (v k x : Value) : Run Unit := do
  match ← Kind.special? v "__setitem__" with
  | some f => discard (m.call f [k, x])
  | none =>
    let b ← Kind.core v
    let refuse : Run Unit := do
      if ← isOrdered v then discard (position? m k)
      Run.typeError s!"'{← Kind.name v}' object does not support item assignment"
    match b with
    | .node n =>
      match (← Run.forest).content? n with
      | some (.text ..) => refuse
      | _ => setAttribute m n k x
    | .ref r =>
      match ← Run.object? r with
      | some (.list items) => setListItem m k x items fun xs => Run.write r (.list xs)
      | some (.userList items) => setListItem m k x items fun xs => Run.write r (.userList xs)
      | some (.deque items limit changes) =>
        match ← position? m k with
        | some n =>
          match place? n items.size with
          | some i => Run.write r (.deque (items.set! i x) limit changes)
          | none => Run.raise "IndexError" "deque index out of range"
        | none =>
          Run.typeError s!"sequence index must be integer, not '{← Kind.name k}'"
      | some (.dict es) =>
        Comparison.hashable m k
        Run.write r (.dict (← Comparison.putKey m es k x))
      | some (.byteArray bs) => setByte m r bs k x
      | some (.memory view) => setViewed m view k x
      | _ => refuse
    | _ => refuse

/-- Deletes a part of a value. -/
def delete (m : Machine) (v k : Value) : Run Unit := do
  match ← Kind.special? v "__delitem__" with
  | some f => discard (m.call f [k])
  | none =>
    let refuse : Run Unit := do
      let verb ← if ← isOrdered v then do
          pure (if (← position? m k).isSome then "doesn't" else "does not")
        else pure "does not"
      Run.typeError s!"'{← Kind.name v}' object {verb} support item deletion"
    match ← Kind.core v with
    | .node n =>
      match (← Run.forest).content? n with
      | some (.text ..) => refuse
      | _ => deleteAttribute m n k
    | .ref r =>
      match ← Run.object? r with
      | some (.list items) => Run.write r (.list (← deleteItems m "list" k items))
      | some (.userList items) => Run.write r (.userList (← deleteItems m "list" k items))
      | some (.byteArray bs) =>
        ByteView.setBytes r (← deleteItems m "bytearray" k bs.toArray).toList
      | some (.memory view) =>
        Run.typeError (if view.readOnly then "cannot modify read-only memory"
          else "cannot delete memory")
      | some (.dict es) =>
        Comparison.hashable m k
        match ← Comparison.findKey m es k with
        | some i => Run.eraseEntry r es i
        | none => keyError k
      | some (.deque items limit changes) =>
        match ← position? m k with
        | some n =>
          match place? n items.size with
          | some i => Run.write r (.deque (items.eraseIdxIfInBounds i) limit (changes + 1))
          | none => Run.raise "IndexError" "deque index out of range"
        | none =>
          Run.typeError s!"sequence index must be integer, not '{← Kind.name k}'"
      | _ => refuse
    | _ => refuse

end Subscript

end LiveMarkdown.Script
