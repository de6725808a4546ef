import LiveMarkdown.Script.Encoded
import LiveMarkdown.Script.Method.Argument
import LiveMarkdown.Script.Sorting

/-!
The methods of lists, queues, tuples, ranges and slices, and of views of bytes.
-/

namespace LiveMarkdown.Script

namespace ListMethod

/-- The place of a value between optional bounds, which must be integers. -/
def indexOf? (m : Machine) (items : List Value) (v : Value) (start stop : Option Value) :
    Run (Option Nat) := do
  let limit (x : Value) : Run Value := do
    if (← Subscript.index? m x).isNone then
      Run.typeError "slice indices must be integers or have an __index__ method"
    return x
  let start ← match start with
    | none => pure Value.none
    | some x => limit x
  let stop ← match stop with
    | none => pure Value.none
    | some x => limit x
  let (start, stop, _) ← Subscript.sliceBounds m start stop .none items.length
  let found ← (items.zipIdx.filter fun p => start ≤ (p.2 : Int) && (p.2 : Int) < stop).findM?
    fun p => Comparison.sameOrEqual m p.1 v
  return found.map (·.2)

def countOf (m : Machine) (items : List Value) (v : Value) : Run Value := do
  let hits ← items.filterM fun x => Comparison.sameOrEqual m x v
  return .int hits.length

/-- The place for a new item at an index. -/
def insertPlace (n : Int) (size : Nat) : Nat :=
  (if n < 0 then max 0 (n + size) else min n size).toNat

/-- The arguments of a sort: the key function, and whether the order is reversed. -/
def sortArgs (m : Machine) (a : Args) : Run (Value × Bool) := do
  let vs ← (Signature.mk "sort" [] 0 0 ["key", "reverse"]).take a
  let backwards ← match vs[1]?.join with
    | some v => do pure ((← Subscript.integer m v) != 0)
    | none => pure false
  return ((vs[0]?.join).getD .none, backwards)

/-- Sorts a list where it is. While that goes on the list is empty, and nothing may be put into it. -/
def sort (m : Machine) (read : Run (Array Value)) (write : Array Value → Run Unit) (a : Args) :
    Run Value := do
  let (key, backwards) ← sortArgs m a
  let items ← read
  write #[]
  let restore (xs : Array Value) : Run Bool := do
    let changed := !(← read).isEmpty
    write xs
    return changed
  let keyed ← Run.handle (Sorting.withKeys m items.toList key) fun e => do
    discard (restore items)
    throw (.raised e)
  let (sorted, fault) ← Sorting.sortItems m keyed backwards
  let changed ← restore (sorted.map Sorting.Item.value)
  match fault with
  | some e => throw (.raised e)
  | none =>
    if changed then Run.valueError "list modified during sort"
    return .none

/-- Calls a method of a list, which `read` and `write` know. -/
def call (m : Machine) (read : Run (Array Value)) (write : Array Value → Run Unit)
    (wrap : Array Value → Run Value) (name : String) (a : Args) : Run Value := do
  let full := "list." ++ name
  let items ← read
  match name with
  | "append" =>
    let v ← a.one full
    write (items.push v)
    return .none
  | "extend" =>
    let more ← Iteration.collect m (← a.one full)
    write ((← read) ++ more.toArray)
    return .none
  | "insert" =>
    match ← a.between full 2 2 with
    | [i, v] =>
      let n ← Subscript.size m i
      write (items.insertIdxIfInBounds (insertPlace n items.size) v)
      return .none
    | _ => return .none
  | "pop" =>
    let vs ← a.between full 0 1
    let n ← match vs with
      | v :: _ => Subscript.size m v
      | [] => pure (-1)
    if items.isEmpty then Run.raise "IndexError" "pop from empty list"
    match Subscript.place? n items.size with
    | some i =>
      write (items.eraseIdxIfInBounds i)
      return (items[i]?).getD .none
    | none => Run.raise "IndexError" "pop index out of range"
  | "remove" =>
    let v ← a.one full
    match ← Comparison.findItem m items v with
    | some i =>
      write ((← read).eraseIdxIfInBounds i)
      return .none
    | none => Run.valueError "list.remove(x): x not in list"
  | "index" =>
    let vs ← a.between full 1 3
    let v := (vs[0]?).getD .none
    match ← indexOf? m items.toList v vs[1]? vs[2]? with
    | some i => return .int i
    | none => Run.valueError s!"{← m.shown v} is not in list"
  | "count" => countOf m items.toList (← a.one full)
  | "sort" => sort m read write a
  | "reverse" =>
    a.none full
    write items.reverse
    return .none
  | "copy" =>
    a.none full
    wrap items
  | "clear" =>
    a.none full
    write #[]
    return .none
  | _ => Run.raise "AttributeError" s!"'list' object has no attribute '{name}'"

/-- Calls a method of a list object. -/
def callList (m : Machine) (r : Ref) (name : String) (a : Args) : Run Value := do
  let read : Run (Array Value) := do
    match ← Run.object? r with
    | some (.list items) => return items
    | _ => return #[]
  call m read (fun xs => Run.write r (.list xs)) (fun xs => Run.new (.list xs)) name a

/-- The parameters of the methods of lists that are written in the language itself: those that must be
given, and those that may be. -/
def wrappedParams? (name : String) : Option (List String × List String) :=
  match name with
  | "append" | "remove" | "count" => some (["item"], [])
  | "insert" => some (["i", "item"], [])
  | "pop" => some ([], ["i"])
  | "extend" => some (["other"], [])
  | "clear" | "copy" | "reverse" => some ([], [])
  | "index" => some (["item"], ["*"])
  | "sort" => some ([], ["*"])
  | _ => none

/-- Calls a method of a list that is wrapped in another object. -/
def callWrapped (m : Machine) (r : Ref) (name : String) (a : Args) : Run Value := do
  let read : Run (Array Value) := do
    match ← Run.object? r with
    | some (.userList items) => return items
    | _ => return #[]
  let a ← match wrappedParams? name with
    | some (needed, more) => a.filled ("UserList." ++ name) needed more
    | none => pure a
  call m read (fun xs => Run.write r (.userList xs)) (fun xs => Run.new (.userList xs)) name a

/-- Calls a method of a tuple. -/
def callTuple (m : Machine) (items : List Value) (name : String) (a : Args) : Run Value := do
  let full := "tuple." ++ name
  match name with
  | "index" =>
    let vs ← a.between full 1 3
    match ← indexOf? m items ((vs[0]?).getD .none) vs[1]? vs[2]? with
    | some i => return .int i
    | none => Run.valueError "tuple.index(x): x not in tuple"
  | "count" => countOf m items (← a.one full)
  | _ => Run.raise "AttributeError" s!"'tuple' object has no attribute '{name}'"

end ListMethod

namespace DequeMethod

/-- The items that stay when a queue keeps only so many: the last ones, or the first ones if they were
added on the left. -/
def kept (limit : Option Nat) (left : Bool) (items : Array Value) : Array Value :=
  match limit with
  | some n =>
    if items.size ≤ n then items
    else if left then items.extract 0 n else items.extract (items.size - n) items.size
  | none => items

/-- Gives a queue new items. -/
def write (r : Ref) (left : Bool) (items : Array Value) : Run Unit := do
  match ← Run.object? r with
  | some (.deque _ limit changes) => Run.write r (.deque (kept limit left items) limit (changes + 1))
  | _ => return ()

def mutated {α : Type} : Run α := Run.raise "RuntimeError" "deque mutated during iteration"

/-- Runs a search in a queue, which may not change meanwhile. -/
def unchanged {α : Type} (r : Ref) (changes : Nat) (fault : Run α) (x : Run α) : Run α := do
  let v ← x
  match ← Run.object? r with
  | some (.deque _ _ now) => if now = changes then return v else fault
  | _ => return v

/-- Calls a method of a queue. -/
def call (m : Machine) (r : Ref) (items : Array Value) (limit : Option Nat) (changes : Nat)
    (name : String) (a : Args) : Run Value := do
  let full := "deque." ++ name
  let set (left : Bool) (xs : Array Value) : Run Value := do
    write r left xs
    return .none
  let empty {α : Type} : Run α := Run.raise "IndexError" "pop from an empty deque"
  match name with
  | "append" => set false (items.push (← a.one full))
  | "appendleft" => set true (#[← a.one full] ++ items)
  | "extend" =>
    let more ← Iteration.collect m (← a.one full)
    set false (items ++ more.toArray)
  | "extendleft" =>
    let more ← Iteration.collect m (← a.one full)
    set true (more.reverse.toArray ++ items)
  | "pop" =>
    a.none full
    match items.back? with
    | some v =>
      write r false items.pop
      return v
    | none => empty
  | "popleft" =>
    a.none full
    match items[0]? with
    | some v =>
      write r false (items.eraseIdxIfInBounds 0)
      return v
    | none => empty
  | "insert" =>
    match ← a.parsed name 2 2 with
    | [i, v] =>
      let n ← Subscript.size m i
      if limit = some items.size then
        Run.raise "IndexError" "deque already at its maximum size"
      set false (items.insertIdxIfInBounds (ListMethod.insertPlace n items.size) v)
    | _ => return .none
  | "remove" =>
    let v ← a.one full
    let found ← unchanged r changes
      (Run.raise "IndexError" "deque mutated during remove().") (Comparison.findItem m items v)
    match found with
    | some i => set false (items.eraseIdxIfInBounds i)
    | none => Run.valueError s!"{← m.shown v} is not in deque"
  | "index" =>
    let vs ← a.parsed name 1 3
    let v := (vs[0]?).getD .none
    let found ← unchanged r changes mutated
      (ListMethod.indexOf? m items.toList v vs[1]? vs[2]?)
    match found with
    | some i => return .int i
    | none => Run.valueError s!"{← m.shown v} is not in deque"
  | "count" =>
    let v ← a.one full
    unchanged r changes mutated (ListMethod.countOf m items.toList v)
  | "reverse" =>
    a.none full
    set false items.reverse
  | "copy" | "__copy__" =>
    a.none full
    Run.new (.deque items limit 0)
  | "clear" =>
    a.none full
    set false #[]
  | "rotate" =>
    let vs ← a.between full 0 1
    let n ← match vs with
      | v :: _ => Subscript.integer m v
      | [] => pure 1
    if items.isEmpty then return .none
    let k := items.size - (n % items.size).toNat
    set false (items.extract k items.size ++ items.extract 0 k)
  | _ => Run.raise "AttributeError" s!"'collections.deque' object has no attribute '{name}'"

/-- A new queue from its items and the most that it keeps. -/
def make (m : Machine) (a : Args) : Run Value := do
  match ← (Signature.named "deque" 0 ["iterable", "maxlen"]).take a with
  | [source, most] =>
    let limit ← match most.getD .none with
      | .none => pure none
      | v =>
        match ← Subscript.index? m v with
        | some n =>
          if n < 0 then Run.valueError "maxlen must be non-negative"
          pure (some n.toNat)
        | none => Run.typeError "an integer is required"
    let items ← match source with
      | some v => Iteration.collect m v
      | none => pure []
    Run.new (.deque (kept limit false items.toArray) limit 0)
  | _ => return .none

end DequeMethod

namespace RangeMethod

/-- The place of an integer in a range. -/
def place? (start stop step n : Int) : Option Nat :=
  let count := Iteration.rangeLength start stop step
  if count ≠ 0 ∧ (n - start) % step = 0 ∧ 0 ≤ (n - start) / step ∧ (n - start) / step < count then
    some ((n - start) / step).toNat
  else none

/-- Calls a method of a range. -/
def call (m : Machine) (start stop step : Int) (name : String) (a : Args) : Run Value := do
  let v ← a.one ("range." ++ name)
  let whole : Option Int := match v with
    | .int n => some n
    | .bool b => some (if b then 1 else 0)
    | _ => none
  match name, whole with
  | "index", some n =>
    match place? start stop step n with
    | some i => return .int i
    | none => Run.valueError s!"{← m.shown v} is not in range"
  | "index", none =>
    let items ← Iteration.collect m (.range start stop step)
    match ← Comparison.findItem m items.toArray v with
    | some i => return .int i
    | none => Run.valueError "sequence.index(x): x not in sequence"
  | "count", some n => return .int (if (place? start stop step n).isSome then 1 else 0)
  | "count", none => ListMethod.countOf m (← Iteration.collect m (.range start stop step)) v
  | _, _ => Run.raise "AttributeError" s!"'range' object has no attribute '{name}'"

/-- The bounds and the step that a slice has in a sequence of a given length. -/
def indices (m : Machine) (lower upper step : Value) (a : Args) : Run Value := do
  let n ← Subscript.integer m (← a.one "slice.indices")
  if n < 0 then Run.valueError "length should not be negative"
  let (start, stop, step) ← Subscript.sliceBounds m lower upper step n.toNat
  return .tuple [.int start, .int stop, .int step]

end RangeMethod

namespace MemoryMethod

/-- What is known of a view of bytes. -/
def part? (v : Memory) (name : String) : Run (Option Value) := do
  let known : Option Value := match name with
    | "obj" => some v.source
    | "nbytes" => some (.int v.size)
    | "itemsize" => some (.int v.cell.width)
    | "ndim" => some (.int v.extent.length)
    | "format" => some (.str v.format)
    | "readonly" => some (.bool v.readOnly)
    | "shape" => some (.tuple (v.extent.map fun p => .int p.1))
    | "strides" => some (.tuple (v.extent.map fun p => .int p.2))
    | "suboffsets" => some (.tuple [])
    | "c_contiguous" => some (.bool (ByteView.isClose v))
    | "f_contiguous" => some (.bool (ByteView.isCloseBackwards v))
    | "contiguous" => some (.bool (ByteView.isClose v || ByteView.isCloseBackwards v))
    | _ => none
  if known.isSome && v.released then
    Run.valueError "operation forbidden on released memoryview object"
  return known

/-- A view of all bytes of a value. -/
def make (v : Value) : Run Value := do
  let b ← Kind.basic v
  let readOnly ← match b, ← Run.deref b with
    | .bytes _, _ => pure true
    | _, some (.byteArray _) => pure false
    | _, some (.memory view) =>
      discard (Run.viewed view)
      return ← Run.new (.memory view)
    | _, _ => Run.typeError s!"memoryview: a bytes-like object is required, not '{← Kind.name v}'"
  let count := ((← Run.bytes? b).getD []).length
  Run.new (.memory ⟨b, 0, [(count, 1)], .byte, "B", readOnly, false⟩)

/-- The lengths of the dimensions that the bytes of a view are divided into. -/
def newShape (m : Machine) (v : Memory) (shape : Value) : Run (List Nat) := do
  let parts ← match shape, ← Run.deref shape with
    | .tuple vs, _ => pure vs
    | _, some (.list vs) => pure vs.toList
    | _, _ => Run.typeError "shape must be a list or a tuple"
  if 64 < parts.length then
    Run.valueError "memoryview: number of dimensions must not exceed 64"
  if v.extent.length ≠ 1 && parts.length ≠ 1 then
    Run.typeError "memoryview: cast must be 1D -> ND or ND -> 1D"
  parts.mapM fun x => do
    match ← Kind.core x with
    | .int _ | .bool _ => pure ()
    | _ => Run.typeError "memoryview.cast(): elements of shape must be integers"
    let n ← Subscript.size m x
    if n ≤ 0 then
      Run.valueError "memoryview.cast(): elements of shape must be integers > 0"
    return n.toNat

/-- The same bytes as items of another kind, in one dimension or in the given ones. -/
def cast (m : Machine) (v : Memory) (format : String) (shape : Option Value) : Run Memory := do
  if !ByteView.isClose v then
    Run.typeError "memoryview: casts are restricted to C-contiguous views"
  if (shape.isSome || v.extent.length ≠ 1) && v.extent.any (fun p => p.1 == 0) then
    Run.typeError "memoryview: cannot cast view with zeros in shape or strides"
  let parts ← shape.mapM (newShape m v)
  discard (Encoded.encode format "ascii" "strict")
  match Cell.ofFormat? format with
  | none =>
    Run.valueError
      "memoryview: destination format must be a native single character format prefixed with an optional '@'"
  | some cell =>
    if !v.cell.isByte && !cell.isByte then
      Run.typeError "memoryview: cannot cast between two non-byte formats"
    let w := cell.width
    if v.size % w ≠ 0 then Run.typeError "memoryview: length is not a multiple of itemsize"
    let parts := parts.getD [v.size / w]
    if parts.foldl (· * ·) w ≠ v.size then
      Run.typeError "memoryview: product(shape) * itemsize != buffer size"
    return { v with extent := ByteView.close w parts, cell, format }

/-- Calls a method of a view of bytes. `hex` shows bytes. -/
def call (m : Machine) (hex : List UInt8 → Args → Run Value) (r : Ref) (view : Memory) (name : String) (a : Args) :
    Run Value := do
  let full := "memoryview." ++ name
  match name with
  | "tobytes" =>
    let order ← match ← (Signature.named name 0 ["order"]).take a with
      | [some .none] | [none] => pure none
      | [some v] =>
        match ← textArg? v with
        | some s => pure (some s)
        | none =>
          Run.typeError s!"tobytes() argument 'order' must be str or None, not {← Kind.name v}"
      | _ => pure none
    let bs ← Run.viewed view
    match order with
    | none | some "C" | some "A" => return .bytes bs
    | some "F" => return .bytes (← Run.viewed (ByteView.transposed view))
    | some _ => Run.valueError "order must be 'C', 'F' or 'A'"
  | "cast" =>
    match ← (Signature.named name 1 ["format", "shape"]).take a with
    | [some v, shape] =>
      let format ← match ← textArg? v with
        | some s => pure s
        | none => Run.typeError s!"cast() argument 'format' must be str, not {← Kind.given v}"
      discard (Run.viewed view)
      Run.new (.memory (← cast m view format shape))
    | _ => return .none
  | "release" =>
    a.none full
    Run.write r (.memory { view with released := true })
    return .none
  | "__exit__" =>
    Run.write r (.memory { view with released := true })
    return .none
  | _ =>
    if name != "hex" then a.none full
    let bs ← Run.viewed view
    match name with
    | "tolist" =>
      ByteView.nested (ByteView.shape view) (← ByteView.items view)
    | "hex" => hex bs a
    | "toreadonly" =>
      Run.new (.memory { view with readOnly := true })
    | "__enter__" => return .ref r
    | _ => Run.raise "AttributeError" s!"'memoryview' object has no attribute '{name}'"

end MemoryMethod

end LiveMarkdown.Script
