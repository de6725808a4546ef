import LiveMarkdown.Script.World

/-!
The items of views of bytes, and the bytes that views keep from changing their number: while something
holds a view, the byte array that it shows can be neither longer nor shorter.
-/

namespace LiveMarkdown.Script

namespace ByteView

/-- What the bytes of a cell stand for. -/
def read (c : Cell) (bs : List UInt8) : Value :=
  match c with
  | .character => .bytes bs
  | .integer _ signed => .int (Cell.intOfBytes signed bs)
  | .single | .double => .float (Cell.floatOfBytes bs)
  | .truth => .bool (bs.any (· != 0))

/-- The items of a view in order, those of all dimensions after one another. -/
def items (v : Memory) : Run (List Value) := do
  let bs := (← Run.viewed v).toArray
  let w := v.cell.width
  return (List.range (bs.size / w)).map fun i => read v.cell (bs.extract (i * w) (i * w + w)).toList

/-- The items of a view of one dimension. -/
def line (v : Memory) : Run (List Value) := do
  match v.extent with
  | [_] => items v
  | [] =>
    discard (Run.viewed v)
    Run.typeError "invalid indexing of 0-dim memory"
  | _ =>
    discard (Run.viewed v)
    Run.raise "NotImplementedError" "multi-dimensional sub-views are not implemented"

/-- Items as lists in lists, one level for each dimension. -/
def nested : List Nat → List Value → Run Value
  | [], items => return items.headD .none
  | [_], items => Run.newList items
  | n :: rest, items => do
    let size := rest.foldl (· * ·) 1
    Run.newList (← (List.range n).mapM fun i => nested rest ((items.drop (i * size)).take size))

/-- The lengths of all dimensions. -/
def shape (v : Memory) : List Nat := v.extent.map (·.1)

/-- The dimensions of a view whose items stand close together, the last ones nearest. -/
def close (width : Nat) : List Nat → List (Nat × Int)
  | [] => []
  | n :: rest => (n, ((rest.foldl (· * ·) width : Nat) : Int)) :: close width rest

/-- Whether the items stand close together, in the order of the last dimension first. -/
def isClose (v : Memory) : Bool :=
  match v.extent with
  | [(n, d)] => n == 1 || d == v.cell.width
  | extent =>
    extent.any (fun p => p.1 == 0) ||
      (extent.zip (close v.cell.width (shape v))).all fun (p, q) => p.1 == 1 || p.2 == q.2

/-- A view with its dimensions in the other order. -/
def transposed (v : Memory) : Memory := { v with extent := v.extent.reverse }

/-- Whether the items stand close together, in the order of the first dimension first. -/
def isCloseBackwards (v : Memory) : Bool := isClose (transposed v)

/-- The bytes of a value in which they stand close together. -/
def closeBytes? (v : Value) : Run (Option (List UInt8)) := do
  match ← Run.deref v with
  | some (.memory view) =>
    if view.released || !isClose view then return none
    Run.bytes? v
  | _ => Run.bytes? v

/-- The bytes of a value that is made of bytes. They must stand close together. -/
def buffer? (v : Value) : Run (Option (List UInt8)) := do
  match ← Run.deref v with
  | some (.memory view) =>
    let bs ← Run.viewed view
    if !isClose view then
      Run.raise "BufferError" "memoryview: underlying buffer is not C-contiguous"
    return some bs
  | _ => Run.bytes? v

/-! ### Views that are held -/

/-- The values that an object refers to and keeps alive. -/
def held : Object → List Value
  | .list items | .deque items .. | .userList items | .set _ items => items.toList
  | .dict es => es.toList.flatMap fun p => [p.1, p.2]
  | .scope _ vars _ => vars.toList.map (·.2)
  | .instance _ _ core => core.toList
  | .exception _ args cause context _ fields =>
    args ++ cause.toList ++ context.toList ++ fields.toList.map (·.2)
  | .boundMethod f self => [f, self]
  | .function f => f.defaults ++ f.nameDefaults.map (·.2)
  | _ => []

/-- Whether a value is a view, or a tuple with one in it. The fuel bounds the depth of tuples. -/
def holds (r : Ref) : Nat → Value → Bool
  | _, .ref s => r == s
  | _, .method (.ref s) _ => r == s
  | fuel + 1, .tuple vs => vs.any (holds r fuel)
  | _, _ => false

/-- Whether an object is a view of a byte array that was not released. -/
def shows (source : Ref) : Object → Bool
  | .memory v =>
    match v.source with
    | .ref r => r == source && !v.released
    | _ => false
  | _ => false

/-- Whether something holds a view of a byte array. -/
def isViewed (source : Ref) : Run Bool := do
  let heap := (← get).heap
  let views := (List.range heap.size).filter fun i => (heap[i]?).any (shows source)
  return views.any fun r => heap.any fun o => (held o).any (holds r 20)

/-- Gives a byte array other bytes. Their number cannot change while something holds a view of it. -/
def setBytes (r : Ref) (bs : List UInt8) : Run Unit := do
  match ← Run.object? r with
  | some (.byteArray old) =>
    if old.length ≠ bs.length && (← isViewed r) then
      Run.raise "BufferError" "Existing exports of data: object cannot be re-sized"
  | _ => pure ()
  Run.write r (.byteArray bs)

end ByteView

end LiveMarkdown.Script
