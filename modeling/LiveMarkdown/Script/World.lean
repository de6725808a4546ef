import LiveMarkdown.Script.Value

/-!
What running code can see and change: the document, the heap, what was printed, and the modules that
can be imported.
-/

namespace LiveMarkdown.Script

open LiveMarkdown.Document (NodeId)

structure World where
  forest : Document.Forest := .empty
  heap : Array Object := #[]
  printed : String := ""
  /-- Modules by name, in the order in which they became importable. -/
  modules : List (String × Value) := []
  /-- The exceptions that are being handled, innermost first. -/
  handling : List Value := []
  /-- The objects that are being shown, innermost first. -/
  showing : List Ref := []
  /-- The iterators that go through a dictionary. -/
  walks : List Ref := []
  /-- The namespace of the module whose code runs. -/
  globals : Option Ref := none
  /-- The dictionary of the built-in names, once code has asked for it. -/
  builtins : Option Ref := none
  /-- The dictionaries in which code holds the attributes of elements. -/
  heldAttributes : List (NodeId × Ref) := []
  /-- What code has stored with nodes under names of its own. -/
  nodeSpaces : List (NodeId × Ref) := []

/-- How a computation ends without a result. -/
inductive Stop where
  | raised (e : Value)
  | exhausted

/-- A computation that may change the world, and may raise an exception. -/
abbrev Run := EStateM Stop World

namespace Run

def alloc (o : Object) : Run Ref := fun w =>
  .ok w.heap.size { w with heap := w.heap.push o }

/-- A new object as a value. -/
def new (o : Object) : Run Value := do return .ref (← alloc o)

def object? (r : Ref) : Run (Option Object) := do return (← get).heap[r]?

def write (r : Ref) (o : Object) : Run Unit :=
  modify fun w => { w with heap := w.heap.set! r o }

/-- The object that a value refers to. -/
def deref (v : Value) : Run (Option Object) :=
  match v with
  | .ref r => object? r
  | _ => return none

def print (s : String) : Run Unit := modify fun w => { w with printed := w.printed ++ s }

def forest : Run Document.Forest := do return (← get).forest

def setForest (f : Document.Forest) : Run Unit := modify fun w => { w with forest := f }

/-- The exception during whose handling another one was raised. -/
def context? (e : Ref) : Run (Option Ref) := do
  match ← object? e with
  | some (.exception _ _ _ (some (.ref c)) _ _) => return some c
  | _ => return none

def setContext (e : Ref) (context : Option Ref) : Run Unit := do
  match ← object? e with
  | some (.exception cls args cause _ suppressed fields) =>
    write e (.exception cls args cause (context.map .ref) suppressed fields)
  | _ => return ()

/-- Takes an exception out of the contexts that lead on from another one. The fuel bounds their
number. -/
def unlinkContext (e : Ref) : Nat → Ref → Run Unit
  | 0, _ => return ()
  | fuel + 1, r => do
    match ← context? r with
    | some c => if c = e then setContext r none else unlinkContext e fuel c
    | none => return ()

/-- Raises an exception; the one being handled becomes its context. -/
def throwValue {α : Type} (e : Value) : Run α := do
  match e, (← get).handling with
  | .ref r, .ref h :: _ =>
    if r ≠ h then
      unlinkContext r (← get).heap.size h
      setContext r (some h)
  | _, _ => pure ()
  throw (.raised e)

/-- Raises an instance of a built-in class. -/
def raiseWith {α : Type} (cls : String) (args : List Value) : Run α := do
  throwValue (← new (.exception (.type cls) args none none false #[]))

def raise {α : Type} (cls message : String) : Run α := raiseWith cls [.str message]

def typeError {α : Type} (message : String) : Run α := raise "TypeError" message

def valueError {α : Type} (message : String) : Run α := raise "ValueError" message

def newList (items : List Value) : Run Value := new (.list items.toArray)

def newDict (entries : List (Value × Value)) : Run Value := new (.dict entries.toArray)

/-- Removes an entry of a dictionary. The iterators that have passed it step back by one place. -/
def eraseEntry (r : Ref) (es : Array (Value × Value)) (i : Nat) : Run Unit := do
  write r (.dict (es.eraseIdx! i))
  for w in (← get).walks do
    match ← object? w with
    | some (.iterator (.dict kind source next size left)) =>
      if source = r && i < next then write w (.iterator (.dict kind source (next - 1) size left))
    | _ => pure ()

/-- Remembers an iterator that goes through a dictionary. -/
def beginWalk (r : Ref) : Run Unit := modify fun w => { w with walks := r :: w.walks }

def endWalk (r : Ref) : Run Unit :=
  modify fun w => { w with walks := w.walks.filter fun x => x != r }

/-- The bytes that a view shows. -/
def viewed (v : Memory) : Run (List UInt8) := do
  if v.released then valueError "operation forbidden on released memoryview object"
  let all ← match v.source with
    | .bytes bs => pure bs.toArray
    | s =>
      match ← deref s with
      | some (.byteArray bs) => pure bs.toArray
      | _ => pure #[]
  return (Memory.offsets v.extent v.start).flatMap fun i =>
    (List.range v.cell.width).map fun j => (all[i.toNat + j]?).getD 0

/-- The bytes of a value that is made of bytes. -/
def bytes? (v : Value) : Run (Option (List UInt8)) := do
  match v with
  | .bytes bs => return some bs
  | v =>
    match ← deref v with
    | some (.byteArray bs) => return some bs
    | some (.memory view) => return some (← viewed view)
    | _ => return none

/-- Handles what a computation raises. -/
def handle {α : Type} (x : Run α) (h : Value → Run α) : Run α :=
  tryCatch x fun
    | .raised e => h e
    | .exhausted => throw .exhausted

end Run

/-! ### Namespaces -/

namespace Space

/-- The entries of a namespace. -/
def entries (r : Ref) : Run (Array (Value × Value)) := do
  match ← Run.object? r with
  | some (.dict es) => return es
  | _ => return #[]

def isName (name : String) : Value → Bool
  | .str s => s == name
  | _ => false

/-- The value of a name in a list of entries. -/
def lookup (es : Array (Value × Value)) (name : String) : Option Value :=
  (es.find? fun e => isName name e.1).map (·.2)

def get? (r : Ref) (name : String) : Run (Option Value) := do
  return lookup (← entries r) name

/-- Sets a name in a list of entries; a new name comes last. -/
def put (es : Array (Value × Value)) (name : String) (v : Value) : Array (Value × Value) :=
  match es.findIdx? fun e => isName name e.1 with
  | some i => es.set! i (.str name, v)
  | none => es.push (.str name, v)

def set (r : Ref) (name : String) (v : Value) : Run Unit := do
  let es ← entries r
  Run.write r (.dict (put es name v))

/-- Removes a name; says whether it was there. -/
def erase (r : Ref) (name : String) : Run Bool := do
  let es ← entries r
  match es.findIdx? fun e => isName name e.1 with
  | some i =>
    Run.eraseEntry r es i
    return true
  | none => return false

end Space

end LiveMarkdown.Script
