import LiveMarkdown.Document.Forest

/-!
Edits of a forest. A node that is inserted is first taken out of the place where it stands, so no
edit puts a node in two places.
-/

namespace LiveMarkdown.Document

/-- Why an edit is refused. -/
inductive EditError where
  | notInTree
  | replacedByParent
  | insertedIntoItself
  | nothingBefore
  | nothingAfter
  | beforeItself
  | afterItself
  | notAChild
deriving DecidableEq, Repr

def EditError.message : EditError → String
  | .notInTree => "Cannot replace one element with another when the element to be replaced is not " ++
      "part of a tree."
  | .replacedByParent => "Cannot replace a Tag with its parent."
  | .insertedIntoItself => "Cannot insert a tag into itself."
  | .nothingBefore => "Element has no parent, so 'before' has no meaning."
  | .nothingAfter => "Element has no parent, so 'after' has no meaning."
  | .beforeItself => "Can't insert an element before itself."
  | .afterItself => "Can't insert an element after itself."
  | .notAChild => "Tag.index: element not in tag"

/-- An edit that may be refused. What was moved before the refusal stays moved. -/
abbrev Edit := EStateM EditError Forest

namespace Forest

/-- Takes a node out of the children of its parent. -/
def extract (f : Forest) (n : NodeId) : Forest :=
  match f.parent? n with
  | none => f
  | some p =>
    (f.modify p fun d => { d with children := d.children.erase n }).modify n
      fun d => { d with parent := none }

/-- Puts a node that has no parent among the children of another. -/
def place (f : Forest) (parent : NodeId) (i : Nat) (n : NodeId) : Forest :=
  (f.modify parent fun d => { d with children := d.children.insertIdx i n }).modify n
    fun d => { d with parent := some parent }

/-- Moves a node to a place among the children of another. A child of that node which stands before
the place makes room when it is taken out. -/
def moveTo (f : Forest) (parent : NodeId) (i : Nat) (n : NodeId) : Forest :=
  let limit := min i (f.children parent).length
  let goal := if f.parent? n = some parent ∧ f.indexOf parent n < limit then limit - 1 else limit
  (f.extract n).place parent goal n

/-- What stands for a node when it is inserted: the children of a whole document, else itself. -/
def spread (f : Forest) (n : NodeId) : List NodeId :=
  if f.isRoot n then f.children n else [n]

/-- Copies a node with all below it. The copy stands outside of any tree, and values that cannot be
missing are left out of it. The fuel bounds the depth. -/
def copyUpTo : Nat → Forest → NodeId → NodeId × Forest
  | 0, f, n => (n, f)
  | fuel + 1, f, n =>
    match f.content? n with
    | none => (n, f)
    | some c =>
      let c := match c with
        | .tag t => .tag { t with attrs := t.attrs.filter fun a => a.2 != .bare }
        | c => c
      let (k, g) := f.alloc c
      (k, (f.children n).foldl (fun g d =>
        let (e, g) := copyUpTo fuel g d
        g.place k (g.children k).length e) g)

def copy (f : Forest) (n : NodeId) : NodeId × Forest := f.copyUpTo f.size n

/-- Kinds of text that can be joined with their neighbours. -/
def joins : TextKind → Bool
  | .comment | .cdata | .instruction | .declaration | .doctype => false
  | _ => true

/-- A text that can be joined with its neighbours. -/
def joinable? (f : Forest) (n : NodeId) : Option String :=
  match f.content? n with
  | some (.text kind s) => if joins kind then some s else none
  | _ => none

/-- Joins the text at a place among the children of a node with the one behind it; the new text is
prose. -/
def joinAt (f : Forest) (parent : NodeId) (i : Nat) : Forest :=
  match (f.children parent).drop i with
  | a :: b :: _ =>
    match f.joinable? a, f.joinable? b with
    | some s, some t =>
      let (n, g) := f.alloc (.text .plain (s ++ t))
      ((g.extract b).extract a).place parent i n
    | _, _ => f
  | _ => f

/-- Joins the neighbouring texts below a node. The fuel bounds the depth. -/
def smoothUpTo : Nat → Forest → NodeId → Forest
  | 0, f, _ => f
  | fuel + 1, f, n =>
    let f := (f.children n).foldl (fun f c => smoothUpTo fuel f c) f
    (List.range (f.children n).length).foldr (fun i f => f.joinAt n i) f

def smooth (f : Forest) (n : NodeId) : Forest := f.smoothUpTo f.size n

end Forest

namespace Edit

/-- Moves a node, unless it would become its own child. -/
def move (parent : NodeId) (i : Nat) (n : NodeId) : Edit Unit :=
  if n = parent then throw .insertedIntoItself else modify (·.moveTo parent i n)

/-- Moves nodes to consecutive places. -/
def moveAll (parent : NodeId) (i : Nat) : List NodeId → Edit Unit
  | [] => pure ()
  | n :: ns => do
    move parent i n
    moveAll parent (i + 1) ns

/-- Inserts a node at a place among the children of another. -/
def insert (parent : NodeId) (i : Nat) (n : NodeId) : Edit Unit := do
  if n = parent then throw .insertedIntoItself
  else moveAll parent i ((← get).spread n)

/-- Inserts a node after the last child of another. -/
def append (parent n : NodeId) : Edit Unit := do
  insert parent ((← get).children parent).length n

/-- Inserts nodes from a place on, each one place further. -/
def insertFrom (parent : NodeId) (i : Nat) : List NodeId → Edit Unit
  | [] => pure ()
  | n :: ns => do
    insert parent i n
    insertFrom parent (i + 1) ns

/-- Puts nodes in the place of a node. The place is found before any of them is moved. -/
def replaceWith (n : NodeId) (new : List NodeId) : Edit Unit := do
  let f ← get
  match f.parent? n with
  | none => throw .notInTree
  | some p =>
    if new = [n] then pure ()
    else if p ∈ new then throw .replacedByParent
    else
      set (f.extract n)
      insertFrom p (f.indexOf p n) new

/-- Puts a node beside another, `offset` places on. -/
def insertBeside (parent n : NodeId) (offset : Nat) (new : NodeId) : Edit Unit := do
  modify (·.extract new)
  let f ← get
  if (f.children parent).contains n then insert parent (f.indexOf parent n + offset) new
  else throw .notAChild

/-- Puts a node before another. -/
def insertBefore (n new : NodeId) : Edit Unit := do
  match (← get).parent? n with
  | none => throw .nothingBefore
  | some p => if new = n then throw .beforeItself else insertBeside p n 0 new

/-- Puts a node after another. -/
def insertAfter (n new : NodeId) : Edit Unit := do
  match (← get).parent? n with
  | none => throw .nothingAfter
  | some p => if new = n then throw .afterItself else insertBeside p n 1 new

end Edit

end LiveMarkdown.Document
