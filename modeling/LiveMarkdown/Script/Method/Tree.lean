import LiveMarkdown.Script.Element
import LiveMarkdown.Script.Method.Argument

/-!
How code changes the tree: nodes are put in, taken out, wrapped, copied and joined. Texts that are put
in become text nodes.
-/

namespace LiveMarkdown.Script

open LiveMarkdown.Document (NodeId Forest)

namespace TreeMethod

/-- A new text node from a value: a text keeps its kind if it is a node, and bytes are read. -/
def textFrom (v : Value) : Run NodeId := do
  let kind ← match v with
    | .node n =>
      match (← Run.forest).content? n with
      | some (.text kind _) => pure kind
      | _ => pure .plain
    | _ => pure .plain
  match ← Kind.basic v with
  | .str s => Element.newNode (.text kind s)
  | .bytes bs => Element.newNode (.text kind ((String.fromUTF8? ⟨bs.toArray⟩).getD ""))
  | _ =>
    Run.typeError s!"decoding to str: need a bytes-like object, {← Kind.name v} found"

/-- Puts a node at a place among the children of another; a negative place counts from the end. A child
that stands there already stays. -/
def place (parent : NodeId) (position : Int) (n : NodeId) : Run Unit := do
  let f ← Run.forest
  let p := min position (f.children parent).length
  let i : Int := f.indexOf parent n
  let inside := f.parent? n = some parent
  if inside && i = p then return ()
  let p := if inside && i < p then p - 1 else p
  let f := f.extract n
  let p := if p < 0 then p + (f.children parent).length else p
  Run.setForest (f.place parent p.toNat n)

/-- Puts a node at a place among the children of another, unless it would become its own child. -/
def move (parent : NodeId) (position : Int) (n : NodeId) : Run Unit := do
  if n = parent then Run.valueError Document.EditError.insertedIntoItself.message
  place parent position n

/-- Puts a value at a place among the children of a node. In the place of a whole document its children
are put in one by one. -/
def insertOne (parent : NodeId) (position : Int) (v : Value) : Run (List NodeId) := do
  match v with
  | .none => Run.valueError "Cannot insert None into a tag."
  | .node n =>
    if n = parent then Run.valueError Document.EditError.insertedIntoItself.message
    let nodes := (← Run.forest).spread n
    for (c, i) in nodes.zipIdx do move parent (position + (i : Nat)) c
    return nodes
  | v =>
    match ← textArg? v with
    | some s =>
      let n ← Element.newText s
      place parent position n
      return [n]
    | none => Run.raise "AttributeError" s!"'{← Kind.name v}' object has no attribute 'parent'"

/-- Puts values at places one behind the other. -/
def insert (parent : NodeId) (position : Int) : List Value → Run (List NodeId)
  | [] => return []
  | v :: vs => do
    let ns ← insertOne parent position v
    return ns ++ (← insert parent (position + 1) vs)

def append (parent : NodeId) (v : Value) : Run NodeId := do
  match ← insertOne parent ((← Run.forest).children parent).length v with
  | n :: _ => return n
  | [] => Run.raise "IndexError" "list index out of range"

/-- What a value gives to be appended: the children of an element, a node or text itself, or its items. -/
def items (m : Machine) (v : Value) : Run (List Value) := do
  let f ← Run.forest
  match v with
  | .node n =>
    match f.content? n with
    | some (.text ..) => return [v]
    | _ => return (f.children n).map .node
  | v =>
    match ← Kind.basic v with
    | .str _ => return [v]
    | _ =>
      match ← Iteration.catching "TypeError" (Iteration.iter m v) with
      | some it => Iteration.drain m it
      | none =>
        Run.raise "UnboundLocalError"
          "cannot access local variable 'tag_list' where it is not associated with a value"

def isNode (n : NodeId) : Value → Bool
  | .node k => k == n
  | _ => false

/-- Puts values in the place of a node. -/
def replaceWith (n : NodeId) (vs : List Value) : Run Unit := do
  let f ← Run.forest
  match f.parent? n with
  | none => Run.valueError Document.EditError.notInTree.message
  | some p =>
    match vs with
    | [v] => if isNode n v then return ()
    | _ => pure ()
    if vs.any (isNode p) then Run.valueError Document.EditError.replacedByParent.message
    let i := f.indexOf p n
    Run.setForest (f.extract n)
    discard (insert p i vs)

/-- Puts values beside a node. After it each one stands a place further than the one before. -/
def insertBeside (n : NodeId) (after : Bool) (vs : List Value) : Run (List NodeId) := do
  let (nowhere, itself) := if after then
      (Document.EditError.nothingAfter, Document.EditError.afterItself)
    else (Document.EditError.nothingBefore, Document.EditError.beforeItself)
  match (← Run.forest).parent? n with
  | none => Run.valueError nowhere.message
  | some p =>
    if vs.any (isNode n) then Run.valueError itself.message
    let found ← vs.zipIdx.mapM fun (v, i) => do
      match v with
      | .node k => Run.setForest ((← Run.forest).extract k)
      | _ => pure ()
      let f ← Run.forest
      if !(f.children p).contains n then Run.valueError Document.EditError.notAChild.message
      insertOne p (f.indexOf p n + (if after then i + 1 else 0) : Nat) v
    return found.flatten

/-- Puts a node into an element that takes its place. -/
def wrap (n : NodeId) (v : Value) : Run Value := do
  replaceWith n [v]
  match v with
  | .node w =>
    match (← Run.forest).content? w with
    | some (.text ..) => Run.raise "AttributeError" s!"'{← Kind.name v}' object has no attribute 'append'"
    | _ =>
      discard (append w (.node n))
      return v
  | v => Run.raise "AttributeError" s!"'{← Kind.name v}' object has no attribute 'append'"

/-- Puts the children of an element in its place. -/
def unwrap (n : NodeId) : Run Unit := do
  let f ← Run.forest
  match f.parent? n with
  | none =>
    Run.valueError
      "Cannot replace an element with its contents when that element is not part of a tree."
  | some p =>
    let i := f.indexOf p n
    Run.setForest (f.extract n)
    for c in (f.children n).reverse do place p i c

/-- Takes a node apart: nothing is left of it or of what is below it. -/
def decompose (n : NodeId) : Run Unit := do
  let f ← Run.forest
  let all := n :: f.descendants n
  let f := all.foldl (fun f c => f.extract c) f
  Run.setForest (all.foldl (fun f c => f.modify c fun d => { d with content := match d.content with
    | .tag t => .tag { t with
        attrs := [], fault := some "can only concatenate str (not \"NoneType\") to str" }
    | c => c }) f)
  for c in all do
    LiveAttributes.store c "_decomposed" (.bool true)
    if f.isTag c then LiveAttributes.store c "name" .none

/-- Takes all children out of a node, or takes them apart. -/
def clear (n : NodeId) (apart : Bool) : Run Unit := do
  let kids := (← Run.forest).children n
  if apart then
    for c in kids do decompose c
  else Element.detachAll kids

/-- Makes a text the only content of an element. -/
def setString (n : NodeId) (v : Value) : Run Unit := do
  clear n false
  discard (append n (.node (← textFrom v)))

/-- A copy of a node with all below it. -/
def copy (m : Machine) (n : NodeId) : Run NodeId := do
  LiveAttributes.settle m
  let (k, f) := (← Run.forest).copy n
  Run.setForest f
  return k

def smooth (n : NodeId) : Run Unit := do Run.setForest ((← Run.forest).smooth n)

/-- The place of a node among the children of another. -/
def index (n : NodeId) (v : Value) : Run Value := do
  let f ← Run.forest
  match v with
  | .node c =>
    if (f.children n).contains c then return .int (f.indexOf n c)
    Run.valueError Document.EditError.notAChild.message
  | _ => Run.valueError Document.EditError.notAChild.message

/-- A new element. Values of attributes that are no texts are kept as they are given. -/
def newTag (m : Machine) (name : Value) (attrs : List (Value × Value)) : Run NodeId := do
  let texts ← attrs.filterMapM fun (k, v) => do
    match ← Kind.basic k, ← Kind.basic v with
    | .str k, .str v => return some (k, v)
    | _, _ => return none
  let n ← Element.newElement m name texts (!attrs.isEmpty)
  if texts.length ≠ attrs.length then
    let r ← LiveAttributes.dictionary n
    let held ← Space.entries r
    let es ← attrs.mapM fun (k, v) => do
      match ← Kind.basic k, ← Kind.basic v with
      | .str k, .str v => return (Value.str k, (Space.lookup held k).getD (.str v))
      | _, _ => return (k, v)
    Run.write r (.dict es.toArray)
  return n

end TreeMethod

end LiveMarkdown.Script
