import LiveMarkdown.Document.Writer
import LiveMarkdown.Script.Request

/-!
The attributes of elements as code holds them: dictionaries that may change at any time and hold any
values. Before the document is read, what they hold is carried back to it.
-/

namespace LiveMarkdown.Script

open LiveMarkdown.Document (NodeId AttrValue)

namespace LiveAttributes

/-- The dictionary in which code holds the attributes of an element, once it has asked for it. -/
def held? (n : NodeId) : Run (Option Ref) := do
  return ((← get).heldAttributes.find? fun p => p.1 == n).map (·.2)

/-- Lets code hold the attributes of an element in a dictionary. -/
def hold (n : NodeId) (r : Ref) : Run Unit :=
  modify fun w => { w with
    heldAttributes := (n, r) :: w.heldAttributes.filter fun p => p.1 != n }

/-- The value of an attribute as code sees it. -/
def valueOf (v : AttrValue) : Run Value := do
  match v with
  | .tokens ws => Run.newList (ws.map .str)
  | .bare => return .none
  | v => return .str v.joined

/-- The dictionary of the attributes of an element. -/
def dictionary (n : NodeId) : Run Ref := do
  match ← held? n with
  | some r => return r
  | none =>
    let attrs := (((← Run.forest).tag? n).map (·.attrs)).getD []
    let es ← attrs.mapM fun (k, v) => do return (Value.str k, ← valueOf v)
    let r ← Run.alloc (.dict es.toArray)
    hold n r
    return r

/-- Words that are joined in the document, if all of them are texts. -/
def tokens (items : List Value) : Run AttrValue := do
  let words ← items.mapM Kind.basic
  let bad := (words.zip items).zipIdx.find? fun
    | ((.str _, _), _) => false
    | _ => true
  match bad with
  | some ((_, v), i) =>
    return .unwritable s!"sequence item {i}: expected str instance, {← Kind.name v} found"
  | none =>
    return .tokens (words.filterMap fun
      | .str s => some s
      | _ => none)

/-- A value of an attribute as the document holds it. A text that names a character set still does if
it has not changed. -/
def stored (m : Machine) (old : Option AttrValue) (v : Value) : Run AttrValue := do
  match ← Kind.basic v with
  | .none => return .bare
  | .str s =>
    match old with
    | some (.charset t) => return if s == t then .charset t else .text s
    | some (.contentType t) => return if s == t then .contentType t else .text s
    | _ => return .text s
  | .tuple items => tokens items
  | b =>
    match ← Run.deref b with
    | some (.list items) => tokens items.toList
    | _ => return .text (← m.text v)

/-- Carries the entries of a dictionary back to an element. -/
def carry (m : Machine) (n : NodeId) (r : Ref) : Run Unit := do
  match (← Run.forest).tag? n, ← Run.object? r with
  | some t, some (.dict es) =>
    let attrs ← es.toList.mapM fun (k, v) => do
      let name ← m.text k
      return (name, ← stored m (t.attr? name) v)
    let f ← Run.forest
    Run.setForest (f.modify n fun d => { d with content := .tag { t with attrs } })
  | _, _ => return ()

/-- Carries dictionaries back one after the other. A value that is shown meanwhile sees those that are
still to come. -/
def carryAll (m : Machine) : List (NodeId × Ref) → Run Unit
  | [] => return ()
  | (n, r) :: rest => do
    modify fun w => { w with heldAttributes := rest }
    carry m n r
    carryAll m rest

/-- Carries all that code holds back to the document. -/
def settle (m : Machine) : Run Unit := do
  let all := (← get).heldAttributes
  if all.isEmpty then return ()
  let restore : Run Unit := modify fun w => { w with heldAttributes := all }
  try
    carryAll m all
    restore
  catch e =>
    restore
    throw e

/-- What code has stored with a node. -/
def space? (n : NodeId) : Run (Option Ref) := do
  return ((← get).nodeSpaces.find? fun p => p.1 == n).map (·.2)

/-- Stores a value with a node under a name. -/
def store (n : NodeId) (name : String) (v : Value) : Run Unit := do
  match ← space? n with
  | some r => Space.set r name v
  | none =>
    let r ← Run.alloc (.dict #[(.str name, v)])
    modify fun w => { w with nodeSpaces := (n, r) :: w.nodeSpaces }

/-- The value that code has stored with a node under a name. -/
def storedAs? (n : NodeId) (name : String) : Run (Option Value) := do
  match ← space? n with
  | some r => Space.get? r name
  | none => return none

end LiveAttributes

namespace Markup

/-- The pieces that a node, or only its content, is written as, joined. -/
def write (m : Machine) (style : Document.Style) (place : Document.Place) (inner : Bool) (n : NodeId) :
    Run String := do
  LiveAttributes.settle m
  let f ← Run.forest
  let fault := if inner then (f.children n).findSome? f.fault? else f.fault? n
  match fault with
  | some reason => Run.typeError reason
  | none =>
    let fuel := f.size + 1
    return String.join (if inner then f.writeContent style fuel place n
      else f.writeUpTo style fuel place n)

/-- A node as text. -/
def text (m : Machine) (n : NodeId) : Run String := write m {} .inside false n

end Markup

end LiveMarkdown.Script
