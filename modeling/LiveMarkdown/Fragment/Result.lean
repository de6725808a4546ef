import LiveMarkdown.Fragment.Failure
import LiveMarkdown.Fragment.Recognition

/-!
What a fragment may return. A value has one of a few shapes, and the level of the fragment says which
shapes are accepted and which nodes they stand for. Inline code must give something; a block that
gives nothing is removed. An instance of a class of the program counts as what is built in of it: a
node, a text or a number.
-/

namespace LiveMarkdown

open Document (NodeId Forest)
open Script (Machine Value Run)

namespace Result

/-- The shape of a value. -/
inductive Shape where
  | nil
  | scalar (v : Value)
  | single (n : NodeId)
  | items (vs : List Value)
  | unrecognised

def Shape.name : Shape → String
  | .nil => "Nil"
  | .scalar _ => "Scalar"
  | .single _ => "SingleNode"
  | .items _ => "NodeList"
  | .unrecognised => "Unrecognised"

/-- The level of a value that is a node which can stand inside a tree. -/
def level? (f : Forest) : Value → Option Level
  | .node n => f.level? n
  | _ => none

/-- The node that a value is, if it can stand inside a tree. -/
def node? (f : Forest) (v : Value) : Option NodeId :=
  match v with
  | .node n => if (f.level? n).isSome then some n else none
  | _ => none

/-- Texts and real numbers, truth values apart. -/
def isScalar : Value → Bool
  | .str _ | .int _ | .float _ | .fraction .. => true
  | _ => false

/-- Built-in classes whose values count as sequences of items. -/
def sequenceClasses : List String :=
  ["tuple", "list", "range", "memoryview", "deque", "UserList", "UserString"]

/-- Sequences whose items are bytes. -/
def byteClasses : List String := ["bytes", "bytearray"]

/-- Whether some class of an order of look-up is one of the given built-in classes. -/
def anyNamed (names : List String) (order : List Value) : Bool :=
  order.any fun c => match c with
    | .type t => names.contains t
    | _ => false

/-- Whether a value is a sequence other than text and bytes. -/
def isSequence (v : Value) : Run Bool := do
  let order ← Script.Kind.order (← Script.Kind.of v)
  return anyNamed sequenceClasses order && !anyNamed byteClasses order

def classify (m : Machine) (v : Value) : Run Shape := do
  let part ← Script.Kind.core v
  match node? (← Run.forest) part with
  | some n => return .single n
  | none =>
    match v with
    | .none => return .nil
    | v =>
      if isScalar part then return .scalar v
      if ← isSequence v then return .items (← Script.Iteration.collect m v)
      return .unrecognised

/-- The nodes that items are, if all of them are nodes of a level. -/
def nodesAt? (f : Forest) (level : Level) : List Value → Option (List NodeId)
  | [] => some []
  | v :: vs =>
    match v with
    | .node n => if f.level? n = some level then (nodesAt? f level vs).map (n :: ·) else none
    | _ => none

/-- The nodes that a value stands for at a level, if it is accepted there. -/
def validate (m : Machine) (v : Value) (level : Level) : Run (Option (List NodeId)) := do
  match ← classify m v with
  | .nil => return if level = .block then some [] else none
  | .scalar s =>
    if level = .inline then return some [← Script.Element.newText (← m.text s)]
    return none
  | .single n => return if (← Run.forest).level? n = some level then some [n] else none
  | .items vs =>
    let parts ← vs.mapM Script.Kind.core
    return nodesAt? (← Run.forest) level parts
  | .unrecognised => return none

/-- What is accepted at a level, in words. -/
def expected : Level → String
  | .inline => "Expected an inline element, a list of inline elements, a number, or a string."
  | .block => "Expected a block-level element or a list of block-level elements."

end Result

end LiveMarkdown
