import LiveMarkdown.Script.Convert
import LiveMarkdown.Document.Builder
import LiveMarkdown.Document.Charset
import LiveMarkdown.Document.Edit

/-!
Elements made by code. Children may be nodes, texts, numbers, and lists of these to any depth; they
are checked before any of them is moved.
-/

namespace LiveMarkdown.Script

open LiveMarkdown.Document (NodeId)

namespace Element

/-- How deep lists of children may be nested. -/
def depthLimit : Nat := 1000

def newNode (c : Document.Content) : Run NodeId := fun w =>
  let (n, f) := w.forest.alloc c
  .ok n { w with forest := f }

/-- A new text node. -/
def newText (s : String) : Run NodeId := newNode (.text .plain s)

/-- Carries out an edit of the forest. -/
def edit (e : Document.Edit Unit) : Run Unit := do
  match e.run (← Run.forest) with
  | .ok _ f => Run.setForest f
  | .error err f =>
    Run.setForest f
    Run.valueError err.message

/-- The items of a list or tuple. -/
def listItems? (v : Value) : Run (Option (List Value)) := do
  match ← Kind.core v with
  | .tuple vs => return some vs
  | .ref r =>
    match ← Run.object? r with
    | some (.list items) => return some items.toList
    | _ => return none
  | _ => return none

/-- The leaves of a child as nodes, from left to right. -/
def leaves (m : Machine) : Nat → Value → Run (List NodeId)
  | 0, _ => throw .exhausted
  | depth + 1, v => do
    match v with
    | .none => return []
    | .node n => return [n]
    | v =>
      match ← listItems? v with
      | some items => return (← items.mapM (leaves m depth)).flatten
      | none =>
        match ← Kind.core v with
        | .node n => return [n]
        | .str _ | .bool _ | .int _ | .float _ | .fraction .. => return [← newText (← m.text v)]
        | _ => Run.typeError s!"Cannot convert {← Kind.plainName v} into a document node."

def flatten (m : Machine) (children : List Value) : Run (List NodeId) := do
  return (← children.mapM (leaves m depthLimit)).flatten

/-- The leaves of the items of any value. Each item is made into nodes before the next is asked for. -/
def flattenEach (m : Machine) (v : Value) : Run (List NodeId) := do
  let it ← Iteration.iter m v
  iterateUpTo loopLimit ([] : List NodeId) fun ns => do
    match ← m.next it with
    | some child => return .inl (ns ++ (← leaves m depthLimit child))
    | none => return .inr ns

/-- The name of an attribute: underscores at the end are dropped, others become dashes. -/
def attrName (key : String) : String :=
  String.ofList ((Text.dropLastWhile (· == '_') key.toList).map fun c => if c = '_' then '-' else c)

/-- The text of an attribute, unless it is left out. -/
def attrText (m : Machine) (v : Value) : Run (Option String) := do
  match v with
  | .none | .bool false => return none
  | .bool true => return some ""
  | v =>
    match ← listItems? v with
    | some items => return some (" ".intercalate (← items.mapM m.text))
    | none => return some (← m.text v)

def attributes (m : Machine) (names : List (String × Value)) : Run (List (String × String)) := do
  let pairs ← names.filterMapM fun (k, v) => do
    return (← attrText m v).map fun s => (attrName k, s)
  return Document.lastOfEach pairs

/-- Appends a node, which may be a whole document, to an element. -/
def append (parent child : NodeId) : Run Unit := edit (Document.Edit.append parent child)

/-- A new element without children. One whose name is no text cannot be written, and cannot have
attributes. -/
def newElement (m : Machine) (name : Value) (attrs : List (String × String)) (hasAttrs : Bool) :
    Run NodeId := do
  match ← Kind.basic name with
  | .none => Run.valueError "No value provided for new tag's name."
  | .str s => newNode (.tag (Document.tagOf true s attrs))
  | b =>
    let kind ← Kind.name name
    let isBytes := match b with
      | .bytes _ => true
      | _ => false
    if hasAttrs && !isBytes then
      Run.raise "AttributeError" s!"'{kind}' object has no attribute 'lower'"
    Comparison.hashable m name
    let n ← newNode (.tag { Document.tagOf true "" attrs with
      fault := some s!"can only concatenate str (not \"{kind}\") to str" })
    LiveAttributes.store n "name" name
    return n

/-- Makes an element: the attributes are read first, then the children are made into nodes, then they
are moved. -/
def make (m : Machine) (name : Value) (children : List Value) (attrs : List (String × Value)) :
    Run Value := do
  let attrs ← attributes m attrs
  let n ← newElement m name attrs !attrs.isEmpty
  for c in ← flatten m children do append n c
  return .node n

/-- The text of markup that is a text or bytes. Of what is neither, the beginning is looked at, and
nothing fits. -/
def decoded (m : Machine) (v : Value) : Run String := do
  match ← Kind.basic v with
  | .str s => return s
  | .bytes bs => return Document.Charset.decode bs
  | b =>
    if (← Iteration.length? m v).isNone then
      Run.typeError s!"object of type '{← Kind.name v}' has no len()"
    discard (Subscript.get m v (.slice .none (.int 3) .none))
    match ← Run.deref b with
    | some (.byteArray _) | some (.memory _) =>
      Run.typeError "cannot use a string pattern on a bytes-like object"
    | _ => Run.typeError s!"expected string or bytes-like object, got '{← Kind.name v}'"

/-- The text of markup, which may also be something that is read. -/
def markupText (m : Machine) (v : Value) : Run String := do
  match ← Iteration.catching "AttributeError" (m.attr v "read") with
  | some f => decoded m (← m.call f [])
  | none =>
    let isSized := (← Iteration.catching "AttributeError" (m.attr v "__len__")).isSome
    match ← Kind.basic v with
    | .str _ | .bytes _ => decoded m v
    | _ =>
      if isSized then decoded m v
      else
        Run.typeError s!"Incoming markup is of an invalid type: {← m.shown v}. Markup must be a string, a bytestring, or an open filehandle."

/-- Reads markup as a new document; the nodes at its top. -/
def parse (m : Machine) (v : Value) : Run (List NodeId) := do
  let text ← markupText m v
  match (← Run.forest).read true text with
  | .error e => Run.raise "ParserRejectedMarkup" e.message
  | .ok (root, f) =>
    Run.setForest f
    return f.children root

/-- Detaches nodes. -/
def detachAll (ns : List NodeId) : Run Unit :=
  modify fun w => { w with forest := ns.foldl (fun f n => f.extract n) w.forest }

/-- Refuses a named argument for a parameter that has its value already. -/
def refuseNamed (name : String) (params : List String) (names : List (String × Value)) :
    Run Unit := do
  match names.find? fun p => params.contains p.1 with
  | some (n, _) =>
    Run.typeError s!"ElementFactory.{name}() got multiple values for argument '{n}'"
  | none => return ()

/-- An element of a fixed name. It is made by `tag`, which has a parameter of its own for the name. -/
def shortcut (m : Machine) (name : String) (children : List Value) (attrs : List (String × Value)) :
    Run Value := do
  refuseNamed "tag" ["name"] attrs
  make m (.str name) children attrs

/-- A heading, whose level must be between 1 and 6. The level is converted once to be checked and
once more to be written. -/
def heading (m : Machine) (level : Value) (children : List Value) (attrs : List (String × Value)) :
    Run Value := do
  let n ← Convert.int m level
  if n < 1 || 6 < n then
    Run.valueError s!"Heading level must be between 1 and 6, got {← m.shown level}."
  shortcut m s!"h{← Convert.int m level}" children attrs

/-- The entry of a bullet list that holds a node: the node, or a list item around it. -/
def entry (m : Machine) (n : NodeId) : Run Value := do
  if (← Run.forest).name? n == some "li" then return .node n
  make m (.str "li") [.node n] []

/-- A bullet list: items that are not list items already are wrapped. -/
def bulletList (m : Machine) (items : List Value) (attrs : List (String × Value)) : Run Value := do
  shortcut m "ul" (← (← flatten m items).mapM (entry m)) attrs

def names : List String :=
  ["text", "tag", "parse", "p", "div", "span", "em", "strong", "code", "heading", "ul", "_flatten"]

def missing {α : Type} (name param : String) : Run α :=
  Run.typeError s!"ElementFactory.{name}() missing 1 required positional argument: '{param}'"

/-- The argument of a method with exactly one parameter. The named arguments are looked at first. -/
def oneParam (name param : String) (a : Args) : Run Value := do
  for (k, _) in a.names do
    if k == "self" || (k == param && !a.values.isEmpty) then
      Run.typeError s!"ElementFactory.{name}() got multiple values for argument '{k}'"
    if k != param then
      Run.typeError s!"ElementFactory.{name}() got an unexpected keyword argument '{k}'"
  match a.values, a.names with
  | [v], _ => return v
  | [], (_, v) :: _ => return v
  | [], [] => missing name param
  | vs, _ =>
    Run.typeError s!"ElementFactory.{name}() takes 2 positional arguments but {vs.length + 1} were given"

/-- The first argument of a method, which may be named, with the other values and names. -/
def firstParam (name param : String) (a : Args) : Run (Value × Args) := do
  match a.values with
  | v :: vs =>
    refuseNamed name ["self", param] a.names
    return (v, { values := vs, names := a.names })
  | [] =>
    refuseNamed name ["self"] a.names
    match a.names.find? fun p => p.1 == param with
    | some (_, v) => return (v, { values := [], names := a.names.filter fun p => p.1 != param })
    | none => missing name param

/-- Calls a method of the builder of elements. -/
def call (m : Machine) (name : String) (a : Args) : Run Value := do
  match name with
  | "text" => return .node (← newText (← m.text (← oneParam name "value" a)))
  | "parse" =>
    let ns ← parse m (← oneParam name "markup" a)
    detachAll ns
    Run.newList (ns.map .node)
  | "tag" =>
    let (v, rest) ← firstParam name "name" a
    make m v rest.values rest.names
  | "_flatten" => Run.newList ((← flattenEach m (← oneParam name "children" a)).map .node)
  | "heading" =>
    let (v, rest) ← firstParam name "level" a
    heading m v rest.values rest.names
  | "ul" =>
    refuseNamed name ["self"] a.names
    bulletList m a.values a.names
  | name =>
    refuseNamed name ["self"] a.names
    shortcut m name a.values a.names

end Element

end LiveMarkdown.Script
