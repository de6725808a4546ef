import LiveMarkdown.Document.Selector.Match
import LiveMarkdown.Script.Method.Markup
import LiveMarkdown.Script.Method.Tree

/-!
What code can ask of a node of the document, and how it can change the document. What an element does not
know by its name is the first element of that name below it.
-/

namespace LiveMarkdown.Script

open LiveMarkdown.Document (NodeId Forest)

namespace NodeMethod

/-- A method: the class that defines it, its parameters, how many of these must be given, and whether
it takes more values and more names. -/
structure Shape where
  owner : String
  params : List String
  needed : Nat
  takesMore : Bool := false
  takesNames : Bool := false

/-- The methods of all nodes. -/
def commonShapes : List (String × Shape) :=
  [("replace_with", ⟨"PageElement", [], 0, true, false⟩),
    ("wrap", ⟨"PageElement", ["wrap_inside"], 1, false, false⟩),
    ("extract", ⟨"PageElement", ["_self_index"], 0, false, false⟩),
    ("decompose", ⟨"PageElement", [], 0, false, false⟩),
    ("insert_before", ⟨"PageElement", [], 0, true, false⟩),
    ("insert_after", ⟨"PageElement", [], 0, true, false⟩),
    ("get_text", ⟨"PageElement", ["separator", "strip", "types"], 0, false, false⟩)]

/-- The methods of text nodes. -/
def textShapes : List (String × Shape) :=
  [("output_ready", ⟨"NavigableString", ["formatter"], 0, false, false⟩)]

/-- The methods of elements. -/
def elementShapes : List (String × Shape) :=
  [("append", ⟨"Tag", ["tag"], 1, false, false⟩),
    ("extend", ⟨"Tag", ["tags"], 1, false, false⟩),
    ("insert", ⟨"Tag", ["position"], 1, true, false⟩),
    ("clear", ⟨"Tag", ["decompose"], 0, false, false⟩),
    ("smooth", ⟨"Tag", [], 0, false, false⟩),
    ("unwrap", ⟨"Tag", [], 0, false, false⟩),
    ("index", ⟨"Tag", ["element"], 1, false, false⟩),
    ("get", ⟨"Tag", ["key", "default"], 1, false, false⟩),
    ("get_attribute_list", ⟨"Tag", ["key", "default"], 1, false, false⟩),
    ("has_attr", ⟨"Tag", ["key"], 1, false, false⟩),
    ("prettify", ⟨"Tag", ["encoding", "formatter"], 0, false, false⟩),
    ("decode",
      ⟨"Tag", ["indent_level", "eventual_encoding", "formatter", "iterator"], 0, false, false⟩),
    ("decode_contents",
      ⟨"Tag", ["indent_level", "eventual_encoding", "formatter"], 0, false, false⟩),
    ("encode", ⟨"Tag", ["encoding", "indent_level", "formatter", "errors"], 0, false, false⟩),
    ("encode_contents", ⟨"Tag", ["indent_level", "encoding", "formatter"], 0, false, false⟩),
    ("select", ⟨"Tag", ["selector", "namespaces", "limit"], 1, false, true⟩),
    ("select_one", ⟨"Tag", ["selector", "namespaces"], 1, false, true⟩)]

/-- The methods of whole documents. -/
def documentShapes : List (String × Shape) :=
  [("new_tag", ⟨"BeautifulSoup",
      ["name", "namespace", "nsprefix", "attrs", "sourceline", "sourcepos", "string"],
      1, false, true⟩),
    ("new_string", ⟨"BeautifulSoup", ["s", "subclass"], 1, false, false⟩)]

/-- The methods of what selects elements below a node. -/
def selectorShapes : List (String × Shape) :=
  [("select", ⟨"CSS", ["select", "namespaces", "limit", "flags"], 1, false, true⟩),
    ("iselect", ⟨"CSS", ["select", "namespaces", "limit", "flags"], 1, false, true⟩),
    ("select_one", ⟨"CSS", ["select", "namespaces", "flags"], 1, false, true⟩),
    ("closest", ⟨"CSS", ["select", "namespaces", "flags"], 1, false, true⟩),
    ("match", ⟨"CSS", ["select", "namespaces", "flags"], 1, false, true⟩),
    ("filter", ⟨"CSS", ["select", "namespaces", "flags"], 1, false, true⟩),
    ("escape", ⟨"CSS", ["ident"], 1, false, false⟩)]

/-- Other names of methods. -/
def otherNames : List (String × String) :=
  [("getText", "get_text"), ("replaceWith", "replace_with"), ("replaceWithChildren", "unwrap"),
    ("replace_with_children", "unwrap"), ("has_key", "has_attr")]

def namesOf (shapes : List (String × Shape)) : List String :=
  let own := shapes.map (·.1)
  own ++ (otherNames.filter fun p => own.contains p.2).map (·.1)

/-- The methods that nodes have by their class. -/
def names (cls : String) : List String :=
  match cls with
  | "BeautifulSoup" => namesOf documentShapes
  | "Tag" =>
    namesOf (commonShapes ++ elementShapes) ++ Search.names true ++ Search.names false ++
      ["__len__", "__getitem__", "__setitem__", "__delitem__", "__iter__", "__contains__", "__bool__",
        "__call__", "__copy__", "__deepcopy__"]
  | "NavigableString" =>
    namesOf (commonShapes ++ textShapes) ++ Search.names false ++ ["__copy__", "__deepcopy__"]
  | "CSS" => namesOf selectorShapes
  | _ => []

/-- The names by which a text node is not asked as a text. -/
def textNames : List String := names "NavigableString"

/-! ### Properties -/

/-- A node with others behind it, unless it is not written itself. -/
def selfAnd (f : Forest) (n : NodeId) (ns : List NodeId) : List NodeId :=
  if f.isRoot n || (f.tag? n).any (·.hidden) then ns else n :: ns

/-- The node that a property of every node is. -/
def single? (f : Forest) (n : NodeId) : String → Option (Option NodeId)
  | "parent" => some (f.parent? n)
  | "next_sibling" | "nextSibling" => some (f.nextSiblings n).head?
  | "previous_sibling" | "previousSibling" => some (f.previousSiblings n).head?
  | "next_element" | "next" => some (f.following n).head?
  | "previous_element" | "previous" => some (f.preceding n).head?
  | _ => none

/-- The nodes that a property of every node gives one after the other. -/
def several? (f : Forest) (n : NodeId) : String → Option (List NodeId)
  | "next_siblings" => some (f.nextSiblings n)
  | "previous_siblings" => some (f.previousSiblings n)
  | "next_elements" => some (f.following n)
  | "previous_elements" => some (f.preceding n)
  | "parents" => some (f.ancestors n)
  | "self_and_next_siblings" => some (selfAnd f n (f.nextSiblings n))
  | "self_and_previous_siblings" => some (selfAnd f n (f.previousSiblings n))
  | "self_and_next_elements" => some (selfAnd f n (f.following n))
  | "self_and_previous_elements" => some (selfAnd f n (f.preceding n))
  | "self_and_parents" => some (selfAnd f n (f.ancestors n))
  | _ => none

def generator (vs : List Value) : Run Value := Iteration.newIterator (.items "generator" vs)

/-- A property of every node. -/
def common? (m : Machine) (n : NodeId) (name : String) : Run (Option Value) := do
  let f ← Run.forest
  match single? f n name, several? f n name with
  | some c, _ => return some (Search.nodeOrNone c)
  | _, some ns => return some (← generator (ns.map .node))
  | none, none =>
    match name with
    | "text" => return some (← MarkupMethod.getText m n (.str "") (.bool false) none)
    | "strings" => return some (← generator (← MarkupMethod.texts m n false none))
    | "stripped_strings" => return some (← generator (← MarkupMethod.texts m n true none))
    | "decomposed" =>
      return some ((← LiveAttributes.storedAs? n "_decomposed").getD (.bool false))
    | _ => return none

/-- A property of a text node. -/
def ofText? (n : NodeId) (name : String) : Run (Option Value) := do
  match name with
  | "string" => return some (.node n)
  | "name" => return some .none
  | "hidden" => return some (.bool false)
  | _ => return none

/-- What selects elements below a node. -/
def selection (n : NodeId) : Run Value := do
  let space ← Run.alloc (.dict #[(.str "tag", .node n)])
  Run.new (.instance (.type "CSS") space none)

/-- A property that only whole documents have. -/
def ofDocument? (name : String) : Option Value :=
  match name with
  | "original_encoding" | "declared_html_encoding" | "markup" | "parse_only" => some .none
  | "contains_replacement_characters" | "is_xml" => some (.bool false)
  | _ => none

/-- The first element of a name below an element. -/
def firstNamed (n : NodeId) (name : String) : Run Value := do
  return Search.nodeOrNone ((← Run.forest).descendantsNamed n name).head?

/-- A property of an element or of a whole document. -/
def ofElement? (n : NodeId) (name : String) : Run (Option Value) := do
  let f ← Run.forest
  let isRoot := f.isRoot n
  let void := (f.tag? n).any (·.void)
  match name with
  | "string" => return some (Search.nodeOrNone (Search.soleText? f f.size n))
  | "name" => return some (.str (Search.nameOf f n))
  | "attrs" => return some (.ref (← LiveAttributes.dictionary n))
  | "contents" => return some (← Run.newList ((f.children n).map .node))
  | "children" => return some (← Iteration.newIterator (.children n 0))
  | "descendants" => return some (← generator ((f.descendants n).map .node))
  | "self_and_descendants" =>
    return some (← generator ((selfAnd f n (f.descendants n)).map .node))
  | "is_empty_element" | "isSelfClosing" =>
    return some (.bool ((f.children n).isEmpty && void))
  | "can_be_empty_element" => return some (.bool void)
  | "hidden" => return some (.bool (isRoot || (f.tag? n).any (·.hidden)))
  | "prefix" | "namespace" => return some .none
  | "css" => return some (← selection n)
  | _ =>
    match if isRoot then ofDocument? name else none with
    | some v => return some v
    | none =>
      if (isRoot && (names "BeautifulSoup").contains name) || (names "Tag").contains name ||
          name.startsWith "__" then
        return none
      if name.endsWith "Tag" && 3 < name.length then
        return some (← firstNamed n (name.dropEnd 3).toString)
      return some (← firstNamed n name)

/-- A property of a node: what code has stored with it, or what the node knows. -/
def property? (m : Machine) (n : NodeId) (name : String) : Run (Option Value) := do
  match ← LiveAttributes.storedAs? n name with
  | some v => return some v
  | none =>
    match ← common? m n name with
    | some v => return some v
    | none =>
      match (← Run.forest).content? n with
      | some (.text ..) => ofText? n name
      | some _ => ofElement? n name
      | none => return none

/-- Whether a property cannot be set. -/
def isFixed (isText : Bool) (name : String) : Bool :=
  ["text", "strings", "stripped_strings", "decomposed", "next", "previous", "nextSibling",
    "previousSibling", "next_siblings", "previous_siblings", "next_elements", "previous_elements",
    "parents", "self_and_next_siblings", "self_and_previous_siblings", "self_and_next_elements",
    "self_and_previous_elements", "self_and_parents"].contains name ||
  if isText then name == "string"
  else ["children", "descendants", "self_and_descendants", "is_empty_element", "isSelfClosing",
    "css"].contains name

/-- Changes what an element is. -/
def changeTag (n : NodeId) (change : Document.Tag → Document.Tag) : Run Unit := do
  match (← Run.forest).tag? n with
  | some t =>
    modify fun w => { w with
      forest := w.forest.modify n fun d => { d with content := .tag (change t) } }
  | none => return ()

/-- Gives an element a name. With one that is no text it cannot be written. -/
def setName (n : NodeId) (v : Value) : Run Unit := do
  let kind ← Kind.name v
  match ← textArg? v with
  | some s => changeTag n fun t => { t with name := s, fault := none }
  | none =>
    changeTag n fun t =>
      { t with fault := some s!"can only concatenate str (not \"{kind}\") to str" }
  LiveAttributes.store n "name" v

/-- Sets a property of a node. -/
def setProperty (m : Machine) (n : NodeId) (name : String) (v : Value) : Run Unit := do
  let isText := match (← Run.forest).content? n with
    | some (.text ..) => true
    | _ => false
  if isFixed isText name then
    Run.raise "AttributeError"
      s!"property '{name}' of '{← Kind.name (.node n)}' object has no setter"
  match isText, name with
  | false, "name" => setName n v
  | false, "attrs" =>
    match v, ← Run.deref v with
    | .ref r, some (.dict _) => LiveAttributes.hold n r
    | _, _ => LiveAttributes.hold n (← Run.alloc (.dict #[]))
  | false, "string" => TreeMethod.setString n v
  | false, "hidden" =>
    let hidden ← Iteration.truth m v
    changeTag n fun t => { t with hidden }
    LiveAttributes.store n name v
  | false, "can_be_empty_element" =>
    let void ← Iteration.truth m v
    changeTag n fun t => { t with void }
    LiveAttributes.store n name v
  | _, _ => LiveAttributes.store n name v

/-- Deletes what code has stored with a node; says whether there was something. -/
def deleteProperty (n : NodeId) (name : String) : Run Bool := do
  match ← LiveAttributes.space? n with
  | some r => Space.erase r name
  | none => return false

/-! ### Methods -/

/-- The selectors of a text. -/
def selectors (m : Machine) (v : Value) : Run (List Document.Selector) := do
  Comparison.hashable m v
  match ← Kind.basic v with
  | .str s =>
    match Document.Selector.parse s with
    | .ok ss => return ss
    | .error e =>
      let cls := match e with
        | .unsupported _ => "NotImplementedError"
        | _ => "SelectorSyntaxError"
      Run.raise cls (e.message s.toList)
  | .bytes _ => Run.typeError "a bytes-like object is required, not 'str'"
  | _ => Run.raise "AttributeError" s!"'{← Kind.name v}' object has no attribute 'replace'"

/-- The first elements of a list, unless there is no limit. -/
def limited (m : Machine) (limit : Value) (ns : List NodeId) : Run (List NodeId) := do
  match limit with
  | .none => return ns
  | v =>
    if ← Iteration.truth m (← m.compare .less v (.int 1)) then return ns
    return ns.take (← Subscript.integer m v).toNat

/-- The elements below a node that a selector takes. -/
def selected (m : Machine) (n : NodeId) (pattern limit : Value) : Run (List NodeId) := do
  let ss ← selectors m pattern
  LiveAttributes.settle m
  limited m limit ((← Run.forest).select n ss)

/-- Calls a method of what selects elements below a node. -/
def callSelection (m : Machine) (n : NodeId) (name : String) (a : Args) : Run Value := do
  let some (_, shape) := selectorShapes.find? fun p => p.1 == name | return .none
  let t ← a.take s!"CSS.{name}" shape.params shape.needed shape.takesMore shape.takesNames
  let pattern := t.get 0 .none
  match name with
  | "select" => Search.resultSet (← selected m n pattern (t.get 2 (.int 0)))
  | "iselect" => generator ((← selected m n pattern (t.get 2 (.int 0))).map .node)
  | "select_one" => return Search.nodeOrNone (← selected m n pattern (.int 1)).head?
  | "escape" =>
    match ← textArg? pattern with
    | some s => return .str (Document.SelectorText.escape s)
    | none => Run.typeError s!"object of type '{← Kind.name pattern}' has no len()"
  | name =>
    let ss ← selectors m pattern
    LiveAttributes.settle m
    let f ← Run.forest
    match name with
    | "closest" => return Search.nodeOrNone (f.closest? n ss)
    | "match" => return .bool (f.isSelected n ss)
    | _ => Search.resultSet (f.selectChildren n ss)

/-- The attributes that a new element is given: those given by name, then those of a dictionary or of
pairs. -/
def givenAttrs (m : Machine) (names : List (String × Value)) (attrs : Value) :
    Run (List (Value × Value)) := do
  let own := names.map fun (k, v) => (Value.str k, v)
  match attrs with
  | .none => return own
  | v =>
    let more ← m.call (.type "dict") [v]
    let es ← match ← Run.deref more with
      | some (.dict es) => pure es.toList
      | _ => pure []
    let start := own.toArray
    let all ← es.foldlM (fun (acc : Array (Value × Value)) (k, v) => Comparison.putKey m acc k v) start
    return all.toList

/-- Carries out a method with the arguments for its parameters. -/
def perform (m : Machine) (n : NodeId) (name : String) (t : Args.Taken) : Run Value := do
  let f ← Run.forest
  let arg (i : Nat) : Value := t.get i .none
  let minimal := Value.str "minimal"
  let utf8 := Value.str Document.encodingName
  let text (q : MarkupMethod.Asked) : Run String := MarkupMethod.write m n q
  match name with
  | "get" => return (← Subscript.attribute? m n (arg 0)).getD (arg 1)
  | "has_attr" => return .bool (← Subscript.attribute? m n (arg 0)).isSome
  | "get_attribute_list" =>
    let v := (← Subscript.attribute? m n (arg 0)).getD (arg 1)
    match v, ← Run.deref (← Kind.core v) with
    | .none, _ => Run.newList []
    | _, some (.list _) => return v
    | _, _ => Run.newList [v]
  | "get_text" =>
    MarkupMethod.getText m n (t.get 0 (.str "")) (t.get 1 (.bool false)) (t.given[2]?.join)
  | "append" => return .node (← TreeMethod.append n (arg 0))
  | "extend" =>
    let found ← (← TreeMethod.items m (arg 0)).mapM (TreeMethod.append n)
    Run.newList (found.map .node)
  | "insert" =>
    if t.more.isEmpty then return ← Run.newList []
    match ← Subscript.index? m (arg 0) with
    | some i => Run.newList ((← TreeMethod.insert n i t.more).map .node)
    | none =>
      Run.typeError
        s!"'<' not supported between instances of 'int' and '{← Kind.name (arg 0)}'"
  | "insert_before" | "insert_after" =>
    if f.isRoot n then
      Run.raise "NotImplementedError" s!"BeautifulSoup objects don't support {name}()."
    Run.newList ((← TreeMethod.insertBeside n (name == "insert_after") t.more).map .node)
  | "extract" =>
    Element.detachAll [n]
    return .node n
  | "decompose" =>
    TreeMethod.decompose n
    return .none
  | "replace_with" =>
    TreeMethod.replaceWith n t.more
    return .node n
  | "clear" =>
    TreeMethod.clear n (← Iteration.truth m (arg 0))
    return .none
  | "smooth" =>
    TreeMethod.smooth n
    return .none
  | "wrap" => TreeMethod.wrap n (arg 0)
  | "unwrap" =>
    TreeMethod.unwrap n
    return .node n
  | "index" => TreeMethod.index n (arg 0)
  | "prettify" =>
    let formatter := t.get 1 minimal
    match arg 0 with
    | .none => return .str (← text { depth := .int 0, formatter })
    | encoding =>
      MarkupMethod.encoded m (← text { depth := .int 0, encoding, formatter }) encoding
        (.str "xmlcharrefreplace")
  | "decode" =>
    return .str (← text { depth := arg 0, encoding := t.get 1 utf8, formatter := t.get 2 minimal })
  | "decode_contents" =>
    return .str (← text
      { depth := arg 0, encoding := t.get 1 utf8, formatter := t.get 2 minimal, inner := true })
  | "encode" =>
    let encoding := t.get 0 utf8
    MarkupMethod.encoded m (← text { depth := arg 1, encoding, formatter := t.get 2 minimal })
      encoding (t.get 3 (.str "xmlcharrefreplace"))
  | "encode_contents" =>
    let encoding := t.get 1 utf8
    MarkupMethod.encoded m
      (← text { depth := arg 0, encoding, formatter := t.get 2 minimal, inner := true })
      encoding (.str "strict")
  | "output_ready" => return .str (← MarkupMethod.ready m n (t.get 0 minimal))
  | "select" => Search.resultSet (← selected m n (arg 0) (t.get 2 (.int 0)))
  | "select_one" => return Search.nodeOrNone (← selected m n (arg 0) (.int 1)).head?
  | "new_tag" =>
    let k ← TreeMethod.newTag m (arg 0) (← givenAttrs m t.names (arg 3))
    match arg 6 with
    | .none => pure ()
    | s => TreeMethod.setString k s
    return .node k
  | _ => return .node (← TreeMethod.textFrom (arg 0))

/-- Calls a method of a node. -/
def call (m : Machine) (n : NodeId) (name : String) (a : Args) : Run Value := do
  match ← Search.call? m n name a with
  | some r => return r
  | none =>
    let name := ((otherNames.find? fun p => p.1 == name).map (·.2)).getD name
    let shapes := commonShapes ++ textShapes ++ elementShapes ++ documentShapes
    match shapes.find? fun p => p.1 == name with
    | some (_, s) =>
      let owner := if (← Run.forest).isRoot n && ["insert_before", "insert_after", "decode"].contains name
        then "BeautifulSoup" else s.owner
      perform m n name (← a.take (owner ++ "." ++ name) s.params s.needed s.takesMore s.takesNames)
    | none =>
      match name with
      | "__copy__" | "__deepcopy__" => return .node (← TreeMethod.copy m n)
      | _ =>
        Run.raise "AttributeError" s!"'{← Kind.name (.node n)}' object has no attribute '{name}'"

end NodeMethod

end LiveMarkdown.Script
