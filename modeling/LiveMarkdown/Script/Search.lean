import LiveMarkdown.Document.Forest
import LiveMarkdown.Script.Element
import LiveMarkdown.Script.Method.Argument

/-!
Searches through the document. A search asks for names, attributes and texts. What is asked for makes
rules, of which one must be fulfilled.
-/

namespace LiveMarkdown.Script

open LiveMarkdown.Document (NodeId Forest)

namespace Search

/-- What a name, the value of an attribute or a text must be. -/
inductive Rule where
  | never
  | present (b : Bool)
  | text (s : String)
  /-- A function must say so. -/
  | asks (f : Value)

/-- Whether a value says that it has items. -/
def hasItems (m : Machine) (v : Value) : Run Bool := do
  return (← Iteration.catching "AttributeError" (m.attr v "__iter__")).isSome

/-- The rules that a value makes: those of all its items, if it has any. Items of items make a rule that
nothing fulfils, and so does a value without items. -/
def rules (m : Machine) : Nat → Value → Run (List Rule)
  | 0, _ => throw .exhausted
  | fuel + 1, v => do
    match ← Kind.basic v with
    | .none => return []
    | .str s => return [.text s]
    | .bytes bs => return [.text ((String.fromUTF8? ⟨bs.toArray⟩).getD "")]
    | .bool b => return [.present b]
    | _ =>
      if ← Kind.isCallable v then return [.asks v]
      if !(← hasItems m v) then return [.text (← m.text v)]
      let first : List Rule := if ← Iteration.truth m v then [] else [.never]
      let more ← (← Iteration.collect m v).mapM fun x => do
        match ← Kind.basic x with
        | .str _ | .bytes _ => rules m fuel x
        | _ => if ← hasItems m x then return [.never] else rules m fuel x
      return first ++ more.flatten

/-- How deep the values that rules are made of are looked into. -/
def ruleDepth : Nat := 3

/-- What a search asks for: rules for names, for attributes by their names, and for texts. -/
structure Strainer where
  names : List Rule
  attrs : List (Value × List Rule)
  texts : List Rule

/-- A search as it is written in code. -/
structure Query where
  name : Value
  attrs : Option Value
  string : Value
  limit : Value
  /-- More attributes by their names. -/
  names : List (String × Value)

def isGiven (m : Machine) (v : Option Value) : Run Bool := do
  match v with
  | some v => Iteration.truth m v
  | none => return false

/-- The attributes that a query asks for. What is no dictionary is asked of the classes. -/
def Query.wanted (q : Query) : Run (List (Value × Value)) := do
  let own ← match q.attrs with
    | none => pure []
    | some v =>
      match ← Run.deref (← Kind.core v) with
      | some (.dict es) => pure es.toList
      | _ => pure [(.str "class", v)]
  return own ++ q.names.map fun (k, v) => (.str (if k == "class_" then "class" else k), v)

/-- Adds rules for an attribute. -/
def addRules (attrs : List (Value × List Rule)) (k : Value) (rs : List Rule) :
    List (Value × List Rule) :=
  if rs.isEmpty then attrs
  else if attrs.any fun a => a.1.same k then
    attrs.map fun a => if a.1.same k then (a.1, a.2 ++ rs) else a
  else attrs ++ [(k, rs)]

/-- The rules of a query. Without any question it asks for elements. -/
def Query.strainer (q : Query) (m : Machine) : Run Strainer := do
  let anything := match q.name with
    | .none => q.names.isEmpty
    | _ => false
  let anything := anything && !(← isGiven m q.attrs) && !(← Iteration.truth m q.string)
  let names ← if anything then pure [.present true] else rules m ruleDepth q.name
  let attrs ← (← q.wanted).foldlM (fun (acc : List (Value × List Rule)) (k, v) => do
    let v := match v with
      | .none => .bool false
      | v => v
    return addRules acc k (← rules m ruleDepth v)) []
  return ⟨names, attrs, ← rules m ruleDepth q.string⟩

/-- Whether a node is an element or a whole document. -/
def isElement (f : Forest) (n : NodeId) : Bool := f.isTag n || f.isRoot n

/-- The name of an element or of a whole document. -/
def nameOf (f : Forest) (n : NodeId) : String := (f.name? n).getD "[document]"

/-- Whether the name of an element fulfils a rule. -/
def nameFulfils (m : Machine) (n : NodeId) (r : Rule) : Run Bool := do
  match r with
  | .never => return false
  | .present b => return b
  | .text s => return nameOf (← Run.forest) n == s
  | .asks f => Iteration.truth m (← m.call f [.node n])

/-- Whether a value, which may be missing, fulfils a rule. -/
def fulfils (m : Machine) (v : Value) (r : Rule) : Run Bool := do
  match r with
  | .never => return false
  | .present b =>
    return b == match v with
      | .none => false
      | _ => true
  | .text s =>
    match ← Kind.basic v with
    | .str t => return s == t
    | _ => return false
  | .asks f => Iteration.truth m (← m.call f [v])

/-- Whether one of several things holds, asked one after the other. -/
def anyM {α : Type} (p : α → Run Bool) : List α → Run Bool
  | [] => return false
  | x :: xs => do if ← p x then return true else anyM p xs

/-- Whether all of several things hold, asked one after the other. -/
def allM {α : Type} (p : α → Run Bool) : List α → Run Bool
  | [] => return true
  | x :: xs => do if ← p x then allM p xs else return false

/-- Whether an attribute fulfils one of its rules: one of its words does, or all of them together. -/
def attrFulfils (m : Machine) (v : Value) (rs : List Rule) : Run Bool := do
  match ← Run.deref (← Kind.core v) with
  | some (.list items) =>
    if ← anyM (fun r => anyM (fun x => fulfils m x r) items.toList) rs then return true
    match ← LiveAttributes.tokens items.toList with
    | .unwritable reason => Run.typeError reason
    | a => anyM (fulfils m (.str a.joined)) rs
  | _ => anyM (fulfils m v) rs

/-- The only text below an element, if it has one. The fuel bounds its depth. -/
def soleText? (f : Forest) : Nat → NodeId → Option NodeId
  | 0, _ => none
  | fuel + 1, n =>
    match f.children n with
    | [c] =>
      match f.content? c with
      | some (.text _ _) => some c
      | _ => soleText? f fuel c
    | _ => none

/-- Whether an element is asked for. -/
def Strainer.fitsElement (s : Strainer) (m : Machine) (n : NodeId) : Run Bool := do
  if s.names.isEmpty && s.attrs.isEmpty then return false
  if !s.names.isEmpty then
    if !(← anyM (nameFulfils m n) s.names) then return false
  let attrsFit ← allM (fun (k, rs) => do
    attrFulfils m ((← Subscript.attribute? m n k).getD .none) rs) s.attrs
  if !attrsFit then return false
  if s.texts.isEmpty then return true
  let f ← Run.forest
  match soleText? f f.size n with
  | some c => anyM (fulfils m (.node c)) s.texts
  | none => return false

/-- Whether a node is asked for. Empty texts are not. -/
def Strainer.fits (s : Strainer) (m : Machine) (n : NodeId) : Run Bool := do
  match (← Run.forest).content? n with
  | some (.text _ t) =>
    if t == "" || !s.names.isEmpty || !s.attrs.isEmpty then return false
    anyM (fulfils m (.node n)) s.texts
  | some _ => s.fitsElement m n
  | none => return false

/-- The nodes that are asked for, until there are enough. -/
def Strainer.select (s : Strainer) (m : Machine) (limit : Value) :
    List NodeId → List NodeId → Run (List NodeId)
  | found, [] => return found
  | found, n :: ns => do
    if ← s.fits m n then
      let found := found ++ [n]
      let enough ← match limit with
        | .none => pure false
        | limit => Iteration.truth m (← m.compare .greaterEq (.int found.length) limit)
      if enough then return found
      s.select m limit found ns
    else s.select m limit found ns

/-- The nodes that a query asks for among nodes. A query by name alone does not ask further. -/
def Query.run (q : Query) (m : Machine) (among : List NodeId) : Run (List NodeId) := do
  let f ← Run.forest
  let plain := match q.string with
    | .none => q.names.isEmpty
    | _ => false
  let plain := plain && !(← Iteration.truth m q.limit) && !(← isGiven m q.attrs)
  let byName ← match q.name with
    | .none | .bool true => pure (some none)
    | v =>
      match ← Kind.basic v with
      | .str s => pure (some (some s))
      | _ => pure none
  match plain, byName with
  | true, some none => return among.filter (isElement f)
  | true, some (some s) => return among.filter fun n => isElement f n && nameOf f n == s
  | _, _ =>
    let s ← q.strainer m
    s.select m q.limit [] among

/-- What a search answers: a list of its own class. -/
def resultSet (ns : List NodeId) : Run Value := do
  let space ← Run.alloc (.dict #[])
  let items ← Run.newList (ns.map .node)
  Run.new (.instance (.type "ResultSet") space (some items))

def nodeOrNone (n : Option NodeId) : Value := (n.map Value.node).getD .none

/-- Where a search goes from a node. -/
inductive Field where
  | below
  | after
  | before
  | nextSiblings
  | previousSiblings
  | above
deriving DecidableEq

def Field.nodes (f : Forest) (n : NodeId) : Field → List NodeId
  | .below => f.descendants n
  | .after => f.following n
  | .before => f.preceding n
  | .nextSiblings => f.nextSiblings n
  | .previousSiblings => f.previousSiblings n
  | .above => f.ancestors n

/-- The method that asks for all nodes, and the one that asks for the first, of each field. -/
def methods : List (Field × String × String) :=
  [(.below, "find_all", "find"), (.after, "find_all_next", "find_next"),
    (.before, "find_all_previous", "find_previous"),
    (.nextSiblings, "find_next_siblings", "find_next_sibling"),
    (.previousSiblings, "find_previous_siblings", "find_previous_sibling"),
    (.above, "find_parents", "find_parent")]

/-- Other names of the methods. -/
def otherNames : List (String × String) :=
  [("findAll", "find_all"), ("findChildren", "find_all"), ("findChild", "find"),
    ("findNext", "find_next"), ("findAllNext", "find_all_next"),
    ("findNextSibling", "find_next_sibling"), ("findNextSiblings", "find_next_siblings"),
    ("fetchNextSiblings", "find_next_siblings"), ("findPrevious", "find_previous"),
    ("findAllPrevious", "find_all_previous"), ("fetchAllPrevious", "find_all_previous"),
    ("findPreviousSibling", "find_previous_sibling"),
    ("findPreviousSiblings", "find_previous_siblings"),
    ("fetchPreviousSiblings", "find_previous_siblings"), ("findParent", "find_parent"),
    ("findParents", "find_parents"), ("fetchParents", "find_parents")]

/-- The methods by which a search begins, with those that only elements have apart. -/
def names (ofElements : Bool) : List String :=
  let own := methods.filter fun p => (p.1 == Field.below) == ofElements
  let all := own.flatMap fun p => [p.2.1, p.2.2]
  all ++ (otherNames.filter fun p => all.contains p.2).map (·.1)

/-- The parameters of a method that searches a field. -/
def params (field : Field) (all : Bool) : List String :=
  let own := match field with
    | .below => ["name", "attrs", "recursive", "string"]
    | .above => ["name", "attrs"]
    | _ => ["name", "attrs", "string"]
  if all then own ++ ["limit", "_stacklevel"] else own

/-- Carries out a search that begins at a node, if that is what a method does. -/
def call? (m : Machine) (n : NodeId) (name : String) (a : Args) : Run (Option Value) := do
  let name := ((otherNames.find? fun p => p.1 == name).map (·.2)).getD name
  let found : Option (Field × String × String) :=
    methods.find? fun p => p.2.1 == name || p.2.2 == name
  let some (field, forAll, forOne) := found | return none
  let all := name == forAll
  let owner := if field == Field.below then "Tag" else "PageElement"
  let ps := params field all
  let t : Args.Taken ← a.take (owner ++ "." ++ (if all then forAll else forOne)) ps 0 false true
  if !all && t.names.any (fun p => p.1 == "limit") then
    Run.typeError s!"{owner}.{forAll}() got multiple values for argument 'limit'"
  let given (p : String) : Option Value := (t.given[ps.idxOf p]?).join
  let string := (given "string").getD .none
  let texts := t.names.filter fun p => p.1 == "text"
  let (string, names) := match string, texts with
    | .none, (_, v) :: _ => (v, t.names.filter fun p => p.1 != "text")
    | _, _ => (string, t.names)
  let q : Query :=
    { name := (given "name").getD .none
      attrs := given "attrs"
      string
      limit := if all then (given "limit").getD .none else .int 1
      names }
  let f ← Run.forest
  let deep ← match given "recursive" with
    | some v => Iteration.truth m v
    | none => pure true
  let among := if field == Field.below && !deep then f.children n else field.nodes f n
  let found ← q.run m among
  if all then return some (← resultSet found)
  return some (nodeOrNone found.head?)

end Search

end LiveMarkdown.Script
