import LiveMarkdown.Source.Cursor
import LiveMarkdown.Text.Blank

/-!
Documents as forests: nodes with a list of children and a link to their parent. A forest holds the
document of a run and every node that was made or detached beside it.
-/

namespace LiveMarkdown.Document

abbrev NodeId := Nat

/-- The value of an attribute. A list of tokens is kept apart from plain text. Values that name a
character set are kept apart, since it is replaced when the document is written. -/
inductive AttrValue where
  | text (s : String)
  | tokens (ws : List String)
  | charset (s : String)
  | contentType (s : String)
  /-- No value: only the name is written. -/
  | bare
  /-- A value that cannot be written, with the reason. -/
  | unwritable (reason : String)
deriving DecidableEq, Repr

/-- What a piece of text is. The last five are texts inside elements that are not prose. -/
inductive TextKind where
  | plain
  | comment
  | cdata
  | instruction
  | declaration
  | doctype
  | stylesheet
  | script
  | template
  | rubyText
  | rubyParenthesis
deriving DecidableEq, Repr

/-- A name with attributes, in the order in which they were given. -/
structure Tag where
  name : String
  attrs : List (String × AttrValue)
  /-- Whether the element is closed at once when it is empty. -/
  void : Bool := false
  /-- Whether only the content of the element is written. -/
  hidden : Bool := false
  /-- Why the element cannot be written, if its name is no text. -/
  fault : Option String := none
deriving DecidableEq, Repr

/-- A node is a whole document, an element, or a piece of text. -/
inductive Content where
  | root
  | tag (t : Tag)
  | text (kind : TextKind) (s : String)
deriving DecidableEq, Repr

structure Node where
  content : Content
  parent : Option NodeId
  children : List NodeId
deriving DecidableEq, Repr

structure Forest where
  nodes : Array Node

namespace Forest

def empty : Forest := ⟨#[]⟩

def size (f : Forest) : Nat := f.nodes.size

def node? (f : Forest) (n : NodeId) : Option Node := f.nodes[n]?

def content? (f : Forest) (n : NodeId) : Option Content := (f.node? n).map (·.content)

def parent? (f : Forest) (n : NodeId) : Option NodeId := (f.node? n).bind (·.parent)

def children (f : Forest) (n : NodeId) : List NodeId :=
  match f.node? n with
  | some d => d.children
  | none => []

def tag? (f : Forest) (n : NodeId) : Option Tag :=
  match f.content? n with
  | some (.tag t) => some t
  | _ => none

/-- The name of an element. -/
def name? (f : Forest) (n : NodeId) : Option String := (f.tag? n).map (·.name)

def isTag (f : Forest) (n : NodeId) : Bool := (f.tag? n).isSome

def isRoot (f : Forest) (n : NodeId) : Bool := f.content? n == some .root

/-- Changes one node. -/
def modify (f : Forest) (n : NodeId) (g : Node → Node) : Forest := ⟨f.nodes.modify n g⟩

/-- Adds a node without parent and children. -/
def alloc (f : Forest) (c : Content) : NodeId × Forest :=
  (f.size, ⟨f.nodes.push ⟨c, none, []⟩⟩)

/-- The nodes above a node, the nearest first. The fuel bounds their number. -/
def ancestorsUpTo (f : Forest) : Nat → NodeId → List NodeId
  | 0, _ => []
  | fuel + 1, n =>
    match f.parent? n with
    | some p => p :: f.ancestorsUpTo fuel p
    | none => []

def ancestors (f : Forest) (n : NodeId) : List NodeId := f.ancestorsUpTo f.size n

/-- The nodes below a node in document order. The fuel bounds their depth. -/
def descendantsUpTo (f : Forest) : Nat → NodeId → List NodeId
  | 0, _ => []
  | fuel + 1, n => (f.children n).flatMap fun c => c :: f.descendantsUpTo fuel c

def descendants (f : Forest) (n : NodeId) : List NodeId := f.descendantsUpTo f.size n

/-- The place of a child among the children of its parent. -/
def indexOf (f : Forest) (parent child : NodeId) : Nat := (f.children parent).idxOf child

end Forest

/-- The names of elements that stand among blocks. -/
def blockNames : List String :=
  ["address", "article", "aside", "blockquote", "details", "dialog", "dd", "div", "dl", "dt",
    "fieldset", "figcaption", "figure", "footer", "form", "h1", "h2", "h3", "h4", "h5", "h6",
    "header", "hgroup", "hr", "li", "main", "nav", "ol", "p", "pre", "section", "summary", "table",
    "tbody", "td", "tfoot", "th", "thead", "tr", "ul"]

/-- The level of an element of a given name. -/
def nameLevel (name : String) : Level := if blockNames.contains name then .block else .inline

/-- The level of a node. A whole document has none, since it cannot stand inside a tree. -/
def Forest.level? (f : Forest) (n : NodeId) : Option Level :=
  match f.content? n with
  | some (.tag t) => some (nameLevel t.name)
  | some (.text _ _) => some .inline
  | _ => none

/-!
Questions to a forest: the text below a node, the first element of a name, the tokens of an
attribute, and which nodes come before or after a node in document order. The nodes above a node come
before it, and those below it after it; a whole document is not counted.
-/

/-! ### Document order -/

namespace Forest

/-- The siblings after a node. -/
def nextSiblings (f : Forest) (n : NodeId) : List NodeId :=
  match f.parent? n with
  | some p => ((f.children p).dropWhile (· ≠ n)).drop 1
  | none => []

/-- The siblings before a node, the nearest first. -/
def previousSiblings (f : Forest) (n : NodeId) : List NodeId :=
  match f.parent? n with
  | some p => ((f.children p).takeWhile (· ≠ n)).reverse
  | none => []

/-- A node with all below it, in document order. -/
def subtree (f : Forest) (n : NodeId) : List NodeId := n :: f.descendants n

/-- The nodes that come after a node with all below it. -/
def followingAll (f : Forest) (n : NodeId) : List NodeId :=
  (n :: f.ancestors n).flatMap fun a => (f.nextSiblings a).flatMap f.subtree

/-- The nodes after a node in document order, those below it first. A whole document is followed by
nothing. -/
def following (f : Forest) (n : NodeId) : List NodeId :=
  if f.isRoot n then [] else f.descendants n ++ f.followingAll n

/-- The nodes before a node in document order, the nearest first. -/
def preceding (f : Forest) (n : NodeId) : List NodeId :=
  (n :: f.ancestors n).flatMap fun a =>
    (f.previousSiblings a).flatMap (fun s => (f.subtree s).reverse) ++
      match f.parent? a with
      | some p => if f.isRoot p then [] else [p]
      | none => []

end Forest

/-! ### Names, texts and attributes -/

/-- The kind of text that an element of a given name holds where it is not prose. -/
def containerKind? : String → Option TextKind
  | "rt" => some .rubyText
  | "rp" => some .rubyParenthesis
  | "style" => some .stylesheet
  | "script" => some .script
  | "template" => some .template
  | _ => none

/-- Whether the text of an element counts texts of a kind: prose and character data, or, for elements
that hold a kind of their own, that kind alone. -/
def countsText (name : Option String) (kind : TextKind) : Bool :=
  match name.bind containerKind? with
  | some own => kind == own
  | none => kind == .plain || kind == .cdata

namespace Forest

/-- The text below a node: all its pieces of prose, joined. A text node has its own text. -/
def textOf (f : Forest) (n : NodeId) : String :=
  match f.content? n with
  | some (.text _ s) => s
  | _ => String.join ((f.descendants n).filterMap fun c =>
      match f.content? c with
      | some (.text kind s) => if countsText (f.name? n) kind then some s else none
      | _ => none)

/-- The first child of a given name. -/
def childNamed? (f : Forest) (n : NodeId) (name : String) : Option NodeId :=
  (f.children n).find? fun c => f.name? c == some name

/-- The descendants of a given name in document order. -/
def descendantsNamed (f : Forest) (n : NodeId) (name : String) : List NodeId :=
  (f.descendants n).filter fun c => f.name? c == some name

/-- Whether a node stands below an element of a given name. -/
def isBelow (f : Forest) (n : NodeId) (name : String) : Bool :=
  (f.ancestors n).any fun a => f.name? a == some name

/-- The document that a node belongs to, or the node at the top of its tree. -/
def topOf (f : Forest) (n : NodeId) : NodeId := (f.ancestors n).getLast?.getD n

end Forest

/-- The value of an attribute as one text. -/
def AttrValue.joined : AttrValue → String
  | .text s => s
  | .tokens ws => " ".intercalate ws
  | .charset s => s
  | .contentType s => s
  | .bare | .unwritable _ => ""

/-- The words of an attribute. -/
def AttrValue.words : AttrValue → List String
  | .tokens ws => ws
  | v => Text.words v.joined

def Tag.attr? (t : Tag) (name : String) : Option AttrValue :=
  (t.attrs.find? fun a => a.1 == name).map (·.2)

/-- Sets an attribute; a new one comes last. -/
def Tag.setAttr (t : Tag) (name : String) (v : AttrValue) : Tag :=
  if t.attrs.any fun a => a.1 == name then
    { t with attrs := t.attrs.map fun a => if a.1 == name then (name, v) else a }
  else { t with attrs := t.attrs ++ [(name, v)] }

end LiveMarkdown.Document
