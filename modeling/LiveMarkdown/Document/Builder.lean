import LiveMarkdown.Document.Event
import LiveMarkdown.Document.Writer

/-!
Documents from events. An end tag closes every element that was opened after its own; an end tag
without an open element is passed over. Text that is blank is reduced to one character, except where
line breaks matter.
-/

namespace LiveMarkdown.Document

/-- Whether an attribute of an element holds a list of tokens. -/
def holdsTokens (tag attr : String) : Bool :=
  if ["class", "accesskey", "dropzone"].contains attr then true
  else match tag with
    | "a" | "link" => attr == "rel" || attr == "rev"
    | "td" | "th" => attr == "headers"
    | "form" => attr == "accept-charset"
    | "object" => attr == "archive"
    | "area" => attr == "rel"
    | "icon" => attr == "sizes"
    | "iframe" => attr == "sandbox"
    | "output" => attr == "for"
    | _ => false

/-- The attributes of an element that names the character set of its document. -/
def metaAttrs (attrs : List (String × AttrValue)) : List (String × AttrValue) :=
  let find (name : String) := (attrs.find? fun a => a.1 == name).map (·.2.joined)
  let set (name : String) (v : AttrValue) := attrs.map fun a => if a.1 == name then (name, v) else a
  match find "charset" with
  | some v => set "charset" (.charset v)
  | none =>
    match find "content", find "http-equiv" with
    | some v, some e =>
      if Text.lower e == "content-type" then set "content" (.contentType v) else attrs
    | _, _ => attrs

/-- An element with attributes given as text. -/
def tagOf (splitTokens : Bool) (name : String) (attrs : List (String × String)) : Tag :=
  let values := attrs.map fun (k, v) =>
    (k, if splitTokens && holdsTokens (Text.lower name) k then AttrValue.tokens (Text.words v) else .text v)
  { name
    attrs := if name == "meta" then metaAttrs values else values
    void := voidNames.contains name }

/-- Attributes of which the last one of each name counts, in the place of the first. -/
def lastOfEach (attrs : List (String × String)) : List (String × String) :=
  attrs.foldl (fun (seen : List (String × String)) (k, v) =>
    if seen.any fun a => a.1 == k then seen.map fun a => if a.1 == k then (k, v) else a
    else seen ++ [(k, v)]) []

/-- A document being built: the open elements, innermost first, above the document itself; the text
that was read and not yet put into the tree; and the elements that were closed without an end tag. -/
structure Builder where
  forest : Forest
  root : NodeId
  opened : List (NodeId × String)
  pending : Option (List Char)
  closed : List String
  splitTokens : Bool

namespace Builder

def current (b : Builder) : NodeId :=
  match b.opened with
  | (n, _) :: _ => n
  | [] => b.root

/-- Adds a node as the last child of the innermost open element. -/
def add (b : Builder) (c : Content) : NodeId × Builder :=
  let parent := b.current
  let (n, f) := b.forest.alloc c
  let f := (f.modify n fun d => { d with parent := some parent }).modify parent
    fun d => { d with children := d.children ++ [n] }
  (n, { b with forest := f })

def keepsBlanks (b : Builder) : Bool :=
  b.opened.any fun o => o.2 == "pre" || o.2 == "textarea"

/-- Blank text outside of preformatted elements becomes one line feed or one space. -/
def condense (b : Builder) (cs : List Char) : List Char :=
  let isSpace (c : Char) := [' ', '\n', '\t', '\x0c', '\r'].contains c
  if !b.keepsBlanks && cs.all isSpace then (if cs.contains '\n' then ['\n'] else [' ']) else cs

/-- The kind of plain text here: that of the innermost element with texts of its own. -/
def plainKind (b : Builder) : TextKind :=
  match b.opened.filterMap (fun o => containerKind? o.2) with
  | k :: _ => k
  | [] => TextKind.plain

/-- Puts the text that was read into the tree. -/
def flush (b : Builder) (kind : TextKind) : Builder :=
  match b.pending with
  | none => b
  | some cs =>
    let s := String.ofList (b.condense cs)
    let kind := if kind == .plain then b.plainKind else kind
    (Builder.add { b with pending := none } (.text kind s)).2

def addText (b : Builder) (cs : List Char) : Builder :=
  { b with pending := some (b.pending.getD [] ++ cs) }

/-- Adds a piece that is not plain text. -/
def addPiece (b : Builder) (kind : TextKind) (cs : List Char) : Builder :=
  ((b.flush .plain).addText cs).flush kind

/-- Opens an element. -/
def openTag (b : Builder) (name : String) (attrs : List (String × String)) : Builder :=
  let b := b.flush .plain
  let (n, b) := b.add (.tag (tagOf b.splitTokens name (lastOfEach attrs)))
  { b with opened := (n, name) :: b.opened }

/-- Closes the innermost open element of a name with all that was opened after it. -/
def closeTag (b : Builder) (name : String) : Builder :=
  let b := b.flush .plain
  if b.opened.any fun o => o.2 == name then
    { b with opened := (b.opened.dropWhile fun o => o.2 != name).drop 1 }
  else b

/-- An end tag; the one of an element that was closed already is passed over. -/
def endTag (b : Builder) (name : String) : Builder :=
  if b.closed.contains name then { b with closed := b.closed.erase name } else b.closeTag name

def step (b : Builder) : Event → Builder
  | .open name attrs =>
    let b := b.openTag name attrs
    if voidNames.contains name then
      let b := b.closeTag name
      { b with closed := b.closed ++ [name] }
    else b
  | .empty name attrs => (b.openTag name attrs).endTag name
  | .close name => b.endTag name
  | .text cs => b.addText cs
  | .charRef digits =>
    b.addText (textCode (match digits with
      | 'x' :: ds => Text.hexValue ds
      | 'X' :: ds => Text.hexValue ds
      | ds => decimalValue ds))
  | .entityRef name => b.addText ((entity? name).getD ('&' :: name))
  | .comment cs => b.addPiece .comment cs
  | .doctype cs => b.addPiece .doctype cs
  | .declaration cs =>
    if Text.upper (String.ofList (cs.take 6)) == "CDATA[" then b.addPiece .cdata (cs.drop 6)
    else b.addPiece .declaration cs
  | .instruction cs => b.addPiece .instruction cs

end Builder

/-- Reads a markup text as a new document of the forest. -/
def Forest.read (f : Forest) (splitTokens : Bool) (markup : String) :
    Except MarkupError (NodeId × Forest) := do
  let es ← readEvents markup.toList
  let (root, f) := f.alloc .root
  let b := es.foldl Builder.step ⟨f, root, [], none, [], splitTokens⟩
  return (root, (b.flush .plain).forest)

end LiveMarkdown.Document
