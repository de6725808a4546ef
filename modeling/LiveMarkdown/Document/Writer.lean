import LiveMarkdown.Document.Entity
import LiveMarkdown.Document.Forest
import LiveMarkdown.Text.Search

/-!
Characters that are replaced by their names when a document is written: only those that markup
reserves, or every character that has a name.
-/

namespace LiveMarkdown.Document

def escapeChar : Char → List Char
  | '&' => "&amp;".toList
  | '<' => "&lt;".toList
  | '>' => "&gt;".toList
  | c => [c]

/-- Replaces ampersands and angle brackets. -/
def escapeText (s : String) : String := String.ofList (s.toList.flatMap escapeChar)

/-- Whether characters are plain ones that keep their place though they have a name. -/
def isPlain (cs : List Char) : Bool :=
  cs.all fun c => c.toNat < 128 && (c != '<' && c != '>' && c != '&' || 1 < cs.length)

/-- The name for each character, or pair of characters, that has one, by its text. Of several names the last one in
the order of the names is taken, unless there is an older name for the character. -/
def characterNames (rows : List String) : Std.HashMap String String :=
  let found := (Text.rowWords rows).filterMap readEntity
  let sorted := found.mergeSort fun a b => decide (a.1 ++ ";" < b.1 ++ ";") || a.1 == b.1
  let all := sorted.foldl (fun (names : Std.HashMap String String) (name, e) =>
    if isPlain e.text then names else names.insert (String.ofList e.text) name) ∅
  (Text.rowWords Text.entityNameRows).foldl (fun names w =>
    match Text.cutAt (· == ':') w with
    | [name, n] =>
      let c := Char.ofNat (n.foldl (fun k d => k * 10 + (d.toNat - 48)) 0)
      if isPlain [c] then names else names.insert (String.singleton c) (String.ofList name)
    | _ => names) all

/-- Replaces characters by their names, pairs of characters first. -/
def nameCharacters (names : Std.HashMap String String) : List Char → List Char
  | [] => []
  | [a] => named [a]
  | a :: b :: rest =>
    match names[String.ofList [a, b]]? with
    | some n => '&' :: n.toList ++ ';' :: nameCharacters names rest
    | none => named [a] ++ nameCharacters names (b :: rest)
where
  named (cs : List Char) : List Char :=
    match names[String.ofList cs]? with
    | some n => '&' :: n.toList ++ [';']
    | none => cs

/-- Replaces all characters that have names. -/
def nameText (s : String) : String :=
  String.ofList (nameCharacters (characterNames entityRows) s.toList)

def isNamePart (c : Char) : Bool := c == '_' || c.isAlphanum

/-- The body of a reference at the beginning of a text. -/
def referenceBody? (cs : List Char) : Option (List Char) :=
  let body := match cs with
    | '#' :: x :: rest =>
      if (x == 'x' || x == 'X') && (rest.takeWhile (fun d => (Text.hexDigit? d).isSome)) ≠ [] then
        '#' :: x :: rest.takeWhile (fun d => (Text.hexDigit? d).isSome)
      else match (x :: rest).takeWhile (·.isDigit) with
        | [] => []
        | ds => '#' :: ds
    | cs => cs.takeWhile isNamePart
  if body.isEmpty || (cs.drop body.length).head? ≠ some ';' then none else some body

/-- Replaces the ampersands that begin something like a reference. -/
def escapeReferences : List Char → List Char
  | [] => []
  | '&' :: cs =>
    if (referenceBody? cs).isSome then "&amp;".toList ++ escapeReferences cs
    else '&' :: escapeReferences cs
  | c :: cs => c :: escapeReferences cs

/-- Replaces all characters that have names; of the ampersands only those that begin something like a
reference. -/
def nameTextSparing (s : String) : String :=
  let names := (characterNames entityRows).erase "&"
  String.ofList (nameCharacters names (escapeReferences s.toList))

/-!
Documents as text. Attributes are written in the order of their names, and elements without content
that cannot have any are closed at once. A document can be laid out with one piece on a line, each
indented by its depth; what stands in preformatted elements is never laid out.
-/

/-- Elements that are written without an end tag when they are empty. -/
def voidNames : List String :=
  ["area", "base", "br", "col", "embed", "hr", "img", "input", "keygen", "link", "menuitem", "meta",
    "param", "source", "track", "wbr", "basefont", "bgsound", "command", "frame", "image",
    "isindex", "nextid", "spacer"]

/-- An attribute value in quotes: double ones, unless the value holds these and no single one. -/
def quoteAttr (s : String) : String :=
  if s.contains '\x22' then
    if s.contains '\x27' then "\"" ++ Text.replaceAll "\"" "&quot;" s ++ "\"" else "'" ++ s ++ "'"
  else "\"" ++ s ++ "\""

/-- The encoding that written documents declare. -/
def encodingName : String := "utf-8"

/-- Replaces what follows `charset=` up to a semicolon. The mark counts at the start of a line or
after a blank or a semicolon; `fresh` says whether it would count here. -/
def declareEncoding (encoding : String) (fresh : Bool) : Nat → List Char → List Char
  | 0, cs => cs
  | _, [] => []
  | fuel + 1, c :: cs =>
    let mark := "charset=".toList
    if fresh && mark.isPrefixOf (c :: cs) then
      let rest := ((c :: cs).drop mark.length).dropWhile (· ≠ ';')
      mark ++ encoding.toList ++ declareEncoding encoding false fuel rest
    else c :: declareEncoding encoding (Text.isBlank c || c == ';') fuel cs

/-- How a document is written. -/
structure Style where
  /-- How characters are replaced in texts and values. -/
  replace : String → String := escapeText
  /-- The encoding that the document declares. -/
  encoding : Option String := some encodingName
  /-- What stands before the bracket of an element that is closed at once. -/
  voidEnd : String := "/"
  /-- Whether an empty value is left out. -/
  omitsEmpty : Bool := false

/-- The written value of an attribute, before its characters are replaced. -/
def AttrValue.written (encoding : Option String) : AttrValue → String
  | .charset s => encoding.getD s
  | .contentType s =>
    match encoding with
    | some e => String.ofList (declareEncoding e true (s.length + 1) s.toList)
    | none => s
  | v => v.joined

def writeAttr (style : Style) (a : String × AttrValue) : String :=
  match a.2 with
  | .bare => " " ++ a.1
  | v =>
    if style.omitsEmpty && v.joined == "" then " " ++ a.1
    else " " ++ a.1 ++ "=" ++ quoteAttr (style.replace (v.written style.encoding))

/-- Attributes in the order of their names. -/
def sortedAttrs (t : Tag) : List (String × AttrValue) :=
  t.attrs.mergeSort fun a b => a.1 < b.1 || a.1 == b.1

def writeText (style : Style) (parentName : Option String) (kind : TextKind) (s : String) : String :=
  match kind with
  | .comment => "<!--" ++ s ++ "-->"
  | .cdata => "<![CDATA[" ++ s ++ "]]>"
  | .instruction => "<?" ++ s ++ ">"
  | .declaration => "<?" ++ s ++ "?>"
  | .doctype => "<!DOCTYPE " ++ s ++ ">\n"
  | _ => if parentName == some "script" || parentName == some "style" then s else style.replace s

/-- Where a piece stands: on a line of its own at a depth, or right behind the piece before it. -/
inductive Place where
  | line (depth : Nat)
  | inside
deriving DecidableEq, Repr

def Place.deeper : Place → Place
  | .line depth => .line (depth + 1)
  | .inside => .inside

/-- What stands before a piece. -/
def Place.before : Place → String
  | .line depth => String.ofList (List.replicate depth ' ')
  | .inside => ""

/-- What stands behind a piece. -/
def Place.after : Place → String
  | .line _ => "\n"
  | .inside => ""

/-- A text at a place: on a line of its own it stands without the blanks around it. -/
def Place.text (p : Place) (s : String) : String :=
  match p with
  | .inside => s
  | p =>
    let s := Text.strip s
    if s == "" then "" else p.before ++ s ++ p.after

/-- Elements whose content is written as it is. -/
def preservesBlanks (name : String) : Bool := name == "pre" || name == "textarea"

/-- A start tag, also that of an element which is closed at once. -/
def writeStart (style : Style) (t : Tag) (closed : Bool) : String :=
  if t.hidden then ""
  else "<" ++ t.name ++ String.join ((sortedAttrs t).map (writeAttr style)) ++
    (if closed then style.voidEnd else "") ++ ">"

def writeEnd (t : Tag) : String := if t.hidden then "" else "</" ++ t.name ++ ">"

namespace Forest

mutual

/-- The pieces of text that a node is written as. The fuel bounds its depth. -/
def writeUpTo (f : Forest) (style : Style) : Nat → Place → NodeId → List String
  | 0, _, _ => []
  | fuel + 1, p, n =>
    match f.content? n with
    | none => []
    | some .root => f.writeContent style fuel p n
    | some (.text kind s) => [p.text (writeText style ((f.parent? n).bind f.name?) kind s)]
    | some (.tag t) =>
      let around (s : String) (before after : Place) : String :=
        if s == "" then "" else before.before ++ s ++ after.after
      if (f.children n).isEmpty && t.void then [around (writeStart style t true) p p]
      else
        let literal := preservesBlanks t.name
        around (writeStart style t false) p (if literal then .inside else p) ::
          f.writeContent style fuel (if literal then .inside else p.deeper) n ++
          [around (writeEnd t) (if literal then .inside else p) p]
termination_by fuel => (fuel, 0)

/-- The pieces of text that the content of a node is written as. -/
def writeContent (f : Forest) (style : Style) (fuel : Nat) (p : Place) (n : NodeId) : List String :=
  (f.children n).flatMap (f.writeUpTo style fuel p)
termination_by (fuel, 1)

end

/-- A node as text. -/
def write (f : Forest) (n : NodeId) : String := String.join (f.writeUpTo {} (f.size + 1) .inside n)

/-- Why a node or one below it cannot be written, if that is so. -/
def fault? (f : Forest) (n : NodeId) : Option String :=
  (n :: f.descendants n).findSome? fun c =>
    match f.tag? c with
    | some t =>
      match t.fault with
      | some reason => some reason
      | none => (sortedAttrs t).findSome? fun
        | (_, .unwritable reason) => some reason
        | _ => none
    | none => none

end Forest

end LiveMarkdown.Document
