import LiveMarkdown.Text.Blank

/-!
Prose between its source and its written form. A passage is a list of pieces: characters that the
rules of the markup still read, characters that they no longer read, finished markup, and elements,
whose content is a passage again.
-/

namespace LiveMarkdown.Prose

/-- The attributes of an element. One may stand without a value. -/
abbrev Attributes := List (String × Option String)

/-- The value of an attribute; one without a value has its name for it. -/
def Attributes.get? (as : Attributes) (name : String) : Option String :=
  (as.lookup name).map fun v => v.getD name

/-- A piece of prose. An `escaped` character stood behind a backslash, a `verbatim` one belongs to
code or to an address; no rule for running text reads either. -/
inductive Piece where
  | char (c : Char)
  | escaped (c : Char)
  | verbatim (c : Char)
  | raw (markup : String)
  | element (name : String) (attributes : Attributes) (content : List Piece)
  deriving Inhabited, Repr, BEq

abbrev Passage := List Piece

namespace Piece

def char? : Piece → Option Char
  | .char c => some c
  | _ => none

/-- Whether the piece is a character that rules still read and that is in the class. -/
def isIn (p : Char → Bool) : Piece → Bool
  | .char c => p c
  | _ => false

def isChar (c : Char) (x : Piece) : Bool := x.isIn (· == c)

def isBlank (x : Piece) : Bool := x.isIn Text.isBlank

def isElement : Piece → Bool
  | .element .. => true
  | _ => false

end Piece

namespace Passage

def ofChars (cs : List Char) : Passage := cs.map .char

def ofString (s : String) : Passage := ofChars s.toList

def verbatim (s : String) : Passage := s.toList.map .verbatim

/-- The lines of a passage, without the line feeds between them. -/
def lines : Passage → List Passage
  | [] => [[]]
  | x :: xs =>
    if x.isChar '\n' then [] :: lines xs
    else match lines xs with
      | [] => [[x]]
      | l :: ls => (x :: l) :: ls

def unlines (ls : List Passage) : Passage := [.char '\n'].intercalate ls

/-- The passages between empty lines. A line feed that is left over begins the next one. -/
def blocks : Passage → List Passage
  | [] => [[]]
  | [x] => [[x]]
  | x :: y :: xs =>
    if x.isChar '\n' && y.isChar '\n' then [] :: blocks xs
    else match blocks (y :: xs) with
      | [] => [[x]]
      | b :: bs => (x :: b) :: bs

def isBlank (xs : Passage) : Bool := xs.all Piece.isBlank

def trimStart (xs : Passage) : Passage := xs.dropWhile Piece.isBlank

def dropEndWhile (p : Piece → Bool) (xs : Passage) : Passage := (xs.reverse.dropWhile p).reverse

def trimEnd (xs : Passage) : Passage := dropEndWhile Piece.isBlank xs

def trim (xs : Passage) : Passage := trimEnd (trimStart xs)

/-- Without the given character at either end. -/
def strip (c : Char) (xs : Passage) : Passage :=
  dropEndWhile (Piece.isChar c) (xs.dropWhile (Piece.isChar c))

/-- Whether the passage begins with this many spaces. -/
def isIndented (n : Nat) (xs : Passage) : Bool :=
  (xs.take n).length = n && (xs.take n).all (Piece.isChar ' ')

/-- How many spaces the passage begins with. -/
def indent (xs : Passage) : Nat := (xs.takeWhile (Piece.isChar ' ')).length

/-- What follows at most three spaces. -/
def unindent (xs : Passage) : Passage := xs.drop (min 3 (indent xs))

/-- Whether the passage begins with the text. -/
def hasPrefix (s : String) (xs : Passage) : Bool :=
  (xs.take s.length).map Piece.char? == s.toList.map some

/-- The first place where the text stands in the passage. -/
def find? (s : String) : Passage → Option Nat
  | [] => if s == "" then some 0 else none
  | x :: xs => if hasPrefix s (x :: xs) then some 0 else (find? s xs).map (· + 1)

end Passage

mutual

/-- The text of a piece without the markup around it. -/
def Piece.plain : Piece → List Char
  | .char c => [c]
  | .escaped c => [c]
  | .verbatim c => [c]
  | .raw s => s.toList
  | .element _ _ content => Passage.plainChars content

def Passage.plainChars : List Piece → List Char
  | [] => []
  | x :: xs => Piece.plain x ++ Passage.plainChars xs

end

mutual

/-- How deep elements are nested in a piece. -/
def Piece.depth : Piece → Nat
  | .element _ _ content => Passage.depth content + 1
  | _ => 0

def Passage.depth : List Piece → Nat
  | [] => 0
  | x :: xs => max (Piece.depth x) (Passage.depth xs)

end

mutual

/-- The number of pieces that a piece is made of. -/
def Piece.size : Piece → Nat
  | .element _ _ content => Passage.size content + 1
  | _ => 1

def Passage.size : List Piece → Nat
  | [] => 0
  | x :: xs => Piece.size x + Passage.size xs

end

def Passage.plain (xs : Passage) : String := String.ofList (Passage.plainChars xs)

/-- An element on its own. -/
structure Element where
  name : String
  attributes : Attributes := []
  content : Passage := []

namespace Element

def toPiece (e : Element) : Piece := .element e.name e.attributes e.content

def add (e : Element) (xs : Passage) : Element := { e with content := e.content ++ xs }

/-- Adds a child at the end. -/
def push (e child : Element) : Element := e.add [child.toPiece]

def get? (e : Element) (name : String) : Option String := e.attributes.get? name

/-- Gives an attribute a value; a new attribute comes last. -/
def set (e : Element) (name : String) (value : Option String) : Element :=
  if (e.attributes.lookup name).isSome then
    { e with attributes := e.attributes.map fun a => if a.1 == name then (name, value) else a }
  else { e with attributes := e.attributes ++ [(name, value)] }

end Element

namespace Piece

def element? : Piece → Option Element
  | .element name attributes content => some { name, attributes, content }
  | _ => none

end Piece

namespace Passage

/-- The text before the first element. -/
def head (xs : Passage) : Passage := xs.takeWhile fun x => !x.isElement

/-- The elements of a passage, each with the text between it and the next one. -/
def segments : Passage → List (Element × Passage)
  | [] => []
  | x :: xs =>
    match x.element? with
    | some e => (e, head xs) :: segments xs
    | none => segments xs

def ofSegments (first : Passage) (rest : List (Element × Passage)) : Passage :=
  first ++ rest.flatMap fun (e, tail) => e.toPiece :: tail

/-- The elements that stand directly in the passage. -/
def children (xs : Passage) : List Element := xs.filterMap Piece.element?

def lastChild? (xs : Passage) : Option Element := (children xs).getLast?

/-- The text after the last element; all of it if there is no element. -/
def tail (xs : Passage) : Passage := (xs.reverse.takeWhile fun x => !x.isElement).reverse

/-- Everything up to the last element, and it. -/
def upToLast (xs : Passage) : Passage := xs.take (xs.length - (tail xs).length)

/-- Changes the last element. -/
def mapLast (f : Element → Element) (xs : Passage) : Passage :=
  let first := upToLast xs
  match first.getLast?.bind Piece.element? with
  | some e => first.dropLast ++ (f e).toPiece :: tail xs
  | none => xs

end Passage

namespace Element

/-- Names of elements that are written on lines of their own. -/
def blockNames : List String :=
  ["address", "article", "aside", "blockquote", "details", "div", "dl", "fieldset", "figcaption",
    "figure", "footer", "form", "h1", "h2", "h3", "h4", "h5", "h6", "header", "hgroup", "hr",
    "main", "menu", "nav", "ol", "p", "pre", "section", "table", "ul", "canvas", "colgroup", "dd",
    "body", "dt", "group", "html", "iframe", "li", "legend", "map", "math", "noscript", "object",
    "option", "output", "progress", "script", "style", "summary", "tbody", "td", "textarea",
    "tfoot", "th", "thead", "tr", "video", "center"]

def isBlockName (name : String) : Bool := blockNames.contains (name.map Char.toLower)

def isBlock (e : Element) : Bool := isBlockName e.name

def isHeading (e : Element) : Bool := ["h1", "h2", "h3", "h4", "h5", "h6"].contains e.name

/-- Moves the text of a list item into a paragraph at its start. -/
def wrapText (e : Element) : Element :=
  let text := Passage.head e.content
  if text.isEmpty then e
  else
    { e with content := .element "p" [] text :: e.content.drop text.length }

end Element

end LiveMarkdown.Prose
