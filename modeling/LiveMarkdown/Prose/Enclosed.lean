import LiveMarkdown.Document.Event
import LiveMarkdown.Prose.RawBlock
import LiveMarkdown.Prose.Writer

/-!
Prose inside of markup. A block element that asks for it with the attribute `markdown` is not
finished markup: its content is prose again, as blocks or as running text. The elements inside of it
may ask for the same; the others are left as they are.
-/

namespace LiveMarkdown.Prose.Enclosed

/-- How the content of an element is read. -/
inductive Content where
  | blocks
  | text
  | untouched
  deriving BEq, DecidableEq, Repr

namespace Content

def word : Content → String
  | .blocks => "block"
  | .text => "span"
  | .untouched => "off"

def ofWord : String → Content
  | "block" => .blocks
  | "span" => .text
  | _ => .untouched

end Content

/-- The attribute that says how the content of an element is read. -/
def mark : String := "markdown"

/-- Block elements whose content is running text. -/
def textNames : List String :=
  ["address", "dd", "dt", "h1", "h2", "h3", "h4", "h5", "h6", "legend", "li", "p", "summary", "td",
    "th"]

/-- Block elements whose content is never read. -/
def untouchedNames : List String :=
  ["canvas", "math", "option", "pre", "script", "style", "textarea"]

def holdsText (name : String) : Bool := textNames.contains name

def holdsBlocks (name : String) : Bool :=
  Element.isBlockName name && !holdsText name && !untouchedNames.contains name && name != "hr"

/-- How the content of a block element is read inside of another one, by the word that it asks
with. -/
def contentFor (outer : Option Content) (word name : String) : Content :=
  let word := match outer with
    | some .untouched => "off"
    | some .text => if word == "0" then word else "span"
    | _ => word
  let mayBoth := holdsBlocks name || holdsText name
  if (word == "1" && holdsBlocks name) || (word == "block" && mayBoth) then .blocks
  else if (word == "1" && holdsText name) || (word == "span" && mayBoth) then .text
  else .untouched

/-- An element that is still open. -/
structure Frame where
  name : String
  attributes : Attributes
  content : Content
  /-- What it holds so far, the last piece first. -/
  held : Passage := []

def Frame.toPiece (f : Frame) : Piece :=
  (Element.set { name := f.name, attributes := f.attributes, content := f.held.reverse } mark
    f.content.word).toPiece

structure State extends RawBlock.State where
  /-- The open elements that are no finished markup, the innermost first. -/
  frames : List Frame := []

namespace State

/-- Changes what is known of finished markup. -/
def onMarkup (s : State) (f : RawBlock.State → RawBlock.State) : State :=
  { s with toState := f s.toState }

/-- Text goes to the innermost open element. -/
def data (s : State) (xs : Passage) : State :=
  match s.inBlock, s.frames with
  | false, f :: fs =>
    { s with
      inTail := s.inTail && !xs.any (Piece.isChar '\n')
      frames := { f with held := xs.reverse ++ f.held } :: fs }
  | _, _ => s.onMarkup (·.data xs)

/-- A tag that is part of the text. -/
def inlineTag (s : State) (xs : Passage) : State :=
  match s.frames with
  | { content := .untouched, .. } :: _ => s.data [.raw (Passage.plain xs)]
  | _ => s.data xs

/-- Markup that stands for itself. -/
def single (s : State) (isBlock : Bool) (markup : List Char) (rest : Passage) : State :=
  match s.inBlock, s.frames with
  | false, f :: _ =>
    let raw : Piece := .raw (String.ofList markup)
    if s.atLineStart && isBlock then s.data [.char '\n', raw, .char '\n', .char '\n']
    else if f.content == .untouched then s.data [raw]
    else s.data (Passage.ofChars markup)
  | _, _ => s.onMarkup (·.single isBlock markup rest)

end State

/-- Closes the open elements up to one of the given name: the outermost element once it is closed,
and the elements that are still open. -/
def closeFrames (name : String) (frames : List Frame) : Option Piece × List Frame :=
  match frames with
  | [] => (none, [])
  | [f] => (some f.toPiece, [])
  | f :: g :: fs =>
    let g := { g with held := f.toPiece :: g.held }
    if f.name == name then (none, g :: fs) else closeFrames name (g :: fs)
termination_by frames.length

mutual

/-- Elements without the mark on them. -/
def unmarked : Piece → Piece
  | .element name attributes content =>
    .element name (attributes.filter fun a => a.1 != mark) (unmarkedAll content)
  | x => x

def unmarkedAll : List Piece → Passage
  | [] => []
  | x :: xs => unmarked x :: unmarkedAll xs

end

def dropFeeds (xs : Passage) : Passage := Passage.dropEndWhile (Piece.isChar '\n') xs

/-- The text before an element, which is a block of its own. -/
def beforeElement (xs : Passage) : Passage :=
  if (xs.reverse.take 2).length = 2 && (xs.reverse.take 2).all (Piece.isChar '\n') then xs
  else dropFeeds xs ++ Passage.ofString "\n\n"

/-- The text after an element begins on a line of its own. -/
def afterElement (xs : Passage) : Passage :=
  if xs == [.char '\n'] then xs else .char '\n' :: dropFeeds xs

/-- Sets the elements inside of an element apart from the text around them, down to those whose
content is not read. The fuel bounds their depth. -/
def setApart : Nat → Element → Element
  | 0, e => e
  | fuel + 1, e =>
    if Content.ofWord ((e.get? mark).getD "") == .untouched then
      ((unmarked e.toPiece).element?).getD e
    else
      let content := (Passage.segments e.content).foldl (fun acc (c, tail) =>
        beforeElement acc ++ (setApart fuel c).toPiece :: afterElement tail)
        (Passage.head e.content)
      { e with content }

namespace State

/-- Closes the open elements up to one of the given name. Once none is open, the whole becomes a
block of the document. -/
def close (s : State) (name : String) (rest : Passage) : State :=
  match closeFrames name s.frames with
  | (some x, _) =>
    let e := (x.element?).map fun e => (setApart (x.depth + 1) e).toPiece
    { s with frames := [] }.onMarkup fun t =>
      { t.setApart.emit [e.getD x, .char '\n', .char '\n'] with
        inTail := t.inTail || !RawBlock.emptyLineFollows rest }
  | (none, frames) => { s with frames }

/-- The attributes of a tag, each once; one without a value has its name for it. -/
def attributesOf (source : Passage) : Attributes :=
  let given := (Document.tagParts (Passage.plainChars source)).2.1
  (given.foldl (fun (e : Element) (n, v) => e.set n (v.getD n)) { name := "" }).attributes

def start (s : State) (name : String) (size : Nat) (xs : Passage) : State :=
  let source := xs.take size
  let begins := Element.isBlockName name && (s.atLineStart || s.inTail)
  let attributes := attributesOf source
  let asked := attributes.get? mark
  let attributes := attributes.filter fun a => a.1 != mark
  if begins && name == "hr" then
    let markup := if asked.isSome then ("<hr" ++ writeAttributes attributes ++ ">").toList
      else Passage.plainChars source
    s.single true markup (xs.drop size)
  else if begins then
    let word := match asked with
      | some w => if w == mark then "1" else w
      | none => "0"
    let content := contentFor (s.frames.head?.map (·.content)) word name
    if s.inBlock || (s.frames.isEmpty && content == .untouched) then
      s.onMarkup (·.start name size xs)
    else
      let s := if s.frames.any fun f => f.name == "p" then s.close "p" (xs.drop size) else s
      { s with frames := { name, attributes, content } :: s.frames }
  else if s.inBlock then s.onMarkup (·.start name size xs)
  else s.inlineTag source

def finish (s : State) (name : String) (size : Nat) (xs : Passage) : State :=
  if s.inBlock then s.onMarkup (·.finish name size xs)
  else if Element.isBlockName name && s.frames.any fun f => f.name == name then
    s.close name (xs.drop size)
  else s.inlineTag (xs.take size)

/-- Whether the element that a tag just opened holds no tags. -/
def isOpaque (s : State) (name : String) : Bool :=
  RawBlock.isOpaque name && (s.inBlock || (s.frames.head?.map (·.name)) == some name)

end State

def step (s : State) (xs : Passage) : State × Nat :=
  match RawBlock.token (s.atLineStart || s.inTail || !s.frames.isEmpty) xs with
  | .text n => (s.data (xs.take n), n)
  | .whole isBlock markup n => (s.single isBlock markup (xs.drop n), n)
  | .endTag name n => (s.finish name n xs, n)
  | .startTag name true n =>
    (s.single (Element.isBlockName name) (Passage.plainChars (xs.take n)) (xs.drop n), n)
  | .startTag name false n =>
    let s := s.start name n xs
    if s.isOpaque name then
      let m := RawBlock.opaqueSize name (xs.drop n)
      (s.data ((xs.drop n).take m), n + m)
    else (s, n)

def run : Nat → State → Passage → State
  | 0, s, _ => s
  | _, s, [] => s
  | fuel + 1, s, x :: xs =>
    let (s, n) := step s (x :: xs)
    let n := max 1 n
    run fuel (s.onMarkup (·.advance ((x :: xs).take n))) ((x :: xs).drop n)

/-- The passage with its blocks of markup finished, and with the elements that hold prose. -/
def extract (xs : Passage) : Passage :=
  let s := run (xs.length + 1) { loose := true } xs
  let s := if s.cache.isEmpty then s
    else s.onMarkup (·.emit [.raw (String.ofList s.cache)])
  let s := match s.frames.getLast? with
    | some f => s.close f.name []
    | none => s
  s.out.reverse

mutual

/-- An element that still bears the mark, because it did not come to be a block, is finished
markup. -/
def settle : Piece → Piece
  | .element name attributes content =>
    if (attributes.lookup mark).isSome then .raw (Piece.write [] (.element name attributes content))
    else .element name attributes (settleAll content)
  | x => x

def settleAll : List Piece → Passage
  | [] => []
  | x :: xs => settle x :: settleAll xs

end

end LiveMarkdown.Prose.Enclosed
