import LiveMarkdown.Document.Event
import LiveMarkdown.Prose.AttributeList
import LiveMarkdown.Prose.Writer
import LiveMarkdown.Text.Compatibility

/-!
The contents of a document: every heading gets an identifier made from its text, and a table of the
headings stands where a mark asks for it.
-/

namespace LiveMarkdown.Prose.Contents

def mark : String := "[TOC]"

/-- A text without what stands between two marks, the marks included. The fuel bounds its length. -/
def dropBetween (first last : String) : Nat → String → String
  | 0, s => s
  | fuel + 1, s =>
    let cs := s.toList
    match Text.findFrom first.toList cs 0 with
    | none => s
    | some i =>
      match Text.findFrom last.toList cs i with
      | none => s
      | some j =>
        dropBetween first last fuel
          (String.ofList (cs.take i ++ cs.drop (j + last.length)))

/-- The text of markup, with single spaces between its words. -/
def textOf (s : String) : String :=
  let s := dropBetween "<!--" "-->" (s.length + 1) s
  " ".intercalate (Text.words (dropBetween "<" ">" (s.length + 1) s))

def isAscii (c : Char) : Bool := c.toNat < 128

/-- Hyphens for runs of blanks and hyphens. -/
def hyphenated : Bool → List Char → List Char
  | _, [] => []
  | within, c :: cs =>
    if c == '-' || Text.isBlank c then
      if within then hyphenated true cs else '-' :: hyphenated true cs
    else c :: hyphenated false cs

/-- The identifier of a heading: its letters and digits in lower case, with hyphens between the
words. -/
def slug (text : String) : String :=
  let plain := Text.orderMarks (text.toList.flatMap Text.plainSpelling)
  let kept := (plain.filter isAscii).filter fun c =>
    c.isAlphanum || c == '_' || c == '-' || Text.isBlank c
  String.ofList (hyphenated false ((Text.trim Text.isBlank kept).map Char.toLower))

/-- The next identifier to try: a number after an underscore, which grows. -/
def nextId (s : String) : String :=
  let digits := (s.toList.reverse.takeWhile Char.isDigit).reverse
  let front := s.toList.take (s.length - digits.length)
  match digits, front.getLast? with
  | _ :: _, some '_' =>
    let n := digits.foldl (fun n c => 10 * n + (c.toNat - 48)) 0
    String.ofList front.dropLast ++ s!"_{n + 1}"
  | _, _ => s ++ "_1"

/-- An identifier that is not in use. The fuel bounds the ones that are. -/
def freshId (used : List String) : Nat → String → String
  | 0, s => s
  | fuel + 1, s => if s == "" || used.contains s then freshId used fuel (nextId s) else s

/-- A heading in the contents. -/
structure Entry where
  level : Nat
  identifier : String
  name : String

mutual

/-- The identifiers in a document. -/
def idsIn : List Piece → List String
  | [] => []
  | x :: xs => idsOf x ++ idsIn xs

def idsOf : Piece → List String
  | .element _ attributes content => (attributes.get? "id").toList ++ idsIn content
  | _ => []

end

structure State where
  used : List String
  entries : List Entry := []

/-- The text of a heading without references to footnotes. -/
def headingText (content : Passage) : String :=
  let kept := content.filter fun x =>
    match x with
    | .element "sup" attributes _ => !((attributes.get? "id").getD "").startsWith "fnref"
    | _ => true
  textOf (Passage.write kept)

/-- Gives a heading its identifier and remembers it. -/
def enter (e : Element) : StateM State Element := do
  let text := headingText e.content
  let s ← get
  let identifier := (e.get? "id").getD
    (let name := String.ofList (Document.unescapeAttr (text.length + 1) text.toList)
     freshId s.used (s.used.length + 2) (slug name))
  let level := (((e.name.toList[1]?).map Char.toNat).getD 49) - 48
  let label := (e.get? "data-toc-label").map textOf
  let entry : Entry := { level, identifier, name := label.getD text }
  set ({ used := identifier :: s.used, entries := s.entries ++ [entry] } : State)
  let e := { e with attributes := e.attributes.filter fun a => a.1 != "data-toc-label" }
  return e.set "id" identifier

/-- Gives the headings of a passage their identifiers. The fuel bounds the depth of its elements. -/
def enterAll : Nat → Passage → StateM State Passage
  | 0, xs => return xs
  | fuel + 1, xs => do
    let segments ← (Passage.segments xs).mapM fun (e, tail) => do
      let e : Element ← if e.isHeading then enter e else pure e
      return ({ e with content := ← enterAll fuel e.content }, tail)
    return Passage.ofSegments (Passage.head xs) segments

/-- An entry with the entries under it. -/
inductive Outline where
  | node (entry : Entry) (under : List Outline)

/-- The entries as an outline. An entry takes the entries after it that are deeper; `limit` is the
depth that ends the outline at hand. The fuel bounds their number. -/
def outline : Nat → Nat → List Entry → List Outline × List Entry
  | 0, _, es => ([], es)
  | _, _, [] => ([], [])
  | fuel + 1, limit, e :: es =>
    if e.level ≤ limit then ([], e :: es)
    else
      let (under, rest) := outline fuel e.level es
      let (more, rest) := outline fuel limit rest
      (.node e under :: more, rest)

mutual

def listOf : List Outline → List Piece
  | [] => []
  | o :: os => itemOf o :: listOf os

def itemOf : Outline → Piece
  | .node e under =>
    let link : Piece :=
      .element "a" [("href", "#" ++ e.identifier)] (Passage.ofString e.name)
    match under with
    | [] => .element "li" [] [link]
    | u :: us => .element "li" [] [link, .element "ul" [] (itemOf u :: listOf us)]

end

/-- The table of contents. -/
def table (es : List Entry) : Element :=
  let items := listOf (outline (es.length + 1) 0 es).1
  let list : Piece := .element "ul" [] items
  { name := "div", attributes := [("class", "toc")]
    content := Layout.run [.element "div" [] [list]] |>.flatMap fun x =>
      match x with
      | .element _ _ content => content
      | _ => [] }

/-- Puts the table where the mark stands alone in an element. -/
def place (toc : Element) : Nat → Passage → Passage
  | 0, xs => xs
  | fuel + 1, xs =>
    Passage.ofSegments (Passage.head xs) ((Passage.segments xs).map fun (e, tail) =>
      if e.isHeading || e.name == "pre" || e.name == "code" then (e, tail)
      else if (Passage.children e.content).isEmpty &&
          Passage.trim e.content == Passage.ofString mark then (toc, [.char '\n'])
      else ({ e with content := place toc fuel e.content }, tail))

/-- Gives headings their identifiers and puts the table of contents where it belongs. -/
def run (xs : Passage) : Passage :=
  let depth := Passage.depth xs + 1
  let (xs, s) := (enterAll depth xs).run { used := idsIn xs }
  place (table s.entries) depth xs

end LiveMarkdown.Prose.Contents
