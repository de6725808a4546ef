import LiveMarkdown.Prose.Block.Basic
import LiveMarkdown.Prose.Block.Leaf
import LiveMarkdown.Prose.Block.Listing
import LiveMarkdown.Prose.Block.Note
import LiveMarkdown.Prose.Block.Table
import LiveMarkdown.Prose.Enclosed
import LiveMarkdown.Prose.Extension
import LiveMarkdown.Prose.Fence
import LiveMarkdown.Text.Cut

/-!
The rules for blocks in their order, and the blocks of a document under them. Four short rules stand
here: notices, quoted lines, definitions, and elements of markup that hold prose.
-/

namespace LiveMarkdown.Prose.Block

/-!
### Notices

A line of exclamation marks names the kind of the notice and its title, and the indented blocks after
it are what it says.
-/

/-- The opening line of a notice: its classes and its title, if one is written. -/
def notice? (line : Passage) : Option (List String × Option Passage) :=
  if !Passage.hasPrefix "!!!" line then none
  else
    let rest := line.drop 3
    let rest := if (rest.head?.map (Piece.isChar ' ')).getD false then rest.drop 1 else rest
    let rest := Passage.dropEndWhile (Piece.isChar ' ') rest
    let isWord (x : Piece) : Bool := x.isIn fun c => c == '-' || Fence.isWordChar c
    let words := rest.takeWhile fun x => isWord x || x.isChar ' '
    let title := rest.drop words.length
    if !(words.head?.map isWord).getD false then none
    else
      let names := (Text.words (Passage.plain words)).map Text.lower
      match title with
      | [] => some (names, none)
      | x :: more =>
        let spaced := (words.getLast?.map (Piece.isChar ' ')).getD false
        if x.isChar '"' && spaced && (more.getLast?.map (Piece.isChar '"')).getD false then
          some (names, some more.dropLast)
        else none

/-- The notice before an indented block that goes on it: how many last children down it is, and the
indentation of the block. Content that is indented further belongs to the last item of a list in
the notice. The fuel bounds the depth of the notice. -/
def openNotice? (notice : Element) (block : Passage) : Nat → Nat → Nat → Option (Nat × Nat)
  | 0, _, _ => none
  | fuel + 1, depth, extra =>
    let block' := block.drop extra
    match lastAt? (depth + 1) notice with
    | some lst =>
      if Passage.isIndented (2 * width) block' && ["ul", "ol", "dl"].contains lst.name then
        if (Passage.lastChild? lst.content).isSome then
          openNotice? notice block fuel (depth + 2) (extra + width)
        else none
      else if Passage.isIndented width block' then some (depth, extra + width) else none
    | none => if Passage.isIndented width block' then some (depth, extra + width) else none

/-- Whether an element is a notice. -/
def isNotice (e : Element) : Bool :=
  e.name == "div" && Text.occursIn "admonition" ((e.get? "class").getD "")

/-- Moves the text of an item behind its other content, into a paragraph. -/
def wrapTextLast (e : Element) : Element :=
  let text := Passage.head e.content
  if (e.name == "li" || e.name == "dd") && !text.isEmpty then
    { e with content := e.content.drop text.length ++ [.element "p" [] text] }
  else e

/-- A notice, or a block that goes on the notice before it. -/
def admonition : Rule := fun parse mode parent block rest => do
  match findLine? notice? (Passage.lines block) with
  | some (front, (names, title), back) =>
    let front := Passage.unlines front
    let parent ← if front.isEmpty then pure parent else parse mode parent [front]
    let (inner, left) := unindent (Passage.unlines back)
    let div : Element :=
      { name := "div", attributes := [("class", " ".intercalate ("admonition" :: names))] }
    let title := title.getD (Passage.ofString (Text.capitalize (names.headD "")))
    let heading : Element :=
      { name := "p", attributes := [("class", "admonition-title")], content := title }
    let div := if title.isEmpty then div else div.push heading
    return some (parent.push (← parse mode div (Passage.blocks inner)), before left rest)
  | none =>
    match (Passage.lastChild? parent.content).filter isNotice with
    | none => return none
    | some div =>
      match openNotice? div block (block.length + 1) 0 0 with
      | none => return none
      | some (depth, indent) =>
        let (inner, left) := unindent block indent
        let go (e : Element) : StateM Notes Element :=
          parse mode (wrapTextLast e) (Passage.blocks inner)
        let parent ← atDepth go (depth + 1) parent
        return some (parent, before left rest)

/-! ### Quoted lines, which begin with a closing angle bracket -/

/-- What follows the bracket of a quoted line, and a space after it. -/
def quoted? (line : Passage) : Option Passage :=
  match line.drop (Passage.indent line) with
  | x :: rest =>
    if x.isChar '>' && Passage.indent line ≤ 3 then
      match rest with
      | y :: more => some (if y.isChar ' ' then more else rest)
      | [] => some []
    else none
  | [] => none

/-- A line of a quotation without its mark. -/
def unquote (line : Passage) : Passage :=
  if Passage.trim line == [.char '>'] then [] else (quoted? line).getD line

/-- From the first quoted line on, a block is a quotation; it goes on the quotation before it. -/
def quotation : Rule := fun parse mode parent block rest => do
  let lines := Passage.lines block
  match lines.findIdx? fun l => (quoted? l).isSome with
  | none => return none
  | some i =>
    let parent ← parse mode parent [Passage.unlines (lines.take i)]
    let inner := (if i = 0 then [] else [[]]) ++ (lines.drop i).map unquote
    let blocks := Passage.blocks (Passage.unlines inner)
    match (Passage.lastChild? parent.content).filter fun e => e.name == "blockquote" with
    | some q =>
      let q ← parse .quote q blocks
      return some ({ parent with content := Passage.mapLast (fun _ => q) parent.content }, rest)
    | none => return some (parent.push (← parse .quote { name := "blockquote" } blocks), rest)

/-! ### Lists of definitions: lines that begin with a colon say what the terms before them mean -/

/-- The text of a line that begins with a colon and a space. -/
def definition? (line : Passage) : Option Passage :=
  match line.drop (Passage.indent line) with
  | x :: rest =>
    let blanks := min 3 (Passage.indent rest)
    if x.isChar ':' && Passage.indent line ≤ 3 && 1 ≤ blanks then some (rest.drop blanks) else none
  | [] => none

/-- Whether a text begins with a word after at most three spaces. -/
def beginsLoosely (xs : Passage) : Bool :=
  Passage.indent xs ≤ 3 &&
    ((xs.drop (Passage.indent xs)).head?.map fun x => !x.isChar ':').getD false

/-- A definition with the terms before it, or with the paragraph before it as its terms. -/
def definitions : Rule := fun parse _ parent block rest => do
  match findLine? definition? (Passage.lines block) with
  | none => return none
  | some (front, text, back) =>
    let terms := (front.filter fun l => !Passage.isBlank l).map Passage.trim
    let back := Passage.unlines back
    let (more, left) := if beginsLoosely back then (back, []) else unindent back
    let text := if more.isEmpty then text else text ++ .char '\n' :: more
    let sibling := Passage.lastChild? parent.content
    if terms.isEmpty && sibling.isNone then return none
    let isParagraph := terms.isEmpty && (sibling.map (·.name)) == some "p"
    let terms := match sibling with
      | some p => if isParagraph then Passage.lines (Passage.head p.content) else terms
      | none => terms
    let parent :=
      if isParagraph then
        let content := (Passage.upToLast parent.content).dropLast
        { parent with content }
      else parent
    let sibling := (Passage.lastChild? parent.content).filter fun e => e.name == "dl"
    let looseBefore (dl : Element) : Bool :=
      match Passage.lastChild? dl.content with
      | some dd => terms.isEmpty && dd.name == "dd" && (Passage.lastChild? dd.content).isSome
      | none => false
    let loose := isParagraph || (sibling.map looseBefore).getD false
    let dl := sibling.getD { name := "dl" }
    let dl := terms.foldl (fun (e : Element) t => e.push { name := "dt", content := t }) dl
    let dd ← parse (if loose then .looseList else .tightList) { name := "dd" } [text]
    let dl := dl.push dd
    let parent :=
      if sibling.isSome then
        { parent with content := Passage.mapLast (fun _ => dl) parent.content }
      else parent.push dl
    return some (parent, before left rest)

/-! ### Elements of markup that hold prose, as blocks -/

/-- Text that no rule reads. -/
def untouchedText (x : Piece) : Piece :=
  match x with
  | .char c => .verbatim c
  | x => x

/-- Reads the content of an element the way that its mark asks for. The fuel bounds the depth of the
elements inside of it. -/
def readEnclosed (parse : Parse) (mode : Mode) : Nat → Element → StateM Notes Element
  | 0, e => return e
  | fuel + 1, e => do
    let asked := Enclosed.Content.ofWord ((e.get? Enclosed.mark).getD "")
    let e := { e with attributes := e.attributes.filter fun a => a.1 != Enclosed.mark }
    let inner (other : Piece → Piece) : StateM Notes Element := do
      let content ← e.content.mapM fun x => do
        match x.element? with
        | some c => return (← readEnclosed parse mode fuel c).toPiece
        | none => return other x
      return { e with content }
    match asked with
    | .blocks =>
      if e.content.isEmpty then return e
      parse mode { e with content := [] } (Passage.blocks (dropFeeds e.content))
    | .text => inner id
    | .untouched => inner untouchedText

/-- An element that holds prose. What follows it in its block is a block of its own. -/
def enclosed : Rule := fun parse mode parent block rest => do
  match block with
  | x :: left =>
    match x.element? with
    | some e =>
      let e ← readEnclosed parse mode (x.depth + 1) e
      return some (parent.push e, before left rest)
    | none => return none
  | [] => return none

/-! ### All rules -/

/-- The rules, the first of which that applies to a block is used. -/
def rules (fs : List Feature) : List Rule :=
  let on (f : Feature) (r : Rule) : List Rule := if fs.contains f then [r] else []
  let strict := fs.contains .strictLists
  on .notices admonition ++ on .markupContent enclosed ++ [empty, nested .ofLists] ++ on .definitions (nested .ofDefinitions) ++
    [indentedCode] ++ on .tables table ++
    [hashHeading, underlinedHeading, thematicBreak, listing { ordered := true, strict },
      listing { ordered := false, strict }] ++
    on .definitions definitions ++ [quotation] ++ on .footnotes footnote ++
    on .abbreviations abbreviation ++ [reference, paragraph]

/-- What the first rule that applies makes of a block. -/
def applyFirst (parse : Parse) (mode : Mode) (parent : Element) (block : Passage)
    (rest : List Passage) : List Rule → StateM Notes (Option (Element × List Passage))
  | [] => return none
  | r :: rs => do
    match ← r parse mode parent block rest with
    | some x => return some x
    | none => applyFirst parse mode parent block rest rs

/-- Puts blocks into an element, one after the other. The fuel bounds the blocks that remain and how
deep they are nested. -/
def parse (rs : List Rule) : Nat → Parse
  | 0, _, parent, _ => return parent
  | _, _, parent, [] => return parent
  | fuel + 1, mode, parent, b :: bs => do
    match ← applyFirst (parse rs fuel) mode parent b bs rs with
    | some (parent, bs) => parse rs fuel mode parent bs
    | none => parse rs fuel mode parent bs

/-- Puts a text into an element. -/
def parseText (rs : List Rule) (parent : Element) (text : Passage) : StateM Notes Element :=
  parse rs (8 * Passage.size text + 16) .plain parent (Passage.blocks text)

end LiveMarkdown.Prose.Block
