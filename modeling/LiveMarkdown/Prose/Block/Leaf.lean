import LiveMarkdown.Prose.Block.Basic
import LiveMarkdown.Prose.Writer

/-!
Blocks that hold no other blocks: empty ones, code, headings, rules and paragraphs.
-/

namespace LiveMarkdown.Prose.Block

/-- An empty block, or an empty line at the start of one. Within code it is kept. -/
def empty : Rule := fun _ _ parent block rest => do
  let go (filler : String) (rest : List Passage) : Option (Element × List Passage) :=
    match Passage.lastChild? parent.content with
    | some c =>
      if isCode c then
        some ({ parent with
          content := Passage.mapLast (addCode (Passage.verbatim filler)) parent.content }, rest)
      else some (parent, rest)
    | none => some (parent, rest)
  match block with
  | [] => return go "\n\n" rest
  | x :: xs => if x.isChar '\n' then return go "\n" (before xs rest) else return none

/-- Code as no rule reads it. -/
def codePieces (xs : Passage) : Passage :=
  xs.flatMap fun x =>
    match x with
    | .char c => Passage.verbatim (Escape.code c.toString)
    | x => [x]

/-- An indented block is code; it goes on the code before it. -/
def indentedCode : Rule := fun _ _ parent block rest => do
  if !Passage.isIndented width block then return none
  let (block, left) := unindent block
  let code := codePieces (Passage.trimEnd block) ++ Passage.verbatim "\n"
  let rest := before left rest
  match Passage.lastChild? parent.content with
  | some c =>
    if isCode c then
      let code := Passage.verbatim "\n" ++ code
      return some ({ parent with content := Passage.mapLast (addCode code) parent.content }, rest)
    else return some (parent.push { name := "pre", content := [.element "code" [] code] }, rest)
  | none => return some (parent.push { name := "pre", content := [.element "code" [] code] }, rest)

/-- The text of a heading without the hashes at its end. A backslash and what it stands before stay
together; none if nothing follows it. -/
def headingText? : Passage → Option Passage
  | [] => some []
  | x :: xs =>
    if (x :: xs).all (Piece.isChar '#') then some []
    else if x.isChar '\\' then
      match xs with
      | y :: rest => (headingText? rest).map fun t => x :: y :: t
      | [] => none
    else (headingText? xs).map (x :: ·)

/-- The level and the text of a heading that a line marks with hashes. -/
def hashLine? (line : Passage) : Option (Nat × Passage) :=
  let n := min 6 (line.takeWhile (Piece.isChar '#')).length
  if n = 0 then none
  else (headingText? (line.drop n)).map fun t => (n, t)

def heading (level : Nat) (text : Passage) : Element :=
  { name := s!"h{level}", content := Passage.trim text }

/-- A heading on a line that begins with hashes. -/
def hashHeading : Rule := fun parse mode parent block rest => do
  match findLine? hashLine? (Passage.lines block) with
  | none => return none
  | some (front, (level, text), back) =>
    let front := Passage.unlines front
    let parent ← if front.isEmpty then pure parent else parse mode parent [front]
    let back := Passage.unlines back
    let back := if mode == .looseList then unindentLoosely back else back
    return some (parent.push (heading level text), before back rest)

/-- Whether a line underlines a heading, and its level. -/
def underline? (line : Passage) : Option Nat :=
  let marks := line.takeWhile (Piece.isIn fun c => c == '=' || c == '-')
  if marks.isEmpty || !(line.drop marks.length).all (Piece.isChar ' ') then none
  else if (line.head?.map (Piece.isChar '=')).getD false then some 1 else some 2

/-- A heading on the first line of a block, underlined by the second. -/
def underlinedHeading : Rule := fun _ _ parent block rest => do
  match Passage.lines block with
  | text :: line :: more =>
    match underline? line with
    | some level =>
      return some (parent.push (heading level text),
        if more.isEmpty then rest else Passage.unlines more :: rest)
    | none => return none
  | _ => return none

/-- The number of marks on the rest of a line, with at most two spaces after each. -/
def marks? (c : Char) : Nat → Passage → Option Nat
  | _, [] => some 0
  | gap, x :: xs =>
    if x.isChar c then
      if 2 < gap then none else (marks? c 0 xs).map (· + 1)
    else if x.isChar ' ' then marks? c (gap + 1) xs
    else none

/-- Whether a line is a rule: at least three hyphens, underscores or asterisks. -/
def ruleLine? (line : Passage) : Option Unit :=
  let body := Passage.unindent line
  match body.head?.bind Piece.char? with
  | some c =>
    if c != '-' && c != '_' && c != '*' then none
    else
      match marks? c 0 body with
      | some n => if 3 ≤ n then some () else none
      | none => none
  | none => none

/-- A rule across the page. -/
def thematicBreak : Rule := fun parse mode parent block rest => do
  match findLine? ruleLine? (Passage.lines block) with
  | none => return none
  | some (front, _, back) =>
    let front := dropFeeds (Passage.unlines front)
    let parent ← if front.isEmpty then pure parent else parse mode parent [front]
    let back := dropFirstFeeds (Passage.unlines back)
    return some (parent.push { name := "hr" }, before back rest)

/-- Any other block is a paragraph, or more text of a tight list item. -/
def paragraph : Rule := fun _ mode parent block rest => do
  if Passage.isBlank block then return some (parent, rest)
  if mode == .tightList then
    let text := if (Passage.lastChild? parent.content).isSome then block else Passage.trimStart block
    let feed : Passage :=
      if parent.content.isEmpty then [] else [.char '\n']
    return some (parent.add (feed ++ text), rest)
  return some (parent.push { name := "p", content := Passage.trimStart block }, rest)

end LiveMarkdown.Prose.Block
