import LiveMarkdown.Prose.Piece

/-!
Blocks of prose. A rule looks at the first block of a list; where it applies, it puts what it makes
of the block into the element around it and says which blocks are left.
-/

namespace LiveMarkdown.Prose.Block

/-- What stands around the blocks at hand. -/
inductive Mode where
  | plain
  | tightList
  | looseList
  | unindented
  | quote
  deriving BEq, Repr

/-- Definitions that blocks hold for the running text. -/
structure Notes where
  /-- Addresses and titles of links by name. -/
  references : List (String × String × Option String) := []
  footnotes : List (String × Passage) := []
  abbreviations : List (String × String) := []

/-- Adds a definition; one of the same name is replaced in its place. -/
def define {α : Type} (name : String) (x : α) (es : List (String × α)) : List (String × α) :=
  if es.any fun e => e.1 == name then es.map fun e => if e.1 == name then (name, x) else e
  else es ++ [(name, x)]

/-- Puts blocks into an element. -/
abbrev Parse := Mode → Element → List Passage → StateM Notes Element

/-- A rule on the first of some blocks: the element around them with what the rule adds, and the
blocks that are left; none if the rule does not apply. -/
abbrev Rule :=
  Parse → Mode → Element → Passage → List Passage → StateM Notes (Option (Element × List Passage))

/-- How many spaces are a level of indentation. -/
def width : Nat := 4

/-- The lines that are indented by a level or blank, without the indentation, and the lines after
them. -/
def unindentLines (n : Nat) : List Passage → List Passage × List Passage
  | [] => ([], [])
  | l :: ls =>
    if Passage.isIndented n l then
      let (a, b) := unindentLines n ls
      (l.drop n :: a, b)
    else if Passage.isBlank l then
      let (a, b) := unindentLines n ls
      ([] :: a, b)
    else ([], l :: ls)

/-- The part of a block that is indented, without the indentation, and the rest. -/
def unindent (block : Passage) (n : Nat := width) : Passage × Passage :=
  let (a, b) := unindentLines n (Passage.lines block)
  (Passage.unlines a, Passage.unlines b)

/-- The block with each indented line moved to the left. -/
def unindentLoosely (block : Passage) (level : Nat := 1) : Passage :=
  Passage.unlines ((Passage.lines block).map fun l =>
    if Passage.isIndented (width * level) l then l.drop (width * level) else l)

/-- A block in front of others, unless it is empty. -/
def before (block : Passage) (rest : List Passage) : List Passage :=
  if block.isEmpty then rest else block :: rest

/-- The first line on which something is found: the lines before it, what was found, and the lines
after it. -/
def findLine? {α : Type} (p : Passage → Option α) :
    List Passage → Option (List Passage × α × List Passage)
  | [] => none
  | l :: ls =>
    match p l with
    | some a => some ([], a, ls)
    | none => (findLine? p ls).map fun (front, a, back) => (l :: front, a, back)

/-- The first start of a line at which something is found: the text before it, what was found, and
the text after that. `fresh` says whether a line starts here. -/
def findAtLine? {α : Type} (p : Passage → Option (α × Passage)) (fresh : Bool := true) :
    Passage → Option (Passage × α × Passage)
  | [] => if fresh then (p []).map fun (a, rest) => ([], a, rest) else none
  | x :: xs =>
    match if fresh then p (x :: xs) else none with
    | some (a, rest) => some ([], a, rest)
    | none =>
      (findAtLine? p (x.isChar '\n') xs).map fun (front, a, back) => (x :: front, a, back)

/-- The text with line feeds at its end dropped. -/
def dropFeeds (xs : Passage) : Passage := Passage.dropEndWhile (Piece.isChar '\n') xs

def dropFirstFeeds (xs : Passage) : Passage := xs.dropWhile (Piece.isChar '\n')

/-- Whether an element is a block of code. -/
def isCode (e : Element) : Bool :=
  e.name == "pre" && ((Passage.children e.content).head?.map (·.name)) == some "code"

/-- Adds to the code of a block of code. -/
def addCode (xs : Passage) (e : Element) : Element :=
  match e.content with
  | .element name attributes code :: rest =>
    { e with content := .element name attributes (code ++ xs) :: rest }
  | _ => e

/-- The element that is reached through last children, `depth` levels down. -/
def lastAt? : Nat → Element → Option Element
  | 0, e => some e
  | depth + 1, e => (Passage.lastChild? e.content).bind (lastAt? depth)

/-- Changes the element that is reached through last children, `depth` levels down. -/
def atDepth {m : Type → Type} [Monad m] (f : Element → m Element) : Nat → Element → m Element
  | 0, e => f e
  | depth + 1, e => do
    match Passage.lastChild? e.content with
    | some c =>
      let c ← atDepth f depth c
      return { e with content := Passage.mapLast (fun _ => c) e.content }
    | none => return e

end LiveMarkdown.Prose.Block
