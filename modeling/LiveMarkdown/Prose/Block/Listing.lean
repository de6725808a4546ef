import LiveMarkdown.Prose.Block.Basic
import LiveMarkdown.Text.Alphabet

/-!
Lists of items. An item begins with a number and a point, or with an asterisk, a plus or a hyphen;
indented blocks after it belong to it.
-/

namespace LiveMarkdown.Prose.Block

/-- What a line begins with that marks an item: its number, if it has one, and the text. -/
def itemMark? (line : Passage) : Option (Option Passage × Passage) :=
  let text? (xs : Passage) : Option Passage :=
    let blanks := Passage.indent xs
    if blanks = 0 then none else some (xs.drop blanks)
  let digits := line.takeWhile (Piece.isIn Text.isDecimal)
  match line.drop digits.length with
  | x :: rest =>
    if digits.isEmpty then
      if x.isIn fun c => c == '*' || c == '+' || c == '-' then
        (text? rest).map fun t => (none, t)
      else none
    else if x.isChar '.' then (text? rest).map fun t => (some digits, t)
    else none
  | [] => none

/-- The item that begins on a line after at most three spaces. -/
def item? (line : Passage) : Option (Option Passage × Passage) :=
  if width ≤ Passage.indent line then none else itemMark? (line.drop (Passage.indent line))

/-- Whether an item begins on a line after one level of indentation. -/
def isInnerItem (line : Passage) : Bool :=
  let n := Passage.indent line
  width ≤ n && n < 2 * width && (itemMark? (line.drop n)).isSome

/-- The kinds of items that go on a list. -/
structure ListStyle where
  ordered : Bool
  /-- Whether lists of the two kinds are kept apart and begin with their own number. -/
  strict : Bool

namespace ListStyle

def name (s : ListStyle) : String := if s.ordered then "ol" else "ul"

def siblings (s : ListStyle) : List String := if s.strict then [s.name] else ["ol", "ul"]

/-- Whether a line begins an item of the list. -/
def item? (s : ListStyle) (line : Passage) : Option (Option Passage × Passage) :=
  match Block.item? line with
  | some (n, t) => if s.strict && n.isSome != s.ordered then none else some (n, t)
  | none => none

/-- The items of a block, the last one first. -/
def addLine (s : ListStyle) (items : List Passage) (line : Passage) : List Passage :=
  match s.item? line with
  | some (_, t) => t :: items
  | none =>
    match items with
    | [] => [line]
    | last :: more =>
      if isInnerItem line && !Passage.isIndented width last then line :: items
      else (last ++ .char '\n' :: line) :: more

def items (s : ListStyle) (block : Passage) : List Passage :=
  ((Passage.lines block).foldl s.addLine []).reverse

/-- Makes room for a further item: what the last item holds as bare text becomes paragraphs. -/
def loosen (li : Element) : Element :=
  let li := li.wrapText
  let tail := Passage.tail li.content
  if tail.isEmpty || (Passage.lastChild? li.content).isNone then li
  else
    { li with
      content := Passage.upToLast li.content ++ [.element "p" [] (Passage.trimStart tail)] }

/-- Adds items to a list; an indented one goes into the item before it. -/
def addItems (parse : Parse) (lst : Element) : List Passage → StateM Notes Element
  | [] => return lst
  | i :: is => do
    match Passage.lastChild? lst.content with
    | some last =>
      if Passage.isIndented width i then
        let last ← parse .tightList last [i]
        addItems parse { lst with content := Passage.mapLast (fun _ => last) lst.content } is
      else addItems parse (lst.push (← parse .tightList { name := "li" } [i])) is
    | none => addItems parse (lst.push (← parse .tightList { name := "li" } [i])) is

end ListStyle

/-- A block of items starts a list or goes on the one before it. -/
def listing (s : ListStyle) : Rule := fun parse _ parent block rest => do
  let first := ((Passage.lines block).head?.bind item?)
  match first with
  | none => return none
  | some (number, _) =>
    if number.isSome != s.ordered then return none
    let items := s.items block
    let sibling := (Passage.lastChild? parent.content).filter fun e => s.siblings.contains e.name
    match sibling with
    | some lst =>
      let lst := { lst with content := Passage.mapLast ListStyle.loosen lst.content }
      let lst := lst.push (← parse .looseList { name := "li" } (items.take 1))
      let lst ← ListStyle.addItems parse lst (items.drop 1)
      return some ({ parent with content := Passage.mapLast (fun _ => lst) parent.content }, rest)
    | none =>
      if parent.name == "ol" || parent.name == "ul" then
        return some (← ListStyle.addItems parse parent items, rest)
      let lst : Element := { name := s.name }
      let lst := match number with
        | some n =>
          let shown := Passage.plain n
          if s.strict && shown != "1" then lst.set "start" shown else lst
        | none => lst
      return some (parent.push (← ListStyle.addItems parse lst items), rest)

/-- The elements whose indented blocks belong to them. -/
structure Nesting where
  items : List String
  lists : List String
  /-- The item that a list without items gets. -/
  newItem : String

namespace Nesting

def ofLists : Nesting := { items := ["li"], lists := ["ul", "ol"], newItem := "li" }

def ofDefinitions : Nesting :=
  { items := ["dd", "li"], lists := ["dl", "ol", "ul"], newItem := "dd" }

/-- Follows last children down to the level of indentation; the level that is reached and how many
children were followed. The fuel bounds the depth of the element. -/
def descend (n : Nesting) (wanted : Nat) : Nat → Nat → Nat → Element → Nat × Nat
  | 0, level, depth, _ => (level, depth)
  | fuel + 1, level, depth, e =>
    if wanted ≤ level then (level, depth)
    else
      match Passage.lastChild? e.content with
      | some c =>
        if n.lists.contains c.name then n.descend wanted fuel (level + 1) (depth + 1) c
        else if n.items.contains c.name then n.descend wanted fuel level (depth + 1) c
        else (level, depth)
      | none => (level, depth)

end Nesting

/-- An indented block inside a list. -/
def nested (n : Nesting) : Rule := fun parse mode parent block rest => do
  let last := Passage.lastChild? parent.content
  let isList (e : Option Element) : Bool := (e.map fun e => n.lists.contains e.name).getD false
  if !Passage.isIndented width block || mode == .unindented ||
      !(n.items.contains parent.name || isList last) then return none
  let wanted := Passage.indent block / width
  let start := if mode == .tightList then 1 else 0
  let (level, depth) := n.descend wanted (block.length + 1) start 0 parent
  let block := unindentLoosely block level
  let inLast (f : Element → StateM Notes Element) (e : Element) : StateM Notes Element :=
    atDepth f 1 e
  let go (e : Element) : StateM Notes Element := parse .unindented e [block]
  if n.items.contains parent.name then
    return some (← if isList last then inLast go parent else go parent, rest)
  let place (e : Element) : StateM Notes Element := do
    if n.items.contains e.name then go e
    else
      match Passage.lastChild? e.content with
      | some li =>
        if n.items.contains li.name then
          inLast (fun li => parse .unindented li.wrapText (Passage.blocks block)) e
        else return e.push (← go { name := n.newItem })
      | none => return e.push (← go { name := n.newItem })
  return some (← atDepth place depth parent, rest)

end LiveMarkdown.Prose.Block
