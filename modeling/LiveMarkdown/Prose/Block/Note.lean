import LiveMarkdown.Prose.Block.Basic
import LiveMarkdown.Text.Case

/-!
Definitions that stand between blocks and leave no block behind: addresses of links, abbreviations
and footnotes.
-/

namespace LiveMarkdown.Prose.Block

/-- Leaves the text around a definition as blocks of their own. -/
def around (front back : Passage) (rest : List Passage) : List Passage :=
  let rest := if Passage.isBlank back then rest else dropFirstFeeds back :: rest
  if Passage.isBlank front then rest else dropFeeds front :: rest

/-- A name in brackets after at most three spaces, with the colon after it. -/
def bracketed? (isName : Char → Bool) (opening : String) (xs : Passage) :
    Option (Passage × Passage) :=
  let body := xs.drop (Passage.indent xs)
  if 3 < Passage.indent xs || !Passage.hasPrefix opening body then none
  else
    let inner := body.drop opening.length
    let name := inner.takeWhile fun x => x.char?.isNone || x.isIn isName
    let after := inner.drop name.length
    if Passage.hasPrefix "]:" after then some (name, after.drop 2) else none

def dropSpaces (xs : Passage) : Passage := xs.dropWhile (Piece.isChar ' ')

/-- The rest of the line. -/
def restOfLine (xs : Passage) : Passage := xs.takeWhile fun x => !x.isChar '\n'

def atLineEnd (xs : Passage) : Bool := (xs.head?.map (Piece.isChar '\n')).getD true

/-- A title in quotes or parentheses that ends its line. -/
def title? (xs : Passage) : Option (Passage × Passage) :=
  match xs with
  | x :: rest =>
    let closing := if x.isChar '(' then ')' else (x.char?.getD ' ')
    if !(x.isIn fun c => c == '(' || c == '"' || c == '\x27') then none
    else
      let line := restOfLine rest
      let body := Passage.dropEndWhile (Piece.isChar ' ') line
      if (body.getLast?.map (Piece.isChar closing)).getD false then
        some (body.dropLast, rest.drop line.length)
      else none
  | [] => none

/-- What may follow the address of a link: a title, on its line or on the next one. -/
def afterAddress? (xs : Passage) : Option (Option Passage × Passage) :=
  let same := dropSpaces xs
  let next := match same with
    | x :: rest => if x.isChar '\n' then some (dropSpaces rest) else none
    | [] => none
  let titled (ys : Passage) : Option (Option Passage × Passage) :=
    match title? ys with
    | some (t, rest) => some (some t, rest)
    | none => if atLineEnd ys then some (none, ys) else none
  (next.bind titled) <|> titled same

/-- The address of a link, as long as what follows it allows, and its title. -/
def address? (xs : Passage) : Nat → Option (Passage × Option Passage × Passage)
  | 0 => none
  | n + 1 =>
    match afterAddress? (xs.drop (n + 1)) with
    | some (t, rest) => some (xs.take (n + 1), t, rest)
    | none => address? xs n

/-- The definition of an address that begins on a line: the name, the address and the title. -/
def reference? (xs : Passage) : Option ((Passage × Passage × Option Passage) × Passage) := do
  let (name, rest) ← bracketed? (fun c => c != '[' && c != ']') "[" xs
  let rest := dropSpaces rest
  let rest := match rest with
    | x :: more => if x.isChar '\n' then dropSpaces more else rest
    | [] => rest
  let longest := rest.takeWhile fun x => !x.isBlank
  let (address, title, rest) ← address? rest longest.length
  some ((name, address, title), rest)

/-- The key of a name of a link. -/
def keyOf (xs : Passage) : String := Text.lower (Passage.plain (Passage.trim xs))

/-- An address of a link. -/
def reference : Rule := fun _ _ parent block rest => do
  match findAtLine? reference? true block with
  | none => return none
  | some (front, (name, address, title), back) =>
    let address := Passage.dropEndWhile (Piece.isChar '>') (address.dropWhile (Piece.isChar '<'))
    let title := (title.filter fun t => !t.isEmpty).map Passage.plain
    modify fun n =>
      { n with references := define (keyOf name) (Passage.plain address, title) n.references }
    return some (parent, around front back rest)

/-- An abbreviation that begins on a line: its short and its long form. -/
def abbreviation? (xs : Passage) : Option ((Passage × Passage) × Passage) :=
  if !Passage.hasPrefix "*[" xs then none
  else
    let inner := xs.drop 2
    let rec close? (short : Passage) : Passage → Option (Passage × Passage)
      | [] => none
      | x :: ys =>
        let after := if (ys.head?.map (Piece.isChar ' ')).getD false then ys.drop 1 else ys
        if x.isChar ']' && (after.head?.map (Piece.isChar ':')).getD false then
          some (short.reverse, after.drop 1)
        else if x.isChar '\\' then none
        else close? (x :: short) ys
    (close? [] inner).map fun (short, rest) =>
      let rest := dropSpaces rest
      let rest := match rest with
        | x :: more => if x.isChar '\n' then dropSpaces more else rest
        | [] => rest
      let long := restOfLine rest
      ((short, long), rest.drop long.length)

/-- An abbreviation. An empty long form takes it back. -/
def abbreviation : Rule := fun _ _ parent block rest => do
  match findAtLine? abbreviation? true block with
  | none => return none
  | some (front, (short, long), back) =>
    let short := Passage.plain (Passage.trim short)
    let long := Passage.plain (Passage.trim long)
    if short == "" || long == "" then return none
    modify fun n =>
      { n with
        abbreviations :=
          if long == "''" || long == "\"\"" then n.abbreviations.filter fun e => e.1 != short
          else define short long n.abbreviations }
    return some (parent, around front back rest)

/-- A footnote that begins on a line: its name and the rest of the line. -/
def footnote? (xs : Passage) : Option ((Passage × Passage) × Passage) := do
  let (name, rest) ← bracketed? (· != ']') "[^" xs
  let rest := dropSpaces rest
  let text := restOfLine rest
  some ((name, text), rest.drop text.length)

/-- The indented blocks that go on a footnote, and the blocks after it. -/
def footnoteBlocks : List Passage → List Passage × List Passage
  | [] => ([], [])
  | b :: bs =>
    if !Passage.isIndented width b then ([], b :: bs)
    else
      match findAtLine? footnote? true b with
      | some (front, _, _) =>
        ([unindentLoosely (dropFeeds front)], b.drop front.length :: bs)
      | none =>
        let (inner, rest) := footnoteBlocks bs
        (unindentLoosely b :: inner, rest)

/-- A footnote with the lines and the indented blocks after it. -/
def footnote : Rule := fun _ _ parent block rest => do
  match findAtLine? footnote? true block with
  | none => return none
  | some (front, (name, text), back) =>
    let back := dropFirstFeeds back
    let (blocks, rest) : List Passage × List Passage := match findAtLine? footnote? true back with
      | some (own, _, _) =>
        let first : Passage := text ++ .char '\n' :: unindentLoosely (dropFeeds own)
        ([dropFirstFeeds first], back.drop own.length :: rest)
      | none =>
        let first : Passage := text ++ .char '\n' :: unindentLoosely back
        let (inner, rest) := footnoteBlocks rest
        (dropFeeds (dropFirstFeeds first) :: inner, rest)
    let whole := (Passage.ofString "\n\n").intercalate blocks
    modify fun n =>
      { n with footnotes := define (Passage.plain name) (Passage.trimEnd whole) n.footnotes }
    return some (parent, if Passage.isBlank front then rest else dropFeeds front :: rest)

end LiveMarkdown.Prose.Block
