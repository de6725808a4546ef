import LiveMarkdown.Prose.Inline.Basic
import LiveMarkdown.Text.Case

/-!
Links and images: a text in brackets, and after it an address in parentheses or the name of an
address that is defined elsewhere.
-/

namespace LiveMarkdown.Prose.Inline

/-- The text up to the bracket that closes the one before it, and what follows that bracket. -/
def bracketed? : Nat → Passage → Option (Passage × Passage)
  | _, [] => none
  | open_, x :: xs =>
    if x.isChar ']' then
      if open_ = 0 then some ([], xs)
      else (bracketed? (open_ - 1) xs).map fun (t, rest) => (x :: t, rest)
    else
      (bracketed? (if x.isChar '[' then open_ + 1 else open_) xs).map fun (t, rest) =>
        (x :: t, rest)

/-- A quote in the address of a link: its character, where the text after it begins, and where the
last one like it ended. -/
structure Quote where
  mark : Char
  start : Nat
  stop : Option Nat := none

/-- How far the parentheses of a link were read. -/
structure Scan where
  /-- Parentheses that are open, and those that were open where the first quote began. -/
  depth : Nat := 1
  spare : Nat := 1
  /-- Where the link ends if the first quote is no title. -/
  spareEnd : Option Nat := none
  first : Option Quote := none
  second : Option Quote := none
  /-- The last character that is no space. -/
  last : Option Char := none

namespace Scan

/-- Whether a quote was closed by the last character. -/
def closedBy (s : Scan) (q : Option Quote) : Bool :=
  match q with
  | some q => q.stop.isSome && s.last == some q.mark
  | none => false

/-- Reads the piece at a place. Inside what may be a title parentheses are counted apart. -/
def read (s : Scan) (i : Nat) (x : Piece) : Scan :=
  let s :=
    if x.isChar '(' then
      if s.first.isNone then { s with depth := s.depth + 1 }
      else if 0 < s.spare then { s with spare := s.spare - 1 } else s
    else if x.isChar ')' then
      if s.closedBy s.first || s.closedBy s.second then { s with depth := 0 }
      else if s.first.isNone then { s with depth := s.depth - 1 }
      else if 0 < s.spare then
        let spare := s.spare - 1
        { s with spare, spareEnd := if spare = 0 then some (i + 1) else s.spareEnd }
      else s
    else
      match x.char? with
      | some c =>
        if c != '"' && c != '\x27' then s
        else
          match s.first with
          | none =>
            { s with spare := s.depth, depth := 1, first := some { mark := c, start := i + 1 } }
          | some q =>
            if c == q.mark then { s with first := some { q with stop := some (i + 1) } }
            else
              match s.second with
              | none => { s with second := some { mark := c, start := i + 1 } }
              | some r => { s with second := some { r with stop := some (i + 1) } }
      | none => s
  s

/-- Remembers a character that is no space. -/
def note (s : Scan) (x : Piece) : Scan := if x.isChar ' ' then s else { s with last := x.char? }

/-- Reads on until all parentheses are closed; where that is, if it is. -/
def run : Scan → Nat → Passage → Scan × Option Nat
  | s, _, [] => (s, none)
  | s, i, x :: xs =>
    let s := s.read i x
    if s.depth = 0 then (s, some i) else run (s.note x) (i + 1) xs

end Scan

def slice (xs : Passage) (i j : Nat) : Passage := (xs.drop i).take (j - i)

/-- A text without the quotes around it. -/
def unquote (s : List Char) : List Char :=
  match s, s.getLast? with
  | a :: rest, some b => if a == b && (a == '"' || a == '\x27') then rest.dropLast else s
  | _, _ => s

/-- A title on one line. -/
def cleanTitle (xs : Passage) : String :=
  let cs := unquote (Passage.plainChars (Passage.trim xs))
  String.ofList (cs.map fun c => if Text.isBlank c then ' ' else c)

def cleanAddress (xs : Passage) : String := Text.strip (Passage.plain xs)

/-- An address in angle brackets, with a title in quotes after it. -/
def angledTarget? (xs : Passage) : Option ((String × Option String) × Passage) := do
  let rest ← if nextIs '<' xs then some (xs.drop 1) else none
  let (inner, rest) ← upTo? (fun x => x.isChar '<' || x.isChar '>') rest
  let closer := (xs.drop (inner.length + 1)).head?
  if (closer.map (Piece.isChar '>')).getD false then
    let rest := Passage.trimStart rest
    let titled := do
      let q ← rest.head?
      if q.isChar '"' || q.isChar '\x27' then
        let (title, after) ← upTo? (· == q) (rest.drop 1)
        some (title, Passage.trimStart after)
      else none
    let (title, rest) := match titled with
      | some (t, r) => (some (cleanTitle t), r)
      | none => (none, rest)
    if nextIs ')' rest then some ((cleanAddress inner, title), rest.drop 1) else none
  else none

/-- The address and the title of a link in parentheses, and what follows them. -/
def target? (xs : Passage) : Option ((String × Option String) × Passage) :=
  if !nextIs '(' xs then none
  else
    let body := Passage.trimStart (xs.drop 1)
    match angledTarget? body with
    | some found => some found
    | none =>
      let (s, stop) := ({} : Scan).run 0 body
      match stop with
      | some i =>
        let titled (q : Option Quote) : Option ((String × Option String) × Passage) := do
          let q ← q
          let e ← q.stop
          if s.last == some q.mark then
            some ((cleanAddress (slice body 0 (q.start - 1)),
              some (cleanTitle (slice body q.start (e - 1)))), body.drop (i + 1))
          else none
        match titled s.first with
        | some t => some t
        | none =>
          match titled s.second with
          | some t => some t
          | none => some ((cleanAddress (slice body 0 i), none), body.drop (i + 1))
      | none =>
        match s.spareEnd with
        | some e =>
          if s.spare = 0 then
            some ((cleanAddress (slice body 0 (e - 1)), none), body.drop e)
          else none
        | none => none

/-- A link or an image with an address and a title. -/
def made (image : Bool) (address : String) (title : Option String) (text : Passage) : Draft :=
  let titled : Attributes := match title with
    | some t => [("title", t)]
    | none => []
  if image then
    .node "img" (("src", some address) :: titled ++ [("alt", some (Passage.plain text))]) [] []
  else .node "a" (("href", address) :: titled) text []

/-- The text in brackets that a link or an image begins with. An image begins with an exclamation
mark, and a link does not follow one. -/
def opening? (image : Bool) (done xs : Passage) : Option (Passage × Passage) :=
  if image then
    if Passage.hasPrefix "![" xs then bracketed? 0 (xs.drop 2) else none
  else if nextIs '[' xs && !nextIs '!' done then bracketed? 0 (xs.drop 1)
  else none

/-- A link or an image whose address follows. -/
def direct (image : Bool) : Rule := fun done xs => do
  match opening? image done xs with
  | none => return .nothing
  | some (text, rest) =>
    match target? rest with
    | none => return .nothing
    | some ((address, title), rest) =>
      return .draft (xs.length - rest.length) (made image address title text)

/-- The name of an address in brackets, after at most one blank. -/
def name? (xs : Passage) : Option (Passage × Passage) :=
  let xs := match xs with
    | x :: rest => if x.isBlank then rest else xs
    | [] => xs
  if nextIs '[' xs then upTo? (Piece.isChar ']') (xs.drop 1) else none

/-- A name with one space for each run of blanks. -/
def oneSpaced : Bool → List Char → List Char
  | _, [] => []
  | within, c :: cs =>
    if Text.isBlank c then if within then oneSpaced true cs else ' ' :: oneSpaced true cs
    else c :: oneSpaced false cs

/-- A link or an image whose address is defined elsewhere. In the short form its text is the name. -/
def indirect (image short : Bool) : Rule := fun done xs => do
  match opening? image done xs with
  | none => return .nothing
  | some (text, rest) =>
    let found := if short then some (text, rest) else (name? rest).map fun (name, after) =>
      (if name.isEmpty then text else name, after)
    match found with
    | none => return .nothing
    | some (name, rest) =>
      let size := xs.length - rest.length
      let key := String.ofList (oneSpaced false (Text.lower (Passage.plain name)).toList)
      let references := (← read).notes.references
      let isPlain := name.all fun x => x.char?.isSome
      match (references.lookup key).filter fun _ => isPlain with
      | none => return .stays size
      | some (address, title) => return .draft size (made image address title text)

end LiveMarkdown.Prose.Inline
