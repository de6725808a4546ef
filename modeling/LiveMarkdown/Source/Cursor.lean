import LiveMarkdown.Text.Search

/-!
The place of a fragment in the source of its document, and the two levels a fragment can have.
-/

namespace LiveMarkdown

/-- Whether a fragment stands among blocks or inside a line of text. -/
inductive Level where
  | block
  | inline
deriving DecidableEq, Repr

/-- The name of a level in records. -/
def Level.name : Level → String
  | .block => "Block"
  | .inline => "Inline"

namespace Source

/-- A line counted from one and a column counted from zero, each where it is known. -/
structure Position where
  line : Option Nat := none
  column : Option Nat := none
deriving DecidableEq, Repr

namespace Position

def unknown : Position := {}

def known (p : Position) : Bool := p.line.isSome

/-- The position in words: the line alone for a block, with its column for inline code. Unknown
parts are shown as question marks. -/
def describe (p : Position) (level : Level) : String :=
  let number (n : Option Nat) := match n with
    | some n => toString n
    | none => "??"
  match level with
  | .inline => s!"line {number p.line} column {number p.column}"
  | .block => s!"line {number p.line}"

end Position

end Source

end LiveMarkdown

/-!
Finding fragments in the source. The search goes forward from a cursor, so equal fragments are found
one after the other. A position never influences whether or how a fragment runs.
-/

namespace LiveMarkdown.Source

/-- What is searched for: a block as it is, inline code between backticks. -/
def needle (text : String) : Level → List Char
  | .block => text.toList
  | .inline => '\x60' :: text.toList ++ ['\x60']

/-- The index where the search begins; a negative cursor counts from the end. -/
def searchStart (source : List Char) (cursor : Int) : Nat :=
  if cursor < 0 then (cursor + source.length).toNat else cursor.toNat

/-- One more than the number of line feeds in the text before a place. -/
def lineOf (before : List Char) : Nat := before.count '\n' + 1

/-- The number of characters after the last line feed of the text before a place. -/
def columnOf (before : List Char) : Nat := (before.reverse.takeWhile (· ≠ '\n')).length

/-- The position of the first occurrence at or after the cursor, and the cursor behind it. When there
is none the position is unknown and the cursor stays. -/
def locate (source text : String) (cursor : Int) (level : Level) : Position × Int :=
  let cs := source.toList
  let n := needle text level
  if cs = [] then (.unknown, cursor)
  else match Text.findFrom n cs (searchStart cs cursor) with
    | none => (.unknown, cursor)
    | some start =>
      let before := cs.take start
      ({ line := some (lineOf before)
         column := match level with
           | .inline => some (columnOf before)
           | .block => none },
        (start + n.length : Nat))

/-- A source with the cursor of one run over it. -/
structure Locator where
  source : String
  cursor : Int := 0

/-- Locates the next occurrence of a text and moves the cursor behind it. -/
def Locator.next (l : Locator) (text : String) (level : Level) : Position × Locator :=
  let (p, cursor) := locate l.source text l.cursor level
  (p, { l with cursor })

end LiveMarkdown.Source
