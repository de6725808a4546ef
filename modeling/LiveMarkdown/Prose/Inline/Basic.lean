import LiveMarkdown.Prose.Block.Basic
import LiveMarkdown.Prose.Extension
import LiveMarkdown.Prose.Fence

/-!
Rules for running text. A rule looks at one place of a passage; where it applies, it replaces what it
read by other pieces or by an element whose text later rules still read.
-/

namespace LiveMarkdown.Prose.Inline

/-- What running text is read with. -/
structure Context where
  features : List Feature
  notes : Block.Notes

/-- The footnotes that were referred to, in the order of their first references, and how often. -/
structure Marks where
  order : List String := []
  counts : List (String × Nat) := []

abbrev Reading := ReaderT Context (StateM Marks)

/-- An element that a rule made: its text, and children with the text after each. -/
inductive Draft where
  | node (name : String) (attributes : Attributes) (text : Passage)
      (children : List (Draft × Passage))

/-- What a rule finds at a place: nothing; text of the given size that is no match, so that the
search goes on after it; text that stays as it is; or text that is replaced. -/
inductive Found where
  | nothing
  | skip (size : Nat)
  | stays (size : Nat)
  | pieces (size : Nat) (xs : Passage)
  | draft (size : Nat) (d : Draft)

/-- A rule reads a passage from a place on; the pieces before it, the last one first, are given too. -/
abbrev Rule := Passage → Passage → Reading Found

/-- Characters that a backslash may stand before. -/
def escapable (c : Context) : List Char :=
  "\\\x60*_\x7b\x7d[]()>#+-.!".toList ++ (if c.features.contains .tables then ['|'] else []) ++
    if c.features.contains .typography then ['"', '\x27'] else []

def isWordPiece (x : Piece) : Bool :=
  match x with
  | .char c => Fence.isWordChar c
  | _ => false

def nextIs (c : Char) (xs : Passage) : Bool := (xs.head?.map (Piece.isChar c)).getD false

/-- The pieces up to the first one of a kind, and those after it. -/
def upTo? (p : Piece → Bool) (xs : Passage) : Option (Passage × Passage) :=
  let front := xs.takeWhile fun x => !p x
  match xs.drop front.length with
  | _ :: rest => some (front, rest)
  | [] => none

end LiveMarkdown.Prose.Inline
