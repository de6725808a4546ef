/-!
Sets of characters given by ranges of code points, and runs of characters that map to runs. The
tables of this library are written as rows of hexadecimal text and read once.
-/

namespace LiveMarkdown.Text

/-- The value of a hexadecimal digit. -/
def hexDigit? (c : Char) : Option Nat :=
  if '0' ≤ c ∧ c ≤ '9' then some (c.toNat - 48)
  else if 'a' ≤ c ∧ c ≤ 'f' then some (c.toNat - 87)
  else if 'A' ≤ c ∧ c ≤ 'F' then some (c.toNat - 55)
  else none

/-- The number that a word of hexadecimal digits denotes; other characters are passed over. -/
def hexValue (cs : List Char) : Nat :=
  cs.foldl (fun n c => match hexDigit? c with
    | some d => n * 16 + d
    | none => n) 0

/-- Cuts a list at every separator. -/
def cutAt (sep : Char → Bool) : List Char → List (List Char)
  | [] => [[]]
  | c :: cs =>
    if sep c then [] :: cutAt sep cs
    else match cutAt sep cs with
      | [] => [[c]]
      | w :: ws => (c :: w) :: ws

/-- The words of some rows of text, separated by spaces. -/
def rowWords (rows : List String) : List (List Char) :=
  rows.flatMap fun row => (cutAt (· == ' ') row.toList).filter (· ≠ [])

/-- A set of characters as disjoint ascending ranges of code points, ends included. -/
abbrev Ranges := Array (Nat × Nat)

namespace Ranges

/-- Reads words of the form `a-b` or `a`. -/
def ofRows (rows : List String) : Ranges :=
  ((rowWords rows).map fun w =>
    match cutAt (· == '-') w with
    | [a, b] => (hexValue a, hexValue b)
    | _ => (hexValue w, hexValue w)).toArray

/-- Halves the part of the table that may hold the code point until one range is left. -/
def search (r : Ranges) (n : Nat) : Nat → Nat → Nat → Bool
  | 0, _, _ => false
  | fuel + 1, lo, hi =>
    if lo < hi then
      let mid := (lo + hi) / 2
      match r[mid]? with
      | some (a, b) =>
        if n < a then search r n fuel lo mid
        else if b < n then search r n fuel (mid + 1) hi
        else true
      | none => false
    else false

def contains (r : Ranges) (c : Char) : Bool :=
  search r c.toNat (r.size + 1) 0 r.size

end Ranges

/-- A run of characters with constant stride whose images are a run with the same stride. -/
structure Run where
  first : Nat
  last : Nat
  stride : Nat
  image : Nat

/-- Runs of characters and their images. -/
abbrev Runs := Array Run

namespace Runs

/-- Reads words of the form `first-last/stride:image`, or `first:image` for one character. -/
def ofRows (rows : List String) : Runs :=
  ((rowWords rows).map fun w =>
    match cutAt (fun c => c == '-' || c == '/' || c == ':') w with
    | [a, b, s, i] => ⟨hexValue a, hexValue b, hexValue s, hexValue i⟩
    | [a, i] => ⟨hexValue a, hexValue a, 1, hexValue i⟩
    | _ => ⟨0, 0, 1, 0⟩).toArray

/-- The image of a character, if a run holds it. -/
def image? (r : Runs) (c : Char) : Option Char :=
  let n := c.toNat
  (r.find? fun x => x.first ≤ n && n ≤ x.last && (n - x.first) % x.stride == 0).map fun x =>
    Char.ofNat (x.image + (n - x.first))

end Runs

end LiveMarkdown.Text
