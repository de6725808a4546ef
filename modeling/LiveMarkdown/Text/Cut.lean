import LiveMarkdown.Text.Alphabet
import LiveMarkdown.Text.Blank
import LiveMarkdown.Text.Case
import LiveMarkdown.Text.Search

/-!
Texts cut at separators with a limit, filled up to a width, and in other cases.
-/

namespace LiveMarkdown.Text

/-- Cuts a list at the first occurrences of a separator, at most `limit` times. -/
def cutLimited {α : Type} [BEq α] (sep : List α) : Nat → Nat → List α → List α → List (List α)
  | 0, _, piece, cs => [piece.reverse ++ cs]
  | _, _, piece, [] => [piece.reverse]
  | fuel + 1, limit, piece, c :: cs =>
    if limit = 0 then [piece.reverse ++ c :: cs]
    else if sep.isPrefixOf (c :: cs) then
      piece.reverse :: cutLimited sep fuel (limit - 1) [] ((c :: cs).drop sep.length)
    else cutLimited sep fuel limit (c :: piece) cs

/-- A limit on cuts: none if it is negative. -/
def limitOf (n : Int) (size : Nat) : Nat := if n < 0 then size + 1 else n.toNat

/-- The parts of a list between the first occurrences of a separator. -/
def splitFirst {α : Type} [BEq α] (sep xs : List α) (limit : Int) : List (List α) :=
  cutLimited sep (xs.length + 1) (limitOf limit xs.length) [] xs

/-- The parts of a list between the last occurrences of a separator. -/
def splitLast {α : Type} [BEq α] (sep xs : List α) (limit : Int) : List (List α) :=
  ((splitFirst sep.reverse xs.reverse limit).map List.reverse).reverse

/-- The first words of a list, and what follows them after the blanks, if anything does. -/
def wordsLimited {α : Type} (blank : α → Bool) : Nat → Nat → List α → List (List α)
  | 0, _, _ => []
  | fuel + 1, limit, cs =>
    match cs.dropWhile blank with
    | [] => []
    | c :: rest =>
      if limit = 0 then [c :: rest]
      else
        let w := (c :: rest).takeWhile fun c => !blank c
        w :: wordsLimited blank fuel (limit - 1) ((c :: rest).drop w.length)

def wordsFirst {α : Type} (blank : α → Bool) (xs : List α) (limit : Int) : List (List α) :=
  wordsLimited blank (xs.length + 1) (limitOf limit xs.length) xs

def wordsLast {α : Type} (blank : α → Bool) (xs : List α) (limit : Int) : List (List α) :=
  ((wordsFirst blank xs.reverse limit).map List.reverse).reverse

/-- The parts before and after the first occurrence of a separator. -/
def cutOnce? {α : Type} [BEq α] (sep xs : List α) : Option (List α × List α) :=
  (findFrom sep xs 0).map fun i => (xs.take i, xs.drop (i + sep.length))

def cutLast? {α : Type} [BEq α] (sep xs : List α) : Option (List α × List α) :=
  (cutOnce? sep.reverse xs.reverse).map fun (after, before) => (before.reverse, after.reverse)

/-- A list with at most `limit` occurrences of `old` replaced. An empty `old` occurs between all
items. -/
def replaceLimited {α : Type} [BEq α] (old new xs : List α) (limit : Int) : List α :=
  if old.isEmpty then
    let n := limitOf limit (xs.length + 1)
    (xs.zipIdx.flatMap fun (c, i) => if i < n then new ++ [c] else [c]) ++
      (if xs.length < n then new else [])
  else new.intercalate (splitFirst old xs limit)

/-- A list filled up to a width at its end. -/
def leftAligned {α : Type} (xs : List α) (width : Nat) (fill : α) : List α :=
  xs ++ List.replicate (width - xs.length) fill

/-- A list filled up to a width at its start. -/
def rightAligned {α : Type} (xs : List α) (width : Nat) (fill : α) : List α :=
  List.replicate (width - xs.length) fill ++ xs

/-- A list in the middle of a width; an odd space goes to the left if the width is odd. -/
def center {α : Type} (xs : List α) (width : Nat) (fill : α) : List α :=
  let m := width - xs.length
  let left := m / 2 + (if m % 2 = 1 ∧ width % 2 = 1 then 1 else 0)
  List.replicate left fill ++ xs ++ List.replicate (m - left) fill

/-- Zeros between the sign and the rest. -/
def zeroFill (cs : List Char) (width : Nat) : List Char :=
  let zeros := List.replicate (width - cs.length) '0'
  match cs with
  | c :: rest => if c = '+' ∨ c = '-' then c :: zeros ++ rest else zeros ++ cs
  | [] => zeros

/-- Tabs as spaces up to the next column that is a multiple of the size. -/
def expandTabs (size : Nat) : Nat → List Char → List Char
  | _, [] => []
  | col, c :: cs =>
    if c = '\t' then
      let n := if size = 0 then 0 else size - col % size
      List.replicate n ' ' ++ expandTabs size (col + n) cs
    else if c = '\n' ∨ c = '\r' then c :: expandTabs size 0 cs
    else c :: expandTabs size (col + 1) cs

/-- The first character in its form for the start of a word, the rest in lower case. -/
def capitalize (s : String) : String :=
  match s.toList with
  | [] => ""
  | c :: cs => String.ofList (titleChar c ++ lowerFrom [c] cs)

/-- Every run of letters capitalized. -/
def titleFrom : List Char → List Char → List Char
  | _, [] => []
  | before, c :: cs =>
    let inWord := match before with
      | b :: _ => isCased b
      | [] => false
    (if inWord then
      (if c.toNat = 0x3A3 then
        [if meetsCased before && !meetsCased cs then Char.ofNat 0x3C2 else Char.ofNat 0x3C3]
      else lowerChar c)
    else titleChar c) ++ titleFrom (c :: before) cs

def titleCase (s : String) : String := String.ofList (titleFrom [] s.toList)

/-- Upper case for lower case and the other way round. -/
def swapCaseFrom (before : List Char) : List Char → List Char
  | [] => []
  | c :: cs =>
    (if c.toNat = 0x3A3 then
      [if meetsCased before && !meetsCased cs then Char.ofNat 0x3C2 else Char.ofNat 0x3C3]
    else if isUpperLetter c then lowerChar c
    else if isLowerLetter c then upperChar c
    else [c]) ++ swapCaseFrom (c :: before) cs

def swapCase (s : String) : String := String.ofList (swapCaseFrom [] s.toList)

/-- Whether a text holds at least one character and all are in the class. -/
def allIn (p : Char → Bool) (s : String) : Bool := s != "" && s.toList.all p

/-- Whether a character has a form of its own for the start of words, which is neither upper nor lower
case. -/
def isTitleLetter (c : Char) : Bool :=
  let n := c.toNat
  n == 0x1c5 || n == 0x1c8 || n == 0x1cb || n == 0x1f2 || (0x1f88 ≤ n && n ≤ 0x1f8f) ||
    (0x1f98 ≤ n && n ≤ 0x1f9f) || (0x1fa8 ≤ n && n ≤ 0x1faf) || n == 0x1fbc || n == 0x1fcc ||
    n == 0x1ffc

/-- Whether all cased characters of a text are in lower case, and there is one. -/
def isLowerText (s : String) : Bool :=
  s.toList.any isLowerLetter && !(s.toList.any fun c => isUpperLetter c || isTitleLetter c)

def isUpperText (s : String) : Bool :=
  s.toList.any isUpperLetter && !(s.toList.any fun c => isLowerLetter c || isTitleLetter c)

/-- Whether upper-case letters stand at the start of words and nowhere else. -/
def isTitleText (s : String) : Bool :=
  let starts (c : Char) : Bool := isUpperLetter c || isTitleLetter c
  let rec go (inWord : Bool) : List Char → Bool
    | [] => true
    | c :: cs =>
      if starts c then !inWord && go true cs
      else if isLowerLetter c then inWord && go true cs
      else go false cs
  s.toList.any (fun c => starts c || isLowerLetter c) && go false s.toList

end LiveMarkdown.Text
