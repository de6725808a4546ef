/-!
Occurrences of one text in another, by position.
-/

namespace LiveMarkdown.Text

/-- The first position, counted on from `at`, where the needle begins. -/
def firstFrom {α : Type} [BEq α] (needle : List α) : List α → Nat → Option Nat
  | [], i => if needle.isEmpty then some i else none
  | c :: cs, i => if needle.isPrefixOf (c :: cs) then some i else firstFrom needle cs (i + 1)

/-- The first position at or after `start` where the needle begins in the text. An empty needle
begins everywhere up to the end. -/
def findFrom {α : Type} [BEq α] (needle text : List α) (start : Nat) : Option Nat :=
  if start ≤ text.length then firstFrom needle (text.drop start) start else none

/-- Cuts a text at every occurrence of a separator, from left to right. The fuel bounds the length
of the text. -/
def cutAtAll (sep : List Char) : Nat → List Char → List Char → List (List Char)
  | 0, piece, cs => [piece.reverse ++ cs]
  | _ + 1, piece, [] => [piece.reverse]
  | fuel + 1, piece, c :: cs =>
    if sep.isPrefixOf (c :: cs) then
      piece.reverse :: cutAtAll sep fuel [] ((c :: cs).drop sep.length)
    else cutAtAll sep fuel (c :: piece) cs

/-- The parts of a text between the occurrences of a separator that is not empty. -/
def splitAt (sep text : String) : List String :=
  (cutAtAll sep.toList (text.length + 1) [] text.toList).map String.ofList

/-- The text with every occurrence of `old` replaced, from left to right. -/
def replaceAll (old new text : String) : String :=
  new.intercalate (splitAt old text)

/-- Whether the needle occurs in the text. -/
def occursIn (needle text : String) : Bool :=
  (findFrom needle.toList text.toList 0).isSome

end LiveMarkdown.Text
