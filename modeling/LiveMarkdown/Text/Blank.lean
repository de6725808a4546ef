/-!
Blank characters, the ends of lines, and the operations that cut text at them.
-/

namespace LiveMarkdown.Text

/-- The characters that separate words: tab to carriage return, the information separators, the
space, and the space characters beyond ASCII. -/
def isBlank (c : Char) : Bool :=
  let n := c.toNat
  (9 ≤ n && n ≤ 13) || (28 ≤ n && n ≤ 32) || n == 0x85 || n == 0xA0 || n == 0x1680 ||
    (0x2000 ≤ n && n ≤ 0x200A) || n == 0x2028 || n == 0x2029 || n == 0x202F || n == 0x205F ||
    n == 0x3000

/-- The characters that end a line. A carriage return and a line feed together end one line. -/
def isLineEnd (c : Char) : Bool :=
  let n := c.toNat
  (10 ≤ n && n ≤ 13) || (28 ≤ n && n ≤ 30) || n == 0x85 || n == 0x2028 || n == 0x2029

/-- Drops the items in the class from the end of a list. -/
def dropLastWhile {α : Type} (p : α → Bool) (cs : List α) : List α :=
  (cs.reverse.dropWhile p).reverse

/-- Drops the items in the class from both ends of a list. -/
def trim {α : Type} (p : α → Bool) (cs : List α) : List α :=
  dropLastWhile p (cs.dropWhile p)

/-- A text without the blanks at its ends. -/
def strip (s : String) : String := String.ofList (trim isBlank s.toList)

/-- The maximal pieces of a list that hold no separator and are not empty. -/
def pieces (sep : Char → Bool) : List Char → List (List Char)
  | [] => []
  | c :: cs =>
    if sep c then pieces sep cs
    else match cs with
      | [] => [[c]]
      | d :: _ =>
        if sep d then [c] :: pieces sep cs
        else match pieces sep cs with
          | [] => [[c]]
          | w :: ws => (c :: w) :: ws

/-- The words of a text. -/
def words (s : String) : List String := (pieces isBlank s.toList).map String.ofList

/-- The lines of a text, each with the characters that end it. -/
def linesEndedBy (isEnd : Char → Bool) : List Char → List (List Char × List Char)
  | [] => []
  | '\r' :: '\n' :: cs => ([], ['\r', '\n']) :: linesEndedBy isEnd cs
  | c :: cs =>
    if isEnd c then ([], [c]) :: linesEndedBy isEnd cs
    else match linesEndedBy isEnd cs with
      | [] => [([c], [])]
      | (l, e) :: ls => (c :: l, e) :: ls

def linesWithEnds (cs : List Char) : List (List Char × List Char) := linesEndedBy isLineEnd cs

/-- The lines of a text without the characters that end them. -/
def lines (s : String) : List String := (linesWithEnds s.toList).map fun l => String.ofList l.1

/-- The lines of a text cut at line feeds only; there is one more line than line feeds. -/
def linesAtFeeds : List Char → List (List Char)
  | [] => [[]]
  | c :: cs =>
    if c = '\n' then [] :: linesAtFeeds cs
    else match linesAtFeeds cs with
      | [] => [[c]]
      | l :: ls => (c :: l) :: ls

/-!
One spelling of the end of a line. A carriage return with a line feed, and a carriage return alone,
become one line feed.
-/

/-- Drops every carriage return that stands before a line feed. -/
def joinReturns : List Char → List Char
  | [] => []
  | '\r' :: '\n' :: cs => '\n' :: joinReturns cs
  | c :: cs => c :: joinReturns cs

/-- Turns every carriage return into a line feed. -/
def feedReturns (cs : List Char) : List Char :=
  cs.map fun c => if c = '\r' then '\n' else c

/-- The text with line feeds as its only line ends among carriage returns and line feeds. -/
def normaliseNewlines (s : String) : String :=
  String.ofList (feedReturns (joinReturns s.toList))

end LiveMarkdown.Text
