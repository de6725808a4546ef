import LiveMarkdown.Prose.Inline.Basic

/-!
Emphasis. One mark on each side of a text is emphasis, two are strong emphasis, and three are both.
Runs of marks are matched as brackets are: a run that closes takes marks from an open run before it,
and the open runs between the two are marks no longer.
-/

namespace LiveMarkdown.Prose.Inline

/-- Which marks are read as they stand between blanks or letters. -/
structure MarkRules where
  /-- Between letters of a word an underscore is no mark. -/
  wholeWords : Bool
  /-- A single mark between blanks is one that opens and closes. -/
  freeMarks : Bool

/-- A run of one mark: whether it can open and whether it can close. -/
structure Run where
  mark : Char
  start : Nat
  size : Nat
  opens : Bool
  closes : Bool

/-- An open run: where it begins, and how many of its marks are left. -/
structure OpenRun where
  mark : Char
  start : Nat
  left : Nat

/-- Emphasised text with its marks: where it begins, where it ends, and how many marks it has on each
side. -/
structure Span where
  start : Nat
  stop : Nat
  marks : Nat

namespace Run

def isMark (x : Piece) : Bool := x.isChar '*' || x.isChar '_'

/-- A run of marks at a place of a passage. -/
def at_ (rules : MarkRules) (a : Array Piece) (mark : Char) (start size : Nat) : Run :=
  let before := if start = 0 then none else a[start - 1]?
  let after := a[start + size]?
  let blank (x : Option Piece) : Bool := (x.map Piece.isBlank).getD true
  let word (x : Option Piece) : Bool := (x.map isWordPiece).getD false
  let free := mark == '_' && rules.freeMarks && blank before && blank after
  let whole := mark == '_' && rules.wholeWords
  { mark, start, size
    opens := free || !blank after && !(whole && word before)
    closes := free || !blank before && !(whole && word after) }

/-- The runs of marks from a place on. The fuel bounds the places. -/
def allFrom (rules : MarkRules) (a : Array Piece) : Nat → Nat → List Run
  | 0, _ => []
  | fuel + 1, i =>
    match a[i]? with
    | none => []
    | some x =>
      match x.char? with
      | some c =>
        if isMark x then
          let size := ((List.range (a.size - i)).takeWhile fun k =>
            ((a[i + k]?).map (Piece.isChar c)).getD false).length
          at_ rules a c i size :: allFrom rules a fuel (i + max 1 size)
        else allFrom rules a fuel (i + 1)
      | none => allFrom rules a fuel (i + 1)

def all (rules : MarkRules) (a : Array Piece) : List Run := allFrom rules a a.size 0

/-- Whether the marks that are left of a run may close an open one. A run that could open as well is
held back if the marks of both add up to a multiple of three, unless each of them is one. -/
def mayClose (r : Run) (left : Nat) (o : OpenRun) : Bool :=
  r.mark == o.mark &&
    !(r.opens && (left + o.left) % 3 = 0 && !(left % 3 = 0 && o.left % 3 = 0))

end Run

namespace Span

/-- The open run that is closed: the nearest one that is used up, or else the nearest one. -/
def opener? (r : Run) (left : Nat) (stack : List OpenRun) : Option (OpenRun × List OpenRun) :=
  let from_ (p : OpenRun → Bool) : Option (OpenRun × List OpenRun) :=
    match stack.dropWhile fun o => !(r.mayClose left o && p o) with
    | o :: below => some (o, below)
    | [] => none
  match from_ fun o => o.left ≤ left with
  | some found => some found
  | none => from_ fun _ => true

/-- How many marks are taken from two runs: of three on both sides the first one alone. -/
def taken (a b : Nat) : Nat :=
  if a < 2 || b < 2 then 1 else if a % 2 = 1 && b % 2 = 1 then 1 else 2

/-- Closes open runs with the marks of a run that are left. The fuel bounds these marks. -/
def close (r : Run) : Nat → Nat → List OpenRun → List Span → List OpenRun × List Span × Nat
  | 0, left, stack, spans => (stack, spans, left)
  | fuel + 1, left, stack, spans =>
    if left = 0 then (stack, spans, left)
    else match opener? r left stack with
      | none => (stack, spans, left)
      | some (o, below) =>
        let n := taken o.left left
        let start := o.start + o.left - n
        let stop := r.start + r.size - left + n
        let stack := if o.left ≤ n then below else { o with left := o.left - n } :: below
        close r fuel (left - n) stack (⟨start, stop, n⟩ :: spans)

/-- The spans of runs, read from left to right. -/
def ofRuns : List Run → List OpenRun → List Span → List Span
  | [], _, spans => spans
  | r :: rs, stack, spans =>
    let (stack, spans, left) :=
      if r.closes then close r r.size r.size stack spans else (stack, spans, r.size)
    let stack := if r.opens && left ≠ 0 then
        ⟨r.mark, r.start + r.size - left, left⟩ :: stack
      else stack
    ofRuns rs stack spans

/-- The emphasised texts of a passage in the order in which they begin, outer ones first. -/
def all (rules : MarkRules) (a : Array Piece) : List Span :=
  (ofRuns (Run.all rules a) [] []).mergeSort fun s t =>
    s.start < t.start || s.start = t.start && t.stop ≤ s.stop

def name (s : Span) : String := if s.marks = 2 then "strong" else "em"

/-- Elements for the spans that lie between two places, with the text before the first one. The fuel
bounds the number of spans. -/
def drafts (a : Array Piece) : Nat → List Span → Nat → Nat → Passage × List (Draft × Passage)
  | 0, _, start, stop => ((a.extract start stop).toList, [])
  | fuel + 1, spans, start, stop =>
    match spans.dropWhile fun s => s.start < start with
    | s :: rest =>
      if stop < s.stop then ((a.extract start stop).toList, [])
      else
        let (text, children) := drafts a fuel rest (s.start + s.marks) (s.stop - s.marks)
        let (tail, more) := drafts a fuel rest s.stop stop
        ((a.extract start s.start).toList, (.node s.name [] text children, tail) :: more)
    | [] => ((a.extract start stop).toList, [])

end Span

/-- Text between marks. -/
def emphasis (rules : MarkRules) : Rule := fun done xs => do
  if !(xs.head?.map Run.isMark).getD false then return .nothing
  let a := (done.reverse ++ xs).toArray
  let spans := Span.all rules a
  match spans.find? fun s => s.start = done.length with
  | some s =>
    match Span.drafts a (spans.length + 1) spans s.start s.stop with
    | (_, (d, _) :: _) => return .draft (s.stop - s.start) d
    | _ => return .nothing
  | none => return .nothing

/-- What a free asterisk emphasises, given what follows it: the text up to the next asterisk, if that
one is free too. The end of the text is counted without the blanks around it. -/
def freeText? (xs : Passage) : Option Passage := do
  let (text, after) ← upTo? (Piece.isChar '*') xs
  let words := Passage.trim text
  let blankAfter := (after.head?.map Piece.isBlank).getD true
  if words.isEmpty || !blankAfter || !(text.getLast?.map Piece.isBlank).getD false then none
  else some (text.take words.length)

/-- Marks between blanks stand for themselves, unless they are read as marks there. -/
def freeMarks (rules : MarkRules) : Rule := fun done xs => do
  let free (x : Option Piece) : Bool := (x.map Piece.isBlank).getD true
  match xs with
  | x :: rest =>
    if !Run.isMark x || rules.freeMarks && x.isChar '_' || !free done.head? then return .nothing
    let run := xs.takeWhile (· == x)
    if run.length ≤ 3 && free (xs.drop run.length).head? then
      match if rules.freeMarks && run.length = 1 then freeText? rest else none with
      | some text => return .draft (text.length + 2) (.node "em" [] text [])
      | none => return .pieces run.length (run.filterMap Piece.char? |>.map .verbatim)
    return .nothing
  | [] => return .nothing

end LiveMarkdown.Prose.Inline
