import LiveMarkdown.Prose.Fence

/-!
Abbreviations: wherever the short form stands as a word, it is marked with its long form.
-/

namespace LiveMarkdown.Prose.Abbreviation

/-- The character of text that a piece shows. -/
def shown? : Piece → Option Char
  | .char c => some c
  | .verbatim c => some c
  | _ => none

def isWord (x : Option Piece) : Bool := ((x.bind shown?).map Fence.isWordChar).getD false

/-- Whether a word begins or ends between two pieces. -/
def isEdge (a b : Option Piece) : Bool := isWord a != isWord b

/-- The first short form that stands at a place. -/
def find? (forms : List (String × String)) (before : Option Piece) (xs : Passage) :
    Option (String × String) :=
  forms.find? fun (short, _) =>
    (xs.take short.length).map shown? == short.toList.map some && isEdge before xs.head? &&
      isEdge (short.toList.getLast?.map .char) (xs.drop short.length).head?

/-- Marks the short forms in a text. -/
def markText (forms : List (String × String)) : Nat → Option Piece → Passage → Passage
  | 0, _, xs => xs
  | _, _, [] => []
  | fuel + 1, before, x :: xs =>
    match find? forms before (x :: xs) with
    | some (short, long) =>
      let n := max 1 short.length
      .element "abbr" [("title", long)] (Passage.verbatim short) ::
        markText forms fuel (short.toList.getLast?.map .char) ((x :: xs).drop n)
    | none => x :: markText forms fuel (some x) xs

/-- Whether the text of an element stays as it is: code, and addresses that are shown. -/
def isFixed (e : Element) : Bool :=
  let text := Passage.head e.content
  e.name == "code" || e.name == "a" && text.all fun x => x.char?.isNone

/-- Marks the short forms in a passage. The fuel bounds the depth of its elements. -/
def markAll (forms : List (String × String)) : Nat → Bool → Passage → Passage
  | 0, _, xs => xs
  | fuel + 1, fixed, xs =>
    let text (ys : Passage) : Passage := markText forms (ys.length + 1) none ys
    let head := Passage.head xs
    (if fixed then head else text head) ++ (Passage.segments xs).flatMap fun (e, tail) =>
      { e with content := markAll forms fuel (isFixed e) e.content }.toPiece :: text tail

/-- Marks abbreviations, longer short forms before shorter ones. -/
def run (forms : List (String × String)) (depth : Nat) (xs : Passage) : Passage :=
  if forms.isEmpty then xs
  else markAll (forms.mergeSort fun a b => b.1.length ≤ a.1.length) (depth + 1) false xs

end LiveMarkdown.Prose.Abbreviation

/-!
Typographic signs: straight quotes become curved ones, runs of hyphens become dashes, and three points
become an ellipsis. A rule looks at one place of a text, and each rule is used on the whole text
before the next one is.
-/

namespace LiveMarkdown.Prose.Typography

open Abbreviation (shown? isWord)

/-- What a rule makes of a place: the size of what it replaces, and the pieces that replace it. The
pieces before the place come last one first. -/
abbrev Rule := Passage → Passage → Option (Nat × Passage)

/-- Whether a piece shows a character of a class. -/
def shows (p : Char → Bool) (x : Option Piece) : Bool := ((x.bind shown?).map p).getD false

def isSign (c : Char) (x : Option Piece) : Bool := shows (· == c) x

def isPunctuation (c : Char) : Bool :=
  "!\"#$%'()*+,-./:;<=>?@[\\]^_\x60\x7b|\x7d~".toList.contains c

/-- Whether a closing quote may follow the piece. -/
def mayClose (x : Option Piece) : Bool :=
  shows (fun c => !" \t\r\n[\x7b(-".toList.contains c) x

/-- Whether an `s` that ends its word stands at the start of a text. -/
def isFinalS (xs : Passage) : Bool := isSign 's' xs.head? && !isWord (xs.drop 1).head?

/-- A run of a sign of exactly the given size becomes another sign. -/
def run (c : Char) (n : Nat) (sign : String) : Rule := fun done xs =>
  if isSign c done.head? then none
  else if (xs.takeWhile fun x => isSign c (some x)).length = n then some (n, [.raw sign]) else none

/-- A sign becomes another one where a condition on the pieces before it and after it holds. -/
def sign (c : Char) (holds : Passage → Passage → Bool) (made : String) : Rule := fun done xs =>
  match xs with
  | x :: rest => if isSign c (some x) && holds done rest then some (1, [.raw made]) else none
  | [] => none

/-- Two signs in a row become others where a condition holds. -/
def pair (a b : Char) (holds : Passage → Passage → Bool) (made : String) : Rule := fun done xs =>
  match xs with
  | x :: y :: rest =>
    if isSign a (some x) && isSign b (some y) && holds done rest then some (2, [.raw made])
    else none
  | _ => none

/-- The pieces of a text as they are, out of reach of later rules. -/
def settled (xs : Passage) : Passage :=
  xs.map fun x =>
    match shown? x with
    | some c => .escaped c
    | none => x

/-- A quote opens before a word, after a blank or a dash. -/
def opening (c : Char) (made : String) : Rule := fun _ xs =>
  let size := if (xs.take 2).all fun x => isSign '-' (some x) then 2 else 1
  let base := xs.take size
  let mayOpen := size = 2 || shows (fun c => Text.isBlank c || c == '–' || c == '—') base.head?
  let rest := xs.drop size
  if mayOpen && isSign c rest.head? && isWord (rest.drop 1).head? then
    some (size + 1, settled base ++ [.raw made])
  else none

/-- A single quote closes before a blank, or before an `s` that ends its word. -/
def closingBefore (made : String) : Rule := fun _ xs =>
  let rest := xs.drop 1
  if isSign '\x27' xs.head? && (shows Text.isBlank rest.head? || isFinalS rest) then
    some (2, .raw made :: settled (rest.take 1))
  else none

/-- Whether a text begins with a quote before punctuation that ends no word. -/
def startsApart (done rest : Passage) : Bool :=
  done.isEmpty && shows isPunctuation rest.head? && isWord rest.head? == isWord (rest.drop 1).head?

/-- Whether two digits and an `s` follow, as in the name of a decade. -/
def isDecade (done rest : Passage) : Bool :=
  !isWord done.head? && (rest.take 2).length = 2 &&
    ((rest.take 2).all fun x => shows Text.isDecimal (some x)) && isSign 's' (rest.drop 2).head?

/-- The rules in their order. -/
def rules : List Rule :=
  let single := '\x27'
  let double := '"'
  let beforeWord (_ rest : Passage) : Bool := isWord rest.head?
  let closes (done _ : Passage) : Bool := mayClose done.head?
  let closesSingle (done rest : Passage) : Bool :=
    mayClose done.head? && !isFinalS rest &&
      !shows (fun c => Text.isBlank c || Text.isDecimal c) rest.head?
  let always (_ _ : Passage) : Bool := true
  [run '-' 3 "&mdash;", run '-' 2 "&ndash;",
    sign single startsApart "&rsquo;", sign double startsApart "&rdquo;",
    pair double single beforeWord "&ldquo;&lsquo;", pair single double beforeWord "&lsquo;&ldquo;",
    pair single double closes "&rsquo;&rdquo;", pair double single closes "&rdquo;&rsquo;",
    sign single isDecade "&rsquo;", opening single "&lsquo;",
    sign single closesSingle "&rsquo;", closingBefore "&rsquo;", sign single always "&lsquo;",
    opening double "&ldquo;", sign double (fun _ rest => shows Text.isBlank rest.head?) "&rdquo;",
    sign double closes "&rdquo;", sign double always "&ldquo;", run '.' 3 "&hellip;"]

/-- Uses a rule at each place of a text; the pieces before the place come last one first. -/
def apply (r : Rule) : Nat → Passage → Passage → Passage
  | 0, done, xs => done.reverse ++ xs
  | _, done, [] => done.reverse
  | fuel + 1, done, x :: xs =>
    match r done (x :: xs) with
    | some (n, made) => apply r fuel (made.reverse ++ done) ((x :: xs).drop (max 1 n))
    | none => apply r fuel (x :: done) xs

/-- Uses all rules on a text. -/
def applyAll (xs : Passage) : Passage :=
  rules.foldl (fun xs r => apply r (xs.length + 1) [] xs) xs

/-- Uses the rules on the texts of a passage. The fuel bounds the depth of its elements. -/
def runIn : Nat → Bool → Passage → Passage
  | 0, _, xs => xs
  | fuel + 1, fixed, xs =>
    let head := Passage.head xs
    (if fixed then head else applyAll head) ++ (Passage.segments xs).flatMap fun (e, tail) =>
      { e with content := runIn fuel (Abbreviation.isFixed e) e.content }.toPiece :: applyAll tail

/-- Sets the signs in a document. -/
def set (depth : Nat) (xs : Passage) : Passage := runIn (depth + 1) true xs

end LiveMarkdown.Prose.Typography
