import LiveMarkdown.Calendar
import LiveMarkdown.Document.Forest
import LiveMarkdown.Document.Selector.Language
import LiveMarkdown.Document.Selector.Parser
import LiveMarkdown.Text.Search

/-!
What selectors select. A whole document stands above its elements and can be reached by relations, but
only elements are selected.
-/

namespace LiveMarkdown.Document

/-!
### Bounds

Values of input elements that have an order: numbers, days, months, weeks, times of day, and days with
a time. A value may lie outside of the bounds that the element gives.
-/

namespace Bounds

/-- The number of decimal digits. -/
def decimal (cs : List Char) : Nat := cs.foldl (fun n c => n * 10 + (c.toNat - 48)) 0

/-- The digits at the beginning of a text, if there are enough of them. -/
def digits? (least : Nat) (most : Option Nat) (cs : List Char) : Option (Nat × List Char) :=
  let ds := cs.takeWhile (·.isDigit)
  let ds := match most with
    | some k => ds.take k
    | none => ds
  if ds.length < least then none else some (decimal ds, cs.drop ds.length)

def two? (cs : List Char) : Option (Nat × List Char) := digits? 2 (some 2) cs

/-- What follows a character. -/
def after? (c : Char) : List Char → Option (List Char)
  | d :: rest => if d == c then some rest else none
  | [] => none

/-- The digits after the point of a fraction are counted up to this many. -/
def places : Nat := 30

/-- A decimal number, scaled so that it is whole. -/
def number? (cs : List Char) : Option Int := do
  let (sign, body) : Int × List Char := match cs with
    | '-' :: rest => (-1, rest)
    | cs => (1, cs)
  let front := body.takeWhile (·.isDigit)
  let back ← match body.drop front.length with
    | [] => if front.isEmpty then none else some []
    | '.' :: ds => if ds.isEmpty || !ds.all (·.isDigit) then none else some ds
    | _ => none
  let back := back.take places
  return sign * (decimal (front ++ back ++ List.replicate (places - back.length) '0') : Nat)

def month? (cs : List Char) : Option (List Int × List Char) := do
  let (y, rest) ← digits? 4 none cs
  let (m, rest) ← two? (← after? '-' rest)
  if y = 0 || m = 0 || 12 < m then none else some ([(y : Int), (m : Int)], rest)

def date? (cs : List Char) : Option (List Int × List Char) := do
  let (ym, rest) ← month? cs
  let (d, rest) ← two? (← after? '-' rest)
  match ym with
  | [y, m] =>
    if d = 0 || Calendar.daysInMonth y.toNat m.toNat < d then none else some ([y, m, (d : Int)], rest)
  | _ => none

/-- The number of the last week that begins in a year. -/
def lastWeek (year : Nat) : Nat :=
  (Calendar.dayOfYear year 12 31 + 9 - Calendar.weekday year 12 31) / 7

def week? (cs : List Char) : Option (List Int × List Char) := do
  let (y, rest) ← digits? 4 none cs
  let (w, rest) ← two? (← after? 'W' (← after? '-' rest))
  if y = 0 || w = 0 || lastWeek y < w then none else some ([(y : Int), (w : Int)], rest)

def time? (cs : List Char) : Option (List Int × List Char) := do
  let (h, rest) ← two? cs
  let (m, rest) ← two? (← after? ':' rest)
  if 23 < h || 59 < m then none else some ([(h : Int), (m : Int)], rest)

/-- The value of a text for an element of a type, as numbers that are compared one after the other. -/
def value? (type text : String) : Option (List Int) :=
  let whole (r : Option (List Int × List Char)) : Option (List Int) :=
    match r with
    | some (v, []) => some v
    | _ => none
  let cs := text.toList
  match type with
  | "date" => whole (date? cs)
  | "month" => whole (month? cs)
  | "week" => whole (week? cs)
  | "time" => whole (time? cs)
  | "datetime-local" => whole do
    let (d, rest) ← date? cs
    let (t, rest) ← time? (← after? 'T' rest)
    return (d ++ t, rest)
  | "number" | "range" => (number? cs).map ([·])
  | _ => none

def before : List Int → List Int → Bool
  | [], [] => false
  | [], _ :: _ => true
  | _ :: _, [] => false
  | a :: as, b :: bs => a < b || a == b && before as bs

/-- Whether a value lies outside of the bounds; nothing if there are none. A time of day may lie
outside of bounds that go over midnight. -/
def isOutside? (type : String) (value least most : Option String) : Option Bool :=
  let read (s : Option String) : Option (List Int) := s.bind (value? type)
  match read least, read most with
  | none, none => none
  | least, most =>
    match read value with
    | none => some false
    | some v =>
      let below := least.any (before v)
      let above := most.any fun m => before m v
      match type == "time", least, most with
      | true, some l, some m => some (if before m l then below && above else below || above)
      | _, _, _ => some (below || above)

end Bounds

/-! ### Selection -/

/-- Where a selection takes place: a forest, the element at the top, and the element that the
selection starts from. -/
structure Scope where
  forest : Forest
  root : Option NodeId
  start : Option NodeId

namespace Scope

/-- The scope of a node. The element at the top is the first one of a whole document. -/
def ofNode (f : Forest) (n : NodeId) : Scope :=
  let top := f.topOf n
  let root := if f.isRoot top then (f.tagChildren top).head? else some top
  { forest := f, root, start := if n = top then root else some n }

end Scope

namespace ValueTest

/-- Whether a text is another one, perhaps with a line feed at its end. -/
def isOrLine (v s : List Char) : Bool := v == s || v == s ++ ['\n']

/-- Whether a value passes a test. -/
def accepts (v : List Char) : ValueTest → Bool
  | .present => true
  | .beginsWith s => s.isPrefixOf v
  | .endsWith s => s.isSuffixOf v || (s ++ ['\n']).isSuffixOf v
  | .holds s => (Text.findFrom s v 0).isSome
  | .hasWord s => (Text.pieces SelectorText.isSpace v).contains s
  | .equals s => isOrLine v s
  | .dashed s => isOrLine v s || (s ++ ['-']).isPrefixOf v
  | .never => false

def map (g : List Char → List Char) : ValueTest → ValueTest
  | .beginsWith s => .beginsWith (g s)
  | .endsWith s => .endsWith (g s)
  | .holds s => .holds (g s)
  | .hasWord s => .hasWord (g s)
  | .equals s => .equals (g s)
  | .dashed s => .dashed (g s)
  | t => t

end ValueTest

/-- Whether a place, counted from one, is among those that are asked for. -/
def Places.has (p : Places) (i : Nat) : Bool :=
  if !p.repeats then p.step = i
  else
    let d := (i : Int) - p.offset
    if p.step = 0 then d = 0 else d % p.step = 0 && 0 ≤ d / p.step

namespace Scope

/-- The elements before a node, the nearest first. -/
def elementsBefore (e : Scope) (n : NodeId) : List NodeId :=
  (e.forest.previousSiblings n).filter e.forest.isTag

/-- The elements after a node. -/
def elementsAfter (e : Scope) (n : NodeId) : List NodeId :=
  (e.forest.nextSiblings n).filter e.forest.isTag

/-- The texts among the children of a node. -/
def ownTexts (e : Scope) (n : NodeId) : List String :=
  (e.forest.children n).filterMap fun c =>
    match e.forest.content? c with
    | some (.text kind s) => if Direction.isContent kind then some s else none
    | _ => none

/-- All text below a node. -/
def allText (e : Scope) (n : NodeId) : String :=
  String.join ((e.forest.descendants n).filterMap fun c =>
    match e.forest.content? c with
    | some (.text kind s) => if Direction.isContent kind then some s else none
    | _ => none)

/-- Whether a sibling keeps an element from being at the top: an element, data, or text. -/
def isSubstantial (e : Scope) (n : NodeId) : Bool :=
  match e.forest.content? n with
  | some (.tag _) => true
  | some (.text .cdata _) => true
  | some (.text kind s) => Direction.isContent kind && Text.strip s != ""
  | _ => false

def form? (e : Scope) (n : NodeId) : Option NodeId :=
  (e.forest.ancestors n).find? fun a => e.forest.lowerName a == "form"

/-- The form around an element, or else what is at the top. -/
def group (e : Scope) (n : NodeId) : NodeId := (e.form? n).getD (e.forest.topOf n)

/-- Whether an element is the first one in its form that submits it. -/
def isFirstSubmit (e : Scope) (n : NodeId) : Bool :=
  let f := e.forest
  match e.form? n with
  | none => false
  | some form =>
    let inner := ((f.descendants form).filter f.isTag).takeWhile fun c => f.lowerName c != "form"
    inner.find? (fun c => ["input", "button"].contains (f.lowerName c) &&
      Forest.asciiLower (f.attrText c "type") == "submit") == some n

/-- Whether no other button of the group of an element is pressed. -/
def isUncheckedGroup (e : Scope) (n : NodeId) : Bool :=
  let f := e.forest
  let name := f.attrOf? n "name"
  let group := e.group n
  !(f.descendants group).any fun c =>
    c ≠ n && f.lowerName c == "input" && Forest.asciiLower (f.attrText c "type") == "radio" &&
      f.attrOf? c "name" == name && (f.attrOf? c "checked").isSome && e.group c == group

/-- Whether the value of an input element lies outside of its bounds. -/
def outside? (e : Scope) (n : NodeId) : Option Bool :=
  let text (name : String) : Option String := (e.forest.attrOf? n name).map (·.joined)
  Bounds.isOutside? (Forest.asciiLower (e.forest.attrText n "type")) (text "value") (text "min")
    (text "max")

/-- Whether the text of an element is read from the left. -/
def fromLeft? (e : Scope) (n : NodeId) : Option Bool :=
  Direction.fromLeft? e.forest e.root (n :: e.forest.ancestors n)

def hasRole (e : Scope) (n : NodeId) : Role → Bool
  | .root =>
    e.root == some n &&
      !(e.forest.previousSiblings n ++ e.forest.nextSiblings n).any e.isSubstantial
  | .scope => e.start == some n
  | .empty =>
    (e.forest.tagChildren n).isEmpty &&
      (e.ownTexts n).all fun s => s.toList.all SelectorText.isSpace
  | .defined =>
    let name := e.forest.lowerName n
    !name.contains '-' || name.contains ':'
  | .placeholderShown => e.allText n == "" || e.allText n == "\n"
  | .firstSubmit => e.isFirstSubmit n
  | .uncheckedGroup => e.isUncheckedGroup n
  | .inRange => e.outside? n == some false
  | .outOfRange => e.outside? n == some true
  | .leftToRight => e.fromLeft? n == some true
  | .rightToLeft => e.fromLeft? n == some false
  | .never => false

def hasAttribute (e : Scope) (n : NodeId) (name : String) (caseless : Bool) (t : ValueTest) :
    Bool :=
  match e.forest.attrOf? n name with
  | none => false
  | some v =>
    let fold (cs : List Char) : List Char :=
      if caseless then (Text.lower (String.ofList cs)).toList else cs
    (t.map fold).accepts (fold v.joined.toList)

def hasClass (e : Scope) (n : NodeId) (s : String) : Bool :=
  match e.forest.attrOf? n "class" with
  | none => false
  | some (.tokens ws) => ws.contains s
  | some v => (Text.pieces SelectorText.isSpace v.joined.toList).contains s.toList

def hasId (e : Scope) (n : NodeId) (s : String) : Bool :=
  match e.forest.attrOf? n "id" with
  | none => s == ""
  | some (.tokens _) => false
  | some v => v.joined == s

/-- The siblings of an element with itself, among which places are counted. -/
def ranks (e : Scope) (n : NodeId) (p : Places) : List NodeId :=
  let all := match e.forest.parent? n with
    | some parent => e.forest.tagChildren parent
    | none => [n]
  let all := if p.sameName then all.filter fun c => e.forest.lowerName c == e.forest.lowerName n
    else all
  if p.fromEnd then all.reverse else all

mutual

/-- Whether an element, or a whole document, is what a condition asks for. -/
def holds (e : Scope) (n : NodeId) : Condition → Bool
  | .named space name =>
    (space == none || space == some "*") && (name == "*" || e.forest.lowerName n == name)
  | .hasId s => e.hasId n s
  | .hasClass s => e.hasClass n s
  | .attribute name caseless t => e.hasAttribute n name caseless t
  | .role r => e.hasRole n r
  | .place p [] => p.has ((e.ranks n p).idxOf n + 1)
  | .place p (s :: ss) =>
    let taken := (e.ranks n p).filter fun c => matches_ e c s || anyMatches e c ss
    taken.contains n && p.has (taken.idxOf n + 1)
  | .oneOf ss => anyMatches e n ss
  | .noneOf ss => !anyMatches e n ss
  | .text own options =>
    let texts := if own then e.ownTexts n else [e.allText n]
    options.any fun s => texts.any (Text.occursIn s)
  | .language ranges =>
    match Language.ofNode e.forest n with
    | some name => ranges.any fun r => Language.fits r name
    | none => false

def allHold (e : Scope) (n : NodeId) : List Condition → Bool
  | [] => true
  | c :: cs => holds e n c && allHold e n cs

/-- Whether a selector takes an element. -/
def matches_ (e : Scope) (n : NodeId) : Selector → Bool
  | .alone cs => allHold e n cs
  | .related cs r other =>
    allHold e n cs &&
      match r with
      | .ancestor => (e.forest.ancestors n).any fun a => matches_ e a other
      | .parent => (e.forest.parent? n).any fun a => matches_ e a other
      | .sibling => (e.elementsBefore n).any fun a => matches_ e a other
      | .neighbour => (e.elementsBefore n).head?.any fun a => matches_ e a other
      | .descendant =>
        ((e.forest.descendants n).filter e.forest.isTag).any fun a => matches_ e a other
      | .child => (e.forest.tagChildren n).any fun a => matches_ e a other
      | .laterSibling => (e.elementsAfter n).any fun a => matches_ e a other
      | .nextSibling => (e.elementsAfter n).head?.any fun a => matches_ e a other

def anyMatches (e : Scope) (n : NodeId) : List Selector → Bool
  | [] => false
  | s :: ss => matches_ e n s || anyMatches e n ss

end

end Scope

namespace Forest

/-- The elements below a node that selectors take, in document order. -/
def select (f : Forest) (n : NodeId) (ss : List Selector) : List NodeId :=
  let e := Scope.ofNode f n
  (f.descendants n).filter fun c => f.isTag c && e.anyMatches c ss

/-- Whether selectors take an element, and the nearest element from it upwards that they take. -/
def closest? (f : Forest) (n : NodeId) (ss : List Selector) : Option NodeId :=
  let e := Scope.ofNode f n
  (n :: f.ancestors n).find? fun c => f.isTag c && e.anyMatches c ss

def isSelected (f : Forest) (n : NodeId) (ss : List Selector) : Bool :=
  f.isTag n && (Scope.ofNode f n).anyMatches n ss

/-- The elements among the children of a node that selectors take. -/
def selectChildren (f : Forest) (n : NodeId) (ss : List Selector) : List NodeId :=
  let e := Scope.ofNode f n
  (f.tagChildren n).filter fun c => e.anyMatches c ss

end Forest

end LiveMarkdown.Document
