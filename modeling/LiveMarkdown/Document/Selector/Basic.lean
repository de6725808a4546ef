import LiveMarkdown.Document.Forest
import LiveMarkdown.Text.Quoted

/-!
Selectors: what they ask of an element and of the elements around it, and the faults of a text that is
read as one.
-/

namespace LiveMarkdown.Document

/-- What is asked of the value of an attribute. -/
inductive ValueTest where
  | present
  | beginsWith (s : List Char)
  | endsWith (s : List Char)
  | holds (s : List Char)
  | hasWord (s : List Char)
  | equals (s : List Char)
  /-- The value, or the value up to a dash. -/
  | dashed (s : List Char)
  | never
deriving DecidableEq, Repr

/-- How an element is related to the one that a selector is about. -/
inductive Relation where
  | ancestor
  | parent
  | sibling
  | neighbour
  | descendant
  | child
  | laterSibling
  | nextSibling
deriving DecidableEq, Repr

/-- Places among siblings: the `step`-th ones from an offset on, or one place. -/
structure Places where
  step : Int
  offset : Int
  repeats : Bool
  fromEnd : Bool
  sameName : Bool
deriving DecidableEq, Repr

/-- What an element is, without arguments. -/
inductive Role where
  | root
  | scope
  | empty
  | defined
  | placeholderShown
  | firstSubmit
  | uncheckedGroup
  | inRange
  | outOfRange
  | leftToRight
  | rightToLeft
  | never
deriving DecidableEq, Repr

mutual

/-- One thing that is asked of an element. -/
inductive Condition where
  /-- A name, with a namespace if one is written. -/
  | named (space : Option String) (name : String)
  | hasId (s : String)
  | hasClass (s : String)
  | attribute (name : String) (caseless : Bool) (test : ValueTest)
  | role (r : Role)
  /-- A place among the siblings that one of the selectors takes. -/
  | place (p : Places) (among : List Selector)
  | oneOf (selectors : List Selector)
  | noneOf (selectors : List Selector)
  /-- One of several texts, in the element or among its own pieces of text. -/
  | text (own : Bool) (options : List String)
  | language (ranges : List String)

/-- Conditions on an element, and perhaps what another element must be that is related to it. -/
inductive Selector where
  | alone (conditions : List Condition)
  | related (conditions : List Condition) (r : Relation) (other : Selector)

end

/-- Why a text is no selector. -/
inductive SelectorFault where
  | malformed (message : String) (place : Nat)
  | unsupported (message : String)
deriving DecidableEq, Repr

namespace SelectorFault

/-- A text cut at the ends of its lines, with the place where each line begins and where it ends. -/
def linesOf (start at_ : Nat) (line : List Char) : List Char → List (Nat × List Char × Nat)
  | '\r' :: '\n' :: cs =>
    (start, line.reverse, at_ + 2) :: linesOf (at_ + 2) (at_ + 2) [] cs
  | c :: cs =>
    if c == '\n' || c == '\r' then
      (start, line.reverse, at_ + 1) :: linesOf (at_ + 1) (at_ + 1) [] cs
    else linesOf start (at_ + 1) (c :: line) cs
  | [] => [(start, line.reverse, at_)]

/-- The lines of a text with a mark below a place, and the number of the line with the mark. -/
def context (pattern : List Char) (place : Nat) : String × Nat :=
  match linesOf 0 0 [] pattern with
  | [(_, line, _)] => (String.ofList line ++ "\n" ++ String.ofList (List.replicate place ' ') ++ "^", 1)
  | lines =>
    let last := lines.length - 1
    let shown := lines.zipIdx.map fun ((start, line, stop), i) =>
      let here := start ≤ place && (place < stop || i = last && place = stop)
      if here && i ≠ last then
        let shift := if start + line.length < place then 2 else 3
        ("--> " ++ String.ofList line ++ "\n" ++
          String.ofList (List.replicate (place - start + 1 + shift) ' ') ++ "^", some (i + 1))
      else ("    " ++ String.ofList line, none)
    ("\n".intercalate (shown.map (·.1)), (shown.findSome? (·.2)).getD 1)

/-- The message of a fault in a text. -/
def message (pattern : List Char) : SelectorFault → String
  | .malformed text place =>
    let (shown, line) := context pattern place
    s!"{text}\n  line {line}:\n{shown}"
  | .unsupported text => text

end SelectorFault

end LiveMarkdown.Document
