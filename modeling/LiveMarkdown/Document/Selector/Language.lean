import LiveMarkdown.Document.Forest
import LiveMarkdown.Document.Writer
import LiveMarkdown.Text.Alphabet
import LiveMarkdown.Text.Case

/-!
The language and the direction of the text of an element. Both are given by attributes of the element
or of one above it; the direction may also be found in the text, and the language in the head of the
document.
-/

namespace LiveMarkdown.Document

namespace Forest

def asciiLower (s : String) : String := s.map Char.toLower

/-- An attribute by its name, whose case does not matter. -/
def attrOf? (f : Forest) (n : NodeId) (name : String) : Option AttrValue :=
  (f.tag? n).bind fun t => (t.attrs.find? fun a => asciiLower a.1 == name).map (·.2)

/-- An attribute as one text; an empty one if there is none. -/
def attrText (f : Forest) (n : NodeId) (name : String) : String :=
  ((f.attrOf? n name).map (·.joined)).getD ""

/-- The name of an element in lower case. A whole document has a name too. -/
def lowerName (f : Forest) (n : NodeId) : String :=
  match f.content? n with
  | some (.tag t) => asciiLower t.name
  | some .root => "[document]"
  | _ => ""

def tagChildren (f : Forest) (n : NodeId) : List NodeId := (f.children n).filter f.isTag

end Forest

namespace Language

/-- Drops the marks for any part of a name that are not at its beginning; one at the end leaves an
empty part. -/
def dropAny : List String → List String
  | [] => []
  | p :: ps =>
    if p == "*" then (if ps.all (· == "*") then [""] else dropAny ps) else p :: dropAny ps

/-- Whether the parts of a range occur in order among the parts of a name. No part of one letter may
be passed over. -/
def partsFit : List String → List String → Bool
  | [], _ => true
  | _ :: _, [] => false
  | r :: rs, s :: ss =>
    if r == "" then false
    else if s == r then partsFit rs ss
    else if s.length = 1 then false
    else partsFit (r :: rs) ss
termination_by _ ss => ss.length

/-- Whether a range of languages takes a language in. -/
def fits (range name : String) : Bool :=
  let ranges := match (Text.lower range).splitOn "-" with
    | first :: rest => first :: dropAny rest
    | [] => []
  match ranges, (Text.lower name).splitOn "-" with
  | r :: rs, s :: ss =>
    if rs.isEmpty && ss.isEmpty && r == "" && s == "" then true
    else if (r != "*" && r != s) || (r == "*" && ss.isEmpty && s == "") then false
    else partsFit rs ss
  | _, _ => false

/-- The language that the head of a document names. -/
def ofHead (f : Forest) (top : NodeId) : Option String := do
  let find (n : NodeId) (name : String) : Option NodeId :=
    (f.tagChildren n).find? fun c => f.lowerName c == name
  let head ← find (← find top "html") "head"
  (f.tagChildren head).findSome? fun c =>
    let content := f.attrText c "content"
    if f.lowerName c == "meta" &&
        Forest.asciiLower (f.attrText c "http-equiv") == "content-language" && content != "" then
      some content
    else none

/-- The language of an element. -/
def ofNode (f : Forest) (n : NodeId) : Option String :=
  match (n :: f.ancestors n).findSome? fun a => f.attrOf? a "lang" with
  | some v => some v.joined
  | none => ofHead f (f.topOf n)

end Language

namespace Direction

/-- Whether a text is read from the left, by its first letter. -/
def ofText? (cs : List Char) : Option Bool :=
  (cs.find? Text.isLetter).map fun c =>
    let n := c.toNat
    !(0x590 ≤ n && n ≤ 0x8FF || 0xFB1D ≤ n && n ≤ 0xFDFF || 0xFE70 ≤ n && n ≤ 0xFEFF ||
      0x10800 ≤ n && n ≤ 0x10FFF || 0x1E800 ≤ n && n ≤ 0x1EFFF)

/-- The direction that an attribute gives: from the left or not, or found in the text. -/
def given? (f : Forest) (n : NodeId) : Option (Option Bool) :=
  match Forest.asciiLower (f.attrText n "dir") with
  | "ltr" => some (some true)
  | "rtl" => some (some false)
  | "auto" => some none
  | _ => none

/-- Texts that are prose or code, and no comments or declarations. -/
def isContent (kind : TextKind) : Bool :=
  !([.comment, .cdata, .instruction, .declaration, .doctype].contains kind)

/-- The direction of the text inside a node. The fuel bounds its depth. -/
def inside? (f : Forest) : Nat → NodeId → Option Bool
  | 0, _ => none
  | fuel + 1, n =>
    (f.children n).findSome? fun c =>
      match f.content? c with
      | some (.text kind s) => if isContent kind then ofText? s.toList else none
      | some (.tag _) =>
        if ["bdi", "script", "style", "textarea", "iframe"].contains (f.lowerName c) ||
            (given? f c).isSome then none
        else inside? f fuel c
      | _ => none

/-- Whether the text of an element is read from the left: by the nearest element that tells it. The
element at the top is read from the left; a list without it tells nothing. -/
def fromLeft? (f : Forest) (root : Option NodeId) : List NodeId → Option Bool
  | [] => none
  | n :: above =>
    let isRoot := root == some n
    let name := f.lowerName n
    let type := if name == "input" then Forest.asciiLower (f.attrText n "type") else ""
    let ofContent (found : Option Bool) : Option Bool :=
      match found with
      | some d => some d
      | none => if isRoot then some true else fromLeft? f root above
    match given? f n with
    | some (some d) => some d
    | given =>
      if isRoot && given.isNone then some true
      else if type == "tel" && given.isNone then some true
      else if given.isSome && (name == "textarea" ||
          ["text", "search", "tel", "url", "email"].contains type) then
        let value := if name == "textarea" then
            String.join ((f.children n).filterMap fun c =>
              match f.content? c with
              | some (.text kind s) => if isContent kind then some s else none
              | _ => none)
          else f.attrText n "value"
        if value == "" then ofContent none
        else some ((ofText? value.toList).getD true)
      else if given.isSome || name == "bdi" then ofContent (inside? f f.size n)
      else fromLeft? f root above

end Direction

end LiveMarkdown.Document
