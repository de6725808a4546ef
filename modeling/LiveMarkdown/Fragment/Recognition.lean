import LiveMarkdown.Document.Forest

/-!
Which nodes of a document are fragments of code. A block is a `pre` element that has a marker class,
or whose first `code` child has one; inline code is a `code` element with a marker class outside of
every `pre` element.
-/

namespace LiveMarkdown

open Document (NodeId Forest Tag)

/-- A node whose text is code, with its attributes other than its classes. -/
structure Fragment where
  node : NodeId
  level : Level
  text : String
  attributes : List (String × String)
  position : Source.Position := .unknown
deriving DecidableEq, Repr

namespace Fragment

def attribute? (f : Fragment) (name : String) : Option String :=
  (f.attributes.find? fun a => a.1 == name).map (·.2)

/-- Code runs unless the attribute `exec` is exactly `false`. -/
def executes (f : Fragment) : Bool := f.attribute? "exec" != some "false"

/-- Code that does not run stays unless the attribute `include` is exactly `false`. -/
def included (f : Fragment) : Bool := f.attribute? "include" != some "false"

/-- The classes of an element. -/
def classesOf (t : Tag) : List String :=
  match t.attr? "class" with
  | some v => v.words
  | none => []

def hasMarker (markers : List String) (t : Tag) : Bool := (classesOf t).any markers.contains

/-- The attributes of an element as texts, without its classes. -/
def textAttributes (t : Tag) : List (String × String) :=
  (t.attrs.filter fun a => a.1 != "class").map fun a => (a.1, a.2.joined)

/-- Sets an attribute; a new one comes last. -/
def setAttribute (as : List (String × String)) (name value : String) : List (String × String) :=
  if as.any fun a => a.1 == name then as.map fun a => if a.1 == name then (name, value) else a
  else as ++ [(name, value)]

/-- Attributes with others, which win. -/
def mergeAttributes (as bs : List (String × String)) : List (String × String) :=
  bs.foldl (fun as b => setAttribute as b.1 b.2) as

/-- The block that a `pre` element is. -/
def ofPre? (f : Forest) (markers : List String) (n : NodeId) (t : Tag) : Option Fragment :=
  match f.childNamed? n "code" with
  | some c =>
    match f.tag? c with
    | some u =>
      if hasMarker markers t || hasMarker markers u then
        some
          { node := n
            level := .block
            text := f.textOf c
            attributes := mergeAttributes (textAttributes t) (textAttributes u) }
      else none
    | none => none
  | none =>
    if hasMarker markers t then
      some { node := n, level := .block, text := f.textOf n, attributes := textAttributes t }
    else none

/-- The inline code that a `code` element is. -/
def ofCode? (f : Forest) (markers : List String) (n : NodeId) (t : Tag) : Option Fragment :=
  if hasMarker markers t && !f.isBelow n "pre" then
    some { node := n, level := .inline, text := f.textOf n, attributes := textAttributes t }
  else none

/-- The fragment that a node is, if it is one. -/
def ofNode? (f : Forest) (markers : List String) (n : NodeId) : Option Fragment :=
  match f.tag? n with
  | none => none
  | some t =>
    if t.name = "pre" then ofPre? f markers n t
    else if t.name = "code" then ofCode? f markers n t
    else none

end Fragment

end LiveMarkdown
