import LiveMarkdown.Prose.AttributeList
import LiveMarkdown.Prose.Block.Document
import LiveMarkdown.Prose.Inline.Passes

/-!
The list of footnotes at the end of a document, or where a mark asks for it. The footnotes stand in
the order of their first references, and each one leads back to its references.
-/

namespace LiveMarkdown.Prose.Footnote

def mark : String := "///Footnotes Go Here///"

/-- The link from a footnote back to its n-th reference. -/
def backlink (name : String) (number n : Nat) : Piece :=
  .element "a"
    [("href", "#" ++ Inline.referenceId name n), ("class", "footnote-backref"),
      ("title", s!"Jump back to footnote {number} in the text")]
    [.raw "&#8617;"]

/-- Puts links back to the text at the end of a footnote. -/
def close (e : Element) (links : Passage) : Element :=
  match Passage.lastChild? e.content with
  | some p =>
    if p.name == "p" then
      { e with content := Passage.mapLast (fun p => p.add (.raw "&#160;" :: links)) e.content }
    else e.push { name := "p", content := links }
  | none => e

/-- The footnotes as blocks, in the order of their definitions. A definition may hold definitions
of its own. -/
def items (rs : List Block.Rule) : List (String × Passage) → StateM Block.Notes (List Element)
  | [] => return []
  | (name, text) :: rest => do
    let whole ← Block.parseText rs { name := "div" } text
    let li : Element :=
      { name := "li", attributes := [("id", Inline.footnoteId name)],
        content := (Passage.children whole.content).map Element.toPiece }
    return li :: (← items rs rest)

def division (lis : List Element) : Element :=
  { name := "div", attributes := [("class", "footnote")]
    content :=
      [.element "hr" [] [], .element "ol" [] (lis.map Element.toPiece)] }

/-- Puts a division where the mark stands: in place of the child whose text holds it, or behind the
child that the mark follows. None if there is no mark. The fuel bounds the depth. -/
def place? (division : Element) : Nat → Passage → Option Passage
  | 0, _ => none
  | fuel + 1, xs =>
    let rec go : List (Element × Passage) → Option (List (Element × Passage))
      | [] => none
      | (e, tail) :: rest =>
        if (Passage.find? mark (Passage.head e.content)).isSome then
          some ((division, []) :: rest)
        else if (Passage.find? mark tail).isSome then some ((e, []) :: (division, []) :: rest)
        else
          match place? division fuel e.content with
          | some content => some (({ e with content }, tail) :: rest)
          | none => (go rest).map ((e, tail) :: ·)
    (go (Passage.segments xs)).map (Passage.ofSegments (Passage.head xs))

/-- Adds the footnotes to the content of a document. -/
def add (rs : List Block.Rule) (xs : Passage) : StateM Block.Notes Passage := do
  let footnotes := (← get).footnotes
  if footnotes.isEmpty then return xs
  let lis ← items rs footnotes
  let lis := (lis.zip footnotes).zipIdx.map fun ((li, (name, _)), i) =>
    close li [backlink name (i + 1) 1]
  let division := division lis
  return (place? division (Passage.depth xs + 1) xs).getD (xs ++ [division.toPiece])

/-- The name of the footnote that an item of the list holds. -/
def nameOf (li : Element) : String :=
  ":".intercalate ((((li.get? "id").getD "").splitOn ":").drop 1)

mutual

/-- Gives the first link back its number. -/
def retitle (number : Nat) : List Piece → Passage × Bool
  | [] => ([], false)
  | x :: xs =>
    let (x, found) := retitlePiece number x
    if found then (x :: xs, true)
    else
      let (xs, found) := retitle number xs
      (x :: xs, found)

def retitlePiece (number : Nat) : Piece → Piece × Bool
  | .element name attributes content =>
    if name == "a" && attributes.get? "class" == some "footnote-backref" then
      let e : Element := { name, attributes, content }
      ((e.set "title" s!"Jump back to footnote {number} in the text").toPiece, true)
    else
      let (content, found) := retitle number content
      (.element name attributes content, found)
  | x => (x, false)

end

/-- Orders the items of the list by their first references. -/
def reorder (names order : List String) (lis : List Element) : List Element :=
  if names == order then lis
  else
    let place (li : Element) : Nat :=
      if order.contains (nameOf li) then order.idxOf (nameOf li) else names.length
    (lis.mergeSort fun a b => place a ≤ place b).zipIdx.map fun (li, i) =>
      { li with content := (retitle (i + 1) li.content).1 }

/-- The title of the first link back in a passage. -/
def titleOf (names order : List String) (name : String) : Nat :=
  if names == order then names.idxOf name + 1
  else if order.contains name then order.idxOf name + 1
  else names.length

/-- Adds links back to the further references of a footnote. -/
def addLinks (names order : List String) (counts : List (String × Nat)) (li : Element) : Element :=
  let name := nameOf li
  let n := (counts.lookup name).getD 0
  let links := (List.range (n - 1)).map fun i =>
    backlink name (titleOf names order name) (i + 2)
  if links.isEmpty then li
  else { li with content := Passage.mapLast (fun p => p.add links) li.content }

def isList (e : Element) : Bool := e.name == "ol"

/-- Orders the footnotes in a document and completes their links. The fuel bounds the depth. -/
def arrange (names : List String) (m : Inline.Marks) : Nat → Passage → Passage
  | 0, xs => xs
  | fuel + 1, xs =>
    Passage.ofSegments (Passage.head xs) ((Passage.segments xs).map fun (e, tail) =>
      if e.name == "div" && e.get? "class" == some "footnote" then
        let content := e.content.map fun x =>
          match x.element? with
          | some ol =>
            if isList ol then
              let lis := reorder names m.order (Passage.children ol.content)
              let lis := lis.map (addLinks names m.order m.counts)
              { ol with content := lis.map Element.toPiece }.toPiece
            else x
          | none => x
        ({ e with content }, tail)
      else ({ e with content := arrange names m fuel e.content }, tail))

end LiveMarkdown.Prose.Footnote
