import LiveMarkdown.Prose.Inline.Atom
import LiveMarkdown.Prose.Inline.Emphasis
import LiveMarkdown.Prose.Inline.Link

/-!
Running text under all rules. Each rule is used wherever it applies before the next rule is tried,
and the text of a new element is read by the rules after the one that made it. Text inside inline
elements is then read once more by all rules.
-/

namespace LiveMarkdown.Prose.Inline

/-- The rules in their order. -/
def rules (fs : List Feature) : List Rule :=
  let on (f : Feature) (r : Rule) : List Rule := if fs.contains f then [r] else []
  let plain := fs.contains .plainEmphasis
  let marks : MarkRules := { wholeWords := !plain, freeMarks := plain }
  [code, escape] ++ on .footnotes footnoteReference ++
    [indirect false false, direct false, direct true, indirect true false, indirect false true,
      indirect true true, webAddress, mailAddress, spacedBreak, markup, entity] ++
    on .pageLinks pageLink ++
    [freeMarks marks, emphasis marks] ++ on .lineBreaks lineBreak

/-- What a rule makes of a passage: the text before, and the replacement with the text after it. -/
inductive Match where
  | none
  | pieces (before xs after : Passage)
  | draft (before : Passage) (d : Draft) (after : Passage)

/-- The first place where a rule replaces something. The pieces before the place come last one
first. -/
def search (r : Rule) : Nat → Passage → Passage → Reading Match
  | 0, _, _ => return .none
  | _, _, [] => return .none
  | fuel + 1, done, x :: xs => do
    let onward (n : Nat) : Reading Match :=
      search r fuel (((x :: xs).take n).reverse ++ done) ((x :: xs).drop n)
    match ← r done (x :: xs) with
    | .nothing => onward 1
    | .skip n => onward (max 1 n)
    | .stays n => onward (max 1 n)
    | .pieces n ys => return .pieces done.reverse ys ((x :: xs).drop (max 1 n))
    | .draft n d => return .draft done.reverse d ((x :: xs).drop (max 1 n))

/-- Reads a passage with the rules. The fuel bounds the rules that are left, the places where they
apply and the depth of the elements that they make. -/
def readWith : Nat → List Rule → Passage → Reading Passage
  | 0, _, xs => return xs
  | _, [], xs => return xs
  | fuel + 1, r :: rs, xs => do
    match ← search r (xs.length + 1) [] xs with
    | .none => readWith fuel rs xs
    | .pieces before ys after =>
      let mark := ys.map fun y =>
        match y with
        | .char c => .verbatim c
        | y => y
      readWith fuel (r :: rs) (before ++ mark ++ after)
    | .draft before (.node name attributes text children) after =>
      let text ← readWith fuel rs text
      let children ← children.mapM fun (d, tail) => do
        let .node name attributes text inner := d
        let text ← readWith fuel rs text
        let tail ← readWith fuel (r :: rs) tail
        return (Piece.element name attributes (text ++ whole inner) :: tail)
      let made := Piece.element name attributes (text ++ children.flatten)
      readWith fuel (r :: rs) (before ++ made :: after)
where
  /-- Elements inside a new element's children, as they are. -/
  whole : List (Draft × Passage) → Passage
    | [] => []
    | (.node name attributes text children, tail) :: rest =>
      .element name attributes (text ++ whole children) :: tail ++ whole rest

/-- Reads a text with all rules, unless no rule can apply. -/
def readText (xs : Passage) : Reading Passage := do
  if !xs.any fun x => x.char?.isSome then return xs
  readWith (64 + 32 * xs.length) (rules (← read).features) xs

/-- Reads the texts of the elements of a passage and the texts after them. Elements that a text
after another one holds are read in their turn. -/
def readSegments : Nat → List (Element × Passage) → Reading (List (Element × Bool × Passage))
  | 0, segments => return segments.map fun (e, tail) => (e, false, tail)
  | _, [] => return []
  | fuel + 1, (e, tail) :: rest => do
    let text := Passage.head e.content
    let inner := e.content.drop text.length
    let text ← readText text
    let tail ← readText tail
    let fresh := Passage.segments tail
    let rest ← readSegments fuel (fresh ++ rest)
    return ({ e with content := text ++ inner }, !inner.isEmpty, Passage.head tail) :: rest

/-- Reads everything inside an element: first the texts of its children, and then, from the last
child to the first, what is inside them. -/
def readInside : Nat → Passage → Reading Passage
  | 0, xs => return xs
  | fuel + 1, xs => do
    let segments ← readSegments (2 * xs.length + 16) (Passage.segments xs)
    let segments ← segments.reverse.mapM fun (e, nested, tail) => do
      if nested then return ({ e with content := ← readInside fuel e.content }, tail)
      let inner ← (Passage.segments e.content).reverse.mapM fun (c, after) => do
        return ({ c with content := ← readInside fuel c.content }, after)
      return ({ e with content := Passage.ofSegments (Passage.head e.content) inner.reverse }, tail)
    return Passage.ofSegments (Passage.head xs) segments.reverse

end LiveMarkdown.Prose.Inline
