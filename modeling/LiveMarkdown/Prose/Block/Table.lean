import LiveMarkdown.Prose.Block.Basic

/-!
Tables: rows of cells between bars, of which the second separates the head from the body and aligns
the columns. A bar within code or behind a backslash is no border of a cell.
-/

namespace LiveMarkdown.Prose.Block.Table

/-- What matters for the borders of a row. -/
inductive Sign where
  | ticks (start size : Nat) (escaped : Bool)
  | bar (at_ : Nat)

/-- The backticks and bars of a row, without bars behind a backslash. -/
def signs : Nat → Nat → Passage → List Sign
  | 0, _, _ => []
  | _, _, [] => []
  | fuel + 1, i, x :: xs =>
    let ticks (ys : Passage) : Nat := (ys.takeWhile (Piece.isChar '\x60')).length
    if x.isChar '\\' then
      match xs with
      | y :: rest =>
        if y.isChar '\\' || y.isChar '|' then signs fuel (i + 2) rest
        else
          let n := ticks xs
          if n = 0 then signs fuel (i + 1) xs
          else .ticks i n true :: signs fuel (i + 1 + n) (xs.drop n)
      | [] => []
    else if x.isChar '\x60' then
      let n := ticks (x :: xs)
      .ticks i n false :: signs fuel (i + n) ((x :: xs).drop n)
    else if x.isChar '|' then .bar i :: signs fuel (i + 1) xs
    else signs fuel (i + 1) xs

/-- Where a run of as many backticks ends, and what follows it. -/
def closing? (n : Nat) : List Sign → Option (Nat × List Sign)
  | [] => none
  | .bar _ :: rest => closing? n rest
  | .ticks start size escaped :: rest =>
    if size = n then some (start + size + (if escaped then 1 else 0), rest) else closing? n rest

/-- The spans of code in a row. -/
def codeSpans : Nat → List Sign → List (Nat × Nat)
  | 0, _ => []
  | _, [] => []
  | fuel + 1, .bar _ :: rest => codeSpans fuel rest
  | fuel + 1, .ticks start size escaped :: rest =>
    let n := if escaped then size - 1 else size
    if n = 0 then codeSpans fuel rest
    else
      match closing? n rest with
      | some (stop, rest) => (start, stop) :: codeSpans fuel rest
      | none => codeSpans fuel rest

/-- A passage cut at places that are in increasing order. -/
def cutAt (start : Nat) : List Nat → Passage → List Passage
  | [], xs => [xs]
  | p :: ps, xs => xs.take (p - start) :: cutAt (p + 1) ps (xs.drop (p - start + 1))

/-- The cells of a row without its outer bars. -/
def cells (row : Passage) : List Passage :=
  let found := signs (row.length + 1) 0 row
  let spans := codeSpans (found.length + 1) found
  let bars := found.filterMap fun s =>
    match s with
    | .bar i => if spans.any fun (a, b) => a ≤ i && i < b then none else some i
    | .ticks .. => none
  cutAt 0 bars row

/-- The bar at the end of a row with the backslashes before it, if they do not escape it. -/
def endBar? (row : Passage) : Option Nat :=
  match row.reverse with
  | x :: rest =>
    let slashes := (rest.takeWhile (Piece.isChar '\\')).length
    if x.isChar '|' && slashes % 2 = 0 then some (slashes + 1) else none
  | [] => none

def beginsWithBar (row : Passage) : Bool := (row.head?.map (Piece.isChar '|')).getD false

/-- The cells of a row; where rows have borders, the outer bars are dropped. -/
def split (bordered : Bool) (row : Passage) : List Passage :=
  if !bordered then cells row
  else
    let row := if beginsWithBar row then row.drop 1 else row
    cells (row.take (row.length - (endBar? row).getD 0))

def trimSpaces (xs : Passage) : Passage := Passage.strip ' ' xs

/-- The alignment of a column from the cell below its head. -/
def alignment? (cell : Passage) : Option String :=
  let cell := trimSpaces cell
  let left := (cell.head?.map (Piece.isChar ':')).getD false
  let right := (cell.getLast?.map (Piece.isChar ':')).getD false
  if left && right then some "center" else if left then some "left"
  else if right then some "right" else none

/-- Whether rows have borders, and the cells of the separating row, if the rows are a table. -/
def layout? (rows : List Passage) : Option (Bool × List Passage) :=
  match rows with
  | first :: second :: _ =>
    let bordered := beginsWithBar first || (endBar? first).isSome
    let n := (split bordered first).length
    let single := n = 1 && bordered &&
      (rows.drop 1).all fun r => beginsWithBar r || (endBar? r).isSome
    let separator := split bordered second
    let marks := separator.flatten.all (Piece.isIn fun c => "|:- ".toList.contains c)
    if (1 < n || single) && separator.length = n && marks then some (bordered, separator) else none
  | _ => none

def row (bordered : Bool) (name : String) (aligns : List (Option String)) (r : Passage) : Element :=
  let found := split bordered r
  let made := aligns.zipIdx.map fun (a, i) =>
    let e : Element := { name, content := trimSpaces (found.getD i []) }
    match a with
    | some a => e.set "style" s!"text-align: {a};"
    | none => e
  { name := "tr", content := made.map Element.toPiece }

end Table

/-- A block of rows is a table. -/
def table : Rule := fun _ _ parent block rest => do
  let rows := (Passage.lines block).map Table.trimSpaces
  match Table.layout? rows with
  | none => return none
  | some (bordered, separator) =>
    let aligns := separator.map Table.alignment?
    let body := match rows.drop 2 with
      | [] => [({ name := "tr", content := aligns.map fun _ => .element "td" [] [] } : Element)]
      | rows => rows.map (Table.row bordered "td" aligns)
    let head : Element :=
      { name := "thead"
        content := [(Table.row bordered "th" aligns (rows.headD [])).toPiece] }
    let body : Element := { name := "tbody", content := body.map Element.toPiece }
    return some
      (parent.push { name := "table", content := [head.toPiece, body.toPiece] }, rest)

end LiveMarkdown.Prose.Block
