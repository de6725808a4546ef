import LiveMarkdown.Document.Entity
import LiveMarkdown.Prose.Inline.Basic
import LiveMarkdown.Prose.Writer
import LiveMarkdown.Text.Case

/-!
Pieces of running text that hold no further text: code, escaped characters, addresses, markup,
references to characters, line breaks and references to footnotes.
-/

namespace LiveMarkdown.Prose.Inline

def ticksAt (xs : Passage) : Nat := (xs.takeWhile (Piece.isChar '\x60')).length

/-- The code up to a run of exactly this many backticks. -/
def codeUpTo? (n : Nat) : Nat → Passage → Option (Passage × Passage)
  | 0, _ => none
  | _, [] => none
  | fuel + 1, x :: xs =>
    let run := ticksAt (x :: xs)
    if run = 0 then (codeUpTo? n fuel xs).map fun (c, rest) => (x :: c, rest)
    else if run = n then some ([], (x :: xs).drop n)
    else (codeUpTo? n fuel ((x :: xs).drop run)).map fun (c, rest) =>
      ((x :: xs).take run ++ c, rest)

/-- Code as it is written, where no rule reads it. -/
def codeText (xs : Passage) : Passage :=
  xs.flatMap fun x =>
    match x with
    | .char c => Passage.verbatim (Escape.code c.toString)
    | x => [x]

/-- Code between equal runs of backticks: the longest opening run that is closed counts. -/
def codeSpan? (xs : Passage) : Nat → Option (Passage × Passage)
  | 0 => none
  | n + 1 =>
    let extra := ticksAt xs - (n + 1)
    let rest := xs.drop (n + 1 + extra)
    let found := (codeUpTo? (n + 1) (rest.length + 1) rest).map fun (c, after) =>
      ((xs.take extra) ++ c, after)
    match found with
    | some (c, after) => if c.isEmpty then codeSpan? xs n else some (c, after)
    | none => codeSpan? xs n

/-- Code; also pairs of backslashes before a backtick. -/
def code : Rule := fun done xs => do
  if nextIs '\\' done then return .nothing
  let slashes := (xs.takeWhile (Piece.isChar '\\')).length
  if slashes ≠ 0 then
    if slashes % 2 = 0 && nextIs '\x60' (xs.drop slashes) then
      return .pieces slashes (List.replicate (slashes / 2) (.escaped '\\'))
    return .nothing
  match codeSpan? xs (ticksAt xs) with
  | some (c, rest) =>
    return .draft (xs.length - rest.length) (.node "code" [] (codeText (Passage.trim c)) [])
  | none => return .nothing

/-- A backslash and the character that it escapes. -/
def escape : Rule := fun _ xs => do
  match xs with
  | .char '\\' :: .char c :: _ =>
    if (escapable (← read)).contains c then return .pieces 2 [.escaped c] else return .stays 2
  | .char '\\' :: _ :: _ => return .stays 2
  | _ => return .nothing

/-- The text in angle brackets, which holds no other bracket. -/
def angled? (xs : Passage) : Option (Passage × Passage) :=
  if !nextIs '<' xs then none
  else
    let inner := (xs.drop 1).takeWhile fun x => !x.isChar '<' && !x.isChar '>'
    let rest := xs.drop (inner.length + 1)
    if nextIs '>' rest then some (inner, rest.drop 1) else none

/-- An address of the web in angle brackets is a link to it. -/
def webAddress : Rule := fun _ xs => do
  match angled? xs with
  | none => return .nothing
  | some (inner, _) =>
    let s := (Passage.plain (inner.map fun x => if x.char?.isSome then x else .char ' '))
    let scheme := s.map Char.toLower
    if (["http://", "https://", "ftp://", "ftps://"].any fun p => scheme.startsWith p) then
      let text := inner.map fun x =>
        match x with
        | .char c => .verbatim c
        | x => x
      return .draft (inner.length + 2) (.node "a" [("href", Passage.plain inner)] text [])
    return .nothing

/-- An address of mail in angle brackets is a link to it, with its characters written as
references. -/
def mailAddress : Rule := fun _ xs => do
  match angled? xs with
  | none => return .nothing
  | some (inner, _) =>
    let domain := (inner.reverse.takeWhile fun x => !x.isChar '@').reverse
    let user := inner.take (inner.length - domain.length - 1)
    let spaced := inner.any (Piece.isChar ' ')
    if domain.isEmpty || user.isEmpty || domain.length = inner.length || spaced ||
        user.any (Piece.isChar '!') then return .nothing
    let mail := Passage.plain inner
    let mail := if mail.startsWith "mailto:" then String.ofList (mail.toList.drop 7) else mail
    let numbered (s : String) : String := String.join (s.toList.map fun c => s!"&#{c.toNat};")
    let named (s : String) : String := String.join (s.toList.map fun c =>
      match Text.entityName? c.toNat with
      | some name => s!"&{name};"
      | none => numbered c.toString)
    return .draft (inner.length + 2)
      (.node "a" [("href", numbered ("mailto:" ++ mail))] [.raw (named mail)] [])

/-- Markup as it was written: escapes get their backslash back. -/
def markupText (xs : Passage) : String :=
  String.join (xs.map fun x =>
    match x with
    | .char c => c.toString
    | .escaped c => "\\" ++ c.toString
    | x => Piece.write [] x)

/-- The size of markup between two marks that holds neither of them. -/
def enclosedSize? (first last : String) (xs : Passage) : Option Nat := do
  if !Passage.hasPrefix first xs then none
  let n ← Passage.find? last (xs.drop first.length)
  if (Passage.find? first ((xs.drop first.length).take n)).isSome then none
  else some (first.length + n + last.length)

/-- The size of a tag, a comment, an instruction or a section of plain text. -/
def markupSize? (xs : Passage) : Option Nat :=
  enclosedSize? "<!--" "-->" xs <|> enclosedSize? "<?" "?>" xs <|>
    enclosedSize? "<![CDATA[" "]]>" xs <|> do
    let (inner, _) ← angled? xs
    let body := if nextIs '/' inner then inner.drop 1 else inner
    let name := body.takeWhile fun x => !x.isChar ' '
    if (name.head?.map (Piece.isIn Char.isAlpha)).getD false && !name.any (Piece.isChar '@') then
      some (inner.length + 2)
    else none

/-- A tag, or other markup. -/
def markup : Rule := fun _ xs => do
  match markupSize? xs with
  | some n => return .pieces n [.raw (markupText (xs.take n))]
  | none => return .nothing

/-- A reference to a character. -/
def entity : Rule := fun _ xs => do
  if !nextIs '&' xs then return .nothing
  let cs := (xs.drop 1).takeWhile fun x => x.char?.isSome && !x.isChar ';'
  let body := cs.filterMap Piece.char?
  let lowerX := match body with
    | '#' :: 'X' :: _ => false
    | _ => true
  if lowerX && nextIs ';' (xs.drop (cs.length + 1)) && Escape.isReference (body ++ [';']) then
    return .pieces (cs.length + 2) [.raw ("&" ++ String.ofList body ++ ";")]
  return .nothing

/-- Two spaces at the end of a line. -/
def spacedBreak : Rule := fun _ xs => do
  if Passage.hasPrefix "  \n" xs then return .draft 3 (.node "br" [] [] []) else return .nothing

/-- Any end of a line. -/
def lineBreak : Rule := fun _ xs => do
  if nextIs '\n' xs then return .draft 1 (.node "br" [] [] []) else return .nothing

/-- The identifier of the n-th reference to a footnote. -/
def referenceId (name : String) (n : Nat) : String :=
  if n ≤ 1 then s!"fnref:{name}" else s!"fnref{n}:{name}"

def footnoteId (name : String) : String := s!"fn:{name}"

/-- A reference to a footnote, which gets the number of its first reference. -/
def footnoteReference : Rule := fun _ xs => do
  if !Passage.hasPrefix "[^" xs then return .nothing
  match upTo? (Piece.isChar ']') (xs.drop 2) with
  | none => return .nothing
  | some (inner, rest) =>
    let size := xs.length - rest.length
    let name := Passage.plain inner
    if ((← read).notes.footnotes.lookup name).isNone then return .skip size
    let m ← get
    let order := if m.order.contains name then m.order else m.order ++ [name]
    let n := ((m.counts.lookup name).getD 0) + 1
    set { m with order, counts := Block.define name n m.counts }
    let shown := Passage.verbatim (toString (order.idxOf name + 1))
    let link : Draft :=
      .node "a" [("href", "#" ++ footnoteId name), ("class", "footnote-ref")] shown []
    return .draft size (.node "sup" [("id", referenceId name n)] [] [(link, [])])

/-- A name in doubled brackets is a link to the page of that name. -/
def pageLink : Rule := fun _ xs => do
  if !Passage.hasPrefix "[[" xs then return .nothing
  let inner := (xs.drop 2).takeWhile fun x =>
    isWordPiece x || x.isChar ' ' || x.isChar '-'
  if inner.isEmpty || !Passage.hasPrefix "]]" (xs.drop (inner.length + 2)) then return .nothing
  let label := Passage.plain (Passage.trim inner)
  if label == "" then return .pieces (inner.length + 4) []
  let page := String.ofList (label.toList.map fun c => if c == ' ' then '_' else c)
  return .draft (inner.length + 4)
    (.node "a" [("href", s!"/{page}/"), ("class", "wikilink")] (Passage.ofString label) [])

end LiveMarkdown.Prose.Inline
