import LiveMarkdown.Prose.Piece

/-!
Prose as markup. Characters of markup are escaped in text; an ampersand that begins a reference to a
character stays as it is. Attributes are written in the order of their names, and an element that
cannot have content is closed at once. A paragraph that is nothing but a finished block is that
block.
-/

namespace LiveMarkdown.Prose.Escape

/-- The name or number of a reference up to its semicolon, if that follows. -/
def isReference (cs : List Char) : Bool :=
  let ends (body : List Char) (p : Char → Bool) : Bool :=
    let name := body.takeWhile p
    !name.isEmpty && (body.drop name.length).head? == some ';'
  match cs with
  | '#' :: rest =>
    ends rest Char.isDigit ||
      (match rest with
      | x :: body => (x == 'x' || x == 'X') && ends body fun c =>
          c.isDigit || ('a' ≤ c && c ≤ 'f') || ('A' ≤ c && c ≤ 'F')
      | [] => false)
  | cs => ends cs Char.isAlphanum

/-- Text between tags. -/
def text : List Char → List Char
  | [] => []
  | c :: cs =>
    (match c with
    | '&' => if isReference cs then [c] else "&amp;".toList
    | '<' => "&lt;".toList
    | '>' => "&gt;".toList
    | c => [c]) ++ text cs

/-- The value of an attribute. -/
def value (s : String) : String :=
  String.ofList ((text s.toList).flatMap fun c => if c == '"' then "&quot;".toList else [c])

/-- Code, in which every ampersand stands for itself. -/
def code (s : String) : String :=
  String.ofList (s.toList.flatMap fun c =>
    match c with
    | '&' => "&amp;".toList
    | '<' => "&lt;".toList
    | '>' => "&gt;".toList
    | c => [c])

/-- Code whose quotes are escaped too. -/
def quotedCode (s : String) : String :=
  String.ofList ((code s).toList.flatMap fun c => if c == '"' then "&quot;".toList else [c])

end LiveMarkdown.Prose.Escape

namespace LiveMarkdown.Prose

/-- Elements that never have content. -/
def voidNames : List String :=
  ["area", "base", "basefont", "br", "col", "frame", "hr", "img", "input", "isindex", "link",
    "meta", "param"]

/-- Whether finished markup begins with a block element, a comment, a declaration or an
instruction. -/
def isBlockMarkup (s : String) : Bool :=
  match s.toList with
  | '<' :: rest =>
    let rest := if rest.head? == some '/' then rest.drop 1 else rest
    match rest.takeWhile fun c => c != ' ' && c != '>' && c != '/' with
    | [] => false
    | c :: cs =>
      c == '!' || c == '?' || c == '@' || c == '%' || Element.isBlockName (String.ofList (c :: cs))
  | _ => false

/-- The characters of text that a passage begins with. -/
def Passage.textRun : Passage → List Char
  | .char c :: xs => c :: textRun xs
  | .escaped c :: xs => c :: textRun xs
  | .verbatim c :: xs => c :: textRun xs
  | _ => []

/-- A character of text before the given rest. -/
def writeChar (c : Char) (rest : Passage) : String :=
  match c with
  | '&' => if Escape.isReference (Passage.textRun rest) then "&" else "&amp;"
  | '<' => "&lt;"
  | '>' => "&gt;"
  | c => c.toString

def writeAttributes (as : Attributes) : String :=
  let sorted := as.mergeSort fun a b => a.1 < b.1 || a.1 == b.1
  String.join (sorted.map fun (name, value) =>
    match value with
    | some v => " " ++ name ++ "=\"" ++ Escape.value v ++ "\""
    | none => " " ++ name)

/-- The finished markup that a passage consists of. -/
def Passage.onlyRaw? : Passage → Option String
  | [.raw s] => some s
  | _ => none

mutual

def Piece.write (rest : Passage) : Piece → String
  | .char c => writeChar c rest
  | .escaped c => writeChar c rest
  | .verbatim c => writeChar c rest
  | .raw s => s
  | .element name attributes content =>
    let whole := (Passage.onlyRaw? content).filter fun s =>
      name == "p" && attributes.isEmpty && isBlockMarkup s
    match whole with
    | some s => s
    | none =>
      let opening := "<" ++ name ++ writeAttributes attributes
      if voidNames.contains (name.map Char.toLower) then opening ++ " />"
      else opening ++ ">" ++ Passage.write content ++ "</" ++ name ++ ">"

def Passage.write : List Piece → String
  | [] => ""
  | x :: xs => Piece.write xs x ++ Passage.write xs

end

end LiveMarkdown.Prose
