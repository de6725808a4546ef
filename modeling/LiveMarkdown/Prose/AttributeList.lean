import LiveMarkdown.Prose.Piece

/-!
Attribute lists: words in braces that name classes, an identifier and other attributes of an element.
-/

namespace LiveMarkdown.Prose.AttributeList

/-- An entry of a list: a class, or an attribute with its value. -/
inductive Entry where
  | className (name : String)
  | attribute (name : String) (value : Option String)
  deriving Repr, BEq

/-- Characters of a name, or of a value without quotes. -/
def isWord (x : Piece) : Bool := !x.isIn fun c => c == ' ' || c == '=' || c == '\x7d'

/-- The text between two quotes on one line, and what follows the second. -/
def quoted? (quote : Char) (xs : Passage) : Option (Passage × Passage) :=
  match xs with
  | x :: rest =>
    if !x.isChar quote then none
    else
      let inner := rest.takeWhile fun y => !y.isChar quote && !y.isChar '\n'
      match rest.drop inner.length with
      | y :: after => if y.isChar quote then some (inner, after) else none
      | [] => none
  | [] => none

/-- A word on its own: a class after a point, an identifier after a hash, or an attribute
without a value. -/
def wordEntry (w : Passage) : Entry :=
  match w with
  | .char '.' :: rest => .className (Passage.plain rest)
  | .char '#' :: rest => .attribute "id" (Passage.plain rest)
  | w => .attribute (Passage.plain w) none

/-- An entry whose value is given. A point alone stands for the classes. -/
def valueEntry (name value : Passage) : Entry :=
  if Passage.plain name == "." then .className (Passage.plain value)
  else .attribute (Passage.plain name) (Passage.plain value)

/-- The entry that a passage begins with. -/
def entry? (xs : Passage) : Option (Entry × Passage) :=
  let name := xs.takeWhile isWord
  let rest := xs.drop name.length
  if name.isEmpty then none
  else
    match rest with
    | .char '=' :: after =>
      match quoted? '"' after with
      | some (value, tail) => some (valueEntry name (Passage.strip '"' value), tail)
      | none =>
        match quoted? '\x27' after with
        | some (value, tail) => some (valueEntry name (Passage.strip '\x27' value), tail)
        | none =>
          let value := after.takeWhile isWord
          if value.isEmpty then some (wordEntry name, rest)
          else some (valueEntry name value, after.drop value.length)
    | _ => some (wordEntry name, rest)

/-- The entries at the start of a passage, and what no entry begins with. -/
def scan : Nat → Passage → List Entry × Passage
  | 0, xs => ([], xs)
  | _, [] => ([], [])
  | fuel + 1, x :: xs =>
    if x.isChar ' ' then scan fuel xs
    else match entry? (x :: xs) with
      | some (e, rest) =>
        let (es, rest) := scan fuel rest
        (e :: es, rest)
      | none => ([], x :: xs)

/-- The entries of a list. What follows them counts from its first closing brace on. -/
def read (xs : Passage) : List Entry × Passage :=
  let (es, rest) := scan (xs.length + 1) xs
  (es, rest.dropWhile fun x => !x.isChar '\x7d')

/-- Characters that the name of an attribute may hold. -/
def isNameChar (c : Char) : Bool :=
  let n := c.toNat
  let within (a b : Nat) : Bool := a ≤ n && n ≤ b
  c.isAlphanum || c == '_' || c == ':' || c == '-' || c == '.' || n == 0xB7 ||
    within 0xC0 0xD6 || within 0xD8 0xF6 || within 0xF8 0x2FF || within 0x300 0x37D ||
    within 0x37F 0x1FFF || within 0x200C 0x200D || within 0x203F 0x2040 || within 0x2070 0x218F ||
    within 0x2C00 0x2FEF || within 0x3001 0xD7FF || within 0xF900 0xFDCF || within 0xFDF0 0xFFFD

/-- A name with an underscore for each run of other characters. -/
def cleanName (cs : List Char) : List Char :=
  match cs with
  | [] => []
  | c :: cs =>
    if isNameChar c then c :: cleanName cs
    else match cs with
      | d :: _ => if isNameChar d then '_' :: cleanName cs else cleanName cs
      | [] => ['_']

/-- Gives an entry to an element. Classes add up. -/
def give (e : Element) : Entry → Element
  | .className name =>
    match e.get? "class" with
    | some s => e.set "class" (if s == "" then name else s ++ " " ++ name)
    | none => e.set "class" name
  | .attribute name value => e.set (String.ofList (cleanName name.toList)) value

/-- The braces at the start of a passage up to the last closing one of the line: what stands between
them, and where the passage goes on. -/
def braces? (xs : Passage) : Option (Passage × Passage) :=
  match xs with
  | .char '\x7b' :: rest =>
    let rest := match rest with
      | .char ':' :: r => r
      | r => r
    let rest := rest.dropWhile (Piece.isChar ' ')
    let line := rest.takeWhile fun x => !x.isChar '\n'
    let inner := Passage.dropEndWhile (fun x => !x.isChar '\x7d') line
    match inner.dropLast, inner with
    | x :: more, _ :: _ => if x.isChar '\x7d' then none else some (x :: more, rest.drop inner.length)
    | _, _ => none
  | _ => none

/-- A list at the start of a passage, given to an element, and what is left of the passage. -/
def giveAtStart (e : Element) (xs : Passage) : Element × Passage :=
  match braces? xs with
  | none => (e, xs)
  | some (inner, rest) =>
    let (es, surplus) := read inner
    (es.foldl give e, rest ++ surplus)

/-- Whether a passage is a list, with blanks around it and nothing after it; its inner part. -/
def whole? (xs : Passage) : Option Passage :=
  match braces? (xs.dropWhile (Piece.isChar ' ')) with
  | some (inner, rest) =>
    match rest.dropWhile (Piece.isChar ' ') with
    | [] => some inner
    | [x] => if x.isChar '\n' then some inner else none
    | _ => none
  | none => none

/-- A list that stands at the end of a passage behind a mark: a line feed, or a space. The passage
before it, and the inner part. -/
def atEnd? (mark : Char) : Passage → Option (Passage × Passage)
  | [] => none
  | x :: xs =>
    let here := if x.isChar mark then whole? xs else none
    match here with
    | some inner => some ([], inner)
    | none => (atEnd? mark xs).map fun (before, inner) => (x :: before, inner)

/-- A list at the end of a passage, given to an element; nothing is given if text is left over. -/
def giveAtEnd? (mark : Char) (e : Element) (xs : Passage) : Option (Element × Passage) :=
  match atEnd? mark xs with
  | none => none
  | some (before, inner) =>
    let (es, surplus) := read inner
    if surplus.isEmpty then some (es.foldl give e, before) else none

end LiveMarkdown.Prose.AttributeList

/-!
Prose as it is laid out on lines, with attribute lists given to the elements before them and
abbreviations marked.
-/

namespace LiveMarkdown.Prose

namespace Layout

/-- Whether a piece is blank space, in text of any kind. -/
def isSpace : Piece → Bool
  | .char c => Text.isBlank c
  | .verbatim c => Text.isBlank c
  | _ => false

/-- A line feed where there is only blank space. -/
def feed (xs : Passage) : Passage := if xs.all isSpace then [.char '\n'] else xs

/-- Puts block elements on lines of their own. The fuel bounds their depth. -/
def spread : Nat → Passage → Passage
  | 0, xs => xs
  | fuel + 1, xs =>
    let segments := Passage.segments xs
    let head := Passage.head xs
    let head := match segments with
      | (e, _) :: _ => if e.isBlock then feed head else head
      | [] => head
    Passage.ofSegments head (segments.map fun (e, tail) =>
      if !e.isBlock then (e, tail)
      else if e.name == "pre" then (e, feed tail)
      else ({ e with content := spread fuel e.content }, feed tail))

mutual

/-- A line feed after every line break. -/
def breakLines : List Piece → Passage
  | [] => []
  | x :: xs =>
    let rest := breakLines xs
    let fed : Passage :=
      if Passage.isBlank (Passage.head xs) then
        .char '\n' :: rest.drop (Passage.head xs).length
      else .char '\n' :: rest
    match x with
    | .element "br" attributes content => .element "br" attributes content :: fed
    | x => breakInside x :: rest

def breakInside : Piece → Piece
  | .element name attributes content => .element name attributes (breakLines content)
  | x => x

end

/-- The blank end of code as one line feed. -/
def trimCode (xs : Passage) : Passage :=
  Passage.dropEndWhile isSpace xs ++ [.verbatim '\n']

def trimBlock : Passage → Passage
  | .element "code" attributes code :: rest =>
    if code.isEmpty || code.any Piece.isElement then .element "code" attributes code :: rest
    else .element "code" attributes (trimCode code) :: rest
  | xs => xs

mutual

/-- Ends every block of code with one line feed. -/
def trimBlocks : List Piece → Passage
  | [] => []
  | x :: xs => trimInside x :: trimBlocks xs

def trimInside : Piece → Piece
  | .element name attributes content =>
    let content := trimBlocks content
    .element name attributes (if name == "pre" then trimBlock content else content)
  | x => x

end

/-- Lays out the content of a document. -/
def run (xs : Passage) : Passage :=
  trimBlocks (breakLines (spread (Passage.depth xs + 1) xs))

end Layout

namespace AttributeList

/-- Gives an element the list at the end of one of its texts: the text before its children, or the
text after one of them. -/
def giveFrom (e : Element) (mark : Char) (place : Option Nat) (text : Passage) : Element :=
  match giveAtEnd? mark e text with
  | none => e
  | some (e, left) =>
    let left := if e.isHeading then
        Passage.trimEnd (Passage.dropEndWhile (Piece.isChar '#') left)
      else left
    let head := Passage.head e.content
    let segments := Passage.segments e.content
    match place with
    | none => { e with content := Passage.ofSegments left segments }
    | some i =>
      let segments := segments.zipIdx.map fun ((c, tail), k) => (c, if k = i then left else tail)
      { e with content := Passage.ofSegments head segments }

/-- The text of a block element that may end with a list. -/
def giveBlock (e : Element) : Element :=
  let mark := if e.isHeading || ["dt", "td", "th"].contains e.name then ' ' else '\n'
  let head := Passage.head e.content
  let segments := Passage.segments e.content
  let tailAt (i : Nat) : Passage := ((segments[i]?).map (·.2)).getD []
  let lastAt := segments.length - 1
  let fromHead : Element := if head.isEmpty then e else giveFrom e mark none head
  let fromTail (i : Nat) : Element := giveFrom e mark (some i) (tailAt i)
  if segments.isEmpty then fromHead
  else if e.name == "li" then
    match segments.findIdx? fun (c, _) => c.name == "ul" || c.name == "ol" with
    | none => if (tailAt lastAt).isEmpty then fromHead else fromTail lastAt
    | some i => if 0 < i && !(tailAt (i - 1)).isEmpty then fromTail (i - 1) else fromHead
  else if (tailAt lastAt).isEmpty then fromHead
  else fromTail lastAt

/-- Gives the lists in a passage to its elements. The fuel bounds their depth. -/
def assign : Nat → Passage → Passage
  | 0, xs => xs
  | fuel + 1, xs =>
    Passage.ofSegments (Passage.head xs) ((Passage.segments xs).map fun (e, tail) =>
      let (e, tail) := if e.isBlock then (giveBlock e, tail) else giveAtStart e tail
      ({ e with content := assign fuel e.content }, tail))

end AttributeList

end LiveMarkdown.Prose
