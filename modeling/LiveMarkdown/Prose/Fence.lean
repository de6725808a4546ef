import LiveMarkdown.Prose.AttributeList
import LiveMarkdown.Prose.Extension
import LiveMarkdown.Prose.Writer
import LiveMarkdown.Text.Alphabet
import LiveMarkdown.Text.Cut

/-!
Fenced code: lines between two equal fences of backticks or tildes. The opening fence may name the
language or hold an attribute list. A block of code is finished markup at once: a listing in a frame
of its own, with marked lines and with numbers beside the lines if they are asked for.
-/

namespace LiveMarkdown.Prose

/-- How a listing is set. -/
structure CodeListing where
  classes : List String := []
  numbered : Bool := false
  /-- The numbers of the lines that are marked. -/
  marked : List Int := []

namespace CodeListing

/-- Code in a listing, where quotes are escaped too. -/
def escape (s : String) : String :=
  String.ofList ((Escape.quotedCode s).toList.flatMap fun c =>
    if c == '\x27' then "&#39;".toList else [c])

/-- The lines of code without the empty ones around it. -/
def linesOf (code : String) : List String :=
  let text := Text.trim (· == '\n') code.toList
  (Text.linesAtFeeds text).map String.ofList

def writeLine (l : CodeListing) (line : String) (i : Nat) : String :=
  let text := escape line ++ "\n"
  if l.marked.contains (Int.ofNat (i + 1)) then "<span class=\"hll\">" ++ text ++ "</span>" else text

/-- The numbers of lines, each as wide as the last one. -/
def numbers (n : Nat) : String :=
  let width := (toString n).length
  "\n".intercalate ((List.range n).map fun i =>
    let number := String.ofList (Text.rightAligned (toString (i + 1)).toList width ' ')
    "<span class=\"normal\">" ++ number ++ "</span>")

/-- The markup of a listing. -/
def write (l : CodeListing) (code : String) : String :=
  let lines := linesOf code
  let name := " ".intercalate (l.classes ++ ["codehilite"])
  let body := "<pre><span></span><code>" ++
    String.join (lines.zipIdx.map fun (line, i) => l.writeLine line i) ++ "</code></pre>"
  let body :=
    if l.numbered then
      "<table class=\"" ++ name ++ "table\"><tr><td class=\"linenos\"><div class=\"linenodiv\"><pre>" ++
        numbers lines.length ++ "</pre></div></td><td class=\"code\"><div>" ++ body ++
        "</div></td></tr></table>"
    else body
  "<div class=\"" ++ name ++ "\">" ++ body ++ "</div>\n"

end CodeListing

end LiveMarkdown.Prose

namespace LiveMarkdown.Prose.Fence

/-- Characters of words. -/
def isWordChar (c : Char) : Bool := c == '_' || Text.isLetterOrNumber c

/-- A value among the settings of a block of code. -/
inductive Setting where
  | text (s : String)
  | numbers (ns : List Int)
  | switch (b : Option Bool)
  deriving Repr, BEq

/-- What an opening fence says. -/
structure Header where
  language : Option String := none
  identifier : String := ""
  classes : List String := []
  settings : List (String × Setting) := []

def switches : List String := ["linenums", "guess_lang", "noclasses", "use_pygments"]

/-- Truth from its usual words. -/
def truth? (s : String) : Option Bool :=
  let w := String.ofList (s.toList.map Char.toLower)
  if ["true", "yes", "y", "on", "1"].contains w then some true
  else if ["false", "no", "n", "off", "0", "none"].contains w then some false
  else none

/-- Numbers between blanks; none if one is not a number. -/
def numbers (s : String) : List Int :=
  ((Text.words s).mapM String.toInt?).getD []

def setting (name value : String) : Setting :=
  if name == "hl_lines" then .numbers (numbers value)
  else if switches.contains name then
    .switch (if value.map Char.toLower == "none" then none else truth? value)
  else .text value

/-- A setting replaces an earlier one of its name. -/
def putSetting (name : String) (v : Setting) (es : List (String × Setting)) :
    List (String × Setting) :=
  if es.any fun e => e.1 == name then es.map fun e => if e.1 == name then (name, v) else e
  else es ++ [(name, v)]

def Header.give (h : Header) : AttributeList.Entry → Header
  | .className c => { h with classes := h.classes ++ [c] }
  | .attribute "id" v => { h with identifier := v.getD "id" }
  | .attribute k v => { h with settings := putSetting k (setting k (v.getD k)) h.settings }

/-- The first class is the language. -/
def Header.ofEntries (es : List AttributeList.Entry) : Header :=
  let h := es.foldl Header.give {}
  match h.classes with
  | c :: cs => { h with language := some c, classes := cs }
  | [] => h

/-- The numbers of the lines that are marked, between quotes, and what follows them. -/
def markedLines? (cs : List Char) : Option (List Char × List Char) :=
  let mark := "hl_lines=".toList
  if !mark.isPrefixOf cs then none
  else match cs.drop mark.length with
    | q :: rest =>
      if q != '"' && q != '\x27' then none
      else
        let inner := rest.takeWhile (· != q)
        match rest.drop inner.length with
        | _ :: tail => some (inner, tail)
        | [] => none
    | [] => none

/-- The lines that are marked, at the end of the opening fence. -/
def marked? (cs : List Char) : Option (List (String × Setting)) :=
  match cs with
  | [] => some []
  | cs =>
    match markedLines? cs with
    | none => none
    | some (inner, tail) =>
      if !tail.all (· == ' ') then none
      else if inner.isEmpty then some []
      else some [("hl_lines", .numbers (numbers (String.ofList inner)))]

/-- What follows the fence on its line. Braces that do not match leave no header. -/
def header? (cs : List Char) : Option Header :=
  let cs := cs.dropWhile (· == ' ')
  let inner := (cs.drop 1).dropLast
  if cs.head? == some '\x7b' && cs.getLast? == some '\x7d' && 2 ≤ cs.length then
    let (es, surplus) := AttributeList.read (Passage.ofChars inner)
    if !surplus.isEmpty then none
    else if inner.isEmpty then some {}
    else some (Header.ofEntries es)
  else
    let word := match cs with
      | '.' :: rest => rest
      | cs => cs
    let name := word.takeWhile fun c =>
      isWordChar c || c == '#' || c == '.' || c == '+' || c == '-'
    let rest := (word.drop name.length).dropWhile (· == ' ')
    let (name, rest) := match marked? rest with
      | some s => (name, some s)
      | none => (name, none)
    rest.map fun s =>
      { language := if name.isEmpty then none else some (String.ofList name), settings := s }

/-- The marks of a fence at the start of a line, and what follows them. -/
def fence? (line : List Char) : Option (Nat × Char × List Char) :=
  match line with
  | c :: _ =>
    if c != '~' && c != '\x60' then none
    else
      let n := (line.takeWhile (· == c)).length
      if 3 ≤ n then some (n, c, line.drop n) else none
  | [] => none

def closes (n : Nat) (c : Char) (line : List Char) : Bool :=
  (line.take n).length == n && (line.take n).all (· == c) && (line.drop n).all (· == ' ')

/-- Why a document is not written: a value of a kind that no attribute has. -/
structure Fault where
  shown : String
  kind : String
  deriving Repr, BEq

def Fault.message (e : Fault) : String := s!"cannot serialize {e.shown} (type {e.kind})"

def Setting.write : Setting → Except Fault String
  | .text s => return Escape.value s
  | .numbers ns => return "[" ++ ", ".intercalate (ns.map toString) ++ "]"
  | .switch (some b) => throw { shown := if b then "True" else "False", kind := "bool" }
  | .switch none => throw { shown := "None", kind := "NoneType" }

/-- The markup of a block of code. Settings are written where attribute lists are read. -/
def markup (attributeLists : Bool) (h : Header) (code : String) : Except Fault String := do
  let written (name value : String) : String :=
    if value == "" then "" else " " ++ name ++ "=\"" ++ value ++ "\""
  let settings ←
    if attributeLists && !(h.settings.any fun e => e == ("use_pygments", .switch (some true))) then
      (h.settings.filter fun e => e.1 != "use_pygments").mapM fun (k, v) => do
        return " " ++ k ++ "=\"" ++ (← v.write) ++ "\""
    else pure []
  let language := match h.language with
    | some l => if l == "" then "" else written "class" ("language-" ++ Escape.value l)
    | none => ""
  return "<pre" ++ written "id" (Escape.value h.identifier) ++
    written "class" (Escape.value (" ".intercalate h.classes)) ++ "><code" ++ language ++
    String.join settings ++ ">" ++ Escape.quotedCode code ++ "</code></pre>"

/-- The listing that a header asks for, unless it asks for plain code. -/
def listing? (h : Header) : Option CodeListing :=
  let plain := match h.settings.lookup "use_pygments" with
    | some (.switch b) => b != some true
    | _ => false
  if plain then none
  else
    let marked := match h.settings.lookup "hl_lines" with
      | some (.numbers ns) => ns
      | _ => []
    some { classes := h.classes, marked
           numbered := h.settings.lookup "linenums" == some (.switch (some true)) }

/-- The lines before the closing fence, and those after it. -/
def close? (n : Nat) (c : Char) : List (List Char) → Option (List (List Char) × List (List Char))
  | [] => none
  | l :: ls =>
    if closes n c l then some ([], ls)
    else (close? n c ls).map fun (code, rest) => (l :: code, rest)

/-- Turns fenced code among lines into finished markup between empty lines. -/
def replace (fs : List Feature) : Nat → List (List Char) → Except Fault (List Passage)
  | 0, ls => return ls.map Passage.ofChars
  | _, [] => return []
  | fuel + 1, l :: ls => do
    let found : Option (Header × List (List Char) × List (List Char)) := do
      let (n, c, rest) ← fence? l
      let h ← header? rest
      let (code, after) ← close? n c ls
      some (h, code, after)
    match found with
    | some (h, code, after) =>
      let text := String.ofList (code.flatMap fun l => l ++ ['\n'])
      let listing := if fs.contains .listings then listing? h else none
      let made ← match listing with
        | some l => pure (l.write text)
        | none => markup (fs.contains .attributeLists) h text
      return [] :: [.raw made] :: [] :: (← replace fs fuel after)
    | none => return Passage.ofChars l :: (← replace fs fuel ls)

end LiveMarkdown.Prose.Fence

/-!
Indented blocks of code as listings. The first line of a block may name its language after colons, or
a program that runs it; then the lines of the listing may be numbered or marked.
-/

namespace LiveMarkdown.Prose.IndentedCode

/-- The size of the names that a path consists of, each after a slash. -/
def pathSize : Nat → List Char → Nat
  | fuel + 1, '/' :: cs =>
    let word := (cs.takeWhile Fence.isWordChar).length
    if word = 0 then 0 else word + 1 + pathSize fuel (cs.drop word)
  | _, _ => 0

/-- What the first line of code may say: whether it is a line of the code all the same, and how the
listing is set. -/
def header? (line : List Char) : Option (Bool × CodeListing) :=
  let colons := (line.takeWhile (· == ':')).length
  let shebang := "#!".toList.isPrefixOf line
  if colons < 2 && !shebang then none
  else
    let rest := line.drop (if shebang then 2 else colons)
    let size := pathSize rest.length rest
    let rest := rest.drop size
    let closed := rest.head? == some '/' || rest.head? == some ' '
    let name := (if closed then rest.drop 1 else rest).dropWhile fun c =>
      Fence.isWordChar c || c == '#' || c == '.' || c == '+' || c == '-'
    some (closed || 0 < size,
      { numbered := shebang, 
        marked := ((Fence.markedLines? (name.dropWhile Text.isBlank)).map fun (inner, _) =>
          Fence.numbers (String.ofList inner)).getD [] })

/-- The markup of an indented block of code, whose first line may speak of the others. -/
def ofBlock (code : String) : String :=
  let text := Text.trim (· == '\n') code.toList
  match Text.linesAtFeeds text with
  | first :: rest =>
    match header? first with
    | some (stays, l) =>
      l.write (String.ofList (['\n'].intercalate (if stays then first :: rest else rest)))
    | none => CodeListing.write {} code
  | [] => CodeListing.write {} code

/-- Code as it was before its marks were escaped. -/
def unescape (s : String) : String :=
  [("&lt;", "<"), ("&gt;", ">"), ("&amp;", "&")].foldl (fun s (a, b) => Text.replaceAll a b s) s

mutual

/-- Turns the blocks of code of a passage into listings. -/
def setAll : List Piece → Passage
  | [] => []
  | x :: xs => setPiece x :: setAll xs

def setPiece : Piece → Piece
  | .element "pre" attributes [.element "code" inner code] =>
    if code.isEmpty || code.any Piece.isElement then
      .element "pre" attributes [.element "code" inner code]
    else .element "p" [] [.raw (ofBlock (unescape (Passage.plain code)))]
  | .element name attributes content => .element name attributes (setAll content)
  | x => x

end

end LiveMarkdown.Prose.IndentedCode
