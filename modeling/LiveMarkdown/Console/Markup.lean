import LiveMarkdown.Console.Emoji
import LiveMarkdown.Script.Grammar.Program
import LiveMarkdown.Text.Blank
import LiveMarkdown.Text.Case
import LiveMarkdown.Text.Cut
import LiveMarkdown.Text.Quoted

/-!
Markup of lines for a console. A style in brackets holds up to its closing tag, and a name between
colons is a picture. Without styles both are dropped and only the text is left. A style may name a
color, by its name, by a number up to 255, or by amounts of red, green and blue.
-/

namespace LiveMarkdown.Console

/-! ### Colors -/

def colorNames : String :=
  "black red green yellow blue magenta cyan white bright_black bright_red bright_green " ++
  "bright_yellow bright_blue bright_magenta bright_cyan bright_white navy_blue dark_blue " ++
  "blue3 blue1 dark_green deep_sky_blue4 dodger_blue3 dodger_blue2 green4 spring_green4 " ++
  "turquoise4 deep_sky_blue3 dodger_blue1 green3 spring_green3 dark_cyan light_sea_green " ++
  "deep_sky_blue2 deep_sky_blue1 spring_green2 cyan3 dark_turquoise turquoise2 green1 " ++
  "spring_green1 medium_spring_green cyan2 cyan1 dark_red deep_pink4 purple4 purple3 " ++
  "blue_violet orange4 medium_purple4 slate_blue3 royal_blue1 chartreuse4 dark_sea_green4 " ++
  "pale_turquoise4 steel_blue steel_blue3 cornflower_blue chartreuse3 cadet_blue sky_blue3 " ++
  "steel_blue1 pale_green3 sea_green3 aquamarine3 medium_turquoise chartreuse2 sea_green2 " ++
  "sea_green1 aquamarine1 dark_slate_gray2 dark_magenta dark_violet purple light_pink4 plum4 " ++
  "medium_purple3 slate_blue1 yellow4 wheat4 light_slate_grey light_slate_gray medium_purple " ++
  "light_slate_blue dark_olive_green3 dark_sea_green light_sky_blue3 sky_blue2 " ++
  "dark_sea_green3 dark_slate_gray3 sky_blue1 chartreuse1 light_green pale_green1 " ++
  "dark_slate_gray1 red3 medium_violet_red magenta3 dark_orange3 indian_red hot_pink3 " ++
  "medium_orchid3 medium_orchid medium_purple2 dark_goldenrod light_salmon3 rosy_brown " ++
  "medium_purple1 gold3 dark_khaki navajo_white3 light_steel_blue3 light_steel_blue yellow3 " ++
  "dark_sea_green2 light_cyan3 light_sky_blue1 green_yellow dark_olive_green2 dark_sea_green1 " ++
  "pale_turquoise1 deep_pink3 magenta2 hot_pink2 orchid medium_orchid1 orange3 light_pink3 " ++
  "pink3 plum3 violet light_goldenrod3 tan misty_rose3 thistle3 plum2 khaki3 light_goldenrod2 " ++
  "light_yellow3 light_steel_blue1 yellow2 dark_olive_green1 honeydew2 light_cyan1 red1 " ++
  "deep_pink2 deep_pink1 magenta1 orange_red1 indian_red1 hot_pink dark_orange salmon1 " ++
  "light_coral pale_violet_red1 orchid2 orchid1 orange1 sandy_brown light_salmon1 light_pink1 " ++
  "pink1 plum1 gold1 navajo_white1 misty_rose1 thistle1 yellow1 light_goldenrod1 khaki1 " ++
  "wheat1 cornsilk1"

/-- The shades of grey that have a name. -/
def greyShades : List Nat :=
  [0, 3, 7, 11, 15, 19, 23, 27, 30, 35, 37, 39, 42, 46, 50, 53, 54, 58, 62, 63, 66, 69, 70, 74, 78,
    82, 84, 85, 89, 93, 100]

/-- Whether a word names a shade of grey, in either spelling. -/
def isGrey (word : String) : Bool :=
  greyShades.any fun n => word == s!"grey{n}" || word == s!"gray{n}"

/-- Whether the text between a beginning and a closing bracket passes a test. -/
def isCall (beginning : String) (passes : List Char → Bool) (word : List Char) : Bool :=
  beginning.toList.isPrefixOf word && word.getLast? == some ')' &&
    passes ((word.drop beginning.length).dropLast)

/-- Whether a word is a color. -/
def isColor (word : String) : Bool :=
  let cs := word.toList
  let isHex (c : Char) : Bool := c.isDigit || ('a' ≤ c && c ≤ 'f')
  let isByte (ds : List Char) : Bool :=
    !ds.isEmpty && ds.all Char.isDigit && ((String.ofList ds).toNat?.getD 256) ≤ 255
  word == "default" || (colorNames.splitOn " ").contains word || isGrey word ||
    (cs.head? == some '#' && cs.length = 7 && (cs.drop 1).all isHex) ||
    isCall "color(" (fun ds => ds.length ≤ 3 && isByte ds) cs ||
    isCall "rgb(" (fun ds =>
      let parts := (String.ofList ds).splitOn ","
      parts.length = 3 && parts.all fun p => isByte (Text.strip p).toList) cs

/-! ### Markup -/

/-- A piece of markup: text, or a tag with its parameters and its position. -/
inductive MarkupPiece where
  | text (s : String)
  | tag (position : Nat) (name : String) (parameters : Option String)
  deriving Repr, BEq

/-- A closing tag without an open one, or a tag whose parameters cannot be read. -/
inductive MarkupFault where
  | unmatched (tag name : String) (position : Nat)
  | nothingOpen (position : Nat)
  | unreadable (read parameters : String) (why : Script.SyntaxFault)
  deriving Repr, BEq

def MarkupFault.message : MarkupFault → String
  | .unmatched tag _ position =>
    s!"closing tag '{tag}' at position {position} " ++ "doesn't match any open tag"
  | .nothingOpen position => s!"closing tag '[/]' at position {position} has nothing to close"
  | .unreadable read parameters why =>
    s!"error parsing {Text.quoted read} in {Text.quoted parameters}; {why.message}"

/-- The exception during whose handling the fault is noticed: its class and its text. -/
def MarkupFault.context : MarkupFault → String × String
  | .unmatched _ name _ => ("KeyError", name)
  | .nothingOpen _ => ("IndexError", "pop from empty list")
  | .unreadable _ _ why => (why.className, why.short (some "<unknown>"))

/-- Characters that a tag begins with. -/
def beginsTag (c : Char) : Bool :=
  ('a' ≤ c && c ≤ 'z') || c == '#' || c == '/' || c == '@'

/-- The tag that a text begins with, behind any backslashes: their number, the text of the tag, and
what follows it. -/
def tag? (cs : List Char) : Option (Nat × List Char × List Char) :=
  let slashes := (cs.takeWhile (· == '\\')).length
  match cs.drop slashes with
  | '[' :: c :: rest =>
    let inner := rest.takeWhile fun d => d != '[' && d != ']'
    if beginsTag c && (rest.drop inner.length).head? == some ']' then
      some (slashes, c :: inner, rest.drop (inner.length + 1))
    else none
  | _ => none

/-- A tag from its text: what stands before an equals sign, and what stands after it. -/
def tagOf (position : Nat) (inner : List Char) : MarkupPiece :=
  let name := inner.takeWhile (· != '=')
  match inner.drop name.length with
  | _ :: parameters => .tag position (String.ofList name) (some (String.ofList parameters))
  | [] => .tag position (String.ofList name) none

/-- The pieces of a markup text; `pending` is the text since the last tag. The fuel bounds the
length of the text. -/
def markupPieces : Nat → Nat → List Char → List Char → List MarkupPiece
  | 0, _, pending, cs => [.text (String.ofList (pending.reverse ++ cs))]
  | _, _, pending, [] => if pending.isEmpty then [] else [.text (String.ofList pending.reverse)]
  | fuel + 1, i, pending, c :: cs =>
    match tag? (c :: cs) with
    | none => markupPieces fuel (i + 1) (c :: pending) cs
    | some (slashes, inner, rest) =>
      let before := if pending.isEmpty then [] else [.text (String.ofList pending.reverse)]
      let pairs := slashes / 2
      let kept := if pairs = 0 then [] else [.text (String.ofList (List.replicate pairs '\\'))]
      let size := slashes + inner.length + 2
      let made := if slashes % 2 = 1 then .text (String.ofList ('[' :: inner ++ [']']))
        else tagOf (i + 2 * pairs) inner
      before ++ kept ++ made :: markupPieces fuel (i + size) [] rest

/-- Words for attributes of text, and the attributes. -/
def styleWords : List (String × String) :=
  [("b", "bold"), ("bold", "bold"), ("d", "dim"), ("dim", "dim"), ("i", "italic"),
    ("italic", "italic"), ("u", "underline"), ("underline", "underline"), ("blink", "blink"),
    ("blink2", "blink2"), ("r", "reverse"), ("reverse", "reverse"), ("c", "conceal"),
    ("conceal", "conceal"), ("s", "strike"), ("strike", "strike"), ("uu", "underline2"),
    ("underline2", "underline2"), ("frame", "frame"), ("encircle", "encircle"),
    ("o", "overline"), ("overline", "overline")]

/-- The attributes in the order in which a style names them. -/
def styleOrder : List String :=
  ["bold", "dim", "italic", "underline", "blink", "blink2", "reverse", "conceal", "strike",
    "underline2", "frame", "encircle", "overline"]

structure Style where
  attributes : List (String × Bool) := []
  color : String := ""
  background : String := ""
  link : String := ""

/-- Reads the words of a style. Only the addresses of links keep their case. -/
def Style.read? : Style → List String → Option Style
  | s, [] => some s
  | s, w :: ws =>
    match Text.lower w, ws with
    | "on", w :: ws =>
      if isColor (Text.lower w) then read? { s with background := Text.lower w } ws else none
    | "not", w :: ws =>
      match styleWords.lookup w with
      | some a => read? { s with attributes := (a, false) :: s.attributes } ws
      | none => none
    | "link", w :: ws => read? { s with link := w } ws
    | w, ws =>
      match styleWords.lookup w with
      | some a => read? { s with attributes := (a, true) :: s.attributes } ws
      | none => if isColor w then read? { s with color := w } ws else none

/-- One spelling for equal styles. -/
def normalStyle (name : String) : String :=
  match Style.read? {} (Text.words name) with
  | none => Text.lower (Text.strip name)
  | some s =>
    let attributes := styleOrder.filterMap fun a =>
      (s.attributes.lookup a).map fun on => if on then a else "not " ++ a
    let words := attributes ++ (if s.color == "" then [] else [s.color]) ++
      (if s.background == "" then [] else ["on " ++ s.background]) ++
      (if s.link == "" then [] else ["link " ++ s.link])
    if words.isEmpty then "none" else " ".intercalate words

/-- What stands for a name between colons. A name may ask for a picture as text or as an image. -/
def picture? (name : List Char) : Option String :=
  let variant (suffix : String) (mark : Char) : Option String :=
    if suffix.toList.isSuffixOf name then
      (emoji? (Text.lower (String.ofList (name.take (name.length - suffix.length))))).map
        (· ++ mark.toString)
    else none
  if "-emoji".toList.isSuffixOf name then variant "-emoji" '\ufe0f'
  else if "-text".toList.isSuffixOf name then variant "-text" '\ufe0e'
  else emoji? (Text.lower (String.ofList name))

/-- Puts pictures in place of names between colons. The fuel bounds the length of the text. -/
def pictures : Nat → List Char → List Char
  | 0, cs => cs
  | _, [] => []
  | fuel + 1, c :: cs =>
    if c != ':' then c :: pictures fuel cs
    else
      let name := cs.takeWhile fun d => d != ':' && !Text.isBlank d
      let rest := cs.drop name.length
      if rest.head? != some ':' then c :: pictures fuel cs
      else
        let shown := match picture? name with
          | some s => s.toList
          | none => ':' :: name ++ [':']
        shown ++ pictures fuel (rest.drop 1)

def withPictures (s : String) : String := String.ofList (pictures (s.length + 1) s.toList)

/-- An open tag: its style, or its name and the parameters of what it calls. -/
structure OpenTag where
  name : String
  parameters : Option String

/-- Reads the parameters of a tag that calls something, as values or as a call with values. -/
def OpenTag.check (t : OpenTag) : Except MarkupFault Unit := do
  let given := t.parameters.getD ""
  if !t.name.startsWith "@" || given == "" then return
  let cs := Text.trim Text.isBlank given.toList
  let name := cs.takeWhile fun c => c == '_' || c == '.' || Text.isLetterOrNumber c
  let rest := cs.drop name.length
  let isCall := rest.isEmpty || (rest.head? == some '(' && rest.getLast? == some ')')
  let read := String.ofList (if !isCall then cs else if rest.isEmpty then ['(', ')'] else rest)
  let blank (c : Char) : Bool := c == ' ' || c == '\t'
  match Script.Grammar.readExpression (String.ofList (read.toList.dropWhile blank)) with
  | .ok _ => return
  | .error why => throw (.unreadable read given why)

/-- Takes the innermost open tag of a name off the open ones. -/
def takeOpen? (name : String) : List OpenTag → Option (OpenTag × List OpenTag)
  | [] => none
  | t :: ts =>
    if t.name == name then some (t, ts) else (takeOpen? name ts).map fun (u, us) => (u, t :: us)

/-- The text of markup; `opened` are the tags that are open, the innermost first. -/
def plainOf (opened : List OpenTag) : List MarkupPiece → Except MarkupFault String
  | [] => .ok ""
  | .text s :: rest => do
    return withPictures (Text.replaceAll "\\[" "[" s) ++ (← plainOf opened rest)
  | .tag position name parameters :: rest => do
    if !name.startsWith "/" then
      plainOf ({ name := normalStyle name, parameters } :: opened) rest
    else
      let closed := Text.strip (String.ofList (name.toList.drop 1))
      if closed == "" then
        match opened with
        | [] => throw (.nothingOpen position)
        | t :: opened =>
          t.check
          plainOf opened rest
      else
        match takeOpen? (normalStyle closed) opened with
        | some (t, opened) =>
          t.check
          plainOf opened rest
        | none =>
          let written := match parameters with
            | some p => s!"[{name}={p}]"
            | none => s!"[{name}]"
          throw (.unmatched written (normalStyle closed) position)

/-- The text of a markup text. -/
def plain (s : String) : Except MarkupFault String :=
  if !s.contains '[' then .ok (withPictures s)
  else plainOf [] (markupPieces (s.length + 1) 0 [] s.toList)

/-- Characters that control a terminal and are never printed. -/
def isControl (c : Char) : Bool := [7, 8, 11, 12, 13].contains c.toNat

/-- A text as a console shows it: without these characters, and with blanks up to the next stop for
each tab. -/
def shown (s : String) : String :=
  String.ofList (Text.expandTabs 8 0 (s.toList.filter fun c => !isControl c))

end LiveMarkdown.Console
