import LiveMarkdown.Prose.Piece

/-!
Markup among prose. A block element that begins a line is finished markup up to its end tag; so are
comments, instructions and declarations that begin a line. Other tags stay in the text.
-/

namespace LiveMarkdown.Prose.RawBlock

/-- What a passage begins with: `size` pieces of it are the token. -/
inductive Token where
  | startTag (name : String) (closed : Bool) (size : Nat)
  | endTag (name : String) (size : Nat)
  | whole (isBlock : Bool) (markup : List Char) (size : Nat)
  | text (size : Nat)

/-- Where a tag ends, after its attributes, and whether it closes itself. `apart` says whether an
attribute may begin here. -/
def tagEnd? : Nat → Bool → Passage → Option (Bool × Passage)
  | 0, _, _ => none
  | _, _, [] => none
  | fuel + 1, apart, x :: xs =>
    if x.isChar '>' then some (false, xs)
    else if x.isChar '/' then
      match xs with
      | y :: rest => if y.isChar '>' then some (true, rest) else tagEnd? fuel true xs
      | [] => none
    else if x.isBlank then tagEnd? fuel true xs
    else if !apart || x.isChar '\x60' || x.char?.isNone then none
    else
      let ends (c : Char) : Bool := Text.isBlank c || c == '/' || c == '=' || c == '>'
      let rest := xs.dropWhile fun y => !y.isIn ends
      let value := Passage.trimStart rest
      match value with
      | y :: more =>
        if !y.isChar '=' then tagEnd? fuel false rest
        else
          let more := Passage.trimStart (more.dropWhile (Piece.isChar '='))
          match more with
          | q :: inner =>
            if q.isChar '"' || q.isChar '\x27' then
              match inner.dropWhile (fun z => !(z == q)) with
              | _ :: after => tagEnd? fuel true after
              | [] => none
            else
              tagEnd? fuel false (more.dropWhile fun z =>
                !z.isIn fun c => Text.isBlank c || c == '>' || c == '\x60')
          | [] => none
      | [] => none

/-- The name of a tag. -/
def tagName (xs : Passage) : List Char :=
  (xs.takeWhile fun x => x.char?.isSome && !x.isIn fun c =>
    Text.isBlank c || c == '/' || c == '>' || c == '\x60').filterMap Piece.char?

def lowered (cs : List Char) : String := String.ofList (cs.map Char.toLower)

def startTag? (xs : Passage) : Option Token :=
  match xs with
  | x :: rest =>
    let name := tagName rest
    if x.isChar '<' && (name.head?.map Char.isAlpha).getD false then
      (tagEnd? (rest.length + 1) false (rest.drop name.length)).map fun (closed, after) =>
        .startTag (lowered name) closed (xs.length - after.length)
    else none
  | [] => none

def endTag? (xs : Passage) : Option Token :=
  if !Passage.hasPrefix "</" xs then none
  else
    let name := tagName (xs.drop 2)
    let body := xs.takeWhile fun x => !x.isChar '>'
    if (name.head?.map Char.isAlpha).getD false && body.length < xs.length then
      some (.endTag (lowered name) (body.length + 1))
    else none

/-- Markup between two marks. -/
def between? (first last : String) (xs : Passage) : Option Token :=
  if !Passage.hasPrefix first xs then none
  else
    (Passage.find? last (xs.drop first.length)).map fun n =>
      let size := first.length + n + last.length
      .whole true (Passage.plainChars (xs.take size)) size

/-- A reference to a character, which always ends with a semicolon in what it leaves behind. -/
def reference? (xs : Passage) : Option Token :=
  let letters (p : Char → Bool) (ys : Passage) : Passage := ys.takeWhile (Piece.isIn p)
  let closed (ys : Passage) : Bool := (ys.head?.map (Piece.isChar ';')).getD false
  let made (body : Passage) : Token :=
    .whole false (Passage.plainChars body ++ [';'])
      (body.length + if closed (xs.drop body.length) then 1 else 0)
  let isHex (c : Char) : Bool :=
    c.isDigit || ('a' ≤ c && c ≤ 'f') || ('A' ≤ c && c ≤ 'F')
  if Passage.hasPrefix "&#x" xs || Passage.hasPrefix "&#X" xs then
    let body := letters isHex (xs.drop 3)
    if body.isEmpty || (xs.drop (3 + body.length)).isEmpty then none
    else some (made (xs.take (3 + body.length)))
  else if Passage.hasPrefix "&#" xs then
    let body := letters Char.isDigit (xs.drop 2)
    let next := xs.drop (2 + body.length)
    if body.isEmpty || next.isEmpty || (next.head?.map (Piece.isIn isHex)).getD false then none
    else some (made (xs.take (2 + body.length)))
  else
    let name := letters (fun c => c.isAlphanum || c == '-' || c == '.') (xs.drop 1)
    let size := name.length + 1
    if (name.head?.map (Piece.isIn Char.isAlpha)).getD false && closed (xs.drop size) then
      some (made (xs.take size))
    else none

/-- The token that a passage begins with. Instructions and declarations count only where a block of
markup may begin. -/
def token (mayBegin : Bool) (xs : Passage) : Token :=
  let plain : Passage := xs.takeWhile fun x => !x.isChar '<' && !x.isChar '&'
  if !plain.isEmpty then .text plain.length
  else if Passage.hasPrefix "&" xs then (reference? xs).getD (.text 1)
  else
    let found := startTag? xs <|> endTag? xs <|> between? "<!--" "-->" xs <|>
      (if mayBegin then
        between? "<?" "?>" xs <|> between? "<![CDATA[" "]]>" xs <|> between? "<!" ">" xs
      else none)
    found.getD (.text 1)

structure State where
  /-- The text so far, the last piece first. -/
  out : Passage := []
  /-- The markup of the block at hand. -/
  cache : List Char := []
  /-- The open elements of the block, the innermost first. -/
  inside : List String := []
  inBlock : Bool := false
  /-- Whether a block ended on this line. -/
  inTail : Bool := false
  /-- How far the line has come, and whether it is blank so far. -/
  column : Nat := 0
  blank : Bool := true
  /-- Whether all that follows a line feed of the text so far begins a line, as is so inside of open
  elements, which the text does not hold yet. -/
  loose : Bool := false

def State.atLineStart (s : State) : Bool :=
  s.column == 0 || (s.column ≤ 3 && s.blank) ||
    (s.loose && (s.out.head?.map (Piece.isChar '\n')).getD false)

def State.emit (s : State) (xs : Passage) : State := { s with out := xs.reverse ++ s.out }

/-- Adds markup to the block at hand. -/
def State.keep (s : State) (cs : List Char) : State := { s with cache := s.cache ++ cs }

/-- Counts pieces that were read. -/
def State.advance (s : State) (xs : Passage) : State :=
  xs.foldl (fun s x =>
    if x.isChar '\n' then { s with column := 0, blank := true }
    else { s with column := s.column + 1, blank := s.blank && x.isBlank }) s

/-- Whether the rest of the line and the line after it are blank. -/
def emptyLineFollows (xs : Passage) : Bool :=
  let line (ys : Passage) : Option Passage :=
    match ys.dropWhile (Piece.isChar ' ') with
    | y :: rest => if y.isChar '\n' then some rest else none
    | [] => none
  ((line xs).bind line).isSome

/-- A second line feed after a single one. -/
def State.setApart (s : State) : State :=
  match s.out with
  | [x] => if x.isChar '\n' then s.emit [.char '\n'] else s
  | x :: y :: _ => if x.isChar '\n' && !y.isChar '\n' then s.emit [.char '\n'] else s
  | [] => s

/-- Markup that stands for itself. -/
def State.single (s : State) (isBlock : Bool) (markup : List Char) (rest : Passage) : State :=
  if s.inBlock || s.inTail then s.keep markup
  else if s.atLineStart && isBlock then
    let blankAfter := emptyLineFollows rest
    let markup := if blankAfter then markup ++ ['\n'] else markup
    let s := s.setApart.emit [.raw (String.ofList markup), .char '\n', .char '\n']
    { s with inTail := !blankAfter }
  else s.emit (Passage.ofChars markup)

def State.start (s : State) (name : String) (size : Nat) (xs : Passage) : State :=
  let source := xs.take size
  if name == "hr" && (s.atLineStart || s.inTail) then
    s.single true (Passage.plainChars source) (xs.drop size)
  else
    let opens := Element.isBlockName name && (s.inTail || (s.atLineStart && !s.inBlock))
    let s := if opens then { s.emit [.char '\n'] with inBlock := true } else s
    if s.inBlock then
      { s.keep (Passage.plainChars source) with inside := name :: s.inside }
    else s.emit source

def State.finish (s : State) (name : String) (size : Nat) (xs : Passage) : State :=
  let source := xs.take size
  if !s.inBlock then s.emit source
  else
    let s := s.keep (Passage.plainChars source)
    let inside :=
      if s.inside.contains name then (s.inside.dropWhile (· != name)).drop 1 else s.inside
    let s := { s with inside }
    if !inside.isEmpty then s
    else
      let blankAfter := emptyLineFollows (xs.drop size)
      let markup := if blankAfter then s.cache ++ ['\n'] else s.cache
      { s.emit [.raw (String.ofList markup), .char '\n', .char '\n'] with
        inTail := s.inTail || !blankAfter
        inBlock := false
        cache := [] }

def State.data (s : State) (xs : Passage) : State :=
  let s := { s with inTail := s.inTail && !xs.any (Piece.isChar '\n') }
  if s.inBlock then s.keep (Passage.plainChars xs) else s.emit xs

/-- Elements whose content holds no tags but their own end tag. -/
def isOpaque (name : String) : Bool := name == "script" || name == "style"

/-- The content of an element up to its end tag. -/
def opaqueSize (name : String) : Passage → Nat
  | [] => 0
  | x :: xs =>
    match endTag? (x :: xs) with
    | some (.endTag n _) => if n == name then 0 else opaqueSize name xs + 1
    | _ => opaqueSize name xs + 1

def step (s : State) (xs : Passage) : State × Nat :=
  match token (s.atLineStart || s.inTail) xs with
  | .text n => (s.data (xs.take n), n)
  | .whole isBlock markup n => (s.single isBlock markup (xs.drop n), n)
  | .endTag name n => (s.finish name n xs, n)
  | .startTag name true n =>
    (s.single (Element.isBlockName name) (Passage.plainChars (xs.take n)) (xs.drop n), n)
  | .startTag name false n =>
    let s := s.start name n xs
    if s.inBlock && isOpaque name then
      let m := opaqueSize name (xs.drop n)
      (s.data ((xs.drop n).take m), n + m)
    else (s, n)

def run : Nat → State → Passage → State
  | 0, s, _ => s
  | _, s, [] => s
  | fuel + 1, s, x :: xs =>
    let (s, n) := step s (x :: xs)
    let n := max 1 n
    run fuel (s.advance ((x :: xs).take n)) ((x :: xs).drop n)

/-- The passage with its blocks of markup finished. -/
def extract (xs : Passage) : Passage :=
  let s := run (xs.length + 1) {} xs
  let s := if s.cache.isEmpty then s else s.emit [.raw (String.ofList s.cache)]
  s.out.reverse

end LiveMarkdown.Prose.RawBlock
