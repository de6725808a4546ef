import LiveMarkdown.Document.Entity
import LiveMarkdown.Text.Blank
import LiveMarkdown.Text.Case
import LiveMarkdown.Text.Search
import LiveMarkdown.Text.Quoted

/-!
Markup as a list of events: tags, text, comments and declarations. The reader accepts every text
but a few malformed declarations; what is not markup is text.
-/

namespace LiveMarkdown.Document

/-- The parts of a markup text. A tag that closes itself is `empty`. -/
inductive Event where
  | open (name : String) (attrs : List (String × String))
  | empty (name : String) (attrs : List (String × String))
  | close (name : String)
  | text (s : List Char)
  | charRef (digits : List Char)
  | entityRef (name : List Char)
  | comment (s : List Char)
  | doctype (s : List Char)
  | declaration (s : List Char)
  | instruction (s : List Char)

/-- Why a text is not read. -/
inductive MarkupError where
  | expectedName (near : List Char)
  | unknownSection (keyword : List Char)

def MarkupError.detail : MarkupError → String
  | .expectedName near => "expected name token at " ++ Text.quoted (String.ofList near)
  | .unknownSection k => "unknown status keyword " ++ Text.quoted (String.ofList k) ++
      " in marked section"

def MarkupError.message (e : MarkupError) : String :=
  "The markup you provided was rejected by the parser. Trying a different parser or a different " ++
    "encoding may help.\n\nOriginal error(s) from parser:\n AssertionError: " ++ e.detail

def isAsciiLetter (c : Char) : Bool := ('a' ≤ c && c ≤ 'z') || ('A' ≤ c && c ≤ 'Z')

def isAsciiDigit (c : Char) : Bool := '0' ≤ c && c ≤ '9'

def isHexDigit (c : Char) : Bool := (Text.hexDigit? c).isSome

def lowerChars (cs : List Char) : List Char := (Text.lower (String.ofList cs)).toList

/-- The part of a text before a place where a smaller rest begins. -/
def consumed (cs rest : List Char) : List Char := cs.take (cs.length - rest.length)

/-! ### Character references -/

/-- Code points that a numeric reference does not denote but is read as another character. -/
def replacedCodes : List (Nat × Nat) :=
  [(0x00, 0xfffd), (0x0d, 0x0d), (0x80, 0x20ac), (0x81, 0x81), (0x82, 0x201a), (0x83, 0x192),
    (0x84, 0x201e), (0x85, 0x2026), (0x86, 0x2020), (0x87, 0x2021), (0x88, 0x2c6), (0x89, 0x2030),
    (0x8a, 0x160), (0x8b, 0x2039), (0x8c, 0x152), (0x8d, 0x8d), (0x8e, 0x17d), (0x8f, 0x8f),
    (0x90, 0x90), (0x91, 0x2018), (0x92, 0x2019), (0x93, 0x201c), (0x94, 0x201d), (0x95, 0x2022),
    (0x96, 0x2013), (0x97, 0x2014), (0x98, 0x2dc), (0x99, 0x2122), (0x9a, 0x161), (0x9b, 0x203a),
    (0x9c, 0x153), (0x9d, 0x9d), (0x9e, 0x17e), (0x9f, 0x178)]

/-- Code points that a numeric reference in an attribute drops. -/
def isDroppedCode (n : Nat) : Bool :=
  (1 ≤ n && n ≤ 8) || n == 0xb || (0xe ≤ n && n ≤ 0x1f) || (0x7f ≤ n && n ≤ 0x9f) ||
    (0xfdd0 ≤ n && n ≤ 0xfdef) || (0xfffe ≤ n && n % 0x10000 ≥ 0xfffe)

/-- What a numeric reference in an attribute stands for. -/
def attrCode (n : Nat) : List Char :=
  match replacedCodes.lookup n with
  | some m => [Char.ofNat m]
  | none =>
    if (0xd800 ≤ n && n ≤ 0xdfff) || 0x10ffff < n then ['\ufffd']
    else if isDroppedCode n then []
    else [Char.ofNat n]

/-- What a numeric reference in text stands for: a byte of the Windows character set below 256, else
the code point. -/
def textCode (n : Nat) : List Char :=
  if n = 0 then ['\ufffd']
  else if 0x80 ≤ n && n ≤ 0x9f then
    if [0x81, 0x8d, 0x8f, 0x90, 0x9d].contains n then [Char.ofNat n]
    else [Char.ofNat ((replacedCodes.lookup n).getD n)]
  else if (0xd800 ≤ n && n ≤ 0xdfff) || 0x10ffff < n then ['\ufffd']
  else [Char.ofNat n]

def decimalValue (cs : List Char) : Nat := cs.foldl (fun n c => n * 10 + (c.toNat - 48)) 0

/-- The longest beginning of a name, of two characters or more, that is read without a semicolon. -/
def longestBare (name : List Char) : Nat → Option (List Char × List Char)
  | 0 => none
  | k + 1 =>
    if k + 1 < 2 then none
    else match bareEntity? (name.take (k + 1)) with
      | some s => some (s, name.drop (k + 1))
      | none => longestBare name k

/-- What a named reference in an attribute stands for. -/
def attrEntity (name : List Char) (closed : Bool) : List Char :=
  let tail := if closed then [';'] else []
  match if closed then entity? name else bareEntity? name with
  | some s => s
  | none =>
    match longestBare name name.length with
    | some (s, rest) => s ++ rest ++ tail
    | none => '&' :: name ++ tail

def endsReference (c : Char) : Bool := ['\t', '\n', '\x0c', ' ', '<', '&', '#', ';'].contains c

/-- The text of an attribute with its references replaced. -/
def unescapeAttr : Nat → List Char → List Char
  | 0, cs => cs
  | _, [] => []
  | fuel + 1, '&' :: cs =>
    let (body, value) : List Char × Option (List Char) :=
      match cs with
      | '#' :: x :: rest =>
        let hex := if x = 'x' ∨ x = 'X' then rest.takeWhile isHexDigit else []
        let dec := (x :: rest).takeWhile isAsciiDigit
        if hex ≠ [] then ('#' :: x :: hex, some (attrCode (Text.hexValue hex)))
        else if dec ≠ [] then ('#' :: dec, some (attrCode (decimalValue dec)))
        else ([], none)
      | _ =>
        let name := (cs.takeWhile fun c => !endsReference c).take 32
        if name = [] then ([], none)
        else (name, some (attrEntity name ((cs.drop name.length).head? == some ';')))
    match value with
    | some v =>
      let rest := cs.drop body.length
      v ++ unescapeAttr fuel (if rest.head? = some ';' then rest.drop 1 else rest)
    | none => '&' :: unescapeAttr fuel cs
  | fuel + 1, c :: cs => c :: unescapeAttr fuel cs

/-! ### Tags -/

def endsTagName (c : Char) : Bool :=
  ['\t', '\n', '\r', '\x0c', ' ', '/', '>', '\x00'].contains c

/-- Drops blanks, and slashes that no angle bracket follows. -/
def dropFiller : List Char → List Char
  | '/' :: '>' :: cs => '/' :: '>' :: cs
  | c :: cs => if Text.isBlank c || c == '/' then dropFiller cs else c :: cs
  | [] => []

def isQuote (c : Char) : Bool := c == '\x27' || c == '\x22'

/-- A value after an equals sign: in quotes, or up to a blank or an angle bracket. -/
def attrValue? (cs : List Char) : Option (List Char × List Char) :=
  match cs with
  | [] => some ([], [])
  | q :: rest =>
    if isQuote q then
      let v := rest.takeWhile (· ≠ q)
      match rest.drop v.length with
      | _ :: after => some (v, after)
      | [] => none
    else
      let v := cs.takeWhile fun c => c != '>' && !Text.isBlank c
      some (v, cs.drop v.length)

/-- A value with the equals signs before it. A quote that is not closed begins no value; then the
value is empty if a blank stands before the quote, and otherwise begins with the last of several
equals signs. -/
def assigned? (cs : List Char) : Option (List Char × List Char) :=
  let start := cs.dropWhile Text.isBlank
  let signs := start.takeWhile (· == '=')
  if signs = [] then none
  else
    let after := start.drop signs.length
    let tight := after.dropWhile Text.isBlank
    match attrValue? tight with
    | some r => some r
    | none =>
      if tight.length < after.length then some ([], tight)
      else if 2 ≤ signs.length then
        let cs := '=' :: tight
        let v := cs.takeWhile fun c => c != '>' && !Text.isBlank c
        some (v, cs.drop v.length)
      else none

/-- An attribute: a name that follows a quote, a blank or a slash, and maybe a value. -/
def attribute? (prev : Char) (cs : List Char) :
    Option (List Char × Option (List Char) × List Char) :=
  match cs with
  | [] => none
  | c :: rest =>
    if !(isQuote prev || Text.isBlank prev || prev == '/') then none
    else if Text.isBlank c || c == '/' || c == '>' then none
    else
      let more := rest.takeWhile fun d => !(Text.isBlank d || d == '/' || d == '=' || d == '>')
      let after := rest.drop more.length
      match assigned? after with
      | some (v, after) => some (c :: more, some v, dropFiller after)
      | none => some (c :: more, none, dropFiller after)

/-- The attributes of a tag and what follows them. -/
def attributes (prev : Char) : Nat → List Char →
    List (List Char × Option (List Char)) × List Char
  | 0, cs => ([], cs)
  | fuel + 1, cs =>
    match attribute? prev cs with
    | none => ([], cs)
    | some (name, value, rest) =>
      let last := ((consumed cs rest).getLast?).getD prev
      let (as, rest) := attributes last fuel rest
      ((name, value) :: as, rest)

/-- Where a tag ends: behind its bracket, or where it breaks off, or nowhere if it is incomplete. -/
def tagEnd? (cs afterName : List Char) : Option (List Char) :=
  let start := afterName.dropWhile fun c => Text.isBlank c || c == '/'
  let prev := ((consumed cs start).getLast?).getD '<'
  let (_, rest) := attributes prev start.length start
  let rest := rest.dropWhile Text.isBlank
  match rest with
  | '>' :: rest => some rest
  | '/' :: '>' :: rest => some rest
  | [] => none
  | c :: _ => if isAsciiLetter c || c == '=' || c == '/' then none else some rest

/-- The name of a start tag, its attributes, and what follows them. An attribute may come without a
value. `cs` begins with the angle bracket. -/
def tagParts (cs : List Char) : String × List (String × Option String) × List Char :=
  let inner := cs.drop 1
  let name := inner.takeWhile fun c => !endsTagName c
  let body := dropFiller (inner.drop name.length)
  let prev := ((consumed cs body).getLast?).getD '<'
  let (as, tail) := attributes prev body.length body
  let attrs := as.map fun (n, v) =>
    (String.ofList (lowerChars n), v.map fun v => String.ofList (unescapeAttr (v.length + 1) v))
  (String.ofList (lowerChars name), attrs, tail)

/-- A start tag: its event and the rest, or nothing if it is incomplete. `cs` begins with the angle
bracket. -/
def startTag? (cs : List Char) : Option (Event × List Char) :=
  let inner := cs.drop 1
  let name := inner.takeWhile fun c => !endsTagName c
  match tagEnd? cs (inner.drop name.length) with
  | none => none
  | some rest =>
    let whole := consumed cs rest
    let (tagName, attrs, tail) := tagParts cs
    let attrs := attrs.map fun (n, v) => (n, v.getD "")
    let ending := Text.trim Text.isBlank (tail.take (tail.length - rest.length))
    if ending = ['>'] then some (.open tagName attrs, rest)
    else if ending = ['/', '>'] then some (.empty tagName attrs, rest)
    else some (.text whole, rest)

def isEndNamePart (c : Char) : Bool :=
  isAsciiLetter c || isAsciiDigit c || ['-', '.', ':', '_'].contains c

/-- A well-formed end tag: its name and the rest. -/
def plainEndTag? (cs : List Char) : Option (List Char × List Char) :=
  match cs with
  | '<' :: '/' :: cs =>
    match cs.dropWhile Text.isBlank with
    | c :: cs =>
      if isAsciiLetter c then
        let more := cs.takeWhile isEndNamePart
        match (cs.drop more.length).dropWhile Text.isBlank with
        | '>' :: rest => some (c :: more, rest)
        | _ => none
      else none
    | [] => none
  | _ => none

/-- The text before the first occurrence of a character, and the text after it. -/
def upTo? (stop : Char) (cs : List Char) : Option (List Char × List Char) :=
  let before := cs.takeWhile (· ≠ stop)
  match cs.drop before.length with
  | _ :: rest => some (before, rest)
  | [] => none

/-- An end tag, or a comment where no name follows the slash. -/
def endTag? (cs : List Char) : Option (List Event × List Char) :=
  match upTo? '>' (cs.drop 1) with
  | none => none
  | some _ =>
    match plainEndTag? cs with
    | some (name, rest) => some ([.close (String.ofList (lowerChars name))], rest)
    | none =>
      let body := cs.drop 2
      match body with
      | '>' :: rest => some ([], rest)
      | c :: _ =>
        if isAsciiLetter c then
          let name := body.takeWhile fun c => !endsTagName c
          let after := dropFiller (body.drop name.length)
          let closed := Event.close (String.ofList (lowerChars name))
          match upTo? '>' after with
          | some (_, rest) => some ([closed], rest)
          | none => some ([closed], cs)
        else match upTo? '>' body with
          | some (s, rest) => some ([.comment s], rest)
          | none => none
      | [] => none

/-! ### Declarations -/

/-- The text before the first place where a closing mark stands, and the rest behind the mark. -/
def closing? (mark : List Char → Option (List Char)) : List Char → List Char →
    Option (List Char × List Char)
  | _, [] => none
  | before, c :: cs =>
    match mark (c :: cs) with
    | some rest => some (before.reverse, rest)
    | none => closing? mark (c :: before) cs

/-- Two hyphens, blanks and an angle bracket. -/
def commentEnd : List Char → Option (List Char)
  | '-' :: '-' :: cs =>
    match cs.dropWhile Text.isBlank with
    | '>' :: rest => some rest
    | _ => none
  | _ => none

/-- A square bracket, or two if asked for, and an angle bracket, with blanks between them. -/
def sectionEnd (double : Bool) (cs : List Char) : Option (List Char) :=
  let bracket : List Char → Option (List Char)
    | ']' :: cs => some (cs.dropWhile Text.isBlank)
    | _ => none
  match if double then (bracket cs).bind bracket else bracket cs with
  | some ('>' :: rest) => some rest
  | _ => none

def isSectionNamePart (c : Char) : Bool :=
  isAsciiLetter c || isAsciiDigit c || ['-', '_', '.'].contains c

/-- A marked section. `cs` begins with `<![`. -/
def section? (cs : List Char) : Except MarkupError (Option (Event × List Char)) :=
  match cs.drop 3 with
  | [] => .ok none
  | c :: body =>
    if !isAsciiLetter c then .error (.expectedName (cs.take 20))
    else
      let name := c :: body.takeWhile isSectionNamePart
      let after := ((c :: body).drop name.length).dropWhile Text.isBlank
      if after = [] then .ok none
      else
        let key := String.ofList (lowerChars name)
        let finish (double : Bool) :=
          (closing? (sectionEnd double) [] (c :: body)).map fun (s, rest) =>
            (Event.declaration s, rest)
        if ["temp", "cdata", "ignore", "include", "rcdata"].contains key then .ok (finish true)
        else if ["if", "else", "endif"].contains key then .ok (finish false)
        else .error (.unknownSection ((c :: body).take ((c :: body).length - after.length)))

/-- What begins with an angle bracket and an exclamation mark. -/
def declaration? (cs : List Char) : Except MarkupError (Option (Event × List Char)) :=
  if "<!--".toList.isPrefixOf cs then
    .ok ((closing? commentEnd [] (cs.drop 4)).map fun (s, rest) => (.comment s, rest))
  else if "<![".toList.isPrefixOf cs then section? cs
  else if lowerChars (cs.take 9) = "<!doctype".toList then
    match upTo? '>' (cs.drop 9) with
    | some (s, rest) => .ok (some (.doctype (s.drop 1), rest))
    | none => .ok none
  else .ok ((upTo? '>' (cs.drop 2)).map fun (s, rest) => (.comment s, rest))

/-! ### The reader -/

/-- What one step of the reader finds: events and the rest, or that the text breaks off here, with
the rest at which reading may go on. -/
inductive Step where
  | go (events : List Event) (rest : List Char)
  | stop (events : List Event) (rest : List Char)

/-- Elements whose content is no markup. -/
def isRaw (name : String) : Bool := name == "script" || name == "style"

/-- The end tag of an element with raw content, at the beginning of a text. -/
def rawEnd (name : String) (cs : List Char) : Option (List Char) :=
  match cs with
  | '<' :: '/' :: cs =>
    let cs := cs.dropWhile Text.isBlank
    let n := name.length
    if lowerChars (cs.take n) = name.toList then
      match (cs.drop n).dropWhile Text.isBlank with
      | '>' :: rest => some rest
      | _ => none
    else none
  | _ => none

/-- A numeric reference: its digits and the rest. A character that is no digit must follow. -/
def charRef? (cs : List Char) : Option (List Char × List Char) :=
  match cs with
  | '&' :: '#' :: x :: rest =>
    let hex := if x = 'x' ∨ x = 'X' then rest.takeWhile isHexDigit else []
    let body := if hex ≠ [] then x :: hex else (x :: rest).takeWhile isAsciiDigit
    if body = [] then none
    else match (x :: rest).drop body.length with
      | c :: after =>
        if isHexDigit c then none
        else if c = ';' then some (body, after) else some (body, c :: after)
      | [] => none
  | _ => none

/-- A named reference: its name and the rest. A character that is no letter or digit must follow. -/
def entityRef? (cs : List Char) : Option (List Char × List Char) :=
  match cs with
  | '&' :: c :: rest =>
    if !isAsciiLetter c then none
    else
      let isPart (d : Char) := isAsciiLetter d || isAsciiDigit d || d == '-' || d == '.'
      let full := rest.takeWhile isPart
      match rest.drop full.length with
      | d :: after => some (c :: full, if d = ';' then after else d :: after)
      | [] =>
        -- at the end of the text the name gives back its last mark
        let name := Text.dropLastWhile (fun d => isAsciiLetter d || isAsciiDigit d) full
        if name = [] then none
        else some (c :: name.dropLast, rest.drop (name.length - 1))
  | _ => none

/-- One step at an angle bracket. At the end of the text, what is incomplete becomes text. -/
def stepTag (final : Bool) (cs : List Char) : Except MarkupError Step := do
  let found : Option (List Event × List Char) ←
    match cs with
    | '<' :: c :: _ =>
      if isAsciiLetter c then pure ((startTag? cs).map fun (e, rest) => ([e], rest))
      else if c = '/' then pure (endTag? cs)
      else if c = '?' then
        pure ((upTo? '>' (cs.drop 2)).map fun (s, rest) => ([.instruction s], rest))
      else if c = '!' then pure ((← declaration? cs).map fun (e, rest) => ([e], rest))
      else pure (some ([.text ['<']], cs.drop 1))
    | _ => return .stop [] cs
  match found with
  | some (es, rest) => return .go es rest
  | none =>
    if !final then return .stop [] cs
    let inner := cs.drop 1
    let rest := match upTo? '>' inner with
      | some (_, rest) => rest
      | none => match upTo? '<' inner with
        | some (before, _) => inner.drop before.length
        | none => inner
    return .go [.text (consumed cs rest)] rest

/-- One step at an ampersand. -/
def stepReference (final : Bool) (cs : List Char) : Step :=
  match cs with
  | '&' :: '#' :: _ =>
    match charRef? cs with
    | some (digits, rest) => .go [.charRef digits] rest
    | none => if cs.contains ';' then .stop [.text ['&', '#']] (cs.drop 2) else .stop [] cs
  | _ =>
    match entityRef? cs with
    | some (name, rest) => .go [.entityRef name] rest
    | none =>
      match cs with
      | '&' :: c :: rest =>
        if isAsciiLetter c then
          if final && rest.isEmpty then .stop [] (c :: rest) else .stop [] cs
        else .go [.text ['&']] (c :: rest)
      | _ => .stop [] cs

/-- The name of the raw element that some events open. -/
def rawOpened (es : List Event) : Option String :=
  match es.getLast? with
  | some (.open name _) => if isRaw name then some name else none
  | _ => none

/-- Reads until the text ends or breaks off. Returns the events, the rest, and the raw element that
is open. -/
def readPass (final : Bool) (raw : Option String) : Nat → List Char →
    Except MarkupError (List Event × List Char × Option String)
  | 0, cs => return ([], cs, raw)
  | fuel + 1, cs =>
    match raw with
    | some name =>
      match closing? (rawEnd name) [] cs with
      | none => return ([], cs, raw)
      | some (s, rest) => do
        let (es, r) ← readPass final none fuel rest
        return ((if s = [] then [] else [.text s]) ++ .close name :: es, r)
    | none =>
      if cs = [] then return ([], [], none)
      else
        let before := cs.takeWhile fun c => c != '<' && c != '&'
        let first : List Event := if before = [] then [] else [.text before]
        let cs := cs.drop before.length
        if cs = [] then return (first, [], none)
        else do
          let step ← if cs.head? = some '<' then stepTag final cs
            else pure (stepReference final cs)
          match step with
          | .stop es rest => return (first ++ es, rest, none)
          | .go es rest =>
            let (more, r) ← readPass final (rawOpened es) fuel rest
            return (first ++ es ++ more, r)

/-- The events of a markup text. What the first pass cannot finish is read again as the end of the
text; what is then left over is text, unless it is raw content without an end, which is dropped. -/
def readEvents (cs : List Char) : Except MarkupError (List Event) := do
  let (es, rest, raw) ← readPass false none (cs.length + 1) cs
  let (es', rest, raw) ← readPass true raw (rest.length + 1) rest
  return es ++ es' ++ (if rest = [] || raw.isSome then [] else [.text rest])

end LiveMarkdown.Document
