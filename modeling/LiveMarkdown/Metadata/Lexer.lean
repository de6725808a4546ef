

/-!
Metadata texts as tokens: marks of structure, references, tags and scalars. A scalar may turn out to
be a key only when the colon behind it is reached; the marks of the key are then put before it.
Indentation opens and closes blocks.
-/

namespace LiveMarkdown.Metadata

/-! ### Tokens -/

/-- How a scalar is written. -/
inductive Style where
  | plain
  | quoted
  | block
deriving DecidableEq, Repr

inductive Token where
  | versionDirective (major : Nat)
  | tagDirective (handle tagPrefix : String)
  | otherDirective
  | documentStart
  | documentEnd
  | blockSequenceStart
  | blockMappingStart
  | blockEnd
  | flowSequenceStart
  | flowSequenceEnd
  | flowMappingStart
  | flowMappingEnd
  | flowEntry
  | blockEntry
  | key
  | value
  | alias (name : String)
  | anchor (name : String)
  /-- A tag with its handle. A verbatim tag has none. -/
  | tag (handle : Option String) (suffix : String)
  | scalar (style : Style) (text : String)
  | done
deriving DecidableEq, Repr

/-- Why metadata cannot be read. -/
inductive Refusal where
  | malformed
  /-- A code point that no character has. -/
  | noSuchCharacter (code : Nat)
deriving DecidableEq, Repr

namespace Token

/-- Characters that end a line, and the end of the text. -/
def isBreakOrEnd (c : Char) : Bool := "\x00\r\n\x85\u2028\u2029".toList.contains c

def isBreak (c : Char) : Bool := c ≠ '\x00' && isBreakOrEnd c

def isBlankOrEnd (c : Char) : Bool := c = ' ' || isBreakOrEnd c

def isSpaceOrEnd (c : Char) : Bool := c = '\t' || isBlankOrEnd c

/-- Characters of names of anchors and directives. -/
def isNameChar (c : Char) : Bool :=
  ('0' ≤ c && c ≤ '9') || ('A' ≤ c && c ≤ 'Z') || ('a' ≤ c && c ≤ 'z') || c = '-' || c = '_'

/-- Characters that may stand in a metadata text. -/
def isPrintable (c : Char) : Bool :=
  let n := c.toNat
  n = 9 || n = 10 || n = 13 || (32 ≤ n && n ≤ 126) || n = 0x85 || (0xA0 ≤ n && n ≤ 0xD7FF) ||
    (0xE000 ≤ n && n ≤ 0xFFFD) || 0x10000 ≤ n

end Token

/-! ### Reading tokens -/

/-- A place where a key may have begun. -/
structure KeyPlace where
  /-- The number of the first token of the key. -/
  number : Nat
  /-- Whether there has to be a key. -/
  isRequired : Bool
  index : Nat
  line : Nat
  column : Nat

structure Lexer where
  rest : List Char
  index : Nat := 0
  line : Nat := 0
  column : Nat := 0
  indent : Int := -1
  /-- The indentations of the blocks around, innermost first. -/
  indents : List Int := []
  /-- How many brackets are open. -/
  flow : Nat := 0
  mayStartKey : Bool := true
  /-- Where keys may have begun, by the number of open brackets. -/
  keys : List (Nat × KeyPlace) := []
  tokens : Array Token := #[]

/-- Whether a place is too far back to begin a key. -/
def Lexer.isStale (l : Lexer) (k : KeyPlace) : Bool := k.line ≠ l.line || 1024 < l.index - k.index

/-- The tokens that are settled: those before the first one that may still turn out to be a key. -/
def Lexer.settled (l : Lexer) : List Token :=
  let pending := l.keys.filter fun p => !l.isStale p.2
  l.tokens.toList.take (pending.foldl (fun n p => min n p.2.number) l.tokens.size)

abbrev Lex := StateT Lexer (Except Refusal)

namespace Lex

def refuse {α : Type} : Lex α := throw .malformed

/-- A character ahead; behind the text it is NUL, which stands in no text. -/
def peek (n : Nat := 0) : Lex Char := do return (← get).rest.getD n '\x00'

def ahead (n : Nat) : Lex (List Char) := do return (← get).rest.take n

/-- Goes on by one character. -/
def step : Lex Unit := modify fun l =>
  match l.rest with
  | [] => l
  | c :: cs =>
    let l := { l with rest := cs, index := l.index + 1 }
    if c = '\n' || c = '\x85' || c = '\u2028' || c = '\u2029' || (c = '\r' && cs.head? ≠ some '\n')
    then { l with line := l.line + 1, column := 0 }
    else if c = '\ufeff' then l
    else { l with column := l.column + 1 }

def forward : Nat → Lex Unit
  | 0 => return ()
  | n + 1 => do
    step
    forward n

/-- Takes the characters that satisfy a test. The test does not accept the end of the text. -/
def takeWhile (p : Char → Bool) : Lex (List Char) := do
  let cs := (← get).rest.takeWhile p
  forward cs.length
  return cs

def skipSpaces : Lex Unit := do discard (takeWhile (· = ' '))

def push (t : Token) : Lex Unit := modify fun l => { l with tokens := l.tokens.push t }

/-- Reads the end of a line, if there is one: as a line feed, or as the separator that it is. -/
def lineBreak : Lex (List Char) := do
  let c ← peek
  if c = '\r' || c = '\n' || c = '\x85' then
    forward (if (← ahead 2) = ['\r', '\n'] then 2 else 1)
    return ['\n']
  else if c = '\u2028' || c = '\u2029' then
    step
    return [c]
  else return []

/-- Repeats a step while it says so. -/
def repeatWhile : Nat → Lex Bool → Lex Unit
  | 0, _ => return ()
  | fuel + 1, x => do if ← x then repeatWhile fuel x

/-- More steps than any loop over the text takes. -/
def fuel : Lex Nat := do return (← get).rest.length + 3

/-! ### Keys and indentation -/

/-- Forgets places that are too far back to begin a key. -/
def dropStaleKeys : Lex Unit := do
  let l ← get
  if l.keys.any fun p => l.isStale p.2 && p.2.isRequired then refuse
  set { l with keys := l.keys.filter fun p => !l.isStale p.2 }

def dropKey : Lex Unit := do
  let l ← get
  if l.keys.any fun p => p.1 = l.flow && p.2.isRequired then refuse
  set { l with keys := l.keys.filter fun p => p.1 ≠ l.flow }

/-- Notes that a key may begin here. -/
def noteKey : Lex Unit := do
  let isRequired := (← get).flow = 0 && (← get).indent = (← get).column
  if (← get).mayStartKey then
    dropKey
    modify fun l =>
      { l with keys := (l.flow, ⟨l.tokens.size, isRequired, l.index, l.line, l.column⟩) :: l.keys }

def allowKey (b : Bool) : Lex Unit := modify fun l => { l with mayStartKey := b }

/-- Closes the blocks that are indented further than a column. -/
def unwind (column : Int) : Lex Unit := do
  if (← get).flow = 0 then
    repeatWhile ((← get).indents.length + 1) do
      let l ← get
      if l.indent ≤ column then return false
      set { l with
        indent := l.indents.headD (-1)
        indents := l.indents.tail
        tokens := l.tokens.push .blockEnd }
      return true

/-- Opens a block at a column; says whether it is a new one. -/
def openBlock (column : Nat) : Lex Bool := do
  let l ← get
  if l.indent < column then
    set { l with indents := l.indent :: l.indents, indent := column }
    return true
  return false

/-! ### Marks -/

def flowStart (t : Token) : Lex Unit := do
  noteKey
  modify fun l => { l with flow := l.flow + 1, mayStartKey := true }
  step
  push t

def flowEnd (t : Token) : Lex Unit := do
  dropKey
  if (← get).flow = 0 then refuse
  modify fun l => { l with flow := l.flow - 1, mayStartKey := false }
  step
  push t

def flowEntry : Lex Unit := do
  allowKey true
  dropKey
  step
  push .flowEntry

def blockEntry : Lex Unit := do
  let l ← get
  if l.flow = 0 then
    if !l.mayStartKey then refuse
    if ← openBlock l.column then push .blockSequenceStart
  allowKey true
  dropKey
  step
  push .blockEntry

def key : Lex Unit := do
  let l ← get
  if l.flow = 0 then
    if !l.mayStartKey then refuse
    if ← openBlock l.column then push .blockMappingStart
  allowKey (l.flow = 0)
  dropKey
  step
  push .key

def insertAt (n : Nat) (t : Token) : Lex Unit := modify fun l =>
  let ts := l.tokens.toList
  { l with tokens := (ts.take n ++ t :: ts.drop n).toArray }

def value : Lex Unit := do
  let l ← get
  match l.keys.find? fun p => p.1 = l.flow with
  | some (_, k) =>
    set { l with keys := l.keys.filter fun p => p.1 ≠ l.flow }
    insertAt k.number .key
    if l.flow = 0 then
      if ← openBlock k.column then insertAt k.number .blockMappingStart
    allowKey false
  | none =>
    if l.flow = 0 then
      if !l.mayStartKey then refuse
      if ← openBlock l.column then push .blockMappingStart
    allowKey (l.flow = 0)
    dropKey
  step
  push .value

/-! ### Names and tags -/

def reference (make : String → Token) : Lex Unit := do
  noteKey
  allowKey false
  step
  let cs ← takeWhile Token.isNameChar
  if cs.isEmpty then refuse
  let c ← peek
  if !(Token.isSpaceOrEnd c || "?:,]\x7d%@\x60".toList.contains c) then refuse
  push (make (String.ofList cs))

def hexValue? (c : Char) : Option Nat :=
  if '0' ≤ c && c ≤ '9' then some (c.toNat - 48)
  else if 'a' ≤ c && c ≤ 'f' then some (c.toNat - 87)
  else if 'A' ≤ c && c ≤ 'F' then some (c.toNat - 55)
  else none

/-- Reads a number of hexadecimal digits. -/
def hexDigits : Nat → Nat → Lex Nat
  | 0, n => return n
  | count + 1, n => do
    match hexValue? (← peek) with
    | some d =>
      step
      hexDigits count (n * 16 + d)
    | none => refuse

def isTagChar (c : Char) : Bool :=
  Token.isNameChar c || ";/?:@&=+$,.!~*'()[]".toList.contains c

/-- The bytes of a run of escapes. -/
def escapedBytes : Nat → Lex (List UInt8)
  | 0 => return []
  | fuel + 1 => do
    if (← peek) = '%' then
      step
      let n ← hexDigits 2 0
      return UInt8.ofNat n :: (← escapedBytes fuel)
    return []

def tagPart : Nat → Lex (List Char)
  | 0 => return []
  | fuel + 1 => do
    let cs ← takeWhile isTagChar
    if (← peek) = '%' then
      let bytes ← escapedBytes (fuel + 1)
      match String.fromUTF8? ⟨bytes.toArray⟩ with
      | some s => return cs ++ s.toList ++ (← tagPart fuel)
      | none => refuse
    return cs

def tagText : Lex String := do
  let escaped := (← peek) = '%'
  let cs ← tagPart (← fuel)
  if cs.isEmpty && !escaped then refuse
  return String.ofList cs

/-- The handle of a tag: a name between exclamation marks, or one of them. -/
def tagHandle : Lex String := do
  if (← peek) ≠ '!' then refuse
  step
  if (← peek) = ' ' then return "!"
  let cs ← takeWhile Token.isNameChar
  if (← peek) ≠ '!' then refuse
  step
  return "!" ++ String.ofList cs ++ "!"

def tag : Lex Unit := do
  noteKey
  allowKey false
  let c ← peek 1
  let t ←
    if c = '<' then do
      forward 2
      let s ← tagText
      if (← peek) ≠ '>' then refuse
      step
      pure (Token.tag none s)
    else if Token.isSpaceOrEnd c then do
      step
      pure (Token.tag none "!")
    else do
      let word := (← get).rest.tail.takeWhile fun c => !Token.isBlankOrEnd c
      let handle ← if word.contains '!' then tagHandle else do
        step
        pure "!"
      pure (Token.tag (some handle) (← tagText))
  if !Token.isBlankOrEnd (← peek) then refuse
  push t

/-! ### Directives -/

def skipComment : Lex Unit := do
  if (← peek) = '#' then discard (takeWhile fun c => !Token.isBreakOrEnd c)

/-- Skips what may follow on a line. -/
def lineRest : Lex Unit := do
  skipSpaces
  skipComment
  if !Token.isBreakOrEnd (← peek) then refuse
  discard lineBreak

def number : Lex Nat := do
  let cs ← takeWhile Char.isDigit
  if cs.isEmpty then refuse
  return cs.foldl (fun n c => n * 10 + (c.toNat - 48)) 0

def directive : Lex Unit := do
  unwind (-1)
  dropKey
  allowKey false
  step
  let name ← takeWhile Token.isNameChar
  if name.isEmpty then refuse
  if !Token.isBlankOrEnd (← peek) then refuse
  let t ← match String.ofList name with
    | "YAML" => do
      skipSpaces
      let major ← number
      if (← peek) ≠ '.' then refuse
      step
      discard number
      if !Token.isBlankOrEnd (← peek) then refuse
      pure (Token.versionDirective major)
    | "TAG" => do
      skipSpaces
      let handle ← tagHandle
      if (← peek) ≠ ' ' then refuse
      skipSpaces
      let p ← tagText
      if !Token.isBlankOrEnd (← peek) then refuse
      pure (Token.tagDirective handle p)
    | _ => do
      discard (takeWhile fun c => !Token.isBreakOrEnd c)
      pure Token.otherDirective
  lineRest
  push t

def documentMark (t : Token) : Lex Unit := do
  unwind (-1)
  dropKey
  allowKey false
  forward 3
  push t

/-- Whether a mark between documents is ahead, wherever the line begins. -/
def atMark (c : Char) : Lex Bool := do
  return (← ahead 3) = [c, c, c] && Token.isSpaceOrEnd (← peek 3)

def atAnyMark : Lex Bool := do return (← atMark '-') || (← atMark '.')

/-! ### Scalars -/

/-- Whether line ends at the end of a block scalar are all kept, or all dropped. -/
def chomping? (c : Char) : Option Bool :=
  if c = '+' then some true else if c = '-' then some false else none

def blockHeader : Lex (Option Bool × Option Nat) := do
  let digit : Lex (Option Nat) := do
    let c ← peek
    if c = '0' then refuse
    if c.isDigit then
      step
      return some (c.toNat - 48)
    return none
  let result ← match chomping? (← peek) with
    | some b => do
      step
      pure (some b, ← digit)
    | none => do
      let n ← digit
      match n, chomping? (← peek) with
      | some _, some b =>
        step
        pure (some b, n)
      | _, _ => pure (none, n)
  if !Token.isBlankOrEnd (← peek) then refuse
  return result

/-- The line ends before the first line of a block scalar, and how far its blank lines reach. -/
def leadingBreaks : Nat → List Char → Nat → Lex (List Char × Nat)
  | 0, breaks, reach => return (breaks, reach)
  | fuel + 1, breaks, reach => do
    let c ← peek
    if c = ' ' then
      step
      leadingBreaks fuel breaks (max reach (← get).column)
    else if Token.isBreak c then
      let b ← lineBreak
      leadingBreaks fuel (breaks ++ b) reach
    else return (breaks, reach)

def indentSpaces (indent : Nat) : Lex Unit := do
  let missing := indent - (← get).column
  forward (((← get).rest.take missing).takeWhile (· = ' ')).length

/-- The line ends between lines of a block scalar. -/
def innerBreaks (indent : Nat) : Nat → List Char → Lex (List Char)
  | 0, breaks => return breaks
  | fuel + 1, breaks => do
    indentSpaces indent
    if Token.isBreak (← peek) then
      let b ← lineBreak
      innerBreaks indent fuel (breaks ++ b)
    else return breaks

/-- The lines of a block scalar, with the last line end and those behind it. -/
def blockLines (folded : Bool) (indent : Nat) :
    Nat → List Char → List Char → List Char → Lex (List Char × List Char × List Char)
  | 0, text, last, breaks => return (text, last, breaks)
  | fuel + 1, text, last, breaks => do
    if (← get).column = indent && (← peek) ≠ '\x00' then
      let isBlank (c : Char) : Bool := c = ' ' || c = '\t'
      let startsFull := !isBlank (← peek)
      let line ← takeWhile fun c => !Token.isBreakOrEnd c
      let text := text ++ breaks ++ line
      let last ← lineBreak
      let breaks ← innerBreaks indent (← Lex.fuel) []
      if (← get).column = indent && (← peek) ≠ '\x00' then
        let joins := folded && last = ['\n'] && startsFull && !isBlank (← peek)
        let text := if joins then (if breaks.isEmpty then text ++ [' '] else text) else text ++ last
        blockLines folded indent fuel text last breaks
      else return (text, last, breaks)
    else return (text, last, breaks)

def blockScalar (folded : Bool) : Lex Unit := do
  allowKey true
  dropKey
  step
  let (chomping, increment) ← blockHeader
  lineRest
  let least := ((← get).indent + 1).toNat
  let least := max least 1
  let (breaks, indent) ← match increment with
    | none => do
      let (breaks, reach) ← leadingBreaks (← fuel) [] 0
      pure (breaks, max least reach)
    | some n => do
      let indent := least + n - 1
      pure (← innerBreaks indent (← fuel) [], indent)
  let (text, last, breaks) ← blockLines folded indent (← fuel) [] [] breaks
  let text := if chomping = some false then text else text ++ last
  let text := if chomping = some true then text ++ breaks else text
  push (.scalar .block (String.ofList text))

/-- What an escape of one letter stands for. -/
def escape? (c : Char) : Option Char :=
  match c with
  | '0' => some '\x00'
  | 'a' => some '\x07'
  | 'b' => some '\x08'
  | 't' | '\t' => some '\t'
  | 'n' => some '\n'
  | 'v' => some '\x0b'
  | 'f' => some '\x0c'
  | 'r' => some '\r'
  | 'e' => some '\x1b'
  | ' ' | '"' | '\\' | '/' => some c
  | 'N' => some '\x85'
  | '_' => some '\xa0'
  | 'L' => some '\u2028'
  | 'P' => some '\u2029'
  | _ => none

/-- The number of digits of a numeric escape. -/
def escapeLength? (c : Char) : Option Nat :=
  match c with
  | 'x' => some 2
  | 'u' => some 4
  | 'U' => some 8
  | _ => none

/-- The line ends inside of a quoted scalar. A mark between documents may not stand there. -/
def quotedBreaks : Nat → List Char → Lex (List Char)
  | 0, breaks => return breaks
  | fuel + 1, breaks => do
    if ← atAnyMark then refuse
    discard (takeWhile fun c => c = ' ' || c = '\t')
    if Token.isBreak (← peek) then
      let b ← lineBreak
      quotedBreaks fuel (breaks ++ b)
    else return breaks

/-- The part of a quoted scalar up to a blank, a line end or the closing quote. -/
def quotedWord (double : Bool) : Nat → List Char → Lex (List Char)
  | 0, text => return text
  | fuel + 1, text => do
    let cs ← takeWhile fun c => !(Token.isSpaceOrEnd c || "'\"\\".toList.contains c)
    let text := text ++ cs
    let c ← peek
    if !double && c = '\'' && (← peek 1) = '\'' then
      forward 2
      quotedWord double fuel (text ++ ['\''])
    else if (double && c = '\'') || (!double && (c = '"' || c = '\\')) then
      step
      quotedWord double fuel (text ++ [c])
    else if double && c = '\\' then
      step
      let c ← peek
      match escape? c, escapeLength? c with
      | some x, _ =>
        step
        quotedWord double fuel (text ++ [x])
      | none, some n =>
        step
        let code ← hexDigits n 0
        if 0x110000 ≤ code then throw (.noSuchCharacter code)
        quotedWord double fuel (text ++ [Char.ofNat code])
      | none, none =>
        if Token.isBreak c then
          discard lineBreak
          let breaks ← quotedBreaks (← Lex.fuel) []
          quotedWord double fuel (text ++ breaks)
        else refuse
    else return text

/-- Blanks and line ends inside of a quoted scalar. A single line end is a blank. -/
def quotedSpaces : Lex (List Char) := do
  let blanks ← takeWhile fun c => c = ' ' || c = '\t'
  let c ← peek
  if c = '\x00' then refuse
  if Token.isBreak c then
    let b ← lineBreak
    let breaks ← quotedBreaks (← fuel) []
    if b ≠ ['\n'] then return b ++ breaks
    return if breaks.isEmpty then [' '] else breaks
  return blanks

def quotedParts (quote : Char) : Nat → List Char → Lex (List Char)
  | 0, text => return text
  | fuel + 1, text => do
    let text := text ++ (← quotedWord (quote = '"') (← Lex.fuel) [])
    if (← peek) = quote then return text
    let spaces ← quotedSpaces
    quotedParts quote fuel (text ++ spaces)

def quotedScalar : Lex Unit := do
  noteKey
  allowKey false
  let quote ← peek
  step
  let text ← quotedParts quote (← fuel) []
  step
  push (.scalar .quoted (String.ofList text))

/-- The length of the part of a plain scalar up to a blank or a mark. -/
def plainLength (inFlow : Bool) : List Char → Nat
  | [] => 0
  | c :: cs =>
    let next := cs.headD '\x00'
    let ends := Token.isSpaceOrEnd c ||
      (c = ':' && (Token.isSpaceOrEnd next || (inFlow && ",[]\x7b\x7d".toList.contains next))) ||
      (inFlow && ",?[]\x7b\x7d".toList.contains c)
    if ends then 0 else plainLength inFlow cs + 1

/-- The line ends inside of a plain scalar; none at a mark between documents. -/
def plainBreaks : Nat → List Char → Lex (Option (List Char))
  | 0, breaks => return some breaks
  | fuel + 1, breaks => do
    let c ← peek
    if c = ' ' then
      step
      plainBreaks fuel breaks
    else if Token.isBreak c then
      let b ← lineBreak
      if ← atAnyMark then return none
      plainBreaks fuel (breaks ++ b)
    else return some breaks

/-- Blanks and line ends inside of a plain scalar. -/
def plainSpaces : Lex (List Char) := do
  let blanks ← takeWhile (· = ' ')
  if Token.isBreak (← peek) then
    let b ← lineBreak
    allowKey true
    if ← atAnyMark then return []
    match ← plainBreaks (← fuel) [] with
    | none => return []
    | some breaks =>
      if b ≠ ['\n'] then return b ++ breaks
      return if breaks.isEmpty then [' '] else breaks
  return blanks

def plainParts (indent : Int) : Nat → List Char → List Char → Lex (List Char)
  | 0, text, _ => return text
  | fuel + 1, text, spaces => do
    if (← peek) = '#' then return text
    let inFlow := (← get).flow ≠ 0
    let n := plainLength inFlow (← get).rest
    if n = 0 then return text
    allowKey false
    let word := (← get).rest.take n
    forward n
    let text := text ++ spaces ++ word
    let spaces ← plainSpaces
    if spaces.isEmpty || (← peek) = '#' || (!inFlow && (← get).column < indent) then return text
    plainParts indent fuel text spaces

def plainScalar : Lex Unit := do
  noteKey
  allowKey false
  let text ← plainParts ((← get).indent + 1) (← fuel) [] []
  push (.scalar .plain (String.ofList text))

/-! ### All tokens -/

/-- Skips blanks, comments and line ends before a token. -/
def skipToToken : Lex Unit := do
  if (← get).index = 0 && (← peek) = '\ufeff' then step
  repeatWhile (← fuel) do
    skipSpaces
    skipComment
    if (← lineBreak).isEmpty then return false
    if (← get).flow = 0 then allowKey true
    return true

/-- Whether a plain scalar may begin here. -/
def atPlain : Lex Bool := do
  let c ← peek
  let next ← peek 1
  let isMark := Token.isSpaceOrEnd c || "-?:,[]\x7b\x7d#&*!|>'\"%@\x60".toList.contains c
  return !isMark || (!Token.isSpaceOrEnd next &&
    (c = '-' || ((← get).flow = 0 && (c = '?' || c = ':'))))

/-- Reads the next token; says whether there are more. -/
def next : Lex Bool := do
  skipToToken
  dropStaleKeys
  unwind (← get).column
  let c ← peek
  let atStart := (← get).column = 0
  let inFlow := (← get).flow ≠ 0
  let endsMark := inFlow || Token.isSpaceOrEnd (← peek 1)
  if c = '\x00' then
    unwind (-1)
    dropKey
    push .done
    return false
  if c = '%' && atStart then directive
  else if c = '-' && atStart && (← atMark '-') then documentMark .documentStart
  else if c = '.' && atStart && (← atMark '.') then documentMark .documentEnd
  else if c = '[' then flowStart .flowSequenceStart
  else if c = '\x7b' then flowStart .flowMappingStart
  else if c = ']' then flowEnd .flowSequenceEnd
  else if c = '\x7d' then flowEnd .flowMappingEnd
  else if c = ',' then flowEntry
  else if c = '-' && Token.isSpaceOrEnd (← peek 1) then blockEntry
  else if c = '?' && endsMark then key
  else if c = ':' && endsMark then value
  else if c = '*' then reference .alias
  else if c = '&' then reference .anchor
  else if c = '!' then tag
  else if c = '|' && !inFlow then blockScalar false
  else if c = '>' && !inFlow then blockScalar true
  else if c = '\'' || c = '"' then quotedScalar
  else if ← atPlain then plainScalar
  else refuse
  return true

/-- Reads tokens until there are no more, or until one cannot be read: then only those that were
settled before it are given. -/
def scan : Nat → Lexer → List Token × Option Refusal
  | 0, l => (l.tokens.toList, none)
  | fuel + 1, l =>
    match next.run l with
    | .ok (true, l) => scan fuel l
    | .ok (false, l) => (l.tokens.toList, none)
    | .error e => (l.settled, some e)

end Lex

/-- The tokens of a metadata text, and why there are no more of them if it goes on. -/
def tokens (text : String) : List Token × Option Refusal :=
  let cs := text.toList
  if cs.all Token.isPrintable then Lex.scan (2 * cs.length + 3) { rest := cs }
  else ([], some .malformed)

end LiveMarkdown.Metadata
