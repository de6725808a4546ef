import LiveMarkdown.Number.Total
import LiveMarkdown.Script.SyntaxFault
import LiveMarkdown.Text.Blank
import LiveMarkdown.Text.Identifier
import LiveMarkdown.Text.Quoted

/-!
Programs as lists of tokens, and what can be wrong with a text before it is one. Indentation at the
start of a line, where no bracket is open, becomes tokens of its own; blank lines and comments leave
none.
-/

namespace LiveMarkdown.Script

inductive TokenKind where
  | name
  | keyword
  | number
  | string
  | operator
  | newline
  | indent
  | dedent
  | done
  /-- The place behind which there is no token. -/
  | fault
deriving DecidableEq, Repr, Inhabited

/-- A piece of a program. Columns count bytes from zero. -/
structure Token where
  kind : TokenKind
  text : String
  line : Nat
  /-- Where the token begins, unless it has no text. -/
  column : Option Nat
  endColumn : Nat
  /-- The number of brackets that are open behind the token. -/
  level : Nat
  /-- The line that the reader has reached. -/
  lastLine : Nat
  /-- The first of the lines that the reader shows. -/
  firstLine : Nat
  /-- The column that the reader has reached. -/
  reached : Nat
deriving Repr, Inhabited

namespace Token

def keywords : List String :=
  ["False", "None", "True", "and", "as", "assert", "async", "await", "break", "class", "continue",
    "def", "del", "elif", "else", "except", "finally", "for", "from", "global", "if", "import", "in",
    "is", "lambda", "nonlocal", "not", "or", "pass", "raise", "return", "try", "while", "with",
    "yield"]

/-- Names that are keywords in some places only. -/
def softKeywords : List String := ["_", "case", "match"]

def isKeyword (s : String) : Bool := keywords.contains s

/-- Operators of two characters. -/
def pairs : List String :=
  ["!=", "%=", "&=", "**", "*=", "+=", "-=", "->", "//", "/=", ":=", "<<", "<=", "<>", "==", ">=",
    ">>", "@=", "^=", "|="]

/-- Operators of three characters. -/
def triples : List String := ["**=", "//=", "<<=", ">>="]

def loc (t : Token) : Nat × Nat := (t.line, t.column.getD 0)

end Token

/-- Why a text cannot be cut into tokens. -/
inductive LexFault where
  | strangeCharacter (c : Char)
  | unprintable (c : Char)
  | invalidNumber (kind : String)
  | invalidDigit (c : Char) (kind : String)
  | leadingZeros
  | unterminated (triple : Bool) (line : Nat)
  | tooManyBrackets
  | unmatched (close : Char)
  /-- A closing bracket for another kind of bracket, with the line of that if it is another. -/
  | mismatched (close opened : Char) (line : Option Nat)
  | unclosed (opened : Char)
  | badContinuation
  | endOfText
  | unknownIndent
  | mixedIndent
  | tooDeep
deriving DecidableEq, Repr

namespace LexFault

/-- The code point of a character in at least four digits. -/
def codePoint (c : Char) : String :=
  let n := c.toNat
  let size := if n < 0x10000 then 4 else if n < 0x100000 then 5 else 6
  String.ofList ((Text.hexDigits size n).map Char.toUpper)

def message : LexFault → String
  | .strangeCharacter c => s!"invalid character '{c}' (U+{codePoint c})"
  | .unprintable c => s!"invalid non-printable character U+{codePoint c}"
  | .invalidNumber kind => s!"invalid {kind} literal"
  | .invalidDigit c kind => s!"invalid digit '{c}' in {kind} literal"
  | .leadingZeros => "leading zeros in decimal integer literals are not permitted; use an 0o " ++
      "prefix for octal integers"
  | .unterminated triple line =>
    let quoted := if triple then "triple-quoted " else ""
    s!"unterminated {quoted}string literal (detected at line {line})"
  | .tooManyBrackets => "too many nested parentheses"
  | .unmatched c => s!"unmatched '{c}'"
  | .mismatched c o line =>
    let place := match line with
      | some n => s!" on line {n}"
      | none => ""
    s!"closing parenthesis '{c}' does not match opening parenthesis '{o}'{place}"
  | .unclosed c => s!"'{c}' was never closed"
  | .badContinuation => "unexpected character after line continuation character"
  | .endOfText => "unexpected EOF while parsing"
  | .unknownIndent => "unindent does not match any outer indentation level"
  | .mixedIndent => "inconsistent use of tabs and spaces in indentation"
  | .tooDeep => "too many levels of indentation"

def className : LexFault → String
  | .unknownIndent | .tooDeep => "IndentationError"
  | .mixedIndent => "TabError"
  | _ => "SyntaxError"

/-- Whether the fault is found also behind a place where a program is already wrong. -/
def isFoundLater : LexFault → Bool
  | .unknownIndent | .mixedIndent | .tooDeep | .badContinuation | .endOfText | .unclosed _ => false
  | _ => true

end LexFault

/-! ### Cutting a text -/

/-- How far a text has been cut into tokens. -/
structure Lexer where
  rest : List Char
  lines : Array String
  /-- The number of lines before the text, if it is part of a larger one. -/
  skipped : Nat := 0
  line : Nat := 0
  column : Nat := 0
  /-- The number of characters before the reader in the line. -/
  place : Nat := 0
  firstLine : Nat := 0
  /-- Whether the next character begins another line. -/
  fresh : Bool := true
  /-- Whether the reader is inside of a token. -/
  inToken : Bool := false
  atStart : Bool := true
  /-- Indents that are owed, or dedents if negative. -/
  pending : Int := 0
  /-- The widths of the blocks that are open, innermost first, with tabs to multiples of eight and
  with tabs as one column. -/
  indents : List (Nat × Nat) := []
  /-- The brackets that are open, innermost first, with line, column and place. -/
  brackets : List (Char × Nat × Nat × Nat) := []

/-- A fault with what is said about it. -/
abbrev LexRefusal := LexFault × SyntaxFault

namespace Lexer

def levelLimit : Nat := 200

def indentLimit : Nat := 100

def lineText (l : Lexer) (n : Nat) : String := (l.lines[n - 1 - l.skipped]?).getD ""

/-- The lines that the reader shows when it stands at a place. -/
def shownLines (l : Lexer) : String :=
  "\n".intercalate ((List.range (l.line + 1 - l.firstLine)).map fun i => l.lineText (l.firstLine + i))

/-- Goes on to the next line if the last one is used up. -/
def settle (l : Lexer) : Lexer :=
  if l.fresh && !l.rest.isEmpty then
    { l with
      line := l.line + 1
      column := 0
      place := 0
      fresh := false
      firstLine := if l.inToken then l.firstLine else l.line + 1 }
  else l

def next (l : Lexer) : Option Char × Lexer :=
  let l := l.settle
  match l.rest with
  | [] => (none, l)
  | c :: cs =>
    (some c, { l with
      rest := cs
      column := l.column + c.utf8Size
      place := l.place + 1
      fresh := c == '\n' })

/-- Takes characters of the same line. -/
def advance (l : Lexer) (n : Nat) : Lexer :=
  { l with
    rest := l.rest.drop n
    column := l.column + Number.total ((l.rest.take n).map Char.utf8Size)
    place := l.place + n }

/-- Refuses the text at the place of the reader. -/
def refuse {α : Type} (l : Lexer) (f : LexFault) : Except LexRefusal α :=
  .error (f,
    { message := f.message
      className := f.className
      line := some l.line
      column := some l.place
      text := some (l.lineText l.line) })

/-- Refuses the text with a column and the lines that are shown. -/
def refuseShown {α : Type} (l : Lexer) (f : LexFault) (line column : Nat) : Except LexRefusal α :=
  .error (f,
    { message := f.message
      className := f.className
      line := some line
      column := some column
      text := some (if l.line ≤ line then l.shownLines else l.lineText line) })

/-- A token from a place to the place of the reader. -/
def token (l start : Lexer) (kind : TokenKind) (text : String) : Token :=
  { kind
    text
    line := start.line
    column := some start.column
    endColumn := l.column
    level := l.brackets.length
    lastLine := l.line
    firstLine := l.firstLine
    reached := l.column }

/-- A token without a text. -/
def mark (l : Lexer) (kind : TokenKind) : Token :=
  { kind
    text := ""
    line := l.line
    column := none
    endColumn := 0
    level := l.brackets.length
    lastLine := l.line
    firstLine := l.firstLine
    reached := l.column }

/-! ### Indentation -/

/-- The number of characters in the line of the reader, with the line feed. -/
def width (l : Lexer) : Nat := (l.lineText l.line).length + 1

/-- The line behind a backslash. -/
def continuation (l : Lexer) : Except LexRefusal Lexer :=
  match l.next with
  | (some '\n', l) =>
    if l.rest.isEmpty then
      match l.brackets with
      | (c, line, _, place) :: _ => l.refuseShown (.unclosed c) line (place + 1)
      | [] => l.refuseShown .endOfText l.line l.place
    else .ok l.settle
  | (_, l') =>
    let before := (List.range (l'.line - l'.firstLine)).map fun i =>
      (l'.lineText (l'.firstLine + i)).length + 1
    l'.refuseShown .badContinuation l'.line (Number.total before + l'.place)

/-- The blanks at the start of a line: the width of the line's indentation in both ways to count. A
backslash goes on to the next line, and the first width before one counts. -/
def blanks : Nat → Lexer → Nat → Nat → Nat → Except LexRefusal (Lexer × Nat × Nat)
  | 0, l, col, alt, _ => .ok (l, col, alt)
  | fuel + 1, l, col, alt, kept =>
    let l := l.settle
    match l.rest with
    | ' ' :: _ => blanks fuel l.next.2 (col + 1) (alt + 1) kept
    | '\t' :: _ => blanks fuel l.next.2 ((col / 8 + 1) * 8) (alt + 1) kept
    | '\x0c' :: _ => blanks fuel l.next.2 0 0 kept
    | '\\' :: _ => do
      blanks fuel (← l.next.2.continuation) col alt (if kept = 0 then col else kept)
    | _ => .ok (l, if kept = 0 then col else kept, if kept = 0 then alt else kept)

/-- Opens or closes blocks for a line of the given width. -/
def block (l : Lexer) (col alt : Nat) : Except LexRefusal Lexer :=
  let (top, topAlt) := l.indents.headD (0, 0)
  if col = top then
    if alt = topAlt then .ok l else l.refuseShown .mixedIndent l.line 1
  else if top < col then
    if indentLimit ≤ l.indents.length + 2 then l.refuseShown .tooDeep l.line 1
    else if alt ≤ topAlt then l.refuseShown .mixedIndent l.line 1
    else .ok { l with pending := l.pending + 1, indents := (col, alt) :: l.indents }
  else
    let left := l.indents.dropWhile fun i => col < i.1
    let (top, topAlt) := left.headD (0, 0)
    if col ≠ top then l.refuseShown .unknownIndent l.line l.width
    else if alt ≠ topAlt then l.refuseShown .mixedIndent l.line 1
    else .ok { l with pending := l.pending - (l.indents.length - left.length), indents := left }

/-- The start of a line. The answer says whether the line has no tokens. -/
def lineStart (l : Lexer) : Except LexRefusal (Lexer × Bool) := do
  if !l.atStart then return (l, false)
  let (l, col, alt) ← blanks (l.rest.length + 1) { l with atStart := false } 0 0 0
  match l.rest with
  | '#' :: _ | '\n' :: _ => return (l, true)
  | _ => if l.brackets.isEmpty then return (← l.block col alt, false) else return (l, false)

/-! ### Names and numbers -/

def isDigit (c : Char) : Bool := '0' ≤ c && c ≤ '9'

/-- Whether a character may begin a name; one beyond ASCII is looked at when the name is complete. -/
def mayStartName (c : Char) : Bool := c.isAlpha || c == '_' || 128 ≤ c.toNat

def mayBeInName (c : Char) : Bool := mayStartName c || isDigit c

/-- The name at the reader. -/
def name (l : Lexer) : Except LexRefusal (Token × Lexer) :=
  let cs := l.rest.takeWhile mayBeInName
  let valid := match cs with
    | [] => 0
    | c :: rest => if Text.isNameStart c then 1 + (rest.takeWhile Text.isNamePart).length else 0
  match cs.drop valid with
  | c :: _ =>
    let l := l.advance (valid + 1)
    l.refuse (if Text.isPrintable c then .strangeCharacter c else .unprintable c)
  | [] =>
    let s := String.ofList cs
    let l' := l.advance cs.length
    .ok (l'.token l (if Token.isKeyword s then .keyword else .name) s, l')

/-- How many characters form digits with single underscores between them, and whether the last of
them is a digit. -/
def digitRun (p : Char → Bool) : List Char → Nat → Nat × Bool
  | [], n => (n, true)
  | [c], n => if p c then (n + 1, true) else if c = '_' then (n + 1, false) else (n, true)
  | c :: d :: cs, n =>
    if p c then digitRun p (d :: cs) (n + 1)
    else if c = '_' then if p d then digitRun p (d :: cs) (n + 1) else (n + 1, false)
    else (n, true)

/-- Skips digits with underscores between them. -/
def decimalTail (l : Lexer) : Except LexRefusal Lexer :=
  let (n, ok) := digitRun isDigit l.rest 0
  let l := l.advance n
  if ok then .ok l else l.refuse (.invalidNumber "decimal")

/-- Whether a word that may follow a number without a blank begins a text. The short ones may be the
beginning of another word. -/
def wordFollows (cs : List Char) : Bool :=
  (["if", "in", "is"].any fun w => w.toList.isPrefixOf cs) ||
    (["and", "else", "for", "or", "not"].any fun w =>
      w.toList.isPrefixOf cs && !((cs.drop w.length).head?.any mayBeInName))

/-- Refuses a number that goes on as a name. -/
def numberEnd (l : Lexer) (kind : String) : Except LexRefusal Lexer :=
  match l.rest with
  | c :: _ =>
    if wordFollows l.rest then .ok l
    else if c.toNat < 128 && mayBeInName c then l.refuse (.invalidNumber kind)
    else .ok l
  | [] => .ok l

def octalDigit (c : Char) : Bool := '0' ≤ c && c ≤ '7'

def binaryDigit (c : Char) : Bool := c == '0' || c == '1'

def hexDigit (c : Char) : Bool := isDigit c || ('a' ≤ c && c ≤ 'f') || ('A' ≤ c && c ≤ 'F')

/-- The digits of a number in another base, behind its two first characters. -/
def based (kind : String) (p : Char → Bool) (l : Lexer) : Except LexRefusal Lexer := do
  let wrong (l : Lexer) : Except LexRefusal Lexer :=
    match l.rest with
    | c :: _ =>
      if isDigit c && kind != "hexadecimal" then (l.advance 1).refuse (.invalidDigit c kind)
      else l.refuse (.invalidNumber kind)
    | [] => l.refuse (.invalidNumber kind)
  let l := match l.rest with
    | '_' :: _ => l.advance 1
    | _ => l
  match l.rest with
  | c :: _ => if !p c then return ← wrong l
  | [] => return ← wrong l
  let (n, ok) := digitRun p l.rest 0
  let l := l.advance n
  if !ok then return ← wrong l
  match l.rest with
  | c :: _ =>
    if isDigit c && kind != "hexadecimal" then (l.advance 1).refuse (.invalidDigit c kind)
    else l.numberEnd kind
  | [] => return l

/-- What may follow the digits of a decimal number: an exponent, the mark of an imaginary number. -/
def decimalEnd (l : Lexer) : Except LexRefusal Lexer := do
  let imaginary (l : Lexer) : Except LexRefusal Lexer :=
    match l.rest with
    | 'j' :: _ | 'J' :: _ => (l.advance 1).numberEnd "imaginary"
    | _ => l.numberEnd "decimal"
  let exponent (c : Char) (cs : List Char) : Except LexRefusal Lexer := do
    if c != 'e' && c != 'E' then return ← imaginary l
    match cs with
    | s :: d :: _ =>
      if s == '+' || s == '-' then
        if isDigit d then imaginary (← (l.advance 2).decimalTail)
        else (l.advance 2).refuse (.invalidNumber "decimal")
      else if isDigit s then imaginary (← (l.advance 1).decimalTail)
      else l.numberEnd "decimal"
    | [s] =>
      if s == '+' || s == '-' then (l.advance 2).refuse (.invalidNumber "decimal")
      else if isDigit s then imaginary (← (l.advance 1).decimalTail)
      else l.numberEnd "decimal"
    | [] => l.numberEnd "decimal"
  match l.rest with
  | c :: cs => exponent c cs
  | [] => return l

/-- The digits behind the point of a number. -/
def fraction (l : Lexer) : Except LexRefusal Lexer := do
  match l.rest with
  | c :: _ => if isDigit c then (← l.decimalTail).decimalEnd else l.decimalEnd
  | [] => return l

/-- What may follow the whole part of a number. -/
def wholeEnd (l : Lexer) : Except LexRefusal Lexer :=
  match l.rest with
  | '.' :: _ => (l.advance 1).fraction
  | _ => l.decimalEnd

/-- A number that begins with a zero: more zeros may follow, other digits only in a number with a
fraction, an exponent or the mark of an imaginary number. -/
def zeros (start l : Lexer) : Except LexRefusal Lexer := do
  let (n, ok) := digitRun (· == '0') l.rest 0
  let l' := l.advance n
  let l' ← if ok then pure l' else
    match l'.rest with
    | c :: _ => if isDigit c then pure l' else l'.refuse (.invalidNumber "decimal")
    | [] => l'.refuse (.invalidNumber "decimal")
  match l'.rest with
  | c :: _ =>
    if isDigit c then
      let l' ← l'.decimalTail
      match l'.rest with
      | '.' :: _ | 'e' :: _ | 'E' :: _ | 'j' :: _ | 'J' :: _ => l'.wholeEnd
      | _ => (start.advance 1).refuse .leadingZeros
    else l'.wholeEnd
  | [] => return l'

/-- The number at the reader. -/
def number (l : Lexer) : Except LexRefusal (Token × Lexer) := do
  let stop ← match l.rest with
    | '0' :: 'x' :: _ | '0' :: 'X' :: _ => (l.advance 2).based "hexadecimal" hexDigit
    | '0' :: 'o' :: _ | '0' :: 'O' :: _ => (l.advance 2).based "octal" octalDigit
    | '0' :: 'b' :: _ | '0' :: 'B' :: _ => (l.advance 2).based "binary" binaryDigit
    | '0' :: _ => zeros l (l.advance 1)
    | '.' :: _ => (l.advance 1).fraction
    | _ => do pure (← (← l.decimalTail).wholeEnd)
  let text := String.ofList (l.rest.take (stop.place - l.place))
  return (stop.token l .number text, stop)

/-! ### Texts -/

/-- How many letters before a quote belong to a text. -/
def textPrefix? (cs : List Char) : Option Nat :=
  let marks := cs.takeWhile fun c => "bBuUrRfF".toList.contains c
  match cs.drop marks.length with
  | c :: _ =>
    let word := String.ofList (marks.map Char.toLower)
    if (c == '"' || c == '\'') && ["", "b", "r", "u", "f", "br", "rb", "fr", "rf"].contains word then
      some marks.length
    else none
  | [] => none

/-- Reads up to the closing quotes. The answer is the text that was read, in reverse. -/
def textEnd (quote : Char) (size : Nat) : Nat → Nat → List Char → Lexer → Option (List Char × Lexer)
  | 0, _, _, _ => none
  | fuel + 1, closed, acc, l =>
    if closed = size then some (acc, l)
    else
      match l.next with
      | (none, _) => none
      | (some c, l') =>
        if size = 1 && c == '\n' then none
        else if c == quote then textEnd quote size fuel (closed + 1) (c :: acc) l'
        else if c == '\\' then
          match l'.next with
          | (some d, l') => textEnd quote size fuel 0 (d :: c :: acc) l'
          | (none, l') => textEnd quote size fuel 0 (c :: acc) l'
        else textEnd quote size fuel 0 (c :: acc) l'

/-- The line at which a text without an end ends. -/
def lastLineOf (l : Lexer) (size : Nat) : Nat :=
  if size = 3 then l.skipped + l.lines.size
  else
    let rec go (line : Nat) : List Char → Nat
      | '\\' :: '\n' :: cs => if cs.isEmpty then line else go (line + 1) cs
      | '\\' :: _ :: cs => go line cs
      | '\n' :: _ => line
      | _ :: cs => go line cs
      | [] => line
    go l.line l.rest

/-- The quoted text at the reader, behind its letters. -/
def quotedText (l : Lexer) (letters : Nat) : Except LexRefusal (Token × Lexer) :=
  let inner := { l.advance letters with inToken := true }
  match inner.rest with
  | q :: _ =>
    let size := if inner.rest.take 3 == [q, q, q] then 3 else 1
    let closed := if size = 1 && inner.rest.take 2 == [q, q] then 1 else 0
    let opened := inner.advance (size + closed)
    match textEnd q size (2 * opened.rest.length + 4) closed [] opened with
    | some (cs, stop) =>
      let text := String.ofList (l.rest.take (letters + size + closed)) ++ String.ofList cs.reverse
      let stop := { stop with inToken := false }
      .ok (stop.token l .string text, stop)
    | none => (l.advance 1).refuse (.unterminated (size = 3) (opened.lastLineOf size))
  | [] => l.refuse .endOfText

/-! ### Operators -/

def closes (o c : Char) : Bool :=
  (o == '(' && c == ')') || (o == '[' && c == ']') || (o == '\x7b' && c == '\x7d')

/-- The operator or other character at the reader. -/
def operator (l : Lexer) : Except LexRefusal (Token × Lexer) :=
  let take (n : Nat) : Except LexRefusal (Token × Lexer) :=
    let l' := l.advance n
    .ok (l'.token l .operator (String.ofList (l.rest.take n)), l')
  if Token.pairs.contains (String.ofList (l.rest.take 2)) then
    if Token.triples.contains (String.ofList (l.rest.take 3)) then take 3 else take 2
  else if l.rest.take 3 == ['.', '.', '.'] then take 3
  else
    match l.rest with
    | c :: _ =>
      let l' := l.advance 1
      if c == '(' || c == '[' || c == '\x7b' then
        if levelLimit ≤ l.brackets.length then l'.refuse .tooManyBrackets
        else
          let l' := { l' with brackets := (c, l.line, l.column, l.place) :: l.brackets }
          .ok (l'.token l .operator c.toString, l')
      else if c == ')' || c == ']' || c == '\x7d' then
        match l.brackets with
        | [] => l'.refuse (.unmatched c)
        | (o, line, _, _) :: rest =>
          if closes o c then
            let l' := { l' with brackets := rest }
            .ok (l'.token l .operator c.toString, l')
          else l'.refuse (.mismatched c o (if line = l.line then none else some line))
      else if c.toNat < 32 || c.toNat = 127 then l'.refuse (.unprintable c)
      else take 1
    | [] => l.refuse .endOfText

/-! ### All tokens -/

/-- The next token. The fuel bounds the lines that have none. -/
def scan : Nat → Lexer → Except LexRefusal (Token × Lexer)
  | 0, l => l.refuse .endOfText
  | fuel + 1, l => do
    let (l, blank) ← lineStart { l with inToken := false }
    if l.pending < 0 then
      return (l.mark .dedent, { l with pending := l.pending + 1 })
    if 0 < l.pending then
      return (l.mark .indent, { l with pending := l.pending - 1 })
    words fuel blank l.settle
where
  words (fuel : Nat) (blank : Bool) (l : Lexer) : Except LexRefusal (Token × Lexer) := do
    let l := l.advance (l.rest.takeWhile fun c => c == ' ' || c == '\t' || c == '\x0c').length
    let start := l
    let l := match l.rest with
      | '#' :: _ => l.advance (l.rest.takeWhile (· ≠ '\n')).length
      | _ => l
    match l.rest with
    | [] =>
      match l.brackets with
      | (c, line, _, place) :: _ => l.refuseShown (.unclosed c) line (place + 1)
      | [] => return (l.mark .done, l)
    | '\n' :: _ =>
      let l' := { l.next.2 with atStart := true }
      if blank || !l.brackets.isEmpty then scan fuel l'
      else return ({ l'.token start .newline "" with endColumn := l.column }, l')
    | '\\' :: _ =>
      let l ← { l.next.2 with inToken := true }.continuation
      match fuel with
      | 0 => l.refuse .endOfText
      | fuel + 1 => words fuel blank { l with inToken := false }
    | c :: cs =>
      match textPrefix? l.rest with
      | some letters => l.quotedText letters
      | none =>
        if mayStartName c then l.name
        else if isDigit c then l.number
        else
          match c, cs with
          | '.', d :: _ => if isDigit d then l.number else l.operator
          | _, _ => l.operator

/-- All tokens, and the fault behind them if there is one. -/
def collect : Nat → Lexer → Array Token → Array Token × Option LexRefusal
  | 0, _, ts => (ts, none)
  | fuel + 1, l, ts =>
    match scan (l.rest.length + 2) l with
    | .error e => (ts, some e)
    | .ok (t, l) => if t.kind == .done then (ts.push t, none) else collect fuel l (ts.push t)

/-- The lines of a text. -/
def linesOf (cs : List Char) : List String :=
  let lines := (String.ofList cs).splitOn "\n"
  if cs.getLast? == some '\n' then lines.dropLast else lines

/-- A reader at the start of a text. A program of statements ends with a line feed. -/
def start (text : String) (closeLine : Bool) : Lexer :=
  let cs := (Text.normaliseNewlines text).toList
  let cs := if closeLine && cs.getLast? != some '\n' then cs ++ ['\n'] else cs
  { rest := cs, lines := (linesOf cs).toArray }

/-- The tokens of a text. -/
def tokens (l : Lexer) : Array Token × Option LexRefusal := collect (2 * l.rest.length + 4) l #[]

end Lexer

end LiveMarkdown.Script
