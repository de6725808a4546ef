import LiveMarkdown.Script.Lexer
import LiveMarkdown.Script.Syntax
import Std.Data.HashMap

/-!
Readers of token lists. A reader succeeds and moves on, or fails, or refuses the whole text. What
fails is tried in another way from the same token; how far any reader has looked is remembered.
-/

namespace LiveMarkdown.Script.Grammar

/-- What is read, and how. -/
structure Source where
  tokens : Array Token
  /-- Why there is no token behind the last one. -/
  refusal : Option LexRefusal
  /-- The text, for the lines that are shown. -/
  lexer : Lexer
  /-- Whether readers look for known mistakes. -/
  strict : Bool
  /-- Whether the text is a part of a template. -/
  inTemplate : Bool := false
  /-- The first line of a part of a template, and the column where it begins. -/
  startLine : Nat := 0
  shift : Nat := 0

/-- The results of readers that were already tried at a token. -/
structure Memory where
  exprs : Std.HashMap (Nat × Nat) (Option (Expr × Nat)) := {}
  patterns : Std.HashMap Nat (Option (Pattern × Nat)) := {}
  blocks : Std.HashMap Nat (Option (List Stmt × Nat)) := {}

structure State where
  /-- The next token. -/
  mark : Nat := 0
  /-- How many tokens were looked at. -/
  seen : Nat := 0
  memory : Memory := {}

inductive Failure where
  /-- Another way may be tried. -/
  | mismatch
  /-- No other way may be tried in the same rule. -/
  | cut
  | refused (e : SyntaxFault)

/-- A reader of tokens. -/
abbrev Parse := ReaderT Source (EStateM Failure State)

namespace Parse

def fail {α : Type} : Parse α := throw .mismatch

def setMark (n : Nat) : Parse Unit := modify fun st => { st with mark := n }

/-- Tries a reader, and if it fails another one from the same token. -/
def orElse {α : Type} (p : Parse α) (q : Unit → Parse α) : Parse α := fun s st =>
  match p s st with
  | .error .mismatch st' => q () s { st' with mark := st.mark }
  | r => r

instance {α : Type} : OrElse (Parse α) := ⟨orElse⟩

/-- A reader whose failure forbids other ways in its rule. -/
def commit {α : Type} (p : Parse α) : Parse α := fun s st =>
  match p s st with
  | .error .mismatch st => .error .cut st
  | r => r

/-- A whole rule: behind it other ways may be tried again. -/
def rule {α : Type} (p : Parse α) : Parse α := fun s st =>
  match p s st with
  | .error .cut st => .error .mismatch st
  | r => r

def optional {α : Type} (p : Parse α) : Parse (Option α) :=
  (do return some (← p)) <|> return none

/-- Succeeds where a reader does, without moving on. -/
def ahead {α : Type} (p : Parse α) : Parse Unit := fun s st =>
  match p s st with
  | .ok _ st' => .ok () { st' with mark := st.mark }
  | .error e st => .error e st

/-- Succeeds where a reader fails. -/
def notAhead {α : Type} (p : Parse α) : Parse Unit := fun s st =>
  match p s st with
  | .ok _ st' => .error .mismatch { st' with mark := st.mark }
  | .error (.refused e) st => .error (.refused e) st
  | .error _ st' => .ok () { st' with mark := st.mark }

/-- Repeats a reader as often as it succeeds. -/
def many {α : Type} (p : Parse α) : Parse (List α) := do go ((← read).tokens.size + 2)
where
  go : Nat → Parse (List α)
    | 0 => return []
    | fuel + 1 => do
      match ← optional p with
      | some a => return a :: (← go fuel)
      | none => return []

def many1 {α : Type} (p : Parse α) : Parse (List α) := do return (← p) :: (← many p)

/-- One or more with a separator between them. -/
def gather {α β : Type} (separator : Parse β) (p : Parse α) : Parse (List α) := do
  return (← p) :: (← many do discard separator; p)

/-! ### Refusals -/

/-- The number of characters before a column of a line. -/
def charsBefore (line : String) (column : Nat) : Nat :=
  let rec go (left n : Nat) : List Char → Nat
    | [] => n + left
    | c :: cs => if left = 0 then n else go (left - c.utf8Size) (n + 1) cs
  go column 0 line.toList

/-- The last token that any reader looked at. -/
def lastSeen : Parse Token := do
  return ((← read).tokens[(← get).seen - 1]?).getD default

/-- Refuses the text at a line and a column that counts bytes from one. A column of zero is no
place in the line. -/
def refuseAt {α : Type} (line column : Nat) (message : String)
    (className : String := "SyntaxError") : Parse α := do
  let s ← read
  let last ← lastSeen
  let text :=
    if last.lastLine ≤ line then
      { s.lexer with line := last.lastLine, firstLine := last.firstLine }.shownLines
    else s.lexer.lineText line
  let column : Int :=
    if s.inTemplate then (column : Int) - s.shift
    else if column = 0 then 0
    else Int.ofNat (charsBefore (s.lexer.lineText line) (column - 1) + 1)
  throw (.refused
    { message := if s.inTemplate then "f-string: " ++ message else message
      className
      line := some line
      column := some column
      text := some text })

/-- The column of a token, counted from where the text of a template begins. -/
def columnOf (t : Token) : Parse (Option Nat) := do
  let s ← read
  return t.column.map fun c => if s.inTemplate && t.line = s.startLine then c + s.shift else c

def locOf (t : Token) : Parse Loc := do
  return { line := t.line, column := (← columnOf t).getD 0 }

/-- Refuses the text at a token. -/
def refuseToken {α : Type} (t : Token) (message : String) : Parse α := do
  match ← columnOf t with
  | some c => refuseAt t.line (c + 1) message
  | none => refuseAt t.line 0 message

/-- Refuses the text at a part of it. -/
def refuseLoc {α : Type} (loc : Loc) (message : String) : Parse α :=
  refuseAt loc.line (loc.column + 1) message

def refuseExpr {α : Type} (e : Expr) (message : String) : Parse α := refuseLoc e.loc message

/-- Refuses the text at the last token that was looked at. -/
def refuse {α : Type} (message : String) (className : String := "SyntaxError") : Parse α := do
  let t ← lastSeen
  match ← columnOf t with
  | some c => refuseAt t.line (c + 1) message className
  | none =>
    let s ← read
    let c := if s.inTemplate && t.line = s.startLine then t.reached + s.shift else t.reached
    refuseAt t.line c message className

def refuseIndent {α : Type} (message : String) : Parse α := refuse message "IndentationError"

/-- Carries out a reader that looks for a known mistake, if mistakes are looked for. -/
def mistake {α : Type} (p : Parse Unit) : Parse α := do
  if (← read).strict then
    p
    fail
  else fail

/-! ### Tokens -/

/-- The next token. -/
def peek : Parse Token := fun s st =>
  if st.mark < s.tokens.size then
    .ok ((s.tokens[st.mark]?).getD default) { st with seen := max st.seen (st.mark + 1) }
  else
    match s.refusal with
    | some (_, e) => .error (.refused e) st
    | none => .ok ((s.tokens.back?).getD default) st

/-- Where the next token begins. -/
def here : Parse Loc := do locOf (← peek)

def accept (p : Token → Bool) : Parse Token := do
  let t ← peek
  if p t then
    modify fun st => { st with mark := st.mark + 1 }
    return t
  else fail

/-- An operator. -/
def op (s : String) : Parse Token := accept fun t => t.kind == .operator && t.text == s

/-- A keyword. -/
def key (s : String) : Parse Token := accept fun t => t.kind == .keyword && t.text == s

/-- A name that is a keyword where it stands. -/
def softKey (s : String) : Parse Token := accept fun t => t.kind == .name && t.text == s

def kind (k : TokenKind) : Parse Token := accept fun t => t.kind == k

def newline : Parse Token := kind .newline

def indent : Parse Token := kind .indent

def dedent : Parse Token := kind .dedent

/-- An operator that must stand here. -/
def force (s : String) : Parse Token := do
  let t ← peek
  if t.kind == .operator && t.text == s then op s
  else refuseToken t s!"expected '{s}'"

/-- The token before the next one. -/
def previous : Parse Token := do
  return ((← read).tokens[(← get).mark - 1]?).getD default

end Parse

end LiveMarkdown.Script.Grammar
