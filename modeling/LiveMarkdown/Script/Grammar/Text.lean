import LiveMarkdown.Number.Total
import LiveMarkdown.Script.Grammar.Rule
import LiveMarkdown.Script.Literal

/-!
Whole texts against a rule, and quoted texts. A text that does not match is read a second time, now
with an eye on known mistakes, and what is found then is said about it. Quoted texts next to each
other are one text. A template is a text with fields, each an expression that is a program text of
its own.
-/

namespace LiveMarkdown.Script.Grammar

/-! ### Texts against a rule -/

open Parse

/-- A fault of the text behind the place where a program is wrong comes first, and so does a bracket
that was left open on an earlier line. -/
def firstFault (s : Source) (st : State) (e : SyntaxFault) : SyntaxFault :=
  match s.refusal with
  | some (f, later) =>
    let line := ((s.tokens[st.seen - 1]?).map (·.line)).getD 0
    match f with
    | .unclosed _ => if later.line.getD 0 < Int.ofNat line then later else e
    | f => if f.isFoundLater then later else e
  | none => e

/-- What is said when no known mistake is found. -/
def generalFault (last : Token) : Parse Unit :=
  match last.kind with
  | .indent => refuseIndent "unexpected indent"
  | .dedent => refuseIndent "unexpected unindent"
  | _ => refuseToken last "invalid syntax"

/-- Reads a text by a rule. -/
def run {α : Type} (p : Parse α) (s : Source) : Except SyntaxFault α :=
  match p s {} with
  | .ok a _ => .ok a
  | .error (.refused e) st => .error (firstFault s st e)
  | .error _ st =>
    let last := (s.tokens[st.seen - 1]?).getD default
    let again := p { s with strict := true } { seen := st.seen }
    match again with
    | .error (.refused e) st => .error (firstFault s st e)
    | .ok _ st | .error _ st =>
      match generalFault last s st with
      | .error (.refused e) st =>
        .error (if last.kind == .indent || last.kind == .dedent then e else firstFault s st e)
      | _ => .error { message := "invalid syntax" }

/-! ### Quoted texts -/

/-- What a template is made of so far: the parts, last first, and the text behind them. -/
structure Pieces where
  parts : List Expr := []
  text : String := ""

namespace Pieces

def addText (p : Pieces) (s : String) : Pieces := { p with text := p.text ++ s }

/-- All parts, the text behind them included. -/
def closed (p : Pieces) (loc : Loc) : List Expr :=
  if p.text == "" then p.parts else .constant loc (.str p.text false) :: p.parts

def addField (p : Pieces) (loc : Loc) (e : Expr) : Pieces := { parts := e :: p.closed loc }

def joined (p : Pieces) (loc : Loc) : Expr := .joined loc (p.closed loc).reverse

end Pieces

/-- A quoted text that is being read. -/
structure Template where
  token : Token
  quoted : Literal.Quoted
  /-- Where the text begins, and where the first of the texts next to it does. -/
  start : Loc
  loc : Loc

namespace Template

variable (g : Rules) (t : Template)

def valueOf (cs : List Char) : Parse String :=
  match Literal.text (t.quoted.raw || !cs.contains '\\') cs with
  | .ok s => return s
  | .error e => refuse e.message

/-- The text up to a field, or up to a doubled brace. The answer says whether it was the latter. -/
def literal (nested : Bool) : Nat → List Char → List Char → Parse (List Char × List Char × Bool)
  | 0, acc, cs => return (acc.reverse, cs, false)
  | _, acc, [] => return (acc.reverse, [], false)
  | fuel + 1, acc, c :: cs => do
    if !t.quoted.raw && c == '\\' then
      match cs with
      | [] => literal nested fuel (c :: acc) []
      | 'N' :: '\x7b' :: rest =>
        let name := rest.takeWhile (· ≠ '\x7d')
        let behind := rest.drop name.length
        literal nested fuel (behind.take 1 ++ name.reverse ++ ['\x7b', 'N', '\\'] ++ acc)
          (behind.drop 1)
      | 'N' :: d :: rest => literal nested fuel (d :: 'N' :: c :: acc) rest
      | d :: rest =>
        if d == '\x7b' || d == '\x7d' then brace fuel (c :: acc) d rest
        else literal nested fuel (d :: c :: acc) rest
    else if c == '\x7b' || c == '\x7d' then brace fuel acc c cs
    else literal nested fuel (c :: acc) cs
where
  brace (_fuel : Nat) (acc : List Char) (c : Char) (cs : List Char) :
      Parse (List Char × List Char × Bool) := do
    if !nested then
      if cs.head? == some c then return ((c :: acc).reverse, cs.drop 1, true)
      if c == '\x7d' then refuse "f-string: single '\x7d' is not allowed"
    return (acc.reverse, c :: cs, false)

/-- The text of the expression in a field, and what follows it. `quote` is the quote that is open,
with a mark for three of them, and `opened` holds the brackets that are open. -/
def fieldText : List Char → Option (Char × Bool) → List Char → List Char →
    Parse (List Char × List Char)
  | acc, quote, opened, [] => do
    if quote.isSome then refuse "f-string: unterminated string"
    match opened with
    | o :: _ => refuse s!"f-string: unmatched '{o}'"
    | [] => return (acc.reverse, [])
  | acc, quote, opened, c :: cs => do
    if c == '\\' then refuse "f-string expression part cannot include a backslash"
    match quote with
    | some (q, triple) =>
      match cs with
      | a :: b :: rest =>
        if c != q then fieldText (c :: acc) quote opened (a :: b :: rest)
        else if !triple then fieldText (c :: acc) none opened (a :: b :: rest)
        else if a == q && b == q then fieldText (b :: a :: c :: acc) none opened rest
        else fieldText (c :: acc) quote opened (a :: b :: rest)
      | rest => fieldText (c :: acc) (if c == q && !triple then none else quote) opened rest
    | none =>
      if c == '\'' || c == '"' then
        match cs with
        | a :: b :: rest =>
          if a == c && b == c then fieldText (b :: a :: c :: acc) (some (c, true)) opened rest
          else fieldText (c :: acc) (some (c, false)) opened (a :: b :: rest)
        | rest => fieldText (c :: acc) (some (c, false)) opened rest
      else if c == '[' || c == '\x7b' || c == '(' then
        if Lexer.levelLimit ≤ opened.length then refuse "f-string: too many nested parenthesis"
        fieldText (c :: acc) none (c :: opened) cs
      else if c == '#' then refuse "f-string expression part cannot include '#'"
      else if opened.isEmpty && ['!', ':', '\x7d', '=', '<', '>'].contains c then
        match cs with
        | '=' :: rest =>
          if c == ':' || c == '\x7d' then return (acc.reverse, c :: cs)
          fieldText ('=' :: c :: acc) none opened rest
        | rest =>
          if c == '<' || c == '>' then fieldText (c :: acc) none opened rest
          else return (acc.reverse, c :: rest)
      else if c == ']' || c == '\x7d' || c == ')' then
        match opened with
        | [] => refuse s!"f-string: unmatched '{c}'"
        | o :: opened =>
          if Lexer.closes o c then fieldText (c :: acc) none opened cs
          else refuse (s!"f-string: closing parenthesis '{c}' does not match opening " ++
            s!"parenthesis '{o}'")
      else fieldText (c :: acc) none opened cs
termination_by _ _ _ cs => cs.length

/-- The number of characters of the token before a rest of its body. -/
def before (rest : List Char) : Nat :=
  t.quoted.offset + (t.quoted.body.length - rest.length)

/-- The expression in a field, whose brace opens before `rest`. -/
def expression (cs rest stop : List Char) : Parse Expr := do
  if cs.all fun c => c == ' ' || c == '\t' || c == '\n' || c == '\x0c' then
    match stop with
    | c :: _ =>
      if c == '!' || c == ':' || c == '=' then
        refuse s!"f-string: expression required before '{c}'"
    | [] => pure ()
    refuse "f-string: empty expression not allowed"
  let passed := t.token.text.toList.take (t.before rest - 1)
  let lines := passed.count '\n'
  let blank := cs.takeWhile fun c => c == ' ' || c == '\t' || c == '\x0c'
  let column :=
    if (cs.drop blank.length).head? == some '\n' then 0
    else Number.total ((passed.reverse.takeWhile (· ≠ '\n')).map Char.utf8Size)
  let first := t.token.line + lines
  let lexer := Lexer.start (String.ofList ('(' :: cs ++ [')'])) true
  let lexer := { lexer with skipped := first - 1, line := first - 1 }
  let (tokens, refusal) := lexer.tokens
  let source : Source :=
    { tokens
      refusal
      lexer
      strict := false
      inTemplate := true
      startLine := first
      shift := column + (if lines = 0 then t.start.column else 0) }
  match run g.starExpressions source with
  | .ok e => return e
  | .error e => throw (.refused e)

/-- The mark for how a value is turned into a text. -/
def conversion (cs : List Char) : Parse (Int × List Char) :=
  match cs with
  | '!' :: c :: rest =>
    if c == 's' || c == 'r' || c == 'a' then return (Int.ofNat c.toNat, rest)
    else refuse "f-string: invalid conversion character: expected 's', 'r', or 'a'"
  | ['!'] => refuse "f-string: expecting '\x7d'"
  | _ => return (-1, cs)

def isSpace (c : Char) : Bool :=
  c == ' ' || c == '\t' || c == '\n' || c == '\x0b' || c == '\x0c' || c == '\r'

/-- A field, behind its opening brace. A template inside of it is read by `spec`. The answer holds
the text of the expression if that is to be shown. -/
def field (spec : List Char → Parse (Expr × List Char)) (cs : List Char) :
    Parse (String × Expr × List Char) := do
  let (inner, rest) ← fieldText [] none [] cs
  if rest.isEmpty then refuse "f-string: expecting '\x7d'"
  let e ← t.expression g inner cs rest
  let (shown, rest) := match rest with
    | '=' :: more =>
      let blanks := more.takeWhile isSpace
      (String.ofList (inner ++ '=' :: blanks), more.drop blanks.length)
    | rest => ("", rest)
  if rest.isEmpty then refuse "f-string: expecting '\x7d'"
  let (mark, rest) ← conversion rest
  let (format, rest) ← match rest with
    | [':'] => refuse "f-string: expecting '\x7d'"
    | ':' :: rest => do
      let (f, rest) ← spec rest
      pure (some f, rest)
    | rest => pure (none, rest)
  match rest with
  | '\x7d' :: rest =>
    let mark := if shown != "" && format.isNone && mark = -1 then 114 else mark
    return (shown, .formatted t.loc e mark format, rest)
  | _ => refuse "f-string: expecting '\x7d'"

/-- The pieces of a template. A template inside of a field is read by `spec`, where there may be
fields at all. -/
def pieces (spec : Option (List Char → Parse (Expr × List Char))) (nested : Bool) :
    Nat → Pieces → List Char → Parse (Pieces × List Char)
  | 0, p, cs => return (p, cs)
  | fuel + 1, p, cs => do
    let (s, rest, doubled) ← t.literal nested (cs.length + 1) [] cs
    let p := p.addText (← t.valueOf s)
    if doubled then pieces spec nested fuel p rest
    else
      match rest with
      | '\x7b' :: rest =>
        match spec with
        | none => refuse "f-string: expressions nested too deeply"
        | some spec' =>
          let (shown, e, rest) ← t.field g spec' rest
          pieces spec nested fuel ((p.addText shown).addField t.loc e) rest
      | rest => return (p, rest)

/-- A template inside of a field, up to the end of that. The depth says how many more may be inside
of each other. -/
def inner : Nat → List Char → Parse (Expr × List Char)
  | depth, cs => do
    let spec := match depth with
      | 0 => none
      | depth + 1 => some fun cs => inner depth cs
    let (p, rest) ← t.pieces g spec true (cs.length + 1) {} cs
    if rest.head? != some '\x7d' then refuse "f-string: expecting '\x7d'"
    return (p.joined t.loc, rest)

/-- Adds the pieces of a whole template. -/
def addTo (p : Pieces) : Parse Pieces := do
  let body := t.quoted.body
  return (← t.pieces g (some (t.inner g 1)) false (body.length + 1) p body).1

end Template

/-- The value of bytes in quotes. -/
def bytesOf (t : Token) (q : Literal.Quoted) : Parse (List UInt8) := do
  if q.body.any fun c => 128 ≤ c.toNat then
    refuseToken t "bytes can only contain ASCII literal characters"
  match Literal.bytes q.raw q.body with
  | .ok bs => return bs
  | .error e => refuse e.message

/-- What texts next to each other are so far. -/
inductive Joined where
  | none
  | bytes (bs : List UInt8)
  | text (p : Pieces) (isTemplate : Bool)

def mixed {α : Type} : Parse α := refuse "cannot mix bytes and nonbytes literals"

variable (g : Rules)

/-- Adds a text to the ones before it. -/
def addQuoted (loc : Loc) (j : Joined) (t : Token) : Parse Joined := do
  let q := Literal.quoted t.text
  if q.isBytes then
    let bs ← bytesOf t q
    match j with
    | .none => return .bytes bs
    | .bytes before => return .bytes (before ++ bs)
    | .text .. => mixed
  else
    let template : Template := { token := t, quoted := q, start := ← locOf t, loc }
    let add (p : Pieces) (isTemplate : Bool) : Parse Joined := do
      if q.isTemplate then return .text (← template.addTo g p) true
      else return .text (p.addText (← template.valueOf q.body)) isTemplate
    match j with
    | .none => add {} false
    | .text p isTemplate => add p isTemplate
    | .bytes _ =>
      if !q.isTemplate then discard (template.valueOf q.body)
      mixed

/-- Texts and templates next to each other. -/
def texts : Parse Expr := do
  let ts ← many1 (kind .string)
  let loc ← locOf (ts.headD default)
  match ← ts.foldlM (addQuoted g loc) .none with
  | .none => fail
  | .bytes bs => return .constant loc (.bytes bs)
  | .text p isTemplate =>
    if isTemplate then return p.joined loc
    else return .constant loc (.str p.text ((ts.headD default).text.startsWith "u"))

end LiveMarkdown.Script.Grammar
