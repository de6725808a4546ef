import LiveMarkdown.Number.Total
import LiveMarkdown.Script.Grammar.Argument
import LiveMarkdown.Script.Grammar.Parameter
import LiveMarkdown.Script.Grammar.Pattern
import LiveMarkdown.Script.Grammar.Target

/-!
Simple statements, which stand on one line, and compound statements, which hold blocks of others.
-/

namespace LiveMarkdown.Script.Grammar

open Parse

variable (g : Rules)

/-! ### Assignments -/

/-- The value of an assignment. -/
def assigned : Parse Expr := g.expr .yieldExpression <|> g.starExpressions

def augmentedOp : Parse BinaryOp :=
  [("+=", .add), ("-=", .sub), ("*=", .mult), ("@=", .matMult), ("/=", .div), ("%=", .mod),
    ("&=", .bitAnd), ("|=", .bitOr), ("^=", .bitXor), ("<<=", .leftShift), (">>=", .rightShift),
    ("**=", .pow), ("//=", .floorDiv)].foldr
      (fun (s, o) rest => (do discard (op s); return o) <|> rest) fail

/-- A list or tuple in any number of brackets. -/
def bracketed : Nat → Parse Expr
  | 0 => fail
  | depth + 1 => g.expr .display <|> (do
    discard (op "(")
    let e ← bracketed depth
    discard (op ")")
    return e)

/-- A target with the equality sign behind it. -/
def targetSign : Parse Expr := do
  let t ← g.starTargets
  discard (op "=")
  return t

def badAssignment : Parse Unit := rule <|
  (do
    let a ← bracketed g Lexer.levelLimit
    discard (op ":")
    discard g.expression
    refuseExpr a s!"only single target (not {exprName a}) can be annotated") <|>
  (do
    let a ← g.expr .starNamedExpression
    discard (op ",")
    discard (many (starNamedExpressions g))
    discard (op ":")
    discard g.expression
    refuseExpr a "only single target (not tuple) can be annotated") <|>
  (do
    let a ← g.expression
    discard (op ":")
    discard g.expression
    refuseExpr a "illegal target for annotation") <|>
  (do
    discard (many (targetSign g))
    let a ← g.starExpressions
    discard (op "=")
    refuseTarget .assigned a) <|>
  (do
    discard (many (targetSign g))
    let a ← g.expr .yieldExpression
    discard (op "=")
    refuseExpr a "assignment to yield expression not possible") <|>
  (do
    let a ← g.starExpressions
    discard augmentedOp
    discard (assigned g)
    refuseExpr a s!"'{exprName a}' is an illegal expression for augmented assignment")

/-- The annotation of a target, and the value if there is one. -/
def annotation : Parse (Expr × Option Expr) := do
  discard (op ":")
  let hint ← g.expression
  let value ← optional do
    discard (op "=")
    assigned g
  return (hint, value)

def assignment : Parse Stmt := rule <|
  (do
    let loc ← here
    let t ← nameExpr .store
    let (hint, value) ← annotation g
    return .annAssign loc t hint value 1) <|>
  (do
    let loc ← here
    let t ← (do
      discard (op "(")
      let t ← g.expr .singleTarget
      discard (op ")")
      return t) <|> placeTarget g .store
    let (hint, value) ← annotation g
    return .annAssign loc t hint value 0) <|>
  (do
    let loc ← here
    let ts ← many1 (targetSign g)
    let v ← assigned g
    notAhead (op "=")
    return .assign loc ts v) <|>
  (do
    let loc ← here
    let t ← g.expr .singleTarget
    let o ← augmentedOp
    commit do return .augAssign loc t o (← assigned g)) <|>
  mistake (badAssignment g)

/-! ### Imports -/

def dottedName : Parse String := do
  return ".".intercalate (← gather (op ".") name)

/-- The name that an import is bound to. -/
def newName : Parse (Option String) := optional do
  discard (key "as")
  name

def importName : Parse Stmt := do
  let loc ← here
  discard (key "import")
  let names ← gather (op ",") do
    let loc ← here
    let n ← dottedName
    return { loc, name := n, asName := ← newName }
  return .importing loc names

def importedNames : Parse (List Alias) := gather (op ",") do
  let loc ← here
  let n ← name
  return { loc, name := n, asName := ← newName }

def importTargets : Parse (List Alias) :=
  (do
    discard (op "(")
    let names ← importedNames
    discard (optional (op ","))
    discard (op ")")
    return names) <|>
  (do
    let names ← importedNames
    notAhead (op ",")
    return names) <|>
  (do
    let t ← op "*"
    return [{ loc := ← locOf t, name := "*" }]) <|>
  mistake (do
    discard importedNames
    discard (op ",")
    discard newline
    refuse "trailing comma not allowed without surrounding parentheses")

def importFrom : Parse Stmt := do
  let loc ← here
  discard (key "from")
  let dot : Parse Nat :=
    (do discard (op "."); return 1) <|> (do discard (op "..."); return 3)
  (do
    let level := Number.total (← many dot)
    let source ← dottedName
    discard (key "import")
    return .importFrom loc (some source) (← importTargets) (some level)) <|>
  (do
    let level := Number.total (← many1 dot)
    discard (key "import")
    return .importFrom loc none (← importTargets) (some level))

/-! ### Simple statements -/

def deletion : Parse Stmt :=
  (do
    let loc ← here
    discard (key "del")
    let ts ← deleteTargets g
    ahead (discard (op ";") <|> discard newline)
    return .delete loc ts) <|>
  mistake (rule do
    discard (key "del")
    refuseTarget .deleted (← g.starExpressions))

def raising : Parse Stmt := do
  let loc ← here
  discard (key "raise")
  (do
    let e ← g.expression
    let cause ← optional do
      discard (key "from")
      g.expression
    return .raise loc (some e) cause) <|>
  return .raise loc none none

/-- A statement made of a word alone. -/
def wordStatement (word : String) (s : Loc → Stmt) : Parse Stmt := do
  return s (← locOf (← key word))

def nameList : Parse (List String) := gather (op ",") name

def simple : Parse Stmt :=
  assignment g <|>
  (do
    let loc ← here
    return .expr loc (← g.starExpressions)) <|>
  (do
    let loc ← here
    discard (key "return")
    return .return loc (← optional g.starExpressions)) <|>
  importName <|> importFrom <|> raising g <|> wordStatement "pass" .pass <|> deletion g <|>
  (do
    let loc ← here
    return .expr loc (← g.expr .yieldExpression)) <|>
  (do
    let loc ← here
    discard (key "assert")
    let e ← g.expression
    let message ← optional do
      discard (op ",")
      g.expression
    return .assert loc e message) <|>
  wordStatement "break" .break <|> wordStatement "continue" .continue <|>
  (do
    let loc ← here
    discard (key "global")
    return .global loc (← nameList)) <|>
  (do
    let loc ← here
    discard (key "nonlocal")
    return .nonlocal loc (← nameList))

/-- The simple statements of a line. -/
def simpleLine : Parse (List Stmt) := do
  let ss ← gather (op ";") (simple g)
  discard (optional (op ";"))
  discard newline
  return ss

/-! ### Blocks -/

/-- Refuses the text where a block should begin. -/
def needBlock (what : String) (t : Token) : Parse Unit := do
  discard newline
  notAhead indent
  refuseIndent s!"expected an indented block after {what} on line {t.line}"

def needColon : Parse Unit := do
  discard newline
  refuse "expected ':'"

def elseBlock : Parse (List Stmt) :=
  mistake (do
    let t ← key "else"
    discard (op ":")
    needBlock "'else' statement" t) <|>
  (do
    discard (key "else")
    discard (force ":")
    g.block)

def orElseBlock : Parse (List Stmt) := do return (← optional (elseBlock g)).getD []

/-- A word with a condition and a block, and what is done otherwise. -/
def conditional (word : String) : Parse Stmt :=
  mistake ((do
    discard (key word)
    discard g.namedExpression
    needColon) <|>
  (do
    let t ← key word
    discard g.namedExpression
    discard (op ":")
    needBlock s!"'{word}' statement" t)) <|>
  (do
    let loc ← here
    discard (key word)
    let test ← g.namedExpression
    discard (op ":")
    let body ← g.block
    let orElse ← g.read .elseIf <|> orElseBlock g
    return .if loc test body orElse)

def elseIf : Parse (List Stmt) := do return [← conditional g "elif"]

def whileLoop : Parse Stmt :=
  mistake ((do
    discard (key "while")
    discard g.namedExpression
    needColon) <|>
  (do
    let t ← key "while"
    discard g.namedExpression
    discard (op ":")
    needBlock "'while' statement" t)) <|>
  (do
    let loc ← here
    discard (key "while")
    let test ← g.namedExpression
    discard (op ":")
    let body ← g.block
    return .while loc test body (← orElseBlock g))

def forLoop : Parse Stmt := rule <|
  mistake (bad (do needColon) <|> (do
    discard (optional (key "async"))
    let t ← key "for"
    discard g.starTargets
    discard (key "in")
    discard g.starExpressions
    discard (op ":")
    needBlock "'for' statement" t)) <|>
  (do
    let loc ← here
    discard (key "for")
    rest loc false) <|>
  (do
    let loc ← here
    discard (key "async")
    discard (key "for")
    rest loc true) <|>
  mistake (badLoop g)
where
  bad (p : Parse Unit) : Parse Unit := do
    discard (optional (key "async"))
    discard (key "for")
    discard g.starTargets
    discard (key "in")
    discard g.starExpressions
    p
  rest (loc : Loc) (isAsync : Bool) : Parse Stmt := do
    let t ← g.starTargets
    discard (key "in")
    commit do
      let e ← g.starExpressions
      discard (op ":")
      let body ← g.block
      return .for loc isAsync t e body (← orElseBlock g)

/-! ### Managers -/

def withItem : Parse WithItem :=
  (do
    let e ← g.expression
    discard (key "as")
    let t ← g.expr .starTarget
    ahead (op "," <|> op ")" <|> op ":")
    return ⟨e, some t⟩) <|>
  mistake (rule do
    discard g.expression
    discard (key "as")
    let e ← g.expression
    ahead (op "," <|> op ")" <|> op ":")
    refuseTarget .assigned e) <|>
  (do return ⟨← g.expression, none⟩)

/-- The managers of a statement, with or without brackets, up to what follows them. -/
def badManagers (behind : Token → Parse Unit) : Parse Unit :=
  let target : Parse Unit := discard (optional do
    discard (key "as")
    g.expr .starTarget)
  (do
    discard (optional (key "async"))
    let t ← key "with"
    discard (gather (op ",") do
      discard g.expression
      target)
    behind t) <|>
  (do
    discard (optional (key "async"))
    let t ← key "with"
    discard (op "(")
    discard (gather (op ",") do
      discard (expressions g)
      target)
    discard (optional (op ","))
    discard (op ")")
    behind t)

def withStatement : Parse Stmt :=
  mistake (badManagers g fun t => do
    discard (op ":")
    needBlock "'with' statement" t) <|>
  statement false <|> statement true <|>
  mistake (badManagers g fun _ => needColon)
where
  statement (isAsync : Bool) : Parse Stmt := do
    let loc ← here
    if isAsync then discard (key "async")
    discard (key "with")
    (do
      discard (op "(")
      let items ← gather (op ",") (withItem g)
      discard (optional (op ","))
      discard (op ")")
      discard (op ":")
      return .with loc isAsync items (← g.block)) <|>
    (do
      let items ← gather (op ",") (withItem g)
      discard (op ":")
      return .with loc isAsync items (← g.block))

/-! ### Exceptions -/

/-- The name that an exception is bound to. -/
def asName : Parse (Option String) := newName

def badHandler : Parse Unit :=
  (do
    discard (key "except")
    discard (optional (op "*"))
    let a ← g.expression
    discard (op ",")
    discard (expressions g)
    discard asName
    discard (op ":")
    refuseExpr a "multiple exception types must be parenthesized") <|>
  (do
    discard (key "except")
    discard (optional (op "*"))
    discard g.expression
    discard asName
    needColon) <|>
  (do
    discard (key "except")
    needColon) <|>
  (do
    discard (key "except")
    discard (op "*")
    discard newline <|> discard (op ":")
    refuse "expected one or more exception types")

def handler : Parse Handler :=
  mistake ((do
    let t ← key "except"
    discard g.expression
    discard asName
    discard (op ":")
    needBlock "'except' statement" t) <|>
  (do
    let t ← key "except"
    discard (op ":")
    needBlock "'except' statement" t)) <|>
  (do
    let loc ← here
    discard (key "except")
    let e ← g.expression
    let n ← asName
    discard (op ":")
    return .mk loc (some e) n (← g.block)) <|>
  (do
    let loc ← here
    discard (key "except")
    discard (op ":")
    return .mk loc none none (← g.block)) <|>
  mistake (badHandler g)

def starHandler : Parse Handler :=
  mistake (do
    let t ← key "except"
    discard (op "*")
    discard g.expression
    discard asName
    discard (op ":")
    needBlock "'except*' statement" t) <|>
  (do
    let loc ← here
    discard (key "except")
    discard (op "*")
    let e ← g.expression
    let n ← asName
    discard (op ":")
    return .mk loc (some e) n (← g.block)) <|>
  mistake (badHandler g)

def finalBlock : Parse (List Stmt) :=
  mistake (do
    let t ← key "finally"
    discard (op ":")
    needBlock "'finally' statement" t) <|>
  (do
    discard (key "finally")
    discard (force ":")
    g.block)

def badTry : Parse Unit :=
  (do
    let t ← key "try"
    discard (op ":")
    needBlock "'try' statement" t) <|>
  (do
    discard (key "try")
    discard (op ":")
    discard g.block
    notAhead (key "except" <|> key "finally")
    refuse "expected 'except' or 'finally' block") <|>
  (do
    discard (key "try")
    discard (op ":")
    discard (many g.block)
    discard (many1 (handler g))
    let t ← key "except"
    discard (op "*")
    discard g.expression
    discard asName
    discard (op ":")
    refuseToken t mixedKinds) <|>
  (do
    discard (key "try")
    discard (op ":")
    discard (many g.block)
    discard (many1 (starHandler g))
    let t ← key "except"
    discard (optional (do
      discard g.expression
      asName))
    discard (op ":")
    refuseToken t mixedKinds)
where
  mixedKinds : String := "cannot have both 'except' and 'except*' on the same 'try'"

def tryStatement : Parse Stmt :=
  mistake (badTry g) <|>
  (do
    let (loc, body) ← start
    return .try loc false body [] [] (← finalBlock g)) <|>
  (do
    let (loc, body) ← start
    let hs ← many1 (handler g)
    let orElse ← orElseBlock g
    return .try loc false body hs orElse (← final)) <|>
  (do
    let (loc, body) ← start
    let hs ← many1 (starHandler g)
    let orElse ← orElseBlock g
    return .try loc true body hs orElse (← final))
where
  start : Parse (Loc × List Stmt) := do
    let loc ← here
    discard (key "try")
    discard (force ":")
    return (loc, ← g.block)
  final : Parse (List Stmt) := do return (← optional (finalBlock g)).getD []

/-! ### Matches -/

def subject : Parse Expr :=
  (do
    let loc ← here
    let e ← g.expr .starNamedExpression
    discard (op ",")
    let rest ← optional (starNamedExpressions g)
    return .tuple loc (e :: rest.getD []) .load) <|> g.namedExpression

def guard : Parse Expr := do
  discard (key "if")
  g.namedExpression

def caseBlock : Parse Case :=
  mistake ((do
    discard (softKey "case")
    discard (patterns g)
    discard (optional (guard g))
    needColon) <|>
  (do
    let t ← softKey "case"
    discard (patterns g)
    discard (optional (guard g))
    discard (op ":")
    needBlock "'case' statement" t)) <|>
  (do
    discard (softKey "case")
    let p ← patterns g
    let condition ← optional (guard g)
    discard (op ":")
    return .mk p condition (← g.block))

def matchStatement : Parse Stmt :=
  (do
    let loc ← here
    discard (softKey "match")
    let e ← subject g
    discard (op ":")
    discard newline
    discard indent
    let cases ← many1 (caseBlock g)
    discard dedent
    return .match loc e cases) <|>
  mistake ((do
    discard (softKey "match")
    discard (subject g)
    needColon) <|>
  (do
    let t ← softKey "match"
    discard (subject g)
    discard (op ":")
    needBlock "'match' statement" t))

/-! ### Definitions -/

def noParams : Params := .mk [] [] none [] [] none []

def parameters : Parse (Option Params) :=
  optional ({ rules := g, isLambda := false } : ParamStyle).params

def resultHint : Parse (Option Expr) := optional do
  discard (op "->")
  g.expression

def function (decorators : List Expr) : Parse Stmt :=
  mistake (do
    discard (optional (key "async"))
    let t ← key "def"
    discard nameToken
    discard (op "(")
    discard (parameters g)
    discard (op ")")
    discard (resultHint g)
    discard (op ":")
    needBlock "function definition" t) <|>
  definition false <|> definition true
where
  definition (isAsync : Bool) : Parse Stmt := do
    let loc ← here
    if isAsync then discard (key "async")
    discard (key "def")
    let n ← name
    discard (force "(")
    let ps ← parameters g
    discard (op ")")
    let hint ← resultHint g
    discard (force ":")
    return .function loc isAsync n (ps.getD noParams) (← g.block) decorators hint

/-- The bases of a class and the arguments by name. -/
def bases : Parse (List Expr × List Keyword) := do
  match ← optional (do
    discard (op "(")
    let a ← optional (g.expr .arguments)
    discard (op ")")
    return (a.map argsOf).getD ([], [])) with
  | some a => return a
  | none => return ([], [])

def classDefinition (decorators : List Expr) : Parse Stmt :=
  mistake ((do
    discard (key "class")
    discard nameToken
    discard (bases g)
    needColon) <|>
  (do
    let t ← key "class"
    discard nameToken
    discard (bases g)
    discard (op ":")
    needBlock "class definition" t)) <|>
  (do
    let loc ← here
    discard (key "class")
    let n ← name
    let (bs, ks) ← bases g
    discard (op ":")
    return .cls loc n bs ks (← g.block) decorators)

def decorators : Parse (List Expr) := many1 do
  discard (op "@")
  let e ← g.namedExpression
  discard newline
  return e

/-! ### All statements -/

def compound : Parse Stmt :=
  (do
    ahead (discard (key "def") <|> discard (op "@") <|> discard (key "async"))
    (do
      let ds ← decorators g
      function g ds) <|> function g []) <|>
  (do
    ahead (key "if")
    conditional g "if") <|>
  (do
    ahead (discard (key "class") <|> discard (op "@"))
    (do
      let ds ← decorators g
      classDefinition g ds) <|> classDefinition g []) <|>
  (do
    ahead (key "with" <|> key "async")
    withStatement g) <|>
  (do
    ahead (key "for" <|> key "async")
    forLoop g) <|>
  (do
    ahead (key "try")
    tryStatement g) <|>
  (do
    ahead (key "while")
    whileLoop g) <|>
  matchStatement g

def statement : Parse (List Stmt) :=
  (do return [← compound g]) <|> simpleLine g

def statements : Parse (List Stmt) := do return (← many1 (statement g)).flatten

def block : Parse (List Stmt) :=
  (do
    discard newline
    discard indent
    let ss ← statements g
    discard dedent
    return ss) <|>
  simpleLine g <|>
  mistake (do
    discard newline
    notAhead indent
    refuseIndent "expected an indented block")

end LiveMarkdown.Script.Grammar
