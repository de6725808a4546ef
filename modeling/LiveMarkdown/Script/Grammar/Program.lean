import LiveMarkdown.Script.Grammar.Statement
import LiveMarkdown.Script.Grammar.Text

/-!
Whole programs: a list of statements, or one expression.
-/

namespace LiveMarkdown.Script.Grammar

open Parse

/-- Reads by a rule whose results are expressions. -/
def exprOf (g : Rules) : ExprRule → Parse Expr
  | .expression => expression g (lambda g)
  | .plainExpression => plainExpression g (lambda g)
  | .namedExpression => namedExpression g
  | .starExpression => starredOr g g.expression
  | .starExpressions => starExpressions g
  | .starNamedExpression => starredOr g g.namedExpression
  | .yieldExpression => yieldExpression g
  | .disjunction => disjunction g
  | .conjunction => conjunction g
  | .inversion => inversion g
  | .bitOr => bitOr g
  | .bitXor => bitXor g
  | .bitAnd => bitAnd g
  | .shift => shift g
  | .sum => sum g
  | .term => term g
  | .factor => factor g
  | .awaited => awaited g
  | .primary => primary g
  | .atom => atom g
  | .generator => generator g
  | .slices => slices g
  | .texts => texts g
  | .arguments => arguments g
  | .targetPrimary => targetPrimary g
  | .starTarget => starTarget g
  | .targetWithStarAtom => targetWithStarAtom g
  | .starTargets => starTargets g
  | .singleTarget => singleTarget g
  | .deleteTarget => deleteTarget g
  | .display => display g
  | .wrongName => do
    badNamedExpression g
    fail

/-- Reads through a memory: what was already read at a token is not read again. -/
def remembered {α : Type} (find : Memory → Nat → Option (Option (α × Nat)))
    (keep : Memory → Nat → Option (α × Nat) → Memory) (p : Parse α) : Parse α := do
  let start := (← get).mark
  match find (← get).memory start with
  | some (some (a, stop)) =>
    setMark stop
    return a
  | some none => fail
  | none =>
    match ← optional p with
    | some a =>
      modify fun st => { st with memory := keep st.memory start (some (a, st.mark)) }
      return a
    | none =>
      modify fun st => { st with memory := keep st.memory start none }
      fail

def rememberedExpr (slot : Nat) (p : Parse Expr) : Parse Expr :=
  remembered (fun m n => m.exprs[(slot, n)]?)
    (fun m n r => { m with exprs := m.exprs.insert (slot, n) r }) p

/-- Reads by a rule. -/
def answer (g : Rules) : {α : Type} → Rule α → Parse α
  | _, .expr r =>
    match r.slot? with
    | some slot => rememberedExpr slot (exprOf g r)
    | none => exprOf g r
  | _, .clauses => clauses g
  | _, .closedPattern =>
    remembered (fun m n => m.patterns[n]?)
      (fun m n r => { m with patterns := m.patterns.insert n r }) (closedPattern g)
  | _, .block =>
    remembered (fun m n => m.blocks[n]?)
      (fun m n r => { m with blocks := m.blocks.insert n r }) (block g)
  | _, .elseIf => elseIf g

/-- The readers of all rules, to a depth. -/
def rules : Nat → Rules
  | 0 => ⟨fun _ => fail⟩
  | depth + 1 => ⟨fun r => answer (rules depth) r⟩

/-- How deep rules may be inside of each other. -/
def depthLimit : Nat := 100000

def wholeProgram : Parse (List Stmt) := do
  let ss ← optional (statements (rules depthLimit))
  discard (kind .done)
  return ss.getD []

def wholeExpression : Parse Expr := do
  let e ← expressions (rules depthLimit)
  discard (many newline)
  discard (kind .done)
  return e

/-- What there is to read in a text. -/
def sourceOf (text : String) (closeLine : Bool) : Source :=
  let lexer := Lexer.start text closeLine
  let (tokens, refusal) := lexer.tokens
  { tokens, refusal, lexer, strict := false }

/-- Reads a program of statements. -/
def readProgram (text : String) : Except SyntaxFault (List Stmt) :=
  run wholeProgram (sourceOf text true)

/-- Reads one expression. -/
def readExpression (text : String) : Except SyntaxFault Expr :=
  run wholeExpression (sourceOf text false)

end LiveMarkdown.Script.Grammar
