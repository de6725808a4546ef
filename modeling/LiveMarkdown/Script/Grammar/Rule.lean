import LiveMarkdown.Script.Grammar.Basic
import LiveMarkdown.Text.Compatibility

/-!
The rules by which programs are read. The reader of one rule is given the readers of all rules; the
readers of all rules are built from these by recursion on the depth that is left.
-/

namespace LiveMarkdown.Script.Grammar

open Parse

/-- The rules whose results are expressions. -/
inductive ExprRule where
  | expression
  /-- An expression in which no mistakes are looked for. -/
  | plainExpression
  | namedExpression
  | starExpression
  | starExpressions
  | starNamedExpression
  | yieldExpression
  | disjunction
  | conjunction
  | inversion
  | bitOr
  | bitXor
  | bitAnd
  | shift
  | sum
  | term
  | factor
  | awaited
  | primary
  | atom
  | generator
  | slices
  | texts
  /-- The arguments of a call, held as a call. -/
  | arguments
  | targetPrimary
  | starTarget
  | targetWithStarAtom
  | starTargets
  | singleTarget
  | deleteTarget
  /-- A list or a tuple in brackets. -/
  | display
  /-- The known mistakes of named expressions, which have no results. -/
  | wrongName
deriving DecidableEq, Repr

namespace ExprRule

/-- A number for each rule whose results are remembered. -/
def slot? : ExprRule → Option Nat
  | expression => some 0
  | starExpression => some 1
  | disjunction => some 2
  | conjunction => some 3
  | inversion => some 4
  | bitOr => some 5
  | bitXor => some 6
  | bitAnd => some 7
  | shift => some 8
  | sum => some 9
  | term => some 10
  | factor => some 11
  | awaited => some 12
  | primary => some 13
  | texts => some 14
  | arguments => some 15
  | targetPrimary => some 16
  | starTarget => some 17
  | targetWithStarAtom => some 18
  | deleteTarget => some 19
  | wrongName => some 20
  | _ => none

end ExprRule

/-- A rule, indexed by the type of its results. -/
inductive Rule : Type → Type where
  | expr (r : ExprRule) : Rule Expr
  | clauses : Rule (List Clause)
  | closedPattern : Rule Pattern
  | block : Rule (List Stmt)
  | elseIf : Rule (List Stmt)

/-- The readers of all rules. -/
structure Rules where
  read : {α : Type} → Rule α → Parse α

namespace Rules

variable (g : Rules)

def expr (r : ExprRule) : Parse Expr := g.read (.expr r)

def expression : Parse Expr := g.expr .expression

def disjunction : Parse Expr := g.expr .disjunction

def bitOr : Parse Expr := g.expr .bitOr

def namedExpression : Parse Expr := g.expr .namedExpression

def starExpressions : Parse Expr := g.expr .starExpressions

def starTargets : Parse Expr := g.expr .starTargets

def block : Parse (List Stmt) := g.read .block

end Rules

/-! ### Words -/

/-- A name that is no keyword, as it is written in the text. -/
def nameToken : Parse Token := kind .name

/-- The name that a token stands for. -/
def nameOf (t : Token) : String := Text.nameForm t.text

def name : Parse String := do return nameOf (← nameToken)

/-- A name as an expression. -/
def nameExpr (ctx : Context) : Parse Expr := do
  let t ← nameToken
  return .name (← locOf t) (nameOf t) ctx

/-- The start of any of the names that are keywords in some places. -/
def softKeyword : Parse Token := accept fun t =>
  t.kind == .name && Token.softKeywords.any fun k => t.text.toList.isPrefixOf k.toList

/-- Names that once began statements of their own. -/
def isFormerStatement : Expr → Bool
  | .name _ id _ => id == "print" || id == "exec"
  | _ => false

/-- An expression as it is used: to be read, bound or unbound. -/
def withContext (ctx : Context) : Expr → Expr
  | .name l id _ => .name l id ctx
  | .tuple l es _ => .tuple l (all es) ctx
  | .list l es _ => .list l (all es) ctx
  | .subscript l v i _ => .subscript l v i ctx
  | .attribute l v a _ => .attribute l v a ctx
  | .starred l v _ => .starred l (withContext ctx v) ctx
  | e => e
where
  all : List Expr → List Expr
    | [] => []
    | e :: es => withContext ctx e :: all es

/-- What an expression is called in messages. -/
def exprName : Expr → String
  | .attribute .. => "attribute"
  | .subscript .. => "subscript"
  | .starred .. => "starred"
  | .name .. => "name"
  | .list .. => "list"
  | .tuple .. => "tuple"
  | .lambda .. => "lambda"
  | .call .. => "function call"
  | .boolOp .. | .binary .. | .unary .. => "expression"
  | .generator .. => "generator expression"
  | .yield .. | .yieldFrom .. => "yield expression"
  | .await .. => "await expression"
  | .listComp .. => "list comprehension"
  | .setComp .. => "set comprehension"
  | .dictComp .. => "dict comprehension"
  | .dict .. => "dict literal"
  | .set .. => "set display"
  | .joined .. | .formatted .. => "f-string expression"
  | .constant _ c =>
    match c with
    | .none => "None"
    | .bool b => if b then "True" else "False"
    | .ellipsis => "ellipsis"
    | _ => "literal"
  | .compare .. => "comparison"
  | .ifElse .. => "conditional expression"
  | .named .. => "named expression"
  | .slice .. => "slice"

/-- What targets are used for. -/
inductive TargetUse where
  | assigned
  | looped
  | deleted
deriving DecidableEq, Repr

/-- The first part of an expression that is no target. -/
def badTarget? (use : TargetUse) : Expr → Option Expr
  | .list _ es _ | .tuple _ es _ => first es
  | e@(.starred _ v _) => if use = .deleted then some e else badTarget? use v
  | e@(.compare _ left ops _) =>
    if use = .looped then
      match ops with
      | .isIn :: _ => badTarget? use left
      | _ => none
    else some e
  | .name .. | .subscript .. | .attribute .. => none
  | e => some e
where
  first : List Expr → Option Expr
    | [] => none
    | e :: es => (badTarget? use e).orElse fun _ => first es

/-- Refuses an expression of which some part is no target. -/
def refuseTarget (use : TargetUse) (e : Expr) : Parse Unit := do
  match badTarget? use e with
  | some t =>
    let verb := if use = .deleted then "delete" else "assign to"
    refuseExpr t s!"cannot {verb} {exprName t}"
  | none => throw .cut

end LiveMarkdown.Script.Grammar
