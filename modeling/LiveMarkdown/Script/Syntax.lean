/-!
Programs as trees: expressions, patterns and statements. Every expression, pattern and statement
carries the place where it begins.
-/

namespace LiveMarkdown.Script

/-- A line counted from one and a column counted from zero. -/
structure Loc where
  line : Nat := 1
  column : Nat := 0
deriving DecidableEq, Repr, Inhabited

/-- Whether a target is read, bound or unbound. -/
inductive Context where
  | load
  | store
  | del
deriving DecidableEq, Repr, Inhabited

inductive BoolOp where
  | and
  | or
deriving DecidableEq, Repr, Inhabited

inductive BinaryOp where
  | add
  | sub
  | mult
  | matMult
  | div
  | mod
  | pow
  | leftShift
  | rightShift
  | bitOr
  | bitXor
  | bitAnd
  | floorDiv
deriving DecidableEq, Repr, Inhabited

inductive UnaryOp where
  | invert
  | not
  | plus
  | minus
deriving DecidableEq, Repr, Inhabited

inductive CompareOp where
  | eq
  | notEq
  | less
  | lessEq
  | greater
  | greaterEq
  | is
  | isNot
  | isIn
  | notIn
deriving DecidableEq, Repr, Inhabited

inductive Constant where
  | none
  | ellipsis
  | bool (b : Bool)
  | int (n : Int)
  | float (x : Float)
  | complex (re im : Float)
  /-- A text, perhaps with a mark that says that it is one. -/
  | str (s : String) (marked : Bool)
  | bytes (bs : List UInt8)
deriving Repr, Inhabited

mutual

inductive Expr where
  | boolOp (loc : Loc) (op : BoolOp) (values : List Expr)
  | named (loc : Loc) (target value : Expr)
  | binary (loc : Loc) (left : Expr) (op : BinaryOp) (right : Expr)
  | unary (loc : Loc) (op : UnaryOp) (operand : Expr)
  | lambda (loc : Loc) (params : Params) (body : Expr)
  | ifElse (loc : Loc) (test body orElse : Expr)
  | dict (loc : Loc) (keys : List (Option Expr)) (values : List Expr)
  | set (loc : Loc) (elements : List Expr)
  | listComp (loc : Loc) (element : Expr) (clauses : List Clause)
  | setComp (loc : Loc) (element : Expr) (clauses : List Clause)
  | dictComp (loc : Loc) (key value : Expr) (clauses : List Clause)
  | generator (loc : Loc) (element : Expr) (clauses : List Clause)
  | await (loc : Loc) (value : Expr)
  | yield (loc : Loc) (value : Option Expr)
  | yieldFrom (loc : Loc) (value : Expr)
  | compare (loc : Loc) (left : Expr) (ops : List CompareOp) (rights : List Expr)
  | call (loc : Loc) (func : Expr) (args : List Expr) (keywords : List Keyword)
  | formatted (loc : Loc) (value : Expr) (conversion : Int) (spec : Option Expr)
  | joined (loc : Loc) (values : List Expr)
  | constant (loc : Loc) (value : Constant)
  | attribute (loc : Loc) (value : Expr) (attr : String) (ctx : Context)
  | subscript (loc : Loc) (value index : Expr) (ctx : Context)
  | starred (loc : Loc) (value : Expr) (ctx : Context)
  | name (loc : Loc) (id : String) (ctx : Context)
  | list (loc : Loc) (elements : List Expr) (ctx : Context)
  | tuple (loc : Loc) (elements : List Expr) (ctx : Context)
  | slice (loc : Loc) (lower upper step : Option Expr)

/-- A `for` clause of a comprehension with its conditions. -/
inductive Clause where
  | mk (target iter : Expr) (conditions : List Expr) (isAsync : Bool)

/-- An argument given by name, or a mapping of such arguments. -/
inductive Keyword where
  | mk (loc : Loc) (name : Option String) (value : Expr)

inductive Param where
  | mk (loc : Loc) (name : String) (hint : Option Expr)

/-- The parameters of a function. `defaults` belong to the last positional parameters. -/
inductive Params where
  | mk (positionOnly plain : List Param) (rest : Option Param) (nameOnly : List Param)
      (nameDefaults : List (Option Expr)) (restNames : Option Param) (defaults : List Expr)

end

deriving instance Inhabited for Expr, Clause, Keyword, Param, Params

/-- The name of the first parameter that an argument by position fills. -/
def Params.first? : Params → Option String
  | .mk positionOnly plain .. =>
    match (positionOnly ++ plain).head? with
    | some (.mk _ name _) => some name
    | none => none

inductive Pattern where
  | value (loc : Loc) (e : Expr)
  | singleton (loc : Loc) (c : Constant)
  | sequence (loc : Loc) (items : List Pattern)
  | mapping (loc : Loc) (keys : List Expr) (items : List Pattern) (rest : Option String)
  | cls (loc : Loc) (cls : Expr) (items : List Pattern) (names : List String)
      (named : List Pattern)
  | star (loc : Loc) (name : Option String)
  | capture (loc : Loc) (inner : Option Pattern) (name : Option String)
  | either (loc : Loc) (items : List Pattern)

/-- A name in an import statement with the name it is bound to. -/
structure Alias where
  loc : Loc := {}
  name : String
  asName : Option String := none
deriving DecidableEq, Repr, Inhabited

/-- A context manager with the target that it is bound to. -/
structure WithItem where
  manager : Expr
  target : Option Expr

mutual

inductive Stmt where
  | function (loc : Loc) (isAsync : Bool) (name : String) (params : Params) (body : List Stmt)
      (decorators : List Expr) (returns : Option Expr)
  | cls (loc : Loc) (name : String) (bases : List Expr) (keywords : List Keyword)
      (body : List Stmt) (decorators : List Expr)
  | return (loc : Loc) (value : Option Expr)
  | delete (loc : Loc) (targets : List Expr)
  | assign (loc : Loc) (targets : List Expr) (value : Expr)
  | augAssign (loc : Loc) (target : Expr) (op : BinaryOp) (value : Expr)
  | annAssign (loc : Loc) (target hint : Expr) (value : Option Expr) (simple : Int)
  | for (loc : Loc) (isAsync : Bool) (target iter : Expr) (body orElse : List Stmt)
  | while (loc : Loc) (test : Expr) (body orElse : List Stmt)
  | if (loc : Loc) (test : Expr) (body orElse : List Stmt)
  | with (loc : Loc) (isAsync : Bool) (items : List WithItem) (body : List Stmt)
  | match (loc : Loc) (subject : Expr) (cases : List Case)
  | raise (loc : Loc) (value cause : Option Expr)
  | try (loc : Loc) (isStar : Bool) (body : List Stmt) (handlers : List Handler)
      (orElse final : List Stmt)
  | assert (loc : Loc) (test : Expr) (message : Option Expr)
  | import (loc : Loc) (names : List Alias)
  | importFrom (loc : Loc) (source : Option String) (names : List Alias) (level : Option Nat)
  | global (loc : Loc) (names : List String)
  | nonlocal (loc : Loc) (names : List String)
  | expr (loc : Loc) (value : Expr)
  | pass (loc : Loc)
  | break (loc : Loc)
  | continue (loc : Loc)

inductive Handler where
  | mk (loc : Loc) (kind : Option Expr) (name : Option String) (body : List Stmt)

inductive Case where
  | mk (pattern : Pattern) (guard : Option Expr) (body : List Stmt)

end

instance : Inhabited Stmt := ⟨.pass {}⟩

/-- A statement that imports whole modules. -/
@[match_pattern]
def Stmt.importing (loc : Loc) (names : List Alias) : Stmt := .import loc names

def Expr.loc : Expr → Loc
  | .boolOp l .. | .named l .. | .binary l .. | .unary l .. | .lambda l .. | .ifElse l ..
  | .dict l .. | .set l .. | .listComp l .. | .setComp l .. | .dictComp l .. | .generator l ..
  | .await l .. | .yield l .. | .yieldFrom l .. | .compare l .. | .call l .. | .formatted l ..
  | .joined l .. | .constant l .. | .attribute l .. | .subscript l .. | .starred l ..
  | .name l .. | .list l .. | .tuple l .. | .slice l .. => l

def Stmt.loc : Stmt → Loc
  | .function l .. | .cls l .. | .return l .. | .delete l .. | .assign l .. | .augAssign l ..
  | .annAssign l .. | .for l .. | .while l .. | .if l .. | .with l .. | .match l .. | .raise l ..
  | .try l .. | .assert l .. | .import l .. | .importFrom l .. | .global l .. | .nonlocal l ..
  | .expr l .. | .pass l | .break l | .continue l => l

def Pattern.loc : Pattern → Loc
  | .value l .. | .singleton l .. | .sequence l .. | .mapping l .. | .cls l .. | .star l ..
  | .capture l .. | .either l .. => l

end LiveMarkdown.Script
