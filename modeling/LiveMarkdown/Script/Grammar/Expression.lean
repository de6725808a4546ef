import LiveMarkdown.Script.Grammar.Rule

/-!
Expressions, from the loosest binding to the tightest.
-/

namespace LiveMarkdown.Script.Grammar

open Parse

variable (g : Rules)

/-- Expressions with commas between them: one alone is itself, several are a tuple. -/
def listed (p : Parse Expr) : Parse Expr := do
  let loc ← here
  let first ← p
  match ← many (do discard (op ","); p) with
  | [] =>
    match ← optional (op ",") with
    | some _ => return .tuple loc [first] .load
    | none => return first
  | rest =>
    discard (optional (op ","))
    return .tuple loc (first :: rest) .load

def expressions : Parse Expr := listed g.expression

def starExpressions : Parse Expr := listed (g.expr .starExpression)

/-- A starred operand, or what `p` reads. -/
def starredOr (p : Parse Expr) : Parse Expr :=
  (do
    let loc ← here
    discard (op "*")
    return .starred loc (← g.bitOr) .load) <|> p

def starNamedExpressions : Parse (List Expr) := do
  let es ← gather (op ",") (g.expr .starNamedExpression)
  discard (optional (op ","))
  return es

/-! ### Known mistakes -/

/-- Two expressions in a row inside of brackets, and a condition without its other branch. -/
def badExpression : Parse Unit := rule <|
  (do
    notAhead ((do discard nameToken; discard (kind .string)) <|> discard softKeyword)
    let a ← g.disjunction
    discard (g.expr .plainExpression)
    if isFormerStatement a || (← previous).level = 0 then throw .cut
    refuseExpr a "invalid syntax. Perhaps you forgot a comma?") <|>
  (do
    let a ← g.disjunction
    discard (key "if")
    discard g.disjunction
    notAhead (discard (key "else") <|> discard (op ":"))
    refuseExpr a "expected 'else' after 'if' expression")

def badStatement : Parse Unit := do
  let a ← nameExpr .load
  notAhead (op "(")
  discard g.starExpressions
  match a with
  | .name _ id _ =>
    if isFormerStatement a then
      refuseExpr a s!"Missing parentheses in call to '{id}'. Did you mean {id}(...)?"
  | _ => fail

/-- An assignment where an expression with a name for it was meant. -/
def badNamedExpression : Parse Unit := rule <|
  (do
    let a ← g.expression
    discard (op ":=")
    discard g.expression
    refuseExpr a s!"cannot use assignment expressions with {exprName a}") <|>
  (do
    let a ← nameExpr .load
    discard (op "=")
    discard g.bitOr
    notAhead (op "=" <|> op ":=")
    refuseExpr a "invalid syntax. Maybe you meant '==' or ':=' instead of '='?") <|>
  (do
    notAhead (discard (g.expr .display <|> g.expr .generator) <|>
      discard (key "True" <|> key "None" <|> key "False"))
    let a ← g.bitOr
    discard (op "=")
    discard g.bitOr
    notAhead (op "=" <|> op ":=")
    refuseExpr a s!"cannot assign to {exprName a} here. Maybe you meant '==' instead of '='?")

/-! ### Loose operators -/

def ifElse : Parse Expr := do
  let loc ← here
  let a ← g.disjunction
  discard (key "if")
  let b ← g.disjunction
  discard (key "else")
  return .ifElse loc b a (← g.expression)

/-- An expression whose parts are given by `lambda` for functions without a name. -/
def expression (lambda : Parse Expr) : Parse Expr :=
  mistake (badExpression g) <|> mistake (badStatement g) <|> ifElse g <|> g.disjunction <|> lambda

def plainExpression (lambda : Parse Expr) : Parse Expr := fun s =>
  (ifElse g <|> g.disjunction <|> lambda) { s with strict := false }

def yieldExpression : Parse Expr := do
  let loc ← here
  (do
    discard (key "yield")
    discard (key "from")
    return .yieldFrom loc (← g.expression)) <|>
  (do
    discard (key "yield")
    return .yield loc (← optional g.starExpressions))

/-- An expression with a name for it. -/
def assignmentExpression : Parse Expr := rule do
  let target ← nameExpr .store
  discard (op ":=")
  commit do return .named target.loc target (← g.expression)

def namedExpression : Parse Expr :=
  assignmentExpression g <|> mistake (discard (g.expr .wrongName)) <|> (do
    let e ← g.expression
    notAhead (op ":=")
    return e)

/-- Operands with a word between them. -/
def joinedBy (word : String) (o : BoolOp) (p : Parse Expr) : Parse Expr := do
  let loc ← here
  let first ← p
  match ← many (do discard (key word); p) with
  | [] => return first
  | rest => return .boolOp loc o (first :: rest)

def disjunction : Parse Expr := joinedBy "or" .or (g.expr .conjunction)

def conjunction : Parse Expr := joinedBy "and" .and (g.expr .inversion)

def comparisonOp : Parse CompareOp :=
  (do discard (op "=="); return .eq) <|>
  (do discard (op "!="); return .notEq) <|>
  (do discard (op "<="); return .lessEq) <|>
  (do discard (op "<"); return .less) <|>
  (do discard (op ">="); return .greaterEq) <|>
  (do discard (op ">"); return .greater) <|>
  (do discard (key "not"); discard (key "in"); return .notIn) <|>
  (do discard (key "in"); return .isIn)

/-- An operator of comparison with its right operand. Two words are tried before one. -/
def comparisonStep : Parse (CompareOp × Expr) :=
  (do return (← comparisonOp, ← g.bitOr)) <|>
  (do discard (key "is"); discard (key "not"); return (.isNot, ← g.bitOr)) <|>
  (do discard (key "is"); return (.is, ← g.bitOr))

def comparison : Parse Expr := do
  let loc ← here
  let left ← g.bitOr
  match ← many (comparisonStep g) with
  | [] => return left
  | steps => return .compare loc left (steps.map (·.1)) (steps.map (·.2))

def inversion : Parse Expr := do
  let loc ← here
  (do
    discard (key "not")
    return .unary loc .not (← g.expr .inversion)) <|> comparison g

/-! ### Tight operators -/

/-- Operands with operators between them, grouped from the left. -/
def leftGrouped (ops : List (String × BinaryOp)) (p : Parse Expr) : Parse Expr := do
  let loc ← here
  let first ← p
  let step (o : String × BinaryOp) : Parse (BinaryOp × Expr) := do
    discard (op o.1)
    return (o.2, ← p)
  let steps ← many (ops.foldr (fun o rest => step o <|> rest) fail)
  return steps.foldl (fun left (o, right) => .binary loc left o right) first

def bitOr : Parse Expr := leftGrouped [("|", .bitOr)] (g.expr .bitXor)

def bitXor : Parse Expr := leftGrouped [("^", .bitXor)] (g.expr .bitAnd)

def bitAnd : Parse Expr := leftGrouped [("&", .bitAnd)] (g.expr .shift)

def shift : Parse Expr := leftGrouped [("<<", .leftShift), (">>", .rightShift)] (g.expr .sum)

def sum : Parse Expr := leftGrouped [("+", .add), ("-", .sub)] (g.expr .term)

def term : Parse Expr :=
  leftGrouped [("*", .mult), ("/", .div), ("//", .floorDiv), ("%", .mod), ("@", .matMult)]
    (g.expr .factor)

def power : Parse Expr := do
  let loc ← here
  let base ← g.expr .awaited
  match ← optional (do discard (op "**"); g.expr .factor) with
  | some e => return .binary loc base .pow e
  | none => return base

def factor : Parse Expr := do
  let loc ← here
  let signed (s : String) (o : UnaryOp) : Parse Expr := do
    discard (op s)
    return .unary loc o (← g.expr .factor)
  signed "+" .plus <|> signed "-" .minus <|> signed "~" .invert <|> power g

def awaited : Parse Expr := do
  let loc ← here
  (do
    discard (key "await")
    return .await loc (← g.expr .primary)) <|> g.expr .primary

/-! ### Calls, attributes and subscripts -/

/-- The arguments of a call in brackets. -/
def callOf (loc : Loc) (f : Expr) : Parse Expr := do
  discard (op "(")
  let a ← optional (g.expr .arguments)
  discard (op ")")
  match a with
  | some (.call _ _ args keywords) => return .call loc f args keywords
  | _ => return .call loc f [] []

def generatorCall (loc : Loc) (f : Expr) : Parse Expr := do
  return .call loc f [← g.expr .generator] []

def attributeOf (loc : Loc) (e : Expr) (ctx : Context) : Parse Expr := do
  discard (op ".")
  return .attribute loc e (← name) ctx

def subscriptOf (loc : Loc) (e : Expr) (ctx : Context) : Parse Expr := do
  discard (op "[")
  let i ← g.expr .slices
  discard (op "]")
  return .subscript loc e i ctx

/-- Repeats a step that makes an expression longer. -/
def extended (step : Expr → Parse Expr) (e : Expr) : Parse Expr := do
  go ((← read).tokens.size + 2) e
where
  go : Nat → Expr → Parse Expr
    | 0, e => return e
    | fuel + 1, e => do
      match ← optional (step e) with
      | some e => go fuel e
      | none => return e

def primary : Parse Expr := do
  let loc ← here
  extended (fun e => attributeOf loc e .load <|> generatorCall g loc e <|> callOf g loc e <|>
    subscriptOf g loc e .load) (← g.expr .atom)

/-- A starred argument or index. -/
def starredExpression : Parse Expr :=
  (do
    let loc ← here
    discard (op "*")
    return .starred loc (← g.expression) .load) <|>
  (do
    discard (op "*")
    refuse "Invalid star expression")

def slice : Parse Expr :=
  (do
    let loc ← here
    let lower ← optional g.expression
    discard (op ":")
    let upper ← optional g.expression
    let step ← optional (do discard (op ":"); optional g.expression)
    return .slice loc lower upper (step.getD none)) <|> g.namedExpression

def slices : Parse Expr :=
  (do
    let e ← slice g
    notAhead (op ",")
    return e) <|>
  (do
    let loc ← here
    let es ← gather (op ",") (slice g <|> starredExpression g)
    discard (optional (op ","))
    return .tuple loc es .load)

end LiveMarkdown.Script.Grammar
