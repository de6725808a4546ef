import LiveMarkdown.Script.Grammar.Expression

/-!
The parameters of functions. Those of functions without a name have no annotations and end at a
colon instead of a bracket.
-/

namespace LiveMarkdown.Script.Grammar

open Parse

/-- The parameters of functions with or without a name. -/
structure ParamStyle where
  rules : Rules
  isLambda : Bool

namespace ParamStyle

variable (k : ParamStyle)

/-- The text that ends the parameters. -/
def closing : String := if k.isLambda then ":" else ")"

def param : Parse Param := do
  let loc ← here
  let n ← name
  if k.isLambda then return .mk loc n none
  let hint ← optional do
    discard (op ":")
    k.rules.expression
  return .mk loc n hint

/-- A parameter for the rest of the arguments, whose annotation may be starred. -/
def starHinted : Parse Param := do
  if k.isLambda then fail
  let loc ← here
  let n ← name
  discard (op ":")
  return .mk loc n (some (← k.rules.expr .starExpression))

/-- What follows a parameter: a comma, or the end. -/
def behind {α : Type} (p : Parse α) : Parse α :=
  (do
    let a ← p
    discard (op ",")
    return a) <|>
  (do
    let a ← p
    ahead (op k.closing)
    return a)

def default : Parse Expr :=
  (do
    discard (op "=")
    k.rules.expression) <|>
  mistake (do
    let t ← op "="
    ahead (op ")" <|> op ",")
    refuseToken t "expected default value expression")

def plain : Parse Param := k.behind k.param

def withDefault : Parse (Param × Expr) := k.behind do return (← k.param, ← k.default)

def maybeDefault : Parse (Param × Option Expr) := k.behind do
  return (← k.param, ← optional k.default)

/-- Parameters with a slash behind them. -/
def slash {α : Type} (p : Parse α) : Parse α :=
  (do
    let a ← p
    discard (op "/")
    discard (op ",")
    return a) <|>
  (do
    let a ← p
    discard (op "/")
    ahead (op k.closing)
    return a)

/-- Parameters by position only, none with a default. -/
def slashPlain : Parse (List Param) := k.slash (many1 k.plain)

/-- Parameters by position only, the last with defaults. -/
def slashDefault : Parse (List Param × List (Param × Expr)) :=
  k.slash do return (← many k.plain, ← many1 k.withDefault)

def restNames : Parse Param :=
  mistake badRestNames <|> (do
    discard (op "**")
    k.plain)
where
  badRestNames : Parse Unit :=
    (do
      discard (op "**")
      discard k.param
      let t ← op "="
      refuseToken t "var-keyword argument cannot have default value") <|>
    (do
      discard (op "**")
      discard k.param
      discard (op ",")
      let p ← k.param
      match p with
      | .mk loc .. => refuseLoc loc "arguments cannot follow var-keyword argument") <|>
    (do
      discard (op "**")
      discard k.param
      discard (op ",")
      let t ← op "*" <|> op "**" <|> op "/"
      refuseToken t "arguments cannot follow var-keyword argument")

/-- Parameters from a star on. -/
structure Tail where
  rest : Option Param := none
  nameOnly : List (Param × Option Expr) := []
  restNames : Option Param := none

def badTail : Parse Unit :=
  (do
    let t ← op "*"
    (discard (op k.closing)) <|> (do
      discard (op ",")
      discard (op k.closing <|> op "**"))
    let message := "named arguments must follow bare *"
    if k.isLambda then refuse message else refuseToken t message) <|>
  (do
    discard (op "*")
    discard k.param
    let t ← op "="
    refuseToken t "var-positional argument cannot have default value") <|>
  (do
    discard (op "*")
    discard k.plain <|> discard (op ",")
    discard (many k.maybeDefault)
    let t ← op "*"
    discard k.plain <|> discard (op ",")
    refuseToken t "* argument may appear only once")

def tail : Parse Tail :=
  mistake k.badTail <|>
  (do
    discard (op "*")
    let rest ← k.plain
    return { rest, nameOnly := ← many k.maybeDefault, restNames := ← optional k.restNames }) <|>
  (do
    discard (op "*")
    let rest ← k.behind k.starHinted
    return { rest, nameOnly := ← many k.maybeDefault, restNames := ← optional k.restNames }) <|>
  (do
    discard (op "*")
    discard (op ",")
    return { nameOnly := ← many1 k.maybeDefault, restNames := ← optional k.restNames }) <|>
  (do return { restNames := ← k.restNames })

/-- Parameters put together from those by position only, the others, and those from a star on. -/
def assemble (slash : List Param) (slashDefaults : List (Param × Expr)) (plain : List Param)
    (defaults : List (Param × Expr)) (t : Option Tail) : Params :=
  let t := t.getD {}
  .mk (slash ++ slashDefaults.map (·.1)) (plain ++ defaults.map (·.1)) t.rest
    (t.nameOnly.map (·.1)) (t.nameOnly.map (·.2)) t.restNames
    (slashDefaults.map (·.2) ++ defaults.map (·.2))

def parameters : Parse Params :=
  (do
    let a ← k.slashPlain
    return assemble a [] (← many k.plain) (← many k.withDefault) (← optional k.tail)) <|>
  (do
    let (a, b) ← k.slashDefault
    return assemble a b [] (← many k.withDefault) (← optional k.tail)) <|>
  (do
    let a ← many1 k.plain
    return assemble [] [] a (← many k.withDefault) (← optional k.tail)) <|>
  (do
    let a ← many1 k.withDefault
    return assemble [] [] [] a (← optional k.tail)) <|>
  (do return assemble [] [] [] [] (some (← k.tail)))

def refuseParam {α : Type} (p : Param) (message : String) : Parse α :=
  match p with
  | .mk loc .. => refuseLoc loc message

def anySlash : Parse Unit := discard k.slashPlain <|> discard k.slashDefault

def badParameters : Parse Unit :=
  (do
    discard (many k.plain)
    discard k.slashDefault <|> discard (many1 k.withDefault)
    let p ← k.plain
    refuseParam p "non-default argument follows default argument") <|>
  (do
    discard (many k.plain)
    let t ← op "("
    if k.isLambda then discard (gather (op ",") k.param) else discard (many1 k.plain)
    discard (optional (op ","))
    discard (op ")")
    refuseToken t (if k.isLambda then "Lambda expression parameters cannot be parenthesized"
      else "Function parameters cannot be parenthesized")) <|>
  (do
    let t ← op "/"
    discard (op ",")
    refuseToken t "at least one argument must precede /") <|>
  (do
    k.anySlash
    discard (many k.maybeDefault)
    let t ← op "/"
    refuseToken t "/ may appear only once") <|>
  (do
    discard (optional k.anySlash)
    discard (many k.maybeDefault)
    discard (op "*")
    discard (op ",") <|> discard k.plain
    discard (many k.maybeDefault)
    let t ← op "/"
    refuseToken t "/ must be ahead of *") <|>
  (do
    discard (many1 k.maybeDefault)
    discard (op "/")
    let t ← op "*"
    refuseToken t "expected comma between / and *")

def params : Parse Params := mistake k.badParameters <|> k.parameters

end ParamStyle

/-- A function without a name. -/
def lambda (g : Rules) : Parse Expr := do
  let loc ← here
  discard (key "lambda")
  let ps ← optional ({ rules := g, isLambda := true } : ParamStyle).params
  discard (op ":")
  return .lambda loc (ps.getD (.mk [] [] none [] [] none [])) (← g.expression)

end LiveMarkdown.Script.Grammar
