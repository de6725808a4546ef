import LiveMarkdown.Script.Grammar.Expression

/-!
What can be assigned to, and what can be deleted.
-/

namespace LiveMarkdown.Script.Grammar

open Parse

variable (g : Rules)

/-- What may make a target longer. -/
def longer : Parse Unit := discard (op "(" <|> op "[" <|> op ".")

/-- An expression that goes on with a call, an attribute or a subscript. -/
def targetPrimary : Parse Expr := do
  let loc ← here
  let goingOn (p : Parse Expr) : Parse Expr := do
    let e ← p
    ahead longer
    return e
  extended (fun e => goingOn (attributeOf loc e .load) <|> goingOn (subscriptOf g loc e .load) <|>
    goingOn (generatorCall g loc e) <|> goingOn (callOf g loc e)) (← goingOn (g.expr .atom))

/-- An attribute or subscript at the end of an expression. -/
def placeTarget (ctx : Context) : Parse Expr :=
  (do
    let loc ← here
    let e ← attributeOf loc (← g.expr .targetPrimary) ctx
    notAhead longer
    return e) <|>
  (do
    let loc ← here
    let e ← subscriptOf g loc (← g.expr .targetPrimary) ctx
    notAhead longer
    return e)

/-- Targets with commas between them. -/
def targetList (p : Parse Expr) : Parse (List Expr) := do
  let es ← gather (op ",") p
  discard (optional (op ","))
  return es

def starTargets : Parse Expr :=
  (do
    let e ← g.expr .starTarget
    notAhead (op ",")
    return e) <|>
  (do
    let loc ← here
    return .tuple loc (← targetList (g.expr .starTarget)) .store)

/-- The targets in a tuple: one with a comma, or several. -/
def tupleTargets : Parse (List Expr) := do
  let first ← g.expr .starTarget
  match ← many (do discard (op ","); g.expr .starTarget) with
  | [] =>
    discard (op ",")
    return [first]
  | rest =>
    discard (optional (op ","))
    return first :: rest

def starTarget : Parse Expr :=
  (do
    let loc ← here
    discard (op "*")
    notAhead (op "*")
    return .starred loc (withContext .store (← g.expr .starTarget)) .store) <|>
  g.expr .targetWithStarAtom

def starAtom : Parse Expr :=
  nameExpr .store <|>
  (do
    discard (op "(")
    let e ← g.expr .targetWithStarAtom
    discard (op ")")
    return withContext .store e) <|>
  (do
    let loc ← here
    discard (op "(")
    let es ← optional (tupleTargets g)
    discard (op ")")
    return .tuple loc (es.getD []) .store) <|>
  (do
    let loc ← here
    discard (op "[")
    let es ← optional (targetList (g.expr .starTarget))
    discard (op "]")
    return .list loc (es.getD []) .store)

def targetWithStarAtom : Parse Expr := placeTarget g .store <|> starAtom g

def singleTarget : Parse Expr :=
  placeTarget g .store <|> nameExpr .store <|>
  (do
    discard (op "(")
    let e ← g.expr .singleTarget
    discard (op ")")
    return e)

def deleteTargets : Parse (List Expr) := targetList (g.expr .deleteTarget)

def deleteTarget : Parse Expr :=
  placeTarget g .del <|> nameExpr .del <|>
  (do
    discard (op "(")
    let e ← g.expr .deleteTarget
    discard (op ")")
    return withContext .del e) <|>
  (do
    let loc ← here
    discard (op "(")
    let es ← optional (deleteTargets g)
    discard (op ")")
    return .tuple loc (es.getD []) .del) <|>
  (do
    let loc ← here
    discard (op "[")
    let es ← optional (deleteTargets g)
    discard (op "]")
    return .list loc (es.getD []) .del)

end LiveMarkdown.Script.Grammar
