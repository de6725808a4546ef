import LiveMarkdown.Script.Grammar.Atom

/-!
The arguments of calls and of class definitions. Arguments by name come after those by position, but
starred arguments may stand among them.
-/

namespace LiveMarkdown.Script.Grammar

open Parse

variable (g : Rules)

/-- An argument by name, a mapping of such arguments, or a starred argument between them. -/
abbrev LateArgument := Expr ⊕ Keyword

def callWith (loc : Loc) (args : List Expr) (late : List LateArgument) : Expr :=
  .call loc (.name loc "" .load) (args ++ late.filterMap Sum.getLeft?) (late.filterMap Sum.getRight?)

/-- An expression that may be assigned to a name. -/
def argumentExpression : Parse Expr :=
  assignmentExpression g <|> (do
    let e ← g.expression
    notAhead (op ":=")
    return e)

/-- An argument by position. -/
def positional : Parse Expr :=
  starredExpression g <|> (do
    let e ← argumentExpression g
    notAhead (op "=")
    return e)

def badKeyword : Parse Unit :=
  (do
    let t ← key "True" <|> key "False" <|> key "None"
    discard (op "=")
    refuseToken t s!"cannot assign to {t.text}") <|>
  (do
    let t ← nameToken
    discard (op "=")
    discard g.expression
    discard (allClauses g)
    refuseToken t "invalid syntax. Maybe you meant '==' or ':=' instead of '='?") <|>
  (do
    notAhead (do discard nameToken; op "=")
    let e ← g.expression
    discard (op "=")
    refuseExpr e "expression cannot contain assignment, perhaps you meant \"==\"?")

def keyword : Parse Keyword := do
  let loc ← here
  let n ← name
  discard (op "=")
  return .mk loc (some n) (← g.expression)

def keywordOrStarred : Parse LateArgument :=
  mistake (badKeyword g) <|>
  (do return .inr (← keyword g)) <|>
  (do return .inl (← starredExpression g))

def keywordOrMapping : Parse LateArgument :=
  mistake (badKeyword g) <|>
  (do return .inr (← keyword g)) <|>
  (do
    let loc ← here
    discard (op "**")
    return .inr (.mk loc none (← g.expression)))

def keywords : Parse (List LateArgument) :=
  (do
    let a ← gather (op ",") (keywordOrStarred g)
    discard (op ",")
    let b ← gather (op ",") (keywordOrMapping g)
    return a ++ b) <|>
  gather (op ",") (keywordOrStarred g) <|>
  gather (op ",") (keywordOrMapping g)

/-- Arguments, held as a call of nothing. -/
def allArguments : Parse Expr :=
  (do
    let loc ← here
    let args ← gather (op ",") (positional g)
    let late ← optional do
      discard (op ",")
      keywords g
    return callWith loc args (late.getD [])) <|>
  (do
    let loc ← here
    return callWith loc [] (← keywords g))

def argsOf : Expr → List Expr × List Keyword
  | .call _ _ args keywords => (args, keywords)
  | _ => ([], [])

def unparenthesized {α : Type} (e : Expr) : Parse α :=
  refuseExpr e "Generator expression must be parenthesized"

def badArguments : Parse Unit := rule <|
  (do
    let a ← allArguments g
    discard (op ",")
    discard (op "*")
    refuseExpr a "iterable argument unpacking follows keyword argument unpacking") <|>
  (do
    let a ← g.expression
    discard (allClauses g)
    discard (op ",")
    discard (optional (discard (allArguments g) <|> (do
      discard g.expression
      discard (allClauses g))))
    unparenthesized a) <|>
  (do
    let t ← nameToken
    discard (op "=")
    discard g.expression
    discard (allClauses g)
    refuseToken t "invalid syntax. Maybe you meant '==' or ':=' instead of '='?") <|>
  (do
    let (args, _) := argsOf (← allArguments g)
    discard (allClauses g)
    match args.getLast? with
    | some e => if 1 < args.length then unparenthesized e
    | none => pure ()
    throw .cut) <|>
  (do
    discard (allArguments g)
    discard (op ",")
    let a ← g.expression
    discard (allClauses g)
    unparenthesized a) <|>
  (do
    let (_, keywords) := argsOf (← allArguments g)
    discard (op ",")
    discard (allArguments g)
    let isMapping : Keyword → Bool
      | .mk _ n _ => n.isNone
    refuse (if keywords.any isMapping then "positional argument follows keyword argument unpacking"
      else "positional argument follows keyword argument"))

def arguments : Parse Expr :=
  (do
    let a ← allArguments g
    discard (optional (op ","))
    ahead (op ")")
    return a) <|> mistake (badArguments g)

end LiveMarkdown.Script.Grammar
