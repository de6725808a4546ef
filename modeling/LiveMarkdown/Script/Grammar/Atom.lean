import LiveMarkdown.Script.Grammar.Expression
import LiveMarkdown.Script.Literal

/-!
The smallest expressions: names, constants, and what stands in brackets.
-/

namespace LiveMarkdown.Script.Grammar

open Parse

variable (g : Rules)

/-! ### Comprehensions -/

/-- What follows `for` in a comprehension, once its `in` is read. -/
def clauseEnd (target : Expr) (isAsync : Bool) : Parse Clause := commit do
  let iter ← g.disjunction
  let conditions ← many do
    discard (key "if")
    g.disjunction
  return .mk target iter conditions isAsync

/-- A loop over what is no target. -/
def badLoop : Parse Unit := rule do
  discard (optional (key "async"))
  discard (key "for")
  refuseTarget .looped (← g.starExpressions)

def clause : Parse Clause := rule <|
  (do
    discard (key "async")
    discard (key "for")
    let t ← g.starTargets
    discard (key "in")
    clauseEnd g t true) <|>
  (do
    discard (key "for")
    let t ← g.starTargets
    discard (key "in")
    clauseEnd g t false) <|>
  mistake (badLoop g)

def clauses : Parse (List Clause) := many1 (clause g)

def allClauses : Parse (List Clause) := g.read .clauses

def badComprehension : Parse Unit :=
  (do
    discard (op "[" <|> op "(" <|> op "\x7b")
    let a ← starredExpression g
    discard (allClauses g)
    refuseExpr a "iterable unpacking cannot be used in comprehension") <|>
  (do
    discard (op "[" <|> op "\x7b")
    let a ← g.expr .starNamedExpression
    discard (op ",")
    discard (starNamedExpressions g)
    discard (allClauses g)
    refuseExpr a message) <|>
  (do
    discard (op "[" <|> op "\x7b")
    let a ← g.expr .starNamedExpression
    discard (op ",")
    discard (allClauses g)
    refuseExpr a message)
where
  message : String := "did you forget parentheses around the comprehension target?"

def listComp : Parse Expr :=
  (do
    let loc ← here
    discard (op "[")
    let e ← g.namedExpression
    let cs ← allClauses g
    discard (op "]")
    return .listComp loc e cs) <|> mistake (badComprehension g)

def setComp : Parse Expr :=
  (do
    let loc ← here
    discard (op "\x7b")
    let e ← g.namedExpression
    let cs ← allClauses g
    discard (op "\x7d")
    return .setComp loc e cs) <|> mistake (badComprehension g)

def generator : Parse Expr :=
  (do
    let loc ← here
    discard (op "(")
    let e ← assignmentExpression g <|> (do
      let e ← g.expression
      notAhead (op ":=")
      return e)
    let cs ← allClauses g
    discard (op ")")
    return .generator loc e cs) <|> mistake (badComprehension g)

def pair : Parse (Expr × Expr) := do
  let k ← g.expression
  discard (op ":")
  return (k, ← g.expression)

def dictComp : Parse Expr :=
  (do
    let loc ← here
    discard (op "\x7b")
    let (k, v) ← pair g
    let cs ← allClauses g
    discard (op "\x7d")
    return .dictComp loc k v cs) <|>
  mistake (do
    discard (op "\x7b")
    let t ← op "**"
    discard g.bitOr
    discard (allClauses g)
    discard (op "\x7d")
    refuseToken t "dict unpacking cannot be used in dict comprehension")

/-! ### Dictionaries and sets -/

/-- An entry of a dictionary, or a mapping that gives entries. -/
def entry : Parse (Option Expr × Expr) :=
  (do
    discard (op "**")
    return (none, ← g.bitOr)) <|>
  (do
    let (k, v) ← pair g
    return (some k, v))

def starredValue : Parse Unit := do
  discard g.expression
  discard (op ":")
  let t ← op "*"
  discard g.bitOr
  refuseToken t "cannot use a starred expression in a dictionary value"

def missingValue : Parse Unit := do
  discard g.expression
  let t ← op ":"
  ahead (op "\x7d" <|> op ",")
  refuseToken t "expression expected after dictionary key and ':'"

def badEntry : Parse Unit :=
  (do
    let e ← g.expression
    notAhead (op ":")
    let t ← previous
    refuseAt e.loc.line t.endColumn "':' expected after dictionary key") <|>
  starredValue g <|> missingValue g

def badEntries : Parse Unit :=
  (do
    discard (gather (op ",") (entry g))
    discard (op ",")
    badEntry g) <|>
  starredValue g <|> missingValue g

/-- A dictionary. Mistakes in its entries are always looked for. -/
def dict : Parse Expr :=
  (do
    let loc ← here
    discard (op "\x7b")
    let es ← optional do
      let es ← gather (op ",") (entry g)
      discard (optional (op ","))
      return es
    discard (op "\x7d")
    let es := es.getD []
    return .dict loc (es.map (·.1)) (es.map (·.2))) <|>
  (do
    discard (op "\x7b")
    badEntries g
    fail)

def set : Parse Expr := do
  let loc ← here
  discard (op "\x7b")
  let es ← starNamedExpressions g
  discard (op "\x7d")
  return .set loc es

/-! ### Brackets -/

def list : Parse Expr := do
  let loc ← here
  discard (op "[")
  let es ← optional (starNamedExpressions g)
  discard (op "]")
  return .list loc (es.getD []) .load

def tuple : Parse Expr := do
  let loc ← here
  discard (op "(")
  let es ← optional do
    let e ← g.expr .starNamedExpression
    discard (op ",")
    let rest ← optional (starNamedExpressions g)
    return e :: rest.getD []
  discard (op ")")
  return .tuple loc (es.getD []) .load

def display : Parse Expr := list g <|> tuple g

def badGroup : Parse Unit :=
  (do
    discard (op "(")
    let a ← starredExpression g
    discard (op ")")
    refuseExpr a "cannot use starred expression here") <|>
  (do
    discard (op "(")
    let t ← op "**"
    discard g.expression
    discard (op ")")
    refuseToken t "cannot use double starred expression here")

def group : Parse Expr :=
  (do
    discard (op "(")
    let e ← g.expr .yieldExpression <|> g.namedExpression
    discard (op ")")
    return e) <|> mistake (badGroup g)

/-! ### Constants -/

def keywordConstant : Parse Expr :=
  (do return .constant (← locOf (← key "True")) (.bool true)) <|>
  (do return .constant (← locOf (← key "False")) (.bool false)) <|>
  (do return .constant (← locOf (← key "None")) .none)

def numberConstant : Parse Expr := do
  let t ← kind .number
  match Literal.tooLong? t.text with
  | some n =>
    refuseAt t.line 0
      (s!"Exceeds the limit ({Literal.digitLimit} digits) for integer string conversion: value " ++
        s!"has {n} digits; use sys.set_int_max_str_digits() to increase the limit - Consider " ++
        "hexadecimal for huge integer literals to avoid decimal conversion limits.")
  | none => return .constant (← locOf t) (Literal.ofNumber t.text)

def atom : Parse Expr :=
  nameExpr .load <|> keywordConstant <|>
  (do
    ahead (kind .string)
    g.expr .texts) <|>
  numberConstant <|>
  (do
    ahead (op "(")
    tuple g <|> group g <|> g.expr .generator) <|>
  (do
    ahead (op "[")
    list g <|> listComp g) <|>
  (do
    ahead (op "\x7b")
    dict g <|> set g <|> dictComp g <|> setComp g) <|>
  (do return .constant (← locOf (← op "...")) .ellipsis)

end LiveMarkdown.Script.Grammar
