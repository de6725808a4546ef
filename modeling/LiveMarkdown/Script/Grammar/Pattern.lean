import LiveMarkdown.Script.Grammar.Expression
import LiveMarkdown.Script.Literal

/-!
The patterns of match statements.
-/

namespace LiveMarkdown.Script.Grammar

open Parse

variable (g : Rules)

/-! ### Literals -/

def numberExpr : Parse Expr := do
  ahead (kind .number)
  g.expr .atom

def signed (p : Parse Expr) : Parse Expr :=
  p <|> (do
    let loc ← here
    discard (op "-")
    return .unary loc .minus (← p))

def realNumber : Parse Expr := do
  let e ← numberExpr g
  match e with
  | .constant _ (.complex ..) => refuseExpr e "real number required in complex literal"
  | _ => return e

def imaginaryNumber : Parse Expr := do
  let e ← numberExpr g
  match e with
  | .constant _ (.complex ..) => return e
  | _ => refuseExpr e "imaginary number required in complex literal"

def complexNumber : Parse Expr :=
  (do
    let loc ← here
    let a ← signed (realNumber g)
    discard (op "+")
    return .binary loc a .add (← imaginaryNumber g)) <|>
  (do
    let loc ← here
    let a ← signed (realNumber g)
    discard (op "-")
    return .binary loc a .sub (← imaginaryNumber g))

/-- A number or a text. -/
def literalValue : Parse Expr :=
  (do
    let e ← signed (numberExpr g)
    notAhead (op "+" <|> op "-")
    return e) <|> complexNumber g <|> g.expr .texts

def singleton : Parse (Loc × Constant) :=
  (do return (← locOf (← key "None"), .none)) <|>
  (do return (← locOf (← key "True"), .bool true)) <|>
  (do return (← locOf (← key "False"), .bool false))

def literalPattern : Parse Pattern :=
  (do
    let e ← literalValue g
    return .value e.loc e) <|>
  (do
    let (loc, c) ← singleton
    return .singleton loc c)

/-! ### Names -/

/-- A name that is bound: no lone underscore, and no part of a longer expression. -/
def captureTarget : Parse (Loc × String) := do
  notAhead (softKey "_")
  let t ← nameToken
  notAhead (op "." <|> op "(" <|> op "=")
  return (← locOf t, nameOf t)

def capturePattern : Parse Pattern := do
  let (loc, n) ← captureTarget
  return .capture loc none (some n)

def wildcard : Parse Pattern := do
  let t ← softKey "_"
  return .capture (← locOf t) none none

/-- A name with attributes. -/
def nameOrAttribute : Parse Expr := do
  let loc ← here
  extended (fun e => attributeOf loc e .load) (← nameExpr .load)

/-- A name with at least one attribute. -/
def attributePath : Parse Expr := do
  let e ← nameOrAttribute
  match e with
  | .attribute .. => return e
  | _ => fail

def valuePattern : Parse Pattern := do
  let e ← attributePath
  notAhead (op "." <|> op "(" <|> op "=")
  return .value e.loc e

/-! ### Patterns inside of each other -/

def orPattern : Parse Pattern := do
  let loc ← here
  match ← gather (op "|") (g.read .closedPattern) with
  | [p] => return p
  | ps => return .either loc ps

def badCapture : Parse Unit :=
  (do
    discard (orPattern g)
    discard (key "as")
    let t ← softKey "_"
    refuseToken t "cannot use '_' as a target") <|>
  (do
    discard (orPattern g)
    discard (key "as")
    notAhead nameToken
    let e ← g.expression
    refuseExpr e "invalid pattern target")

def pattern : Parse Pattern :=
  (do
    let loc ← here
    let p ← orPattern g
    discard (key "as")
    let (_, n) ← captureTarget
    return .capture loc (some p) (some n)) <|>
  mistake (badCapture g) <|> orPattern g

def starPattern : Parse Pattern :=
  (do
    let loc ← here
    discard (op "*")
    let (_, n) ← captureTarget
    return .star loc (some n)) <|>
  (do
    let loc ← here
    discard (op "*")
    discard wildcard
    return .star loc none)

def maybeStarPattern : Parse Pattern := starPattern <|> pattern g

def maybeSequence : Parse (List Pattern) := do
  let ps ← gather (op ",") (maybeStarPattern g)
  discard (optional (op ","))
  return ps

/-- A sequence without brackets: at least one pattern with a comma behind it. -/
def openSequence : Parse (List Pattern) := do
  let p ← maybeStarPattern g
  discard (op ",")
  let rest ← optional (maybeSequence g)
  return p :: rest.getD []

def patterns : Parse Pattern :=
  (do
    let loc ← here
    return .sequence loc (← openSequence g)) <|> pattern g

def groupPattern : Parse Pattern := do
  discard (op "(")
  let p ← pattern g
  discard (op ")")
  return p

def sequencePattern : Parse Pattern :=
  (do
    let loc ← here
    discard (op "[")
    let ps ← optional (maybeSequence g)
    discard (op "]")
    return .sequence loc (ps.getD [])) <|>
  (do
    let loc ← here
    discard (op "(")
    let ps ← optional (openSequence g)
    discard (op ")")
    return .sequence loc (ps.getD []))

def singletonExpr : Parse Expr := do
  let (loc, c) ← singleton
  return .constant loc c

def keyPattern : Parse (Expr × Pattern) := do
  let k ← literalValue g <|> singletonExpr <|> attributePath
  discard (op ":")
  return (k, ← pattern g)

def restOfMapping : Parse String := do
  discard (op "**")
  return (← captureTarget).2

def mappingPattern : Parse Pattern := do
  let loc ← here
  discard (op "\x7b")
  let close : Parse Unit := do
    discard (optional (op ","))
    discard (op "\x7d")
  (do
    discard (op "\x7d")
    return .mapping loc [] [] none) <|>
  (do
    let r ← restOfMapping
    close
    return .mapping loc [] [] (some r)) <|>
  (do
    let items ← gather (op ",") (keyPattern g)
    discard (op ",")
    let r ← restOfMapping
    close
    return .mapping loc (items.map (·.1)) (items.map (·.2)) (some r)) <|>
  (do
    let items ← gather (op ",") (keyPattern g)
    close
    return .mapping loc (items.map (·.1)) (items.map (·.2)) none)

def keywordPattern : Parse (String × Pattern) := do
  let n ← name
  discard (op "=")
  return (n, ← pattern g)

def positionalPatterns : Parse (List Pattern) := gather (op ",") (pattern g)

def keywordPatterns : Parse (List (String × Pattern)) := gather (op ",") (keywordPattern g)

def badClassPattern : Parse Unit := do
  discard nameOrAttribute
  discard (op "(")
  discard (optional do
    discard (positionalPatterns g)
    op ",")
  discard (keywordPatterns g)
  discard (op ",")
  match ← positionalPatterns g with
  | p :: _ => refuseLoc p.loc "positional patterns follow keyword patterns"
  | [] => fail

def classPattern : Parse Pattern :=
  (do
    let loc ← here
    let c ← nameOrAttribute
    discard (op "(")
    let close : Parse Unit := do
      discard (optional (op ","))
      discard (op ")")
    (do
      discard (op ")")
      return .cls loc c [] [] []) <|>
    (do
      let ps ← positionalPatterns g
      close
      return .cls loc c ps [] []) <|>
    (do
      let ks ← keywordPatterns g
      close
      return .cls loc c [] (ks.map (·.1)) (ks.map (·.2))) <|>
    (do
      let ps ← positionalPatterns g
      discard (op ",")
      let ks ← keywordPatterns g
      close
      return .cls loc c ps (ks.map (·.1)) (ks.map (·.2)))) <|>
  mistake (badClassPattern g)

def closedPattern : Parse Pattern :=
  literalPattern g <|> capturePattern <|> wildcard <|> valuePattern <|> groupPattern g <|>
    sequencePattern g <|> mappingPattern g <|> classPattern g

end LiveMarkdown.Script.Grammar
