import LiveMarkdown.Number.Decimal
import LiveMarkdown.Script.Comparison

/-!
Expressions written as text, as annotations are kept. An operand is put in brackets if it binds less
tightly than its place asks for.
-/

namespace LiveMarkdown.Script

namespace Written

/-- How tightly the forms of expressions bind, from the loosest on. -/
inductive Strength where
  | tuple
  | test
  | either
  | both
  | negation
  | comparison
  | bitOr
  | bitXor
  | bitAnd
  | shift
  | sum
  | term
  | factor
  | power
  | await
  | atom

def Strength.rank : Strength → Nat := Strength.ctorIdx

def strengthOf : BinaryOp → Strength
  | .add | .sub => .sum
  | .mult | .matMult | .div | .mod | .floorDiv => .term
  | .leftShift | .rightShift => .shift
  | .bitOr => .bitOr
  | .bitXor => .bitXor
  | .bitAnd => .bitAnd
  | .pow => .power

/-- A text in brackets if its place asks for more than `own`. -/
def bracketed (level own : Nat) (s : String) : String := if own < level then "(" ++ s ++ ")" else s

/-- An infinite number is written as one that is too large. -/
def number (s : String) : String := Text.replaceAll "inf" "1e309" s

def constant : Constant → String
  | .none => "None"
  | .ellipsis => "..."
  | .bool b => if b then "True" else "False"
  | .int n => toString n
  | .float x => number (Number.showFloat x)
  | .complex a b => number (Number.showComplex a b)
  | .str s marked => (if marked then "u" else "") ++ Text.quoted s
  | .bytes bs => Text.quotedBytes bs

/-- Braces are written twice in the plain parts of a text with values. -/
def doubled (s : String) : String :=
  String.ofList (s.toList.flatMap fun c => if c = '\x7b' || c = '\x7d' then [c, c] else [c])

def conversionMark (n : Int) : String := if n ≤ 0 then "" else "!" ++ (Char.ofNat n.toNat).toString

def rightOnes : List CompareOp → List String → String
  | op :: ops, s :: ss => " " ++ op.symbol ++ " " ++ s ++ rightOnes ops ss
  | _, _ => ""

/-- A text with its default, if it has one. -/
def withDefault (name : String) : Option String → String
  | some d => name ++ "=" ++ d
  | none => name

/-- Parameters in their order; the defaults belong to the last ones. -/
def parameters (positionOnly plain : List String) (rest : Option String) (nameOnly : List String)
    (nameDefaults : List (Option String)) (restNames : Option String) (defaults : List String) :
    String :=
  let all := positionOnly ++ plain
  let given := List.replicate (all.length - defaults.length) none ++ defaults.map some
  let shown := (all.zip given).map fun (n, d) => withDefault n d
  let front := shown.take positionOnly.length
  let front := if positionOnly.isEmpty then front else front ++ ["/"]
  let middle := match rest with
    | some r => ["*" ++ r]
    | none => if nameOnly.isEmpty then [] else ["*"]
  let named := (nameOnly.zip nameDefaults).map fun (n, d) => withDefault n d
  ", ".intercalate (front ++ shown.drop positionOnly.length ++ middle ++ named ++
    (restNames.map ("**" ++ ·)).toList)

/-- The entries of a dictionary, given the forms of its values after a key and after two stars. -/
def entries : List (Option String) → List String → List String → List String
  | some k :: ks, v :: vs, _ :: ws => (k ++ ": " ++ v) :: entries ks vs ws
  | none :: ks, _ :: vs, w :: ws => ("**" ++ w) :: entries ks vs ws
  | _, _, _ => []

/-- A value in braces in a text, with its conversion and its layout. -/
def place (s : String) (conversion : Int) (layout : Option String) : String :=
  "\x7b" ++ (if s.startsWith "\x7b" then " " ++ s else s) ++ conversionMark conversion ++
    ((layout.map (":" ++ ·)).getD "") ++ "\x7d"

mutual

/-- An expression as text, in a place that asks for a strength. -/
def expr (level : Nat) : Expr → String
  | .boolOp _ op es =>
    let own := match op with
      | .or => Strength.either.rank
      | .and => Strength.both.rank
    let word := match op with
      | .or => " or "
      | .and => " and "
    bracketed level own (word.intercalate (exprs (own + 1) es))
  | .named _ t e =>
    bracketed level Strength.tuple.rank
      (expr Strength.atom.rank t ++ " := " ++ expr Strength.atom.rank e)
  | .binary _ a op b =>
    let own := (strengthOf op).rank
    let (l, r) := if op == .pow then (own + 1, own) else (own, own + 1)
    bracketed level own (expr l a ++ " " ++ op.symbol ++ " " ++ expr r b)
  | .unary _ op e =>
    let own := if op == .not then Strength.negation.rank else Strength.factor.rank
    let mark := match op with
      | .invert => "~"
      | .not => "not "
      | .plus => "+"
      | .minus => "-"
    bracketed level own (mark ++ expr own e)
  | .lambda _ ps body =>
    let shown := params ps
    bracketed level Strength.test.rank
      ("lambda" ++ (if shown == "" then "" else " " ++ shown) ++ ": " ++
        expr Strength.test.rank body)
  | .ifElse _ test a b =>
    let up := Strength.test.rank + 1
    bracketed level Strength.test.rank
      (expr up a ++ " if " ++ expr up test ++ " else " ++ expr Strength.test.rank b)
  | .dict _ ks vs => "\x7b" ++ ", ".intercalate (entries (optionals Strength.test.rank ks)
      (exprs Strength.test.rank vs) (exprs Strength.bitOr.rank vs)) ++ "\x7d"
  | .set _ es => "\x7b" ++ ", ".intercalate (exprs Strength.test.rank es) ++ "\x7d"
  | .listComp _ e cs => "[" ++ expr Strength.test.rank e ++ clauses cs ++ "]"
  | .setComp _ e cs => "\x7b" ++ expr Strength.test.rank e ++ clauses cs ++ "\x7d"
  | .dictComp _ k v cs =>
    "\x7b" ++ expr Strength.test.rank k ++ ": " ++ expr Strength.test.rank v ++ clauses cs ++
      "\x7d"
  | .generator _ e cs => "(" ++ expr Strength.test.rank e ++ clauses cs ++ ")"
  | .await _ e => bracketed level Strength.await.rank ("await " ++ expr Strength.atom.rank e)
  | .yield _ e =>
    match optional Strength.test.rank e with
    | some s => "(yield " ++ s ++ ")"
    | none => "(yield)"
  | .yieldFrom _ e => "(yield from " ++ expr Strength.test.rank e ++ ")"
  | .compare _ e ops es =>
    let own := Strength.comparison.rank
    bracketed level own (expr (own + 1) e ++ rightOnes ops (exprs (own + 1) es))
  | .call _ f args ks =>
    let inner := exprs Strength.test.rank args ++ keywords ks
    let alone := match args, ks with
      | [.generator ..], [] => true
      | _, _ => false
    expr Strength.atom.rank f ++
      (if alone then String.join inner else "(" ++ ", ".intercalate inner ++ ")")
  | .formatted _ e conversion spec =>
    "f" ++ Text.quoted (place (expr (Strength.test.rank + 1) e) conversion (optionalField spec))
  | .joined _ es => "f" ++ Text.quoted (String.join (fields es))
  | .constant _ c => constant c
  | .attribute _ e attr _ =>
    let dot := match e with
      | .constant _ (.int _) => " ."
      | _ => "."
    expr Strength.atom.rank e ++ dot ++ attr
  | .subscript _ e i _ => expr Strength.atom.rank e ++ "[" ++ expr Strength.tuple.rank i ++ "]"
  | .starred _ e _ => "*" ++ expr Strength.bitOr.rank e
  | .name _ id _ => id
  | .list _ es _ => "[" ++ ", ".intercalate (exprs Strength.test.rank es) ++ "]"
  | .tuple _ es _ =>
    match exprs Strength.test.rank es with
    | [] => "()"
    | [s] => bracketed level Strength.tuple.rank (s ++ ",")
    | ss => bracketed level Strength.tuple.rank (", ".intercalate ss)
  | .slice _ a b c =>
    (optional Strength.test.rank a).getD "" ++ ":" ++ (optional Strength.test.rank b).getD "" ++
      (match optional Strength.test.rank c with
        | some s => ":" ++ s
        | none => "")

def exprs (level : Nat) : List Expr → List String
  | [] => []
  | e :: es => expr level e :: exprs level es

def optional (level : Nat) : Option Expr → Option String
  | some e => some (expr level e)
  | none => none

def optionals (level : Nat) : List (Option Expr) → List (Option String)
  | [] => []
  | e :: es => optional level e :: optionals level es

def clauses : List Clause → String
  | [] => ""
  | .mk target iter conditions isAsync :: rest =>
    let up := Strength.test.rank + 1
    (if isAsync then " async for " else " for ") ++ expr Strength.tuple.rank target ++ " in " ++
      expr up iter ++ String.join ((exprs up conditions).map (" if " ++ ·)) ++ clauses rest

def keywords : List Keyword → List String
  | [] => []
  | .mk _ (some n) e :: ks => (n ++ "=" ++ expr Strength.test.rank e) :: keywords ks
  | .mk _ none e :: ks => ("**" ++ expr Strength.test.rank e) :: keywords ks

def param : Param → String
  | .mk _ name hint =>
    match optional Strength.test.rank hint with
    | some h => name ++ ": " ++ h
    | none => name

def allParams : List Param → List String
  | [] => []
  | p :: ps => param p :: allParams ps

def someParam : Option Param → Option String
  | some p => some (param p)
  | none => none

def params : Params → String
  | .mk positionOnly plain rest nameOnly nameDefaults restNames defaults =>
    parameters (allParams positionOnly) (allParams plain) (someParam rest) (allParams nameOnly)
      (optionals Strength.test.rank nameDefaults) (someParam restNames)
      (exprs Strength.test.rank defaults)

/-- The parts of a text with values. -/
def fields : List Expr → List String
  | [] => []
  | e :: es => field e :: fields es

def field : Expr → String
  | .constant _ (.str s _) => doubled s
  | .joined _ es => String.join (fields es)
  | .formatted _ e conversion spec =>
    place (expr (Strength.test.rank + 1) e) conversion (optionalField spec)
  | _ => ""

def optionalField : Option Expr → Option String
  | some e => some (field e)
  | none => none

end

/-- The text of an annotation. -/
def hint (e : Expr) : String := expr Strength.test.rank e

end Written

end LiveMarkdown.Script
