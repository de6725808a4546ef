import LiveMarkdown.Script.Convert
import LiveMarkdown.Script.Syntax

/-!
Programs as plain data, the form in which they are handed over between programs: every node is a
record with its class and its fields. A field that is absent stands for nothing or an empty list.
-/

namespace LiveMarkdown.Exchange

inductive Record where
  | null
  | bool (b : Bool)
  | int (n : Int)
  | text (s : String)
  | list (items : List Record)
  | fields (entries : List (String × Record))
deriving Inhabited

namespace Record

/-- A field that is there and not null. -/
def field? (r : Record) (name : String) : Option Record :=
  match r with
  | .fields es =>
    match es.find? fun e => e.1 == name with
    | some (_, .null) => none
    | some (_, x) => some x
    | none => none
  | _ => none

def items : Record → List Record
  | .list xs => xs
  | _ => []

/-- The items of a field; none if it is absent. -/
def listAt (r : Record) (name : String) : List Record :=
  match r.field? name with
  | some x => x.items
  | none => []

def text? : Record → Option String
  | .text s => some s
  | _ => none

def textAt? (r : Record) (name : String) : Option String := (r.field? name).bind text?

def textAt (r : Record) (name : String) : String := (r.textAt? name).getD ""

def int? : Record → Option Int
  | .int n => some n
  | _ => none

def intAt? (r : Record) (name : String) : Option Int := (r.field? name).bind int?

def ofOption {α : Type} (f : α → Record) : Option α → Record
  | some a => f a
  | none => .null

def texts (ss : List String) : Record := .list (ss.map .text)

/-- A record of a class with the fields that are neither null nor empty. -/
def node (name : String) (parts : List (String × Record)) : Record :=
  .fields (("n", .text name) :: parts.filter fun p => match p.2 with
    | .null | .list [] => false
    | _ => true)

end Record

end LiveMarkdown.Exchange

namespace LiveMarkdown.Exchange.Program

open LiveMarkdown.Script

def binaryNames : List (String × BinaryOp) :=
  [("Add", .add), ("Sub", .sub), ("Mult", .mult), ("MatMult", .matMult), ("Div", .div),
    ("Mod", .mod), ("Pow", .pow), ("LShift", .leftShift), ("RShift", .rightShift),
    ("BitOr", .bitOr), ("BitXor", .bitXor), ("BitAnd", .bitAnd), ("FloorDiv", .floorDiv)]

def unaryNames : List (String × UnaryOp) :=
  [("Invert", .invert), ("Not", .not), ("UAdd", .plus), ("USub", .minus)]

def compareNames : List (String × CompareOp) :=
  [("Eq", .eq), ("NotEq", .notEq), ("Lt", .less), ("LtE", .lessEq), ("Gt", .greater),
    ("GtE", .greaterEq), ("Is", .is), ("IsNot", .isNot), ("In", .isIn), ("NotIn", .notIn)]

def named {α : Type} (table : List (String × α)) (other : α) (name : String) : α :=
  ((table.find? fun p => p.1 == name).map (·.2)).getD other

def nameIn {α : Type} [BEq α] (table : List (String × α)) (x : α) : String :=
  ((table.find? fun p => p.2 == x).map (·.1)).getD ""

/-- The bytes that pairs of digits in base sixteen stand for. -/
def bytesOf : List Char → List UInt8
  | a :: b :: cs =>
    UInt8.ofNat ((Convert.digit? a).getD 0 * 16 + (Convert.digit? b).getD 0) :: bytesOf cs
  | _ => []

def hexOf (bs : List UInt8) : String :=
  String.ofList (bs.flatMap fun b => Text.hexDigits 2 b.toNat)

/-! ### Reading -/

def readContext (r : Record) : Context :=
  match r.textAt "ctx" with
  | "Store" => .store
  | "Del" => .del
  | _ => .load

def readConstant : Option Record → Constant
  | some (.bool b) => .bool b
  | some (.text s) => .str s false
  | some (.int n) => .int n
  | some (.fields [("int", .text s)]) => .int (s.toInt?.getD 0)
  | some (.fields [("float", .text s)]) => .float ((Convert.floatOfText? s).getD 0)
  | some (.fields [("complex", .text s)]) =>
    match Convert.complexOfText? s with
    | some (a, b) => .complex a b
    | none => .complex 0 0
  | some (.fields [("bytes", .text s)]) => .bytes (bytesOf s.toList)
  | some (.fields _) => .ellipsis
  | _ => .none

mutual

/-- Reads an expression. The fuel bounds its depth. -/
def readExpr : Nat → Record → Expr
  | 0, _ => default
  | fuel + 1, r =>
    let one (k : String) : Expr := match r.field? k with
      | some x => readExpr fuel x
      | none => default
    let maybe (k : String) : Option Expr := (r.field? k).map (readExpr fuel)
    let many (k : String) : List Expr := (r.listAt k).map (readExpr fuel)
    let gaps (k : String) : List (Option Expr) := (r.listAt k).map fun x => match x with
      | .null => none
      | x => some (readExpr fuel x)
    let clauses := (r.listAt "generators").map (readClause fuel)
    match r.textAt "n" with
    | "BoolOp" => .boolOp {} (if r.textAt "op" == "Or" then .or else .and) (many "values")
    | "NamedExpr" => .named {} (one "target") (one "value")
    | "BinOp" => .binary {} (one "left") (named binaryNames .add (r.textAt "op")) (one "right")
    | "UnaryOp" => .unary {} (named unaryNames .not (r.textAt "op")) (one "operand")
    | "Lambda" => .lambda {} (readParams fuel ((r.field? "args").getD .null)) (one "body")
    | "IfExp" => .ifElse {} (one "test") (one "body") (one "orelse")
    | "Dict" => .dict {} (gaps "keys") (many "values")
    | "Set" => .set {} (many "elts")
    | "ListComp" => .listComp {} (one "elt") clauses
    | "SetComp" => .setComp {} (one "elt") clauses
    | "DictComp" => .dictComp {} (one "key") (one "value") clauses
    | "GeneratorExp" => .generator {} (one "elt") clauses
    | "Await" => .await {} (one "value")
    | "Yield" => .yield {} (maybe "value")
    | "YieldFrom" => .yieldFrom {} (one "value")
    | "Compare" =>
      .compare {} (one "left")
        ((r.listAt "ops").map fun o => named compareNames .eq (o.text?.getD ""))
        (many "comparators")
    | "Call" => .call {} (one "func") (many "args") ((r.listAt "keywords").map (readKeyword fuel))
    | "FormattedValue" =>
      .formatted {} (one "value") ((r.intAt? "conversion").getD (-1)) (maybe "format_spec")
    | "JoinedStr" => .joined {} (many "values")
    | "Constant" => .constant {} (readConstant (r.field? "value"))
    | "Attribute" => .attribute {} (one "value") (r.textAt "attr") (readContext r)
    | "Subscript" => .subscript {} (one "value") (one "slice") (readContext r)
    | "Starred" => .starred {} (one "value") (readContext r)
    | "Name" => .name {} (r.textAt "id") (readContext r)
    | "List" => .list {} (many "elts") (readContext r)
    | "Tuple" => .tuple {} (many "elts") (readContext r)
    | "Slice" => .slice {} (maybe "lower") (maybe "upper") (maybe "step")
    | _ => default

def readClause : Nat → Record → Clause
  | 0, _ => default
  | fuel + 1, r =>
    .mk (readExpr fuel ((r.field? "target").getD .null)) (readExpr fuel ((r.field? "iter").getD .null))
      ((r.listAt "ifs").map (readExpr fuel)) ((r.intAt? "is_async").getD 0 ≠ 0)

def readKeyword : Nat → Record → Keyword
  | 0, _ => default
  | fuel + 1, r => .mk {} (r.textAt? "arg") (readExpr fuel ((r.field? "value").getD .null))

def readParam : Nat → Record → Param
  | 0, _ => default
  | fuel + 1, r => .mk {} (r.textAt "arg") ((r.field? "annotation").map (readExpr fuel))

def readParams : Nat → Record → Params
  | 0, _ => default
  | fuel + 1, r =>
    let many (k : String) : List Param := (r.listAt k).map (readParam fuel)
    .mk (many "posonlyargs") (many "args") ((r.field? "vararg").map (readParam fuel))
      (many "kwonlyargs")
      ((r.listAt "kw_defaults").map fun x => match x with
        | .null => none
        | x => some (readExpr fuel x))
      ((r.field? "kwarg").map (readParam fuel)) ((r.listAt "defaults").map (readExpr fuel))

end

def readPattern : Nat → Record → Pattern
  | 0, _ => .star {} none
  | fuel + 1, r =>
    let many (k : String) : List Pattern := (r.listAt k).map (readPattern fuel)
    let one (k : String) : Expr := readExpr fuel ((r.field? k).getD .null)
    match r.textAt "n" with
    | "MatchValue" => .value {} (one "value")
    | "MatchSingleton" => .singleton {} (readConstant (r.field? "value"))
    | "MatchSequence" => .sequence {} (many "patterns")
    | "MatchMapping" =>
      .mapping {} ((r.listAt "keys").map (readExpr fuel)) (many "patterns") (r.textAt? "rest")
    | "MatchClass" =>
      .cls {} (one "cls") (many "patterns") ((r.listAt "kwd_attrs").filterMap Record.text?)
        (many "kwd_patterns")
    | "MatchStar" => .star {} (r.textAt? "name")
    | "MatchAs" => .capture {} ((r.field? "pattern").map (readPattern fuel)) (r.textAt? "name")
    | _ => .either {} (many "patterns")

def readAlias (r : Record) : Alias := { name := r.textAt "name", asName := r.textAt? "asname" }

mutual

/-- Reads a statement. The fuel bounds its depth. -/
def readStmt : Nat → Record → Stmt
  | 0, _ => .pass {}
  | fuel + 1, r =>
    let one (k : String) : Expr := readExpr fuel ((r.field? k).getD .null)
    let maybe (k : String) : Option Expr := (r.field? k).map (readExpr fuel)
    let many (k : String) : List Expr := (r.listAt k).map (readExpr fuel)
    let block (k : String) : List Stmt := (r.listAt k).map (readStmt fuel)
    let names : List String := (r.listAt "names").filterMap Record.text?
    let items : List WithItem := (r.listAt "items").map fun w =>
      ⟨readExpr fuel ((w.field? "context_expr").getD .null),
        (w.field? "optional_vars").map (readExpr fuel)⟩
    let function (isAsync : Bool) : Stmt :=
      .function {} isAsync (r.textAt "name") (readParams fuel ((r.field? "args").getD .null))
        (block "body") (many "decorator_list") (maybe "returns")
    let attempt (isStar : Bool) : Stmt :=
      .try {} isStar (block "body") ((r.listAt "handlers").map (readHandler fuel))
        (block "orelse") (block "finalbody")
    match r.textAt "n" with
    | "FunctionDef" => function false
    | "AsyncFunctionDef" => function true
    | "ClassDef" =>
      .cls {} (r.textAt "name") (many "bases") ((r.listAt "keywords").map (readKeyword fuel))
        (block "body") (many "decorator_list")
    | "Return" => .return {} (maybe "value")
    | "Delete" => .delete {} (many "targets")
    | "Assign" => .assign {} (many "targets") (one "value")
    | "AugAssign" => .augAssign {} (one "target") (named binaryNames .add (r.textAt "op")) (one "value")
    | "AnnAssign" =>
      .annAssign {} (one "target") (one "annotation") (maybe "value") ((r.intAt? "simple").getD 0)
    | "For" => .for {} false (one "target") (one "iter") (block "body") (block "orelse")
    | "AsyncFor" => .for {} true (one "target") (one "iter") (block "body") (block "orelse")
    | "While" => .while {} (one "test") (block "body") (block "orelse")
    | "If" => .if {} (one "test") (block "body") (block "orelse")
    | "With" => .with {} false items (block "body")
    | "AsyncWith" => .with {} true items (block "body")
    | "Match" => .match {} (one "subject") ((r.listAt "cases").map (readCase fuel))
    | "Raise" => .raise {} (maybe "exc") (maybe "cause")
    | "Try" => attempt false
    | "TryStar" => attempt true
    | "Assert" => .assert {} (one "test") (maybe "msg")
    | "Import" => .importing {} ((r.listAt "names").map readAlias)
    | "ImportFrom" =>
      .importFrom {} (r.textAt? "module") ((r.listAt "names").map readAlias)
        ((r.intAt? "level").map Int.toNat)
    | "Global" => .global {} names
    | "Nonlocal" => .nonlocal {} names
    | "Expr" => .expr {} (one "value")
    | "Break" => .break {}
    | "Continue" => .continue {}
    | _ => .pass {}

def readHandler : Nat → Record → Handler
  | 0, _ => .mk {} none none []
  | fuel + 1, r =>
    .mk {} ((r.field? "type").map (readExpr fuel)) (r.textAt? "name")
      ((r.listAt "body").map (readStmt fuel))

def readCase : Nat → Record → Case
  | 0, _ => .mk (.star {} none) none []
  | fuel + 1, r =>
    .mk (readPattern fuel ((r.field? "pattern").getD .null)) ((r.field? "guard").map (readExpr fuel))
      ((r.listAt "body").map (readStmt fuel))

end

/-- The depth of a program. -/
def depthLimit : Nat := 2000

/-- Reads the statements of a program. -/
def read (r : Record) : List Stmt := r.items.map (readStmt depthLimit)

/-! ### Writing -/

def writeContext : Context → List (String × Record)
  | .load => []
  | .store => [("ctx", .text "Store")]
  | .del => [("ctx", .text "Del")]

def writeConstant : Constant → Record
  | .none => .null
  | .ellipsis => .fields [("object", .text "ellipsis")]
  | .bool b => .bool b
  | .int n => if n.natAbs < Nat.pow 2 53 then .int n else .fields [("int", .text (toString n))]
  | .float x => .fields [("float", .text (Number.showFloat x))]
  | .complex a b => .fields [("complex", .text (Number.showComplex a b))]
  | .str s _ => .text s
  | .bytes bs => .fields [("bytes", .text (hexOf bs))]

open Record (node ofOption texts)

mutual

def writeExpr : Expr → Record
  | .boolOp _ op es =>
    node "BoolOp"
      [("op", .text (if op == .and then "And" else "Or")), ("values", .list (writeExprs es))]
  | .named _ t v => node "NamedExpr" [("target", writeExpr t), ("value", writeExpr v)]
  | .binary _ a op b =>
    node "BinOp"
      [("left", writeExpr a), ("op", .text (nameIn binaryNames op)), ("right", writeExpr b)]
  | .unary _ op e =>
    node "UnaryOp" [("op", .text (nameIn unaryNames op)), ("operand", writeExpr e)]
  | .lambda _ ps b => node "Lambda" [("args", writeParams ps), ("body", writeExpr b)]
  | .ifElse _ t a b =>
    node "IfExp" [("test", writeExpr t), ("body", writeExpr a), ("orelse", writeExpr b)]
  | .dict _ ks vs => node "Dict" [("keys", .list (writeGaps ks)), ("values", .list (writeExprs vs))]
  | .set _ es => node "Set" [("elts", .list (writeExprs es))]
  | .listComp _ e cs =>
    node "ListComp" [("elt", writeExpr e), ("generators", .list (writeClauses cs))]
  | .setComp _ e cs =>
    node "SetComp" [("elt", writeExpr e), ("generators", .list (writeClauses cs))]
  | .dictComp _ k v cs =>
    node "DictComp"
      [("key", writeExpr k), ("value", writeExpr v), ("generators", .list (writeClauses cs))]
  | .generator _ e cs =>
    node "GeneratorExp" [("elt", writeExpr e), ("generators", .list (writeClauses cs))]
  | .await _ e => node "Await" [("value", writeExpr e)]
  | .yield _ e => node "Yield" [("value", writeOption e)]
  | .yieldFrom _ e => node "YieldFrom" [("value", writeExpr e)]
  | .compare _ a ops bs =>
    node "Compare"
      [("left", writeExpr a), ("ops", texts (ops.map (nameIn compareNames))),
        ("comparators", .list (writeExprs bs))]
  | .call _ f args ks =>
    node "Call"
      [("func", writeExpr f), ("args", .list (writeExprs args)),
        ("keywords", .list (writeKeywords ks))]
  | .formatted _ e c spec =>
    node "FormattedValue"
      [("value", writeExpr e), ("conversion", .int c), ("format_spec", writeOption spec)]
  | .joined _ es => node "JoinedStr" [("values", .list (writeExprs es))]
  | .constant _ c => .fields [("n", .text "Constant"), ("value", writeConstant c)]
  | .attribute _ e a c =>
    node "Attribute" ([("value", writeExpr e), ("attr", .text a)] ++ writeContext c)
  | .subscript _ e i c =>
    node "Subscript" ([("value", writeExpr e), ("slice", writeExpr i)] ++ writeContext c)
  | .starred _ e c => node "Starred" (("value", writeExpr e) :: writeContext c)
  | .name _ id c => node "Name" (("id", .text id) :: writeContext c)
  | .list _ es c => node "List" (("elts", .list (writeExprs es)) :: writeContext c)
  | .tuple _ es c => node "Tuple" (("elts", .list (writeExprs es)) :: writeContext c)
  | .slice _ a b c =>
    node "Slice" [("lower", writeOption a), ("upper", writeOption b), ("step", writeOption c)]

def writeOption : Option Expr → Record
  | some e => writeExpr e
  | none => .null

def writeExprs : List Expr → List Record
  | [] => []
  | e :: es => writeExpr e :: writeExprs es

def writeGaps : List (Option Expr) → List Record
  | [] => []
  | e :: es => writeOption e :: writeGaps es

def writeClauses : List Clause → List Record
  | [] => []
  | .mk t i cs isAsync :: rest =>
    node "comprehension"
      [("target", writeExpr t), ("iter", writeExpr i), ("ifs", .list (writeExprs cs)),
        ("is_async", .int (if isAsync then 1 else 0))] :: writeClauses rest

def writeKeywords : List Keyword → List Record
  | [] => []
  | .mk _ n e :: ks =>
    node "keyword" [("arg", ofOption .text n), ("value", writeExpr e)] :: writeKeywords ks

def writeParam : Param → Record
  | .mk _ n h => node "arg" [("arg", .text n), ("annotation", writeOption h)]

def writeParamOption : Option Param → Record
  | some p => writeParam p
  | none => .null

def writeParamList : List Param → List Record
  | [] => []
  | p :: ps => writeParam p :: writeParamList ps

def writeParams : Params → Record
  | .mk po ps rest ns nds restNames ds =>
    node "arguments"
      [("posonlyargs", .list (writeParamList po)), ("args", .list (writeParamList ps)),
        ("vararg", writeParamOption rest), ("kwonlyargs", .list (writeParamList ns)),
        ("kw_defaults", .list (writeGaps nds)), ("kwarg", writeParamOption restNames),
        ("defaults", .list (writeExprs ds))]

end

mutual

def writePattern : Pattern → Record
  | .value _ e => node "MatchValue" [("value", writeExpr e)]
  | .singleton _ c => .fields [("n", .text "MatchSingleton"), ("value", writeConstant c)]
  | .sequence _ ps => node "MatchSequence" [("patterns", .list (writePatterns ps))]
  | .mapping _ ks ps rest =>
    node "MatchMapping"
      [("keys", .list (writeExprs ks)), ("patterns", .list (writePatterns ps)),
        ("rest", ofOption .text rest)]
  | .cls _ c ps ns qs =>
    node "MatchClass"
      [("cls", writeExpr c), ("patterns", .list (writePatterns ps)), ("kwd_attrs", texts ns),
        ("kwd_patterns", .list (writePatterns qs))]
  | .star _ n => node "MatchStar" [("name", ofOption .text n)]
  | .capture _ p n =>
    node "MatchAs" [("pattern", writePatternOption p), ("name", ofOption .text n)]
  | .either _ ps => node "MatchOr" [("patterns", .list (writePatterns ps))]

def writePatternOption : Option Pattern → Record
  | some p => writePattern p
  | none => .null

def writePatterns : List Pattern → List Record
  | [] => []
  | p :: ps => writePattern p :: writePatterns ps

end

def writeAlias (a : Alias) : Record :=
  node "alias" [("name", .text a.name), ("asname", ofOption .text a.asName)]

def writeItem (w : WithItem) : Record :=
  node "withitem"
    [("context_expr", writeExpr w.manager), ("optional_vars", writeOption w.target)]

mutual

def writeStmt : Stmt → Record
  | .function _ isAsync n ps body ds r =>
    node (if isAsync then "AsyncFunctionDef" else "FunctionDef")
      [("name", .text n), ("args", writeParams ps), ("body", .list (writeStmts body)),
        ("decorator_list", .list (writeExprs ds)), ("returns", writeOption r)]
  | .cls _ n bs ks body ds =>
    node "ClassDef"
      [("name", .text n), ("bases", .list (writeExprs bs)), ("keywords", .list (writeKeywords ks)),
        ("body", .list (writeStmts body)), ("decorator_list", .list (writeExprs ds))]
  | .return _ e => node "Return" [("value", writeOption e)]
  | .delete _ es => node "Delete" [("targets", .list (writeExprs es))]
  | .assign _ ts e => node "Assign" [("targets", .list (writeExprs ts)), ("value", writeExpr e)]
  | .augAssign _ t op e =>
    node "AugAssign"
      [("target", writeExpr t), ("op", .text (nameIn binaryNames op)), ("value", writeExpr e)]
  | .annAssign _ t h e simple =>
    node "AnnAssign"
      [("target", writeExpr t), ("annotation", writeExpr h), ("value", writeOption e),
        ("simple", .int simple)]
  | .for _ isAsync t i a b =>
    node (if isAsync then "AsyncFor" else "For")
      [("target", writeExpr t), ("iter", writeExpr i), ("body", .list (writeStmts a)),
        ("orelse", .list (writeStmts b))]
  | .while _ t a b =>
    node "While"
      [("test", writeExpr t), ("body", .list (writeStmts a)), ("orelse", .list (writeStmts b))]
  | .if _ t a b =>
    node "If"
      [("test", writeExpr t), ("body", .list (writeStmts a)), ("orelse", .list (writeStmts b))]
  | .with _ isAsync ws body =>
    node (if isAsync then "AsyncWith" else "With")
      [("items", .list (ws.map writeItem)), ("body", .list (writeStmts body))]
  | .match _ e cs => node "Match" [("subject", writeExpr e), ("cases", .list (writeCases cs))]
  | .raise _ e c => node "Raise" [("exc", writeOption e), ("cause", writeOption c)]
  | .try _ isStar body hs orElse final =>
    node (if isStar then "TryStar" else "Try")
      [("body", .list (writeStmts body)), ("handlers", .list (writeHandlers hs)),
        ("orelse", .list (writeStmts orElse)), ("finalbody", .list (writeStmts final))]
  | .assert _ t message => node "Assert" [("test", writeExpr t), ("msg", writeOption message)]
  | .import _ ns => node "Import" [("names", .list (ns.map writeAlias))]
  | .importFrom _ source ns level =>
    node "ImportFrom"
      [("module", ofOption .text source), ("names", .list (ns.map writeAlias)),
        ("level", ofOption (fun (n : Nat) => .int n) level)]
  | .global _ ns => node "Global" [("names", texts ns)]
  | .nonlocal _ ns => node "Nonlocal" [("names", texts ns)]
  | .expr _ e => node "Expr" [("value", writeExpr e)]
  | .pass _ => node "Pass" []
  | .break _ => node "Break" []
  | .continue _ => node "Continue" []

def writeStmts : List Stmt → List Record
  | [] => []
  | s :: ss => writeStmt s :: writeStmts ss

def writeHandlers : List Handler → List Record
  | [] => []
  | .mk _ k n body :: hs =>
    node "ExceptHandler"
      [("type", writeOption k), ("name", ofOption .text n), ("body", .list (writeStmts body))] ::
        writeHandlers hs

def writeCases : List Case → List Record
  | [] => []
  | .mk p g body :: cs =>
    node "match_case"
      [("pattern", writePattern p), ("guard", writeOption g), ("body", .list (writeStmts body))] ::
        writeCases cs

end

/-- The statements of a program as plain data. -/
def write (ss : List Stmt) : Record := .list (writeStmts ss)

end LiveMarkdown.Exchange.Program
