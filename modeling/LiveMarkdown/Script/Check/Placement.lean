import LiveMarkdown.Script.Check.Pattern
import LiveMarkdown.Script.Scope
import LiveMarkdown.Script.Wrapped

/-!
The rules for what may stand where: returns and yields in functions, awaits in asynchronous ones,
loops around breaks, starred expressions in lists, and handlers in order.
-/

namespace LiveMarkdown.Script.Check

def isAsyncClause : Clause → Bool
  | .mk _ _ _ isAsync => isAsync

/-- The clauses of a comprehension that makes its result at once. -/
def clausesAtOnce : Expr → List Clause
  | .listComp _ _ cs | .setComp _ _ cs | .dictComp _ _ _ cs => cs
  | _ => []

/-- Whether a node awaits in the block where it stands, to a depth. -/
def awaits : Nat → Node → Bool
  | 0, _ => false
  | depth + 1, n =>
    match n with
    | .expr (.await ..) => true
    | .expr (.generator _ _ (.mk _ iter _ _ :: _)) => awaits depth (.expr iter)
    | .expr e => (clausesAtOnce e).any isAsyncClause || n.sameBlock.any (awaits depth)
    | n => n.sameBlock.any (awaits depth)

/-- Whether a comprehension awaits in a block of its own. -/
def comprehensionAwaits (elements : List Expr) : List Clause → Bool
  | [] => false
  | .mk target _ conditions isAsync :: cs =>
    isAsync || cs.any isAsyncClause ||
      (Node.exprs (target :: conditions ++ elements) ++ cs.map Node.clause).any (awaits depthLimit)

def isStarred : Expr → Bool
  | .starred .. => true
  | _ => false

namespace Placing

variable (visit : Node → Placing Unit)

def each (ns : List Node) : Placing Unit := ns.forM visit

/-- Goes through an item of a list; of a starred one, through what is behind the star. -/
def item : Expr → Placing Unit
  | .starred _ e _ => visit (.expr e)
  | e => visit (.expr e)

def assignable (name : String) (ctx : Context) : Placing Unit :=
  match ctx with
  | .load => return ()
  | .store => mayAssign name
  | .del => mayDelete name

/-- Goes through the targets of an unpacking. One may be starred. -/
def targets (es : List Expr) : Placing Unit := do
  if 1 < es.countP isStarred then refuse "multiple starred expressions in assignment"
  if 256 ≤ (es.takeWhile (!isStarred ·)).length && es.any isStarred then
    refuse "too many expressions in star-unpacking assignment"
  es.forM (item visit)

def items (es : List Expr) (ctx : Context) : Placing Unit :=
  match ctx with
  | .load => es.forM (item visit)
  | .store => targets visit es
  | .del => each visit (Node.exprs es)

/-- Named arguments differ. -/
def namedArguments : List Keyword → Placing Unit
  | [] => return ()
  | .mk _ none _ :: ks => namedArguments ks
  | .mk _ (some name) _ :: ks => do
    mayAssign name
    let again := ks.filterMap fun | .mk loc n _ => if n = some name then some loc else none
    match again with
    | loc :: _ =>
      move loc
      refuse s!"keyword argument repeated: {name}"
    | [] => namedArguments ks

def arguments (es : List Expr) (ks : List Keyword) : Placing Unit := do
  namedArguments ks
  es.forM (item visit)
  each visit (ks.map .keyword)

def parameters : Params → Placing Unit
  | .mk positionOnly plain rest nameOnly _ restNames _ =>
    (positionOnly ++ plain ++ rest.toList ++ nameOnly ++ restNames.toList).forM fun
      | .mk _ name _ => mayAssign name

def defaults : Params → Placing Unit
  | .mk _ _ _ _ nameDefaults _ defaults =>
    each visit (Node.exprs defaults ++ Node.present nameDefaults)

/-- Goes through the clauses of a comprehension and, in the last one, its elements. -/
def clauses (elements : List Expr) : List Clause → Placing Unit
  | [] => each visit (Node.exprs elements)
  | .mk target iter conditions _ :: cs => do
    visit (.expr iter)
    visit (.expr target)
    each visit (Node.exprs conditions)
    clauses elements cs

def comprehension (loc : Loc) (atOnce : Bool) (elements : List Expr) (cs : List Clause) :
    Placing Unit := do
  let outer := (← get).unit
  match cs with
  | [] => return ()
  | .mk target iter conditions _ :: rest =>
    inUnit .comprehension loc false do
      if atOnce && comprehensionAwaits elements cs && outer ≠ .asyncFunction &&
          outer ≠ .comprehension then
        refuse "asynchronous comprehension outside of an asynchronous function"
      visit (.expr target)
      each visit (Node.exprs conditions)
      clauses visit elements rest
    visit (.expr iter)

def expr (e : Expr) : Placing Unit :=
  visiting e.loc do
    let unit := (← get).unit
    match e with
    | .named _ target value =>
      visit (.expr value)
      visit (.expr target)
    | .lambda loc ps body =>
      parameters ps
      defaults visit ps
      inUnit .lambda loc false (visit (.expr body))
    | .dict _ ks vs =>
      for (k, v) in ks.zip vs do
        each visit (Node.option k)
        visit (.expr v)
    | .listComp loc x cs | .setComp loc x cs => comprehension visit loc true [x] cs
    | .dictComp loc k v cs => comprehension visit loc true [k, v] cs
    | .generator loc x cs => comprehension visit loc false [x] cs
    | .yield _ x =>
      if !unit.isCalled then refuse "'yield' outside function"
      each visit (Node.option x)
    | .yieldFrom _ x =>
      if !unit.isCalled then refuse "'yield' outside function"
      if unit = .asyncFunction then refuse "'yield from' inside async function"
      visit (.expr x)
    | .await _ x =>
      if !unit.isCalled then refuse "'await' outside function"
      if unit ≠ .asyncFunction && unit ≠ .comprehension then
        refuse "'await' outside async function"
      visit (.expr x)
    | .call _ f es ks =>
      namedArguments ks
      visit (.expr f)
      arguments visit es ks
    | .attribute _ x name ctx =>
      visit (.expr x)
      if ctx = .store then mayAssign name
    | .name _ id ctx => assignable id ctx
    | .set _ es => es.forM (item visit)
    | .list _ es ctx | .tuple _ es ctx => items visit es ctx
    | .starred _ _ .store => refuse "starred assignment target must be in a list or tuple"
    | .starred .. => refuse "can't use starred expression here"
    | e => each visit (Node.ofExpr e)

/-! ### Statements -/

/-- Leaves the statements around a place, up to a loop or all of them; final blocks run on the way.
Says whether a loop was found. -/
def leave (toLoop : Bool) : List Around → Placing Bool
  | [] => return false
  | a :: rest => do
    match a with
    | .groupHandler =>
      refuse "'break', 'continue' and 'return' cannot appear in an except* block"
    | .loop => if toLoop then return true
    | .final body =>
      modify fun p => { p with around := rest }
      each visit (Node.stmts body)
      modify fun p => { p with loc := none }
    | .manager => modify fun p => { p with loc := none }
    | _ => pure ()
    leave toLoop rest

/-- Leaves what is around a place, and is back at the place then. -/
def leaving (toLoop : Bool) : Placing Bool := do
  let before ← get
  let found ← leave visit toLoop before.around
  modify fun p => { p with around := before.around }
  return found

def inLoop (message : String) : Placing Unit := do
  let loc := (← get).loc
  if !(← leaving visit true) then
    modify fun p => { p with loc }
    refuse message

def returning (loc : Loc) (value : Option Expr) : Placing Unit := do
  if !(← get).unit.isCalled then refuse "'return' outside function"
  if value.isSome && (← get).isAsyncGenerator then
    refuse "'return' with value in async generator"
  match value with
  | some (.constant l _) => if l.line = loc.line then move l
  | some e => visit (.expr e)
  | none => pure ()
  discard (leaving visit false)

def handlers (isStar : Bool) : List Handler → Placing Unit
  | [] => return ()
  | .mk loc kind name body :: hs => do
    move loc
    if kind.isNone && !isStar && !hs.isEmpty then refuse "default 'except:' must be last"
    each visit (Node.option kind)
    name.toList.forM mayAssign
    inside .handler (each visit (Node.stmts body))
    handlers isStar hs

def guarded (isStar : Bool) (body : List Stmt) (hs : List Handler) (orElse : List Stmt) :
    Placing Unit := do
  inside .guarded (each visit (Node.stmts body))
  if !isStar then each visit (Node.stmts orElse)
  modify fun p => { p with loc := none }
  inside (if isStar then .groupHandler else .handler) (handlers visit isStar hs)
  if isStar then each visit (Node.stmts orElse)

def tryStatement (isStar : Bool) (body : List Stmt) (hs : List Handler)
    (orElse final : List Stmt) : Placing Unit := do
  let main := if hs.isEmpty then each visit (Node.stmts body) else guarded visit isStar body hs orElse
  if final.isEmpty then main
  else
    inside (.final final) main
    each visit (Node.stmts final)
    modify fun p => { p with loc := none }
    inside .handler (each visit (Node.stmts final))

def managers (body : List Stmt) : List WithItem → Placing Unit
  | [] => each visit (Node.stmts body)
  | ⟨manager, target⟩ :: rest => do
    visit (.expr manager)
    inside .manager do
      each visit (Node.option target)
      managers body rest

def cases (subjectPattern : Pattern → Placing Unit) : List Case → Placing Unit
  | [] => return ()
  | .mk p guard body :: cs => do
    move p.loc
    modify fun st => { st with stores := [], mayMatchAll := guard.isSome || cs.isEmpty }
    subjectPattern p
    each visit (Node.option guard)
    each visit (Node.stmts body)
    move p.loc
    cases subjectPattern cs

def annotated (target : Expr) (value : Option Expr) : Placing Unit := do
  match value with
  | some e =>
    visit (.expr e)
    visit (.expr target)
  | none => pure ()
  match target with
  | .name _ id _ => mayAssign id
  | .attribute _ e name _ =>
    mayAssign name
    if value.isNone then visit (.expr e)
  | .subscript _ e i _ =>
    if value.isNone then
      visit (.expr e)
      each visit (match i with
        | .slice .. => Node.ofExpr i
        | .tuple _ es _ => Node.exprs es
        | i => [.expr i])
  | _ => return ()

def augmented (loc : Loc) (target value : Expr) : Placing Unit := do
  move target.loc
  match target with
  | .attribute _ e _ _ => visit (.expr e)
  | .subscript _ e i _ => each visit (Node.exprs [e, i])
  | _ => pure ()
  move loc
  visit (.expr value)
  move target.loc
  match target with
  | .name _ id _ => mayAssign id
  | _ => return ()

/-- Imports of coming features stand on the lines before all other statements. -/
def importFrom (futureLine : Int) (loc : Loc) (source : Option String) (names : List Alias) :
    Placing Unit := do
  if source = some "__future__" && futureLine < Int.ofNat loc.line then
    refuse "from __future__ imports must occur at the beginning of the file"
  if (names.head?.map fun a => a.name.startsWith "*") ≠ some true then
    names.forM fun a => mayAssign (a.asName.getD a.name)

def stmt (futureLine : Int) (s : Stmt) : Placing Unit := do
  move s.loc
  match s with
  | .function loc isAsync name ps body ds _ =>
    parameters ps
    each visit (Node.exprs ds)
    defaults visit ps
    let isAsyncGenerator := Scope.yields body && (isAsync || (Node.stmts body).any (awaits depthLimit))
    inUnit (if isAsync then .asyncFunction else .function) loc isAsyncGenerator
      (each visit (Node.stmts body))
    mayAssign name
  | .cls loc name bs ks body ds =>
    each visit (Node.exprs ds)
    inUnit .classBody loc false (each visit (Node.stmts body))
    arguments visit bs ks
    mayAssign name
  | .return loc e => returning visit loc e
  | .assign _ ts e => each visit (.expr e :: Node.exprs ts)
  | .augAssign loc t _ e => augmented visit loc t e
  | .annAssign _ t _ e _ => annotated visit t e
  | .for _ isAsync t i body orElse =>
    if isAsync && (← get).unit ≠ .asyncFunction then refuse "'async for' outside async function"
    inside .loop do
      each visit (Node.exprs [i, t])
      each visit (Node.stmts body)
    each visit (Node.stmts orElse)
  | .while _ t body orElse =>
    inside .loop do
      visit (.expr t)
      each visit (Node.stmts body)
    each visit (Node.stmts orElse)
  | .with _ isAsync ws body =>
    if isAsync && (← get).unit ≠ .asyncFunction then refuse "'async with' outside async function"
    managers visit body ws
  | .match _ e cs =>
    visit (.expr e)
    cases visit (pattern (fun x => visit (.expr x)) depthLimit) cs
  | .try _ isStar body hs orElse final => tryStatement visit isStar body hs orElse final
  | .import _ names =>
    names.forM fun a =>
      mayAssign (a.asName.getD (String.ofList (a.name.toList.takeWhile (· ≠ '.'))))
  | .importFrom loc source names _ => importFrom futureLine loc source names
  | .expr _ (.constant ..) => return ()
  | .break _ => inLoop visit "'break' outside loop"
  | .continue _ => inLoop visit "'continue' not properly in loop"
  | s => each visit (Node.ofStmt s)

end Placing

/-- Goes through a part of a program, to a depth. -/
def placing (futureLine : Int) : Nat → Node → Placing Unit
  | 0, _ => return ()
  | depth + 1, n =>
    let visit := placing futureLine depth
    match n with
    | .expr e => Placing.expr visit e
    | .stmt s => Placing.stmt visit futureLine s
    | n => Placing.each visit n.children

def placement (futureLine : Int) (ns : List Node) : Except SyntaxFault Unit := do
  let start : Place := { unit := .module, loc := some {} }
  discard ((Placing.each (placing futureLine depthLimit) ns).run start)

/-!
All rules for a program that has been read. Of two faults the first in this order counts: imports of
coming features, names, and what may stand where.
-/

/-- The features that a program can ask for in advance. -/
def futureFeatures : List String :=
  ["nested_scopes", "generators", "division", "absolute_import", "with_statement",
    "print_function", "unicode_literals", "barry_as_FLUFL", "generator_stop", "annotations"]

def knownFeatures (loc : Loc) (names : List Alias) : Except SyntaxFault Unit :=
  names.forM fun a =>
    if futureFeatures.contains a.name then .ok ()
    else if a.name = "braces" then .error (.at loc "not a chance")
    else .error (.at loc s!"future feature {a.name} is not defined")

/-- The line of the last import of coming features at the start of a program. -/
def futureLine (done : Bool) (lastLine : Nat) (found : Int) :
    List Stmt → Except SyntaxFault Int
  | [] => return found
  | s :: ss => do
    if done && lastLine < s.loc.line then return found
    match s with
    | .importFrom loc (some "__future__") names _ =>
      if done then
        throw {
          message := "from __future__ imports must occur at the beginning of the file"
          line := some loc.line
          column := some loc.column }
      knownFeatures loc names
      futureLine done s.loc.line loc.line ss
    | .expr _ (.constant _ (.str ..)) => futureLine done s.loc.line found ss
    | _ => futureLine true s.loc.line found ss

/-- Checks the statements of a module. -/
def module (ss : List Stmt) : Except SyntaxFault Unit := do
  let line ← futureLine false 0 (-1) ss
  names (Node.stmts ss)
  placement line (Node.stmts ss)

def expression (e : Expr) : Except SyntaxFault Unit := do
  names [.expr e]
  placement (-1) [.expr e]

/-- Checks the body of the function that a returning block becomes. -/
def wrapped (body : List Stmt) : Except SyntaxFault Unit :=
  module [.function {} false wrapperName (.mk [] [] none [] [] none []) body [] none]

end LiveMarkdown.Script.Check
