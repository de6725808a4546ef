import LiveMarkdown.Script.Scope

/-!
Statements that wait in the middle of an expression, as statements that wait alone. What is evaluated
before a wait goes into a slot, in the order of evaluation, and the expression that is left reads the
slots. What may not be evaluated at all stands under the test that decides it.
-/

namespace LiveMarkdown.Script

namespace Node

/-- The parts of a node that run with it: of a generator expression this is its first iterator. -/
def runningParts : Node → List Node
  | .expr (.generator _ _ (.mk _ i _ _ :: _)) => [.expr i]
  | n => n.sameBlock

theorem sizeOf_lt_of_mem_runningParts {c n : Node} (h : c ∈ n.runningParts) :
    sizeOf c < sizeOf n := by
  unfold runningParts at h
  split at h
  · simp only [List.mem_singleton] at h
    subst h
    simp
    omega
  · exact sizeOf_lt_of_mem_sameBlock h

/-- Whether a node waits by itself. -/
def isWait : Node → Bool
  | .expr (.yield ..) | .expr (.yieldFrom ..) | .expr (.await ..) => true
  | .clause (.mk _ _ _ isAsync) => isAsync
  | .stmt (.for _ isAsync ..) => isAsync
  | .stmt (.with _ isAsync ..) => isAsync
  | _ => false

/-- Whether a node waits, by itself or by a part of it. -/
def waits (n : Node) : Bool :=
  n.isWait || n.runningParts.attach.any fun ⟨c, _⟩ => waits c
termination_by sizeOf n
decreasing_by exact sizeOf_lt_of_mem_runningParts ‹_›

end Node

namespace Waiting

def exprWaits (e : Expr) : Bool := Node.waits (.expr e)

/-- Whether a comprehension waits inside, which its first iterator is not. -/
def clausesWait (elements : List Expr) : List Clause → Bool
  | [] => elements.any exprWaits
  | .mk target _ conditions isAsync :: rest =>
    isAsync || exprWaits target || conditions.any exprWaits || elements.any exprWaits ||
      rest.any fun c => Node.waits (.clause c)

/-! ### Slots -/

/-- Numbers for slots. -/
abbrev Slots := StateM Nat

def slotMark : String := ".wait"

/-- Whether a name is that of a slot. -/
def isSlot (name : String) : Bool := name.toList.head? == some '.'

def newSlot : Slots Expr := modifyGet fun n => (.name {} s!"{slotMark}{n}" .load, n + 1)

/-- Puts a value into a slot. -/
def put (slot e : Expr) : Stmt := .assign {} [slot] e

/-- Evaluates an expression now and reads it from a slot later. -/
def keep (e : Expr) : Slots (List Stmt × Expr) := do
  match e with
  | .constant .. => return ([], e)
  | .starred loc inner ctx =>
    let slot ← newSlot
    return ([put slot (.list loc [.starred loc inner ctx] .load)], .starred loc slot ctx)
  | .formatted loc .. =>
    let slot ← newSlot
    return ([put slot (.joined loc [e])], .formatted loc slot (-1) none)
  | e =>
    let slot ← newSlot
    return ([put slot e], slot)

/-- Expressions that are evaluated one after the other: those before a wait are kept. -/
def inOrder : List (List Stmt × Expr) → Slots (List Stmt × List Expr)
  | [] => return ([], [])
  | (before, e) :: rest => do
    let (kept, e) ← if rest.any fun r => !r.1.isEmpty then keep e else pure ([], e)
    let (more, es) ← inOrder rest
    return (before ++ kept ++ more, e :: es)

/-- Entries of a mapping inside a display or a call. -/
def unpacked (e : Expr) : Expr := .dict {} [none] [e]

/-- A comprehension that waits inside is awaited as a whole. -/
def comprehension (loc : Loc) (before : List Stmt) (inside : Bool) (e : Expr) :
    Slots (List Stmt × Expr) := do
  if inside then
    let slot ← newSlot
    return (before ++ [put slot (.await loc e)], slot)
  else return (before, e)

/-- Keys and values in the order of their evaluation. -/
def interleaved :
    List (List Stmt × Option Expr) → List (List Stmt × Expr) → List (List Stmt × Expr)
  | (before, some k) :: ks, v :: vs => (before, k) :: v :: interleaved ks vs
  | (_, none) :: ks, (before, v) :: vs => (before, unpacked v) :: interleaved ks vs
  | _, _ => []

/-- Keys and values from the order of their evaluation. -/
def entries : List (Option Expr) → List Expr → List (Option Expr) × List Expr
  | some _ :: ks, k :: v :: es =>
    let (ks, vs) := entries ks es
    (some k :: ks, v :: vs)
  | none :: ks, v :: es =>
    let (ks, vs) := entries ks es
    (none :: ks, v :: vs)
  | _, _ => ([], [])

/-- Puts expressions into the places of a list that are not empty. -/
def refill : List (Option Expr) → List Expr → List (Option Expr)
  | some _ :: ds, e :: es => some e :: refill ds es
  | none :: ds, es => none :: refill ds es
  | ds, _ => ds

/-! ### Expressions -/

mutual

/-- What has to run before an expression, and the expression that is left. -/
def split (e : Expr) : Slots (List Stmt × Expr) := do
  if !exprWaits e then return ([], e)
  match e with
  | .yield loc v =>
    let (before, v) ← splitOption v
    let slot ← newSlot
    return (before ++ [put slot (.yield loc v)], slot)
  | .yieldFrom loc v =>
    let (before, v) ← split v
    let slot ← newSlot
    return (before ++ [put slot (.yieldFrom loc v)], slot)
  | .await loc v =>
    let (before, v) ← split v
    let slot ← newSlot
    return (before ++ [put slot (.await loc v)], slot)
  | .boolOp _ op es =>
    let slot ← newSlot
    return (← splitDecision slot op es, slot)
  | .named loc target v =>
    let (before, v) ← split v
    return (before, .named loc target v)
  | .binary loc a op b =>
    match ← inOrder [← split a, ← split b] with
    | (before, [a, b]) => return (before, .binary loc a op b)
    | (before, _) => return (before, e)
  | .unary loc op a =>
    let (before, a) ← split a
    return (before, .unary loc op a)
  | .lambda loc params body =>
    let (before, params) ← splitParams params
    return (before, .lambda loc params body)
  | .ifElse loc test a b =>
    let (before, test) ← split test
    let (beforeA, a) ← split a
    let (beforeB, b) ← split b
    let slot ← newSlot
    return (before ++ [.if loc test (beforeA ++ [put slot a]) (beforeB ++ [put slot b])], slot)
  | .dict loc ks vs =>
    let (before, es) ← inOrder (interleaved (← splitKeys ks) (← splitList vs))
    let (ks, vs) := entries ks es
    return (before, .dict loc ks vs)
  | .set loc es =>
    let (before, es) ← inOrder (← splitList es)
    return (before, .set loc es)
  | .list loc es ctx =>
    let (before, es) ← inOrder (← splitList es)
    return (before, .list loc es ctx)
  | .tuple loc es ctx =>
    let (before, es) ← inOrder (← splitList es)
    return (before, .tuple loc es ctx)
  | .listComp loc element cs =>
    let (before, cs) ← splitFirst cs
    comprehension loc before (clausesWait [element] cs) (.listComp loc element cs)
  | .setComp loc element cs =>
    let (before, cs) ← splitFirst cs
    comprehension loc before (clausesWait [element] cs) (.setComp loc element cs)
  | .dictComp loc key value cs =>
    let (before, cs) ← splitFirst cs
    comprehension loc before (clausesWait [key, value] cs) (.dictComp loc key value cs)
  | .generator loc element cs =>
    let (before, cs) ← splitFirst cs
    return (before, .generator loc element cs)
  | .compare loc a ops bs =>
    let (before, a) ← split a
    let (kept, a) ← keep a
    let slot ← newSlot
    return (before ++ kept ++ (← splitChain loc slot a ops bs), slot)
  | .call loc f args ks =>
    match ← inOrder ((← split f) :: (← splitList args) ++ (← splitKeywords ks)) with
    | (before, f :: es) =>
      let values := es.drop args.length
      let ks := (ks.zip values).map fun | (.mk loc n _, v) => Keyword.mk loc n v
      return (before, .call loc f (es.take args.length) ks)
    | (before, []) => return (before, e)
  | .formatted loc v conversion spec =>
    let (before, v) ← split v
    let (beforeSpec, spec) ← splitOption spec
    if beforeSpec.isEmpty then return (before, .formatted loc v conversion spec)
    let (kept, v) ← keep v
    return (before ++ kept ++ beforeSpec, .formatted loc v conversion spec)
  | .joined loc es =>
    let (before, es) ← inOrder (← splitList es)
    return (before, .joined loc es)
  | .constant .. => return ([], e)
  | .attribute loc v attr ctx =>
    let (before, v) ← split v
    return (before, .attribute loc v attr ctx)
  | .subscript loc v i ctx =>
    match ← inOrder [← split v, ← split i] with
    | (before, [v, i]) => return (before, .subscript loc v i ctx)
    | (before, _) => return (before, e)
  | .starred loc v ctx =>
    let (before, v) ← split v
    return (before, .starred loc v ctx)
  | .name .. => return ([], e)
  | .slice loc a b c =>
    let (beforeA, x) ← splitOption a
    let (beforeB, y) ← splitOption b
    let (beforeC, z) ← splitOption c
    let bound (b : Option Expr) : Expr := b.getD (.constant loc .none)
    match ← inOrder [(beforeA, bound x), (beforeB, bound y), (beforeC, bound z)] with
    | (before, [x, y, z]) => return (before, .slice loc (some x) (some y) (some z))
    | (before, _) => return (before, e)
termination_by structural e

def splitOption : Option Expr → Slots (List Stmt × Option Expr)
  | some e => do
    let (before, e) ← split e
    return (before, some e)
  | none => return ([], none)
termination_by structural e => e

def splitList : List Expr → Slots (List (List Stmt × Expr))
  | [] => return []
  | e :: es => do
    let x ← split e
    return x :: (← splitList es)
termination_by structural es => es

def splitKeys : List (Option Expr) → Slots (List (List Stmt × Option Expr))
  | [] => return []
  | k :: ks => do
    let x ← splitOption k
    return x :: (← splitKeys ks)
termination_by structural ks => ks

def splitKeywords : List Keyword → Slots (List (List Stmt × Expr))
  | [] => return []
  | .mk _ name e :: ks => do
    let (before, e) ← split e
    return (before, if name.isSome then e else unpacked e) :: (← splitKeywords ks)
termination_by structural ks => ks

/-- The defaults of parameters are evaluated where a function is made. -/
def splitParams : Params → Slots (List Stmt × Params)
  | .mk po ps rest ns nds restNames ds => do
    let named := (← splitKeys nds).filterMap fun (before, e) => e.map fun e => (before, e)
    let (before, es) ← inOrder ((← splitList ds) ++ named)
    return (before, .mk po ps rest ns (refill nds (es.drop ds.length)) restNames (es.take ds.length))
termination_by structural ps => ps

/-- The first iterator of a comprehension is evaluated in the block around it. -/
def splitFirst : List Clause → Slots (List Stmt × List Clause)
  | [] => return ([], [])
  | .mk target iter conditions isAsync :: rest => do
    let (before, iter) ← split iter
    return (before, .mk target iter conditions isAsync :: rest)
termination_by structural cs => cs

/-- Values joined by "and" or "or": each one but the first stands under the test of those before. -/
def splitDecision (slot : Expr) (op : BoolOp) : List Expr → Slots (List Stmt)
  | [] => return []
  | [e] => do
    let (before, e) ← split e
    return before ++ [put slot e]
  | e :: es => do
    let (before, e) ← split e
    let rest ← splitDecision slot op es
    let test := if op == .and then slot else .unary {} .not slot
    return before ++ [put slot e, .if {} test rest []]
termination_by structural es => es

/-- A chain of comparisons: each one but the first stands under the test of those before. -/
def splitChain (loc : Loc) (slot left : Expr) :
    List CompareOp → List Expr → Slots (List Stmt)
  | [op], [b] => do
    let (before, b) ← split b
    return before ++ [put slot (.compare loc left [op] [b])]
  | op :: ops, b :: bs => do
    let (before, b) ← split b
    let (kept, b) ← keep b
    let rest ← splitChain loc slot b ops bs
    return before ++ kept ++ [put slot (.compare loc left [op] [b]), .if {} slot rest []]
  | _, _ => return []
termination_by structural _ bs => bs

end

/-! ### Targets -/

mutual

/-- The assignments of a value, which does not wait, to a target. -/
def splitTarget (v : Expr) : Expr → Slots (List Stmt)
  | .subscript loc container i ctx => do
    match ← inOrder [← split container, ← split i] with
    | (before, [c, i]) => return before ++ [.assign loc [.subscript loc c i ctx] v]
    | (before, _) => return before
  | .attribute loc e attr ctx => do
    let (before, e) ← split e
    return before ++ [.assign loc [.attribute loc e attr ctx] v]
  | .tuple loc ts ctx => do
    let slots ← ts.mapM fun t => do
      let slot ← newSlot
      return (slot, match t with
        | .starred loc _ ctx => .starred loc slot ctx
        | _ => slot)
    return .assign loc [.tuple loc (slots.map (·.2)) ctx] v ::
      (← splitTargets (slots.map (·.1)) ts)
  | .list loc ts ctx => do
    let slots ← ts.mapM fun t => do
      let slot ← newSlot
      return (slot, match t with
        | .starred loc _ ctx => .starred loc slot ctx
        | _ => slot)
    return .assign loc [.list loc (slots.map (·.2)) ctx] v ::
      (← splitTargets (slots.map (·.1)) ts)
  | .starred _ t _ => splitTarget v t
  | t => return [.assign t.loc [t] v]
termination_by structural t => t

def splitTargets : List Expr → List Expr → Slots (List Stmt)
  | v :: vs, t :: ts => do
    let first ← splitTarget v t
    return first ++ (← splitTargets vs ts)
  | _, _ => return []
termination_by structural _ ts => ts

end

/-- The change of a target by an operator: its value is read before the other one is evaluated. -/
def splitChange (loc : Loc) (target : Expr) (op : BinaryOp) (e : Expr) : Slots (List Stmt) := do
  let slot ← newSlot
  let change (before : List Stmt) (place : Expr) : Slots (List Stmt) := do
    let (more, e) ← split e
    return before ++ [put slot place] ++ more ++
      [.augAssign loc slot op e, .assign loc [place] slot]
  match target with
  | .subscript sloc container i ctx =>
    let (first, c) ← split container
    let (keptC, c) ← keep c
    let (second, i) ← split i
    let (keptI, i) ← keep i
    change (first ++ keptC ++ second ++ keptI) (.subscript sloc c i ctx)
  | .attribute aloc e attr ctx =>
    let (first, o) ← split e
    let (kept, o) ← keep o
    change (first ++ kept) (.attribute aloc o attr ctx)
  | t => change [] t

def splitDelete (loc : Loc) (t : Expr) : Slots (List Stmt) := do
  match t with
  | .subscript sloc container i ctx =>
    match ← inOrder [← split container, ← split i] with
    | (before, [c, i]) => return before ++ [.delete loc [.subscript sloc c i ctx]]
    | (before, _) => return before
  | .attribute aloc e attr ctx =>
    let (before, e) ← split e
    return before ++ [.delete loc [.attribute aloc e attr ctx]]
  | t => return [.delete loc [t]]

/-! ### Statements -/

/-- The expressions that a statement evaluates before anything inside it runs. -/
def heads : Stmt → List Expr
  | .expr _ e => [e]
  | .assign _ ts e => ts ++ [e]
  | .augAssign _ t _ e => [t, e]
  | .annAssign _ _ _ e _ => e.toList
  | .return _ e => e.toList
  | .raise _ e c => e.toList ++ c.toList
  | .assert _ t m => t :: m.toList
  | .delete _ es => es
  | .if _ t _ _ => [t]
  | .for _ _ _ i _ _ => [i]
  | .match _ e _ => [e]
  | .with _ _ (⟨e, _⟩ :: _) _ => [e]
  | .function _ _ _ (.mk _ _ _ _ nds _ ds) _ decorators _ => decorators ++ ds ++ nds.filterMap id
  | .cls _ _ bases ks _ decorators => decorators ++ bases ++ ks.map fun | .mk _ _ e => e
  | _ => []

/-- Whether a statement waits before anything inside it runs. -/
def headWaits (s : Stmt) : Bool := (heads s).any exprWaits

/-- A statement with waits in its head, as the statements that run instead. -/
def splitStatement (s : Stmt) : Slots (List Stmt) := do
  match s with
  | .expr loc e =>
    let (before, e) ← split e
    return before ++ [.expr loc e]
  | .assign loc ts e =>
    let (before, e) ← split e
    if ts.any exprWaits then
      let (kept, v) ← keep e
      let assignments ← ts.mapM (splitTarget v)
      return before ++ kept ++ assignments.flatten
    return before ++ [.assign loc ts e]
  | .augAssign loc t op e => splitChange loc t op e
  | .annAssign loc t h e simple =>
    let (before, e) ← splitOption e
    return before ++ [.annAssign loc t h e simple]
  | .return loc e =>
    let (before, e) ← splitOption e
    return before ++ [.return loc e]
  | .raise loc (some e) (some c) =>
    match ← inOrder [← split e, ← split c] with
    | (before, [e, c]) => return before ++ [.raise loc (some e) (some c)]
    | (before, _) => return before
  | .raise loc e c =>
    let (before, e) ← splitOption e
    return before ++ [.raise loc e c]
  | .assert loc t message =>
    let (before, t) ← split t
    let (late, message) ← splitOption message
    if late.isEmpty then return before ++ [.assert loc t message]
    return before ++ [.if loc t [] (late ++ [.assert loc (.constant loc (.bool false)) message])]
  | .delete loc es => return (← es.mapM (splitDelete loc)).flatten
  | .if loc t a b =>
    let (before, t) ← split t
    return before ++ [.if loc t a b]
  | .for loc isAsync t i a b =>
    let (before, i) ← split i
    return before ++ [.for loc isAsync t i a b]
  | .match loc e cases =>
    let (before, e) ← split e
    return before ++ [.match loc e cases]
  | .with loc isAsync (⟨e, t⟩ :: rest) body =>
    let (before, e) ← split e
    return before ++ [.with loc isAsync (⟨e, t⟩ :: rest) body]
  | .function loc isAsync name (.mk po ps r ns nds rs ds) body decorators returns =>
    let all := decorators ++ ds ++ nds.filterMap id
    let (before, es) ← inOrder (← splitList all)
    let rest := es.drop decorators.length
    let params := Params.mk po ps r ns (refill nds (rest.drop ds.length)) rs (rest.take ds.length)
    return before ++
      [.function loc isAsync name params body (es.take decorators.length) returns]
  | .cls loc name bases ks body decorators =>
    let (before, es) ← inOrder
      ((← splitList decorators) ++ (← splitList bases) ++ (← splitKeywords ks))
    let rest := es.drop decorators.length
    let ks := (ks.zip (rest.drop bases.length)).map fun | (.mk loc n _, v) => Keyword.mk loc n v
    return before ++ [.cls loc name (rest.take bases.length) ks body (es.take decorators.length)]
  | s => return [s]

/-- The statements that run instead of one that waits in its head. -/
def statements (s : Stmt) : List Stmt := ((splitStatement s).run 0).1

end Waiting

end LiveMarkdown.Script
