import LiveMarkdown.Script.Execution
import LiveMarkdown.Script.Target
import LiveMarkdown.Script.Waiting
import LiveMarkdown.Script.Written

/-!
The values of expressions.
-/

namespace LiveMarkdown.Script

namespace Expression

def constant : Constant → Value
  | .none => .none
  | .ellipsis => .ellipsis
  | .bool b => .bool b
  | .int n => .int n
  | .float x => .float x
  | .complex a b => .complex a b
  | .str s _ => .str s
  | .bytes bs => .bytes bs

/-- The value of a slot, which is no name of the program. Only functions have slots. -/
def slot (fr : Frame) (id : String) : Run Value := do
  match fr.scope with
  | some r => return (← Variable.read? r id).getD .none
  | none => throw .exhausted

/-- The value of a name. The class around a method is known to it by a reserved name. -/
def name (m : Machine) (fr : Frame) (id : String) : Run Value := do
  if id.toList.head? == some '.' then return ← slot fr id
  match id, fr.kind, fr.owner with
  | "__class__", .function, some c => return c
  | _, _, _ =>
    match ← Variable.ownMapping? fr id with
    | some names =>
      match ← Iteration.catching "KeyError" (Subscript.get m names (.str (Target.keptName fr id))) with
      | some v => return v
      | none => Variable.load fr (Target.keptName fr id)
    | none => Variable.load fr (Target.keptName fr id)

/-! ### Functions and comprehensions -/

/-- The qualified name of what a block defines. -/
def pathOf (fr : Frame) (name : String) : String :=
  if fr.kind != .module && fr.names.globals.contains name then name else fr.path ++ name

def parts : Params → List Expr × List (String × Option Expr)
  | .mk _ _ _ ns nds _ ds => (ds, (ns.map Binding.nameOf).zip nds)

/-- The annotations of parameters and of a result. -/
def hints (fr : Frame) (returns : Option Expr) : Params → List (String × String)
  | .mk positionOnly plain rest nameOnly _ restNames _ =>
    let own : List (String × String) :=
      (plain ++ positionOnly ++ rest.toList ++ nameOnly ++ restNames.toList).filterMap fun
        | .mk _ n h => h.map fun e => (Target.ownName fr n, Written.hint e)
    own ++ (returns.map fun e => ("return", Written.hint e)).toList

/-- A new function. Its defaults are evaluated now. -/
def newFunction (m : Machine) (fr : Frame) (name : String) (params : Params) (body : List Stmt)
    (isAsync : Bool) (returns : Option Expr) : Run Value := do
  let (ds, nds) := parts params
  let defaults ← ds.mapM (m.eval fr)
  let nameDefaults ← nds.filterMapM fun (n, d) => do
    match d with
    | some e => return some (n, ← m.eval fr e)
    | none => return none
  let kind : FunctionKind :=
    if Scope.yields body then (if isAsync then .asyncGenerator else .generator)
    else if isAsync then .coroutine
    else .plain
  Run.new (.function
    { name
      qualifiedName := pathOf fr name
      params
      body
      defaults
      nameDefaults
      scope := fr.closure
      globals := fr.globals
      builtins := fr.builtins
      names := { Scope.functionNames params body with
        used := if fr.closure.isSome then (Node.stmts body).flatMap Part.usedNames else [] }
      kind
      owner := fr.owner
      privateTo := fr.privateTo
      hints := hints fr returns params
      attrs := #[] })

/-- The names that the targets of clauses bind. -/
def clauseNames (cs : List Clause) : List String :=
  (cs.flatMap fun | .mk t _ _ _ => Scope.targetNames t).eraseDups

/-- The name of the parameter of a comprehension: its first iterator. -/
def innerParam : String := ".0"

/-- Where a comprehension runs: in a block of its own. -/
def innerFrame (fr : Frame) (cs : List Clause) (name : String) : Run Frame := do
  let names : BlockNames := { locals := clauseNames cs, globals := [], outer := [] }
  let scope ← Run.alloc (.scope names #[] fr.closure)
  return { fr with
    kind := .function, scope := some scope, closure := some scope, names, space := none,
    firstParam := some innerParam, path := fr.path ++ name ++ ".<locals>." }

/-- Whether all conditions hold; the first that does not ends the test. -/
def allHold (m : Machine) (fr : Frame) : List Expr → Run Bool
  | [] => return true
  | c :: cs => do
    if ← Iteration.truth m (← m.eval fr c) then allHold m fr cs else return false

/-- Runs a body for each choice of items that the clauses make. The first iterator is given. -/
def forEach (m : Machine) (fr : Frame) (body : Run Unit) : Option Value → List Clause → Run Unit
  | _, [] => body
  | first, .mk target iter conditions _ :: rest => do
    let it ← match first with
      | some it => pure it
      | none => Iteration.iter m (← m.eval fr iter)
    repeatUpTo loopLimit do
      match ← m.next it with
      | none => return some ()
      | some v =>
        m.assign fr target v
        if ← allHold m fr conditions then forEach m fr body none rest
        return none

/-- The iterator of the first clause; it belongs to the block around the comprehension. -/
def firstIterator (m : Machine) (fr : Frame) : List Clause → Run (Option Value)
  | .mk _ iter _ _ :: _ => do return some (← Iteration.iter m (← m.eval fr iter))
  | [] => return none

/-- Statements under conditions. -/
def underConditions (loc : Loc) (conditions : List Expr) (body : List Stmt) : List Stmt :=
  conditions.foldr (fun c inner => [.if loc c inner []]) body

/-- Statements inside the loops of clauses. -/
def insideClauses (loc : Loc) (body : List Stmt) : List Clause → List Stmt
  | [] => body
  | .mk target iter conditions isAsync :: rest =>
    [.for loc isAsync target iter
      (underConditions loc conditions (insideClauses loc body rest)) []]

/-- A comprehension that answers step by step. Its first iterator belongs to the block around it. -/
def stepwise (m : Machine) (fr : Frame) (loc : Loc) (kind : FunctionKind) (name : String)
    (cs : List Clause) (before body after : List Stmt) : Run Value := do
  match cs with
  | [] => return .none
  | .mk target iter conditions isAsync :: rest =>
    let v ← m.eval fr iter
    let it ← if isAsync then GeneratorMethod.asyncIterator m v else Iteration.iter m v
    let inner ← innerFrame fr cs name
    let body := underConditions loc conditions (insideClauses loc body rest)
    let loop := if isAsync then Task.eachAwaited target it body [] else .eachItem target it body []
    Run.new (.generator
      { name := fr.path ++ name
        frame := inner
        tasks := [.run before, loop, .run after]
        started := false
        running := false
        finished := false
        kind
        result := .none })

def generator (m : Machine) (fr : Frame) (loc : Loc) (element : Expr) (cs : List Clause) :
    Run Value :=
  let kind := if Waiting.clausesWait [element] cs then .asyncGenerator else .generator
  stepwise m fr loc kind "<genexpr>" cs [] [.expr loc (.yield loc (some element))] []

/-! ### Displays -/

/-- The values of expressions; a starred one gives all its items. -/
def items (m : Machine) (fr : Frame) : List Expr → Run (List Value)
  | [] => return []
  | .starred _ e _ :: es => do
    let v ← m.eval fr e
    let refusal := s!"Value after * must be an iterable, not {← Kind.name v}"
    let more ← Iteration.drain m (← Iteration.iterOr m v refusal)
    return more ++ (← items m fr es)
  | e :: es => do
    let v ← m.eval fr e
    return v :: (← items m fr es)

def dict (m : Machine) (fr : Frame) : List (Option Expr) → List Expr →
    Array (Value × Value) → Run (Array (Value × Value))
  | some k :: ks, v :: vs, es => do
    let key ← m.eval fr k
    let value ← m.eval fr v
    Comparison.hashable m key
    dict m fr ks vs (← Comparison.putKey m es key value)
  | none :: ks, v :: vs, es => do
    let value ← m.eval fr v
    match ← DictMethod.mapping? m value with
    | some more => dict m fr ks vs (← DictMethod.merged m es more)
    | none => Run.typeError s!"'{← Kind.name value}' object is not a mapping"
  | _, _, es => return es

/-! ### Calls -/

/-- The name of a function in messages on its arguments. -/
def shownFunction (f : Value) : Run String := do
  match f with
  | .native n => return n ++ "()"
  | .method self n =>
    match self with
    | .factory _ => return "ElementFactory." ++ n ++ "()"
    | _ => return (← Kind.name self) ++ "." ++ n ++ "()"
  | .type n => return n ++ "()"
  | f =>
    let ofFunction (g : Function) : Run String := do
      match ← Space.get? g.globals "__name__" with
      | some (.str s) => return s ++ "." ++ g.qualifiedName ++ "()"
      | _ => return g.qualifiedName ++ "()"
    match ← Run.deref f with
    | some (.function g) => ofFunction g
    | some (.boundMethod h _) =>
      match ← Run.deref h with
      | some (.function g) => ofFunction g
      | _ => return "function"
    | some (.cls c) => return c.qualifiedName ++ "()"
    | _ => return (← Kind.name f) ++ " object"

/-- The arguments of a call by position, as what is left to do once those by name are known. A single
one that is starred is gone through only then, and is refused in the name of the function. -/
def arguments (m : Machine) (fr : Frame) (f : Value) : List Expr → Run (Run (List Value))
  | [.starred _ e _] => do
    let v ← m.eval fr e
    return do
      let refusal :=
        s!"{← shownFunction f} argument after * must be an iterable, not {← Kind.name v}"
      Iteration.drain m (← Iteration.iterOr m v refusal)
  | es => do
    let vs ← items m fr es
    return pure vs

/-- The items of a new set. -/
def setItems (m : Machine) (fr : Frame) (es : List Expr) : Run (List Value) := do
  return (← es.mapM fun e => do
    match e with
    | .starred _ e _ => Iteration.drain m (← Iteration.iter m (← m.eval fr e))
    | e => return [← m.eval fr e]).flatten

def namedArguments (m : Machine) (fr : Frame) (f : Value) (given : List (String × Value)) :
    List Keyword → Run (List (String × Value))
  | [] => return given
  | .mk _ (some n) e :: ks => do
    let v ← m.eval fr e
    if given.any fun p => p.1 == n then
      Run.typeError s!"{← shownFunction f} got multiple values for keyword argument '{n}'"
    namedArguments m fr f (given ++ [(n, v)]) ks
  | .mk _ none e :: ks => do
    let v ← m.eval fr e
    match ← DictMethod.mapping? m v with
    | none =>
      Run.typeError
        s!"{← shownFunction f} argument after ** must be a mapping, not {← Kind.name v}"
    | some es =>
      let more ← es.foldlM (fun (acc : List (String × Value)) (k, x) => do
        match k with
        | .str n =>
          if acc.any fun p => p.1 == n then
            Run.typeError s!"{← shownFunction f} got multiple values for keyword argument '{n}'"
          return acc ++ [(n, x)]
        | _ => Run.typeError "keywords must be strings") given
      namedArguments m fr f more ks

/-- The name under which a run of a function keeps the dictionary of its variables. -/
def dictSlot : String := ".locals"

/-- The variables of a run of a function in its dictionary, which keeps what else was put into it. -/
def namesInDict (scope : Ref) : Run Ref := do
  match ← Run.object? scope with
  | some (.scope names vars outer) =>
    let r ← match vars.find? fun v => v.1 == dictSlot with
      | some (_, Value.ref r) => pure r
      | _ => do
        let r ← Run.alloc (.dict #[])
        Variable.write scope dictSlot (.ref r)
        pure r
    for (n, v) in vars do
      if !n.toList.contains '.' then Space.set r n v
    for n in names.locals do
      if !(vars.any fun v => v.1 == n) then discard (Space.erase r n)
    for n in names.used do
      if !names.locals.contains n && !names.globals.contains n then
        match ← Variable.findOuter n Variable.nestingLimit outer with
        | .variable s =>
          match ← Variable.read? s n with
          | some v => Space.set r n v
          | none => discard (Space.erase r n)
        | _ => pure ()
    return r
  | _ => Run.alloc (.dict #[])

/-- The names of the innermost block with their values. A function that kept no variables would have
none to tell. -/
def localNames (fr : Frame) : Run Value := do
  match fr.kind with
  | .module => return .ref fr.globals
  | .classBody => return .ref (fr.space.getD fr.globals)
  | .function =>
    match fr.scope with
    | some r => return .ref (← namesInDict r)
    | none => throw .exhausted

/-- The class and the instance that a call of `super` without arguments means. -/
def ownSuper (m : Machine) (fr : Frame) : Run Value := do
  let refuse (reason : String) : Run Value := Run.raise "RuntimeError" s!"super(): {reason}"
  match fr.firstParam, fr.scope with
  | some p, some r =>
    match ← Run.object? r with
    | some (.scope _ vars _) =>
      -- the first parameter of a comprehension is its iterator
      if p == innerParam then
        match fr.owner with
        | some c => Construct.newSuper m c (← Iteration.newIterator (.done "tuple_iterator"))
        | none => refuse "__class__ cell not found"
      else
        match vars.find? fun v => v.1 == p, fr.owner with
        | none, _ => refuse "arg[0] deleted"
        | some _, none => refuse "__class__ cell not found"
        | some (_, self), some c => Construct.newSuper m c self
    | _ => refuse "no arguments"
  | _, _ => refuse "no arguments"

/-- Calls that depend on the place where they stand. -/
def localCall? (m : Machine) (fr : Frame) (f : Value) (a : Args) : Run (Option Value) := do
  match f, a.values, a.names with
  | .native "globals", [], [] => return some (.ref fr.globals)
  | .native "locals", [], [] | .native "vars", [], [] => return some (← localNames fr)
  | .native "dir", [], [] =>
    let names ← Iteration.collect m (← localNames fr)
    return some (← Run.newList (← Sorting.sort m names .none false))
  | .type "super", [], [] => return some (← ownSuper m fr)
  | .native n, _, _ => Execution.call? m n fr.globals (localNames fr) a
  | _, _, _ => return none

def call (m : Machine) (fr : Frame) (func : Expr) (args : List Expr) (keywords : List Keyword) :
    Run Value := do
  let f ← m.eval fr func
  let rest ← arguments m fr f args
  let ns ← namedArguments m fr f [] keywords
  let vs ← rest
  match ← localCall? m fr f ⟨vs, ns⟩ with
  | some v => return v
  | none => m.callWith f vs ns

/-! ### All expressions -/

/-- Values joined by "and" or "or": the first that decides, else the last. -/
def decide (m : Machine) (fr : Frame) (op : BoolOp) : List Expr → Run Value
  | [] => return .bool true
  | [e] => m.eval fr e
  | e :: es => do
    let v ← m.eval fr e
    if (← Iteration.truth m v) == (op == .or) then return v
    decide m fr op es

/-- A chain of comparisons: the first that is false, else the last. -/
def chain (m : Machine) (fr : Frame) (left : Value) : List CompareOp → List Expr → Run Value
  | [op], [e] => do m.compare op left (← m.eval fr e)
  | op :: ops, e :: es => do
    let right ← m.eval fr e
    let v ← m.compare op left right
    if ← Iteration.truth m v then chain m fr right ops es else return v
  | _, _ => return .bool true

def formatted (m : Machine) (fr : Frame) (e : Expr) (conversion : Int) (spec : Option Expr) :
    Run Value := do
  let v ← m.eval fr e
  let v ← if conversion = 115 then do pure (Value.str (← m.text v))
    else if conversion = 114 then do pure (Value.str (← m.shown v))
    else if conversion = 97 then Format.converted m v 'a'
    else pure v
  let s ← match spec with
    | some e => do
      match ← m.eval fr e with
      | .str s => pure s
      | v => m.text v
    | none => pure ""
  return .str (← Format.value m v s)

def subscript (m : Machine) (v k : Value) : Run Value := do
  match ← Run.deref v with
  | some (.cls _) =>
    match ← Kind.special? v "__getitem__" with
    | some f => return ← m.call f [k]
    | none => pure ()
    match ← Iteration.catching "AttributeError" (m.attr v "__class_getitem__") with
    | some f =>
      match f, ← Run.deref f with
      | _, some (.function _) => m.call f [v, k]
      | .method (.type _) _, _ => Run.new (.alias v (Subscript.aliasParts k))
      | _, _ => m.call f [k]
    | none => Run.typeError s!"type '{← Kind.nameOf v}' is not subscriptable"
  | _ => Subscript.get m v k

/-- The value of an optional expression. -/
def orNone (m : Machine) (fr : Frame) : Option Expr → Run Value
  | some e => m.eval fr e
  | none => return .none

def eval (m : Machine) (fr : Frame) (e : Expr) : Run Value := do
  match e with
  | .constant _ c => return constant c
  | .name _ id _ => name m fr id
  | .boolOp _ op es => decide m fr op es
  | .named _ target e =>
    let v ← m.eval fr e
    m.assign fr target v
    return v
  | .binary _ a op b =>
    let x ← m.eval fr a
    Operator.binary m op x (← m.eval fr b)
  | .unary _ op e => Operator.unary m op (← m.eval fr e)
  | .lambda loc params body => newFunction m fr "<lambda>" params [.return loc (some body)] false none
  | .ifElse _ test a b =>
    if ← Iteration.truth m (← m.eval fr test) then m.eval fr a else m.eval fr b
  | .dict _ ks vs => Run.new (.dict (← dict m fr ks vs #[]))
  | .set _ es => Run.new (.set false (← Comparison.distinct m (← setItems m fr es)))
  | .list _ es _ => Run.newList (← items m fr es)
  | .tuple _ es _ => return .tuple (← items m fr es)
  | .listComp _ element cs =>
    let first ← firstIterator m fr cs
    let inner ← innerFrame fr cs "<listcomp>"
    let r ← Run.alloc (.list #[])
    forEach m inner (do
      let v ← m.eval inner element
      match ← Run.object? r with
      | some (.list vs) => Run.write r (.list (vs.push v))
      | _ => return ()) first cs
    return .ref r
  | .setComp _ element cs =>
    let first ← firstIterator m fr cs
    let inner ← innerFrame fr cs "<setcomp>"
    let r ← Run.alloc (.set false #[])
    forEach m inner (do
      let v ← m.eval inner element
      Comparison.hashable m v
      match ← Run.object? r with
      | some (.set _ vs) => Run.write r (.set false (← Comparison.addItem m vs v))
      | _ => return ()) first cs
    return .ref r
  | .dictComp _ key value cs =>
    let first ← firstIterator m fr cs
    let inner ← innerFrame fr cs "<dictcomp>"
    let r ← Run.alloc (.dict #[])
    forEach m inner (do
      let k ← m.eval inner key
      let v ← m.eval inner value
      Comparison.hashable m k
      match ← Run.object? r with
      | some (.dict es) => Run.write r (.dict (← Comparison.putKey m es k v))
      | _ => return ()) first cs
    return .ref r
  | .generator loc element cs => generator m fr loc element cs
  | .compare _ left ops rights => chain m fr (← m.eval fr left) ops rights
  | .call _ f args ks => call m fr f args ks
  | .formatted _ e conversion spec => formatted m fr e conversion spec
  | .joined _ es =>
    let texts ← es.mapM fun e => do
      match ← m.eval fr e with
      | .str s => return s
      | v => m.text v
    return .str (String.join texts)
  | .attribute _ e attr _ => m.attr (← m.eval fr e) (Target.ownName fr attr)
  | .subscript _ e i _ =>
    let v ← m.eval fr e
    subscript m v (← m.eval fr i)
  | .slice _ a b c =>
    let x ← orNone m fr a
    let y ← orNone m fr b
    return .slice x y (← orNone m fr c)
  | .starred _ e _ => m.eval fr e
  | .await _ _ | .yield _ _ | .yieldFrom _ _ =>
    Run.raise "SystemError" "a value is awaited where nothing can be"

end Expression

end LiveMarkdown.Script
