import LiveMarkdown.Script.Group
import LiveMarkdown.Script.Match

/-!
What statements do.
-/

namespace LiveMarkdown.Script

namespace Statement

/-! ### Exceptions -/

/-- Runs a computation; what it raises becomes its ending. -/
def attempt (x : Run Ending) : Run Ending := Run.handle x fun e => return .raise e

/-- Raises what an ending raises. -/
def conclude : Ending → Run Ending
  | .raise e => throw (.raised e)
  | s => return s

/-- Runs a computation while an exception is being handled. -/
def whileHandling {α : Type} (e : Value) (x : Run α) : Run α := do
  let before := (← get).handling
  modify fun w => { w with handling := e :: before }
  try
    let r ← x
    modify fun w => { w with handling := before }
    return r
  catch s =>
    modify fun w => { w with handling := before }
    throw s

/-- Whether a handler for the given classes takes an exception. -/
def takes (e kind : Value) : Run Bool := do
  let classes := match kind with
    | .tuple vs => vs
    | v => [v]
  for c in classes do
    if !(← Group.isExceptionClass c) then
      Run.typeError "catching classes that do not inherit from BaseException is not allowed"
  classes.anyM fun c => do Kind.inherits (← Kind.of e) c

/-- The first handler that takes an exception. -/
def chooseHandler (m : Machine) (fr : Frame) (e : Value) :
    List Handler → Run (Option (Option String × List Stmt))
  | [] => return none
  | .mk _ kind name body :: hs => do
    let fits ← match kind with
      | none => pure true
      | some k => do takes e (← m.eval fr k)
    if fits then return some (name, body) else chooseHandler m fr e hs

/-- Unbinds the name of a handler at its end. -/
def forget (fr : Frame) (name : Option String) : Run Unit := do
  match name with
  | some n =>
    Variable.store fr (Target.keptName fr n) .none
    Variable.delete fr (Target.keptName fr n)
  | none => return ()

/-- Runs the handler that takes an exception; if none does, the exception is raised on. -/
def handleWith (m : Machine) (fr : Frame) (e : Value) (handlers : List Handler) : Run Ending :=
  whileHandling e do
    match ← chooseHandler m fr e handlers with
    | none => throw (.raised e)
    | some (name, body) =>
      match name with
      | some n => Variable.store fr (Target.keptName fr n) e
      | none => pure ()
      let r ← attempt (m.block fr body)
      forget fr name
      conclude r

def guarded (m : Machine) (fr : Frame) (body : List Stmt) (handlers : List Handler)
    (orElse : List Stmt) : Run Ending := do
  match ← attempt (m.block fr body) with
  | .raise e => handleWith m fr e handlers
  | .next => m.block fr orElse
  | s => return s

/-- Gives each handler the part of an exception that it takes. What handlers raise, and what is left,
is raised on. -/
def shareOut (m : Machine) (fr : Frame) (e : Value) (handlers : List Handler) : Run Ending :=
  whileHandling e (go [] (some e) handlers)
where
  go (raised : List Value) (left : Option Value) : List Handler → Run Ending
    | [] => do
      match ← Group.remainder m e raised left with
      | some x => throw (.raised x)
      | none => return .next
    | .mk _ kind name body :: hs => do
      match left with
      | none => go raised none hs
      | some x =>
        let k ← (kind.mapM (m.eval fr) : Run (Option Value))
        match ← Group.share m x (k.getD (.type "BaseException")) with
        | (none, left) => go raised left hs
        | (some part, left) =>
          match name with
          | some n => Variable.store fr (Target.keptName fr n) part
          | none => pure ()
          let r ← attempt (whileHandling part (m.block fr body))
          forget fr name
          match r with
          | .raise new => go (raised ++ [new]) left hs
          | _ => go raised left hs

/-- Runs a final block after a computation, whatever its ending. -/
def runFinal (m : Machine) (fr : Frame) (x : Run Ending) (final : List Stmt) : Run Ending := do
  match ← attempt x with
  | .raise e =>
    match ← whileHandling e (m.block fr final) with
    | .next => throw (.raised e)
    | s => return s
  | r =>
    match ← m.block fr final with
    | .next => return r
    | s => return s

def setCause (e : Value) (cause : Option Value) : Run Unit := do
  match e with
  | .ref r =>
    match ← Run.object? r with
    | some (.exception cls args _ context _ fields) =>
      Run.write r (.exception cls args cause context true fields)
    | _ => return ()
  | _ => return ()

/-- Raises a value, with the exception that caused it if one is given. -/
def raise (m : Machine) (fr : Frame) (value cause : Option Expr) : Run Ending := do
  match value with
  | none =>
    match (← get).handling with
    | e :: _ => throw (.raised e)
    | [] => Run.raise "RuntimeError" "No active exception to reraise"
  | some x =>
    let v ← m.eval fr x
    let c ← cause.mapM (m.eval fr)
    let e ← Call.toException m v
    match c with
    | none => pure ()
    | some .none => setCause e none
    | some c =>
      let isException ← match ← Run.deref c with
        | some (.exception ..) => pure true
        | _ => Group.isExceptionClass c
      if !isException then Run.typeError "exception causes must derive from BaseException"
      setCause e (some (← Call.toException m c))
    Group.countRaise e
    Run.throwValue e

/-! ### Managers -/

/-- The methods that enter and leave a block for a manager. Of the built-in values only views of bytes
are managers. -/
def managerMethods (v : Value) : Run (Value × Value) := do
  if let some (.memory _) ← Run.deref v then
    return (.method v "__enter__", .method v "__exit__")
  let refuse (rest : String) : Run (Value × Value) := do
    Run.typeError
      s!"'{← Kind.name v}' object does not support the context manager protocol{rest}"
  match ← Kind.special? v "__enter__" with
  | none => refuse ""
  | some enter =>
    match ← Kind.special? v "__exit__" with
    | none => refuse " (missed __exit__ method)"
    | some exit => return (enter, exit)

/-- Tells a manager that its block is left. An exception that it accepts ends there. -/
def leave (m : Machine) (exit : Value) (r : Ending) : Run Ending := do
  match r with
  | .raise e =>
    let accepted ← whileHandling e do
      Iteration.truth m (← m.call exit [← Kind.of e, e, .none])
    if accepted then return .next
    throw (.raised e)
  | r =>
    discard (m.call exit [.none, .none, .none])
    return r

def withItems (m : Machine) (fr : Frame) (body : List Stmt) : List WithItem → Run Ending
  | [] => m.block fr body
  | ⟨manager, target⟩ :: rest => do
    let v ← m.eval fr manager
    let (enter, exit) ← managerMethods v
    let x ← m.call enter []
    let r ← attempt do
      match target with
      | some t => m.assign fr t x
      | none => pure ()
      withItems m fr body rest
    leave m exit r

/-! ### Loops -/

def forLoop (m : Machine) (fr : Frame) (target iter : Expr) (body orElse : List Stmt) :
    Run Ending := do
  let it ← Iteration.iter m (← m.eval fr iter)
  repeatUpTo loopLimit do
    match ← m.next it with
    | none => return some (← m.block fr orElse)
    | some v =>
      m.assign fr target v
      match ← m.block fr body with
      | .next | .continue => return none
      | .break => return some .next
      | r => return some r

def whileLoop (m : Machine) (fr : Frame) (test : Expr) (body orElse : List Stmt) : Run Ending :=
  repeatUpTo loopLimit do
    if ← Iteration.truth m (← m.eval fr test) then
      match ← m.block fr body with
      | .next | .continue => return none
      | .break => return some .next
      | r => return some r
    else return some (← m.block fr orElse)

/-! ### Definitions -/

/-- Calls decorators on what they decorate, the nearest first. -/
def decorate (m : Machine) (decorators : List Value) (v : Value) : Run Value :=
  decorators.reverse.foldlM (fun v d => m.call d [v]) v

def defineFunction (m : Machine) (fr : Frame) (isAsync : Bool) (name : String) (params : Params)
    (body : List Stmt) (decorators : List Expr) (returns : Option Expr) : Run Unit := do
  let ds ← decorators.mapM (m.eval fr)
  let f ← Expression.newFunction m fr name params body isAsync returns
  match openingText? body, f with
  | some s, .ref _ => Attribute.set m f "__doc__" (.str s)
  | _, _ => pure ()
  m.assign fr (.name {} name .store) (← decorate m ds f)

/-- The bases of a class where some stand for others: a value that is no class says what it stands
for. -/
def actualBases (m : Machine) (bases : List Value) : Run (List Value) := do
  let found ← bases.mapM fun b => do
    if ← Native.isClass b then return [b]
    match ← Iteration.catching "AttributeError" (m.attr b "__mro_entries__") with
    | none => return [b]
    | some f =>
      match ← Kind.core (← m.call f [.tuple bases]) with
      | .tuple bs => return bs
      | _ => Run.typeError "__mro_entries__ must return a tuple"
  return found.flatten

/-- The namespace in which the body of a class runs, as the class of the class prepares it. -/
def emptySpace (m : Machine) (maker : Value) (name : String) (bases : List Value)
    (names : List (String × Value)) : Run Ref := do
  let found ← match maker with
    | .type _ => pure none
    | f =>
      if (← Kind.attr? f "__prepare__").isSome || (← Kind.attr? (← Kind.of f) "__prepare__").isSome ||
          !(← Native.isClass f) then
        Iteration.catching "AttributeError" (m.attr f "__prepare__")
      else pure none
  match found with
  | none => Run.alloc (.dict #[])
  | some f =>
    match ← m.callWith f [.str name, .tuple bases] names with
    | .ref r =>
      match ← Run.object? r with
      | some (.dict _) => return r
      | _ =>
        if (← Kind.isA (.ref r) "dict") || (← Kind.special? (.ref r) "__getitem__").isSome then
          return r
        refuse (.ref r)
    | v => refuse v
where
  refuse (v : Value) : Run Ref := do
    Run.typeError s!"{← Kind.nameOf maker}.__prepare__() must return a mapping, not {← Kind.name v}"

def defineClass (m : Machine) (fr : Frame) (name : String) (bases : List Expr)
    (keywords : List Keyword) (body : List Stmt) (decorators : List Expr) : Run Unit := do
  let ds ← decorators.mapM (m.eval fr)
  let written ← Expression.items m fr bases
  let ks ← Expression.namedArguments m fr .none [] keywords
  let bs ← actualBases m written
  let qualifiedName := Expression.pathOf fr name
  let source := (← Space.get? fr.globals "__name__").getD (.str "builtins")
  let others := ks.filter fun p => p.1 != "metaclass"
  let maker := (ks.find? fun p => p.1 == "metaclass").map (·.2)
  let maker ← match maker with
    | some f => if ← Native.isClass f then Construct.kindOf f bs else pure f
    | none =>
      let first ← match bs with
        | b :: _ => Kind.of b
        | [] => pure (.type "type")
      Construct.kindOf first bs
  let space ← emptySpace m maker name bs others
  let r ← Run.alloc (.list #[])
  let inner : Frame :=
    { kind := .classBody
      globals := fr.globals
      builtins := fr.builtins
      scope := fr.closure
      closure := fr.closure
      names := Scope.blockNames [] body
      space := some space
      owner := some (.ref r)
      privateTo := some name
      firstParam := none
      path := qualifiedName ++ "." }
  let keep (n : String) (v : Value) : Run Unit := m.assign inner (.name {} n .store) v
  keep "__module__" source
  keep "__qualname__" (.str qualifiedName)
  match openingText? body with
  | some s => keep "__doc__" (.str s)
  | none => pure ()
  discard (m.block inner body)
  if bs.length ≠ written.length || (bs.zip written).any fun (b, w) => !Kind.sameClass b w then
    keep "__orig_bases__" (.tuple written)
  if (Node.stmts body).any Node.namesOwnClass then keep Construct.placeName (.ref r)
  let c ← match maker with
    | .type "type" =>
      match ← Kind.core (.ref space) with
      | .ref names => Construct.newClass m maker name bs names others
      | _ => Construct.newClass m maker name bs space others
    | f => m.callWith f [.str name, .tuple bs, .ref space] others
  m.assign fr (.name {} name .store) (← decorate m ds c)

/-! ### Imports -/

/-- Imports are made by a built-in function, which a program can take away. -/
def mayImport (fr : Frame) : Run Unit := do
  match fr.builtins with
  | some r =>
    if (← Space.get? r "__import__").isNone then Run.raise "ImportError" "__import__ not found"
  | none => return ()

def importModule (m : Machine) (fr : Frame) (a : Alias) : Run Unit := do
  mayImport fr
  discard (Import.load m a.name)
  let parts := a.name.splitOn "."
  let top := parts.headD a.name
  let v ← Import.load m top
  match a.asName with
  | none => m.assign fr (.name {} top .store) v
  | some n =>
    let places := (Import.steps a.name).zip (parts.drop 1)
    let found ← places.foldlM (fun v (source, part) => Import.member m source v part) v
    m.assign fr (.name {} n .store) found

def importFrom (m : Machine) (fr : Frame) (source : Option String) (names : List Alias)
    (level : Option Nat) : Run Unit := do
  mayImport fr
  if level.getD 0 ≠ 0 then Import.noPackage
  let source := source.getD ""
  if source == "" then Run.valueError "Empty module name"
  let v ← Import.load m source
  match names with
  | [⟨_, "*", _⟩] =>
    Import.starEntries m v fun n x => match fr.kind with
      | .module => Subscript.set m (.ref fr.globals) (.str n) x
      | _ => Variable.store fr n x
  | names =>
    for a in names do
      let x ← Import.member m source v a.name
      m.assign fr (.name {} (a.asName.getD a.name) .store) x

/-! ### Assignments -/

/-- Keeps the annotation of a name in a module or a class. Annotations are kept as texts and are never
evaluated. -/
def keepHint (m : Machine) (fr : Frame) (name : String) (v : Value) : Run Unit := do
  let space := match fr.kind with
    | .classBody => fr.space.getD fr.globals
    | _ => fr.globals
  let hints ← match ← Space.get? space "__annotations__" with
    | some h => pure h
    | none =>
      let h ← Run.newDict []
      Space.set space "__annotations__" h
      pure h
  Subscript.set m hints (.str name) v

def annAssign (m : Machine) (fr : Frame) (target hint : Expr) (value : Option Expr) (simple : Int) :
    Run Unit := do
  match value with
  | some e => m.assign fr target (← m.eval fr e)
  | none =>
    match target with
    | .attribute _ e _ _ => discard (m.eval fr e)
    | .subscript _ e i _ =>
      discard (m.eval fr e)
      discard (m.eval fr i)
    | _ => pure ()
  if fr.kind != .function then
    match target with
    | .name _ id _ =>
      if simple ≠ 0 then keepHint m fr (Target.ownName fr id) (.str (Written.hint hint))
    | _ => pure ()

def augAssign (m : Machine) (fr : Frame) (target : Expr) (op : BinaryOp) (e : Expr) : Run Unit := do
  match target with
  | .attribute _ o attr _ =>
    let v ← m.eval fr o
    let attr := Target.ownName fr attr
    let old ← m.attr v attr
    let new ← Operator.augmented m op old (← m.eval fr e)
    Attribute.set m v attr new
  | .subscript _ o i _ =>
    let v ← m.eval fr o
    let k ← m.eval fr i
    let old ← Subscript.get m v k
    let new ← Operator.augmented m op old (← m.eval fr e)
    Subscript.set m v k new
  | .name loc id _ =>
    let old ← m.eval fr (.name loc id .load)
    m.assign fr target (← Operator.augmented m op old (← m.eval fr e))
  | _ => return ()

/-! ### All statements -/

def run (m : Machine) (fr : Frame) (s : Stmt) : Run Ending := do
  match s with
  | .expr _ e =>
    discard (m.eval fr e)
    return .next
  | .assign _ targets e =>
    let v ← m.eval fr e
    for t in targets do m.assign fr t v
    return .next
  | .augAssign _ t op e =>
    augAssign m fr t op e
    return .next
  | .annAssign _ t hint e simple =>
    annAssign m fr t hint e simple
    return .next
  | .return _ e => return .return (← Expression.orNone m fr e)
  | .if _ test body orElse =>
    if ← Iteration.truth m (← m.eval fr test) then m.block fr body else m.block fr orElse
  | .for _ _ target iter body orElse => forLoop m fr target iter body orElse
  | .while _ test body orElse => whileLoop m fr test body orElse
  | .try _ isStar body handlers orElse final =>
    let main : Run Ending :=
      if isStar then do
        match ← attempt (m.block fr body) with
        | .raise e => shareOut m fr e handlers
        | .next => m.block fr orElse
        | r => return r
      else if handlers.isEmpty then m.block fr body
      else guarded m fr body handlers orElse
    if final.isEmpty then main else runFinal m fr main final
  | .with _ _ items body => withItems m fr body items
  | .match _ subject cases =>
    match ← Match.choose m fr (← m.eval fr subject) cases with
    | some body => m.block fr body
    | none => return .next
  | .raise _ e cause => raise m fr e cause
  | .assert _ test message =>
    if ← Iteration.truth m (← m.eval fr test) then return .next
    let args ← message.mapM (m.eval fr)
    Run.raiseWith "AssertionError" args.toList
  | .delete _ targets =>
    for t in targets do Target.delete m fr t
    return .next
  | .function _ isAsync name params body decorators returns =>
    defineFunction m fr isAsync name params body decorators returns
    return .next
  | .cls _ name bases keywords body decorators =>
    defineClass m fr name bases keywords body decorators
    return .next
  | .import _ names =>
    for a in names do importModule m fr a
    return .next
  | .importFrom _ source names level =>
    importFrom m fr source names level
    return .next
  | .global .. | .nonlocal .. | .pass _ => return .next
  | .break _ => return .break
  | .continue _ => return .continue

/-- Runs statements until one does not go on to the next. -/
def block (m : Machine) (fr : Frame) : List Stmt → Run Ending
  | [] => return .next
  | s :: ss => do
    match ← run m fr s with
    | .next => block m fr ss
    | r => return r

end Statement

end LiveMarkdown.Script
