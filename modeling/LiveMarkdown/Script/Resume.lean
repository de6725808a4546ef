import LiveMarkdown.Script.Statement

/-!
Functions that answer step by step. Such a function keeps a list of tasks. A statement that waits in
the middle of an expression runs as several statements: those that wait alone put what comes in into
a slot, and the others read the slots.
-/

namespace LiveMarkdown.Script

namespace Resume

/-- How far a run of tasks got. What is yielded comes from the function itself, or is passed on. -/
inductive Progress where
  | goOn (tasks : List Task) (how : Ending)
  | yielded (v : Value) (own : Bool) (tasks : List Task)

/-- The exceptions that the tasks are handling, innermost first. -/
def handledBy (tasks : List Task) : List Value :=
  tasks.filterMap fun
    | .handled _ e => some e
    | .sharing e .. => some e
    | .resume (.raise e) => some e
    | .left (.raise e) _ => some e
    | _ => none

/-! ### Waiting -/

/-- The slot in which a comprehension collects its items, and those for the parts of an entry. -/
def resultSlot : Expr := .name {} ".result" .load

def keySlot : Expr := .name {} ".key" .load

def valueSlot : Expr := .name {} ".value" .load

/-- The object that answers for a comprehension that waits inside. -/
def comprehension? (m : Machine) (fr : Frame) (e : Expr) : Run (Option Value) := do
  let object (loc : Loc) (name : String) (cs : List Clause) (empty : Expr) (body : List Stmt) :
      Run (Option Value) := do
    return some (← Expression.stepwise m fr loc .coroutine name cs [Waiting.put resultSlot empty] body
      [.return loc (some resultSlot)])
  let adding (loc : Loc) (method : String) (element : Expr) : List Stmt :=
    [Waiting.put valueSlot element,
      .expr loc (.call loc (.attribute loc resultSlot method .load) [valueSlot] [])]
  match e with
  | .listComp loc element cs =>
    if !Waiting.clausesWait [element] cs then return none
    object loc "<listcomp>" cs (.list loc [] .load) (adding loc "append" element)
  | .setComp loc element cs =>
    if !Waiting.clausesWait [element] cs then return none
    object loc "<setcomp>" cs (.set loc []) (adding loc "add" element)
  | .dictComp loc key value cs =>
    if !Waiting.clausesWait [key, value] cs then return none
    object loc "<dictcomp>" cs (.dict loc [] [])
      [Waiting.put keySlot key, Waiting.put valueSlot value,
        .assign loc [.subscript loc resultSlot keySlot .store] valueSlot]
  | _ => return none

/-- The iterator to which a function leaves its answers. -/
def delegate (m : Machine) (v : Value) : Run Value := do
  match ← Run.deref v with
  | some (.generator g) =>
    if g.kind == .coroutine then
      Run.typeError "cannot 'yield from' a coroutine object in a non-coroutine generator"
  | _ => pure ()
  Iteration.iter m v

/-- Begins to wait for what fills a slot; `none` if the expression does not wait by itself. -/
def wait? (m : Machine) (fr : Frame) (slot : String) (e : Expr) (tasks : List Task) :
    Run (Option Progress) := do
  match e with
  | .yield _ v => return some (.yielded (← Expression.orNone m fr v) true (.receive slot :: tasks))
  | .yieldFrom _ v =>
    return some (.goOn (.delegate (← delegate m (← m.eval fr v)) slot :: tasks) .next)
  | .await _ v =>
    let it ← match ← comprehension? m fr v with
      | some it => pure it
      | none =>
        let v ← m.eval fr v
        GeneratorMethod.awaited m v (← GeneratorMethod.awaitRefusal v)
    return some (.goOn (.delegate it slot :: tasks) .next)
  | _ => return none

/-! ### Asynchronous managers -/

/-- The methods that enter and leave a block for an asynchronous manager. -/
def managerMethods (v : Value) : Run (Value × Value) := do
  let refuse (rest : String) : Run (Value × Value) := do
    Run.typeError
      s!"'{← Kind.name v}' object does not support the asynchronous context manager protocol{rest}"
  match ← Kind.special? v "__aenter__" with
  | none => refuse ""
  | some enter =>
    match ← Kind.special? v "__aexit__" with
    | none => refuse " (missed __aexit__ method)"
    | some exit => return (enter, exit)

/-- The answer of a method of an asynchronous manager, which has to be awaited. -/
def managerAnswer (m : Machine) (method : String) (v : Value) : Run Value := do
  let refusal := s!"'async with' received an object from {method} that does not implement __await__: "
  GeneratorMethod.awaited m v (refusal ++ (← Kind.name v))

def enteredSlot : String := ".entered"

def leftSlot : String := ".left"

def itemSlot : String := ".item"

/-- Tells an asynchronous manager that its block is left. -/
def leave (m : Machine) (exit : Value) (how : Ending) (tasks : List Task) : Run Progress := do
  let answer ← match how with
    | .raise e => Statement.whileHandling e do m.call exit [← Kind.of e, e, .none]
    | _ => m.call exit [.none, .none, .none]
  let it ← managerAnswer m "__aexit__" answer
  return .goOn (.delegate it leftSlot :: .left how leftSlot :: tasks) .next

/-! ### Statements that wait -/

/-- Begins a statement that waits somewhere. -/
def begin (m : Machine) (fr : Frame) (s : Stmt) (tasks : List Task) : Run Progress := do
  match s with
  | .assign _ [.name _ slot _] e =>
    if Waiting.isSlot slot then
      match ← wait? m fr slot e tasks with
      | some p => return p
      | none => pure ()
  | _ => pure ()
  if Waiting.headWaits s then
    return .goOn (.run (Waiting.statements s) :: tasks) .next
  match s with
  | .if _ test body orElse =>
    let ok ← Iteration.truth m (← m.eval fr test)
    return .goOn (.run (if ok then body else orElse) :: tasks) .next
  | .for _ true target iter body orElse =>
    let it ← GeneratorMethod.asyncIterator m (← m.eval fr iter)
    return .goOn (.eachAwaited target it body orElse :: tasks) .next
  | .for _ false target iter body orElse =>
    let it ← Iteration.iter m (← m.eval fr iter)
    return .goOn (.eachItem target it body orElse :: tasks) .next
  | .while _ test body orElse => return .goOn (.whileTrue test body orElse :: tasks) .next
  | .try _ isStar body handlers orElse final =>
    let after := if final.isEmpty then tasks else .final final :: tasks
    let after :=
      if handlers.isEmpty then after
      else if isStar then .guardedGroup handlers orElse :: after
      else .guarded handlers orElse :: after
    return .goOn (.run body :: after) .next
  | .with loc isAsync (⟨manager, target⟩ :: rest) body =>
    let v ← m.eval fr manager
    let inner := if rest.isEmpty then body else [.with loc isAsync rest body]
    let bind : List Stmt := match target with
      | some t => [.assign loc [t] (.name loc enteredSlot .load)]
      | none => []
    if isAsync then
      let (enter, exit) ← managerMethods v
      let it ← managerAnswer m "__aenter__" (← m.call enter [])
      return .goOn (.delegate it enteredSlot :: .entered (bind ++ inner) exit :: tasks) .next
    else
      let (enter, exit) ← Statement.managerMethods v
      Target.fillSlot fr enteredSlot (← m.call enter [])
      return .goOn (.run (bind ++ inner) :: .leave exit :: tasks) .next
  | .match _ subject cases =>
    let body ← Match.choose m fr (← m.eval fr subject) cases
    return .goOn (.run (body.getD []) :: tasks) .next
  | s => return .goOn tasks (← Statement.attempt (m.block fr [s]))

/-! ### Iterators that answer for a function -/

/-- The value with which an iterator has ended. -/
def endValue (e : Value) : Run Value := do
  match ← Run.deref e with
  | some (.exception _ args ..) => return (args[0]?).getD .none
  | _ => return .none

/-- A call of an iterator of the program: its item, or the value with which it has ended. -/
def itemOf (x : Run Value) : Run (Value ⊕ Value) :=
  Run.handle (do return .inl (← x)) fun e => do
    if ← Kind.isA e "StopIteration" then return .inr (← endValue e)
    throw (.raised e)

/-- What a function or an answer that is asked for its next value gives. -/
def stepOf (r : Ref) (x : Run (Option Value)) : Run (Value ⊕ Value) := do
  match ← x with
  | some v => return .inl v
  | none => return .inr (← GeneratorMethod.resultOf r)

/-- Sends a value to an iterator. -/
def send (m : Machine) (it v : Value) : Run (Value ⊕ Value) := do
  match it, ← Run.deref it with
  | .ref r, some (.generator g) => stepOf r (GeneratorMethod.send m r g v)
  | .ref r, some (.pull _) => stepOf r (m.ask (.resume r v))
  | _, o =>
    match v with
    | .none =>
      match o, ← Kind.special? it "__next__" with
      | some (.iterator _), _ | _, none =>
        match ← m.next it with
        | some v => return .inl v
        | none => return .inr .none
      | _, some f => itemOf (m.call f [])
    | v => itemOf do m.call (← m.attr it "send") [v]

/-- Raises an exception in an iterator; `none` if it takes none. -/
def throwIn? (m : Machine) (it e : Value) : Run (Option (Value ⊕ Value)) := do
  match it, ← Run.deref it with
  | .ref r, some (.generator _) | .ref r, some (.pull _) =>
    return some (← stepOf r (m.ask (.fail r e)))
  | _, _ =>
    match ← Iteration.catching "AttributeError" (m.attr it "throw") with
    | some f => return some (← itemOf (m.call f [e]))
    | none => return none

/-- Tells an iterator that it will not be asked again. -/
def closeInner (m : Machine) (it : Value) : Run Unit := do
  match it, ← Run.deref it with
  | .ref r, some (.generator g) => discard (GeneratorMethod.close m r g)
  | _, _ =>
    match ← Iteration.catching "AttributeError" (m.attr it "close") with
    | some f => discard (m.call f [])
    | none => return ()

/-- Goes on with what an iterator that answers for a function gave. -/
def delegated (fr : Frame) (it : Value) (slot : String) (tasks : List Task) :
    Value ⊕ Value → Run Progress
  | .inl v => return .yielded v false (.delegate it slot :: tasks)
  | .inr result => do
    Target.fillSlot fr slot result
    return .goOn tasks .next

/-! ### Tasks -/

/-- Goes on with the handlers that share a group. -/
def share (m : Machine) (fr : Frame) (e : Value) (left : Option Value) (raised : List Value)
    (tasks : List Task) : List Handler → Run Progress
  | [] => do
    match ← Group.remainder m e raised left with
    | some x => return .goOn tasks (.raise x)
    | none => return .goOn tasks .next
  | .mk _ kind name body :: hs => do
    match left with
    | none => share m fr e none raised tasks hs
    | some x =>
      let k ← (kind.mapM (m.eval fr) : Run (Option Value))
      match ← Group.share m x (k.getD (.type "BaseException")) with
      | (none, left) => share m fr e left raised tasks hs
      | (some part, left) =>
        match name with
        | some n => Variable.store fr (Target.keptName fr n) part
        | none => pure ()
        return .goOn (.run body :: .handled name part :: .sharing e left raised hs :: tasks) .next

/-- Goes on with the first task after an ending. -/
def step (m : Machine) (fr : Frame) (task : Task) (tasks : List Task) (how : Ending) :
    Run Progress := do
  match task, how with
  | .run [], .next => return .goOn tasks .next
  | .run (s :: ss), .next =>
    if Node.waits (.stmt s) then begin m fr s (.run ss :: tasks)
    else return .goOn (.run ss :: tasks) (← Statement.attempt (m.block fr [s]))
  | .eachItem target it body orElse, .next =>
    match ← m.next it with
    | none => return .goOn (.run orElse :: tasks) .next
    | some v =>
      m.assign fr target v
      return .goOn (.run body :: task :: tasks) .next
  | .eachAwaited target it body orElse, .next =>
    let after := .itemAwaited target it body orElse itemSlot :: tasks
    Run.handle
      (do return .goOn (.delegate (← GeneratorMethod.nextItem m it) itemSlot :: after) .next)
      fun e => return .goOn after (.raise e)
  | .itemAwaited target it body orElse slot, .next =>
    m.assign fr target (← Expression.slot fr slot)
    return .goOn (.run body :: .eachAwaited target it body orElse :: tasks) .next
  | .itemAwaited _ _ _ orElse _, .raise e =>
    if ← Kind.isA e "StopAsyncIteration" then return .goOn (.run orElse :: tasks) .next
    return .goOn tasks how
  | .whileTrue test body orElse, .next =>
    if Waiting.exprWaits test then
      let (before, ready) := ((Waiting.split test).run 0).1
      return .goOn (.run before :: .whileReady ready test body orElse :: tasks) .next
    if ← Iteration.truth m (← m.eval fr test) then return .goOn (.run body :: task :: tasks) .next
    return .goOn (.run orElse :: tasks) .next
  | .whileReady ready test body orElse, .next =>
    if ← Iteration.truth m (← m.eval fr ready) then
      return .goOn (.run body :: .whileTrue test body orElse :: tasks) .next
    return .goOn (.run orElse :: tasks) .next
  | .eachItem .., .break | .whileTrue .., .break | .eachAwaited .., .break =>
    return .goOn tasks .next
  | .eachItem .., .continue | .whileTrue .., .continue | .eachAwaited .., .continue =>
    return .goOn (task :: tasks) .next
  | .guarded _ orElse, .next | .guardedGroup _ orElse, .next =>
    return .goOn (.run orElse :: tasks) .next
  | .guarded handlers _, .raise e =>
    Statement.whileHandling e do
      match ← Statement.chooseHandler m fr e handlers with
      | none => return .goOn tasks how
      | some (name, body) =>
        match name with
        | some n => Variable.store fr (Target.keptName fr n) e
        | none => pure ()
        return .goOn (.run body :: .handled name e :: tasks) .next
  | .guardedGroup handlers _, .raise e => share m fr e (some e) [] tasks handlers
  | .sharing e left raised hs, .raise new => share m fr e left (raised ++ [new]) tasks hs
  | .sharing e left raised hs, _ => share m fr e left raised tasks hs
  | .final body, .next => return .goOn (.run body :: tasks) .next
  | .final body, how => return .goOn (.run body :: .resume how :: tasks) .next
  | .handled name _, how =>
    Statement.forget fr name
    return .goOn tasks how
  | .leave exit, how => return .goOn tasks (← Statement.attempt (Statement.leave m exit how))
  | .entered body exit, .next => return .goOn (.run body :: .leaveAwaited exit :: tasks) .next
  | .leaveAwaited exit, how => leave m exit how tasks
  | .left (.raise e) slot, .next =>
    if ← Iteration.truth m (← Expression.slot fr slot) then return .goOn tasks .next
    return .goOn tasks (.raise e)
  | .left how _, .next => return .goOn tasks how
  | .resume how, .next => return .goOn tasks how
  | .delegate it slot, .next => delegated fr it slot tasks (← send m it .none)
  | _, how => return .goOn tasks how

/-- Runs tasks until a value is yielded or none are left. -/
def runTasks (m : Machine) (fr : Frame) (before : List Value) (start : Progress) :
    Run ((Value × Bool × List Task) ⊕ Ending) :=
  iterateUpTo loopLimit start fun p => do
    match p with
    | .yielded v own tasks => return .inr (.inl (v, own, tasks))
    | .goOn [] how => return .inr (.inr how)
    | .goOn (task :: tasks) how =>
      modify fun w => { w with handling := handledBy (task :: tasks) ++ before }
      let p ← Run.handle (step m fr task tasks how) fun e => return .goOn tasks (.raise e)
      return .inl p

/-- How a suspended function goes on when a value is sent to it. -/
def sent (m : Machine) (g : Generator) (v : Value) : Run Progress := do
  match g.tasks with
  | .receive slot :: tasks =>
    Target.fillSlot g.frame slot v
    return .goOn tasks .next
  | .delegate it slot :: tasks =>
    Run.handle (do delegated g.frame it slot tasks (← send m it v)) fun e =>
      return .goOn tasks (.raise e)
  | tasks => return .goOn tasks .next

/-- How a suspended function goes on when an exception is raised in it. -/
def failed (m : Machine) (g : Generator) (e : Value) : Run Progress := do
  if !g.started then return .goOn [] (.raise e)
  match g.tasks with
  | .delegate it slot :: tasks =>
    Run.handle
      (do
        if ← Kind.isA e "GeneratorExit" then
          closeInner m it
          return .goOn tasks (.raise e)
        match ← throwIn? m it e with
        | some x => delegated g.frame it slot tasks x
        | none => return .goOn tasks (.raise e))
      fun e => return .goOn tasks (.raise e)
  | _ :: tasks => return .goOn tasks (.raise e)
  | [] => return .goOn [] (.raise e)

/-- Whether an exception that ends a function stands for the end of its answers, which the function
may not make believe. -/
def feignsEnd (g : Generator) (e : Value) : Run (Option String) := do
  if ← Kind.isA e "StopIteration" then return some "StopIteration"
  if g.kind == .asyncGenerator && (← Kind.isA e "StopAsyncIteration") then
    return some "StopAsyncIteration"
  return none

/-- Lets a suspended function go on to its next value; `none` at its end. -/
def goOn (m : Machine) (r : Ref) (start : Generator → Run Progress) (atEnd : Run (Option Value)) :
    Run (Option Value) := do
  match ← Run.object? r with
  | some (.generator g) =>
    if g.running then Run.valueError s!"{GeneratorMethod.noun g} already executing"
    if g.finished then return ← atEnd
    let before := (← get).handling
    let change (f : Generator → Generator) : Run Unit := do
      match ← Run.object? r with
      | some (.generator g) => Run.write r (.generator (f g))
      | _ => return ()
    change fun g => { g with running := true, started := true }
    let result ← runTasks m g.frame before (← start g)
    modify fun w => { w with handling := before }
    let finish (v : Value) : Run Unit :=
      change fun g => { g with tasks := [], running := false, finished := true, result := v }
    match result with
    | .inl (v, own, tasks) =>
      change fun g => { g with tasks, running := false, own }
      return some v
    | .inr (.return v) =>
      finish v
      return none
    | .inr (.raise e) =>
      finish .none
      match ← feignsEnd g e with
      | some name =>
        let x ← Run.new (.exception (.type "RuntimeError")
          [.str s!"{GeneratorMethod.noun g} raised {name}"] (some e) (some e) true #[])
        throw (.raised x)
      | none => throw (.raised e)
    | .inr _ =>
      finish .none
      return none
  | _ => return none

/-- Refuses a coroutine that was awaited to its end. -/
def checkSpent (r : Ref) : Run Unit := do
  match ← Run.object? r with
  | some (.generator g) =>
    if g.kind == .coroutine then
      Run.raise "RuntimeError" "cannot reuse already awaited coroutine"
    Run.write r (.generator { g with result := .none })
  | _ => return ()

/-- Sends a value to a function. -/
def resumeFunction (m : Machine) (r : Ref) (v : Value) : Run (Option Value) :=
  goOn m r (fun g => sent m g v) do
    checkSpent r
    return none

/-- Raises an exception in a function. -/
def failFunction (m : Machine) (r : Ref) (e : Value) : Run (Option Value) :=
  goOn m r (fun g => failed m g e) do
    checkSpent r
    Run.throwValue e

/-! ### Answers that are awaited -/

def changePull (r : Ref) (f : Pull → Pull) : Run Unit := do
  match ← Run.object? r with
  | some (.pull p) => Run.write r (.pull (f p))
  | _ => return ()

def changeGenerator (r : Ref) (f : Generator → Generator) : Run Unit := do
  match ← Run.object? r with
  | some (.generator g) => Run.write r (.generator (f g))
  | _ => return ()

/-- Ends an answer with its value. -/
def ended (r source : Ref) (v : Value) : Run (Option Value) := do
  changePull r fun p => { p with state := .done, result := v }
  changeGenerator source fun g => { g with busy := false }
  return none

/-- What an asynchronous generator answers: what it yields itself ends the answer, and what it waits
for is passed on. -/
def unwrapped (r source : Ref) (x : Run (Option Value)) : Run (Option Value) :=
  Run.handle
    (do
      match ← x with
      | some v =>
        match ← Run.object? source with
        | some (.generator g) => if g.own then ended r source v else return some v
        | _ => return some v
      | none => Run.raiseWith "StopAsyncIteration" [])
    fun e => do
      changePull r fun p => { p with state := .done }
      let ends := (← Kind.isA e "StopAsyncIteration") || (← Kind.isA e "GeneratorExit")
      changeGenerator source fun g => { g with busy := false, closed := g.closed || ends }
      throw (.raised e)

/-- What an asynchronous generator that is to end answers: it may wait, but not yield. -/
def closing (r source : Ref) (x : Run (Option Value)) : Run (Option Value) :=
  Run.handle
    (do
      match ← x with
      | some v =>
        match ← Run.object? source with
        | some (.generator g) =>
          if g.own then Run.raise "RuntimeError" "async generator ignored GeneratorExit"
          return some v
        | _ => return some v
      | none => ended r source .none)
    fun e => do
      let ends := (← Kind.isA e "StopAsyncIteration") || (← Kind.isA e "GeneratorExit")
      if ends then return ← ended r source .none
      changePull r fun p => { p with state := .done }
      changeGenerator source fun g => { g with busy := false }
      throw (.raised e)

def spentItem {α : Type} : Run α :=
  Run.raise "RuntimeError" "cannot reuse already awaited __anext__()/asend()"

def spentFault {α : Type} : Run α :=
  Run.raise "RuntimeError" "cannot reuse already awaited aclose()/athrow()"

/-- Goes on with the answer of an asynchronous generator to its next value. -/
def resumeItem (m : Machine) (r : Ref) (p : Pull) (g : Generator) (v : Value) :
    Run (Option Value) := do
  if p.state == .done then spentItem
  let v ← if p.state == .fresh then do
      if g.busy then
        Run.raise "RuntimeError" "anext(): asynchronous generator is already running"
      changePull r fun p => { p with state := .going }
      pure (match v with
        | .none => p.sent
        | v => v)
    else pure v
  changeGenerator p.source fun g => { g with busy := true }
  unwrapped r p.source (GeneratorMethod.send m p.source g v)

/-- Goes on with an exception, or the end, of an asynchronous generator. -/
def resumeFault (m : Machine) (r : Ref) (p : Pull) (g : Generator) (v : Value) :
    Run (Option Value) := do
  if p.state == .done then spentFault
  let finish : Run Unit := changePull r fun p => { p with state := .done, result := .none }
  if g.finished then
    finish
    return none
  if p.state == .going then
    let step := m.ask (.resume p.source v)
    return ← if p.fault.isSome then unwrapped r p.source step else closing r p.source step
  if g.busy then
    finish
    let name := if p.fault.isSome then "athrow" else "aclose"
    Run.raise "RuntimeError" s!"{name}(): asynchronous generator is already running"
  if g.closed then
    finish
    Run.raiseWith "StopAsyncIteration" []
  match v with
  | .none => pure ()
  | _ => Run.raise "RuntimeError" "can't send non-None value to a just-started coroutine"
  changePull r fun p => { p with state := .going }
  changeGenerator p.source fun g => { g with busy := true, closed := g.closed || p.fault.isNone }
  match p.fault with
  | some e => unwrapped r p.source (m.ask (.fail p.source e))
  | none =>
    let e ← m.call (.type "GeneratorExit") []
    closing r p.source (m.ask (.fail p.source e))

/-- Goes on with an answer that has a default for the end. -/
def withDefault (r : Ref) (p : Pull) (step : Run (Value ⊕ Value)) :
    Run (Option Value) :=
  Run.handle
    (do
      match ← step with
      | .inl v => return some v
      | .inr v =>
        changePull r fun p => { p with result := v }
        return none)
    fun e => do
      if ← Kind.isA e "StopAsyncIteration" then
        changePull r fun q => { q with result := p.sent }
        return none
      throw (.raised e)

def resumePull (m : Machine) (r : Ref) (p : Pull) (v : Value) : Run (Option Value) := do
  match ← Run.object? p.source with
  | some (.generator g) =>
    match p.kind with
    | "async_generator_asend" => resumeItem m r p g v
    | "async_generator_athrow" => resumeFault m r p g v
    | "anext_awaitable" => withDefault r p (send m (.ref p.source) v)
    | _ =>
      match ← send m (.ref p.source) v with
      | .inl v => return some v
      | .inr v =>
        changePull r fun p => { p with result := v }
        return none
  | _ => withDefault r p (send m (.ref p.source) v)

def failPull (m : Machine) (r : Ref) (p : Pull) (e : Value) : Run (Option Value) := do
  let throwing : Run (Value ⊕ Value) := do
    match ← throwIn? m (.ref p.source) e with
    | some x => return x
    | none => throw (.raised e)
  match p.kind with
  | "async_generator_asend" =>
    if p.state == .done then spentItem
    unwrapped r p.source (m.ask (.fail p.source e))
  | "async_generator_athrow" =>
    if p.state == .done then spentFault
    let step := m.ask (.fail p.source e)
    if p.fault.isSome then unwrapped r p.source step else closing r p.source step
  | _ => withDefault r p throwing

/-! ### All that answers step by step -/

def resume (m : Machine) (r : Ref) (v : Value) : Run (Option Value) := do
  match ← Run.object? r with
  | some (.pull p) => resumePull m r p v
  | _ => resumeFunction m r v

def fail (m : Machine) (r : Ref) (e : Value) : Run (Option Value) := do
  match ← Run.object? r with
  | some (.pull p) => failPull m r p e
  | _ => failFunction m r e

end Resume

end LiveMarkdown.Script
