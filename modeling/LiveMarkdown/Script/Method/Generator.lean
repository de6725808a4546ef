import LiveMarkdown.Script.Iteration
import LiveMarkdown.Script.Method.Argument

/-!
Functions that answer step by step, as values: how they are asked for their next answer, how they are
told of an exception or of their end, and what can be awaited.
-/

namespace LiveMarkdown.Script

namespace GeneratorMethod

def stopIteration {α : Type} (result : Value) : Run α :=
  Run.raiseWith "StopIteration" (match result with
    | .none => []
    | v => [v])

/-- The result of what has answered all steps. -/
def resultOf (r : Ref) : Run Value := do
  match ← Run.object? r with
  | some (.generator g) => return g.result
  | some (.pull p) => return p.result
  | _ => return .none

/-- The answer to a step: a value, or an exception with the result at the end. -/
def answer (r : Ref) (x : Run (Option Value)) : Run Value := do
  match ← x with
  | some v => return v
  | none => stopIteration (← resultOf r)

/-- What a function that answers step by step is called in messages. -/
def noun (g : Generator) : String :=
  match g.kind with
  | .coroutine => "coroutine"
  | .asyncGenerator => "async generator"
  | _ => "generator"

/-! ### Exceptions from outside -/

/-- The exception that the arguments of a throw describe: a class with what it is called with, or an
instance. -/
def thrown (m : Machine) (name : String) (a : Args) : Run Value := do
  let vs ← a.between name 1 3
  match vs[2]? with
  | none | some .none => pure ()
  | some _ => Run.typeError "throw() third argument must be a traceback object"
  let kind := (vs[0]?).getD .none
  let value := (vs[1]?).getD .none
  let isClass ← match kind with
    | .type _ => Kind.inherits kind (.type "BaseException")
    | k =>
      match ← Run.deref k with
      | some (.cls _) => Kind.inherits kind (.type "BaseException")
      | _ => pure false
  if isClass then
    match value, ← Run.deref value with
    | .none, _ => m.call kind []
    | .tuple xs, _ => m.call kind xs
    | v, some (.exception ..) =>
      if ← Kind.inherits (← Kind.of v) kind then return v
      m.call kind [v]
    | v, _ => m.call kind [v]
  else
    match ← Run.deref kind with
    | some (.exception ..) =>
      match value with
      | .none => return kind
      | _ => Run.typeError "instance exception may not have a separate value"
    | _ =>
      Run.typeError
        s!"exceptions must be classes or instances deriving from BaseException, not {← Kind.name kind}"

/-! ### What can be awaited -/

def newPull (kind : String) (source : Ref) (sent : Value) (fault : Option Value) : Run Value :=
  Run.new (.pull ⟨kind, source, sent, fault, .fresh, .none⟩)

/-- What a value that is awaited answers through. -/
def awaited (m : Machine) (v : Value) (refusal : String) : Run Value := do
  match ← Run.deref v with
  | some (.generator g) =>
    if g.kind == .coroutine then
      match g.tasks with
      | .delegate .. :: _ =>
        if !g.running && !g.finished then
          Run.raise "RuntimeError" "coroutine is being awaited already"
      | _ => pure ()
      return v
    Run.typeError refusal
  | some (.pull _) => return v
  | _ =>
    match ← Kind.special? v "__await__" with
    | none => Run.typeError refusal
    | some f =>
      let it ← m.call f []
      match ← Run.deref it with
      | some (.generator g) =>
        if g.kind == .coroutine then Run.typeError "__await__() returned a coroutine"
      | some (.pull _) => return it
      | _ => pure ()
      if ← Iteration.isIterator it then return it
      Run.typeError s!"__await__() returned non-iterator of type '{← Kind.name it}'"

def awaitRefusal (v : Value) : Run String := do
  return s!"object {← Kind.name v} can't be used in 'await' expression"

/-- Whether a value gives its items one by one to those who await them. -/
def isAsyncIterator (v : Value) : Run Bool := do
  match ← Run.deref v with
  | some (.generator g) => return g.kind == .asyncGenerator
  | _ => return (← Kind.special? v "__anext__").isSome

/-- The asynchronous iterator of a value. -/
def asyncIterator (m : Machine) (v : Value) : Run Value := do
  match ← Run.deref v with
  | some (.generator g) => if g.kind == .asyncGenerator then return v
  | _ => pure ()
  match ← Kind.special? v "__aiter__" with
  | none =>
    Run.typeError
      s!"'async for' requires an object with __aiter__ method, got {← Kind.name v}"
  | some f =>
    let it ← m.call f []
    if ← isAsyncIterator it then return it
    Run.typeError (s!"'async for' received an object from __aiter__ that does not implement " ++
      s!"__anext__: {← Kind.name it}")

/-- What is awaited for the next item of an asynchronous iterator. -/
def nextItem (m : Machine) (it : Value) : Run Value := do
  match it, ← Run.deref it with
  | .ref r, some (.generator _) => newPull "async_generator_asend" r .none none
  | _, _ =>
    match ← Kind.special? it "__anext__" with
    | none =>
      Run.typeError
        s!"'async for' requires an iterator with __anext__ method, got {← Kind.name it}"
    | some f =>
      let v ← m.call f []
      let refusal :=
        s!"'async for' received an invalid object from __anext__: {← Kind.name v}"
      awaited m v refusal

/-- The asynchronous iterator of a value, for code that asks for it by name. -/
def aiter (m : Machine) (a : Args) : Run Value := do
  let v ← a.one "aiter"
  match ← Run.deref v with
  | some (.generator g) => if g.kind == .asyncGenerator then return v
  | _ => pure ()
  match ← Kind.special? v "__aiter__" with
  | none => Run.typeError s!"'{← Kind.name v}' object is not an async iterable"
  | some f =>
    let it ← m.call f []
    if ← isAsyncIterator it then return it
    Run.typeError s!"aiter() returned not an async iterator of type '{← Kind.name it}'"

/-- What is awaited for the next item, or for a default at the end. -/
def anext (m : Machine) (a : Args) : Run Value := do
  let vs ← a.between "anext" 1 2
  let it := (vs[0]?).getD .none
  if !(← isAsyncIterator it) then
    Run.typeError s!"'{← Kind.name it}' object is not an async iterator"
  let next ← match it, ← Run.deref it with
    | .ref r, some (.generator _) => newPull "async_generator_asend" r .none none
    | _, _ =>
      match ← Kind.special? it "__anext__" with
      | some f => m.call f []
      | none => pure .none
  match vs[1]? with
  | none => return next
  | some d =>
    match ← awaited m next (← awaitRefusal next) with
    | .ref r => newPull "anext_awaitable" r d none
    | v => return v

/-! ### Steps from outside -/

/-- Sends a value; one that has not begun takes none. -/
def send (m : Machine) (r : Ref) (g : Generator) (v : Value) : Run (Option Value) := do
  if !g.started && !g.finished then
    match v with
    | .none => pure ()
    | _ => Run.typeError s!"can't send non-None value to a just-started {noun g}"
  m.ask (.resume r v)

/-- Ends a function that answers step by step. -/
def close (m : Machine) (r : Ref) (g : Generator) : Run Value := do
  if g.running then Run.valueError s!"{noun g} already executing"
  if g.finished || !g.started then
    Run.write r (.generator { g with finished := true, tasks := [] })
    return .none
  let e ← m.call (.type "GeneratorExit") []
  let ended ← Run.handle
    (do
      match ← m.ask (.fail r e) with
      | some _ => return false
      | none => return true)
    fun e => do
      if (← Kind.isA e "GeneratorExit") || (← Kind.isA e "StopIteration") then return true
      throw (.raised e)
  if ended then return .none
  Run.raise "RuntimeError" s!"{noun g} ignored GeneratorExit"

/-- Calls a method of a function that answers step by step. -/
def call (m : Machine) (r : Ref) (g : Generator) (name : String) (a : Args) : Run Value := do
  let cls ← Kind.plainName (.ref r)
  match name with
  | "__next__" => answer r (m.ask (.resume r .none))
  | "__iter__" | "__aiter__" => return .ref r
  | "__await__" => newPull "coroutine_wrapper" r .none none
  | "send" =>
    let v ← a.one (cls ++ ".send")
    answer r (send m r g v)
  | "throw" => answer r (m.ask (.fail r (← thrown m (cls ++ ".throw") a)))
  | "close" =>
    a.none (cls ++ ".close")
    close m r g
  | "__anext__" => newPull "async_generator_asend" r .none none
  | "asend" => newPull "async_generator_asend" r (← a.one "async_generator.asend") none
  | "athrow" => newPull "async_generator_athrow" r .none (some (← thrown m "async_generator.athrow" a))
  | "aclose" =>
    a.none "async_generator.aclose"
    newPull "async_generator_athrow" r .none none
  | _ => return .none

/-- Calls a method of what is awaited. -/
def callPull (m : Machine) (r : Ref) (p : Pull) (name : String) (a : Args) : Run Value := do
  match name with
  | "__await__" | "__iter__" => return .ref r
  | "__next__" => answer r (m.ask (.resume r .none))
  | "send" => answer r (m.ask (.resume r (← a.one (p.kind ++ ".send"))))
  | "throw" => answer r (m.ask (.fail r (← thrown m (p.kind ++ ".throw") a)))
  | _ =>
    if p.kind == "coroutine_wrapper" then
      match ← Run.object? p.source with
      | some (.generator g) => return ← close m p.source g
      | _ => pure ()
    Run.write r (.pull { p with state := .done })
    return .none

end GeneratorMethod

end LiveMarkdown.Script
