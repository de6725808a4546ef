import LiveMarkdown.Script.Expression

/-!
Whether a value fits a pattern, and the names that the pattern binds.
-/

namespace LiveMarkdown.Script

namespace Match

/-- The names that are to be bound, with their values. -/
abbrev Bindings := List (String × Value)

/-- The items of a value that counts as a sequence. -/
def sequence? (m : Machine) (v : Value) : Run (Option (List Value)) := do
  match ← Kind.core v with
  | .tuple vs => return some vs
  | .range a z s => return some (← Iteration.collect m (.range a z s))
  | c =>
    match ← Run.deref c with
    | some (.list items) | some (.deque items ..) | some (.userList items) =>
      return some items.toList
    | some (.memory view) => return some (← ByteView.line view)
    | some (.userText s) => return some (Iteration.charItems s)
    | _ => return none

/-- Built-in classes whose instances fit a single pattern as a whole. -/
def wholeClasses : List String :=
  ["bool", "bytearray", "bytes", "dict", "float", "frozenset", "int", "list", "set", "str", "tuple"]

/-- The attributes that positional patterns of a class stand for; `none` for the value itself. -/
def matchNames (cls : Value) (count : Nat) : Run (List (Option String)) := do
  if count = 0 then return []
  let clsName ← Kind.nameOf cls
  let tooMany (allowed : Nat) : Run (List (Option String)) :=
    let word := if allowed = 1 then "sub-pattern" else "sub-patterns"
    Run.typeError s!"{clsName}() accepts {allowed} positional {word} ({count} given)"
  let whole := (← Kind.order cls).any fun b => match b with
    | .type t => wholeClasses.contains t
    | _ => false
  match ← Kind.attr? cls "__match_args__" with
  | some (.tuple vs) =>
    if vs.length < count then tooMany vs.length
    else (vs.take count).mapM fun v => do
      match v with
      | .str s => return some s
      | v =>
        Run.typeError s!"__match_args__ elements must be strings (got {← Kind.name v})"
  | some v => Run.typeError s!"{clsName}.__match_args__ must be a tuple (got {← Kind.name v})"
  | none =>
    if whole then (if count = 1 then return [none] else tooMany 1) else tooMany 0

mutual

/-- The bindings of a pattern that fits, after those made before. -/
def fit (m : Machine) (fr : Frame) (bound : Bindings) (v : Value) : Pattern → Run (Option Bindings)
  | .value _ e => do
    let want ← m.eval fr e
    if ← Iteration.truth m (← m.compare .eq v want) then return some bound else return none
  | .singleton _ c => return if v.same (Expression.constant c) then some bound else none
  | .sequence _ ps => do
    match ← sequence? m v with
    | none => return none
    | some vs => fitItems m fr bound vs ps
  | .mapping _ keys ps rest => do
    match ← Run.deref (← Kind.core v) with
    | some (.dict es) =>
      match ← fitEntries m fr bound es #[] keys ps with
      | none => return none
      | some (bound, used) =>
        match rest with
        | none => return some bound
        | some name =>
          let others ← es.toList.filterM fun (k, _) => do
            return !(← Comparison.anyEqual m k used.toList)
          return some (bound ++ [(name, ← Run.newDict others)])
    | _ => return none
  | .cls _ e ps names qs => do
    let cls ← m.eval fr e
    if !(← Native.isClass cls) then Run.typeError "called match pattern must be a class"
    if !(← Kind.inherits (← Kind.of v) cls) then return none
    let places ← matchNames cls ps.length
    match ← fitPlaces m fr bound v places ps with
    | none => return none
    | some bound => fitNamed m fr bound v names qs
  | .star _ name =>
    return some (match name with
      | some n => bound ++ [(n, v)]
      | none => bound)
  | .capture _ inner name => do
    let bound ← match inner with
      | some p => fit m fr bound v p
      | none => pure (some bound)
    match bound, name with
    | some bound, some n => return some (bound ++ [(n, v)])
    | bound, _ => return bound
  | .either _ ps => fitAny m fr bound v ps

/-- The items of a sequence against patterns, of which a starred one takes what the others leave. -/
def fitItems (m : Machine) (fr : Frame) (bound : Bindings) (vs : List Value) :
    List Pattern → Run (Option Bindings)
  | [] => return if vs.isEmpty then some bound else none
  | .star _ name :: ps => do
    if vs.length < ps.length then return none
    let n := vs.length - ps.length
    let middle ← Run.newList (vs.take n)
    let bound := match name with
      | some s => bound ++ [(s, middle)]
      | none => bound
    fitItems m fr bound (vs.drop n) ps
  | p :: ps => do
    if vs.length < (ps.filter fun | .star .. => false | _ => true).length + 1 then return none
    match vs with
    | [] => return none
    | v :: vs =>
      match ← fit m fr bound v p with
      | none => return none
      | some bound => fitItems m fr bound vs ps

/-- The entries of a mapping against keys and patterns. -/
def fitEntries (m : Machine) (fr : Frame) (bound : Bindings) (es : Array (Value × Value))
    (used : Array Value) : List Expr → List Pattern → Run (Option (Bindings × Array Value))
  | k :: ks, p :: ps => do
    let key ← m.eval fr k
    if ← Comparison.anyEqual m key used.toList then
      Run.valueError s!"mapping pattern checks duplicate key ({← m.shown key})"
    Comparison.hashable m key
    match ← Comparison.findKey m es key with
    | none => return none
    | some i =>
      match es[i]? with
      | none => return none
      | some (_, v) =>
        match ← fit m fr bound v p with
        | none => return none
        | some bound => fitEntries m fr bound es (used.push key) ks ps
  | _, _ => return some (bound, used)

/-- Attributes of a value, or the value itself, against patterns. -/
def fitPlaces (m : Machine) (fr : Frame) (bound : Bindings) (v : Value) :
    List (Option String) → List Pattern → Run (Option Bindings)
  | place :: places, p :: ps => do
    let part ← match place with
      | none => pure (some v)
      | some n => Iteration.catching "AttributeError" (m.attr v n)
    match part with
    | none => return none
    | some x =>
      match ← fit m fr bound x p with
      | none => return none
      | some bound => fitPlaces m fr bound v places ps
  | _, _ => return some bound

def fitNamed (m : Machine) (fr : Frame) (bound : Bindings) (v : Value) :
    List String → List Pattern → Run (Option Bindings)
  | n :: ns, p :: ps => do
    match ← Iteration.catching "AttributeError" (m.attr v n) with
    | none => return none
    | some x =>
      match ← fit m fr bound x p with
      | none => return none
      | some bound => fitNamed m fr bound v ns ps
  | _, _ => return some bound

/-- The first of several patterns that fits. -/
def fitAny (m : Machine) (fr : Frame) (bound : Bindings) (v : Value) :
    List Pattern → Run (Option Bindings)
  | [] => return none
  | p :: ps => do
    match ← fit m fr bound v p with
    | some bound => return some bound
    | none => fitAny m fr bound v ps

end

/-- Whether a value fits a pattern; if it does, the names of the pattern are bound. -/
def matches? (m : Machine) (fr : Frame) (p : Pattern) (v : Value) : Run Bool := do
  match ← fit m fr [] v p with
  | none => return false
  | some bound =>
    for (n, x) in bound do Variable.store fr (Target.keptName fr n) x
    return true

/-- The body of the first case that a value fits. -/
def choose (m : Machine) (fr : Frame) (v : Value) : List Case → Run (Option (List Stmt))
  | [] => return none
  | .mk p guard body :: cs => do
    if ← matches? m fr p v then
      match guard with
      | none => return some body
      | some e =>
        if ← Iteration.truth m (← m.eval fr e) then return some body
        choose m fr v cs
    else choose m fr v cs

end Match

end LiveMarkdown.Script
