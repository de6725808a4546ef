import LiveMarkdown.Script.Iteration
import LiveMarkdown.Script.Raised

/-!
Groups of exceptions: which values make a group, the part of a group that a test takes and the part
that it leaves, and what is raised on when handlers have taken their parts.
-/

namespace LiveMarkdown.Script

namespace Group

/-- Whether a value is a class of exceptions. -/
def isExceptionClass (v : Value) : Run Bool := do
  match v with
  | .type t => return isExceptionName t
  | v =>
    match ← Run.deref v with
    | some (.cls _) => Kind.inherits v (.type "BaseException")
    | _ => return false

def isException (v : Value) : Run Bool := do
  match ← Run.deref v with
  | some (.exception ..) => return true
  | _ => return false

/-- A part of a group that is kept with it from the start. -/
def kept (g : Value) (name : String) : Run Value := do
  match ← Run.deref g with
  | some (.exception _ _ _ _ _ fields) =>
    return ((fields.find? fun p => p.1 == name).map (·.2)).getD .none
  | _ => return .none

def messageField : String := ".message"

def membersField : String := ".exceptions"

/-- How often a group was raised by name. -/
def traceField : String := ".trace"

def isGroup (v : Value) : Run Bool := do
  if ← isException v then Kind.isA v "BaseExceptionGroup" else return false

def members (g : Value) : Run (List Value) := do return Raised.itemsOf (← kept g membersField)

/-- Sets a part that is kept with a group. -/
def keep (g : Value) (name : String) (v : Value) : Run Unit := do
  match g, ← Run.deref g with
  | .ref r, some (.exception cls args cause context suppressed fields) =>
    let fields := match fields.findIdx? fun p => p.1 == name with
      | some i => fields.set! i (name, v)
      | none => fields.push (name, v)
    Run.write r (.exception cls args cause context suppressed fields)
  | _, _ => return ()

/-- Counts that a group is raised by name. -/
def countRaise (e : Value) : Run Unit := do
  if ← isGroup e then
    match ← kept e traceField with
    | .int n => keep e traceField (.int (n + 1))
    | _ => keep e traceField (.int 1)

/-! ### New groups -/

/-- Whether a value can be asked for its items by number. -/
def isSequence (v : Value) : Run Bool := do
  match ← Kind.basic v with
  | .str _ | .bytes _ | .tuple _ | .range .. => return true
  | b =>
    match ← Run.deref b with
    | some (.list _) | some (.byteArray _) | some (.memory _) | some (.deque ..)
    | some (.userList _) | some (.userText _) => return true
    | some (.dict _) | some (.set ..) | some (.proxy _) => return false
    | _ => return (← Kind.special? v "__getitem__").isSome

/-- A new group of a class, which may have to be of a narrower class for its members. -/
def new (m : Machine) (cls : Value) (args : List Value) : Run Value := do
  match args with
  | [message, items] =>
    if (← textOf? message).isNone then
      Run.typeError
        s!"BaseExceptionGroup.__new__() argument 1 must be str, not {← Kind.given message}"
    if !(← isSequence items) then
      Run.typeError "second argument (exceptions) must be a sequence"
    let all ← Iteration.collect m items
    if all.isEmpty then
      Run.valueError "second argument (exceptions) must be a non-empty sequence"
    for (e, i) in all.zipIdx do
      if !(← isException e) then
        Run.valueError s!"Item {i} of second argument (exceptions) is not an exception"
    let plain ← all.allM fun e => Kind.isA e "Exception"
    let cls ← match cls with
      | .type "ExceptionGroup" =>
        if !plain then Run.typeError "Cannot nest BaseExceptions in an ExceptionGroup"
        pure cls
      | .type "BaseExceptionGroup" => pure (if plain then .type "ExceptionGroup" else cls)
      | cls =>
        if !plain && (← Kind.inherits cls (.type "Exception")) then
          Run.typeError s!"Cannot nest BaseExceptions in '{← Kind.nameOf cls}'"
        pure cls
    Run.new (.exception cls args none none false
      #[(messageField, message), (membersField, .tuple all)])
  | args =>
    Run.typeError
      s!"BaseExceptionGroup.__new__() takes exactly 2 arguments ({args.length} given)"
where
  textOf? (v : Value) : Run (Option String) := do
    match ← Kind.core v with
    | .str s => return some s
    | _ => return none

/-- A group like another one, with other members. -/
def derive (m : Machine) (g items : Value) : Run Value := do
  new m (.type "BaseExceptionGroup") [← kept g messageField, items]

/-- The group of some of the members of a group, if there are any. -/
def subset (m : Machine) (g : Value) (items : List Value) : Run (Option Value) := do
  if items.isEmpty then return none
  let part ← m.call (← m.attr g "derive") [← Run.newList items]
  if !(← isGroup part) then
    Run.typeError "derive must return an instance of BaseExceptionGroup"
  match part, ← Run.deref part, ← Run.deref g with
  | .ref r, some (.exception cls args _ _ suppressed fields),
      some (.exception _ _ cause context _ old) =>
    Run.write r (.exception cls args cause context (suppressed || cause.isSome) fields)
    match old.find? fun p => p.1 == traceField with
    | some (_, n) => keep part traceField n
    | none => pure ()
    match old.find? fun p => p.1 == "__notes__" with
    | some (_, notes) =>
      if ← isSequence notes then
        keep part "__notes__" (← Run.newList (← Iteration.collect m notes))
    | none => pure ()
  | _, _, _ => pure ()
  return some part

/-! ### Parts of groups -/

/-- What decides whether an exception is taken. -/
inductive Test where
  | answer (f : Value)
  | classes (cs : List Value)
  | oneOf (leaves : List Value)

/-- The test that a value stands for. -/
def testOf (v : Value) : Run Test := do
  let refuse {α : Type} : Run α :=
    Run.typeError "expected a function, exception type or tuple of exception types"
  match v with
  | .tuple cs =>
    for c in cs do
      if !(← isExceptionClass c) then refuse
    return .classes cs
  | v =>
    if ← isExceptionClass v then return .classes [v]
    match ← Run.deref v with
    | some (.function _) => return .answer v
    | _ => refuse

def takes (m : Machine) (t : Test) (e : Value) : Run Bool := do
  match t with
  | .answer f => Iteration.truth m (← m.call f [e])
  | .classes cs => cs.anyM fun c => do Kind.inherits (← Kind.of e) c
  | .oneOf leaves =>
    if ← isGroup e then return false
    return leaves.any fun l => l.same e

/-- How deep groups may stand in each other. -/
def depthLimit : Nat := 1000

/-- The part of an exception that a test takes, and the part that is left. -/
def split (m : Machine) (t : Test) : Nat → Value → Run (Option Value × Option Value)
  | 0, _ =>
    Run.raise "RecursionError" "maximum recursion depth exceeded in exceptiongroup_split_recursive"
  | depth + 1, e => do
    if ← takes m t e then return (some e, none)
    if !(← isGroup e) then return (none, some e)
    let parts ← (← members e).mapM (split m t depth)
    let taken ← subset m e (parts.filterMap (·.1))
    let left ← subset m e (parts.filterMap (·.2))
    return (taken, left)

/-- The part of an exception that a test takes. -/
def subgroup (m : Machine) (t : Test) : Nat → Value → Run (Option Value)
  | 0, _ =>
    Run.raise "RecursionError" "maximum recursion depth exceeded in exceptiongroup_split_recursive"
  | depth + 1, e => do
    if ← takes m t e then return some e
    if !(← isGroup e) then return none
    subset m e ((← (← members e).mapM (subgroup m t depth)).filterMap id)

/-- Calls a method of a group. -/
def call (m : Machine) (g : Value) (name : String) (args : List Value) : Run Value := do
  match name, args with
  | "derive", [items] => derive m g items
  | "derive", args =>
    Run.typeError s!"function takes exactly 1 argument ({args.length} given)"
  | "split", [v] =>
    let (taken, left) ← split m (← testOf v) depthLimit g
    return .tuple [taken.getD .none, left.getD .none]
  | _, [v] => return (← subgroup m (← testOf v) depthLimit g).getD .none
  | name, args => Run.typeError s!"{name} expected 1 argument, got {args.length}"

/-! ### Handlers that share a group -/

/-- Refuses what a handler for a part of a group cannot take. -/
def checkShared (kind : Value) : Run Unit := do
  let classes := match kind with
    | .tuple vs => vs
    | v => [v]
  for c in classes do
    if !(← isExceptionClass c) then
      Run.typeError "catching classes that do not inherit from BaseException is not allowed"
  for c in classes do
    if ← Kind.inherits c (.type "BaseExceptionGroup") then
      Run.typeError "catching ExceptionGroup with except* is not allowed. Use except instead."

/-- The part of an exception that a handler for a class takes, as a group, and what is left. -/
def share (m : Machine) (e kind : Value) : Run (Option Value × Option Value) := do
  checkShared kind
  let group ← isGroup e
  if ← takes m (.classes (match kind with
      | .tuple vs => vs
      | v => [v])) e then
    if group then return (some e, none)
    return (some (← new m (.type "BaseExceptionGroup") [.str "", .tuple [e]]), none)
  if !group then return (none, some e)
  match ← m.call (← m.attr e "split") [kind] with
  | .tuple [taken, left] => return (present taken, present left)
  | _ => return (none, some e)
where
  present : Value → Option Value
    | .none => none
    | v => some v

/-- The exceptions in a group and in the groups in it. -/
def leaves : Nat → Value → Run (List Value)
  | 0, _ => return []
  | depth + 1, e => do
    if !(← isGroup e) then return [e]
    return (← (← members e).mapM (leaves depth)).flatten

/-- Whether an exception is a part of another one that was not raised anew. -/
def isPartOf (e original : Value) : Run Bool := do
  match ← Run.deref e, ← Run.deref original with
  | some (.exception _ _ cause context ..), some (.exception _ _ cause' context' ..) =>
    return sameOption cause cause' && sameOption context context' &&
      (← kept e traceField).same (← kept original traceField)
  | _, _ => return false
where
  sameOption : Option Value → Option Value → Bool
    | some a, some b => a.same b
    | none, none => true
    | _, _ => false

/-- What is raised on after all handlers, of what they raised and what they left. -/
def remainder (m : Machine) (original : Value) (raised : List Value) (left : Option Value) :
    Run (Option Value) := do
  let all := raised ++ left.toList
  if !(← isGroup original) then return all.head?
  if all.isEmpty then return none
  let parts ← all.filterM fun e => isPartOf e original
  let others ← all.filterM fun e => do return !(← isPartOf e original)
  let ids := (← parts.mapM (leaves depthLimit)).flatten
  let again ← subgroup m (.oneOf ids) depthLimit original
  match others with
  | [] => return again
  | others =>
    return some (← new m (.type "BaseExceptionGroup")
      [.str "", ← Run.newList (others ++ again.toList)])

end Group

end LiveMarkdown.Script
