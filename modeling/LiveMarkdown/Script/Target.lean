import LiveMarkdown.Script.Call
import LiveMarkdown.Script.Waiting

/-!
What an assignment does with its target: a name, an attribute, a part of a value, or several targets
for the items of one value.
-/

namespace LiveMarkdown.Script

namespace Target

/-- A private name belongs to the class around it. -/
def ownName (fr : Frame) (name : String) : String :=
  match fr.privateTo with
  | some c =>
    let cs := name.toList
    if cs.take 2 = ['_', '_'] ∧ cs.reverse.take 2 ≠ ['_', '_'] ∧ !cs.contains '.' then
      let c := String.ofList (c.toList.dropWhile (· = '_'))
      if c == "" then name else "_" ++ c ++ name
    else name
  | none => name

/-- The name under which a plain name is kept. The variables of a function keep theirs. -/
def keptName (fr : Frame) (name : String) : String :=
  match fr.kind with
  | .classBody => ownName fr name
  | _ => name

/-- The iterator of a value that is unpacked. -/
def unpacking (m : Machine) (v : Value) : Run Value := do
  let cls ← Kind.of v
  if (← Kind.attr? cls "__iter__").isSome || (← Kind.attr? cls "__getitem__").isSome then
    Iteration.iter m v
  else
    match ← Iteration.catching "TypeError" (Iteration.iter m v) with
    | some it => return it
    | none => Run.typeError s!"cannot unpack non-iterable {← Kind.name v} object"

/-- The items of a value for `n` targets. -/
def exactItems (m : Machine) (v : Value) (n : Nat) : Run (List Value) := do
  let it ← unpacking m v
  let rec take : Nat → Run (List Value)
    | 0 => do
      if (← m.next it).isSome then
        Run.valueError s!"too many values to unpack (expected {n})"
      return []
    | k + 1 => do
      match ← m.next it with
      | some x => return x :: (← take k)
      | none =>
        Run.valueError s!"not enough values to unpack (expected {n}, got {n - (k + 1)})"
  take n

/-- The items of a value for targets before and after one that takes all others. -/
def spreadItems (m : Machine) (v : Value) (before after : Nat) : Run (List Value) := do
  let all ← Iteration.drain m (← unpacking m v)
  let n := all.length
  if n < before + after then
    Run.valueError
      s!"not enough values to unpack (expected at least {before + after}, got {n})"
  let middle ← Run.newList ((all.drop before).take (n - before - after))
  return all.take before ++ middle :: all.drop (n - after)

/-- Gives each target its value. A starred target is given a list. -/
def assignEach (m : Machine) (fr : Frame) : List Expr → List Value → Run Unit
  | .starred _ t _ :: ts, v :: vs => do
    m.assign fr t v
    assignEach m fr ts vs
  | t :: ts, v :: vs => do
    m.assign fr t v
    assignEach m fr ts vs
  | _, _ => return ()

def isStarred : Expr → Bool
  | .starred .. => true
  | _ => false

def unpack (m : Machine) (fr : Frame) (targets : List Expr) (v : Value) : Run Unit := do
  match targets.findIdx? isStarred with
  | some i =>
    assignEach m fr targets (← spreadItems m v i (targets.length - i - 1))
  | none => assignEach m fr targets (← exactItems m v targets.length)

/-- Puts a value into a slot, which is no name of the program. Only functions have slots. -/
def fillSlot (fr : Frame) (id : String) (v : Value) : Run Unit := do
  match fr.scope with
  | some r => Variable.write r id v
  | none => throw .exhausted

/-- Gives a target its value. -/
def assign (m : Machine) (fr : Frame) (target : Expr) (v : Value) : Run Unit := do
  match target with
  | .name _ id _ =>
    if Waiting.isSlot id then return ← fillSlot fr id v
    match ← Variable.ownMapping? fr id with
    | some names => Subscript.set m names (.str (keptName fr id)) v
    | none => Variable.store fr (keptName fr id) v
  | .attribute _ e attr _ => Attribute.set m (← m.eval fr e) (ownName fr attr) v
  | .subscript _ e i _ =>
    let container ← m.eval fr e
    Subscript.set m container (← m.eval fr i) v
  | .tuple _ ts _ | .list _ ts _ => unpack m fr ts v
  | .starred _ t _ => m.assign fr t v
  | _ => return ()

/-- Unbinds a target. -/
def delete (m : Machine) (fr : Frame) : Expr → Run Unit
  | .name _ id _ => do
    match ← Variable.ownMapping? fr id with
    | some names =>
      match ← Iteration.catching "KeyError" (Subscript.delete m names (.str (keptName fr id))) with
      | some () => return ()
      | none => Variable.notDefined id
    | none => Variable.delete fr (keptName fr id)
  | .attribute _ e attr _ => do Attribute.delete m (← m.eval fr e) (ownName fr attr)
  | .subscript _ e i _ => do
    let container ← m.eval fr e
    Subscript.delete m container (← m.eval fr i)
  | .tuple _ ts _ | .list _ ts _ => deleteAll ts
  | _ => return ()
where
  deleteAll : List Expr → Run Unit
    | [] => return ()
    | t :: ts => do
      delete m fr t
      deleteAll ts

end Target

end LiveMarkdown.Script
