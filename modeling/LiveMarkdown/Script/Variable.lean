import LiveMarkdown.Script.Builtin
import LiveMarkdown.Script.Scope

/-!
Reading, binding and unbinding names. A name is looked up in the function or class where it stands,
in the functions around it, in the module, and among the built-in names.
-/

namespace LiveMarkdown.Script

namespace Variable

/-- Where the functions around a place know a name from. -/
inductive Place where
  | variable (scope : Ref)
  | module
  | unknown

/-- Looks for the nearest function that has a name as its own. The fuel bounds the nesting. -/
def findOuter (name : String) : Nat → Option Ref → Run Place
  | 0, _ => return .unknown
  | _, none => return .unknown
  | fuel + 1, some r => do
    match ← Run.object? r with
    | some (.scope names _ outer) =>
      if names.locals.contains name then return .variable r
      if names.globals.contains name then return .module
      findOuter name fuel outer
    | _ => return .unknown

def nestingLimit : Nat := 1000

/-- The value of a variable of a function, if it is bound. -/
def read? (scope : Ref) (name : String) : Run (Option Value) := do
  match ← Run.object? scope with
  | some (.scope _ vars _) => return (vars.find? fun v => v.1 == name).map (·.2)
  | _ => return none

def write (scope : Ref) (name : String) (v : Value) : Run Unit := do
  match ← Run.object? scope with
  | some (.scope names vars outer) =>
    let vars := match vars.findIdx? fun p => p.1 == name with
      | some i => vars.set! i (name, v)
      | none => vars.push (name, v)
    Run.write scope (.scope names vars outer)
  | _ => return ()

/-- Unbinds a variable of a function; says whether it was bound. -/
def forget (scope : Ref) (name : String) : Run Bool := do
  match ← Run.object? scope with
  | some (.scope names vars outer) =>
    match vars.findIdx? fun p => p.1 == name with
    | some i =>
      Run.write scope (.scope names (vars.eraseIdx! i) outer)
      return true
    | none => return false
  | _ => return false

def notDefined {α : Type} (name : String) : Run α :=
  Run.raise "NameError" s!"name '{name}' is not defined"

def unboundLocal {α : Type} (name : String) : Run α :=
  Run.raise "UnboundLocalError"
    s!"cannot access local variable '{name}' where it is not associated with a value"

def unboundOuter {α : Type} (name : String) : Run α :=
  Run.raise "NameError"
    s!"cannot access free variable '{name}' where it is not associated with a value in enclosing scope"

/-- The value of a name of the module or a built-in name. -/
def global (fr : Frame) (name : String) : Run Value := do
  match ← Space.get? fr.globals name with
  | some v => return v
  | none =>
    let found ← match fr.builtins with
      | some r => Space.get? r name
      | none => Builtin.find? name
    match found with
    | some v => return v
    | none => notDefined name

/-- The mapping that has the names of the block around a place, if it is no plain dictionary. -/
def ownMapping? (fr : Frame) (name : String) : Run (Option Value) := do
  match fr.kind, fr.space with
  | .classBody, some r =>
    if fr.names.globals.contains name || fr.names.outer.contains name then return none
    match ← Run.object? r with
    | some (.dict _) => return none
    | _ => return some (.ref r)
  | _, _ => return none

/-- The value of a name. -/
def load (fr : Frame) (name : String) : Run Value := do
  match fr.kind with
  | .module => global fr name
  | .classBody =>
    if fr.names.globals.contains name then return ← global fr name
    match fr.space with
    | some r =>
      match ← Space.get? r name with
      | some v => return v
      | none => pure ()
    | none => pure ()
    match ← findOuter name nestingLimit fr.closure with
    | .variable r =>
      match ← read? r name with
      | some v => return v
      | none => unboundOuter name
    | _ => global fr name
  | .function =>
    if fr.names.globals.contains name then return ← global fr name
    match ← findOuter name nestingLimit fr.closure with
    | .variable r =>
      match ← read? r name with
      | some v => return v
      | none => if fr.names.locals.contains name then unboundLocal name else unboundOuter name
    | _ => global fr name

/-- Binds a name. -/
def store (fr : Frame) (name : String) (v : Value) : Run Unit := do
  match fr.kind with
  | .module => Space.set fr.globals name v
  | .classBody =>
    if fr.names.globals.contains name then Space.set fr.globals name v
    else if fr.names.outer.contains name then
      match ← findOuter name nestingLimit fr.closure with
      | .variable r => write r name v
      | _ => Space.set fr.globals name v
    else match fr.space with
      | some r => Space.set r name v
      | none => Space.set fr.globals name v
  | .function =>
    if fr.names.globals.contains name then Space.set fr.globals name v
    else match ← findOuter name nestingLimit fr.closure with
      | .variable r => write r name v
      | _ =>
        match fr.space with
        | some r => Space.set r name v
        | none => Space.set fr.globals name v

/-- Unbinds a name. -/
def delete (fr : Frame) (name : String) : Run Unit := do
  let fromSpace (r : Ref) : Run Unit := do
    if !(← Space.erase r name) then notDefined name
  match fr.kind with
  | .module => fromSpace fr.globals
  | .classBody =>
    if fr.names.globals.contains name then fromSpace fr.globals
    else fromSpace (fr.space.getD fr.globals)
  | .function =>
    if fr.names.globals.contains name then fromSpace fr.globals
    else match ← findOuter name nestingLimit fr.closure with
      | .variable r =>
        if !(← forget r name) then
          if fr.names.locals.contains name then unboundLocal name else unboundOuter name
      | _ => fromSpace fr.globals

end Variable

end LiveMarkdown.Script
