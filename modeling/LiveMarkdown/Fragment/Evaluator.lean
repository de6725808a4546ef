import LiveMarkdown.Script.Builtin

/-!
What runs the code of fragments. The engine knows no more of it than that it compiles texts and runs
what it compiled against a namespace.
-/

namespace LiveMarkdown

open Script (Value Run Ref)

/-- How the text of a fragment is read: as one expression or as a block of statements. -/
inductive Mode where
  | expression
  | statements
deriving DecidableEq, Repr

def Mode.name : Mode → String
  | .expression => "expression"
  | .statements => "statements"

/-- Why a text does not compile, with the class and the text of the exception behind it. -/
structure Fault where
  message : String
  cause : Option (String × String) := none
deriving DecidableEq, Repr

structure Evaluator where
  Code : Type
  compile : Mode → String → Except Fault Code
  invoke : Ref → Code → Run Value

/-- Code, with the text and the mode that it was compiled from. -/
structure Compiled (e : Evaluator) where
  mode : Mode
  text : String
  code : e.Code
  compiles : e.compile mode text = .ok code

/-- Compiles a text in a mode, and keeps both with the code. -/
def Evaluator.compiled (e : Evaluator) (mode : Mode) (text : String) : Except Fault (Compiled e) :=
  match h : e.compile mode text with
  | .ok code => .ok { mode, text, code, compiles := h }
  | .error fault => .error fault

namespace Environment

/-- The name under which the code of a document runs. -/
def name : String := "__execsmith__"

/-- The name of the built-in names in a namespace. -/
def builtinsName : String := Script.Builtin.placeName

/-- The module of the built-in names. -/
def builtinsModule : Run Value := do
  match (← get).modules.find? fun p => p.1 == "builtins" with
  | some (_, v) => return v
  | none => Run.new (.module "builtins" (← Run.alloc (.dict #[])))

/-- A new namespace: the built-in names, the name of the code, and what the host binds. -/
def create (bindings : List (String × Value)) : Run Ref := do
  let builtins ← builtinsModule
  modify fun w => { w with modules := w.modules ++ [("builtins", builtins)] }
  let space ← Run.alloc (.dict #[(.str builtinsName, builtins), (.str "__name__", .str name)])
  for (k, v) in bindings do Script.Space.set space k v
  return space

/-- The names of a namespace other than reserved ones, in the order of their code points. -/
def publicNames (space : Ref) : Run (List String) := do
  let names := (← Script.Space.entries space).toList.filterMap fun (k, _) => match k with
    | .str s => if s.toList.take 2 = ['_', '_'] then none else some s
    | _ => none
  return names.mergeSort fun a b => a < b || a == b

end Environment

end LiveMarkdown
