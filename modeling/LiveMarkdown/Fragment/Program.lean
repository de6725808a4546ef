import LiveMarkdown.Fragment.Evaluator
import LiveMarkdown.Script.Machine

/-!
The evaluator for programs. A text is compiled to an expression, to the statements of a module, or, if
it returns at its top level, to the body of a function without parameters.
-/

namespace LiveMarkdown

open Script

/-- Code that can run against a namespace. -/
inductive Program where
  | expression (e : Expr)
  | module (ss : List Stmt)
  | returning (body : List Stmt)

namespace Program

def ofSyntaxFault (filename : String) (e : SyntaxFault) : Fault where
  message := e.describe
  cause := some (e.className, e.short (some filename))

def nullFault : Fault where
  message := "source code string cannot contain null bytes"
  cause := some ("ValueError", "source code string cannot contain null bytes")

/-- Reads a text in a mode, and checks what was read. -/
def read (mode : Mode) (text : String) : Except SyntaxFault Program := do
  match mode with
  | .expression =>
    let e ← Grammar.readExpression text
    Check.expression e
    return .expression e
  | .statements =>
    let ss ← Grammar.readProgram text
    if hasReturn ss then
      Check.wrapped (wrapperBody ss)
      return .returning (wrapperBody ss)
    Check.module ss
    return .module ss

def compile (filename : String) (mode : Mode) (text : String) : Except Fault Program :=
  if text.toList.contains '\x00' then .error nullFault
  else match read mode text with
    | .ok p => .ok p
    | .error e => .error (ofSyntaxFault filename e)

/-- Makes a namespace the one of the module that runs. -/
def enter (space : Ref) : Run Unit := do
  Execution.provideBuiltins space
  modify fun w => { w with globals := some space }

/-- The function that the body of a returning block becomes. -/
def functionOf (fr : Frame) (body : List Stmt) : Function where
  name := wrapperName
  qualifiedName := wrapperName
  params := .mk [] [] none [] [] none []
  body
  defaults := []
  nameDefaults := []
  scope := none
  globals := fr.globals
  builtins := fr.builtins
  names := Scope.blockNames [] body
  kind := if Scope.yields body then .generator else .plain
  owner := none
  privateTo := none
  hints := []
  attrs := #[]

/-- Runs code against a namespace. -/
def invoke (m : Machine) (space : Ref) : Program → Run Value
  | .expression e => do
    enter space
    m.eval (← Execution.moduleFrame space) e
  | .module ss => do
    enter space
    match openingText? ss with
    | some s => Space.set space "__doc__" (.str s)
    | none => pure ()
    discard (m.block (← Execution.moduleFrame space) ss)
    return .none
  | .returning body => do
    modify fun w => { w with globals := some space }
    if (← Space.get? space starImportName).isNone then
      Space.set space starImportName (.native "import_star")
    m.call (← Run.new (.function (functionOf (← Execution.moduleFrame space) body))) []

/-- The evaluator for programs whose code bears a filename. -/
def evaluator (m : Machine) (filename : String) : Evaluator where
  Code := Program
  compile := compile filename
  invoke := invoke m

end Program

end LiveMarkdown
