import LiveMarkdown.Script.Machine
import LiveMarkdown.Source.Cursor

/-!
What is said when a fragment fails, and about the exceptions behind a failure.
-/

namespace LiveMarkdown

open Script (Machine Value Run Ref)

/-- Why a fragment fails. A refused value comes with what was expected instead. -/
inductive FailureKind where
  | general
  | parse
  | exec
  | invalidReturn (expectation : String)
deriving DecidableEq, Repr

/-- The name of the exception class that stands for a kind of failure. -/
def FailureKind.className : FailureKind → String
  | .general => "FragmentError"
  | .parse => "ParseError"
  | .exec => "ExecError"
  | .invalidReturn _ => "InvalidReturnValue"

/-- A failure of one fragment, with the exception behind it. -/
structure Failure where
  kind : FailureKind
  level : Level
  position : Source.Position
  inputName : String
  detail : String
  cause : Option Value := none

namespace Failure

/-- The place of the failing fragment in words. -/
def location (f : Failure) : String :=
  let element := match f.level with
    | .inline => "inline code element"
    | .block => "code block"
  s!"{element} in {f.inputName} at {f.position.describe f.level}"

def message (f : Failure) : String :=
  match f.kind with
  | .general => s!"Fragment failure in the {f.location}: {f.detail}"
  | .parse => s!"The following error occurred while parsing the {f.location}:\n{f.detail}"
  | .exec => s!"The following error occurred while executing the {f.location}:\n{f.detail}"
  | .invalidReturn expectation =>
    "Received invalid return value " ++ "\x60" ++ f.detail ++ "\x60" ++
      s!" from the {f.location}. {expectation}"

end Failure

namespace Exception

/-- An exception in one line: the name of its class and its text. -/
def describe (m : Machine) (e : Value) : Run String := do
  let text := LiveMarkdown.Text.strip (← m.text e)
  let name ← Script.Kind.plainName e
  return if text == "" then name else s!"{name}: {text}"

/-- The first line of a text without blanks around it. -/
def firstLine (text : String) : String :=
  LiveMarkdown.Text.strip ((LiveMarkdown.Text.lines (LiveMarkdown.Text.strip text)).headD "")

/-- The exception that comes after another one in a chain: its cause, else its context. -/
def next? (m : Machine) (r : Ref) : Run (Option Ref) := do
  match ← Run.object? r with
  | some (.exception _ _ cause context _ _) =>
    let own ← match cause with
      | some c => do pure (if ← Script.Iteration.truth m c then some c else context)
      | none => pure context
    match own with
    | some (.ref s) => return some s
    | _ => return none
  | _ => return none

/-- The first lines of the exceptions of a chain, each exception once. The fuel bounds their number. -/
def messagesFrom (m : Machine) : Nat → List Ref → Ref → Run (List String)
  | 0, _, _ => return []
  | fuel + 1, visited, r => do
    if visited.contains r then return []
    let line := firstLine (← m.text (.ref r))
    let rest ← match ← next? m r with
      | some s => messagesFrom m fuel (r :: visited) s
      | none => pure []
    return if line == "" then rest else line :: rest

/-- The messages of an exception and of those that led to it. -/
def messages (m : Machine) (e : Value) : Run (List String) := do
  match e with
  | .ref r => messagesFrom m ((← get).heap.size + 1) [] r
  | _ => return []

/-- The full form of a value; one that cannot be shown is named by its class. -/
def safeShown (m : Machine) (v : Value) : Run String := do
  match ← Script.Iteration.catching "Exception" (m.shown v) with
  | some s => return s
  | none => return s!"<{← Script.Kind.plainName v} object>"

end Exception

end LiveMarkdown
