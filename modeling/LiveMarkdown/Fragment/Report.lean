import LiveMarkdown.Fragment.Failure

/-!
Events of a run in words. The numbers of an event may be any values; one that counts as false is left
out.
-/

namespace LiveMarkdown

open Script (Machine Value Run)

namespace Report

/-- The value of a key in a payload. -/
def entry? (m : Machine) (payload : Value) (key : String) : Run Value := do
  m.call (← m.attr payload "get") [.str key]

/-- A number with a noun, in the plural unless the number is one. -/
def counted (m : Machine) (n : Value) (noun : String) : Run String := do
  let one ← Script.Iteration.truth m (← m.compare .eq n (.int 1))
  return (← Script.Format.value m n "") ++ " " ++ (if one then noun else noun ++ "s")

/-- A value, or a text in its place if the value counts as false. -/
def orElse (m : Machine) (v : Value) (text : String) : Run String := do
  if ← Script.Iteration.truth m v then Script.Format.value m v "" else return text

/-- What a run did, in one line. -/
def describeRun (m : Machine) (payload : Value) : Run String := do
  let counts ← ["substituted", "removed", "unchanged"].filterMapM fun key => do
    if ← Script.Iteration.truth m (← entry? m payload key) then
      let v ← Script.Subscript.get m payload (.str key)
      return some ((← Script.Format.value m v "") ++ " " ++ key)
    return none
  let counts ← if ← Script.Iteration.truth m (← entry? m payload "warnings") then do
      let v ← Script.Subscript.get m payload (.str "warnings")
      pure (counts ++ [← counted m v "warning"])
    else pure counts
  let fragments ← m.call (← m.attr payload "get") [.str "fragments", .int 0]
  let summary := "Processed " ++ (← counted m fragments "fragment") ++ " in " ++
    (← orElse m (← entry? m payload "input") "<input>")
  return if counts.isEmpty then summary
    else summary ++ " (" ++ ", ".intercalate counts ++ ")"

/-- Why a document was passed over, in one line. -/
def describeSkip (m : Machine) (payload : Value) : Run String := do
  let input ← orElse m (← entry? m payload "input") "<input>"
  let key ← Script.Format.value m (← entry? m payload "key") ""
  return s!"Skipping {input}: front matter does not set '{key}: true'"

/-- An event in one line; other events than those of a run have none. -/
def message? (m : Machine) (name : String) (payload : Value) : Run (Option String) := do
  match name with
  | "fragment_run" => return some (← describeRun m payload)
  | "fragment_run_skipped" => return some (← describeSkip m payload)
  | _ => return none

/-- How much a line of a log matters. -/
inductive LogLevel where
  | debug
  | info
  | warning
  deriving BEq, Repr, DecidableEq

def LogLevel.name : LogLevel → String
  | .debug => "DEBUG"
  | .info => "INFO"
  | .warning => "WARNING"

/-- An event as a line of a log. Events that have no line of their own are shown as they are. -/
def logged (m : Machine) (name : String) (payload : Value) : Run (LogLevel × String) := do
  match ← message? m name payload with
  | some s => return (.info, s)
  | none => return (.debug, s!"{name}: {← m.text payload}")

end Report

end LiveMarkdown
