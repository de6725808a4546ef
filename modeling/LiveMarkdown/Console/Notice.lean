import LiveMarkdown.Console.Markup
import LiveMarkdown.Fragment.Report

/-!
What a host prints on its console about a run: warnings and errors with what caused them, and, if
asked for, the events of the run. A transcript of it is what a reader copies from the console, where
blanks at the ends of lines cannot be seen.
-/

namespace LiveMarkdown.Console

open Script (Machine Value Run Ref)

/-- How much is printed. -/
structure Settings where
  verbosity : Nat := 0
  /-- Whether exceptions are printed below the warnings they come with. -/
  debug : Bool := false

/-- Settings from a number that may be negative. -/
def Settings.of (verbosity : Int) (debug : Bool) : Settings :=
  { verbosity := verbosity.toNat, debug }

namespace Screen

/-- A line with its label. Beyond the first level of verbosity the messages of the exceptions behind
it follow, unless the line holds them. -/
def labelled (m : Machine) (s : Settings) (label message : String) (e : Option Value) :
    Run String := do
  let causes ← match e with
    | some e => if 1 ≤ s.verbosity then Exception.messages m e else pure []
    | none => pure []
  let causes := causes.filter fun line => !Text.occursIn line message
  return shown (label ++ ": " ++ message ++
    String.join (causes.map fun line => "\n  caused by: " ++ line)) ++ "\n"

/-- An exception without what led to it. -/
def exceptionLine (m : Machine) (e : Value) : Run String := do
  let name ← Script.Kind.plainName e
  let text ← match ← Script.Iteration.catching "Exception" (m.text e) with
    | some s => pure s
    | none => pure "<exception str() failed>"
  return shown (if text == "" then name else s!"{name}: {text}") ++ "\n"

/-- The exception that led to another one, and whether it is its cause. -/
def before? (m : Machine) (e : Value) : Run (Option (Value × Bool)) := do
  match ← Run.deref e with
  | some (.exception _ _ cause context suppressed _) =>
    let cause ← match cause with
      | some c => do pure (if ← Script.Iteration.truth m c then some c else none)
      | none => pure none
    match cause, context with
    | some c, _ => return some (c, true)
    | none, some (.ref r) => return if suppressed then none else some (.ref r, false)
    | none, _ => return none
  | _ => return none

def becauseLine (isCause : Bool) : String :=
  if isCause then "\nThe above exception was the direct cause of the following exception:\n\n"
  else "\nDuring handling of the above exception, another exception occurred:\n\n"

/-- An exception after those that led to it. The fuel bounds their number. -/
def exceptionChain (m : Machine) : Nat → Value → Run String
  | 0, e => exceptionLine m e
  | fuel + 1, e => do
    let line ← exceptionLine m e
    match ← before? m e with
    | some (c, isCause) =>
      let earlier ← exceptionChain m fuel c
      return earlier ++ becauseLine isCause ++ line
    | none => return line

/-- A warning, with its exception below it if exceptions are printed. -/
def warning (m : Machine) (s : Settings) (message : String) (e : Option Value) : Run String := do
  let line ← labelled m s "warning" message e
  match e with
  | some e => if s.debug then return line ++ (← exceptionChain m 64 e) else return line
  | none => return line

def error (m : Machine) (s : Settings) (message : String) (e : Option Value) : Run String :=
  labelled m s "error" message e

/-- A line of information, whose markup is read. -/
def info (message : String) : Run String := do
  match plain message with
  | .ok text => return shown text ++ "\n"
  | .error fault =>
    let (name, text) := fault.context
    let context ← Run.new (.exception (.type name) [.str text] none none false #[])
    Run.throwValue (← Run.new
      (.exception (.type "MarkupError") [.str fault.message] none (some context) false #[]))

/-- An event in a line, if such lines are asked for. -/
def event (m : Machine) (s : Settings) (name : String) (payload : Value) : Run String := do
  if s.verbosity = 0 then return ""
  match ← Report.message? m name payload with
  | some message => info message
  | none => return ""

end Screen

/-! ### Transcripts -/

/-- A text in a transcript: no line ends with blanks. -/
def transcribed (s : String) : String :=
  "\n".intercalate ((Text.linesAtFeeds s.toList).map fun l =>
    String.ofList (Text.dropLastWhile Text.isBlank l))

def warning (m : Machine) (s : Settings) (message : String) (e : Option Value) : Run String :=
  transcribed <$> Screen.warning m s message e

def error (m : Machine) (s : Settings) (message : String) (e : Option Value) : Run String :=
  transcribed <$> Screen.error m s message e

def event (m : Machine) (s : Settings) (name : String) (payload : Value) : Run String :=
  transcribed <$> Screen.event m s name payload

end LiveMarkdown.Console
