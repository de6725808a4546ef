import LiveMarkdown.Fragment.Evaluator
import LiveMarkdown.Fragment.Result
import LiveMarkdown.Source.Cursor

/-!
Running one fragment. It passes four gates, each of which may settle its outcome: it may not be a
fragment at all, it may be switched off, its text may not compile, and its code may fail or return
what has no place in the document. A failure is reported and leaves the fragment as it is.
-/

namespace LiveMarkdown

open Document (NodeId Forest)
open Script (Machine Value Run Ref Stop World)

/-- What becomes of a fragment. -/
inductive Outcome where
  | substituted (nodes : List NodeId)
  | removed
  | unchanged (warning : Option Failure)

/-- What the engine asked for, in order. Nothing reads it back; it is what statements on the order of
steps are about. -/
inductive Step where
  | processed (n : NodeId) (f : Forest)
  | located (text : String) (level : Level)
  | compiled (mode : Mode) (text : String) (ok : Bool)
  /-- The run of what a text was compiled to. -/
  | invoked (mode : Mode) (text : String)

/-- What the host of a run is told. -/
inductive Emission where
  /-- A warning, with the exception that comes with it. -/
  | warning (message : String) (exception : Option Value)
  | event (name : String) (payload : List (String × Value))

/-- The state of a run over a document. -/
structure Session where
  world : World
  cursor : Int := 0
  /-- What the host was told, in order. -/
  emitted : List Emission := []
  journal : List Step := []

namespace Session

/-- The warnings that were reported, with the exceptions that came with them. -/
def warnings (s : Session) : Array (String × Option Value) :=
  (s.emitted.filterMap fun
    | .warning message e => some (message, e)
    | .event .. => none).toArray

def events (s : Session) : Array (String × List (String × Value)) :=
  (s.emitted.filterMap fun
    | .event name payload => some (name, payload)
    | .warning .. => none).toArray

end Session

abbrev Engine := EStateM Stop Session

namespace Engine

/-- Runs code in the world of a session. -/
def lift {α : Type} (x : Run α) : Engine α := fun s =>
  match x s.world with
  | .ok a w => .ok a { s with world := w }
  | .error e w => .error e { s with world := w }

def forest : Engine Forest := do return (← get).world.forest

def setForest (f : Forest) : Engine Unit :=
  modify fun s => { s with world := { s.world with forest := f } }

def note (step : Step) : Engine Unit := modify fun s => { s with journal := s.journal ++ [step] }

def emit (e : Emission) : Engine Unit := modify fun s => { s with emitted := s.emitted ++ [e] }

def event (name : String) (payload : List (String × Value)) : Engine Unit :=
  emit (.event name payload)

end Engine

/-- What stays the same during a run. -/
structure Settings where
  evaluator : Evaluator
  machine : Machine
  space : Ref
  source : String
  markers : List String
  inputName : String
  debug : Bool

namespace Executor

variable (s : Settings)

/-- Reports a failure; the exception behind it is passed on only for debugging. -/
def fail (f : Failure) : Engine Outcome := do
  Engine.emit (.warning f.message (if s.debug then f.cause else none))
  return .unchanged (some f)

/-- The position of a text in the source; the cursor moves behind it. -/
def locate (text : String) (level : Level) : Engine Source.Position := do
  Engine.note (.located text level)
  let (p, cursor) := Source.locate s.source text (← get).cursor level
  modify fun st => { st with cursor }
  return p

def compileAs (mode : Mode) (text : String) : Engine (Except Fault (Compiled s.evaluator)) := do
  let r := s.evaluator.compiled mode text
  Engine.note (.compiled mode text (match r with
    | .ok _ => true
    | .error _ => false))
  return r

/-- Compiles the text of a fragment: inline code as an expression if it is one, and all else as
statements. -/
def compile (f : Fragment) : Engine (Except Fault (Compiled s.evaluator)) := do
  match f.level with
  | .block => compileAs s .statements f.text
  | .inline =>
    match ← compileAs s .expression f.text with
    | .ok code => return .ok code
    | .error _ => compileAs s .statements f.text

/-- The exception that a fault is. -/
def exceptionOf (fault : Fault) : Run Value := do
  let cause ← fault.cause.mapM fun (cls, text) =>
    Run.new (.exception (.type cls) [.str text] none none false #[])
  Run.new (.exception (.type "CompileError") [.str fault.message] cause cause true #[])

/-- Writes the attributes that code still holds back to the tree. -/
def writeBack : Run Unit :=
  Run.handle (Script.LiveAttributes.settle s.machine) fun _ => return ()

/-- Evaluates compiled code; what it raises is an answer too, unless it asks for the end of the
program. -/
def evaluate (c : Compiled s.evaluator) : Run (Except Value Value) := do
  let r ← Run.handle (.ok <$> s.evaluator.invoke s.space c.code) fun e => do
    if ← Script.Kind.isA e "Exception" then return .error e
    throw (.raised e)
  writeBack s
  return r

def invoke (c : Compiled s.evaluator) : Engine (Except Value Value) := do
  Engine.note (.invoked c.mode c.text)
  Engine.lift (evaluate s c)

/-- Whether a node is among the nodes above another. -/
def encloses (f : Forest) (nodes : List NodeId) (n : NodeId) : Bool :=
  nodes.any (f.ancestors n).contains

def failure (f : Fragment) (kind : FailureKind) (detail : String) (cause : Option Value) :
    Failure :=
  { kind, level := f.level, position := f.position, inputName := s.inputName, detail, cause }

/-- Refuses what code returned. -/
def refuse (f : Fragment) (v : Value) (expectation : String) : Engine Outcome := do
  let shown ← Engine.lift (Exception.safeShown s.machine v)
  fail s (failure s f (.invalidReturn expectation) shown none)

/-- The outcome of a fragment whose code returned a value that stands for nodes. -/
def placed (f : Fragment) (v : Value) (nodes : List NodeId) : Engine Outcome := do
  let forest ← Engine.forest
  if (forest.parent? f.node).isNone then
    fail s (failure s f .exec "The fragment was removed from the document while it ran." none)
  else if encloses forest nodes f.node then
    refuse s f v "Returned elements cannot contain the fragment that produced them."
  else return .substituted nodes

/-- The outcome of a fragment whose code returned a value. -/
def outcomeOf (f : Fragment) (v : Value) : Engine Outcome := do
  match ← Engine.lift (Result.validate s.machine v f.level) with
  | none => refuse s f v (Result.expected f.level)
  | some [] => return .removed
  | some nodes => placed s f v nodes

/-- The outcome of a fragment whose text was compiled. -/
def runCode (f : Fragment) (c : Compiled s.evaluator) : Engine Outcome := do
  match ← invoke s c with
  | .error e =>
    let detail ← Engine.lift (Exception.describe s.machine e)
    fail s (failure s f .exec detail (some e))
  | .ok v => outcomeOf s f v

/-- The outcome of a fragment that is switched on. -/
def attempt (f : Fragment) : Engine Outcome := do
  match ← compile s f with
  | .error fault =>
    let e ← Engine.lift (exceptionOf fault)
    fail s (failure s f .parse fault.message (some e))
  | .ok c => runCode s f c

/-- The outcome of a fragment that is switched off. -/
def withheld (f : Fragment) : Outcome :=
  if f.level = .block && !f.included then .removed else .unchanged none

/-- The outcome of a fragment. The tree is left as it is, unless the code itself edits it. -/
def execute (f : Fragment) : Engine (Fragment × Outcome) := do
  if !f.executes then return (f, withheld f)
  let f := { f with position := ← locate s f.text f.level }
  return (f, ← attempt s f)

/-- Executes a node if it is a fragment. -/
def process (n : NodeId) : Engine (Option (Fragment × Outcome)) := do
  Engine.note (.processed n (← Engine.forest))
  match Fragment.ofNode? (← Engine.forest) s.markers n with
  | none => return none
  | some f => return some (← execute s f)

/-- The edit of the tree that an outcome asks for. -/
def edit (f : Fragment) : Outcome → Document.Edit Unit
  | .substituted nodes => Document.Edit.replaceWith f.node nodes
  | .removed => modify fun forest => forest.extract f.node
  | .unchanged _ => pure ()

/-- Applies an outcome to the tree. -/
def applyEdit (f : Fragment) (o : Outcome) : Engine (Option Document.EditError) := do
  match (edit f o).run (← Engine.forest) with
  | .ok _ forest =>
    Engine.setForest forest
    return none
  | .error e forest =>
    Engine.setForest forest
    return some e

/-- Applies an outcome; an edit that is refused becomes a failure of the fragment. -/
def apply (f : Fragment) (o : Outcome) : Engine Outcome := do
  match ← applyEdit f o with
  | none => return o
  | some e =>
    let x ← Engine.lift (Run.new
      (.exception (.type "ValueError") [.str e.message] none none false #[]))
    let detail ← Engine.lift (Exception.describe s.machine x)
    fail s (failure s f .exec detail (some x))

end Executor

end LiveMarkdown
