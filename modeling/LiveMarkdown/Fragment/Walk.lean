import LiveMarkdown.Fragment.Config
import LiveMarkdown.Fragment.Executor
import LiveMarkdown.Text.Blank

/-!
Running a whole document. The walk goes through the tree in document order. The outcome of a fragment
is applied before the walk goes on, so later fragments see both the names and the tree as earlier
ones left them. A fragment is not entered, and nodes that were inserted are not visited.
-/

namespace LiveMarkdown

open Document (NodeId Forest)
open Script (Machine Value Run Ref)

/-- What became of the fragments of a document. -/
structure DocumentRun where
  enabled : Bool
  inputName : String
  results : List (Fragment × Outcome) := []

namespace DocumentRun

def isSubstituted : Outcome → Bool
  | .substituted _ => true
  | _ => false

def isRemoved : Outcome → Bool
  | .removed => true
  | _ => false

def isUnchanged : Outcome → Bool
  | .unchanged _ => true
  | _ => false

def warning? : Outcome → Option Failure
  | .unchanged w => w
  | _ => none

def count (r : DocumentRun) (p : Outcome → Bool) : Nat := r.results.countP fun x => p x.2

def warnings (r : DocumentRun) : List Failure := r.results.filterMap fun x => warning? x.2

/-- The numbers of a run. -/
def summary (r : DocumentRun) : List (String × Value) :=
  [("input", .str r.inputName), ("fragments", .int r.results.length),
    ("substituted", .int (r.count isSubstituted)), ("removed", .int (r.count isRemoved)),
    ("unchanged", .int (r.count isUnchanged)), ("warnings", .int r.warnings.length)]

end DocumentRun

namespace Walk

variable (s : Settings)

/-- Executes a node and applies the outcome, if the node is a fragment. -/
def visit (n : NodeId) : Engine (Option (Fragment × Outcome)) := do
  match ← Executor.process s n with
  | some (f, o) => return some (f, ← Executor.apply s f o)
  | none => return none

/-- Visits nodes one after the other, passing over those that stand elsewhere by now; `below` goes
through a node that is no fragment. -/
def siblings (below : NodeId → List (Fragment × Outcome) → Engine (List (Fragment × Outcome)))
    (parent : NodeId) :
    List NodeId → List (Fragment × Outcome) → Engine (List (Fragment × Outcome))
  | [], done => return done
  | n :: rest, done => do
    if (← Engine.forest).parent? n ≠ some parent then siblings below parent rest done
    else
      match ← visit s n with
      | some r => siblings below parent rest (done ++ [r])
      | none =>
        if (← Engine.forest).isTag n then siblings below parent rest (← below n done)
        else siblings below parent rest done

/-- Visits the children of a node as they are when the visit begins. The fuel bounds the depth. -/
def children : Nat → NodeId → List (Fragment × Outcome) → Engine (List (Fragment × Outcome))
  | 0, _, _ => throw .exhausted
  | fuel + 1, parent, done => do
    siblings s (children fuel) parent ((← Engine.forest).children parent) done

end Walk

/-- What one run is given beside the document. -/
structure RunOptions where
  inputPath : Option String := none
  source : Option String := none
  bindings : List (String × Value) := []
  debug : Bool := false

/-- What the files of a host hold, by their paths: nothing where no text can be read. -/
abbrev Files := String → Option String

/-- Whether a text can be the path of a file at all. -/
def isPath (path : String) : Bool := !path.toList.contains '\x00'

namespace RunOptions

/-- The name of the input in what is told about it. -/
def inputName (o : RunOptions) : String := o.inputPath.getD "<input>"

/-- The source of a run: what the host gives, else what the file of the input holds. A file that cannot
be read counts as empty; a text that is no path is refused. -/
def load (files : Files) (o : RunOptions) : Run String :=
  match o.source, o.inputPath with
  | some source, _ => return source
  | none, none => return ""
  | none, some path =>
    if isPath path then return (files path).getD "" else Run.valueError "embedded null byte"

end RunOptions

namespace DocumentRun

/-- Whether the metadata of a document switch execution on: with the value `true` itself. -/
def enabledFor (m : Machine) (config : Config) (metadata : Value) : Run Bool := do
  if !(← Script.Iteration.truth m metadata) then return false
  let v ← m.call (← m.attr metadata "get") [.str config.enableKey]
  return v.same (.bool true)

/-- The document that a node belongs to; a node outside of every document gets one of its own. -/
def homeOf (root : NodeId) : Run NodeId := do
  let f ← Run.forest
  if f.isRoot (f.topOf root) then return f.topOf root else Script.Element.newNode .root

/-- What the engine binds before the host does. -/
def ownBindings (root : NodeId) (metadata : Value) : Run (List (String × Value)) := do
  return [("document", .node root), ("metadata", metadata), ("html", .factory (← homeOf root))]

/-- The namespace in which the fragments of a document run. -/
def namespaceFor (root : NodeId) (metadata : Value) (options : RunOptions) : Run Ref := do
  Environment.create ((← ownBindings root metadata) ++ options.bindings)

def settings (evaluator : Evaluator) (m : Machine) (config : Config) (options : RunOptions)
    (space : Ref) : Settings where
  evaluator
  machine := m
  space
  source := Text.normaliseNewlines (options.source.getD "")
  markers := config.markers
  inputName := options.inputName
  debug := options.debug

/-- Runs every fragment below a node in a given namespace. -/
def perform (evaluator : Evaluator) (m : Machine) (config : Config) (root : NodeId)
    (options : RunOptions) (space : Ref) : Engine DocumentRun := do
  let s := settings evaluator m config options space
  let results ← Walk.children s ((← Engine.forest).size + 1000) root []
  let run : DocumentRun := { enabled := true, inputName := options.inputName, results }
  Engine.event "fragment_run" run.summary
  return run

/-- Tells the host that execution is not switched on. -/
def passOver (config : Config) (options : RunOptions) : Engine DocumentRun := do
  Engine.event "fragment_run_skipped"
    [("input", .str options.inputName), ("key", .str config.enableKey)]
  return { enabled := false, inputName := options.inputName }

/-- Runs every fragment below a node, if the metadata of the document switch execution on. -/
def process (evaluator : Evaluator) (m : Machine) (config : Config) (root : NodeId)
    (metadata : Value) (options : RunOptions) : Engine DocumentRun := do
  if !(← Engine.lift (enabledFor m config metadata)) then passOver config options
  else
    let space ← Engine.lift (namespaceFor root metadata options)
    perform evaluator m config root options space

/-- Runs every fragment below a node like `process`, with the source from the file of the input unless
the host gives it. A run that is switched off does not ask for its source. -/
def processInput (files : Files) (evaluator : Evaluator) (m : Machine) (config : Config)
    (root : NodeId) (metadata : Value) (options : RunOptions) : Engine DocumentRun := do
  if !(← Engine.lift (enabledFor m config metadata)) then passOver config options
  else
    let source ← Engine.lift (options.load files)
    let space ← Engine.lift (namespaceFor root metadata options)
    perform evaluator m config root { options with source := some source } space

end DocumentRun

end LiveMarkdown
