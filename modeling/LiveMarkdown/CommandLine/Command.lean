import LiveMarkdown.Console.Notice
import LiveMarkdown.Page
import LiveMarkdown.Text.Path
import LiveMarkdown.Text.Unicode

/-!
The arguments of the command. Options may stand before and after the file, long ones with their value
after an equals sign, short ones together in one word; two hyphens end the options.
-/

namespace LiveMarkdown.CommandLine

/-- What the command is asked to do with a file. -/
structure Request where
  input : Option String := none
  output : Option String := none
  enabled : List String := []
  disabled : List String := []
  enableKey : Option String := none
  markers : List String := []
  listExtensions : Bool := false
  verbosity : Nat := 0
  debug : Bool := false
  deriving BEq, Repr

inductive Switch where
  | output
  | enableExtension
  | disableExtension
  | enableKey
  | markerClass
  | listExtensions
  | verbose
  | debug
  | version
  | help
  deriving BEq, Repr, DecidableEq

namespace Switch

def takesValue : Switch → Bool
  | .output | .enableExtension | .disableExtension | .enableKey | .markerClass => true
  | _ => false

def longNames : List (String × Switch) :=
  [("--output", .output), ("--enable-extension", .enableExtension),
    ("--disable-extension", .disableExtension), ("--enable-key", .enableKey),
    ("--marker-class", .markerClass), ("--list-extensions", .listExtensions),
    ("--verbose", .verbose), ("--debug", .debug), ("--version", .version), ("--help", .help)]

def shortNames : List (Char × Switch) :=
  [('o', .output), ('x', .enableExtension), ('d', .disableExtension), ('v', .verbose)]

/-- What an option that takes no value asks for. -/
def apply (r : Request) : Switch → Request
  | .listExtensions => { r with listExtensions := true }
  | .verbose => { r with verbosity := r.verbosity + 1 }
  | .debug => { r with debug := true }
  | _ => r

/-- What an option asks for with its value. Of a single value the last one counts. -/
def applyValue (r : Request) (v : String) : Switch → Request
  | .output => { r with output := some v }
  | .enableExtension => { r with enabled := r.enabled ++ [v] }
  | .disableExtension => { r with disabled := r.disabled ++ [v] }
  | .enableKey => { r with enableKey := some v }
  | .markerClass => { r with markers := r.markers ++ [v] }
  | _ => r

end Switch

/-- The arguments as far as they are read. -/
structure Progress where
  request : Request := {}
  files : List String := []
  /-- The first of the options that do something else than run. -/
  instead : Option Switch := none

def Progress.note (p : Progress) (s : Switch) : Progress :=
  if s == .version || s == .help then { p with instead := p.instead.or (some s) }
  else { p with request := s.apply p.request }

/-- Reads short options in one word. The rest of the word, or the next argument, is the value of an
option that takes one. -/
def readShort (p : Progress) : List Char → List String → Option (Progress × List String)
  | [], args => some (p, args)
  | c :: cs, args =>
    match Switch.shortNames.lookup c with
    | none => none
    | some s =>
      if !s.takesValue then readShort (p.note s) cs args
      else
        match cs, args with
        | [], [] => none
        | [], v :: args => some ({ p with request := s.applyValue p.request v }, args)
        | cs, args => some ({ p with request := s.applyValue p.request (String.ofList cs) }, args)

/-- Reads an argument that begins with a hyphen. -/
def readOption (p : Progress) (arg : String) (args : List String) :
    Option (Progress × List String) :=
  let name := String.ofList (arg.toList.takeWhile (· != '='))
  let value := (arg.toList.drop name.length).drop 1
  let given := arg.contains '='
  match Switch.longNames.lookup name with
  | some s =>
    if s.takesValue then
      if given then some ({ p with request := s.applyValue p.request (String.ofList value) }, args)
      else
        match args with
        | v :: args => some ({ p with request := s.applyValue p.request v }, args)
        | [] => none
    else if given then none
    else some (p.note s, args)
  | none => if arg.startsWith "--" then none else readShort p (arg.toList.drop 1) args

/-- Reads arguments one after the other. The fuel bounds their number. -/
def readArguments : Nat → Progress → List String → Option Progress
  | 0, p, _ => some p
  | _, p, [] => some p
  | fuel + 1, p, a :: args =>
    if a == "--" then some { p with files := p.files ++ args }
    else if a.startsWith "-" && 1 < a.length then
      match readOption p a args with
      | some (p, args) => readArguments fuel p args
      | none => none
    else readArguments fuel { p with files := p.files ++ [a] } args

/-!
The command: it runs the fragments of a file and prints the markup, or writes it to another file.
Warnings and, if asked for, what was done are printed beside it. A failure that no fragment is to
blame for ends the command with a message.
-/

open Script (Machine Value Run World Stop)

/-- What a path leads to: nothing that can be read as a file, or a file with its full name. -/
inductive Entry where
  | noFile
  | file (name : String) (bytes : List UInt8)

/-- What the command did. -/
structure Report where
  exit : Int := 0
  output : String := ""
  messages : String := ""
  /-- The path as it was given and the text of the file that was written. -/
  written : Option (String × String) := none

inductive Outcome where
  /-- The arguments make no sense. -/
  | usage
  /-- The help is shown. -/
  | help (exit : Int)
  | done (r : Report)

/-- The release of this program. -/
def release : String := "0.1.0"

/-- The command while it runs. -/
structure State where
  world : World := {}
  report : Report := {}

abbrev Command := EStateM Stop State

namespace Command

/-- Runs a computation in the world of the command. -/
def lift {α : Type} (x : Run α) : Command α := fun s =>
  match x s.world with
  | .ok a w => .ok a { s with world := w }
  | .error e w => .error e { s with world := w }

/-- Prints beside the output. -/
def say (x : Run String) : Command Unit := do
  let line ← lift x
  modify fun s => { s with report := { s.report with messages := s.report.messages ++ line } }

def output (text : String) : Command Unit :=
  modify fun s => { s with report := { s.report with output := text } }

def write (path text : String) : Command Unit :=
  modify fun s => { s with report := { s.report with written := some (path, text) } }

def exit (code : Int) : Command Unit :=
  modify fun s => { s with report := { s.report with exit := code } }

/-- The warnings of a run, and its events if they are asked for. -/
def saySession (m : Machine) (c : Console.Settings) (session : Session) : Command Unit := do
  for (message, e) in session.warnings do
    say (Console.Screen.warning m c message e)
  for (name, payload) in session.events do
    say do
      let payload ← Run.newDict (payload.map fun (k, v) => (Value.str k, v))
      Console.Screen.event m c name payload

/-- Runs a page and says what it said, also if it ends with an exception. -/
def page (m : Machine) (c : Console.Settings) (x : Engine Page.Result) : Command Page.Result := do
  let s ← get
  match x { world := s.world } with
  | .ok a session =>
    set { s with world := session.world }
    saySession m c session
    return a
  | .error e session =>
    set { s with world := session.world }
    saySession m c session
    throw e

/-- The settings that a request changes, as they are given to the configuration. -/
def overrides (r : Request) : List (String × Value) :=
  (match r.enableKey with
    | some k => [("enable_key", Value.str k)]
    | none => []) ++
    if r.markers.isEmpty then [] else [("marker_classes", Value.tuple (r.markers.map Value.str))]

/-- Runs the fragments of a file. -/
def runFile (m : Machine) (c : Console.Settings) (r : Request) (config : Config) (name : String)
    (bytes : List UInt8) : Command Unit := do
  match Text.decodeBytes bytes with
  | .error fault =>
    say (Console.Screen.error m c (s!"Failed to read '{name}': " ++ fault.message) none)
    exit 1
  | .ok source =>
    let asked := (Prose.Extension.resolve r.enabled r.disabled).map Prose.Asked.name
    let options : RunOptions := { inputPath := some name, debug := r.debug }
    let result ← page m c
      (Page.run m config (Text.normaliseNewlines source) (some asked) options)
    match r.output with
    | none => output (result.html ++ "\n")
    | some path =>
      write path result.html
      if 1 ≤ c.verbosity then say (Console.Screen.info ("Wrote " ++ Text.cleanPath path))

/-- The exit code that a program asks for by ending itself, and what it has to say. -/
def exitOf (m : Machine) (e : Value) : Run (Int × String) := do
  let code ← match ← Run.deref e with
    | some (.exception _ [] _ _ _ _) => pure Value.none
    | some (.exception _ [v] _ _ _ _) => pure v
    | some (.exception _ vs _ _ _ _) => pure (Value.tuple vs)
    | _ => pure Value.none
  match ← Script.Kind.core code with
  | .none => return (0, "")
  | .int n => return (n, "")
  | .bool b => return (if b then 1 else 0, "")
  | v => return (1, (← m.text v) ++ "\n")

/-- How the command ends on an exception: the exit code, and what is printed. -/
def failed (m : Machine) (c : Console.Settings) (e : Value) : Run (Int × String) := do
  if ← Script.Kind.isA e "SystemExit" then exitOf m e
  else if ← Script.Kind.isA e "KeyboardInterrupt" then return (130, "")
  else
    let text ← m.text e
    let text ← if text == "" then Script.Kind.plainName e else pure text
    return (1, ← Console.Screen.error m c text (some e))

/-- The report of a command, and of what ended it. What fragments printed comes before its output. -/
def finish (m : Machine) (c : Console.Settings) (x : Command Unit) : Report :=
  let ended (r : Report) (w : World) (code : Int) (line : String) : Report :=
    { r with exit := code, messages := r.messages ++ line, output := w.printed ++ r.output }
  match x {} with
  | .ok _ s => ended s.report s.world s.report.exit ""
  | .error .exhausted s =>
    ended s.report s.world 1 "error: maximum recursion depth exceeded\n"
  | .error (.raised e) s =>
    match failed m c e s.world with
    | .ok (code, line) w => ended s.report w code line
    | .error _ w => ended s.report w 1 ""

end Command

/-- Carries out a request. -/
def perform (m : Machine) (r : Request) (look : String → Entry) : Outcome :=
  let listing : Outcome :=
    .done { output := String.join (Prose.Extension.defaults.map (· ++ "\n")) }
  match r.input with
  | none => if r.listExtensions then listing else .help 1
  | some path =>
    match look path with
    | .noFile => .usage
    | .file name bytes =>
      if r.listExtensions then listing
      else
        let c := Console.Settings.of r.verbosity r.debug
        match Config.read m (Command.overrides r) {} with
        | .ok (.ok config) _ => .done (Command.finish m c (Command.runFile m c r config name bytes))
        | _ => .usage

/-- Carries out the command with its arguments. -/
def carryOut (m : Machine) (args : List String) (look : String → Entry) : Outcome :=
  match readArguments (args.length + 1) {} args with
  | none => .usage
  | some p =>
    match p.instead with
    | some .version => .done { output := release ++ "\n" }
    | some _ => .help 0
    | none =>
      match p.files with
      | _ :: _ :: _ => .usage
      | files => perform m { p.request with input := files.head? } look

/-! ### Transcripts -/

/-- A directory for a command to run in. -/
def scratchDirectory : String := "/tmp/tmp00000000/"

/-- An entry of a directory, with its full name. -/
def Entry.within (directory : String) : Entry → Entry
  | .noFile => .noFile
  | .file name bytes => .file (directory ++ name) bytes

/-- What a command did, told without the directory that it ran in. -/
def Outcome.transcribed (directory : String) : Outcome → Outcome
  | .done r =>
    .done { r with messages := Console.transcribed (Text.replaceAll directory "" r.messages) }
  | x => x

/-- A transcript of the command, for which the names of files are looked up in a scratch directory. -/
def run (m : Machine) (args : List String) (look : String → Entry) : Outcome :=
  (carryOut m args fun path => (look path).within scratchDirectory).transcribed scratchDirectory

end LiveMarkdown.CommandLine
