import LiveMarkdown.Script.FilePath
import LiveMarkdown.Script.Mathematics

/-!
Modules that programs import: those that were made importable for the run, and those for mathematics
and for paths of files.
-/

namespace LiveMarkdown.Script

namespace Import

def notFound {α : Type} (name message : String) : Run α := do
  Run.throwValue (← Run.new
    (.exception (.type "ModuleNotFoundError") [.str message] none none false #[("name", .str name)]))

def remember (name : String) (v : Value) : Run Value := do
  modify fun w => { w with modules := w.modules ++ [(name, v)] }
  return v

/-- A module with the given names. -/
def newModule (name : String) (entries : List (String × Value)) : Run Value := do
  let space ← Run.alloc (.dict (entries.map fun (k, v) => (Value.str k, v)).toArray)
  Run.new (.module name space)

/-- A module that was imported before or that is always there. -/
def known? (name : String) : Run (Option Value) := do
  match (← get).modules.find? fun p => p.1 == name with
  | some (_, v) => return some v
  | none =>
    match name with
    | "builtins" => return some (← remember name (← newModule name []))
    | "math" =>
      let entries := Mathematics.mathNames.map (fun n => (n, Value.native ("math." ++ n))) ++
        Mathematics.mathConstants.map fun (n, x) => (n, .float x)
      return some (← remember name (← newModule name entries))
    | "os" =>
      let path ← remember "os.path" (← newModule "posixpath" FilePath.entries)
      let entries := FilePath.constants ++
        [("name", .str "posix"), ("linesep", .str "\n"), ("path", path), ("F_OK", .int 0),
          ("R_OK", .int 4), ("W_OK", .int 2), ("X_OK", .int 1), ("SEEK_SET", .int 0),
          ("SEEK_CUR", .int 1), ("SEEK_END", .int 2), ("error", .type "OSError")]
      return some (← remember name (← newModule name entries))
    | "__future__" =>
      let feature : Object :=
        .opaqueThing "_Feature" (some "_Feature((3, 7, 0, 'beta', 1), None, 16777216)")
      let names := ["nested_scopes", "generators", "division", "absolute_import",
        "with_statement", "print_function", "unicode_literals", "barry_as_FLUFL",
        "generator_stop", "annotations"]
      let entries ← names.mapM fun n => do return (n, ← Run.new feature)
      return some (← remember name (← newModule name entries))
    | _ => return none

/-- The names of the modules around a module and its own, from the outermost on. -/
def steps (name : String) : List String :=
  let parts := name.splitOn "."
  (List.range parts.length).map fun i => ".".intercalate (parts.take (i + 1))

/-- The name of the module around a module. -/
def outer? (name : String) : Option String :=
  match (name.splitOn ".").dropLast with
  | [] => none
  | parts => some (".".intercalate parts)

/-- Makes what is there before a module is looked for: the modules of the operating system, and the
dictionary of the built-in names before their module. -/
def prepare (name : String) : Run Unit := do
  discard (known? "os")
  if name == "builtins" then discard Builtin.space

/-- The module of a name. A module inside of another one that is not known is not found: only packages
hold modules, and their names are those with a path. The fuel bounds the parts of the name. -/
def loadWith (m : Machine) : Nat → String → Run Value
  | 0, name => notFound name s!"No module named '{name}'"
  | fuel + 1, name => do
    prepare name
    match ← known? name with
    | some v => return v
    | none =>
      match outer? name with
      | none => notFound name s!"No module named '{name}'"
      | some o =>
        let around ← loadWith m fuel o
        match ← Iteration.catching "AttributeError" (m.attr around "__path__") with
        | some _ => notFound name s!"No module named '{name}'"
        | none => notFound name s!"No module named '{name}'; '{o}' is not a package"

/-- The module of a name. -/
def load (m : Machine) (name : String) : Run Value :=
  loadWith m ((name.splitOn ".").length + 1) name

def noPackage {α : Type} : Run α :=
  Run.raise "ImportError" "attempted relative import with no known parent package"

/-- The value that an import statement binds for a name in a module. -/
def member (m : Machine) (source : String) (v : Value) (name : String) : Run Value := do
  match ← Iteration.catching "AttributeError" (m.attr v name) with
  | some x => return x
  | none =>
    match ← known? (source ++ "." ++ name) with
    | some x => return x
    | none =>
      let shown ← match ← Run.deref v with
        | some (.module n _) => pure n
        | _ => pure source
      Run.raise "ImportError" s!"cannot import name '{name}' from '{shown}' (unknown location)"

/-- The dictionary of the names of a module. -/
def dictionaryOf (n : String) (own : Ref) : Run Ref :=
  if n = "builtins" then Builtin.space else return own

/-- The keys of the namespace of a module, in its order. Programs can give it keys that are no names. -/
def keysOf (v : Value) : Run (List Value) := do
  match ← Run.deref v with
  | some (.module n own) => return (← Space.entries (← dictionaryOf n own)).toList.map (·.1)
  | _ => return []

/-- Whether a name begins with an underscore. -/
def isPrivate (name : String) : Bool := name.toList.head? == some '_'

/-- Whether a key of a module begins with an underscore, as its own method says. -/
def startsLow (m : Machine) (k : Value) : Run Bool := do
  match k with
  | .str s => return isPrivate s
  | k => Iteration.truth m (← m.call (← m.attr k "startswith") [.str "_"])

/-- The keys of a module that do not begin with an underscore, in its order. -/
def publicNames (m : Machine) (v : Value) : Run (List Value) := do
  (← keysOf v).filterM fun k => return !(← startsLow m k)

/-- Copies the public names of a module that is loaded: those it lists, else those without an underscore.
The names before one that is missing are copied. -/
def copyFrom (m : Machine) (v space : Value) : Run Unit := do
  let listed ← Iteration.catching "AttributeError" (m.attr v "__all__")
  let names ← match listed with
    | none | some .none => publicNames m v
    | some names => Iteration.collect m names
  for n in names do
    match n with
    | .str s => Subscript.set m space n (← m.attr v s)
    | n => Run.typeError s!"attribute name must be string, not '{← Kind.name n}'"

/-- Copies the public names of a module. -/
def copyPublic (m : Machine) (name : String) (level space : Value) : Run Unit := do
  if ← Iteration.truth m level then noPackage
  if name == "" then Run.valueError "Empty module name"
  if name.toList.head? == some '.' then
    Run.typeError s!"the 'package' argument is required to perform a relative import for {Text.quoted name}"
  copyFrom m (← load m name) space

/-- Whether a list of names can be gone through by place. -/
def isIndexed (listed : Value) : Run Bool := do
  match ← Kind.basic listed with
  | .str _ | .tuple _ | .range .. => return true
  | b =>
    match ← Run.deref b with
    | some (.list _) | some (.deque ..) | some (.userList _) | some (.instance ..) => return true
    | some (.dict _) => Run.typeError s!"{← Kind.name listed} is not a sequence"
    | _ => return false

/-- The name of a module as messages give it. -/
def shownName (v : Value) : Run String := do
  match ← Run.deref v with
  | some (.module n _) => return n
  | _ => return ""

/-- The names that a star import binds by itself, with their values. -/
def starEntries (m : Machine) (v : Value) (put : String → Value → Run Unit) : Run Unit := do
  let shown ← shownName v
  match ← Iteration.catching "AttributeError" (m.attr v "__all__") with
  | none =>
    for k in ← keysOf v do
      match k with
      | .str s => if !isPrivate s then put s (← m.attr v s)
      | k => Run.typeError s!"Key in {shown}.__dict__ must be str, not {← Kind.name k}"
  | some listed =>
    if !(← isIndexed listed) then
      Run.typeError s!"'{← Kind.name listed}' object does not support indexing"
    for n in ← Iteration.collect m listed do
      match n with
      | .str s => put s (← m.attr v s)
      | n => Run.typeError s!"Item in {shown}.__all__ must be str, not {← Kind.name n}"

/-- The call of the function that copies public names. -/
def callCopy (m : Machine) (a : Args) : Run Value := do
  let name ← match a.at? 0 "module_name" with
    | some (.str s) => pure s
    | _ => pure ""
  copyPublic m name ((a.at? 1 "level").getD .none) ((a.at? 2 "namespace").getD .none)
  return .none

end Import

end LiveMarkdown.Script
