import LiveMarkdown.Script.Method.Sequence
import LiveMarkdown.Script.Raised
import LiveMarkdown.Script.Variable

/-!
The parts of built-in values that are no methods: what they are, and what a class has in their place.
-/

namespace LiveMarkdown.Script

namespace Part

/-- The parts that are kept in the objects themselves, by class. All others are computed. -/
def keptParts : List (String × List String) :=
  [("type", ["__base__", "__mro__", "__basicsize__", "__itemsize__", "__flags__", "__dictoffset__",
      "__weakrefoffset__"]),
    ("complex", ["real", "imag"]), ("range", ["start", "stop", "step"]),
    ("slice", ["start", "stop", "step"]), ("property", ["fget", "fset", "fdel", "__doc__"]),
    ("classmethod", ["__func__", "__wrapped__"]), ("staticmethod", ["__func__", "__wrapped__"]),
    ("super", ["__thisclass__", "__self__", "__self_class__"]),
    ("function", ["__closure__", "__doc__", "__globals__", "__module__", "__builtins__"]),
    ("builtin_function_or_method", ["__module__"]), ("method", ["__func__", "__self__"]),
    ("generator", ["gi_code"]), ("coroutine", ["cr_code", "cr_origin"]),
    ("async_generator", ["ag_running", "ag_code"]),
    ("code", ["co_argcount", "co_posonlyargcount", "co_kwonlyargcount", "co_stacksize", "co_flags",
      "co_nlocals", "co_consts", "co_names", "co_filename", "co_name", "co_qualname",
      "co_firstlineno", "co_linetable", "co_exceptiontable"]),
    ("module", ["__dict__"]), ("GenericAlias", ["__origin__", "__args__", "__unpacked__"]),
    ("UnionType", ["__args__"]), ("AttributeError", ["name", "obj"]),
    ("BaseException", ["__suppress_context__"]), ("BaseExceptionGroup", ["message", "exceptions"]),
    ("OSError", ["errno", "strerror", "filename", "filename2"]),
    ("ImportError", ["msg", "name", "path"]), ("NameError", ["name"]), ("StopIteration", ["value"]),
    ("SyntaxError", ["msg", "filename", "lineno", "offset", "text", "end_lineno", "end_offset",
      "print_file_and_line"]),
    ("SystemExit", ["code"]), ("UnicodeDecodeError", ["encoding", "object", "start", "end", "reason"]),
    ("UnicodeEncodeError", ["encoding", "object", "start", "end", "reason"]),
    ("UnicodeTranslateError", ["encoding", "object", "start", "end", "reason"])]

/-- The kept parts that programs can replace. -/
def replaceable : List String :=
  ["__suppress_context__", "name", "obj", "path", "msg", "errno", "strerror", "filename", "filename2",
    "value", "code", "lineno", "offset", "text", "end_lineno", "end_offset", "print_file_and_line",
    "encoding", "object", "start", "end", "reason"]

/-- The class of what a built-in class has in the place of a part. -/
def kindOf (cls name : String) : String :=
  if Hierarchy.isWritten cls then "property"
  else match keptParts.find? fun p => p.1 == cls with
    | some (_, names) => if names.contains name then "member_descriptor" else "getset_descriptor"
    | none => "getset_descriptor"

/-- The first class of a built-in class and those above it that has a part of its own. -/
def ownerOf? (cls name : String) : Option String :=
  (builtinOrder cls).find? fun c => (Member.parts c).contains name

/-- Numbers as values by name. -/
def whole (n : Nat) : Option Value := some (.int n)

/-- Properties of numbers and other values of fixed content. -/
def plain? (v : Value) (name : String) : Option Value :=
  match v, name with
  | .bool b, "real" | .bool b, "numerator" => some (.int (if b then 1 else 0))
  | .bool _, "imag" => some (.int 0)
  | .bool _, "denominator" => some (.int 1)
  | .int n, "real" | .int n, "numerator" => some (.int n)
  | .int _, "imag" => some (.int 0)
  | .int _, "denominator" => some (.int 1)
  | .float x, "real" => some (.float x)
  | .float _, "imag" => some (.float 0)
  | .complex a _, "real" => some (.float a)
  | .complex _ b, "imag" => some (.float b)
  | .fraction n _, "numerator" | .fraction n _, "_numerator" => some (.int n)
  | .fraction _ d, "denominator" | .fraction _ d, "_denominator" => some (.int d)
  | .fraction n d, "real" => some (.fraction n d)
  | .fraction .., "imag" => some (.int 0)
  | .decimal d, "real" => some (.decimal d)
  | .decimal _, "imag" => some (.decimal (.finite false 0 0))
  | .range a _ _, "start" => some (.int a)
  | .range _ b _, "stop" => some (.int b)
  | .range _ _ c, "step" => some (.int c)
  | .slice a _ _, "start" => some a
  | .slice _ b _, "stop" => some b
  | .slice _ _ c, "step" => some c
  | .date y _ _, "year" => whole y
  | .date _ m _, "month" => whole m
  | .date _ _ d, "day" => whole d
  | .moment t, "year" => whole t.year
  | .moment t, "month" => whole t.month
  | .moment t, "day" => whole t.day
  | .moment t, "hour" => whole t.hour
  | .moment t, "minute" => whole t.minute
  | .moment t, "second" => whole t.second
  | .moment t, "microsecond" => whole t.microsecond
  | .moment _, "fold" => whole 0
  | _, _ => none

/-- The name of a function of a module by itself. -/
def ownName (name : String) : String := ((name.splitOn ".").getLast?).getD name

/-- The module of a built-in function. -/
def moduleOf (name : String) : String :=
  match name.splitOn "." with
  | ["math", _] => "math"
  | ["posixpath", _] => "posixpath"
  | _ => "builtins"

/-- Parts of functions and methods that are built in. -/
def ofCallable? (v : Value) (name : String) : Run (Option Value) := do
  match v, name with
  | .native n, "__name__" | .native n, "__qualname__" => return some (.str (ownName n))
  | .native n, "__module__" => return some (.str (moduleOf n))
  | .native n, "__self__" =>
    if (moduleOf n) == "builtins" && n != "import_star" then
      return ((← get).modules.find? fun p => p.1 == "builtins").map (·.2)
    return none
  | .native _, "__doc__" | .native _, "__text_signature__" => return some .none
  | .method _ n, "__name__" => return some (.str n)
  | .method s n, "__qualname__" =>
    let cls ← match s with
      | .type t => pure t
      | s => Kind.plainName s
    return some (.str (Hierarchy.methodOwner cls n ++ "." ++ n))
  | .method (.type t) n, "__objclass__" => return some (.type (Hierarchy.methodOwner t n))
  | .method s n, "__self__" =>
    match s with
    | .type _ => return if Hierarchy.ofClassAlone.contains n then some s else none
    | s => return some s
  | .method .., "__module__" | .method .., "__doc__" | .method .., "__text_signature__" =>
    return some .none
  | _, _ => return none

/-- Parts of objects of built-in classes. -/
def ofObject? (o : Object) (name : String) : Run (Option Value) := do
  match o, name with
  | .memory view, name => MemoryMethod.part? view name
  | .deque _ limit _, "maxlen" =>
    return some (match limit with
      | some n => .int n
      | none => .none)
  | .userList items, "data" => return some (← Run.newList items.toList)
  | .userText s, "data" => return some (.str s)
  | .userList _, "__dict__" | .userText _, "__dict__" =>
    let data ← match o with
      | .userText s => pure (Value.str s)
      | .userList items => Run.newList items.toList
      | _ => pure .none
    return some (← Run.newDict [(.str "data", data)])
  | .view _ source, "mapping" => return some (← Run.new (.proxy source))
  | .property g .., "fget" => return some g
  | .property _ s .., "fset" => return some s
  | .property _ _ d _, "fdel" => return some d
  | .property .., "__isabstractmethod__" => return some (.bool false)
  | .property g _ _ doc, "__doc__" =>
    match doc, ← Run.deref g with
    | .none, some (.function f) => return some (((f.attrs.find? fun p => p.1 == ".__doc__").map (·.2)).getD .none)
    | doc, _ => return some doc
  | .classMethod f, "__func__" | .classMethod f, "__wrapped__" | .staticMethod f, "__func__"
  | .staticMethod f, "__wrapped__" => return some f
  | .super cls _, "__thisclass__" => return some cls
  | .super _ self, "__self__" => return some self
  | .super _ self, "__self_class__" =>
    match ← Run.deref self with
    | some (.cls _) => return some self
    | _ => return some (← Kind.of self)
  | .cell scope n, "cell_contents" =>
    match ← Run.object? scope with
    | some (.scope _ vars _) =>
      match vars.find? fun p => p.1 == n with
      | some (_, x) => return some x
      | none => Run.valueError "Cell is empty"
    | _ => Run.valueError "Cell is empty"
  | .slot _ owner _, "__objclass__" => return some owner
  | .slot _ _ n, "__name__" => return some (.str n)
  | .slot _ owner n, "__qualname__" => return some (.str ((← Kind.nameOf owner) ++ "." ++ n))
  | .slot .., "__doc__" => return some .none
  | .alias origin .., "__origin__" => return some origin
  | .alias _ args _, "__args__" | .union args, "__args__" => return some (.tuple args)
  | .alias .., "__parameters__" | .union _, "__parameters__" => return some (.tuple [])
  | .alias _ _ unpacked, "__unpacked__" => return some (.bool unpacked)
  | .code c, name => return (c.parts.find? fun p => p.1 == name).map (·.2)
  | .generator g, name =>
    let running := name.endsWith "_running"
    if running then return some (.bool g.running)
    if name.endsWith "_suspended" then
      return some (.bool (g.started && !g.running && !g.finished))
    match name with
    | "__name__" => return some (.str (ownName g.name))
    | "__qualname__" => return some (.str g.name)
    | "gi_frame" | "cr_frame" | "ag_frame" =>
      if g.finished then return some .none
      return some (← Run.new (.opaqueThing "frame" (some "<frame object>")))
    | "gi_yieldfrom" | "cr_await" | "ag_await" =>
      match g.tasks with
      | .delegate it _ :: _ => return some it
      | _ => return some .none
    | _ => return none
  | _, _ => return none

/-! ### Code -/

/-- The names that a node uses and that do not belong to blocks below it. -/
def usedNames (n : Node) : List String :=
  let below := n.children.attach.flatMap fun ⟨c, _⟩ => usedNames c
  match n with
  | .expr (.name _ id _) => [id]
  | .expr (.lambda _ ps _) => below.filter fun x => !(Scope.paramNames ps).contains x
  | .stmt (.function _ _ _ ps body _ _) =>
    let names := Scope.functionNames ps body
    (below ++ names.outer).filter fun x => !names.locals.contains x && !names.globals.contains x
  | .expr (.listComp _ _ cs) | .expr (.setComp _ _ cs) | .expr (.generator _ _ cs)
  | .expr (.dictComp _ _ _ cs) =>
    let own := cs.flatMap fun | .mk t _ _ _ => Scope.targetNames t
    below.filter fun x => !own.contains x
  | _ => below
termination_by sizeOf n
decreasing_by exact Node.sizeOf_lt_of_mem_children ‹_›

/-- Whether a node opens a block that is a function of its own. -/
def opensFunction : Node → Bool
  | .stmt (.function ..) | .expr (.lambda ..) => true
  | .expr e => Node.isComprehension e
  | _ => false

/-- The names that the functions below a node use. -/
def usedInside (n : Node) : List String :=
  if opensFunction n then usedNames n
  else n.children.attach.flatMap fun ⟨c, _⟩ => usedInside c
termination_by sizeOf n
decreasing_by exact Node.sizeOf_lt_of_mem_children ‹_›

def ordered (names : List String) : List String :=
  (names.mergeSort fun a b => a < b || a == b).eraseReps

/-- The names of a function that belong to functions around it. -/
def freeNames (f : Function) : Run (List String) := do
  let used := ordered ((Node.stmts f.body).flatMap usedNames ++ f.names.outer)
  let mine := used.filter fun n => !f.names.locals.contains n && !f.names.globals.contains n
  let found ← mine.filterM fun n => do
    match ← Variable.findOuter n Variable.nestingLimit f.scope with
    | .variable _ => return true
    | _ => return false
  let own := f.owner.isSome && (Node.stmts f.body).any Node.namesOwnClass
  return ordered (if own then "__class__" :: found else found)

/-- The places of the variables that a function has from functions around it. -/
def closure (f : Function) : Run Value := do
  let names ← freeNames f
  if names.isEmpty then return .none
  let cells ← names.mapM fun n => do
    match ← Variable.findOuter n Variable.nestingLimit f.scope with
    | .variable r => Run.new (.cell r n)
    | _ =>
      let scope ← Run.alloc (.scope { locals := [n], globals := [], outer := [] } #[(n, f.owner.getD .none)] none)
      Run.new (.cell scope n)
  return .tuple cells

/-- The flags that all code has: annotations are kept as texts. -/
def inheritedFlags : Nat := 0x1000000

/-- What is known of the code of a function. -/
def code (f : Function) : Run Value := do
  let (positionOnly, plain, rest, nameOnly, restNames) := match f.params with
    | .mk po ps r ns _ rs _ => (po, ps, r, ns, rs)
  let named := (positionOnly ++ plain ++ nameOnly ++ rest.toList ++ restNames.toList).map
    fun | .mk _ n _ => n
  let inside := (Node.stmts f.body).flatMap usedInside
  let others := f.names.locals.filter fun n => !named.contains n
  let names := named ++ others.filter fun n => !inside.contains n
  let free ← freeNames f
  let texts (ns : List String) : Value := .tuple (ns.map .str)
  let kind : Nat := match f.kind with
    | .plain => 3
    | .generator => 35
    | .coroutine => 131
    | .asyncGenerator => 515
  let flags := inheritedFlags + kind + (if rest.isSome then 4 else 0) + (if restNames.isSome then 8 else 0) +
    (if free.isEmpty then 0 else 16)
  let parts : List (String × Value) :=
    [("co_name", .str f.name), ("co_qualname", .str f.qualifiedName),
      ("co_argcount", .int (positionOnly.length + plain.length)),
      ("co_posonlyargcount", .int positionOnly.length),
      ("co_kwonlyargcount", .int nameOnly.length),
      ("co_nlocals", .int names.length), ("co_varnames", texts names),
      ("co_cellvars", texts (ordered (f.names.locals.filter inside.contains))),
      ("co_freevars", texts free), ("co_filename", .str "<string>"), ("co_flags", .int flags),
      ("co_firstlineno", .int ((f.body.head?.map fun s => s.loc.line).getD 1))]
  Run.new (.code ⟨f.name, parts, .body f⟩)

end Part

end LiveMarkdown.Script
