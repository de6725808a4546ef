import LiveMarkdown.Script.Hierarchy
import LiveMarkdown.Script.World

/-!
The class of a value, and the classes that a class inherits from.
-/

namespace LiveMarkdown.Script

/-- The class of a text node. -/
def textClass : Document.TextKind → String
  | .plain => "NavigableString"
  | .comment => "Comment"
  | .cdata => "CData"
  | .instruction => "ProcessingInstruction"
  | .declaration => "Declaration"
  | .doctype => "Doctype"
  | .stylesheet => "Stylesheet"
  | .script => "Script"
  | .template => "TemplateString"
  | .rubyText => "RubyTextString"
  | .rubyParenthesis => "RubyParenthesisString"

def Iterator.kind : Iterator → String
  | .list .. => "list_iterator"
  | .listBackwards .. => "list_reverseiterator"
  | .items k _ => k
  | .range long .. => if long then "longrange_iterator" else "range_iterator"
  | .dict k .. => k
  | .set .. => "set_iterator"
  | .deque backwards .. => if backwards then "_deque_reverse_iterator" else "_deque_iterator"
  | .indexedBackwards .. => "reversed"
  | .children .. => "list_iterator"
  | .indexed .. => "iterator"
  | .enumerate .. => "enumerate"
  | .zip .. => "zip"
  | .map .. => "map"
  | .filter .. => "filter"
  | .untilEqual .. => "callable_iterator"
  | .done k => k

/-- Built-in functions that are written in the language itself. -/
def isPlainNative (name : String) : Bool := name == "import_star" || name.startsWith "posixpath."

namespace Kind

/-- The class of an object. -/
def ofObject : Object → Value
  | .list _ => .type "list"
  | .dict _ => .type "dict"
  | .set frozen _ => .type (if frozen then "frozenset" else "set")
  | .byteArray _ => .type "bytearray"
  | .memory _ => .type "memoryview"
  | .deque .. => .type "deque"
  | .userList _ => .type "UserList"
  | .userText _ => .type "UserString"
  | .scope .. => .type "cell"
  | .function _ => .type "function"
  | .cls c => c.kind
  | .instance c _ _ => c
  | .exception c .. => c
  | .module .. => .type "module"
  | .boundMethod .. => .type "method"
  | .property .. => .type "property"
  | .classMethod _ => .type "classmethod"
  | .staticMethod _ => .type "staticmethod"
  | .iterator i => .type i.kind
  | .generator g => .type (match g.kind with
      | .coroutine => "coroutine"
      | .asyncGenerator => "async_generator"
      | _ => "generator")
  | .pull p => .type p.kind
  | .view kind _ => .type kind
  | .proxy _ => .type "mappingproxy"
  | .cell .. => .type "cell"
  | .slot kind .. => .type kind
  | .alias .. => .type "GenericAlias"
  | .union _ => .type "UnionType"
  | .code _ => .type "code"
  | .super .. => .type "super"
  | .opaqueThing name _ => .type name

/-- The class of a built-in name that is no function, or of a function. -/
def nativeClass (name : String) : String :=
  if isPlainNative name then "function"
  else match name with
    | "quit" | "exit" => "Quitter"
    | "copyright" | "credits" | "license" => "_Printer"
    | "help" => "_Helper"
    | "__spec__" => "ModuleSpec"
    | _ => "builtin_function_or_method"

/-- The class of a value. -/
def of : Value → Run Value
  | .none => return .type "NoneType"
  | .ellipsis => return .type "ellipsis"
  | .notImplemented => return .type "NotImplementedType"
  | .bool _ => return .type "bool"
  | .int _ => return .type "int"
  | .float _ => return .type "float"
  | .complex .. => return .type "complex"
  | .fraction .. => return .type "Fraction"
  | .decimal _ => return .type "Decimal"
  | .str _ => return .type "str"
  | .bytes _ => return .type "bytes"
  | .tuple _ => return .type "tuple"
  | .range .. => return .type "range"
  | .slice .. => return .type "slice"
  | .date .. => return .type "date"
  | .moment _ => return .type "datetime"
  | .node n => do
    match (← Run.forest).content? n with
    | some .root => return .type "BeautifulSoup"
    | some (.text kind _) => return .type (textClass kind)
    | _ => return .type "Tag"
  | .factory _ => return .type "ElementFactory"
  | .type _ => return .type "type"
  | .native n => return .type (nativeClass n)
  | .method (.type t) name => return .type (Hierarchy.kindInClass t name)
  | .method self name => do
    match self with
    | .node _ | .factory _ => return .type "method"
    | self =>
      match ← of self with
      | .type t => return .type (Hierarchy.kindInInstance t name)
      | _ => return .type (Hierarchy.kindInInstance "object" name)
  | .ref r => do
    match ← Run.object? r with
    | some o => return ofObject o
    | none => return .type "object"

/-- The name of a class. -/
def nameOf (cls : Value) : Run String := do
  match cls with
  | .type n => return n
  | .ref r =>
    match ← Run.object? r with
    | some (.cls c) => return c.name
    | _ => return "object"
  | _ => return "object"

/-- The name of a built-in class of a module with the module, as messages give it. Classes that are
written in the language itself are known by their name alone. -/
def dotted (name : String) : String :=
  match name with
  | "deque" | "OrderedDict" | "defaultdict" => "collections." ++ name
  | "_deque_iterator" | "_deque_reverse_iterator" => "_collections." ++ name
  | "date" | "datetime" | "timedelta" | "timezone" => "datetime." ++ name
  | "Decimal" | "DecimalTuple" => "decimal." ++ name
  | "GenericAlias" | "UnionType" => "types." ++ name
  | _ => name

/-- The name of the class of a value by itself. -/
def plainName (v : Value) : Run String := do nameOf (← of v)

/-- The name of a class as messages give it. -/
def shownName (cls : Value) : Run String := do return dotted (← nameOf cls)

/-- The name of the class of a value as messages give it. -/
def name (v : Value) : Run String := do shownName (← of v)

/-- A refused argument as messages name it: `None` stands for itself, and any other value for its
class. -/
def given (v : Value) : Run String := do
  match v with
  | .none => return "None"
  | v => name v

/-- A class and the classes that it inherits from, in the order of look-up. -/
def order (cls : Value) : Run (List Value) := do
  match cls with
  | .type n => return (builtinOrder n).map .type
  | .ref r =>
    match ← Run.object? r with
    | some (.cls c) => return c.order
    | _ => return []
  | _ => return []

/-- Whether two values are the same class. -/
def sameClass : Value → Value → Bool
  | .type a, .type b => a == b
  | .ref a, .ref b => a == b
  | _, _ => false

/-- Whether a class is another class or inherits from it. -/
def inherits (cls base : Value) : Run Bool := do
  return (← order cls).any (sameClass base)

/-- Whether a value is an instance of a built-in class. -/
def isA (v : Value) (base : String) : Run Bool := do inherits (← of v) (.type base)

/-- The names that the instances of a class can store, if its classes list them all. -/
def slots? (cls : Value) : Run (Option (List String)) := do
  let lists ← (← order cls).mapM fun c => do
    match c with
    | .type t => return if (builtinOrder t).contains "BaseException" then none else some []
    | c =>
      match ← Run.deref c with
      | some (.cls d) => return d.slots
      | _ => return none
  if lists.all Option.isSome then
    let names := (lists.filterMap id).flatten
    return if names.contains "__dict__" then none else some names
  return none

/-- What a class of the program, or one above it, defines under a name. -/
def attr? (cls : Value) (name : String) : Run (Option Value) := do
  for c in ← order cls do
    match ← Run.deref c with
    | some (.cls d) =>
      match ← Space.get? d.space name with
      | some v => return some v
      | none => pure ()
    | _ => pure ()
  return none

/-- A method that a class of the program defines for the instance. -/
def special? (v : Value) (name : String) : Run (Option Value) := do
  match v with
  | .ref _ =>
    let cls ← of v
    match cls with
    | .ref _ =>
      match ← attr? cls name with
      | some f =>
        match f with
        | .method (.type t) n => if Hierarchy.bindsToInstance t n then return some (.method v n)
        | _ => pure ()
        match ← Run.deref f with
        | some (.function _) => return some (← Run.new (.boundMethod f v))
        | some (.staticMethod g) => return some g
        | some (.classMethod g) => return some (← Run.new (.boundMethod g cls))
        | _ => return some f
      | none => return none
    | _ => return none
  | _ => return none

/-- Whether a value can be called. -/
def isCallable (v : Value) : Run Bool := do
  match v with
  | .type _ | .native _ | .method .. => return true
  | .node n => return (← Run.forest).isTag n || (← Run.forest).isRoot n
  | v =>
    match ← Run.deref v with
    | some (.function _) | some (.cls _) | some (.boundMethod ..) | some (.staticMethod _)
    | some (.alias ..) => return true
    | some (.instance c ..) => return (← attr? c "__call__").isSome
    | _ => return false

/-- Exceptions whose instances hold more than those of the class above them. -/
def largerExceptions : List String :=
  ["BaseException", "SystemExit", "ImportError", "OSError", "SyntaxError", "UnicodeDecodeError",
    "UnicodeEncodeError", "UnicodeTranslateError", "StopIteration", "NameError", "AttributeError",
    "BaseExceptionGroup"]

/-- Built-in classes whose instances hold what those of all classes hold, and no more. -/
def openClasses : List String :=
  ["object", "PageElement", "Tag", "BeautifulSoup", "UserList", "UserString", "ElementFactory"]

/-- The class that decides what the instances of a class hold. -/
def solidClass (cls : Value) : Run Value := do
  for c in ← order cls do
    match c with
    | .type t =>
      if openClasses.contains t then return .type "object"
      if !isExceptionName t || largerExceptions.contains t then return c
    | c =>
      match ← Run.deref c with
      | some (.cls d) =>
        if (d.slots.getD []).any fun n => n != "__dict__" && n != "__weakref__" then return c
      | _ => pure ()
  return .type "object"

/-- The class among several that decides what the instances of a class with these bases hold. -/
def solidBase (bases : List Value) : Run Value := do
  let start : Option (Value × Value) := none
  let best ← bases.foldlM (fun (best : Option (Value × Value)) b => do
    let s ← solidClass b
    match best with
    | none => return some (b, s)
    | some (base, winner) =>
      if ← inherits winner s then return some (base, winner)
      if ← inherits s winner then return some (b, s)
      Run.typeError "multiple bases have instance lay-out conflict") start
  return (best.map (·.1)).getD (.type "object")

/-- The value of an instance of a built-in class that a class of the program inherits from. -/
def core (v : Value) : Run Value := do
  match ← Run.deref v with
  | some (.instance _ _ (some c)) => return c
  | _ => return v

/-- A value as an instance of a built-in class that its operations know: the text of a text node, the
value that an instance of a class of the program has as such, else the value itself. -/
def basic (v : Value) : Run Value := do
  match v with
  | .node n =>
    match (← Run.forest).content? n with
    | some (.text _ s) => return .str s
    | _ => return v
  | v => core v

end Kind

/-- Whether two values are one and the same. Values that cannot change are the same if they look the
same. -/
def Value.same : Value → Value → Bool
  | .none, .none | .ellipsis, .ellipsis | .notImplemented, .notImplemented => true
  | .bool a, .bool b => a == b
  | .int a, .int b => a == b
  | .float a, .float b => a.toBits == b.toBits
  | .complex a b, .complex c d => a.toBits == c.toBits && b.toBits == d.toBits
  | .fraction a b, .fraction c d => a == c && b == d
  | .decimal a, .decimal b => a == b
  | .str a, .str b => a == b
  | .bytes a, .bytes b => a == b
  | .tuple as, .tuple bs => sameAll as bs
  | .range a b c, .range d e f => a == d && b == e && c == f
  | .date a b c, .date d e f => a == d && b == e && c == f
  | .moment a, .moment b => a == b
  | .node a, .node b => a == b
  | .factory a, .factory b => a == b
  | .type a, .type b => a == b
  | .native a, .native b => a == b
  | .method a m, .method b n => a.same b && m == n
  | .ref a, .ref b => a == b
  | _, _ => false
where
  sameAll : List Value → List Value → Bool
    | [], [] => true
    | a :: as, b :: bs => a.same b && sameAll as bs
    | _, _ => false

end LiveMarkdown.Script
