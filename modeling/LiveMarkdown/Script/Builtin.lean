import LiveMarkdown.Script.Kind

/-!
The built-in names. They have values without a namespace; once code asks for the dictionary that they
are in, that dictionary decides.
-/

namespace LiveMarkdown.Script

namespace Builtin

/-- The name under which a namespace has the built-in names. -/
def placeName : String := "__builtins__"

/-- What the built-in names say of themselves. -/
def summary : String :=
  "Built-in functions, exceptions, and other objects.\n\n" ++
    "Noteworthy: None is the \x60nil' object; Ellipsis represents \x60...' in slices."

def functions : List String :=
  ["__build_class__", "__import__", "abs", "all", "any", "ascii", "bin", "breakpoint", "callable",
    "chr", "compile", "delattr", "dir", "divmod", "eval", "exec", "format", "getattr", "globals",
    "hasattr", "hash", "hex", "id", "input", "isinstance", "issubclass", "iter", "aiter", "len",
    "locals", "max", "min", "next", "anext", "oct", "ord", "pow", "print", "repr", "round",
    "setattr", "sorted", "sum", "vars"]

/-- Built-in classes other than exceptions. -/
def types : List String :=
  ["bool", "memoryview", "bytearray", "bytes", "classmethod", "complex", "dict", "enumerate",
    "filter", "float", "frozenset", "property", "int", "list", "map", "object", "range", "reversed",
    "set", "slice", "staticmethod", "str", "super", "tuple", "type", "zip"]

def exceptions : List String :=
  ["BaseException", "BaseExceptionGroup", "Exception", "GeneratorExit", "KeyboardInterrupt",
    "SystemExit", "ArithmeticError", "AssertionError", "AttributeError", "BufferError", "EOFError",
    "ImportError", "LookupError", "MemoryError", "NameError", "OSError", "ReferenceError",
    "RuntimeError", "StopAsyncIteration", "StopIteration", "SyntaxError", "SystemError",
    "TypeError", "ValueError", "Warning", "FloatingPointError", "OverflowError",
    "ZeroDivisionError", "BytesWarning", "DeprecationWarning", "EncodingWarning", "FutureWarning",
    "ImportWarning", "PendingDeprecationWarning", "ResourceWarning", "RuntimeWarning",
    "SyntaxWarning", "UnicodeWarning", "UserWarning", "BlockingIOError", "ChildProcessError",
    "ConnectionError", "FileExistsError", "FileNotFoundError", "InterruptedError",
    "IsADirectoryError", "NotADirectoryError", "PermissionError", "ProcessLookupError",
    "TimeoutError", "IndentationError", "IndexError", "KeyError", "ModuleNotFoundError",
    "NotImplementedError", "RecursionError", "UnboundLocalError", "UnicodeError",
    "BrokenPipeError", "ConnectionAbortedError", "ConnectionRefusedError", "ConnectionResetError",
    "TabError", "UnicodeDecodeError", "UnicodeEncodeError", "UnicodeTranslateError",
    "ExceptionGroup"]

def constants : List (String × Value) :=
  [("None", .none), ("Ellipsis", .ellipsis), ("NotImplemented", .notImplemented),
    ("False", .bool false), ("True", .bool true)]

/-- What the built-in names know of their module. -/
def own : List (String × Value) :=
  [("__name__", .str "builtins"), ("__doc__", .str summary), ("__package__", .str ""),
    ("__loader__", .type "BuiltinImporter"), ("__spec__", .native "__spec__")]

/-- Names for sessions with a reader. -/
def ofSession : List (String × Value) :=
  ["open", "quit", "exit", "copyright", "credits", "license", "help"].map fun n => (n, .native n)

/-- All built-in names with their values, in their order. -/
def entries : List (String × Value) :=
  own ++ functions.map (fun n => (n, .native n)) ++ constants ++ types.map (fun n => (n, .type n)) ++
    [("__debug__", .bool true)] ++ exceptions.map (fun n => (n, .type n)) ++
    [("EnvironmentError", .type "OSError"), ("IOError", .type "OSError")] ++ ofSession

/-- The value of a built-in name. -/
def value? (name : String) : Option Value :=
  if types.contains name || exceptions.contains name then some (.type name)
  else if functions.contains name then some (.native name)
  else match constants.find? fun p => p.1 == name with
    | some (_, v) => some v
    | none =>
      match name with
      | "EnvironmentError" | "IOError" => some (.type "OSError")
      | "__debug__" => some (.bool true)
      | name => ((own ++ ofSession).find? fun p => p.1 == name).map (·.2)

/-- The dictionary of the built-in names. -/
def space : Run Ref := do
  match (← get).builtins with
  | some r => return r
  | none =>
    let r ← Run.alloc (.dict (entries.map fun (n, v) => (Value.str n, v)).toArray)
    modify fun w => { w with builtins := some r }
    return r

/-- The value that a built-in name has now. -/
def find? (name : String) : Run (Option Value) := do
  match (← get).builtins with
  | some r => Space.get? r name
  | none => return value? name

end Builtin

end LiveMarkdown.Script
