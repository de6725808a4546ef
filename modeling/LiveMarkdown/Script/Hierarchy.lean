import LiveMarkdown.Script.Member

/-!
The built-in classes: which class inherits from which, and what kinds of things their members are.
-/

namespace LiveMarkdown.Script

/-- Built-in classes by the class that they inherit from, other than `object`. -/
def parentTable : List (String × List String) :=
  [("int", ["bool"]),
    ("BaseException", ["SystemExit", "KeyboardInterrupt", "GeneratorExit", "Exception",
      "BaseExceptionGroup"]),
    ("Exception", ["ArithmeticError", "AssertionError", "AttributeError", "BufferError", "EOFError",
      "ImportError", "LookupError", "MemoryError", "NameError", "OSError", "ReferenceError",
      "RuntimeError", "StopAsyncIteration", "StopIteration", "SyntaxError", "SystemError",
      "TypeError", "ValueError", "Warning", "ExceptionGroup", "ParserRejectedMarkup",
      "MarkdownConversionError", "CompileError", "YAMLError", "SelectorSyntaxError"]),
    ("ArithmeticError", ["FloatingPointError", "OverflowError", "ZeroDivisionError",
      "DecimalException"]),
    ("DecimalException", ["Clamped", "InvalidOperation", "Inexact", "Rounded", "Subnormal"]),
    ("InvalidOperation", ["ConversionSyntax", "DivisionImpossible", "DivisionUndefined",
      "InvalidContext"]),
    ("ImportError", ["ModuleNotFoundError"]),
    ("LookupError", ["IndexError", "KeyError"]),
    ("NameError", ["UnboundLocalError"]),
    ("OSError", ["BlockingIOError", "ChildProcessError", "ConnectionError", "FileExistsError",
      "FileNotFoundError", "InterruptedError", "IsADirectoryError", "NotADirectoryError",
      "PermissionError", "ProcessLookupError", "TimeoutError"]),
    ("ConnectionError", ["BrokenPipeError", "ConnectionAbortedError", "ConnectionRefusedError",
      "ConnectionResetError"]),
    ("RuntimeError", ["NotImplementedError", "RecursionError", "FragmentError"]),
    ("FragmentError", ["ParseError", "ExecError", "InvalidReturnValue"]),
    ("SyntaxError", ["IndentationError"]),
    ("IndentationError", ["TabError"]),
    ("ValueError", ["UnicodeError", "ValidationError"]),
    ("UnicodeError", ["UnicodeDecodeError", "UnicodeEncodeError", "UnicodeTranslateError"]),
    ("Warning", ["BytesWarning", "DeprecationWarning", "EncodingWarning", "FutureWarning",
      "ImportWarning", "PendingDeprecationWarning", "ResourceWarning", "RuntimeWarning",
      "SyntaxWarning", "UnicodeWarning", "UserWarning"]),
    ("str", ["NavigableString"]),
    ("NavigableString", ["PreformattedString", "Stylesheet", "Script", "TemplateString",
      "RubyTextString", "RubyParenthesisString"]),
    ("PreformattedString", ["Comment", "CData", "ProcessingInstruction", "Declaration", "Doctype"]),
    ("PageElement", ["Tag"]),
    ("Tag", ["BeautifulSoup"]),
    ("tuple", ["DecimalTuple"]),
    ("list", ["ResultSet"]),
    ("dict", ["OrderedDict", "defaultdict", "Counter"]),
    ("date", ["datetime"])]

def parentOf? (name : String) : Option String :=
  if name == "object" then none
  else match parentTable.find? fun p => p.2.contains name with
    | some p => some p.1
    | none => some "object"

/-- A built-in class with all classes above it. The fuel bounds their number. -/
def lineage : Nat → String → List String
  | 0, name => [name]
  | fuel + 1, name =>
    match parentOf? name with
    | some p => name :: lineage fuel p
    | none => [name]

/-- Classes that inherit from several classes, with all classes above them in the order of look-up. -/
def mixedOrders : List (String × List String) :=
  let above := ["ArithmeticError", "Exception", "BaseException", "object"]
  [("DivisionByZero", "DecimalException" :: "ZeroDivisionError" :: above),
    ("Overflow", "Inexact" :: "Rounded" :: "DecimalException" :: above),
    ("Underflow", "Inexact" :: "Rounded" :: "Subnormal" :: "DecimalException" :: above),
    ("FloatOperation", ["DecimalException", "ArithmeticError", "TypeError", "Exception",
      "BaseException", "object"]),
    ("ExceptionGroup", ["BaseExceptionGroup", "Exception", "BaseException", "object"]),
    ("NavigableString", ["str", "PageElement", "object"])]

/-- A built-in class with all classes above it, in the order of look-up. -/
def builtinOrder (name : String) : List String :=
  match mixedOrders.find? fun p => p.1 == name with
  | some (_, above) => name :: above
  | none =>
    let texts := ["NavigableString", "str", "PageElement", "object"]
    match parentOf? name with
    | some "NavigableString" => name :: texts
    | some "PreformattedString" => name :: "PreformattedString" :: texts
    | _ => lineage 8 name

/-- The classes that a built-in class inherits from directly. -/
def directBases (name : String) : List String :=
  match name with
  | "DivisionByZero" => ["DecimalException", "ZeroDivisionError"]
  | "Overflow" => ["Inexact", "Rounded"]
  | "Underflow" => ["Inexact", "Rounded", "Subnormal"]
  | "FloatOperation" => ["DecimalException", "TypeError"]
  | "ExceptionGroup" => ["BaseExceptionGroup", "Exception"]
  | "NavigableString" => ["str", "PageElement"]
  | name => (parentOf? name).toList

def isExceptionName (name : String) : Bool := (builtinOrder name).contains "BaseException"

namespace Hierarchy

/-- Built-in classes whose methods are written in the language itself. -/
def isWritten (cls : String) : Bool :=
  ["Fraction", "UserList", "UserString", "Tag", "BeautifulSoup", "NavigableString", "PageElement",
    "PreformattedString", "Comment", "CData", "Doctype", "ElementFactory"].contains cls

/-- Methods with reserved names that are plain methods, not the working of an operation. -/
def plainReserved : List String :=
  ["__format__", "__dir__", "__reduce__", "__reduce_ex__", "__sizeof__", "__getstate__",
    "__init_subclass__", "__subclasshook__", "__class_getitem__", "__getnewargs__", "__trunc__",
    "__floor__", "__ceil__", "__round__", "__reversed__", "__complex__", "__bytes__", "__copy__",
    "__deepcopy__", "__enter__", "__exit__", "__length_hint__", "__setstate__", "__instancecheck__",
    "__subclasscheck__", "__subclasses__", "__prepare__", "__getformat__", "__new__", "__alloc__",
    "__aenter__", "__aexit__", "__set_name__"]

/-- Methods that belong to a class as a whole. -/
def ofClassAlone : List String :=
  ["fromkeys", "maketrans", "from_bytes", "fromhex", "from_float", "from_decimal", "fromtimestamp",
    "fromordinal", "fromisoformat", "fromisocalendar", "today", "now", "utcnow", "utcfromtimestamp",
    "strptime", "combine", "__init_subclass__", "__subclasshook__", "__class_getitem__",
    "__getformat__", "__new__", "__prepare__"]

/-- Whether a method is the working of an operation. -/
def isSlot (cls name : String) : Bool :=
  name.startsWith "__" && !plainReserved.contains name &&
    !(name == "__getitem__" && ["list", "dict"].contains cls) &&
    !(name == "__contains__" && ["dict", "set", "frozenset"].contains cls)

/-- The class that has a method of a built-in class by itself. -/
def methodOwner (cls name : String) : String :=
  ((builtinOrder cls).find? fun c => (Member.methods c).contains name).getD cls

/-- The class of a method of a built-in class, read from the class. -/
def kindInClass (cls name : String) : String :=
  if ofClassAlone.contains name then "builtin_function_or_method"
  else if isWritten cls then "function"
  else
    let owner := methodOwner cls name
    if !(Member.methods owner).contains name then
      (if isSlot "type" name && (Member.methods "type").contains name then "method-wrapper"
      else "builtin_function_or_method")
    else if isSlot owner name then "wrapper_descriptor" else "method_descriptor"

/-- Whether a method of a built-in class, found in another class, becomes a method of the instance. -/
def bindsToInstance (cls name : String) : Bool :=
  ["wrapper_descriptor", "method_descriptor", "function"].contains (kindInClass cls name)

/-- The class of a method of a built-in class, read from an instance. -/
def kindInInstance (cls name : String) : String :=
  let owner := methodOwner cls name
  if isWritten owner then "method"
  else if isSlot owner name then "method-wrapper" else "builtin_function_or_method"

end Hierarchy

end LiveMarkdown.Script
