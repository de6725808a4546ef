import LiveMarkdown.Number.Total
import LiveMarkdown.Script.Group
import LiveMarkdown.Script.Mathematics
import LiveMarkdown.Script.Method.Bytes
import LiveMarkdown.Script.Operator

/-!
New values of the built-in classes: what the call of such a class gives.
-/

namespace LiveMarkdown.Script

namespace Construct

/-- At most `n` arguments by position and none by name. -/
def upTo (a : Args) (cls : String) (n : Nat) : Run (List Value) := do
  a.noNames cls
  if n < a.count then
    Run.typeError s!"{cls} expected at most {n} {Args.plural n}, got {a.count}"
  return a.values

/-- One argument by position. -/
def exactlyOne (a : Args) (cls : String) : Run Value := do
  return ((← a.between cls 1 1).head?).getD .none

/-- What is numbered, and the first number. -/
def enumerated (a : Args) : Run (Value × Option Value) := do
  let refuse {α : Type} (k : String) : Run α :=
    Run.typeError s!"'{k}' is an invalid keyword argument for enumerate()"
  match a.values, a.names with
  | [], [] => Run.typeError "enumerate() missing required argument 'iterable'"
  | [v], [] | [], [("iterable", v)] => return (v, none)
  | [v, n], [] | [v], [("start", n)] | [], [("start", n), ("iterable", v)]
  | [], [("iterable", v), ("start", n)] => return (v, some n)
  | [], [(k, _)] | [_], [(k, _)] | [], [("start", _), (k, _)] | [], [("iterable", _), (k, _)]
  | [], [(k, _), _] => refuse k
  | vs, names =>
    Run.typeError s!"enumerate() takes at most 2 arguments ({vs.length + names.length} given)"

def integer (m : Machine) (a : Args) : Run Value := do
  let vs ← (Signature.mk "int" ["", "base"] 0 1 []).take a
  match vs[0]?.join, vs[1]?.join with
  | none, none => return .int 0
  | none, some _ => Run.typeError "int() missing string argument"
  | some v, none => return .int (← Convert.int m v)
  | some v, some b =>
    let base ← Subscript.integer m b
    if base ≠ 0 && (base < 2 || 36 < base) then
      Run.valueError "int() base must be >= 2 and <= 36, or 0"
    match ← Kind.basic v with
    | .str s => return .int (← Convert.readInt base.toNat s (Text.quoted s))
    | b =>
      match b, ← Run.deref b with
      | .bytes bs, _ | _, some (.byteArray bs) =>
        let digits := String.ofList (Encoded.byteChars bs)
        return .int (← Convert.readInt base.toNat digits (Text.quotedBytes bs))
      | _, _ => Run.typeError "int() can't convert non-string with explicit base"

def complex (m : Machine) (a : Args) : Run Value := do
  let vs ← (Signature.named "complex" 0 ["real", "imag"]).take a
  let real : Option Value := vs[0]?.join
  let imag : Option Value := vs[1]?.join
  let part (v : Value) (noun kinds : String) : Run (Float × Option Float) := do
    match ← Kind.special? v "__complex__" with
    | some f =>
      match ← m.call f [] with
      | .complex x y => return (x, some y)
      | r => Run.typeError s!"__complex__ returned non-complex (type {← Kind.name r})"
    | none => pure ()
    if (← Kind.special? v "__float__").isSome || (← Kind.special? v "__index__").isSome then
      return (← Convert.float m v, none)
    match ← Kind.core v with
    | .complex x y => return (x, some y)
    | .int n => return (← Arithmetic.toFloat n, none)
    | .bool b => return (if b then 1 else 0, none)
    | .float x => return (x, none)
    | .fraction .. | .decimal _ => return (← Convert.float m v, none)
    | _ => Run.typeError s!"complex() {noun} argument must be {kinds}, not '{← Kind.name v}'"
  let first (v : Value) := part v "first" "a string or a number"
  let text? (v : Option Value) : Run (Option String) := do
    match v with
    | some v => textArg? v
    | none => return none
  match ← text? real, imag with
  | some _, some _ => Run.typeError "complex() can't take second arg if first is a string"
  | _, v => if (← text? v).isSome then Run.typeError "complex() second arg can't be a string"
  match real, imag with
  | none, none => return .complex 0 0
  | some (.str s), none =>
    if !Convert.areJoining '\x00' s.toList then
      Run.valueError s!"could not convert string to complex: {Text.quoted s}"
    match Convert.complexOfText? s with
    | some (x, y) => return .complex x y
    | none => Run.valueError "complex() arg is a malformed string"
  | some v, none =>
    let (x, y) ← first v
    return .complex x (y.getD 0)
  | v, some w =>
    let (x, y) ← first (v.getD (.int 0))
    let (z, t) ← part w "second" "a number"
    return .complex ((t.map fun t => x - t).getD x) ((y.map fun y => z + y).getD z)

def text (m : Machine) (a : Args) : Run Value := do
  match ← (Signature.named "str" 0 ["object", "encoding", "errors"]).take a with
  | [none, _, _] => return .str ""
  | [some v, none, none] => return .str (← m.text v)
  | [some v, codec, rule] =>
    let (codec, rule) ← Encoded.names "str" codec rule
    match ← Kind.basic v with
    | .str _ => Run.typeError "decoding str is not supported"
    | b =>
      match ← ByteView.closeBytes? b with
      | some bs => return .str (← Encoded.decode bs codec rule)
      | none =>
        Run.typeError s!"decoding to str: need a bytes-like object, {← Kind.name v} found"
  | _ => return .none

/-- The bytes of a text or of the items of a value. -/
def byteItems (m : Machine) (cls : String) (v : Value) : Run (List UInt8) := do
  match ← Iteration.catching "TypeError" (Iteration.iter m v) with
  | none => Run.typeError s!"cannot convert '{← Kind.name v}' object to {cls}"
  | some it =>
    let items ← Iteration.drain m it
    items.mapM fun x => do
      let n ← Subscript.integer m x
      if n < 0 || 255 < n then
        Run.valueError (if cls == "bytes" then "bytes must be in range(0, 256)"
          else "byte must be in range(0, 256)")
      return UInt8.ofNat n.toNat

/-- The bytes that a value stands for: its own, zeros of a number, or those of a list of numbers. -/
def byteList (m : Machine) (cls : String) (a : Args) : Run (List UInt8) := do
  match ← (Signature.named cls 0 ["source", "encoding", "errors"]).take a with
  | [none, none, none] => return []
  | [none, codec, _] =>
    Run.typeError (if codec.isSome then "encoding without a string argument"
      else "errors without a string argument")
  | [some v, codec, rule] =>
    let isText := match ← Kind.basic v with
      | .str s => some s
      | _ => none
    match isText, codec, rule with
    | some s, some _, _ =>
      let (codec, rule) ← Encoded.names cls codec rule
      Encoded.encode s codec rule
    | some _, none, some _ => Run.typeError "string argument without an encoding"
    | none, some _, _ =>
      discard (Encoded.names cls codec rule)
      Run.typeError "encoding without a string argument"
    | none, none, some _ =>
      discard (Encoded.names cls codec rule)
      Run.typeError "errors without a string argument"
    | some _, none, none => Run.typeError "string argument without an encoding"
    | none, none, none =>
      match ← Run.bytes? (← Kind.basic v) with
      | some bs => return bs
      | none =>
        match ← Iteration.catching "TypeError" (Subscript.index? m v) with
        | some (some n) =>
          if !Iteration.isWord n && 0 ≤ n || n < -(Nat.pow 2 63 : Int) then
            Run.raise "OverflowError" "cannot fit 'int' into an index-sized integer"
          if n < 0 then Run.valueError "negative count"
          if Operator.repeatLimit < n then Run.raiseWith "MemoryError" []
          return List.replicate n.toNat 0
        | _ => byteItems m cls v
  | _ => return []

def range (m : Machine) (a : Args) : Run Value := do
  let vs ← a.between "range" 1 3
  match ← vs.mapM (Subscript.integer m) with
  | [stop] => return .range 0 stop 1
  | [start, stop] => return .range start stop 1
  | [start, stop, step] =>
    if step = 0 then Run.valueError "range() arg 3 must not be zero"
    return .range start stop step
  | _ => return .none

def slice (a : Args) : Run Value := do
  match ← a.between "slice" 1 3 with
  | [b] => return .slice .none b .none
  | [x, b] => return .slice x b .none
  | [x, b, c] => return .slice x b c
  | _ => return .none

/-- The class that a call of a class with three arguments makes. -/
def linearize (self : Value) (bases : List Value) : Run (List Value) := do
  let orders ← bases.mapM Kind.order
  let rec merge (fuel : Nat) (lists : List (List Value)) : Option (List Value) :=
    match fuel with
    | 0 => some []
    | fuel + 1 =>
      let lists := lists.filter fun l => !l.isEmpty
      if lists.isEmpty then some []
      else
        let free (c : Value) : Bool := lists.all fun l => !(l.drop 1).any (Kind.sameClass c)
        match (lists.filterMap List.head?).find? free with
        | none => none
        | some c =>
          (merge fuel (lists.map fun l => match l with
            | d :: rest => if Kind.sameClass c d then rest else l
            | [] => [])).map (c :: ·)
  let count := Number.total (orders.map List.length) + bases.length + 1
  match merge count (orders ++ [bases]) with
  | some order => return self :: order
  | none =>
    let names ← bases.mapM Kind.nameOf
    Run.typeError ("Cannot create a consistent method resolution\norder (MRO) for bases " ++
      ", ".intercalate names)

/-- Built-in classes that no class may inherit from. -/
def finalClasses : List String :=
  ["bool", "NoneType", "range", "slice", "function", "memoryview", "ellipsis", "generator",
    "NotImplementedType", "builtin_function_or_method", "method"]

/-- A new instance with nothing stored. -/
def newPlain (cls : Value) (core : Option Value) : Run Value := do
  Run.new (.instance cls (← Run.alloc (.dict #[])) core)

/-- The class that makes a class with the given bases: the most special one of their classes. -/
def kindOf (first : Value) (bases : List Value) : Run Value := do
  bases.foldlM (fun best b => do
    let k ← Kind.of b
    if ← Kind.inherits best k then return best
    if ← Kind.inherits k best then return k
    Run.typeError ("metaclass conflict: the metaclass of a derived class must be a (non-strict) " ++
      "subclass of the metaclasses of all its bases")) first

/-- The name under which the body of a class leaves the place that its methods know it by. -/
def placeName : String := "__classcell__"

/-- Built-in classes whose instances hold a number of items that is fixed when they are made. -/
def sizedClasses : List String := ["int", "bool", "tuple", "bytes", "type", "DecimalTuple"]

/-- Built-in classes whose instances can be referred to weakly. -/
def weakClasses : List String :=
  ["set", "frozenset", "deque", "type", "function", "memoryview", "UserList", "UserString", "Tag",
    "BeautifulSoup", "NavigableString", "OrderedDict", "Counter"]

/-- Built-in classes whose instances store attributes. -/
def storingClasses : List String :=
  ["type", "function", "UserList", "UserString", "Tag", "BeautifulSoup", "NavigableString",
    "OrderedDict", "Counter"]

/-- Whether instances of a class that inherits from the given ones already store attributes, and whether
they can already be referred to weakly. -/
def storedBefore (bases : List Value) : Run (Bool × Bool) := do
  let orders := (← bases.mapM Kind.order).flatten
  let found ← orders.mapM fun c => do
    match c with
    | .type t => return (storingClasses.contains t || isExceptionName t, weakClasses.contains t)
    | c =>
      match ← Run.deref c with
      | some (.cls d) =>
        return match d.slots with
          | none => (true, !(d.order.any fun b => match b with
              | .type t => sizedClasses.contains t
              | _ => false))
          | some names => (names.contains "__dict__", names.contains "__weakref__")
      | _ => return (false, false)
  return (found.any (·.1), found.any (·.2))

/-- The names that a class lists for its instances to store. -/
def listedSlots (m : Machine) (name : String) (bases : List Value) (space : Ref) :
    Run (Option (List String)) := do
  match ← Space.get? space "__slots__" with
  | none => return none
  | some v =>
    let names ← match v with
      | .str s => pure [Value.str s]
      | v => Iteration.collect m v
    let solid ← Kind.solidBase bases
    let sized := (← Kind.order solid).findSome? fun b => match b with
      | .type t => if sizedClasses.contains t then some t else none
      | _ => none
    if sized.isSome && !names.isEmpty then
      Run.typeError s!"nonempty __slots__ not supported for subtype of '{← Kind.nameOf solid}'"
    let (stores, weak) ← storedBefore bases
    let mut texts : List String := []
    for x in names do
      match ← Kind.basic x with
      | .str s =>
        if !Text.isName s then Run.typeError "__slots__ must be identifiers"
        if s == "__dict__" && (stores || texts.contains s) then
          Run.typeError "__dict__ slot disallowed: we already got one"
        if s == "__weakref__" && (weak || texts.contains s) then
          Run.typeError
            "__weakref__ slot disallowed: either we already got one, or __itemsize__ != 0"
        texts := texts ++ [s]
      | x => Run.typeError s!"__slots__ items must be strings, not '{← Kind.name x}'"
    let owner := String.ofList (name.toList.dropWhile (· = '_'))
    let names := texts.map fun s =>
      if s.startsWith "__" && !s.endsWith "__" && owner ≠ "" then "_" ++ owner ++ s else s
    for s in names do
      if s ≠ "__dict__" && s ≠ "__weakref__" && s ≠ placeName && (← Space.get? space s).isSome then
        Run.valueError s!"'{s}' in __slots__ conflicts with class variable"
    return some names

/-- Gives the space of a class what the instances of the class store or compute. -/
def addSlots (self : Value) (bases : List Value) (slots : Option (List String)) (space : Ref) :
    Run Unit := do
  let (stores, weak) ← storedBefore bases
  let sized := (← bases.mapM Kind.order).flatten.any fun b => match b with
    | .type t => sizedClasses.contains t
    | _ => false
  let listed := slots.getD (["__dict__"].filter (fun _ => !stores) ++
    ["__weakref__"].filter fun _ => !weak && !sized)
  let own := listed.filter fun n => n != "__dict__" && n != "__weakref__"
  for n in own.mergeSort do
    Space.set space n (← Run.new (.slot "member_descriptor" self n))
  for n in ["__dict__", "__weakref__"] do
    if listed.contains n then
      Space.set space n (← Run.new (.slot "getset_descriptor" self n))
  if (← Space.get? space "__doc__").isNone then Space.set space "__doc__" .none
  if (← Space.get? space "__eq__").isSome && (← Space.get? space "__hash__").isNone then
    Space.set space "__hash__" .none

/-- Makes methods of a class body what their names ask for: methods of no instance, or of the class. -/
def settleMethods (space : Ref) : Run Unit := do
  let settle (name : String) (make : Value → Object) : Run Unit := do
    match ← Space.get? space name with
    | some f =>
      match ← Run.deref f with
      | some (.function _) => Space.set space name (← Run.new (make f))
      | _ => pure ()
    | none => pure ()
  settle "__new__" .staticMethod
  settle "__init_subclass__" .classMethod
  settle "__class_getitem__" .classMethod

/-- Makes a new class. Its space already holds what its body binds. -/
def newClass (m : Machine) (kind : Value) (name : String) (bases : List Value) (space : Ref)
    (names : List (String × Value)) : Run Value := do
  let bases := if bases.isEmpty then [Value.type "object"] else bases
  for b in bases do
    match b with
    | .type t =>
      if finalClasses.contains t then
        Run.typeError s!"type '{t}' is not an acceptable base type"
    | b =>
      match ← Run.deref b with
      | some (.cls _) => pure ()
      | _ => discard (kindOf kind bases)
  for (b, i) in bases.zipIdx do
    if (bases.take i).any (Kind.sameClass b) then
      Run.typeError s!"duplicate base class {← Kind.nameOf b}"
  let kind ← kindOf kind bases
  let r ← match ← Space.get? space placeName with
    | some (.ref r) => pure r
    | _ => Run.alloc (.list #[])
  discard (Space.erase space placeName)
  let qualifiedName := match ← Space.get? space "__qualname__" with
    | some (.str s) => s
    | _ => name
  discard (Space.erase space "__qualname__")
  let self : Value := .ref r
  let order ← linearize self bases
  discard (Kind.solidBase bases)
  let slots ← listedSlots m name bases space
  if (← Space.get? space "__module__").isNone then
    match (← get).globals with
    | some g =>
      match ← Space.get? g "__name__" with
      | some v => Space.set space "__module__" v
      | none => pure ()
    | none => pure ()
  settleMethods space
  addSlots self bases slots space
  Run.write r (.cls { name, qualifiedName, kind, bases, order, space, slots })
  for (k, v) in (← Space.entries space).toList do
    match k with
    | .str attr =>
      match ← Kind.special? v "__set_name__" with
      | some f => discard (m.call f [self, .str attr])
      | none => pure ()
    | _ => pure ()
  let mut told := false
  for c in order.drop 1 do
    if !told then
      match ← Run.deref c with
      | some (.cls d) =>
        match ← Space.get? d.space "__init_subclass__" with
        | some f =>
          told := true
          let f ← match ← Run.deref f with
            | some (.classMethod g) => pure g
            | some (.staticMethod g) => pure g
            | _ => pure f
          discard (m.callWith f [self] names)
        | none => pure ()
      | _ => pure ()
  if !told then
    match names with
    | _ :: _ => Run.typeError s!"{name}.__init_subclass__() takes no keyword arguments"
    | [] => pure ()
  return self

/-- The class of a value, or a new class of the given kind. -/
def typeOf (m : Machine) (kind : Value) (a : Args) : Run Value := do
  match a.values with
  | [v] =>
    a.noNames "type"
    Kind.of v
  | [name, bases, space] =>
    match name, bases with
    | .str n, .tuple bs =>
      match ← Run.deref (← Kind.core space) with
      | some (.dict es) =>
        newClass m kind n bs (← Run.alloc (.dict es)) a.names
      | _ => Run.typeError s!"type.__new__() argument 3 must be dict, not {← Kind.given space}"
    | .str _, b =>
      Run.typeError s!"type.__new__() argument 2 must be tuple, not {← Kind.given b}"
    | n, _ => Run.typeError s!"type.__new__() argument 1 must be str, not {← Kind.given n}"
  | vs =>
    match kind with
    | .type _ => Run.typeError "type() takes 1 or 3 arguments"
    | _ => Run.typeError s!"type.__new__() takes exactly 3 arguments ({vs.length} given)"

/-- The class of an error of the system by its number. -/
def systemErrors : List (Int × String) :=
  [(1, "PermissionError"), (2, "FileNotFoundError"), (3, "ProcessLookupError"),
    (10, "ChildProcessError"), (4, "InterruptedError"), (11, "BlockingIOError"),
    (13, "PermissionError"), (17, "FileExistsError"), (20, "NotADirectoryError"),
    (21, "IsADirectoryError"), (32, "BrokenPipeError"), (103, "ConnectionAbortedError"),
    (104, "ConnectionResetError"), (110, "TimeoutError"), (111, "ConnectionRefusedError")]

/-- Checks the arguments of an error of an encoding: its name, what it was applied to, the bounds of
the fault, and the reason. -/
def codedArguments (m : Machine) (cls : String) (count : Nat) (vs : List Value) : Run Unit := do
  if vs.length ≠ count then
    Run.typeError s!"function takes exactly {count} arguments ({vs.length} given)"
  let first := if count = 5 then ["text"] else []
  let object := if cls == "UnicodeDecodeError" then "bytes" else "text"
  for ((v, kind), i) in (vs.zip (first ++ [object, "number", "number", "text"])).zipIdx do
    match kind with
    | "text" =>
      if (← textArg? v).isNone then
        Run.typeError s!"argument {i + 1} must be str, not {← Kind.given v}"
    | "number" => discard (Subscript.size m v)
    | _ => pure ()
  if object == "bytes" then
    match vs[1]? with
    | some v => discard (BytesMethod.need v)
    | none => pure ()

/-- A new exception of a built-in class. -/
def exception (m : Machine) (cls : String) (a : Args) : Run Value := do
  let named := if (builtinOrder cls).contains "ImportError" then ["name", "path"]
    else if (builtinOrder cls).contains "AttributeError" then ["name", "obj"]
    else if (builtinOrder cls).contains "NameError" then ["name"]
    else []
  if !a.names.isEmpty then
    if (builtinOrder cls).contains "BaseExceptionGroup" then
      discard (Group.new m (.type cls) a.values)
    if named.isEmpty then Run.typeError s!"{cls}() takes no keyword arguments"
    discard ((Signature.mk cls [] 0 0 named).take { a with values := [] })
  let mut fields := a.names
  match cls with
  | "SyntaxError" | "IndentationError" | "TabError" =>
    match a.values with
    | [_, place] =>
      let items ← Iteration.collect m place
      let n := items.length
      if n < 4 then Run.typeError s!"function takes at least 4 arguments ({n} given)"
      if 6 < n then Run.typeError s!"function takes at most 6 arguments ({n} given)"
      if n = 5 then
        Run.typeError "end_offset must be provided when end_lineno is provided"
      match place with
      | .tuple _ => pure ()
      | _ =>
        fields := ["filename", "lineno", "offset", "text", "end_lineno", "end_offset"].zip items
    | _ => pure ()
  | "UnicodeDecodeError" | "UnicodeEncodeError" => codedArguments m cls 5 a.values
  | "UnicodeTranslateError" => codedArguments m cls 4 a.values
  | "ExceptionGroup" | "BaseExceptionGroup" => return ← Group.new m (.type cls) a.values
  | _ => pure ()
  let cls := match cls, a.values with
    | "OSError", code :: _ :: more =>
      if 3 < more.length then cls
      else
        let n : Int := (Arithmetic.intOf? code).getD 0
        match systemErrors.find? fun e => e.1 == n with
      | some (_, c) => c
      | none => cls
    | _, _ => cls
  Run.new (.exception (.type cls) a.values none none false fields.toArray)

/-- A view of an instance, or of a class, from the classes after a given one on. -/
def newSuper (m : Machine) (cls self : Value) : Run Value := do
  let isClass (v : Value) : Run Bool := do Kind.inherits (← Kind.of v) (.type "type")
  if !(← isClass cls) then
    Run.typeError s!"super() argument 1 must be a type, not {← Kind.name cls}"
  let fits ← match self with
    | .none => pure true
    | self =>
      if (← isClass self) && (← Kind.inherits self cls) then pure true
      else if ← Kind.inherits (← Kind.of self) cls then pure true
      else
        match ← Iteration.catching "AttributeError" (m.attr self "__class__") with
        | some c => if ← isClass c then Kind.inherits c cls else pure false
        | none => pure false
  if !fits then
    Run.typeError "super(type, obj): obj must be an instance or subtype of type"
  Run.new (.super cls self)

/-! ### Values of the classes of the machinery -/

/-- The only value of its class. -/
def onlyValue (a : Args) (cls : String) (v : Value) : Run Value := do
  if a.count ≠ 0 || !a.names.isEmpty then Run.typeError s!"{cls} takes no arguments"
  return v

/-- A function that runs the code of another one with names of its own. -/
def function (a : Args) : Run Value := do
  let refuse {α : Type} (message : String) : Run α := Run.typeError message
  let vs ← (Signature.named "function" 2 ["code", "globals", "name", "argdefs", "closure"]).take a
  let part (i : Nat) : Value := (vs[i]?.join).getD .none
  match ← Run.deref (part 0), part 1, ← Run.deref (part 1) with
  | some (.code ⟨_, _, .body f⟩), .ref globals, some (.dict _) =>
    let name ← match part 2 with
      | .none => pure f.name
      | .str s => pure s
      | _ => refuse "arg 3 (name) must be None or string"
    let defaults ← match part 3 with
      | .none => pure []
      | .tuple ds => pure ds
      | _ => refuse "arg 4 (defaults) must be None or tuple"
    let free := (← Part.freeNames f).length
    match part 4 with
    | .none => if 0 < free then refuse "arg 5 (closure) must be tuple"
    | .tuple cells =>
      if cells.length ≠ free then
        Run.valueError s!"{f.name} requires closure of length {free}, not {cells.length}"
    | _ => refuse "arg 5 (closure) must be None or tuple"
    Run.new (.function { f with
      name, globals, defaults, nameDefaults := []
      scope := if free = 0 then none else f.scope })
  | some (.code _), _, _ =>
    refuse s!"function() argument 'globals' must be dict, not {← Kind.given (part 1)}"
  | _, _, _ => refuse s!"function() argument 'code' must be code, not {← Kind.given (part 0)}"

/-- A function bound to its first argument. -/
def method (a : Args) : Run Value := do
  match ← a.between "method" 2 2 with
  | [f, self] =>
    if !(← Kind.isCallable f) then Run.typeError "first argument must be callable"
    if self matches .none then Run.typeError "instance must not be None"
    Run.new (.boundMethod f self)
  | _ => return .none

/-- A dictionary that cannot be changed through the new value. -/
def proxy (a : Args) : Run Value := do
  let given := a.count + a.names.length
  if 1 < given then
    Run.typeError s!"mappingproxy() takes at most 1 argument ({given} given)"
  let vs ← (Signature.named "mappingproxy" 1 ["mapping"]).take a
  let v := (vs[0]?.join).getD .none
  match ← Kind.core v, ← Run.deref (← Kind.core v) with
  | .ref r, some (.dict _) => Run.new (.proxy r)
  | _, some (.proxy r) => Run.new (.proxy r)
  | _, _ =>
    Run.typeError s!"mappingproxy() argument must be a mapping, not {← Kind.name v}"

/-- The call of a built-in class. -/
def call (m : Machine) (cls : String) (a : Args) : Run Value := do
  if isExceptionName cls then return ← exception m cls a
  match cls with
  | "int" => integer m a
  | "float" =>
    match ← upTo a cls 1 with
    | v :: _ => return .float (← Convert.float m v)
    | [] => return .float 0
  | "complex" => complex m a
  | "bool" =>
    match ← upTo a cls 1 with
    | v :: _ => return .bool (← Iteration.truth m v)
    | [] => return .bool false
  | "str" => text m a
  | "bytes" =>
    match a.values with
    | [v] =>
      match ← Kind.special? v "__bytes__" with
      | some f =>
        match ← m.call f [] with
        | .bytes bs => return .bytes bs
        | r => Run.typeError s!"__bytes__ returned non-bytes (type {← Kind.name r})"
      | none => return .bytes (← byteList m cls a)
    | _ => return .bytes (← byteList m cls a)
  | "bytearray" => Run.new (.byteArray (← byteList m cls a))
  | "memoryview" =>
    let given := a.count + a.names.length
    if 1 < given then Run.typeError s!"{cls}() takes at most 1 argument ({given} given)"
    match ← (Signature.named cls 1 ["object"]).take a with
    | [some v] => MemoryMethod.make v
    | _ => return .none
  | "deque" => DequeMethod.make m a
  | "list" =>
    match ← upTo a cls 1 with
    | v :: _ => Run.newList (← Iteration.collect m v)
    | [] => Run.newList []
  | "tuple" =>
    match ← upTo a cls 1 with
    | v :: _ => return .tuple (← Iteration.collect m v)
    | [] => return .tuple []
  | "set" | "frozenset" =>
    match ← upTo a cls 1 with
    | v :: _ =>
      Run.new (.set (cls == "frozenset") (← Comparison.distinct m (← Iteration.collect m v)))
    | [] => Run.new (.set (cls == "frozenset") #[])
  | "dict" => Run.new (.dict (← DictMethod.fromArgs m cls #[] a))
  | "range" => range m a
  | "slice" => slice a
  | "object" =>
    if a.count ≠ 0 || !a.names.isEmpty then Run.typeError "object() takes no arguments"
    newPlain (.type "object") none
  | "type" => typeOf m (.type "type") a
  | "enumerate" =>
    let (v, start) ← enumerated a
    let start ← match start with
      | some n => Subscript.integer m n
      | none => pure 0
    Iteration.newIterator (.enumerate (← Iteration.iter m v) start)
  | "zip" =>
    let vs ← (Signature.mk cls [] 0 0 ["strict"]).take { a with values := [] }
    let strict ← match vs[0]?.join with
      | some v => Iteration.truth m v
      | none => pure false
    let its ← a.values.mapM fun v => do
      match ← Iteration.catching "TypeError" (Iteration.iter m v) with
      | some it => return it
      | none => Run.typeError s!"'{← Kind.name v}' object is not iterable"
    Iteration.newIterator (.zip its strict)
  | "map" =>
    a.noNames cls
    match a.values with
    | f :: v :: vs => Iteration.newIterator (.map f (← (v :: vs).mapM (Iteration.iter m)))
    | _ => Run.typeError "map() must have at least two arguments."
  | "filter" =>
    match ← a.between cls 2 2 with
    | [f, v] => Iteration.newIterator (.filter f (← Iteration.iter m v))
    | _ => return .none
  | "reversed" => Native.reversed m (← exactlyOne a cls)
  | "property" =>
    let vs ← (Signature.named cls 0 ["fget", "fset", "fdel", "doc"]).take a
    let part (i : Nat) : Value := (vs[i]?.join).getD .none
    Run.new (.property (part 0) (part 1) (part 2) (part 3))
  | "classmethod" => Run.new (.classMethod (← exactlyOne a cls))
  | "staticmethod" => Run.new (.staticMethod (← exactlyOne a cls))
  | "super" =>
    a.noNames cls
    if 2 < a.count then Run.typeError s!"super() expected at most 2 arguments, got {a.count}"
    match a.values with
    | [c, self] => newSuper m c self
    | [c] => newSuper m c .none
    | _ => Run.raise "RuntimeError" "super(): no arguments"
  | "NavigableString" | "Comment" | "CData" | "Doctype" =>
    return .node (← Element.newText (← m.text (← a.one cls)))
  | "NoneType" => onlyValue a cls .none
  | "ellipsis" => onlyValue a "EllipsisType" .ellipsis
  | "NotImplementedType" => onlyValue a cls .notImplemented
  | "function" => function a
  | "method" => method a
  | "mappingproxy" => proxy a
  | "GenericAlias" =>
    match ← a.between cls 2 2 with
    | [origin, .tuple parts] => Run.new (.alias origin parts)
    | [origin, part] => Run.new (.alias origin [part])
    | _ => return .none
  | _ => Run.typeError s!"cannot create '{Kind.dotted cls}' instances"

end Construct

end LiveMarkdown.Script
