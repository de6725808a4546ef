import LiveMarkdown.Script.Construct
import LiveMarkdown.Script.Method.Argument
import LiveMarkdown.Script.Method.Number

/-!
The methods with reserved names that built-in classes have. An operand that the working of an
operation does not know is answered by `NotImplemented`; the joining and repeating of sequences
refuses it.
-/

namespace LiveMarkdown.Script

namespace SpecialMethod

/-- The form for readers that the built-in part of a value has. -/
def text (m : Machine) (v : Value) : Run String := do
  match ← Run.deref v with
  | some (.exception cls args _ _ _ fields) => Raised.text m cls args fields
  | some (.instance _ _ (some c)) => m.text c
  | _ => m.shown v

/-- The full form that the built-in part of a value has. -/
def shown (m : Machine) (v : Value) : Run String := do
  match v with
  | .ref r =>
    match ← Run.object? r with
    | some o => Show.object m r o
    | none => m.shown v
  | v => m.shown v

def allBinary : List BinaryOp :=
  [.add, .sub, .mult, .matMult, .div, .mod, .pow, .leftShift, .rightShift, .bitOr, .bitXor, .bitAnd,
    .floorDiv]

/-- The operator that a method stands for, and whether its operands are exchanged. -/
def operator? (name : String) : Option (BinaryOp × Bool) :=
  match allBinary.find? fun op => op.methods.1 == name with
  | some op => some (op, false)
  | none => (allBinary.find? fun op => op.methods.2 == name).map fun op => (op, true)

/-- The operator that changes its left operand by a method. -/
def inPlace? (name : String) : Option BinaryOp := allBinary.find? fun op => op.inPlace == name

def comparison? (name : String) : Option CompareOp :=
  [CompareOp.eq, .notEq, .less, .lessEq, .greater, .greaterEq].find? fun op => op.methods.1 == name

/-- Whether the class of a number knows the class of another operand. Values that are no numbers are
asked for nothing here. -/
def knows : Value → Value → Bool
  | .int _, b | .bool _, b =>
    match b with
    | .int _ | .bool _ => true
    | _ => false
  | .float _, b =>
    match b with
    | .int _ | .bool _ | .float _ => true
    | _ => false
  | .complex .., b =>
    match b with
    | .int _ | .bool _ | .float _ | .complex .. => true
    | _ => false
  | .fraction .., b =>
    match b with
    | .int _ | .bool _ | .float _ | .complex .. | .fraction .. => true
    | _ => false
  | .decimal _, b =>
    match b with
    | .int _ | .bool _ | .decimal _ => true
    | _ => false
  | _, _ => true

/-- A sequence repeated as often as a value says. -/
def repeated (m : Machine) (sequence times : Value) : Run Value := do
  match ← Operator.repeated? sequence (← Subscript.size m times) with
  | some v => return v
  | none => return .notImplemented

/-- What the built-in part of a value answers to an operator. The value itself is the left operand
unless the operands are exchanged. -/
def operate (m : Machine) (op : BinaryOp) (exchanged : Bool) (part other : Value) : Run Value := do
  if !knows part other then return .notImplemented
  let (a, b) := if exchanged then (other, part) else (part, other)
  match op with
  | .mult =>
    if ← Operator.isSequence part then return ← repeated m part other
  | .mod =>
    match exchanged, part, other with
    | true, .str _, .str _ => pure ()
    | true, .str _, _ | true, .bytes _, _ => return .notImplemented
    | _, _, _ => pure ()
  | _ => pure ()
  match Arithmetic.numeric op a b with
  | some r => r
  | none => return (← Operator.builtin m op a b).getD .notImplemented

/-- What the built-in part of a value answers to an operator that changes it. -/
def operateInPlace (m : Machine) (op : BinaryOp) (v part other : Value) : Run Value := do
  let changed (x : Value) : Run Value := do
    discard (Operator.augmented m op part x)
    return v
  match op, ← Run.deref part with
  | .mult, some _ => changed (.int (← Subscript.size m other))
  | _, some (.set ..) =>
    match ← Run.deref (← Kind.basic other) with
    | some (.set ..) => changed (← Kind.basic other)
    | _ => return .notImplemented
  | _, some _ => changed other
  | _, none => return .notImplemented

/-- What the built-in part of a value answers to a comparison. -/
def compare (m : Machine) (op : CompareOp) (a b : Value) : Run Value := do
  if !knows a b then return .notImplemented
  match op with
  | .eq | .notEq =>
    match ← Comparison.builtinEqual m a b with
    | some r => return .bool (if op == .eq then r else !r)
    | none => return if a.same b then .bool (op == .eq) else .notImplemented
  | op =>
    match a with
    | .none | .ellipsis | .notImplemented | .complex .. => return .notImplemented
    | a => return (← Comparison.builtinOrder m op a b).getD .notImplemented

/-- Both results of a division with a remainder. -/
def divide (m : Machine) (part other : Value) (exchanged : Bool) : Run Value := do
  if !knows part other then return .notImplemented
  let vs := if exchanged then [other, part] else [part, other]
  Native.call m (Operator.binary m) "divmod" ⟨vs, []⟩

/-- A power, of which only a remainder may be asked. -/
def power (m : Machine) (part : Value) (exchanged : Bool) (vs : List Value) : Run Value := do
  match vs with
  | [x, n] =>
    let x ← Kind.basic x
    let n ← Kind.basic n
    if !knows part x then return .notImplemented
    match n with
    | .none => operate m .pow exchanged part x
    | n =>
      match part, n with
      | .complex .., _ => Run.valueError "complex modulo"
      | .float _, _ =>
        Run.typeError "pow() 3rd argument not allowed unless all arguments are integers"
      | part, n =>
        match Arithmetic.intOf? part, Arithmetic.intOf? x, Arithmetic.intOf? n with
        | some p, some k, some n =>
          if exchanged then Native.modularPower k p n else Native.modularPower p k n
        | _, _, _ => return .notImplemented
  | x :: _ => operate m .pow exchanged part (← Kind.basic x)
  | [] => return .notImplemented

/-- Sets up a new instance as its built-in class does. -/
def setUp (m : Machine) (v : Value) (a : Args) : Run Value := do
  match v with
  | .ref r =>
    match ← Run.object? r with
    | some (.exception cls _ cause context suppressed fields) =>
      Run.write r (.exception cls a.values cause context suppressed fields)
    | some (.instance _ _ (some (.ref c))) => setUpPart c
    | some (.instance cls _ none) =>
      if a.count ≠ 0 || !a.names.isEmpty then
        let name ← Kind.nameOf cls
        if (← Kind.attr? cls "__init__").isSome || Kind.sameClass cls (.type "object") then
          Run.typeError
            "object.__init__() takes exactly one argument (the instance to initialize)"
        Run.typeError s!"{name}() takes no arguments"
    | _ => setUpPart r
  | _ => pure ()
  return .none
where
  setUpPart (c : Ref) : Run Unit := do
    match ← Run.object? c with
    | some (.list _) =>
      a.noNames "list"
      match ← a.between "list" 0 1 with
      | x :: _ => Run.write c (.list (← Iteration.collect m x).toArray)
      | [] => Run.write c (.list #[])
    | some (.dict es) => Run.write c (.dict (← DictMethod.fromArgs m "dict" es a))
    | some (.set false _) =>
      match ← a.between "set" 0 1 with
      | x :: _ =>
        Run.write c (.set false (← Comparison.distinct m (← Iteration.collect m x)))
      | [] => Run.write c (.set false #[])
    | _ => pure ()

/-- Sets an attribute without asking the class. -/
def setField (m : Machine) (v : Value) (name : String) (x : Value) : Run Value := do
  match v with
  | .ref r =>
    match ← Run.object? r with
    | some (.instance cls space _) => Attribute.storeInstance m v cls space name x
    | _ => Attribute.set m v name x
  | v => Attribute.set m v name x
  return .none

/-- The number of items that an iterator still has, as far as that is known. -/
def remaining (i : Iterator) : Run Nat := do
  match i with
  | .list source next =>
    match ← Run.object? source with
    | some (.list items) => return items.size - next
    | _ => return 0
  | .listBackwards _ left => return left
  | .items _ rest => return rest.length
  | .range _ _ count _ => return count
  | .dict _ _ _ _ left => return left
  | .set _ rest _ => return rest.length
  | .deque _ source next _ =>
    match ← Run.object? source with
    | some (.deque items ..) => return items.size - next
    | _ => return 0
  | .indexedBackwards _ left => return left
  | _ => return 0

/-- What a function, a method of a class or a computed attribute is for an instance. -/
def boundTo (m : Machine) (v : Value) (vs : List Value) : Run Value := do
  let self := (vs[0]?).getD .none
  let cls := (vs[1]?).getD .none
  match self, cls with
  | .none, .none => Run.typeError "__get__(None, None) is invalid"
  | .none, cls =>
    match ← Run.deref v with
    | some (.property ..) | some (.slot ..) => return v
    | _ => Attribute.bindToClass m cls v
  | self, cls =>
    match v with
    | .method (.type t) name =>
      if !(← Kind.isA self t) then
        Run.typeError s!"descriptor '{name}' for '{t}' objects doesn't apply to a '{← Kind.name self}' object"
      return .method self name
    | v =>
      let cls ← match cls with
        | .none => Kind.of self
        | cls => pure cls
      Attribute.bind m self cls v

/-- The arguments from which the class of a value makes an equal one. -/
def newArguments : Value → List Value
  | .complex x y => [.float x, .float y]
  | .bool b => [.int (if b then 1 else 0)]
  | v => [v]

/-- What is stored with an object apart from its built-in part. -/
def state (v : Value) : Run Value := do
  match ← Run.deref v with
  | some (.instance _ space _) =>
    if (← Space.entries space).isEmpty then return .none
    return .ref space
  | _ => return .none

/-- What a class says of an instance or another class. -/
def classAnswer (v x : Value) (name : String) : Run Value := do
  match name with
  | "__instancecheck__" => return .bool (← Kind.inherits (← Kind.of x) v)
  | _ =>
    if !(← Native.isClass x) then Run.typeError "issubclass() arg 1 must be a class"
    return .bool (← Kind.inherits x v)

/-- A method of a number with a reserved name. -/
def ofNumber? (m : Machine) (part : Value) (name : String) (a : Args) : Run (Option Value) := do
  match name with
  | "__neg__" => return some (← Operator.unary m .minus part)
  | "__pos__" => return some (← Operator.unary m .plus part)
  | "__invert__" => return some (← Operator.unary m .invert part)
  | "__abs__" => return some (← Native.abs m part)
  | "__int__" | "__index__" | "__trunc__" => return some (.int (← Convert.int m part))
  | "__floor__" | "__ceil__" =>
    return some (← Mathematics.call m (Operator.binary m)
      (if name == "__floor__" then "floor" else "ceil") ⟨[part], []⟩)
  | "__round__" => return some (← Native.round m ⟨part :: a.values, []⟩)
  | "__float__" => return some (.float (← Convert.float m part))
  | "__complex__" =>
    match part with
    | .complex .. => return some part
    | part => return some (.complex (← Convert.float m part) 0)
  | "__getformat__" =>
    match ← textArg? ((a.values[0]?).getD .none) with
    | some "double" | some "float" => return some (.str "IEEE, little-endian")
    | some _ => Run.valueError "__getformat__() argument 1 must be 'double' or 'float'"
    | none =>
      Run.typeError
        s!"__getformat__() argument must be str, not {← Kind.given ((a.values[0]?).getD .none)}"
  | _ => return none

/-- A method of a container or an iterator with a reserved name. -/
def ofContainer? (m : Machine) (v part : Value) (name : String) (arg : Nat → Value) :
    Run (Option Value) := do
  match name with
  | "__len__" => return some (← Native.length m part)
  | "__getitem__" => return some (← Subscript.get m part (arg 0))
  | "__setitem__" =>
    Subscript.set m part (arg 0) (arg 1)
    return some .none
  | "__delitem__" =>
    Subscript.delete m part (arg 0)
    return some .none
  | "__contains__" =>
    match ← Run.deref part, Arithmetic.intOf? (← Kind.basic (arg 0)) with
    | some (.byteArray _), none =>
      if (← Run.bytes? (arg 0)).isNone then
        Run.typeError s!"a bytes-like object is required, not '{← Kind.name (arg 0)}'"
    | _, _ => pure ()
    return some (.bool (← Comparison.contains m (arg 0) part))
  | "__iter__" => return some (← Iteration.iter m part)
  | "__reversed__" => return some (← Native.reversed m part)
  | "__length_hint__" =>
    match ← Run.deref part with
    | some (.iterator i) => return some (.int (← remaining i))
    | _ => return none
  | "__copy__" =>
    match part with
    | .ref _ => return some (← m.call (← m.attr part "copy") [])
    | _ => return none
  | "__enter__" => return some v
  | "__exit__" =>
    match ← Run.deref part with
    | some (.memory _) =>
      discard (m.call (← m.attr part "release") [])
      return some .none
    | _ => return none
  | "__bytes__" => return some part
  | "__alloc__" => return some (.int (((← Run.bytes? part).getD []).length + 1))
  | _ => return none

/-- Adds a note to an exception, which keeps all of them in a list. -/
def addNote (m : Machine) (v note : Value) : Run Value := do
  if (← textArg? note).isNone then
    Run.typeError s!"note must be a str, not '{← Kind.name note}'"
  match ← Iteration.catching "AttributeError" (m.attr v "__notes__") with
  | none => Attribute.set m v "__notes__" (← Run.newList [note])
  | some notes =>
    match notes, ← Run.deref notes with
    | .ref r, some (.list items) => Run.write r (.list (items.push note))
    | _, _ => Run.typeError "Cannot add note: __notes__ is not a list"
  return .none

/-- A method that every object has. -/
def ofObject? (m : Machine) (owner : String) (v part : Value) (name : String) (a : Args) :
    Run (Option Value) := do
  let arg (i : Nat) : Value := (a.values[i]?).getD .none
  let key : Run String := do
    match ← textArg? (arg 0) with
    | some s => return s
    | none => Run.typeError s!"attribute name must be string, not '{← Kind.name (arg 0)}'"
  match name with
  | "__init__" => return some (← setUp m v a)
  | "__str__" => return some (.str (← text m v))
  | "__repr__" => return some (.str (← shown m v))
  | "__format__" =>
    match ← textArg? (arg 0) with
    | none =>
      Run.typeError s!"{owner}.__format__() argument must be str, not {← Kind.given (arg 0)}"
    | some "" => return some (.str (← m.text v))
    | some s => return some (.str (← Format.value m part s))
  | "__hash__" =>
    match part with
    | .ref r =>
      match ← Run.deref part with
      | some (.instance ..) | some (.cls _) | some (.exception ..) => return some (.int (r * 16))
      | _ => return some (← Native.hash m part)
    | part => return some (← Native.hash m part)
  | "__bool__" => return some (.bool (← Iteration.truth m part))
  | "__call__" => return some (← m.callWith v a.values a.names)
  | "__get__" => return some (← boundTo m v a.values)
  | "__dir__" => return some (← Run.newList ((← Native.attributeNames v).map .str))
  | "__getattribute__" =>
    let key ← key
    match ← Attribute.plain? m v key with
    | some x => return some x
    | none => Attribute.missing v key
  | "__setattr__" => return some (← setField m v (← key) (arg 1))
  | "__delattr__" =>
    Attribute.deletePlain m v (← key)
    return some .none
  | "__init_subclass__" =>
    if !a.names.isEmpty then
      Run.typeError s!"{← Kind.nameOf v}.__init_subclass__() takes no keyword arguments"
    if a.count ≠ 0 then
      Run.typeError s!"object.__init_subclass__() takes no arguments ({a.count} given)"
    return some .none
  | "__subclasshook__" => return some .notImplemented
  | "__class_getitem__" => return some (← Subscript.get m (← Kind.of v) (arg 0))
  | "__getnewargs__" => return some (.tuple (newArguments part))
  | "__getstate__" => return some (← state v)
  | "__sizeof__" => return some (.int 16)
  | "__instancecheck__" | "__subclasscheck__" => return some (← classAnswer v (arg 0) name)
  | "__setstate__" =>
    match ← Run.deref (arg 0), arg 0 with
    | some (.dict es), _ =>
      for (k, x) in es do Attribute.set m v (← m.text k) x
      return some .none
    | _, .none => return some .none
    | _, _ => Run.typeError "state is not a dictionary"
  | "derive" | "split" | "subgroup" =>
    if owner != "BaseExceptionGroup" then return none
    a.noNames ("BaseExceptionGroup." ++ name)
    return some (← Group.call m v name a.values)
  | "add_note" => return some (← addNote m v (← a.one (owner ++ ".add_note")))
  | "with_traceback" =>
    match arg 0, ← Run.deref (arg 0) with
    | .none, _ | _, some (.opaqueThing "traceback" _) => return some v
    | _, _ => Run.typeError "__traceback__ must be a traceback or None"
  | _ => return none

/-- Sets or deletes what an instance has by a computed attribute. -/
def ofProperty? (m : Machine) (v : Value) (name : String) (a : Args) : Run (Option Value) := do
  match ← Run.deref v, name with
  | some (.property _ setter ..), "__set__" =>
    match setter, a.values with
    | .none, x :: _ =>
      Run.raise "AttributeError" s!"property of '{← Kind.name x}' object has no setter"
    | f, vs => return some (← m.call f vs)
  | some (.property _ _ deleter _), "__delete__" =>
    match deleter, a.values with
    | .none, x :: _ =>
      Run.raise "AttributeError" s!"property of '{← Kind.name x}' object has no deleter"
    | f, vs => return some (← m.call f vs)
  | some (.property g s d doc), "__init__" =>
    match v, a.values with
    | .ref r, vs =>
      Run.write r (.property ((vs[0]?).getD g) ((vs[1]?).getD s) ((vs[2]?).getD d)
        ((vs[3]?).getD doc))
      return some .none
    | _, _ => return some .none
  | some (.property ..), "__set_name__" =>
    if a.count ≠ 2 then
      Run.typeError s!"__set_name__() takes 2 positional arguments but {a.count} were given"
    return some .none
  | _, _ => return none

/-- The built-in class from which a value has a method. -/
def ownerOf (v : Value) (name : String) : Run String := do
  let classes := (← Kind.order (← Kind.of v)).filterMap fun c => match c with
    | .type t => some t
    | _ => none
  return (classes.find? fun c => (Member.methods c).contains name).getD "object"

/-- Calls a method with a reserved name that a value has from a class; `none` if there is none of that
name. -/
def callOf? (m : Machine) (owner : String) (v : Value) (name : String) (a : Args) :
    Run (Option Value) := do
  let part ← Kind.basic v
  Arity.check owner name a
  let arg (i : Nat) : Value := (a.values[i]?).getD .none
  let other := Kind.basic (arg 0)
  match name with
  | "__divmod__" => return some (← divide m part (← other) false)
  | "__rdivmod__" => return some (← divide m part (← other) true)
  | "__pow__" => return some (← power m part false a.values)
  | "__rpow__" => return some (← power m part true a.values)
  | _ =>
    match operator? name, inPlace? name, comparison? name with
    | some (op, exchanged), _, _ =>
      -- a text that is filled in shows its argument as it is
      let x ← if op == .mod && !exchanged then pure (arg 0) else other
      return some (← operate m op exchanged part x)
    | none, some op, _ => return some (← operateInPlace m op v part (arg 0))
    | none, none, some op =>
      if owner == "object" && op == .notEq then
        match ← Kind.special? v "__eq__" with
        | some f =>
          match ← m.call f [arg 0] with
          | .notImplemented => return some .notImplemented
          | r => return some (.bool (!(← Iteration.truth m r)))
        | none => pure ()
      if owner == "object" then
        if op == .eq then return some (if v.same (arg 0) then .bool true else .notImplemented)
        if op == .notEq then return some (if v.same (arg 0) then .bool false else .notImplemented)
        return some .notImplemented
      return some (← compare m op part (← other))
    | none, none, none =>
      match ← ofProperty? m v name a with
      | some r => return some r
      | none =>
        match ← ofNumber? m part name a with
        | some r => return some r
        | none =>
          match ← ofContainer? m v part name arg with
          | some r => return some r
          | none => ofObject? m owner v part name a

/-- Calls a method with a reserved name; `none` if there is none of that name. -/
def call? (m : Machine) (v : Value) (name : String) (a : Args) : Run (Option Value) := do
  callOf? m (← ownerOf v name) v name a

end SpecialMethod

end LiveMarkdown.Script
