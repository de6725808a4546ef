import LiveMarkdown.Script.Builtin
import LiveMarkdown.Script.Method.Collection
import LiveMarkdown.Script.Method.Node
import LiveMarkdown.Script.Method.Text
import LiveMarkdown.Script.Part

/-!
Reading, setting and deleting the attributes of values.
-/

namespace LiveMarkdown.Script

namespace Attribute

/-- The methods of a built-in class. -/
def methodNames (cls : String) : List String :=
  match cls with
  | "Tag" | "BeautifulSoup" | "NavigableString" | "CSS" => NodeMethod.names cls
  | "ElementFactory" => Element.names
  | "_Feature" | "BadRepr" => []
  | cls => Member.methods cls

/-- Whether a built-in class, or one above it, has a method. -/
def hasMethod (cls name : String) : Bool :=
  (builtinOrder cls).any fun c => (methodNames c).contains name

/-- Whether a value is a fault of the operating system. -/
def isFault (v : Value) : Run Bool := do
  return (← Run.deref v).any (fun o => o matches .exception ..) && (← Kind.isA v "OSError")

/-- Refuses to read a part that a value lacks. -/
def missing {α : Type} (v : Value) (name : String) : Run α := do
  let message ← match v with
    | .type n => pure s!"type object '{Kind.dotted n}' has no attribute '{name}'"
    | .node n =>
      let f ← Run.forest
      if f.isTag n || f.isRoot n then
        pure s!"'{← Show.cls (← Kind.of v)}' object has no attribute '{name}'"
      else pure s!"'{← Kind.name v}' object has no attribute '{name}'"
    | v =>
      match ← Run.deref v with
      | some (.instance (.type "ResultSet") _ _) =>
        pure (s!"ResultSet object has no attribute \"{name}\". You're probably treating a list of " ++
          "elements like a single element. Did you call find_all() when you meant to call find()?")
      | some (.instance c _ _) => pure s!"'{← Kind.shownName c}' object has no attribute '{name}'"
      | some (.cls c) => pure s!"type object '{c.name}' has no attribute '{name}'"
      | some (.module n _) => pure s!"module '{n}' has no attribute '{name}'"
      | some (.super ..) => pure s!"'super' object has no attribute '{name}'"
      | _ => pure s!"'{← Kind.name v}' object has no attribute '{name}'"
  Run.raise "AttributeError" (if name == "characters_written" && (← isFault v) then name else message)

/-- What an instance has in the place of a part that its class names. -/
def ofSlot (self owner : Value) (name : String) : Run Value := do
  match ← Run.deref self with
  | some (.instance cls space _) =>
    match name with
    | "__dict__" => return .ref space
    | "__weakref__" => return .none
    | name =>
      match ← Space.get? space name with
      | some v => return v
      | none =>
        Run.raise "AttributeError" s!"'{← Kind.shownName cls}' object has no attribute '{name}'"
  | _ =>
    Run.typeError
      s!"descriptor '{name}' for '{← Kind.nameOf owner}' objects doesn't apply to a '{← Kind.name self}' object"

/-- What an attribute found in a class is for an instance. -/
def bind (m : Machine) (self cls found : Value) : Run Value := do
  match found with
  | .method (.type t) name =>
    if Hierarchy.bindsToInstance t name then
      if ← Kind.isA self t then return .method self name
      Run.typeError
        s!"descriptor '{name}' for '{t}' objects doesn't apply to a '{← Kind.name self}' object"
  | _ => pure ()
  match ← Run.deref found with
  | some (.function _) => Run.new (.boundMethod found self)
  | some (.slot _ owner name) => ofSlot self owner name
  | some (.staticMethod f) => return f
  | some (.classMethod f) => Run.new (.boundMethod f cls)
  | some (.property getter ..) =>
    match getter with
    | .none => Run.raise "AttributeError" "property has no getter"
    | g => m.call g [self]
  | _ =>
    match ← Kind.special? found "__get__" with
    | some f => m.call f [self, cls]
    | none => return found

/-- An attribute found in a class, read from the class itself. -/
def bindToClass (m : Machine) (cls found : Value) : Run Value := do
  match ← Run.deref found with
  | some (.staticMethod f) => return f
  | some (.classMethod f) => Run.new (.boundMethod f cls)
  | _ =>
    match ← Kind.special? found "__get__" with
    | some f => m.call f [.none, cls]
    | none => return found

/-- Attributes of exceptions that are not stored as fields. -/
def exceptionProperty? (cls : Value) (args : List Value) (cause context : Option Value)
    (suppressed : Bool) (fields : Array (String × Value)) (name : String) :
    Run (Option Value) := do
  let classes ← Raised.builtinClasses cls
  match name with
  | "args" => return some (.tuple (Raised.shownArgs classes args))
  | "__notes__" => return none
  | "__cause__" => return some (cause.getD .none)
  | "__context__" => return some (context.getD .none)
  | "__suppress_context__" => return some (.bool suppressed)
  | "__traceback__" => return some .none
  | "exceptions" | "message" =>
    return (fields.find? fun p => p.1 == "." ++ name).map (·.2)
  | name => return Raised.part? classes args name

/-- The method that makes instances, of the first class that has one built in. -/
def newMethod (order : List Value) : Value :=
  let owner := order.findSome? fun c => match c with
    | .type t => if (methodNames t).contains "__new__" then some t else none
    | _ => none
  .native (owner.getD "object" ++ ".__new__")

/-- The methods of the built-in classes that a class inherits from. -/
def inheritedMethod (cls : Value) (name : String) : Run Bool := do
  return (← Kind.order cls).any fun
    | .type c => (methodNames c).contains name
    | _ => false

/-- Fields as a dictionary; those whose names begin with a point are kept apart. -/
def fieldsDict (fields : Array (String × Value)) : Run Value :=
  Run.newDict ((fields.toList.filter fun p => p.1.toList.head? != some '.').map
    fun (k, v) => (.str k, v))

/-- Whether an attribute of a class decides by itself what an instance has under its name. -/
def decides (found : Value) : Run Bool := do
  match ← Run.deref found with
  | some (.property ..) | some (.slot ..) => return true
  | _ =>
    return (← Kind.special? found "__set__").isSome || (← Kind.special? found "__delete__").isSome

/-- An attribute of an instance of a class, given what is stored with it and what its built-in part
has. -/
def ofInstance (m : Machine) (v cls : Value) (name : String) (stored dict : Run (Option Value))
    (rest : Run (Option Value)) : Run (Option Value) := do
  let found ← Kind.attr? cls name
  match found with
  | some f => if ← decides f then return some (← bind m v cls f)
  | none => pure ()
  match ← stored with
  | some x => return some x
  | none =>
    match found with
    | some f => return some (← bind m v cls f)
    | none =>
      if name == "__dict__" then return ← dict
      match ← rest with
      | some x => return some x
      | none =>
        if ← inheritedMethod cls name then
          if name == "__new__" then return some (newMethod (← Kind.order cls))
          return some (.method v name)
        return none

/-- Asks the methods of a class that stand for the look-up of attributes. -/
def asked (m : Machine) (v cls : Value) (name : String) (found : Run (Option Value)) :
    Run (Option Value) := do
  let whole : Run (Option Value) := do
    match ← Kind.attr? cls "__getattribute__" with
    | some f => return some (← m.call (← bind m v cls f) [.str name])
    | none => found
  match ← Kind.attr? cls "__getattr__" with
  | none => whole
  | some f =>
    match ← Iteration.catching "AttributeError" whole with
    | some (some x) => return some x
    | _ => return some (← m.call (← bind m v cls f) [.str name])

/-- The attribute that the classes after a given one define. -/
def ofSuper (m : Machine) (cls self : Value) (name : String) : Run (Option Value) := do
  let isClass ← match ← Run.deref self with
    | some (.cls _) => Kind.inherits self cls
    | _ => pure false
  let own ← if isClass then pure self else Kind.of self
  let order := ((← Kind.order own).dropWhile fun c => !Kind.sameClass c cls).drop 1
  for c in order do
    match c with
    | .type t =>
      if (methodNames t).contains name then
        return some (if name == "__new__" then newMethod [c] else .method self name)
    | c =>
      match ← Run.deref c with
      | some (.cls d) =>
        match ← Space.get? d.space name with
        | some f =>
          if isClass then return some (← bindToClass m self f)
          return some (← bind m self own f)
        | none => pure ()
      | _ => pure ()
  return none

/-- The classes that inherit directly from a class. -/
def directHeirs (v : Value) : Run Value := do
  let all := (← get).heap.toList.zipIdx.filterMap fun (o, i) => match o with
    | .cls c => if c.bases.any (Kind.sameClass v) then some (Value.ref i) else none
    | _ => none
  Run.newList all

/-- Sets a field in a list of fields. -/
def putField (fields : Array (String × Value)) (name : String) (x : Value) :
    Array (String × Value) :=
  match fields.findIdx? fun p => p.1 == name with
  | some i => fields.set! i (name, x)
  | none => fields.push (name, x)

/-- What every class knows of itself. -/
def ownPart? (v : Value) (c : Class) (name : String) : Run (Option Value) := do
  match name with
  | "__name__" => return some (.str c.name)
  | "__qualname__" => return some (.str c.qualifiedName)
  | "__bases__" => return some (.tuple c.bases)
  | "__base__" => return some (← Kind.solidBase c.bases)
  | "__mro__" => return some (.tuple c.order)
  | "__dict__" => return some (← Run.new (.proxy c.space))
  | "__module__" => return some ((← Space.get? c.space name).getD (.str "builtins"))
  | "__doc__" => return some ((← Space.get? c.space name).getD .none)
  | "__annotations__" =>
    match ← Space.get? c.space name with
    | some h => return some h
    | none =>
      let h ← Run.newDict []
      Space.set c.space name h
      return some h
  | "__text_signature__" => return some .none
  | "__flags__" => return some (.int 284160)
  | "__basicsize__" => return some (.int 16)
  | "__itemsize__" | "__dictoffset__" | "__weakrefoffset__" => return some (.int 0)
  | "__class__" => return some c.kind
  | "__abstractmethods__" =>
    match ← Space.get? c.space name with
    | some x => return some x
    | none => Run.raise "AttributeError" "__abstractmethods__"
  | "mro" | "__subclasses__" | "__instancecheck__" | "__subclasscheck__" | "__prepare__" =>
    return some (.method v name)
  | _ => return none

/-- What a built-in class has under a name, as its heirs see it. -/
def inClass? (t name : String) : Run (Option Value) := do
  if name == "__new__" then
    return if (methodNames t).contains name then some (newMethod [.type t]) else none
  if (methodNames t).contains name then return some (.method (.type t) name)
  if (Member.parts t).contains name then
    if name == "__hash__" then return some .none
    if name == "__doc__" || name == "__module__" then return none
    if (Part.kindOf t name) == "property" then
      return some (← Run.new (.property (.method (.type t) name) .none .none .none))
    return some (← Run.new (.slot (Part.kindOf t name) (.type t) name))
  return none

/-- An attribute of a class of the program. -/
def ofClass (m : Machine) (v : Value) (c : Class) (name : String) : Run (Option Value) := do
  let special ← Kind.attr? c.kind name
  match special with
  | some f => if ← decides f then return some (← bind m v c.kind f)
  | none => pure ()
  let direct := ["__name__", "__qualname__", "__bases__", "__base__", "__mro__", "__dict__",
    "__module__", "__doc__", "__annotations__", "__class__", "__text_signature__", "__flags__",
    "__basicsize__", "__itemsize__", "__dictoffset__", "__weakrefoffset__", "__abstractmethods__"]
  if direct.contains name && special.isNone then
    match ← ownPart? v c name with
    | some x => return some x
    | none => pure ()
  match ← Kind.attr? v name, special with
  | some f, _ => return some (← bindToClass m v f)
  | none, some f => return some (← bind m v c.kind f)
  | none, none =>
    for b in c.order do
      match b with
      | .type t =>
        match ← inClass? t name with
        | some x => return some x
        | none => pure ()
      | _ => pure ()
    match ← ownPart? v c name with
    | some x => return some x
    | none => return if name == "__call__" then some (.method v name) else none

/-- What an object keeps under a name that it computes once. -/
def keptOnce (v : Value) (f : Function) (name : String) (x : Run Value) : Run Value := do
  let key := "." ++ name
  match f.attrs.find? fun p => p.1 == key with
  | some (_, y) => return y
  | none =>
    let y ← x
    match v with
    | .ref r => Run.write r (.function { f with attrs := f.attrs.push (key, y) })
    | _ => pure ()
    return y

/-- The dictionary that a function keeps its attributes in, once code has asked for it. -/
def ownDict? (f : Function) : Option Ref :=
  match f.attrs.find? fun p => p.1 == ".__dict__" with
  | some (_, .ref r) => some r
  | _ => none

/-- What is kept apart for an object under a name. -/
def keptApart? (f : Function) (name : String) : Option Value :=
  (f.attrs.find? fun p => p.1 == "." ++ name).map (·.2)

/-- The attributes of a function as a dictionary, in which they are kept from then on. -/
def ownFields (v : Value) (f : Function) : Run Value := do
  match ownDict? f, v with
  | some d, _ => return .ref d
  | none, .ref r =>
    let d ← fieldsDict f.attrs
    let kept := f.attrs.filter fun p => p.1.toList.head? == some '.'
    Run.write r (.function { f with attrs := kept.push (".__dict__", d) })
    return d
  | none, _ => fieldsDict f.attrs

/-- An attribute that was stored with a function. -/
def stored? (f : Function) (name : String) : Run (Option Value) := do
  match ownDict? f with
  | some d => Space.get? d name
  | none => return (f.attrs.find? fun p => p.1 == name).map (·.2)

def ofFunction (v : Value) (f : Function) (name : String) : Run (Option Value) := do
  match ← stored? f name with
  | some x => return some x
  | none =>
    match name with
    | "__name__" => return some (.str f.name)
    | "__qualname__" => return some (.str f.qualifiedName)
    | "__doc__" => return some ((keptApart? f name).getD .none)
    | "__dict__" => return some (← ownFields v f)
    | "__module__" =>
      match keptApart? f name with
      | some x => return some x
      | none => return some ((← Space.get? f.globals "__name__").getD .none)
    | "__defaults__" =>
      return some (if f.defaults.isEmpty then .none else .tuple f.defaults)
    | "__globals__" => return some (.ref f.globals)
    | "__builtins__" =>
      return some ((← Space.get? f.globals name).getD .none)
    | "__annotations__" =>
      return some (← keptOnce v f name
        (Run.newDict (f.hints.map fun (n, h) => (.str n, .str h))))
    | "__kwdefaults__" =>
      if f.nameDefaults.isEmpty then return some .none
      return some (← fieldsDict f.nameDefaults.toArray)
    | "__closure__" => return some (← Part.closure f)
    | "__code__" => return some (← keptOnce v f name (Part.code f))
    | _ => if (methodNames "function").contains name then return some (.method v name) else return none

/-- An attribute of an object. -/
def ofObject (m : Machine) (v : Value) (o : Object) (name : String) : Run (Option Value) := do
  match o with
  | .instance cls space core =>
    let dict : Run (Option Value) := do
      return if (← Kind.slots? cls).isSome then none else some (.ref space)
    ofInstance m v cls name (Space.get? space name) dict
      (do
        match core with
        | some c =>
          match Part.plain? c name with
          | some x => return some x
          | none =>
            match ← Run.deref c with
            | some o => Part.ofObject? o name
            | none => return none
        | none => return none)
  | .exception cls args cause context suppressed fields =>
    ofInstance m v cls name (return (fields.find? fun p => p.1 == name).map (·.2))
      (do return some (← fieldsDict fields))
      (exceptionProperty? cls args cause context suppressed fields name)
  | .cls c => ofClass m v c name
  | .module "builtins" _ =>
    match name with
    | "__dict__" => return some (.ref (← Builtin.space))
    | name => Builtin.find? name
  | .module n space =>
    match ← Space.get? space name with
    | some x => return some x
    | none =>
      match name with
      | "__name__" => return some (.str n)
      | "__dict__" => return some (.ref space)
      | "__doc__" | "__loader__" | "__spec__" => return some .none
      | "__package__" => return some (.str "")
      | _ => return none
  | .function f => ofFunction v f name
  | .boundMethod f self =>
    match name with
    | "__self__" => return some self
    | "__func__" => return some f
    | name =>
      if (methodNames "method").contains name then return some (.method v name)
      match ← Run.deref f with
      | some (.function g) =>
        if (methodNames "function").contains name then return none
        ofFunction f g name
      | _ => return none
  | .super cls self =>
    match ← ofSuper m cls self name with
    | some x => return some x
    | none => Part.ofObject? o name
  | .alias origin .. =>
    match ← Part.ofObject? o name with
    | some x => return some x
    | none =>
      if name == "__mro_entries__" then return some (.method v name)
      if ["__class__", "__origin__", "__args__", "__repr__", "__eq__", "__hash__", "__reduce__",
          "__dir__"].contains name then
        return none
      return some (← m.attr origin name)
  | .classMethod f | .staticMethod f =>
    match ← Part.ofObject? o name with
    | some x => return some x
    | none =>
      if ["__name__", "__qualname__", "__doc__", "__module__", "__annotations__"].contains name then
        return some (← m.attr f name)
      return none
  | o => Part.ofObject? o name

/-- What a built-in class knows of itself. -/
def ofBuiltinClass (t name : String) : Run (Option Value) := do
  let v : Value := .type t
  match name with
  | "__name__" | "__qualname__" => return some (.str t)
  | "__mro__" => return some (.tuple ((builtinOrder t).map .type))
  | "__bases__" => return some (.tuple ((directBases t).map .type))
  | "__base__" =>
    return some (match parentOf? t with
      | some p => .type p
      | none => .none)
  | "__module__" =>
    let path := (Show.typePath t).splitOn "."
    return some (.str (if path.length ≤ 1 then "builtins" else ".".intercalate path.dropLast))
  | "__doc__" | "__text_signature__" => return some .none
  | "__flags__" | "__basicsize__" | "__itemsize__" | "__dictoffset__" | "__weakrefoffset__" =>
    return some (.int 0)
  | "__dict__" =>
    let methods ← (methodNames t ++ Member.parts t).filterMapM fun n => do
      return (← inClass? t n).map fun x => (Value.str n, x)
    let r ← Run.alloc (.dict methods.toArray)
    return some (← Run.new (.proxy r))
  | "__annotations__" => missing v name
  | name =>
    for c in builtinOrder t do
      match ← inClass? c name with
      | some x =>
        return some (match x with
          | .method _ n => .method v n
          | x => x)
      | none => pure ()
    return if (methodNames "type").contains name then some (.method v name) else none

/-- An attribute that a value has by its built-in class. -/
def ofBuiltin (v : Value) (name : String) : Run (Option Value) := do
  match v with
  | .type t => ofBuiltinClass t name
  | v =>
    match Part.plain? v name with
    | some x => return some x
    | none =>
      match ← Part.ofCallable? v name with
      | some x => return some x
      | none =>
        match ← Kind.of v with
        | .type t =>
          if name == "__new__" then return some (newMethod ((builtinOrder t).map .type))
          if hasMethod t name then return some (.method v name)
          match name with
          | "__doc__" => return some .none
          | "__hash__" => return if (Part.ownerOf? t name).isSome then some .none else none
          | "__module__" =>
            match ← ofBuiltinClass t name with
            | some (.str "builtins") => return none
            | x => return if Hierarchy.isWritten t then x else none
          | _ => return none
        | _ => return none

/-- An attribute of a value, without the methods of its class that stand for the look-up. -/
def plain? (m : Machine) (v : Value) (name : String) : Run (Option Value) := do
  if name == "__class__" then return some (← Kind.of v)
  let own ← match v with
    | .node n => NodeMethod.property? m n name
    | v =>
      match ← Run.deref v with
      | some o => ofObject m v o name
      | none => pure none
  match own with
  | some x => return some x
  | none => ofBuiltin v name

/-- An attribute of a value, if it has one of that name. -/
def find? (m : Machine) (v : Value) (name : String) : Run (Option Value) := do
  match v with
  | .ref _ =>
    match ← Kind.of v with
    | .ref c => asked m v (.ref c) name (plain? m v name)
    | _ => plain? m v name
  | v => plain? m v name

/-- The value of an attribute. -/
def get (m : Machine) (v : Value) (name : String) : Run Value := do
  match ← find? m v name with
  | some x => return x
  | none => missing v name

/-- Stores what an instance has under a name, or calls what its class has for it. -/
def storeVia (m : Machine) (v cls : Value) (name : String) (x : Value) (store : Run Unit) :
    Run Unit := do
  match ← Kind.attr? cls name with
  | none => store
  | some f =>
    match ← Run.deref f with
    | some (.property _ .none ..) =>
      Run.raise "AttributeError"
        s!"property '{name}' of '{← Kind.nameOf cls}' object has no setter"
    | some (.property _ setter ..) => discard (m.call setter [v, x])
    | some (.slot ..) => store
    | _ =>
      match ← Kind.special? f "__set__" with
      | some g => discard (m.call g [v, x])
      | none =>
        if (← Kind.special? f "__delete__").isSome then
          Run.raise "AttributeError" "__set__"
        store

/-- Stores what an instance has under a name, if its classes allow the name. -/
def storeInstance (m : Machine) (v cls : Value) (space : Ref) (name : String) (x : Value) :
    Run Unit :=
  storeVia m v cls name x do
    match ← Kind.slots? cls with
    | none => Space.set space name x
    | some names =>
      let found ← Kind.attr? cls name
      let isSlot ← match found with
        | some f =>
          match ← Run.deref f with
          | some (.slot ..) => pure true
          | _ => pure false
        | none => pure true
      if names.contains name && isSlot then Space.set space name x
      else if found.isSome then
        Run.raise "AttributeError"
          s!"'{← Kind.nameOf cls}' object attribute '{name}' is read-only"
      else missing v name

/-- Refuses a new class for a value of a class that is built in. -/
def refuseClass (x : Value) : Run Unit := do
  if !(← Kind.inherits (← Kind.of x) (.type "type")) then
    Run.typeError s!"__class__ must be set to a class, not '{← Kind.name x}' object"
  Run.typeError
    "__class__ assignment only supported for mutable types or ModuleType subclasses"

/-- Whether a value belongs to a class that is built in, and is neither a class nor an exception. -/
def isPlain (v : Value) : Run Bool := do
  match v, ← Run.deref v with
  | .type _, _ | .node _, _ => return false
  | _, some (.instance ..) | _, some (.exception ..) | _, some (.cls _) | _, some (.module ..) =>
    return false
  | _, _ => return true

/-- Gives an instance another class. -/
def changeClass (r : Ref) (cls : Value) (space : Ref) (core : Option Value) (x : Value) :
    Run Unit := do
  match ← Run.deref x, x with
  | some (.cls _), _ =>
    let same := Kind.sameClass (← Kind.solidClass cls) (← Kind.solidClass x) &&
      (← Kind.slots? cls).isSome == (← Kind.slots? x).isSome
    if !same then
      Run.typeError
        s!"__class__ assignment: '{← Kind.nameOf x}' object layout differs from '{← Kind.nameOf cls}'"
    Run.write r (.instance x space core)
  | _, .type _ =>
    Run.typeError
      "__class__ assignment only supported for mutable types or ModuleType subclasses"
  | _, x => Run.typeError s!"__class__ must be set to a class, not '{← Kind.name x}' object"

/-- Refuses to change a part that a value has by its built-in class, or that it does not have. -/
def refuse (v : Value) (name : String) : Run Unit := do
  let fixed (message : String) : Run Unit := Run.raise "AttributeError" message
  for c in ← Kind.order (← Kind.of v) do
    match c with
    | .type t =>
      match ← inClass? t name with
      | some (.ref f) =>
        match ← Run.deref (.ref f) with
        | some (.slot "member_descriptor" ..) => return ← fixed "readonly attribute"
        | some (.slot ..) =>
          return ← fixed s!"attribute '{name}' of '{Kind.dotted t}' objects is not writable"
        | _ =>
          return ← fixed s!"property '{name}' of '{← Kind.name v}' object has no setter"
      | some _ => return ← fixed s!"'{← Kind.name v}' object attribute '{name}' is read-only"
      | none => pure ()
    | _ => pure ()
  if name == "__doc__" then
    match v with
    | .native _ | .method .. =>
      return ← fixed
        s!"attribute '__doc__' of '{← Kind.name v}' objects is not writable"
    | _ => pure ()
    return ← fixed s!"'{← Kind.name v}' object attribute '{name}' is read-only"
  missing v name

/-- Sets an attribute of a function. -/
def setFunction (r : Ref) (f : Function) (name : String) (x : Value) : Run Unit := do
  let write (g : Function) : Run Unit := Run.write r (.function g)
  let must (kind : String) : Run Unit := Run.typeError s!"{name} must be set to a {kind}"
  match name, x with
  | "__name__", .str s => write { f with name := s }
  | "__qualname__", .str s => write { f with qualifiedName := s }
  | "__name__", _ | "__qualname__", _ => must "string object"
  | "__defaults__", .tuple vs => write { f with defaults := vs }
  | "__defaults__", .none => write { f with defaults := [] }
  | "__defaults__", _ => must "tuple object"
  | "__kwdefaults__", .none => write { f with nameDefaults := [] }
  | "__kwdefaults__", x =>
    match ← Run.deref x with
    | some (.dict es) =>
      write { f with nameDefaults := es.toList.filterMap fun (k, v) => match k with
        | .str s => some (s, v)
        | _ => none }
    | _ => must "dict object"
  | "__annotations__", x =>
    match ← Run.deref x, x with
    | some (.dict _), _ => write { f with attrs := putField f.attrs ".__annotations__" x }
    | _, .none =>
      write { f with hints := [], attrs := f.attrs.filter fun p => p.1 != ".__annotations__" }
    | _, _ => must "dict object"
  | "__code__", x =>
    match ← Run.deref x with
    | some (.code _) => write { f with attrs := putField f.attrs ".__code__" x }
    | _ => must "code object"
  | "__dict__", x =>
    match ← Run.deref x with
    | some (.dict _) =>
      let kept := f.attrs.filter fun p => p.1.toList.head? == some '.'
      write { f with attrs := putField kept ".__dict__" x }
    | _ => Run.typeError s!"__dict__ must be set to a dictionary, not a '{← Kind.name x}'"
  | "__closure__", _ | "__globals__", _ | "__builtins__", _ =>
    Run.raise "AttributeError" "readonly attribute"
  | "__doc__", _ | "__module__", _ => write { f with attrs := putField f.attrs ("." ++ name) x }
  | _, _ =>
    match ownDict? f with
    | some d => Space.set d name x
    | none => write { f with attrs := putField f.attrs name x }

/-- Sets what a class knows of itself; says whether the name is one of that. -/
def setOwnPart (r : Ref) (c : Class) (name : String) (x : Value) : Run Bool := do
  match name, x with
  | "__name__", .str s =>
    Run.write r (.cls { c with name := s })
    return true
  | "__qualname__", .str s =>
    Run.write r (.cls { c with qualifiedName := s })
    return true
  | "__name__", x | "__qualname__", x =>
    Run.typeError s!"can only assign string to {c.name}.{name}, not '{← Kind.name x}'"
  | "__mro__", _ | "__base__", _ => Run.raise "AttributeError" "readonly attribute"
  | "__dict__", _ =>
    Run.raise "AttributeError" s!"attribute '{name}' of 'type' objects is not writable"
  | "__bases__", .tuple [] =>
    Run.typeError s!"can only assign non-empty tuple to {c.name}.__bases__, not ()"
  | "__bases__", .tuple bs =>
    let rest := (← bs.mapM Kind.order).flatten.foldl
      (fun acc b => (acc.filter fun d => !Kind.sameClass b d) ++ [b]) []
    Run.write r (.cls { c with bases := bs, order := .ref r :: rest })
    return true
  | "__bases__", x =>
    Run.typeError s!"can only assign tuple to {c.name}.__bases__, not {← Kind.name x}"
  | _, _ => return false

/-- Sets a part that every exception has; says whether the name is one of that. -/
def setExceptionPart (m : Machine) (r : Ref) (name : String) (x : Value) : Run Bool := do
  match ← Run.object? r with
  | some (.exception cls args cause context suppressed fields) =>
    let linked : Run (Option Value) := do
      match x, ← Run.deref x with
      | .none, _ => return none
      | _, some (.exception ..) => return some x
      | _, _ =>
        let part := if name == "__cause__" then "cause" else "context"
        Run.typeError s!"exception {part} must be None or derive from BaseException"
    let classes ← Raised.builtinClasses cls
    match name with
    | "__cause__" => Run.write r (.exception cls args (← linked) context true fields)
    | "__context__" => Run.write r (.exception cls args cause (← linked) suppressed fields)
    | "__suppress_context__" =>
      Run.write r (.exception cls args cause context (← Iteration.truth m x) fields)
    | "args" => Run.write r (.exception cls (← Iteration.collect m x) cause context suppressed fields)
    | "__traceback__" =>
      match x with
      | .none => pure ()
      | _ => Run.typeError "__traceback__ must be a traceback or None"
    | "__class__" =>
      match x, ← Run.deref x with
      | _, some (.cls _) => return false
      | x, _ =>
        refuseClass x
        return false
    | "__dict__" =>
      match x, ← Run.deref x with
      | .ref _, some (.dict es) =>
        let kept := fields.filter fun p => p.1.startsWith "."
        let more := es.filterMap fun (k, v) => match k with
          | .str s => some (s, v)
          | _ => none
        Run.write r (.exception cls args cause context suppressed (kept ++ more))
      | _, _ => Run.typeError s!"__dict__ must be set to a dictionary, not a '{← Kind.name x}'"
    | "message" | "exceptions" =>
      if classes.contains "BaseExceptionGroup" then
        Run.raise "AttributeError" "readonly attribute"
      return false
    | _ => return false
    return true
  | _ => return false

/-- Sets an attribute of an instance as the method of its class for it does, if there is one. -/
def setVia (m : Machine) (v cls : Value) (name : String) (x : Value) (plain : Run Unit) :
    Run Unit := do
  match ← Kind.attr? cls "__setattr__" with
  | some f => discard (m.call (← bind m v cls f) [.str name, x])
  | none => plain

/-- Sets an attribute of an instance, without the method of the class that stands for it. -/
def setInstance (m : Machine) (r : Ref) (cls : Value) (space : Ref) (core : Option Value)
    (name : String) (x : Value) : Run Unit := do
  match name with
  | "__class__" => changeClass r cls space core x
  | "__dict__" =>
    if (← Kind.slots? cls).isSome then return ← storeInstance m (.ref r) cls space name x
    match ← Run.deref x, x with
    | some (.dict _), .ref d => Run.write r (.instance cls d core)
    | _, _ => Run.typeError s!"__dict__ must be set to a dictionary, not a '{← Kind.name x}'"
  | name => storeInstance m (.ref r) cls space name x

/-- Sets an attribute. -/
def set (m : Machine) (v : Value) (name : String) (x : Value) : Run Unit := do
  if name == "__class__" && (← isPlain v) then return ← refuseClass x
  match v with
  | .node n => NodeMethod.setProperty m n name x
  | .type t =>
    if !Hierarchy.isWritten t then
      Run.typeError s!"cannot set '{name}' attribute of immutable type '{Kind.dotted t}'"
  | .ref r =>
    match ← Run.object? r with
    | some (.instance cls space core) =>
      setVia m v cls name x (setInstance m r cls space core name x)
    | some (.exception cls ..) =>
      setVia m v cls name x do
        if ← setExceptionPart m r name x then return ()
        storeVia m v cls name x do
          match ← Run.object? r with
          | some (.exception cls args cause context suppressed fields) =>
            Run.write r (.exception cls args cause context suppressed (putField fields name x))
          | _ => return ()
    | some (.cls c) =>
      setVia m v c.kind name x do
        if ← setOwnPart r c name x then return ()
        storeVia m v c.kind name x (Space.set c.space name x)
    | some (.module "builtins" _) => Space.set (← Builtin.space) name x
    | some (.module _ space) => Space.set space name x
    | some (.function f) => setFunction r f name x
    | some (.opaqueThing ..) | some (.userList _) | some (.userText _) => return ()
    | some (.generator g) =>
      match name, x with
      | "__name__", .str s => Run.write r (.generator { g with name := s })
      | "__qualname__", .str s => Run.write r (.generator { g with name := s })
      | "__name__", _ | "__qualname__", _ =>
        Run.typeError s!"{name} must be set to a string object"
      | _, _ => refuse v name
    | some (.cell scope n) =>
      if name == "cell_contents" then Variable.write scope n x else refuse v name
    | some (.boundMethod ..) => missing v name
    | some (.staticMethod _) | some (.classMethod _) => return ()
    | _ => refuse v name
  | v => refuse v name

/-- Deletes an attribute of a function. -/
def deleteFunction (r : Ref) (f : Function) (name : String) : Run Unit := do
  match name with
  | "__name__" | "__qualname__" => Run.typeError s!"{name} must be set to a string object"
  | "__code__" => Run.typeError "__code__ must be set to a code object"
  | "__dict__" => Run.typeError "cannot delete __dict__"
  | "__defaults__" => Run.write r (.function { f with defaults := [] })
  | "__kwdefaults__" => Run.write r (.function { f with nameDefaults := [] })
  | "__annotations__" =>
    Run.write r (.function { f with
      hints := [], attrs := f.attrs.filter fun p => p.1 != ".__annotations__" })
  | "__closure__" | "__globals__" | "__builtins__" =>
    Run.raise "AttributeError" "readonly attribute"
  | "__doc__" | "__module__" =>
    Run.write r (.function { f with attrs := putField f.attrs ("." ++ name) .none })
  | name =>
    match ownDict? f with
    | some d => if !(← Space.erase d name) then missing (.ref r) name
    | none =>
      match f.attrs.findIdx? fun p => p.1 == name with
      | some i => Run.write r (.function { f with attrs := f.attrs.eraseIdxIfInBounds i })
      | none => missing (.ref r) name

/-- Deletes an attribute, without the method of the class that stands for it. -/
def deletePlain (m : Machine) (v : Value) (name : String) : Run Unit := do
  if name == "__class__" && !(v matches .type _) then
    Run.typeError "can't delete __class__ attribute"
  let via (cls : Value) (erase : Run Unit) : Run Unit := do
    match ← Kind.attr? cls name with
    | none => erase
    | some f =>
      match ← Run.deref f with
      | some (.property _ _ .none _) =>
        Run.raise "AttributeError"
          s!"property '{name}' of '{← Kind.nameOf cls}' object has no deleter"
      | some (.property _ _ d _) => discard (m.call d [v])
      | some (.slot "member_descriptor" ..) =>
        match ← Run.deref v with
        | some (.instance _ space _) =>
          if !(← Space.erase space name) then Run.raise "AttributeError" name
        | _ => erase
      | _ =>
        match ← Kind.special? f "__delete__" with
        | some g => discard (m.call g [v])
        | none =>
          if (← Kind.special? f "__set__").isSome then Run.raise "AttributeError" "__delete__"
          erase
  match ← Run.deref v, v with
  | _, .node n => if !(← NodeMethod.deleteProperty n name) then missing v name
  | some (.instance cls space core), .ref r =>
    if name == "__dict__" && (← Kind.slots? cls).isNone then
      return ← Run.write r (.instance cls (← Run.alloc (.dict #[])) core)
    via cls do
      if !(← Space.erase space name) then missing v name
  | some (.exception cls args cause context s fields), .ref r =>
    if name == "__dict__" then Run.typeError "cannot delete __dict__"
    via cls do
      match fields.findIdx? fun p => p.1 == name with
      | some i =>
        Run.write r (.exception cls args cause context s (fields.eraseIdxIfInBounds i))
      | none => missing v name
  | some (.cls c), _ =>
    via c.kind do
      if !(← Space.erase c.space name) then missing v name
  | some (.module "builtins" _), _ =>
    if !(← Space.erase (← Builtin.space) name) then missing v name
  | some (.module _ space), _ => if !(← Space.erase space name) then missing v name
  | some (.function f), .ref r => deleteFunction r f name
  | _, .type t =>
    Run.typeError s!"cannot set '{name}' attribute of immutable type '{Kind.dotted t}'"
  | some (.generator _), _ =>
    if name == "__name__" || name == "__qualname__" then
      Run.typeError s!"{name} must be set to a string object"
    refuse v name
  | _, _ => refuse v name

/-- Deletes an attribute. -/
def delete (m : Machine) (v : Value) (name : String) : Run Unit := do
  let cls ← Kind.of v
  match ← Kind.attr? cls "__delattr__" with
  | some f => discard (m.call (← bind m v cls f) [.str name])
  | none => deletePlain m v name

end Attribute

end LiveMarkdown.Script
