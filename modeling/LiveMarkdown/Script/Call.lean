import LiveMarkdown.Script.Execution
import LiveMarkdown.Script.Import
import LiveMarkdown.Script.Method.Generator
import LiveMarkdown.Script.Method.Special

/-!
Calls: of functions, of methods, of classes and of objects whose class allows it.
-/

namespace LiveMarkdown.Script

namespace Call

/-- Whether a run of a function has nothing to say on the names inside of it. -/
def isTransparent (f : Function) : Bool :=
  f.names.locals.isEmpty && (f.names.globals.isEmpty || f.scope.isNone)

/-- Where the body of a function runs. -/
def frame (f : Function) (scope : Ref) : Frame where
  kind := .function
  globals := f.globals
  builtins := f.builtins
  scope := some scope
  closure := if isTransparent f then f.scope else some scope
  names := f.names
  space := none
  owner := f.owner
  privateTo := f.privateTo
  firstParam := f.params.first?
  path := f.qualifiedName ++ ".<locals>."

/-- The call of a function: its result, or the object that answers step by step. -/
def function (m : Machine) (f : Function) (a : Args) : Run Value := do
  let vars ← Binding.bind f a.values a.names
  let scope ← Run.alloc (.scope f.names vars.toArray f.scope)
  let fr := frame f scope
  match f.kind with
  | .plain =>
    match ← m.block fr f.body with
    | .return v => return v
    | _ => return .none
  | kind =>
    Run.new (.generator
      { name := f.qualifiedName
        frame := fr
        tasks := [.run f.body]
        started := false
        running := false
        finished := false
        kind
        result := .none })

/-! ### Exceptions -/

/-- An exception from a class or an instance. -/
def toException (m : Machine) (v : Value) : Run Value := do
  match v with
  | .type t =>
    if isExceptionName t then m.call v []
    else Run.typeError "exceptions must derive from BaseException"
  | v =>
    match ← Run.deref v with
    | some (.exception ..) => return v
    | some (.cls _) =>
      if ← Kind.inherits v (.type "BaseException") then
        let e ← m.call v []
        match ← Run.deref e with
        | some (.exception ..) => return e
        | _ =>
          Run.typeError s!"calling {← m.shown v} should have returned an instance of BaseException, not {← m.shown (← Kind.of e)}"
      else Run.typeError "exceptions must derive from BaseException"
    | _ => Run.typeError "exceptions must derive from BaseException"

/-! ### Methods of built-in classes -/

/-- Calls a method of an object. -/
def objectMethod (m : Machine) (v : Value) (r : Ref) (o : Object) (name : String) (a : Args) :
    Run Value := do
  match o with
  | .list _ => ListMethod.callList m r name a
  | .deque items limit changes => DequeMethod.call m r items limit changes name a
  | .userList _ => ListMethod.callWrapped m r name a
  | .dict es => DictMethod.call m r es name a
  | .proxy source =>
    match ← Run.object? source with
    | some (.dict es) => DictMethod.call m source es name a
    | _ => Attribute.missing v name
  | .set frozen items => SetMethod.call m r frozen items name a
  | .userText s => TextMethod.callWrapped m s name a
  | .byteArray bs => BytesMethod.callArray m r bs name a
  | .memory view => MemoryMethod.call m (fun bs a => BytesMethod.callBytes m bs "hex" a) r view name a
  | .view kind _ =>
    match name with
    | "isdisjoint" =>
      SetMethod.isDisjoint m (← Iteration.collect m v).toArray (← a.one (kind ++ ".isdisjoint"))
    | _ => Iteration.iter m v
  | .generator g => GeneratorMethod.call m r g name a
  | .pull p => GeneratorMethod.callPull m r p name a
  | .iterator _ =>
    match name with
    | "__next__" =>
      match ← m.next v with
      | some x => return x
      | none => Run.raiseWith "StopIteration" []
    | _ => return v
  | .alias origin args _ =>
    match name with
    | "__mro_entries__" => return .tuple [origin]
    | "__reduce__" => return .tuple [← Kind.of v, .tuple [origin, .tuple args]]
    | _ => Attribute.missing v name
  | .property g s d doc =>
    let f ← a.one name
    match name with
    | "getter" => Run.new (.property f s d doc)
    | "setter" => Run.new (.property g f d doc)
    | _ => Run.new (.property g s f doc)
  | .instance (.type "CSS") space _ =>
    match ← Space.get? space "tag" with
    | some (.node n) => NodeMethod.callSelection m n name a
    | _ => Attribute.missing v name
  | .cls c =>
    match name with
    | "mro" =>
      a.none (c.name ++ ".mro")
      Run.newList c.order
    | "__subclasses__" =>
      a.none (c.name ++ ".__subclasses__")
      Attribute.directHeirs v
    | _ => Attribute.missing v name
  | _ => Attribute.missing v name

/-- Calls a method of a value of a built-in class. -/
def valueMethod (m : Machine) (v : Value) (name : String) (a : Args) : Run Value := do
  match v with
  | .node n =>
    let f ← Run.forest
    match f.content? n with
    | some (.text _ s) =>
      if (Member.methods "str").contains name && !NodeMethod.textNames.contains name then
        TextMethod.call m s name a
      else NodeMethod.call m n name a
    | _ => NodeMethod.call m n name a
  | .factory _ => Element.call m name a
  | v =>
    match ← Kind.core v with
    | .str s => TextMethod.call m s name a
    | .bytes bs => BytesMethod.callBytes m bs name a
    | .tuple vs => ListMethod.callTuple m vs name a
    | .range x y z => RangeMethod.call m x y z name a
    | .slice x y z => RangeMethod.indices m x y z a
    | .int n => NumberMethod.callInt m n name a
    | .bool b =>
      let found ← NumberMethod.callInt m (if b then 1 else 0) name a
      if name == "from_bytes" then return .bool (← Iteration.truth m found)
      return found
    | .float x =>
      if name == "fromhex" then NumberMethod.fromHex m (← Kind.of v) a
      else NumberMethod.callFloat x name a
    | .complex x y => NumberMethod.callComplex x y name a
    | .fraction n d => NumberMethod.callFraction m n d name a
    | .decimal d => NumberMethod.callDecimal d name a
    | .date y mo d => DayMethod.callDate m y mo d name a
    | .moment t => DayMethod.callMoment m t name a
    | c =>
      match c, ← Run.deref c with
      | .ref r, some o => objectMethod m c r o name a
      | _, _ => Attribute.missing v name

/-- Calls a method that belongs to a class itself, or one whose instance is the first argument. -/
def classMethod (m : Machine) (cls name : String) (a : Args) : Run Value := do
  match cls, name with
  | "type", "mro" =>
    match a.values with
    | [] => Run.typeError "unbound method type.mro() needs an argument"
    | v :: _ =>
      if !(← Native.isClass v) then
        Run.typeError s!"descriptor 'mro' for 'type' objects doesn't apply to a '{← Kind.name v}' object"
      if 1 < a.count then Run.typeError s!"type.mro() takes no arguments ({a.count - 1} given)"
      Run.newList (← Kind.order v)
  | _, "mro" =>
    a.none (cls ++ ".mro")
    Run.newList ((builtinOrder cls).map .type)
  | "dict", "fromkeys" => DictMethod.fromKeys m a
  | "str", "maketrans" => TextMethod.call m "" name a
  | "int", "from_bytes" => NumberMethod.fromBytes m a
  | "bool", "from_bytes" => return .bool (← Iteration.truth m (← NumberMethod.fromBytes m a))
  | "float", "fromhex" => NumberMethod.fromHex m (.type "float") a
  | "Decimal", "from_float" =>
    match ← Kind.core (← a.one "Decimal.from_float") with
    | .int n => return .decimal (Arithmetic.scaledOfInt n)
    | .bool b => return .decimal (Arithmetic.scaledOfInt (if b then 1 else 0))
    | .float x => return .decimal (NumberMethod.scaledOfFloat x)
    | _ => Run.typeError "argument must be int or float"
  | "bytes", "fromhex" => return .bytes (← BytesMethod.fromHex a "bytes")
  | "bytearray", "fromhex" => Run.new (.byteArray (← BytesMethod.fromHex a "bytearray"))
  | "bytes", "maketrans" | "bytearray", "maketrans" => BytesMethod.makeTable a
  | "UserString", "maketrans" => TextMethod.call m "" name a
  | _, "__class_getitem__" =>
    let part ← a.one (cls ++ ".__class_getitem__")
    Run.new (.alias (.type cls) (Subscript.aliasParts part))
  | _, "__init_subclass__" | _, "__subclasshook__" =>
    return (← SpecialMethod.callOf? m "object" (.type cls) name a).getD .none
  | _, "__prepare__" => Run.newDict []
  | _, name =>
    let owner := Hierarchy.methodOwner cls name
    if !(Member.methods owner).contains name then
      -- a method of the class of the class
      match name with
      | "__call__" => m.callWith (.type cls) a.values a.names
      | "__subclasses__" =>
        a.none (cls ++ ".__subclasses__")
        Attribute.directHeirs (.type cls)
      | name => return (← SpecialMethod.callOf? m "type" (.type cls) name a).getD .none
    else
      let slot := Hierarchy.isSlot owner name
      match a.values with
      | [] =>
        if slot then Run.typeError s!"descriptor '{name}' of '{owner}' object needs an argument"
        Run.typeError s!"unbound method {owner}.{name}() needs an argument"
      | v :: vs =>
        if !(← Kind.isA v owner) then
          if slot then
            Run.typeError
              s!"descriptor '{name}' requires a '{owner}' object but received a '{← Kind.name v}'"
          Run.typeError s!"descriptor '{name}' for '{owner}' objects doesn't apply to a '{← Kind.name v}' object"
        let direct := match v with
          | .type _ => true
          | _ => owner == "object"
        if direct && name.startsWith "__" then
          if name == "__call__" then return ← m.callWith v vs a.names
          match ← SpecialMethod.callOf? m owner v name ⟨vs, a.names⟩ with
          | some r => return r
          | none => m.callWith (.method v name) vs a.names
        else m.callWith (.method v name) vs a.names

/-! ### Instances -/

/-- The first built-in class that a class inherits from. -/
def baseName (c : Class) : String :=
  (c.order.filterMap fun b => match b with
    | .type t => some t
    | _ => none).head?.getD "object"

/-- A new instance of a class of the program, not yet set up. -/
def newInstance (m : Machine) (cls : Value) (c : Class) (a : Args) : Run Value := do
  let base := baseName c
  let setsUp := (← Kind.attr? cls "__init__").isSome
  if base == "type" then return ← Construct.typeOf m cls a
  if isExceptionName base then
    match a.names with
    | (_ :: _) =>
      if !setsUp then Run.typeError s!"{c.name}() takes no keyword arguments"
    | [] => pure ()
    if ← Kind.inherits cls (.type "BaseExceptionGroup") then return ← Group.new m cls a.values
    return ← Run.new (.exception cls a.values none none false #[])
  match base with
  | "object" => Construct.newPlain cls none
  | "list" | "dict" | "set" =>
    let part ← Construct.call m base (if setsUp then ⟨[], []⟩ else a)
    Construct.newPlain cls (some part)
  | base =>
    let part ← Construct.call m base a
    Construct.newPlain cls (some part)

/-- A new instance of a class of the program. -/
def instantiate (m : Machine) (cls : Value) (c : Class) (a : Args) : Run Value := do
  let maker ← Kind.attr? cls "__new__"
  let made ← match maker with
    | some f =>
      let f ← match ← Run.deref f with
        | some (.staticMethod g) => pure g
        | _ => pure f
      m.callWith f (cls :: a.values) a.names
    | none => newInstance m cls c a
  if !(← Kind.inherits (← Kind.of made) cls) then return made
  match ← Kind.attr? cls "__init__" with
  | some f =>
    let f ← Attribute.bind m made cls f
    match ← m.callWith f a.values a.names with
    | .none => return made
    | r => Run.typeError s!"__init__() should return None, not '{← Kind.name r}'"
  | none =>
    let plain ← match made, ← Run.deref made with
      | .ref r, some (.exception cls _ cause context suppressed fields) =>
        if !a.names.isEmpty then Run.typeError s!"{c.name}() takes no keyword arguments"
        Run.write r (.exception cls a.values cause context suppressed fields)
        pure false
      | _, some (.instance _ _ none) => pure true
      | _, _ => pure false
    if plain && maker.isNone && (a.count ≠ 0 || !a.names.isEmpty) then
      Run.typeError s!"{c.name}() takes no arguments"
    return made

/-- The instance that a built-in class makes for a class given as the first argument. -/
def makeInstance (m : Machine) (maker : String) (a : Args) : Run Value := do
  let full := maker ++ ".__new__"
  match a.values with
  | [] => Run.typeError s!"{full}(): not enough arguments"
  | cls :: rest =>
    if !(← Kind.inherits (← Kind.of cls) (.type "type")) then
      Run.typeError s!"{full}(X): X is not a type object ({← Kind.name cls})"
    let shown ← Kind.shownName cls
    if !(← Kind.inherits cls (.type maker)) then
      Run.typeError s!"{full}({shown}): {shown} is not a subtype of {maker}"
    let owner ← match Attribute.newMethod (← Kind.order cls) with
      | .native n => pure ((n.splitOn ".").headD "object")
      | _ => pure "object"
    if owner ≠ maker && (maker == "object" || !isExceptionName maker) then
      Run.typeError s!"{full}({shown}) is not safe, use {owner}.__new__()"
    match cls with
    | .type t => Construct.call m t ⟨rest, a.names⟩
    | cls =>
      match ← Run.deref cls with
      | some (.cls c) =>
        if baseName c == "object" && (← Kind.attr? cls "__new__").isSome && !rest.isEmpty then
          Run.typeError "object.__new__() takes exactly one argument (the type to instantiate)"
        newInstance m cls c ⟨rest, a.names⟩
      | _ => return .none

/-! ### All calls -/

/-- Calls a built-in method of a value. -/
def method (m : Machine) (self : Value) (name : String) (a : Args) : Run Value := do
  match self with
  | .type t => classMethod m t name a
  | v =>
    let other : Run Value := do
      match ← SpecialMethod.call? m v name a with
      | some r => return r
      | none => valueMethod m v name a
    match ← Run.deref v with
    | some (.generator _) | some (.iterator _) | some (.pull _) =>
      match name with
      | "__iter__" | "__next__" | "send" | "throw" | "close" | "__await__" | "__aiter__"
      | "__anext__" | "asend" | "athrow" | "aclose" =>
        Arity.check (← SpecialMethod.ownerOf v name) name a
        valueMethod m v name a
      | _ => other
    | some (.cls c) => if name == "__call__" then instantiate m v c a else other
    | _ => other

/-- Calls a built-in function; one of a module is known by the name of the module and its own. -/
def native (m : Machine) (name : String) (a : Args) : Run Value := do
  match name with
  | "import_star" => Import.callCopy m a
  | "__import__" =>
    match a.at? 0 "name" with
    | some (.str s) =>
      discard (Import.load m s)
      Import.load m ((s.splitOn ".").headD s)
    | _ => Run.typeError "__import__() argument 1 must be str"
  | "eval" | "exec" | "compile" =>
    let space ← match (← get).globals with
      | some r => pure r
      | none => Run.alloc (.dict #[])
    return (← Execution.call? m name space (return .ref space) a).getD .none
  | "aiter" => GeneratorMethod.aiter m a
  | "anext" => GeneratorMethod.anext m a
  | "quit" | "exit" =>
    match (← (Signature.mk "Quitter.__call__" ["code"] 0 0 []).take a) with
    | some v :: _ => Run.raiseWith "SystemExit" [v]
    | _ => Run.raiseWith "SystemExit" [.none]
  | name =>
    match name.splitOn "." with
    | ["math", n] => Mathematics.call m (Operator.binary m) n a
    | ["posixpath", n] => FilePath.call m n a
    | [cls, "__new__"] => makeInstance m cls a
    | _ => Native.call m (Operator.binary m) name a

/-- An instance made through a class with classes for its parts, which it remembers if it can store
anything. -/
def instanceOfAlias (m : Machine) (f origin : Value) (a : Args) : Run Value := do
  let v ← m.callWith origin a.values a.names
  match ← Run.deref v with
  | some (.instance ..) | some (.exception ..) =>
    discard (Iteration.catching "AttributeError"
      (Iteration.catching "TypeError" (Attribute.set m v "__orig_class__" f)))
  | _ => pure ()
  return v

def call (m : Machine) (f : Value) (args : List Value) (names : List (String × Value)) :
    Run Value := do
  let a : Args := ⟨args, names⟩
  let refuse : Run Value := do Run.typeError s!"'{← Kind.name f}' object is not callable"
  match f with
  | .type cls => Construct.call m cls a
  | .native name => native m name a
  | .method self name => method m self name a
  | .ref r =>
    match ← Run.object? r with
    | some (.function g) => function m g a
    | some (.boundMethod g self) => m.callWith g (self :: args) names
    | some (.staticMethod g) => m.callWith g args names
    | some (.alias origin ..) => instanceOfAlias m f origin a
    | some (.cls c) =>
      match ← Kind.special? f "__call__" with
      | some g => m.callWith g args names
      | none => instantiate m f c a
    | some _ =>
      match ← Kind.special? f "__call__" with
      | some g => m.callWith g args names
      | none => refuse
    | none => refuse
  | .node n =>
    -- an element that is called searches below itself
    if (← Run.forest).isTag n || (← Run.forest).isRoot n then NodeMethod.call m n "find_all" a
    else refuse
  | _ => refuse

end Call

end LiveMarkdown.Script
