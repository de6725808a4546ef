import LiveMarkdown.Script.Format
import LiveMarkdown.Script.Hierarchy

/-!
The arguments of built-in functions and methods: how many there may be, and what kind of value each
must be.
-/

namespace LiveMarkdown.Script

/-- The arguments of a call. -/
structure Args where
  values : List Value
  names : List (String × Value)

namespace Args

def count (a : Args) : Nat := a.values.length

def plural (n : Nat) : String := if n = 1 then "argument" else "arguments"

def noNames (a : Args) (name : String) : Run Unit := do
  match a.names with
  | [] => return ()
  | _ => Run.typeError s!"{name}() takes no keyword arguments"

/-- No arguments. -/
def none (a : Args) (name : String) : Run Unit := do
  a.noNames name
  if a.count ≠ 0 then Run.typeError s!"{name}() takes no arguments ({a.count} given)"

/-- Exactly one argument. -/
def one (a : Args) (name : String) : Run Value := do
  a.noNames name
  match a.values with
  | [v] => return v
  | _ => Run.typeError s!"{name}() takes exactly one argument ({a.count} given)"

/-- The last part of a name with dots. -/
def lastPart (name : String) : String := ((name.splitOn ".").getLast?).getD name

/-- Between `lo` and `hi` arguments by position. -/
def between (a : Args) (name : String) (lo hi : Nat) : Run (List Value) := do
  a.noNames name
  let name := lastPart name
  if a.count < lo then
    if lo = hi then Run.typeError s!"{name} expected {lo} {plural lo}, got {a.count}"
    Run.typeError s!"{name} expected at least {lo} {plural lo}, got {a.count}"
  if hi < a.count then
    if lo = hi then Run.typeError s!"{name} expected {lo} {plural lo}, got {a.count}"
    Run.typeError s!"{name} expected at most {hi} {plural hi}, got {a.count}"
  return a.values

/-- Between `lo` and `hi` arguments by position, in the words of the functions that count them
all together. -/
def counted (a : Args) (name : String) (lo hi : Nat) : Run (List Value) := do
  if a.count < lo then
    Run.typeError s!"{name}() takes at least {lo} {plural lo} ({a.count} given)"
  if hi < a.count then
    Run.typeError s!"{name}() takes at most {hi} {plural hi} ({a.count} given)"
  return a.values

/-- Between `lo` and `hi` arguments, in the words of the functions that read them by a pattern. -/
def parsed (a : Args) (name : String) (lo hi : Nat) : Run (List Value) := do
  a.noNames name
  let (word, n) := if lo = hi then ("exactly", lo) else if a.count < lo then ("at least", lo)
    else ("at most", hi)
  if a.count < lo || hi < a.count then
    Run.typeError s!"{name}() takes {word} {n} {plural n} ({a.count} given)"
  return a.values

/-- Names in a sentence: the last one after "and". -/
def listed : List String → String
  | [] => ""
  | [a] => s!"'{a}'"
  | [a, b] => s!"'{a}' and '{b}'"
  | names =>
    ", ".intercalate (names.dropLast.map fun n => s!"'{n}'") ++ ", and '" ++
      names.getLast?.getD "" ++ "'"

/-- What the parameters of a method are given, with the values and the names that are left. -/
structure Taken where
  given : List (Option Value)
  more : List Value
  names : List (String × Value)

/-- Arguments for the parameters of a method, all of which take names; the first ones must be given.
The instance counts as an argument. Values and names that are left are refused, unless they are
welcome. -/
def take (a : Args) (name : String) (params : List String) (needed : Nat)
    (takesMore takesNames : Bool) : Run Taken := do
  for (k, _) in a.names do
    match params.findIdx? (· == k) with
    | some i =>
      if i < a.count then
        Run.typeError s!"{name}() got multiple values for argument '{k}'"
    | Option.none =>
      if !takesNames then Run.typeError s!"{name}() got an unexpected keyword argument '{k}'"
  let most := params.length
  if most < a.count && !takesMore then
    let (few, many) := (needed + 1, most + 1)
    let range := if few = many then s!"{many}" else s!"from {few} to {many}"
    Run.typeError (s!"{name}() takes {range} positional {plural many} but {a.count + 1} " ++
      "were given")
  let found : List (String × Option Value) := params.zipIdx.map fun (n, i) =>
    match a.values[i]? with
    | some v => (n, some v)
    | Option.none => (n, (a.names.find? fun p => p.1 == n).map fun p => p.2)
  let missing := (found.take needed).filter fun p => p.2.isNone
  if !missing.isEmpty then
    Run.typeError (s!"{name}() missing {missing.length} required positional " ++
      s!"{plural missing.length}: {listed (missing.map (·.1))}")
  return ⟨found.map (·.2), a.values.drop most, a.names.filter fun p => !params.contains p.1⟩

/-- The value of a parameter, or what it is if it was not given. -/
def Taken.get (t : Taken) (i : Nat) (default : Value) : Value := (t.given[i]?.join).getD default

/-- Arguments for parameters that all take names, of which the first ones must be given. -/
def filled (a : Args) (name : String) (needed optional : List String) : Run Args := do
  if optional.contains "*" && needed.length ≤ a.count then return a
  let t ← a.take name (needed ++ optional) needed.length false false
  return ⟨(t.given.takeWhile Option.isSome).filterMap id, []⟩

/-- An argument by position or by name. -/
def at? (a : Args) (i : Nat) (name : String) : Option Value :=
  match a.values[i]? with
  | some v => some v
  | Option.none => (a.names.find? fun p => p.1 == name).map (·.2)

/-- Refuses names other than the given ones. -/
def onlyNames (a : Args) (func : String) (allowed : List String) : Run Unit := do
  match a.names.find? fun p => !allowed.contains p.1 with
  | some (n, _) => Run.typeError s!"'{n}' is an invalid keyword argument for {func}()"
  | Option.none => return ()

end Args

/-- The parameters of a built-in function: those that arguments by position or by name can fill, of
which the first ones may take no names and the first ones must be given, and those that take names
only. -/
structure Signature where
  name : String
  params : List String
  required : Nat
  placeOnly : Nat
  nameOnly : List String

namespace Signature

/-- A function whose parameters all take names. -/
def named (name : String) (required : Nat) (params : List String) : Signature :=
  ⟨name, params, required, 0, []⟩

/-- How many arguments there may be, in words. -/
def bounds (least most : Nat) : String := if least < most then "at most" else "exactly"

/-- Refuses more arguments than there are parameters. -/
def checkCount (s : Signature) (a : Args) : Run Unit := do
  let most := s.params.length + s.nameOnly.length
  let given := a.count + a.names.length
  if most < given then
    let kind := if a.count = 0 then "keyword " else ""
    let noun := Args.plural most
    Run.typeError (s!"{s.name}() takes {bounds s.required most} {most} " ++
      s!"{kind}{noun} ({given} given)")
  if s.params.length < a.count then
    if s.params.isEmpty then Run.typeError s!"{s.name}() takes no positional arguments"
    let most := s.params.length
    Run.typeError (s!"{s.name}() takes {bounds s.required most} {most} positional " ++
      s!"{Args.plural most} ({a.count} given)")
  let least := min s.placeOnly s.required
  if a.count < least then
    let word := if least < s.params.length then "at least" else "exactly"
    Run.typeError (s!"{s.name}() takes {word} {least} positional " ++
      s!"{Args.plural least} ({a.count} given)")

/-- The arguments in the order of the parameters, those by name only last. -/
def take (s : Signature) (a : Args) : Run (List (Option Value)) := do
  s.checkCount a
  let all := s.params ++ s.nameOnly
  let values := all.zipIdx.map fun (n, i) =>
    match a.values[i]? with
    | some v => some v
    | none => if i < s.placeOnly then none else (a.names.find? fun p => p.1 == n).map (·.2)
  match (all.zip values).zipIdx.find? fun (p, i) => decide (i < s.required) && p.2.isNone with
  | some ((n, _), i) =>
    Run.typeError s!"{s.name}() missing required argument '{n}' (pos {i + 1})"
  | none => pure ()
  for (k, _) in a.names do
    match all.findIdx? (· == k) with
    | some i =>
      if i < s.placeOnly then
        Run.typeError s!"'{k}' is an invalid keyword argument for {s.name}()"
      if i < a.count then
        Run.typeError s!"argument for {s.name}() given by name ('{k}') and position ({i + 1})"
    | none => Run.typeError s!"'{k}' is an invalid keyword argument for {s.name}()"
  return values

end Signature

/-- A text argument. -/
def textArg? (v : Value) : Run (Option String) := do
  match ← Kind.basic v with
  | .str s => return some s
  | _ => return none

def textArg (func : String) (v : Value) : Run String := do
  match ← textArg? v with
  | some s => return s
  | none => Run.typeError s!"{func} argument must be str, not {← Kind.given v}"

/-!
How many arguments the methods with reserved names take, and what is said of a call with others. The
working of an operation counts its operands; a plain method is counted by its name.
-/

namespace Arity

/-- The numbers of operands that the working of an operation takes: at least and at most. Without
bounds all are passed on. -/
def operands? : String → Option (Nat × Nat)
  | "__repr__" | "__str__" | "__hash__" | "__iter__" | "__next__" | "__len__" | "__bool__"
  | "__neg__" | "__pos__" | "__abs__" | "__invert__" | "__int__" | "__float__" | "__index__"
  | "__aiter__" | "__anext__" | "__await__" => some (0, 0)
  | "__pow__" | "__rpow__" | "__ipow__" | "__get__" => some (1, 2)
  | "__setitem__" | "__setattr__" | "__set__" => some (2, 2)
  | "__call__" | "__init__" | "__del__" => none
  | _ => some (1, 1)

/-- The numbers of arguments that a plain method takes. -/
def arguments? : String → Option (Nat × Nat)
  | "__dir__" | "__reduce__" | "__getstate__" | "__sizeof__" | "__trunc__" | "__floor__"
  | "__ceil__" | "__getnewargs__" | "__complex__" | "__length_hint__" | "__copy__" | "__bytes__"
  | "__subclasses__" | "__reversed__" | "mro" | "__alloc__" => some (0, 0)
  | "__format__" | "__reduce_ex__" | "__class_getitem__" | "__setstate__" | "__instancecheck__"
  | "__subclasscheck__" | "__getformat__" | "__getitem__" | "__contains__" | "__deepcopy__" =>
    some (1, 1)
  | "__round__" => some (0, 1)
  | _ => none

/-- Whether the working of an operation repeats a sequence. -/
def repeats (owner name : String) : Bool :=
  ["str", "bytes", "bytearray", "list", "tuple", "deque"].contains owner &&
    ["__mul__", "__rmul__", "__imul__"].contains name

/-- Refuses a call of the working of an operation with too few or too many operands. -/
def checkOperands (owner name : String) (a : Args) : Run Unit := do
  match operands? name with
  | none => return ()
  | some (least, most) =>
    if !a.names.isEmpty then Run.typeError s!"wrapper {name}() takes no keyword arguments"
    let n := a.count
    match least, most with
    | 0, 0 => if n ≠ 0 then Run.typeError s!"expected 0 arguments, got {n}"
    | 1, 1 =>
      if n ≠ 1 then
        Run.typeError ((if repeats owner name then " " else "") ++ s!"expected 1 argument, got {n}")
    | least, most =>
      let bound := if least = most then "" else if n < least then "at least " else "at most "
      let limit := if n < least then least else most
      if n < least || most < n then
        Run.typeError s!" expected {bound}{limit} {Args.plural limit}, got {n}"

/-- Refuses a call of a plain method with too few or too many arguments. -/
def checkArguments (owner name : String) (a : Args) : Run Unit := do
  let full := owner ++ "." ++ name
  match arguments? name with
  | some (0, 0) => a.none full
  | some (1, 1) => discard (a.one full)
  | some (least, most) => discard (a.between full least most)
  | none => return ()

/-- Refuses a call of a method of a built-in class with too few or too many arguments. -/
def check (owner name : String) (a : Args) : Run Unit :=
  if Hierarchy.isSlot owner name then checkOperands owner name a else checkArguments owner name a

end Arity

end LiveMarkdown.Script
