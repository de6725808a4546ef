import LiveMarkdown.Script.ByteView
import LiveMarkdown.Script.Digest
import LiveMarkdown.Script.LiveAttributes
import LiveMarkdown.Script.Raised
import LiveMarkdown.Text.Quoted

/-!
Values as text, in the two forms that programs know: the one for readers, and the full one that is
used inside lists and in messages.
-/

namespace LiveMarkdown.Script

namespace Show

/-- The most digits that an integer is shown with. -/
def digitLimit : Nat := 4300

/-- The text of an integer. Very long ones are refused. -/
def int (n : Int) : Run String := do
  if n.natAbs < Nat.pow 10 400 then return toString n
  let s := toString n
  if digitLimit < s.length - (if n < 0 then 1 else 0) then
    Run.valueError s!"Exceeds the limit ({digitLimit} digits) for integer string conversion; use sys.set_int_max_str_digits() to increase the limit"
  return s

/-- A number with leading zeros. -/
def padded (width n : Nat) : String :=
  let s := toString n
  String.ofList (List.replicate (width - s.length) '0') ++ s

def date (y m d : Nat) : String := s!"{padded 4 y}-{padded 2 m}-{padded 2 d}"

/-- A distance to universal time as hours and minutes. -/
def offset (o : Int) : String :=
  (if o < 0 then "-" else "+") ++ padded 2 (o.natAbs / 60) ++ ":" ++ padded 2 (o.natAbs % 60)

/-- A moment with the given mark between day and time. -/
def moment (mark : String) (m : Moment) : String :=
  date m.year m.month m.day ++ mark ++
    s!"{padded 2 m.hour}:{padded 2 m.minute}:{padded 2 m.second}" ++
    (if m.microsecond = 0 then "" else "." ++ padded 6 m.microsecond) ++
    (match m.offset with
      | some o => offset o
      | none => "")

/-- A distance to universal time in the full form of a moment. -/
def zone (o : Int) : String :=
  if o = 0 then "datetime.timezone.utc"
  else if 0 < o then s!"datetime.timezone(datetime.timedelta(seconds={o * 60}))"
  else s!"datetime.timezone(datetime.timedelta(days=-1, seconds={86400 + o * 60}))"

def momentFull (m : Moment) : String :=
  let parts := [m.year, m.month, m.day, m.hour, m.minute] ++
    (if m.second = 0 ∧ m.microsecond = 0 then [] else [m.second]) ++
    (if m.microsecond = 0 then [] else [m.microsecond])
  "datetime.datetime(" ++ ", ".intercalate (parts.map toString) ++
    (match m.offset with
      | some o => ", tzinfo=" ++ zone o
      | none => "") ++ ")"

/-- The name of a built-in class with its module. -/
def typePath (name : String) : String :=
  match name with
  | "UserList" | "UserString" | "Counter" => "collections." ++ name
  | "Fraction" => "fractions.Fraction"
  | "DecimalException" | "InvalidOperation" | "DivisionByZero" | "Overflow" | "Underflow" | "Inexact"
  | "Rounded" | "Clamped" | "Subnormal" | "FloatOperation" | "ConversionSyntax" | "DivisionImpossible"
  | "DivisionUndefined" | "InvalidContext" => "decimal." ++ name
  | "BeautifulSoup" => "bs4.BeautifulSoup"
  | "ElementFactory" => "execsmith.core.elements.ElementFactory"
  | "ParserRejectedMarkup" => "bs4.exceptions.ParserRejectedMarkup"
  | "ResultSet" => "bs4.element.ResultSet"
  | "CSS" => "bs4.css.CSS"
  | "SelectorSyntaxError" => "soupsieve.util.SelectorSyntaxError"
  | name =>
    if name == "Tag" || name == "PageElement" || (builtinOrder name).contains "NavigableString" then
      "bs4.element." ++ name
    else Kind.dotted name

/-- The items of a set in the order in which they are shown and gone through. -/
def setItems (items : Array Value) : List Value := Digest.setOrder items.toList

def joined (m : Machine) (vs : List Value) : Run String := do
  return ", ".intercalate (← vs.mapM m.shown)

/-- The full form of a class. -/
def cls (v : Value) : Run String := do
  match v with
  | .type n => return s!"<class '{typePath n}'>"
  | .ref r =>
    match ← Run.object? r with
    | some (.cls c) =>
      match ← Space.get? c.space "__module__" with
      | some (.str "builtins") => return s!"<class '{c.name}'>"
      | some (.str s) => return s!"<class '{s}.{c.qualifiedName}'>"
      | _ => return s!"<class '{c.name}'>"
    | _ => return "<class>"
  | _ => return "<class>"

/-- The form of an object that shows no more than its class. -/
def plainObject (v : Value) : Run String := do
  let c ← Kind.of v
  let path ← match ← Run.deref c with
    | some (.cls d) =>
      match ← Space.get? d.space "__module__" with
      | some (.str "builtins") => pure d.name
      | some (.str s) => pure (s ++ "." ++ d.qualifiedName)
      | _ => pure d.name
    | _ => Kind.shownName c
  return s!"<{path} object at 0x7f0000000000>"

/-- A class as a part of another one. -/
def aliasPart (m : Machine) (v : Value) : Run String := do
  match v with
  | .ellipsis => return "..."
  | .none | .type "NoneType" => return "None"
  | .type n => return typePath n
  | v =>
    match ← Run.deref v with
    | some (.cls c) =>
      match ← Space.get? c.space "__module__" with
      | some (.str "builtins") | none => return c.qualifiedName
      | some (.str s) => return s ++ "." ++ c.qualifiedName
      | _ => m.shown v
    | _ => m.shown v

/-- The file and the first line of compiled code. -/
def codeFile (c : Code) : String :=
  match c.parts.find? fun p => p.1 == "co_filename" with
  | some (_, .str s) => s
  | _ => "<string>"

def codeLine (c : Code) : Int :=
  match c.parts.find? fun p => p.1 == "co_firstlineno" with
  | some (_, .int n) => n
  | _ => 1

/-- The full form of what stands for a method or a part of a class. -/
def special (m : Machine) (r : Ref) (o : Object) : Run String := do
  match o with
  | .classMethod f => return s!"<classmethod({← m.shown f})>"
  | .staticMethod f => return s!"<staticmethod({← m.shown f})>"
  | _ => plainObject (.ref r)

def pairs (m : Machine) (es : List (Value × Value)) : Run String := do
  return ", ".intercalate (← es.mapM fun (k, v) => do
    return (← m.shown k) ++ ": " ++ (← m.shown v))

/-- The full form of an object. -/
def object (m : Machine) (r : Ref) (o : Object) : Run String := do
  match o with
  | .list items => return "[" ++ (← joined m items.toList) ++ "]"
  | .dict es => return "\x7b" ++ (← pairs m es.toList) ++ "\x7d"
  | .set false items =>
    if items.isEmpty then return "set()"
    return "\x7b" ++ (← joined m (setItems items)) ++ "\x7d"
  | .set true items =>
    if items.isEmpty then return "frozenset()"
    return "frozenset(\x7b" ++ (← joined m (setItems items)) ++ "\x7d)"
  | .byteArray bs => return "bytearray(" ++ Text.quotedBytes bs ++ ")"
  | .memory view =>
    return if view.released then "<released memory at 0x7f0000000000>"
      else "<memory at 0x7f0000000000>"
  | .deque items limit _ =>
    let most := match limit with
      | some n => s!", maxlen={n}"
      | none => ""
    return "deque([" ++ (← joined m items.toList) ++ "]" ++ most ++ ")"
  | .userList items => return "[" ++ (← joined m items.toList) ++ "]"
  | .userText s => return Text.quoted s
  | .function f => return s!"<function {f.qualifiedName} at 0x7f0000000000>"
  | .cls _ => cls (.ref r)
  | .instance (.type name) space (some (.tuple _)) =>
    let parts ← (← Space.entries space).toList.mapM fun (k, v) => do
      return (← m.text k) ++ "=" ++ (← m.shown v)
    return name ++ "(" ++ ", ".intercalate parts ++ ")"
  | .instance _ _ (some c) => m.shown c
  | .exception c args .. =>
    let name ← Kind.nameOf c
    match Raised.shownArgs (← Raised.builtinClasses c) args with
    | [a] => return name ++ "(" ++ (← m.shown a) ++ ")"
    | args => return name ++ "(" ++ (← joined m args) ++ ")"
  | .module name _ =>
    return if name == "builtins" || name == "math" then s!"<module '{name}' (built-in)>"
      else s!"<module '{name}'>"
  | .boundMethod f self =>
    match ← Run.deref f with
    | some (.function g) =>
      return s!"<bound method {g.qualifiedName} of {← m.shown self}>"
    | _ => return s!"<bound method of {← m.shown self}>"
  | .generator g =>
    return s!"<{← Kind.plainName (.ref r)} object {g.name} at 0x7f0000000000>"
  | .pull p => return s!"<{p.kind} object at 0x7f0000000000>"
  | .view kind source =>
    match ← Run.object? source with
    | some (.dict es) =>
      let inner ← if kind == "dict_keys" then joined m (es.toList.map (·.1))
        else if kind == "dict_values" then joined m (es.toList.map (·.2))
        else joined m (es.toList.map fun e => .tuple [e.1, e.2])
      return kind ++ "([" ++ inner ++ "])"
    | _ => return kind ++ "([])"
  | .proxy source => return "mappingproxy(" ++ (← m.shown (.ref source)) ++ ")"
  | .slot kind owner name =>
    let noun := if kind == "member_descriptor" then "member" else "attribute"
    return s!"<{noun} '{name}' of '{← Kind.shownName owner}' objects>"
  | .cell scope name =>
    let content ← match ← Run.object? scope with
      | some (.scope _ vars _) => pure ((vars.find? fun p => p.1 == name).map (·.2))
      | _ => pure none
    match content with
    | some v =>
      return s!"<cell at 0x7f0000000000: {← Kind.name v} object at 0x7f0000000000>"
    | none => return "<cell at 0x7f0000000000: empty>"
  | .alias origin args unpacked =>
    let parts ← args.mapM (aliasPart m)
    return (if unpacked then "*" else "") ++ (← aliasPart m origin) ++ "[" ++ (if args.isEmpty then "()" else ", ".intercalate parts) ++ "]"
  | .union classes => return " | ".intercalate (← classes.mapM (aliasPart m))
  | .code c => return s!"<code object {c.name} at 0x7f0000000000, file \"{codeFile c}\", line {codeLine c}>"
  | .super cls self =>
    let name ← Kind.nameOf cls
    match self with
    | .none => return s!"<super: <class '{name}'>, NULL>"
    | self =>
      let own ← match ← Run.deref self with
        | some (.cls c) => pure c.name
        | _ => Kind.nameOf (← Kind.of self)
      return s!"<super: <class '{name}'>, <{own} object>>"
  | .property .. | .classMethod _ | .staticMethod _ => special m r o
  | .opaqueThing _ (some s) => return s
  | .opaqueThing _ none => Run.raise "RuntimeError" "no repr"
  | _ => plainObject (.ref r)

/-- What stands for an object inside itself. -/
def cycle : Object → String
  | .list _ | .userList _ => "[...]"
  | .dict _ => "\x7b...\x7d"
  | .deque .. => "[...]"
  | _ => "..."

/-- Shows an object; inside itself it is shown as dots. -/
def guarded (m : Machine) (r : Ref) (o : Object) : Run String := do
  if (← get).showing.contains r then return cycle o
  modify fun w => { w with showing := r :: w.showing }
  try
    let s ← object m r o
    modify fun w => { w with showing := w.showing.drop 1 }
    return s
  catch e =>
    modify fun w => { w with showing := w.showing.drop 1 }
    throw e

def native (name : String) : String :=
  if isPlainNative name then s!"<function {name} at 0x7f0000000000>"
  else match name with
    | "quit" | "exit" => s!"Use {name}() or Ctrl-D (i.e. EOF) to exit"
    | "license" => "Type license() to see the full license text"
    | "help" => "Type help() for interactive help, or help(object) for help about object."
    | "__spec__" =>
      "ModuleSpec(name='builtins', loader=<class '_frozen_importlib.BuiltinImporter'>, " ++
        "origin='built-in')"
    | name => s!"<built-in function {name}>"

/-- The full form of a built-in method, of a class or of an instance. -/
def method (m : Machine) (self : Value) (name : String) : Run String := do
  match self, ← Kind.plainName (.method self name) with
  | .type t, "function" => return s!"<function {t}.{name} at 0x7f0000000000>"
  | .type t, "method_descriptor" =>
    return s!"<method '{name}' of '{Kind.dotted (Hierarchy.methodOwner t name)}' objects>"
  | .type t, "wrapper_descriptor" =>
    return s!"<slot wrapper '{name}' of '{Kind.dotted (Hierarchy.methodOwner t name)}' objects>"
  | self, "method-wrapper" =>
    return s!"<method-wrapper '{name}' of {← Kind.name self} object at 0x7f0000000000>"
  | self, "method" => return s!"<bound method {← Kind.nameOf (← Kind.of self)}.{name} of {← m.shown self}>"
  | self, _ => return s!"<built-in method {name} of {← Kind.name self} object at 0x7f0000000000>"

/-- The full form of a value. -/
def full (m : Machine) (v : Value) : Run String := do
  match ← Kind.special? v "__repr__" with
  | some f =>
    match ← m.call f [] with
    | .str s => return s
    | r => Run.typeError s!"__repr__ returned non-string (type {← Kind.name r})"
  | none =>
    match v with
    | .none => return "None"
    | .ellipsis => return "Ellipsis"
    | .notImplemented => return "NotImplemented"
    | .bool b => return if b then "True" else "False"
    | .int n => int n
    | .float x => return Number.showFloat x
    | .complex a b => return Number.showComplex a b
    | .fraction n d => return s!"Fraction({← int n}, {← int d})"
    | .decimal d => return s!"Decimal('{d.text}')"
    | .str s => return Text.quoted s
    | .bytes bs => return Text.quotedBytes bs
    | .tuple vs => Raised.tuple m vs
    | .range a b c =>
      if c = 1 then return s!"range({← int a}, {← int b})"
      return s!"range({← int a}, {← int b}, {← int c})"
    | .slice a b c => return s!"slice({← m.shown a}, {← m.shown b}, {← m.shown c})"
    | .date y mo d => return s!"datetime.date({y}, {mo}, {d})"
    | .moment t => return momentFull t
    | .node n =>
      let f ← Run.forest
      match f.content? n with
      | some (.text _ s) => return Text.quoted s
      | _ => Markup.text m n
    | .factory _ => return "<ElementFactory object at 0x7f0000000000>"
    | .type _ => cls v
    | .native n => return native n
    | .method self n => method m self n
    | .ref r =>
      match ← Run.object? r with
      | some o => guarded m r o
      | none => return "None"

/-- The form of a value for readers. -/
def plain (m : Machine) (v : Value) : Run String := do
  match ← Kind.special? v "__str__" with
  | some f =>
    match ← m.call f [] with
    | .str s => return s
    | r => Run.typeError s!"__str__ returned non-string (type {← Kind.name r})"
  | none =>
    match v with
    | .str s => return s
    | .fraction n d =>
      let whole ← int n
      if d = 1 then return whole
      return whole ++ "/" ++ (← int d)
    | .decimal d => return d.text
    | .date y mo d => return date y mo d
    | .moment t => return moment " " t
    | .node n =>
      let f ← Run.forest
      match f.content? n with
      | some (.text _ s) => return s
      | _ => Markup.text m n
    | .ref r =>
      match ← Run.object? r with
      | some (.userText s) => return s
      | some (.exception c args _ _ _ fields) =>
        Raised.text m c args fields
      | some (.instance _ _ (some c)) =>
        match ← Kind.special? v "__repr__" with
        | some _ => m.shown v
        | none => m.text c
      | _ => m.shown v
    | _ => m.shown v

end Show

end LiveMarkdown.Script
