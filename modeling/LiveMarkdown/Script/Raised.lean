import LiveMarkdown.Script.Request
import LiveMarkdown.Text.Quoted

/-!
What the built-in classes of exceptions make of their arguments: the parts that they name, and the
text that they show.
-/

namespace LiveMarkdown.Script

namespace Raised

/-- The built-in classes that a class is or inherits from. -/
def builtinClasses (cls : Value) : Run (List String) := do
  return (← Kind.order cls).filterMap fun
    | .type t => some t
    | _ => none

/-- The items of a tuple. -/
def itemsOf : Value → List Value
  | .tuple vs => vs
  | _ => []

/-- The place that an error in a program was raised with. -/
def placeOf (args : List Value) : List Value :=
  match args with
  | [_, place] => itemsOf place
  | _ => []

/-- Whether a value can be a number of characters. -/
def isCount : Value → Bool
  | .int _ | .bool _ => true
  | _ => false

/-- Whether an error of the system says how many characters were written before it. -/
def writesLess (classes : List String) : Bool := classes.contains "BlockingIOError"

/-- What an error of the system was raised with: a code, a reason, a path, a place that is not used,
and another path. Other numbers of arguments have no such meaning. -/
def systemParts (classes : List String) (args : List Value) : List Value :=
  match args with
  | [code, reason] => [code, reason]
  | code :: reason :: path :: more =>
    if 2 < more.length then []
    else if writesLess classes && isCount path then [code, reason]
    else code :: reason :: path :: more
  | _ => []

/-- The parts that an exception of the given classes names. -/
def part? (classes : List String) (args : List Value) (name : String) : Option Value :=
  let at? (vs : List Value) (i : Nat) : Option Value := some ((vs[i]?).getD .none)
  let isA := classes.contains
  let place := placeOf args
  match name with
  | "code" =>
    if isA "SystemExit" then
      some (match args with
        | [] => .none
        | [v] => v
        | vs => .tuple vs)
    else none
  | "value" => if isA "StopIteration" then at? args 0 else none
  | "name" => if isA "NameError" || isA "AttributeError" || isA "ImportError" then some .none else none
  | "obj" => if isA "AttributeError" then some .none else none
  | "path" => if isA "ImportError" then some .none else none
  | "msg" =>
    if isA "SyntaxError" then at? args 0
    else if isA "ImportError" then some (match args with
      | [v] => v
      | _ => .none)
    else none
  | "lineno" => if isA "SyntaxError" then at? place 1 else none
  | "offset" => if isA "SyntaxError" then at? place 2 else none
  | "text" => if isA "SyntaxError" then at? place 3 else none
  | "end_lineno" => if isA "SyntaxError" then at? place 4 else none
  | "end_offset" => if isA "SyntaxError" then at? place 5 else none
  | "print_file_and_line" => if isA "SyntaxError" then some .none else none
  | "errno" => if isA "OSError" then at? (systemParts classes args) 0 else none
  | "strerror" => if isA "OSError" then at? (systemParts classes args) 1 else none
  | "filename" =>
    if isA "OSError" then at? (systemParts classes args) 2
    else if isA "SyntaxError" then at? place 0 else none
  | "filename2" => if isA "OSError" then at? (systemParts classes args) 4 else none
  | "characters_written" =>
    match args with
    | _ :: _ :: n :: _ => if writesLess classes && isCount n then some n else none
    | _ => none
  | "encoding" | "object" | "start" | "end" | "reason" =>
    let names :=
      if isA "UnicodeTranslateError" then some ["object", "start", "end", "reason"]
      else if isA "UnicodeDecodeError" || isA "UnicodeEncodeError" then
        some ["encoding", "object", "start", "end", "reason"]
      else none
    names.bind fun ns =>
      match ns.findIdx? (· == name) with
      | some i => at? args i
      | none => some .none
  | _ => none

/-- The arguments that an exception shows. An error of the system keeps the paths apart. -/
def shownArgs (classes : List String) (args : List Value) : List Value :=
  match classes.contains "OSError", systemParts classes args with
  | true, _ :: _ :: .none :: _ => args
  | true, code :: reason :: _ :: _ => [code, reason]
  | _, _ => args

def tuple (m : Machine) (vs : List Value) : Run String := do
  match vs with
  | [v] => return "(" ++ (← m.shown v) ++ ",)"
  | vs => return "(" ++ ", ".intercalate (← vs.mapM m.shown) ++ ")"

/-- The text of an error of an encoding: what it could not write or read, where, and why. -/
def codedText (m : Machine) (classes : List String) (args : List Value)
    (fields : Array (String × Value)) : Run String := do
  let part (name : String) : Value :=
    match fields.find? fun p => p.1 == name with
    | some (_, v) => v
    | none => (part? classes args name).getD .none
  let whole (name : String) : Nat := match part name with
    | .int n => n.toNat
    | .bool b => if b then 1 else 0
    | _ => 0
  let (start, stop) := (whole "start", whole "end")
  let reason ← m.text (part "reason")
  let (verb, noun) := if classes.contains "UnicodeDecodeError" then ("decode", "byte")
    else if classes.contains "UnicodeTranslateError" then ("translate", "character")
    else ("encode", "character")
  let codec ← m.text (part "encoding")
  let subject := if verb == "translate" then "can't" else s!"'{codec}' codec can't"
  let shown? ← match part "object" with
    | .str s =>
      pure ((s.toList[start]?).map fun c =>
        let n := Text.point c
        let digits := if n < 0x100 then 'x' :: Text.hexDigits 2 n
          else if n < 0x10000 then 'u' :: Text.hexDigits 4 n else 'U' :: Text.hexDigits 8 n
        "'\\" ++ String.ofList digits ++ "'")
    | v => do
      let bs := ((← Run.bytes? v).getD [])[start]?
      pure (bs.map fun b => "0x" ++ String.ofList (Text.hexDigits 2 b.toNat))
  match shown?, decide (stop = start + 1) with
  | some shown, true => return s!"{subject} {verb} {noun} {shown} in position {start}: {reason}"
  | _, _ =>
    return s!"{subject} {verb} {noun}s in position {start}-{(stop : Int) - 1}: {reason}"

/-- The text of an error in a program: its message and its place. -/
def placedText (m : Machine) (args : List Value) (fields : Array (String × Value)) : Run String := do
  let part (name : String) : Value :=
    match fields.find? fun p => p.1 == name with
    | some (_, v) => v
    | none => (part? ["SyntaxError"] args name).getD .none
  let message ← m.text (part "msg")
  let file? := match part "filename" with
    | .str s => some (String.ofList (s.toList.reverse.takeWhile (· != '/')).reverse)
    | _ => none
  let line? := match part "lineno" with
    | .int n => some n
    | _ => none
  match file?, line? with
  | some f, some n => return s!"{message} ({f}, line {n})"
  | some f, none => return s!"{message} ({f})"
  | none, some n => return s!"{message} (line {n})"
  | none, none => return message

/-- The text of an exception: its argument, or all of them if there are several. -/
def text (m : Machine) (cls : Value) (args : List Value) (fields : Array (String × Value)) :
    Run String := do
  let classes ← builtinClasses cls
  if classes.contains "SyntaxError" then return ← placedText m args fields
  if ["UnicodeEncodeError", "UnicodeDecodeError", "UnicodeTranslateError"].any classes.contains then
    return ← codedText m classes args fields
  if classes.contains "BaseExceptionGroup" then
    let part (name : String) : Value := ((fields.find? fun p => p.1 == name).map (·.2)).getD .none
    let inner := (itemsOf (part ".exceptions")).length
    let noun := if inner = 1 then "sub-exception" else "sub-exceptions"
    let message ← m.text (part ".message")
    return s!"{message} ({inner} {noun})"
  if classes.contains "OSError" then
    let part (name : String) : Value :=
      match fields.find? fun p => p.1 == name with
      | some (_, v) => v
      | none => (part? classes args name).getD .none
    let start : Run String := do
      let code ← m.text (part "errno")
      return s!"[Errno {code}] " ++ (← m.text (part "strerror"))
    match part "filename", part "filename2" with
    | .none, _ =>
      let isSet (name : String) : Bool := fields.any fun p => p.1 == name
      if !(systemParts classes args).isEmpty || (isSet "errno" && isSet "strerror") then
        return ← start
    | path, .none => return (← start) ++ ": " ++ (← m.shown path)
    | path, other => return s!"{← start}: {← m.shown path} -> {← m.shown other}"
  match args with
  | [] => return ""
  | [a] => if classes.contains "KeyError" then m.shown a else m.text a
  | args => tuple m args

end Raised

end LiveMarkdown.Script
