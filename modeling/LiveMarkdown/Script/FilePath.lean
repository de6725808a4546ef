import LiveMarkdown.Script.Native
import LiveMarkdown.Text.Path

/-!
The functions of the module for paths of files. They look at texts only; of the files themselves
only the directories that are always there are known.
-/

namespace LiveMarkdown.Script

namespace FilePath

/-- The names of the module in the order in which it lists them, with those of its constants. -/
def publicNames : List String :=
  ["normcase", "isabs", "join", "splitdrive", "split", "splitext", "basename", "dirname",
    "commonprefix", "getsize", "getmtime", "getatime", "getctime", "islink", "exists", "lexists",
    "isdir", "isfile", "ismount", "expanduser", "expandvars", "normpath", "abspath", "samefile",
    "sameopenfile", "samestat", "curdir", "pardir", "sep", "pathsep", "defpath", "altsep", "extsep",
    "devnull", "realpath", "supports_unicode_filenames", "relpath", "commonpath"]

def constants : List (String × Value) :=
  [("curdir", .str "."), ("pardir", .str ".."), ("extsep", .str "."), ("sep", .str "/"),
    ("pathsep", .str ":"), ("defpath", .str "/bin:/usr/bin"), ("altsep", .none),
    ("devnull", .str "/dev/null")]

/-- The entries of the module. -/
def entries : List (String × Value) :=
  constants ++ [("supports_unicode_filenames", .bool false)] ++
    (publicNames.filter fun n =>
      n != "supports_unicode_filenames" && !(constants.any fun c => c.1 == n)).map
        fun n => (n, .native ("posixpath." ++ n))

/-- A path, as a text or as bytes; each byte of the latter is one character. -/
structure Written where
  isBytes : Bool
  text : String

namespace Written

/-- Another path of the same kind. -/
def toValue (p : Written) (s : String) : Value :=
  if p.isBytes then .bytes (s.toList.map fun c => UInt8.ofNat c.toNat) else .str s

def ofValue? (v : Value) : Run (Option Written) := do
  match ← Kind.basic v with
  | .str s => return some ⟨false, s⟩
  | .bytes bs => return some ⟨true, String.ofList (bs.map fun b => Char.ofNat b.toNat)⟩
  | _ => return none

end Written

/-- The path that a value stands for, as the value that holds it. -/
def pathValue (m : Machine) (v : Value) : Run Value := do
  match ← Written.ofValue? v with
  | some _ => return v
  | none =>
    match ← Kind.special? v "__fspath__" with
    | some f =>
      let x ← m.call f []
      match ← Written.ofValue? x with
      | some _ => return x
      | none =>
        Run.typeError (s!"expected {← Kind.name v}.__fspath__() to return str or bytes, " ++
          s!"not {← Kind.name x}")
    | none =>
      Run.typeError s!"expected str, bytes or os.PathLike object, not {← Kind.name v}"

/-- The path that a value stands for. -/
def pathOf (m : Machine) (v : Value) : Run Written := do
  return (← Written.ofValue? (← pathValue m v)).getD ⟨false, ""⟩

/-- Refuses arguments of which some are no paths, or texts together with bytes. -/
def checkKinds (name : String) (vs : List Value) : Run Unit := do
  let kinds ← vs.mapM fun v => do
    match ← Written.ofValue? v with
    | some p => return p.isBytes
    | none =>
      Run.typeError (s!"{name}() argument must be str, bytes, or os.PathLike object, " ++
        s!"not {Text.quoted (← Kind.name v)}")
  if kinds.contains true && kinds.contains false then
    Run.typeError "Can't mix strings and bytes in path components"

/-- A computation on arguments. Where their kinds do not fit, that is what is said. -/
def withKinds {α : Type} (name : String) (vs : List Value) (x : Run α) : Run α :=
  Run.handle x fun e => do
    if ← Kind.isA e "TypeError" then checkKinds name vs
    throw (.raised e)

def mixed {α : Type} : Run α := Run.typeError "a path of another kind is expected"

/-- A path cut after its last slash. -/
def cutLastStep (p : String) : String × String :=
  let tail := (p.toList.reverse.takeWhile (· != '/')).reverse
  (String.ofList (p.toList.take (p.length - tail.length)), String.ofList tail)

/-- The part of a path before its last step, without the slashes at its end unless it has nothing
else. -/
def parent (p : String) : String :=
  let head := (cutLastStep p).1
  if head.toList.all (· == '/') then head
  else String.ofList (head.toList.reverse.dropWhile (· == '/')).reverse

/-- A path cut before the ending of its name. Dots that begin a name begin no ending. -/
def cutEnding (p : String) : String × String :=
  let name := (cutLastStep p).2.toList
  let ending := (name.reverse.takeWhile (· != '.')).reverse
  let stem := name.take (name.length - ending.length - 1)
  if !name.contains '.' || stem.all (· == '.') then (p, "")
  else
    (String.ofList (p.toList.take (p.length - ending.length - 1)), "." ++ String.ofList ending)

/-- The path that one text after another leads to. -/
def join (path next : String) : String :=
  if next.startsWith "/" then next
  else if path == "" || path.endsWith "/" then path ++ next
  else path ++ "/" ++ next

/-- Takes the steps of a path that lead back, as far as there is a step to take. -/
def foldSteps (isAbsolute : Bool) : List String → List String → List String
  | done, [] => done.reverse
  | done, s :: rest =>
    if s == ".." then
      match done with
      | d :: more =>
        if d == ".." then foldSteps isAbsolute (s :: done) rest else foldSteps isAbsolute more rest
      | [] => if isAbsolute then foldSteps isAbsolute [] rest else foldSteps isAbsolute [s] rest
    else foldSteps isAbsolute (s :: done) rest

/-- A path without steps that lead nowhere or back. -/
def normal (p : String) : String :=
  let slashes := (p.toList.takeWhile (· == '/')).length
  let front := if slashes = 0 then "" else if slashes = 2 then "//" else "/"
  let body := front ++ "/".intercalate (foldSteps (slashes ≠ 0) [] (Text.pathSteps p))
  if body == "" then "." else body

/-- The directory that paths begin in. -/
def workplace : String := "/tmp/work"

/-- A path from the root on. -/
def absolute (p : String) : String := normal (join workplace p)

/-- The items that two lists begin with in common. -/
def common : List String → List String → List String
  | a :: as, b :: bs => if a == b then a :: common as bs else []
  | _, _ => []

/-- The way from one path to another. -/
def relative (path start : String) : String :=
  let a := Text.pathSteps (absolute start)
  let b := Text.pathSteps (absolute path)
  let n := (common a b).length
  let steps := List.replicate (a.length - n) ".." ++ b.drop n
  if steps.isEmpty then "." else "/".intercalate steps

/-- Whether a path leads to a directory that is always there. -/
def isKnownDirectory (p : String) : Bool :=
  p != "" && !p.contains '\x00' && ["/", "//", workplace].contains (absolute p)

/-- The least or the greatest of some values. -/
def extreme (m : Machine) (op : CompareOp) : Value → List Value → Run Value
  | v, [] => return v
  | v, x :: xs => do
    if ← Iteration.truth m (← Comparison.apply m op x v) then extreme m op x xs
    else extreme m op v xs

/-- How many items the least and the greatest of some values begin with in common. -/
def sharedSize (m : Machine) (low high : Value) : Run Nat := do
  let xs ← Iteration.collect m low
  let rec go : Nat → List Value → Run Nat
    | i, [] => return i
    | i, x :: xs => do
      if ← Comparison.equal m x (← Subscript.get m high (.int i)) then go (i + 1) xs else return i
  go 0 xs

/-- What some values begin with in common: paths by their characters, lists by their items. -/
def commonStart (m : Machine) (v : Value) : Run Value := do
  if !(← Iteration.truth m v) then return .str ""
  let first ← Subscript.get m v (.int 0)
  let isList ← match ← Kind.core first with
    | .tuple _ => pure true
    | x => do
      match ← Run.deref x with
      | some (.list _) => pure true
      | _ => pure false
  let items ← Iteration.collect m v
  let items ← if isList then pure items else items.mapM (pathValue m)
  match items with
  | [] => return .str ""
  | x :: xs =>
    let low ← extreme m .less x xs
    let high ← extreme m .greater x xs
    let n ← sharedSize m low high
    Subscript.get m low (.slice .none (.int n) .none)

/-- The longest path that all paths lie below. -/
def commonPath (m : Machine) (v : Value) : Run Value := do
  if !(← Iteration.truth m v) then Run.valueError "commonpath() arg is an empty sequence"
  let values ← (← Iteration.collect m v).mapM (pathValue m)
  let paths ← values.mapM (pathOf m)
  match paths with
  | [] => Run.raise "IndexError" "tuple index out of range"
  | first :: _ =>
    withKinds "commonpath" values do
      if paths.any fun p => p.isBytes != first.isBytes then mixed
      let absolute := paths.filter fun p => p.text.startsWith "/"
      if !absolute.isEmpty && absolute.length ≠ paths.length then
        Run.valueError "Can't mix absolute and relative paths"
      let steps := paths.map fun p => Text.pathSteps p.text
      let shared := match steps with
        | [] => []
        | s :: rest => rest.foldl common s
      return first.toValue ((if absolute.isEmpty then "" else "/") ++ "/".intercalate shared)

/-- The path that further paths lead to from a first one. -/
def joinAll (m : Machine) (v : Value) (more : List Value) : Run Value := do
  let first ← pathOf m v
  withKinds "join" (v :: more) do
    let text ← more.foldlM (fun text x => do
      let p ← pathOf m x
      if p.isBytes != first.isBytes then mixed
      return join text p.text) first.text
    return first.toValue text

/-- The home of a user whose name follows a tilde. -/
def home? (name : String) : Option String :=
  if name == "" || name == "root" then some "/root" else none

/-- A path with the home of a user in place of the tilde that it begins with. -/
def expandUser (p : String) : String :=
  if !p.startsWith "~" then p
  else
    let name := (p.toList.drop 1).takeWhile (· != '/')
    match home? (String.ofList name) with
    | some h => h ++ String.ofList (p.toList.drop (name.length + 1))
    | none => p

/-- What is known of the surroundings by name. -/
def surroundings : List (String × String) := [("HOME", "/root")]

/-- A path with the known surroundings in place of their names. The fuel bounds its length. -/
def expandNames : Nat → List Char → List Char
  | 0, cs => cs
  | _, [] => []
  | fuel + 1, c :: cs =>
    if c != '$' then c :: expandNames fuel cs
    else
      let braced := cs.head? == some '\x7b'
      let name := if braced then (cs.drop 1).takeWhile (· != '\x7d')
        else cs.takeWhile fun d => d == '_' || d.isAlphanum
      let size := if braced then name.length + 2 else name.length
      let known := if size ≤ cs.length then surroundings.lookup (String.ofList name) else none
      match known with
      | some v => v.toList ++ expandNames fuel (cs.drop size)
      | none => c :: expandNames fuel cs

/-- The parameters of a function of the module, and the defaults of the last ones. -/
def parameters (name : String) : Params × List Value × List (String × Value) :=
  let plain (ns : List String) (rest : Option String) (nameOnly : List String) : Params :=
    .mk [] (ns.map fun n => .mk {} n none) (rest.map fun n => .mk {} n none)
      (nameOnly.map fun n => .mk {} n none) [] none []
  match name with
  | "join" => (plain ["a"] (some "p") [], [], [])
  | "splitdrive" | "split" | "splitext" | "basename" | "dirname" => (plain ["p"] none [], [], [])
  | "normcase" | "isabs" | "isdir" => (plain ["s"] none [], [], [])
  | "commonprefix" => (plain ["m"] none [], [], [])
  | "commonpath" => (plain ["paths"] none [], [], [])
  | "relpath" => (plain ["path", "start"] none [], [.none], [])
  | "samefile" => (plain ["f1", "f2"] none [], [], [])
  | "sameopenfile" => (plain ["fp1", "fp2"] none [], [], [])
  | "samestat" => (plain ["s1", "s2"] none [], [], [])
  | "realpath" => (plain ["filename"] none ["strict"], [], [("strict", .bool false)])
  | "getsize" | "getmtime" | "getatime" | "getctime" => (plain ["filename"] none [], [], [])
  | _ => (plain ["path"] none [], [], [])

/-- Whether a function asks for files that a number may stand for. -/
def asksByNumber (name : String) : Bool :=
  ["exists", "isfile", "isdir", "getsize", "getmtime", "getatime", "getctime",
    "samefile"].contains name

/-- The path of a file that a function asks for. -/
def fileOf (m : Machine) (name : String) (v : Value) : Run Written := do
  let byNumber := asksByNumber name
  match ← Kind.core v with
  | .int n =>
    if byNumber then return ⟨false, s!"\x00{n}"⟩
  | .bool b =>
    if byNumber then return ⟨false, s!"\x00{b}"⟩
  | _ => pure ()
  match ← Written.ofValue? v with
  | some p => return p
  | none =>
    if (← Kind.special? v "__fspath__").isSome then pathOf m v
    else
      let asked := if byNumber then "stat: path should be string, bytes, os.PathLike or integer"
        else "lstat: path should be string, bytes or os.PathLike"
      Run.typeError s!"{asked}, not {← Kind.name v}"

def noFile {α : Type} (p : Written) : Run α := do
  if p.text.contains '\x00' then Run.valueError "embedded null byte"
  Run.raiseWith "FileNotFoundError" [.int 2, .str "No such file or directory", p.toValue p.text]

/-- Calls a function of the module that asks for a file. -/
def callForFile (m : Machine) (name : String) (v : Value) (more : List Value) : Run Value := do
  let p ← fileOf m name v
  match name with
  | "exists" | "isdir" | "lexists" => return .bool (isKnownDirectory p.text)
  | "isfile" | "islink" => return .bool false
  | "ismount" => return .bool (["/", "//"].contains (absolute p.text) && p.text != "")
  | "samefile" =>
    if !isKnownDirectory p.text then noFile p
    let q ← fileOf m name (more.headD .none)
    if !isKnownDirectory q.text then noFile q
    let root (s : String) : Bool := ["/", "//"].contains (absolute s)
    return .bool (root p.text == root q.text)
  | _ =>
    if !isKnownDirectory p.text then noFile p
    return if name == "getsize" then .int 4096 else .float 0

/-- Calls a function of the module. -/
def call (m : Machine) (name : String) (a : Args) : Run Value := do
  let (params, defaults, nameDefaults) := parameters name
  let bound ← Binding.bindParams name params defaults nameDefaults a.values a.names
  match bound.map (·.2) with
  | [] => return .none
  | v :: more =>
    match name with
    | "commonprefix" => commonStart m v
    | "commonpath" => commonPath m v
    | "join" =>
      match more with
      | [.tuple vs] => joinAll m v vs
      | _ => joinAll m v []
    | "exists" | "isdir" | "lexists" | "isfile" | "islink" | "ismount" | "samefile" | "getsize"
      | "getmtime" | "getatime" | "getctime" => callForFile m name v more
    | "relpath" =>
      if !(← Iteration.truth m v) then Run.valueError "no path specified"
      let p ← pathOf m v
      let start ← match more with
        | [.none] | [] => pure { p with text := "." }
        | s :: _ => pathOf m s
      withKinds "relpath" (v :: more) do
        if p.isBytes != start.isBytes then mixed
        return p.toValue (relative p.text start.text)
    | name =>
      let p ← pathOf m v
      let s := p.text
      match name with
      | "basename" => return p.toValue (cutLastStep s).2
      | "dirname" => return p.toValue (parent s)
      | "split" => return .tuple [p.toValue (parent s), p.toValue (cutLastStep s).2]
      | "splitdrive" => return .tuple [p.toValue "", p.toValue s]
      | "splitext" =>
        let (stem, ending) := cutEnding s
        return .tuple [p.toValue stem, p.toValue ending]
      | "isabs" => return .bool (s.startsWith "/")
      | "normpath" => return p.toValue (normal s)
      | "abspath" => return p.toValue (absolute s)
      | "realpath" =>
        let full := absolute s
        return p.toValue (if full.startsWith "//" then String.ofList (full.toList.drop 1) else full)
      | "expanduser" => return p.toValue (expandUser s)
      | "expandvars" => return p.toValue (String.ofList (expandNames (s.length + 1) s.toList))
      | _ => pathValue m v

end FilePath

end LiveMarkdown.Script
