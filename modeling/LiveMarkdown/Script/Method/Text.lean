import LiveMarkdown.Script.Encoded
import LiveMarkdown.Script.Template
import LiveMarkdown.Text.Cut
import LiveMarkdown.Text.Unicode

/-!
The methods of texts, also of texts that are wrapped in another object.
-/

namespace LiveMarkdown.Script

namespace TextMethod

/-- The part of a sequence that two optional bounds select: the place where it begins, and the place
it ends before. There is none if it would begin after its end. -/
def window (m : Machine) (size : Nat) (a b : Option Value) : Run (Option (Nat × Nat)) := do
  let start := (← Subscript.bound m (a.getD .none)).getD 0
  let stop := (← Subscript.bound m (b.getD .none)).getD size
  let place (n : Int) : Int := if n < 0 then max 0 (n + size) else n
  let (start, stop) := (place start, min (size : Int) (place stop))
  return if stop < start then none else some (start.toNat, stop.toNat)

/-- The place of a list in a part of another one, from the left or from the right. -/
def searchIn {α : Type} [BEq α] (sub xs : List α) (part : Option (Nat × Nat)) (fromRight : Bool) :
    Option Nat :=
  match part with
  | none => none
  | some (start, stop) =>
    let w := (xs.take stop).drop start
    if fromRight then
      (Text.findFrom sub.reverse w.reverse 0).map fun i => start + (w.length - i - sub.length)
    else (Text.findFrom sub w 0).map (start + ·)

/-- How often a list occurs in a part of another one. -/
def countIn {α : Type} [BEq α] (sub xs : List α) (part : Option (Nat × Nat)) : Nat :=
  match part with
  | none => 0
  | some (start, stop) =>
    let w := (xs.take stop).drop start
    if sub.isEmpty then w.length + 1
    else (Text.splitFirst sub w (-1)).length - 1

/-- Whether a part of a list begins or ends with another one. -/
def affixIn {α : Type} [BEq α] (atEnd : Bool) (sub xs : List α) (part : Option (Nat × Nat)) : Bool :=
  match part with
  | none => false
  | some (start, stop) =>
    let w := (xs.take stop).drop start
    if atEnd then sub.isSuffixOf w else sub.isPrefixOf w

/-- An argument that must be a text. -/
def needText (v : Value) : Run (List Char) := do
  match ← textArg? v with
  | some x => return x.toList
  | none => Run.typeError s!"must be str, not {← Kind.name v}"

/-- The argument of a search, and the part of the text to search. -/
def sought (m : Machine) (func : String) (cs : List Char) (a : Args) :
    Run (List Char × Option (Nat × Nat)) := do
  let vs ← a.counted func 1 3
  let part ← window m cs.length (vs[1]?) (vs[2]?)
  return (← needText ((vs[0]?).getD .none), part)

/-- Whether a text begins or ends with one of the given texts. -/
def affix (m : Machine) (func : String) (cs : List Char) (a : Args) (atEnd : Bool) : Run Bool := do
  let vs ← a.counted func 1 3
  let part ← window m cs.length (vs[1]?) (vs[2]?)
  match ← Kind.basic ((vs[0]?).getD .none) with
  | .tuple ts =>
    for t in ts do
      match ← textArg? t with
      | some x => if affixIn atEnd x.toList cs part then return true
      | none => Run.typeError s!"tuple for {func} must only contain str, not {← Kind.name t}"
    return false
  | v =>
    match ← textArg? v with
    | some x => return affixIn atEnd x.toList cs part
    | none =>
      Run.typeError s!"{func} first arg must be str or a tuple of str, not {← Kind.name v}"

/-- The characters that are cut from the ends of a text. -/
def trimmed (func : String) (a : Args) : Run (Char → Bool) := do
  match ← a.between func 0 1 with
  | [] | [.none] => return Text.isBlank
  | v :: _ =>
    match ← textArg? v with
    | some cs => return fun c => cs.toList.contains c
    | none => Run.typeError s!"{func} arg must be None or str"

def newTexts (parts : List (List Char)) : Run Value :=
  Run.newList (parts.map fun p => .str (String.ofList p))

/-- The most pieces that a text is cut into. -/
def limit (m : Machine) (v : Option Value) : Run Int := do
  match v with
  | some v => Subscript.size m v
  | none => return -1

def split (m : Machine) (func : String) (cs : List Char) (a : Args) (fromRight : Bool) :
    Run Value := do
  match ← (Signature.named func 0 ["sep", "maxsplit"]).take a with
  | [sep, most] =>
    let n ← limit m most
    match sep.getD .none with
    | .none =>
      newTexts ((if fromRight then Text.wordsLast else Text.wordsFirst) Text.isBlank cs n)
    | v =>
      match ← textArg? v with
      | none => Run.typeError s!"must be str or None, not {← Kind.name v}"
      | some "" => Run.valueError "empty separator"
      | some sep => newTexts ((if fromRight then Text.splitLast else Text.splitFirst) sep.toList cs n)
  | _ => return .none

/-- The items of an argument that is to be joined. -/
def joined (m : Machine) (v : Value) : Run (List Value) := do
  match ← Iteration.catching "TypeError" (Iteration.iter m v) with
  | some it => Iteration.drain m it
  | none => Run.typeError "can only join an iterable"

def join (m : Machine) (s : String) (v : Value) : Run Value := do
  let parts ← (← joined m v).zipIdx.mapM fun (x, i) => do
    match ← textArg? x with
    | some t => pure t
    | none =>
      Run.typeError s!"sequence item {i}: expected str instance, {← Kind.name x} found"
  return .str (s.intercalate parts)

/-- The width and the filling character of a text that is filled up. -/
def filling (m : Machine) (func : String) (a : Args) : Run (Nat × Char) := do
  let vs ← a.between func 1 2
  let width ← Subscript.size m ((vs[0]?).getD .none)
  match vs[1]? with
  | none => return (width.toNat, ' ')
  | some v =>
    match ← textArg? v with
    | some t =>
      match t.toList with
      | [c] => return (width.toNat, c)
      | _ => Run.typeError "The fill character must be exactly one character long"
    | none =>
      Run.typeError s!"The fill character must be a unicode character, not {← Kind.name v}"

/-- Replaces characters by what a mapping has for their code points. -/
def translate (m : Machine) (cs : List Char) (table : Value) : Run Value := do
  let parts ← cs.mapM fun c => do
    match ← Iteration.catching "LookupError" (Subscript.get m table (.int (Text.point c))) with
    | none => pure [c]
    | some v =>
      match ← Kind.basic v with
      | .none => pure []
      | .bool b => pure [if b then '\x01' else '\x00']
      | .int n =>
        if n < 0 || 0x10ffff < n then
          Run.valueError "character mapping must be in range(0x110000)"
        pure [Text.ofPoint n.toNat]
      | .str s => pure s.toList
      | _ => Run.typeError "character mapping must return integer, None or str"
  return .str (String.ofList parts.flatten)

/-- The mapping for `translate`: of the characters of two texts, or of a dictionary. -/
def makeTable (m : Machine) (a : Args) : Run Value := do
  let vs ← a.between "maketrans" 1 3
  match vs with
  | [d] =>
    match ← Run.deref d with
    | some (.dict entries) =>
      let es ← entries.toList.foldlM (fun es (k, v) => do
        match ← Kind.basic k with
        | .str s =>
          match s.toList with
          | [c] => Comparison.putKey m es (.int (Text.point c)) v
          | _ => Run.valueError "string keys in translate table must be of length 1"
        | .int _ | .bool _ => Comparison.putKey m es k v
        | _ => Run.typeError "keys in translate table must be strings or integers") #[]
      Run.new (.dict es)
    | _ => Run.typeError "if you give only one argument to maketrans it must be a dict"
  | x :: y :: rest =>
    let y ← Encoded.textArgument "maketrans" "2" y
    let z ← match rest with
      | z :: _ => Encoded.textArgument "maketrans" "3" z
      | [] => pure ""
    match ← textArg? x with
    | none =>
      Run.typeError "first maketrans argument must be a string if there is a second argument"
    | some x =>
      if x.length ≠ y.length then
        Run.valueError "the first two maketrans arguments must have equal length"
      let pairs := (x.toList.zip y.toList).map fun (c, d) =>
        (Value.int (Text.point c), Value.int (Text.point d))
      let gone := z.toList.map fun c => (Value.int (Text.point c), Value.none)
      let es ← (pairs ++ gone).foldlM (fun es (k, v) => Comparison.putKey m es k v) #[]
      Run.new (.dict es)
  | [] => return .none

/-- Tests that need no argument. -/
def test? (name : String) : Option (String → Bool) :=
  match name with
  | "isdigit" => some (Text.allIn fun c => Text.isDigit c || Text.isDecimal c)
  | "isalpha" => some (Text.allIn Text.isLetter)
  | "isalnum" => some (Text.allIn Text.isLetterOrNumber)
  | "isspace" => some (Text.allIn Text.isBlank)
  | "isupper" => some Text.isUpperText
  | "islower" => some Text.isLowerText
  | "isdecimal" => some (Text.allIn Text.isDecimal)
  | "isnumeric" => some (Text.allIn fun c => Text.isNumeric c || Text.isDigit c || Text.isDecimal c)
  | "istitle" => some Text.isTitleText
  | "isidentifier" => some Text.isName
  | "isprintable" => some fun s => s.toList.all Text.isPrintable
  | "isascii" => some fun s => s.toList.all fun c => c.toNat < 128
  | _ => none

/-- Changes that need no argument. -/
def change? (name : String) : Option (String → String) :=
  match name with
  | "upper" => some Text.upper
  | "lower" => some Text.lower
  | "casefold" => some Text.fold
  | "title" => some Text.titleCase
  | "capitalize" => some Text.capitalize
  | "swapcase" => some Text.swapCase
  | _ => none

/-- The methods that take arguments by name. -/
def named : List String := ["split", "rsplit", "splitlines", "encode", "expandtabs", "format"]

/-- A truth value that is given as a number. -/
def flag (m : Machine) (v : Option Value) : Run Bool := do
  match v with
  | some v => return (← Subscript.number m v) ≠ 0
  | none => return false

/-- Calls a method of a text that cuts it or searches it. -/
def callPart (m : Machine) (s : String) (name : String) (a : Args) : Run Value := do
  let full := "str." ++ name
  let cs := s.toList
  let text (cs : List Char) : Value := .str (String.ofList cs)
  match name with
  | "strip" => return text (Text.trim (← trimmed name a) cs)
  | "lstrip" => return text (cs.dropWhile (← trimmed name a))
  | "rstrip" => return text (Text.dropLastWhile (← trimmed name a) cs)
  | "split" => split m name cs a false
  | "rsplit" => split m name cs a true
  | "splitlines" =>
    match ← (Signature.named name 0 ["keepends"]).take a with
    | keep :: _ =>
      let keep ← flag m keep
      newTexts ((Text.linesWithEnds cs).map fun (l, e) => if keep then l ++ e else l)
    | [] => return .none
  | "startswith" => return .bool (← affix m name cs a false)
  | "endswith" => return .bool (← affix m name cs a true)
  | "find" | "rfind" =>
    let (sub, part) ← sought m name cs a
    return .int (((searchIn sub cs part (name == "rfind")).map Int.ofNat).getD (-1))
  | "index" | "rindex" =>
    let (sub, part) ← sought m name cs a
    match searchIn sub cs part (name == "rindex") with
    | some i => return .int i
    | none => Run.valueError "substring not found"
  | "count" =>
    let (sub, part) ← sought m name cs a
    return .int (countIn sub cs part)
  | "partition" | "rpartition" =>
    let sep ← needText (← a.one full)
    if sep.isEmpty then Run.valueError "empty separator"
    if name == "partition" then
      match Text.cutOnce? sep cs with
      | some (x, y) => return .tuple [text x, text sep, text y]
      | none => return .tuple [.str s, .str "", .str ""]
    else
      match Text.cutLast? sep cs with
      | some (x, y) => return .tuple [text x, text sep, text y]
      | none => return .tuple [.str "", .str "", .str s]
  | "removeprefix" =>
    let p ← textArg "removeprefix()" (← a.one full)
    return if p.toList.isPrefixOf cs then text (cs.drop p.length) else .str s
  | _ =>
    let p ← textArg "removesuffix()" (← a.one full)
    return if p.toList.isSuffixOf cs then text (cs.take (cs.length - p.length)) else .str s

/-- Calls a method of a text. -/
def call (m : Machine) (s : String) (name : String) (a : Args) : Run Value := do
  let full := "str." ++ name
  let cs := s.toList
  let text (cs : List Char) : Value := .str (String.ofList cs)
  if !a.names.isEmpty && !named.contains name then
    Run.typeError s!"{full}() takes no keyword arguments"
  match test? name, change? name with
  | some p, _ =>
    a.none full
    return .bool (p s)
  | _, some f =>
    a.none full
    return .str (f s)
  | none, none =>
  match name with
  | "join" => join m s (← a.one full)
  | "replace" =>
    match ← a.between name 2 3 with
    | old :: new :: rest =>
      let old ← Encoded.textArgument "replace" "1" old
      let new ← Encoded.textArgument "replace" "2" new
      return text (Text.replaceLimited old.toList new.toList cs (← limit m rest.head?))
    | _ => return .none
  | "format" => return .str (← Template.ofArgs m s a.values a.names)
  | "format_map" => return .str (← Template.ofMapping m s (← a.one full))
  | "center" =>
    let (width, fill) ← filling m name a
    return text (Text.center cs width fill)
  | "ljust" =>
    let (width, fill) ← filling m name a
    return text (Text.leftAligned cs width fill)
  | "rjust" =>
    let (width, fill) ← filling m name a
    return text (Text.rightAligned cs width fill)
  | "zfill" => return text (Text.zeroFill cs (← Subscript.size m (← a.one full)).toNat)
  | "encode" =>
    match ← (Signature.named name 0 ["encoding", "errors"]).take a with
    | [codec, rule] =>
      let (codec, rule) ← Encoded.names name codec rule
      return .bytes (← Encoded.encode s codec rule)
    | _ => return .none
  | "expandtabs" =>
    match ← (Signature.named name 0 ["tabsize"]).take a with
    | n :: _ =>
      let n ← match n with
        | some v => Subscript.number m v
        | none => pure 8
      return text (Text.expandTabs n.toNat 0 cs)
    | [] => return .none
  | "translate" => translate m cs (← a.one full)
  | "maketrans" => makeTable m a
  | _ => callPart m s name a

/-! ### Wrapped texts -/

/-- The parameters of the methods of a wrapped text: those that must be given, and the others. -/
def wrappedParams? (name : String) : Option (List String × List String) :=
  let bounds := ["start", "end"]
  match name with
  | "center" | "ljust" | "rjust" => some (["width"], ["*"])
  | "count" | "find" | "rfind" | "index" | "rindex" => some (["sub"], bounds)
  | "endswith" => some (["suffix"], bounds)
  | "startswith" => some (["prefix"], bounds)
  | "encode" => some ([], ["encoding", "errors"])
  | "expandtabs" => some ([], ["tabsize"])
  | "format_map" => some (["mapping"], [])
  | "join" => some (["seq"], [])
  | "strip" | "lstrip" | "rstrip" => some ([], ["chars"])
  | "partition" | "rpartition" => some (["sep"], [])
  | "replace" => some (["old", "new"], ["maxsplit"])
  | "split" | "rsplit" => some ([], ["sep", "maxsplit"])
  | "splitlines" => some ([], ["keepends"])
  | "translate" => some ([], ["*"])
  | "zfill" => some (["width"], [])
  | "removeprefix" => some (["prefix"], [])
  | "removesuffix" => some (["suffix"], [])
  | "format" | "maketrans" => none
  | _ => some ([], [])

/-- The methods whose result is a wrapped text again. -/
def wrapping : List String :=
  ["capitalize", "casefold", "center", "expandtabs", "ljust", "lower", "lstrip", "removeprefix",
    "removesuffix", "replace", "rjust", "rstrip", "strip", "swapcase", "title", "translate", "upper",
    "zfill"]

/-- Calls a method of a text that is wrapped in another object. -/
def callWrapped (m : Machine) (s : String) (name : String) (a : Args) : Run Value := do
  let a ← match wrappedParams? name with
    | some (needed, more) => a.filled ("UserString." ++ name) needed more
    | none => pure a
  let values ← a.values.mapM fun v => do
    match ← Run.deref v with
    | some (.userText t) => pure (.str t)
    | _ => pure v
  match ← call m s name { a with values }, wrapping.contains name with
  | .str t, true => Run.new (.userText t)
  | v, _ => return v

end TextMethod

end LiveMarkdown.Script
