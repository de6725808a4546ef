import LiveMarkdown.Script.Method.Text

/-!
The methods of byte strings, and of byte arrays, which can change. Only the letters of ASCII have
case, and only its blanks separate words.
-/

namespace LiveMarkdown.Script

namespace BytesMethod

/-- An argument that must be made of bytes. -/
def need (v : Value) : Run (List UInt8) := do
  match ← ByteView.buffer? (← Kind.basic v) with
  | some bs => return bs
  | none => Run.typeError s!"a bytes-like object is required, not '{← Kind.name v}'"

/-- The byte that a number stands for. -/
def byteOf (n : Int) : Run UInt8 := do
  if n < 0 || 255 < n then Run.valueError "byte must be in range(0, 256)"
  return UInt8.ofNat n.toNat

/-- The argument of a search: bytes, or the number of one byte. -/
def needSought (m : Machine) (v : Value) : Run (List UInt8) := do
  match ← ByteView.buffer? (← Kind.basic v) with
  | some bs => return bs
  | none =>
    match ← Subscript.index? m v with
    | some n => return [← byteOf n]
    | none =>
      Run.typeError
        s!"argument should be integer or bytes-like object, not '{← Kind.name v}'"

def sought (m : Machine) (func : String) (bs : List UInt8) (a : Args) :
    Run (List UInt8 × Option (Nat × Nat)) := do
  let vs ← a.counted func 1 3
  let part ← TextMethod.window m bs.length (vs[1]?) (vs[2]?)
  return (← needSought m ((vs[0]?).getD .none), part)

/-- Whether bytes begin or end with some of the given ones. -/
def affix (m : Machine) (func : String) (bs : List UInt8) (a : Args) (atEnd : Bool) : Run Bool := do
  let vs ← a.counted func 1 3
  let part ← TextMethod.window m bs.length (vs[1]?) (vs[2]?)
  match ← Kind.basic ((vs[0]?).getD .none) with
  | .tuple ts =>
    for t in ts do
      if TextMethod.affixIn atEnd (← need t) bs part then return true
    return false
  | v =>
    match ← ByteView.buffer? v with
    | some x => return TextMethod.affixIn atEnd x bs part
    | none =>
      Run.typeError s!"{func} first arg must be bytes or a tuple of bytes, not {← Kind.name v}"

/-- The blanks between words. -/
def isBlank (b : UInt8) : Bool := (9 ≤ b && b ≤ 13) || b == 32

/-- The bytes that are cut from the ends. -/
def trimmed (func : String) (a : Args) : Run (UInt8 → Bool) := do
  match ← a.between func 0 1 with
  | [] | [.none] => return isBlank
  | v :: _ =>
    let bs ← need v
    return bs.contains

/-- A new list of byte strings. -/
def newParts (wrap : List UInt8 → Run Value) (parts : List (List UInt8)) : Run Value := do
  Run.newList (← parts.mapM wrap)

def split (m : Machine) (wrap : List UInt8 → Run Value) (func : String) (bs : List UInt8) (a : Args)
    (fromRight : Bool) : Run Value := do
  match ← (Signature.named func 0 ["sep", "maxsplit"]).take a with
  | [sep, most] =>
    let n ← TextMethod.limit m most
    match sep.getD .none with
    | .none =>
      newParts wrap ((if fromRight then Text.wordsLast else Text.wordsFirst) isBlank bs n)
    | v =>
      let sep ← need v
      if sep.isEmpty then Run.valueError "empty separator"
      newParts wrap ((if fromRight then Text.splitLast else Text.splitFirst) sep bs n)
  | _ => return .none

def join (m : Machine) (bs : List UInt8) (v : Value) : Run (List UInt8) := do
  let parts ← (← TextMethod.joined m v).zipIdx.mapM fun (x, i) => do
    match ← ByteView.closeBytes? (← Kind.basic x) with
    | some t => pure t
    | none =>
      Run.typeError
        s!"sequence item {i}: expected a bytes-like object, {← Kind.name x} found"
  return bs.intercalate parts

/-- The width and the filling byte of bytes that are filled up. -/
def filling (m : Machine) (func : String) (a : Args) : Run (Nat × UInt8) := do
  let vs ← a.between func 1 2
  let width ← Subscript.size m ((vs[0]?).getD .none)
  match vs[1]? with
  | none => return (width.toNat, 32)
  | some v =>
    let refuse : Run (Nat × UInt8) := do
      Run.typeError
        s!"{func}() argument 2 must be a byte string of length 1, not {← Kind.given v}"
    match ← Kind.basic v, ← Run.deref (← Kind.basic v) with
    | .bytes [b], _ | _, some (.byteArray [b]) => return (width.toNat, b)
    | _, _ => refuse

/-- The separator of the digits of bytes, and the number of bytes between two of them; negative if
the bytes are counted from the left. -/
def digitSeparator (m : Machine) (a : Args) : Run (Option (Char × Int)) := do
  match ← (Signature.named "hex" 0 ["sep", "bytes_per_sep"]).take a with
  | [some sep, group] =>
    let group ← match group with
      | some v => Subscript.number m v
      | none => pure 1
    match ← Iteration.length? m sep with
    | none => Run.typeError s!"object of type '{← Kind.name sep}' has no len()"
    | some n => if n ≠ 1 then Run.valueError "sep must be length 1."
    let c ← match ← Kind.basic sep with
      | .str s => pure (s.toList.headD ' ')
      | .bytes bs => pure (Char.ofNat (bs.headD 0).toNat)
      | _ => Run.typeError "sep must be str or bytes."
    if 128 ≤ c.toNat then Run.valueError "sep must be ASCII."
    return some (c, group)
  | [none, some group] =>
    discard (Subscript.number m group)
    return none
  | _ => return none

/-- Lists cut into groups of a size, from the left. -/
def groups {α : Type} (size : Nat) : Nat → List α → List (List α)
  | 0, _ => []
  | _, [] => []
  | fuel + 1, x :: xs => (x :: xs).take size :: groups size fuel ((x :: xs).drop size)

/-- Bytes as hexadecimal digits. -/
def hexText (separator : Option (Char × Int)) (bs : List UInt8) : String :=
  let digits (b : UInt8) : List Char := Text.hexDigits 2 b.toNat
  match separator with
  | none => String.ofList (bs.flatMap digits)
  | some (c, group) =>
    let size := group.natAbs
    if size = 0 then String.ofList (bs.flatMap digits)
    else
      let parts := if group < 0 then groups size bs.length bs
        else ((groups size bs.length bs.reverse).map List.reverse).reverse
      String.ofList ([c].intercalate (parts.map fun p => p.flatMap digits))

/-- The bytes that pairs of hexadecimal digits denote, with blanks between the pairs, or the place of
the first character that is wrong. -/
def ofHex : Nat → List Char → Except Nat (List UInt8)
  | _, [] => .ok []
  | i, [c] =>
    if isBlankChar c then .ok []
    else match Text.hexDigit? c with
      | some _ => .error (i + 1)
      | none => .error i
  | i, c :: d :: cs =>
    if isBlankChar c then ofHex (i + 1) (d :: cs)
    else
      match Text.hexDigit? c, Text.hexDigit? d with
      | none, _ => .error i
      | _, none => .error (i + 1)
      | some x, some y => do return UInt8.ofNat (x * 16 + y) :: (← ofHex (i + 2) cs)
where
  isBlankChar (c : Char) : Bool := c.toNat < 128 && isBlank (UInt8.ofNat c.toNat)

/-- The bytes that a text of hexadecimal digits denotes. -/
def fromHex (a : Args) (cls : String) : Run (List UInt8) := do
  let v ← a.one (cls ++ ".fromhex")
  match ← textArg? v with
  | none => Run.typeError s!"fromhex() argument must be str, not {← Kind.given v}"
  | some s =>
    let found : Except Nat (List UInt8) :=
      match s.toList.findIdx? fun c => 128 ≤ c.toNat with
      | some i => .error i
      | none => ofHex 0 s.toList
    match found with
    | .ok bs => return bs
    | .error i =>
      Run.valueError s!"non-hexadecimal number found in fromhex() arg at position {i}"

/-- The table for `translate` that maps each byte of one list to the one of another. -/
def makeTable (a : Args) : Run Value := do
  match ← a.between "maketrans" 2 2 with
  | [x, y] =>
    let x ← need x
    let y ← need y
    if x.length ≠ y.length then Run.valueError "maketrans arguments must have same length"
    let pairs := (x.zip y).reverse
    return .bytes ((List.range 256).map fun (n : Nat) =>
      let b := UInt8.ofNat n
      match pairs.find? fun p => p.1 == b with
      | some (_, c) => c
      | none => b)
  | _ => return .none

def translate (bs : List UInt8) (a : Args) : Run (List UInt8) := do
  match ← (Signature.mk "translate" ["table", "delete"] 1 1 []).take a with
  | [table, gone] =>
    let table ← match table.getD .none with
      | .none => pure none
      | v =>
        let t ← need v
        if t.length ≠ 256 then Run.valueError "translation table must be 256 characters long"
        pure (some t.toArray)
    let gone ← match gone with
      | some v => need v
      | none => pure []
    let kept := bs.filter fun b => !gone.contains b
    match table with
    | some t => return kept.map fun b => (t[b.toNat]?).getD b
    | none => return kept
  | _ => return bs

def isUpper (b : UInt8) : Bool := 65 ≤ b && b ≤ 90

def isLower (b : UInt8) : Bool := 97 ≤ b && b ≤ 122

def isLetter (b : UInt8) : Bool := isUpper b || isLower b

def isDigit (b : UInt8) : Bool := 48 ≤ b && b ≤ 57

def upper (b : UInt8) : UInt8 := if isLower b then b - 32 else b

def lower (b : UInt8) : UInt8 := if isUpper b then b + 32 else b

/-- Every run of letters with an upper-case letter first. -/
def titleFrom (inWord : Bool) : List UInt8 → List UInt8
  | [] => []
  | b :: bs => (if inWord then lower b else upper b) :: titleFrom (isLetter b) bs

/-- Whether upper-case letters stand at the start of words and nowhere else. -/
def isTitleFrom (inWord : Bool) : List UInt8 → Bool
  | [] => true
  | b :: bs =>
    if isUpper b then !inWord && isTitleFrom true bs
    else if isLower b then inWord && isTitleFrom true bs
    else isTitleFrom false bs

/-- Tests that need no argument. -/
def test? (name : String) : Option (List UInt8 → Bool) :=
  let all (p : UInt8 → Bool) (bs : List UInt8) : Bool := !bs.isEmpty && bs.all p
  match name with
  | "isdigit" => some (all isDigit)
  | "isalpha" => some (all isLetter)
  | "isalnum" => some (all fun b => isLetter b || isDigit b)
  | "isspace" => some (all isBlank)
  | "isupper" => some fun bs => bs.any isUpper && !bs.any isLower
  | "islower" => some fun bs => bs.any isLower && !bs.any isUpper
  | "istitle" => some fun bs => bs.any isLetter && isTitleFrom false bs
  | "isascii" => some fun bs => bs.all (· < 128)
  | _ => none

/-- Changes that need no argument. -/
def change? (name : String) : Option (List UInt8 → List UInt8) :=
  match name with
  | "upper" => some (List.map upper)
  | "lower" => some (List.map lower)
  | "title" => some (titleFrom false)
  | "capitalize" => some fun bs => (bs.take 1).map upper ++ (bs.drop 1).map lower
  | "swapcase" => some (List.map fun b => if isUpper b then lower b else upper b)
  | _ => none

/-- The methods that take arguments by name. -/
def named : List String :=
  ["decode", "split", "rsplit", "splitlines", "expandtabs", "hex", "translate"]

/-- Calls a method that cuts bytes or searches them. -/
def callPart (m : Machine) (cls : String) (wrap : List UInt8 → Run Value) (bs : List UInt8)
    (name : String) (a : Args) : Run Value := do
  let full := cls ++ "." ++ name
  match name with
  | "strip" => wrap (Text.trim (← trimmed name a) bs)
  | "lstrip" => wrap (bs.dropWhile (← trimmed name a))
  | "rstrip" => wrap (Text.dropLastWhile (← trimmed name a) bs)
  | "split" => split m wrap name bs a false
  | "rsplit" => split m wrap name bs a true
  | "splitlines" =>
    match ← (Signature.named name 0 ["keepends"]).take a with
    | keep :: _ =>
      let keep ← TextMethod.flag m keep
      let lines := Text.linesEndedBy (fun c => c == '\n' || c == '\r') (Encoded.byteChars bs)
      newParts wrap (lines.map fun (l, e) => Encoded.charBytes (if keep then l ++ e else l))
    | [] => return .none
  | "startswith" => return .bool (← affix m name bs a false)
  | "endswith" => return .bool (← affix m name bs a true)
  | "find" | "rfind" =>
    let (sub, part) ← sought m name bs a
    return .int (((TextMethod.searchIn sub bs part (name == "rfind")).map Int.ofNat).getD (-1))
  | "index" | "rindex" =>
    let (sub, part) ← sought m name bs a
    match TextMethod.searchIn sub bs part (name == "rindex") with
    | some i => return .int i
    | none => Run.valueError "subsection not found"
  | "count" =>
    let (sub, part) ← sought m name bs a
    return .int (TextMethod.countIn sub bs part)
  | "partition" | "rpartition" =>
    let sep ← need (← a.one full)
    if sep.isEmpty then Run.valueError "empty separator"
    let found := if name == "partition" then Text.cutOnce? sep bs else Text.cutLast? sep bs
    let (x, y, z) := match found with
      | some (x, y) => (x, sep, y)
      | none => if name == "partition" then (bs, [], []) else ([], [], bs)
    return .tuple [← wrap x, ← wrap y, ← wrap z]
  | "removeprefix" =>
    let p ← need (← a.one full)
    wrap (if p.isPrefixOf bs then bs.drop p.length else bs)
  | _ =>
    let p ← need (← a.one full)
    wrap (if p.isSuffixOf bs then bs.take (bs.length - p.length) else bs)

/-- Calls a method of bytes. `wrap` makes a value of the bytes of a result. -/
def call (m : Machine) (cls : String) (wrap : List UInt8 → Run Value) (bs : List UInt8)
    (name : String) (a : Args) : Run Value := do
  let full := cls ++ "." ++ name
  if !a.names.isEmpty && !named.contains name then
    Run.typeError s!"{full}() takes no keyword arguments"
  match test? name, change? name with
  | some p, _ =>
    a.none full
    return .bool (p bs)
  | _, some f =>
    a.none full
    wrap (f bs)
  | none, none =>
  match name with
  | "decode" =>
    match ← (Signature.named name 0 ["encoding", "errors"]).take a with
    | [codec, rule] =>
      let (codec, rule) ← Encoded.names name codec rule
      return .str (← Encoded.decode bs codec rule)
    | _ => return .none
  | "hex" => return .str (hexText (← digitSeparator m a) bs)
  | "join" => wrap (← join m bs (← a.one full))
  | "replace" =>
    match ← a.between name 2 3 with
    | old :: new :: rest =>
      let old ← need old
      let new ← need new
      wrap (Text.replaceLimited old new bs (← TextMethod.limit m rest.head?))
    | _ => return .none
  | "center" =>
    let (width, fill) ← filling m name a
    wrap (Text.center bs width fill)
  | "ljust" =>
    let (width, fill) ← filling m name a
    wrap (Text.leftAligned bs width fill)
  | "rjust" =>
    let (width, fill) ← filling m name a
    wrap (Text.rightAligned bs width fill)
  | "zfill" =>
    let width ← Subscript.size m (← a.one full)
    wrap (Encoded.charBytes (Text.zeroFill (Encoded.byteChars bs) width.toNat))
  | "expandtabs" =>
    match ← (Signature.named name 0 ["tabsize"]).take a with
    | n :: _ =>
      let n ← match n with
        | some v => Subscript.number m v
        | none => pure 8
      wrap (Encoded.charBytes (Text.expandTabs n.toNat 0 (Encoded.byteChars bs)))
    | [] => return .none
  | "translate" => wrap (← translate bs a)
  | "maketrans" => makeTable a
  | _ => callPart m cls wrap bs name a

/-- Calls a method of a byte string. -/
def callBytes (m : Machine) (bs : List UInt8) (name : String) (a : Args) : Run Value := do
  match name with
  | "fromhex" => return .bytes (← fromHex a "bytes")
  | _ => call m "bytes" (fun bs => pure (.bytes bs)) bs name a

/-- A number as a byte of a byte array. -/
def item (m : Machine) (v : Value) : Run UInt8 := do byteOf (← Subscript.integer m v)

/-- The bytes that are added to a byte array. -/
def added (m : Machine) (v : Value) : Run (List UInt8) := do
  match ← Run.bytes? (← Kind.basic v) with
  | some bs => return bs
  | none =>
    match ← Iteration.catching "TypeError" (Iteration.iter m v) with
    | none => Run.typeError s!"can't extend bytearray with {← Kind.name v}"
    | some it =>
      let items ← Iteration.drain m it
      items.mapM (item m)

/-- Calls a method of a byte array. -/
def callArray (m : Machine) (r : Ref) (bs : List UInt8) (name : String) (a : Args) : Run Value := do
  let full := "bytearray." ++ name
  let write (bs : List UInt8) : Run Value := do
    ByteView.setBytes r bs
    return .none
  match name with
  | "append" =>
    let b ← item m (← a.one full)
    write (bs ++ [b])
  | "extend" =>
    let more ← added m (← a.one full)
    write (bs ++ more)
  | "insert" =>
    match ← a.between full 2 2 with
    | [i, v] =>
      let i ← Subscript.size m i
      let b ← item m v
      let n : Int := bs.length
      let place := (max 0 (min n (if i < 0 then i + n else i))).toNat
      write (bs.take place ++ b :: bs.drop place)
    | _ => return .none
  | "pop" =>
    let i ← match ← a.between full 0 1 with
      | v :: _ => Subscript.size m v
      | [] => pure (-1)
    if bs.isEmpty then Run.raise "IndexError" "pop from empty bytearray"
    match Subscript.place? i bs.length with
    | some k =>
      ByteView.setBytes r (bs.eraseIdx k)
      return .int ((bs[k]?).getD 0).toNat
    | none => Run.raise "IndexError" "pop index out of range"
  | "remove" =>
    let b ← item m (← a.one full)
    match bs.findIdx? (· == b) with
    | some k => write (bs.eraseIdx k)
    | none => Run.valueError "value not found in bytearray"
  | "reverse" =>
    a.none full
    write bs.reverse
  | "clear" =>
    a.none full
    write []
  | "copy" =>
    a.none full
    Run.new (.byteArray bs)
  | "fromhex" => Run.new (.byteArray (← fromHex a "bytearray"))
  | _ => call m "bytearray" (fun bs => Run.new (.byteArray bs)) bs name a

end BytesMethod

end LiveMarkdown.Script
