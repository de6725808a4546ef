import LiveMarkdown.Calendar
import LiveMarkdown.Metadata.Graph
import LiveMarkdown.Script.Convert

/-!
Metadata as values of programs. Sequences and mappings are made empty first and filled afterwards,
in the order in which they were met, so that they may contain themselves.
-/

namespace LiveMarkdown.Metadata

open Script (Value Run Ref Machine)

/-- A collection that is still to be filled from a node. -/
inductive Filling where
  | list (r : Ref)
  | dict (r : Ref)
  | set (r : Ref)
  /-- A list of pairs. A strict one comes from mappings of one entry each. -/
  | pairs (r : Ref)

structure Building where
  nodes : Array Node
  made : List (Nat × Value) := []
  waiting : List (Filling × Nat) := []

abbrev Build := ExceptT Refusal (StateT Building Run)

namespace Build

def refuse {α : Type} : Build α := throw .malformed

def node (i : Nat) : Build Node := do return ((← get).nodes[i]?).getD ⟨"", .scalar ""⟩

def setNode (i : Nat) (n : Node) : Build Unit := modify fun b => { b with nodes := b.nodes.set! i n }

/-- The text of a scalar. A mapping with a default value has that one's text. The fuel is more than
there are nodes: without fuel the defaults have led in a circle. -/
def textOf : Nat → Nat → Build String
  | 0, _ => Run.raise "RecursionError" "maximum recursion depth exceeded"
  | fuel + 1, i => do
    match (← node i).content with
    | .scalar s => return s
    | .sequence _ => refuse
    | .mapping entries =>
      match ← entries.findM? fun e => do return (← node e.1).tag = coreTag "value" with
      | some (_, v) => textOf fuel v
      | none => refuse

/-! ### Scalars -/

def indexError {α : Type} : Run α := Run.raise "IndexError" "string index out of range"

/-- A text without underscores, split into its sign and the rest. -/
def signed (text : String) : Run (Bool × String) := do
  match text.toList.filter (· ≠ '_') with
  | [] => indexError
  | '-' :: cs => return (true, String.ofList cs)
  | '+' :: cs => return (false, String.ofList cs)
  | cs => return (false, String.ofList cs)

def readInt (base : Nat) (s : String) : Run Int := Script.Convert.readInt base s (Text.quoted s)

def int (text : String) : Run Value := do
  let (negative, s) ← signed text
  let sign (n : Int) : Value := .int (if negative then -n else n)
  match s.toList with
  | [] => indexError
  | ['0'] => return .int 0
  | '0' :: 'b' :: cs => return sign (← readInt 2 (String.ofList cs))
  | '0' :: 'x' :: cs => return sign (← readInt 16 (String.ofList cs))
  | '0' :: _ => return sign (← readInt 8 s)
  | cs =>
    if cs.contains ':' then
      let parts ← (s.splitOn ":").mapM (readInt 10)
      return sign (parts.foldl (fun n d => n * 60 + d) 0)
    return sign (← readInt 10 s)

def readFloat (s : String) : Run Float := do
  match Script.Convert.floatOfText? s with
  | some x => return x
  | none => Run.valueError s!"could not convert string to float: {Text.quoted s}"

/-- The sum of parts times growing powers of sixty, the last part first. -/
def sumOfSixties : Float → Float → List Float → Float
  | _, total, [] => total
  | base, total, x :: xs => sumOfSixties (base * 60) (total + x * base) xs

def float (text : String) : Run Value := do
  let (negative, s) ← signed (Text.lower text)
  let sign (x : Float) : Value := .float (if negative then -1 * x else x)
  if s == ".inf" then return sign (1 / 0)
  if s == ".nan" then return .float (0 / 0)
  if s.toList.contains ':' then
    let parts ← (s.splitOn ":").mapM readFloat
    return sign (sumOfSixties 1 0 parts.reverse)
  return sign (← readFloat s)

def bool (text : String) : Run Value := do
  let s := Text.lower text
  if ["yes", "true", "on"].contains s then return .bool true
  if ["no", "false", "off"].contains s then return .bool false
  Run.raiseWith "KeyError" [.str s]

/-- The value of a character that stands for six bits. -/
def sixBits? (c : Char) : Option Nat :=
  if 'A' ≤ c && c ≤ 'Z' then some (c.toNat - 65)
  else if 'a' ≤ c && c ≤ 'z' then some (c.toNat - 71)
  else if '0' ≤ c && c ≤ '9' then some (c.toNat + 4)
  else if c = '+' then some 62
  else if c = '/' then some 63
  else none

/-- Bytes from characters of six bits each. `count` characters of a group of four were read, and
`left` holds what they leave over; padding ends the last group. -/
def bytes? (count pads left : Nat) : List Char → Option (List UInt8)
  | [] => if count = 0 then some [] else none
  | c :: cs =>
    if c = '=' then
      if 2 ≤ count then
        if 4 ≤ count + pads + 1 then some [] else bytes? count (pads + 1) left cs
      else bytes? count pads left cs
    else
      match sixBits? c with
      | none => bytes? count pads left cs
      | some n =>
        let byte (b : Nat) (rest : Option (List UInt8)) : Option (List UInt8) :=
          rest.map (UInt8.ofNat (b % 256) :: ·)
        match count with
        | 0 => bytes? 1 0 n cs
        | 1 => byte (left * 4 + n / 16) (bytes? 2 0 (n % 16) cs)
        | 2 => byte (left * 16 + n / 4) (bytes? 3 0 (n % 4) cs)
        | _ => byte (left * 64 + n) (bytes? 0 0 0 cs)

/-- Checks a day. -/
def checkDay (t : Scalar.Time) : Run Unit := do
  if t.year = 0 then Run.valueError "year 0 is out of range"
  if t.month = 0 || 12 < t.month then Run.valueError "month must be in 1..12"
  if t.day = 0 || Calendar.daysInMonth t.year t.month < t.day then
    Run.valueError "day is out of range for month"

/-- A distance in minutes, as it is shown. -/
def shownDistance (minutes : Int) : String :=
  let days := minutes.fdiv 1440
  let seconds := minutes.fmod 1440 * 60
  if seconds = 0 then s!"datetime.timedelta(days={days})"
  else s!"datetime.timedelta(days={days}, seconds={seconds})"

def offset? (zone : Option Scalar.Zone) : Run (Option Int) := do
  match zone with
  | none => return none
  | some ⟨none⟩ => return some 0
  | some ⟨some (negative, h, m)⟩ =>
    let minutes : Int := h * 60 + m
    let minutes := if negative then -minutes else minutes
    if 1440 ≤ minutes.natAbs then
      Run.valueError s!"offset must be a timedelta strictly between -timedelta(hours=24) and timedelta(hours=24), not {shownDistance minutes}."
    return some minutes

def time (text : String) : Run Value := do
  match Scalar.time? (Scalar.dropLastFeed text.toList) with
  | none => Run.raise "AttributeError" "'NoneType' object has no attribute 'groupdict'"
  | some t =>
    match t.clock with
    | none =>
      checkDay t
      return .date t.year t.month t.day
    | some (hour, minute, second, fraction, zone) =>
      let offset ← offset? zone
      checkDay t
      if 23 < hour then Run.valueError "hour must be in 0..23"
      if 59 < minute then Run.valueError "minute must be in 0..59"
      if 59 < second then Run.valueError "second must be in 0..59"
      let six := (fraction ++ List.replicate 6 '0').take 6
      let microsecond := six.foldl (fun n c => n * 10 + (c.toNat - 48)) 0
      return .moment
        { year := t.year, month := t.month, day := t.day, hour, minute, second, microsecond, offset }

/-- A time as it is read at a node: the default value of a mapping is not looked at. -/
def timeAt (content : Content) (text : String) : Run Value :=
  match content with
  | .scalar _ => time text
  | _ => Run.typeError "expected string or bytes-like object, got 'list'"

/-! ### Collections -/

/-- The value of a node; a collection is filled later. -/
def value (i : Nat) : Build Value := do
  match (← get).made.find? (·.1 = i) with
  | some (_, v) => return v
  | none =>
    let n ← node i
    let text : Build String := textOf ((← get).nodes.size + 1) i
    let later (o : Script.Object) (f : Ref → Filling) : Build Value := do
      let r ← Run.alloc o
      modify fun b => { b with waiting := b.waiting ++ [(f r, i)] }
      return .ref r
    let tag := n.tag
    let v ←
      if tag = coreTag "null" then do
        discard text
        pure Value.none
      else if tag = coreTag "bool" then do bool (← text)
      else if tag = coreTag "int" then do int (← text)
      else if tag = coreTag "float" then do float (← text)
      else if tag = coreTag "str" then do pure (Value.str (← text))
      else if tag = coreTag "timestamp" then do timeAt n.content (← text)
      else if tag = coreTag "binary" then do
        let s ← text
        if s.toList.any fun c => 127 < c.toNat then refuse
        match bytes? 0 0 0 s.toList with
        | some bs => pure (Value.bytes bs)
        | none => refuse
      else if tag = coreTag "seq" then later (.list #[]) .list
      else if tag = coreTag "map" then later (.dict #[]) .dict
      else if tag = coreTag "set" then later (.set false #[]) .set
      else if tag = coreTag "omap" || tag = coreTag "pairs" then later (.list #[]) .pairs
      else refuse
    modify fun b => { b with made := (i, v) :: b.made }
    return v

/-- Moves the entries of merged mappings to the front of a mapping. Of several the first counts most,
so it comes last. -/
def flatten : Nat → Nat → Build Unit
  | 0, _ => refuse
  | fuel + 1, i => do
    let n ← node i
    match n.content with
    | .mapping entries =>
      let own ← entries.filterM fun e => do return (← node e.1).tag ≠ coreTag "merge"
      let merging ← entries.filterM fun e => do return (← node e.1).tag = coreTag "merge"
      setNode i { n with content := .mapping own }
      for (k, _) in own do
        let key ← node k
        if key.tag = coreTag "value" then setNode k { key with tag := coreTag "str" }
      let pieces ← merging.mapM fun (_, v) => do
        match (← node v).content with
        | .mapping _ =>
          flatten fuel v
          entriesOf v
        | .sequence items =>
          let parts ← items.mapM fun j => do
            match (← node j).content with
            | .mapping _ =>
              flatten fuel j
              entriesOf j
            | _ => refuse
          return parts.reverse.flatten
        | .scalar _ => refuse
      let merged := pieces.flatten
      if !merged.isEmpty then
        setNode i { n with content := .mapping (merged ++ (← entriesOf i)) }
    | _ => return ()
where
  entriesOf (i : Nat) : Build (List (Nat × Nat)) := do
    match (← node i).content with
    | .mapping entries => return entries
    | _ => return []

/-- The entries of a mapping as keys with values. -/
def entries (m : Machine) (i : Nat) : Build (Array (Value × Value)) := do
  flatten ((← get).nodes.size + 1) i
  match (← node i).content with
  | .mapping es =>
    es.foldlM (fun (acc : Array (Value × Value)) (k, v) => do
      let key ← value k
      match key with
      | .ref _ => refuse
      | _ => pure ()
      let v ← value v
      let acc ← Script.Comparison.putKey m acc key v
      return acc) #[]
  | _ => refuse

def pair (j : Nat) : Build Value := do
  match (← node j).content with
  | .mapping [(k, v)] => return .tuple [← value k, ← value v]
  | _ => refuse

def fill (m : Machine) (f : Filling) (i : Nat) : Build Unit := do
  let content := (← node i).content
  match f with
  | .list r =>
    match content with
    | .sequence items =>
      let vs ← items.mapM value
      Run.write r (.list vs.toArray)
    | _ => refuse
  | .dict r =>
    let es ← entries m i
    Run.write r (.dict es)
  | .set r =>
    let es ← entries m i
    Run.write r (.set false (es.map (·.1)))
  | .pairs r =>
    match content with
    | .sequence items =>
      let vs ← items.mapM pair
      Run.write r (.list vs.toArray)
    | _ => refuse

/-- Fills what is waiting until nothing is. -/
def fillAll (m : Machine) : Nat → Build Unit
  | 0 => return ()
  | fuel + 1 => do
    let waiting := (← get).waiting
    if waiting.isEmpty then return ()
    modify fun b => { b with waiting := [] }
    waiting.forM fun (f, i) => fill m f i
    fillAll m fuel

end Build

/-- Raises what is raised for the character of a number that has none. -/
def noSuchCharacter {α : Type} (code : Nat) : Run α :=
  if code < 0x80000000 then Run.valueError "chr() arg not in range(0x110000)"
  else Run.raise "OverflowError" "Python int too large to convert to C int"

/-- The value of a metadata text, if it can be read. -/
def readValue (m : Machine) (text : String) : Run (Except Refusal Value) := do
  match Graph.ofText text with
  | .error (.noSuchCharacter code) => noSuchCharacter code
  | .error .malformed => return .error .malformed
  | .ok g =>
    match g.root with
    | none => return .ok .none
    | some root =>
      let build : Build Value := do
        let v ← Build.value root
        Build.fillAll m (g.nodes.size + 1)
        return v
      return (← (build.run).run { nodes := g.nodes }).1

end LiveMarkdown.Metadata
