import LiveMarkdown.Metadata.Lexer
import LiveMarkdown.Metadata.Scalar

/-!
Metadata as a graph: scalars, sequences and mappings, each with a tag. An alias is one more way to
the node that bears its anchor, so a node may be reached from itself.
-/

namespace LiveMarkdown.Metadata

inductive Content where
  | scalar (text : String)
  | sequence (items : List Nat)
  | mapping (entries : List (Nat × Nat))
deriving Repr

structure Node where
  tag : String
  content : Content
deriving Repr

/-- Nodes by number, and the node that stands for the whole text. -/
structure Graph where
  nodes : Array Node
  root : Option Nat

/-- What is left of the tokens, and the nodes so far. -/
structure Reader where
  rest : List Token
  /-- Why there are no more tokens, if the text goes on. -/
  stop : Option Refusal := none
  nodes : Array Node := #[]
  anchors : List (String × Nat) := []
  /-- The texts that the handles of tags stand for. -/
  handles : List (String × String) := []

abbrev Read := StateT Reader (Except Refusal)

namespace Read

def refuse {α : Type} : Read α := throw .malformed

/-- The token ahead. A text that cannot be read on is refused when the next token is asked for. -/
def peek : Read Token := do
  let r ← get
  match r.rest, r.stop with
  | t :: _, _ => return t
  | [], some e => throw e
  | [], none => return .done

def drop : Read Unit := modify fun r => { r with rest := r.rest.tail }

/-- Drops a token if it is ahead; says whether it was. -/
def accept (t : Token) : Read Bool := do
  if (← peek) = t then
    drop
    return true
  return false

def isAhead (ts : List Token) : Read Bool := do return ts.contains (← peek)

/-- Adds a node, under its anchor if it has one. -/
def add (anchor : Option String) (n : Node) : Read Nat := do
  let r ← get
  let anchors := match anchor with
    | some a => (a, r.nodes.size) :: r.anchors
    | none => r.anchors
  set { r with nodes := r.nodes.push n, anchors }
  return r.nodes.size

def fill (i : Nat) (content : Content) : Read Unit := modify fun r =>
  { r with nodes := r.nodes.modify i fun n => { n with content } }

def empty : Read Nat := add none ⟨Scalar.plainTag "", .scalar ""⟩

def tagName (handle : Option String) (suffix : String) : Read String := do
  match handle with
  | none => return suffix
  | some h =>
    match (← get).handles.find? (·.1 = h) with
    | some (_, p) => return p ++ suffix
    | none => refuse

/-- The anchor and the tag of a node, in any order. -/
def properties : Read (Option String × Option String) := do
  let anchor : Read (Option String) := do
    match ← peek with
    | .anchor a =>
      drop
      return some a
    | _ => return none
  let tag : Read (Option (Option String × String)) := do
    match ← peek with
    | .tag h s =>
      drop
      return some (h, s)
    | _ => return none
  let first ← anchor
  let t ← tag
  let a ← if first.isNone && t.isSome then anchor else pure first
  match t with
  | some (h, s) => return (a, some (← tagName h s))
  | none => return (a, none)

/-- Whether a tag leaves it to the text of a scalar what it is. -/
def isOpen (tag : Option String) : Bool := tag.isNone || tag = some "!"

/-- How a node may be written at a place. -/
inductive Place where
  | flow
  | block
  /-- A block in which the entries of a sequence need no indentation. -/
  | value
deriving DecidableEq

variable (node : Place → Read Nat)

/-- A node, or an empty scalar before tokens that begin none. -/
def nodeBefore (place : Place) (ends : List Token) : Read Nat := do
  if ← isAhead ends then empty else node place

def blockEntries : Nat → List Nat → Read (List Nat)
  | 0, _ => refuse
  | fuel + 1, items => do
    if ← accept .blockEntry then
      let n ← nodeBefore node .block [.blockEntry, .blockEnd]
      blockEntries fuel (items ++ [n])
    else if ← accept .blockEnd then return items
    else refuse

def looseEntries : Nat → List Nat → Read (List Nat)
  | 0, _ => refuse
  | fuel + 1, items => do
    if ← accept .blockEntry then
      let n ← nodeBefore node .block [.blockEntry, .key, .value, .blockEnd]
      looseEntries fuel (items ++ [n])
    else return items

def blockPairs : Nat → List (Nat × Nat) → Read (List (Nat × Nat))
  | 0, _ => refuse
  | fuel + 1, entries => do
    let ends : List Token := [.key, .value, .blockEnd]
    if ← accept .blockEnd then return entries
    if !(← accept .key) then refuse
    let k ← nodeBefore node .value ends
    let v ← if ← accept .value then nodeBefore node .value ends else empty
    blockPairs fuel (entries ++ [(k, v)])

def flowItems : Nat → Bool → List Nat → Read (List Nat)
  | 0, _, _ => refuse
  | fuel + 1, first, items => do
    if ← accept .flowSequenceEnd then return items
    if !first then
      if !(← accept .flowEntry) then refuse
    if ← accept .key then
      let i ← add none ⟨coreTag "map", .mapping []⟩
      let k ← nodeBefore node .flow [.value, .flowEntry, .flowSequenceEnd]
      let v ← if ← accept .value then nodeBefore node .flow [.flowEntry, .flowSequenceEnd]
        else empty
      fill i (.mapping [(k, v)])
      flowItems fuel false (items ++ [i])
    else if ← accept .flowSequenceEnd then return items
    else
      let n ← node .flow
      flowItems fuel false (items ++ [n])

def flowPairs : Nat → Bool → List (Nat × Nat) → Read (List (Nat × Nat))
  | 0, _, _ => refuse
  | fuel + 1, first, entries => do
    if ← accept .flowMappingEnd then return entries
    if !first then
      if !(← accept .flowEntry) then refuse
    if ← accept .key then
      let k ← nodeBefore node .flow [.value, .flowEntry, .flowMappingEnd]
      let v ← if ← accept .value then nodeBefore node .flow [.flowEntry, .flowMappingEnd]
        else empty
      flowPairs fuel false (entries ++ [(k, v)])
    else if ← accept .flowMappingEnd then return entries
    else
      let k ← node .flow
      let v ← empty
      flowPairs fuel false (entries ++ [(k, v)])

/-- A node at a place. -/
def nodeAt (place : Place) : Read Nat := do
  match ← peek with
  | .alias name =>
    drop
    match (← get).anchors.find? (·.1 = name) with
    | some (_, n) => return n
    | none => refuse
  | _ =>
    let (anchor, tag) ← properties
    let t ← peek
    match anchor with
    | some a => if (← get).anchors.any (·.1 = a) then refuse
    | none => pure ()
    let fuel := (← get).rest.length + 1
    let own (default : String) : String := if isOpen tag then default else tag.getD default
    let sequence (x : Read (List Nat)) : Read Nat := do
      let i ← add anchor ⟨own (coreTag "seq"), .sequence []⟩
      fill i (.sequence (← x))
      return i
    let mapping (x : Read (List (Nat × Nat))) : Read Nat := do
      let i ← add anchor ⟨own (coreTag "map"), .mapping []⟩
      fill i (.mapping (← x))
      return i
    match t with
    | .blockEntry =>
      if place = .value then sequence (looseEntries node fuel [])
      else if anchor.isSome || tag.isSome then
        add anchor ⟨own (Scalar.plainTag ""), .scalar ""⟩
      else refuse
    | .scalar style text =>
      drop
      let resolves := (style = .plain && tag.isNone) || tag = some "!"
      add anchor ⟨own (if resolves then Scalar.plainTag text else coreTag "str"), .scalar text⟩
    | .flowSequenceStart =>
      drop
      sequence (flowItems node fuel true [])
    | .flowMappingStart =>
      drop
      mapping (flowPairs node fuel true [])
    | t =>
      if place ≠ .flow && t = .blockSequenceStart then
        drop
        sequence (blockEntries node fuel [])
      else if place ≠ .flow && t = .blockMappingStart then
        drop
        mapping (blockPairs node fuel [])
      else if anchor.isSome || tag.isSome then
        add anchor ⟨own (Scalar.plainTag ""), .scalar ""⟩
      else refuse

/-- A node at a place, to a depth. -/
def nodeTo : Nat → Place → Read Nat
  | 0, _ => refuse
  | depth + 1, place => nodeAt (nodeTo depth) place

/-! ### Documents -/

/-- Reads directives: at most one for the version and one for each handle. -/
def directives : Nat → Bool → List (String × String) → Read (List (String × String))
  | 0, _, _ => refuse
  | fuel + 1, versioned, handles => do
    match ← peek with
    | .versionDirective major =>
      drop
      if versioned || major ≠ 1 then refuse
      directives fuel true handles
    | .tagDirective h p =>
      drop
      if handles.any (·.1 = h) then refuse
      directives fuel versioned (handles ++ [(h, p)])
    | .otherDirective =>
      drop
      directives fuel versioned handles
    | _ => return handles

def skipDocumentEnds : Nat → Read Unit
  | 0 => return ()
  | fuel + 1 => do if ← accept .documentEnd then skipDocumentEnds fuel

def isDirective : Token → Bool
  | .versionDirective _ | .tagDirective .. | .otherDirective => true
  | _ => false

/-- The one document of a text. Of another one no more is read than the directives before it. -/
def document : Read (Option Nat) := do
  let depth := (← get).rest.length + 1
  let t ← peek
  if t = .done then return none
  let root ←
    if isDirective t || t = .documentStart then do
      let own ← directives depth false []
      let usual := [("!", "!"), ("!!", coreTag "")].filter fun p => !own.any (·.1 = p.1)
      modify fun r => { r with handles := own ++ usual }
      if !(← accept .documentStart) then refuse
      let t ← peek
      if isDirective t || t = .documentStart || t = .documentEnd || t = .done then empty
      else nodeTo depth .block
    else do
      modify fun r => { r with handles := [("!", "!"), ("!!", coreTag "")] }
      nodeTo depth .block
  skipDocumentEnds depth
  if (← peek) ≠ .done then
    discard (directives depth false [])
    refuse
  return some root

end Read

/-- Reads a metadata text. -/
def Graph.ofText (text : String) : Except Refusal Graph := do
  let (rest, stop) := tokens text
  let (root, r) ← Read.document.run { rest, stop }
  return { nodes := r.nodes, root }

end LiveMarkdown.Metadata
