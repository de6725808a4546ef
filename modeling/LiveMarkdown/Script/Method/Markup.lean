import LiveMarkdown.Script.Search

/-!
Nodes as text, as code asks for it: markup with or without lines of its own, with characters replaced as
a formatter says, and the text below a node.
-/

namespace LiveMarkdown.Script

open LiveMarkdown.Document (NodeId Forest Style Place TextKind)

namespace MarkupMethod

/-- The texts and the values of attributes that are written for a node, in the order of the document. -/
def written (f : Forest) (n : NodeId) (encoding : Option String) : List String :=
  (n :: f.descendants n).flatMap fun c =>
    match f.content? c with
    | some (.tag t) => (Document.sortedAttrs t).map fun a => a.2.written encoding
    | some (.text kind s) => if Forest.joins kind then [s] else []
    | _ => []

/-- What a function answers for the texts that are written for a node. -/
def answers (m : Machine) (f : Value) (texts : List String) : Run (List (String × String)) :=
  texts.eraseDups.mapM fun s => do
    let r ← m.call f [.str s]
    match ← textArg? r with
    | some t => return (s, t)
    | none => Run.typeError s!"can only concatenate str (not \"{← Kind.name r}\") to str"

/-- The style that a formatter stands for. -/
def style (m : Machine) (n : NodeId) (formatter : Value) (encoding : Option String) : Run Style := do
  let sparing : Style :=
    { replace := Document.nameText, encoding, voidEnd := "", omitsEmpty := true }
  match formatter with
  | .none => return { replace := id, encoding }
  | v =>
    if ← Kind.isCallable v then
      LiveAttributes.settle m
      let table ← answers m v (written (← Run.forest) n encoding)
      let replace (s : String) : String := ((table.find? fun p => p.1 == s).map (·.2)).getD s
      return { replace, encoding }
    Comparison.hashable m v
    match ← Kind.basic v with
    | .str "minimal" => return { encoding }
    | .str "html" => return { replace := Document.nameText, encoding }
    | .str "html5" => return { sparing with replace := Document.nameTextSparing }
    | .str "html5-4.12" => return sparing
    | _ => Subscript.keyError v

/-- Where the first piece stands if lines are asked for from a depth. -/
def placeOf (m : Machine) (depth : Value) (isRoot : Bool) : Run Place := do
  match depth with
  | .none => return .inside
  | .bool false => return if isRoot then .inside else .line 0
  | .bool true => return .line 0
  | v => return .line (← Subscript.integer m v).toNat

/-- The encoding that a document declares. -/
def encodingOf (v : Value) : Run (Option String) := textArg? v

/-- What is asked of a node that is written. -/
structure Asked where
  depth : Value := .none
  encoding : Value := .str Document.encodingName
  formatter : Value := .str "minimal"
  inner : Bool := false

def write (m : Machine) (n : NodeId) (q : Asked) : Run String := do
  let place ← placeOf m q.depth ((← Run.forest).isRoot n)
  let s ← style m n q.formatter (← encodingOf q.encoding)
  Markup.write m s place q.inner n

/-- A written node in an encoding. -/
def encoded (m : Machine) (s : String) (encoding errors : Value) : Run Value :=
  m.call (.method (.str s) "encode") [encoding, errors]

/-- A text node as it is written. -/
def ready (m : Machine) (n : NodeId) (formatter : Value) : Run String := do
  let s ← style m n formatter (some Document.encodingName)
  Markup.write m s .inside false n

/-! ### Text -/

/-- Whether a text is of a kind that is asked for: by default prose, or what its element holds. -/
def isAsked (m : Machine) (types : Option Value) (name : Option String) (kind : TextKind) :
    Run Bool := do
  let isKind : Value → Bool
    | .type t => t == textClass kind
    | _ => false
  match types with
  | none => return Document.countsText name kind
  | some .none => return true
  | some (.type t) => return t == textClass kind
  | some v => return (← Iteration.collect m v).any isKind

/-- The texts below a node, or the text of a text node; blank ones are left out if they are stripped. -/
def texts (m : Machine) (n : NodeId) (strip : Bool) (types : Option Value) : Run (List Value) := do
  let f ← Run.forest
  let nodes := match f.content? n with
    | some (.text ..) => [n]
    | _ => f.descendants n
  let owner := match f.content? n with
    | some (.text ..) => none
    | _ => f.name? n
  nodes.filterMapM fun c => do
    match f.content? c with
    | some (.text kind s) =>
      if !(← isAsked m types owner kind) then return none
      if strip then
        let t := Text.strip s
        return if t == "" then none else some (.str t)
      return if c = n && s == "" then none else some (.node c)
    | _ => return none

/-- The text below a node, joined by a separator. -/
def getText (m : Machine) (n : NodeId) (separator strip : Value) (types : Option Value) :
    Run Value := do
  match ← textArg? separator with
  | some sep =>
    let parts ← texts m n (← Iteration.truth m strip) types
    return .str (sep.intercalate (← parts.mapM m.text))
  | none =>
    Run.raise "AttributeError" s!"'{← Kind.name separator}' object has no attribute 'join'"

end MarkupMethod

end LiveMarkdown.Script
