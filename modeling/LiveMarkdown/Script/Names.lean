import LiveMarkdown.Number.Total
import LiveMarkdown.Script.Node

/-!
The names that a block of statements binds, and whether it returns. Inner functions and classes are
blocks of their own; a comprehension keeps its targets to itself, but an assignment expression inside
it binds in the block around it.
-/

namespace LiveMarkdown.Script

namespace Node

/-- A node with all nodes below it. -/
def walk (n : Node) : List Node :=
  n :: n.children.attach.flatMap fun ⟨c, _⟩ => walk c
termination_by sizeOf n
decreasing_by exact sizeOf_lt_of_mem_children ‹_›

/-- The name that an assignment expression binds. -/
def assignedName : Node → List String
  | .expr (.named _ (.name _ id _) _) => [id]
  | _ => []

/-- Whether an expression is a comprehension. -/
def isComprehension : Expr → Bool
  | .listComp .. | .setComp .. | .dictComp .. | .generator .. => true
  | _ => false

/-- The name that an import binds: the one given to it, or the first part of a dotted name. -/
def importedName (a : Alias) : List String :=
  if a.name == "*" then []
  else match a.asName with
    | some n => if n == "" then [firstPart a.name] else [n]
    | none => [firstPart a.name]
where
  firstPart (name : String) : String := String.ofList (name.toList.takeWhile (· ≠ '.'))

def givenName (name : Option String) : List String :=
  (name.toList).filter (· ≠ "")

/-- The names that a node binds by itself. -/
def ownNames : Node → List String
  | .expr (.name _ id ctx) => if ctx == .load then [] else [id]
  | .expr e => if isComprehension e then (walk (.expr e)).flatMap assignedName else []
  | .stmt (.global _ names) => names
  | .stmt (.function _ _ name ..) => [name]
  | .stmt (.cls _ name ..) => [name]
  | .stmt (.import _ names) => names.flatMap importedName
  | .stmt (.importFrom _ _ names _) => names.flatMap importedName
  | .handler (.mk _ _ name _) => givenName name
  | .pattern (.capture _ _ name) => givenName name
  | .pattern (.star _ name) => givenName name
  | .pattern (.mapping _ _ _ rest) => givenName rest
  | _ => []

def defaultsOf : Params → List Node
  | .mk _ _ _ _ nameDefaults _ defaults => exprs defaults ++ present nameDefaults

/-- The nodes below a node that may bind names in the same block. Of a function these are its
decorators and defaults, of a class its decorators and arguments. -/
def inBlock : Node → List Node
  | .expr (.lambda _ ps _) => defaultsOf ps
  | .expr e => if isComprehension e then [] else ofExpr e
  | .stmt (.function _ _ _ ps _ ds _) => exprs ds ++ defaultsOf ps
  | .stmt (.cls _ _ bs ks _ ds) => exprs ds ++ exprs bs ++ ks.map .keyword
  | n => n.children

theorem sizeOf_lt_of_mem_defaultsOf {c : Node} {ps : Params} (h : c ∈ defaultsOf ps) :
    sizeOf c < sizeOf ps := by
  cases ps
  simp only [defaultsOf, List.mem_append] at h
  grind [→ sizeOf_lt_of_mem_exprs, → sizeOf_lt_of_mem_present]

theorem sizeOf_lt_of_mem_inBlock {c n : Node} (h : c ∈ n.inBlock) : sizeOf c < sizeOf n := by
  unfold inBlock at h
  split at h
  · have := sizeOf_lt_of_mem_defaultsOf h
    simp
    omega
  · split at h
    · simp at h
    · exact sizeOf_lt_of_mem_children (n := .expr _) h
  · simp only [List.mem_append] at h
    grind [→ sizeOf_lt_of_mem_exprs, → sizeOf_lt_of_mem_defaultsOf]
  · simp only [List.mem_append, List.mem_map] at h
    grind [→ sizeOf_lt_of_mem_exprs, → List.sizeOf_lt_of_mem]
  · exact sizeOf_lt_of_mem_children h

/-- The names that a node binds in the block where it stands, in the order of the text. -/
def boundNames (n : Node) : List String :=
  n.ownNames ++ n.inBlock.attach.flatMap fun ⟨c, _⟩ => boundNames c
termination_by sizeOf n
decreasing_by exact sizeOf_lt_of_mem_inBlock ‹_›

/-- Whether a node, or one below it, is a name by which methods know the class around them. -/
def namesOwnClass (n : Node) : Bool :=
  (match n with
    | .expr (.name _ id _) => id == "super" || id == "__class__"
    | _ => false) ||
  n.children.attach.any fun ⟨c, _⟩ => namesOwnClass c
termination_by sizeOf n
decreasing_by exact sizeOf_lt_of_mem_children ‹_›

/-- Whether a node begins a block of its own. -/
def isScope : Node → Bool
  | .stmt (.function ..) | .stmt (.cls ..) | .expr (.lambda ..) => true
  | _ => false

def isReturn : Node → Bool
  | .stmt (.return ..) => true
  | _ => false

/-- The number of nodes in a tree. -/
def weight (n : Node) : Nat :=
  1 + Number.total (n.children.attach.map fun ⟨c, _⟩ => weight c)
termination_by sizeOf n
decreasing_by exact sizeOf_lt_of_mem_children ‹_›

theorem weight_eq (n : Node) : n.weight = 1 + Number.total (n.children.map weight) := by
  rw [weight]
  simp

/-- Whether a return stands among the pending nodes or below them, outside of blocks of their own.
The node on top is taken first, and its parts take its place. -/
def hasReturn (pending : List Node) : Bool :=
  match pending with
  | [] => false
  | n :: rest =>
    if n.isReturn then true
    else if n.isScope then hasReturn rest
    else hasReturn (n.children.reverse ++ rest)
termination_by Number.total (pending.map weight)
decreasing_by
  · simp only [List.map_cons, Number.total_cons]
    have := weight_eq n
    omega
  · have := weight_eq n
    simp
    omega

end Node

/-- Whether a block of statements returns. -/
def hasReturn (ss : List Stmt) : Bool := Node.hasReturn (Node.stmts ss).reverse

/-- The text with which a block begins. -/
def openingText? : List Stmt → Option String
  | .expr _ (.constant _ (.str s _)) :: _ => some s
  | _ => none

/-- The names that a block of statements binds, each once, in the order of their code points. -/
def boundNames (ss : List Stmt) : List String :=
  (((Node.stmts ss).flatMap Node.boundNames).mergeSort fun a b => a < b || a == b).eraseReps

end LiveMarkdown.Script
