import LiveMarkdown.Script.Names
import LiveMarkdown.Script.Value

/-!
Which block a name belongs to when a program runs. Annotations, decorators and defaults of a function
belong to the block around it; the targets of a comprehension belong to the comprehension, and an
assignment expression inside it binds in the block around it.
-/

namespace LiveMarkdown.Script

namespace Node

def paramNodes : Params → List Node
  | .mk po ps rest ns _ restNames _ =>
    (po ++ ps ++ rest.toList ++ ns ++ restNames.toList).map .param

/-- The parts of a node that run in the same block as the node. -/
def sameBlock : Node → List Node
  | .expr (.lambda _ ps _) => defaultsOf ps
  | .stmt (.function _ _ _ ps _ ds r) => exprs ds ++ defaultsOf ps ++ paramNodes ps ++ option r
  | .stmt (.cls _ _ bs ks _ ds) => exprs ds ++ exprs bs ++ ks.map .keyword
  -- a name in brackets is not bound by an annotation alone
  | .stmt (.annAssign _ (.name ..) h none 0) => exprs [h]
  | n => n.children

theorem sizeOf_lt_of_mem_paramNodes {c : Node} {ps : Params} (h : c ∈ paramNodes ps) :
    sizeOf c < sizeOf ps := by
  cases ps
  simp only [paramNodes, List.mem_map, List.mem_append] at h
  grind [→ List.sizeOf_lt_of_mem, → sizeOf_lt_of_mem_toList]

theorem sizeOf_lt_of_mem_sameBlock {c n : Node} (h : c ∈ n.sameBlock) : sizeOf c < sizeOf n := by
  unfold sameBlock at h
  split at h
  · have := sizeOf_lt_of_mem_defaultsOf h
    simp
    omega
  · simp only [List.mem_append] at h
    grind [→ sizeOf_lt_of_mem_exprs, → sizeOf_lt_of_mem_defaultsOf, → sizeOf_lt_of_mem_paramNodes,
      → sizeOf_lt_of_mem_option]
  · simp only [List.mem_append, List.mem_map] at h
    grind [→ sizeOf_lt_of_mem_exprs, → List.sizeOf_lt_of_mem]
  · grind [→ sizeOf_lt_of_mem_exprs]
  · exact sizeOf_lt_of_mem_children h

/-- The names that a node binds by itself in its block, seen from inside a comprehension or not. -/
def bindsHere (inner : Bool) : Node → List String
  | .expr (.name _ id ctx) => if ctx == .load || inner then [] else [id]
  | .expr (.named _ (.name _ id _) _) => if inner then [id] else []
  | .stmt (.global ..) => []
  | .expr _ => []
  | n => n.ownNames

def opensComprehension : Node → Bool
  | .expr e => isComprehension e
  | _ => false

/-- The names that a node binds in its block. -/
def bindings (inner : Bool) (n : Node) : List String :=
  n.bindsHere inner ++
    n.sameBlock.attach.flatMap fun ⟨c, _⟩ => bindings (inner || n.opensComprehension) c
termination_by sizeOf n
decreasing_by exact sizeOf_lt_of_mem_sameBlock ‹_›

/-- The nodes of the block of a node, itself first. -/
def blockNodes (n : Node) : List Node :=
  n :: n.sameBlock.attach.flatMap fun ⟨c, _⟩ => blockNodes c
termination_by sizeOf n
decreasing_by exact sizeOf_lt_of_mem_sameBlock ‹_›

def isYield : Node → Bool
  | .expr (.yield ..) | .expr (.yieldFrom ..) => true
  | _ => false

end Node

namespace Scope

def paramNames : Params → List String
  | .mk po ps rest ns _ restNames _ =>
    (po ++ ps ++ ns ++ rest.toList ++ restNames.toList).map fun
      | .mk _ name _ => name

/-- The names that a block of statements binds. -/
def bound (ss : List Stmt) : List String := (Node.stmts ss).flatMap (Node.bindings false)

def globalsOf (ss : List Stmt) : List String :=
  ((Node.stmts ss).flatMap Node.blockNodes).flatMap fun
    | .stmt (.global _ names) => names
    | _ => []

def nonlocalsOf (ss : List Stmt) : List String :=
  ((Node.stmts ss).flatMap Node.blockNodes).flatMap fun
    | .stmt (.nonlocal _ names) => names
    | _ => []

/-- Whether a block of statements yields. -/
def yields (ss : List Stmt) : Bool :=
  ((Node.stmts ss).flatMap Node.blockNodes).any Node.isYield

/-- The names of a block with the given parameters. -/
def blockNames (params : List String) (ss : List Stmt) : BlockNames :=
  let globals := globalsOf ss
  let outer := nonlocalsOf ss
  let locals := (params ++ bound ss).filter fun n => !globals.contains n && !outer.contains n
  { locals := locals.eraseDups, globals := globals.eraseDups, outer := outer.eraseDups }

def functionNames (ps : Params) (ss : List Stmt) : BlockNames := blockNames (paramNames ps) ss

/-- The names that the targets of a comprehension bind. -/
def targetNames (e : Expr) : List String := Node.bindings false (.expr e)

end Scope

end LiveMarkdown.Script
