import LiveMarkdown.Script.Syntax

/-!
All parts of a program as nodes of one kind, so that a question to every part is asked once. The
main statement says that the parts of a node are smaller than the node.
-/

namespace LiveMarkdown.Script

inductive Node where
  | expr (e : Expr)
  | clause (c : Clause)
  | keyword (k : Keyword)
  | param (p : Param)
  | params (p : Params)
  | pattern (p : Pattern)
  | item (w : WithItem)
  | stmt (s : Stmt)
  | handler (h : Handler)
  | case (c : Case)

namespace Node

def exprs (es : List Expr) : List Node := es.map .expr

def option (e : Option Expr) : List Node := exprs e.toList

/-- The expressions that are present in a list with gaps. -/
def present (es : List (Option Expr)) : List Node := exprs (es.filterMap id)

def stmts (ss : List Stmt) : List Node := ss.map .stmt

def ofExpr : Expr → List Node
  | .boolOp _ _ values => exprs values
  | .named _ target value => exprs [target, value]
  | .binary _ left _ right => exprs [left, right]
  | .unary _ _ operand => exprs [operand]
  | .lambda _ ps body => [.params ps, .expr body]
  | .ifElse _ test body orElse => exprs [test, body, orElse]
  | .dict _ keys values => present keys ++ exprs values
  | .set _ es => exprs es
  | .listComp _ e cs => .expr e :: cs.map .clause
  | .setComp _ e cs => .expr e :: cs.map .clause
  | .dictComp _ k v cs => .expr k :: .expr v :: cs.map .clause
  | .generator _ e cs => .expr e :: cs.map .clause
  | .await _ e => exprs [e]
  | .yield _ e => option e
  | .yieldFrom _ e => exprs [e]
  | .compare _ left _ rights => .expr left :: exprs rights
  | .call _ f args ks => .expr f :: exprs args ++ ks.map .keyword
  | .formatted _ e _ spec => .expr e :: option spec
  | .joined _ es => exprs es
  | .constant .. => []
  | .attribute _ e _ _ => exprs [e]
  | .subscript _ e i _ => exprs [e, i]
  | .starred _ e _ => exprs [e]
  | .name .. => []
  | .list _ es _ => exprs es
  | .tuple _ es _ => exprs es
  | .slice _ a b c => option a ++ option b ++ option c

def ofPattern : Pattern → List Node
  | .value _ e => exprs [e]
  | .singleton .. => []
  | .sequence _ ps => ps.map .pattern
  | .mapping _ keys ps _ => exprs keys ++ ps.map .pattern
  | .cls _ c ps _ qs => .expr c :: ps.map .pattern ++ qs.map .pattern
  | .star .. => []
  | .capture _ p _ => p.toList.map .pattern
  | .either _ ps => ps.map .pattern

def ofStmt : Stmt → List Node
  | .function _ _ _ ps body ds r => .params ps :: stmts body ++ exprs ds ++ option r
  | .cls _ _ bs ks body ds => exprs bs ++ ks.map .keyword ++ stmts body ++ exprs ds
  | .return _ e => option e
  | .delete _ es => exprs es
  | .assign _ ts e => exprs ts ++ exprs [e]
  | .augAssign _ t _ e => exprs [t, e]
  | .annAssign _ t h e _ => exprs [t, h] ++ option e
  | .for _ _ t i body orElse => exprs [t, i] ++ stmts body ++ stmts orElse
  | .while _ t body orElse => .expr t :: stmts body ++ stmts orElse
  | .if _ t body orElse => .expr t :: stmts body ++ stmts orElse
  | .with _ _ ws body => ws.map .item ++ stmts body
  | .match _ e cs => .expr e :: cs.map .case
  | .raise _ e c => option e ++ option c
  | .try _ _ body hs orElse final => stmts body ++ hs.map .handler ++ stmts orElse ++ stmts final
  | .assert _ t m => .expr t :: option m
  | .expr _ e => exprs [e]
  | .import .. | .importFrom .. | .global .. | .nonlocal .. | .pass _ | .break _ | .continue _ => []

/-- The parts of a node, in the order of the text. -/
def children : Node → List Node
  | .expr e => ofExpr e
  | .clause (.mk t i cs _) => exprs [t, i] ++ exprs cs
  | .keyword (.mk _ _ e) => exprs [e]
  | .param (.mk _ _ h) => option h
  | .params (.mk po ps rest ns nds restNames ds) =>
    po.map .param ++ ps.map .param ++ rest.toList.map .param ++ ns.map .param ++ present nds ++
      restNames.toList.map .param ++ exprs ds
  | .pattern p => ofPattern p
  | .item ⟨m, t⟩ => .expr m :: option t
  | .stmt s => ofStmt s
  | .handler (.mk _ k _ body) => option k ++ stmts body
  | .case (.mk p g body) => .pattern p :: option g ++ stmts body

@[grind =]
theorem mem_exprs_cons {c : Node} {e : Expr} {es : List Expr} :
    c ∈ exprs (e :: es) ↔ c = .expr e ∨ c ∈ exprs es := by
  simp [exprs]

@[grind =]
theorem mem_exprs_nil {c : Node} : c ∈ exprs [] ↔ False := by
  simp [exprs]

theorem sizeOf_lt_of_mem_exprs {c : Node} {es : List Expr} (h : c ∈ exprs es) :
    sizeOf c < 1 + sizeOf es := by
  obtain ⟨e, he, rfl⟩ := List.mem_map.1 h
  have := List.sizeOf_lt_of_mem he
  simp
  omega

theorem sizeOf_lt_of_mem_stmts {c : Node} {ss : List Stmt} (h : c ∈ stmts ss) :
    sizeOf c < 1 + sizeOf ss := by
  obtain ⟨s, hs, rfl⟩ := List.mem_map.1 h
  have := List.sizeOf_lt_of_mem hs
  simp
  omega

theorem sizeOf_lt_of_mem_option {c : Node} {e : Option Expr} (h : c ∈ option e) :
    sizeOf c < 1 + sizeOf e := by
  cases e with
  | none => simp [option, exprs] at h
  | some e =>
    simp [option, exprs] at h
    subst h
    simp

theorem sizeOf_lt_of_mem_toList {α : Type} [SizeOf α] {x : α} {o : Option α} (h : x ∈ o.toList) :
    sizeOf x < sizeOf o := by
  cases o with
  | none => simp at h
  | some y =>
    simp at h
    subst h
    simp

theorem sizeOf_lt_of_mem_present {c : Node} {es : List (Option Expr)} (h : c ∈ present es) :
    sizeOf c < sizeOf es := by
  obtain ⟨e, he, rfl⟩ := List.mem_map.1 h
  obtain ⟨o, ho, hs⟩ := List.mem_filterMap.1 he
  have := List.sizeOf_lt_of_mem ho
  obtain rfl : o = some e := hs
  simp at this ⊢
  omega

/-- The parts of a node are smaller than the node. -/
theorem sizeOf_lt_of_mem_children {c n : Node} (h : c ∈ n.children) : sizeOf c < sizeOf n := by
  rcases n with e | c | k | p | p | p | w | s | d | c
  · cases e <;> simp only [children, ofExpr, List.mem_cons, List.mem_append, List.mem_map,
      List.not_mem_nil, or_false] at h <;>
      grind [→ sizeOf_lt_of_mem_exprs, → sizeOf_lt_of_mem_option, → sizeOf_lt_of_mem_present,
        → List.sizeOf_lt_of_mem]
  · cases c
    simp only [children] at h
    grind [→ sizeOf_lt_of_mem_exprs]
  · cases k
    simp only [children] at h
    grind [→ sizeOf_lt_of_mem_exprs]
  · cases p
    simp only [children] at h
    grind [→ sizeOf_lt_of_mem_option]
  · cases p
    simp only [children, List.mem_append, List.mem_map] at h
    grind [→ sizeOf_lt_of_mem_exprs, → sizeOf_lt_of_mem_present, → List.sizeOf_lt_of_mem,
      → sizeOf_lt_of_mem_toList]
  · cases p <;> simp only [children, ofPattern, List.mem_cons, List.mem_append, List.mem_map,
      List.not_mem_nil] at h <;>
      grind [→ sizeOf_lt_of_mem_exprs, → List.sizeOf_lt_of_mem, → sizeOf_lt_of_mem_toList]
  · cases w
    simp only [children] at h
    grind [→ sizeOf_lt_of_mem_option]
  · cases s <;> simp only [children, ofStmt, List.mem_cons, List.mem_append, List.mem_map,
      List.not_mem_nil] at h <;>
      grind [→ sizeOf_lt_of_mem_exprs, → sizeOf_lt_of_mem_stmts, → sizeOf_lt_of_mem_option,
        → List.sizeOf_lt_of_mem]
  · cases d
    simp only [children] at h
    grind [→ sizeOf_lt_of_mem_stmts, → sizeOf_lt_of_mem_option]
  · cases c
    simp only [children] at h
    grind [→ sizeOf_lt_of_mem_stmts, → sizeOf_lt_of_mem_option]

end Node

end LiveMarkdown.Script
