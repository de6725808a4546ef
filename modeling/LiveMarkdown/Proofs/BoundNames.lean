import LiveMarkdown.Script.Scope
import Mathlib.Logic.Relation

/-!
The names that are collected from a block of statements, beside those that the block binds. The two
differ in three places. All that is below a comprehension is searched, so the lambdas inside it give
away names of their own blocks. The annotations of a function are not searched, though they run in the
block around it. And a name in brackets with an annotation alone is taken for a target.
-/

namespace LiveMarkdown.Script

theorem mem_eraseReps {α : Type} [BEq α] [LawfulBEq α] {a : α} {l : List α} :
    a ∈ l.eraseReps ↔ a ∈ l := by
  have hloop (b : α) (l acc : List α) : a ∈ List.eraseRepsBy.loop (· == ·) b l acc ↔
      a = b ∨ a ∈ l ∨ a ∈ acc := by
    induction l generalizing b acc with
    | nil => simp [List.eraseRepsBy.loop, or_comm]
    | cons c l ih =>
      unfold List.eraseRepsBy.loop
      split <;> grind
  cases l with
  | nil => rfl
  | cons b l =>
    unfold List.eraseReps List.eraseRepsBy
    rw [hloop]
    simp

namespace Node

variable {x : String} {n m c : Node} {inner : Bool}

theorem mem_walk : m ∈ n.walk ↔ m = n ∨ ∃ c ∈ n.children, m ∈ c.walk := by
  rw [walk]
  simp

theorem mem_boundNames :
    x ∈ n.boundNames ↔ x ∈ n.ownNames ∨ ∃ c ∈ n.inBlock, x ∈ c.boundNames := by
  rw [boundNames]
  simp

/-- The layer of the syntax that a node belongs to: expressions stand below patterns, and these below
statements. -/
def layer : Node → Nat
  | .expr _ | .clause _ | .keyword _ | .param _ | .params _ => 0
  | .pattern _ | .item _ => 1
  | .stmt _ | .handler _ | .case _ => 2

theorem layer_of_mem_exprs {es : List Expr} (h : c ∈ exprs es) : c.layer = 0 := by
  obtain ⟨e, -, rfl⟩ := List.mem_map.mp h
  rfl

theorem layer_of_mem_option {e : Option Expr} (h : c ∈ option e) : c.layer = 0 :=
  layer_of_mem_exprs h

theorem layer_of_mem_present {es : List (Option Expr)} (h : c ∈ present es) : c.layer = 0 :=
  layer_of_mem_exprs h

theorem layer_of_mem_stmts {ss : List Stmt} (h : c ∈ stmts ss) : c.layer = 2 := by
  obtain ⟨s, -, rfl⟩ := List.mem_map.mp h
  rfl

/-- The parts of a node belong to no higher layer. -/
theorem layer_le_of_mem_children (h : c ∈ n.children) : c.layer ≤ n.layer := by
  rcases n with e | ⟨t, i, cs, a⟩ | ⟨l, k, e⟩ | ⟨l, k, e⟩ | ⟨po, ps, r, ns, nds, rs, ds⟩ | p |
    ⟨m, t⟩ | s | ⟨l, k, a, body⟩ | ⟨p, g, body⟩
  · cases e <;> simp only [children, ofExpr, List.mem_cons, List.mem_append, List.mem_map,
      List.not_mem_nil, or_false] at h <;>
      grind [layer, → layer_of_mem_exprs, → layer_of_mem_option, → layer_of_mem_present]
  all_goals first
    | cases p <;> simp only [children, ofPattern, List.mem_cons, List.mem_append, List.mem_map,
        List.not_mem_nil] at h <;> grind [layer, → layer_of_mem_exprs]
    | cases s <;> simp only [children, ofStmt, List.mem_cons, List.mem_append, List.mem_map,
        List.not_mem_nil] at h <;>
        grind [layer, → layer_of_mem_exprs, → layer_of_mem_option, → layer_of_mem_stmts]
    | simp only [children, List.mem_cons, List.mem_append, List.mem_map] at h
      grind [layer, → layer_of_mem_exprs, → layer_of_mem_option, → layer_of_mem_present,
        → layer_of_mem_stmts]

theorem mem_params {ps : Params} :
    c ∈ children (.params ps) ↔ c ∈ defaultsOf ps ∨ c ∈ paramNodes ps := by
  cases ps
  simp only [children, defaultsOf, paramNodes, List.mem_append, List.map_append]
  grind

/-- What runs in the block of a node is a part of it or of its parameters. -/
theorem mem_sameBlock (h : c ∈ n.sameBlock) :
    c ∈ n.children ∨ ∃ ps, .params ps ∈ n.children ∧ c ∈ children (.params ps) := by
  unfold sameBlock at h
  split at h
  · exact .inr ⟨_, List.mem_cons_self, mem_params.mpr (.inl h)⟩
  · rename_i ps body ds r
    have hps : .params ps ∈ ofStmt (.function ‹_› ‹_› ‹_› ps body ds r) := by
      simp [ofStmt]
    simp only [List.mem_append] at h
    obtain ((h | h) | h) | h := h
    · left; simp [children, ofStmt, h]
    · exact .inr ⟨ps, hps, mem_params.mpr (.inl h)⟩
    · exact .inr ⟨ps, hps, mem_params.mpr (.inr h)⟩
    · left; simp [children, ofStmt, h]
  · left
    simp only [List.mem_append, children, ofStmt] at h ⊢
    grind
  · left
    simp only [children, ofStmt, List.mem_append]
    grind
  · exact .inl h

theorem layer_le_of_mem_sameBlock (h : c ∈ n.sameBlock) : c.layer ≤ n.layer := by
  obtain hc | ⟨ps, hd, hc⟩ := mem_sameBlock h
  · exact layer_le_of_mem_children hc
  · exact Nat.le_trans (layer_le_of_mem_children hc) (layer_le_of_mem_children hd)

/-! ### Names that a block binds -/

/-- A node binds a name in the block where it stands, seen from inside a comprehension or not. The
targets of a comprehension stay inside it, but its assignment expressions bind outside of it. -/
inductive Binds (x : String) : Bool → Node → Prop
  /-- What is assigned to, deleted, or bound by a loop or a context manager. -/
  | target {loc : Loc} {ctx : Context} (h : ctx ≠ .load) : Binds x false (.expr (.name loc x ctx))
  | assigned {loc l : Loc} {ctx : Context} {value : Expr} :
      Binds x true (.expr (.named loc (.name l x ctx) value))
  | declared {inner : Bool} {loc : Loc} {names : List String} (h : x ∈ names) :
      Binds x inner (.stmt (.global loc names))
  | function {inner : Bool} {loc : Loc} {isAsync : Bool} {ps : Params} {body : List Stmt}
      {ds : List Expr} {r : Option Expr} :
      Binds x inner (.stmt (.function loc isAsync x ps body ds r))
  | cls {inner : Bool} {loc : Loc} {bs : List Expr} {ks : List Keyword} {body : List Stmt}
      {ds : List Expr} : Binds x inner (.stmt (.cls loc x bs ks body ds))
  | imported {inner : Bool} {loc : Loc} {names : List Alias} {a : Alias} (ha : a ∈ names)
      (h : x ∈ importedName a) : Binds x inner (.stmt (.import loc names))
  | importedFrom {inner : Bool} {loc : Loc} {source : Option String} {names : List Alias}
      {level : Option Nat} {a : Alias} (ha : a ∈ names) (h : x ∈ importedName a) :
      Binds x inner (.stmt (.importFrom loc source names level))
  | caught {inner : Bool} {loc : Loc} {kind : Option Expr} {body : List Stmt} (h : x ≠ "") :
      Binds x inner (.handler (.mk loc kind (some x) body))
  | captured {inner : Bool} {loc : Loc} {p : Option Pattern} (h : x ≠ "") :
      Binds x inner (.pattern (.capture loc p (some x)))
  | starred {inner : Bool} {loc : Loc} (h : x ≠ "") :
      Binds x inner (.pattern (.star loc (some x)))
  | rest {inner : Bool} {loc : Loc} {keys : List Expr} {ps : List Pattern} (h : x ≠ "") :
      Binds x inner (.pattern (.mapping loc keys ps (some x)))
  | part {inner : Bool} {n c : Node} (hc : c ∈ n.sameBlock)
      (h : Binds x (inner || n.opensComprehension) c) : Binds x inner n

theorem mem_bindings : x ∈ n.bindings inner ↔ x ∈ n.bindsHere inner ∨
    ∃ c ∈ n.sameBlock, x ∈ c.bindings (inner || n.opensComprehension) := by
  rw [bindings]
  simp

theorem mem_blockNodes : m ∈ n.blockNodes ↔ m = n ∨ ∃ c ∈ n.sameBlock, m ∈ c.blockNodes := by
  rw [blockNodes]
  simp

/-- A node in the block of another one declares a name to be global. -/
def Declares (n : Node) (x : String) : Prop :=
  ∃ loc names, .stmt (.global loc names) ∈ n.blockNodes ∧ x ∈ names

theorem declares_iff : n.Declares x ↔
    (∃ loc names, n = .stmt (.global loc names) ∧ x ∈ names) ∨ ∃ c ∈ n.sameBlock, c.Declares x := by
  unfold Declares
  constructor
  · rintro ⟨loc, names, hm, hx⟩
    obtain rfl | ⟨c, hc, hm⟩ := mem_blockNodes.mp hm
    · exact .inl ⟨loc, names, rfl, hx⟩
    · exact .inr ⟨c, hc, loc, names, hm, hx⟩
  · rintro (⟨loc, names, rfl, hx⟩ | ⟨c, hc, loc, names, hm, hx⟩)
    · exact ⟨loc, names, mem_blockNodes.mpr (.inl rfl), hx⟩
    · exact ⟨loc, names, mem_blockNodes.mpr (.inr ⟨c, hc, hm⟩), hx⟩

theorem mem_givenName {name : Option String} (h : x ∈ givenName name) :
    name = some x ∧ x ≠ "" := by
  simpa [givenName] using h

/-- Outside of expressions a node binds the names that it is taken to bind by itself. -/
theorem binds_of_statement (hn : ∀ e, n ≠ .expr e) (h : x ∈ n.ownNames) : n.Binds x inner := by
  unfold ownNames at h
  split at h
  · exact absurd rfl (hn _)
  · exact absurd rfl (hn _)
  · exact .declared h
  · obtain rfl := List.mem_singleton.mp h
    exact .function
  · obtain rfl := List.mem_singleton.mp h
    exact .cls
  · obtain ⟨a, ha, h⟩ := List.mem_flatMap.mp h
    exact .imported ha h
  · obtain ⟨a, ha, h⟩ := List.mem_flatMap.mp h
    exact .importedFrom ha h
  · obtain ⟨rfl, hx⟩ := mem_givenName h
    exact .caught hx
  · obtain ⟨rfl, hx⟩ := mem_givenName h
    exact .captured hx
  · obtain ⟨rfl, hx⟩ := mem_givenName h
    exact .starred hx
  · obtain ⟨rfl, hx⟩ := mem_givenName h
    exact .rest hx
  · cases h

theorem binds_of_bindsHere (h : x ∈ n.bindsHere inner) : n.Binds x inner := by
  unfold bindsHere at h
  split at h
  · split at h
    · cases h
    · rename_i hctx
      obtain rfl := List.mem_singleton.mp h
      simp only [Bool.or_eq_true, beq_iff_eq, not_or, Bool.not_eq_true] at hctx
      obtain ⟨hctx, rfl⟩ := hctx
      exact .target hctx
  · split at h
    · rename_i hi
      obtain rfl := List.mem_singleton.mp h
      subst hi
      exact .assigned
    · cases h
  · cases h
  · cases h
  · rename_i hexpr
    exact binds_of_statement (fun e he => hexpr e he) h

/-- A node binds the names by which programs run, and those that it declares to be global. -/
theorem binds_iff : n.Binds x inner ↔ x ∈ n.bindings inner ∨ n.Declares x := by
  constructor
  · intro h
    induction h with
    | declared hx => exact .inr (declares_iff.mpr (.inl ⟨_, _, rfl, hx⟩))
    | part hc _ ih =>
      obtain hx | hd := ih
      · exact .inl (mem_bindings.mpr (.inr ⟨_, hc, hx⟩))
      · exact .inr (declares_iff.mpr (.inr ⟨_, hc, hd⟩))
    | target hx => exact .inl (mem_bindings.mpr (.inl (by simp [bindsHere, hx])))
    | assigned | function | cls =>
      exact .inl (mem_bindings.mpr (.inl (List.mem_singleton_self x)))
    | imported ha hx | importedFrom ha hx =>
      exact .inl (mem_bindings.mpr (.inl (List.mem_flatMap.mpr ⟨_, ha, hx⟩)))
    | caught hx | captured hx | starred hx | rest hx =>
      exact .inl (mem_bindings.mpr (.inl (by simp [bindsHere, ownNames, givenName, hx])))
  · intro h
    induction n using blockNodes.induct generalizing inner with | case1 n ih
    obtain hx | hd := h
    · obtain hx | ⟨c, hc, hx⟩ := mem_bindings.mp hx
      · exact binds_of_bindsHere hx
      · exact .part hc (ih c hc (.inl hx))
    · obtain ⟨loc, names, rfl, hx⟩ | ⟨c, hc, hd⟩ := declares_iff.mp hd
      · exact .declared hx
      · exact .part hc (ih c hc (.inr hd))

/-- An assignment expression at a node or below it assigns to a name. -/
def Assigns (n : Node) (x : String) : Prop := ∃ m ∈ n.walk, x ∈ m.assignedName

/-- A lambda at a node or below it has an assignment expression for a name in its own block. -/
def AssignsInLambda (n : Node) (x : String) : Prop :=
  ∃ loc ps body, .expr (.lambda loc ps body) ∈ n.walk ∧
    ∃ c ∈ paramNodes ps ++ [.expr body], c.Assigns x

theorem assigns_iff : n.Assigns x ↔ x ∈ n.assignedName ∨ ∃ c ∈ n.children, c.Assigns x := by
  unfold Assigns
  constructor
  · rintro ⟨m, hm, hx⟩
    obtain rfl | ⟨c, hc, hm⟩ := mem_walk.mp hm
    · exact .inl hx
    · exact .inr ⟨c, hc, m, hm, hx⟩
  · rintro (hx | ⟨c, hc, m, hm, hx⟩)
    · exact ⟨n, mem_walk.mpr (.inl rfl), hx⟩
    · exact ⟨m, mem_walk.mpr (.inr ⟨c, hc, hm⟩), hx⟩

theorem walk_trans {k : Node} (hm : m ∈ n.walk) (hk : k ∈ m.walk) : k ∈ n.walk := by
  induction n using walk.induct with | case1 n ih
  obtain rfl | ⟨c, hc, hm⟩ := mem_walk.mp hm
  · exact hk
  · exact mem_walk.mpr (.inr ⟨c, hc, ih c hc hm⟩)

theorem walk_subset (hc : c ∈ n.sameBlock) (hm : m ∈ c.walk) : m ∈ n.walk := by
  obtain hc | ⟨ps, hd, hc⟩ := mem_sameBlock hc
  · exact mem_walk.mpr (.inr ⟨c, hc, hm⟩)
  · exact mem_walk.mpr (.inr ⟨_, hd, mem_walk.mpr (.inr ⟨c, hc, hm⟩)⟩)

theorem AssignsInLambda.of_sameBlock (hc : c ∈ n.sameBlock) (h : c.AssignsInLambda x) :
    n.AssignsInLambda x := by
  obtain ⟨loc, ps, body, hl, h⟩ := h
  exact ⟨loc, ps, body, walk_subset hc hl, h⟩

/-- The parts of an expression belong to its block, but for what belongs to a lambda. -/
theorem child_of_expression (hn : n.layer = 0) (hc : c ∈ n.children) : c ∈ n.sameBlock ∨
    ∃ loc ps body, n = .expr (.lambda loc ps body) ∧ (c = .params ps ∨ c = .expr body) := by
  cases n with
  | expr e =>
    cases e with
    | lambda loc ps body => exact .inr ⟨loc, ps, body, rfl, by simpa [children, ofExpr] using hc⟩
    | _ => exact .inl hc
  | _ => first | exact .inl hc | cases hn

/-- An assignment expression below an expression is the expression, or stands in a part of it that
belongs to its block, or in a lambda. -/
theorem Assigns.step (hn : n.layer = 0) (h : n.Assigns x) :
    x ∈ n.assignedName ∨ (∃ c ∈ n.sameBlock, c.Assigns x) ∨ n.AssignsInLambda x := by
  obtain hx | ⟨c, hc, h⟩ := assigns_iff.mp h
  · exact .inl hx
  obtain hs | ⟨loc, ps, body, rfl, rfl | rfl⟩ := child_of_expression hn hc
  · exact .inr (.inl ⟨c, hs, h⟩)
  · obtain hx | ⟨d, hd, h⟩ := assigns_iff.mp h
    · cases hx
    obtain hd | hd := mem_params.mp hd
    · exact .inr (.inl ⟨d, hd, h⟩)
    · exact .inr (.inr ⟨loc, ps, body, mem_walk.mpr (.inl rfl), d, List.mem_append_left _ hd, h⟩)
  · exact .inr (.inr ⟨loc, ps, body, mem_walk.mpr (.inl rfl), _, by simp, h⟩)

/-- What is assigned to below an expression inside a comprehension is bound outside of it, or in the
block of a lambda. -/
theorem Assigns.binds (hn : n.layer = 0) (h : n.Assigns x) :
    n.Binds x true ∨ n.AssignsInLambda x := by
  induction n using blockNodes.induct with | case1 n ih
  obtain hx | ⟨c, hc, h⟩ | hl := h.step hn
  · unfold assignedName at hx
    split at hx
    · obtain rfl := List.mem_singleton.mp hx
      exact .inl .assigned
    · cases hx
  · obtain hb | hl := ih c hc (Nat.le_zero.mp (hn ▸ layer_le_of_mem_sameBlock hc)) h
    · exact .inl (.part hc hb)
    · exact .inr (hl.of_sameBlock hc)
  · exact .inr hl

/-! ### Names that are collected -/

/-- The search for bound names comes from a node to another. -/
def Searches (n m : Node) : Prop := Relation.ReflTransGen (fun n c => c ∈ n.inBlock) n m

/-- A lambda in a comprehension has an assignment expression for a name. -/
def Stray (x : String) (n : Node) : Prop :=
  ∃ m, n.Searches m ∧ m.opensComprehension = true ∧ m.AssignsInLambda x

/-- A name in brackets has an annotation and no value. -/
def Bracketed (x : String) (n : Node) : Prop :=
  ∃ loc l ctx hint, ctx ≠ .load ∧
    n.Searches (.stmt (.annAssign loc (.name l x ctx) hint none 0))

/-- The annotations of a function bind a name. -/
def Hinted (x : String) (n : Node) : Prop :=
  ∃ loc isAsync name ps body ds r, Relation.ReflTransGen (fun n c => c ∈ n.sameBlock) n
      (.stmt (.function loc isAsync name ps body ds r)) ∧
    ∃ c ∈ paramNodes ps ++ option r, c.Binds x false

theorem Stray.of_inBlock (hc : c ∈ n.inBlock) (h : c.Stray x) : n.Stray x := by
  obtain ⟨m, hm, h⟩ := h
  exact ⟨m, .head hc hm, h⟩

theorem Bracketed.of_inBlock (hc : c ∈ n.inBlock) (h : c.Bracketed x) : n.Bracketed x := by
  obtain ⟨loc, l, ctx, hint, hx, hm⟩ := h
  exact ⟨loc, l, ctx, hint, hx, .head hc hm⟩

theorem Hinted.of_sameBlock (hc : c ∈ n.sameBlock) (h : c.Hinted x) : n.Hinted x := by
  obtain ⟨loc, isAsync, name, ps, body, ds, r, hm, h⟩ := h
  exact ⟨loc, isAsync, name, ps, body, ds, r, .head hc hm, h⟩

/-- What is searched runs in the block, but for the target of an annotation alone. -/
theorem mem_inBlock (h : c ∈ n.inBlock) : n.opensComprehension = false ∧ (c ∈ n.sameBlock ∨
    ∃ loc l id ctx hint, n = .stmt (.annAssign loc (.name l id ctx) hint none 0) ∧
      c = .expr (.name l id ctx)) := by
  unfold inBlock at h
  split at h
  · exact ⟨rfl, .inl h⟩
  · rename_i e hne
    split at h
    · cases h
    · rename_i he
      refine ⟨by simpa [opensComprehension] using he, .inl ?_⟩
      cases e with
      | lambda loc ps body => exact absurd rfl (hne loc ps body)
      | _ => exact h
  · refine ⟨rfl, .inl ?_⟩
    simp only [sameBlock, List.mem_append] at h ⊢
    grind
  · exact ⟨rfl, .inl h⟩
  · rename_i hlambda hexpr hfunction hcls
    have hn : n.opensComprehension = false := by
      cases n with
      | expr e => exact absurd rfl (hexpr e)
      | _ => rfl
    refine ⟨hn, ?_⟩
    unfold sameBlock
    split
    · exact absurd rfl (hlambda _ _ _)
    · exact absurd rfl (hfunction _ _ _ _ _ _ _)
    · exact absurd rfl (hcls _ _ _ _ _ _)
    · simp only [children, ofStmt, option, exprs] at h
      grind
    · exact .inl h

/-- What runs in the block is searched, but for what is below a comprehension and the annotations of a
function. -/
theorem mem_inBlock_of_sameBlock (h : c ∈ n.sameBlock) (hn : n.opensComprehension = false) :
    c ∈ n.inBlock ∨ ∃ loc isAsync name ps body ds r,
      n = .stmt (.function loc isAsync name ps body ds r) ∧ c ∈ paramNodes ps ++ option r := by
  unfold sameBlock at h
  split at h
  · exact .inl h
  · rename_i loc isAsync name ps body ds r
    rw [List.append_assoc, List.mem_append] at h
    obtain h | h := h
    · exact .inl h
    · exact .inr ⟨loc, isAsync, name, ps, body, ds, r, rfl, h⟩
  · exact .inl h
  · left
    simp only [inBlock, children, ofStmt]
    grind
  · rename_i hlambda hfunction hcls _
    left
    unfold inBlock
    split
    · exact absurd rfl (hlambda _ _ _)
    · rw [if_neg (by simpa [opensComprehension] using hn)]
      exact h
    · exact absurd rfl (hfunction _ _ _ _ _ _ _)
    · exact absurd rfl (hcls _ _ _ _ _ _)
    · exact h

/-- A comprehension binds outside of it what it binds seen from inside another one. -/
theorem Binds.of_comprehension (h : n.Binds x true) (hn : n.opensComprehension = true) :
    n.Binds x false := by
  cases h with
  | part hc h =>
    refine .part hc ?_
    rw [hn]
    exact h
  | _ => cases hn

theorem ownNames_comprehension {e : Expr} (h : isComprehension e = true) :
    ownNames (.expr e) = (walk (.expr e)).flatMap assignedName := by
  cases e <;> first | rfl | cases h

/-- The names that a node is taken to bind by itself are bound by it, but for those that stray out of
a comprehension. -/
theorem binds_of_mem_ownNames (h : x ∈ n.ownNames) :
    n.Binds x false ∨ (n.opensComprehension = true ∧ n.AssignsInLambda x) := by
  cases n with
  | expr e =>
    by_cases he : isComprehension e = true
    · rw [ownNames_comprehension he] at h
      have ha : (Node.expr e).Assigns x := List.mem_flatMap.mp h
      obtain hb | hl := ha.binds rfl
      · exact .inl (hb.of_comprehension he)
      · exact .inr ⟨he, hl⟩
    · cases e with
      | name loc id ctx =>
        by_cases hctx : ctx = .load <;> simp [ownNames, hctx] at h
        subst h
        exact .inl (.target hctx)
      | _ => simp [ownNames, he] at h
  | _ => exact .inl (binds_of_statement (by rintro e ⟨⟩) h)

/-- A name that is collected is bound, or stands in one of the places that give away too much. -/
theorem binds_of_mem_boundNames (h : x ∈ n.boundNames) :
    n.Binds x false ∨ n.Stray x ∨ n.Bracketed x := by
  induction n using boundNames.induct with | case1 n ih
  obtain hx | ⟨c, hc, hx⟩ := mem_boundNames.mp h
  · obtain hb | ⟨hn, hl⟩ := binds_of_mem_ownNames hx
    · exact .inl hb
    · exact .inr (.inl ⟨n, .refl, hn, hl⟩)
  obtain ⟨hn, hs⟩ := mem_inBlock hc
  obtain hb | ht | ht := ih c hc hx
  · obtain hs | ⟨loc, l, id, ctx, hint, rfl, rfl⟩ := hs
    · exact .inl (.part hs (by rwa [hn]))
    · -- the target alone does not run in the block, so nothing but its own name is at stake
      cases hb with
      | target hx => exact .inr (.inr ⟨loc, l, ctx, hint, hx, .refl⟩)
      | part hc => cases hc
  · exact .inr (.inl (ht.of_inBlock hc))
  · exact .inr (.inr (ht.of_inBlock hc))

theorem Searches.collected (h : n.Searches m) (hx : x ∈ m.boundNames) : x ∈ n.boundNames := by
  induction h using Relation.ReflTransGen.head_induction_on with
  | refl => exact hx
  | head hc _ ih => exact mem_boundNames.mpr (.inr ⟨_, hc, ih⟩)

theorem Assigns.collected (hn : n.opensComprehension = true) (h : n.Assigns x) :
    x ∈ n.boundNames := by
  refine mem_boundNames.mpr (.inl ?_)
  cases n with
  | expr e =>
    rw [ownNames_comprehension hn]
    exact List.mem_flatMap.mpr h
  | _ => cases hn

theorem AssignsInLambda.assigns (h : n.AssignsInLambda x) : n.Assigns x := by
  obtain ⟨loc, ps, body, hl, c, hc, m, hm, hx⟩ := h
  refine ⟨m, walk_trans hl ?_, hx⟩
  obtain hc | hc := List.mem_append.mp hc
  · have hps : m ∈ walk (.params ps) := mem_walk.mpr (.inr ⟨c, mem_params.mpr (.inr hc), hm⟩)
    exact mem_walk.mpr (.inr ⟨_, List.mem_cons_self, hps⟩)
  · obtain rfl := List.mem_singleton.mp hc
    exact mem_walk.mpr (.inr ⟨_, List.mem_cons_of_mem _ List.mem_cons_self, hm⟩)

theorem Stray.collected (h : n.Stray x) : x ∈ n.boundNames := by
  obtain ⟨m, hm, hc, hl⟩ := h
  exact hm.collected (hl.assigns.collected hc)

theorem Bracketed.collected (h : n.Bracketed x) : x ∈ n.boundNames := by
  obtain ⟨loc, l, ctx, hint, hx, hm⟩ := h
  refine hm.collected (mem_boundNames.mpr (.inr ⟨.expr (.name l x ctx), List.mem_cons_self, ?_⟩))
  refine mem_boundNames.mpr (.inl ?_)
  simp [ownNames, hx]

theorem layer_of_opensComprehension (h : n.opensComprehension = true) : n.layer = 0 := by
  cases n with
  | expr e => rfl
  | _ => cases h

/-- What an expression binds, seen from inside a comprehension, is assigned to below it. -/
theorem Binds.assigns (h : n.Binds x true) (hn : n.layer = 0) : n.Assigns x := by
  generalize hi : true = inner at h
  induction h with
  | target => cases hi
  | assigned => exact ⟨_, mem_walk.mpr (.inl rfl), List.mem_singleton_self x⟩
  | part hc _ ih =>
    obtain ⟨m, hm, hx⟩ := ih (Nat.le_zero.mp (hn ▸ layer_le_of_mem_sameBlock hc)) (by simp [← hi])
    exact ⟨m, walk_subset hc hm, hx⟩
  | _ => cases hn

/-- A name that is bound is collected, unless the annotations of a function bind it. -/
theorem Binds.collected (h : n.Binds x false) : x ∈ n.boundNames ∨ n.Hinted x := by
  generalize hi : false = inner at h
  induction h with
  | target hx => exact .inl (mem_boundNames.mpr (.inl (by simp [ownNames, hx])))
  | assigned => cases hi
  | declared hx => exact .inl (mem_boundNames.mpr (.inl hx))
  | function | cls => exact .inl (mem_boundNames.mpr (.inl (List.mem_singleton_self x)))
  | imported ha hx | importedFrom ha hx =>
    exact .inl (mem_boundNames.mpr (.inl (List.mem_flatMap.mpr ⟨_, ha, hx⟩)))
  | caught hx | captured hx | starred hx | rest hx =>
    exact .inl (mem_boundNames.mpr (.inl (by simp [ownNames, givenName, hx])))
  | @part inner n c hc h ih =>
    subst hi
    cases hn : n.opensComprehension with
    | true =>
      -- the comprehension gives away all that is assigned to below it, at any depth
      rw [hn] at h
      have hlayer : n.layer = 0 := layer_of_opensComprehension hn
      obtain ⟨m, hm, hx⟩ := h.assigns (Nat.le_zero.mp (hlayer ▸ layer_le_of_mem_sameBlock hc))
      exact .inl (Assigns.collected hn ⟨m, walk_subset hc hm, hx⟩)
    | false =>
      obtain hb | ⟨loc, isAsync, name, ps, body, ds, r, rfl, hp⟩ := mem_inBlock_of_sameBlock hc hn
      · obtain hx | ht := ih (by simp [hn])
        · exact .inl (mem_boundNames.mpr (.inr ⟨c, hb, hx⟩))
        · exact .inr (ht.of_sameBlock hc)
      · exact .inr ⟨loc, isAsync, name, ps, body, ds, r, .refl, c, hp, h⟩

end Node

/-- A block of statements binds a name. -/
def Binds (ss : List Stmt) (x : String) : Prop := ∃ s ∈ ss, Node.Binds x false (.stmt s)

theorem mem_boundNames {ss : List Stmt} {x : String} :
    x ∈ boundNames ss ↔ ∃ s ∈ ss, x ∈ Node.boundNames (.stmt s) := by
  unfold boundNames
  rw [mem_eraseReps, List.mem_mergeSort]
  unfold Node.stmts
  rw [List.flatMap_map, List.mem_flatMap]

/-- A block binds the names by which it runs, and those that it declares to be global. -/
theorem binds_iff_scope {ss : List Stmt} {x : String} :
    Binds ss x ↔ x ∈ Scope.bound ss ∨ x ∈ Scope.globalsOf ss := by
  have hb : x ∈ Scope.bound ss ↔ ∃ s ∈ ss, x ∈ Node.bindings false (.stmt s) := by
    unfold Scope.bound Node.stmts
    rw [List.flatMap_map, List.mem_flatMap]
  have hg : x ∈ Scope.globalsOf ss ↔ ∃ s ∈ ss, Node.Declares (.stmt s) x := by
    unfold Scope.globalsOf Node.stmts Node.Declares
    rw [List.flatMap_map, List.mem_flatMap]
    constructor
    · rintro ⟨m, hm, hx⟩
      obtain ⟨s, hs, hm⟩ := List.mem_flatMap.mp hm
      split at hx
      · exact ⟨s, hs, _, _, hm, hx⟩
      · cases hx
    · rintro ⟨s, hs, loc, names, hm, hx⟩
      exact ⟨_, List.mem_flatMap.mpr ⟨s, hs, hm⟩, hx⟩
  unfold Binds
  simp only [Node.binds_iff, hb, hg]
  grind

/-- A name is collected from a block for no other reason than the place where it stands: a lambda in a
comprehension assigns to it, or it stands in brackets before an annotation alone. -/
def GivesAway (ss : List Stmt) (x : String) : Prop :=
  ∃ s ∈ ss, Node.Stray x (.stmt s) ∨ Node.Bracketed x (.stmt s)

/-- The annotations of a function in a block bind a name. -/
def Hints (ss : List Stmt) (x : String) : Prop := ∃ s ∈ ss, Node.Hinted x (.stmt s)

/-- The names that are collected from a block are those that it binds, but for two kinds: more are
collected if the block gives them away, and those may be missed that it binds in the annotations of a
function. -/
theorem boundNames_settle (ss : List Stmt) (x : String) :
    (x ∈ boundNames ss → Binds ss x ∨ GivesAway ss x) ∧
    (GivesAway ss x → x ∈ boundNames ss) ∧
    (Binds ss x → x ∈ boundNames ss ∨ Hints ss x) ∧
    (¬ GivesAway ss x → ¬ Hints ss x → (x ∈ boundNames ss ↔ Binds ss x)) := by
  have hleft (h : x ∈ boundNames ss) : Binds ss x ∨ GivesAway ss x := by
    obtain ⟨s, hs, hx⟩ := mem_boundNames.mp h
    obtain hb | ht := Node.binds_of_mem_boundNames hx
    · exact .inl ⟨s, hs, hb⟩
    · exact .inr ⟨s, hs, ht⟩
  have hright (h : Binds ss x) : x ∈ boundNames ss ∨ Hints ss x := by
    obtain ⟨s, hs, hb⟩ := h
    obtain hx | ht := hb.collected
    · exact .inl (mem_boundNames.mpr ⟨s, hs, hx⟩)
    · exact .inr ⟨s, hs, ht⟩
  refine ⟨hleft, ?_, hright, fun hg hh => ⟨fun h => ?_, fun h => ?_⟩⟩
  · rintro ⟨s, hs, ht | ht⟩
    · exact mem_boundNames.mpr ⟨s, hs, ht.collected⟩
    · exact mem_boundNames.mpr ⟨s, hs, ht.collected⟩
  · exact (hleft h).resolve_right hg
  · exact (hright h).resolve_right hh

/-- A comprehension of lambdas: `x = [lambda: (y := 1) for _ in ()]`. -/
def lambdas : List Stmt :=
  [.assign {} [.name {} "x" .store]
    (.listComp {} (.lambda {} (.mk [] [] none [] [] none [])
        (.named {} (.name {} "y" .store) (.constant {} (.int 1))))
      [.mk (.name {} "_" .store) (.tuple {} [] .load) [] false])]

/-- A function with annotations: `def f(p: (a := 1)) -> (b := 2): pass`. -/
def annotated : List Stmt :=
  [.function {} false "f"
    (.mk [] [.mk {} "p" (some (.named {} (.name {} "a" .store) (.constant {} (.int 1))))]
      none [] [] none [])
    [.pass {}] [] (some (.named {} (.name {} "b" .store) (.constant {} (.int 2))))]

/-- An annotation of a name in brackets: `(z): int`. -/
def bracketed : List Stmt :=
  [.annAssign {} (.name {} "z" .store) (.name {} "int" .load) none 0]

theorem collected_names_differ :
    ("y" ∈ boundNames lambdas ∧ ¬ Binds lambdas "y") ∧
    (Binds annotated "a" ∧ "a" ∉ boundNames annotated) ∧
    ("z" ∈ boundNames bracketed ∧ ¬ Binds bracketed "z") := by
  simp only [mem_boundNames, binds_iff_scope]
  refine ⟨⟨?_, ?_⟩, ⟨?_, ?_⟩, ?_, ?_⟩ <;> decide +kernel

end LiveMarkdown.Script
