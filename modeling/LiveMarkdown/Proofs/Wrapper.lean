import LiveMarkdown.Proofs.BoundNames
import LiveMarkdown.Script.Wrapped
import Mathlib.Data.List.Forall2

/-!
The body of the function that a returning block becomes. Statements that have no place in it are
replaced wherever they stand, outside of inner functions and classes, and nothing else changes. The
body returns if the block does, and binds no name that was not collected from the block.
-/

namespace LiveMarkdown.Script

/-! ### Blocks inside a statement -/

def Handler.body : Handler → List Stmt
  | .mk _ _ _ body => body

def Case.body : Case → List Stmt
  | .mk _ _ body => body

def Handler.mapBody (f : List Stmt → List Stmt) : Handler → Handler
  | .mk loc kind name body => .mk loc kind name (f body)

def Case.mapBody (f : List Stmt → List Stmt) : Case → Case
  | .mk p guard body => .mk p guard (f body)

namespace Stmt

/-- The blocks of statements inside a statement that run in the block around it. -/
def blocks : Stmt → List (List Stmt)
  | .for _ _ _ _ body orElse | .while _ _ body orElse | .if _ _ body orElse => [body, orElse]
  | .with _ _ _ body => [body]
  | .match _ _ cases => cases.map Case.body
  | .try _ _ body handlers orElse final => body :: handlers.map Handler.body ++ [orElse, final]
  | _ => []

/-- Changes the blocks of statements inside a statement. -/
def mapBlocks (f : List Stmt → List Stmt) : Stmt → Stmt
  | .for loc isAsync target iter body orElse => .for loc isAsync target iter (f body) (f orElse)
  | .while loc test body orElse => .while loc test (f body) (f orElse)
  | .if loc test body orElse => .if loc test (f body) (f orElse)
  | .with loc isAsync items body => .with loc isAsync items (f body)
  | .match loc subject cases => .match loc subject (cases.map (Case.mapBody f))
  | .try loc isStar body handlers orElse final =>
    .try loc isStar (f body) (handlers.map (Handler.mapBody f)) (f orElse) (f final)
  | s => s

/-- A statement but for the blocks inside it. -/
def frame (s : Stmt) : Stmt := s.mapBlocks fun _ => []

variable {s : Stmt} {f g : List Stmt → List Stmt}

theorem blocks_mapBlocks : (s.mapBlocks f).blocks = s.blocks.map f := by
  have hcase : Case.body ∘ Case.mapBody f = f ∘ Case.body := by
    funext ⟨p, guard, body⟩
    rfl
  have hhandler : Handler.body ∘ Handler.mapBody f = f ∘ Handler.body := by
    funext ⟨loc, kind, name, body⟩
    rfl
  cases s <;> simp [mapBlocks, blocks, hcase, hhandler]

theorem mapBlocks_mapBlocks : (s.mapBlocks f).mapBlocks g = s.mapBlocks (g ∘ f) := by
  have hcase : Case.mapBody g ∘ Case.mapBody f = Case.mapBody (g ∘ f) := by
    funext ⟨p, guard, body⟩
    rfl
  have hhandler : Handler.mapBody g ∘ Handler.mapBody f = Handler.mapBody (g ∘ f) := by
    funext ⟨loc, kind, name, body⟩
    rfl
  cases s <;> simp [mapBlocks, hcase, hhandler]

theorem mapBlocks_congr (h : ∀ b ∈ s.blocks, f b = g b) : s.mapBlocks f = s.mapBlocks g := by
  have hcase (c : Case) (h : f c.body = g c.body) : c.mapBody f = c.mapBody g := by
    cases c
    simpa [Case.mapBody, Case.body] using h
  have hhandler (d : Handler) (h : f d.body = g d.body) : d.mapBody f = d.mapBody g := by
    cases d
    simpa [Handler.mapBody, Handler.body] using h
  cases s with
  | «match» loc subject cs =>
    have hcs : cs.map (Case.mapBody f) = cs.map (Case.mapBody g) :=
      List.map_congr_left fun c hc => hcase c (h _ (List.mem_map_of_mem hc))
    rw [mapBlocks, mapBlocks, hcs]
  | «try» loc isStar body hs orElse final =>
    simp only [blocks, List.mem_append, List.mem_cons, List.mem_map] at h
    have hhs : hs.map (Handler.mapBody f) = hs.map (Handler.mapBody g) :=
      List.map_congr_left fun d hd => hhandler d (h _ (.inl (.inr ⟨d, hd, rfl⟩)))
    rw [mapBlocks, mapBlocks, hhs, h body (by simp), h orElse (by simp), h final (by simp)]
  | _ => simp_all [mapBlocks, blocks]

theorem mapBlocks_id : s.mapBlocks id = s := by
  have hcase : Case.mapBody id = id := by
    funext ⟨p, guard, body⟩
    rfl
  have hhandler : Handler.mapBody id = id := by
    funext ⟨loc, kind, name, body⟩
    rfl
  cases s <;> simp [mapBlocks, hcase, hhandler]

theorem frame_mapBlocks : (s.mapBlocks f).frame = s.frame := mapBlocks_mapBlocks

theorem sizeOf_lt_of_mem_blocks {b : List Stmt} (h : b ∈ s.blocks) : sizeOf b < sizeOf s := by
  have hcase (c : Case) : sizeOf c.body < sizeOf c := by
    cases c
    simp only [Case.body, Case.mk.sizeOf_spec]
    omega
  have hhandler (d : Handler) : sizeOf d.body < sizeOf d := by
    cases d
    simp only [Handler.body, Handler.mk.sizeOf_spec]
    omega
  cases s <;> simp only [blocks, List.mem_append, List.mem_cons, List.mem_map, List.not_mem_nil,
    or_false] at h <;> grind [→ List.sizeOf_lt_of_mem]

/-- What holds of a statement if it holds of all statements in its blocks holds of every statement. -/
@[elab_as_elim]
theorem blocks_induction {P : Stmt → Prop} (h : ∀ s, (∀ b ∈ s.blocks, ∀ t ∈ b, P t) → P s)
    (s : Stmt) : P s := by
  induction s using (measure (sizeOf : Stmt → Nat)).wf.induction with
  | h s ih =>
    refine h s fun b hb t ht => ih t ?_
    exact Nat.lt_trans (List.sizeOf_lt_of_mem ht) (sizeOf_lt_of_mem_blocks hb)

end Stmt

theorem allInWrapper_eq (ss : List Stmt) : allInWrapper ss = ss.map inWrapper := by
  induction ss with
  | nil => rfl
  | cons s ss ih => rw [allInWrapper, ih, List.map_cons]

theorem casesInWrapper_eq (cs : List Case) :
    casesInWrapper cs = cs.map (Case.mapBody allInWrapper) := by
  induction cs with
  | nil => rfl
  | cons c cs ih =>
    cases c
    rw [casesInWrapper, ih]
    rfl

theorem handlersInWrapper_eq (hs : List Handler) :
    handlersInWrapper hs = hs.map (Handler.mapBody allInWrapper) := by
  induction hs with
  | nil => rfl
  | cons h hs ih =>
    cases h
    rw [handlersInWrapper, ih]
    rfl

/-! ### What is replaced -/

/-- Statements that have no place in the function of a returning block: global declarations, annotations
of plain names, and star imports. -/
def Stmt.isBarred : Stmt → Bool
  | .global .. => true
  | .annAssign _ (.name ..) .. => true
  | .importFrom _ _ names _ => names.head?.map Alias.name == some "*"
  | _ => false

/-- What a statement becomes in the function of a returning block. -/
inductive Rewritten : Stmt → Stmt → Prop
  | declared {loc : Loc} {names : List String} : Rewritten (.global loc names) (.pass loc)
  | annotated {loc l : Loc} {id : String} {ctx : Context} {hint : Expr} {simple : Int} :
      Rewritten (.annAssign loc (.name l id ctx) hint none simple) (.pass loc)
  | assigned {loc l : Loc} {id : String} {ctx : Context} {hint value : Expr} {simple : Int} :
      Rewritten (.annAssign loc (.name l id ctx) hint (some value) simple)
        (.assign loc [.name l id .store] value)
  | starred {loc : Loc} {source : Option String} {names : List Alias} {level : Option Nat}
      (h : names.head?.map Alias.name = some "*") :
      Rewritten (.importFrom loc source names level) (starImportCall loc source level)
  /-- Any other statement keeps all but the blocks inside it. -/
  | kept {s t : Stmt} (hs : s.isBarred = false) (hf : t.frame = s.frame)
      (hb : List.Forall₂ (List.Forall₂ Rewritten) s.blocks t.blocks) : Rewritten s t

theorem inWrapper_of_not_isBarred {s : Stmt} (h : s.isBarred = false) :
    inWrapper s = s.mapBlocks allInWrapper := by
  cases s with
  | global => cases h
  | annAssign loc target hint value simple =>
    cases target with
    | name => cases h
    | _ => rfl
  | importFrom loc source names level =>
    have hn : ¬ (names.head?.map Alias.name == some "*") = true := by
      rw [show (names.head?.map Alias.name == some "*") = false from h]
      exact Bool.false_ne_true
    rw [inWrapper, if_neg hn]
    rfl
  | «match» loc subject cs => rw [inWrapper, casesInWrapper_eq, Stmt.mapBlocks]
  | «try» loc isStar body hs orElse final => rw [inWrapper, handlersInWrapper_eq, Stmt.mapBlocks]
  | _ => rfl

theorem Stmt.isBarred_mapBlocks {s : Stmt} {f : List Stmt → List Stmt} :
    (s.mapBlocks f).isBarred = s.isBarred := by
  cases s <;> rfl

theorem Stmt.blocks_of_isBarred {s : Stmt} (h : s.isBarred = true) : s.blocks = [] := by
  cases s <;> first | rfl | cases h

theorem inWrapper_of_isBarred {s : Stmt} (h : s.isBarred = true) :
    Rewritten s (inWrapper s) ∧ (inWrapper s).isBarred = false ∧ (inWrapper s).blocks = [] := by
  cases s with
  | global loc names => exact ⟨.declared, rfl, rfl⟩
  | annAssign loc target hint value simple =>
    cases target with
    | name l id ctx =>
      cases value with
      | none => exact ⟨.annotated, rfl, rfl⟩
      | some v => exact ⟨.assigned, rfl, rfl⟩
    | _ => cases h
  | importFrom loc source names level =>
    have hn : (names.head?.map Alias.name == some "*") = true := h
    rw [inWrapper, if_pos hn]
    exact ⟨.starred (by simpa using hn), rfl, rfl⟩
  | _ => cases h

/-- A statement without blocks that has its place stays as it is. -/
theorem inWrapper_of_blocks_nil {s : Stmt} (h : s.isBarred = false) (hb : s.blocks = []) :
    inWrapper s = s := by
  rw [inWrapper_of_not_isBarred h, Stmt.mapBlocks_congr (g := id) (by simp [hb]), Stmt.mapBlocks_id]

/-- Each statement is replaced if it has no place in the function, and changes only inside its blocks if
it has. -/
theorem rewritten_inWrapper (s : Stmt) : Rewritten s (inWrapper s) := by
  induction s using Stmt.blocks_induction with | h s ih
  cases hs : s.isBarred with
  | true => exact (inWrapper_of_isBarred hs).1
  | false =>
    rw [inWrapper_of_not_isBarred hs]
    refine .kept hs Stmt.frame_mapBlocks ?_
    rw [Stmt.blocks_mapBlocks, List.forall₂_map_right_iff, List.forall₂_same]
    intro b hb
    rw [allInWrapper_eq, List.forall₂_map_right_iff, List.forall₂_same]
    exact fun t ht => ih b hb t ht

theorem inWrapper_inWrapper (s : Stmt) : inWrapper (inWrapper s) = inWrapper s := by
  induction s using Stmt.blocks_induction with | h s ih
  cases hs : s.isBarred with
  | true =>
    -- what takes the place of a statement has its place there, and nothing inside it
    obtain ⟨-, hb, hn⟩ := inWrapper_of_isBarred hs
    exact inWrapper_of_blocks_nil hb hn
  | false =>
    rw [inWrapper_of_not_isBarred hs, inWrapper_of_not_isBarred (Stmt.isBarred_mapBlocks.trans hs),
      Stmt.mapBlocks_mapBlocks]
    refine Stmt.mapBlocks_congr fun b hb => ?_
    rw [Function.comp_apply, allInWrapper_eq, allInWrapper_eq, List.map_map]
    exact List.map_congr_left fun t ht => ih b hb t ht

/-! ### What stands outside of inner functions -/

namespace Node

variable {n m c : Node}

/-- A node with all below it, but for what is inside functions, classes and lambdas. -/
def exposed (n : Node) : List Node :=
  n :: if n.isScope then [] else n.children.attach.flatMap fun ⟨c, _⟩ => exposed c
termination_by sizeOf n
decreasing_by exact sizeOf_lt_of_mem_children ‹_›

theorem mem_exposed :
    m ∈ n.exposed ↔ m = n ∨ n.isScope = false ∧ ∃ c ∈ n.children, m ∈ c.exposed := by
  rw [exposed]
  cases n.isScope <;> simp

theorem layer_le_of_mem_exposed (h : m ∈ n.exposed) : m.layer ≤ n.layer := by
  induction n using walk.induct with | case1 n ih
  obtain rfl | ⟨-, c, hc, hm⟩ := mem_exposed.mp h
  · exact Nat.le_refl _
  · exact Nat.le_trans (ih c hc hm) (layer_le_of_mem_children hc)

/-- Whether a return stands among nodes or below them, outside of blocks of their own. -/
theorem hasReturn_iff (pending : List Node) :
    hasReturn pending = true ↔ ∃ n ∈ pending, ∃ m ∈ n.exposed, m.isReturn = true := by
  induction pending using hasReturn.induct with
  | case1 => simp [hasReturn]
  | case2 n rest h =>
    rw [hasReturn, if_pos h]
    exact iff_of_true rfl ⟨n, List.mem_cons_self, n, mem_exposed.mpr (.inl rfl), h⟩
  | case3 n rest h hs ih =>
    rw [hasReturn, if_neg h, if_pos hs, ih]
    constructor
    · rintro ⟨k, hk, hr⟩
      exact ⟨k, List.mem_cons_of_mem n hk, hr⟩
    · rintro ⟨k, hk, m, hm, hr⟩
      obtain rfl | hk := List.mem_cons.mp hk
      · obtain rfl | ⟨hn, -⟩ := mem_exposed.mp hm
        · exact absurd hr h
        · rw [hs] at hn
          cases hn
      · exact ⟨k, hk, m, hm, hr⟩
  | case4 n rest h hs ih =>
    rw [hasReturn, if_neg h, if_neg hs, ih]
    constructor
    · rintro ⟨k, hk, m, hm, hr⟩
      obtain hk | hk := List.mem_append.mp hk
      · have hc : k ∈ n.children := List.mem_reverse.mp hk
        have hn : n.isScope = false := by simpa using hs
        exact ⟨n, List.mem_cons_self, m, mem_exposed.mpr (.inr ⟨hn, k, hc, hm⟩), hr⟩
      · exact ⟨k, List.mem_cons_of_mem n hk, m, hm, hr⟩
    · rintro ⟨k, hk, m, hm, hr⟩
      obtain rfl | hk := List.mem_cons.mp hk
      · obtain rfl | ⟨-, c, hc, hm⟩ := mem_exposed.mp hm
        · exact absurd hr h
        · exact ⟨c, List.mem_append_left _ (List.mem_reverse.mpr hc), m, hm, hr⟩
      · exact ⟨k, List.mem_append_right _ hk, m, hm, hr⟩

/-- A statement stands among nodes or below them, outside of blocks of their own. -/
def Expose (cs : List Node) (t : Stmt) : Prop := ∃ c ∈ cs, .stmt t ∈ c.exposed

section

variable {t : Stmt} {cs ds : List Node}

theorem stmt_mem_exposed :
    .stmt t ∈ c.exposed ↔ .stmt t = c ∨ c.isScope = false ∧ Expose c.children t := mem_exposed

@[simp] theorem expose_nil : ¬ Expose [] t := by
  simp [Expose]

@[simp] theorem expose_cons : Expose (c :: cs) t ↔ .stmt t ∈ c.exposed ∨ Expose cs t := by
  simp [Expose]

@[simp] theorem expose_append : Expose (cs ++ ds) t ↔ Expose cs t ∨ Expose ds t := by
  simp [Expose, or_and_right, exists_or]

/-- Only what is made of statements exposes a statement. -/
theorem not_mem_exposed (h : c.layer < 2) : .stmt t ∉ c.exposed :=
  fun hm => absurd (layer_le_of_mem_exposed hm) (Nat.not_le.mpr h)

theorem not_expose (h : ∀ c ∈ cs, c.layer < 2) : ¬ Expose cs t :=
  fun ⟨c, hc, hm⟩ => not_mem_exposed (h c hc) hm

@[simp] theorem not_expose_exprs (es : List Expr) : ¬ Expose (exprs es) t :=
  not_expose fun c hc => by rw [layer_of_mem_exprs hc]; decide

@[simp] theorem not_expose_option (e : Option Expr) : ¬ Expose (option e) t := not_expose_exprs _

@[simp] theorem not_expose_keywords (ks : List Keyword) : ¬ Expose (ks.map .keyword) t :=
  not_expose (by simp [layer])

@[simp] theorem not_expose_items (ws : List WithItem) : ¬ Expose (ws.map .item) t :=
  not_expose (by simp [layer])

theorem exposed_handler (d : Handler) :
    .stmt t ∈ exposed (.handler d) ↔ Expose (stmts d.body) t := by
  obtain ⟨loc, kind, name, body⟩ := d
  have hc : Expose (children (.handler (.mk loc kind name body))) t ↔ Expose (stmts body) t := by
    simp [children]
  rw [stmt_mem_exposed, hc]
  simp [isScope, Handler.body]

theorem exposed_case (d : Case) : .stmt t ∈ exposed (.case d) ↔ Expose (stmts d.body) t := by
  obtain ⟨p, guard, body⟩ := d
  have hp : .stmt t ∉ exposed (.pattern p) := not_mem_exposed (Nat.lt_succ_self 1)
  have hc : Expose (children (.case (.mk p guard body))) t ↔ Expose (stmts body) t := by
    simp [children, hp]
  rw [stmt_mem_exposed, hc]
  simp [isScope, Case.body]

@[simp] theorem expose_handlers (hs : List Handler) :
    Expose (hs.map .handler) t ↔ ∃ d ∈ hs, Expose (stmts d.body) t := by
  simp [Expose, exposed_handler]

@[simp] theorem expose_cases (hs : List Case) :
    Expose (hs.map .case) t ↔ ∃ d ∈ hs, Expose (stmts d.body) t := by
  simp [Expose, exposed_case]

@[simp] theorem not_exposed_expr (e : Expr) : .stmt t ∉ exposed (.expr e) :=
  not_mem_exposed Nat.two_pos

end

end Node

/-- A statement is another one or stands below it, outside of functions, classes and lambdas. -/
def Stmt.Shows (s t : Stmt) : Prop := Node.stmt t ∈ Node.exposed (.stmt s)

theorem Stmt.shows_iff {s t : Stmt} : s.Shows t ↔ t = s ∨ ∃ b ∈ s.blocks, ∃ u ∈ b, u.Shows t := by
  have hb (b : List Stmt) : Node.Expose (Node.stmts b) t ↔ ∃ u ∈ b, u.Shows t := by
    simp [Node.Expose, Node.stmts, Shows]
  have hs : Node.isScope (.stmt s) = false ∧ Node.Expose (Node.ofStmt s) t ↔
      ∃ b ∈ s.blocks, Node.Expose (Node.stmts b) t := by
    cases s with
    | «try» loc isStar body hs orElse final =>
      simp only [Node.ofStmt, Node.isScope, blocks, Node.expose_append, Node.expose_handlers,
        List.mem_cons, List.mem_append, List.mem_map]
      grind
    | _ => simp [Node.ofStmt, Node.isScope, blocks]
  simp only [hb] at hs
  rw [← hs, Shows, Node.stmt_mem_exposed, Node.stmt.injEq]
  rfl

/-- A block returns if one of its statements shows a return. -/
theorem hasReturn_iff {ss : List Stmt} : hasReturn ss = true ↔
    ∃ s ∈ ss, ∃ t, s.Shows t ∧ Node.isReturn (.stmt t) = true := by
  unfold hasReturn
  rw [Node.hasReturn_iff]
  constructor
  · rintro ⟨n, hn, m, hm, hr⟩
    obtain ⟨s, hs, rfl⟩ := List.mem_map.mp (List.mem_reverse.mp hn)
    cases m with
    | stmt t => exact ⟨s, hs, t, hm, hr⟩
    | _ => cases hr
  · rintro ⟨s, hs, t, hm, hr⟩
    exact ⟨_, List.mem_reverse.mpr (List.mem_map_of_mem hs), _, hm, hr⟩

/-- What a statement shows after the rewriting is what it showed before, rewritten. -/
theorem shows_inWrapper {s t : Stmt} :
    (inWrapper s).Shows t ↔ ∃ u, s.Shows u ∧ inWrapper u = t := by
  induction s using Stmt.blocks_induction generalizing t with | h s ih
  rw [Stmt.shows_iff]
  cases hs : s.isBarred with
  | true =>
    -- neither the statement nor what it becomes has blocks
    have hb : (inWrapper s).blocks = [] := (inWrapper_of_isBarred hs).2.2
    simp [hb, Stmt.shows_iff (s := s), Stmt.blocks_of_isBarred hs, eq_comm]
  | false =>
    have hb : (∃ b ∈ (inWrapper s).blocks, ∃ u ∈ b, u.Shows t) ↔
        ∃ b ∈ s.blocks, ∃ v ∈ b, (inWrapper v).Shows t := by
      rw [inWrapper_of_not_isBarred hs, Stmt.blocks_mapBlocks]
      simp [allInWrapper_eq]
    rw [hb]
    constructor
    · rintro (rfl | ⟨b, hb, v, hv, h⟩)
      · exact ⟨s, Stmt.shows_iff.mpr (.inl rfl), rfl⟩
      · obtain ⟨u, hu, he⟩ := (ih b hb v hv).mp h
        exact ⟨u, Stmt.shows_iff.mpr (.inr ⟨b, hb, v, hv, hu⟩), he⟩
    · rintro ⟨u, hu, rfl⟩
      obtain rfl | ⟨b, hb, v, hv, hu⟩ := Stmt.shows_iff.mp hu
      · exact .inl rfl
      · exact .inr ⟨b, hb, v, hv, (ih b hb v hv).mpr ⟨u, hu, rfl⟩⟩

theorem isBarred_inWrapper (s : Stmt) : (inWrapper s).isBarred = false := by
  cases hs : s.isBarred with
  | true => exact (inWrapper_of_isBarred hs).2.1
  | false => rw [inWrapper_of_not_isBarred hs, Stmt.isBarred_mapBlocks, hs]

/-- No statement becomes a return, and no return becomes anything else. -/
theorem Rewritten.isReturn {s t : Stmt} (h : Rewritten s t) :
    Node.isReturn (.stmt t) = Node.isReturn (.stmt s) := by
  have hframe (s : Stmt) : Node.isReturn (.stmt s.frame) = Node.isReturn (.stmt s) := by
    cases s <;> rfl
  cases h with
  | kept hs hf hb => rw [← hframe t, hf, hframe s]
  | _ => rfl

/-- A block returns after the rewriting exactly if it did before. -/
theorem hasReturn_allInWrapper (ss : List Stmt) : hasReturn (allInWrapper ss) = hasReturn ss := by
  rw [Bool.eq_iff_iff, hasReturn_iff, hasReturn_iff, allInWrapper_eq]
  constructor
  · rintro ⟨_, hm, t, ht, hr⟩
    obtain ⟨s, hs, rfl⟩ := List.mem_map.mp hm
    obtain ⟨u, hu, rfl⟩ := shows_inWrapper.mp ht
    exact ⟨s, hs, u, hu, (rewritten_inWrapper u).isReturn ▸ hr⟩
  · rintro ⟨s, hs, u, hu, hr⟩
    exact ⟨_, List.mem_map_of_mem hs, _, shows_inWrapper.mpr ⟨u, hu, rfl⟩,
      (rewritten_inWrapper u).isReturn.trans hr⟩

/-! ### Names that are collected from a block -/

namespace Node

variable {x : String} {c : Node} {cs ds : List Node} {f : List Stmt → List Stmt}

/-- A name is collected from one of some nodes. -/
def Collects (cs : List Node) (x : String) : Prop := ∃ c ∈ cs, x ∈ c.boundNames

@[simp] theorem collects_nil : ¬ Collects [] x := by
  simp [Collects]

@[simp] theorem collects_cons : Collects (c :: cs) x ↔ x ∈ c.boundNames ∨ Collects cs x := by
  simp [Collects]

@[simp] theorem collects_append : Collects (cs ++ ds) x ↔ Collects cs x ∨ Collects ds x := by
  simp [Collects, or_and_right, exists_or]

theorem collects_map {α : Type} {g h : α → Node} {l : List α}
    (hgh : ∀ a ∈ l, x ∈ (g a).boundNames → x ∈ (h a).boundNames) (hc : Collects (l.map g) x) :
    Collects (l.map h) x := by
  obtain ⟨c, hc, hx⟩ := hc
  obtain ⟨a, ha, rfl⟩ := List.mem_map.mp hc
  exact ⟨h a, List.mem_map_of_mem ha, hgh a ha hx⟩

theorem boundNames_eq : x ∈ c.boundNames ↔ x ∈ c.ownNames ∨ Collects c.inBlock x := mem_boundNames

theorem collected_mapBody_handler {d : Handler}
    (h : Collects (stmts (f d.body)) x → Collects (stmts d.body) x)
    (hx : x ∈ boundNames (.handler (d.mapBody f))) : x ∈ boundNames (.handler d) := by
  obtain ⟨loc, kind, name, body⟩ := d
  simp only [boundNames_eq, Handler.mapBody, ownNames, inBlock, children, collects_append] at *
  exact hx.imp_right (Or.imp_right h)

theorem collected_mapBody_case {d : Case}
    (h : Collects (stmts (f d.body)) x → Collects (stmts d.body) x)
    (hx : x ∈ boundNames (.case (d.mapBody f))) : x ∈ boundNames (.case d) := by
  obtain ⟨p, guard, body⟩ := d
  simp only [boundNames_eq (c := .case _), Case.mapBody, ownNames, inBlock, children,
    collects_append] at *
  exact hx.imp_right (Or.imp_right h)

/-- No name is added to a statement by a change to its blocks that adds none to them. -/
theorem collected_mapBlocks {s : Stmt}
    (h : ∀ b ∈ s.blocks, Collects (stmts (f b)) x → Collects (stmts b) x)
    (hx : x ∈ boundNames (.stmt (s.mapBlocks f))) : x ∈ boundNames (.stmt s) := by
  cases s with
  | «match» loc subject cs =>
    simp only [boundNames_eq (c := .stmt _), Stmt.mapBlocks, ownNames, inBlock, children, ofStmt,
      collects_cons, List.map_map] at *
    refine hx.imp_right (Or.imp_right fun hx => ?_)
    exact collects_map (fun c hc => collected_mapBody_case (h _ (List.mem_map_of_mem hc))) hx
  | «try» loc isStar body hs orElse final =>
    have hbody := h body (by simp [Stmt.blocks])
    have horElse := h orElse (by simp [Stmt.blocks])
    have hfinal := h final (by simp [Stmt.blocks])
    have hhandlers (d : Handler) (hd : d ∈ hs) :=
      collected_mapBody_handler (h d.body (by simp [Stmt.blocks]; grind))
    simp only [boundNames_eq (c := .stmt _), Stmt.mapBlocks, ownNames, inBlock, children, ofStmt,
      collects_append, List.map_map] at *
    exact hx.imp_right (Or.imp (Or.imp (Or.imp hbody (collects_map hhandlers)) horElse) hfinal)
  | _ =>
    simp only [boundNames_eq (c := .stmt _), Stmt.mapBlocks, ownNames, inBlock, children, ofStmt,
      collects_cons, collects_append, Stmt.blocks] at *
    grind

end Node

/-- An annotated name is written to, as it is wherever a program is read from a text. -/
def Node.isStoring : Node → Bool
  | .stmt (.annAssign _ (.name _ _ ctx) ..) => ctx == .store
  | _ => true

/-- All annotated names in a block are written to, outside of functions, classes and lambdas. -/
def Storing (ss : List Stmt) : Prop :=
  ∀ s ∈ ss, ∀ n ∈ Node.exposed (.stmt s), n.isStoring = true

instance (ss : List Stmt) : Decidable (Storing ss) :=
  inferInstanceAs (Decidable (∀ s ∈ ss, ∀ n ∈ Node.exposed (.stmt s), n.isStoring = true))

theorem not_mem_boundNames_starImportCall (loc : Loc) (source : Option String) (level : Option Nat)
    (x : String) : x ∉ Node.boundNames (.stmt (starImportCall loc source level)) := by
  simp [starImportCall, Node.boundNames_eq, Node.ownNames, Node.inBlock, Node.isComprehension,
    Node.children, Node.ofStmt, Node.ofExpr, Node.exprs]

theorem collected_of_isBarred {s : Stmt} {x : String} (hb : s.isBarred = true)
    (hs : Node.isStoring (.stmt s) = true) (hx : x ∈ Node.boundNames (.stmt (inWrapper s))) :
    x ∈ Node.boundNames (.stmt s) := by
  have hpass (loc : Loc) : x ∉ Node.boundNames (.stmt (.pass loc)) := by
    simp [Node.boundNames_eq, Node.ownNames, Node.inBlock, Node.children, Node.ofStmt]
  cases s with
  | global loc names => exact absurd hx (hpass loc)
  | annAssign loc target hint value simple =>
    cases target with
    | name l id ctx =>
      obtain rfl : ctx = .store := by simpa [Node.isStoring] using hs
      cases value with
      | none => exact absurd hx (hpass loc)
      | some v =>
        obtain hx | ⟨c, hc, hx⟩ := Node.mem_boundNames.mp hx
        · cases hx
        have hc : c ∈ Node.exprs [.name l id .store, v] := hc
        refine Node.mem_boundNames.mpr (.inr ⟨c, ?_, hx⟩)
        change c ∈ Node.exprs [.name l id .store, hint] ++ Node.exprs [v]
        grind
    | _ => cases hb
  | importFrom loc source names level =>
    have hn : (names.head?.map Alias.name == some "*") = true := hb
    rw [inWrapper, if_pos hn] at hx
    exact absurd hx (not_mem_boundNames_starImportCall loc source level x)
  | _ => cases hb

theorem collected_inWrapper {s : Stmt} {x : String}
    (hs : ∀ t, s.Shows t → Node.isStoring (.stmt t) = true)
    (hx : x ∈ Node.boundNames (.stmt (inWrapper s))) : x ∈ Node.boundNames (.stmt s) := by
  induction s using Stmt.blocks_induction with | h s ih
  cases hb : s.isBarred with
  | true => exact collected_of_isBarred hb (hs s (Stmt.shows_iff.mpr (.inl rfl))) hx
  | false =>
    rw [inWrapper_of_not_isBarred hb] at hx
    refine Node.collected_mapBlocks (fun b hb ⟨c, hc, hx⟩ => ?_) hx
    rw [allInWrapper_eq] at hc
    obtain ⟨_, hm, rfl⟩ := List.mem_map.mp hc
    obtain ⟨t, ht, rfl⟩ := List.mem_map.mp hm
    refine ⟨.stmt t, List.mem_map_of_mem ht, ih b hb t ht (fun u hu => ?_) hx⟩
    exact hs u (Stmt.shows_iff.mpr (.inr ⟨b, hb, t, ht, hu⟩))

/-! ### The body of the function -/

theorem mem_boundNames_global {loc : Loc} {names : List String} {x : String} :
    x ∈ boundNames [.global loc names] ↔ x ∈ names := by
  simp [mem_boundNames, Node.boundNames_eq, Node.ownNames, Node.inBlock, Node.children, Node.ofStmt]

theorem mem_boundNames_append {ss ts : List Stmt} {x : String} :
    x ∈ boundNames (ss ++ ts) ↔ x ∈ boundNames ss ∨ x ∈ boundNames ts := by
  simp only [mem_boundNames, List.mem_append, or_and_right, exists_or]

theorem mem_boundNames_wrapperBody {ss : List Stmt} {x : String} :
    x ∈ boundNames (wrapperBody ss) ↔ x ∈ boundNames ss ∨ x ∈ boundNames (allInWrapper ss) := by
  unfold wrapperBody
  rw [mem_boundNames_append]
  refine or_congr_left ?_
  split
  · rename_i h
    rw [h, mem_boundNames]
    simp
  · exact mem_boundNames_global

/-- A block stands in the function as another one. -/
structure FitsWrapper (ss ts : List Stmt) : Prop where
  length : ts.length = ss.length
  /-- No statement that has no place there is left outside of inner functions, classes and lambdas. -/
  allowed : ∀ t ∈ ts, ∀ u, t.Shows u → u.isBarred = false
  rewritten : List.Forall₂ Rewritten ss ts
  stable : allInWrapper ts = ts
  returns : hasReturn ts = hasReturn ss
  /-- The names that are declared to be global, those collected from the block, are all that the body
  binds. -/
  covered : ∀ x ∈ boundNames ts, x ∈ boundNames ss

/-- The statements of a returning block are replaced where they have no place in its function, and keep
all else. With the declaration of the names that were collected before, the function gives the same
names away as the block. -/
theorem allInWrapper_fits (ss : List Stmt) (h : Storing ss) :
    FitsWrapper ss (allInWrapper ss) ∧ ∀ x, x ∈ boundNames (wrapperBody ss) ↔ x ∈ boundNames ss := by
  have hcovered (x : String) (hx : x ∈ boundNames (allInWrapper ss)) : x ∈ boundNames ss := by
    rw [allInWrapper_eq] at hx
    obtain ⟨_, ht, hx⟩ := mem_boundNames.mp hx
    obtain ⟨s, hs, rfl⟩ := List.mem_map.mp ht
    exact mem_boundNames.mpr ⟨s, hs, collected_inWrapper (fun t ht => h s hs _ ht) hx⟩
  refine ⟨⟨?_, fun t ht u hu => ?_, ?_, ?_, hasReturn_allInWrapper ss, hcovered⟩, fun x => ?_⟩
  · rw [allInWrapper_eq, List.length_map]
  · rw [allInWrapper_eq] at ht
    obtain ⟨s, hs, rfl⟩ := List.mem_map.mp ht
    obtain ⟨v, -, rfl⟩ := shows_inWrapper.mp hu
    exact isBarred_inWrapper v
  · rw [allInWrapper_eq, List.forall₂_map_right_iff, List.forall₂_same]
    exact fun s _ => rewritten_inWrapper s
  · rw [allInWrapper_eq, allInWrapper_eq, List.map_map]
    exact List.map_congr_left fun s _ => inWrapper_inWrapper s
  · rw [mem_boundNames_wrapperBody]
    exact ⟨fun hx => hx.elim id (hcovered x), .inl⟩

/-- A block that returns, with a global declaration, an annotation and a star import in it, and one more
declaration in a function. -/
def mixedBlock : List Stmt :=
  [.if {} (.name {} "a" .load)
      [.global {} ["b"],
        .annAssign {} (.name {} "c" .store) (.name {} "int" .load) (some (.name {} "a" .load)) 1,
        .importFrom {} (some "m") [{ name := "*" }] (some 0)]
      [.function {} false "f" (.mk [] [] none [] [] none []) [.global {} ["d"]] [] none],
    .return {} none]

theorem mixedBlock_fits : Storing mixedBlock ∧ FitsWrapper mixedBlock (allInWrapper mixedBlock) ∧
    (∀ x, x ∈ boundNames (wrapperBody mixedBlock) ↔ x ∈ boundNames mixedBlock) ∧
    allInWrapper mixedBlock =
      [.if {} (.name {} "a" .load)
          [.pass {}, .assign {} [.name {} "c" .store] (.name {} "a" .load),
            starImportCall {} (some "m") (some 0)]
          [.function {} false "f" (.mk [] [] none [] [] none []) [.global {} ["d"]] [] none],
        .return {} none] := by
  have hs : Storing mixedBlock := by decide +kernel
  obtain ⟨hf, hb⟩ := allInWrapper_fits mixedBlock hs
  exact ⟨hs, hf, hb, rfl⟩

end LiveMarkdown.Script
