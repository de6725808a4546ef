import LiveMarkdown.Proofs.Presence

/-!
What code may return. The classes of values overlap: texts are sequences too, truth values are
numbers, and a class of the program may inherit from several. So what is accepted at a level is said
once more without an order of tests, and the tests in their order are shown to come to the same.
-/

namespace LiveMarkdown

open Document (NodeId Forest)
open Script (Machine Value World)

namespace Result

variable {m : Machine} {v : Value} {level : Level} {w w₁ w' : World} {ns : List NodeId} {n : NodeId}

/-- A text, or an instance of a class of the program that is one. A text of a tree is none here. -/
def IsText (v : Value) (w : World) : Prop := ∃ t, Script.Kind.core v w = .ok (.str t) w

/-- A real number other than a truth value, or an instance of a class of the program that is one. -/
def IsReal (v : Value) (w : World) : Prop :=
  (∃ n, Script.Kind.core v w = .ok (.int n) w) ∨ (∃ x, Script.Kind.core v w = .ok (.float x) w) ∨
    ∃ a b, Script.Kind.core v w = .ok (.fraction a b) w

/-- An element or a text of a tree, or an instance of a class of the program that is one. A whole document
is none. -/
def IsNode (v : Value) (w : World) : Prop :=
  ∃ n level, Script.Kind.core v w = .ok (.node n) w ∧ w.forest.level? n = some level

/-- Values that are the given nodes, one after the other. -/
def AreNodes (vs : List Value) (ns : List NodeId) (w : World) : Prop :=
  List.Forall₂ (fun v n => Script.Kind.core v w = .ok (.node n) w) vs ns

/-- An instance of a class of sequences that is neither a node nor a text nor a number, and does not
hold bytes. -/
structure IsSequence (v : Value) (w : World) : Prop where
  notNode : ¬ IsNode v w
  notText : ¬ IsText v w
  notReal : ¬ IsReal v w
  inherits : ∃ c cs, Script.Kind.of v w = .ok c w ∧ Script.Kind.order c w = .ok cs w ∧
    (∃ t ∈ sequenceClasses, .type t ∈ cs) ∧ ∀ t ∈ byteClasses, .type t ∉ cs

/-- A sequence without items. -/
def IsEmptySequence (m : Machine) (v : Value) (w : World) : Prop :=
  IsSequence v w ∧ ∃ w', Script.Iteration.collect m v w = .ok [] w'

/-- What is accepted at a level, the nodes that it stands for, and the world after the text of a value
was asked for or its items were looked through. -/
inductive Accepts (m : Machine) : Level → Value → World → List NodeId → World → Prop where
  | text (v : Value) (w : World) (t : String) (w₁ : World) (hv : IsText v w ∨ IsReal v w)
      (ht : m.text v w = .ok t w₁) : Accepts m .inline v w [w₁.forest.size]
        { w₁ with forest := w₁.forest.grow #[⟨.text .plain t, none, []⟩] }
  | nothing (w : World) : Accepts m .block .none w [] w
  | node (level : Level) (v : Value) (n : NodeId) (w : World)
      (hv : Script.Kind.core v w = .ok (.node n) w) (hn : w.forest.level? n = some level) :
      Accepts m level v w [n] w
  | items (level : Level) (v : Value) (w : World) (vs : List Value) (ns : List NodeId) (w₁ : World)
      (hv : IsSequence v w) (hc : Script.Iteration.collect m v w = .ok vs w₁)
      (hn : AreNodes vs ns w₁) (hl : ∀ n ∈ ns, w₁.forest.level? n = some level) :
      Accepts m level v w ns w₁

/-! ### The tests -/

theorem isScalar_iff {part : Value} (h : Script.Kind.core v w = .ok part w) :
    isScalar part = true ↔ IsText v w ∨ IsReal v w := by
  unfold IsText IsReal
  simp only [h, EStateM.Result.ok.injEq, and_true]
  cases part <;> simp [isScalar]

theorem anyNamed_iff {names : List String} {order : List Value} :
    anyNamed names order = true ↔ ∃ t ∈ names, .type t ∈ order := by
  unfold anyNamed
  rw [List.any_eq_true]
  constructor
  · rintro ⟨c, hc, h⟩
    cases c with
    | type t => exact ⟨t, by simpa using h, hc⟩
    | _ => cases h
  · rintro ⟨t, ht, hc⟩
    exact ⟨.type t, hc, by simpa using ht⟩

theorem isSequence_apply (v : Value) (w : World) : ∃ b, isSequence v w = .ok b w ∧
    (b = true ↔ ∃ c cs, Script.Kind.of v w = .ok c w ∧ Script.Kind.order c w = .ok cs w ∧
      (∃ t ∈ sequenceClasses, .type t ∈ cs) ∧ ∀ t ∈ byteClasses, .type t ∉ cs) := by
  obtain ⟨c, hc⟩ := Script.Kind.of_reads v w
  obtain ⟨cs, hcs⟩ := Script.Kind.order_reads c w
  refine ⟨_, (bind_of_ok hc).trans (bind_of_ok hcs), ?_⟩
  have hb : (!anyNamed byteClasses cs) = true ↔ ∀ t ∈ byteClasses, Value.type t ∉ cs := by
    rw [Bool.not_eq_true', ← Bool.not_eq_true, anyNamed_iff]
    simp
  rw [Bool.and_eq_true, anyNamed_iff, hb]
  constructor
  · rintro ⟨hs, hbytes⟩
    exact ⟨c, cs, hc, hcs, hs, hbytes⟩
  · rintro ⟨c', cs', hc', hcs', hs, hbytes⟩
    cases hc.symm.trans hc'
    cases hcs.symm.trans hcs'
    exact ⟨hs, hbytes⟩

theorem node?_eq_none_iff {part : Value} (h : Script.Kind.core v w = .ok part w) :
    node? w.forest part = none ↔ ¬ IsNode v w := by
  unfold node? IsNode
  simp only [h, EStateM.Result.ok.injEq, and_true]
  cases part with
  | node n => cases hl : w.forest.level? n <;> simp [hl]
  | _ => simp

theorem nodesAt?_eq_some {f : Forest} {vs : List Value} :
    nodesAt? f level vs = some ns ↔ vs = ns.map .node ∧ ∀ n ∈ ns, f.level? n = some level := by
  induction vs generalizing ns with
  | nil =>
    unfold nodesAt?
    constructor
    · intro h
      cases h
      simp
    · rintro ⟨h, -⟩
      simp [List.map_eq_nil_iff.mp h.symm]
  | cons v vs ih =>
    constructor
    · intro h
      refine ⟨?_, nodesAt?_level h⟩
      unfold nodesAt? at h
      split at h
      · split at h
        · obtain ⟨ms, hms, rfl⟩ := Option.map_eq_some_iff.mp h
          simp [(ih.mp hms).1]
        · cases h
      · cases h
    · rintro ⟨h, hl⟩
      obtain ⟨n, ms, rfl, rfl, rfl⟩ := List.map_eq_cons_iff.mp h.symm
      have hn : f.level? n = some level := hl n List.mem_cons_self
      have hms : nodesAt? f level (ms.map .node) = some ms :=
        ih.mpr ⟨rfl, fun k hk => hl k (List.mem_cons_of_mem n hk)⟩
      unfold nodesAt?
      simp [hn, hms]

theorem areNodes_iff {vs parts : List Value} (h : vs.mapM Script.Kind.core w = .ok parts w) :
    AreNodes vs ns w ↔ parts = ns.map .node := by
  unfold AreNodes
  induction vs generalizing parts ns with
  | nil =>
    rw [List.mapM_nil, pure_apply] at h
    cases h
    rw [List.forall₂_nil_left_iff]
    cases ns <;> simp
  | cons v vs ih =>
    obtain ⟨part, hp⟩ := Script.Kind.core_reads v w
    obtain ⟨rest, hr⟩ := Reads.mapM Script.Kind.core_reads vs w
    rw [List.mapM_cons, bind_of_ok hp, bind_of_ok hr, pure_apply] at h
    cases h
    cases ns with
    | nil => simp
    | cons n ns =>
      rw [List.forall₂_cons, ih hr, hp]
      simp

/-- The values of a sequence are nodes of a level. -/
theorem nodesAt?_parts {vs parts : List Value} (h : vs.mapM Script.Kind.core w = .ok parts w) :
    nodesAt? w.forest level parts = some ns ↔
      AreNodes vs ns w ∧ ∀ n ∈ ns, w.forest.level? n = some level := by
  rw [nodesAt?_eq_some, areNodes_iff h]

theorem AreNodes.node {vs : List Value} (h : AreNodes vs ns w) (hv : v ∈ vs)
    (hn : Script.Kind.core v w = .ok (.node n) w) : n ∈ ns := by
  unfold AreNodes at h
  induction h with
  | nil => cases hv
  | @cons x k vs ns hx _ ih =>
    obtain rfl | hv := List.mem_cons.mp hv
    · rw [hx] at hn
      cases hn
      exact List.mem_cons_self
    · exact List.mem_cons_of_mem k (ih hv)

/-! ### Where the classes do not overlap -/

theorem not_isNode_of_scalar (h : IsText v w ∨ IsReal v w) : ¬ IsNode v w := by
  rintro ⟨n, level, hn, -⟩
  obtain ⟨t, h⟩ | ⟨k, h⟩ | ⟨x, h⟩ | ⟨a, b, h⟩ := h <;> cases hn.symm.trans h

theorem not_scalar_none : ¬ (IsText .none w ∨ IsReal .none w) := by
  rintro (⟨t, h⟩ | ⟨k, h⟩ | ⟨x, h⟩ | ⟨a, b, h⟩) <;> cases h

/-- The instances of a built-in class are sequences or not by the names above it. -/
theorem isSequence_iff {c : String} {part : Value} (hc : Script.Kind.of v w = .ok (.type c) w)
    (hp : Script.Kind.core v w = .ok part w) : IsSequence v w ↔
      node? w.forest part = none ∧ isScalar part = false ∧
      anyNamed sequenceClasses ((Script.builtinOrder c).map .type) = true ∧
      anyNamed byteClasses ((Script.builtinOrder c).map .type) = false := by
  have hs : isScalar part = false ↔ ¬ (IsText v w ∨ IsReal v w) := by
    rw [← isScalar_iff hp, Bool.not_eq_true]
  have hb : anyNamed byteClasses ((Script.builtinOrder c).map .type) = false ↔
      ∀ t ∈ byteClasses, Value.type t ∉ (Script.builtinOrder c).map .type := by
    rw [← Bool.not_eq_true, anyNamed_iff]
    simp
  rw [node?_eq_none_iff hp, hs, anyNamed_iff, hb]
  constructor
  · rintro ⟨hn, ht, hr, c', cs, hc', hcs, hnamed, hbytes⟩
    cases hc.symm.trans hc'
    cases hcs
    exact ⟨hn, not_or.mpr ⟨ht, hr⟩, hnamed, hbytes⟩
  · rintro ⟨hn, hno, hnamed, hbytes⟩
    exact ⟨hn, fun ht => hno (.inl ht), fun hr => hno (.inr hr), _, _, hc, rfl, hnamed, hbytes⟩

theorem not_isSequence_of {c : String} {part : Value} (hc : Script.Kind.of v w = .ok (.type c) w)
    (hp : Script.Kind.core v w = .ok part w)
    (h : anyNamed sequenceClasses ((Script.builtinOrder c).map .type) = false) :
    ¬ IsSequence v w := by
  intro hs
  obtain ⟨-, -, hnamed, -⟩ := (isSequence_iff hc hp).mp hs
  rw [h] at hnamed
  cases hnamed

theorem not_isSequence_none : ¬ IsSequence .none w :=
  not_isSequence_of rfl rfl (by decide +kernel)

theorem classify_node (hv : Script.Kind.core v w = .ok (.node n) w)
    (hn : w.forest.level? n = some level) : classify m v w = .ok (.single n) w := by
  have h : node? w.forest (.node n) = some n := by simp [node?, hn]
  unfold classify
  rw [bind_of_ok hv, bind_of_ok (Script.Run.forest_apply w), h]
  rfl

theorem classify_value {part : Value} (hn : ¬ IsNode v w) (h0 : v ≠ .none)
    (hp : Script.Kind.core v w = .ok part w) : classify m v w = (do
      if isScalar part then return .scalar v
      if ← isSequence v then return .items (← Script.Iteration.collect m v)
      return .unrecognised : Script.Run Shape) w := by
  unfold classify
  rw [bind_of_ok hp, bind_of_ok (Script.Run.forest_apply w),
    (node?_eq_none_iff hp).mpr hn]
  dsimp only
  split
  · exact absurd rfl h0
  · rfl

theorem classify_scalar (h : IsText v w ∨ IsReal v w) : classify m v w = .ok (.scalar v) w := by
  have h0 : v ≠ .none := by
    rintro rfl
    exact not_scalar_none h
  obtain ⟨part, hp⟩ := Script.Kind.core_reads v w
  rw [classify_value (not_isNode_of_scalar h) h0 hp, if_pos ((isScalar_iff hp).mpr h)]
  rfl

theorem classify_sequence (h : IsSequence v w) : classify m v w =
    (Shape.items <$> Script.Iteration.collect m v) w := by
  have h0 : v ≠ .none := by
    rintro rfl
    exact not_isSequence_none h
  obtain ⟨part, hp⟩ := Script.Kind.core_reads v w
  obtain ⟨b, hb, hiff⟩ := isSequence_apply v w
  have hscalar : ¬ isScalar part = true := fun hs =>
    ((isScalar_iff hp).mp hs).elim h.notText h.notReal
  rw [classify_value h.notNode h0 hp, if_neg hscalar, bind_of_ok hb, if_pos (hiff.mpr h.inherits)]
  rfl

theorem validate_scalar_inline {t : String} (h : IsText v w ∨ IsReal v w)
    (ht : m.text v w = .ok t w₁) : validate m v .inline w = .ok (some [w₁.forest.size])
      { w₁ with forest := w₁.forest.grow #[⟨.text .plain t, none, []⟩] } := by
  unfold validate
  rw [bind_of_ok (classify_scalar h)]
  dsimp only
  rw [if_pos rfl, bind_of_ok ht]
  rfl

theorem validate_node (hv : Script.Kind.core v w = .ok (.node n) w)
    (hn : w.forest.level? n = some level) (l : Level) :
    validate m v l w = .ok (if level = l then some [n] else none) w := by
  unfold validate
  rw [bind_of_ok (classify_node hv hn)]
  dsimp only
  rw [bind_of_ok (Script.Run.forest_apply w), hn]
  simp only [Option.some.injEq]
  rfl

theorem validate_sequence {vs parts : List Value} (h : IsSequence v w)
    (hc : Script.Iteration.collect m v w = .ok vs w₁)
    (hp : vs.mapM Script.Kind.core w₁ = .ok parts w₁) :
    validate m v level w = .ok (nodesAt? w₁.forest level parts) w₁ := by
  have hcl : classify m v w = .ok (.items vs) w₁ := by
    rw [classify_sequence h, map_apply, hc]
  unfold validate
  rw [bind_of_ok hcl]
  dsimp only
  rw [bind_of_ok hp]
  rfl

theorem Accepts.validates (h : Accepts m level v w ns w') :
    validate m v level w = .ok (some ns) w' := by
  cases h with
  | text _ _ t w₁ hv ht => exact validate_scalar_inline hv ht
  | nothing => exact DocumentRun.validate_none m .block
  | node _ _ n _ hv hn => rw [validate_node hv hn, if_pos rfl]
  | items _ _ _ vs _ _ hv hc hn hl =>
    obtain ⟨parts, hp⟩ := Reads.mapM Script.Kind.core_reads vs w'
    rw [validate_sequence hv hc hp, (nodesAt?_parts hp).mpr ⟨hn, hl⟩]

theorem IsEmptySequence.accepts (h : IsEmptySequence m v w) (level : Level) :
    ∃ w', Accepts m level v w [] w' := by
  obtain ⟨hv, w', hc⟩ := h
  exact ⟨w', .items level v w [] [] w' hv hc .nil nofun⟩

theorem IsEmptySequence.only (h : IsEmptySequence m v w) (ha : Accepts m level v w ns w') :
    ns = [] := by
  obtain ⟨w₁, h₁⟩ := h.accepts level
  have he := ha.validates.symm.trans h₁.validates
  injection he with hs
  injection hs

/-- Only a sequence without items is accepted at both levels. -/
theorem Accepts.both {ms : List NodeId} {w'' : World} (hb : Accepts m .block v w ns w')
    (hi : Accepts m .inline v w ms w'') : IsEmptySequence m v w := by
  cases hb with
  | nothing =>
    cases hi with
    | text _ _ _ _ hv => exact absurd hv not_scalar_none
    | node _ _ _ _ hv => cases hv
    | items _ _ _ _ _ _ hv => exact absurd hv not_isSequence_none
  | node _ _ n _ hv hn =>
    cases hi with
    | text _ _ _ _ hs => exact absurd ⟨n, _, hv, hn⟩ (not_isNode_of_scalar hs)
    | node _ _ _ _ hv' hn' =>
      cases hv.symm.trans hv'
      cases hn.symm.trans hn'
    | items _ _ _ _ _ _ hs => exact absurd ⟨n, _, hv, hn⟩ hs.notNode
  | items _ _ _ _ _ _ hv hc hns hl =>
    cases hi with
    | text _ _ _ _ hs => exact absurd hs fun h => h.elim hv.notText hv.notReal
    | node _ _ n _ hn hl' => exact absurd ⟨n, _, hn, hl'⟩ hv.notNode
    | items _ _ _ _ _ _ _ hc' hns' hl' =>
      cases hc.symm.trans hc'
      -- an item would be a node of both levels
      cases hns with
      | nil => exact ⟨hv, _, hc⟩
      | @cons x n _ _ hx _ =>
        have hn := hl' n (hns'.node List.mem_cons_self hx)
        cases (hl n List.mem_cons_self).symm.trans hn

end Result

end LiveMarkdown
