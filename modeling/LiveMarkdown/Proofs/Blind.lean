import LiveMarkdown.Proofs.Accounting
import LiveMarkdown.Proofs.Quiet
import LiveMarkdown.Proofs.Rewrite

/-!
Code that does not look at how the nodes of the tree are linked. A fragment with such code comes to the
same outcome whether the outcomes of earlier fragments were applied to the tree or not.
-/

namespace LiveMarkdown

open Document (NodeId Forest)
open Script (Machine Value Run Stop World)

/-- Two forests have the same nodes, which may be linked in different ways. -/
structure SameNodes (f g : Forest) : Prop where
  size : g.size = f.size
  content : ∀ n, g.content? n = f.content? n

/-- A computation does not look at links between nodes, and leaves them as they are: it comes to the
same in every tree of the same nodes, and adds the same nodes to it. -/
def Blind {α : Type} (x : Run α) (w : World) : Prop :=
  ∃ new, (w.forest.WellFormed → (w.forest.grow new).WellFormed) ∧
    ∀ g : Forest, g.WellFormed → SameNodes w.forest g →
      match x w with
      | .ok a w' => x { w with forest := g } = .ok a { w' with forest := g.grow new }
      | .error e _ => ∃ w', x { w with forest := g } = .error e w'

/-- A computation of which only the end counts. -/
def ended {α : Type} (x : Run α) : Run Unit := do
  let _ ← x
  return ()

section

variable {α : Type} {x : Run α} {w : World}

theorem ended_apply : ended x w = match x w with
    | .ok _ w' => .ok () w'
    | .error e w' => .error e w' := by
  unfold ended
  rw [bind_apply]
  cases x w <;> rfl

/-- A computation does the same in every tree, and does nothing to it. -/
theorem Blind.of_heap (h : ∀ g : Forest, match x w with
    | .ok a w' => x { w with forest := g } = .ok a { w' with forest := g }
    | .error e _ => ∃ w', x { w with forest := g } = .error e w') : Blind x w := by
  refine ⟨#[], fun hf => by rwa [Forest.grow_empty], fun g _ _ => ?_⟩
  rw [Forest.grow_empty]
  exact h g

/-- A computation gives the same answer in all trees of one size, and adds the same nodes to them. -/
theorem Blind.of_ok (a : α) (w' : World) {new : Array Document.Node}
    (hn : w.forest.WellFormed → (w.forest.grow new).WellFormed)
    (h : ∀ g : Forest, g.size = w.forest.size →
      x { w with forest := g } = .ok a { w' with forest := g.grow new }) : Blind x w := by
  refine ⟨new, hn, fun g _ hg => ?_⟩
  have hx : x w = .ok a { w' with forest := w.forest.grow new } := h w.forest rfl
  rw [hx]
  exact h g hg.size

end

/-- Two computations come to ends that are related, or to the same stop. -/
def Agree {α β : Type} (R : α → Session → β → Session → Prop) :
    EStateM.Result Stop Session α → EStateM.Result Stop Session β → Prop
  | .ok a st, .ok b sr => R a st b sr
  | .error e _, .error e' _ => e = e'
  | _, _ => False

namespace Agree

variable {α β γ δ : Type} {R : α → Session → β → Session → Prop}
  {Q : γ → Session → δ → Session → Prop} {x : Engine α} {y : Engine β} {f : α → Engine γ}
  {g : β → Engine δ} {st sr : Session}

theorem bind (h : Agree R (x st) (y sr))
    (hf : ∀ a st₁ b sr₁, x st = .ok a st₁ → R a st₁ b sr₁ → Agree Q (f a st₁) (g b sr₁)) :
    Agree Q ((x >>= f) st) ((y >>= g) sr) := by
  rw [bind_apply, bind_apply]
  cases hx : x st with
  | ok a st₁ =>
    cases hy : y sr with
    | ok b sr₁ =>
      rw [hx, hy] at h
      exact hf a st₁ b sr₁ hx h
    | error e sr₁ =>
      rw [hx, hy] at h
      exact h.elim
  | error e st₁ =>
    cases hy : y sr with
    | ok b sr₁ =>
      rw [hx, hy] at h
      exact h.elim
    | error e' sr₁ =>
      rw [hx, hy] at h
      exact h

/-- One of two computations goes on. -/
theorem bind_left {r : EStateM.Result Stop Session β} {Q : γ → Session → β → Session → Prop}
    (h : Agree R (x st) r)
    (hf : ∀ a st₁ b sr₁, x st = .ok a st₁ → R a st₁ b sr₁ → Agree Q (f a st₁) (.ok b sr₁)) :
    Agree Q ((x >>= f) st) r := by
  rw [bind_apply]
  cases hx : x st <;> cases r <;> rw [hx] at h
  · exact hf _ _ _ _ hx h
  · exact h.elim
  · exact h.elim
  · exact h

theorem mono {R' : α → Session → β → Session → Prop} {r : EStateM.Result Stop Session α}
    {r' : EStateM.Result Stop Session β} (h : Agree R r r')
    (hr : ∀ a st b sr, r = .ok a st → R a st b sr → R' a st b sr) : Agree R' r r' := by
  cases r <;> cases r'
  · exact hr _ _ _ _ rfl h
  · exact h.elim
  · exact h.elim
  · exact h

end Agree

/-- One session beside another: the trees differ by outcomes that were applied to one of them only, and
apart from them the worlds are the same. -/
structure Beside (f₀ : Forest) (done : List (Fragment × Outcome)) (st sr : Session) : Prop where
  evolved : Evolved f₀ done sr.world.forest st.world.forest
  old : ∀ r ∈ done, r.1.node < f₀.size
  world : sr.world = { st.world with forest := sr.world.forest }
  cursor : sr.cursor = st.cursor

namespace Beside

variable {α : Type} {f₀ : Forest} {done : List (Fragment × Outcome)} {st sr : Session} {x : Run α}

theorem sameNodes (h : Beside f₀ done st sr) : SameNodes st.world.forest sr.world.forest where
  size := h.evolved.rewritten.size.symm
  content n := (h.evolved.rewritten.content n).symm

/-- Steps other than those of code do not matter. -/
theorem of_eq {st' sr' : Session} (h : Beside f₀ done st sr) (hw : st'.world = st.world)
    (hw' : sr'.world = sr.world) (hc : st'.cursor = sr'.cursor) : Beside f₀ done st' sr' := by
  refine ⟨?_, h.old, ?_, hc.symm⟩
  · rw [hw, hw']
    exact h.evolved
  · rw [hw, hw']
    exact h.world

theorem grow (h : Beside f₀ done st sr) {new : Array Document.Node}
    (hn : (st.world.forest.grow new).WellFormed) :
    Evolved f₀ done (sr.world.forest.grow new) (st.world.forest.grow new) := by
  obtain ⟨more, hm⟩ := h.evolved.grown
  refine ⟨⟨more ++ new, by rw [hm, Forest.grow_grow]⟩, ?_, ?_⟩
  · exact h.evolved.rewritten.wellFormed.grow hn h.evolved.wellFormed h.sameNodes.size
  · refine h.evolved.rewritten.grow (fun r hr => ?_) hn
    rw [hm, Forest.size_grow]
    exact Nat.lt_of_lt_of_le (h.old r hr) (Nat.le_add_right ..)

/-- Blind code keeps sessions side by side. -/
theorem lift (h : Beside f₀ done st sr) (hx : Blind x st.world) :
    Agree (fun a st' b sr' => a = b ∧ Beside f₀ done st' sr') (Engine.lift x st)
      (Engine.lift x sr) := by
  obtain ⟨new, hn, hx⟩ := hx
  have hf := h.evolved.rewritten.wellFormed
  have hself := hx _ hf ⟨rfl, fun _ => rfl⟩
  have hother := hx _ h.evolved.wellFormed h.sameNodes
  rw [← h.world] at hother
  unfold Engine.lift
  cases hr : x st.world with
  | error e w' =>
    simp only [hr] at hother
    obtain ⟨w', ho⟩ := hother
    rw [ho]
    exact rfl
  | ok a w' =>
    simp only [hr] at hself hother
    rw [hother]
    have hw : w' = { w' with forest := st.world.forest.grow new } := by
      injection hself
    refine ⟨rfl, ?_, h.old, ?_, h.cursor⟩
    · rw [hw]
      exact h.grow (hn hf)
    · rw [hw]

/-- Code that is blind but for what it says keeps sessions side by side. -/
theorem lift_ended (h : Beside f₀ done st sr) (hx : Blind (ended x) st.world) :
    Agree (fun _ st' _ sr' => Beside f₀ done st' sr') (Engine.lift x st) (Engine.lift x sr) := by
  have ha := h.lift hx
  have hend (s : Session) : Engine.lift (ended x) s = (do
      let _ ← Engine.lift x
      return ()) s := by
    rw [bind_apply]
    unfold Engine.lift
    rw [ended_apply]
    cases x s.world <;> rfl
  rw [hend, hend, bind_apply, bind_apply] at ha
  cases hr : Engine.lift x st <;> cases hr' : Engine.lift x sr <;> rw [hr, hr'] at ha
  · exact ha.2
  · exact ha.elim
  · exact ha.elim
  · exact ha

end Beside

/-- A fragment whose position is not known yet. -/
def Fragment.unplaced (f : Fragment) : Fragment := { f with position := .unknown }

namespace Fragment

@[simp] theorem unplaced_node (f : Fragment) : f.unplaced.node = f.node := rfl

@[simp] theorem unplaced_level (f : Fragment) : f.unplaced.level = f.level := rfl

@[simp] theorem unplaced_text (f : Fragment) : f.unplaced.text = f.text := rfl

end Fragment

/-- Two outcomes are the same, apart from the words of a warning. -/
inductive Outcome.Alike : Outcome → Outcome → Prop where
  | same (o : Outcome) : Alike o o
  | worded (w : Failure) (detail : String) :
      Alike (.unchanged (some w)) (.unchanged (some { w with detail }))

/-- A node of the first forest to which nothing has happened. -/
structure Standing (f₀ : Forest) (done : List (Fragment × Outcome)) (n : NodeId) : Prop where
  parent : ∃ p, f₀.parent? n = some p
  untouched : ∀ a, f₀.Over a n → Untouched done a

namespace Standing

variable {f₀ : Forest} {done : List (Fragment × Outcome)} {st sr : Session} {n p : NodeId}

theorem inside (h : Standing f₀ done n) : n < f₀.size := by
  obtain ⟨p, hp⟩ := h.parent
  exact Forest.lt_size_of_parent? hp

theorem parent_edited (h : Standing f₀ done n) (hb : Beside f₀ done st sr) :
    st.world.forest.parent? n = f₀.parent? n :=
  hb.evolved.parent? h.inside (h.untouched n (.refl n))

theorem parent_kept (h : Standing f₀ done n) (hb : Beside f₀ done st sr) :
    sr.world.forest.parent? n = f₀.parent? n := by
  obtain ⟨new, hn⟩ := hb.evolved.grown
  rw [hn, Forest.parent?_grow h.inside]

end Standing

theorem Executor.encloses_iff {f : Forest} (hf : f.WellFormed) {nodes : List NodeId} {n : NodeId} :
    encloses f nodes n = true ↔ ∃ m ∈ nodes, f.Above m n := by
  unfold encloses
  rw [List.any_eq_true]
  simp only [List.contains_iff_mem, Forest.mem_ancestors hf]

theorem Standing.encloses_eq {f₀ : Forest} {done : List (Fragment × Outcome)} {st sr : Session}
    {n : NodeId} (h : Standing f₀ done n) (hf : f₀.WellFormed) (hb : Beside f₀ done st sr)
    (nodes : List NodeId) : Executor.encloses sr.world.forest nodes n =
      Executor.encloses st.world.forest nodes n := by
  rw [Bool.eq_iff_iff, Executor.encloses_iff hb.evolved.wellFormed,
    Executor.encloses_iff hb.evolved.rewritten.wellFormed]
  have ha (m : NodeId) : sr.world.forest.Above m n ↔ st.world.forest.Above m n := by
    rw [hb.evolved.above_iff hf h.inside h.untouched]
    obtain ⟨new, hn⟩ := hb.evolved.grown
    rw [hn, Forest.above_grow hf h.inside]
  simp only [ha]

namespace Result

variable {m : Machine} {v : Value} {level : Level} {w w' : World} {ns : List NodeId}

theorem nodesAt?_level {f : Forest} {vs : List Value} (h : nodesAt? f level vs = some ns) :
    ∀ n ∈ ns, f.level? n = some level := by
  induction vs generalizing ns with
  | nil =>
    cases h
    exact nofun
  | cons v vs ih =>
    unfold nodesAt? at h
    split at h
    · split at h
      · obtain ⟨ms, hm, rfl⟩ := Option.map_eq_some_iff.mp h
        intro n hn
        obtain rfl | hn := List.mem_cons.mp hn
        · assumption
        · exact ih hm n hn
      · cases h
    · cases h

/-- What a value stands for are nodes of the level for which it was accepted. -/
theorem validate_level (h : validate m v level w = .ok (some ns) w') :
    ∀ n ∈ ns, w'.forest.level? n = some level := by
  obtain ⟨shape, w₁, -, h⟩ := bind_eq_ok.mp h
  cases shape with
  | nil =>
    cases level with
    | inline => cases h
    | block =>
      cases h
      exact nofun
  | scalar s =>
    cases level with
    | inline =>
      obtain ⟨t, w₂, -, h⟩ := bind_eq_ok.mp h
      obtain ⟨k, w₃, hk, h⟩ := bind_eq_ok.mp h
      rw [Script.Element.newText, Script.Element.newNode_apply] at hk
      cases hk
      cases h
      intro n hn
      obtain rfl := List.mem_singleton.mp hn
      unfold Forest.level?
      rw [Forest.content?_alloc]
    | block => cases h
  | single n =>
    obtain ⟨f, w₂, hf, h⟩ := bind_eq_ok.mp h
    cases hf
    by_cases hl : w₁.forest.level? n = some level
    · rw [if_pos hl] at h
      cases h
      intro k hk
      rwa [List.mem_singleton.mp hk]
    · rw [if_neg hl] at h
      cases h
  | items vs =>
    obtain ⟨parts, w₂, -, h⟩ := bind_eq_ok.mp h
    obtain ⟨f, w₃, hf, h⟩ := bind_eq_ok.mp h
    cases hf
    rw [pure_apply] at h
    injection h with ha hw
    rw [← hw]
    exact nodesAt?_level ha
  | unrecognised => cases h

end Result

namespace Executor

/-- What the code of a fragment returned can be looked through and shown without a look at the links of
the tree, and the nodes it stands for are distinct and stand nowhere. -/
structure Presentable (s : Settings) (f : Fragment) (v : Value) (w : World) : Prop where
  validated : Blind (Result.validate s.machine v f.level) w
  apart : ∀ ns w', Result.validate s.machine v f.level w = .ok (some ns) w' →
    ns.Nodup ∧ ∀ n ∈ ns, w'.forest.parent? n = none
  /-- A value that is refused is shown. -/
  shown : ∀ r w', Result.validate s.machine v f.level w = .ok r w' →
    (∀ ns, r = some ns → encloses w'.forest ns f.node = true) →
      Blind (ended (Exception.safeShown s.machine v)) w'

/-- The code of a fragment does not look at the links of the tree and leaves them alone, and it returns
no node that stands somewhere. -/
structure Tidy (s : Settings) (f : Fragment) (w : World) : Prop where
  evaluated : ∀ code, reading s f = .ok code → Blind (evaluate s code) w
  described : ∀ code e w', reading s f = .ok code → evaluate s code w = .ok (.error e) w' →
    Blind (ended (Exception.describe s.machine e)) w'
  returned : ∀ code v w', reading s f = .ok code → evaluate s code w = .ok (.ok v) w' →
    Presentable s f v w'

variable {s : Settings} {f₀ : Forest} {done : List (Fragment × Outcome)} {f g : Fragment}
  {st sr : Session}

/-- The position of a fragment does not matter to its code. -/
theorem Tidy.of_unplaced {w : World} (h : Tidy s f w) (hg : f.unplaced = g.unplaced) :
    Tidy s g w := by
  have hn : f.node = g.node := by
    rw [← f.unplaced_node, hg, g.unplaced_node]
  have hl : f.level = g.level := by
    rw [← f.unplaced_level, hg, g.unplaced_level]
  have ht : f.text = g.text := by
    rw [← f.unplaced_text, hg, g.unplaced_text]
  have hr : reading s f = reading s g := by
    unfold reading
    rw [hl, ht]
  obtain ⟨he, hd, hv⟩ := h
  rw [hr] at he hd hv
  refine ⟨he, hd, fun code v w' hc hw => ?_⟩
  obtain ⟨hb, ha, hs⟩ := hv code v w' hc hw
  rw [hl] at hb ha hs
  rw [hn] at hs
  exact ⟨hb, ha, hs⟩

theorem exceptionOf_blind (fault : Fault) (w : World) : Blind (exceptionOf fault) w := by
  refine .of_heap fun g => ?_
  unfold exceptionOf
  cases fault.cause <;> rfl

/-- The nodes of an outcome can be put into the place of a node. -/
structure Fits (n : NodeId) (o : Outcome) (st : Session) : Prop where
  nodup : o.inserted.Nodup
  loose : ∀ m ∈ o.inserted, st.world.forest.Loose n m

theorem Fits.of_inserted {n : NodeId} {o : Outcome} (h : o.inserted = []) : Fits n o st := by
  refine ⟨?_, ?_⟩ <;> simp [h]

/-- What a fragment comes to, in two sessions side by side. -/
structure Attempted (f₀ : Forest) (done : List (Fragment × Outcome)) (n : NodeId) (o : Outcome)
    (st : Session) (o' : Outcome) (sr : Session) : Prop where
  alike : Outcome.Alike o o'
  beside : Beside f₀ done st sr
  fits : Fits n o st

theorem fail_agrees (h : Beside f₀ done st sr) (kind : FailureKind) (detail detail' : String)
    (cause : Option Value) : Agree (Attempted f₀ done f.node) (fail s (failure s f kind detail cause) st)
      (fail s (failure s f kind detail' cause) sr) :=
  ⟨.worded _ _, h.of_eq rfl rfl h.cursor.symm, .of_inserted rfl⟩

theorem refuse_agrees (h : Beside f₀ done st sr) {v : Value} (expectation : String)
    (hv : Blind (ended (Exception.safeShown s.machine v)) st.world) :
    Agree (Attempted f₀ done f.node) (refuse s f v expectation st) (refuse s f v expectation sr) :=
  (h.lift_ended hv).bind fun _ _ _ _ _ hb => fail_agrees hb _ _ _ _

theorem placed_agrees (hf : f₀.WellFormed) (h : Beside f₀ done st sr)
    (hs : Standing f₀ done f.node) {v : Value} {nodes : List NodeId}
    (hd : nodes.Nodup) (hn : ∀ n ∈ nodes, st.world.forest.parent? n = none ∧
      st.world.forest.level? n = some f.level)
    (hv : encloses st.world.forest nodes f.node = true →
      Blind (ended (Exception.safeShown s.machine v)) st.world) :
    Agree (Attempted f₀ done f.node) (placed s f v nodes st) (placed s f v nodes sr) := by
  obtain ⟨p, hp⟩ := hs.parent
  unfold placed
  rw [bind_of_ok Engine.forest_apply, bind_of_ok Engine.forest_apply, hs.parent_edited h,
    hs.parent_kept h, hs.encloses_eq hf h, hp]
  cases he : encloses st.world.forest nodes f.node with
  | true => exact refuse_agrees h _ (hv he)
  | false =>
    refine ⟨.same _, h, hd, fun m hm => ?_⟩
    change m ∈ nodes at hm
    obtain ⟨hno, hl⟩ := hn m hm
    obtain ⟨hin, hroot⟩ := Forest.of_level? hl
    have hc := h.evolved.rewritten.wellFormed
    have hpos : st.world.forest.parent? f.node = some p := by
      rw [hs.parent_edited h, hp]
    refine ⟨hin, hroot, hno, fun ho => ?_⟩
    obtain rfl | ha := ho.eq_or_above
    · rw [hno] at hpos
      cases hpos
    · rw [(encloses_iff hc).mpr ⟨m, hm, ha⟩] at he
      cases he

theorem outcomeOf_agrees (hf : f₀.WellFormed) (h : Beside f₀ done st sr)
    (hs : Standing f₀ done f.node) {v : Value} (hv : Presentable s f v st.world) :
    Agree (Attempted f₀ done f.node) (outcomeOf s f v st) (outcomeOf s f v sr) := by
  refine (h.lift hv.validated).bind fun r st₁ r' sr₁ hr ⟨he, hb⟩ => ?_
  obtain ⟨w, hw, rfl⟩ := Engine.lift_eq_ok.mp hr
  subst he
  rcases r with _ | _ | ⟨n, ns⟩
  · exact refuse_agrees hb _ (hv.shown _ _ hw nofun)
  · exact ⟨.same _, hb, .of_inserted rfl⟩
  · obtain ⟨hd, hn⟩ := hv.apart _ _ hw
    refine placed_agrees hf hb hs hd (fun k hk => ⟨hn k hk, Result.validate_level hw k hk⟩) ?_
    intro he
    refine hv.shown _ _ hw fun ns' hns => ?_
    cases hns
    exact he

theorem invoke_agrees {code : Compiled s.evaluator} (h : Beside f₀ done st sr)
    (hc : Blind (evaluate s code) st.world) :
    Agree (fun r st' r' sr' => (r = r' ∧ Beside f₀ done st' sr') ∧
        evaluate s code st.world = .ok r st'.world)
      (invoke s code st) (invoke s code sr) := by
  unfold invoke
  rw [bind_of_ok (Engine.note_apply _), bind_of_ok (Engine.note_apply _)]
  have hn : Beside f₀ done { st with journal := st.journal ++ [.invoked code.mode code.text] }
      { sr with journal := sr.journal ++ [.invoked code.mode code.text] } := h.of_eq rfl rfl h.cursor.symm
  refine (hn.lift hc).mono fun r st' r' sr' hr hb => ⟨hb, ?_⟩
  obtain ⟨w, hw, rfl⟩ := Engine.lift_eq_ok.mp hr
  exact hw

theorem runCode_agrees (hf : f₀.WellFormed) (h : Beside f₀ done st sr)
    (hs : Standing f₀ done f.node) {code : Compiled s.evaluator} (hr : reading s f = .ok code)
    (ht : Tidy s f st.world) :
    Agree (Attempted f₀ done f.node) (runCode s f code st) (runCode s f code sr) := by
  refine (invoke_agrees h (ht.evaluated code hr)).bind fun r st₁ r' sr₁ _ ⟨⟨he, hb⟩, hw⟩ => ?_
  subst he
  cases r with
  | error e =>
    exact (hb.lift_ended (ht.described code e _ hr hw)).bind fun _ _ _ _ _ hb =>
      fail_agrees hb _ _ _ _
  | ok v => exact outcomeOf_agrees hf hb hs (ht.returned code v _ hr hw)

theorem compiled_world : (compiled s f st).world = st.world := by
  unfold compiled
  split
  · rfl
  · split <;> rfl

theorem compiled_cursor : (compiled s f st).cursor = st.cursor := by
  unfold compiled
  split
  · rfl
  · split <;> rfl

theorem attempt_agrees (hf : f₀.WellFormed) (h : Beside f₀ done st sr)
    (hs : Standing f₀ done f.node) (ht : Tidy s f st.world) :
    Agree (Attempted f₀ done f.node) (attempt s f st) (attempt s f sr) := by
  have hb : Beside f₀ done (compiled s f st) (compiled s f sr) :=
    h.of_eq compiled_world compiled_world (by rw [compiled_cursor, compiled_cursor, h.cursor])
  unfold attempt
  rw [bind_of_ok compile_apply, bind_of_ok compile_apply]
  cases hr : reading s f with
  | error fault =>
    refine (hb.lift (exceptionOf_blind fault _)).bind fun e st₁ e' sr₁ _ ⟨he, hb⟩ => ?_
    subst he
    exact fail_agrees hb _ _ _ _
  | ok code =>
    refine runCode_agrees hf hb hs hr ?_
    rwa [compiled_world]

/-- What the code of a fragment comes to in one session, it comes to in another one beside it. -/
theorem execute_agrees (hf : f₀.WellFormed) (h : Beside f₀ done st sr)
    (hs : Standing f₀ done f.node) (ht : f.executes = true → Tidy s f st.world) :
    Agree (fun r st' r' sr' => r.1 = r'.1 ∧ r.1.unplaced = f.unplaced ∧
        Attempted f₀ done f.node r.2 st' r'.2 sr')
      (execute s f st) (execute s f sr) := by
  cases hx : f.executes with
  | false =>
    rw [execute_off hx, execute_off hx]
    refine ⟨rfl, rfl, .same _, h, .of_inserted ?_⟩
    unfold withheld
    split <;> rfl
  | true =>
    have hl : Beside f₀ done (located s f.text f.level st) (located s f.text f.level sr) := by
      refine h.of_eq rfl rfl ?_
      unfold located
      rw [h.cursor]
    have hp : placedAt s f sr = placedAt s f st := by
      unfold placedAt
      rw [h.cursor]
    have hg : f.unplaced = (placedAt s f st).unplaced := rfl
    rw [execute_on hx, execute_on hx, hp]
    generalize placedAt s f st = g at hg
    have hn : f.node = g.node := by
      rw [← f.unplaced_node, hg, g.unplaced_node]
    rw [hn] at hs ⊢
    exact (attempt_agrees hf hl hs ((ht hx).of_unplaced hg)).bind fun o st₁ o' sr₁ _ ha =>
      ⟨rfl, hg.symm, ha⟩

end Executor

end LiveMarkdown
