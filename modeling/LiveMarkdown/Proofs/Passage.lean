import LiveMarkdown.Proofs.Application
import LiveMarkdown.Proofs.Refinement

/-!
How a walk passes through a tree that is edited meanwhile. The walk compares a node with the parent
under which it was listed, and looks no further up. Where the code of the fragments keeps the places of
what stands above them and of what was visited, the walk stays below its root, and what it passes stays
behind it.
-/

namespace LiveMarkdown

open Document (NodeId Forest)
open Script (Machine Value Run Stop World)

namespace Executor

variable {s : Settings} {f : Fragment} {nodes : List NodeId} {t t' : Forest} {w : World}

/-- What is put into the place of a fragment stands below just those nodes below which the fragment
stood. -/
theorem Accepted.above_iff (h : Accepted f nodes t) (ht : t.WellFormed)
    (ha : Applied f.node (.substituted nodes) t t') (a : NodeId) :
    ∀ m ∈ nodes, t'.Above a m ↔ t.Above a f.node := by
  intro m hm
  obtain ⟨p, hp, hn⟩ := ha.once nodes rfl
  have hc : m ∈ t'.children p := by
    rw [← List.count_pos_iff, hn m hm]
    exact Nat.one_pos
  have hmp := (ha.wellFormed.mem_children p m).mp hc
  have hk : ∀ b, t.Over b p → t'.parent? b = t.parent? b := by
    intro b hb
    have hbn := Forest.above_of_over_parent hb hp
    exact ha.elsewhere b (fun he => ht.acyclic f.node (he ▸ hbn)) fun hi =>
      (h.insertable ht b hi).2.2 hbn
  have ho := Forest.over_congr (a := a) hk
  exact ⟨fun hm => Forest.above_of_over_parent (ho.mp (hm.over_parent hmp)) hp,
    fun hf => Forest.above_of_over_parent (ho.mpr (hf.over_parent hp)) hmp⟩

/-- Careful code of a node that is visited leaves a well-formed forest, and nodes that are accepted. -/
theorem process_accepts {n : NodeId} {o : Outcome} {st st₁ : Session}
    (ht : st.world.forest.WellFormed)
    (hc : ∀ x, Fragment.ofNode? st.world.forest s.markers n = some x → x.executes = true →
      Careful s x st.world) (h : process s n st = .ok (some (f, o)) st₁) :
    st₁.world.forest.WellFormed ∧
      ∀ nodes, o = .substituted nodes → Accepted f nodes st₁.world.forest := by
  rw [process_apply] at h
  cases hx : Fragment.ofNode? st.world.forest s.markers n with
  | none =>
    rw [hx] at h
    cases h
  | some x =>
    rw [hx] at h
    obtain ⟨⟨g, o'⟩, he, hg⟩ := map_eq_ok.mp h
    cases hg
    have hl : (lookedAt n st).world.forest.WellFormed := ht
    exact ⟨execute_wellFormed hl (hc x hx) he, execute_accepts he⟩

end Executor

namespace Session

/-- The nodes that were visited, each with the tree as it was then. -/
def visits (st : Session) : List (NodeId × Forest) := st.journal.filterMap Step.visited?

/-- The nodes that were visited, in order. -/
def visited (st : Session) : List NodeId := st.visits.map Prod.fst

end Session

/-- Between two forests the nodes from a root down to a node keep their parents, and each of the given
nodes keeps its parent or is taken out. -/
structure KeepsPlaces (root n : NodeId) (seen : List NodeId) (t t' : Forest) : Prop where
  above : ∀ a, t.Above root a → t.Above a n → t'.parent? a = t.parent? a
  seen : ∀ m ∈ seen, t'.parent? m = none ∨ t'.parent? m = t.parent? m

/-- A parent that was kept was there before. -/
theorem parent_of_kept {t t' : Forest} {n p : NodeId}
    (h : t'.parent? n = none ∨ t'.parent? n = t.parent? n) (hp : t'.parent? n = some p) :
    t.parent? n = some p := by
  obtain h | h := h
  · rw [h] at hp
    cases hp
  · rw [← h, hp]

theorem KeepsPlaces.refl (root n : NodeId) (seen : List NodeId) (t : Forest) :
    KeepsPlaces root n seen t t := ⟨fun _ _ _ => rfl, fun _ _ => .inr rfl⟩

/-- A node that is taken out does not move the others. -/
theorem KeepsPlaces.extract (root n : NodeId) (seen : List NodeId) {t : Forest}
    (ht : t.WellFormed) : KeepsPlaces root n seen t (t.extract n) := by
  refine ⟨fun a _ ha => ?_, fun m _ => ?_⟩
  · have hne : a ≠ n := by
      rintro rfl
      exact ht.acyclic a ha
    rw [Forest.parent?_extract, if_neg hne]
  · rw [Forest.parent?_extract]
    split
    · exact .inl rfl
    · exact .inr rfl

namespace Walk

variable {s : Settings} {fuel : Nat} {root parent n : NodeId} {ns new more : List NodeId}
  {p q : Point} {r : Option (Fragment × Outcome)} {rs : List (Fragment × Outcome)}
  {st st' st₁ st₂ : Session}

/-- The walk turns to a node next, which still stands where it did. -/
def Point.At (q : Point) (n : NodeId) : Prop :=
  (∃ ns, q.left = n :: ns) ∧ q.session.world.forest.parent? n = some q.parent

/-- The code of the fragment at which a walk stands, if it stands at one, is careful. -/
def Point.Careful (s : Settings) (q : Point) : Prop :=
  ∀ n f, q.At n → q.session.world.forest.WellFormed →
    Fragment.ofNode? q.session.world.forest s.markers n = some f → f.executes = true →
      Executor.Careful s f q.session.world

/-- The fragment at which a walk stands, if it stands at one, leaves the nodes above it in their
places, and does not move itself or what was visited, unless out of the tree. -/
def Point.KeepsPlaces (s : Settings) (root : NodeId) (q : Point) : Prop :=
  ∀ n r st', q.At n → visit s n q.session = .ok (some r) st' →
    LiveMarkdown.KeepsPlaces root n (n :: q.session.visited) q.session.world.forest st'.world.forest

theorem visits_of_visit (h : visit s n st = .ok r st') :
    st'.visits = st.visits ++ [(n, st.world.forest)] := by
  obtain ⟨steps, hj, hs⟩ := (visit_accounts h).1.visited
  unfold Session.visits
  rw [hj, List.filterMap_append, hs]

theorem visited_of_visit (h : visit s n st = .ok r st') : st'.visited = st.visited ++ [n] := by
  unfold Session.visited
  rw [visits_of_visit h, List.map_append]
  rfl

theorem mem_visited (h : visit s n st = .ok r st') {m : NodeId} :
    m ∈ st'.visited ↔ m ∈ st.visited ∨ m = n := by
  rw [visited_of_visit h, List.mem_append, List.mem_singleton]

/-- A node that is no fragment is only looked at. -/
theorem visit_passes (h : visit s n st = .ok none st') : st'.world = st.world := by
  cases hf : Fragment.ofNode? st.world.forest s.markers n with
  | none =>
    rw [visit_none hf] at h
    cases h
    rfl
  | some f =>
    rw [visit_fragment hf] at h
    obtain ⟨r, st₁, -, h⟩ := bind_eq_ok.mp h
    obtain ⟨o, st₂, -, h⟩ := bind_eq_ok.mp h
    cases h

/-- The visit of a node that is no fragment keeps all places. -/
theorem keepsPlaces_of_passes (root : NodeId) (seen : List NodeId)
    (hv : visit s n st = .ok none st₁) :
    KeepsPlaces root n seen st.world.forest st₁.world.forest := by
  rw [visit_passes hv]
  exact .refl ..

theorem visit_wellFormed (ht : st.world.forest.WellFormed)
    (hc : ∀ f, Fragment.ofNode? st.world.forest s.markers n = some f → f.executes = true →
      Executor.Careful s f st.world) (h : visit s n st = .ok r st') :
    st'.world.forest.WellFormed := by
  obtain ⟨hp, rfl⟩ | ⟨f, o, o', st₁, hp, ha, rfl⟩ := visit_eq_ok.mp h
  · rwa [visit_passes h]
  · obtain ⟨ht₁, ho⟩ := Executor.process_accepts ht hc hp
    obtain ⟨t, hap, hw⟩ := Executor.apply_accepted ht₁ ho
    rw [ha] at hap
    cases hap
    exact hw.wellFormed

/-! ### Walks that end -/

/-- A walk that stands at a point goes to its end. -/
inductive Completes (s : Settings) : Point → List (Fragment × Outcome) → Session → Prop where
  | nil {fuel : Nat} {parent : NodeId} {st : Session} : Completes s ⟨fuel, parent, [], st⟩ [] st
  | moved {fuel : Nat} {parent n : NodeId} {ns : List NodeId} {st st' : Session}
      {rs : List (Fragment × Outcome)} (hp : st.world.forest.parent? n ≠ some parent)
      (h : Completes s ⟨fuel, parent, ns, st⟩ rs st') :
      Completes s ⟨fuel, parent, n :: ns, st⟩ rs st'
  | visited {fuel : Nat} {parent n : NodeId} {ns : List NodeId} {st st₁ st' : Session}
      {r : Fragment × Outcome} {rs : List (Fragment × Outcome)}
      (hp : st.world.forest.parent? n = some parent) (hv : visit s n st = .ok (some r) st₁)
      (h : Completes s ⟨fuel, parent, ns, st₁⟩ rs st') :
      Completes s ⟨fuel, parent, n :: ns, st⟩ (r :: rs) st'
  | plain {fuel : Nat} {parent n : NodeId} {ns : List NodeId} {st st₁ st' : Session}
      {rs : List (Fragment × Outcome)} (hp : st.world.forest.parent? n = some parent)
      (hv : visit s n st = .ok none st₁) (ht : st₁.world.forest.isTag n = false)
      (h : Completes s ⟨fuel, parent, ns, st₁⟩ rs st') :
      Completes s ⟨fuel, parent, n :: ns, st⟩ rs st'
  | entered {fuel : Nat} {parent n : NodeId} {ns : List NodeId} {st st₁ st₂ st' : Session}
      {within rs : List (Fragment × Outcome)} (hp : st.world.forest.parent? n = some parent)
      (hv : visit s n st = .ok none st₁) (ht : st₁.world.forest.isTag n = true)
      (hw : Completes s ⟨fuel, n, st₁.world.forest.children n, st₁⟩ within st₂)
      (h : Completes s ⟨fuel + 1, parent, ns, st₂⟩ rs st') :
      Completes s ⟨fuel + 1, parent, n :: ns, st⟩ (within ++ rs) st'

theorem completes_of_resume (h : resume s p p.session = .ok rs st') : Completes s p rs st' := by
  obtain ⟨fuel, parent, ns, st⟩ := p
  unfold resume at h
  dsimp only at h
  induction fuel using Nat.strongRecOn generalizing parent ns st rs st' with
  | ind fuel ih =>
    induction ns generalizing st rs with
    | nil =>
      rw [siblings_nil] at h
      cases h
      exact .nil
    | cons n ns ihs =>
      by_cases hp : st.world.forest.parent? n = some parent
      · cases hv : visit s n st with
        | error e st₁ =>
          rw [siblings_failed hp hv] at h
          cases h
        | ok r st₁ =>
          cases r with
          | some r =>
            rw [siblings_first hp hv] at h
            obtain ⟨rest, st₂, hm, h⟩ := bind_eq_ok.mp h
            cases h
            exact .visited hp hv (ihs _ hm)
          | none =>
            cases ht : st₁.world.forest.isTag n with
            | false =>
              rw [siblings_plain hp hv ht] at h
              exact .plain hp hv ht (ihs _ h)
            | true =>
              rw [siblings_below hp hv ht] at h
              obtain ⟨within, st₂, hw, h⟩ := bind_eq_ok.mp h
              obtain ⟨rest, st₃, hm, h⟩ := bind_eq_ok.mp h
              cases h
              cases fuel with
              | zero => cases hw
              | succ fuel =>
                exact .entered hp hv ht (ih fuel (Nat.lt_succ_self _) _ _ _ hw) (ihs _ hm)
      · rw [siblings_moved hp] at h
        exact .moved hp (ihs _ h)

theorem resume_of_completes (h : Completes s p rs st') : resume s p p.session = .ok rs st' := by
  induction h with
  | nil => rfl
  | moved hp _ ih =>
    unfold resume at ih ⊢
    rw [siblings_moved hp]
    exact ih
  | visited hp hv _ ih =>
    unfold resume at ih ⊢
    rw [siblings_first hp hv]
    exact bind_eq_ok.mpr ⟨_, _, ih, rfl⟩
  | plain hp hv ht _ ih =>
    unfold resume at ih ⊢
    rw [siblings_plain hp hv ht]
    exact ih
  | entered hp hv ht _ _ ihw ih =>
    unfold resume at ihw ih ⊢
    rw [siblings_below hp hv ht]
    exact bind_eq_ok.mpr ⟨_, _, ihw, bind_eq_ok.mpr ⟨_, _, ih, rfl⟩⟩

/-- A walk below a node is one that stands at its first child. -/
theorem children_eq_ok : children s fuel n [] st = .ok rs st' ↔
    ∃ i, fuel = i + 1 ∧ Completes s ⟨i, n, st.world.forest.children n, st⟩ rs st' := by
  constructor
  · intro h
    cases fuel with
    | zero => cases h
    | succ i => exact ⟨i, rfl, completes_of_resume h⟩
  · rintro ⟨i, rfl, h⟩
    exact resume_of_completes h

/-- What a walk records is recorded at the points that it comes to. -/
theorem Completes.exists_visit (h : Completes s p rs st') {r : Fragment × Outcome} (hr : r ∈ rs) :
    ∃ q n st₁, Reaches s p q ∧ q.At n ∧ visit s n q.session = .ok (some r) st₁ := by
  induction h with
  | nil => cases hr
  | moved hp _ ih =>
    obtain ⟨q, n, st₁, hq, h⟩ := ih hr
    exact ⟨q, n, st₁, .moved hp hq, h⟩
  | visited hp hv _ ih =>
    obtain rfl | hr := List.mem_cons.mp hr
    · exact ⟨_, _, _, .refl _, ⟨⟨_, rfl⟩, hp⟩, hv⟩
    · obtain ⟨q, n, st₁, hq, h⟩ := ih hr
      exact ⟨q, n, st₁, .visited hp hv hq, h⟩
  | plain hp hv ht _ ih =>
    obtain ⟨q, n, st₁, hq, h⟩ := ih hr
    exact ⟨q, n, st₁, .plain hp hv ht hq, h⟩
  | entered hp hv ht hw _ ihw ih =>
    obtain hr | hr := List.mem_append.mp hr
    · obtain ⟨q, n, st₁, hq, h⟩ := ihw hr
      exact ⟨q, n, st₁, .entered hp hv ht hq, h⟩
    · obtain ⟨q, n, st₁, hq, h⟩ := ih hr
      exact ⟨q, n, st₁, .left hp hv ht (children_eq_ok.mpr ⟨_, rfl, hw⟩) hq, h⟩

/-! ### What walks keep -/

/-- What is kept of the points that a walk comes to, and what holds between the sessions before and
after a walk below a node, as long as there is a condition on the points. -/
structure Invariant (s : Settings) (C I : Point → Prop) (T : NodeId → Session → Session → Prop) :
    Prop where
  refl : ∀ {p}, I p → T p.parent p.session p.session
  trans : ∀ {parent st st₁ st₂}, T parent st st₁ → T parent st₁ st₂ → T parent st st₂
  moved : ∀ {fuel parent n ns st}, I ⟨fuel, parent, n :: ns, st⟩ → I ⟨fuel, parent, ns, st⟩
  visited : ∀ {fuel parent n ns st st₁ r}, C ⟨fuel, parent, n :: ns, st⟩ →
    I ⟨fuel, parent, n :: ns, st⟩ → st.world.forest.parent? n = some parent →
      visit s n st = .ok (some r) st₁ → T parent st st₁ ∧ I ⟨fuel, parent, ns, st₁⟩
  plain : ∀ {fuel parent n ns st st₁}, C ⟨fuel, parent, n :: ns, st⟩ →
    I ⟨fuel, parent, n :: ns, st⟩ → st.world.forest.parent? n = some parent →
      visit s n st = .ok none st₁ → T parent st st₁ ∧ I ⟨fuel, parent, ns, st₁⟩
  entered : ∀ {fuel parent n ns st st₁}, C ⟨fuel + 1, parent, n :: ns, st⟩ →
    I ⟨fuel + 1, parent, n :: ns, st⟩ → st.world.forest.parent? n = some parent →
      visit s n st = .ok none st₁ → I ⟨fuel, n, st₁.world.forest.children n, st₁⟩
  left : ∀ {fuel parent n ns st st₁ st₂}, C ⟨fuel, parent, n :: ns, st⟩ →
    I ⟨fuel, parent, n :: ns, st⟩ → st.world.forest.parent? n = some parent →
      visit s n st = .ok none st₁ → T n st₁ st₂ → T parent st st₂ ∧ I ⟨fuel, parent, ns, st₂⟩

namespace Invariant

variable {C I : Point → Prop} {T : NodeId → Session → Session → Prop}

theorem completes (hi : Invariant s C I T) (h : Completes s p rs st')
    (hc : ∀ q, Reaches s p q → C q) (hp : I p) : T p.parent p.session st' := by
  induction h with
  | nil => exact hi.refl hp
  | moved hn _ ih => exact ih (fun q hq => hc q (.moved hn hq)) (hi.moved hp)
  | visited hn hv _ ih =>
    obtain ⟨ht, hp⟩ := hi.visited (hc _ (.refl _)) hp hn hv
    exact hi.trans ht (ih (fun q hq => hc q (.visited hn hv hq)) hp)
  | plain hn hv hg _ ih =>
    obtain ⟨ht, hp⟩ := hi.plain (hc _ (.refl _)) hp hn hv
    exact hi.trans ht (ih (fun q hq => hc q (.plain hn hv hg hq)) hp)
  | entered hn hv hg hw _ ihw ih =>
    have hc₀ := hc _ (.refl _)
    have hw := children_eq_ok.mpr ⟨_, rfl, hw⟩
    have hb := ihw (fun q hq => hc q (.entered hn hv hg hq)) (hi.entered hc₀ hp hn hv)
    obtain ⟨ht, hp⟩ := hi.left hc₀ hp hn hv hb
    exact hi.trans ht (ih (fun q hq => hc q (.left hn hv hg hw hq)) hp)

theorem reaches (hi : Invariant s C I T) (h : Reaches s p q) (hc : ∀ q, Reaches s p q → C q)
    (hp : I p) : I q := by
  induction h with
  | refl p => exact hp
  | moved hn _ ih => exact ih (fun q hq => hc q (.moved hn hq)) (hi.moved hp)
  | visited hn hv _ ih =>
    exact ih (fun q hq => hc q (.visited hn hv hq)) (hi.visited (hc _ (.refl _)) hp hn hv).2
  | plain hn hv hg _ ih =>
    exact ih (fun q hq => hc q (.plain hn hv hg hq)) (hi.plain (hc _ (.refl _)) hp hn hv).2
  | entered hn hv hg _ ih =>
    exact ih (fun q hq => hc q (.entered hn hv hg hq)) (hi.entered (hc _ (.refl _)) hp hn hv)
  | left hn hv hg hw _ ih =>
    have hc₀ := hc _ (.refl _)
    obtain ⟨i, rfl, hb⟩ := children_eq_ok.mp hw
    have hb := hi.completes hb (fun q hq => hc q (.entered hn hv hg hq)) (hi.entered hc₀ hp hn hv)
    exact ih (fun q hq => hc q (.left hn hv hg hw hq)) (hi.left hc₀ hp hn hv hb).2

end Invariant

/-- Careful code leaves a well-formed forest wherever a walk comes to. -/
theorem wellFormed_invariant : Invariant s (Point.Careful s)
    (fun p => p.session.world.forest.WellFormed) (fun _ _ st' => st'.world.forest.WellFormed) where
  refl hp := hp
  trans _ h := h
  moved hp := hp
  visited hc hp hn hv := by
    have hf := visit_wellFormed hp (fun f => hc _ f ⟨⟨_, rfl⟩, hn⟩ hp) hv
    exact ⟨hf, hf⟩
  plain _ hp _ hv := by
    rw [← visit_passes hv] at hp
    exact ⟨hp, hp⟩
  entered _ hp _ hv := by
    rw [← visit_passes hv] at hp
    exact hp
  left _ _ _ _ ht := ⟨ht, ht⟩

/-! ### Nodes on the way -/

/-- What holds of a session between two visits of a walk below a root: what was visited stood below the
root, was visited once, and stands under the root or another visited node if it stands anywhere. -/
structure Sound (root : NodeId) (st : Session) : Prop where
  below : ∀ x ∈ st.visits, x.2.Above root x.1
  once : st.visited.Nodup
  inner : root ∉ st.visited
  homes : ∀ m ∈ st.visited, ∀ p, st.world.forest.parent? m = some p → p = root ∨ p ∈ st.visited

/-- Where a walk below a root stands: its parent stands below the root and was entered, and none of the
nodes that are left was visited, unless it stands elsewhere by now. -/
structure Orderly (root : NodeId) (p : Point) : Prop where
  sound : Sound root p.session
  below : p.session.world.forest.Over root p.parent
  entered : p.parent = root ∨ p.parent ∈ p.session.visited
  nodup : p.left.Nodup
  fresh : ∀ m ∈ p.left, p.session.world.forest.parent? m = some p.parent → m ∉ p.session.visited

/-- Between two sessions the given nodes were visited under a parent: the way from the root to the
parent is as it was, what was visited before has not moved, unless out of the tree, and the given nodes
stand under the parent or each other. -/
structure Passed (root parent : NodeId) (new : List NodeId) (st st' : Session) : Prop where
  visited : st'.visited = st.visited ++ new
  way : ∀ a, st.world.forest.Above root a → st.world.forest.Over a parent →
    st'.world.forest.parent? a = st.world.forest.parent? a
  kept : ∀ m ∈ st.visited, st'.world.forest.parent? m = none ∨
    st'.world.forest.parent? m = st.world.forest.parent? m
  homes : ∀ m ∈ new, ∀ p, st'.world.forest.parent? m = some p → p = parent ∨ p ∈ new

namespace Passed

theorem refl (root parent : NodeId) (st : Session) : Passed root parent [] st st :=
  ⟨by simp, fun _ _ _ => rfl, fun _ _ => .inr rfl, List.forall_mem_nil _⟩

theorem mem (h : Passed root parent new st st') {m : NodeId} :
    m ∈ st'.visited ↔ m ∈ st.visited ∨ m ∈ new := by
  rw [h.visited, List.mem_append]

theorem below (h : Passed root parent new st st') (ho : st.world.forest.Over root parent) :
    st'.world.forest.Over root parent :=
  Forest.over_kept h.way (.refl _) ho

theorem trans (h : Passed root parent new st st₁) (g : Passed root parent more st₁ st₂) :
    Passed root parent (new ++ more) st st₂ := by
  refine ⟨by rw [g.visited, h.visited, List.append_assoc], fun a hr ha => ?_, fun m hm => ?_,
    fun m hm p hp => ?_⟩
  · have hr₁ := Forest.above_kept h.way hr ha
    have ha₁ := Forest.over_kept h.way hr.over ha
    exact (g.way a hr₁ ha₁).trans (h.way a hr ha)
  · obtain hg | hg := g.kept m (h.mem.mpr (.inl hm))
    · exact .inl hg
    · rw [hg]
      exact h.kept m hm
  · obtain hm | hm := List.mem_append.mp hm
    · have hp := parent_of_kept (g.kept m (h.mem.mpr (.inr hm))) hp
      exact (h.homes m hm p hp).imp_right (List.mem_append_left _)
    · exact (g.homes m hm p hp).imp_right (List.mem_append_right _)

/-- A node that was entered has been passed once all that stands below it has. -/
theorem entered (h : Passed root n new st₁ st₂) (hp : st.world.forest.parent? n = some parent)
    (hv : visit s n st = .ok none st₁) : Passed root parent (n :: new) st st₂ := by
  have hw := visit_passes hv
  have hk : ∀ m ∈ st₁.visited, st₂.world.forest.parent? m = none ∨
      st₂.world.forest.parent? m = st.world.forest.parent? m := hw ▸ h.kept
  refine ⟨?_, fun a hr ha => ?_, fun m hm => hk m ((mem_visited hv).mpr (.inl hm)),
    fun m hm p hpm => ?_⟩
  · rw [h.visited, visited_of_visit hv, List.append_assoc]
    rfl
  · rw [← hw] at hr ha hp ⊢
    exact h.way a hr (ha.above_trans (Forest.above_of_parent? hp)).over
  · obtain rfl | hm := List.mem_cons.mp hm
    · have hpm := parent_of_kept (hk m ((mem_visited hv).mpr (.inr rfl))) hpm
      rw [hp] at hpm
      cases hpm
      exact .inl rfl
    · obtain rfl | hpn := h.homes m hm p hpm
      · exact .inr List.mem_cons_self
      · exact .inr (List.mem_cons_of_mem _ hpn)

end Passed

namespace Orderly

/-- The next node stands below the root, and was not visited. -/
theorem next (h : Orderly root ⟨fuel, parent, n :: ns, st⟩)
    (hp : st.world.forest.parent? n = some parent) :
    st.world.forest.Above root n ∧ n ∉ st.visited :=
  ⟨Forest.above_of_over_parent h.below hp, h.fresh n List.mem_cons_self hp⟩

/-- A visit that keeps places passes the node. -/
theorem passed (h : Orderly root ⟨fuel, parent, n :: ns, st⟩)
    (hp : st.world.forest.parent? n = some parent) (hv : visit s n st = .ok r st₁)
    (hk : KeepsPlaces root n (n :: st.visited) st.world.forest st₁.world.forest) :
    Passed root parent [n] st st₁ := by
  refine ⟨visited_of_visit hv, fun a hr ha => ?_,
    fun m hm => hk.seen m (List.mem_cons_of_mem _ hm), fun m hm p hpm => ?_⟩
  · exact hk.above a hr (ha.above_trans (Forest.above_of_parent? hp))
  · obtain rfl := List.mem_singleton.mp hm
    have hpm := parent_of_kept (hk.seen m List.mem_cons_self) hpm
    rw [hp] at hpm
    cases hpm
    exact .inl rfl

theorem sound_of_visit (h : Orderly root ⟨fuel, parent, n :: ns, st⟩)
    (hf : st.world.forest.WellFormed) (hp : st.world.forest.parent? n = some parent)
    (hv : visit s n st = .ok r st₁)
    (hk : KeepsPlaces root n (n :: st.visited) st.world.forest st₁.world.forest) :
    Sound root st₁ := by
  obtain ⟨hr, hn⟩ := h.next hp
  refine ⟨fun x hx => ?_, ?_, fun hx => ?_, fun m hm p hpm => ?_⟩
  · rw [visits_of_visit hv] at hx
    obtain hx | hx := List.mem_append.mp hx
    · exact h.sound.below x hx
    · obtain rfl := List.mem_singleton.mp hx
      exact hr
  · rw [visited_of_visit hv, List.nodup_append]
    refine ⟨h.sound.once, List.nodup_singleton n, fun a ha b hb he => ?_⟩
    obtain rfl := List.mem_singleton.mp hb
    exact hn (he ▸ ha)
  · obtain hx | rfl := (mem_visited hv).mp hx
    · exact h.sound.inner hx
    · exact hf.acyclic _ hr
  · have hm := (mem_visited hv).mp hm
    have hpm := parent_of_kept (hk.seen m (List.mem_cons.mpr hm.symm)) hpm
    have hps : p = root ∨ p ∈ st.visited := by
      obtain hm | rfl := hm
      · exact h.sound.homes m hm p hpm
      · rw [hp] at hpm
        cases hpm
        exact h.entered
    exact hps.imp_right fun hps => (mem_visited hv).mpr (.inl hps)

/-- The walk goes on behind a node. -/
theorem advance (h : Orderly root ⟨fuel, parent, n :: ns, st⟩)
    (hn : Passed root parent (n :: new) st st₁) (hs : Sound root st₁)
    (hw : ∀ m ∈ new, ∀ p, st₁.world.forest.parent? m = some p → p ∈ n :: new) :
    Orderly root ⟨fuel, parent, ns, st₁⟩ := by
  refine ⟨hs, hn.below h.below, h.entered.imp_right fun he => hn.mem.mpr (.inl he),
    (List.nodup_cons.mp h.nodup).2, fun m hm hp hv => ?_⟩
  obtain hv | hv := hn.mem.mp hv
  · -- a node that was visited before has not come back to the parent
    exact h.fresh m (List.mem_cons_of_mem _ hm) (parent_of_kept (hn.kept m hv) hp) hv
  · obtain rfl | hv := List.mem_cons.mp hv
    · exact (List.nodup_cons.mp h.nodup).1 hm
    · -- the parent of a node that was visited since then is not among those visited before
      have hpn := hw m hv parent hp
      obtain rfl | he := h.entered
      · exact hs.inner (hn.mem.mpr (.inr hpn))
      · have ho := hs.once
        rw [hn.visited, List.nodup_append] at ho
        exact ho.2.2 parent he parent hpn rfl

/-- The walk goes through the children of a node. -/
theorem enter {i : Nat} (h : Orderly root ⟨fuel, parent, n :: ns, st⟩)
    (hf : st.world.forest.WellFormed) (hp : st.world.forest.parent? n = some parent)
    (hv : visit s n st = .ok none st₁) :
    Orderly root ⟨i, n, st₁.world.forest.children n, st₁⟩ := by
  obtain ⟨hr, hn⟩ := h.next hp
  have hw := visit_passes hv
  refine ⟨h.sound_of_visit hf hp hv (keepsPlaces_of_passes _ _ hv), ?_,
    .inr ((mem_visited hv).mpr (.inr rfl)), ?_, ?_⟩
  · rw [hw]
    exact hr.over
  · rw [hw]
    exact hf.nodup n
  · dsimp only
    rw [hw]
    intro m _ hm hx
    obtain hx | rfl := (mem_visited hv).mp hx
    · obtain rfl | hx := h.sound.homes m hx n hm
      · exact hf.acyclic _ hr
      · exact hn hx
    · exact hf.acyclic _ (Forest.above_of_parent? hm)

/-- The walk passes over a node. -/
theorem skip (h : Orderly root ⟨fuel, parent, n :: ns, st⟩) :
    Orderly root ⟨fuel, parent, ns, st⟩ :=
  ⟨h.sound, h.below, h.entered, (List.nodup_cons.mp h.nodup).2,
    fun m hm => h.fresh m (List.mem_cons_of_mem _ hm)⟩

theorem start (st : Session) (hf : st.world.forest.WellFormed) (hv : st.visits = []) :
    Orderly root ⟨fuel, root, st.world.forest.children root, st⟩ := by
  have hn : st.visited = [] := by
    unfold Session.visited
    rw [hv]
    rfl
  refine ⟨⟨?_, ?_, ?_, ?_⟩, .refl _, .inl rfl, hf.nodup root, fun m _ _ => ?_⟩
  · rw [hv]
    exact List.forall_mem_nil _
  · rw [hn]
    exact List.nodup_nil
  · rw [hn]
    exact List.not_mem_nil
  · rw [hn]
    exact List.forall_mem_nil _
  · dsimp only
    rw [hn]
    exact List.not_mem_nil

end Orderly

/-- Code that keeps places keeps a walk in order. -/
theorem orderly_invariant : Invariant s
    (fun p => p.session.world.forest.WellFormed ∧ p.KeepsPlaces s root) (Orderly root)
    (fun parent st st' => (∃ new, Passed root parent new st st') ∧ Sound root st') where
  refl hp := ⟨⟨[], .refl ..⟩, hp.sound⟩
  trans := by
    rintro parent st st₁ st₂ ⟨⟨new, hn⟩, -⟩ ⟨⟨more, hm⟩, hs⟩
    exact ⟨⟨_, hn.trans hm⟩, hs⟩
  moved hp := hp.skip
  visited := by
    rintro fuel parent n ns st st₁ r ⟨hf, hk⟩ hp hn hv
    have hk := hk _ _ _ ⟨⟨_, rfl⟩, hn⟩ hv
    have hps := hp.passed hn hv hk
    have hs := hp.sound_of_visit hf hn hv hk
    exact ⟨⟨⟨_, hps⟩, hs⟩, hp.advance hps hs (List.forall_mem_nil _)⟩
  plain := by
    rintro fuel parent n ns st st₁ ⟨hf, -⟩ hp hn hv
    have hk := keepsPlaces_of_passes root (n :: st.visited) hv
    have hps := hp.passed hn hv hk
    have hs := hp.sound_of_visit hf hn hv hk
    exact ⟨⟨⟨_, hps⟩, hs⟩, hp.advance hps hs (List.forall_mem_nil _)⟩
  entered hc hp hn hv := hp.enter hc.1 hn hv
  left := by
    rintro fuel parent n ns st st₁ st₂ - hp hn hv ⟨⟨new, hb⟩, hs⟩
    have hps := hb.entered hn hv
    refine ⟨⟨⟨_, hps⟩, hs⟩, hp.advance hps hs ?_⟩
    exact fun m hm p hmp => List.mem_cons.mpr (hb.homes m hm p hmp)

end Walk

/-- What a run records is recorded at a point to which its walk comes. -/
theorem DocumentRun.exists_visit {ev : Evaluator} {m : Machine} {config : Config} {root : NodeId}
    {metadata : Value} {options : RunOptions} {run : DocumentRun} {st st' : Session}
    {r : Fragment × Outcome} (h : process ev m config root metadata options st = .ok run st')
    (hr : r ∈ run.results) : ∃ s q n st₁, Comes ev m config root metadata options st s q ∧ q.At n ∧
      Walk.visit s n q.session = .ok (some r) st₁ := by
  obtain ⟨w, -, rfl, -⟩ | ⟨w, space, w', hw, hn, hp⟩ := process_ok h
  · cases hr
  · rw [perform_eq] at hp
    obtain ⟨rs, st₂, hrs, hp⟩ := bind_eq_ok.mp hp
    injection hp with hrun
    rw [← hrun] at hr
    obtain ⟨q, n, st₁, hq, hat, hv⟩ := (Walk.completes_of_resume hrs).exists_visit hr
    exact ⟨_, q, n, st₁, ⟨w, space, w', hw, hn, rfl, hq⟩, hat, hv⟩

end LiveMarkdown
