import LiveMarkdown.Proofs.Passage

/-!
A document that the code of its fragments leaves alone. Where outcomes are all that changes it, the
walk comes to the fragments that were outermost in the beginning, one after the other, and each finds
the cursor where the executed ones before it have left it.
-/

namespace LiveMarkdown

open Document (NodeId Forest)
open Script (Value Run World)

/-- A forest leaves the nodes over a root and below it as they were in another one. -/
structure LeavesAlone (root : NodeId) (t t' : Forest) : Prop where
  wellFormed : t'.WellFormed
  content : ∀ n, t.Over root n ∨ t.Over n root → t'.content? n = t.content? n
  parent : ∀ n, t.Over root n ∨ t.Over n root → t'.parent? n = t.parent? n
  children : ∀ n, t.Over root n → t'.children n = t.children n

theorem LeavesAlone.refl {t : Forest} (root : NodeId) (ht : t.WellFormed) : LeavesAlone root t t :=
  ⟨ht, fun _ _ => rfl, fun _ _ => rfl, fun _ _ => rfl⟩

/-- New nodes leave all others alone. -/
theorem LeavesAlone.grow {t : Forest} {root : NodeId} {new : Array Document.Node} (ht : t.WellFormed)
    (hr : root < t.size) (hg : (t.grow new).WellFormed) : LeavesAlone root t (t.grow new) := by
  have hbelow {n : NodeId} (h : t.Over root n) : n < t.size := by
    obtain rfl | ha := h.eq_or_above
    · exact hr
    · obtain ⟨p, hp, -⟩ := Relation.TransGen.head'_iff.mp ha
      exact Forest.lt_size_of_parent? hp
  have hin {n : NodeId} (h : t.Over root n ∨ t.Over n root) : n < t.size := by
    obtain h | h := h
    · exact hbelow h
    · obtain rfl | ha := h.eq_or_above
      · exact hr
      · obtain ⟨c, -, hc⟩ := Relation.TransGen.tail'_iff.mp ha
        exact ht.parent_lt_size hc
  exact ⟨hg, fun n h => Forest.content?_grow (hin h), fun n h => Forest.parent?_grow (hin h),
    fun n h => Forest.children_grow (hbelow h)⟩

/-! ### What is left of a document -/

/-- A node over the root or below it that stands in none of the nodes that gave way. -/
structure Spared (f : Forest) (root : NodeId) (gone : List NodeId) (n : NodeId) : Prop where
  related : f.Over root n ∨ f.Over n root
  outside : ∀ g ∈ gone, ¬ f.Over g n

/-- All but the nodes that gave way, what stands in them, and the lists of children in which they stood
is as it was in a document. -/
structure Keeps (f₀ : Forest) (root : NodeId) (gone : List NodeId) (f : Forest) : Prop where
  wellFormed : f.WellFormed
  inner : ∀ g ∈ gone, ¬ f₀.Over g root
  content : ∀ n, Spared f₀ root gone n → f.content? n = f₀.content? n
  parent : ∀ n, Spared f₀ root gone n → f.parent? n = f₀.parent? n
  children : ∀ n, Spared f₀ root gone n → f₀.Over root n → (∀ c ∈ f₀.children n, c ∉ gone) →
    f.children n = f₀.children n

section

variable {f₀ f t t' : Forest} {root n a b p : NodeId} {gone : List NodeId} {x : Fragment}
  {o : Outcome}

theorem Spared.up (h : Spared f₀ root gone n) (hb : f₀.Over b n) : Spared f₀ root gone b := by
  refine ⟨?_, fun g hg ho => h.outside g hg (ho.trans hb)⟩
  obtain hr | hr := h.related
  · exact hr.total hb
  · exact .inr (hb.trans hr)

/-- A node that is spared was spared before one more node gave way. -/
theorem Spared.before (h : Spared f₀ root (gone ++ [a]) n) :
    Spared f₀ root gone n ∧ ¬ f₀.Over a n :=
  ⟨⟨h.related, fun g hg => h.outside g (List.mem_append_left _ hg)⟩,
    h.outside a (List.mem_append_right _ (List.mem_singleton_self a))⟩

namespace Keeps

theorem start (h : LeavesAlone root f₀ f) : Keeps f₀ root [] f :=
  ⟨h.wellFormed, List.forall_mem_nil _, fun n hn => h.content n hn.related,
    fun n hn => h.parent n hn.related, fun n _ hr _ => h.children n hr⟩

theorem over_iff (h : Keeps f₀ root gone f) (hn : Spared f₀ root gone n) :
    f.Over a n ↔ f₀.Over a n :=
  Forest.over_congr fun b hb => h.parent b (hn.up hb)

theorem related (h : Keeps f₀ root gone f) (hn : Spared f₀ root gone n) :
    f.Over root n ∨ f.Over n root := by
  obtain hr | hr := hn.related
  · exact .inl ((h.over_iff hn).mpr hr)
  · exact .inr ((h.over_iff ⟨.inl (.refl root), h.inner⟩).mpr hr)

/-- Code that leaves the document alone keeps what was kept. -/
theorem leave (h : Keeps f₀ root gone f) (ht : LeavesAlone root f t) : Keeps f₀ root gone t := by
  refine ⟨ht.wellFormed, h.inner, fun n hn => ?_, fun n hn => ?_, fun n hn hr hc => ?_⟩
  · rw [ht.content n (h.related hn), h.content n hn]
  · rw [ht.parent n (h.related hn), h.parent n hn]
  · rw [ht.children n ((h.over_iff hn).mpr hr), h.children n hn hr hc]

/-- Around a node with none of the nodes that gave way over or below it, all is as it was. -/
theorem sameAround (h : Keeps f₀ root gone f) (hf : f₀.WellFormed) (hn : Spared f₀ root gone n)
    (hr : f₀.Over root n) (hg : ∀ g ∈ gone, ¬ f₀.Over n g) : SameAround f₀ f n := by
  have hbelow {k : NodeId} (hk : f₀.Over n k) : Spared f₀ root gone k := by
    refine ⟨.inl (hr.trans hk), fun g hgone ho => ?_⟩
    obtain hng | hgn := hk.total ho
    · exact hg g hgone hng
    · exact hn.outside g hgone hgn
  refine ⟨fun k hk => h.content k (hk.elim hn.up hbelow), fun k hk => h.parent k (hn.up hk),
    fun k hk => h.children k (hbelow hk) (hr.trans hk) fun c hc hgone => hg c hgone ?_⟩
  exact hk.trans (Forest.above_of_parent? ((hf.mem_children k c).mp hc)).over

end Keeps

/-! ### Outcomes -/

/-- The nodes of an outcome that stand below the root stand in the fragment. -/
def Outcome.Within (root n : NodeId) (t : Forest) (o : Outcome) : Prop :=
  ∀ m ∈ o.inserted, t.Over root m → t.Over n m

/-- What an outcome that is applied leaves of the nodes and of the lists of children. -/
theorem Executor.edit_frame (ht : t.WellFormed) (hp : t.parent? x.node = some p)
    (ho : ∀ nodes, o = .substituted nodes → Accepted x nodes t)
    (he : (edit x o).run t = .ok () t') :
    (∀ k, t'.content? k = t.content? k) ∧
      ∀ k, k ≠ p → (∀ m ∈ o.inserted, t.parent? m ≠ some k) → t'.children k = t.children k := by
  cases o with
  | substituted nodes =>
    have ha := ho nodes rfl
    have hn := ha.insertable ht
    obtain ⟨q, t₁, -, he₁, hg⟩ := ha.replaces ht
    cases he₁.symm.trans he
    refine ⟨fun k => ?_, fun k hk hc => ?_⟩
    · rw [hg.content, Forest.content?_extract]
    · exact Document.Edit.replaceWith_children ht hp hn hk hc he
  | removed =>
    cases he
    refine ⟨fun k => Forest.content?_extract, fun k hk _ => ?_⟩
    rw [Forest.children_extract hp (ht.parent_lt_size hp), if_neg hk]
  | unchanged w =>
    cases he
    exact ⟨fun _ => rfl, fun _ _ _ => rfl⟩

/-- A fragment gives way, and all that stood apart from it is kept. -/
theorem Keeps.apply (h : Keeps f₀ root gone t) (hf : f₀.WellFormed)
    (hx : Spared f₀ root gone x.node) (hp : f₀.parent? x.node = some p) (hr : f₀.Over root p)
    (ho : ∀ nodes, o = .substituted nodes → Executor.Accepted x nodes t)
    (hw : o.Within root x.node t) (he : (Executor.edit x o).run t = .ok () t') :
    Keeps f₀ root (gone ++ [x.node]) t' := by
  have hpt : t.parent? x.node = some p := by
    rw [h.parent _ hx, hp]
  obtain ⟨t₁, he₁, ha⟩ := Executor.edit_applies h.wellFormed ho
  cases he₁.symm.trans he
  obtain ⟨hcontent, hchildren⟩ := Executor.edit_frame h.wellFormed hpt ho he
  have hrx : f₀.Above root x.node := Forest.above_of_over_parent hr hp
  -- a node that is inserted stood in the fragment, or nowhere near the document
  have hout {m : NodeId} (hm : Spared f₀ root (gone ++ [x.node]) m) : m ∉ o.inserted := by
    obtain ⟨hm₀, hno⟩ := hm.before
    intro hi
    obtain hrm | hmr := hm.related
    · exact hno ((h.over_iff hm₀).mp (hw m hi ((h.over_iff hm₀).mpr hrm)))
    · have hmp : t.Over m p := by
        rw [h.over_iff (hx.up (Forest.above_of_parent? hp).over)]
        exact hmr.trans hr
      have hup := Forest.above_of_over_parent hmp hpt
      cases o with
      | substituted nodes => exact ((ho nodes rfl).insertable h.wellFormed m hi).2.2 hup
      | removed => cases hi
      | unchanged w => cases hi
  refine ⟨ha.wellFormed, fun g hg ho => ?_, fun n hn => ?_, fun n hn => ?_, fun n hn hrn hc => ?_⟩
  · obtain hg | hg := List.mem_append.mp hg
    · exact h.inner g hg ho
    · rw [List.mem_singleton.mp hg] at ho
      exact hf.acyclic root (hrx.over_trans ho)
  · rw [hcontent, h.content n hn.before.1]
  · obtain ⟨hn₀, hno⟩ := hn.before
    rw [ha.elsewhere n (fun he => hno (he ▸ .refl n)) (hout hn), h.parent n hn₀]
  · obtain ⟨hn₀, hno⟩ := hn.before
    have hnp : n ≠ p := by
      rintro rfl
      exact hc x.node ((hf.mem_children n x.node).mpr hp)
        (List.mem_append_right _ (List.mem_singleton_self _))
    rw [hchildren n hnp fun m hm hmn => ?_, h.children n hn₀ hrn fun c hcn hg =>
      hc c hcn (List.mem_append_left _ hg)]
    have hrm : t.Over root m :=
      (Forest.above_of_over_parent ((h.over_iff hn₀).mpr hrn) hmn).over
    obtain he | ha := (hw m hm hrm).eq_or_above
    · rw [← he, hpt] at hmn
      exact hnp (Option.some.inj hmn).symm
    · exact hno ((h.over_iff hn₀).mp (ha.over_parent hmn))

end

/-! ### The cursor -/

/-- A computation leaves the cursor where it is. -/
def KeepsCursor {α : Type} (x : Engine α) : Prop :=
  ∀ st a st', x st = .ok a st' → st'.cursor = st.cursor

namespace KeepsCursor

variable {α β : Type} {x : Engine α} {f : α → Engine β}

theorem bind (h : KeepsCursor x) (hf : ∀ a, KeepsCursor (f a)) : KeepsCursor (x >>= f) := by
  intro st b st' hb
  obtain ⟨a, st₁, hx, hb⟩ := bind_eq_ok.mp hb
  exact (hf a st₁ b st' hb).trans (h st a st₁ hx)

theorem pure (a : α) : KeepsCursor (Pure.pure a) := by
  intro st b st' h
  cases h
  rfl

theorem lift (y : Run α) : KeepsCursor (Engine.lift y) := by
  intro st a st' h
  obtain ⟨w, -, rfl⟩ := Engine.lift_eq_ok.mp h
  rfl

end KeepsCursor

namespace Executor

variable {s : Settings} {f g : Fragment} {o : Outcome} {st st' : Session}

theorem fail_keepsCursor (w : Failure) : KeepsCursor (fail s w) := by
  intro st o st' h
  rw [fail_apply] at h
  cases h
  rfl

theorem refuse_keepsCursor (v : Value) (expectation : String) :
    KeepsCursor (refuse s f v expectation) :=
  .bind (.lift _) fun _ => fail_keepsCursor _

theorem placed_keepsCursor (v : Value) (nodes : List NodeId) :
    KeepsCursor (placed s f v nodes) := by
  have hf : KeepsCursor Engine.forest := by
    intro st t st' h
    cases h
    rfl
  refine .bind hf fun t => ?_
  split
  · exact fail_keepsCursor _
  · split
    · exact refuse_keepsCursor _ _
    · exact .pure _

theorem outcomeOf_keepsCursor (v : Value) : KeepsCursor (outcomeOf s f v) := by
  refine .bind (.lift _) fun r => ?_
  rcases r with _ | _ | ⟨n, ns⟩
  · exact refuse_keepsCursor _ _
  · exact .pure _
  · exact placed_keepsCursor _ _

theorem runCode_keepsCursor (code : Compiled s.evaluator) : KeepsCursor (runCode s f code) := by
  have hn : KeepsCursor (Engine.note (.invoked code.mode code.text)) := by
    intro st a st' h
    cases h
    rfl
  refine .bind (.bind hn fun _ => .lift _) fun r => ?_
  cases r with
  | error e => exact .bind (.lift _) fun _ => fail_keepsCursor _
  | ok v => exact outcomeOf_keepsCursor v

theorem attempt_keepsCursor : KeepsCursor (attempt s f) := by
  intro st o st' h
  unfold attempt at h
  rw [bind_of_ok compile_apply] at h
  have hc : (compiled s f st).cursor = st.cursor := compiled_cursor
  rw [← hc]
  cases hr : reading s f with
  | error fault =>
    rw [hr] at h
    exact KeepsCursor.bind (.lift _) (fun _ => fail_keepsCursor _) _ _ _ h
  | ok code =>
    rw [hr] at h
    exact runCode_keepsCursor code _ _ _ h

end Executor

/-- The cursor behind a fragment: a fragment that is switched off does not move it. -/
def Fragment.pass (source : String) (cursor : Int) (f : Fragment) : Int :=
  if f.executes then (Source.locate source f.text cursor f.level).2 else cursor

/-- A fragment that is executed gets its position, and the cursor moves on. -/
theorem Executor.execute_passes {s : Settings} {f g : Fragment} {o : Outcome} {st st' : Session}
    (h : execute s f st = .ok (g, o) st') : st'.cursor = f.pass s.source st.cursor ∧
      g = if f.executes then placedAt s f st else f := by
  unfold Fragment.pass
  cases hx : f.executes with
  | false =>
    rw [execute_off hx] at h
    cases h
    exact ⟨rfl, rfl⟩
  | true =>
    rw [execute_on hx] at h
    obtain ⟨o', st₁, ha, h⟩ := bind_eq_ok.mp h
    cases h
    refine ⟨?_, rfl⟩
    rw [attempt_keepsCursor _ _ _ ha]
    rfl

namespace Walk

variable {s : Settings} {n : NodeId} {f : Fragment} {o : Outcome} {st st' : Session}

/-- What is recorded of a visit is the fragment that stands there, with its position if it is
executed. -/
theorem visit_records (h : visit s n st = .ok (some (f, o)) st') :
    ∃ x, Fragment.ofNode? st.world.forest s.markers n = some x ∧
      f = if x.executes then Executor.placedAt s x st else x := by
  cases hx : Fragment.ofNode? st.world.forest s.markers n with
  | none =>
    rw [visit_none hx] at h
    cases h
  | some x =>
    rw [visit_fragment hx] at h
    obtain ⟨r, st₁, he, h⟩ := bind_eq_ok.mp h
    obtain ⟨o', st₂, -, h⟩ := bind_eq_ok.mp h
    cases h
    exact ⟨x, rfl, (Executor.execute_passes he).2⟩

/-- A warning names the position of its fragment. -/
theorem visit_warns {w : Failure} (h : visit s n st = .ok (some (f, o)) st')
    (hw : DocumentRun.warning? o = some w) : w.position = f.position := by
  obtain ⟨-, kind, detail, cause, rfl⟩ | ⟨-, hno⟩ := visit_failure h
  · cases hw
    rfl
  · rw [hno] at hw
    cases hw

end Walk

/-! ### The walk -/

namespace Walk

variable {s : Settings} {f₀ : Forest} {root n p : NodeId} {ns : List NodeId} {q q' : Point}
  {gone : List Fragment} {x : Fragment} {r : Option (Fragment × Outcome)}
  {rs : List (Fragment × Outcome)} {st st' : Session}

/-- The code of the fragment at which a walk stands, if it stands at one that is switched on, leaves
the document below the root alone, and returns no node of it but those of the fragment. -/
def Point.EditFree (s : Settings) (root : NodeId) (q : Point) : Prop :=
  ∀ n x g o st', q.At n → Fragment.ofNode? q.session.world.forest s.markers n = some x →
    x.executes = true → Executor.execute s x (Executor.lookedAt n q.session) = .ok (g, o) st' →
      LeavesAlone root q.session.world.forest st'.world.forest ∧ o.Within root n st'.world.forest

/-- Fragments that were passed, where nothing counts of their outcomes but that they gave way. -/
def retired (gone : List Fragment) : List (Fragment × Outcome) := gone.map fun x => (x, .removed)

theorem retired_append (as bs : List Fragment) :
    retired (as ++ bs) = retired as ++ retired bs := List.map_append

theorem settled_retired (gone : List Fragment) : Settled f₀ root (retired gone) := by
  intro r hr x hx
  obtain ⟨y, -, rfl⟩ := List.mem_map.mp hr
  cases hx

/-- The next node is spared by the fragments that were passed, and holds none of them. -/
theorem spared_of_poised (h : Poised f₀ root (retired gone) p (n :: ns)) :
    f₀.Above root n ∧ Spared f₀ root (gone.map (·.node)) n ∧
      ∀ g ∈ gone.map (·.node), ¬ f₀.Over n g := by
  have hr : f₀.Above root n :=
    Forest.above_of_over_parent h.below (h.child n List.mem_cons_self)
  refine ⟨hr, ⟨.inl hr.over, fun g hg => ?_⟩, fun g hg => ?_⟩
  · obtain ⟨y, hy, rfl⟩ := List.mem_map.mp hg
    exact h.not_over (List.mem_map_of_mem hy)
  · obtain ⟨y, hy, rfl⟩ := List.mem_map.mp hg
    exact h.fresh n List.mem_cons_self _ (List.mem_map_of_mem hy)

/-- The walk goes on behind a node once the fragments in its part of the tree were passed. -/
theorem poised_next {more : List Fragment} (hf : f₀.WellFormed)
    (h : Poised f₀ root (retired gone) p (n :: ns)) (hm : ∀ x ∈ more, f₀.Over n x.node) :
    Poised f₀ root (retired (gone ++ more)) p ns := by
  rw [retired_append]
  refine h.next hf (retired_append gone more ▸ settled_retired _) fun r hr => ?_
  obtain ⟨y, hy, rfl⟩ := List.mem_map.mp hr
  exact hm y hy

/-- A fragment stands in its own part of the tree. -/
theorem over_here (hx : Fragment.ofNode? f₀ s.markers n = some x) :
    ∀ y ∈ [x], f₀.Over n y.node := by
  intro y hy
  rw [List.mem_singleton.mp hy, Fragment.ofNode?_node hx]
  exact .refl n

/-- A session in which fragments were passed, in this order, and nothing else has happened to the
document. -/
structure Toured (s : Settings) (f₀ : Forest) (root : NodeId) (gone : List Fragment)
    (st : Session) : Prop where
  keeps : Keeps f₀ root (gone.map (·.node)) st.world.forest
  cursor : st.cursor = gone.foldl (Fragment.pass s.source) 0

namespace Toured

variable (h : Toured s f₀ root gone st) (hf : f₀.WellFormed)
  (hp : Poised f₀ root (retired gone) p (n :: ns))

include h hp in
theorem parent? : st.world.forest.parent? n = some p := by
  rw [h.keeps.parent n (spared_of_poised hp).2.1]
  exact hp.child n List.mem_cons_self

include h hf hp in
theorem sameAround : SameAround f₀ st.world.forest n := by
  obtain ⟨hr, hn, hno⟩ := spared_of_poised hp
  exact h.keeps.sameAround hf hn hr.over hno

include h hf hp in
theorem ofNode? :
    Fragment.ofNode? st.world.forest s.markers n = Fragment.ofNode? f₀ s.markers n :=
  (h.sameAround hf hp).ofNode? hf h.keeps.wellFormed
    (Forest.lt_size_of_parent? (hp.child n List.mem_cons_self))
    (Forest.lt_size_of_parent? (h.parent? hp))

include h hf hp in
theorem isTag : st.world.forest.isTag n = f₀.isTag n := by
  unfold Forest.isTag
  rw [(h.sameAround hf hp).tag? (.inl (.refl n))]

include h hf hp in
theorem children : (Executor.lookedAt n st).world.forest.children n = f₀.children n :=
  (h.sameAround hf hp).children n (.refl n)

include h hf hp in
/-- The walk goes through the children of a node that it has looked at. -/
theorem enter : Poised f₀ root (retired gone) n
    ((Executor.lookedAt n st).world.forest.children n) := by
  rw [h.children hf hp]
  exact hp.enter hf

include h hf hp in
/-- A fragment is passed: it gets its position from the cursor, and gives way. -/
theorem visit (hx : Fragment.ofNode? f₀ s.markers n = some x) {fuel : Nat}
    (he : Point.EditFree s root ⟨fuel, p, n :: ns, st⟩) (hv : Walk.visit s n st = .ok r st') :
    ∃ g o, r = some (g, o) ∧ g.unplaced = x ∧ Toured s f₀ root (gone ++ [x]) st' := by
  obtain ⟨hr, hn, -⟩ := spared_of_poised hp
  have hpn := hp.child n List.mem_cons_self
  have hxn := Fragment.ofNode?_node hx
  have ho := (h.ofNode? hf hp).trans hx
  rw [visit_fragment ho] at hv
  obtain ⟨⟨g, o⟩, st₁, hex, hv⟩ := bind_eq_ok.mp hv
  obtain ⟨o', st₂, hap, hv⟩ := bind_eq_ok.mp hv
  cases hv
  obtain ⟨hc, hg⟩ := Executor.execute_passes hex
  have hgn : g.node = n := by
    rw [Executor.execute_node hex, hxn]
  -- the code leaves the document alone, and a fragment that is switched off has none
  have hcode : Keeps f₀ root (gone.map (·.node)) st₁.world.forest ∧
      o.Within root n st₁.world.forest := by
    cases hon : x.executes with
    | true =>
      obtain ⟨ha, hw⟩ := he n x g o st₁ ⟨⟨ns, rfl⟩, h.parent? hp⟩ ho hon hex
      exact ⟨h.keeps.leave ha, hw⟩
    | false =>
      rw [Executor.execute_off hon] at hex
      cases hex
      refine ⟨h.keeps, ?_⟩
      unfold Executor.withheld
      split <;> exact nofun
  obtain ⟨hk, hw⟩ := hcode
  have hacc := Executor.execute_accepts hex
  obtain ⟨t, hed, -⟩ := Executor.edit_applies hk.wellFormed hacc
  have happly : Executor.apply s g o st₁ =
      .ok o { st₁ with world := { st₁.world with forest := t } } := by
    unfold Executor.apply
    rw [bind_apply, Executor.applyEdit_apply, hed]
    rfl
  cases happly.symm.trans hap
  have hkeep := hk.apply (x := g) hf (hgn ▸ hn) (hgn ▸ hpn) hp.below hacc (hgn ▸ hw) hed
  refine ⟨g, o, rfl, ?_, ?_, ?_⟩
  · have hu := (Fragment.of_ofNode? hx).2
    rw [hg]
    split
    · exact hu
    · exact hu
  · rw [List.map_append, List.map_singleton, hxn, ← hgn]
    exact hkeep
  · rw [List.foldl_append, ← h.cursor]
    exact hc

/-- A node that is no fragment is looked at, and nothing happens. -/
theorem look (h : Toured s f₀ root gone st) (n : NodeId) :
    Toured s f₀ root gone (Executor.lookedAt n st) := ⟨h.keeps, h.cursor⟩

end Toured

/-- The fragments among nodes that are left and below them, as far as the fuel lasts. -/
def ahead (f₀ : Forest) (markers : List String) (fuel : Nat) (ns : List NodeId) : List Fragment :=
  (ns.flatMap (Fragment.branch f₀ markers (Fragment.outsideUpTo f₀ markers fuel))).filterMap
    (Fragment.ofNode? f₀ markers)

section

variable {markers : List String} {fuel : Nat}

theorem ahead_fragment (hx : Fragment.ofNode? f₀ markers n = some x) :
    ahead f₀ markers fuel (n :: ns) = x :: ahead f₀ markers fuel ns := by
  unfold ahead
  rw [List.flatMap_cons, Fragment.branch_fragment hx, List.singleton_append,
    List.filterMap_cons_some hx]

theorem ahead_plain (hx : Fragment.ofNode? f₀ markers n = none) (ht : f₀.isTag n = false) :
    ahead f₀ markers fuel (n :: ns) = ahead f₀ markers fuel ns := by
  unfold ahead
  rw [List.flatMap_cons, Fragment.branch_plain hx ht, List.singleton_append,
    List.filterMap_cons_none hx]

theorem ahead_entered (hx : Fragment.ofNode? f₀ markers n = none) (ht : f₀.isTag n = true) :
    ahead f₀ markers (fuel + 1) (n :: ns) =
      ahead f₀ markers fuel (f₀.children n) ++ ahead f₀ markers (fuel + 1) ns := by
  unfold ahead
  rw [List.flatMap_cons, Fragment.branch_entered hx ht, List.cons_append,
    List.filterMap_cons_none hx, List.filterMap_append]
  rfl

/-- What stands ahead below a node stands below the node. -/
theorem over_of_mem_ahead (hf : f₀.WellFormed) (h : x ∈ ahead f₀ markers fuel (f₀.children n)) :
    f₀.Over n x.node := by
  obtain ⟨c, hc, hx⟩ := List.mem_filterMap.mp h
  rw [Fragment.ofNode?_node hx]
  have hc : c ∈ Fragment.outsideUpTo f₀ markers (fuel + 1) n := hc
  exact (Fragment.above_of_mem_outsideUpTo hf hc).over

theorem ahead_root (hf : f₀.WellFormed) (hr : root < f₀.size) (hfuel : f₀.size ≤ fuel + 1) :
    ahead f₀ markers fuel (f₀.children root) = Fragment.outermost f₀ markers root := by
  unfold Fragment.outermost
  rw [← Fragment.outsideUpTo_eq hf hr hfuel]
  rfl

end

/-- The step of a walk at a node that still stands where it did. -/
theorem Toured.plain (h : Toured s f₀ root gone st) (hf : f₀.WellFormed)
    (hp : Poised f₀ root (retired gone) p (n :: ns)) {fuel : Nat}
    (he : Point.EditFree s root ⟨fuel, p, n :: ns, st⟩) (hv : Walk.visit s n st = .ok none st') :
    Fragment.ofNode? f₀ s.markers n = none ∧ st' = Executor.lookedAt n st := by
  cases hx : Fragment.ofNode? f₀ s.markers n with
  | some x =>
    obtain ⟨g, o, hr, -⟩ := h.visit hf hp hx he hv
    cases hr
  | none =>
    have ho := (h.ofNode? hf hp).trans hx
    rw [visit_none ho] at hv
    cases hv
    exact ⟨rfl, rfl⟩

theorem Toured.visited (h : Toured s f₀ root gone st) (hf : f₀.WellFormed)
    (hp : Poised f₀ root (retired gone) p (n :: ns)) {fuel : Nat} {y : Fragment × Outcome}
    (he : Point.EditFree s root ⟨fuel, p, n :: ns, st⟩)
    (hv : Walk.visit s n st = .ok (some y) st') :
    Fragment.ofNode? f₀ s.markers n = some y.1.unplaced ∧
      Toured s f₀ root (gone ++ [y.1.unplaced]) st' := by
  cases hx : Fragment.ofNode? f₀ s.markers n with
  | some x =>
    obtain ⟨g, o, hr, rfl, ht⟩ := h.visit hf hp hx he hv
    cases hr
    exact ⟨rfl, ht⟩
  | none =>
    have ho := (h.ofNode? hf hp).trans hx
    rw [visit_none ho] at hv
    cases hv

/-- A walk that goes to its end has passed all the fragments that were ahead. -/
theorem Completes.tours (h : Completes s q rs st') (hf : f₀.WellFormed)
    (he : ∀ y, Reaches s q y → y.EditFree s root)
    (hp : Poised f₀ root (retired gone) q.parent q.left)
    (ht : Toured s f₀ root gone q.session) :
    rs.map (·.1.unplaced) = ahead f₀ s.markers q.fuel q.left ∧
      Toured s f₀ root (gone ++ ahead f₀ s.markers q.fuel q.left) st' := by
  induction h generalizing gone with
  | nil =>
    refine ⟨rfl, ?_⟩
    change Toured s f₀ root (gone ++ []) _
    rwa [List.append_nil]
  | moved hpn _ ih => exact absurd (ht.parent? hp) hpn
  | @visited fuel parent n ns st st₁ st' y rs hpn hv _ ih =>
    obtain ⟨hx, ht₁⟩ := ht.visited hf hp (he _ (.refl _)) hv
    obtain ⟨hrs, ht'⟩ := ih (fun z hz => he z (.visited hpn hv hz)) (poised_next hf hp (over_here hx)) ht₁
    dsimp only at hrs ht' ⊢
    rw [ahead_fragment hx, List.map_cons, hrs]
    rw [List.append_assoc, List.singleton_append] at ht'
    exact ⟨rfl, ht'⟩
  | plain hpn hv htag _ ih =>
    obtain ⟨hx, rfl⟩ := ht.plain hf hp (he _ (.refl _)) hv
    have hplain := (ht.isTag hf hp).symm.trans htag
    obtain ⟨hrs, ht'⟩ := ih (fun z hz => he z (.plain hpn hv htag hz)) hp.skip (ht.look _)
    dsimp only at hrs ht' ⊢
    rw [ahead_plain hx hplain]
    exact ⟨hrs, ht'⟩
  | @entered fuel parent n ns st st₁ st₂ st' within rs hpn hv htag hw _ ihw ih =>
    obtain ⟨hx, rfl⟩ := ht.plain hf hp (he _ (.refl _)) hv
    have htag₀ := (ht.isTag hf hp).symm.trans htag
    have hc := ht.children hf hp
    have hwithin := ihw (fun z hz => he z (.entered hpn hv htag hz))
      (ht.enter hf hp) (ht.look n)
    dsimp only at hwithin
    rw [hc] at hwithin
    obtain ⟨hws, htw⟩ := hwithin
    obtain ⟨hrs, ht'⟩ := ih
      (fun z hz => he z (.left hpn hv htag (children_eq_ok.mpr ⟨_, rfl, hw⟩) hz))
      (poised_next hf hp fun x hm => over_of_mem_ahead hf hm) htw
    dsimp only at hrs ht' ⊢
    rw [ahead_entered hx htag₀, List.map_append, hws, hrs]
    rw [List.append_assoc] at ht'
    exact ⟨rfl, ht'⟩

/-- A walk that has come to a point has passed fragments that were ahead, and goes on with those that
were ahead behind them. -/
theorem Reaches.tours (h : Reaches s q q') (hf : f₀.WellFormed)
    (he : ∀ y, Reaches s q y → y.EditFree s root)
    (hp : Poised f₀ root (retired gone) q.parent q.left)
    (ht : Toured s f₀ root gone q.session) :
    ∃ gone', Poised f₀ root (retired gone') q'.parent q'.left ∧
      Toured s f₀ root gone' q'.session ∧
      gone' ++ ahead f₀ s.markers q'.fuel q'.left <+: gone ++ ahead f₀ s.markers q.fuel q.left := by
  induction h generalizing gone with
  | refl q => exact ⟨gone, hp, ht, List.prefix_rfl⟩
  | moved hpn _ ih => exact absurd (ht.parent? hp) hpn
  | @visited fuel parent n ns st st₁ q' y hpn hv _ ih =>
    obtain ⟨hx, ht₁⟩ := ht.visited hf hp (he _ (.refl _)) hv
    obtain ⟨gone', hp', ht', hpre⟩ :=
      ih (fun z hz => he z (.visited hpn hv hz)) (poised_next hf hp (over_here hx)) ht₁
    refine ⟨gone', hp', ht', ?_⟩
    dsimp only at hpre ⊢
    rwa [ahead_fragment hx, ← List.singleton_append, ← List.append_assoc]
  | plain hpn hv htag _ ih =>
    obtain ⟨hx, rfl⟩ := ht.plain hf hp (he _ (.refl _)) hv
    have hplain := (ht.isTag hf hp).symm.trans htag
    obtain ⟨gone', hp', ht', hpre⟩ :=
      ih (fun z hz => he z (.plain hpn hv htag hz)) hp.skip (ht.look _)
    refine ⟨gone', hp', ht', ?_⟩
    dsimp only at hpre ⊢
    rwa [ahead_plain hx hplain]
  | @entered fuel parent n ns st st₁ q' hpn hv htag _ ih =>
    obtain ⟨hx, rfl⟩ := ht.plain hf hp (he _ (.refl _)) hv
    have htag₀ := (ht.isTag hf hp).symm.trans htag
    have hc := ht.children hf hp
    have hin := ih (fun z hz => he z (.entered hpn hv htag hz))
      (ht.enter hf hp) (ht.look n)
    dsimp only at hin
    rw [hc] at hin
    obtain ⟨gone', hp', ht', hpre⟩ := hin
    refine ⟨gone', hp', ht', hpre.trans ?_⟩
    dsimp only
    rw [ahead_entered hx htag₀, ← List.append_assoc]
    exact List.prefix_append _ _
  | @left fuel parent n ns st st₁ st₂ q' within hpn hv htag hw _ ih =>
    obtain ⟨hx, rfl⟩ := ht.plain hf hp (he _ (.refl _)) hv
    have htag₀ := (ht.isTag hf hp).symm.trans htag
    have hc := ht.children hf hp
    obtain ⟨i, rfl, hw'⟩ := children_eq_ok.mp hw
    have hwithin := hw'.tours hf (fun z hz => he z (.entered hpn hv htag hz))
      (ht.enter hf hp) (ht.look n)
    dsimp only at hwithin
    rw [hc] at hwithin
    obtain ⟨gone', hp', ht', hpre⟩ := ih (fun z hz => he z (.left hpn hv htag hw hz))
      (poised_next hf hp fun x hm => over_of_mem_ahead hf hm) hwithin.2
    refine ⟨gone', hp', ht', ?_⟩
    dsimp only at hpre ⊢
    rwa [ahead_entered hx htag₀, ← List.append_assoc]

end Walk

namespace DocumentRun

variable {ev : Evaluator} {m : Script.Machine} {config : Config} {root n : NodeId} {metadata : Value}
  {options : RunOptions} {run : DocumentRun} {s : Settings} {q : Walk.Point} {st st' : Session}
  {w : World} {x : Fragment}

/-- Before the walk of a run nothing has happened to the document. -/
theorem start_toured {w' : World} {space : Script.Ref} (hf : w.forest.WellFormed)
    (hr : root < w.forest.size) (hc : st.cursor = 0)
    (hn : namespaceFor root metadata options w = .ok space w') :
    w'.forest.children root = w.forest.children root ∧ w.forest.size ≤ w'.forest.size ∧
      Walk.Toured s w.forest root [] { st with world := w' } := by
  obtain ⟨_, _, new, hg, hnew, hw⟩ := namespaceFor_grows root metadata options w
  rw [hn] at hg
  cases hg
  refine ⟨?_, ?_, ⟨Keeps.start ?_, hc⟩⟩
  · rw [hnew, Forest.children_grow hr]
  · rw [hnew, Forest.size_grow]
    exact Nat.le_add_right ..
  · rw [hnew]
    exact .grow hf hr (hnew ▸ hw hf)

/-- The walk of a run starts before all that is below the root. -/
theorem start_poised {f₀ : Forest} (hf : f₀.WellFormed) :
    Poised f₀ root (Walk.retired []) root (f₀.children root) :=
  ⟨List.forall_mem_nil _, .refl root, List.forall_mem_nil _,
    fun c hc => (hf.mem_children root c).mp hc, fun _ _ => List.forall_mem_nil _, hf.nodup root⟩

/-- A run over a document that code leaves alone comes to the outermost fragments as they were in the
beginning, in order, and finds the cursor behind those that were passed. -/
theorem comes_tours (hon : enabledFor m config metadata st.world = .ok true w)
    (hf : w.forest.WellFormed) (hr : root < w.forest.size) (hc : st.cursor = 0)
    (he : ∀ s q, Comes ev m config root metadata options st s q → q.EditFree s root)
    (hq : Comes ev m config root metadata options st s q) (hat : q.At n)
    (hx : Fragment.ofNode? q.session.world.forest s.markers n = some x) :
    ∃ before after, Fragment.outermost w.forest config.markers root = before ++ x :: after ∧
      q.session.cursor = before.foldl (Fragment.pass s.source) 0 := by
  obtain ⟨w₁, space, w', hw, hn, rfl, hreach⟩ := hq
  cases hon.symm.trans hw
  obtain ⟨hcs, hsize, ht⟩ := start_toured hf hr hc hn
  rw [hcs] at hreach
  obtain ⟨before, hp, htq, hpre⟩ := hreach.tours hf
    (fun y hy => he _ y ⟨w, space, w', hon, hn, rfl, by rw [hcs]; exact hy⟩) (start_poised hf) ht
  dsimp only at hpre
  rw [Walk.ahead_root hf hr (by omega), List.nil_append] at hpre
  obtain ⟨⟨ns, hl⟩, -⟩ := hat
  obtain ⟨fuel, parent, left, st₁⟩ := q
  dsimp only at hl hp htq hpre hx
  subst hl
  rw [Walk.ahead_fragment ((htq.ofNode? hf hp).symm.trans hx)] at hpre
  obtain ⟨after, hafter⟩ := hpre
  rw [List.append_assoc] at hafter
  exact ⟨before, _, hafter.symm, htq.cursor⟩

/-- A run over a document that code leaves alone records just the outermost fragments. -/
theorem process_tours (hon : enabledFor m config metadata st.world = .ok true w)
    (hf : w.forest.WellFormed) (hr : root < w.forest.size) (hc : st.cursor = 0)
    (he : ∀ s q, Comes ev m config root metadata options st s q → q.EditFree s root)
    (h : process ev m config root metadata options st = .ok run st') :
    run.results.map (·.1.unplaced) = Fragment.outermost w.forest config.markers root := by
  obtain ⟨w₁, hw, -⟩ | ⟨w₁, space, w', hw, hn, hp⟩ := process_ok h
  · cases hon.symm.trans hw
  · cases hon.symm.trans hw
    obtain ⟨hcs, hsize, ht⟩ := start_toured hf hr hc hn
    rw [perform_eq] at hp
    obtain ⟨rs, st₂, hrs, hp⟩ := bind_eq_ok.mp hp
    injection hp with hrun
    rw [← hrun]
    dsimp only at hrs
    rw [hcs] at hrs
    have hall := (Walk.completes_of_resume hrs).tours hf
      (fun y hy => he _ y ⟨w, space, w', hon, hn, rfl, by rw [hcs]; exact hy⟩) (start_poised hf) ht
    dsimp only at hall
    rw [Walk.ahead_root hf hr (by omega)] at hall
    exact hall.1

end DocumentRun

end LiveMarkdown
