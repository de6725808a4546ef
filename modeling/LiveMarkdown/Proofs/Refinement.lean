import LiveMarkdown.Proofs.Blind
import LiveMarkdown.Proofs.Isolation

/-!
A walk that edits the tree while it goes through it comes to what a pure rewrite of the tree comes to:
the fragments that stand in no other fragment are executed one after the other on the tree as it was,
and each of them then gives way to the nodes of its outcome.
-/

namespace LiveMarkdown

open Document (NodeId Forest)
open Script (Machine Value Run Stop World)

namespace Fragment

/-- A node with what `below` finds below it, unless the node is a fragment. -/
def branch (f : Forest) (markers : List String) (below : NodeId → List NodeId) (n : NodeId) :
    List NodeId :=
  n :: match ofNode? f markers n with
    | some _ => []
    | none => if f.isTag n then below n else []

/-- The nodes below a node that do not stand in a fragment, in document order. The fuel bounds the
depth. -/
def outsideUpTo (f : Forest) (markers : List String) : Nat → NodeId → List NodeId
  | 0, _ => []
  | fuel + 1, n => (f.children n).flatMap (branch f markers (outsideUpTo f markers fuel))

def outside (f : Forest) (markers : List String) (n : NodeId) : List NodeId :=
  outsideUpTo f markers f.size n

/-- The fragments below a node that stand in no other fragment, in document order. -/
def outermost (f : Forest) (markers : List String) (n : NodeId) : List Fragment :=
  (outside f markers n).filterMap (ofNode? f markers)

section

variable {f : Forest} {markers : List String} {below : NodeId → List NodeId} {a c n p : NodeId}
  {i : Nat} {x : Fragment}

/-- What is known of a fragment when it is recognised. -/
theorem of_ofNode? (h : ofNode? f markers n = some x) : x.node = n ∧ x.unplaced = x := by
  unfold ofNode? at h
  split at h
  · cases h
  · split at h
    · unfold ofPre? at h
      repeat' split at h
      all_goals cases h
      all_goals exact ⟨rfl, rfl⟩
    · split at h
      · unfold ofCode? at h
        split at h
        · cases h
          exact ⟨rfl, rfl⟩
        · cases h
      · cases h

theorem ofNode?_node (h : ofNode? f markers n = some x) : x.node = n := (of_ofNode? h).1

theorem branch_fragment (h : ofNode? f markers n = some x) : branch f markers below n = [n] := by
  unfold branch
  rw [h]

theorem branch_entered (h : ofNode? f markers n = none) (ht : f.isTag n = true) :
    branch f markers below n = n :: below n := by
  unfold branch
  rw [h]
  simp [ht]

theorem branch_plain (h : ofNode? f markers n = none) (ht : f.isTag n = false) :
    branch f markers below n = [n] := by
  unfold branch
  rw [h]
  simp [ht]

theorem mem_branch : c ∈ branch f markers below n ↔
    c = n ∨ (ofNode? f markers n = none ∧ f.isTag n = true ∧ c ∈ below n) := by
  cases h : ofNode? f markers n with
  | some x => simp [branch_fragment h]
  | none =>
    cases ht : f.isTag n with
    | false => simp [branch_plain h ht]
    | true => simp [branch_entered h ht]

theorem above_of_mem_outsideUpTo (hf : f.WellFormed) (h : c ∈ outsideUpTo f markers i n) :
    f.Above n c := by
  induction i generalizing n with
  | zero => cases h
  | succ i ih =>
    obtain ⟨b, hb, hc⟩ := List.mem_flatMap.mp h
    have hn := Forest.above_of_parent? ((hf.mem_children n b).mp hb)
    obtain rfl | ⟨-, -, hc⟩ := mem_branch.mp hc
    · exact hn
    · exact hn.trans (ih hc)

theorem over_of_mem_branch (hf : f.WellFormed) (h : c ∈ branch f markers (outsideUpTo f markers i) n) :
    f.Over n c := by
  obtain rfl | ⟨-, -, hc⟩ := mem_branch.mp h
  · exact .refl c
  · exact (above_of_mem_outsideUpTo hf hc).over

/-- What stands below one child of a node does not stand below another one. -/
theorem not_over_sibling (hf : f.WellFormed) {m : NodeId} (hn : f.parent? n = some p)
    (hm : f.parent? m = some p) (hne : n ≠ m) (hc : f.Over n c) : ¬ f.Over m c := by
  -- two different children of one node cannot be over each other
  have hlow {x y : NodeId} (hx : f.parent? x = some p) (hy : f.parent? y = some p) (hxy : x ≠ y)
      (ho : f.Over x y) : False := by
    obtain h | h := ho.eq_or_above
    · exact hxy h
    · exact hf.acyclic x (Forest.above_of_over_parent (h.over_parent hy) hx)
  intro hmc
  obtain h | h := hc.total hmc
  · exact hlow hn hm hne h
  · exact hlow hm hn (Ne.symm hne) h

/-- What a child of a node is over is not over the node. -/
theorem not_over_parent (hf : f.WellFormed) (hn : f.parent? n = some p) (hc : f.Over n c) :
    ¬ f.Over c p :=
  fun h => hf.acyclic n (Forest.above_of_over_parent (hc.trans h) hn)

/-- No fragment stands between a node and what is found outside of fragments below it. -/
theorem ofNode?_of_above (hf : f.WellFormed) (h : c ∈ outsideUpTo f markers i n)
    (hn : f.Above n a) (hc : f.Above a c) : ofNode? f markers a = none := by
  induction i generalizing n with
  | zero => cases h
  | succ i ih =>
    obtain ⟨b, hb, hm⟩ := List.mem_flatMap.mp h
    have hp := (hf.mem_children n b).mp hb
    have hlow (hab : f.Above a b) : False := hf.acyclic n (hn.over_trans (hab.over_parent hp))
    obtain rfl | ⟨ho, -, hm⟩ := mem_branch.mp hm
    · exact absurd hc hlow
    · obtain h | h := hc.over.total (above_of_mem_outsideUpTo hf hm).over
      · obtain rfl | h := h.eq_or_above
        · exact ho
        · exact absurd h hlow
      · obtain rfl | h := h.eq_or_above
        · exact ho
        · exact ih hm h

theorem outsideUpTo_nodup (hf : f.WellFormed) : (outsideUpTo f markers i n).Nodup := by
  induction i generalizing n with
  | zero => exact List.nodup_nil
  | succ i ih =>
    refine List.nodup_flatMap.mpr ⟨fun c hc => ?_, ?_⟩
    · have hno : c ∉ outsideUpTo f markers i c :=
        fun hm => hf.acyclic c (above_of_mem_outsideUpTo hf hm)
      unfold branch
      split
      · exact List.nodup_singleton c
      · split
        · exact List.nodup_cons.mpr ⟨hno, ih⟩
        · exact List.nodup_singleton c
    · refine (hf.nodup n).imp_of_mem fun {a b} ha hb hne => ?_
      intro c hca hcb
      exact not_over_sibling hf ((hf.mem_children n a).mp ha) ((hf.mem_children n b).mp hb) hne
        (over_of_mem_branch hf hca) (over_of_mem_branch hf hcb)

/-- To look deeper than a tree can be finds no more. -/
theorem outsideUpTo_eq (hf : f.WellFormed) (hn : n < f.size) (hi : f.size ≤ i) :
    outsideUpTo f markers i n = outside f markers n := by
  refine (Forest.Trail.single hn).stable hf (outsideUpTo f markers) (fun n hc i j => ?_)
    (fun n i j h => List.flatMap_congr fun c hc => ?_) (by omega) (by omega)
  · cases i <;> cases j <;> simp [outsideUpTo, hc]
  · unfold branch
    rw [h c hc]

theorem mem_outermost (hf : f.WellFormed) (h : x ∈ outermost f markers n) :
    f.Above n x.node ∧ ofNode? f markers x.node = some x ∧
      ∀ a, f.Above n a → f.Above a x.node → ofNode? f markers a = none := by
  obtain ⟨c, hc, hx⟩ := List.mem_filterMap.mp h
  have hn := ofNode?_node hx
  subst hn
  exact ⟨above_of_mem_outsideUpTo hf hc, hx, fun a => ofNode?_of_above hf hc⟩

theorem outermost_nodup (hf : f.WellFormed) : ((outermost f markers n).map (·.node)).Nodup := by
  have hm : (outermost f markers n).map (·.node) =
      (outside f markers n).filter fun c => (ofNode? f markers c).isSome := by
    unfold outermost
    rw [List.map_filterMap, ← List.filterMap_eq_filter]
    refine List.filterMap_congr fun c _ => ?_
    cases hc : ofNode? f markers c with
    | none => simp [Option.guard, hc]
    | some x => simp [Option.guard, hc, ofNode?_node hc]
  rw [hm]
  exact (outsideUpTo_nodup hf).filter _

end

end Fragment

section

variable {s : Settings} {f₀ : Forest} {root n p : NodeId} {ns : List NodeId}
  {done rs : List (Fragment × Outcome)} {r : Fragment × Outcome} {st sr st' : Session}

/-- What was put into a tree stood neither over the root nor anywhere else, unless a fragment gave way
in the meantime. -/
def Settled (f₀ : Forest) (root : NodeId) (done : List (Fragment × Outcome)) : Prop :=
  ∀ r ∈ done, ∀ x ∈ r.2.inserted, ¬ f₀.Over x root ∧
    (f₀.parent? x = none ∨ ∃ r' ∈ done, r'.1.node = x)

/-- Where a walk that has edited a tree may stand: no fragment has given way on the way from the root
to the parent, or in the parts of the tree that are left. -/
structure Poised (f₀ : Forest) (root : NodeId) (done : List (Fragment × Outcome)) (p : NodeId)
    (ns : List NodeId) : Prop where
  settled : Settled f₀ root done
  below : f₀.Over root p
  clear : ∀ r ∈ done, ¬ f₀.Over r.1.node p
  child : ∀ n ∈ ns, f₀.parent? n = some p
  fresh : ∀ n ∈ ns, ∀ r ∈ done, ¬ f₀.Over n r.1.node
  nodup : ns.Nodup

namespace Poised

theorem not_over (h : Poised f₀ root done p (n :: ns)) (hr : r ∈ done) : ¬ f₀.Over r.1.node n := by
  intro ho
  obtain rfl | ha := ho.eq_or_above
  · exact h.fresh _ List.mem_cons_self r hr (.refl _)
  · exact h.clear r hr (ha.over_parent (h.child _ List.mem_cons_self))

/-- Nothing has happened to the next node. -/
theorem standing (h : Poised f₀ root done p (n :: ns)) : Standing f₀ done n := by
  have hp := h.child n List.mem_cons_self
  refine ⟨⟨p, hp⟩, fun a ha r hr => ⟨?_, fun hx => ?_⟩⟩
  · rintro rfl
    exact h.not_over hr ha
  · obtain ⟨hroot, hno | ⟨r', hr', rfl⟩⟩ := h.settled r hr a hx
    · -- a node without a parent that is over a node below the root is over the root
      have hrn := (Forest.above_of_over_parent h.below hp).over
      obtain ho | ho := ha.total hrn
      · exact hroot ho
      · obtain rfl | ho := ho.eq_or_above
        · exact hroot (.refl _)
        · exact Forest.not_above_of_parent?_none hno ho
    · exact h.not_over hr' ha

/-- The walk goes on behind a node. -/
theorem skip (h : Poised f₀ root done p (n :: ns)) : Poised f₀ root done p ns where
  settled := h.settled
  below := h.below
  clear := h.clear
  child m hm := h.child m (List.mem_cons_of_mem _ hm)
  fresh m hm := h.fresh m (List.mem_cons_of_mem _ hm)
  nodup := (List.nodup_cons.mp h.nodup).2

/-- The walk goes on behind a node once all that was found in its part of the tree has given way. -/
theorem next (hf : f₀.WellFormed) (h : Poised f₀ root done p (n :: ns))
    (hs : Settled f₀ root (done ++ rs)) (hrs : ∀ r ∈ rs, f₀.Over n r.1.node) :
    Poised f₀ root (done ++ rs) p ns := by
  have hp := h.child n List.mem_cons_self
  have hn := (List.nodup_cons.mp h.nodup).1
  refine ⟨hs, h.below, fun r hr => ?_, h.skip.child, fun m hm r hr => ?_, h.skip.nodup⟩
  · obtain hr | hr := List.mem_append.mp hr
    · exact h.clear r hr
    · exact Fragment.not_over_parent hf hp (hrs r hr)
  · obtain hr | hr := List.mem_append.mp hr
    · exact h.skip.fresh m hm r hr
    · exact Fragment.not_over_sibling hf hp (h.skip.child m hm) (fun he => hn (he ▸ hm))
        (hrs r hr)

/-- The walk goes through the children of a node. -/
theorem enter (hf : f₀.WellFormed) (h : Poised f₀ root done p (n :: ns)) :
    Poised f₀ root done n (f₀.children n) := by
  have hp := h.child n List.mem_cons_self
  refine ⟨h.settled, (Forest.above_of_over_parent h.below hp).over, fun r hr => h.not_over hr,
    fun c hc => (hf.mem_children n c).mp hc, fun c hc r hr ho => ?_, hf.nodup n⟩
  have hc := Forest.above_of_parent? ((hf.mem_children n c).mp hc)
  exact h.fresh n List.mem_cons_self r hr (hc.over.trans ho)

/-- What fits into the place of the next node settles. -/
theorem settles (hf : f₀.WellFormed) (h : Poised f₀ root done p (n :: ns))
    (hb : Beside f₀ done st sr) (hr : r.1.node = n) (ho : Executor.Fits n r.2 st) :
    Settled f₀ root (done ++ [r]) := by
  have hs := h.standing
  have hp := h.child n List.mem_cons_self
  intro r' hr' x hx
  obtain hr' | hr' := List.mem_append.mp hr'
  · obtain ⟨hroot, hno | ⟨q, hq, he⟩⟩ := h.settled r' hr' x hx
    · exact ⟨hroot, .inl hno⟩
    · exact ⟨hroot, .inr ⟨q, List.mem_append_left _ hq, he⟩⟩
  · obtain rfl := List.mem_singleton.mp hr'
    have hl := ho.loose x hx
    refine ⟨fun hxr => ?_, ?_⟩
    · have hxn := hxr.above_trans (Forest.above_of_over_parent h.below hp)
      exact hl.below ((hb.evolved.above_iff hf hs.inside hs.untouched).mpr hxn).over
    · cases hq : f₀.parent? x with
      | none => exact .inl rfl
      | some q =>
        -- the node stood somewhere and stands nowhere now, so it has given way
        refine .inr ?_
        by_contra hd
        have hu : Untouched done x := by
          intro r hr
          refine ⟨fun he => hd ⟨r, List.mem_append_left _ hr, he⟩, fun hx => ?_⟩
          obtain ⟨-, hno | ⟨q', hq', he⟩⟩ := h.settled r hr x hx
          · rw [hq] at hno
            cases hno
          · exact hd ⟨q', List.mem_append_left _ hq', he⟩
        have hno := hl.parent
        rw [hb.evolved.parent? (Forest.lt_size_of_parent? hq) hu, hq] at hno
        cases hno

end Poised

/-- The edit that an outcome asks for is not refused if the nodes fit. -/
theorem Executor.edit_fits {f : Fragment} {o : Outcome} {t : Forest} {l₁ l₂ : List NodeId}
    (ht : t.WellFormed) (hd : o.inserted.Nodup) (hl : ∀ m ∈ o.inserted, t.Loose f.node m)
    (hc : t.children p = l₁ ++ f.node :: l₂) :
    ∃ t', (edit f o).run t = .ok () t' ∧ t.Spliced t' p (l₁ ++ o.replacing f.node ++ l₂) := by
  cases o with
  | substituted nodes => exact Document.Edit.replaceWith_loose ht hl hd hc
  | removed =>
    refine ⟨t.extract f.node, rfl, ?_⟩
    have hs := Forest.extract_spliced ht hc
    simpa [Outcome.replacing] using hs
  | unchanged w =>
    refine ⟨t, rfl, ht, rfl, fun _ => rfl, ?_, fun _ _ => rfl⟩
    simpa [Outcome.replacing] using hc

/-- An outcome that fits is applied. -/
theorem Executor.apply_evolves {f : Fragment} {o : Outcome} (h : Beside f₀ done st sr)
    (hs : Standing f₀ done f.node) (ho : Fits f.node o st) :
    ∃ st', apply s f o st = .ok o st' ∧ Beside f₀ (done ++ [(f, o)]) st' sr ∧
      st'.journal = st.journal := by
  have hn (r : Fragment × Outcome) (hr : r ∈ done) : r.1.node ≠ f.node :=
    (hs.untouched _ (.refl _) r hr).1
  obtain ⟨p, hp⟩ := hs.parent
  have hg : sr.world.forest.parent? f.node = some p := by
    rw [hs.parent_kept h, hp]
  obtain ⟨l₁, l₂, hl, hc⟩ := h.evolved.rewritten.split h.evolved.wellFormed hg hn
  obtain ⟨t, he, ht⟩ := edit_fits h.evolved.rewritten.wellFormed ho.nodup ho.loose hc
  refine ⟨{ st with world := { st.world with forest := t } }, ?_, ?_, rfl⟩
  · unfold apply
    rw [bind_apply, applyEdit_apply, he]
    rfl
  · refine ⟨⟨h.evolved.grown, h.evolved.wellFormed, ?_⟩, fun r hr => ?_, h.world, h.cursor⟩
    · exact h.evolved.rewritten.append h.evolved.wellFormed hn hl ht
    · obtain hr | hr := List.mem_append.mp hr
      · exact h.old r hr
      · rw [List.mem_singleton.mp hr]
        exact hs.inside

/-- Two results for one fragment with outcomes that are alike. -/
def SameResult (r r' : Fragment × Outcome) : Prop := r.1 = r'.1 ∧ Outcome.Alike r.2 r'.2

/-- What a walk comes to from a session on, beside what the executions of the fragments among the given
nodes come to. -/
structure Walked (f₀ : Forest) (markers : List String) (root : NodeId)
    (done : List (Fragment × Outcome)) (st : Session) (seen : List NodeId)
    (rs : List (Fragment × Outcome)) (st' : Session) (rs' : List (Fragment × Outcome))
    (sr' : Session) : Prop where
  alike : List.Forall₂ SameResult rs rs'
  fragments : rs.map (·.1.unplaced) = seen.filterMap (Fragment.ofNode? f₀ markers)
  beside : Beside f₀ (done ++ rs) st' sr'
  settled : Settled f₀ root (done ++ rs)
  visits : ∃ steps, st'.journal = st.journal ++ steps ∧
    (steps.filterMap Step.visited?).map Prod.fst = seen

namespace Walked

variable {markers : List String} {seen more : List NodeId} {rs' qs qs' : List (Fragment × Outcome)}
  {st₁ st₂ sr₁ sr₂ : Session}

theorem nil (h : Beside f₀ done st sr) (hs : Settled f₀ root done) :
    Walked f₀ markers root done st [] [] st [] sr := by
  refine ⟨.nil, rfl, ?_, ?_, [], by simp, rfl⟩
  · rwa [List.append_nil]
  · rwa [List.append_nil]

theorem trans (h : Walked f₀ markers root done st seen rs st₁ rs' sr₁)
    (g : Walked f₀ markers root (done ++ rs) st₁ more qs st₂ qs' sr₂) :
    Walked f₀ markers root done st (seen ++ more) (rs ++ qs) st₂ (rs' ++ qs') sr₂ := by
  obtain ⟨steps, hj, hs⟩ := h.visits
  obtain ⟨steps', gj, gs⟩ := g.visits
  refine ⟨List.rel_append h.alike g.alike, ?_, ?_, ?_, steps ++ steps', ?_, ?_⟩
  · rw [List.map_append, h.fragments, g.fragments, List.filterMap_append]
  · rw [← List.append_assoc]
    exact g.beside
  · rw [← List.append_assoc]
    exact g.settled
  · rw [gj, hj, List.append_assoc]
  · rw [List.filterMap_append, List.map_append, hs, gs]

/-- A node that is no fragment is looked at first. -/
theorem looked (h : Walked f₀ markers root done (Executor.lookedAt n st) seen rs st₁ rs' sr₁)
    (hn : Fragment.ofNode? f₀ markers n = none) :
    Walked f₀ markers root done st (n :: seen) rs st₁ rs' sr₁ := by
  obtain ⟨steps, hj, hs⟩ := h.visits
  refine ⟨h.alike, ?_, h.beside, h.settled, .processed n st.world.forest :: steps, ?_, ?_⟩
  · rw [h.fragments, List.filterMap_cons, hn]
  · rw [hj]
    simp [Executor.lookedAt]
  · rw [← hs]
    rfl

/-- What a walk found is among the nodes that it looked at. -/
theorem over_of_mem (h : Walked f₀ markers root done st seen rs st₁ rs' sr₁)
    (hn : ∀ c ∈ seen, f₀.Over n c) (hr : r ∈ rs) : f₀.Over n r.1.node := by
  have hm : r.1.unplaced ∈ rs.map (·.1.unplaced) := List.mem_map.mpr ⟨r, hr, rfl⟩
  rw [h.fragments] at hm
  obtain ⟨c, hc, hx⟩ := List.mem_filterMap.mp hm
  have ho := hn c hc
  rw [← Fragment.ofNode?_node hx] at ho
  exact ho

end Walked

namespace Walk

/-- The code of the fragment at which a walk stands, if it stands at one, is tidy. -/
def Point.Tidy (s : Settings) (q : Point) : Prop :=
  ∀ n ns f, q.left = n :: ns → q.session.world.forest.parent? n = some q.parent →
    Fragment.ofNode? q.session.world.forest s.markers n = some f → f.executes = true →
      Executor.Tidy s f q.session.world

theorem lookedAt_beside (h : Beside f₀ done st sr) :
    Beside f₀ done (Executor.lookedAt n st) sr := h.of_eq rfl rfl h.cursor.symm

/-- The visit of a fragment. -/
theorem visit_agrees {x : Fragment} (hf : f₀.WellFormed) (h : Beside f₀ done st sr)
    (hp : Poised f₀ root done p (n :: ns)) (hx : Fragment.ofNode? f₀ s.markers n = some x)
    (ht : x.executes = true → Executor.Tidy s x st.world) :
    Agree (fun r st' r' sr' => ∃ q, r = some q ∧
        Walked f₀ s.markers root done st [n] [q] st' [r'] sr')
      (visit s n st) (Executor.execute s x sr) := by
  have hs := hp.standing
  have hn := Fragment.ofNode?_node hx
  subst hn
  have ho : Fragment.ofNode? st.world.forest s.markers x.node = some x := by
    rw [h.evolved.ofNode? hf hs.inside hs.untouched fun r hr ha =>
      hp.fresh _ List.mem_cons_self r hr ha.over, hx]
  have he := Executor.execute_agrees hf (lookedAt_beside (n := x.node) h) hs ht
  rw [visit_fragment ho]
  refine he.bind_left fun ⟨g, o⟩ st₁ ⟨g', o'⟩ sr₁ hr ⟨hg, hu, ha⟩ => ?_
  dsimp only at hg hu ha
  have hgn : g.node = x.node := by
    rw [← g.unplaced_node, hu, x.unplaced_node]
  have hs' : Standing f₀ done g.node := by
    rwa [hgn]
  obtain ⟨st₂, hap, hb, hj⟩ := Executor.apply_evolves ha.beside hs' (hgn ▸ ha.fits)
  rw [bind_of_ok hap]
  refine ⟨(g, o), rfl, .cons ⟨hg, ha.alike⟩ .nil, ?_, hb, hp.settles hf ha.beside hgn ha.fits, ?_⟩
  · simp [hx, hu, (Fragment.of_ofNode? hx).2]
  · obtain ⟨steps, hst, hv⟩ := (Executor.execute_accounts hr).visited
    refine ⟨.processed x.node st.world.forest :: steps, ?_, ?_⟩
    · rw [hj, hst]
      simp [Executor.lookedAt]
    · rw [List.filterMap_cons, hv]
      rfl

/-- The executions of the fragments among nodes of a tree that stays as it is. -/
def executeAll (s : Settings) (f₀ : Forest) (seen : List NodeId) :
    Engine (List (Fragment × Outcome)) :=
  (seen.filterMap (Fragment.ofNode? f₀ s.markers)).mapM (Executor.execute s)

theorem executeAll_fragment {x : Fragment} {seen : List NodeId}
    (h : Fragment.ofNode? f₀ s.markers n = some x) : executeAll s f₀ (n :: seen) =
      (do return (← Executor.execute s x) :: (← executeAll s f₀ seen)) := by
  unfold executeAll
  rw [List.filterMap_cons_some h, List.mapM_cons]

theorem executeAll_none {seen : List NodeId} (h : Fragment.ofNode? f₀ s.markers n = none) :
    executeAll s f₀ (n :: seen) = executeAll s f₀ seen := by
  unfold executeAll
  rw [List.filterMap_cons_none h]

theorem executeAll_append {seen more : List NodeId} : executeAll s f₀ (seen ++ more) =
    (do return (← executeAll s f₀ seen) ++ (← executeAll s f₀ more)) := by
  unfold executeAll
  rw [List.filterMap_append, List.mapM_append]

/-- A walk through nodes that are left comes to what the executions of the fragments among them and
below them come to. -/
theorem siblings_agree {fuel : Nat} {as : List NodeId} (hf : f₀.WellFormed)
    (hp : Poised f₀ root done p ns) (h : Beside f₀ done st sr) (ha : f₀.Trail p as)
    (hfuel : f₀.size ≤ as.length + fuel)
    (ht : ∀ q, Reaches s ⟨fuel, p, ns, st⟩ q → q.Tidy s) :
    Agree (Walked f₀ s.markers root done st
        (ns.flatMap (Fragment.branch f₀ s.markers (Fragment.outsideUpTo f₀ s.markers fuel))))
      (siblings s (children s fuel) p ns [] st)
      (executeAll s f₀
        (ns.flatMap (Fragment.branch f₀ s.markers (Fragment.outsideUpTo f₀ s.markers fuel))) sr) := by
  induction fuel using Nat.strongRecOn generalizing p ns as done st sr with
  | ind fuel ih =>
    induction ns generalizing done st sr with
    | nil => exact Walked.nil h hp.settled
    | cons n ns ihs =>
      have hs := hp.standing
      have hpar : st.world.forest.parent? n = some p := by
        rw [hs.parent_edited h]
        exact hp.child n List.mem_cons_self
      have ho : Fragment.ofNode? st.world.forest s.markers n = Fragment.ofNode? f₀ s.markers n :=
        h.evolved.ofNode? hf hs.inside hs.untouched
          fun r hr ha => hp.fresh _ List.mem_cons_self r hr ha.over
      rw [List.flatMap_cons]
      cases hx : Fragment.ofNode? f₀ s.markers n with
      | some x =>
        rw [hx] at ho
        have hv := visit_agrees hf h hp hx (ht _ (.refl _) n ns x rfl hpar ho)
        rw [Fragment.branch_fragment hx, List.singleton_append, siblings_here hpar,
          executeAll_fragment hx]
        refine hv.bind fun r st₁ r' sr₁ hv' ⟨q, hq, hw⟩ => ?_
        subst hq
        have hn : ∀ c ∈ [n], f₀.Over n c := fun c hc => List.mem_singleton.mp hc ▸ .refl c
        have hrest := ihs (hp.next hf hw.settled fun r hr => hw.over_of_mem hn hr) hw.beside
          fun y hy => ht y (.visited hpar hv' hy)
        dsimp only
        rw [siblings_append fun _ _ _ => children_append]
        exact hrest.bind fun rs st₂ rs' sr₂ _ hw₂ => hw.trans hw₂
      | none =>
        rw [hx] at ho
        have hv := visit_none ho
        have hb := lookedAt_beside (n := n) h
        have htag : (Executor.lookedAt n st).world.forest.isTag n = f₀.isTag n := by
          unfold Forest.isTag
          rw [hb.evolved.tag? hs.inside]
        cases hi : f₀.isTag n with
        | false =>
          rw [hi] at htag
          rw [siblings_plain hpar hv htag, Fragment.branch_plain hx hi, List.singleton_append,
            executeAll_none hx]
          exact (ihs hp.skip hb fun y hy => ht y (.plain hpar hv htag hy)).mono
            fun _ _ _ _ _ hw => hw.looked hx
        | true =>
          rw [hi] at htag
          rw [siblings_below hpar hv htag, Fragment.branch_entered hx hi, List.cons_append,
            executeAll_none hx, executeAll_append]
          have hc : f₀.parent? n = some p := hp.child n List.mem_cons_self
          cases fuel with
          | zero =>
            -- the nodes on the way down are distinct, so the fuel lasts
            have hl := (ha.child hf hc).length_le
            rw [List.length_cons] at hl
            omega
          | succ fuel =>
            have hcs : (Executor.lookedAt n st).world.forest.children n = f₀.children n := by
              refine hb.evolved.children hs.inside fun c hc r hr he => ?_
              have hn := Forest.above_of_parent? ((hf.mem_children n c).mp hc)
              exact hp.fresh n List.mem_cons_self r hr (he ▸ hn.over)
            have hin := ih fuel (Nat.lt_succ_self _) (hp.enter hf) hb (ha.child hf hc)
              (by rw [List.length_cons]; omega) fun y hy => ht y (.entered hpar hv htag (hcs ▸ hy))
            rw [← hcs, ← children_succ, hcs] at hin
            refine hin.bind fun rs st₂ rs' sr₂ hw' hw => ?_
            have hn (c : NodeId) (hc : c ∈ Fragment.outsideUpTo f₀ s.markers (fuel + 1) n) :
                f₀.Over n c := (Fragment.above_of_mem_outsideUpTo hf hc).over
            have hrest := ihs (hp.next hf hw.settled fun r hr => hw.over_of_mem hn hr) hw.beside
              fun y hy => ht y (.left hpar hv htag hw' hy)
            exact hrest.bind fun more st₃ more' sr₃ _ hw₂ => (hw.trans hw₂).looked hx

/-- A walk through all that stands below a node comes to what the executions of the outermost fragments
come to. -/
theorem resume_agrees {fuel : Nat} (hf : f₀.WellFormed) (hr : root < f₀.size)
    (h : Beside f₀ [] st sr) (hfuel : f₀.size ≤ fuel)
    (ht : ∀ q, Reaches s ⟨fuel, root, f₀.children root, st⟩ q → q.Tidy s) :
    Agree (Walked f₀ s.markers root [] st (Fragment.outside f₀ s.markers root))
      (resume s ⟨fuel, root, f₀.children root, st⟩ st)
      ((Fragment.outermost f₀ s.markers root).mapM (Executor.execute s) sr) := by
  have hp : Poised f₀ root [] root (f₀.children root) :=
    ⟨List.forall_mem_nil _, .refl root, List.forall_mem_nil _,
      fun n hn => (hf.mem_children root n).mp hn, fun _ _ => List.forall_mem_nil _, hf.nodup root⟩
  have ha := siblings_agree hf hp h (.single hr) (Nat.le_trans hfuel (Nat.le_add_left ..)) ht
  have hs : (f₀.children root).flatMap
      (Fragment.branch f₀ s.markers (Fragment.outsideUpTo f₀ s.markers fuel)) =
        Fragment.outside f₀ s.markers root :=
    Fragment.outsideUpTo_eq hf hr (Nat.le_succ_of_le hfuel)
  rw [hs] at ha
  exact ha

end Walk

end

/-- A run over a tree came to what a pure rewrite of the tree comes to: `rs` and `st'` are the results
of the run and the session after it, `rs'` and `sr` those of executions on the tree as it was. -/
structure Refines (f : Forest) (markers : List String) (root : NodeId) (st : Session)
    (rs : List (Fragment × Outcome)) (st' : Session) (rs' : List (Fragment × Outcome))
    (sr : Session) : Prop where
  fragments : rs.map (·.1.unplaced) = Fragment.outermost f markers root
  once : (rs.map (·.1.node)).Nodup
  alike : List.Forall₂ SameResult rs rs'
  cursor : st'.cursor = sr.cursor
  world : st'.world = { sr.world with forest := st'.world.forest }
  grown : ∃ new, sr.world.forest = f.grow new
  rewritten : Rewritten rs sr.world.forest st'.world.forest
  /-- No fragment is entered. -/
  within : ∀ r ∈ rs, ∀ n < f.size, f.Over r.1.node n → st'.world.forest.children n = f.children n
  outside : ∀ n < f.size, ¬ f.Over root n → st'.world.forest.children n = f.children n
  visits : ∃ steps, st'.journal = st.journal ++ steps ∧
    (steps.filterMap Step.visited?).map Prod.fst = Fragment.outside f markers root

theorem Walked.refines {f : Forest} {markers : List String} {root : NodeId}
    {st st₀ st₁ st' sr : Session} {rs rs' : List (Fragment × Outcome)} (hf : f.WellFormed)
    (h : Walked f markers root [] st₀ (Fragment.outside f markers root) rs st₁ rs' sr)
    (hs : st₀.journal = st.journal) (hw : st'.world = st₁.world) (hc : st'.cursor = st₁.cursor)
    (hj : st'.journal = st₁.journal) : Refines f markers root st rs st' rs' sr := by
  have hb := h.beside
  rw [List.nil_append] at hb
  have hfr : rs.map (·.1.unplaced) = Fragment.outermost f markers root := h.fragments
  have hm {r : Fragment × Outcome} (hr : r ∈ rs) :
      r.1.unplaced ∈ Fragment.outermost f markers root := by
    rw [← hfr]
    exact List.mem_map.mpr ⟨r, hr, rfl⟩
  have hkept (n : NodeId) (hn : n < f.size)
      (hno : ∀ r ∈ rs, f.parent? r.1.node ≠ some n) : st'.world.forest.children n = f.children n := by
    rw [hw]
    refine hb.evolved.children hn fun c hc r hr he => hno r hr ?_
    rw [he]
    exact (hf.mem_children n c).mp hc
  refine
    { fragments := h.fragments
      once := ?_
      alike := h.alike
      cursor := by rw [hc, hb.cursor]
      world := by rw [hw, hb.world]
      grown := hb.evolved.grown
      rewritten := hw ▸ hb.evolved.rewritten
      within := fun r hr n hn ho => hkept n hn fun r' hr' hp => ?_
      outside := fun n hn ho => hkept n hn fun r hr hp => ?_
      visits := by rw [hj, ← hs]; exact h.visits }
  · have hs : rs.map (·.1.node) = (Fragment.outermost f markers root).map (·.node) := by
      rw [← hfr, List.map_map]
      rfl
    rw [hs]
    exact Fragment.outermost_nodup hf
  · -- a fragment would stand between the root and another one
    obtain ⟨hroot, hx, -⟩ := Fragment.mem_outermost hf (hm hr)
    obtain ⟨-, -, hno⟩ := Fragment.mem_outermost hf (hm hr')
    rw [hno _ hroot (Forest.above_of_over_parent ho hp)] at hx
    cases hx
  · obtain ⟨hroot, -⟩ := Fragment.mem_outermost hf (hm hr)
    exact ho (hroot.over_parent hp)

namespace DocumentRun

variable {ev : Evaluator} {m : Machine} {config : Config} {root : NodeId} {metadata : Value}
  {options : RunOptions} {st : Session}

/-- In-place rewriting refines pure rewriting. If the code of the fragments to which a run comes is
tidy, the run comes to the same as the executions of the outermost fragments of the tree, one after the
other and on the tree as it was; where these end with results, the tree is rewritten by them. -/
theorem process_refines {w : World} (hon : enabledFor m config metadata st.world = .ok true w)
    (hf : w.forest.WellFormed) (hr : root < w.forest.size)
    (ht : ∀ s q, Comes ev m config root metadata options st s q → q.Tidy s) :
    ∃ space w', namespaceFor root metadata options w = .ok space w' ∧
      match (Fragment.outermost w.forest config.markers root).mapM
        (Executor.execute (settings ev m config options space)) { st with world := w' } with
      | .error e _ => ∃ st', process ev m config root metadata options st = .error e st'
      | .ok rs' sr => ∃ rs st',
        process ev m config root metadata options st =
          .ok { enabled := true, inputName := options.inputName, results := rs } st' ∧
        Refines w.forest config.markers root st rs st' rs' sr := by
  obtain ⟨space, w', new, hn, hg, hw⟩ := namespaceFor_grows root metadata options w
  refine ⟨space, w', hn, ?_⟩
  have hb : Beside w.forest [] { st with world := w' } { st with world := w' } :=
    ⟨⟨⟨new, hg⟩, hw hf, .refl (hw hf)⟩, List.forall_mem_nil _, rfl, rfl⟩
  have hc : w'.forest.children root = w.forest.children root := by
    rw [hg, Forest.children_grow hr]
  have hsize : w.forest.size ≤ w'.forest.size + 999 := by
    rw [hg, Forest.size_grow]
    omega
  have hsim : Agree
      (Walked w.forest config.markers root [] { st with world := w' }
        (Fragment.outside w.forest config.markers root))
      (Walk.resume (settings ev m config options space)
        ⟨w'.forest.size + 999, root, w.forest.children root, { st with world := w' }⟩
        { st with world := w' })
      ((Fragment.outermost w.forest config.markers root).mapM
        (Executor.execute (settings ev m config options space)) { st with world := w' }) :=
    Walk.resume_agrees hf hr hb hsize fun q hq =>
      ht _ q ⟨w, space, w', hon, hn, rfl, by rw [hc]; exact hq⟩
  have hrun : process ev m config root metadata options st = (do
      let results ← Walk.resume (settings ev m config options space)
        ⟨w'.forest.size + 999, root, w.forest.children root, { st with world := w' }⟩
      let run : DocumentRun := { enabled := true, inputName := options.inputName, results }
      Engine.event "fragment_run" run.summary
      return run) { st with world := w' } := by
    rw [process_on hon, bind_of_ok (Engine.lift_eq_ok.mpr ⟨w', hn, rfl⟩), perform_eq, hc]
  rw [hrun, bind_apply]
  generalize Walk.resume (settings ev m config options space)
    ⟨w'.forest.size + 999, root, w.forest.children root, { st with world := w' }⟩
    { st with world := w' } = r at hsim ⊢
  generalize (Fragment.outermost w.forest config.markers root).mapM
    (Executor.execute (settings ev m config options space)) { st with world := w' } = r' at hsim ⊢
  cases r <;> cases r'
  · exact ⟨_, _, rfl, Walked.refines hf hsim rfl rfl rfl rfl⟩
  · exact hsim.elim
  · exact hsim.elim
  · cases hsim
    exact ⟨_, rfl⟩

/-- Code that gives back its text if it stands in a line, and nothing otherwise. -/
def quoteEvaluator : Evaluator where
  Code := Option String
  compile mode text := .ok (match mode with
    | .expression => some text
    | .statements => none)
  invoke _ code := do
    modify fun w => { w with heldAttributes := [] }
    return match code with
      | some text => .str text
      | none => .none

section

variable {d : Nat} {space : Script.Ref} {s : Settings} {f : Fragment} {w : World}

theorem quote_evaluate (code : Compiled quoteEvaluator) : Executor.evaluate
    (settings quoteEvaluator (Script.machine (d + 1)) config options space) code w =
      .ok (.ok (match code.code with
        | some text => .str text
        | none => .none)) { w with heldAttributes := [] } := rfl

theorem validate_str (t : String) : Result.validate (Script.machine (d + 1)) (.str t) .inline w =
    .ok (some [w.forest.size])
      { w with forest := w.forest.grow #[⟨.text .plain t, none, []⟩] } := by
  have hc : Result.classify (Script.machine (d + 1)) (.str t) w = .ok (.scalar (.str t)) w := rfl
  unfold Result.validate
  rw [bind_of_ok hc]
  dsimp only
  rw [if_pos rfl, bind_of_ok (Script.Show.text_str d t w), Script.Element.newText,
    bind_of_ok (Script.Element.newNode_apply _ _), pure_apply]

theorem presentable_str (hm : s.machine = Script.machine (d + 1)) (hl : f.level = .inline)
    (t : String) : Executor.Presentable s f (.str t) w := by
  refine ⟨?_, fun ns w' h => ?_, fun r w' h _ => ?_⟩
  · rw [hl, hm]
    refine .of_ok (some [w.forest.size]) w (fun hf => hf.alloc (.text .plain t)) fun g hg => ?_
    rw [validate_str, hg]
  · rw [hl, hm, validate_str] at h
    cases h
    refine ⟨List.nodup_singleton _, fun n hn => ?_⟩
    rw [List.mem_singleton.mp hn]
    exact Forest.parent?_alloc _
  · rw [hm]
    exact .of_heap fun g => rfl

theorem presentable_none (hm : s.machine = Script.machine (d + 1)) (hl : f.level = .block) :
    Executor.Presentable s f .none w := by
  refine ⟨?_, fun ns w' h => ?_, fun r w' h _ => ?_⟩
  · rw [hl]
    exact .of_heap fun g => rfl
  · rw [hl] at h
    cases h
    exact ⟨List.nodup_nil, List.forall_mem_nil _⟩
  · rw [hm]
    exact .of_heap fun g => rfl

theorem quote_tidy : Executor.Tidy
    (settings quoteEvaluator (Script.machine (d + 1)) config options space) f w := by
  refine ⟨fun code _ => .of_heap fun g => rfl, fun code e w' _ h => ?_, fun code v w' hr h => ?_⟩
  · cases h.symm.trans (quote_evaluate code)
  · cases h.symm.trans (quote_evaluate code)
    unfold Executor.reading at hr
    cases hl : f.level with
    | block =>
      rw [hl] at hr
      cases hr
      exact presentable_none rfl hl
    | inline =>
      rw [hl] at hr
      cases hr
      exact presentable_str rfl hl _

end

/-- Inline code in a paragraph, and a block around code that would be a fragment by itself. -/
def nestedFragments : Session where
  world :=
    { heap := #[.dict #[(.str "python-elements", .bool true)]]
      forest :=
        ⟨#[⟨.root, none, [1, 4]⟩,
          ⟨.tag { name := "p", attrs := [] }, some 0, [2]⟩,
          ⟨.tag { name := "code", attrs := [("class", .text "python")] }, some 1, [3]⟩,
          ⟨.text .plain "one", some 2, []⟩,
          ⟨.tag { name := "pre", attrs := [] }, some 0, [5]⟩,
          ⟨.tag { name := "code", attrs := [("class", .text "python")] }, some 4, [6]⟩,
          ⟨.text .plain "two", some 5, []⟩]⟩ }

theorem nestedFragments_wellFormed : nestedFragments.world.forest.WellFormed := by
  refine .of_ordered ?_ ?_ <;> decide

/-- The switch of the document with nested fragments is on, and reading it leaves the tree alone. -/
theorem nestedFragments_on : ∃ w,
    enabledFor (Script.machine 4) {} (.ref 0) nestedFragments.world = .ok true w ∧
      w.forest = nestedFragments.world.forest := by
  have hd : enabledFor (Script.machine 4) {} (.ref 0) nestedFragments.world = _ :=
    enabledFor_dict 3 rfl
  have hok : okAnd (enabledFor (Script.machine 4) {} (.ref 0) nestedFragments.world) fun b w =>
      b && w.forest.nodes == nestedFragments.world.forest.nodes := by
    rw [hd]
    decide +kernel
  obtain ⟨b, w, hw, h⟩ := exists_of_okAnd hok
  simp only [Bool.and_eq_true, beq_iff_eq] at h
  obtain ⟨rfl, hn⟩ := h
  exact ⟨w, hw, congrArg Forest.mk hn⟩

/-- The code in the line gives way to its text, the block to nothing. -/
theorem nestedFragments_rewritten : ∃ rs st' rs' sr,
    process quoteEvaluator (Script.machine 4) {} 0 (.ref 0) {} nestedFragments =
      .ok { enabled := true, inputName := "<input>", results := rs } st' ∧
    Refines nestedFragments.world.forest ["python", "language-python"] 0 nestedFragments rs st'
      rs' sr ∧
    rs.countP (fun r => isSubstituted r.2) = 1 ∧ rs.countP (fun r => isRemoved r.2) = 1 := by
  have hd : enabledFor (Script.machine 4) {} (.ref 0) nestedFragments.world = _ :=
    enabledFor_dict 3 rfl
  have hok : okAnd (enabledFor (Script.machine 4) {} (.ref 0) nestedFragments.world) fun b w =>
      b && w.forest.nodes == nestedFragments.world.forest.nodes &&
        okAnd
          ((do
            perform quoteEvaluator (Script.machine 4) {} 0 {}
              (← Engine.lift (namespaceFor 0 (.ref 0) {}))) { nestedFragments with world := w })
          fun run _ => run.count isSubstituted == 1 && run.count isRemoved == 1 := by
    rw [hd]
    decide +kernel
  obtain ⟨b, w, hw, h⟩ := exists_of_okAnd hok
  simp only [Bool.and_eq_true, beq_iff_eq] at h
  obtain ⟨⟨rfl, hn⟩, hrun⟩ := h
  have hf : w.forest = nestedFragments.world.forest := congrArg Forest.mk hn
  rw [← process_on hw] at hrun
  obtain ⟨run, st', hrun, hcounts⟩ := exists_of_okAnd hrun
  simp only [Bool.and_eq_true, beq_iff_eq] at hcounts
  have hroot : 0 < w.forest.size := by
    rw [hf]
    decide
  have ht (s : Settings) (q : Walk.Point) (hq : Comes quoteEvaluator (Script.machine 4) {} 0 (.ref 0)
      {} nestedFragments s q) : q.Tidy s := by
    obtain ⟨_, space, _, -, -, rfl, -⟩ := hq
    exact fun n ns f _ _ _ _ => quote_tidy
  obtain ⟨space, w', -, hr⟩ :=
    process_refines hw (hf ▸ nestedFragments_wellFormed) hroot ht
  split at hr
  · obtain ⟨st', he⟩ := hr
    rw [hrun] at he
    cases he
  · obtain ⟨rs, st', he, hr⟩ := hr
    rw [hrun] at he
    cases he
    exact ⟨rs, _, _, _, hrun, hf ▸ hr, hcounts⟩

end DocumentRun

end LiveMarkdown
