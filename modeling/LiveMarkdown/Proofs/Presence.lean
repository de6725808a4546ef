import LiveMarkdown.Proofs.Passage

/-!
Where the fragments of a run stand when they are visited and when their outcomes are applied. Code that
takes out a node above its own fragment goes unnoticed, and so does code that puts a visited node back
under a node that is still to be entered. Where code does neither, all that is visited stands below the
root and is visited once. What is put into the place of a fragment stands below the root just if the
fragment did.
-/

namespace LiveMarkdown

open Document (NodeId Forest)
open Script (Machine Value Run Stop World)

namespace DocumentRun

variable {ev : Evaluator} {m : Machine} {config : Config} {root : NodeId} {metadata : Value}
  {options : RunOptions} {run : DocumentRun} {s : Settings} {q : Walk.Point} {st st' : Session}

/-- The walk of a run starts in a well-formed forest. -/
theorem start_wellFormed {w w' : World} {space : Script.Ref}
    (he : LeavesTree (enabledFor m config metadata) st.world)
    (hw : enabledFor m config metadata st.world = .ok true w)
    (hn : namespaceFor root metadata options w = .ok space w') : w'.forest.WellFormed := by
  obtain ⟨_, _, new, hg, -, hf⟩ := namespaceFor_grows root metadata options w
  rw [hn] at hg
  cases hg
  exact hf (he _ _ hw)

/-- Careful code leaves a well-formed forest wherever the walk of a run comes to. -/
theorem comes_wellFormed (he : LeavesTree (enabledFor m config metadata) st.world)
    (hc : ∀ s q, Comes ev m config root metadata options st s q → q.Careful s)
    (hq : Comes ev m config root metadata options st s q) : q.session.world.forest.WellFormed := by
  obtain ⟨w, space, w', hw, hn, rfl, hr⟩ := hq
  exact Walk.wellFormed_invariant.reaches hr
    (fun q hq => hc _ q ⟨w, space, w', hw, hn, rfl, hq⟩) (start_wellFormed he hw hn)

/-- Where the code of the fragments to which a run comes is careful, and keeps the places of what
stands above its fragment and of what was visited, all that is visited stands below the root then, and
nothing is visited twice. -/
theorem process_visits_below (hj : st.journal = [])
    (he : LeavesTree (enabledFor m config metadata) st.world)
    (hc : ∀ s q, Comes ev m config root metadata options st s q → q.Careful s)
    (hk : ∀ s q, Comes ev m config root metadata options st s q → q.KeepsPlaces s root) :
    (∀ s q n, Comes ev m config root metadata options st s q → q.At n →
      q.session.world.forest.Above root n ∧ n ∉ q.session.visited) ∧
    ∀ run st', process ev m config root metadata options st = .ok run st' →
      (∀ x ∈ st'.visits, x.2.Above root x.1) ∧ st'.visited.Nodup := by
  have hv : st.visits = [] := by
    unfold Session.visits
    rw [hj]
    rfl
  have hstart {w' : World} (hf : w'.forest.WellFormed) : Walk.Orderly root
      ⟨w'.forest.size + 999, root, w'.forest.children root, { st with world := w' }⟩ :=
    Walk.Orderly.start { st with world := w' } hf hv
  have hC (s : Settings) (q : Walk.Point) (hq : Comes ev m config root metadata options st s q) :
      q.session.world.forest.WellFormed ∧ q.KeepsPlaces s root :=
    ⟨comes_wellFormed he hc hq, hk s q hq⟩
  refine ⟨?_, fun run st' h => ?_⟩
  · rintro s ⟨fuel, parent, _, st₁⟩ n ⟨w, space, w', hw, hn, rfl, hr⟩ ⟨⟨ns, rfl⟩, hp⟩
    have ho := Walk.orderly_invariant.reaches hr
      (fun q hq => hC _ q ⟨w, space, w', hw, hn, rfl, hq⟩) (hstart (start_wellFormed he hw hn))
    exact ho.next hp
  · obtain ⟨w, -, -, rfl⟩ | ⟨w, space, w', hw, hn, h⟩ := process_ok h
    · refine ⟨fun x hx => ?_, ?_⟩
      · change x ∈ st.visits at hx
        rw [hv] at hx
        cases hx
      · change (st.visits.map Prod.fst).Nodup
        rw [hv]
        exact List.nodup_nil
    · rw [perform_eq] at h
      obtain ⟨rs, st₂, hr, h⟩ := bind_eq_ok.mp h
      cases h
      obtain ⟨-, hs⟩ := Walk.orderly_invariant.completes (Walk.completes_of_resume hr)
        (fun q hq => hC _ q ⟨w, space, w', hw, hn, rfl, hq⟩) (hstart (start_wellFormed he hw hn))
      exact ⟨hs.below, hs.once⟩

/-- Code that returns nothing. -/
def silentEvaluator : Evaluator where
  Code := Unit
  compile _ _ := .ok ()
  invoke _ _ := do
    modify fun w => { w with heldAttributes := [] }
    return .none

section

variable {d : Nat} {space : Script.Ref} {f g : Fragment} {o : Outcome} {w : World} {n : NodeId}
  {r : Fragment × Outcome} {st₁ : Session}

theorem silent_evaluate (code : Compiled silentEvaluator) : Executor.evaluate
    (settings silentEvaluator (Script.machine (d + 1)) config options space) code w =
      .ok (.ok .none) { w with heldAttributes := [] } := rfl

theorem safeShown_none : ∃ x, Exception.safeShown (Script.machine (d + 1)) .none w = .ok x w :=
  ⟨_, rfl⟩

theorem classify_none (m : Machine) : Result.classify m .none w = .ok .nil w := rfl

theorem validate_none (m : Machine) (level : Level) : Result.validate m .none level w =
    .ok (if level = .block then some [] else none) w := by
  unfold Result.validate
  rw [bind_of_ok (classify_none m)]
  rfl

theorem harmless_none (hm : s.machine = Script.machine (d + 1)) (hf : w.forest.WellFormed) :
    Executor.Harmless s f .none w := by
  refine ⟨fun a w' h => ?_, fun x w' h => ?_, fun r w' h _ a w'' hs => ?_⟩
  · rw [classify_none] at h
    cases h
    exact hf
  · rw [classify_none] at h
    cases h
  · rw [validate_none] at h
    cases h
    obtain ⟨x, hx⟩ := safeShown_none (d := d) (w := w)
    rw [hm, hx] at hs
    cases hs
    exact hf

theorem silent_careful (hf : w.forest.WellFormed) : Executor.Careful
    (settings silentEvaluator (Script.machine (d + 1)) config options space) f w := by
  refine ⟨fun code _ a w' h => ?_, fun code e w' _ h => ?_, fun code v w' _ h => ?_⟩
  · cases h.symm.trans (silent_evaluate code)
    exact hf
  · cases h.symm.trans (silent_evaluate code)
  · cases h.symm.trans (silent_evaluate code)
    exact harmless_none rfl hf

theorem silent_attempt (h : Executor.attempt
    (settings silentEvaluator (Script.machine (d + 1)) config options space) f st = .ok o st₁) :
    st₁.world.forest = st.world.forest ∧ (o = .removed ∨ ∃ x, o = .unchanged x) := by
  unfold Executor.attempt at h
  rw [bind_of_ok Executor.compile_apply] at h
  have hr : ∃ c, Executor.reading
      (settings silentEvaluator (Script.machine (d + 1)) config options space) f = .ok c := by
    unfold Executor.reading
    cases f.level <;> exact ⟨_, rfl⟩
  obtain ⟨c, hr⟩ := hr
  rw [hr] at h
  obtain ⟨v, st₂, hi, h⟩ := bind_eq_ok.mp h
  unfold Executor.invoke at hi
  rw [bind_of_ok (Engine.note_apply _)] at hi
  obtain ⟨w, hw, rfl⟩ := Engine.lift_eq_ok.mp hi
  cases hw.symm.trans (silent_evaluate c)
  obtain ⟨r, st₃, hv, h⟩ := bind_eq_ok.mp h
  obtain ⟨w, hw, rfl⟩ := Engine.lift_eq_ok.mp hv
  rw [validate_none] at hw
  cases hw
  have hc : (Executor.compiled
      (settings silentEvaluator (Script.machine (d + 1)) config options space) f st).world.forest =
        st.world.forest := by
    rw [Executor.compiled_world]
  cases hl : f.level with
  | block =>
    rw [hl] at h
    cases h
    exact ⟨hc, .inl rfl⟩
  | inline =>
    rw [hl] at h
    obtain ⟨x, st₄, hs, h⟩ := bind_eq_ok.mp h
    obtain ⟨w, hw, rfl⟩ := Engine.lift_eq_ok.mp hs
    obtain ⟨y, hy⟩ := safeShown_none (d := d)
    cases hw.symm.trans hy
    rw [Executor.fail_apply] at h
    cases h
    exact ⟨hc, .inr ⟨_, rfl⟩⟩

theorem silent_execute (h : Executor.execute
    (settings silentEvaluator (Script.machine (d + 1)) config options space) f st = .ok (g, o) st₁) :
    st₁.world.forest = st.world.forest ∧ (o = .removed ∨ ∃ x, o = .unchanged x) := by
  cases hx : f.executes with
  | false =>
    rw [Executor.execute_off hx] at h
    cases h
    refine ⟨rfl, ?_⟩
    unfold Executor.withheld
    split
    · exact .inl rfl
    · exact .inr ⟨_, rfl⟩
  | true =>
    rw [Executor.execute_on hx] at h
    obtain ⟨o', st₂, ha, h⟩ := bind_eq_ok.mp h
    cases h
    have hl : (Executor.located (settings silentEvaluator (Script.machine (d + 1)) config options space)
        f.text f.level st).world.forest = st.world.forest := rfl
    rw [← hl]
    exact silent_attempt ha

/-- Code that returns nothing takes its fragment out or leaves it where it is. -/
theorem silent_keepsPlaces (hf : st.world.forest.WellFormed) (seen : List NodeId)
    (h : Walk.visit (settings silentEvaluator (Script.machine (d + 1)) config options space) n st =
      .ok (some r) st₁) : KeepsPlaces root n seen st.world.forest st₁.world.forest := by
  cases hx : Fragment.ofNode? st.world.forest config.markers n with
  | none =>
    rw [Walk.visit_none hx] at h
    cases h
  | some x =>
    rw [Walk.visit_fragment hx] at h
    obtain ⟨⟨g, o⟩, st₂, he, h⟩ := bind_eq_ok.mp h
    have hn : g.node = n := by
      rw [Executor.execute_node he, Fragment.ofNode?_node hx]
    obtain ⟨ht, rfl | ⟨y, rfl⟩⟩ := silent_execute he
    · cases h
      change KeepsPlaces root n seen st.world.forest (st₂.world.forest.extract g.node)
      rw [ht, hn]
      exact .extract root n seen hf
    · cases h
      rw [ht]
      exact .refl ..

end

theorem nestedFragments_leavesTree :
    LeavesTree (enabledFor (Script.machine 4) {} (.ref 0)) nestedFragments.world := by
  obtain ⟨w, hw, hf⟩ := nestedFragments_on
  intro b w' h
  cases hw.symm.trans h
  exact hf ▸ nestedFragments_wellFormed

/-- The paragraph, the code in it and the block are visited, each of them once. -/
theorem nestedFragments_visited : ∃ run st',
    process silentEvaluator (Script.machine 4) {} 0 (.ref 0) {} nestedFragments = .ok run st' ∧
      st'.visited = [1, 2, 4] ∧ (∀ x ∈ st'.visits, x.2.Above 0 x.1) ∧ st'.visited.Nodup := by
  have hd : enabledFor (Script.machine 4) {} (.ref 0) nestedFragments.world = _ :=
    enabledFor_dict 3 rfl
  have hok : okAnd (process silentEvaluator (Script.machine 4) {} 0 (.ref 0) {} nestedFragments)
      fun _ st' => st'.visited == [1, 2, 4] := by
    rw [process_eq, hd]
    decide +kernel
  obtain ⟨run, st', h, hv⟩ := exists_of_okAnd hok
  rw [beq_iff_eq] at hv
  have hc (s : Settings) (q : Walk.Point) (hq : Comes silentEvaluator (Script.machine 4) {} 0 (.ref 0)
      {} nestedFragments s q) : q.Careful s := by
    obtain ⟨_, space, _, -, -, rfl, -⟩ := hq
    exact fun n f _ hf _ _ => silent_careful hf
  have hk (s : Settings) (q : Walk.Point) (hq : Comes silentEvaluator (Script.machine 4) {} 0 (.ref 0)
      {} nestedFragments s q) : q.KeepsPlaces s 0 := by
    have hf := comes_wellFormed nestedFragments_leavesTree hc hq
    obtain ⟨_, space, _, -, -, rfl, -⟩ := hq
    exact fun n r st' _ h => silent_keepsPlaces hf _ h
  obtain ⟨hb, ho⟩ := (process_visits_below rfl nestedFragments_leavesTree hc hk).2 run st' h
  exact ⟨run, st', h, hv, hb, ho⟩

/-- Code that returns its text, and takes the second node out of the tree if the text says so. -/
def cuttingEvaluator : Evaluator where
  Code := String
  compile _ text := .ok text
  invoke _ text := do
    if text = "cut" then modify fun w => { w with forest := w.forest.extract 1 }
    return .str text

/-- Two pieces of code in a division, of which the first one takes the division out. -/
def severedFragments : Session where
  world :=
    { heap := #[.dict #[(.str "python-elements", .bool true)]]
      forest :=
        ⟨#[⟨.root, none, [1]⟩,
          ⟨.tag { name := "div", attrs := [] }, some 0, [2, 4]⟩,
          ⟨.tag { name := "code", attrs := [("class", .text "python")] }, some 1, [3]⟩,
          ⟨.text .plain "cut", some 2, []⟩,
          ⟨.tag { name := "code", attrs := [("class", .text "python")] }, some 1, [5]⟩,
          ⟨.text .plain "one", some 4, []⟩]⟩ }

/-- The second piece is executed though it does not stand below the root by then. -/
theorem severedFragments_visited : ∃ run st' t,
    process cuttingEvaluator (Script.machine 4) {} 0 (.ref 0) {} severedFragments = .ok run st' ∧
      (4, t) ∈ st'.visits ∧ run.count isSubstituted = 2 ∧ ¬ t.Above 0 4 := by
  have hd : enabledFor (Script.machine 4) {} (.ref 0) severedFragments.world = _ :=
    enabledFor_dict 3 rfl
  have hok : okAnd (process cuttingEvaluator (Script.machine 4) {} 0 (.ref 0) {} severedFragments)
      fun run st' => run.count isSubstituted == 2 && st'.visits.any fun x =>
        x.1 == 4 && x.2.parent? 4 == some 1 && x.2.parent? 1 == none := by
    rw [process_eq, hd]
    decide +kernel
  obtain ⟨run, st', h, hr⟩ := exists_of_okAnd hok
  simp only [Bool.and_eq_true, beq_iff_eq, List.any_eq_true] at hr
  obtain ⟨hs, ⟨_, t⟩, hx, ⟨rfl, hp⟩, hc⟩ := hr
  exact ⟨run, st', t, h, hx, hs, Forest.not_above_of_apart hp hc (by decide)⟩

/-- Where the code of the fragments to which a run comes is careful, each substitution that the run
records was applied to a fragment that stood somewhere, and what it put there stood below the root
right after that just if the fragment did right before it. -/
theorem process_substitutes_below {f : Fragment} {nodes : List NodeId}
    (he : LeavesTree (enabledFor m config metadata) st.world)
    (hc : ∀ s q, Comes ev m config root metadata options st s q → q.Careful s)
    (h : process ev m config root metadata options st = .ok run st')
    (hr : (f, .substituted nodes) ∈ run.results) :
    ∃ s q n st₁ st₂, Comes ev m config root metadata options st s q ∧ q.At n ∧
      Executor.process s n q.session = .ok (some (f, .substituted nodes)) st₁ ∧
      Executor.apply s f (.substituted nodes) st₁ = .ok (.substituted nodes) st₂ ∧
      (∃ p, st₁.world.forest.parent? f.node = some p) ∧
      ∀ k ∈ nodes, st₂.world.forest.Above root k ↔ st₁.world.forest.Above root f.node := by
  obtain ⟨w, -, rfl, -⟩ | ⟨w, space, w', hw, hn, h⟩ := process_ok h
  · cases hr
  · rw [perform_eq] at h
    obtain ⟨rs, st₂, hrs, h⟩ := bind_eq_ok.mp h
    cases h
    obtain ⟨q, n, st₃, hq, hat, hv⟩ := (Walk.completes_of_resume hrs).exists_visit hr
    have hq : Comes ev m config root metadata options st _ q := ⟨w, space, w', hw, hn, rfl, hq⟩
    obtain ⟨-, hv⟩ | ⟨g, o, o', st₁, hp, ha, hv⟩ := Walk.visit_eq_ok.mp hv
    · cases hv
    cases hv
    have hf := comes_wellFormed he hc hq
    obtain ⟨hf₁, hacc⟩ := Executor.process_accepts hf (fun x => hc _ q hq n x hat hf) hp
    obtain ⟨t, hap, happ⟩ := Executor.apply_accepted hf₁ hacc
    rw [ha] at hap
    cases hap
    have hac := hacc nodes rfl
    exact ⟨_, q, n, st₁, _, hq, hat, hp, ha, hac.parent, hac.above_iff hf₁ happ root⟩

section

variable {d : Nat} {space : Script.Ref} {f : Fragment} {w : World}

theorem safeShown_str (t : String) :
    ∃ x, Exception.safeShown (Script.machine (d + 1)) (.str t) w = .ok x w := ⟨_, rfl⟩

theorem classify_str (m : Machine) (t : String) :
    Result.classify m (.str t) w = .ok (.scalar (.str t)) w := rfl

theorem harmless_str {t : String} (hm : s.machine = Script.machine (d + 1))
    (hf : w.forest.WellFormed) : Executor.Harmless s f (.str t) w := by
  refine ⟨fun a w' h => ?_, fun x w' h a w'' ht => ?_, fun r w' h _ a w'' hs => ?_⟩
  · rw [classify_str] at h
    cases h
    exact hf
  · rw [classify_str] at h
    cases h
    rw [hm, Script.Show.text_str] at ht
    cases ht
    exact hf
  · have hw : w'.forest.WellFormed := by
      cases hl : f.level with
      | inline =>
        rw [hl, hm, validate_str] at h
        cases h
        exact hf.alloc _
      | block =>
        rw [hl] at h
        unfold Result.validate at h
        rw [bind_of_ok (classify_str ..)] at h
        cases h
        exact hf
    obtain ⟨x, hx⟩ := safeShown_str (d := d) (w := w') t
    rw [hm, hx] at hs
    cases hs
    exact hw

theorem quote_careful (hf : w.forest.WellFormed) : Executor.Careful
    (settings quoteEvaluator (Script.machine (d + 1)) config options space) f w := by
  refine ⟨fun code _ a w' h => ?_, fun code e w' _ h => ?_, fun code v w' _ h => ?_⟩
  · cases h.symm.trans (quote_evaluate code)
    exact hf
  · cases h.symm.trans (quote_evaluate code)
  · cases h.symm.trans (quote_evaluate code)
    obtain ⟨mode, text, code, -⟩ := code
    cases code with
    | none => exact harmless_none rfl hf
    | some t =>
      change Executor.Harmless _ f (.str t) _
      exact harmless_str rfl hf

end

theorem eq_substituted {o : Outcome} (h : isSubstituted o = true) : o = .substituted o.inserted := by
  cases o with
  | substituted nodes => rfl
  | removed => cases h
  | unchanged x => cases h

/-- The text that is put into the paragraph stands below the root just if the code did. -/
theorem nestedFragments_substituted : ∃ run st' f k,
    process quoteEvaluator (Script.machine 4) {} 0 (.ref 0) {} nestedFragments = .ok run st' ∧
      (f, .substituted [k]) ∈ run.results ∧ ∃ s n st₀ st₁ st₂,
        Executor.process s n st₀ = .ok (some (f, .substituted [k])) st₁ ∧
        Executor.apply s f (.substituted [k]) st₁ = .ok (.substituted [k]) st₂ ∧
        (st₂.world.forest.Above 0 k ↔ st₁.world.forest.Above 0 f.node) := by
  have hd : enabledFor (Script.machine 4) {} (.ref 0) nestedFragments.world = _ :=
    enabledFor_dict 3 rfl
  have hok : okAnd (process quoteEvaluator (Script.machine 4) {} 0 (.ref 0) {} nestedFragments)
      fun run _ => run.results.any fun r => isSubstituted r.2 && r.2.inserted.length == 1 := by
    rw [process_eq, hd]
    decide +kernel
  obtain ⟨run, st', h, hr⟩ := exists_of_okAnd hok
  simp only [Bool.and_eq_true, beq_iff_eq, List.any_eq_true] at hr
  obtain ⟨⟨f, o⟩, hr, hs, hl⟩ := hr
  obtain ⟨k, hk⟩ := List.length_eq_one_iff.mp hl
  obtain rfl : o = .substituted [k] := hk ▸ eq_substituted hs
  have hc (s : Settings) (q : Walk.Point) (hq : Comes quoteEvaluator (Script.machine 4) {} 0 (.ref 0)
      {} nestedFragments s q) : q.Careful s := by
    obtain ⟨_, space, _, -, -, rfl, -⟩ := hq
    exact fun n f _ hf _ _ => quote_careful hf
  obtain ⟨s, q, n, st₁, st₂, -, -, hp, ha, -, hi⟩ :=
    process_substitutes_below nestedFragments_leavesTree hc h hr
  exact ⟨run, st', f, k, h, hr, s, n, _, st₁, st₂, hp, ha, hi k (List.mem_singleton_self k)⟩

/-- A piece of code in a division that it takes out. -/
def severedFragment : Session where
  world :=
    { heap := #[.dict #[(.str "python-elements", .bool true)]]
      forest :=
        ⟨#[⟨.root, none, [1]⟩,
          ⟨.tag { name := "div", attrs := [] }, some 0, [2]⟩,
          ⟨.tag { name := "code", attrs := [("class", .text "python")] }, some 1, [3]⟩,
          ⟨.text .plain "cut", some 2, []⟩]⟩ }

/-- What the code returns is recorded as a substitution, and stands outside of the document. -/
theorem severedFragment_substituted : ∃ run st' f nodes k,
    process cuttingEvaluator (Script.machine 4) {} 0 (.ref 0) {} severedFragment = .ok run st' ∧
      run.results = [(f, .substituted nodes)] ∧ k ∈ nodes ∧ ¬ st'.world.forest.Above 0 k := by
  have hd : enabledFor (Script.machine 4) {} (.ref 0) severedFragment.world = _ :=
    enabledFor_dict 3 rfl
  have hok : okAnd (process cuttingEvaluator (Script.machine 4) {} 0 (.ref 0) {} severedFragment)
      fun run st' => run.results.length == 1 && run.results.all fun r => isSubstituted r.2 &&
        r.2.inserted.any fun k =>
          st'.world.forest.parent? k == some 1 && st'.world.forest.parent? 1 == none := by
    rw [process_eq, hd]
    decide +kernel
  obtain ⟨run, st', h, hr⟩ := exists_of_okAnd hok
  simp only [Bool.and_eq_true, beq_iff_eq, List.all_eq_true, List.any_eq_true] at hr
  obtain ⟨hl, hr⟩ := hr
  obtain ⟨⟨f, o⟩, hf⟩ := List.length_eq_one_iff.mp hl
  obtain ⟨hs, k, hk, hp, hc⟩ := hr (f, o) (by simp [hf])
  have ho : o = .substituted o.inserted := eq_substituted hs
  rw [ho] at hf
  exact ⟨run, st', f, o.inserted, k, h, hf, hk, Forest.not_above_of_apart hp hc (by decide)⟩

end DocumentRun

end LiveMarkdown
