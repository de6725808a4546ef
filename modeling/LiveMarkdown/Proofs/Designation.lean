import LiveMarkdown.Proofs.Cursor
import LiveMarkdown.Proofs.Presence
import LiveMarkdown.Proofs.Undisturbed

/-!
Where the fragments of a document stand in its source. If the source holds the fragments one after the
other and their texts nowhere else, each fragment that is executed is told the place where it stands,
unless a fragment that is switched off has the same text and hides it.
-/

namespace LiveMarkdown

open Document (NodeId Forest)
open Script (World)
open Text (OccursAt)

theorem Text.occursAt_append {α : Type} {pre text needle : List α} {k : Nat}
    (h : OccursAt needle text k) : OccursAt needle (pre ++ text) (pre.length + k) := by
  have hl : pre.length ≤ (pre ++ text).length := by
    rw [List.length_append]
    exact Nat.le_add_right ..
  rw [← Text.occursAt_drop hl, List.drop_left]
  exact h

/-- What is searched for in the source to find a fragment. -/
def Fragment.needle (f : Fragment) : List Char := Source.needle f.text f.level

/-! ### The places of fragments -/

/-- A source in which fragments stand one after the other, with other text around them; beside each
fragment is the place where it begins. -/
inductive Woven : List Char → List (Fragment × Nat) → Prop where
  | nil (gap : List Char) : Woven gap []
  | cons {rest : List Char} {marks : List (Fragment × Nat)} (gap : List Char) (x : Fragment)
      (h : Woven rest marks) : Woven (gap ++ (x.needle ++ rest))
        ((x, gap.length) :: marks.map fun m => (m.1, gap.length + (x.needle.length + m.2)))

/-- A source that holds fragments one after the other, and their needles at no other places. -/
structure Designated (source : List Char) (marks : List (Fragment × Nat)) : Prop where
  woven : Woven source marks
  only : ∀ m ∈ marks, ∀ k, OccursAt m.1.needle source k →
    ∃ m' ∈ marks, m'.1.needle = m.1.needle ∧ m'.2 = k

/-- Between an executed fragment and the one that is executed before it, no fragment that is switched
off has its needle. -/
def Unshadowed (xs : List Fragment) : Prop :=
  ∀ before y after, xs = before ++ y :: after → y.executes = true →
    ∀ x ∈ before.rtakeWhile fun z => !z.executes, x.needle ≠ y.needle

/-- Where all is executed, nothing is hidden. -/
theorem unshadowed_of_executes {xs : List Fragment} (h : ∀ x ∈ xs, x.executes = true) :
    Unshadowed xs := by
  rintro before y after rfl - x hx
  have hoff := List.mem_rtakeWhile_imp hx
  have hon := h x (List.mem_append_left _ (List.rtakeWhile_suffix _ _ |>.mem hx))
  rw [hon] at hoff
  cases hoff

section

variable {source : List Char} {marks done rest : List (Fragment × Nat)} {m : Fragment × Nat}
  {s : String} {c : Nat}

namespace Woven

/-- Each fragment stands at its place. -/
theorem occurs (h : Woven source marks) : ∀ m ∈ marks, OccursAt m.1.needle source m.2 := by
  induction h with
  | nil gap => exact List.forall_mem_nil _
  | @cons rest marks gap x _ ih =>
    intro m hm
    obtain rfl | hm := List.mem_cons.mp hm
    · have hx : OccursAt x.needle (x.needle ++ rest) 0 :=
        Text.occursAt_zero.mpr (List.prefix_append _ _)
      exact Text.occursAt_append hx
    · obtain ⟨m', hm', rfl⟩ := List.mem_map.mp hm
      exact Text.occursAt_append (Text.occursAt_append (ih m' hm'))

/-- Later fragments stand behind the ends of those before them. -/
theorem ordered (h : Woven source marks) :
    marks.Pairwise fun a b => a.2 + a.1.needle.length ≤ b.2 := by
  induction h with
  | nil gap => exact .nil
  | cons gap x _ ih =>
    refine List.pairwise_cons.mpr ⟨fun m hm => ?_, ?_⟩
    · obtain ⟨m', -, rfl⟩ := List.mem_map.mp hm
      dsimp only
      omega
    · rw [List.pairwise_map]
      refine ih.imp fun {a b} hab => ?_
      dsimp only
      omega

end Woven

/-- Where the cursor stands between fragments: behind those up to the last executed one, and before all
that are to come. -/
structure Between (done : List (Fragment × Nat)) (c : Nat) (rest : List (Fragment × Nat)) :
    Prop where
  behind : ∀ m ∈ done.rdropWhile fun m => !m.1.executes, m.2 + m.1.needle.length ≤ c
  ahead : ∀ m ∈ rest, c ≤ m.2

theorem mem_rdropWhile_or {α : Type} {p : α → Bool} {l : List α} {a : α} (h : a ∈ l) :
    a ∈ l.rdropWhile p ∨ a ∈ l.rtakeWhile p := by
  have hr : a ∈ l.reverse.takeWhile p ++ l.reverse.dropWhile p := by
    rw [List.takeWhile_append_dropWhile]
    exact List.mem_reverse.mpr h
  obtain hr | hr := List.mem_append.mp hr
  · exact .inr (List.mem_reverse.mpr hr)
  · exact .inl (List.mem_reverse.mpr hr)

/-- An executed fragment is found at its place. -/
theorem Designated.locate_eq (hd : Designated s.toList (done ++ m :: rest))
    (hu : Unshadowed ((done ++ m :: rest).map Prod.fst)) (hc : Between done c (m :: rest))
    (hx : m.1.executes = true) (hne : m.1.needle ≠ []) :
    Source.locate s m.1.text c m.1.level =
      (Source.positionAt s.toList m.1.level m.2, ((m.2 + m.1.needle.length : Nat) : Int)) := by
  have hlen := List.length_pos_iff.mpr hne
  have hmem : m ∈ done ++ m :: rest := List.mem_append_right _ List.mem_cons_self
  have hocc := hd.woven.occurs m hmem
  obtain ⟨-, hrest, -⟩ := List.pairwise_append.mp hd.woven.ordered
  refine Source.locate_of_first ?_ (hc.ahead m List.mem_cons_self) hocc fun j hj hjm hoj => ?_
  · have hl := hocc.le_length
    exact List.ne_nil_of_length_pos (by omega)
  · -- the needle would stand at the place of another fragment, at or behind the cursor
    obtain ⟨m', hm', hn, rfl⟩ := hd.only m hmem j hoj
    obtain hm' | hm' := List.mem_append.mp hm'
    · obtain hm' | hm' := mem_rdropWhile_or (p := fun m => !m.1.executes) hm'
      · have hb := hc.behind m' hm'
        rw [hn] at hb
        omega
      · refine hu (done.map Prod.fst) m.1 (rest.map Prod.fst) (by simp) hx m'.1 ?_ hn
        have he : (done.map Prod.fst).rtakeWhile (fun z => !z.executes) =
            (done.rtakeWhile fun m => !m.1.executes).map Prod.fst := by
          unfold List.rtakeWhile
          rw [← List.map_reverse, List.takeWhile_map, List.map_reverse]
          rfl
        rw [he]
        exact List.mem_map_of_mem hm'
    · obtain rfl | hm' := List.mem_cons.mp hm'
      · omega
      · have hb := (List.pairwise_cons.mp hrest).1 m' hm'
        omega

/-- The cursor passes a fragment. -/
theorem Between.pass (h : Between done c (m :: rest)) (hd : Designated s.toList (done ++ m :: rest))
    (hu : Unshadowed ((done ++ m :: rest).map Prod.fst))
    (hne : m.1.executes = true → m.1.needle ≠ []) :
    ∃ c' : Nat, m.1.pass s c = c' ∧ Between (done ++ [m]) c' rest := by
  unfold Fragment.pass
  obtain ⟨-, hrest, hcross⟩ := List.pairwise_append.mp hd.woven.ordered
  cases hx : m.1.executes with
  | false =>
    refine ⟨c, if_neg (by simp), ?_, fun m' hm' => h.ahead m' (List.mem_cons_of_mem _ hm')⟩
    rw [List.rdropWhile_concat_pos _ _ _ (by simp [hx])]
    exact h.behind
  | true =>
    refine ⟨m.2 + m.1.needle.length, ?_, ?_, (List.pairwise_cons.mp hrest).1⟩
    · rw [if_pos rfl, hd.locate_eq hu h hx (hne hx)]
    · rw [List.rdropWhile_concat_neg _ _ _ (by simp [hx])]
      intro m' hm'
      obtain hm' | hm' := List.mem_append.mp hm'
      · have hb := hcross m' hm' m List.mem_cons_self
        omega
      · rw [List.mem_singleton.mp hm']

/-- The cursor behind the first fragments stands before all others. -/
theorem Designated.between (hd : Designated s.toList (done ++ rest))
    (hu : Unshadowed ((done ++ rest).map Prod.fst))
    (hne : ∀ m ∈ done ++ rest, m.1.executes = true → m.1.needle ≠ []) :
    ∃ c : Nat, (done.map Prod.fst).foldl (Fragment.pass s) 0 = c ∧ Between done c rest := by
  induction done using List.reverseRecOn generalizing rest with
  | nil => exact ⟨0, rfl, List.forall_mem_nil _, fun _ _ => Nat.zero_le _⟩
  | append_singleton done m ih =>
    rw [List.append_assoc, List.singleton_append] at hd hu hne
    obtain ⟨c, hc, hb⟩ := ih hd hu hne
    obtain ⟨c', hc', hb'⟩ := hb.pass hd hu (hne m (List.mem_append_right _ List.mem_cons_self))
    refine ⟨c', ?_, hb'⟩
    rw [List.map_append, List.foldl_append, hc]
    exact hc'

/-- A position is that of a fragment's own place in a source. -/
def AtHome (source : String) (marks : List (Fragment × Nat)) (x : Fragment)
    (p : Source.Position) : Prop :=
  ∃ k, (x, k) ∈ marks ∧ p = Source.positionAt source.toList x.level k

/-- An executed fragment is found at its place with the cursor behind the fragments before it. -/
theorem Designated.atHome {before after : List Fragment} {x : Fragment}
    (hd : Designated s.toList marks) (hu : Unshadowed (marks.map Prod.fst))
    (hne : ∀ x ∈ marks.map Prod.fst, x.executes = true → x.needle ≠ [])
    (hm : marks.map Prod.fst = before ++ x :: after) (hx : x.executes = true) :
    AtHome s marks x (Source.locate s x.text (before.foldl (Fragment.pass s) 0) x.level).1 := by
  rw [List.map_eq_append_iff] at hm
  obtain ⟨done, rest, rfl, rfl, hrest⟩ := hm
  obtain ⟨⟨y, k⟩, rest, rfl, rfl, rfl⟩ := List.map_eq_cons_iff.mp hrest
  have hne' : ∀ m ∈ done ++ (y, k) :: rest, m.1.executes = true → m.1.needle ≠ [] :=
    fun m hmem => hne m.1 (List.mem_map_of_mem hmem)
  obtain ⟨c, hfold, hb⟩ := hd.between hu hne'
  have hmem : (y, k) ∈ done ++ (y, k) :: rest := List.mem_append_right _ List.mem_cons_self
  have hl := hd.locate_eq hu hb hx (hne' _ hmem hx)
  rw [hfold]
  exact ⟨k, hmem, congrArg Prod.fst hl⟩

end

/-! ### Runs -/

namespace DocumentRun

variable {ev : Evaluator} {m : Script.Machine} {config : Config} {root n : NodeId}
  {metadata : Script.Value} {options : RunOptions} {run : DocumentRun} {s : Settings}
  {q : Walk.Point} {st st' : Session} {w : World} {x : Fragment} {marks : List (Fragment × Nat)}

/-- In a run over a document that code leaves alone, with a source that holds the outermost fragments
one after the other and their needles nowhere else, each fragment that is executed gets the position of
its own place, and so does the warning about it, whatever fragments fail. It must hold that no executed
fragment is empty, and that none is hidden by one with the same needle that is switched off. -/
theorem process_places (hon : enabledFor m config metadata st.world = .ok true w)
    (hf : w.forest.WellFormed) (hr : root < w.forest.size) (hc : st.cursor = 0)
    (he : ∀ s q, Comes ev m config root metadata options st s q → q.EditFree s root)
    (hm : marks.map Prod.fst = Fragment.outermost w.forest config.markers root)
    (hd : Designated (Text.normaliseNewlines (options.source.getD "")).toList marks)
    (hu : Unshadowed (Fragment.outermost w.forest config.markers root))
    (hne : ∀ x ∈ Fragment.outermost w.forest config.markers root,
      x.executes = true → x.needle ≠ []) :
    (∀ s q n x, Comes ev m config root metadata options st s q → q.At n →
      Fragment.ofNode? q.session.world.forest s.markers n = some x → x.executes = true →
        AtHome s.source marks x (Executor.placedAt s x q.session).position) ∧
    ∀ run st', process ev m config root metadata options st = .ok run st' →
      run.results.map (·.1.unplaced) = Fragment.outermost w.forest config.markers root ∧
      ∀ r ∈ run.results, r.1.executes = true →
        AtHome (Text.normaliseNewlines (options.source.getD "")) marks r.1.unplaced r.1.position ∧
        ∀ f, warning? r.2 = some f → f.position = r.1.position := by
  have hplace : ∀ s q n x, Comes ev m config root metadata options st s q → q.At n →
      Fragment.ofNode? q.session.world.forest s.markers n = some x → x.executes = true →
        AtHome s.source marks x (Executor.placedAt s x q.session).position := by
    intro s q n x hq hat hx hxon
    obtain ⟨before, after, hout, hcur⟩ := comes_tours hon hf hr hc he hq hat hx
    obtain ⟨_, space, _, -, -, rfl, -⟩ := hq
    rw [← hm] at hout hu hne
    unfold Executor.placedAt
    rw [hcur]
    exact hd.atHome hu hne hout hxon
  refine ⟨hplace, fun run st' h => ⟨process_tours hon hf hr hc he h, fun r hr hxon => ?_⟩⟩
  obtain ⟨s, q, n, st₁, hq, hat, hv⟩ := exists_visit h hr
  obtain ⟨x, hx, hg⟩ := Walk.visit_records hv
  have hxe : x.executes = true := by
    by_contra hoff
    rw [if_neg hoff] at hg
    exact hoff (hg ▸ hxon)
  rw [if_pos hxe] at hg
  have hu' : r.1.unplaced = x := by
    rw [hg]
    exact (Fragment.of_ofNode? hx).2
  have hhome := hplace s q n x hq hat hx hxe
  obtain ⟨_, space, _, -, -, rfl, -⟩ := hq
  refine ⟨?_, fun f hf' => Walk.visit_warns hv hf'⟩
  rw [hu', hg]
  exact hhome

/-- Code that returns nothing leaves the document alone. -/
theorem silent_editFree {d : Nat}
    (he : LeavesTree (enabledFor (Script.machine (d + 1)) config metadata) st.world)
    (hq : Comes silentEvaluator (Script.machine (d + 1)) config root metadata options st s q) :
    q.EditFree s root := by
  have hf : q.session.world.forest.WellFormed := by
    refine comes_wellFormed he (fun s q hq => ?_) hq
    obtain ⟨_, space, _, -, -, rfl, -⟩ := hq
    exact fun n f _ hf _ _ => silent_careful hf
  obtain ⟨_, space, _, -, -, rfl, -⟩ := hq
  intro n x g o st' _ _ _ h
  obtain ⟨ht, ho⟩ := silent_execute h
  refine ⟨?_, ?_⟩
  · rw [ht]
    exact .refl root hf
  · obtain rfl | ⟨w, rfl⟩ := ho
    · exact nofun
    · exact nofun

/-- A source of the document with nested fragments. -/
def nestedSource : RunOptions where
  source := some "\x60one\x60\r\ntwo"

/-- The fragments of this document with their places in the source. -/
def nestedMarks : List (Fragment × Nat) :=
  [({ node := 2, level := .inline, text := "one", attributes := [] }, 0),
    ({ node := 4, level := .block, text := "two", attributes := [] }, 6)]

theorem nestedMarks_designated : Designated "\x60one\x60\ntwo".toList nestedMarks := by
  have hw := Woven.cons [] (nestedMarks[0]).1 (.cons ['\n'] (nestedMarks[1]).1 (.nil []))
  have ho : ∀ m ∈ nestedMarks, ∀ k < 10, OccursAt m.1.needle "\x60one\x60\ntwo".toList k →
      ∃ m' ∈ nestedMarks, m'.1.needle = m.1.needle ∧ m'.2 = k := by
    decide +kernel
  exact ⟨hw, fun m hm k hk => ho m hm k (Nat.lt_succ_of_le hk.1) hk⟩

/-- The position of the code in the line has a column, that of the block has none. -/
theorem nestedFragments_placed : ∃ run st',
    process silentEvaluator (Script.machine 4) {} 0 (.ref 0) nestedSource nestedFragments =
      .ok run st' ∧
    run.results.map (·.1.position) = [⟨some 1, some 0⟩, ⟨some 2, none⟩] ∧
    ∀ r ∈ run.results, AtHome "\x60one\x60\ntwo" nestedMarks r.1.unplaced r.1.position := by
  obtain ⟨w, hw, hwf⟩ := nestedFragments_on
  have hd : enabledFor (Script.machine 4) {} (.ref 0) nestedFragments.world = _ :=
    enabledFor_dict 3 rfl
  have hok : okAnd (process silentEvaluator (Script.machine 4) {} 0 (.ref 0) nestedSource
      nestedFragments) fun run _ =>
        run.results.map (·.1.position) == [⟨some 1, some 0⟩, ⟨some 2, none⟩] &&
          run.results.all (·.1.executes) := by
    rw [process_eq, hd]
    decide +kernel
  obtain ⟨run, st', h, hr⟩ := exists_of_okAnd hok
  simp only [Bool.and_eq_true, beq_iff_eq, List.all_eq_true] at hr
  obtain ⟨hpos, hon⟩ := hr
  have hm : nestedMarks.map Prod.fst =
      Fragment.outermost w.forest ["python", "language-python"] 0 := by
    rw [hwf]
    decide +kernel
  have hs : Text.normaliseNewlines (nestedSource.source.getD "") = "\x60one\x60\ntwo" := by
    decide +kernel
  have hexec : ∀ x ∈ nestedMarks.map Prod.fst, x.executes = true ∧ x.needle ≠ [] := by
    decide +kernel
  have hroot : 0 < w.forest.size := by
    rw [hwf]
    decide
  obtain ⟨-, hruns⟩ := process_places hw (hwf ▸ nestedFragments_wellFormed) hroot rfl
    (fun s q hq => silent_editFree nestedFragments_leavesTree hq) hm
    (by rw [hs]; exact nestedMarks_designated)
    (hm ▸ unshadowed_of_executes fun x hx => (hexec x hx).1)
    (hm ▸ fun x hx _ => (hexec x hx).2)
  obtain ⟨-, hhome⟩ := hruns run st' h
  rw [hs] at hhome
  exact ⟨run, st', h, hpos, fun r hr => (hhome r hr (hon r hr)).1⟩

/-- Two equal pieces of code in a paragraph, of which the first one is switched off. -/
def shadowedFragments : Session where
  world :=
    { heap := #[.dict #[(.str "python-elements", .bool true)]]
      forest :=
        ⟨#[⟨.root, none, [1]⟩,
          ⟨.tag { name := "p", attrs := [] }, some 0, [2, 4]⟩,
          ⟨.tag { name := "code", attrs := [("class", .text "python"), ("exec", .text "false")] },
            some 1, [3]⟩,
          ⟨.text .plain "one", some 2, []⟩,
          ⟨.tag { name := "code", attrs := [("class", .text "python")] }, some 1, [5]⟩,
          ⟨.text .plain "one", some 4, []⟩]⟩ }

def shadowedSource : RunOptions where
  source := some "\x60one\x60 \x60one\x60"

/-- The piece that is executed. -/
def shadowedFragment : Fragment where
  node := 4
  level := .inline
  text := "one"
  attributes := []

/-- The pieces with their places in the source. -/
def shadowedMarks : List (Fragment × Nat) :=
  [({ node := 2, level := .inline, text := "one", attributes := [("exec", "false")] }, 0),
    (shadowedFragment, 6)]

theorem shadowedFragments_wellFormed : shadowedFragments.world.forest.WellFormed := by
  refine .of_ordered ?_ ?_ <;> decide

theorem shadowedFragments_on : ∃ w,
    enabledFor (Script.machine 4) {} (.ref 0) shadowedFragments.world = .ok true w ∧
      w.forest = shadowedFragments.world.forest := by
  have hd : enabledFor (Script.machine 4) {} (.ref 0) shadowedFragments.world = _ :=
    enabledFor_dict 3 rfl
  have hok : okAnd (enabledFor (Script.machine 4) {} (.ref 0) shadowedFragments.world) fun b w =>
      b && w.forest.nodes == shadowedFragments.world.forest.nodes := by
    rw [hd]
    decide +kernel
  obtain ⟨b, w, hw, h⟩ := exists_of_okAnd hok
  simp only [Bool.and_eq_true, beq_iff_eq] at h
  obtain ⟨rfl, hn⟩ := h
  exact ⟨w, hw, congrArg Forest.mk hn⟩

theorem shadowedMarks_designated : Designated "\x60one\x60 \x60one\x60".toList shadowedMarks := by
  have hw := Woven.cons [] (shadowedMarks[0]).1 (.cons [' '] (shadowedMarks[1]).1 (.nil []))
  have ho : ∀ m ∈ shadowedMarks, ∀ k < 12,
      OccursAt m.1.needle "\x60one\x60 \x60one\x60".toList k →
        ∃ m' ∈ shadowedMarks, m'.1.needle = m.1.needle ∧ m'.2 = k := by
    decide +kernel
  exact ⟨hw, fun m hm k hk => ho m hm k (Nat.lt_succ_of_le hk.1) hk⟩

/-- The second piece is told the place of the first one, though the source holds both and nothing else
of this kind, and code leaves the document alone. -/
theorem shadowedFragments_misplaced : ∃ w run st',
    enabledFor (Script.machine 4) {} (.ref 0) shadowedFragments.world = .ok true w ∧
    w.forest.WellFormed ∧
    (∀ s q, Comes silentEvaluator (Script.machine 4) {} 0 (.ref 0) shadowedSource shadowedFragments
      s q → q.EditFree s 0) ∧
    shadowedMarks.map Prod.fst = Fragment.outermost w.forest ["python", "language-python"] 0 ∧
    Designated (Text.normaliseNewlines (shadowedSource.source.getD "")).toList shadowedMarks ∧
    process silentEvaluator (Script.machine 4) {} 0 (.ref 0) shadowedSource shadowedFragments =
      .ok run st' ∧
    ∃ r ∈ run.results, r.1.executes = true ∧
      ¬ AtHome (Text.normaliseNewlines (shadowedSource.source.getD "")) shadowedMarks r.1.unplaced
        r.1.position := by
  obtain ⟨w, hw, hforest⟩ := shadowedFragments_on
  have hwf : w.forest.WellFormed := hforest ▸ shadowedFragments_wellFormed
  have hleaves : LeavesTree (enabledFor (Script.machine 4) {} (.ref 0)) shadowedFragments.world := by
    intro b w' h
    cases hw.symm.trans h
    exact hwf
  have hd : enabledFor (Script.machine 4) {} (.ref 0) shadowedFragments.world = _ :=
    enabledFor_dict 3 rfl
  have hok : okAnd (process silentEvaluator (Script.machine 4) {} 0 (.ref 0) shadowedSource
      shadowedFragments) fun run _ => run.results.any fun r =>
        r.1 == { shadowedFragment with position := ⟨some 1, some 0⟩ } := by
    rw [process_eq, hd]
    decide +kernel
  obtain ⟨run, st', hrun, hr⟩ := exists_of_okAnd hok
  obtain ⟨r, hr, hf⟩ := List.any_eq_true.mp hr
  rw [beq_iff_eq] at hf
  have hs : Text.normaliseNewlines (shadowedSource.source.getD "") =
      "\x60one\x60 \x60one\x60" := by
    decide +kernel
  have hm : shadowedMarks.map Prod.fst =
      Fragment.outermost w.forest ["python", "language-python"] 0 := by
    rw [hforest]
    decide +kernel
  rw [hs]
  refine ⟨w, run, st', hw, hwf, fun s q hq => silent_editFree hleaves hq, hm,
    shadowedMarks_designated, hrun, r, hr, ?_, ?_⟩
  · rw [hf]
    rfl
  · rw [hf]
    rintro ⟨k, hk, hp⟩
    have hplaces : ∀ m ∈ shadowedMarks, m.1.node = 4 →
        ⟨some 1, some 0⟩ ≠ Source.positionAt "\x60one\x60 \x60one\x60".toList .inline m.2 := by
      decide +kernel
    exact hplaces _ hk rfl hp

end DocumentRun

end LiveMarkdown
