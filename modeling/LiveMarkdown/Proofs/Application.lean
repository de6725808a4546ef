import LiveMarkdown.Proofs.Blind

/-!
Outcomes that are applied right after the code of a fragment has run. If the code leaves a well-formed
forest, the edit that its outcome asks for is not refused and leaves one too, whatever nodes the code
returned: nodes of the tree, the fragment itself, one node several times, or nodes inside each other.
-/

namespace LiveMarkdown

open Document (NodeId Forest)
open Script (Machine Value Run World)

/-- A computation that ends leaves a well-formed forest. -/
def LeavesTree {α : Type} (x : Run α) (w : World) : Prop :=
  ∀ a w', x w = .ok a w' → w'.forest.WellFormed

namespace Executor

/-- What code returned can be looked through, and shown if it is refused, without harm to the tree. -/
structure Harmless (s : Settings) (f : Fragment) (v : Value) (w : World) : Prop where
  classified : LeavesTree (Result.classify s.machine v) w
  written : ∀ x w', Result.classify s.machine v w = .ok (.scalar x) w' →
    LeavesTree (s.machine.text x) w'
  shown : ∀ r w', Result.validate s.machine v f.level w = .ok r w' →
    (∀ ns, r = some ns → encloses w'.forest ns f.node = true) →
      LeavesTree (Exception.safeShown s.machine v) w'

/-- The code of a fragment leaves a well-formed forest, and so does what is asked about what it raised
or returned. -/
structure Careful (s : Settings) (f : Fragment) (w : World) : Prop where
  evaluated : ∀ code, reading s f = .ok code → LeavesTree (evaluate s code) w
  described : ∀ code e w', reading s f = .ok code → evaluate s code w = .ok (.error e) w' →
    LeavesTree (Exception.describe s.machine e) w'
  returned : ∀ code v w', reading s f = .ok code → evaluate s code w = .ok (.ok v) w' →
    Harmless s f v w'

section

variable {s : Settings} {f g : Fragment} {o : Outcome} {st st₁ : Session} {v : Value} {w : World}
  {nodes : List NodeId}

/-! ### The tree after the code of a fragment -/

theorem Harmless.validated (h : Harmless s f v w) :
    LeavesTree (Result.validate s.machine v f.level) w := by
  intro r w' hr
  obtain ⟨shape, w₁, hc, hr⟩ := bind_eq_ok.mp hr
  have hw₁ := h.classified shape w₁ hc
  cases shape with
  | nil =>
    cases hr
    exact hw₁
  | scalar x =>
    dsimp only at hr
    split at hr
    · obtain ⟨t, w₂, ht, hr⟩ := bind_eq_ok.mp hr
      obtain ⟨n, w₃, hn, hr⟩ := bind_eq_ok.mp hr
      rw [Script.Element.newText, Script.Element.newNode_apply] at hn
      cases hn
      cases hr
      exact (h.written x w₁ hc t w₂ ht).alloc _
    · cases hr
      exact hw₁
  | single n =>
    cases hr
    exact hw₁
  | items vs =>
    obtain ⟨parts, hp⟩ := Reads.mapM Script.Kind.core_reads vs w₁
    dsimp only at hr
    rw [bind_of_ok hp] at hr
    cases hr
    exact hw₁
  | unrecognised =>
    cases hr
    exact hw₁

theorem fail_wellFormed {x : Failure} (hf : st.world.forest.WellFormed)
    (h : fail s x st = .ok o st₁) : st₁.world.forest.WellFormed := by
  rw [fail_apply] at h
  cases h
  exact hf

theorem refuse_wellFormed {expectation : String}
    (hv : LeavesTree (Exception.safeShown s.machine v) st.world)
    (h : refuse s f v expectation st = .ok o st₁) : st₁.world.forest.WellFormed := by
  obtain ⟨shown, st₂, hs, h⟩ := bind_eq_ok.mp h
  obtain ⟨w, hw, rfl⟩ := Engine.lift_eq_ok.mp hs
  exact fail_wellFormed (hv shown w hw) h

theorem outcomeOf_wellFormed (hv : Harmless s f v st.world) (h : outcomeOf s f v st = .ok o st₁) :
    st₁.world.forest.WellFormed := by
  obtain ⟨r, st₂, hr, h⟩ := bind_eq_ok.mp h
  obtain ⟨w, hw, rfl⟩ := Engine.lift_eq_ok.mp hr
  have hf := hv.validated r w hw
  rcases r with _ | _ | ⟨n, ns⟩
  · exact refuse_wellFormed (hv.shown _ w hw nofun) h
  · cases h
    exact hf
  · dsimp only at h
    unfold placed at h
    rw [bind_of_ok Engine.forest_apply] at h
    split at h
    · exact fail_wellFormed hf h
    · split at h
      · refine refuse_wellFormed (hv.shown _ w hw fun ns' hns => ?_) h
        cases hns
        assumption
      · cases h
        exact hf

theorem runCode_wellFormed {code : Compiled s.evaluator} (hc : Careful s f st.world)
    (hr : reading s f = .ok code) (h : runCode s f code st = .ok o st₁) :
    st₁.world.forest.WellFormed := by
  obtain ⟨r, st₂, hi, h⟩ := bind_eq_ok.mp h
  unfold invoke at hi
  rw [bind_of_ok (Engine.note_apply _)] at hi
  obtain ⟨w, hw, rfl⟩ := Engine.lift_eq_ok.mp hi
  cases r with
  | error e =>
    obtain ⟨detail, st₃, hd, h⟩ := bind_eq_ok.mp h
    obtain ⟨w', hw', rfl⟩ := Engine.lift_eq_ok.mp hd
    exact fail_wellFormed (hc.described code e w hr hw detail w' hw') h
  | ok v => exact outcomeOf_wellFormed (hc.returned code v w hr hw) h

theorem attempt_wellFormed (hf : st.world.forest.WellFormed) (hc : Careful s f st.world)
    (h : attempt s f st = .ok o st₁) : st₁.world.forest.WellFormed := by
  unfold attempt at h
  rw [bind_of_ok compile_apply] at h
  cases hr : reading s f with
  | error fault =>
    rw [hr] at h
    obtain ⟨e, st₂, he, h⟩ := bind_eq_ok.mp h
    obtain ⟨w, hw, rfl⟩ := Engine.lift_eq_ok.mp he
    refine fail_wellFormed ?_ h
    have hx : w.forest = st.world.forest := by
      rw [compiled_world] at hw
      unfold exceptionOf at hw
      cases hcause : fault.cause <;> rw [hcause] at hw <;> cases hw <;> rfl
    rw [hx]
    exact hf
  | ok code =>
    rw [hr] at h
    rw [← compiled_world] at hc
    exact runCode_wellFormed hc hr h

/-- The position of a fragment does not matter to its code. -/
theorem Careful.placedAt (h : Careful s f w) : Careful s (placedAt s f st) w := by
  refine ⟨h.evaluated, h.described, fun code v w' hr he => ?_⟩
  obtain ⟨hc, hw, hs⟩ := h.returned code v w' hr he
  exact ⟨hc, hw, hs⟩

/-- Careful code leaves a well-formed forest together with its outcome. -/
theorem execute_wellFormed (hf : st.world.forest.WellFormed)
    (hc : f.executes = true → Careful s f st.world) (h : execute s f st = .ok (g, o) st₁) :
    st₁.world.forest.WellFormed := by
  cases hx : f.executes with
  | false =>
    rw [execute_off hx] at h
    cases h
    exact hf
  | true =>
    rw [execute_on hx] at h
    obtain ⟨o', st₂, ha, h⟩ := bind_eq_ok.mp h
    cases h
    refine attempt_wellFormed ?_ ?_ ha
    · exact hf
    · exact (hc hx).placedAt

/-! ### Nodes that are accepted -/

/-- The nodes of an outcome are elements and texts that do not stand above the fragment, and the
fragment stands somewhere. -/
structure Accepted (f : Fragment) (nodes : List NodeId) (t : Forest) : Prop where
  parent : ∃ p, t.parent? f.node = some p
  apart : encloses t nodes f.node = false
  level : ∀ n ∈ nodes, t.level? n = some f.level

theorem placed_accepts {ns : List NodeId} (hl : ∀ n ∈ ns, st.world.forest.level? n = some f.level)
    (h : placed s f v ns st = .ok (.substituted nodes) st₁) :
    Accepted f nodes st₁.world.forest := by
  unfold placed at h
  rw [bind_of_ok Engine.forest_apply] at h
  split at h
  · rw [fail_apply] at h
    cases h
  · rename_i hp
    split at h
    · obtain ⟨shown, st₂, -, h⟩ := bind_eq_ok.mp h
      rw [fail_apply] at h
      cases h
    · rename_i he
      cases h
      exact ⟨Option.ne_none_iff_exists'.mp (by simpa using hp), by simpa using he, hl⟩

theorem attempt_accepts (h : attempt s f st = .ok (.substituted nodes) st₁) :
    Accepted f nodes st₁.world.forest := by
  unfold attempt at h
  rw [bind_of_ok compile_apply] at h
  cases hr : reading s f with
  | error fault =>
    rw [hr] at h
    obtain ⟨e, st₂, -, h⟩ := bind_eq_ok.mp h
    rw [fail_apply] at h
    cases h
  | ok code =>
    rw [hr] at h
    obtain ⟨r, st₂, -, h⟩ := bind_eq_ok.mp h
    cases r with
    | error e =>
      obtain ⟨detail, st₃, -, h⟩ := bind_eq_ok.mp h
      rw [fail_apply] at h
      cases h
    | ok v =>
      obtain ⟨r, st₃, hv, h⟩ := bind_eq_ok.mp h
      obtain ⟨w, hw, rfl⟩ := Engine.lift_eq_ok.mp hv
      rcases r with _ | _ | ⟨n, ns⟩
      · obtain ⟨shown, st₄, -, h⟩ := bind_eq_ok.mp h
        rw [fail_apply] at h
        cases h
      · cases h
      · exact placed_accepts (Result.validate_level hw) h

theorem execute_node (h : execute s f st = .ok (g, o) st₁) : g.node = f.node := by
  cases hx : f.executes with
  | false =>
    rw [execute_off hx] at h
    cases h
    rfl
  | true =>
    rw [execute_on hx] at h
    obtain ⟨o', st₂, -, h⟩ := bind_eq_ok.mp h
    cases h
    rfl

theorem execute_accepts (h : execute s f st = .ok (g, o) st₁) :
    ∀ nodes, o = .substituted nodes → Accepted g nodes st₁.world.forest := by
  rintro nodes rfl
  cases hx : f.executes with
  | false =>
    rw [execute_off hx] at h
    injection h with ho
    injection ho with _ ho
    unfold withheld at ho
    split at ho <;> cases ho
  | true =>
    rw [execute_on hx] at h
    obtain ⟨o', st₂, ha, h⟩ := bind_eq_ok.mp h
    cases h
    exact attempt_accepts ha

/-- Accepted nodes can be put into the place of the fragment. -/
theorem Accepted.insertable {t : Forest} (h : Accepted f nodes t) (ht : t.WellFormed) :
    ∀ m ∈ nodes, m < t.size ∧ t.isRoot m = false ∧ ¬ t.Above m f.node := by
  intro m hm
  obtain ⟨hin, hroot⟩ := Forest.of_level? (h.level m hm)
  refine ⟨hin, hroot, fun ha => ?_⟩
  have hc := h.apart
  rw [(encloses_iff ht).mpr ⟨m, hm, ha⟩] at hc
  cases hc

/-- Accepted nodes are gathered in the place of the fragment. -/
theorem Accepted.replaces {t : Forest} (h : Accepted f nodes t) (ht : t.WellFormed) :
    ∃ p t', t.parent? f.node = some p ∧ Document.Edit.replaceWith f.node nodes t = .ok () t' ∧
      (t.extract f.node).Gathered t' p nodes := by
  obtain ⟨p, hp⟩ := h.parent
  obtain ⟨t', he, hg⟩ := Document.Edit.replaceWith_gathers ht hp (h.insertable ht)
  exact ⟨p, t', hp, he, hg⟩

/-! ### The tree after the outcome is applied -/

/-- What an outcome that is applied to a forest leaves: a forest in which its nodes stand once in the
place of the fragment, and all other nodes where they did. -/
structure Applied (n : NodeId) (o : Outcome) (t t' : Forest) : Prop where
  wellFormed : t'.WellFormed
  elsewhere : ∀ k, k ≠ n → k ∉ o.inserted → t'.parent? k = t.parent? k
  once : ∀ nodes, o = .substituted nodes → ∃ p, t.parent? n = some p ∧
    ∀ m ∈ nodes, (t'.children p).count m = 1

/-- The edit that an outcome asks for is not refused if its nodes were accepted. -/
theorem edit_applies {t : Forest} (ht : t.WellFormed)
    (ho : ∀ nodes, o = .substituted nodes → Accepted f nodes t) :
    ∃ t', (edit f o).run t = .ok () t' ∧ Applied f.node o t t' := by
  cases o with
  | substituted nodes =>
    obtain ⟨p, t', hp, he, hg⟩ := (ho nodes rfl).replaces ht
    refine ⟨t', he, hg.wellFormed, fun k hk hn => ?_, fun ns hns => ?_⟩
    · change k ∉ nodes at hn
      rw [hg.parent, if_neg hn, Forest.parent?_extract, if_neg hk]
    · cases hns
      exact ⟨p, hp, fun m hm => hg.count_eq_one hm⟩
  | removed =>
    refine ⟨t.extract f.node, rfl, ht.extract f.node, fun k hk _ => ?_, nofun⟩
    rw [Forest.parent?_extract, if_neg hk]
  | unchanged x => exact ⟨t, rfl, ht, fun _ _ _ => rfl, nofun⟩

/-- An outcome whose nodes were accepted is applied as it is. -/
theorem apply_accepted (ht : st.world.forest.WellFormed)
    (ho : ∀ nodes, o = .substituted nodes → Accepted f nodes st.world.forest) :
    ∃ t, apply s f o st = .ok o { st with world := { st.world with forest := t } } ∧
      Applied f.node o st.world.forest t := by
  obtain ⟨t, he, ha⟩ := edit_applies ht ho
  refine ⟨t, ?_, ha⟩
  unfold apply
  rw [bind_apply, applyEdit_apply, he]
  rfl

/-- The outcome of careful code is applied as it is, without a word to the host, and a tree stays a
tree: each node that is put into it stands once where the fragment stood, and all nodes but these and
the fragment stay in their places. -/
theorem execute_then_apply (hf : st.world.forest.WellFormed)
    (hc : f.executes = true → Careful s f st.world) (h : execute s f st = .ok (g, o) st₁) :
    ∃ st₂, apply s g o st₁ = .ok o st₂ ∧ st₂.emitted = st₁.emitted ∧
      Applied f.node o st₁.world.forest st₂.world.forest := by
  have ht := execute_wellFormed hf hc h
  obtain ⟨t, hap, ha⟩ := apply_accepted ht (execute_accepts h)
  exact ⟨_, hap, rfl, execute_node h ▸ ha⟩

end

/-- Nodes of the tree below: a text, the element around it, the text once more, the fragment, its own
text, and the text before it. -/
def regrouped : List NodeId := [6, 5, 6, 3, 4, 2]

/-- Code that returns these nodes. -/
def regrouping : Evaluator where
  Code := Unit
  compile _ _ := .ok ()
  invoke _ _ := pure (.tuple (regrouped.map .node))

/-- A paragraph of a text, a piece of inline code, and an element. -/
def paragraph : Session where
  world :=
    { forest :=
        ⟨#[⟨.root, none, [1]⟩,
          ⟨.tag { name := "p", attrs := [] }, some 0, [2, 3, 5]⟩,
          ⟨.text .plain "before", some 1, []⟩,
          ⟨.tag { name := "code", attrs := [("class", .text "python")] }, some 1, [4]⟩,
          ⟨.text .plain "regroup", some 3, []⟩,
          ⟨.tag { name := "em", attrs := [] }, some 1, [6]⟩,
          ⟨.text .plain "after", some 5, []⟩]⟩ }

def paragraphCode : Fragment where
  node := 3
  level := .inline
  text := "regroup"
  attributes := []

def paragraphSettings : Settings where
  evaluator := regrouping
  machine := Script.machine 2
  space := 0
  source := ""
  markers := ["python"]
  inputName := "<input>"
  debug := false

theorem paragraph_wellFormed : paragraph.world.forest.WellFormed := by
  refine .of_ordered ?_ ?_ <;> decide

theorem paragraph_careful : Careful paragraphSettings paragraphCode paragraph.world := by
  have he (code : Compiled paragraphSettings.evaluator) :
      evaluate paragraphSettings code paragraph.world =
        .ok (.ok (.tuple (regrouped.map .node))) paragraph.world := rfl
  have hc : Result.classify paragraphSettings.machine (.tuple (regrouped.map .node))
      paragraph.world = .ok (.items (regrouped.map .node)) paragraph.world := rfl
  have hv : Result.validate paragraphSettings.machine (.tuple (regrouped.map .node)) .inline
      paragraph.world = .ok (some regrouped) paragraph.world := rfl
  refine ⟨fun code _ a w' h => ?_, fun code e w' _ h => ?_, fun code v w' _ h => ?_⟩
  · cases (he code).symm.trans h
    exact paragraph_wellFormed
  · cases (he code).symm.trans h
  · cases (he code).symm.trans h
    refine ⟨fun shape w' h => ?_, fun x w' h => ?_, fun r w' h hr => ?_⟩
    · cases hc.symm.trans h
      exact paragraph_wellFormed
    · cases hc.symm.trans h
    · -- the nodes are accepted, so the value is not shown
      cases hv.symm.trans h
      have hn : encloses paragraph.world.forest regrouped 3 = false := by
        decide
      exact absurd (hr regrouped rfl) (by simp [paragraphCode, hn])

/-- All of these nodes are put into the place of the fragment, each of them once. -/
theorem paragraph_regrouped : ∃ g st₁ st₂,
    execute paragraphSettings paragraphCode paragraph = .ok (g, .substituted regrouped) st₁ ∧
    apply paragraphSettings g (.substituted regrouped) st₁ = .ok (.substituted regrouped) st₂ ∧
    Applied 3 (.substituted regrouped) st₁.world.forest st₂.world.forest ∧
    st₂.world.forest.children 1 = [5, 6, 3, 4, 2] := by
  have hok : okAnd ((do
      let r ← execute paragraphSettings paragraphCode
      return (r.2, ← apply paragraphSettings r.1 r.2)) paragraph) fun r st =>
        r.1.inserted == regrouped && st.world.forest.children 1 == [5, 6, 3, 4, 2] := by
    decide +kernel
  obtain ⟨r, st₂, h, hr⟩ := exists_of_okAnd hok
  obtain ⟨⟨g, o⟩, st₁, he, h⟩ := bind_eq_ok.mp h
  obtain ⟨o', st₃, ha, h⟩ := bind_eq_ok.mp h
  cases h
  simp only [Bool.and_eq_true, beq_iff_eq] at hr
  have ho : o = .substituted regrouped := by
    cases o with
    | substituted nodes => exact congrArg Outcome.substituted hr.1
    | removed => cases hr.1
    | unchanged w => cases hr.1
  subst ho
  obtain ⟨st₂, ha', -, hap⟩ :=
    execute_then_apply paragraph_wellFormed (fun _ => paragraph_careful) he
  rw [ha] at ha'
  cases ha'
  exact ⟨g, st₁, _, he, ha, hap, hr.2⟩

end Executor

end LiveMarkdown
