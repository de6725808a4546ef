import LiveMarkdown.Proofs.Application
import LiveMarkdown.Proofs.Refinement

/-!
The gates that a fragment passes. One that is switched off has its outcome at once, and nothing else
happens. Any other one is looked up in the source, compiled and run, each at most once and in this
order; the first gate that it does not pass settles its outcome, and besides that outcome the fragment
leaves only what its own code and the questions to what it returned have done to the world.
-/

namespace LiveMarkdown

open Document (NodeId Forest)
open Script (Machine Value Run Stop World)
open DocumentRun (warning?)

namespace Executor

/-! ### What is asked for -/

/-- The compilation of a text in a mode, with its end. -/
def compilation (s : Settings) (mode : Mode) (text : String) : Step :=
  .compiled mode text (match s.evaluator.compile mode text with
    | .ok _ => true
    | .error _ => false)

/-- The compilations of a fragment: a block is compiled as statements, inline code as an expression and
then, if it is none, as statements. -/
def compilations (s : Settings) (f : Fragment) : List Step :=
  match f.level with
  | .block => [compilation s .statements f.text]
  | .inline =>
    match s.evaluator.compile .expression f.text with
    | .ok _ => [compilation s .expression f.text]
    | .error _ => [compilation s .expression f.text, compilation s .statements f.text]

/-- The run of what a fragment was compiled to, if it was. -/
def invocations (s : Settings) (f : Fragment) : List Step :=
  match reading s f with
  | .ok c => [.invoked c.mode c.text]
  | .error _ => []

/-- All that the engine asks for while it executes a fragment that is switched on. -/
def requests (s : Settings) (f : Fragment) : List Step :=
  .located f.text f.level :: (compilations s f ++ invocations s f)

/-! ### What settles a fragment -/

/-- What a fragment was compiled to returns a value when it is invoked. -/
def Returns (s : Settings) (f : Fragment) (w : World) (v : Value) (w₁ : World) : Prop :=
  ∃ c w₀, reading s f = .ok c ∧ s.evaluator.invoke s.space c.code w = .ok v w₀ ∧
    CarriedBack s w₀ w₁

/-- What a fragment was compiled to raises an exception that can be caught when it is invoked. -/
def Throws (s : Settings) (f : Fragment) (w : World) (e : Value) (w₁ : World) : Prop :=
  ∃ c w₀, reading s f = .ok c ∧ s.evaluator.invoke s.space c.code w = .error (.raised e) w₀ ∧
    Catchable e w₀ ∧ CarriedBack s w₀ w₁

/-- The gate at which a fragment is settled, with its outcome and the world that is left. -/
inductive Verdict (s : Settings) (f : Fragment) (w : World) : Outcome → World → Prop where
  /-- The text does not compile. -/
  | unread {fault : Fault} {e : Value} {w₁ : World} (hr : reading s f = .error fault)
      (he : exceptionOf fault w = .ok e w₁) :
      Verdict s f w (.unchanged (some (failure s f .parse fault.message (some e)))) w₁
  | raised {e : Value} {w₁ w₂ : World} {detail : String} (he : Throws s f w e w₁)
      (hd : Exception.describe s.machine e w₁ = .ok detail w₂) :
      Verdict s f w (.unchanged (some (failure s f .exec detail (some e)))) w₂
  /-- The value stands for no nodes of the level of the fragment. -/
  | rejected {v : Value} {w₁ w₂ w₃ : World} {shown : String} (hv : Returns s f w v w₁)
      (hn : Result.validate s.machine v f.level w₁ = .ok none w₂)
      (hs : Exception.safeShown s.machine v w₂ = .ok shown w₃) :
      Verdict s f w (.unchanged (some
        (failure s f (.invalidReturn (Result.expected f.level)) shown none))) w₃
  /-- The value stands for no nodes at all, wherever the fragment is by now. -/
  | emptied {v : Value} {w₁ w₂ : World} (hv : Returns s f w v w₁)
      (hn : Result.validate s.machine v f.level w₁ = .ok (some []) w₂) : Verdict s f w .removed w₂
  /-- The fragment stands nowhere by now. -/
  | detached {v : Value} {w₁ w₂ : World} {n : NodeId} {ns : List NodeId} (hv : Returns s f w v w₁)
      (hn : Result.validate s.machine v f.level w₁ = .ok (some (n :: ns)) w₂)
      (hp : w₂.forest.parent? f.node = none) :
      Verdict s f w (.unchanged (some (failure s f .exec
        "The fragment was removed from the document while it ran." none))) w₂
  /-- One of the nodes stands above the fragment. -/
  | enclosed {v : Value} {w₁ w₂ w₃ : World} {n p : NodeId} {ns : List NodeId} {shown : String}
      (hv : Returns s f w v w₁)
      (hn : Result.validate s.machine v f.level w₁ = .ok (some (n :: ns)) w₂)
      (hp : w₂.forest.parent? f.node = some p) (he : encloses w₂.forest (n :: ns) f.node = true)
      (hs : Exception.safeShown s.machine v w₂ = .ok shown w₃) :
      Verdict s f w (.unchanged (some (failure s f
        (.invalidReturn "Returned elements cannot contain the fragment that produced them.")
        shown none))) w₃
  | substituted {v : Value} {w₁ w₂ : World} {n p : NodeId} {ns : List NodeId}
      (hv : Returns s f w v w₁)
      (hn : Result.validate s.machine v f.level w₁ = .ok (some (n :: ns)) w₂)
      (hp : w₂.forest.parent? f.node = some p) (he : encloses w₂.forest (n :: ns) f.node = false) :
      Verdict s f w (.substituted (n :: ns)) w₂

/-- What a fragment was compiled to is invoked and neither asks for the end of the program nor goes on
without one. -/
def Answers (s : Settings) (c : Compiled s.evaluator) (w w₀ : World) : Prop :=
  (∃ v, s.evaluator.invoke s.space c.code w = .ok v w₀) ∨
    ∃ e, s.evaluator.invoke s.space c.code w = .error (.raised e) w₀ ∧ Catchable e w₀

/-- What ends the run of a fragment without an outcome: its code, or the way in which a refused value
is shown, asks for the end of the program, or there is no end to what is asked of the world. -/
inductive Ends (s : Settings) (f : Fragment) (w : World) : Stop → World → Prop where
  | invoked {c : Compiled s.evaluator} {e : Stop} {w₀ : World} (hr : reading s f = .ok c)
      (he : s.evaluator.invoke s.space c.code w = .error e w₀)
      (hc : ∀ x, e = .raised x → ¬ Catchable x w₀) : Ends s f w e w₀
  | carriedBack {c : Compiled s.evaluator} {w₀ w₁ : World} (hr : reading s f = .ok c)
      (ha : Answers s c w w₀)
      (hb : Script.LiveAttributes.settle s.machine w₀ = .error .exhausted w₁) :
      Ends s f w .exhausted w₁
  | rejected {v : Value} {w₁ w₂ w₃ : World} {e : Stop} (hv : Returns s f w v w₁)
      (hn : Result.validate s.machine v f.level w₁ = .ok none w₂)
      (hs : Exception.safeShown s.machine v w₂ = .error e w₃) : Ends s f w e w₃
  | enclosed {v : Value} {w₁ w₂ w₃ : World} {n p : NodeId} {ns : List NodeId} {e : Stop}
      (hv : Returns s f w v w₁)
      (hn : Result.validate s.machine v f.level w₁ = .ok (some (n :: ns)) w₂)
      (hp : w₂.forest.parent? f.node = some p) (he : encloses w₂.forest (n :: ns) f.node = true)
      (hs : Exception.safeShown s.machine v w₂ = .error e w₃) : Ends s f w e w₃

/-- What the code of a fragment raises can be described, and what it returns can be looked through. -/
structure Answerable (s : Settings) (f : Fragment) (w : World) : Prop where
  described : ∀ e w₁, Throws s f w e w₁ →
    ∃ detail w₂, Exception.describe s.machine e w₁ = .ok detail w₂
  validated : ∀ v w₁, Returns s f w v w₁ →
    ∃ r w₂, Result.validate s.machine v f.level w₁ = .ok r w₂

section

variable {s : Settings} {f : Fragment} {o : Outcome} {e : Stop} {v : Value} {w w₁ : World}
  {st : Session}

theorem compilation_ok {mode : Mode} {text : String} {code : s.evaluator.Code}
    (h : s.evaluator.compile mode text = .ok code) :
    compilation s mode text = .compiled mode text true := by
  unfold compilation
  rw [h]

theorem compilation_error {mode : Mode} {text : String} {fault : Fault}
    (h : s.evaluator.compile mode text = .error fault) :
    compilation s mode text = .compiled mode text false := by
  unfold compilation
  rw [h]

/-- What a compilation gives holds the mode and the text that were compiled. -/
theorem compilation_of_compiled {mode : Mode} {text : String} {c : Compiled s.evaluator}
    (h : s.evaluator.compiled mode text = .ok c) :
    c.text = text ∧ compilation s mode text = .compiled c.mode text true := by
  obtain ⟨hm, ht⟩ := Evaluator.of_compiled h
  refine ⟨ht, ?_⟩
  rw [hm]
  exact compilation_ok (hm ▸ ht ▸ c.compiles)

theorem compiled_eq : compiled s f st = { st with journal := st.journal ++ compilations s f } := by
  unfold compiled compilations
  cases f.level with
  | block => rfl
  | inline =>
    dsimp only
    cases s.evaluator.compile .expression f.text with
    | ok code => rfl
    | error fault =>
      dsimp only [noted, compilation]
      rw [List.append_assoc]
      rfl

/-- What is invoked is what was compiled last. -/
theorem compilations_of_read {c : Compiled s.evaluator} (h : reading s f = .ok c) :
    c.text = f.text ∧ (compilations s f).getLast? = some (.compiled c.mode f.text true) := by
  unfold reading at h
  unfold compilations
  cases hl : f.level with
  | block =>
    rw [hl] at h
    exact (compilation_of_compiled h).imp_right (congrArg some)
  | inline =>
    rw [hl] at h
    dsimp only at h ⊢
    cases he : s.evaluator.compile .expression f.text with
    | ok code =>
      rw [Evaluator.compiled_ok he] at h
      cases h
      exact ⟨rfl, congrArg some (compilation_ok he)⟩
    | error fault =>
      rw [Evaluator.compiled_error he] at h
      exact (compilation_of_compiled h).imp_right (congrArg some)

/-- If there is nothing to invoke, the text was compiled to nothing in each mode that was tried, and
the last fault is the one that is reported. -/
theorem compilations_of_unread {fault : Fault} (h : reading s f = .error fault) :
    s.evaluator.compile .statements f.text = .error fault ∧
      ∀ k ∈ compilations s f, ∃ mode, k = .compiled mode f.text false := by
  unfold reading at h
  unfold compilations
  cases hl : f.level with
  | block =>
    rw [hl] at h
    have hs := Evaluator.of_compiled_error h
    refine ⟨hs, fun k hk => ⟨.statements, ?_⟩⟩
    rw [List.mem_singleton.mp hk, compilation_error hs]
  | inline =>
    rw [hl] at h
    dsimp only at h ⊢
    cases he : s.evaluator.compile .expression f.text with
    | ok code =>
      rw [Evaluator.compiled_ok he] at h
      cases h
    | error fault' =>
      rw [Evaluator.compiled_error he] at h
      have hs := Evaluator.of_compiled_error h
      refine ⟨hs, fun k hk => ?_⟩
      obtain rfl | hk := List.mem_cons.mp hk
      · exact ⟨.expression, compilation_error he⟩
      · rw [List.mem_singleton.mp hk]
        exact ⟨.statements, compilation_error hs⟩

theorem lift_ok {α : Type} {x : Run α} {a : α} (st : Session) (h : x st.world = .ok a w) :
    Engine.lift x st = .ok a { st with world := w } := Engine.lift_eq_ok.mpr ⟨w, h, rfl⟩

theorem lift_error {α : Type} {x : Run α} (st : Session) (h : x st.world = .error e w) :
    Engine.lift x st = .error e { st with world := w } := Engine.lift_eq_error.mpr ⟨w, h, rfl⟩

/-- The session in which a fragment has been compiled and run. -/
def ran (s : Settings) (f : Fragment) (st : Session) (w : World) : Session :=
  { st with world := w, journal := st.journal ++ (compilations s f ++ invocations s f) }

theorem attempt_unread {fault : Fault} (h : reading s f = .error fault) : attempt s f st = (do
    let e ← Engine.lift (exceptionOf fault)
    fail s (failure s f .parse fault.message (some e))) (ran s f st st.world) := by
  unfold attempt
  rw [bind_of_ok compile_apply, h, compiled_eq]
  unfold ran invocations
  rw [h, List.append_nil]

/-- The session in which the text of a fragment has been compiled, and nothing else has happened. -/
def readOnly (s : Settings) (f : Fragment) (st : Session) : Session :=
  { st with journal := st.journal ++ compilations s f }

theorem attempt_read {c : Compiled s.evaluator} (h : reading s f = .ok c) :
    attempt s f st = runCode s f c (readOnly s f st) := by
  unfold attempt
  rw [bind_of_ok compile_apply, h, compiled_eq]
  rfl

/-- Compiled code is run once, and what it was compiled from is noted. -/
theorem invoke_read {c : Compiled s.evaluator} (h : reading s f = .ok c) :
    invoke s c (readOnly s f st) = match evaluate s c st.world with
      | .ok r w => .ok r (ran s f st w)
      | .error e w => .error e (ran s f st w) := by
  unfold invoke ran readOnly invocations
  rw [bind_of_ok (Engine.note_apply _), h, ← List.append_assoc]
  unfold Engine.lift
  cases evaluate s c st.world <;> rfl

theorem attempt_returns (h : Returns s f st.world v w) :
    attempt s f st = outcomeOf s f v (ran s f st w) := by
  obtain ⟨c, w₀, hr, hi, hb⟩ := h
  have he : evaluate s c st.world = .ok (.ok v) w := by
    rw [evaluate_returned hi, bind_of_ok (writeBack_eq_ok.mpr hb), pure_apply]
  have hv : invoke s c (readOnly s f st) = .ok (.ok v) (ran s f st w) := by
    rw [invoke_read hr, he]
  rw [attempt_read hr]
  exact bind_of_ok hv

theorem attempt_throws {x : Value} (h : Throws s f st.world x w) : attempt s f st = (do
    let detail ← Engine.lift (Exception.describe s.machine x)
    fail s (failure s f .exec detail (some x))) (ran s f st w) := by
  obtain ⟨c, w₀, hr, hi, hc, hb⟩ := h
  have he : evaluate s c st.world = .ok (.error x) w := by
    rw [evaluate_raised hi hc, bind_of_ok (writeBack_eq_ok.mpr hb), pure_apply]
  have hx : invoke s c (readOnly s f st) = .ok (.error x) (ran s f st w) := by
    rw [invoke_read hr, he]
  rw [attempt_read hr]
  exact bind_of_ok hx

theorem attempt_ends {c : Compiled s.evaluator} (h : reading s f = .ok c)
    (he : evaluate s c st.world = .error e w) : attempt s f st = .error e (ran s f st w) := by
  have hi : invoke s c (readOnly s f st) = .error e (ran s f st w) := by
    rw [invoke_read h, he]
  rw [attempt_read h]
  exact bind_of_error hi

/-- Code that answers, but whose attributes are not carried back, has no end. -/
theorem Answers.exhausted {c : Compiled s.evaluator} {w₀ : World} (h : Answers s c w w₀)
    (hb : Script.LiveAttributes.settle s.machine w₀ = .error .exhausted w₁) :
    evaluate s c w = .error .exhausted w₁ := by
  have hw : writeBack s w₀ = .error .exhausted w₁ := writeBack_eq_error.mpr ⟨rfl, hb⟩
  obtain ⟨v, hi⟩ | ⟨x, hi, hc⟩ := h
  · rw [evaluate_returned hi, bind_of_error hw]
  · rw [evaluate_raised hi hc, bind_of_error hw]

/-- A computation over the world leaves the session of a fragment that has run but for its world. -/
theorem lift_ran {α : Type} {x : Run α} {a : α} (h : x w₁ = .ok a w) :
    Engine.lift x (ran s f st w₁) = .ok a (ran s f st w) := lift_ok (ran s f st w₁) h

theorem outcomeOf_none (h : Result.validate s.machine v f.level w₁ = .ok none w) :
    outcomeOf s f v (ran s f st w₁) =
      refuse s f v (Result.expected f.level) (ran s f st w) := bind_of_ok (lift_ran h)

theorem outcomeOf_empty (h : Result.validate s.machine v f.level w₁ = .ok (some []) w) :
    outcomeOf s f v (ran s f st w₁) = .ok .removed (ran s f st w) := bind_of_ok (lift_ran h)

theorem outcomeOf_nodes {n : NodeId} {ns : List NodeId}
    (h : Result.validate s.machine v f.level w₁ = .ok (some (n :: ns)) w) :
    outcomeOf s f v (ran s f st w₁) = placed s f v (n :: ns) (ran s f st w) :=
  bind_of_ok (lift_ran h)

theorem placed_detached {ns : List NodeId} (hp : w.forest.parent? f.node = none) :
    placed s f v ns (ran s f st w) =
      fail s (failure s f .exec "The fragment was removed from the document while it ran." none)
        (ran s f st w) := by
  have hn : (ran s f st w).world.forest.parent? f.node = none := hp
  unfold placed
  rw [bind_of_ok Engine.forest_apply, hn]
  rfl

theorem placed_enclosed {ns : List NodeId} {p : NodeId} (hp : w.forest.parent? f.node = some p)
    (he : encloses w.forest ns f.node = true) : placed s f v ns (ran s f st w) =
      refuse s f v "Returned elements cannot contain the fragment that produced them."
        (ran s f st w) := by
  have hn : (ran s f st w).world.forest.parent? f.node = some p := hp
  have hs : encloses (ran s f st w).world.forest ns f.node = true := he
  unfold placed
  rw [bind_of_ok Engine.forest_apply, hn, hs]
  rfl

theorem placed_substituted {ns : List NodeId} {p : NodeId}
    (hp : w.forest.parent? f.node = some p) (he : encloses w.forest ns f.node = false) :
    placed s f v ns (ran s f st w) = .ok (.substituted ns) (ran s f st w) := by
  have hn : (ran s f st w).world.forest.parent? f.node = some p := hp
  have hs : encloses (ran s f st w).world.forest ns f.node = false := he
  unfold placed
  rw [bind_of_ok Engine.forest_apply, hn, hs]
  rfl

theorem refuse_ok {expectation shown : String}
    (h : Exception.safeShown s.machine v w₁ = .ok shown w) :
    refuse s f v expectation (ran s f st w₁) =
      fail s (failure s f (.invalidReturn expectation) shown none) (ran s f st w) :=
  bind_of_ok (lift_ran h)

theorem refuse_ends {expectation : String}
    (h : Exception.safeShown s.machine v w₁ = .error e w) :
    refuse s f v expectation (ran s f st w₁) = .error e (ran s f st w) :=
  bind_of_error (lift_error (ran s f st w₁) h)

/-- The session that is left when a fragment has an outcome. -/
def settled (s : Settings) (f : Fragment) (o : Outcome) (st : Session) (w : World) : Session :=
  { ran s f st w with
    emitted := st.emitted ++ (warning? o).toList.map (Failure.announcement s.debug) }

theorem settled_of_quiet (h : warning? o = none) : settled s f o st w = ran s f st w := by
  unfold settled
  rw [h, Option.toList_none, List.map_nil, List.append_nil]
  rfl

/-- The gate that settles a fragment gives it its outcome. -/
theorem attempt_of_verdict (h : Verdict s f st.world o w) :
    attempt s f st = .ok o (settled s f o st w) := by
  cases h with
  | unread hr he =>
    rw [attempt_unread hr, bind_of_ok (lift_ran he)]
    rfl
  | raised he hd =>
    rw [attempt_throws he, bind_of_ok (lift_ran hd)]
    rfl
  | rejected hv hn hs =>
    rw [attempt_returns hv, outcomeOf_none hn, refuse_ok hs]
    rfl
  | emptied hv hn => rw [attempt_returns hv, outcomeOf_empty hn, settled_of_quiet rfl]
  | detached hv hn hp =>
    rw [attempt_returns hv, outcomeOf_nodes hn, placed_detached hp]
    rfl
  | enclosed hv hn hp he hs =>
    rw [attempt_returns hv, outcomeOf_nodes hn, placed_enclosed hp he, refuse_ok hs]
    rfl
  | substituted hv hn hp he =>
    rw [attempt_returns hv, outcomeOf_nodes hn, placed_substituted hp he, settled_of_quiet rfl]

/-- What ends the program ends the fragment. -/
theorem attempt_of_ends (h : Ends s f st.world e w) : attempt s f st = .error e (ran s f st w) := by
  cases h with
  | invoked hr he hc => exact attempt_ends hr (evaluate_uncaught he hc)
  | carriedBack hr ha hb => exact attempt_ends hr (ha.exhausted hb)
  | rejected hv hn hs => rw [attempt_returns hv, outcomeOf_none hn, refuse_ends hs]
  | enclosed hv hn hp he hs =>
    rw [attempt_returns hv, outcomeOf_nodes hn, placed_enclosed hp he, refuse_ends hs]

/-- What ends a fragment is no exception that can be caught. -/
theorem Ends.uncaught {x : Value} (h : Ends s f w (.raised x) w₁) : ¬ Catchable x w₁ := by
  have hshown {v : Value} {w₂ : World}
      (hs : Exception.safeShown s.machine v w₂ = .error (.raised x) w₁) : ¬ Catchable x w₁ := by
    have hr : refuse s f v "" (ran s f { world := w } w₂) =
        .error (.raised x) (ran s f { world := w } w₁) := refuse_ends hs
    exact refuse_raises hr
  cases h with
  | invoked _ _ hc => exact hc x rfl
  | rejected _ _ hs => exact hshown hs
  | enclosed _ _ _ _ hs => exact hshown hs

theorem exceptionOf_ok (fault : Fault) (w : World) : ∃ e w₁, exceptionOf fault w = .ok e w₁ := by
  unfold exceptionOf
  cases fault.cause <;> exact ⟨_, _, rfl⟩

/-- Where code holds no attributes, nothing is left to carry back. -/
theorem carriedBack_iff {w₀ : World} (h : w₀.heldAttributes = []) :
    CarriedBack s w₀ w₁ ↔ w₁ = w₀ := by
  unfold CarriedBack
  rw [Script.LiveAttributes.settle_nothing h]
  simp [eq_comm]

theorem returns_of_invoke {c : Compiled s.evaluator} {w₀ : World} (hr : reading s f = .ok c)
    (hi : s.evaluator.invoke s.space c.code w = .ok v w₀) (h : w₀.heldAttributes = []) :
    Returns s f w v w₀ := ⟨c, w₀, hr, hi, (carriedBack_iff h).mpr rfl⟩

/-- The attributes that code holds are carried back, unless that has no end. -/
theorem carriedBack_or (s : Settings) (w₀ : World) : (∃ w₁, CarriedBack s w₀ w₁) ∨
    ∃ w₁, Script.LiveAttributes.settle s.machine w₀ = .error .exhausted w₁ := by
  unfold CarriedBack
  rcases Script.LiveAttributes.settle s.machine w₀ with ⟨u, w₁⟩ | ⟨x | _, w₁⟩
  · exact .inl ⟨w₁, .inl rfl⟩
  · exact .inl ⟨w₁, .inr ⟨x, rfl⟩⟩
  · exact .inr ⟨w₁, rfl⟩

/-- Each fragment whose code returns what can be looked through is settled, or ends the program. -/
theorem Answerable.settles_returned (h : Answerable s f w) (hv : Returns s f w v w₁) :
    (∃ o w', Verdict s f w o w') ∨ ∃ e w', Ends s f w e w' := by
  obtain ⟨r, w₂, hn⟩ := h.validated v w₁ hv
  rcases r with _ | _ | ⟨n, ns⟩
  · rcases hs : Exception.safeShown s.machine v w₂ with ⟨shown, w₃⟩ | ⟨e, w₃⟩
    · exact .inl ⟨_, _, .rejected hv hn hs⟩
    · exact .inr ⟨_, _, .rejected hv hn hs⟩
  · exact .inl ⟨_, _, .emptied hv hn⟩
  · -- the tree is looked at after the code has run, which may have changed it
    cases hp : w₂.forest.parent? f.node with
    | none => exact .inl ⟨_, _, .detached hv hn hp⟩
    | some p =>
      cases he : encloses w₂.forest (n :: ns) f.node with
      | false => exact .inl ⟨_, _, .substituted hv hn hp he⟩
      | true =>
        rcases hs : Exception.safeShown s.machine v w₂ with ⟨shown, w₃⟩ | ⟨e, w₃⟩
        · exact .inl ⟨_, _, .enclosed hv hn hp he hs⟩
        · exact .inr ⟨_, _, .enclosed hv hn hp he hs⟩

/-- Each fragment whose code can be asked about is settled, or ends the program. -/
theorem Answerable.settles (h : Answerable s f w) :
    (∃ o w', Verdict s f w o w') ∨ ∃ e w', Ends s f w e w' := by
  cases hr : reading s f with
  | error fault =>
    obtain ⟨e, w₁, he⟩ := exceptionOf_ok fault w
    exact .inl ⟨_, _, .unread hr he⟩
  | ok c =>
    rcases hi : s.evaluator.invoke s.space c.code w with ⟨v, w₀⟩ | ⟨e, w₀⟩
    · obtain ⟨w₁, hb⟩ | ⟨w₁, hb⟩ := carriedBack_or s w₀
      · exact h.settles_returned ⟨c, w₀, hr, hi, hb⟩
      · exact .inr ⟨_, _, .carriedBack hr (.inl ⟨v, hi⟩) hb⟩
    · by_cases hc : ∃ x, e = .raised x ∧ Catchable x w₀
      · obtain ⟨x, rfl, hx⟩ := hc
        obtain ⟨w₁, hb⟩ | ⟨w₁, hb⟩ := carriedBack_or s w₀
        · have ht : Throws s f w x w₁ := ⟨c, w₀, hr, hi, hx, hb⟩
          obtain ⟨detail, w₂, hd⟩ := h.described x w₁ ht
          exact .inl ⟨_, _, .raised ht hd⟩
        · exact .inr ⟨_, _, .carriedBack hr (.inr ⟨x, hi, hx⟩) hb⟩
      · exact .inr ⟨_, _, .invoked hr hi fun x he hx => hc ⟨x, he, hx⟩⟩

/-- The session that is left when a fragment was executed: the cursor stands behind its text, and all
that was asked for is in the journal. -/
def left (s : Settings) (f : Fragment) (st : Session) (w : World) (told : List Emission) : Session where
  world := w
  cursor := (Source.locate s.source f.text st.cursor f.level).2
  emitted := st.emitted ++ told
  journal := st.journal ++ requests s f

theorem executes_iff : f.executes = true ↔ f.attribute? "exec" ≠ some "false" := by
  unfold Fragment.executes
  exact bne_iff_ne

theorem withheld_eq : withheld f =
    if f.level = .block ∧ f.attribute? "include" = some "false" then .removed
    else .unchanged none := by
  unfold withheld Fragment.included
  cases f.level <;> by_cases h : f.attribute? "include" = some "false" <;> simp [h]

theorem execute_of_verdict (hx : f.executes = true)
    (h : Verdict s (placedAt s f st) st.world o w) : execute s f st =
      .ok (placedAt s f st, o)
        (left s f st w ((warning? o).toList.map (Failure.announcement s.debug))) := by
  have ha : attempt s (placedAt s f st) (located s f.text f.level st) = _ := attempt_of_verdict h
  rw [execute_on hx, bind_of_ok ha, pure_apply]
  unfold settled ran located left requests
  rw [List.append_assoc]
  rfl

theorem execute_of_ends (hx : f.executes = true) (h : Ends s (placedAt s f st) st.world e w) :
    execute s f st = .error e (left s f st w []) := by
  have ha : attempt s (placedAt s f st) (located s f.text f.level st) = _ := attempt_of_ends h
  rw [execute_on hx, bind_of_error ha]
  unfold ran located left requests
  rw [List.append_assoc, List.append_nil]
  rfl

end

/-- A fragment that is switched off has its outcome, and the session stays as it is. Any other fragment
is settled by the first gate that it does not pass: it is located once, compiled, and run if it was
compiled; it leaves its warning, if it has one, and nothing but that and what its own code did. If what
its code raises or returns can be asked about, it is settled, unless the end of the program is asked
for. What is run is what was compiled last, and what is not run was compiled to nothing in any mode. -/
theorem execute_settles (s : Settings) (f : Fragment) (st : Session) :
    (f.attribute? "exec" = some "false" → execute s f st =
      .ok (f, if f.level = .block ∧ f.attribute? "include" = some "false" then .removed
        else .unchanged none) st) ∧
    (f.attribute? "exec" ≠ some "false" →
      (∀ o w, Verdict s (placedAt s f st) st.world o w → execute s f st =
        .ok (placedAt s f st, o)
          (left s f st w ((warning? o).toList.map (Failure.announcement s.debug)))) ∧
      (∀ e w, Ends s (placedAt s f st) st.world e w →
        execute s f st = .error e (left s f st w []) ∧ ∀ x, e = .raised x → ¬ Catchable x w) ∧
      (Answerable s f st.world → (∃ o w, Verdict s (placedAt s f st) st.world o w) ∨
        ∃ e w, Ends s (placedAt s f st) st.world e w) ∧
      (∀ c, reading s f = .ok c → c.text = f.text ∧
        (compilations s f).getLast? = some (.compiled c.mode f.text true)) ∧
      ∀ fault, reading s f = .error fault →
        s.evaluator.compile .statements f.text = .error fault ∧
          ∀ k ∈ compilations s f, ∃ mode, k = .compiled mode f.text false) := by
  constructor
  · intro hx
    have hoff : f.executes = false := by
      rw [← Bool.not_eq_true, executes_iff]
      exact not_not_intro hx
    rw [execute_off hoff, withheld_eq]
  · intro hx
    have hon : f.executes = true := executes_iff.mpr hx
    refine ⟨fun o w h => execute_of_verdict hon h, fun e w h => ?_, fun h => ?_,
      fun c h => compilations_of_read h, fun fault h => compilations_of_unread h⟩
    · refine ⟨execute_of_ends hon h, ?_⟩
      rintro x rfl
      exact h.uncaught
    · have hp : Answerable s (placedAt s f st) st.world := ⟨h.described, h.validated⟩
      exact hp.settles

/-- An evaluator that compiles each text as statements only, which return the text. -/
def statementsOnly : Evaluator where
  Code := String
  compile mode text := match mode with
    | .expression => .error { message := "no expression" }
    | .statements => .ok text
  invoke _ text := pure (.str text)

def statementsSettings : Settings := { paragraphSettings with evaluator := statementsOnly }

/-- A block that is switched off and is not to be shown. -/
def hiddenBlock : Fragment where
  node := 3
  level := .block
  text := "hidden"
  attributes := [("exec", "false"), ("include", "false")]

/-- The block is removed at once; the inline code is compiled twice, run, and gives way to a new text. -/
theorem paragraph_settled :
    execute statementsSettings hiddenBlock paragraph = .ok (hiddenBlock, .removed) paragraph ∧
    Answerable statementsSettings paragraphCode paragraph.world ∧
    ((∃ o w, Verdict statementsSettings paragraphCode paragraph.world o w) ∨
      ∃ e w, Ends statementsSettings paragraphCode paragraph.world e w) ∧
    ∃ w, Verdict statementsSettings paragraphCode paragraph.world (.substituted [7]) w ∧
      execute statementsSettings paragraphCode paragraph = .ok (paragraphCode, .substituted [7])
        { paragraph with
          world := w
          journal := [.located "regroup" .inline, .compiled .expression "regroup" false,
            .compiled .statements "regroup" true, .invoked .statements "regroup"] } := by
  have hvalid : Result.validate (Script.machine 2) (.str "regroup") .inline paragraph.world = _ :=
    DocumentRun.validate_str "regroup"
  have ha : Answerable statementsSettings paragraphCode paragraph.world := by
    refine ⟨fun e w₁ ht => ?_, fun v w₁ hv => ?_⟩
    · obtain ⟨c, w₀, -, hi, -⟩ := ht
      cases hi
    · obtain ⟨c, w₀, hr, hi, hb⟩ := hv
      cases hr
      cases hi
      cases (carriedBack_iff (by rfl)).mp hb
      exact ⟨_, _, hvalid⟩
  obtain ⟨hoff, -⟩ := execute_settles statementsSettings hiddenBlock paragraph
  obtain ⟨-, hon⟩ := execute_settles statementsSettings paragraphCode paragraph
  obtain ⟨hverdict, -, htotal, -, -⟩ := hon (by decide)
  have hv : Verdict statementsSettings paragraphCode paragraph.world (.substituted [7]) _ :=
    .substituted (returns_of_invoke rfl rfl rfl) hvalid rfl (by decide)
  exact ⟨hoff (by decide), ha, htotal ha, _, hv, hverdict _ _ hv⟩

end Executor

end LiveMarkdown
