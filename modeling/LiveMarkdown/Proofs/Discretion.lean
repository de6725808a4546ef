import LiveMarkdown.Proofs.Refinement

/-!
What is said about a run does not change it. Two runs over the same document that are given different
sources, and tell different hosts about it under different names, go through the same worlds and come to
the same results, apart from positions and names.
-/

namespace LiveMarkdown

open Document (NodeId Forest)
open Script (Machine Value Run Stop World)

/-- A failure that is not said to stand anywhere. -/
def Failure.unplaced (w : Failure) : Failure := { w with position := .unknown, inputName := "" }

/-- An outcome apart from where its failure is said to stand. -/
def Outcome.unplaced : Outcome → Outcome
  | .unchanged w => .unchanged (w.map Failure.unplaced)
  | o => o

/-- A result apart from what is said about its place. -/
def bare (r : Fragment × Outcome) : Fragment × Outcome := (r.1.unplaced, r.2.unplaced)

/-- The settings of a run with another source, under another name, for another host. -/
def Settings.told (s : Settings) (source inputName : String) (debug : Bool) : Settings :=
  { s with source, inputName, debug }

/-- Two computations come to ends that are related, or stop alike, and in either case in one world. -/
inductive InStep {α β : Type} (R : α → β → Prop) :
    EStateM.Result Stop Session α → EStateM.Result Stop Session β → Prop where
  | ok {a : α} {b : β} {st sr : Session} (hw : st.world = sr.world) (hr : R a b) :
    InStep R (.ok a st) (.ok b sr)
  | error {e : Stop} {st sr : Session} (hw : st.world = sr.world) :
    InStep R (.error e st) (.error e sr)

namespace InStep

variable {α β γ δ : Type} {R : α → β → Prop} {Q : γ → δ → Prop} {x : Engine α} {y : Engine β}
  {f : α → Engine γ} {g : β → Engine δ} {st sr : Session}

theorem bind (h : InStep R (x st) (y sr))
    (hf : ∀ a st₁ b sr₁, st₁.world = sr₁.world → R a b → InStep Q (f a st₁) (g b sr₁)) :
    InStep Q ((x >>= f) st) ((y >>= g) sr) := by
  rw [bind_apply, bind_apply]
  generalize x st = r at h
  generalize y sr = r' at h
  cases h with
  | ok hw hr => exact hf _ _ _ _ hw hr
  | error hw => exact .error hw

theorem lift (hw : st.world = sr.world) (x : Run α) :
    InStep Eq (Engine.lift x st) (Engine.lift x sr) := by
  unfold Engine.lift
  rw [hw]
  cases x sr.world with
  | ok a w => exact .ok rfl rfl
  | error e w => exact .error rfl

end InStep

namespace Executor

variable {s : Settings} {source inputName : String} {debug : Bool} {f : Fragment}
  {p : Source.Position} {st sr : Session} {o o' : Outcome}

/-- Two outcomes are the same apart from where their failures are said to stand. -/
def SameOutcome (o o' : Outcome) : Prop := o.unplaced = o'.unplaced

theorem fail_inStep (hw : st.world = sr.world) (kind : FailureKind) (detail : String)
    (cause : Option Value) : InStep SameOutcome (fail s (failure s f kind detail cause) st)
      (fail (s.told source inputName debug)
        (failure (s.told source inputName debug) { f with position := p } kind detail cause) sr) :=
  .ok hw rfl

theorem refuse_inStep (hw : st.world = sr.world) (v : Value) (expectation : String) :
    InStep SameOutcome (refuse s f v expectation st)
      (refuse (s.told source inputName debug) { f with position := p } v expectation sr) := by
  refine (InStep.lift hw _).bind fun shown st₁ shown' sr₁ hw he => ?_
  subst he
  exact fail_inStep hw ..

theorem placed_inStep (hw : st.world = sr.world) (v : Value) (nodes : List NodeId) :
    InStep SameOutcome (placed s f v nodes st)
      (placed (s.told source inputName debug) { f with position := p } v nodes sr) := by
  unfold placed
  rw [bind_of_ok Engine.forest_apply, bind_of_ok Engine.forest_apply, hw]
  by_cases hp : (sr.world.forest.parent? f.node).isNone
  · rw [if_pos hp, if_pos hp]
    exact fail_inStep hw ..
  · rw [if_neg hp, if_neg hp]
    by_cases he : encloses sr.world.forest nodes f.node
    · rw [if_pos he, if_pos he]
      exact refuse_inStep hw ..
    · rw [if_neg he, if_neg he]
      exact .ok hw rfl

theorem outcomeOf_inStep (hw : st.world = sr.world) (v : Value) :
    InStep SameOutcome (outcomeOf s f v st)
      (outcomeOf (s.told source inputName debug) { f with position := p } v sr) := by
  refine (InStep.lift hw _).bind fun r st₁ r' sr₁ hw he => ?_
  subst he
  rcases r with _ | _ | ⟨n, ns⟩
  · exact refuse_inStep hw ..
  · exact .ok hw rfl
  · exact placed_inStep hw ..

theorem runCode_inStep (hw : st.world = sr.world) (code : Compiled s.evaluator) :
    InStep SameOutcome (runCode s f code st)
      (runCode (s.told source inputName debug) { f with position := p } code sr) := by
  have hi : InStep Eq (invoke s code st) (invoke (s.told source inputName debug) code sr) := by
    have he : evaluate (s.told source inputName debug) code = evaluate s code := rfl
    unfold invoke
    rw [bind_of_ok (Engine.note_apply _), bind_of_ok (Engine.note_apply _), he]
    refine InStep.lift ?_ (evaluate s code)
    exact hw
  refine hi.bind fun r st₁ r' sr₁ hw he => ?_
  subst he
  cases r with
  | error e =>
    refine (InStep.lift hw _).bind fun detail st₂ detail' sr₂ hw he => ?_
    subst he
    exact fail_inStep hw ..
  | ok v => exact outcomeOf_inStep hw v

theorem reading_told :
    reading (s.told source inputName debug) { f with position := p } = reading s f := by
  obtain ⟨ev, m, space, _, markers, _, _⟩ := s
  unfold reading Settings.told
  cases f.level with
  | block => rfl
  | inline =>
    dsimp only
    cases ev.compiled .expression f.text <;> rfl

theorem attempt_inStep (hw : st.world = sr.world) : InStep SameOutcome (attempt s f st)
    (attempt (s.told source inputName debug) { f with position := p } sr) := by
  have hw : (compiled s f st).world =
      (compiled (s.told source inputName debug) { f with position := p } sr).world := by
    rw [compiled_world, compiled_world, hw]
  unfold attempt
  rw [bind_of_ok compile_apply, bind_of_ok compile_apply, reading_told]
  cases reading s f with
  | error fault =>
    refine (InStep.lift hw _).bind fun e st₁ e' sr₁ hw he => ?_
    subst he
    exact fail_inStep hw ..
  | ok code => exact runCode_inStep hw code

/-- What a fragment comes to does not depend on what is said about it. -/
theorem execute_inStep (hw : st.world = sr.world) :
    InStep (fun r r' => bare r = bare r') (execute s f st)
      (execute (s.told source inputName debug) f sr) := by
  cases hx : f.executes with
  | false =>
    rw [execute_off hx, execute_off hx]
    exact .ok hw rfl
  | true =>
    rw [execute_on hx, execute_on hx]
    refine InStep.bind (attempt_inStep hw) fun o st₁ o' sr₁ hw ho => ?_
    exact .ok hw (Prod.ext rfl ho)

theorem process_inStep (hw : st.world = sr.world) (n : NodeId) :
    InStep (fun r r' => r.map bare = r'.map bare) (process s n st)
      (process (s.told source inputName debug) n sr) := by
  have hl : (lookedAt n st).world = (lookedAt n sr).world := hw
  have hm : (s.told source inputName debug).markers = s.markers := rfl
  rw [process_apply, process_apply, hw, hm]
  cases Fragment.ofNode? sr.world.forest s.markers n with
  | none => exact .ok hl rfl
  | some f =>
    refine InStep.bind (execute_inStep hl) fun r st₁ r' sr₁ hw hr => ?_
    exact .ok hw (congrArg some hr)

theorem edit_unplaced (ho : SameOutcome o o') : edit f o = edit { f with position := p } o' := by
  cases o with
  | substituted nodes =>
    cases o' <;> cases ho
    rfl
  | removed =>
    cases o' <;> cases ho
    rfl
  | unchanged w =>
    cases o' with
    | unchanged w' => rfl
    | substituted nodes => cases ho
    | removed => cases ho

theorem apply_inStep (hw : st.world = sr.world) (ho : SameOutcome o o') :
    InStep SameOutcome (apply s f o st)
      (apply (s.told source inputName debug) { f with position := p } o' sr) := by
  have he : InStep Eq (applyEdit f o st) (applyEdit { f with position := p } o' sr) := by
    rw [applyEdit_apply, applyEdit_apply, edit_unplaced (p := p) ho, hw]
    cases (edit { f with position := p } o').run sr.world.forest <;> exact .ok rfl rfl
  refine he.bind fun x st₁ x' sr₁ hw he => ?_
  subst he
  cases x with
  | none => exact .ok hw ho
  | some e =>
    refine (InStep.lift hw _).bind fun x st₂ x' sr₂ hw he => ?_
    subst he
    refine (InStep.lift hw _).bind fun detail st₃ detail' sr₃ hw he => ?_
    subst he
    exact fail_inStep hw ..

end Executor

namespace Walk

variable {s : Settings} {source inputName : String} {debug : Bool} {fuel : Nat}
  {parent n : NodeId} {done done' : List (Fragment × Outcome)} {st sr : Session}

theorem visit_inStep (hw : st.world = sr.world) (n : NodeId) :
    InStep (fun r r' => r.map bare = r'.map bare) (visit s n st)
      (visit (s.told source inputName debug) n sr) := by
  refine (Executor.process_inStep hw n).bind fun r st₁ r' sr₁ hw hr => ?_
  rcases r with _ | ⟨f, o⟩ <;> rcases r' with _ | ⟨f', o'⟩
  · exact .ok hw rfl
  · cases hr
  · cases hr
  · obtain ⟨hf, ho⟩ := Prod.ext_iff.mp (Option.some.inj hr)
    obtain ⟨p, rfl⟩ : ∃ p, f' = { f with position := p } := by
      obtain ⟨n, l, t, a, p⟩ := f
      obtain ⟨n', l', t', a', p'⟩ := f'
      cases hf
      exact ⟨p', rfl⟩
    refine InStep.bind (Executor.apply_inStep hw ho) fun o₁ st₂ o₁' sr₂ hw ho => ?_
    exact .ok hw (congrArg some (Prod.ext rfl ho))

/-- Two walks whose results so far are the same go on alike. -/
theorem siblings_inStep
    {below below' : NodeId → List (Fragment × Outcome) → Engine (List (Fragment × Outcome))}
    (hb : ∀ n done done' st sr, st.world = sr.world → done.map bare = done'.map bare →
      InStep (fun rs rs' => rs.map bare = rs'.map bare) (below n done st) (below' n done' sr))
    (ns : List NodeId) (hw : st.world = sr.world) (hd : done.map bare = done'.map bare) :
    InStep (fun rs rs' => rs.map bare = rs'.map bare) (siblings s below parent ns done st)
      (siblings (s.told source inputName debug) below' parent ns done' sr) := by
  induction ns generalizing done done' st sr with
  | nil => exact .ok hw hd
  | cons n ns ih =>
    by_cases hp : st.world.forest.parent? n = some parent
    · rw [siblings_here hp, siblings_here (hw ▸ hp)]
      refine (visit_inStep hw n).bind fun r st₁ r' sr₁ hw hr => ?_
      cases r <;> cases r' <;> dsimp only
      · rw [bind_of_ok Engine.forest_apply, bind_of_ok Engine.forest_apply, hw]
        cases ht : sr₁.world.forest.isTag n with
        | true => exact (hb n _ _ _ _ hw hd).bind fun rs st₂ rs' sr₂ hw hd => ih hw hd
        | false => exact ih hw hd
      · cases hr
      · cases hr
      · refine ih hw ?_
        rw [List.map_append, List.map_append, hd]
        exact congrArg (_ ++ [·]) (Option.some.inj hr)
    · rw [siblings_moved hp, siblings_moved (hw ▸ hp)]
      exact ih hw hd

theorem children_inStep (hw : st.world = sr.world) (hd : done.map bare = done'.map bare) :
    InStep (fun rs rs' => rs.map bare = rs'.map bare) (children s fuel parent done st)
      (children (s.told source inputName debug) fuel parent done' sr) := by
  induction fuel generalizing parent done done' st sr with
  | zero => exact .error hw
  | succ fuel ih =>
    rw [children_succ, children_succ, hw]
    refine siblings_inStep ?_ _ hw hd
    exact fun n done done' st sr hw hd => ih hw hd

end Walk

namespace RunOptions

variable {files : Files} {o : RunOptions}

/-- The source of a run can be asked for: the host gives it, or the input has a name that can be the
path of a file, or no name at all. -/
def Loadable (o : RunOptions) : Prop :=
  o.source = none → ∀ path, o.inputPath = some path → isPath path = true

theorem Loadable.load (h : o.Loadable) (files : Files) : ∃ source, o.load files = pure source := by
  unfold RunOptions.load
  cases hs : o.source with
  | some source => exact ⟨source, rfl⟩
  | none =>
    cases hp : o.inputPath with
    | none => exact ⟨"", rfl⟩
    | some path =>
      refine ⟨(files path).getD "", ?_⟩
      dsimp only
      rw [if_pos (h hs path hp)]

end RunOptions

namespace DocumentRun

variable {files files' : Files} {ev : Evaluator} {m : Machine} {config : Config} {root : NodeId}
  {metadata : Value} {o o' : RunOptions} {st sr : Session}

/-- A run that gets its source from a file is a run that is given it. -/
theorem processInput_eq {source : String} (h : o.load files = pure source) :
    processInput files ev m config root metadata o =
      process ev m config root metadata { o with source := some source } := by
  unfold processInput process
  rw [h]
  rfl

/-- A run whose source is refused does not start. -/
theorem processInput_refused {w w' : World} {e : Stop}
    (hon : enabledFor m config metadata st.world = .ok true w) (hl : o.load files w = .error e w') :
    processInput files ev m config root metadata o st = .error e { st with world := w' } := by
  unfold processInput
  rw [bind_of_ok (Engine.lift_eq_ok.mpr ⟨w, hon, rfl⟩)]
  exact bind_eq_error.mpr (.inl (Engine.lift_eq_error.mpr ⟨w', hl, rfl⟩))

/-- Two runs of a document, apart from what is said about them: whether they were switched on, and the
results. -/
def SameRun (r r' : DocumentRun) : Prop :=
  r.enabled = r'.enabled ∧ r.results.map bare = r'.results.map bare

theorem process_inStep (hb : o.bindings = o'.bindings) (hw : st.world = sr.world) :
    InStep SameRun (process ev m config root metadata o st)
      (process ev m config root metadata o' sr) := by
  have hn : namespaceFor root metadata o' = namespaceFor root metadata o := by
    unfold namespaceFor
    rw [hb]
  refine (InStep.lift hw _).bind fun b st₁ b' sr₁ hw he => ?_
  subst he
  cases b with
  | false => exact .ok hw ⟨rfl, rfl⟩
  | true =>
    have hl : InStep Eq (Engine.lift (namespaceFor root metadata o) st₁)
        (Engine.lift (namespaceFor root metadata o') sr₁) := by
      rw [hn]
      exact InStep.lift hw _
    refine hl.bind fun space st₂ space' sr₂ hw he => ?_
    subst he
    have hs : settings ev m config o' space = (settings ev m config o space).told
      (Text.normaliseNewlines (o'.source.getD "")) o'.inputName o'.debug := rfl
    unfold perform
    rw [bind_of_ok Engine.forest_apply, bind_of_ok Engine.forest_apply, hw, hs]
    refine (Walk.children_inStep hw rfl).bind fun rs st₃ rs' sr₃ hw hr => ?_
    exact .ok hw ⟨rfl, hr⟩

/-- What a run is told about its input, and whom it tells about itself, does not change it: whatever the
sources and the names of two runs over one document are, and whatever was said before, they come to the
same tree, the same namespace and the same results, apart from positions and names, or stop in the same
way. -/
theorem processInput_inStep (files files' : Files) (ev : Evaluator) (m : Machine) (config : Config)
    (root : NodeId) (metadata : Value) (hb : o.bindings = o'.bindings) (ho : o.Loadable)
    (ho' : o'.Loadable) (hw : st.world = sr.world) :
    InStep SameRun (processInput files ev m config root metadata o st)
      (processInput files' ev m config root metadata o' sr) := by
  obtain ⟨source, h⟩ := ho.load files
  obtain ⟨source', h'⟩ := ho'.load files'
  rw [processInput_eq h, processInput_eq h']
  exact process_inStep hb hw

/-- A run with a source, and a run with the name of a file for a host that asks for more. -/
theorem nestedFragments_told : ∃ run st' run' sr',
    processInput (fun _ => none) quoteEvaluator (Script.machine 4) {} 0 (.ref 0)
      { source := some "one" } nestedFragments = .ok run st' ∧
    processInput (fun _ => some "two") quoteEvaluator (Script.machine 4) {} 0 (.ref 0)
      { inputPath := some "notes.md", debug := true } nestedFragments = .ok run' sr' ∧
    st'.world = sr'.world ∧ run.results.map bare = run'.results.map bare ∧
    run.results.length = 2 := by
  have hd : enabledFor (Script.machine 4) {} (.ref 0) nestedFragments.world = _ :=
    enabledFor_dict 3 rfl
  have hok : okAnd (processInput (fun _ => none) quoteEvaluator (Script.machine 4) {} 0 (.ref 0)
      { source := some "one" } nestedFragments) fun run _ => run.results.length == 2 := by
    rw [processInput_eq rfl, process_eq, hd]
    decide +kernel
  obtain ⟨run, st', h, hr⟩ := exists_of_okAnd hok
  have ho : RunOptions.Loadable { source := some "one" } := nofun
  have ho' : RunOptions.Loadable { inputPath := some "notes.md", debug := true } := by
    intro _ path hp
    cases hp
    decide
  have hb : RunOptions.bindings { source := some "one" } =
      RunOptions.bindings { inputPath := some "notes.md", debug := true } := rfl
  have hw : nestedFragments.world = nestedFragments.world := rfl
  have hs := processInput_inStep (fun _ => none) (fun _ => some "two") quoteEvaluator
    (Script.machine 4) {} 0 (.ref 0) hb ho ho' hw
  rw [h] at hs
  generalize processInput (fun _ => some "two") quoteEvaluator (Script.machine 4) {} 0 (.ref 0)
    { inputPath := some "notes.md", debug := true } nestedFragments = x at hs ⊢
  cases hs with
  | ok hw hr' => exact ⟨run, st', _, _, h, rfl, hw, hr'.2, beq_iff_eq.mp hr⟩

/-- A name that cannot be the path of a file stops a run that goes well under another name. -/
theorem nestedFragments_refused : ∃ run st' e sr',
    processInput (fun _ => none) quoteEvaluator (Script.machine 4) {} 0 (.ref 0)
      { inputPath := some "ab" } nestedFragments = .ok run st' ∧ run.results.length = 2 ∧
    processInput (fun _ => none) quoteEvaluator (Script.machine 4) {} 0 (.ref 0)
      { inputPath := some "a\x00b" } nestedFragments = .error (.raised e) sr' := by
  have hd : enabledFor (Script.machine 4) {} (.ref 0) nestedFragments.world = _ :=
    enabledFor_dict 3 rfl
  have hok : okAnd (processInput (fun _ => none) quoteEvaluator (Script.machine 4) {} 0 (.ref 0)
      { inputPath := some "ab" } nestedFragments) fun run _ => run.results.length == 2 := by
    rw [processInput_eq rfl, process_eq, hd]
    decide +kernel
  obtain ⟨run, st', h, hr⟩ := exists_of_okAnd hok
  have hno : okAnd (enabledFor (Script.machine 4) {} (.ref 0) nestedFragments.world) fun b w =>
      b && raisedAnd (RunOptions.load (fun _ => none) { inputPath := some "a\x00b" } w)
        fun _ _ => true := by
    rw [hd]
    decide +kernel
  obtain ⟨b, w, hw, hb⟩ := exists_of_okAnd hno
  rw [Bool.and_eq_true] at hb
  obtain ⟨rfl, hb⟩ := hb
  obtain ⟨e, w', hl, -⟩ := exists_of_raisedAnd hb
  exact ⟨run, st', e, _, h, beq_iff_eq.mp hr, processInput_refused hw hl⟩

end DocumentRun

end LiveMarkdown
