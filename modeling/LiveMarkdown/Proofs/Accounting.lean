import LiveMarkdown.Proofs.Walk

/-!
What a run tells its host. Each failure that stays in the record of a run is announced once, in the
order of the record, and the event of the run follows; its numbers are those of the visits that found
a fragment.
-/

namespace LiveMarkdown

open Document (NodeId)
open Script (Machine Value Run)

/-- What the host is told of a failure. -/
def Failure.announcement (debug : Bool) (w : Failure) : Emission :=
  .warning w.message (if debug then w.cause else none)

/-- Whether a step is the visit of a fragment. -/
def Step.visitsFragment (markers : List String) : Step → Bool
  | .processed n f => (Fragment.ofNode? f markers n).isSome
  | _ => false

/-- The node that a step visits, in the tree as it is then. -/
def Step.visited? : Step → Option (NodeId × Document.Forest)
  | .processed n f => some (n, f)
  | _ => none

/-- Whether a node that is visited is a fragment. -/
def isFragment (markers : List String) (x : NodeId × Document.Forest) : Bool :=
  (Fragment.ofNode? x.2 markers x.1).isSome

theorem Step.countP_visitsFragment (markers : List String) (steps : List Step) :
    steps.countP (Step.visitsFragment markers) =
      (steps.filterMap Step.visited?).countP (isFragment markers) := by
  rw [List.countP_filterMap]
  congr 1
  funext k
  cases k <;> rfl

open DocumentRun (warning?)

/-- Between two sessions the given failures were announced, and the given nodes visited. -/
structure Accounts (s : Settings) (st st' : Session) (ws : List Failure)
    (seen : List (NodeId × Document.Forest)) : Prop where
  emitted : st'.emitted = st.emitted ++ ws.map (Failure.announcement s.debug)
  visited : ∃ steps, st'.journal = st.journal ++ steps ∧ steps.filterMap Step.visited? = seen

namespace Accounts

variable {s : Settings} {st st₁ st₂ : Session} {ws vs : List Failure}
  {seen more : List (NodeId × Document.Forest)}

theorem refl (st : Session) : Accounts s st st [] [] := ⟨by simp, [], by simp⟩

theorem trans (h : Accounts s st st₁ ws seen) (g : Accounts s st₁ st₂ vs more) :
    Accounts s st st₂ (ws ++ vs) (seen ++ more) := by
  obtain ⟨steps, hj, hc⟩ := h.visited
  obtain ⟨steps', gj, gc⟩ := g.visited
  refine ⟨by simp [g.emitted, h.emitted], steps ++ steps', by simp [gj, hj], ?_⟩
  rw [List.filterMap_append, hc, gc]

/-- Steps other than visits, and changes of the world, count for nothing. -/
theorem of_steps (steps : List Step) (he : st₁.emitted = st.emitted)
    (hj : st₁.journal = st.journal ++ steps)
    (hs : steps.filterMap Step.visited? = []) : Accounts s st st₁ [] [] :=
  ⟨by simp [he], steps, hj, hs⟩

theorem lift {α : Type} {x : Run α} {a : α} (h : Engine.lift x st = .ok a st₁) :
    Accounts s st st₁ [] [] := by
  obtain ⟨w, -, rfl⟩ := Engine.lift_eq_ok.mp h
  exact of_steps [] rfl (by simp) rfl

end Accounts

namespace Executor

variable {s : Settings} {f g : Fragment} {o o' : Outcome} {st st' : Session}

theorem fail_accounts {w : Failure} (h : fail s w st = .ok o st') :
    Accounts s st st' (warning? o).toList [] := by
  rw [fail_apply] at h
  cases h
  exact ⟨rfl, [], by simp⟩

theorem located_accounts (text : String) (level : Level) :
    Accounts s st (located s text level st) [] [] :=
  .of_steps [.located text level] rfl rfl rfl

theorem noted_accounts (mode : Mode) (text : String) : Accounts s st (noted s mode text st) [] [] :=
  .of_steps [_] rfl rfl rfl

theorem compiled_accounts : Accounts s st (compiled s f st) [] [] := by
  unfold compiled
  split
  · exact noted_accounts ..
  · split
    · exact noted_accounts ..
    · exact (noted_accounts ..).trans (noted_accounts ..)

theorem invoke_accounts {code : Compiled s.evaluator} {r : Except Value Value}
    (h : invoke s code st = .ok r st') : Accounts s st st' [] [] := by
  unfold invoke at h
  rw [bind_of_ok (Engine.note_apply _)] at h
  have hn : Accounts s st { st with journal := st.journal ++ [.invoked code.mode code.text] } [] [] :=
    .of_steps [.invoked code.mode code.text] rfl rfl rfl
  exact hn.trans (.lift h)

theorem refuse_accounts {v : Value} {expectation : String}
    (h : refuse s f v expectation st = .ok o st') : Accounts s st st' (warning? o).toList [] := by
  obtain ⟨shown, st₁, hs, hf⟩ := bind_eq_ok.mp h
  exact (Accounts.lift hs).trans (fail_accounts hf)

theorem placed_accounts {v : Value} {nodes : List NodeId}
    (h : placed s f v nodes st = .ok o st') : Accounts s st st' (warning? o).toList [] := by
  unfold placed at h
  rw [bind_of_ok Engine.forest_apply] at h
  split at h
  · exact fail_accounts h
  · split at h
    · exact refuse_accounts h
    · cases h
      exact .refl _

theorem outcomeOf_accounts {v : Value} (h : outcomeOf s f v st = .ok o st') :
    Accounts s st st' (warning? o).toList [] := by
  obtain ⟨r, st₁, hl, h⟩ := bind_eq_ok.mp h
  rcases r with _ | _ | ⟨n, ns⟩
  · exact (Accounts.lift hl).trans (refuse_accounts h)
  · cases h
    exact .lift hl
  · exact (Accounts.lift hl).trans (placed_accounts h)

theorem runCode_accounts {code : Compiled s.evaluator} (h : runCode s f code st = .ok o st') :
    Accounts s st st' (warning? o).toList [] := by
  obtain ⟨r, st₁, hi, h⟩ := bind_eq_ok.mp h
  cases r with
  | error e =>
    obtain ⟨detail, st₂, hd, hf⟩ := bind_eq_ok.mp h
    exact (invoke_accounts hi).trans ((Accounts.lift hd).trans (fail_accounts hf))
  | ok v => exact (invoke_accounts hi).trans (outcomeOf_accounts h)

theorem attempt_accounts (h : attempt s f st = .ok o st') :
    Accounts s st st' (warning? o).toList [] := by
  unfold attempt at h
  rw [bind_of_ok compile_apply] at h
  cases hr : reading s f with
  | error fault =>
    rw [hr] at h
    obtain ⟨e, st₁, he, hf⟩ := bind_eq_ok.mp h
    exact compiled_accounts.trans ((Accounts.lift he).trans (fail_accounts hf))
  | ok code =>
    rw [hr] at h
    exact compiled_accounts.trans (runCode_accounts h)

theorem warning?_withheld : warning? (withheld f) = none := by
  unfold withheld
  split <;> rfl

theorem execute_accounts (h : execute s f st = .ok (g, o) st') :
    Accounts s st st' (warning? o).toList [] := by
  cases hx : f.executes with
  | false =>
    rw [execute_off hx] at h
    cases h
    rw [warning?_withheld]
    exact .refl _
  | true =>
    rw [execute_on hx] at h
    obtain ⟨o', st₁, ha, h⟩ := bind_eq_ok.mp h
    cases h
    exact (located_accounts ..).trans (attempt_accounts ha)

theorem process_accounts {n : NodeId} {r : Option (Fragment × Outcome)}
    (h : process s n st = .ok r st') :
    Accounts s st st' (r.bind fun x => warning? x.2).toList [(n, st.world.forest)] ∧
      r.isSome = isFragment s.markers (n, st.world.forest) := by
  unfold process at h
  rw [bind_of_ok Engine.forest_apply, bind_of_ok (Engine.note_apply _),
    bind_of_ok Engine.forest_apply] at h
  have hn : Accounts s st { st with journal := st.journal ++ [.processed n st.world.forest] } []
      [(n, st.world.forest)] := ⟨by simp, _, rfl, rfl⟩
  unfold isFragment
  cases hf : Fragment.ofNode? st.world.forest s.markers n with
  | none =>
    simp only [hf] at h
    cases h
    exact ⟨hn, rfl⟩
  | some f =>
    simp only [hf] at h
    obtain ⟨⟨g, o⟩, st₁, he, h⟩ := bind_eq_ok.mp h
    cases h
    exact ⟨hn.trans (execute_accounts he), rfl⟩

/-- Only the insertion of nodes can be refused. -/
theorem edit_error {e : Document.EditError} {f₁ f₂ : Document.Forest}
    (h : (edit f o).run f₁ = .error e f₂) : warning? o = none := by
  cases o with
  | substituted nodes => rfl
  | removed => cases h
  | unchanged w => cases h

theorem apply_accounts (h : apply s f o st = .ok o' st') :
    ∃ ws, Accounts s st st' ws [] ∧ (warning? o').toList = (warning? o).toList ++ ws := by
  unfold apply at h
  rw [bind_apply, applyEdit_apply] at h
  cases he : (edit f o).run st.world.forest with
  | ok _ forest =>
    simp only [he] at h
    cases h
    exact ⟨[], .of_steps [] rfl (by simp) rfl, by simp⟩
  | error e forest =>
    simp only [he] at h
    obtain ⟨x, st₁, hx, h⟩ := bind_eq_ok.mp h
    obtain ⟨detail, st₂, hd, h⟩ := bind_eq_ok.mp h
    refine ⟨(warning? o').toList, ?_, by simp [edit_error he]⟩
    have hs : Accounts s st { st with world := { st.world with forest } } [] [] :=
      .of_steps [] rfl (by simp) rfl
    exact hs.trans ((Accounts.lift hx).trans ((Accounts.lift hd).trans (fail_accounts h)))

end Executor

namespace Walk

theorem filterMap_warning? (f : Fragment) (o : Outcome) :
    [(f, o)].filterMap (fun x => warning? x.2) = (warning? o).toList := by
  cases h : warning? o <;> simp [h]

theorem visit_accounts {s : Settings} {n : NodeId} {r : Option (Fragment × Outcome)}
    {st st' : Session} (h : visit s n st = .ok r st') :
    Accounts s st st' (r.toList.filterMap fun x => warning? x.2) [(n, st.world.forest)] ∧
      r.isSome = isFragment s.markers (n, st.world.forest) := by
  obtain ⟨hp, rfl⟩ | ⟨f, o, o', st₁, hp, ha, rfl⟩ := visit_eq_ok.mp h
  · exact Executor.process_accounts hp
  · obtain ⟨ws, hw, hs⟩ := Executor.apply_accounts ha
    obtain ⟨hr, hi⟩ := Executor.process_accounts hp
    refine ⟨?_, hi⟩
    rw [Option.toList_some, filterMap_warning?, hs]
    exact hr.trans hw

/-- A walk announces the failures that it records, and visits a fragment for each result. -/
theorem children_accounts {s : Settings} {fuel : Nat} {parent : NodeId}
    {rs : List (Fragment × Outcome)} {st st' : Session}
    (h : children s fuel parent [] st = .ok rs st') :
    ∃ seen, Accounts s st st' (rs.filterMap fun x => warning? x.2) seen ∧
      seen.countP (isFragment s.markers) = rs.length := by
  refine children_ok (R := fun st rs st' => ∃ seen,
    Accounts s st st' (rs.filterMap fun x => warning? x.2) seen ∧
      seen.countP (isFragment s.markers) = rs.length) (fun st => ⟨[], .refl st, rfl⟩) ?_ ?_ h
  · rintro st st₁ st₂ as bs ⟨seen, ha, hc⟩ ⟨more, hb, hd⟩
    refine ⟨seen ++ more, by simpa using ha.trans hb, ?_⟩
    rw [List.countP_append, hc, hd, List.length_append]
  · intro st st' n r hv
    obtain ⟨ha, hi⟩ := visit_accounts hv
    refine ⟨_, ha, ?_⟩
    rw [List.countP_singleton, ← hi]
    cases r <;> rfl

end Walk

namespace DocumentRun

variable {ev : Evaluator} {m : Machine} {config : Config} {root : NodeId} {metadata : Value}
  {options : RunOptions} {run : DocumentRun} {st st' : Session}

/-- An outcome is of exactly one kind. -/
theorem count_kinds (r : DocumentRun) :
    r.results.length = r.count isSubstituted + r.count isRemoved + r.count isUnchanged := by
  unfold count
  induction r.results with
  | nil => rfl
  | cons x rs ih =>
    have hx : (if isSubstituted x.2 then 1 else 0) + (if isRemoved x.2 then 1 else 0) +
        (if isUnchanged x.2 then 1 else 0) = 1 := by
      cases x.2 <;> rfl
    simp only [List.length_cons, List.countP_cons]
    omega

/-- Only an unchanged fragment has a warning. -/
theorem warnings_length_le (r : DocumentRun) : r.warnings.length ≤ r.count isUnchanged := by
  unfold warnings count
  rw [List.countP_eq_length_filter]
  induction r.results with
  | nil => exact Nat.le_refl 0
  | cons x rs ih =>
    rw [List.filterMap_cons, List.filter_cons]
    rcases x with ⟨f, nodes | _ | _ | w⟩
    · exact ih
    · exact ih
    · exact Nat.le_succ_of_le ih
    · exact Nat.succ_le_succ ih

theorem perform_accounts {space : Script.Ref}
    (h : perform ev m config root options space st = .ok run st') :
    run.enabled = true ∧ run.inputName = options.inputName ∧
      st'.emitted = st.emitted ++ run.warnings.map (Failure.announcement options.debug) ++
        [.event "fragment_run" run.summary] ∧
      ∃ steps, st'.journal = st.journal ++ steps ∧
        steps.countP (Step.visitsFragment config.markers) = run.results.length := by
  unfold perform at h
  rw [bind_of_ok Engine.forest_apply, bind_eq_ok] at h
  obtain ⟨rs, st₁, hw, h⟩ := h
  rw [bind_of_ok (Engine.event_apply ..)] at h
  cases h
  obtain ⟨seen, ha, hc⟩ := Walk.children_accounts hw
  obtain ⟨steps, hj, hs⟩ := ha.visited
  refine ⟨rfl, rfl, ?_, steps, hj, ?_⟩
  · simp only [ha.emitted]
    rfl
  · rw [Step.countP_visitsFragment, hs]
    exact hc

/-- The host of an enabled run is told each failure on record once and in order, and then how many
results there are of each kind and how many failures, numbers that fit together; of a run that is
switched off it is told just that. -/
theorem process_announces (h : process ev m config root metadata options st = .ok run st') :
    (run.enabled = true →
      st'.emitted = st.emitted ++ run.warnings.map (Failure.announcement options.debug) ++
        [.event "fragment_run" run.summary] ∧
      (∀ w ∈ run.warnings, ∃ e, Failure.announcement options.debug w = .warning w.message e ∧
        (e.isSome ↔ options.debug = true ∧ w.cause.isSome)) ∧
      run.summary = [("input", .str run.inputName), ("fragments", .int run.results.length),
        ("substituted", .int (run.results.countP fun r => isSubstituted r.2)),
        ("removed", .int (run.results.countP fun r => isRemoved r.2)),
        ("unchanged", .int (run.results.countP fun r => isUnchanged r.2)),
        ("warnings", .int run.warnings.length)] ∧
      run.results.length = run.count isSubstituted + run.count isRemoved + run.count isUnchanged ∧
      run.warnings.length ≤ run.count isUnchanged ∧
      ∃ steps, st'.journal = st.journal ++ steps ∧
        steps.countP (Step.visitsFragment config.markers) = run.results.length) ∧
    (run.enabled = false →
      run.results = [] ∧ st'.journal = st.journal ∧
      st'.emitted = st.emitted ++ [.event "fragment_run_skipped"
        [("input", .str run.inputName), ("key", .str config.enableKey)]]) := by
  obtain ⟨w, -, rfl, rfl⟩ | ⟨w, space, w', -, -, h⟩ := process_ok h
  · exact ⟨fun hf => (nomatch hf), fun _ => ⟨rfl, rfl, rfl⟩⟩
  · obtain ⟨hon, -, hem, hj⟩ := perform_accounts h
    refine ⟨fun _ => ⟨hem, fun f _ => ⟨_, rfl, ?_⟩, rfl, run.count_kinds, run.warnings_length_le,
      hj⟩, fun hf => ?_⟩
    · cases options.debug <;> simp
    · rw [hon] at hf
      cases hf

/-- A machine for the run below: every answer of a method is `true`, every text is `oops`. -/
def oopsMachine : Machine := ⟨fun q => match q with
  | .attr v _ => pure v
  | .call .. => pure (.bool true)
  | .show .. => pure "oops"
  | _ => throw .exhausted⟩

/-- Code that is its own value, apart from a quotient by zero. -/
def echoEvaluator : Evaluator where
  Code := String
  compile _ text := .ok text
  invoke _ text :=
    if text = "1 / 0" then Run.raiseWith "ZeroDivisionError" [.str "division by zero"]
    else pure (.str text)

/-- Two pieces of inline code, of which the first one fails. -/
def twoFragments : Session where
  world :=
    { forest :=
        ⟨#[⟨.root, none, [1, 3]⟩,
          ⟨.tag { name := "code", attrs := [("class", .text "python")] }, some 0, [2]⟩,
          ⟨.text .plain "1 / 0", some 1, []⟩,
          ⟨.tag { name := "code", attrs := [("class", .text "python")] }, some 0, [4]⟩,
          ⟨.text .plain "two", some 3, []⟩]⟩ }

/-- A failure, a substitution and the event of the run, told with the exception behind the failure. -/
theorem twoFragments_announced : ∃ run st',
    process echoEvaluator oopsMachine {} 0 (.bool true) { debug := true } twoFragments = .ok run st' ∧
      run.enabled = true ∧ run.warnings.length = 1 ∧ run.count isSubstituted = 1 ∧
      st'.emitted = run.warnings.map (Failure.announcement true) ++
        [.event "fragment_run" run.summary] := by
  have hok : okAnd (process echoEvaluator oopsMachine {} 0 (.bool true) { debug := true } twoFragments)
      (fun run _ => run.enabled && run.warnings.length == 1 && run.count isSubstituted == 1) := by
    decide +kernel
  obtain ⟨run, st', h, hr⟩ := exists_of_okAnd hok
  simp only [Bool.and_eq_true, beq_iff_eq] at hr
  obtain ⟨⟨hon, hw⟩, hs⟩ := hr
  exact ⟨run, st', h, hon, hw, hs, ((process_announces h).1 hon).1⟩

end DocumentRun

end LiveMarkdown
