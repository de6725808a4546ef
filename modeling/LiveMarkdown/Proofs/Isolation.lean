import LiveMarkdown.Proofs.Accounting
import LiveMarkdown.Proofs.Switch

/-!
Which exceptions leave a run. A fragment that does not compile, whose code raises, whose value is
refused or whose edit is refused, ends with a warning, and the walk goes on behind it. An exception
leaves the run just when it is raised while what the code raised is described, or while what the code
returned is looked through.
-/

namespace LiveMarkdown

open Document (NodeId)
open Script (Machine Value Run Stop World Kind.isA)
open DocumentRun (warning?)

namespace Engine

variable {α : Type} {x : Run α} {st st' : Session} {e : Value}

theorem lift_quiet (h : Quiet x) : lift x st ≠ .error (.raised e) st' := by
  intro he
  obtain ⟨w, hx, -⟩ := lift_eq_error.mp he
  exact h _ _ _ hx

end Engine

namespace Executor

variable {s : Settings} {f g : Fragment} {o o' : Outcome} {st st' : Session} {e : Value}

/-- Whether what was raised can be caught. -/
def Catchable (e : Value) (w : World) : Prop := Kind.isA e "Exception" w = .ok true w

/-- The attributes that code holds have been carried back to the tree, as far as they could be. -/
def CarriedBack (s : Settings) (w w' : World) : Prop :=
  Script.LiveAttributes.settle s.machine w = .ok () w' ∨
    ∃ e, Script.LiveAttributes.settle s.machine w = .error (.raised e) w'

/-- An exception leaves a fragment that is executed from the given session. -/
inductive Escapes (s : Settings) (f : Fragment) (st : Session) (e : Value) (st' : Session) : Prop where
  /-- What the code raised cannot be described. -/
  | described {code : Compiled s.evaluator} {x : Value} {st₁ : Session}
      (hc : reading s f = .ok code) (hi : invoke s code (compiled s f st) = .ok (.error x) st₁)
      (hd : Engine.lift (Exception.describe s.machine x) st₁ = .error (.raised e) st')
  /-- What the code returned cannot be looked through. -/
  | validated {code : Compiled s.evaluator} {v : Value} {st₁ : Session}
      (hc : reading s f = .ok code) (hi : invoke s code (compiled s f st) = .ok (.ok v) st₁)
      (hv : Engine.lift (Result.validate s.machine v f.level) st₁ = .error (.raised e) st')

theorem fail_ne_error {w : Failure} {x : Stop} : fail s w st ≠ .error x st' := by
  rw [fail_apply]
  simp

theorem exceptionOf_quiet (fault : Fault) : Quiet (exceptionOf fault) := by
  unfold exceptionOf
  refine Quiet.bind ?_ fun _ => Script.Run.new_quiet _
  cases fault.cause with
  | none => exact .pure _
  | some c => exact (Script.Run.new_quiet _).bind fun _ => .pure _

section Evaluation

variable {code : Compiled s.evaluator} {v : Value} {x : Stop} {w w₀ w₁ : World}

theorem writeBack_eq_ok : writeBack s w = .ok () w₁ ↔ CarriedBack s w w₁ := by
  unfold writeBack CarriedBack
  rw [Script.Run.handle_apply]
  rcases Script.LiveAttributes.settle s.machine w with ⟨u, w₂⟩ | ⟨e | _, w₂⟩ <;> simp

theorem writeBack_eq_error : writeBack s w = .error x w₁ ↔
    x = .exhausted ∧ Script.LiveAttributes.settle s.machine w = .error .exhausted w₁ := by
  unfold writeBack
  rw [Script.Run.handle_apply]
  rcases Script.LiveAttributes.settle s.machine w with ⟨u, w₂⟩ | ⟨e | _, w₂⟩ <;> simp [eq_comm]

/-- A value that code returns is what its evaluation comes to. -/
theorem evaluate_returned (h : s.evaluator.invoke s.space code.code w = .ok v w₀) :
    evaluate s code w = (do writeBack s; return (Except.ok v : Except Value Value)) w₀ := by
  unfold evaluate
  refine bind_of_ok ?_
  rw [Script.Run.handle_apply, map_apply, h]

/-- So is an exception that it raises, if that can be caught. -/
theorem evaluate_raised (h : s.evaluator.invoke s.space code.code w = .error (.raised e) w₀)
    (hc : Catchable e w₀) : evaluate s code w =
      (do writeBack s; return (Except.error e : Except Value Value)) w₀ := by
  unfold evaluate
  refine bind_of_ok ?_
  rw [Script.Run.handle_apply, map_apply, h]
  exact bind_of_ok hc

theorem evaluate_uncaught (h : s.evaluator.invoke s.space code.code w = .error x w₀)
    (hx : ∀ e, x = .raised e → ¬ Catchable e w₀) : evaluate s code w = .error x w₀ := by
  unfold evaluate
  refine bind_of_error ?_
  rw [Script.Run.handle_apply, map_apply, h]
  cases x with
  | raised e =>
    obtain ⟨b, hb⟩ := Script.Kind.isA_eq e "Exception" w₀
    dsimp only
    rw [bind_of_ok hb]
    cases b with
    | true => exact absurd hb (hx e rfl)
    | false => rfl
  | exhausted => rfl

end Evaluation

/-- Code that raises what can be caught does not stop its run. -/
theorem invoke_raises {code : Compiled s.evaluator} (h : invoke s code st = .error (.raised e) st') :
    ¬ Catchable e st'.world := by
  unfold invoke at h
  rw [bind_of_ok (Engine.note_apply _)] at h
  obtain ⟨w, hr, rfl⟩ := Engine.lift_eq_error.mp h
  have hb {r : Except Value Value} {w₀ : World} :
      (do writeBack s; return r) w₀ ≠ .error (.raised e) w := by
    intro hw
    obtain hw | ⟨_, w₁, -, hw⟩ := bind_eq_error.mp hw
    · cases (writeBack_eq_error.mp hw).1
    · cases hw
  rcases hx : s.evaluator.invoke s.space code.code st.world with ⟨v, w₀⟩ | ⟨x, w₀⟩
  · rw [evaluate_returned hx] at hr
    exact absurd hr hb
  · by_cases hc : ∃ y, x = .raised y ∧ Catchable y w₀
    · obtain ⟨y, rfl, hy⟩ := hc
      rw [evaluate_raised hx hy] at hr
      exact absurd hr hb
    · have hu (y : Value) (he : x = .raised y) : ¬ Catchable y w₀ := fun hy => hc ⟨y, he, hy⟩
      rw [evaluate_uncaught hx hu] at hr
      cases hr
      exact hu e rfl

theorem refuse_raises {v : Value} {expectation : String}
    (h : refuse s f v expectation st = .error (.raised e) st') : ¬ Catchable e st'.world := by
  obtain h | ⟨_, st₁, -, h⟩ := bind_eq_error.mp h
  · obtain ⟨w, hr, rfl⟩ := Engine.lift_eq_error.mp h
    intro hc
    simp [Catchable, Exception.safeShown_raises hr] at hc
  · exact absurd h fail_ne_error

theorem placed_raises {v : Value} {nodes : List NodeId}
    (h : placed s f v nodes st = .error (.raised e) st') : ¬ Catchable e st'.world := by
  unfold placed at h
  rw [bind_of_ok Engine.forest_apply] at h
  split at h
  · exact absurd h fail_ne_error
  · split at h
    · exact refuse_raises h
    · cases h

theorem attempt_raises_iff (he : Catchable e st'.world) :
    attempt s f st = .error (.raised e) st' ↔ Escapes s f st e st' := by
  unfold attempt
  rw [bind_of_ok compile_apply]
  constructor
  · intro h
    cases hc : reading s f with
    | error fault =>
      rw [hc] at h
      obtain h | ⟨_, st₁, -, h⟩ := bind_eq_error.mp h
      · exact absurd h (Engine.lift_quiet (exceptionOf_quiet fault))
      · exact absurd h fail_ne_error
    | ok code =>
      rw [hc] at h
      obtain h | ⟨r, st₁, hi, h⟩ := bind_eq_error.mp h
      · exact absurd he (invoke_raises h)
      · cases r with
        | error x =>
          obtain h | ⟨_, st₂, -, h⟩ := bind_eq_error.mp h
          · exact .described hc hi h
          · exact absurd h fail_ne_error
        | ok v =>
          obtain h | ⟨r, st₂, -, h⟩ := bind_eq_error.mp h
          · exact .validated hc hi h
          · rcases r with _ | _ | ⟨n, ns⟩
            · exact absurd he (refuse_raises h)
            · cases h
            · exact absurd he (placed_raises h)
  · rintro (⟨hc, hi, hd⟩ | ⟨hc, hi, hv⟩)
    · rw [hc]
      exact bind_eq_error.mpr (.inr ⟨_, _, hi, bind_eq_error.mpr (.inl hd)⟩)
    · rw [hc]
      exact bind_eq_error.mpr (.inr ⟨_, _, hi, bind_eq_error.mpr (.inl hv)⟩)

theorem execute_raises_iff (he : Catchable e st'.world) (hx : f.executes = true) :
    execute s f st = .error (.raised e) st' ↔
      Escapes s (placedAt s f st) (located s f.text f.level st) e st' := by
  rw [execute_on hx, ← attempt_raises_iff he, bind_eq_error]
  exact or_iff_left fun ⟨_, _, _, h⟩ => nomatch h

/-- The session in which a node is looked at. -/
def lookedAt (n : NodeId) (st : Session) : Session :=
  { st with journal := st.journal ++ [.processed n st.world.forest] }

theorem process_apply (n : NodeId) : process s n st =
    match Fragment.ofNode? st.world.forest s.markers n with
    | none => .ok none (lookedAt n st)
    | some f => (some <$> execute s f) (lookedAt n st) := by
  unfold process
  rw [bind_of_ok Engine.forest_apply, bind_of_ok (Engine.note_apply _),
    bind_of_ok Engine.forest_apply]
  cases Fragment.ofNode? st.world.forest s.markers n <;> rfl

/-- An exception leaves a node that is visited. -/
def EscapesAt (s : Settings) (n : NodeId) (st : Session) (e : Value) (st' : Session) : Prop :=
  ∃ f, Fragment.ofNode? st.world.forest s.markers n = some f ∧ f.executes = true ∧
    Escapes s (placedAt s f (lookedAt n st)) (located s f.text f.level (lookedAt n st)) e st'

theorem process_raises_iff {n : NodeId} (he : Catchable e st'.world) :
    process s n st = .error (.raised e) st' ↔ EscapesAt s n st e st' := by
  unfold EscapesAt
  rw [process_apply]
  cases hf : Fragment.ofNode? st.world.forest s.markers n with
  | none => simp
  | some f =>
    simp only [map_eq_error, Option.some.injEq, exists_eq_left']
    cases hx : f.executes with
    | false => simp [execute_off hx]
    | true => simpa using execute_raises_iff he hx

theorem applyEdit_ne_error {x : Stop} : applyEdit f o st ≠ .error x st' := by
  rw [applyEdit_apply]
  cases (edit f o).run st.world.forest <;> exact nofun

/-- The code of a fragment that is executed from the given session fails, and it is noticed: the text
does not compile, the code raises, or what it returns is refused. -/
def Fails (s : Settings) (f : Fragment) (st : Session) : Prop :=
  match reading s f with
  | .error _ => True
  | .ok code =>
    match invoke s code (compiled s f st) with
    | .ok (.error _) _ => True
    | .ok (.ok v) st₁ =>
      match Engine.lift (Result.validate s.machine v f.level) st₁ with
      | .ok none _ => True
      | .ok (some []) _ => False
      | .ok (some nodes) st₂ =>
        (st₂.world.forest.parent? f.node).isNone = true ∨
          encloses st₂.world.forest nodes f.node = true
      | .error .. => False
    | .error .. => False

/-- An outcome is a failure of the given fragment. -/
def IsFailureOf (s : Settings) (f : Fragment) (o : Outcome) : Prop :=
  ∃ kind detail cause, o = .unchanged (some (failure s f kind detail cause))

theorem fail_failure {kind : FailureKind} {detail : String} {cause : Option Value}
    (h : fail s (failure s f kind detail cause) st = .ok o st') : IsFailureOf s f o := by
  rw [fail_apply] at h
  cases h
  exact ⟨kind, detail, cause, rfl⟩

theorem refuse_failure {v : Value} {expectation : String}
    (h : refuse s f v expectation st = .ok o st') : IsFailureOf s f o := by
  obtain ⟨_, st₁, -, hf⟩ := bind_eq_ok.mp h
  exact fail_failure hf

theorem placed_failure {v : Value} {nodes : List NodeId}
    (h : placed s f v nodes st = .ok o st') :
    (((st.world.forest.parent? f.node).isNone = true ∨
      encloses st.world.forest nodes f.node = true) ∧ IsFailureOf s f o) ∨
    (¬ ((st.world.forest.parent? f.node).isNone = true ∨
      encloses st.world.forest nodes f.node = true) ∧ warning? o = none) := by
  unfold placed at h
  rw [bind_of_ok Engine.forest_apply] at h
  split at h
  · exact .inl ⟨.inl ‹_›, fail_failure h⟩
  · split at h
    · exact .inl ⟨.inr ‹_›, refuse_failure h⟩
    · cases h
      exact .inr ⟨not_or.mpr ⟨‹_›, ‹_›⟩, rfl⟩

/-- A fragment that is executed fails and its outcome says so, or neither. -/
theorem attempt_failure (h : attempt s f st = .ok o st') :
    (Fails s f st ∧ IsFailureOf s f o) ∨ (¬ Fails s f st ∧ warning? o = none) := by
  unfold attempt at h
  rw [bind_of_ok compile_apply] at h
  unfold Fails
  cases hc : reading s f with
  | error fault =>
    rw [hc] at h
    obtain ⟨_, st₁, -, hf⟩ := bind_eq_ok.mp h
    exact .inl ⟨trivial, fail_failure hf⟩
  | ok code =>
    rw [hc] at h
    obtain ⟨r, st₁, hi, h⟩ := bind_eq_ok.mp h
    simp only [hi]
    cases r with
    | error x =>
      obtain ⟨_, st₂, -, hf⟩ := bind_eq_ok.mp h
      exact .inl ⟨trivial, fail_failure hf⟩
    | ok v =>
      obtain ⟨r, st₂, hv, h⟩ := bind_eq_ok.mp h
      simp only [hv]
      rcases r with _ | _ | ⟨n, ns⟩
      · exact .inl ⟨trivial, refuse_failure h⟩
      · cases h
        exact .inr ⟨id, rfl⟩
      · exact placed_failure h

/-- The edit that an outcome asks for is refused. -/
def Refused (f : Fragment) (o : Outcome) (st : Session) : Prop :=
  ∃ x forest, (edit f o).run st.world.forest = .error x forest

/-- Applying an outcome leaves it as it is, or makes a failure of it if the edit is refused. -/
theorem apply_failure (h : apply s f o st = .ok o' st') :
    (Refused f o st ∧ IsFailureOf s f o') ∨ (¬ Refused f o st ∧ o' = o) := by
  unfold apply at h
  rw [bind_apply, applyEdit_apply] at h
  unfold Refused
  cases he : (edit f o).run st.world.forest with
  | ok _ forest =>
    simp only [he] at h
    cases h
    exact .inr ⟨nofun, rfl⟩
  | error x forest =>
    simp only [he] at h
    obtain ⟨_, st₂, -, h⟩ := bind_eq_ok.mp h
    obtain ⟨_, st₃, -, h⟩ := bind_eq_ok.mp h
    exact .inl ⟨⟨x, forest, rfl⟩, fail_failure h⟩

/-- Applying an outcome raises nothing: an edit that is refused becomes a warning. -/
theorem apply_raises_not (d : Nat) (hm : s.machine = Script.machine (d + 2)) :
    apply s f o st ≠ .error (.raised e) st' := by
  intro h
  obtain h | ⟨r, st₁, -, h⟩ := bind_eq_error.mp h
  · exact applyEdit_ne_error h
  · cases r with
    | none => cases h
    | some x =>
      obtain h | ⟨y, st₂, hy, h⟩ := bind_eq_error.mp h
      · exact Engine.lift_quiet (Script.Run.new_quiet _) h
      · obtain h | ⟨_, st₃, -, h⟩ := bind_eq_error.mp h
        · obtain ⟨w, hw, rfl⟩ := Engine.lift_eq_ok.mp hy
          obtain ⟨r, rfl, hr⟩ := Script.Run.new_eq hw
          obtain ⟨detail, hd⟩ := Exception.describe_valueError d hr
          obtain ⟨_, he, -⟩ := Engine.lift_eq_error.mp h
          rw [hm, hd] at he
          cases he
        · exact fail_ne_error h

/-- A fragment that is visited fails, and it is noticed: its code fails, or the edit of the tree that
its outcome asks for is refused. -/
def FailsAt (s : Settings) (n : NodeId) (st : Session) : Prop :=
  ∃ f, Fragment.ofNode? st.world.forest s.markers n = some f ∧ f.executes = true ∧
    (Fails s (placedAt s f (lookedAt n st)) (located s f.text f.level (lookedAt n st)) ∨
      ∃ o st₁, attempt s (placedAt s f (lookedAt n st))
          (located s f.text f.level (lookedAt n st)) = .ok o st₁ ∧
        Refused (placedAt s f (lookedAt n st)) o st₁)

theorem not_refused_withheld : ¬ Refused g (withheld f) st := by
  rintro ⟨x, forest, h⟩
  unfold withheld at h
  split at h <;> cases h

theorem not_refused_failure (h : IsFailureOf s f o) : ¬ Refused g o st := by
  obtain ⟨kind, detail, cause, rfl⟩ := h
  rintro ⟨x, forest, h⟩
  cases h

end Executor

namespace Walk

open Executor

variable {s : Settings} {st st' : Session} {e : Value} {n : NodeId}

theorem visit_fragment {x : Fragment} (h : Fragment.ofNode? st.world.forest s.markers n = some x) :
    visit s n st = (do
      let r ← Executor.execute s x
      return some (r.1, ← Executor.apply s r.1 r.2)) (Executor.lookedAt n st) := by
  unfold visit
  rw [bind_apply, bind_apply, Executor.process_apply, h]
  simp only [map_apply]
  cases Executor.execute s x (Executor.lookedAt n st) <;> rfl

theorem visit_none (h : Fragment.ofNode? st.world.forest s.markers n = none) :
    visit s n st = .ok none (Executor.lookedAt n st) := by
  unfold visit
  rw [bind_apply, Executor.process_apply, h]
  rfl

theorem visit_raises_iff (d : Nat) (hm : s.machine = Script.machine (d + 2))
    (he : Catchable e st'.world) :
    visit s n st = .error (.raised e) st' ↔ EscapesAt s n st e st' := by
  rw [← Executor.process_raises_iff he]
  constructor
  · intro h
    obtain h | ⟨r, st₁, -, h⟩ := bind_eq_error.mp h
    · exact h
    · cases r with
      | none => cases h
      | some x =>
        obtain h | ⟨_, st₂, -, h⟩ := bind_eq_error.mp h
        · exact absurd h (Executor.apply_raises_not d hm)
        · cases h
  · exact fun h => bind_eq_error.mpr (.inl h)

/-- A fragment that is visited fails and its outcome says so, or neither. -/
theorem visit_failure {f : Fragment} {o : Outcome} (h : visit s n st = .ok (some (f, o)) st') :
    (FailsAt s n st ∧ IsFailureOf s f o) ∨ (¬ FailsAt s n st ∧ warning? o = none) := by
  obtain ⟨-, h⟩ | ⟨g, o₁, o₂, st₁, hp, ha, h⟩ := visit_eq_ok.mp h
  · cases h
  cases h
  rw [process_apply] at hp
  unfold FailsAt
  cases hf : Fragment.ofNode? st.world.forest s.markers n with
  | none =>
    rw [hf] at hp
    cases hp
  | some f₀ =>
    simp only [hf] at hp
    obtain ⟨⟨_, _⟩, hx, h⟩ := map_eq_ok.mp hp
    cases h
    simp only [Option.some.injEq, exists_eq_left']
    cases he : f₀.executes with
    | false =>
      rw [execute_off he] at hx
      cases hx
      obtain ⟨hr, -⟩ | ⟨-, rfl⟩ := apply_failure ha
      · exact absurd hr not_refused_withheld
      · exact .inr ⟨nofun, warning?_withheld⟩
    | true =>
      rw [execute_on he] at hx
      obtain ⟨o₃, st₂, ht, hx⟩ := bind_eq_ok.mp hx
      cases hx
      obtain ⟨hc, hw⟩ | ⟨hc, hw⟩ := attempt_failure ht
      · obtain ⟨hr, -⟩ | ⟨-, rfl⟩ := apply_failure ha
        · exact absurd hr (not_refused_failure hw)
        · exact .inl ⟨⟨rfl, .inl hc⟩, hw⟩
      · obtain ⟨hr, hw⟩ | ⟨hr, rfl⟩ := apply_failure ha
        · exact .inl ⟨⟨rfl, .inr ⟨_, _, ht, hr⟩⟩, hw⟩
        · refine .inr ⟨?_, hw⟩
          rintro ⟨-, hc' | ⟨o, st₃, ht', hr'⟩⟩
          · exact hc hc'
          · rw [ht] at ht'
            cases ht'
            exact hr hr'

/-- Where a walk stands: the children of a node that it has not gone through yet. The fuel bounds the
depth below them. -/
structure Point where
  fuel : Nat
  parent : NodeId
  left : List NodeId
  session : Session

/-- Goes on with a walk. -/
def resume (s : Settings) (p : Point) : Engine (List (Fragment × Outcome)) :=
  siblings s (children s p.fuel) p.parent p.left []

/-- A walk that stands at one point comes to another. -/
inductive Reaches (s : Settings) : Point → Point → Prop where
  | refl (p : Point) : Reaches s p p
  | moved {fuel : Nat} {parent n : NodeId} {ns : List NodeId} {st : Session} {q : Point}
      (hp : st.world.forest.parent? n ≠ some parent) (h : Reaches s ⟨fuel, parent, ns, st⟩ q) :
      Reaches s ⟨fuel, parent, n :: ns, st⟩ q
  | visited {fuel : Nat} {parent n : NodeId} {ns : List NodeId} {st st₁ : Session} {q : Point}
      {r : Fragment × Outcome} (hp : st.world.forest.parent? n = some parent)
      (hv : visit s n st = .ok (some r) st₁) (h : Reaches s ⟨fuel, parent, ns, st₁⟩ q) :
      Reaches s ⟨fuel, parent, n :: ns, st⟩ q
  | plain {fuel : Nat} {parent n : NodeId} {ns : List NodeId} {st st₁ : Session} {q : Point}
      (hp : st.world.forest.parent? n = some parent) (hv : visit s n st = .ok none st₁)
      (ht : st₁.world.forest.isTag n = false) (h : Reaches s ⟨fuel, parent, ns, st₁⟩ q) :
      Reaches s ⟨fuel, parent, n :: ns, st⟩ q
  | entered {fuel : Nat} {parent n : NodeId} {ns : List NodeId} {st st₁ : Session} {q : Point}
      (hp : st.world.forest.parent? n = some parent) (hv : visit s n st = .ok none st₁)
      (ht : st₁.world.forest.isTag n = true)
      (h : Reaches s ⟨fuel, n, st₁.world.forest.children n, st₁⟩ q) :
      Reaches s ⟨fuel + 1, parent, n :: ns, st⟩ q
  | left {fuel : Nat} {parent n : NodeId} {ns : List NodeId} {st st₁ st₂ : Session} {q : Point}
      {within : List (Fragment × Outcome)} (hp : st.world.forest.parent? n = some parent)
      (hv : visit s n st = .ok none st₁) (ht : st₁.world.forest.isTag n = true)
      (hw : children s fuel n [] st₁ = .ok within st₂) (h : Reaches s ⟨fuel, parent, ns, st₂⟩ q) :
      Reaches s ⟨fuel, parent, n :: ns, st⟩ q

/-- An exception leaves a walk that stands at a point. -/
def Point.Stopped (s : Settings) (p : Point) (e : Value) (st' : Session) : Prop :=
  ∃ n ns, p.left = n :: ns ∧ p.session.world.forest.parent? n = some p.parent ∧
    EscapesAt s n p.session e st'

theorem resume_raises {d : Nat} (hm : s.machine = Script.machine (d + 2)) (he : Catchable e st'.world)
    {p q : Point} (hq : Reaches s p q) (h : q.Stopped s e st') :
    resume s p p.session = .error (.raised e) st' := by
  induction hq with
  | refl p =>
    obtain ⟨n, ns, hl, hp, hx⟩ := h
    unfold resume
    rw [hl]
    exact siblings_failed hp ((visit_raises_iff d hm he).mpr hx)
  | moved hp _ ih =>
    unfold resume
    rw [siblings_moved hp]
    exact ih h
  | visited hp hv _ ih =>
    unfold resume
    rw [siblings_first hp hv]
    exact bind_eq_error.mpr (.inl (ih h))
  | plain hp hv ht _ ih =>
    unfold resume
    rw [siblings_plain hp hv ht]
    exact ih h
  | entered hp hv ht _ ih =>
    unfold resume
    rw [siblings_below hp hv ht]
    exact bind_eq_error.mpr (.inl (ih h))
  | left hp hv ht hw _ ih =>
    unfold resume
    rw [siblings_below hp hv ht, bind_of_ok hw]
    exact bind_eq_error.mpr (.inl (ih h))

/-- An exception that leaves a walk has left a fragment to which the walk came. -/
theorem reaches_of_raises {d : Nat} (hm : s.machine = Script.machine (d + 2))
    (he : Catchable e st'.world) {p : Point} (h : resume s p p.session = .error (.raised e) st') :
    ∃ q, Reaches s p q ∧ q.Stopped s e st' := by
  obtain ⟨fuel, parent, ns, st⟩ := p
  unfold resume at h
  dsimp only at h
  induction fuel using Nat.strongRecOn generalizing parent ns st with
  | ind fuel ih =>
    induction ns generalizing st with
    | nil =>
      rw [siblings_nil] at h
      cases h
    | cons n ns ihs =>
      by_cases hp : st.world.forest.parent? n = some parent
      · cases hv : visit s n st with
        | error x st₁ =>
          rw [siblings_failed hp hv] at h
          cases h
          exact ⟨_, .refl _, n, ns, rfl, hp, (visit_raises_iff d hm he).mp hv⟩
        | ok r st₁ =>
          cases r with
          | some r =>
            rw [siblings_first hp hv] at h
            obtain h | ⟨_, _, -, h⟩ := bind_eq_error.mp h
            · obtain ⟨q, hq, hs⟩ := ihs _ h
              exact ⟨q, .visited hp hv hq, hs⟩
            · cases h
          | none =>
            cases ht : st₁.world.forest.isTag n with
            | false =>
              rw [siblings_plain hp hv ht] at h
              obtain ⟨q, hq, hs⟩ := ihs _ h
              exact ⟨q, .plain hp hv ht hq, hs⟩
            | true =>
              rw [siblings_below hp hv ht] at h
              obtain h | ⟨within, st₂, hw, h⟩ := bind_eq_error.mp h
              · cases fuel with
                | zero => cases h
                | succ fuel =>
                  obtain ⟨q, hq, hs⟩ := ih fuel (Nat.lt_succ_self _) _ _ _ h
                  exact ⟨q, .entered hp hv ht hq, hs⟩
              · obtain h | ⟨_, _, -, h⟩ := bind_eq_error.mp h
                · obtain ⟨q, hq, hs⟩ := ihs _ h
                  exact ⟨q, .left hp hv ht hw hq, hs⟩
                · cases h
      · rw [siblings_moved hp] at h
        obtain ⟨q, hq, hs⟩ := ihs _ h
        exact ⟨q, .moved hp hq, hs⟩

/-- A walk that succeeds records what it records from each point on that it comes to. -/
theorem resume_sublist {p q : Point} {rs : List (Fragment × Outcome)} (hq : Reaches s p q)
    (h : resume s p p.session = .ok rs st') :
    ∃ rs' st₁, resume s q q.session = .ok rs' st₁ ∧ rs' ⊆ rs := by
  induction hq generalizing rs st' with
  | refl p => exact ⟨rs, st', h, fun _ hr => hr⟩
  | moved hp _ ih =>
    unfold resume at h
    rw [siblings_moved hp] at h
    exact ih h
  | visited hp hv _ ih =>
    unfold resume at h
    rw [siblings_first hp hv] at h
    obtain ⟨more, st₂, hm, h⟩ := bind_eq_ok.mp h
    cases h
    obtain ⟨rs', st₁, hr, hs⟩ := ih hm
    exact ⟨rs', st₁, hr, fun _ hx => List.mem_cons_of_mem _ (hs hx)⟩
  | plain hp hv ht _ ih =>
    unfold resume at h
    rw [siblings_plain hp hv ht] at h
    exact ih h
  | entered hp hv ht _ ih =>
    unfold resume at h
    rw [siblings_below hp hv ht] at h
    obtain ⟨within, st₂, hw, h⟩ := bind_eq_ok.mp h
    obtain ⟨more, st₃, -, h⟩ := bind_eq_ok.mp h
    cases h
    obtain ⟨rs', st₁, hr, hs⟩ := ih hw
    exact ⟨rs', st₁, hr, fun _ hx => List.mem_append_left _ (hs hx)⟩
  | left hp hv ht hw _ ih =>
    unfold resume at h
    rw [siblings_below hp hv ht, bind_of_ok hw] at h
    obtain ⟨more, st₃, hm, h⟩ := bind_eq_ok.mp h
    cases h
    obtain ⟨rs', st₁, hr, hs⟩ := ih hm
    exact ⟨rs', st₁, hr, fun _ hx => List.mem_append_right _ (hs hx)⟩

theorem Reaches.trans {p q r : Point} (h : Reaches s p q) (g : Reaches s q r) : Reaches s p r := by
  induction h with
  | refl p => exact g
  | moved hp _ ih => exact .moved hp (ih g)
  | visited hp hv _ ih => exact .visited hp hv (ih g)
  | plain hp hv ht _ ih => exact .plain hp hv ht (ih g)
  | entered hp hv ht _ ih => exact .entered hp hv ht (ih g)
  | left hp hv ht hw _ ih => exact .left hp hv ht hw (ih g)

end Walk

namespace DocumentRun

open Executor (Catchable FailsAt)

variable {ev : Evaluator} {m : Machine} {config : Config} {root : NodeId} {metadata : Value}
  {options : RunOptions} {run : DocumentRun} {s : Settings} {q : Walk.Point} {st st' : Session}
  {e : Value}

/-- The walk of a run comes to a point. -/
def Comes (ev : Evaluator) (m : Machine) (config : Config) (root : NodeId) (metadata : Value)
    (options : RunOptions) (st : Session) (s : Settings) (q : Walk.Point) : Prop :=
  ∃ w space w', enabledFor m config metadata st.world = .ok true w ∧
    namespaceFor root metadata options w = .ok space w' ∧ s = settings ev m config options space ∧
    Walk.Reaches s ⟨w'.forest.size + 999, root, w'.forest.children root, { st with world := w' }⟩ q

theorem perform_eq (space : Script.Ref) : perform ev m config root options space st =
    (do
      let results ← Walk.resume (settings ev m config options space)
        ⟨st.world.forest.size + 999, root, st.world.forest.children root, st⟩
      let run : DocumentRun := { enabled := true, inputName := options.inputName, results }
      Engine.event "fragment_run" run.summary
      return run) st := rfl

theorem perform_raises_iff (space : Script.Ref) : perform ev m config root options space st =
      .error (.raised e) st' ↔
    Walk.resume (settings ev m config options space)
      ⟨st.world.forest.size + 999, root, st.world.forest.children root, st⟩ st =
        .error (.raised e) st' := by
  rw [perform_eq, bind_eq_error]
  refine or_iff_left ?_
  rintro ⟨rs, st₁, -, h⟩
  cases h

/-- An exception that can be caught leaves a run just when the switch cannot be read, or when it
leaves a fragment to which the walk comes. -/
theorem process_raises_iff {d : Nat} (he : Catchable e st'.world) :
    process ev (Script.machine (d + 2)) config root metadata options st = .error (.raised e) st' ↔
      Engine.lift (enabledFor (Script.machine (d + 2)) config metadata) st = .error (.raised e) st' ∨
      ∃ s q, Comes ev (Script.machine (d + 2)) config root metadata options st s q ∧
        q.Stopped s e st' := by
  constructor
  · intro h
    have hl := h
    unfold process at hl
    obtain hl | ⟨b, st₁, hb, -⟩ := bind_eq_error.mp hl
    · exact .inl hl
    · obtain ⟨w, hw, -⟩ := Engine.lift_eq_ok.mp hb
      cases b with
      | false =>
        rw [process_off hw] at h
        cases h
      | true =>
        rw [process_on hw] at h
        obtain h | ⟨space, st₂, hs, h⟩ := bind_eq_error.mp h
        · exact absurd h (Engine.lift_quiet (namespaceFor_grows root metadata options).quiet)
        · obtain ⟨w', hn, rfl⟩ := Engine.lift_eq_ok.mp hs
          obtain ⟨q, hq, hx⟩ := Walk.reaches_of_raises rfl he ((perform_raises_iff space).mp h)
          exact .inr ⟨_, q, ⟨w, space, w', hw, hn, rfl, hq⟩, hx⟩
  · rintro (h | ⟨s, q, ⟨w, space, w', hw, hn, rfl, hq⟩, hx⟩)
    · unfold process
      exact bind_eq_error.mpr (.inl h)
    · rw [process_on hw, bind_of_ok (Engine.lift_eq_ok.mpr ⟨w', hn, rfl⟩)]
      exact (perform_raises_iff space).mpr (Walk.resume_raises rfl he hq hx)

/-- A run that succeeds records what is recorded at each point that its walk comes to. -/
theorem mem_results {n : NodeId} {ns : List NodeId} {r : Fragment × Outcome} {st₁ : Session}
    (hq : Comes ev m config root metadata options st s q) (hl : q.left = n :: ns)
    (hp : q.session.world.forest.parent? n = some q.parent)
    (hv : Walk.visit s n q.session = .ok (some r) st₁)
    (h : process ev m config root metadata options st = .ok run st') : r ∈ run.results := by
  obtain ⟨w, space, w', hw, hn, rfl, hq⟩ := hq
  obtain ⟨w₁, hw₁, -, -⟩ | ⟨w₁, space₁, w₁', hw₁, hn₁, h⟩ := process_ok h
  · rw [hw] at hw₁
    cases hw₁
  · rw [hw] at hw₁
    cases hw₁
    rw [hn] at hn₁
    cases hn₁
    rw [perform_eq] at h
    obtain ⟨rs, st₂, hr, h⟩ := bind_eq_ok.mp h
    cases h
    obtain ⟨rs', st₃, hr', hs⟩ := Walk.resume_sublist hq hr
    unfold Walk.resume at hr'
    rw [hl, Walk.siblings_first hp hv] at hr'
    obtain ⟨more, st₄, -, hr'⟩ := bind_eq_ok.mp hr'
    cases hr'
    exact hs List.mem_cons_self

/-- The failures of fragments stay with them. What leaves a run, if it can be caught at all, was raised
while the switch was read, or while what the code of a fragment raised was described, or while what it
returned was looked through. All other failures of a visited fragment become one warning of that
fragment, which the run records, and the walk comes to what stands behind it. -/
theorem process_isolates (d : Nat) (ev : Evaluator) (config : Config) (root : NodeId)
    (metadata : Value) (options : RunOptions) (st : Session) :
    (∀ e st', Catchable e st'.world →
      (process ev (Script.machine (d + 2)) config root metadata options st = .error (.raised e) st' ↔
        Engine.lift (enabledFor (Script.machine (d + 2)) config metadata) st =
            .error (.raised e) st' ∨
          ∃ s q, Comes ev (Script.machine (d + 2)) config root metadata options st s q ∧
            q.Stopped s e st')) ∧
    ∀ s q n ns f o st₁, Comes ev (Script.machine (d + 2)) config root metadata options st s q →
      q.left = n :: ns → q.session.world.forest.parent? n = some q.parent →
      Walk.visit s n q.session = .ok (some (f, o)) st₁ →
        (FailsAt s n q.session → ∃ w, o = .unchanged (some w) ∧ w.level = f.level ∧
          w.position = f.position ∧ w.inputName = options.inputName ∧
          st₁.emitted = q.session.emitted ++ [w.announcement options.debug]) ∧
        Comes ev (Script.machine (d + 2)) config root metadata options st s
          ⟨q.fuel, q.parent, ns, st₁⟩ ∧
        ∀ run st', process ev (Script.machine (d + 2)) config root metadata options st =
          .ok run st' → (f, o) ∈ run.results := by
  refine ⟨fun e st' he => process_raises_iff he, ?_⟩
  intro s q n ns f o st₁ hq hl hp hv
  refine ⟨fun hf => ?_, ?_, fun run st' h => mem_results hq hl hp hv h⟩
  · obtain ⟨-, kind, detail, cause, rfl⟩ | ⟨hn, -⟩ := Walk.visit_failure hv
    · obtain ⟨w, space, w', -, -, rfl, -⟩ := hq
      exact ⟨_, rfl, rfl, rfl, rfl, (Walk.visit_accounts hv).1.emitted⟩
    · exact absurd hf hn
  · obtain ⟨w, space, w', hw, hn, rfl, hr⟩ := hq
    refine ⟨w, space, w', hw, hn, rfl, hr.trans ?_⟩
    obtain ⟨fuel, parent, left, session⟩ := q
    dsimp only at hl hp hv
    rw [hl]
    exact .visited hp hv (.refl _)

/-- Code that returns a range of more items than can be counted. -/
def hugeRange : Evaluator where
  Code := Unit
  compile _ _ := .ok ()
  invoke _ _ := pure (.range 0 (10 ^ 30) 1)

/-- A document with one piece of inline code, and its metadata. -/
def oneFragment : Session where
  world :=
    { heap := #[.dict #[(.str "python-elements", .bool true)]]
      forest :=
        ⟨#[⟨.root, none, [1]⟩,
          ⟨.tag { name := "code", attrs := [("class", .text "python")] }, some 0, [2]⟩,
          ⟨.text .plain "range(10 ** 30)", some 1, []⟩]⟩ }

/-- A range that cannot be looked through stops the whole run, though what is raised can be caught. -/
theorem hugeRange_escapes : ∃ e st', Catchable e st'.world ∧
    process hugeRange (Script.machine 4) {} 0 (.ref 0) {} oneFragment = .error (.raised e) st' := by
  have hw : enabledFor (Script.machine 4) {} (.ref 0) oneFragment.world = _ := enabledFor_dict 3 rfl
  have hok : raisedAnd (process hugeRange (Script.machine 4) {} 0 (.ref 0) {} oneFragment)
      (fun e st' => okAnd (Kind.isA e "Exception" st'.world) fun b _ => b) := by
    rw [process_eq, hw]
    decide +kernel
  obtain ⟨e, st', h, hb⟩ := exists_of_raisedAnd hok
  obtain ⟨b, hb'⟩ := Script.Kind.isA_eq e "Exception" st'.world
  rw [hb'] at hb
  cases b with
  | false => cases hb
  | true => exact ⟨e, st', hb', h⟩

end DocumentRun

end LiveMarkdown
