import LiveMarkdown.Fragment.Walk
import Mathlib

/-!
Computations of the engine taken apart: what a sequence of two comes to, what a computation over the
world leaves of a session, and the equations of the steps that always succeed. What a walk does follows by
induction on its depth and on the nodes that are left: a relation between sessions that holds of each
visited node and can be composed holds of the whole walk.
-/

namespace LiveMarkdown

open Document (NodeId Forest)
open Script (Machine Value Run Stop World)

section Computations

variable {ε σ α β : Type} {x : EStateM ε σ α} {f : α → EStateM ε σ β} {s t : σ} {a : α} {b : β}
  {e : ε}

theorem bind_apply : (x >>= f) s = match x s with
    | .ok a t => f a t
    | .error e t => .error e t := rfl

theorem bind_eq_ok : (x >>= f) s = .ok b t ↔ ∃ a u, x s = .ok a u ∧ f a u = .ok b t := by
  rw [bind_apply]
  constructor
  · intro h
    split at h
    · exact ⟨_, _, ‹_›, h⟩
    · cases h
  · rintro ⟨a, u, hx, hf⟩
    rw [hx]
    exact hf

theorem bind_eq_error : (x >>= f) s = .error e t ↔
    x s = .error e t ∨ ∃ a u, x s = .ok a u ∧ f a u = .error e t := by
  rw [bind_apply]
  constructor
  · intro h
    split at h
    · exact .inr ⟨_, _, ‹_›, h⟩
    · cases h
      exact .inl ‹_›
  · rintro (hx | ⟨a, u, hx, hf⟩)
    · rw [hx]
    · rw [hx]
      exact hf

@[simp] theorem pure_apply : (pure a : EStateM ε σ α) s = .ok a s := rfl

theorem get_apply : (get : EStateM ε σ σ) s = .ok s s := rfl

@[simp] theorem throw_apply : (throw e : EStateM ε σ α) s = .error e s := rfl

theorem bind_of_ok {u : σ} (h : x s = .ok a u) : (x >>= f) s = f a u := by
  rw [bind_apply, h]

theorem bind_of_error {u : σ} (h : x s = .error e u) : (x >>= f) s = .error e u := by
  rw [bind_apply, h]

theorem map_apply {g : α → β} : (g <$> x) s = match x s with
    | .ok a t => .ok (g a) t
    | .error e t => .error e t := rfl

theorem map_eq_ok {g : α → β} : (g <$> x) s = .ok b t ↔ ∃ a, x s = .ok a t ∧ g a = b := by
  rw [map_apply]
  cases x s with
  | ok a u =>
    simp only [EStateM.Result.ok.injEq]
    constructor
    · rintro ⟨rfl, rfl⟩
      exact ⟨a, ⟨rfl, rfl⟩, rfl⟩
    · rintro ⟨_, ⟨rfl, rfl⟩, rfl⟩
      exact ⟨rfl, rfl⟩
  | error e u => simp

theorem map_eq_error {g : α → β} : (g <$> x) s = .error e t ↔ x s = .error e t := by
  rw [map_apply]
  cases x s <;> simp

theorem tryCatch_apply {h : ε → EStateM ε σ α} : tryCatch x h s = match x s with
    | .ok a t => .ok a t
    | .error e t => h e t := by
  change EStateM.tryCatch x h s = _
  unfold EStateM.tryCatch
  cases x s <;> rfl

/-- Whether a computation came to a result that passes a test. -/
def okAnd (r : EStateM.Result ε σ α) (p : α → σ → Bool) : Bool :=
  match r with
  | .ok a s => p a s
  | .error .. => false

theorem exists_of_okAnd {r : EStateM.Result ε σ α} {p : α → σ → Bool} (h : okAnd r p) :
    ∃ a s, r = .ok a s ∧ p a s := by
  cases r with
  | ok a s => exact ⟨a, s, rfl, h⟩
  | error e s => cases h

end Computations

namespace Engine

variable {α : Type} {x : Run α} {st st' : Session} {a : α} {e : Stop}

theorem lift_eq_ok :
    lift x st = .ok a st' ↔ ∃ w, x st.world = .ok a w ∧ st' = { st with world := w } := by
  unfold lift
  constructor
  · intro h
    split at h <;> cases h
    exact ⟨_, ‹_›, rfl⟩
  · rintro ⟨w, hx, rfl⟩
    rw [hx]

theorem lift_eq_error :
    lift x st = .error e st' ↔ ∃ w, x st.world = .error e w ∧ st' = { st with world := w } := by
  unfold lift
  constructor
  · intro h
    split at h <;> cases h
    exact ⟨_, ‹_›, rfl⟩
  · rintro ⟨w, hx, rfl⟩
    rw [hx]

@[simp] theorem forest_apply : forest st = .ok st.world.forest st := rfl

@[simp] theorem setForest_apply (f : Forest) :
    setForest f st = .ok () { st with world := { st.world with forest := f } } := rfl

@[simp] theorem note_apply (k : Step) :
    note k st = .ok () { st with journal := st.journal ++ [k] } := rfl

@[simp] theorem event_apply (name : String) (payload : List (String × Value)) :
    event name payload st = .ok () { st with emitted := st.emitted ++ [.event name payload] } := rfl

end Engine

namespace Evaluator

variable {e : Evaluator} {mode : Mode} {text : String} {code : e.Code} {fault : Fault}
  {c : Compiled e}

theorem compiled_ok (h : e.compile mode text = .ok code) :
    e.compiled mode text = .ok ⟨mode, text, code, h⟩ := by
  unfold compiled
  split
  · rename_i code' h'
    cases h.symm.trans h'
    rfl
  · rename_i fault h'
    cases h.symm.trans h'

theorem compiled_error (h : e.compile mode text = .error fault) :
    e.compiled mode text = .error fault := by
  unfold compiled
  split
  · rename_i code h'
    cases h.symm.trans h'
  · rename_i fault' h'
    cases h.symm.trans h'
    rfl

/-- What is compiled keeps the text and the mode that were asked for. -/
theorem of_compiled (h : e.compiled mode text = .ok c) : c.mode = mode ∧ c.text = text := by
  cases hc : e.compile mode text with
  | ok code =>
    rw [compiled_ok hc] at h
    cases h
    exact ⟨rfl, rfl⟩
  | error fault =>
    rw [compiled_error hc] at h
    cases h

theorem of_compiled_error (h : e.compiled mode text = .error fault) :
    e.compile mode text = .error fault := by
  cases hc : e.compile mode text with
  | ok code =>
    rw [compiled_ok hc] at h
    cases h
  | error fault' =>
    rw [compiled_error hc] at h
    cases h
    rfl

end Evaluator

namespace Executor

variable {s : Settings} {f : Fragment} {st : Session}

theorem fail_apply (w : Failure) : fail s w st = .ok (.unchanged (some w))
    { st with
      emitted := st.emitted ++ [.warning w.message (if s.debug then w.cause else none)] } := rfl

/-- The session in which a text has been located. -/
def located (s : Settings) (text : String) (level : Level) (st : Session) : Session :=
  { st with
    cursor := (Source.locate s.source text st.cursor level).2
    journal := st.journal ++ [.located text level] }

theorem locate_apply (text : String) (level : Level) : locate s text level st =
    .ok (Source.locate s.source text st.cursor level).1 (located s text level st) := rfl

/-- What the text of a fragment compiles to: inline code that is no expression is read as
statements. -/
def reading (s : Settings) (f : Fragment) : Except Fault (Compiled s.evaluator) :=
  match f.level with
  | .block => s.evaluator.compiled .statements f.text
  | .inline =>
    match s.evaluator.compiled .expression f.text with
    | .ok c => .ok c
    | .error _ => s.evaluator.compiled .statements f.text

/-- The session in which a text has been compiled in a mode. -/
def noted (s : Settings) (mode : Mode) (text : String) (st : Session) : Session :=
  { st with
    journal := st.journal ++ [.compiled mode text (match s.evaluator.compile mode text with
      | .ok _ => true
      | .error _ => false)] }

theorem compileAs_apply (mode : Mode) (text : String) : compileAs s mode text st =
    .ok (s.evaluator.compiled mode text) (noted s mode text st) := by
  unfold compileAs noted
  cases hc : s.evaluator.compile mode text with
  | ok code =>
    rw [Evaluator.compiled_ok hc]
    rfl
  | error fault =>
    rw [Evaluator.compiled_error hc]
    rfl

/-- The session in which the text of a fragment has been compiled. -/
def compiled (s : Settings) (f : Fragment) (st : Session) : Session :=
  match f.level with
  | .block => noted s .statements f.text st
  | .inline =>
    match s.evaluator.compile .expression f.text with
    | .ok _ => noted s .expression f.text st
    | .error _ => noted s .statements f.text (noted s .expression f.text st)

theorem compile_apply : compile s f st = .ok (reading s f) (compiled s f st) := by
  unfold compile reading compiled
  cases f.level with
  | block => exact compileAs_apply ..
  | inline =>
    dsimp only
    rw [bind_of_ok (compileAs_apply ..)]
    cases hc : s.evaluator.compile .expression f.text with
    | ok code =>
      rw [Evaluator.compiled_ok hc]
      rfl
    | error fault =>
      rw [Evaluator.compiled_error hc]
      exact compileAs_apply ..

theorem execute_off (h : f.executes = false) : execute s f st = .ok (f, withheld f) st := by
  unfold execute
  simp [h]

/-- A fragment with its position in the source. -/
def placedAt (s : Settings) (f : Fragment) (st : Session) : Fragment :=
  { f with position := (Source.locate s.source f.text st.cursor f.level).1 }

theorem execute_on (h : f.executes = true) : execute s f st =
    (do return (placedAt s f st, ← attempt s (placedAt s f st)))
      (located s f.text f.level st) := by
  unfold execute
  simp only [h, Bool.not_true, Bool.false_eq_true, ↓reduceIte]
  exact bind_of_ok (locate_apply ..)

theorem applyEdit_apply {o : Outcome} : applyEdit f o st =
    match (edit f o).run st.world.forest with
    | .ok _ forest => .ok none { st with world := { st.world with forest } }
    | .error e forest => .ok (some e) { st with world := { st.world with forest } } := by
  unfold applyEdit
  rw [bind_of_ok Engine.forest_apply]
  cases (edit f o).run st.world.forest <;> rfl

end Executor

namespace Walk

variable {s : Settings} {fuel : Nat} {parent n : NodeId} {ns : List NodeId}
  {below : NodeId → List (Fragment × Outcome) → Engine (List (Fragment × Outcome))}
  {done rs : List (Fragment × Outcome)} {st st' st₁ : Session}

theorem visit_eq_ok {r : Option (Fragment × Outcome)} : visit s n st = .ok r st' ↔
    (Executor.process s n st = .ok none st' ∧ r = none) ∨
    ∃ f o o' st₁, Executor.process s n st = .ok (some (f, o)) st₁ ∧
      Executor.apply s f o st₁ = .ok o' st' ∧ r = some (f, o') := by
  unfold visit
  rw [bind_eq_ok]
  constructor
  · rintro ⟨_ | ⟨f, o⟩, st₁, hp, h⟩
    · cases h
      exact .inl ⟨hp, rfl⟩
    · obtain ⟨o', st₂, ha, h⟩ := bind_eq_ok.mp h
      cases h
      exact .inr ⟨f, o, o', st₁, hp, ha, rfl⟩
  · rintro (⟨hp, rfl⟩ | ⟨f, o, o', st₁, hp, ha, rfl⟩)
    · exact ⟨none, st', hp, rfl⟩
    · exact ⟨some (f, o), st₁, hp, bind_eq_ok.mpr ⟨o', st', ha, rfl⟩⟩

theorem children_zero : children s 0 parent done st = .error .exhausted st := rfl

theorem children_succ : children s (fuel + 1) parent done st =
    siblings s (children s fuel) parent (st.world.forest.children parent) done st := rfl

theorem siblings_nil : siblings s below parent [] done st = .ok done st := rfl

/-- A node that stands elsewhere by now is passed over. -/
theorem siblings_moved (h : st.world.forest.parent? n ≠ some parent) :
    siblings s below parent (n :: ns) done st = siblings s below parent ns done st := by
  rw [siblings, bind_of_ok Engine.forest_apply, if_pos h]

/-- The visit of a node that still stands where it did. -/
theorem siblings_here (h : st.world.forest.parent? n = some parent) :
    siblings s below parent (n :: ns) done st = (do
      match ← visit s n with
      | some r => siblings s below parent ns (done ++ [r])
      | none =>
        if (← Engine.forest).isTag n then siblings s below parent ns (← below n done)
        else siblings s below parent ns done) st := by
  rw [siblings, bind_of_ok Engine.forest_apply]
  exact congrFun (if_neg (not_not_intro h)) st

/-- A fragment is not entered. -/
theorem siblings_visited {r : Fragment × Outcome} (h : st.world.forest.parent? n = some parent)
    (hv : visit s n st = .ok (some r) st₁) : siblings s below parent (n :: ns) done st =
      siblings s below parent ns (done ++ [r]) st₁ := by
  rw [siblings_here h, bind_of_ok hv]

theorem siblings_plain (h : st.world.forest.parent? n = some parent)
    (hv : visit s n st = .ok none st₁) (ht : st₁.world.forest.isTag n = false) :
    siblings s below parent (n :: ns) done st = siblings s below parent ns done st₁ := by
  rw [siblings_here h, bind_of_ok hv]
  dsimp only
  rw [bind_of_ok Engine.forest_apply, if_neg (by simp [ht])]

theorem siblings_entered (h : st.world.forest.parent? n = some parent)
    (hv : visit s n st = .ok none st₁) (ht : st₁.world.forest.isTag n = true) :
    siblings s below parent (n :: ns) done st =
      (do siblings s below parent ns (← below n done)) st₁ := by
  rw [siblings_here h, bind_of_ok hv]
  dsimp only
  rw [bind_of_ok Engine.forest_apply, if_pos ht]

theorem siblings_failed {e : Stop} (h : st.world.forest.parent? n = some parent)
    (hv : visit s n st = .error e st₁) :
    siblings s below parent (n :: ns) done st = .error e st₁ := by
  rw [siblings_here h, bind_apply, hv]

/-- The results of a walk come after those before it, and nothing else depends on these. -/
theorem siblings_append
    (hb : ∀ n done st, below n done st = (do return done ++ (← below n [])) st) :
    siblings s below parent ns done st = (do return done ++ (← siblings s below parent ns [])) st := by
  rw [bind_apply]
  induction ns generalizing done st with
  | nil => simp [siblings_nil]
  | cons n ns ih =>
    by_cases hp : st.world.forest.parent? n = some parent
    · cases hv : visit s n st with
      | error e st₁ => simp [siblings_failed hp hv]
      | ok r st₁ =>
        cases r with
        | some r =>
          rw [siblings_visited hp hv, siblings_visited hp hv, ih, @ih ([] ++ [r])]
          cases siblings s below parent ns [] st₁ <;> simp
        | none =>
          cases ht : st₁.world.forest.isTag n with
          | false => rw [siblings_plain hp hv ht, siblings_plain hp hv ht, ih]
          | true =>
            rw [siblings_entered hp hv ht, siblings_entered hp hv ht, bind_apply, hb, bind_apply,
              bind_apply]
            cases below n [] st₁ with
            | error e st₂ => rfl
            | ok more st₂ =>
              simp only [pure_apply]
              rw [ih, @ih more]
              cases siblings s below parent ns [] st₂ <;> simp
    · rw [siblings_moved hp, siblings_moved hp, ih]

theorem children_append : children s fuel parent done st =
    (do return done ++ (← children s fuel parent [])) st := by
  induction fuel generalizing parent done st with
  | zero => rfl
  | succ fuel ih =>
    rw [children_succ, siblings_append fun _ _ _ => ih]
    rfl

theorem siblings_first {r : Fragment × Outcome} (h : st.world.forest.parent? n = some parent)
    (hv : visit s n st = .ok (some r) st₁) :
    siblings s (children s fuel) parent (n :: ns) [] st =
      (do return r :: (← siblings s (children s fuel) parent ns [])) st₁ := by
  rw [siblings_visited h hv, siblings_append fun _ _ _ => children_append]
  rfl

theorem siblings_below (h : st.world.forest.parent? n = some parent)
    (hv : visit s n st = .ok none st₁) (ht : st₁.world.forest.isTag n = true) :
    siblings s (children s fuel) parent (n :: ns) [] st =
      (do return (← children s fuel n []) ++ (← siblings s (children s fuel) parent ns [])) st₁ := by
  rw [siblings_entered h hv ht, bind_apply, bind_apply]
  cases children s fuel n [] st₁ with
  | error e st₂ => rfl
  | ok more st₂ => exact siblings_append fun _ _ _ => children_append

section Induction

variable {R : Session → List (Fragment × Outcome) → Session → Prop}

/-- What holds of every visit, and can be composed, holds of a walk. -/
theorem children_ok (refl : ∀ st, R st [] st)
    (trans : ∀ {st st₁ st₂ as bs}, R st as st₁ → R st₁ bs st₂ → R st (as ++ bs) st₂)
    (visited : ∀ {st st' n r}, visit s n st = .ok r st' → R st r.toList st')
    (h : children s fuel parent [] st = .ok rs st') : R st rs st' := by
  induction fuel generalizing parent rs st st' with
  | zero =>
    rw [children_zero] at h
    cases h
  | succ fuel ih =>
    rw [children_succ] at h
    -- the walk below a sibling has less fuel, so the siblings are gone through in a second induction
    generalize st.world.forest.children parent = ns at h
    induction ns generalizing rs st with
    | nil =>
      rw [siblings_nil] at h
      cases h
      exact refl _
    | cons n ns ihs =>
      by_cases hp : st.world.forest.parent? n = some parent
      · cases hv : visit s n st with
        | error e st₁ =>
          rw [siblings_failed hp hv] at h
          cases h
        | ok r st₁ =>
          cases r with
          | some r =>
            rw [siblings_first hp hv] at h
            obtain ⟨more, st₂, hm, h⟩ := bind_eq_ok.mp h
            cases h
            exact trans (visited hv) (ihs hm)
          | none =>
            have hn : R st [] st₁ := visited hv
            cases ht : st₁.world.forest.isTag n with
            | false =>
              rw [siblings_plain hp hv ht] at h
              exact trans hn (ihs h)
            | true =>
              rw [siblings_below hp hv ht] at h
              obtain ⟨within, st₂, hw, h⟩ := bind_eq_ok.mp h
              obtain ⟨more, st₃, hm, h⟩ := bind_eq_ok.mp h
              cases h
              have hb := trans hn (ih hw)
              exact trans hb (ihs hm)
      · rw [siblings_moved hp] at h
        exact ihs h

end Induction

end Walk

namespace DocumentRun

variable {ev : Evaluator} {m : Machine} {config : Config} {root : NodeId} {metadata : Value}
  {options : RunOptions} {run : DocumentRun} {st st' : Session}

/-- How a run goes on once its switch was read. -/
def switched (ev : Evaluator) (m : Machine) (config : Config) (root : NodeId) (metadata : Value)
    (options : RunOptions) (st : Session) :
    EStateM.Result Stop World Bool → EStateM.Result Stop Session DocumentRun
  | .ok true w =>
    (do perform ev m config root options (← Engine.lift (namespaceFor root metadata options)))
      { st with world := w }
  | .ok false w => passOver config options { st with world := w }
  | .error e w => .error e { st with world := w }

theorem process_eq : process ev m config root metadata options st =
    switched ev m config root metadata options st (enabledFor m config metadata st.world) := by
  unfold process
  cases h : enabledFor m config metadata st.world with
  | ok b w =>
    rw [bind_of_ok (Engine.lift_eq_ok.mpr ⟨w, h, rfl⟩)]
    cases b <;> rfl
  | error e w =>
    rw [bind_apply, Engine.lift_eq_error.mpr ⟨w, h, rfl⟩]
    rfl

theorem process_off {w : World} (h : enabledFor m config metadata st.world = .ok false w) :
    process ev m config root metadata options st =
      .ok { enabled := false, inputName := options.inputName }
        { st with
          world := w
          emitted := st.emitted ++ [.event "fragment_run_skipped"
            [("input", .str options.inputName), ("key", .str config.enableKey)]] } := by
  rw [process_eq, h]
  rfl

theorem process_on {w : World} (h : enabledFor m config metadata st.world = .ok true w) :
    process ev m config root metadata options st =
      (do perform ev m config root options (← Engine.lift (namespaceFor root metadata options)))
        { st with world := w } := by
  rw [process_eq, h]
  rfl

/-- A run is switched off, or prepares its namespace and walks. -/
theorem process_ok (h : process ev m config root metadata options st = .ok run st') :
    (∃ w, enabledFor m config metadata st.world = .ok false w ∧
      run = { enabled := false, inputName := options.inputName } ∧
      st' = { st with
        world := w
        emitted := st.emitted ++ [.event "fragment_run_skipped"
          [("input", .str options.inputName), ("key", .str config.enableKey)]] }) ∨
    ∃ w space w', enabledFor m config metadata st.world = .ok true w ∧
      namespaceFor root metadata options w = .ok space w' ∧
      perform ev m config root options space { st with world := w' } = .ok run st' := by
  have hl := h
  unfold process at hl
  obtain ⟨b, st₁, hb, -⟩ := bind_eq_ok.mp hl
  obtain ⟨w, hw, -⟩ := Engine.lift_eq_ok.mp hb
  cases b with
  | false =>
    rw [process_off hw] at h
    cases h
    exact .inl ⟨w, hw, rfl, rfl⟩
  | true =>
    rw [process_on hw] at h
    obtain ⟨space, st₂, hs, h⟩ := bind_eq_ok.mp h
    obtain ⟨w', hn, rfl⟩ := Engine.lift_eq_ok.mp hs
    exact .inr ⟨w, space, w', hw, hn, h⟩

end DocumentRun

end LiveMarkdown
