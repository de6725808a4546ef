import LiveMarkdown.Proofs.Isolation

/-!
The journal of a run. What was asked for stays in it whatever comes afterwards, an exception included,
so the journal of a run begins with the journal of each point that its walk came to.
-/

namespace LiveMarkdown

open Document (NodeId)
open Script (Machine Value Run Stop)

namespace Engine

variable {α β : Type} {x : Engine α} {f : α → Engine β}

/-- The session in which a computation ended. -/
def final (r : EStateM.Result Stop Session α) : Session :=
  match r with
  | .ok _ st => st
  | .error _ st => st

/-- A computation takes nothing out of the journal. -/
def Extends (x : Engine α) : Prop := ∀ st, st.journal <+: (final (x st)).journal

theorem Extends.of_eq (h : ∀ st, (final (x st)).journal = st.journal) : Extends x :=
  fun st => (h st).symm ▸ List.prefix_rfl

theorem Extends.pure (a : α) : Extends (pure a : Engine α) := .of_eq fun _ => rfl

theorem Extends.throw (e : Stop) : Extends (throw e : Engine α) := .of_eq fun _ => rfl

theorem Extends.forest : Extends forest := .of_eq fun _ => rfl

theorem Extends.emit (e : Emission) : Extends (emit e) := .of_eq fun _ => rfl

theorem Extends.event (name : String) (payload : List (String × Value)) :
    Extends (event name payload) := .emit _

theorem Extends.note (k : Step) : Extends (note k) := fun _ => List.prefix_append _ _

theorem Extends.lift (x : Run α) : Extends (lift x) := .of_eq fun st => by
  unfold Engine.lift
  cases x st.world <;> rfl

theorem Extends.bind (hx : Extends x) (hf : ∀ a, Extends (f a)) : Extends (x >>= f) := by
  intro st
  have h := hx st
  rw [bind_apply]
  cases hs : x st with
  | error e st₁ => rwa [hs] at h
  | ok a st₁ =>
    rw [hs] at h
    exact h.trans (hf a st₁)

/-- What a computation does first stays in the journal of the whole. -/
theorem Extends.final_bind (hf : ∀ a, Extends (f a)) (st : Session) :
    (final (x st)).journal <+: (final ((x >>= f) st)).journal := by
  rw [bind_apply]
  cases x st with
  | error e st₁ => exact List.prefix_rfl
  | ok a st₁ => exact hf a st₁

theorem final_map (g : α → β) (st : Session) : final ((do return g (← x)) st) = final (x st) := by
  rw [bind_apply]
  cases x st <;> rfl

end Engine

open Engine (Extends final)

namespace Executor

variable (s : Settings)

theorem fail_extends (w : Failure) : Extends (fail s w) := (Extends.emit _).bind fun _ => .pure _

theorem locate_extends (text : String) (level : Level) : Extends (locate s text level) :=
  fun _ => List.prefix_append _ _

theorem compile_extends (f : Fragment) : Extends (compile s f) := by
  have h (mode : Mode) : Extends (compileAs s mode f.text) := (Extends.note _).bind fun _ => .pure _
  unfold compile
  split
  · exact h _
  · refine (h _).bind fun r => ?_
    cases r with
    | ok code => exact .pure _
    | error fault => exact h _

theorem refuse_extends (f : Fragment) (v : Value) (expectation : String) :
    Extends (refuse s f v expectation) := (Extends.lift _).bind fun _ => fail_extends s _

theorem placed_extends (f : Fragment) (v : Value) (nodes : List NodeId) :
    Extends (placed s f v nodes) := by
  refine Extends.forest.bind fun forest => ?_
  split
  · exact fail_extends s _
  · split
    · exact refuse_extends s _ _ _
    · exact .pure _

theorem outcomeOf_extends (f : Fragment) (v : Value) : Extends (outcomeOf s f v) := by
  refine (Extends.lift _).bind fun r => ?_
  rcases r with _ | _ | ⟨n, ns⟩
  · exact refuse_extends s _ _ _
  · exact .pure _
  · exact placed_extends s _ _ _

theorem runCode_extends (f : Fragment) (code : Compiled s.evaluator) : Extends (runCode s f code) := by
  refine ((Extends.note _).bind fun _ => .lift _).bind fun r => ?_
  cases r with
  | error e => exact (Extends.lift _).bind fun _ => fail_extends s _
  | ok v => exact outcomeOf_extends s f v

/-- How a fragment goes on whose text was compiled takes nothing out of the journal. -/
theorem compiled_extends (f : Fragment) (st : Session) :
    (compiled s f st).journal <+: (final (attempt s f st)).journal := by
  have hc : final (compile s f st) = compiled s f st := by
    rw [compile_apply]
    rfl
  rw [← hc]
  unfold attempt
  refine Extends.final_bind (fun r => ?_) st
  cases r with
  | error fault => exact (Extends.lift _).bind fun _ => fail_extends s _
  | ok code => exact runCode_extends s f code

theorem attempt_extends (f : Fragment) : Extends (attempt s f) := fun st => by
  have h := compile_extends s f st
  rw [compile_apply] at h
  exact h.trans (compiled_extends s f st)

theorem execute_extends (f : Fragment) : Extends (execute s f) := by
  unfold execute
  split
  · exact .pure _
  · exact (locate_extends s _ _).bind fun _ => (attempt_extends s _).bind fun _ => .pure _

theorem apply_extends (f : Fragment) (o : Outcome) : Extends (apply s f o) := by
  have he : Extends (applyEdit f o) := .of_eq fun st => by
    rw [applyEdit_apply]
    cases (edit f o).run st.world.forest <;> rfl
  refine he.bind fun r => ?_
  cases r with
  | none => exact .pure _
  | some e => exact (Extends.lift _).bind fun _ => (Extends.lift _).bind fun _ => fail_extends s _

/-- A node at which the walk stands is looked at, and if it is a fragment that executes, its place is
asked for and its text compiled: a journal begins with that. -/
structure Handled (s : Settings) (n : NodeId) (st : Session) (journal : List Step) : Prop where
  visited : (lookedAt n st).journal <+: journal
  compiled : ∀ f, Fragment.ofNode? st.world.forest s.markers n = some f → f.executes = true →
    (compiled s f (located s f.text f.level (lookedAt n st))).journal <+: journal

theorem Handled.mono {n : NodeId} {st : Session} {journal journal' : List Step}
    (h : Handled s n st journal) (hj : journal <+: journal') : Handled s n st journal' :=
  ⟨h.visited.trans hj, fun f hf hx => (h.compiled f hf hx).trans hj⟩

theorem process_handled (n : NodeId) (st : Session) :
    Handled s n st (final (process s n st)).journal := by
  rw [process_apply]
  cases hf : Fragment.ofNode? st.world.forest s.markers n with
  | none => exact ⟨List.prefix_rfl, fun f h => by rw [hf] at h; cases h⟩
  | some f =>
    have he : final ((some <$> execute s f) (lookedAt n st)) = final (execute s f (lookedAt n st)) :=
      Engine.final_map _ _
    dsimp only
    rw [he]
    refine ⟨execute_extends s f _, fun g hg hx => ?_⟩
    rw [hf] at hg
    cases hg
    rw [execute_on hx]
    exact (compiled_extends s (placedAt s f (lookedAt n st)) _).trans
      (Extends.final_bind (fun _ => .pure _) _)

end Executor

namespace Walk

open Executor (Handled)

variable {s : Settings}

theorem visit_handled (n : NodeId) (st : Session) : Handled s n st (final (visit s n st)).journal := by
  refine (Executor.process_handled s n st).mono s (Extends.final_bind (fun r => ?_) st)
  cases r with
  | none => exact .pure _
  | some x => exact (Executor.apply_extends s _ _).bind fun _ => .pure _

theorem visit_extends (n : NodeId) : Extends (visit s n) :=
  fun st => (List.prefix_append _ _).trans (visit_handled n st).visited

section Siblings

variable {below : NodeId → List (Fragment × Outcome) → Engine (List (Fragment × Outcome))}

/-- What comes behind the visit of a node, if what comes behind its siblings takes nothing out of the
journal. -/
theorem rest_extends {parent n : NodeId} {ns : List NodeId} {done : List (Fragment × Outcome)}
    (hb : ∀ n done, Extends (below n done)) (hs : ∀ done, Extends (siblings s below parent ns done))
    (r : Option (Fragment × Outcome)) : Extends (do
      match r with
      | some r => siblings s below parent ns (done ++ [r])
      | none =>
        if (← Engine.forest).isTag n then siblings s below parent ns (← below n done)
        else siblings s below parent ns done) := by
  cases r with
  | some r => exact hs _
  | none =>
    refine Extends.forest.bind fun f => ?_
    split
    · exact (hb n done).bind fun _ => hs _
    · exact hs _

theorem siblings_extends (hb : ∀ n done, Extends (below n done)) (parent : NodeId) (ns : List NodeId)
    (done : List (Fragment × Outcome)) : Extends (siblings s below parent ns done) := by
  induction ns generalizing done with
  | nil => exact .pure _
  | cons n ns ih =>
    unfold siblings
    refine Extends.forest.bind fun f => ?_
    split
    · exact ih _
    · exact (visit_extends n).bind fun r => rest_extends hb ih r

end Siblings

theorem children_extends (fuel : Nat) (parent : NodeId) (done : List (Fragment × Outcome)) :
    Extends (children s fuel parent done) := by
  induction fuel generalizing parent done with
  | zero => exact .throw _
  | succ fuel ih => exact Extends.forest.bind fun f => siblings_extends (fun n done => ih n done) _ _ _

/-- What a walk asked for from a point on stands in the journal of the whole walk. -/
theorem resume_journal {p q : Point} (hq : Reaches s p q) :
    (final (resume s q q.session)).journal <+: (final (resume s p p.session)).journal := by
  induction hq with
  | refl p => exact List.prefix_rfl
  | moved hp _ ih =>
    unfold resume at ih ⊢
    rwa [siblings_moved hp]
  | visited hp hv _ ih =>
    unfold resume at ih ⊢
    rwa [siblings_first hp hv, Engine.final_map]
  | plain hp hv ht _ ih =>
    unfold resume at ih ⊢
    rwa [siblings_plain hp hv ht]
  | entered hp hv ht _ ih =>
    unfold resume at ih ⊢
    rw [siblings_below hp hv ht]
    exact ih.trans (Extends.final_bind
      (fun _ => (siblings_extends (children_extends _) _ _ _).bind fun _ => .pure _) _)
  | left hp hv ht hw _ ih =>
    unfold resume at ih ⊢
    rwa [siblings_below hp hv ht, bind_of_ok hw, Engine.final_map]

/-- A walk that stands at a point goes on with the visit of a node. -/
def Point.Meets (q : Point) (n : NodeId) : Prop :=
  ∃ ns, q.left = n :: ns ∧ q.session.world.forest.parent? n = some q.parent

/-- The node that a walk meets is handled, whatever becomes of the walk. -/
theorem resume_handled {p q : Point} {n : NodeId} (hq : Reaches s p q) (hn : q.Meets n) :
    Handled s n q.session (final (resume s p p.session)).journal := by
  obtain ⟨ns, hl, hp⟩ := hn
  refine ((visit_handled n q.session).mono s ?_).mono s (resume_journal hq)
  unfold resume
  rw [hl, siblings_here hp]
  exact Extends.final_bind (fun r => rest_extends (children_extends _)
    (fun _ => siblings_extends (children_extends _) _ _ _) r) q.session

end Walk

namespace DocumentRun

open Executor (Handled)

variable {ev : Evaluator} {m : Machine} {config : Config} {root : NodeId} {metadata : Value}
  {options : RunOptions} {s : Settings} {q : Walk.Point} {st : Session}

/-- The node that the walk of a run meets is handled, whatever becomes of the run. -/
theorem process_handled {n : NodeId} (hq : Comes ev m config root metadata options st s q)
    (hm : q.Meets n) :
    Handled s n q.session (final (process ev m config root metadata options st)).journal := by
  obtain ⟨w, space, w', hw, hn, rfl, hq⟩ := hq
  rw [process_on hw, bind_of_ok (Engine.lift_eq_ok.mpr ⟨w', hn, rfl⟩), perform_eq]
  exact (Walk.resume_handled hq hm).mono _
    (Extends.final_bind (fun _ => (Extends.event _ _).bind fun _ => .pure _) _)

end DocumentRun

end LiveMarkdown
