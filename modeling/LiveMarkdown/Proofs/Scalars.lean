import LiveMarkdown.Metadata.Value
import LiveMarkdown.Proofs.Switch

/-!
The constructors of the scalars of metadata. Each gives a scalar and changes nothing, or raises an
exception.
-/

namespace LiveMarkdown

open Script (Value Run World Ref)

/-! ### Computations that raise -/

/-- A computation raises an exception. -/
def Raises {α : Type} (x : Run α) : Prop := ∀ w, ∃ e w', x w = .error (.raised e) w'

/-- A computation gives an answer of a kind and changes nothing, or it raises an exception. -/
def Settles {α : Type} (x : Run α) (P : α → Prop) : Prop :=
  ∀ w, (∃ a, x w = .ok a w ∧ P a) ∨ ∃ e w', x w = .error (.raised e) w'

section Settling

variable {α β : Type} {x y : Run α} {f : α → Run β} {P : α → Prop} {Q : β → Prop}

theorem Raises.after (hx : Grows x) (hf : ∀ a, Raises (f a)) : Raises (x >>= f) := by
  intro w
  obtain ⟨a, w₁, -, ha, -⟩ := hx w
  obtain ⟨e, w', he⟩ := hf a w₁
  exact ⟨e, w', by rw [bind_of_ok ha, he]⟩

theorem Raises.bind (hx : Raises x) : Raises (x >>= f) := by
  intro w
  obtain ⟨e, w', he⟩ := hx w
  exact ⟨e, w', bind_eq_error.mpr (.inl he)⟩

theorem Raises.settles (hx : Raises x) : Settles x P := fun w => .inr (hx w)

theorem Settles.pure {a : α} (h : P a) : Settles (pure a) P := fun _ => .inl ⟨a, rfl, h⟩

theorem Settles.bind (hx : Settles x P) (hf : ∀ a, P a → Settles (f a) Q) :
    Settles (x >>= f) Q := by
  intro w
  obtain ⟨a, ha, hp⟩ | ⟨e, w', he⟩ := hx w
  · rw [bind_of_ok ha]
    exact hf a hp w
  · exact .inr ⟨e, w', bind_eq_error.mpr (.inl he)⟩

theorem Settles.ite {c : Prop} [Decidable c] (hx : Settles x P) (hy : Settles y P) :
    Settles (if c then x else y) P := by
  by_cases hc : c
  · rwa [if_pos hc]
  · rwa [if_neg hc]

theorem Settles.mapM {f : β → Run α} (h : ∀ b, Settles (f b) P) (bs : List β) :
    Settles (bs.mapM f) fun _ => True := by
  induction bs with
  | nil => exact .pure trivial
  | cons b bs ih =>
    rw [List.mapM_cons]
    exact (h b).bind fun _ _ => ih.bind fun _ _ => .pure trivial

end Settling

namespace Script.Run

theorem setContext_grows (e : Ref) (c : Option Ref) : Grows (setContext e c) := by
  unfold setContext
  refine (object?_reads e).grows.bind fun o => ?_
  split
  · exact .of_heap fun w => ⟨(), _, rfl, rfl⟩
  · exact .pure _

theorem context?_reads (e : Ref) : Reads (context? e) := by
  unfold context?
  refine (object?_reads e).bind fun o => ?_
  split <;> exact .pure _

theorem unlinkContext_grows (e : Ref) (fuel : Nat) (r : Ref) :
    Grows (unlinkContext e fuel r) := by
  induction fuel generalizing r with
  | zero => exact .pure _
  | succ fuel ih =>
    refine (context?_reads r).grows.bind fun c => ?_
    cases c with
    | none => exact .pure _
    | some c =>
      dsimp only
      split
      · exact setContext_grows r none
      · exact ih c

/-- Whatever is being handled, what is raised is raised. -/
theorem throwValue_raises {α : Type} (e : Value) : Raises (throwValue e : Run α) := by
  have ht : Raises (throw (.raised e) : Run α) := fun w => ⟨e, w, rfl⟩
  have hg : Grows (get : Run World) := .of_heap fun w => ⟨w, w, rfl, rfl⟩
  unfold throwValue
  refine .after hg fun w => ?_
  split
  · split
    · exact .after hg fun w => .after (unlinkContext_grows _ _ _) fun _ =>
        .after (setContext_grows _ _) fun _ => ht
    · exact ht
  · exact ht

theorem raiseWith_raises {α : Type} (cls : String) (args : List Value) :
    Raises (raiseWith cls args : Run α) :=
  .after (new_grows _) fun _ => throwValue_raises _

theorem raise_raises {α : Type} (cls message : String) : Raises (raise cls message : Run α) :=
  raiseWith_raises cls _

end Script.Run

namespace Metadata

namespace Build

/-! ### The constructors of scalars -/

theorem signed_settles (text : String) : Settles (signed text) fun _ => True := by
  unfold signed
  split
  · exact (Script.Run.raise_raises _ _).settles
  all_goals exact .pure trivial

theorem readInt_settles (base : Nat) (s : String) : Settles (readInt base s) fun _ => True := by
  unfold readInt Script.Convert.readInt
  split
  · split
    · exact (Script.Run.raise_raises _ _).bind.settles
    · exact .pure trivial
  · exact (Script.Run.raise_raises _ _).settles

theorem readFloat_settles (s : String) : Settles (readFloat s) fun _ => True := by
  unfold readFloat
  split
  · exact .pure trivial
  · exact (Script.Run.raise_raises _ _).settles

/-- The constructor of an integer gives a scalar or raises an exception. -/
theorem int_settles (text : String) : Settles (int text) fun v => v.isScalar := by
  unfold int
  refine (signed_settles text).bind fun p _ => ?_
  dsimp only
  split
  · exact (Script.Run.raise_raises _ _).settles
  · exact .pure rfl
  · exact (readInt_settles _ _).bind fun _ _ => .pure rfl
  · exact (readInt_settles _ _).bind fun _ _ => .pure rfl
  · exact (readInt_settles _ _).bind fun _ _ => .pure rfl
  · split
    · exact (Settles.mapM (readInt_settles 10) _).bind fun _ _ => .pure rfl
    · exact (readInt_settles _ _).bind fun _ _ => .pure rfl

theorem float_settles (text : String) : Settles (float text) fun v => v.isScalar := by
  unfold float
  refine (signed_settles _).bind fun p _ => ?_
  dsimp only
  split
  · exact .pure rfl
  split
  · exact .pure rfl
  split
  · exact (Settles.mapM readFloat_settles _).bind fun _ _ => .pure rfl
  · exact (readFloat_settles _).bind fun _ _ => .pure rfl

theorem bool_settles (text : String) : Settles (bool text) fun v => v.isScalar := by
  unfold bool
  dsimp only
  split
  · exact .pure rfl
  split
  · exact .pure rfl
  · exact (Script.Run.raiseWith_raises _ _).settles

theorem checkDay_settles (t : Scalar.Time) : Settles (checkDay t) fun _ => True := by
  unfold checkDay
  dsimp only
  refine .ite (Script.Run.raise_raises _ _).bind.settles ?_
  refine .ite (Script.Run.raise_raises _ _).bind.settles ?_
  exact .ite (Script.Run.raise_raises _ _).settles (.pure trivial)

theorem offset?_settles (zone : Option Scalar.Zone) : Settles (offset? zone) fun _ => True := by
  unfold offset?
  split
  · exact .pure trivial
  · exact .pure trivial
  · exact .ite (Script.Run.raise_raises _ _).bind.settles (.pure trivial)

theorem time_settles (text : String) : Settles (time text) fun v => v.isScalar := by
  unfold time
  split
  · exact (Script.Run.raise_raises _ _).settles
  split
  · exact (checkDay_settles _).bind fun _ _ => .pure rfl
  · refine (offset?_settles _).bind fun _ _ => (checkDay_settles _).bind fun _ _ => ?_
    dsimp only
    refine .ite (Script.Run.raise_raises _ _).bind.settles ?_
    refine .ite (Script.Run.raise_raises _ _).bind.settles ?_
    exact .ite (Script.Run.raise_raises _ _).bind.settles (.pure rfl)

theorem timeAt_settles (content : Content) (text : String) :
    Settles (timeAt content text) fun v => v.isScalar := by
  cases content with
  | scalar _ => exact time_settles text
  | sequence _ => exact (Script.Run.raise_raises _ _).settles
  | mapping _ => exact (Script.Run.raise_raises _ _).settles

end Build

end Metadata

end LiveMarkdown
