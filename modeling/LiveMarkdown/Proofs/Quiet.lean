import LiveMarkdown.Proofs.Forest
import LiveMarkdown.Proofs.Walk
import LiveMarkdown.Script.Machine

/-!
Computations that raise nothing: what the engine itself does between two fragments, and what it asks
about classes. What is asked about a class changes nothing either, and the namespace of a run is made
without a change of the tree other than a new document.
-/

namespace LiveMarkdown

open Document (NodeId Forest)
open Script (Value Run Stop World Machine Ref)

/-- A computation gives an answer and changes nothing. -/
def Reads {α : Type} (x : Run α) : Prop := ∀ w, ∃ a, x w = .ok a w

/-- A computation raises nothing. -/
def Quiet {α : Type} (x : Run α) : Prop := ∀ w e w', x w ≠ .error (.raised e) w'

/-- A computation gives an answer, and does nothing to the tree but to add nodes. -/
def Grows {α : Type} (x : Run α) : Prop := ∀ w, ∃ a w' new, x w = .ok a w' ∧
  w'.forest = w.forest.grow new ∧ (w.forest.WellFormed → w'.forest.WellFormed)

section Closure

variable {α β : Type} {x : Run α} {f : α → Run β}

theorem Reads.pure (a : α) : Reads (pure a) := fun _ => ⟨a, rfl⟩

theorem Reads.bind (hx : Reads x) (hf : ∀ a, Reads (f a)) : Reads (x >>= f) := by
  intro w
  obtain ⟨a, ha⟩ := hx w
  obtain ⟨b, hb⟩ := hf a w
  exact ⟨b, by rw [bind_of_ok ha, hb]⟩

theorem Reads.mapM {g : β → Run α} (h : ∀ b, Reads (g b)) (bs : List β) : Reads (bs.mapM g) := by
  induction bs with
  | nil => exact .pure []
  | cons b bs ih =>
    rw [List.mapM_cons]
    exact (h b).bind fun _ => ih.bind fun _ => .pure _

theorem Reads.quiet (hx : Reads x) : Quiet x := by
  intro w e w' h
  obtain ⟨a, ha⟩ := hx w
  rw [ha] at h
  cases h

theorem Quiet.pure (a : α) : Quiet (pure a) := (Reads.pure a).quiet

theorem Quiet.bind (hx : Quiet x) (hf : ∀ a, Quiet (f a)) : Quiet (x >>= f) := by
  intro w e w' h
  obtain h | ⟨a, u, -, h⟩ := bind_eq_error.mp h
  · exact hx w e w' h
  · exact hf a u e w' h

theorem Quiet.of_ok (h : ∀ w, ∃ a w', x w = .ok a w') : Quiet x := by
  intro w e w' he
  obtain ⟨a, w₁, ha⟩ := h w
  rw [ha] at he
  cases he

theorem Grows.of_heap (h : ∀ w, ∃ a w', x w = .ok a w' ∧ w'.forest = w.forest) : Grows x := by
  intro w
  obtain ⟨a, w', hx, hw⟩ := h w
  exact ⟨a, w', #[], hx, by rw [hw, Forest.grow_empty], fun hf => by rwa [hw]⟩

theorem Reads.grows (hx : Reads x) : Grows x := .of_heap fun w => by
  obtain ⟨a, ha⟩ := hx w
  exact ⟨a, w, ha, rfl⟩

theorem Grows.pure (a : α) : Grows (pure a) := (Reads.pure a).grows

theorem Grows.bind (hx : Grows x) (hf : ∀ a, Grows (f a)) : Grows (x >>= f) := by
  intro w
  obtain ⟨a, w₁, new, ha, hn, hw⟩ := hx w
  obtain ⟨b, w₂, more, hb, hm, hw'⟩ := hf a w₁
  refine ⟨b, w₂, new ++ more, ?_, ?_, fun h => hw' (hw h)⟩
  · rw [bind_of_ok ha, hb]
  · rw [hm, hn, Forest.grow_grow]

theorem Grows.forIn {γ : Type} {step : β → γ → Run (ForInStep γ)} (bs : List β) (c : γ)
    (h : ∀ b c, Grows (step b c)) : Grows (forIn bs c step) := by
  induction bs generalizing c with
  | nil => exact .pure c
  | cons b bs ih =>
    rw [List.forIn_cons]
    refine (h b c).bind fun r => ?_
    cases r with
    | done c => exact .pure c
    | yield c => exact ih c

theorem Grows.quiet (hx : Grows x) : Quiet x := .of_ok fun w => by
  obtain ⟨a, w', -, ha, -⟩ := hx w
  exact ⟨a, w', ha⟩

/-- Whether a computation raised something that passes a test. -/
def raisedAnd {σ : Type} (r : EStateM.Result Stop σ α) (p : Value → σ → Bool) : Bool :=
  match r with
  | .error (.raised e) s => p e s
  | _ => false

theorem exists_of_raisedAnd {σ : Type} {r : EStateM.Result Stop σ α} {p : Value → σ → Bool}
    (h : raisedAnd r p) : ∃ e s, r = .error (.raised e) s ∧ p e s := by
  rcases r with ⟨a, s⟩ | ⟨e | _, s⟩
  · cases h
  · exact ⟨e, s, rfl, h⟩
  · cases h

end Closure

namespace Script

theorem Run.forest_apply (w : World) : Run.forest w = .ok w.forest w := rfl

theorem Run.forest_reads : Reads Run.forest := fun w => ⟨w.forest, Run.forest_apply w⟩

theorem Run.object?_reads (r : Ref) : Reads (Run.object? r) := fun w => ⟨w.heap[r]?, rfl⟩

section Object

variable {r : Ref} {o : Object} {w : World}

theorem Run.object?_of (h : w.heap[r]? = some o) : Run.object? r w = .ok (some o) w := by
  rw [← h]
  rfl

theorem Run.deref_of (h : w.heap[r]? = some o) : Run.deref (.ref r) w = .ok (some o) w :=
  Run.object?_of h

end Object

theorem Run.alloc_grows (o : Object) : Grows (Run.alloc o) := .of_heap fun _ => ⟨_, _, rfl, rfl⟩

theorem Run.new_grows (o : Object) : Grows (Run.new o) := .of_heap fun _ => ⟨_, _, rfl, rfl⟩

theorem Run.new_quiet (o : Object) : Quiet (Run.new o) := (Run.new_grows o).quiet

/-- A new object stands where its reference says. -/
theorem Run.new_eq {o : Object} {v : Value} {w w' : World} (h : Run.new o w = .ok v w') :
    ∃ r, v = .ref r ∧ w'.heap[r]? = some o := by
  cases h
  exact ⟨w.heap.size, rfl, by simp⟩

theorem Element.newNode_apply (x : Document.Content) (w : World) : newNode x w =
    .ok w.forest.size { w with forest := w.forest.grow #[⟨x, none, []⟩] } := by
  unfold newNode
  rw [Forest.alloc_eq]

theorem Element.newNode_grows (x : Document.Content) : Grows (newNode x) :=
  fun w => ⟨_, _, _, newNode_apply x w, rfl, fun hf => hf.alloc x⟩

/-- Where code holds no attributes, nothing is carried back. -/
theorem LiveAttributes.settle_nothing {m : Machine} {w : World} (h : w.heldAttributes = []) :
    settle m w = .ok () w := by
  unfold settle
  rw [bind_of_ok get_apply, h]
  rfl

namespace Kind

theorem of_reads : (v : Value) → Reads (of v)
  | .none | .ellipsis | .notImplemented | .bool _ | .int _ | .float _ | .complex .. | .fraction ..
  | .decimal _ | .str _ | .bytes _ | .tuple _ | .range .. | .slice .. | .date .. | .moment _
  | .factory _ | .type _ | .native _ => .pure _
  | .node n => by
    unfold of
    refine Run.forest_reads.bind fun f => ?_
    split <;> exact .pure _
  | .ref r => by
    unfold of
    refine (Run.object?_reads r).bind fun o => ?_
    cases o <;> exact .pure _
  | .method self name => by
    have hc := of_reads self
    cases self with
    | type _ | node _ | factory _ => exact .pure _
    | _ =>
      refine hc.bind fun cls => ?_
      split <;> exact .pure _

theorem nameOf_reads (cls : Value) : Reads (nameOf cls) := by
  unfold nameOf
  split
  · exact .pure _
  · refine (Run.object?_reads _).bind fun o => ?_
    split <;> exact .pure _
  · exact .pure _

theorem plainName_reads (v : Value) : Reads (plainName v) := (of_reads v).bind nameOf_reads

theorem order_reads (cls : Value) : Reads (order cls) := by
  unfold order
  split
  · exact .pure _
  · refine (Run.object?_reads _).bind fun o => ?_
    split <;> exact .pure _
  · exact .pure _

theorem core_reads (v : Value) : Reads (core v) := by
  have hd : Reads (Run.deref v) := by
    unfold Run.deref
    split
    · exact Run.object?_reads _
    · exact .pure _
  unfold core
  refine hd.bind fun o => ?_
  split <;> exact .pure _

theorem isA_reads (v : Value) (base : String) : Reads (isA v base) :=
  (of_reads v).bind fun cls => (order_reads cls).bind fun _ => .pure _

/-- Whether a value is an instance of a class is known at once. -/
theorem isA_eq (v : Value) (base : String) (w : World) : ∃ b, isA v base w = .ok b w :=
  isA_reads v base w

end Kind

namespace Space

theorem entries_reads (r : Ref) : Reads (entries r) := by
  unfold entries
  refine (Run.object?_reads r).bind fun o => ?_
  split <;> exact .pure _

theorem set_grows (r : Ref) (name : String) (v : Value) : Grows (set r name v) :=
  (entries_reads r).grows.bind fun _ => .of_heap fun _ => ⟨_, _, rfl, rfl⟩

end Space

section Catching

variable {α : Type} {x : Run α} {h : Value → Run α} {cls : String} {w w' : World} {e : Value}

theorem Run.handle_apply : Run.handle x h w = match x w with
    | .ok a w' => .ok a w'
    | .error (.raised e) w' => h e w'
    | .error .exhausted w' => .error .exhausted w' := by
  unfold Run.handle
  rw [tryCatch_apply]
  rcases x w with ⟨a, w'⟩ | ⟨_ | _, w'⟩ <;> rfl

/-- An exception that is not caught is of another class. -/
theorem Iteration.catching_raises (hc : Iteration.catching cls x w = .error (.raised e) w') :
    x w = .error (.raised e) w' ∧ Kind.isA e cls w' = .ok false w' := by
  unfold Iteration.catching at hc
  rw [tryCatch_apply, map_apply] at hc
  rcases hx : x w with ⟨a, w₁⟩ | ⟨x' | _, w₁⟩
  · rw [hx] at hc
    cases hc
  · rw [hx] at hc
    dsimp only at hc
    obtain ⟨b, hb⟩ := Kind.isA_eq x' cls w₁
    rw [bind_of_ok hb] at hc
    cases b with
    | true => cases hc
    | false =>
      cases hc
      exact ⟨rfl, hb⟩
  · rw [hx] at hc
    cases hc

end Catching

theorem Show.text_str (d : Nat) (t : String) (w : World) :
    (machine (d + 1)).text (.str t) w = .ok t w := rfl

theorem Raised.builtinClasses_type (k : String) (w : World) :
    Raised.builtinClasses (.type k) w = .ok (builtinOrder k) w := by
  have h (f : Value → Option String) (hf : ∀ t, f (.type t) = some t) (ks : List String) :
      (ks.map Value.type).filterMap f = ks := by
    simp only [List.filterMap_map, Function.comp_def, hf, List.filterMap_some]
  unfold Raised.builtinClasses Kind.order
  exact congrArg (EStateM.Result.ok · w) (h _ (fun _ => rfl) _)

/-- Whether the exceptions of a built-in class show their argument as it is. -/
def Raised.showsArgument (k : String) : Bool :=
  ["SyntaxError", "UnicodeEncodeError", "UnicodeDecodeError", "UnicodeTranslateError",
    "BaseExceptionGroup", "OSError", "KeyError"].all fun c => !(builtinOrder k).contains c

theorem Raised.text_argument (d : Nat) {k : String} (hk : showsArgument k = true) (t : String)
    (w : World) : Raised.text (machine (d + 1)) (.type k) [.str t] #[] w = .ok t w := by
  simp only [showsArgument, List.all_cons, List.all_nil, Bool.and_true, Bool.and_eq_true,
    Bool.not_eq_true'] at hk
  unfold Raised.text
  rw [bind_of_ok (Raised.builtinClasses_type k w)]
  simp only [List.any_cons, List.any_nil, Bool.or_false, hk, Bool.false_eq_true, if_false]
  rfl

variable {r : Ref} {k t : String} {w : World} {cause context : Option Value} {suppressed : Bool}

theorem Kind.special?_exception (h : w.heap[r]? =
      some (.exception (.type k) [.str t] cause context suppressed #[])) (name : String) :
    Kind.special? (.ref r) name w = .ok none w := by
  have ho : Run.object? r w = .ok w.heap[r]? w := rfl
  rw [h] at ho
  have hk : Kind.of (.ref r) w = .ok (.type k) w := by
    unfold Kind.of
    rw [bind_of_ok ho]
    rfl
  unfold Kind.special?
  dsimp only
  rw [bind_of_ok hk]
  rfl

theorem Show.text_argument (d : Nat) (hk : Raised.showsArgument k = true) (h : w.heap[r]? =
      some (.exception (.type k) [.str t] cause context suppressed #[])) :
    (machine (d + 2)).text (.ref r) w = .ok t w := by
  change Show.plain (machine (d + 1)) (.ref r) w = _
  have ho : Run.object? r w = .ok w.heap[r]? w := rfl
  rw [h] at ho
  unfold Show.plain
  rw [bind_of_ok (Kind.special?_exception h "__str__")]
  dsimp only
  rw [bind_of_ok ho]
  exact Raised.text_argument d hk t w

end Script

namespace Environment

theorem builtinsModule_grows : Grows builtinsModule := by
  unfold builtinsModule
  refine Grows.bind (.of_heap fun w => ⟨w, w, rfl, rfl⟩) fun w => ?_
  split
  · exact .pure _
  · exact (Script.Run.alloc_grows _).bind fun _ => Script.Run.new_grows _

theorem create_grows (bindings : List (String × Value)) : Grows (create bindings) := by
  unfold create
  refine builtinsModule_grows.bind fun v => ?_
  refine Grows.bind (.of_heap fun w => ⟨_, _, rfl, rfl⟩) fun _ => ?_
  refine (Script.Run.alloc_grows _).bind fun space => ?_
  refine Grows.bind (.forIn _ _ fun p _ => ?_) fun _ => .pure _
  exact (Script.Space.set_grows _ _ _).bind fun _ => .pure _

end Environment

/-- Showing a value in a message raises only what cannot be caught. -/
theorem Exception.safeShown_raises {m : Machine} {v e : Value} {w w' : World}
    (h : safeShown m v w = .error (.raised e) w') :
    Script.Kind.isA e "Exception" w' = .ok false w' := by
  obtain h | ⟨r, w₁, -, h⟩ := bind_eq_error.mp h
  · exact (Script.Iteration.catching_raises h).2
  · cases r with
    | some t => cases h
    | none =>
      obtain h | ⟨_, w₂, -, h⟩ := bind_eq_error.mp h
      · exact absurd h ((Script.Kind.plainName_reads v).quiet _ _ _)
      · cases h

/-- The exception that a refused edit is can be described. -/
theorem Exception.describe_valueError {r : Ref} {t : String} {w : World} (d : Nat)
    (h : w.heap[r]? = some (.exception (.type "ValueError") [.str t] none none false #[])) :
    ∃ detail, describe (Script.machine (d + 2)) (.ref r) w = .ok detail w := by
  unfold describe
  rw [bind_of_ok (Script.Show.text_argument d (by decide +kernel) h)]
  obtain ⟨name, hn⟩ := Script.Kind.plainName_reads (.ref r) w
  exact ⟨_, bind_of_ok hn⟩

namespace DocumentRun

/-- The namespace of a run can be made always. -/
theorem namespaceFor_grows (root : NodeId) (metadata : Value) (options : RunOptions) :
    Grows (namespaceFor root metadata options) := by
  unfold namespaceFor ownBindings homeOf
  refine Grows.bind (Grows.bind (Script.Run.forest_reads.grows.bind fun f => ?_) fun _ => .pure _)
    fun _ => Environment.create_grows _
  split
  · exact .pure _
  · exact Script.Element.newNode_grows _

end DocumentRun

end LiveMarkdown
