import LiveMarkdown.Metadata.FrontMatter
import LiveMarkdown.Proofs.Scalars

/-!
What the construction of metadata comes to. It always ends: with a value, with a refusal, or with an
exception that the constructor of a scalar has raised. It adds objects to the world and changes
nothing that was there, and the keys of the dictionaries that it makes are scalars.
-/

namespace LiveMarkdown

namespace Metadata

open Script (Value Run Stop World Machine Ref Object ScalarKeys)

namespace Build

/-! ### Constructions taken apart -/

section Rules

variable {α β : Type} {x : Build α} {f : α → Build β} {b : Building} {w : World}

theorem run_bind : (x >>= f).run.run b w = match x.run.run b w with
    | .ok (.ok a, b') w' => (f a).run.run b' w'
    | .ok (.error e, b') w' => .ok (.error e, b') w'
    | .error e w' => .error e w' := by
  have h : (x >>= f).run.run b w =
      (x.run.run b >>= fun p => (ExceptT.bindCont f p.1).run p.2) w := rfl
  rw [h, bind_apply]
  rcases x.run.run b w with ⟨⟨_ | a, b'⟩, w'⟩ | ⟨e, w'⟩ <;> rfl

theorem run_lift (x : Run α) : (liftM x : Build α).run.run b w = match x w with
    | .ok a w' => .ok (.ok a, b) w'
    | .error e w' => .error e w' := by
  have h : (liftM x : Build α).run.run b w =
      ((x >>= fun a => pure (a, b)) >>= fun p => pure (.ok p.1, p.2)) w := rfl
  rw [h, bind_apply, bind_apply]
  cases x w <;> rfl

variable {I : Building → World → Prop} {C : Value → World → Prop} {P : α → Prop} {Q : β → Prop}

/-- How a construction ends that keeps an invariant and raises nothing without a cause. -/
inductive Ends (I : Building → World → Prop) (C : Value → World → Prop) (P : α → Prop) :
    EStateM.Result Stop World (Except Refusal α × Building) → Prop where
  | made {a : α} {b : Building} {w : World} : I b w → P a → Ends I C P (.ok (.ok a, b) w)
  | refused {r : Refusal} {b : Building} {w : World} : I b w → Ends I C P (.ok (.error r, b) w)
  | raised {e : Value} {w : World} : C e w → Ends I C P (.error (.raised e) w)

/-- From a state with the invariant a construction gives a value of a kind or refuses, and the
invariant holds again, or what it raises has a cause. -/
def Keeps (I : Building → World → Prop) (C : Value → World → Prop) (x : Build α) (P : α → Prop) :
    Prop := ∀ b w, I b w → Ends I C P (x.run.run b w)

theorem Keeps.pure {a : α} (h : P a) : Keeps I C (pure a) P := fun _ _ hi => .made hi h

theorem Keeps.refuse : Keeps I C refuse P := fun _ _ hi => .refused hi

theorem Keeps.bind (hx : Keeps I C x P) (hf : ∀ a, P a → Keeps I C (f a) Q) :
    Keeps I C (x >>= f) Q := by
  intro b w hi
  have h := hx b w hi
  rw [run_bind]
  generalize x.run.run b w = r at h
  cases h with
  | made hi ha => exact hf _ ha _ _ hi
  | refused hi => exact .refused hi
  | raised hc => exact .raised hc

theorem Keeps.mono {R : α → Prop} (hx : Keeps I C x P) (h : ∀ a, P a → R a) :
    Keeps I C x R := by
  intro b w hi
  have he := hx b w hi
  generalize x.run.run b w = r at he
  cases he with
  | made hi ha => exact .made hi (h _ ha)
  | refused hi => exact .refused hi
  | raised hc => exact .raised hc

theorem Keeps.forget (hx : Keeps I C x P) : Keeps I C x fun _ => True := hx.mono fun _ _ => trivial

theorem Keeps.next (hx : Keeps I C x fun _ => True) (hf : ∀ a, Keeps I C (f a) Q) :
    Keeps I C (x >>= f) Q := hx.bind fun a _ => hf a

theorem Keeps.ite {y : Build α} {c : Prop} [Decidable c] (hx : c → Keeps I C x P)
    (hy : ¬ c → Keeps I C y P) : Keeps I C (if c then x else y) P := by
  by_cases hc : c
  · rw [if_pos hc]
    exact hx hc
  · rw [if_neg hc]
    exact hy hc

/-- What is known of a state that a construction looks at. -/
theorem Keeps.get : Keeps I C (get : Build Building) fun b => ∃ w, I b w :=
  fun _ w hi => .made hi ⟨w, hi⟩

theorem Keeps.modify {f : Building → Building} (h : ∀ b w, I b w → I (f b) w) :
    Keeps I C (modify f) fun _ => True := fun b w hi => .made (h b w hi) trivial

theorem Keeps.lift {x : Run α} (h : ∀ b w, I b w → (∃ a w', x w = .ok a w' ∧ I b w' ∧ P a) ∨
    ∃ e w', x w = .error (.raised e) w' ∧ C e w') : Keeps I C (liftM x) P := by
  intro b w hi
  rw [run_lift]
  obtain ⟨a, w', hx, hi, ha⟩ | ⟨e, w', hx, hc⟩ := h b w hi
  · rw [hx]
    exact .made hi ha
  · rw [hx]
    exact .raised hc

/-- A computation over the world that settles, and whose exceptions have a cause. -/
theorem Keeps.settle {x : Run α} (hx : Settles x P)
    (hc : ∀ e w w', x w = .error (.raised e) w' → C e w') : Keeps I C (liftM x) P := by
  refine .lift fun b w hi => ?_
  obtain ⟨a, ha, hp⟩ | ⟨e, w', he⟩ := hx w
  · exact .inl ⟨a, w, ha, hi, hp⟩
  · exact .inr ⟨e, w', he, hc e w w' he⟩

theorem Keeps.mapM {f : β → Build α} (h : ∀ b, Keeps I C (f b) fun _ => True) (bs : List β) :
    Keeps I C (bs.mapM f) fun _ => True := by
  induction bs with
  | nil => exact .pure trivial
  | cons b bs ih =>
    rw [List.mapM_cons]
    exact (h b).next fun _ => ih.next fun _ => .pure trivial

theorem Keeps.forM {f : β → Build PUnit} (bs : List β)
    (h : ∀ b ∈ bs, Keeps I C (f b) fun _ => True) : Keeps I C (bs.forM f) fun _ => True := by
  induction bs with
  | nil => exact .pure trivial
  | cons b bs ih =>
    exact (h b List.mem_cons_self).next fun _ =>
      ih fun c hc => h c (List.mem_cons_of_mem b hc)

theorem Keeps.forIn {γ : Type} {f : β → γ → Build (ForInStep γ)}
    (h : ∀ b c, Keeps I C (f b c) fun _ => True) (bs : List β) (c : γ) :
    Keeps I C (forIn bs c f) fun _ => True := by
  induction bs generalizing c with
  | nil => exact .pure trivial
  | cons b bs ih =>
    rw [List.forIn_cons]
    refine (h b c).next fun r => ?_
    cases r with
    | done c => exact .pure trivial
    | yield c => exact ih c

theorem Keeps.findM? {f : β → Build Bool} (h : ∀ b, Keeps I C (f b) fun _ => True)
    (bs : List β) : Keeps I C (bs.findM? f) fun _ => True := by
  induction bs with
  | nil => exact .pure trivial
  | cons b bs ih =>
    refine (h b).next fun r => ?_
    cases r with
    | true => exact .pure trivial
    | false => exact ih

theorem Keeps.filterM {f : β → Build Bool} (h : ∀ b, Keeps I C (f b) fun _ => True)
    (bs : List β) : Keeps I C (bs.filterM f) fun _ => True := by
  have ha (acc : List β) : Keeps I C (bs.filterAuxM f acc) fun _ => True := by
    induction bs generalizing acc with
    | nil => exact .pure trivial
    | cons b bs ih => exact (h b).next fun r => ih _
  exact (ha []).next fun _ => .pure trivial

theorem Keeps.foldlM {f : α → β → Build α} (h : ∀ a b, P a → Keeps I C (f a b) P)
    (bs : List β) {a : α} (ha : P a) : Keeps I C (bs.foldlM f a) P := by
  induction bs generalizing a with
  | nil => exact .pure ha
  | cons b bs ih =>
    rw [List.foldlM_cons]
    exact (h a b ha).bind fun c hc => ih hc

end Rules

end Build

/-! ### The invariant -/

/-- The node of a number. -/
def Graph.node (g : Graph) (i : Nat) : Node := (g.nodes[i]?).getD ⟨"", .scalar ""⟩

/-- A node as a construction may have left it: a key may have become a text, and the entries of a
mapping may be others. -/
structure Node.Kin (n₀ n : Node) : Prop where
  tag : n.tag = n₀.tag ∨ n₀.tag = coreTag "value" ∧ n.tag = coreTag "str"
  content : n.content = n₀.content ∨
    ∃ es es', n₀.content = .mapping es ∧ n.content = .mapping es'

theorem Node.Kin.refl (n : Node) : n.Kin n := ⟨.inl rfl, .inl rfl⟩

theorem Node.Kin.tag_eq {n₀ n : Node} (h : n₀.Kin n) (hs : n.tag ≠ coreTag "str") :
    n₀.tag = n.tag := (h.tag.resolve_right fun hv => hs hv.2).symm

theorem Node.Kin.retag {n₀ n : Node} (h : n₀.Kin n) (hv : n.tag = coreTag "value") :
    n₀.Kin { n with tag := coreTag "str" } :=
  ⟨.inr ⟨(h.tag_eq (by rw [hv]; decide)).trans hv, rfl⟩, h.content⟩

theorem Node.Kin.refill {n₀ n : Node} {es : List (Nat × Nat)} (h : n₀.Kin n)
    (hc : n.content = .mapping es) (es' : List (Nat × Nat)) :
    n₀.Kin { n with content := .mapping es' } := by
  refine ⟨h.tag, .inr ?_⟩
  obtain hn | ⟨es₀, _, hn, -⟩ := h.content
  · exact ⟨es, es', hn.symm.trans hc, rfl⟩
  · exact ⟨es₀, es', hn, rfl⟩

theorem Node.Kin.scalar {n₀ n : Node} {s : String} (h : n₀.Kin n) (hc : n.content = .scalar s) :
    n₀.content = .scalar s := by
  obtain hn | ⟨_, _, -, hn⟩ := h.content
  · exact hn.symm.trans hc
  · rw [hc] at hn
    cases hn

theorem Node.Kin.mapping {n₀ n : Node} {es : List (Nat × Nat)} (h : n₀.Kin n)
    (hc : n.content = .mapping es) : ∃ es₀, n₀.content = .mapping es₀ := by
  obtain hn | ⟨es₀, _, hn, -⟩ := h.content
  · exact ⟨es, hn.symm.trans hc⟩
  · exact ⟨es₀, hn⟩

/-- A world as it was, but for new objects. -/
structure Grown (w₀ w : World) : Prop where
  size_le : w₀.heap.size ≤ w.heap.size
  heap : ∀ r < w₀.heap.size, w.heap[r]? = w₀.heap[r]?
  rest : { w with heap := w₀.heap } = w₀

theorem Grown.refl (w : World) : Grown w w := ⟨Nat.le_refl _, fun _ _ => rfl, rfl⟩

theorem Grown.trans {w₀ w₁ w₂ : World} (h : Grown w₀ w₁) (k : Grown w₁ w₂) : Grown w₀ w₂ where
  size_le := h.size_le.trans k.size_le
  heap r hr := (k.heap r (lt_of_lt_of_le hr h.size_le)).trans (h.heap r hr)
  rest := by
    rw [← h.rest, ← k.rest]

theorem Grown.alloc (w : World) (o : Object) : Grown w { w with heap := w.heap.push o } where
  size_le := by simp
  heap r hr := by rw [Array.getElem?_push, if_neg (Nat.ne_of_lt hr)]
  rest := rfl

theorem Grown.write {w₀ w : World} {r : Ref} (h : Grown w₀ w) (hr : w₀.heap.size ≤ r)
    (o : Object) : Grown w₀ { w with heap := w.heap.set! r o } where
  size_le := by simpa using h.size_le
  heap i hi := by
    have hn : r ≠ i := (lt_of_lt_of_le hi hr).ne'
    rw [← h.heap i hi]
    simp [hn]
  rest := h.rest

/-- The new dictionaries of a world have scalars for their keys. -/
def NewKeys (w₀ w : World) : Prop :=
  ∀ r es, w₀.heap.size ≤ r → w.heap[r]? = some (.dict es) → ScalarKeys es

theorem NewKeys.refl (w : World) : NewKeys w w := by
  intro r es hr he
  rw [Array.getElem?_eq_none hr] at he
  cases he

/-- A value that was made since: a scalar or a new object. -/
def Made (w₀ : World) (v : Value) : Prop := v.isScalar ∨ ∃ r, v = .ref r ∧ w₀.heap.size ≤ r

/-- The object that is to be filled. -/
def Filling.ref : Filling → Ref
  | .list r | .dict r | .set r | .pairs r => r

/-- What is kept while the values of a graph are made. -/
structure Sound (g : Graph) (w₀ : World) (b : Building) (w : World) : Prop where
  nodes : ∀ i, (g.node i).Kin ((b.nodes[i]?).getD ⟨"", .scalar ""⟩)
  made : ∀ p ∈ b.made, Made w₀ p.2
  waiting : ∀ p ∈ b.waiting, w₀.heap.size ≤ p.1.ref
  grown : Grown w₀ w
  keys : NewKeys w₀ w

theorem Sound.start (g : Graph) (w : World) : Sound g w { nodes := g.nodes } w where
  nodes i := .refl _
  made p hp := by cases hp
  waiting p hp := by cases hp
  grown := .refl w
  keys := .refl w

section Invariant

variable {g : Graph} {w₀ w : World} {b : Building}

theorem Sound.setNode {i : Nat} {n : Node} (h : Sound g w₀ b w) (hn : (g.node i).Kin n) :
    Sound g w₀ { b with nodes := b.nodes.set! i n } w where
  nodes j := by
    have hj := h.nodes j
    rw [Array.set!_eq_setIfInBounds, Array.getElem?_setIfInBounds]
    by_cases hi : i = j
    · subst hi
      rw [if_pos rfl]
      split
      · exact hn
      · rwa [Array.getElem?_eq_none (by omega)] at hj
    · rwa [if_neg hi]
  made := h.made
  waiting := h.waiting
  grown := h.grown
  keys := h.keys

theorem Sound.push {i : Nat} {v : Value} (h : Sound g w₀ b w) (hv : Made w₀ v) :
    Sound g w₀ { b with made := (i, v) :: b.made } w :=
  { h with made := List.forall_mem_cons.mpr ⟨hv, h.made⟩ }

theorem Sound.await {f : Filling} {i : Nat} (h : Sound g w₀ b w) (hf : w₀.heap.size ≤ f.ref) :
    Sound g w₀ { b with waiting := b.waiting ++ [(f, i)] } w :=
  { h with
    waiting := List.forall_mem_append.mpr ⟨h.waiting, List.forall_mem_singleton.mpr hf⟩ }

theorem Sound.settle (h : Sound g w₀ b w) : Sound g w₀ { b with waiting := [] } w :=
  { h with waiting := by simp }

theorem Sound.alloc {o : Object} (h : Sound g w₀ b w) (ho : ∀ es, o = .dict es → ScalarKeys es) :
    Sound g w₀ b { w with heap := w.heap.push o } where
  nodes := h.nodes
  made := h.made
  waiting := h.waiting
  grown := h.grown.trans (.alloc w o)
  keys r es hr he := by
    rw [Array.getElem?_push] at he
    split at he
    · exact ho es (Option.some.inj he)
    · exact h.keys r es hr he

theorem Sound.write {r : Ref} {o : Object} (h : Sound g w₀ b w) (hr : w₀.heap.size ≤ r)
    (ho : ∀ es, o = .dict es → ScalarKeys es) :
    Sound g w₀ b { w with heap := w.heap.set! r o } where
  nodes := h.nodes
  made := h.made
  waiting := h.waiting
  grown := h.grown.write hr o
  keys i es hi he := by
    rw [Array.set!_eq_setIfInBounds, Array.getElem?_setIfInBounds] at he
    split at he
    · split at he
      · exact ho es (Option.some.inj he)
      · cases he
    · exact h.keys i es hi he

end Invariant

/-! ### What a graph asks for -/

/-- A text from which the scalar at a node is made: its own one or, for a mapping, that of a scalar to
which its default values lead. -/
def Graph.Supplies (g : Graph) (i : Nat) (s : String) : Prop :=
  ∃ j, (g.node j).content = .scalar s ∧ (j = i ∨ ∃ es, (g.node i).content = .mapping es)

/-- The tags of scalars. -/
def scalarTags : List String :=
  ["null", "bool", "int", "float", "str", "timestamp", "binary", "value"].map coreTag

/-- What is raised when the default values of mappings lead in a circle. -/
def tooDeep : Run String := Run.raise "RecursionError" "maximum recursion depth exceeded"

/-- What the scalars of a graph ask for that may raise an exception. -/
inductive Graph.Asks (g : Graph) : {α : Type} → Run α → Prop where
  | bool {i : Nat} {s : String} : (g.node i).tag = coreTag "bool" → g.Supplies i s →
      g.Asks (Build.bool s)
  | int {i : Nat} {s : String} : (g.node i).tag = coreTag "int" → g.Supplies i s →
      g.Asks (Build.int s)
  | float {i : Nat} {s : String} : (g.node i).tag = coreTag "float" → g.Supplies i s →
      g.Asks (Build.float s)
  | time {i : Nat} {s : String} : (g.node i).tag = coreTag "timestamp" → g.Supplies i s →
      g.Asks (Build.timeAt (g.node i).content s)
  | defaults {i : Nat} {es : List (Nat × Nat)} : (g.node i).tag ∈ scalarTags →
      (g.node i).content = .mapping es → g.Asks tooDeep

/-- An exception that the constructor of a scalar of a graph raises. -/
def Graph.Fault (g : Graph) (e : Value) (w' : World) : Prop :=
  ∃ (α : Type) (x : Run α) (w : World), g.Asks x ∧ x w = .error (.raised e) w'

namespace Build

variable {g : Graph} {w₀ : World} {d : Nat}

theorem node_keeps (i : Nat) : Keeps (Sound g w₀) g.Fault (node i) (g.node i).Kin :=
  Keeps.get.bind fun _ ⟨_, hb⟩ => .pure (hb.nodes i)

theorem setNode_keeps {i : Nat} {n : Node} (hn : (g.node i).Kin n) :
    Keeps (Sound g w₀) g.Fault (setNode i n) fun _ => True :=
  .modify fun _ _ hb => hb.setNode hn

theorem textOf_keeps (fuel i : Nat) (h : fuel = 0 ∨ (∃ es, (g.node i).content = .mapping es) →
    g.Asks tooDeep) : Keeps (Sound g w₀) g.Fault (textOf fuel i) (g.Supplies i) := by
  induction fuel generalizing i with
  | zero =>
    exact .settle (Script.Run.raise_raises _ _).settles fun e w w' he =>
      ⟨_, tooDeep, w, h (.inl rfl), he⟩
  | succ fuel ih =>
    unfold textOf
    refine (node_keeps i).bind fun n hn => ?_
    split
    · exact .pure ⟨i, hn.scalar ‹_›, .inl rfl⟩
    · exact .refuse
    · have hm := hn.mapping ‹_›
      refine (Keeps.findM? (fun e => (node_keeps _).bind fun _ _ => .pure trivial) _).bind
        fun r _ => ?_
      cases r with
      | none => exact .refuse
      | some e =>
        have ht : Keeps (Sound g w₀) g.Fault (textOf fuel e.2) (g.Supplies e.2) :=
          ih e.2 fun _ => h (.inr hm)
        refine ht.mono ?_
        rintro s ⟨j, hj, -⟩
        exact ⟨j, hj, .inr hm⟩

/-- The text of a scalar whose tag is known. -/
theorem scalarText_keeps {i fuel : Nat} {n : Node} (hn : (g.node i).Kin n)
    (ht : n.tag ∈ scalarTags) :
    Keeps (Sound g w₀) g.Fault (textOf (fuel + 1) i) (g.Supplies i) := by
  refine textOf_keeps _ _ ?_
  rintro (h | ⟨es, hes⟩)
  · cases h
  · refine .defaults ?_ hes
    obtain h | ⟨h, -⟩ := hn.tag
    · rwa [← h]
    · rw [h]
      decide

theorem timeAt_kin {n₀ n : Node} (h : n₀.Kin n) (s : String) :
    timeAt n.content s = timeAt n₀.content s := by
  obtain h | ⟨es, es', h₀, h⟩ := h.content
  · rw [h]
  · rw [h₀, h]
    rfl

theorem later_keeps {i : Nat} {o : Object} {f : Ref → Filling}
    (ho : ∀ es, o = .dict es → ScalarKeys es) (hf : ∀ r, (f r).ref = r) :
    Keeps (Sound g w₀) g.Fault (do
      let r ← Run.alloc o
      modify fun b => { b with waiting := b.waiting ++ [(f r, i)] }
      return .ref r) (Made w₀) := by
  have ha : Keeps (Sound g w₀) g.Fault (liftM (Run.alloc o)) fun r => w₀.heap.size ≤ r :=
    .lift fun _ w hb => .inl ⟨w.heap.size, _, rfl, hb.alloc ho, hb.grown.size_le⟩
  refine ha.bind fun r hr => ?_
  refine (Keeps.modify fun _ _ hb => hb.await ?_).bind fun _ _ => .pure (.inr ⟨r, rfl, hr⟩)
  rwa [hf]

theorem remember_keeps {i : Nat} {x : Build Value} (hx : Keeps (Sound g w₀) g.Fault x (Made w₀)) :
    Keeps (Sound g w₀) g.Fault (do
      let v ← x
      modify fun b => { b with made := (i, v) :: b.made }
      return v) (Made w₀) :=
  hx.bind fun _ hv => (Keeps.modify fun _ _ hb => hb.push hv).bind fun _ _ => .pure hv

theorem asked_keeps {x : Run Value} (hx : Settles x fun v => v.isScalar) (ha : g.Asks x) :
    Keeps (Sound g w₀) g.Fault (liftM x) (Made w₀) :=
  (Keeps.settle hx fun _ w _ he => ⟨_, x, w, ha, he⟩).mono fun _ hv => .inl hv

/-- The value of a node is a scalar or a new object. -/
theorem value_keeps (i : Nat) : Keeps (Sound g w₀) g.Fault (value i) (Made w₀) := by
  unfold value
  refine Keeps.get.bind fun b ⟨w, hb⟩ => ?_
  split
  · rename_i p hp
    exact .pure (hb.made _ (List.mem_of_find?_eq_some hp))
  refine (node_keeps i).bind fun n hn => Keeps.get.bind fun c _ => ?_
  have ht (name : String) (h : n.tag = coreTag name) (hm : coreTag name ∈ scalarTags) :
      Keeps (Sound g w₀) g.Fault (textOf (c.nodes.size + 1) i) (g.Supplies i) :=
    scalarText_keeps hn (by rwa [h])
  have he (name : String) (h : n.tag = coreTag name) (hs : coreTag name ≠ coreTag "str") :
      (g.node i).tag = coreTag name := (hn.tag_eq (by rwa [h])).trans h
  dsimp only
  -- a tag after the other, in the order of the definition
  refine .ite (fun h => ?_) fun _ => .ite (fun h => ?_) fun _ => .ite (fun h => ?_) fun _ =>
    .ite (fun h => ?_) fun _ => .ite (fun h => ?_) fun _ => .ite (fun h => ?_) fun _ =>
    .ite (fun h => ?_) fun _ => .ite (fun _ => ?_) fun _ => .ite (fun _ => ?_) fun _ =>
    .ite (fun _ => ?_) fun _ => .ite (fun _ => ?_) fun _ => ?_
  · have hd : Keeps (Sound g w₀) g.Fault (discard (textOf (c.nodes.size + 1) i)) fun _ => True :=
      (ht _ h (by decide)).bind fun _ _ => .pure trivial
    exact hd.bind fun _ _ => remember_keeps (.pure (.inl rfl))
  · exact (ht _ h (by decide)).bind fun s hs =>
      remember_keeps (asked_keeps (bool_settles s) (.bool (he _ h (by decide)) hs))
  · exact (ht _ h (by decide)).bind fun s hs =>
      remember_keeps (asked_keeps (int_settles s) (.int (he _ h (by decide)) hs))
  · exact (ht _ h (by decide)).bind fun s hs =>
      remember_keeps (asked_keeps (float_settles s) (.float (he _ h (by decide)) hs))
  · exact (ht _ h (by decide)).bind fun s _ => remember_keeps (.pure (.inl rfl))
  · refine (ht _ h (by decide)).bind fun s hs => remember_keeps ?_
    rw [timeAt_kin hn]
    exact asked_keeps (timeAt_settles _ s) (.time (he _ h (by decide)) hs)
  · refine (ht _ h (by decide)).bind fun s _ =>
      .ite (fun _ => .bind .refuse fun _ h => h) fun _ => ?_
    split
    · exact remember_keeps (.pure (.inl rfl))
    · exact remember_keeps .refuse
  · exact remember_keeps (later_keeps (by simp) fun _ => rfl)
  · refine remember_keeps (later_keeps ?_ fun _ => rfl)
    rintro es ⟨⟩
    exact .empty
  · exact remember_keeps (later_keeps (by simp) fun _ => rfl)
  · exact remember_keeps (later_keeps (by simp) fun _ => rfl)
  · exact remember_keeps .refuse

/-! ### Collections -/

theorem entriesOf_keeps (i : Nat) :
    Keeps (Sound g w₀) g.Fault (flatten.entriesOf i) fun _ => True := by
  unfold flatten.entriesOf
  refine (node_keeps i).bind fun n _ => ?_
  split <;> exact .pure trivial

theorem flatten_keeps (fuel i : Nat) :
    Keeps (Sound g w₀) g.Fault (flatten fuel i) fun _ => True := by
  induction fuel generalizing i with
  | zero => exact .refuse
  | succ fuel ih =>
    have hflat (j : Nat) : Keeps (Sound g w₀) g.Fault
        (do flatten fuel j; flatten.entriesOf j) fun _ => True :=
      (ih j).next fun _ => entriesOf_keeps j
    unfold flatten
    refine (node_keeps i).bind fun n hi => ?_
    split
    · rename_i es hes
      refine .next (.filterM (fun e => (node_keeps _).bind fun _ _ => .pure trivial) _)
        fun own => ?_
      refine .next (.filterM (fun e => (node_keeps _).bind fun _ _ => .pure trivial) _)
        fun merging => ?_
      refine (setNode_keeps (hi.refill hes _)).next fun _ => ?_
      -- the keys with default values, then the merged mappings
      refine .next (.forIn (fun e _ => ?_) _ _) fun _ =>
        .next (.mapM (fun e => ?_) _) fun pieces => ?_
      · refine (node_keeps _).bind fun key hk => .ite (fun hv => ?_) fun _ => .pure trivial
        exact (setNode_keeps (hk.retag hv)).next fun _ => .pure trivial
      · refine (node_keeps _).bind fun n _ => ?_
        split
        · exact hflat _
        · refine .next (.mapM (fun j => ?_) _) fun _ => .pure trivial
          refine (node_keeps _).bind fun n _ => ?_
          split
          · exact hflat _
          · exact .refuse
        · exact .refuse
      · refine .ite (fun _ => ?_) fun _ => .pure trivial
        exact (entriesOf_keeps i).next fun _ => setNode_keeps (hi.refill hes _)
    · exact .pure trivial

theorem putKey_keeps {es : Array (Value × Value)} {k : Value} (hs : ScalarKeys es)
    (hk : k.isScalar) (v : Value) : Keeps (Sound g w₀) g.Fault
      (liftM (Script.Comparison.putKey (Script.machine (d + 1)) es k v)) ScalarKeys := by
  refine .lift fun b w hb => .inl ?_
  obtain ⟨es', he, hes⟩ := Script.Comparison.putKey_scalar d hs hk v w
  exact ⟨es', w, he, hb, hes⟩

/-- The entries of a mapping have scalars for their keys. -/
theorem entries_keeps (i : Nat) :
    Keeps (Sound g w₀) g.Fault (entries (Script.machine (d + 1)) i) ScalarKeys := by
  unfold entries
  refine Keeps.get.bind fun _ _ => (flatten_keeps _ i).next fun _ =>
    (node_keeps i).bind fun n _ => ?_
  split
  · refine .foldlM (fun acc e hacc => ?_) _ .empty
    refine (value_keeps _).bind fun key hkey => ?_
    dsimp only
    split
    · exact .bind .refuse fun _ h => h
    · rename_i hr
      have hk : key.isScalar := hkey.resolve_right fun ⟨r, h, _⟩ => hr r h
      exact (value_keeps _).bind fun v _ => putKey_keeps hacc hk v
  · exact .refuse

theorem pair_keeps (j : Nat) : Keeps (Sound g w₀) g.Fault (pair j) fun _ => True := by
  unfold pair
  refine (node_keeps j).bind fun n _ => ?_
  split
  · exact (value_keeps _).bind fun _ _ => (value_keeps _).bind fun _ _ => .pure trivial
  · exact .refuse

theorem write_keeps {r : Ref} {o : Object} (hr : w₀.heap.size ≤ r)
    (ho : ∀ es, o = .dict es → ScalarKeys es) :
    Keeps (Sound g w₀) g.Fault (liftM (Run.write r o)) fun _ => True :=
  .lift fun _ _ hb => .inl ⟨(), _, rfl, hb.write hr ho, trivial⟩

theorem fill_keeps {f : Filling} (hf : w₀.heap.size ≤ f.ref) (i : Nat) :
    Keeps (Sound g w₀) g.Fault (fill (Script.machine (d + 1)) f i) fun _ => True := by
  unfold fill
  refine (node_keeps i).bind fun n _ => ?_
  cases f with
  | list r =>
    dsimp only
    split
    · exact (Keeps.mapM (fun j => (value_keeps j).forget) _).next fun _ =>
        write_keeps hf (by simp)
    · exact .refuse
  | dict r =>
    refine (entries_keeps i).bind fun es hes => write_keeps hf ?_
    rintro _ ⟨⟩
    exact hes
  | set r => exact (entries_keeps i).bind fun _ _ => write_keeps hf (by simp)
  | pairs r =>
    dsimp only
    split
    · exact (Keeps.mapM pair_keeps _).next fun _ => write_keeps hf (by simp)
    · exact .refuse

theorem fillAll_keeps (fuel : Nat) :
    Keeps (Sound g w₀) g.Fault (fillAll (Script.machine (d + 1)) fuel) fun _ => True := by
  induction fuel with
  | zero => exact .pure trivial
  | succ fuel ih =>
    unfold fillAll
    refine Keeps.get.bind fun b ⟨w, hb⟩ => .ite (fun _ => .pure trivial) fun _ => ?_
    refine (Keeps.modify fun _ _ hb => hb.settle).next fun _ => ?_
    exact (Keeps.forM _ fun p hp => fill_keeps (hb.waiting p hp) p.2).next fun _ => ih

end Build

/-! ### Reading a metadata text -/

/-- What makes an exception of a metadata text: the number of a character that there is not, or a
scalar. -/
inductive Faulty (text : String) (e : Value) (w' : World) : Prop where
  | character {code : Nat} {w : World} : Graph.ofText text = .error (.noSuchCharacter code) →
      (noSuchCharacter code : Run (Except Refusal Value)) w = .error (.raised e) w' →
      Faulty text e w'
  | scalar {g : Graph} : Graph.ofText text = .ok g → g.Fault e w' → Faulty text e w'

/-- How the reading of a text ends. -/
def Reading (text : String) (w : World) (x : EStateM.Result Stop World (Except Refusal Value)) :
    Prop :=
  (∃ r w', x = .ok r w' ∧ Grown w w' ∧ NewKeys w w' ∧ ∀ v, r = .ok v → Made w v) ∨
    ∃ e w', x = .error (.raised e) w' ∧ Faulty text e w'

theorem Reading.of_keeps {g : Graph} {text : String} {w : World} {x : Build Value}
    (hx : Build.Keeps (Sound g w) g.Fault x (Made w)) (hg : Graph.ofText text = .ok g) :
    Reading text w ((x.run.run { nodes := g.nodes } >>= fun p => pure p.1) w) := by
  have he := hx _ w (.start g w)
  rw [bind_apply]
  generalize x.run.run { nodes := g.nodes } w = r at he
  cases he with
  | made hs hv =>
    refine .inl ⟨_, _, rfl, hs.grown, hs.keys, ?_⟩
    rintro _ ⟨⟩
    exact hv
  | refused hs => exact .inl ⟨_, _, rfl, hs.grown, hs.keys, by simp⟩
  | raised hf => exact .inr ⟨_, _, rfl, .scalar hg hf⟩

theorem noSuchCharacter_raises {α : Type} (code : Nat) :
    Raises (noSuchCharacter code : Run α) := by
  unfold noSuchCharacter
  split
  · exact Script.Run.raise_raises _ _
  · exact Script.Run.raise_raises _ _

/-- A metadata text is read to a value or refused, or it makes an exception of its own. -/
theorem readValue_ends (d : Nat) (text : String) (w : World) :
    Reading text w (readValue (Script.machine (d + 1)) text w) := by
  unfold readValue
  cases hg : Graph.ofText text with
  | error r =>
    cases r with
    | malformed => exact .inl ⟨_, w, rfl, .refl w, .refl w, by simp⟩
    | noSuchCharacter code =>
      obtain ⟨e, w', he⟩ := noSuchCharacter_raises (α := Except Refusal Value) code w
      exact .inr ⟨e, w', he, .character hg he⟩
  | ok g =>
    dsimp only
    cases g.root with
    | none =>
      refine .inl ⟨_, w, rfl, .refl w, .refl w, ?_⟩
      rintro _ ⟨⟩
      exact .inl rfl
    | some root =>
      have hb : Build.Keeps (Sound g w) g.Fault (do
          let v ← Build.value root
          Build.fillAll (Script.machine (d + 1)) (g.nodes.size + 1)
          return v) (Made w) :=
        (Build.value_keeps root).bind fun v hv =>
          (Build.fillAll_keeps _).next fun _ => .pure hv
      exact .of_keeps hb hg

end Metadata

end LiveMarkdown
