import LiveMarkdown.Proofs.Modules
import LiveMarkdown.Proofs.Shapes

/-!
The children of an element before any of them is moved. Lists that are nested in each other come to the
same as their leaves in a row. To turn leaves into nodes does no more than to add to the world, whether
it ends well or not, so a tree is as it was when a leaf is refused.
-/

namespace LiveMarkdown

open Document (NodeId Forest)
open Script (Machine Run Stop Value World Ref Object Retains)

/-! ### Worlds with more in them -/

/-- All is as it was in a world, but for what is new, and the contexts of exceptions. -/
structure Extends (w w' : World) : Prop where
  retains : Retains w w'
  grows : ∃ new, w'.forest = w.forest.grow new
  wellFormed : w.forest.WellFormed → w'.forest.WellFormed

section Extends

variable {w w₁ w₂ : World} {k : NodeId}

namespace Extends

theorem refl (w : World) : Extends w w := ⟨.refl w, ⟨#[], by rw [Forest.grow_empty]⟩, id⟩

theorem trans (h : Extends w w₁) (h' : Extends w₁ w₂) : Extends w w₂ := by
  obtain ⟨new, hn⟩ := h.grows
  obtain ⟨more, hm⟩ := h'.grows
  refine ⟨h.retains.trans h'.retains, ⟨new ++ more, ?_⟩, fun hf => h'.wellFormed (h.wellFormed hf)⟩
  rw [hm, hn, Forest.grow_grow]

theorem alloc (x : Document.Content) (w : World) :
    Extends w { w with forest := w.forest.grow #[⟨x, none, []⟩] } :=
  ⟨⟨fun _ o h => ⟨o, h, rfl⟩, fun _ h => h⟩, ⟨_, rfl⟩, fun hf => hf.alloc x⟩

theorem size_le (h : Extends w w₁) : w.forest.size ≤ w₁.forest.size := by
  obtain ⟨new, hn⟩ := h.grows
  rw [hn, Forest.size_grow]
  exact Nat.le_add_right ..

theorem content? (h : Extends w w₁) (hk : k < w.forest.size) :
    w₁.forest.content? k = w.forest.content? k := by
  obtain ⟨new, hn⟩ := h.grows
  rw [hn, Forest.content?_grow hk]

theorem parent? (h : Extends w w₁) (hk : k < w.forest.size) :
    w₁.forest.parent? k = w.forest.parent? k := by
  obtain ⟨new, hn⟩ := h.grows
  rw [hn, Forest.parent?_grow hk]

theorem children (h : Extends w w₁) (hk : k < w.forest.size) :
    w₁.forest.children k = w.forest.children k := by
  obtain ⟨new, hn⟩ := h.grows
  rw [hn, Forest.children_grow hk]

end Extends

end Extends

/-- A computation does no more than to add to the world, also if it raises something. -/
def Extending {α : Type} (x : Run α) : Prop := ∀ w, Extends w (worldAfter (x w))

section Extending

variable {α β : Type} {x y : Run α} {f : α → Run β} {w : World}

theorem Extends.bind (hx : Extends w (worldAfter (x w)))
    (hf : ∀ a u, x w = .ok a u → Extends u (worldAfter (f a u))) :
    Extends w (worldAfter ((x >>= f) w)) := by
  rw [bind_apply]
  cases h : x w with
  | error e u => rwa [h] at hx
  | ok a u =>
    rw [h] at hx
    exact hx.trans (hf a u h)

theorem Extending.bind (hx : Extending x) (hf : ∀ a, Extending (f a)) : Extending (x >>= f) :=
  fun w => (hx w).bind fun a u _ => hf a u

theorem Extending.pure (a : α) : Extending (pure a) := fun w => .refl w

theorem Extending.ite {c : Prop} [Decidable c] (hx : Extending x) (hy : Extending y) :
    Extending (if c then x else y) := by
  by_cases hc : c
  · rwa [if_pos hc]
  · rwa [if_neg hc]

/-- What only adds nodes and retains all objects does no more than to add. -/
theorem Extending.of (hx : Grows x) (hr : Retaining x) : Extending x := by
  intro w
  have hret := hr w
  obtain ⟨a, u, new, ha, hn, hw⟩ := hx w
  rw [ha] at hret ⊢
  exact ⟨hret, ⟨new, hn⟩, hw⟩

end Extending

namespace Script

theorem Run.throwValue_extending {α : Type} (e : Value) : Extending (throwValue e : Run α) := by
  have hget : Extending (get : Run World) := fun w => .refl w
  have ht : Extending (throw (.raised e) : Run α) := fun w => .refl w
  have hu (r : Ref) (fuel : Nat) (h : Ref) : Extending (unlinkContext r fuel h) :=
    .of (unlinkContext_grows r fuel h) (unlinkContext_retaining r fuel h)
  have hs (r : Ref) (c : Option Ref) : Extending (setContext r c) :=
    .of (setContext_grows r c) (setContext_retaining r c)
  unfold throwValue
  refine hget.bind fun w => ?_
  split
  · refine .ite ?_ ht
    exact hget.bind fun w => (hu _ _ _).bind fun _ => (hs _ _).bind fun _ => ht
  · exact ht

theorem Run.raise_extending {α : Type} (cls message : String) :
    Extending (raise cls message : Run α) :=
  (Extending.of (new_grows _) (new_retaining _)).bind fun _ => throwValue_extending _

theorem Show.text_int (d : Nat) (n : Int) : (machine (d + 2)).text (.int n) = Show.int n := by
  change Show.plain (machine (d + 1)) (.int n) = _
  unfold Show.plain
  simp only [Kind.special?, pure_bind]
  change Show.full (machine d) (.int n) = _
  unfold Show.full
  simp only [Kind.special?, pure_bind]

theorem Show.int_extending (n : Int) : Extending (Show.int n) := by
  unfold Show.int
  refine .ite (.pure _) ?_
  dsimp only
  exact .ite ((Run.raise_extending _ _).bind fun _ => .pure _) (.pure _)

end Script

namespace Script.Element

variable {m : Machine} {v part : Value} {vs ls items : List Value} {w w' u : World} {d : Nat}

/-! ### Groups and leaves -/

/-- A list or a tuple, or an instance of a class of the program that is one, with its items. -/
def Grouped (v : Value) (items : List Value) (w : World) : Prop :=
  Kind.core v w = .ok (.tuple items) w ∨
    ∃ r, Kind.core v w = .ok (.ref r) w ∧ w.heap[r]? = some (.list items.toArray)

/-- A value that is neither a list nor a tuple. What it refers to is there. -/
def IsLeaf (v : Value) (w : World) : Prop :=
  ∃ part, Kind.core v w = .ok part w ∧ (∀ items, part ≠ .tuple items) ∧
    ∀ r, part = .ref r → ∃ o, w.heap[r]? = some o ∧ ∀ items, o ≠ .list items

/-- A text or a real number, also a truth value, or an instance of a class of the program that is one. -/
def Written (v : Value) (w : World) : Prop :=
  Result.IsText v w ∨ Result.IsReal v w ∨ ∃ b, Kind.core v w = .ok (.bool b) w

/-- What may stand among children: nothing, a node or an instance of a class of the program that is one,
a text or a number. -/
def Accepted (v : Value) (w : World) : Prop :=
  v = .none ∨ (∃ n, Kind.core v w = .ok (.node n) w) ∨ Written v w

/-- The leaves of lists that are nested in each other up to a depth, from left to right. -/
inductive Flattens (w : World) : Nat → List Value → List Value → Prop where
  | nil (d : Nat) : Flattens w d [] []
  | leaf {d : Nat} {v : Value} {vs ls : List Value} (hv : IsLeaf v w) (ht : Flattens w d vs ls) :
      Flattens w d (v :: vs) (v :: ls)
  | group {d : Nat} {v : Value} {items vs ls ms : List Value} (hv : Grouped v items w)
      (hi : Flattens w d items ls) (ht : Flattens w (d + 1) vs ms) :
      Flattens w (d + 1) (v :: vs) (ls ++ ms)

theorem core_of_ne_ref (h : ∀ r, v ≠ .ref r) (w : World) : Kind.core v w = .ok v w := by
  cases v with
  | ref r => exact absurd rfl (h r)
  | _ => rfl

/-- The built-in value of the object that a reference leads to, or the reference itself. -/
def coreOf (r : Ref) : Object → Value
  | .instance _ _ (some c) => c
  | _ => .ref r

theorem coreOf_withoutContext (r : Ref) (o : Object) : coreOf r o.withoutContext = coreOf r o := by
  unfold Object.withoutContext
  split <;> rfl

theorem core_ref {r : Ref} {o : Object} (h : w.heap[r]? = some o) :
    Kind.core (.ref r) w = .ok (coreOf r o) w := by
  unfold Kind.core
  rw [bind_of_ok (Run.deref_of h)]
  cases o with
  | «instance» cls space c => cases c <;> rfl
  | _ => rfl

/-- The built-in value of an instance is there as long as the instance is. -/
theorem core_retained (hp : Kind.core v w = .ok part w)
    (hr : ∀ r, part = .ref r → ∃ o, w.heap[r]? = some o) (h : Retains w w') :
    Kind.core v w' = .ok part w' := by
  by_cases hv : ∃ r, v = .ref r
  · obtain ⟨r, rfl⟩ := hv
    obtain ⟨o, ho⟩ : ∃ o, w.heap[r]? = some o := by
      cases ho : w.heap[r]? with
      | some o => exact ⟨o, rfl⟩
      | none =>
        have hd : Run.deref (.ref r) w = .ok none w := by
          rw [← ho]
          rfl
        have hc : Kind.core (.ref r) w = .ok (.ref r) w := (bind_of_ok hd).trans rfl
        cases hp.symm.trans hc
        rw [← ho]
        exact hr r rfl
    obtain ⟨o', ho', he⟩ := h.heap r o ho
    have hc : coreOf r o' = coreOf r o := by
      rw [← coreOf_withoutContext, he, coreOf_withoutContext]
    cases hp.symm.trans (core_ref ho)
    rw [core_ref ho', hc]
  · have hv : ∀ r, v ≠ .ref r := fun r h => hv ⟨r, h⟩
    cases hp.symm.trans (core_of_ne_ref hv w)
    exact core_of_ne_ref hv w'

theorem Grouped.retained (hv : Grouped v items w) (h : Retains w w') : Grouped v items w' := by
  obtain hp | ⟨r, hp, ho⟩ := hv
  · exact .inl (core_retained hp nofun h)
  · refine .inr ⟨r, core_retained hp (fun q hq => ?_) h, h.same ho rfl⟩
    cases hq
    exact ⟨_, ho⟩

theorem IsLeaf.retained (hv : IsLeaf v w) (h : Retains w w') : IsLeaf v w' := by
  obtain ⟨part, hp, ht, hr⟩ := hv
  refine ⟨part, core_retained hp (fun r he => ?_) h, ht, fun r he => ?_⟩
  · obtain ⟨o, ho, -⟩ := hr r he
    exact ⟨o, ho⟩
  · obtain ⟨o, ho, hl⟩ := hr r he
    obtain ⟨o', ho', hs⟩ := h.heap r o ho
    refine ⟨o', ho', fun items hi => ?_⟩
    -- a list has no context, so it would have been one before
    rw [hi] at hs
    have he : o.isException = false := by
      rw [← o.isException_withoutContext, ← hs]
      rfl
    rw [Object.withoutContext_of he] at hs
    exact hl items hs.symm

theorem Written.scalar (hv : Written v w) : ∃ part, Kind.core v w = .ok part w ∧
    ((∃ t, part = .str t) ∨ (∃ b, part = .bool b) ∨ (∃ n, part = .int n) ∨ (∃ x, part = .float x) ∨
      ∃ a b, part = .fraction a b) := by
  obtain ⟨t, h⟩ | (⟨n, h⟩ | ⟨x, h⟩ | ⟨a, b, h⟩) | ⟨b, h⟩ := hv
  · exact ⟨_, h, .inl ⟨t, rfl⟩⟩
  · exact ⟨_, h, .inr (.inr (.inl ⟨n, rfl⟩))⟩
  · exact ⟨_, h, .inr (.inr (.inr (.inl ⟨x, rfl⟩)))⟩
  · exact ⟨_, h, .inr (.inr (.inr (.inr ⟨a, b, rfl⟩)))⟩
  · exact ⟨_, h, .inr (.inl ⟨b, rfl⟩)⟩

/-- A text or a number is no node. -/
theorem Written.not_node {n : NodeId} (hv : Written v w) : Kind.core v w ≠ .ok (.node n) w := by
  obtain ⟨part, hp, hs⟩ := hv.scalar
  rw [hp]
  rintro ⟨⟩
  simp at hs

theorem Written.isLeaf (hv : Written v w) : IsLeaf v w := by
  obtain ⟨part, hp, hs⟩ := hv.scalar
  refine ⟨part, hp, ?_⟩
  obtain ⟨t, rfl⟩ | ⟨b, rfl⟩ | ⟨n, rfl⟩ | ⟨x, rfl⟩ | ⟨a, b, rfl⟩ := hs <;> exact ⟨nofun, nofun⟩

theorem Accepted.isLeaf (hv : Accepted v w) : IsLeaf v w := by
  obtain rfl | ⟨n, hn⟩ | hv := hv
  · exact ⟨.none, rfl, nofun, nofun⟩
  · exact ⟨.node n, hn, nofun, nofun⟩
  · exact hv.isLeaf

/-- What is built in of a leaf does not change. -/
theorem IsLeaf.core (hv : IsLeaf v w) (h : Retains w w') :
    ∃ part, Kind.core v w = .ok part w ∧ Kind.core v w' = .ok part w' := by
  obtain ⟨part, hp, -, hr⟩ := hv
  exact ⟨part, hp, core_retained hp (fun r he => (hr r he).imp fun _ ho => ho.1) h⟩

theorem IsLeaf.written_iff (hv : IsLeaf v w) (h : Retains w w') : Written v w' ↔ Written v w := by
  obtain ⟨part, hp, hp'⟩ := hv.core h
  simp only [Written, Result.IsText, Result.IsReal, hp, hp', EStateM.Result.ok.injEq, and_true]

theorem IsLeaf.node_iff {n : NodeId} (hv : IsLeaf v w) (h : Retains w w') :
    Kind.core v w' = .ok (.node n) w' ↔ Kind.core v w = .ok (.node n) w := by
  obtain ⟨part, hp, hp'⟩ := hv.core h
  simp only [hp, hp', EStateM.Result.ok.injEq, and_true]

theorem IsLeaf.accepted_iff (hv : IsLeaf v w) (h : Retains w w') :
    Accepted v w' ↔ Accepted v w := by
  unfold Accepted
  rw [hv.written_iff h, exists_congr fun n => hv.node_iff h]

theorem Flattens.isLeaf (h : Flattens w d vs ls) : ∀ v ∈ ls, IsLeaf v w := by
  induction h with
  | nil => simp
  | leaf hv _ ih => exact List.forall_mem_cons.mpr ⟨hv, ih⟩
  | group _ _ _ ihi iht => exact List.forall_mem_append.mpr ⟨ihi, iht⟩

/-- Leaves in a row come to themselves. -/
theorem Flattens.row (h : ∀ v ∈ ls, IsLeaf v w) (d : Nat) : Flattens w d ls ls := by
  induction ls with
  | nil => exact .nil d
  | cons v ls ih =>
    obtain ⟨hv, h⟩ := List.forall_mem_cons.mp h
    exact .leaf hv (ih h)

/-! ### What becomes of a leaf -/

/-- To write a value does no more than to add to the world, from now on. -/
def Tame (m : Machine) (w : World) (v : Value) : Prop :=
  ∀ u, Extends w u → Extends u (worldAfter (m.text v u))

/-- Texts and numbers that are no instances of classes of the program are written without more. -/
theorem Written.extending (hv : Written v w) (hr : ∀ r, v ≠ .ref r) :
    Extending ((machine (d + 2)).text v) := by
  intro u
  obtain ⟨part, hp, hs⟩ := hv.scalar
  cases hp.symm.trans (core_of_ne_ref hr w)
  obtain ⟨t, rfl⟩ | ⟨b, rfl⟩ | ⟨n, rfl⟩ | ⟨x, rfl⟩ | ⟨a, b, rfl⟩ := hs
  · exact .refl u
  · exact .refl u
  · rw [Show.text_int]
    exact Show.int_extending n u
  · exact .refl u
  · refine (Show.int_extending a).bind (fun s => .ite (.pure _) ?_) u
    exact (Show.int_extending b).bind fun _ => .pure _

theorem newText_extending (s : String) : Extending (newText s) := by
  intro w
  unfold newText
  rw [newNode_apply]
  exact .alloc _ w

theorem listItems?_grouped (hv : Grouped v items w) : listItems? v w = .ok (some items) w := by
  unfold listItems?
  obtain hp | ⟨r, hp, ho⟩ := hv
  · exact (bind_of_ok hp).trans rfl
  · exact (bind_of_ok hp).trans ((bind_of_ok (Run.object?_of ho)).trans rfl)

theorem listItems?_leaf (hv : IsLeaf v w) : listItems? v w = .ok none w := by
  obtain ⟨part, hp, ht, hr⟩ := hv
  unfold listItems?
  rw [bind_of_ok hp]
  cases part with
  | tuple vs => exact absurd rfl (ht vs)
  | ref r =>
    obtain ⟨o, ho, hl⟩ := hr r rfl
    refine (bind_of_ok (Run.object?_of ho)).trans ?_
    cases o with
    | list items => exact absurd rfl (hl items)
    | _ => rfl
  | _ => rfl

/-- The nodes of values in a row. -/
def convert (m : Machine) (depth : Nat) (vs : List Value) : Run (List NodeId) := do
  return (← vs.mapM (leaves m depth)).flatten

theorem flatten_eq (m : Machine) (vs : List Value) : flatten m vs = convert m depthLimit vs := rfl

theorem convert_cons : convert m d (v :: vs) = (do
    let ns ← leaves m d v
    let ms ← convert m d vs
    return ns ++ ms) := by
  simp [convert, List.mapM_cons]

theorem convert_append : convert m d (vs ++ ls) = (do
    let ns ← convert m d vs
    let ms ← convert m d ls
    return ns ++ ms) := by
  simp [convert, List.mapM_append]

theorem leaves_grouped (hv : Grouped v items w) : leaves m (d + 1) v w = convert m d items w := by
  have hl := listItems?_grouped hv
  cases v with
  | none | node _ => obtain h | ⟨r, h, -⟩ := hv <;> cases h
  | _ => exact (bind_of_ok hl).trans rfl

theorem leaves_written (hv : Written v w) : leaves m (d + 1) v w =
    (m.text v >>= fun s => newText s >>= fun n => pure [n]) w := by
  obtain ⟨part, hp, hs⟩ := hv.scalar
  have hl := listItems?_leaf hv.isLeaf
  cases v with
  | none | node _ =>
    cases hp
    simp at hs
  | _ =>
    refine (bind_of_ok hl).trans ((bind_of_ok hp).trans ?_)
    obtain ⟨t, rfl⟩ | ⟨b, rfl⟩ | ⟨n, rfl⟩ | ⟨x, rfl⟩ | ⟨a, b, rfl⟩ := hs <;> rfl

theorem leaves_node {n : NodeId} (hn : Kind.core v w = .ok (.node n) w) :
    leaves m (d + 1) v w = .ok [n] w := by
  have hl := listItems?_leaf (Accepted.isLeaf (.inr (.inl ⟨n, hn⟩)))
  cases v with
  | none => cases hn
  | node k =>
    cases hn
    rfl
  | _ => exact (bind_of_ok hl).trans (bind_of_ok hn)

/-- What the error says that refuses a leaf. -/
def refusal (kind : String) : String := s!"Cannot convert {kind} into a document node."

theorem leaves_refused {kind : String} (hv : IsLeaf v w) (ha : ¬ Accepted v w)
    (hk : Kind.plainName v w = .ok kind w) :
    leaves m (d + 1) v w = (Run.typeError (refusal kind) : Run (List NodeId)) w := by
  have hl := listItems?_leaf hv
  obtain ⟨part, hp, -⟩ := hv
  have hs : ¬ Written v w := fun h => ha (.inr (.inr h))
  cases v with
  | none => exact absurd (.inl rfl) ha
  | node n => exact absurd (.inr (.inl ⟨n, rfl⟩)) ha
  | _ =>
    refine (bind_of_ok hl).trans ((bind_of_ok hp).trans ?_)
    cases part with
    | node n => exact absurd (.inr (.inl ⟨n, hp⟩)) ha
    | str t => exact absurd (.inl ⟨t, hp⟩) hs
    | bool b => exact absurd (.inr (.inr ⟨b, hp⟩)) hs
    | int n => exact absurd (.inr (.inl (.inl ⟨n, hp⟩))) hs
    | float x => exact absurd (.inr (.inl (.inr (.inl ⟨x, hp⟩)))) hs
    | fraction a b => exact absurd (.inr (.inl (.inr (.inr ⟨a, b, hp⟩)))) hs
    | _ => exact (bind_of_ok hk).trans rfl

theorem accepted_of_leaves {ns : List NodeId} (hv : IsLeaf v w)
    (h : leaves m (d + 1) v w = .ok ns w') : Accepted v w := by
  by_contra ha
  obtain ⟨kind, hk⟩ := Kind.plainName_reads v w
  obtain ⟨u, -, he, -⟩ := Run.raise_apply "TypeError" (refusal kind) w
  have hr := (leaves_refused hv ha hk).symm.trans h
  rw [Run.typeError, he] at hr
  cases hr

/-- A leaf needs no depth. -/
theorem leaves_leaf (hv : IsLeaf v w) (d : Nat) : leaves m (d + 1) v w = leaves m 1 v w := by
  by_cases ha : Accepted v w
  · obtain rfl | ⟨n, hn⟩ | hv := ha
    · rfl
    · rw [leaves_node hn, leaves_node hn]
    · rw [leaves_written hv, leaves_written hv]
  · obtain ⟨kind, hk⟩ := Kind.plainName_reads v w
    rw [leaves_refused hv ha hk, leaves_refused hv ha hk]

theorem leaves_extends (hv : IsLeaf v u) (ht : Written v u → Extends u (worldAfter (m.text v u))) :
    Extends u (worldAfter (leaves m (d + 1) v u)) := by
  by_cases ha : Accepted v u
  · obtain rfl | ⟨n, hn⟩ | hw := ha
    · exact .refl u
    · rw [leaves_node hn]
      exact .refl u
    · rw [leaves_written hw]
      refine (ht hw).bind fun s u' _ => ?_
      exact (newText_extending s).bind (fun _ => .pure _) u'
  · obtain ⟨kind, hk⟩ := Kind.plainName_reads v u
    rw [leaves_refused hv ha hk]
    exact Run.raise_extending _ _ u

/-! ### Leaves in a row -/

/-- The texts of leaves can be asked for without harm, up to the first leaf that is refused. -/
def Careful (m : Machine) (w : World) : List Value → Prop
  | [] => True
  | v :: ls => (Written v w → Tame m w v) ∧ (Accepted v w → Careful m w ls)

theorem careful_of_forall (h : ∀ v ∈ ls, Written v w → Tame m w v) : Careful m w ls := by
  induction ls with
  | nil => trivial
  | cons v ls ih =>
    obtain ⟨hv, hl⟩ := List.forall_mem_cons.mp h
    exact ⟨hv, fun _ => ih hl⟩

/-- What comes behind a leaf that is refused does not matter. -/
theorem careful_of_refused {bad : Value} (hb : ¬ Accepted bad w)
    (h : ∀ v ∈ vs, Written v w → Tame m w v) : Careful m w (vs ++ bad :: ls) := by
  induction vs with
  | nil => exact ⟨fun hw => absurd (.inr (.inr hw)) hb, fun ha => absurd ha hb⟩
  | cons v vs ih =>
    obtain ⟨hv, hl⟩ := List.forall_mem_cons.mp h
    exact ⟨hv, fun _ => ih hl⟩

theorem Careful.left (h : Careful m w (ls ++ vs)) : Careful m w ls := by
  induction ls with
  | nil => trivial
  | cons v ls ih => exact ⟨h.1, fun ha => ih (h.2 ha)⟩

theorem Careful.right (h : Careful m w (ls ++ vs)) (ha : ∀ v ∈ ls, Accepted v w) :
    Careful m w vs := by
  induction ls with
  | nil => exact h
  | cons v ls ih =>
    obtain ⟨hv, hl⟩ := List.forall_mem_cons.mp ha
    exact ih (h.2 hv) hl

theorem worldAfter_ok {α : Type} {x : Run α} {a : α} (h : x u = .ok a w')
    (hx : Extends u (worldAfter (x u))) : Extends u w' := by
  rwa [h] at hx

theorem leaf_extends (hv : IsLeaf v w) (hc : Careful m w (v :: ls)) (hu : Extends w u) :
    Extends u (worldAfter (leaves m 1 v u)) :=
  leaves_extends (hv.retained hu.retains) fun hw =>
    hc.1 ((hv.written_iff hu.retains).mp hw) u hu

/-- Of leaves that were read all are accepted. -/
theorem convert_extends (hl : ∀ v ∈ ls, IsLeaf v w) (hc : Careful m w ls) (hu : Extends w u) :
    Extends u (worldAfter (convert m 1 ls u)) ∧
      ∀ ns u', convert m 1 ls u = .ok ns u' → ∀ v ∈ ls, Accepted v w := by
  induction ls generalizing u with
  | nil => exact ⟨.refl u, by simp⟩
  | cons v ls ih =>
    obtain ⟨hv, hl⟩ := List.forall_mem_cons.mp hl
    have hx := leaf_extends hv hc hu
    -- the rest is read only if the leaf is accepted
    have hrest (ns : List NodeId) (u₁ : World) (h : leaves m 1 v u = .ok ns u₁) :
        Accepted v w ∧ Extends u₁ (worldAfter (convert m 1 ls u₁)) ∧
          ∀ ns u', convert m 1 ls u₁ = .ok ns u' → ∀ v ∈ ls, Accepted v w := by
      have ha := (hv.accepted_iff hu.retains).mp
        (accepted_of_leaves (hv.retained hu.retains) h)
      exact ⟨ha, ih hl (hc.2 ha) (hu.trans (worldAfter_ok h hx))⟩
    rw [convert_cons]
    refine ⟨hx.bind fun ns u₁ h => (hrest ns u₁ h).2.1.bind fun _ u' _ => .refl u', ?_⟩
    intro ns u' h
    obtain ⟨ns, u₁, h₁, h⟩ := bind_eq_ok.mp h
    obtain ⟨ms, u₂, h₂, -⟩ := bind_eq_ok.mp h
    obtain ⟨ha, -, hms⟩ := hrest ns u₁ h₁
    exact List.forall_mem_cons.mpr ⟨ha, hms ms u₂ h₂⟩

/-- Lists that are nested in each other come to the same as their leaves in a row, unless they are
nested too deep. -/
theorem convert_flattens (h : Flattens w d vs ls) (hc : Careful m w ls) (hu : Extends w u) (i : Nat) :
    convert m i vs u = convert m 1 ls u ∨
      i ≤ d ∧ ∃ u', convert m i vs u = .error .exhausted u' ∧ Extends u u' := by
  induction h generalizing u i with
  | nil => exact .inl rfl
  | @leaf d v vs ls hv ht ih =>
    cases i with
    | zero => exact .inr ⟨Nat.zero_le d, u, rfl, .refl u⟩
    | succ i =>
      have hi := leaves_leaf (m := m) (hv.retained hu.retains) i
      have hx := leaf_extends hv hc hu
      rw [convert_cons, convert_cons]
      cases h₁ : leaves m 1 v u with
      | error e u₁ => exact .inl ((bind_of_error (hi.trans h₁)).trans (bind_of_error h₁).symm)
      | ok ns u₁ =>
        have hu₁ := worldAfter_ok h₁ hx
        have ha := (hv.accepted_iff hu.retains).mp
          (accepted_of_leaves (hv.retained hu.retains) h₁)
        rw [bind_of_ok (hi.trans h₁), bind_of_ok h₁]
        obtain h | ⟨hd, u', h, he⟩ := ih (hc.2 ha) (hu.trans hu₁) (i + 1)
        · rw [bind_apply, h, bind_apply]
          exact .inl rfl
        · exact .inr ⟨hd, u', bind_of_error h, hu₁.trans he⟩
  | @group d v items vs ls ms hv hi ht ihi iht =>
    cases i with
    | zero => exact .inr ⟨Nat.zero_le _, u, rfl, .refl u⟩
    | succ i =>
      have hg := leaves_grouped (m := m) (d := i) (hv.retained hu.retains)
      obtain ⟨hx, hacc⟩ := convert_extends hi.isLeaf hc.left hu
      rw [convert_cons, convert_append]
      obtain h | ⟨hd, u', h, he⟩ := ihi hc.left hu i
      · cases h₁ : convert m 1 ls u with
        | error e u₁ =>
          exact .inl ((bind_of_error (hg.trans (h.trans h₁))).trans (bind_of_error h₁).symm)
        | ok ns u₁ =>
          have hu₁ := worldAfter_ok h₁ hx
          rw [bind_of_ok (hg.trans (h.trans h₁)), bind_of_ok h₁]
          obtain h | ⟨hd, u', h, he⟩ := iht (hc.right (hacc ns u₁ h₁)) (hu.trans hu₁) (i + 1)
          · rw [bind_apply, h, bind_apply]
            exact .inl rfl
          · exact .inr ⟨hd, u', bind_of_error h, hu₁.trans he⟩
      · exact .inr ⟨Nat.succ_le_succ hd, u', bind_of_error (hg.trans h), he⟩

/-! ### What comes of leaves in a row -/

/-- What a value is written as, at some time from now on. -/
def Writes (m : Machine) (w : World) (v : Value) (s : String) : Prop :=
  ∃ u u', Extends w u ∧ m.text v u = .ok s u'

/-- The nodes that leaves stand for: none for nothing, a node for itself, and for each text or number a
new node of the forest with the text. The new nodes come one after the other, the first of them not
before a place. -/
inductive Rendered (m : Machine) (w : World) (f : Forest) : NodeId → List Value → List NodeId → Prop where
  | nil (k : NodeId) : Rendered m w f k [] []
  | nothing {k : NodeId} {ls : List Value} {ns : List NodeId} (ht : Rendered m w f k ls ns) :
      Rendered m w f k (.none :: ls) ns
  | node {k n : NodeId} {v : Value} {ls : List Value} {ns : List NodeId}
      (hv : Kind.core v w = .ok (.node n) w) (ht : Rendered m w f k ls ns) :
      Rendered m w f k (v :: ls) (n :: ns)
  | text {k c : NodeId} {v : Value} {s : String} {ls : List Value} {ns : List NodeId}
      (hv : Written v w) (hs : Writes m w v s) (hk : k ≤ c) (hc : f.content? c = some (.text .plain s))
      (ht : Rendered m w f (c + 1) ls ns) : Rendered m w f k (v :: ls) (c :: ns)

/-- How leaves in a row cannot be read: at the text of one of them. -/
def Unwritten (m : Machine) (w : World) (ls : List Value) (e : Stop) (w' : World) : Prop :=
  ∃ v ∈ ls, Written v w ∧ ∃ u, Extends w u ∧ m.text v u = .error e w'

theorem convert_accepted (ha : ∀ v ∈ ls, Accepted v w) (hc : Careful m w ls) (hu : Extends w u) :
    (∃ ns u', convert m 1 ls u = .ok ns u' ∧ Rendered m w u'.forest u.forest.size ls ns) ∨
      ∃ e u', convert m 1 ls u = .error e u' ∧ Unwritten m w ls e u' := by
  induction ls generalizing u with
  | nil => exact .inl ⟨[], u, rfl, .nil _⟩
  | cons v ls ih =>
    obtain ⟨hv, hl⟩ := List.forall_mem_cons.mp ha
    have hx := leaf_extends hv.isLeaf hc hu
    have hunwritten (e : Stop) (u' : World) (h : Unwritten m w ls e u') :
        Unwritten m w (v :: ls) e u' := by
      obtain ⟨b, hb, hr⟩ := h
      exact ⟨b, List.mem_cons_of_mem v hb, hr⟩
    rw [convert_cons]
    obtain rfl | ⟨n, hn⟩ | hw := hv
    · obtain ⟨ns, u', h, hr⟩ | ⟨e, u', h, hr⟩ := ih hl (hc.2 (.inl rfl)) hu
      · exact .inl ⟨ns, u', (bind_of_ok rfl).trans (bind_of_ok h), .nothing hr⟩
      · exact .inr ⟨e, u', (bind_of_ok rfl).trans (bind_of_error h), hunwritten e u' hr⟩
    · have ha : Accepted v w := .inr (.inl ⟨n, hn⟩)
      have hread : leaves m 1 v u = .ok [n] u := leaves_node ((ha.isLeaf.node_iff hu.retains).mpr hn)
      obtain ⟨ns, u', h, hr⟩ | ⟨e, u', h, hr⟩ := ih hl (hc.2 ha) hu
      · exact .inl ⟨n :: ns, u', (bind_of_ok hread).trans (bind_of_ok h), .node hn hr⟩
      · exact .inr ⟨e, u', (bind_of_ok hread).trans (bind_of_error h), hunwritten e u' hr⟩
    · have hw' := (hw.isLeaf.written_iff hu.retains).mpr hw
      have hlv := leaves_written (m := m) (d := 0) hw'
      cases hs : m.text v u with
      | error e u' =>
        refine .inr ⟨e, u', bind_of_error (hlv.trans (bind_of_error hs)), v, List.mem_cons_self, hw, u,
          hu, hs⟩
      | ok s u₁ =>
        have hu₁ := worldAfter_ok hs (hc.1 hw u hu)
        -- the new node comes behind all that were there
        let u₂ : World := { u₁ with forest := u₁.forest.grow #[⟨.text .plain s, none, []⟩] }
        have hn : newText s u₁ = .ok u₁.forest.size u₂ := newNode_apply _ u₁
        have hu₂ : Extends u₁ u₂ := .alloc _ u₁
        have hread : leaves m 1 v u = .ok [u₁.forest.size] u₂ :=
          hlv.trans ((bind_of_ok hs).trans ((bind_of_ok hn).trans rfl))
        have hcl := hc.2 (.inr (.inr hw))
        rw [bind_of_ok hread]
        obtain ⟨ns, u', h, hr⟩ | ⟨e, u', h, hr⟩ := ih hl hcl (hu.trans (hu₁.trans hu₂))
        · have he := worldAfter_ok h (convert_extends (fun v hv => (hl v hv).isLeaf) hcl
            (hu.trans (hu₁.trans hu₂))).1
          have hlt : u₁.forest.size < u₂.forest.size := by simp [u₂]
          refine .inl ⟨u₁.forest.size :: ns, u', bind_of_ok h, .text hw ⟨u, u₁, hu, hs⟩ hu₁.size_le ?_ ?_⟩
          · rw [he.content? hlt]
            exact Forest.content?_alloc _
          · simpa [u₂] using hr
        · exact .inr ⟨e, u', bind_of_error h, hunwritten e u' hr⟩

namespace Rendered

variable {f g : Forest} {k n : NodeId} {ns : List NodeId}

/-- The nodes of leaves are among them, or are new. -/
theorem mem (h : Rendered m w f k ls ns) (hn : n ∈ ns) :
    (∃ v ∈ ls, Kind.core v w = .ok (.node n) w) ∨
      k ≤ n ∧ ∃ s, f.content? n = some (.text .plain s) := by
  have hlater {v : Value} {ls : List Value} (h : ∃ x ∈ ls, Kind.core x w = .ok (.node n) w) :
      ∃ x ∈ v :: ls, Kind.core x w = .ok (.node n) w :=
    h.imp fun _ hx => ⟨List.mem_cons_of_mem v hx.1, hx.2⟩
  induction h with
  | nil => cases hn
  | nothing _ ih => exact (ih hn).imp_left hlater
  | node hv _ ih =>
    obtain rfl | hn := List.mem_cons.mp hn
    · exact .inl ⟨_, List.mem_cons_self, hv⟩
    · exact (ih hn).imp_left hlater
  | text _ _ hk hc _ ih =>
    obtain rfl | hn := List.mem_cons.mp hn
    · exact .inr ⟨hk, _, hc⟩
    · exact (ih hn).imp hlater fun h => ⟨(Nat.le_succ_of_le hk).trans h.1, h.2⟩

/-- Nodes that keep their contents stand for the same leaves. -/
theorem mono (h : Rendered m w f k ls ns)
    (hg : ∀ c x, f.content? c = some x → g.content? c = some x) : Rendered m w g k ls ns := by
  induction h with
  | nil => exact .nil _
  | nothing _ ih => exact .nothing ih
  | node hv _ ih => exact .node hv ih
  | text hv hs hk hc _ ih => exact .text hv hs hk (hg _ _ hc) ih

end Rendered

/-- How leaves in a row end at one that is refused: with an error that names its class, or at the text
of a leaf before. -/
inductive Refused (m : Machine) (w : World) (before : List Value) (bad : Value) : Stop → World → Prop where
  | unfit {u w' : World} {kind : String} {r : Ref} {context : Option Value} (hu : Extends w u)
      (hk : Kind.plainName bad u = .ok kind u)
      (hr : w'.heap[r]? = some
        (.exception (.type "TypeError") [.str (refusal kind)] none context false #[])) :
      Refused m w before bad (.raised (.ref r)) w'
  | unwritten {e : Stop} {w' : World} (h : Unwritten m w before e w') : Refused m w before bad e w'

theorem convert_refused {bad : Value} (ha : ∀ v ∈ vs, Accepted v w) (hc : Careful m w vs)
    (hb : IsLeaf bad w) (hbad : ¬ Accepted bad w) (hu : Extends w u) :
    ∃ e u', convert m 1 (vs ++ bad :: ls) u = .error e u' ∧ Refused m w vs bad e u' := by
  have hx := (convert_extends (fun v hv => (ha v hv).isLeaf) hc hu).1
  rw [convert_append]
  obtain ⟨ns, u₁, h, -⟩ | ⟨e, u', h, hr⟩ := convert_accepted ha hc hu
  · have hu₁ := hu.trans (worldAfter_ok h hx)
    obtain ⟨kind, hk⟩ := Kind.plainName_reads bad u₁
    obtain ⟨u', context, he, hr, -⟩ := Run.raise_apply "TypeError" (refusal kind) u₁
    have hl : leaves m 1 bad u₁ = .error (.raised (.ref u₁.heap.size)) u' := by
      rw [leaves_refused (hb.retained hu₁.retains) (mt (hb.accepted_iff hu₁.retains).mp hbad) hk]
      exact he _
    refine ⟨_, u', ?_, .unfit hu₁ hk hr⟩
    rw [bind_of_ok h, convert_cons]
    exact bind_of_error (bind_of_error hl)
  · exact ⟨e, u', bind_of_error h, .unwritten hr⟩

/-- Leaves of nested lists up to one that is refused: nothing is done but to add to the world. -/
theorem flatten_refused {bad : Value} (h : Flattens w d items (vs ++ bad :: ls))
    (ha : ∀ v ∈ vs, Accepted v w) (hbad : ¬ Accepted bad w)
    (ht : ∀ v ∈ vs, Written v w → Tame m w v) (hu : Extends w u) :
    ∃ e u', flatten m items u = .error e u' ∧ Extends u u' ∧
      (Refused m w vs bad e u' ∨ e = .exhausted ∧ depthLimit ≤ d) := by
  have hc : Careful m w (vs ++ bad :: ls) := careful_of_refused hbad ht
  have hb : IsLeaf bad w := h.isLeaf bad (by simp)
  rw [flatten_eq]
  obtain he | ⟨hd, u', he, hu'⟩ := convert_flattens h hc hu depthLimit
  · have hx := (convert_extends h.isLeaf hc hu).1
    obtain ⟨e, u', h', hr⟩ : ∃ e u', convert m 1 (vs ++ bad :: ls) u = .error e u' ∧
        Refused m w vs bad e u' := convert_refused ha (careful_of_forall ht) hb hbad hu
    rw [h'] at hx
    exact ⟨e, u', he.trans h', hx, .inl hr⟩
  · exact ⟨_, u', he, hu', .inr ⟨rfl, hd⟩⟩

/-- Nested lists whose leaves are accepted: how they are grouped makes no difference. -/
theorem flatten_accepted {ns : List NodeId} (h : Flattens w d items ls)
    (ha : ∀ v ∈ ls, Accepted v w) (ht : ∀ v ∈ ls, Written v w → Tame m w v) (hu : Extends w u)
    (hns : flatten m items u = .ok ns w') :
    Extends u w' ∧ Rendered m w w'.forest u.forest.size ls ns ∧
      ∀ i vs, i < depthLimit → Flattens w i vs ls → flatten m vs u = .ok ns w' := by
  have hc := careful_of_forall ht
  rw [flatten_eq] at hns
  obtain he | ⟨-, u', he, -⟩ := convert_flattens h hc hu depthLimit
  · have hrow := he.symm.trans hns
    refine ⟨worldAfter_ok hrow (convert_extends h.isLeaf hc hu).1, ?_, fun i vs hi hvs => ?_⟩
    · obtain ⟨ns', u', h', hr⟩ | ⟨e, u', h', -⟩ := convert_accepted ha hc hu
      · cases hrow.symm.trans h'
        exact hr
      · cases hrow.symm.trans h'
    · rw [flatten_eq]
      obtain h' | ⟨hd, -⟩ := convert_flattens hvs hc hu depthLimit
      · exact h'.trans hrow
      · omega
  · cases he.symm.trans hns

end Script.Element

end LiveMarkdown
