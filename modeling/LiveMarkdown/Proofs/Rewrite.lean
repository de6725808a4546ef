import LiveMarkdown.Fragment.Walk
import LiveMarkdown.Proofs.Edit

/-!
The rewrite of a document that outcomes of its fragments ask for, as a function of the lists of
children: each fragment gives way to the nodes of its outcome. A part of the document in which no
fragment has given way yet looks as it did in the beginning.
-/

namespace LiveMarkdown

open Document (NodeId Forest Content)

namespace Outcome

/-- The nodes that are put into the tree. -/
def inserted : Outcome → List NodeId
  | .substituted ns => ns
  | _ => []

/-- What stands in the place of a fragment afterwards. -/
def replacing (n : NodeId) : Outcome → List NodeId
  | .substituted ns => ns
  | .removed => []
  | .unchanged _ => [n]

end Outcome

/-- What stands in the place of a node once the outcomes are applied. -/
def replacement (rs : List (Fragment × Outcome)) (n : NodeId) : List NodeId :=
  match rs.find? fun r => r.1.node == n with
  | some r => r.2.replacing n
  | none => [n]

/-- The second forest is the first one with all fragments replaced as the outcomes say, and no other
change. -/
structure Rewritten (rs : List (Fragment × Outcome)) (g f : Forest) : Prop where
  wellFormed : f.WellFormed
  size : f.size = g.size
  content : ∀ n, f.content? n = g.content? n
  children : ∀ n, f.children n = (g.children n).flatMap (replacement rs)

/-- A node that the outcomes neither replace nor put into the tree. -/
def Untouched (rs : List (Fragment × Outcome)) (n : NodeId) : Prop :=
  ∀ r ∈ rs, r.1.node ≠ n ∧ n ∉ r.2.inserted

section

variable {rs : List (Fragment × Outcome)} {r : Fragment × Outcome} {f g : Forest}
  {a c n p : NodeId} {new : Array Document.Node} {markers : List String}

theorem replacement_of_not_mem (h : ∀ r ∈ rs, r.1.node ≠ n) : replacement rs n = [n] := by
  have hn : rs.find? (fun r => r.1.node == n) = none := by
    rw [List.find?_eq_none]
    intro r hr
    simpa using h r hr
  unfold replacement
  rw [hn]

theorem flatMap_replacement {l : List NodeId} (h : ∀ c ∈ l, ∀ r ∈ rs, r.1.node ≠ c) :
    l.flatMap (replacement rs) = l := by
  have he : l.flatMap (replacement rs) = l.flatMap fun c => [c] :=
    List.flatMap_congr fun c hc => replacement_of_not_mem (h c hc)
  rw [he, List.flatMap_singleton']

theorem replacement_append (h : ∀ x ∈ rs, x.1.node ≠ r.1.node) :
    replacement (rs ++ [r]) n = if n = r.1.node then r.2.replacing n else replacement rs n := by
  unfold replacement
  rw [List.find?_append]
  by_cases hn : n = r.1.node
  · subst hn
    have hf : rs.find? (fun x => x.1.node == r.1.node) = none := by
      rw [List.find?_eq_none]
      intro x hx
      simpa using h x hx
    simp [hf]
  · rw [if_neg hn, List.find?_singleton]
    have hr : (r.1.node == n) = false := by
      simpa using Ne.symm hn
    rw [hr]
    cases rs.find? (fun x => x.1.node == n) <;> rfl

theorem mem_replacement (h : Untouched rs n) : n ∈ replacement rs c ↔ n = c := by
  constructor
  · intro hn
    unfold replacement at hn
    split at hn
    · rename_i r hr
      have hm := List.mem_of_find?_eq_some hr
      unfold Outcome.replacing at hn
      split at hn
      · rename_i ns ho
        refine absurd ?_ (h r hm).2
        rw [ho]
        exact hn
      · cases hn
      · simpa using hn
    · simpa using hn
  · rintro rfl
    rw [replacement_of_not_mem fun r hr => (h r hr).1]
    simp

namespace Rewritten

theorem refl (hf : f.WellFormed) : Rewritten [] f f := by
  refine ⟨hf, rfl, fun _ => rfl, fun n => ?_⟩
  have h : replacement [] = fun n => [n] := rfl
  rw [h, List.flatMap_singleton']

theorem tag? (h : Rewritten rs g f) (n : NodeId) : f.tag? n = g.tag? n := by
  unfold Forest.tag?
  rw [h.content]

/-- An untouched node stands where it did. -/
theorem parent? (h : Rewritten rs g f) (hg : g.WellFormed) (hn : Untouched rs n) :
    f.parent? n = g.parent? n := by
  refine Option.ext fun p => ?_
  rw [← h.wellFormed.mem_children, ← hg.mem_children, h.children, List.mem_flatMap]
  constructor
  · rintro ⟨c, hc, hm⟩
    rw [mem_replacement hn] at hm
    rwa [hm]
  · intro hc
    exact ⟨n, hc, (mem_replacement hn).mpr rfl⟩

/-- A node with an untouched way up stands below the same nodes as before. -/
theorem above_iff (h : Rewritten rs g f) (hg : g.WellFormed)
    (hn : ∀ a, g.Over a n → Untouched rs a) : f.Above a n ↔ g.Above a n := by
  constructor
  · intro ha
    induction ha using Relation.TransGen.head_induction_on with
    | single hp =>
      rw [Forest.Up, h.parent? hg (hn _ (.refl _))] at hp
      exact Forest.above_of_parent? hp
    | head hp _ ih =>
      rw [Forest.Up, h.parent? hg (hn _ (.refl _))] at hp
      have hu := Forest.above_of_parent? hp
      exact (ih fun b hb => hn b (hb.trans hu.over)).trans hu
  · intro ha
    induction ha using Relation.TransGen.head_induction_on with
    | single hp =>
      rw [Forest.Up, ← h.parent? hg (hn _ (.refl _))] at hp
      exact Forest.above_of_parent? hp
    | head hp _ ih =>
      have hu := Forest.above_of_parent? hp
      rw [Forest.Up, ← h.parent? hg (hn _ (.refl _))] at hp
      exact (ih fun b hb => hn b (hb.trans hu.over)).trans (Forest.above_of_parent? hp)

/-- A node none of whose children is replaced has the children it had. -/
theorem children_eq (h : Rewritten rs g f) (hn : ∀ c ∈ g.children n, ∀ r ∈ rs, r.1.node ≠ c) :
    f.children n = g.children n := by
  rw [h.children, flatMap_replacement hn]

/-- New nodes change nothing about a rewrite. -/
theorem grow (h : Rewritten rs g f) (hD : ∀ r ∈ rs, r.1.node < g.size)
    (hf : (f.grow new).WellFormed) : Rewritten rs (g.grow new) (f.grow new) := by
  have hnew (n : NodeId) (hn : ¬ n < g.size) : (f.grow new).node? n = (g.grow new).node? n := by
    have hn := Nat.not_lt.mp hn
    rw [Forest.node?_grow_new (h.size ▸ hn), Forest.node?_grow_new hn, h.size]
  refine ⟨hf, by simp [h.size], fun n => ?_, fun n => ?_⟩
  · by_cases hn : n < g.size
    · rw [Forest.content?_grow (h.size ▸ hn), Forest.content?_grow hn, h.content]
    · unfold Forest.content?
      rw [hnew n hn]
  · by_cases hn : n < g.size
    · rw [Forest.children_grow (h.size ▸ hn), Forest.children_grow hn, h.children]
    · have he : (f.grow new).children n = (g.grow new).children n := by
        unfold Forest.children
        rw [hnew n hn]
      rw [he, flatMap_replacement fun c hc r hr => ?_]
      rw [← he] at hc
      have hp := (hf.mem_children n c).mp hc
      have hc' : ¬ c < g.size := by
        rw [← h.size, Forest.parent_new h.wellFormed hf hp, h.size]
        exact hn
      exact fun heq => hc' (heq ▸ hD r hr)

/-- The children of the parent of a node that is not replaced, on both of its sides. -/
theorem split (h : Rewritten rs g f) (hg : g.WellFormed) (hp : g.parent? n = some p)
    (hn : ∀ x ∈ rs, x.1.node ≠ n) : ∃ l₁ l₂, g.children p = l₁ ++ n :: l₂ ∧
      f.children p = l₁.flatMap (replacement rs) ++ n :: l₂.flatMap (replacement rs) := by
  obtain ⟨l₁, l₂, hl⟩ := List.append_of_mem ((hg.mem_children p n).mpr hp)
  refine ⟨l₁, l₂, hl, ?_⟩
  rw [h.children, hl, List.flatMap_append, List.flatMap_cons, replacement_of_not_mem hn]
  rfl

/-- One more fragment gives way. -/
theorem append {f' : Forest} {l₁ l₂ : List NodeId} (h : Rewritten rs g f) (hg : g.WellFormed)
    (hn : ∀ x ∈ rs, x.1.node ≠ r.1.node) (hl : g.children p = l₁ ++ r.1.node :: l₂)
    (hs : f.Spliced f' p (l₁.flatMap (replacement rs) ++ r.2.replacing r.1.node ++
      l₂.flatMap (replacement rs))) : Rewritten (rs ++ [r]) g f' := by
  have hother {l : List NodeId} (hnl : r.1.node ∉ l) :
      l.flatMap (replacement (rs ++ [r])) = l.flatMap (replacement rs) := by
    refine List.flatMap_congr fun c hc => ?_
    have hne : c ≠ r.1.node := fun he => hnl (he ▸ hc)
    rw [replacement_append hn, if_neg hne]
  have hd := hg.nodup p
  rw [hl, List.nodup_append] at hd
  obtain ⟨-, hd₂, hd⟩ := hd
  refine ⟨hs.wellFormed, hs.size.trans h.size, fun k => (hs.content k).trans (h.content k),
    fun k => ?_⟩
  by_cases hk : k = p
  · rw [hk, hs.here, hl, List.flatMap_append, List.flatMap_cons, hother, hother,
      replacement_append hn, if_pos rfl, List.append_assoc]
    · exact (List.nodup_cons.mp hd₂).1
    · exact fun hm => hd _ hm _ List.mem_cons_self rfl
  · rw [hs.elsewhere k hk, h.children, hother fun hm => hk ?_]
    have hp := (hg.mem_children p r.1.node).mp (by simp [hl])
    rw [hg.mem_children, hp] at hm
    exact (Option.some.inj hm).symm

end Rewritten

/-- Around a node two forests are the same: the same nodes stand over it and below it. -/
structure SameAround (f₀ f : Forest) (n : NodeId) : Prop where
  content : ∀ k, f₀.Over k n ∨ f₀.Over n k → f.content? k = f₀.content? k
  parent : ∀ k, f₀.Over k n → f.parent? k = f₀.parent? k
  children : ∀ k, f₀.Over n k → f.children k = f₀.children k

namespace SameAround

variable {f₀ : Forest}

theorem tag? (h : SameAround f₀ f n) {k : NodeId} (hk : f₀.Over k n ∨ f₀.Over n k) :
    f.tag? k = f₀.tag? k := by
  unfold Forest.tag?
  rw [h.content k hk]

theorem name? (h : SameAround f₀ f n) {k : NodeId} (hk : f₀.Over k n ∨ f₀.Over n k) :
    f.name? k = f₀.name? k := by
  unfold Forest.name?
  rw [h.tag? hk]

/-- What is the same around a node is the same around each of its children. -/
theorem child (h : SameAround f₀ f n) (hf : f₀.WellFormed) (ht : f.WellFormed)
    (hc : c ∈ f₀.children n) : SameAround f₀ f c := by
  have hp := (hf.mem_children n c).mp hc
  have hn := (Forest.above_of_parent? hp).over
  refine ⟨fun k hk => h.content k ?_, fun k hk => ?_, fun k hk => h.children k (hn.trans hk)⟩
  · obtain hk | hk := hk
    · obtain rfl | ha := hk.eq_or_above
      · exact .inr hn
      · exact .inl (ha.over_parent hp)
    · exact .inr (hn.trans hk)
  · obtain rfl | ha := hk.eq_or_above
    · rw [hp, ← ht.mem_children, h.children n (.refl n)]
      exact hc
    · exact h.parent k (ha.over_parent hp)

theorem descendantsUpTo (h : SameAround f₀ f n) (hf : f₀.WellFormed) (ht : f.WellFormed) (i : Nat) :
    f.descendantsUpTo i n = f₀.descendantsUpTo i n := by
  induction i generalizing n with
  | zero => rfl
  | succ i ih =>
    unfold Forest.descendantsUpTo
    rw [h.children n (.refl n)]
    exact List.flatMap_congr fun c hc => by rw [ih (h.child hf ht hc)]

theorem textOf (h : SameAround f₀ f n) (hf : f₀.WellFormed) (ht : f.WellFormed) (hn : n < f₀.size)
    (hn' : n < f.size) : f.textOf n = f₀.textOf n := by
  have hself : f₀.Over n n ∨ f₀.Over n n := .inl (.refl n)
  have hs : f.descendants n = f₀.descendants n := by
    rw [← Forest.descendantsUpTo_eq ht hn' (Nat.le_add_left f.size f₀.size),
      ← Forest.descendantsUpTo_eq hf hn (Nat.le_add_right f₀.size f.size), h.descendantsUpTo hf ht]
  unfold Forest.textOf
  rw [h.content n hself, hs, h.name? hself]
  split
  · rfl
  · congr 1
    refine List.filterMap_congr fun c hc => ?_
    rw [h.content c (.inr (Forest.mem_descendantsUpTo hf hc).over)]

theorem isBelow (h : SameAround f₀ f n) (hf : f₀.WellFormed) (ht : f.WellFormed) (name : String) :
    f.isBelow n name = f₀.isBelow n name := by
  have hmem (a : NodeId) : a ∈ f.ancestors n ↔ a ∈ f₀.ancestors n := by
    rw [Forest.mem_ancestors ht, Forest.mem_ancestors hf, Forest.above_congr h.parent]
  have hname {a : NodeId} (ha : a ∈ f₀.ancestors n) : f.name? a = f₀.name? a :=
    h.name? (.inl ((Forest.mem_ancestors hf).mp ha).over)
  unfold Forest.isBelow
  rw [Bool.eq_iff_iff, List.any_eq_true, List.any_eq_true]
  constructor
  · rintro ⟨a, ha, he⟩
    rw [hmem] at ha
    rw [hname ha] at he
    exact ⟨a, ha, he⟩
  · rintro ⟨a, ha, he⟩
    rw [← hname ha] at he
    exact ⟨a, (hmem a).mpr ha, he⟩

/-- Whether a node is a fragment, and which one, is seen from what stands over it and below it. -/
theorem ofNode? (h : SameAround f₀ f n) (hf : f₀.WellFormed) (ht : f.WellFormed) (hn : n < f₀.size)
    (hn' : n < f.size) : Fragment.ofNode? f markers n = Fragment.ofNode? f₀ markers n := by
  have hself : f₀.Over n n ∨ f₀.Over n n := .inl (.refl n)
  have hbelow {c : NodeId} (hc : c ∈ f₀.children n) : f₀.Over c n ∨ f₀.Over n c :=
    .inr (Forest.above_of_parent? ((hf.mem_children n c).mp hc)).over
  have hc : f.children n = f₀.children n := h.children n (.refl n)
  have hfirst : f.childNamed? n "code" = f₀.childNamed? n "code" := by
    unfold Forest.childNamed?
    rw [hc]
    exact List.find?_congr fun c hc => by rw [h.name? (hbelow hc)]
  unfold Fragment.ofNode?
  rw [h.tag? hself]
  cases f₀.tag? n with
  | none => rfl
  | some t =>
    have hpre : Fragment.ofPre? f markers n t = Fragment.ofPre? f₀ markers n t := by
      unfold Fragment.ofPre?
      rw [hfirst, h.textOf hf ht hn hn']
      cases hk : f₀.childNamed? n "code" with
      | none => rfl
      | some c =>
        have hm := List.mem_of_find?_eq_some hk
        have hm' : c ∈ f.children n := hc ▸ hm
        dsimp only
        rw [h.tag? (hbelow hm), (h.child hf ht hm).textOf hf ht
          (Forest.lt_size_of_parent? ((hf.mem_children n c).mp hm))
          (Forest.lt_size_of_parent? ((ht.mem_children n c).mp hm'))]
    have hcode : Fragment.ofCode? f markers n t = Fragment.ofCode? f₀ markers n t := by
      unfold Fragment.ofCode?
      rw [h.isBelow hf ht, h.textOf hf ht hn hn']
    dsimp only
    rw [hpre, hcode]

end SameAround

/-- A forest that began as another one: nodes came to it, and outcomes were applied to it. -/
structure Evolved (f₀ : Forest) (rs : List (Fragment × Outcome)) (g f : Forest) : Prop where
  grown : ∃ new, g = f₀.grow new
  wellFormed : g.WellFormed
  rewritten : Rewritten rs g f

namespace Evolved

variable {f₀ : Forest}

theorem size_le (h : Evolved f₀ rs g f) : f₀.size ≤ f.size := by
  obtain ⟨new, rfl⟩ := h.grown
  rw [h.rewritten.size, Forest.size_grow]
  exact Nat.le_add_right ..

theorem content? (h : Evolved f₀ rs g f) (hn : n < f₀.size) : f.content? n = f₀.content? n := by
  obtain ⟨new, rfl⟩ := h.grown
  rw [h.rewritten.content, Forest.content?_grow hn]

theorem tag? (h : Evolved f₀ rs g f) (hn : n < f₀.size) : f.tag? n = f₀.tag? n := by
  unfold Forest.tag?
  rw [h.content? hn]

theorem parent? (h : Evolved f₀ rs g f) (hn : n < f₀.size) (hu : Untouched rs n) :
    f.parent? n = f₀.parent? n := by
  rw [h.rewritten.parent? h.wellFormed hu]
  obtain ⟨new, rfl⟩ := h.grown
  exact Forest.parent?_grow hn

theorem above_iff (h : Evolved f₀ rs g f) (hf : f₀.WellFormed) (hn : n < f₀.size)
    (hu : ∀ a, f₀.Over a n → Untouched rs a) : f.Above a n ↔ f₀.Above a n := by
  obtain ⟨new, rfl⟩ := h.grown
  rw [h.rewritten.above_iff h.wellFormed fun b hb => hu b ?_, Forest.above_grow hf hn]
  obtain rfl | hb := hb.eq_or_above
  · exact .refl _
  · exact ((Forest.above_grow hf hn).mp hb).over

theorem children (h : Evolved f₀ rs g f) (hn : n < f₀.size)
    (hc : ∀ c ∈ f₀.children n, ∀ r ∈ rs, r.1.node ≠ c) : f.children n = f₀.children n := by
  obtain ⟨new, rfl⟩ := h.grown
  rw [h.rewritten.children_eq, Forest.children_grow hn]
  rwa [Forest.children_grow hn]

/-- Nothing has happened around a node if nothing was replaced below it, and nothing over it was
touched. -/
theorem sameAround (h : Evolved f₀ rs g f) (hf : f₀.WellFormed) (hn : n < f₀.size)
    (hu : ∀ a, f₀.Over a n → Untouched rs a) (hd : ∀ r ∈ rs, ¬ f₀.Above n r.1.node) :
    SameAround f₀ f n := by
  have hover {k : NodeId} (hk : f₀.Over k n) : k < f₀.size := by
    obtain rfl | ha := hk.eq_or_above
    · exact hn
    · obtain ⟨b, -, hb⟩ := Relation.TransGen.tail'_iff.mp ha
      exact hf.parent_lt_size hb
  have hbelow {k : NodeId} (hk : f₀.Over n k) : k < f₀.size := by
    obtain rfl | ha := hk.eq_or_above
    · exact hn
    · obtain ⟨b, hb, -⟩ := Relation.TransGen.head'_iff.mp ha
      exact Forest.lt_size_of_parent? hb
  refine ⟨fun k hk => h.content? (hk.elim hover hbelow), fun k hk => h.parent? (hover hk) (hu k hk),
    fun k hk => h.children (hbelow hk) fun c hc r hr he => hd r hr ?_⟩
  rw [he]
  exact Forest.above_of_over_parent hk ((hf.mem_children k c).mp hc)

/-- A fragment in a part of the document that is still untouched is what it was in the beginning. -/
theorem ofNode? (h : Evolved f₀ rs g f) (hf : f₀.WellFormed) (hn : n < f₀.size)
    (hu : ∀ a, f₀.Over a n → Untouched rs a) (hd : ∀ r ∈ rs, ¬ f₀.Above n r.1.node) :
    Fragment.ofNode? f markers n = Fragment.ofNode? f₀ markers n :=
  (h.sameAround hf hn hu hd).ofNode? hf h.rewritten.wellFormed hn (Nat.lt_of_lt_of_le hn h.size_le)

end Evolved

end

end LiveMarkdown
