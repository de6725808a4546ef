import LiveMarkdown.Document.Edit
import LiveMarkdown.Document.Forest
import Mathlib

/-!
Well-formed forests: what the single operations do to the links of a node, and that they keep a
forest well formed.
-/

namespace LiveMarkdown.Document

namespace Forest

variable {f g : Forest} {a b c n p k : NodeId} {i : Nat}

/-! ### Links after an operation -/

theorem node?_modify (h : Node → Node) :
    (f.modify n h).node? k = if n = k then (f.node? k).map h else f.node? k :=
  Array.getElem?_modify

@[simp] theorem size_modify (h : Node → Node) : (f.modify n h).size = f.size := by
  simp [modify, size]

theorem children_eq : f.children n = ((f.node? n).map (·.children)).getD [] := by
  unfold children
  cases f.node? n <;> rfl

theorem node?_eq_none : f.node? n = none ↔ f.size ≤ n := by
  simp [node?, size]

theorem lt_size_of_node? {d : Node} (h : f.node? n = some d) : n < f.size := by
  by_contra hn
  rw [node?_eq_none.mpr (Nat.le_of_not_lt hn)] at h
  cases h

theorem lt_size_of_parent? (h : f.parent? n = some p) : n < f.size := by
  unfold parent? at h
  cases hd : f.node? n with
  | none => simp [hd] at h
  | some d => exact lt_size_of_node? hd

theorem lt_size_of_mem_children (h : n ∈ f.children p) : p < f.size := by
  unfold children at h
  cases hd : f.node? p with
  | none => simp [hd] at h
  | some d => exact lt_size_of_node? hd

theorem lt_size_of_content? {x : Content} (h : f.content? n = some x) : n < f.size := by
  unfold content? at h
  cases hd : f.node? n with
  | none => simp [hd] at h
  | some d => exact lt_size_of_node? hd

theorem lt_size_of_name? {name : String} (h : f.name? n = some name) : n < f.size := by
  unfold name? tag? at h
  cases hc : f.content? n with
  | none => simp [hc] at h
  | some x => exact lt_size_of_content? hc

theorem isRoot_congr (h : g.content? k = f.content? k) : g.isRoot k = f.isRoot k := by
  unfold isRoot
  rw [h]

/-- Only a node of a tree has a level, and no whole document has one. -/
theorem of_level? {level : Level} (h : f.level? n = some level) :
    n < f.size ∧ f.isRoot n = false := by
  unfold level? at h
  cases hc : f.content? n with
  | none => simp [hc] at h
  | some x =>
    refine ⟨lt_size_of_content? hc, ?_⟩
    unfold isRoot
    cases x with
    | root => simp [hc] at h
    | tag | text => simp [hc]

@[simp] theorem size_extract : (f.extract n).size = f.size := by
  unfold extract
  split <;> simp

theorem content?_modify_children (h : List NodeId → List NodeId) :
    (f.modify n fun d => { d with children := h d.children }).content? k = f.content? k := by
  unfold content?
  rw [node?_modify]
  split
  · rw [Option.map_map]
    rfl
  · rfl

theorem content?_modify_parent (q : Option NodeId) :
    (f.modify n fun d => { d with parent := q }).content? k = f.content? k := by
  unfold content?
  rw [node?_modify]
  split
  · rw [Option.map_map]
    rfl
  · rfl

theorem content?_extract : (f.extract n).content? k = f.content? k := by
  unfold extract
  split
  · rfl
  · rw [content?_modify_parent, content?_modify_children fun l => l.erase n]

theorem content?_place : (f.place p i n).content? k = f.content? k := by
  unfold place
  rw [content?_modify_parent, content?_modify_children fun l => l.insertIdx i n]

@[simp] theorem size_place : (f.place p i n).size = f.size := by
  simp [place]

theorem parent?_modify_children (h : List NodeId → List NodeId) :
    (f.modify n fun d => { d with children := h d.children }).parent? k = f.parent? k := by
  unfold parent?
  rw [node?_modify]
  split
  · cases f.node? k <;> rfl
  · rfl

theorem children_modify_parent (q : Option NodeId) :
    (f.modify n fun d => { d with parent := q }).children k = f.children k := by
  rw [children_eq, children_eq, node?_modify]
  split
  · rw [Option.map_map]
    rfl
  · rfl

theorem parent?_modify_parent (hn : n < f.size) (q : Option NodeId) :
    (f.modify n fun d => { d with parent := q }).parent? k = if k = n then q else f.parent? k := by
  unfold parent?
  rw [node?_modify]
  by_cases hk : n = k
  · subst hk
    cases hd : f.node? n with
    | none => exact absurd hn (Nat.not_lt.mpr (node?_eq_none.mp hd))
    | some d => simp
  · simp [hk, Ne.symm hk]

theorem children_modify_children (h : List NodeId → List NodeId) (hp : p < f.size) :
    (f.modify p fun d => { d with children := h d.children }).children k =
      if k = p then h (f.children k) else f.children k := by
  rw [children_eq, children_eq, node?_modify]
  by_cases hk : p = k
  · subst hk
    cases hd : f.node? p with
    | none => exact absurd hp (Nat.not_lt.mpr (node?_eq_none.mp hd))
    | some d => simp
  · simp [hk, Ne.symm hk]

theorem children_extract (hp : f.parent? n = some p) (hs : p < f.size) :
    (f.extract n).children k = if k = p then (f.children k).erase n else f.children k := by
  unfold extract
  rw [hp]
  dsimp only
  rw [children_modify_parent, children_modify_children (fun l => l.erase n) hs]

theorem parent?_extract : (f.extract n).parent? k = if k = n then none else f.parent? k := by
  unfold extract
  cases hp : f.parent? n with
  | none =>
    by_cases hk : k = n
    · simp [hk, hp]
    · simp [hk]
  | some p =>
    dsimp only
    rw [parent?_modify_parent (by simpa using lt_size_of_parent? hp),
      parent?_modify_children fun l => l.erase n]

theorem extract_of_parent?_none (hp : f.parent? n = none) : f.extract n = f := by
  unfold extract
  rw [hp]

theorem children_place (hp : p < f.size) :
    (f.place p i n).children k = if k = p then (f.children k).insertIdx i n else f.children k := by
  unfold place
  rw [children_modify_parent, children_modify_children (fun l => l.insertIdx i n) hp]

theorem parent?_place (hn : n < f.size) :
    (f.place p i n).parent? k = if k = n then some p else f.parent? k := by
  unfold place
  rw [parent?_modify_parent (by simpa using hn), parent?_modify_children fun l => l.insertIdx i n]

/-! ### Nodes above others -/

/-- The step from a node to its parent. -/
def Up (f : Forest) (n p : NodeId) : Prop := f.parent? n = some p

/-- The first node stands above the second. -/
def Above (f : Forest) (a n : NodeId) : Prop := Relation.TransGen f.Up n a

/-- The first node is the second or stands above it. -/
def Over (f : Forest) (a n : NodeId) : Prop := Relation.ReflTransGen f.Up n a

theorem up_unique : Relator.RightUnique f.Up := by
  intro n p q hp hq
  rw [Up, hp] at hq
  exact Option.some.inj hq

theorem Over.refl (n : NodeId) : f.Over n n := Relation.ReflTransGen.refl

theorem Over.trans (hab : f.Over a b) (hbn : f.Over b n) : f.Over a n :=
  Relation.ReflTransGen.trans hbn hab

theorem Above.over (h : f.Above a n) : f.Over a n := Relation.TransGen.to_reflTransGen h

theorem Above.trans (hab : f.Above a b) (hbn : f.Above b n) : f.Above a n :=
  Relation.TransGen.trans hbn hab

theorem above_of_parent? (h : f.parent? n = some p) : f.Above p n := Relation.TransGen.single h

theorem Over.eq_or_above (h : f.Over a n) : a = n ∨ f.Above a n := by
  obtain h | h := Relation.reflTransGen_iff_eq_or_transGen.mp h
  · exact .inl h
  · exact .inr h

theorem Over.above_trans (hab : f.Over a b) (hbn : f.Above b n) : f.Above a n :=
  Relation.TransGen.trans_left hbn hab

theorem Above.over_trans (hab : f.Above a b) (hbn : f.Over b n) : f.Above a n :=
  Relation.TransGen.trans_right hbn hab

/-- What stands above a node is its parent or stands above it. -/
theorem Above.over_parent (h : f.Above a n) (hp : f.parent? n = some p) : f.Over a p := by
  obtain ⟨q, hq, ha⟩ := Relation.TransGen.head'_iff.mp h
  rw [Up, hp] at hq
  cases hq
  exact ha

theorem above_of_over_parent (h : f.Over a p) (hp : f.parent? n = some p) : f.Above a n :=
  Relation.TransGen.head' hp h

theorem not_above_of_parent?_none (hp : f.parent? n = none) : ¬ f.Above a n := by
  intro h
  obtain ⟨q, hq, -⟩ := Relation.TransGen.head'_iff.mp h
  rw [Up, hp] at hq
  cases hq

/-- What stands below a node that stands nowhere stands below no other node. -/
theorem not_above_of_apart (hp : f.parent? n = some p) (ht : f.parent? p = none)
    (hne : a ≠ p) : ¬ f.Above a n := by
  intro ha
  obtain he | ha := (ha.over_parent hp).eq_or_above
  · exact hne he
  · exact not_above_of_parent?_none ht ha

/-- Of two nodes over the same node, one is over the other. -/
theorem Over.total (ha : f.Over a n) (hb : f.Over b n) : f.Over a b ∨ f.Over b a := by
  obtain h | h := Relation.ReflTransGen.total_of_right_unique up_unique ha hb
  · exact .inr h
  · exact .inl h

/-- The links of a forest agree, no node stands among the children of a node twice, and no node stands
above itself. -/
structure WellFormed (f : Forest) : Prop where
  mem_children : ∀ p n, n ∈ f.children p ↔ f.parent? n = some p
  nodup : ∀ p, (f.children p).Nodup
  acyclic : ∀ n, ¬ f.Above n n

namespace WellFormed

theorem parent_lt_size (hf : f.WellFormed) (h : f.parent? n = some p) : p < f.size :=
  lt_size_of_mem_children ((hf.mem_children p n).mpr h)

/-- Taking a node out keeps a forest well formed. -/
theorem extract (hf : f.WellFormed) (n : NodeId) : (f.extract n).WellFormed := by
  cases hp : f.parent? n with
  | none =>
    rw [extract_of_parent?_none hp]
    exact hf
  | some p =>
    have hs := hf.parent_lt_size hp
    refine ⟨fun q x => ?_, fun q => ?_, fun x hx => ?_⟩
    · rw [children_extract hp hs, parent?_extract]
      by_cases hq : q = p
      · rw [if_pos hq, (hf.nodup q).mem_erase_iff, hf.mem_children]
        by_cases hx : x = n <;> simp [hx]
      · rw [if_neg hq, hf.mem_children]
        by_cases hx : x = n
        · simp [hx, hp, Ne.symm hq]
        · simp [hx]
    · rw [children_extract hp hs]
      split
      · exact (hf.nodup q).erase n
      · exact hf.nodup q
    · refine hf.acyclic x (Relation.TransGen.mono ?_ x x hx)
      intro y z hyz
      unfold Up at *
      rw [parent?_extract] at hyz
      split at hyz
      · cases hyz
      · exact hyz

/-- A way up in a forest with one new link uses the link or was there before. -/
theorem above_place (hn : n < f.size) (h : (f.place p i n).Above b a) :
    f.Above b a ∨ (f.Over n a ∧ f.Over b p) := by
  induction h with
  | single hb =>
    unfold Up at hb
    rw [parent?_place hn] at hb
    split at hb
    · cases hb
      subst_vars
      exact .inr ⟨.refl _, .refl _⟩
    · exact .inl (above_of_parent? hb)
  | tail _ hb ih =>
    unfold Up at hb
    rw [parent?_place hn] at hb
    split at hb
    · cases hb
      subst_vars
      obtain h | ⟨h, -⟩ := ih
      · exact .inr ⟨h.over, .refl _⟩
      · exact .inr ⟨h, .refl _⟩
    · obtain h | ⟨h, hp⟩ := ih
      · exact .inl ((above_of_parent? hb).trans h)
      · exact .inr ⟨h, (above_of_parent? hb).over.trans hp⟩

/-- A node without a parent can be put below any node that it does not stand over. -/
theorem place (hf : f.WellFormed) (hn : n < f.size) (hp : p < f.size)
    (hi : i ≤ (f.children p).length) (hno : f.parent? n = none) (hnp : ¬ f.Over n p) :
    (f.place p i n).WellFormed := by
  have hout (q : NodeId) : n ∉ f.children q := by
    rw [hf.mem_children, hno]
    simp
  refine ⟨fun q x => ?_, fun q => ?_, fun x hx => ?_⟩
  · rw [children_place hp, parent?_place hn]
    by_cases hq : q = p
    · subst hq
      rw [if_pos rfl, List.mem_insertIdx hi, hf.mem_children]
      by_cases hx : x = n <;> simp [hx]
    · rw [if_neg hq, hf.mem_children]
      by_cases hx : x = n
      · simp [hx, hno, Ne.symm hq]
      · simp [hx]
  · rw [children_place hp]
    split
    · rename_i hq
      subst hq
      rw [(List.perm_insertIdx n _ hi).nodup_iff, List.nodup_cons]
      exact ⟨hout _, hf.nodup _⟩
    · exact hf.nodup q
  · obtain h | ⟨hnx, hxp⟩ := above_place hn hx
    · exact hf.acyclic x h
    · exact hnp (hnx.trans hxp)

end WellFormed

/-- A forest whose nodes have smaller parents is well formed if its links agree, which can be checked
node by node. -/
theorem WellFormed.of_ordered
    (hc : ∀ p < f.size, (f.children p).Nodup ∧ ∀ n ∈ f.children p, f.parent? n = some p)
    (hp : ∀ n < f.size, ∀ p ∈ f.parent? n, p < n ∧ n ∈ f.children p) : f.WellFormed := by
  have hdown {n p : NodeId} (h : f.Above p n) : p < n := by
    induction h with
    | single h => exact (hp _ (lt_size_of_parent? h) _ h).1
    | tail _ h ih => exact Nat.lt_trans (hp _ (lt_size_of_parent? h) _ h).1 ih
  refine ⟨fun p n => ⟨fun h => ?_, fun h => ?_⟩, fun p => ?_, fun n h => ?_⟩
  · exact (hc p (lt_size_of_mem_children h)).2 n h
  · exact (hp n (lt_size_of_parent? h) p h).2
  · by_cases hs : p < f.size
    · exact (hc p hs).1
    · rw [List.eq_nil_iff_forall_not_mem.mpr fun n h => hs (lt_size_of_mem_children h)]
      exact List.nodup_nil
  · exact Nat.lt_irrefl n (hdown h)

/-! ### Ways up -/

/-- Distinct nodes of a forest that are all over a node. There are at most as many as nodes. -/
structure Trail (f : Forest) (n : NodeId) (as : List NodeId) : Prop where
  mem : ∀ a ∈ as, a < f.size ∧ f.Over a n
  nodup : as.Nodup

namespace Trail

variable {as : List NodeId}

theorem single (h : n < f.size) : f.Trail n [n] := ⟨by simp [h, Over.refl], List.nodup_singleton n⟩

theorem length_le (h : f.Trail n as) : as.length ≤ f.size := by
  have hs : as.toFinset ⊆ Finset.range f.size := by
    intro a ha
    exact Finset.mem_range.mpr (h.mem a (List.mem_toFinset.mp ha)).1
  have hc := Finset.card_le_card hs
  rwa [List.toFinset_card_of_nodup h.nodup, Finset.card_range] at hc

/-- A trail goes on to a child. -/
theorem child (hf : f.WellFormed) (h : f.Trail p as) (hp : f.parent? n = some p) :
    f.Trail n (n :: as) := by
  have hup (a : NodeId) (ha : a ∈ as) : f.Above a n := above_of_over_parent (h.mem a ha).2 hp
  refine ⟨fun a ha => ?_, List.nodup_cons.mpr ⟨fun hn => hf.acyclic n (hup n hn), h.nodup⟩⟩
  obtain rfl | ha := List.mem_cons.mp ha
  · exact ⟨lt_size_of_parent? hp, .refl _⟩
  · exact ⟨(h.mem a ha).1, (hup a ha).over⟩

/-- A trail through as many nodes as there are ends at a node without children. -/
theorem children_eq_nil (hf : f.WellFormed) (h : f.Trail n as) (hl : f.size ≤ as.length) :
    f.children n = [] := by
  rw [List.eq_nil_iff_forall_not_mem]
  intro c hc
  have hlen := (h.child hf ((hf.mem_children n c).mp hc)).length_le
  rw [List.length_cons] at hlen
  omega

/-- A recursion over children that is cut off at a depth does not depend on the depth, if it is at
least the number of the nodes that are not on the trail. -/
theorem stable {β : Type} (hf : f.WellFormed) (h : Nat → NodeId → β)
    (leaf : ∀ n, f.children n = [] → ∀ i j, h i n = h j n)
    (step : ∀ n i j, (∀ c ∈ f.children n, h i c = h j c) → h (i + 1) n = h (j + 1) n)
    (ht : f.Trail n as) {i j : Nat} (hi : f.size ≤ as.length + i) (hj : f.size ≤ as.length + j) :
    h i n = h j n := by
  induction i generalizing n as j with
  | zero => exact leaf n (ht.children_eq_nil hf hi) 0 j
  | succ i ih =>
    cases j with
    | zero => exact leaf n (ht.children_eq_nil hf hj) (i + 1) 0
    | succ j =>
      refine step n i j fun c hc => ?_
      refine ih (ht.child hf ((hf.mem_children n c).mp hc)) ?_ ?_ <;>
        · rw [List.length_cons]
          omega

end Trail

theorem above_of_mem_ancestorsUpTo (h : a ∈ f.ancestorsUpTo i n) : f.Above a n := by
  induction i generalizing n with
  | zero => simp [ancestorsUpTo] at h
  | succ i ih =>
    unfold ancestorsUpTo at h
    cases hp : f.parent? n with
    | none => simp [hp] at h
    | some p =>
      simp only [hp, List.mem_cons] at h
      obtain rfl | h := h
      · exact above_of_parent? hp
      · exact (ih h).trans (above_of_parent? hp)

theorem ancestorsUpTo_nodup (hf : f.WellFormed) : (f.ancestorsUpTo i n).Nodup := by
  induction i generalizing n with
  | zero => exact List.nodup_nil
  | succ i ih =>
    unfold ancestorsUpTo
    cases f.parent? n with
    | none => exact List.nodup_nil
    | some p =>
      exact List.nodup_cons.mpr ⟨fun h => hf.acyclic p (above_of_mem_ancestorsUpTo h), ih⟩

/-- A list of ancestors that is shorter than it might be lacks none. -/
theorem mem_ancestorsUpTo (h : f.Above a n) (hl : (f.ancestorsUpTo i n).length < i) :
    a ∈ f.ancestorsUpTo i n := by
  induction i generalizing n with
  | zero => simp at hl
  | succ i ih =>
    unfold ancestorsUpTo at hl ⊢
    cases hp : f.parent? n with
    | none => exact absurd h (not_above_of_parent?_none hp)
    | some p =>
      simp only [hp, List.length_cons, List.mem_cons] at hl ⊢
      obtain rfl | ha := (h.over_parent hp).eq_or_above
      · exact .inl rfl
      · exact .inr (ih ha (by omega))

/-- The ancestors of a node are the nodes above it. -/
theorem mem_ancestors (hf : f.WellFormed) : a ∈ f.ancestors n ↔ f.Above a n := by
  constructor
  · exact above_of_mem_ancestorsUpTo
  · intro h
    refine mem_ancestorsUpTo h ?_
    have hn : n < f.size := by
      obtain ⟨p, hp, -⟩ := Relation.TransGen.head'_iff.mp h
      exact lt_size_of_parent? hp
    have ht : f.Trail n (n :: f.ancestorsUpTo f.size n) := by
      refine ⟨fun b hb => ?_, List.nodup_cons.mpr
        ⟨fun hb => hf.acyclic n (above_of_mem_ancestorsUpTo hb), ancestorsUpTo_nodup hf⟩⟩
      obtain rfl | hb := List.mem_cons.mp hb
      · exact ⟨hn, .refl _⟩
      · have ha := above_of_mem_ancestorsUpTo hb
        obtain ⟨c, -, hc⟩ := Relation.TransGen.tail'_iff.mp ha
        exact ⟨hf.parent_lt_size hc, ha.over⟩
    have hlen := ht.length_le
    rw [List.length_cons] at hlen
    omega

theorem mem_descendantsUpTo (hf : f.WellFormed) (h : c ∈ f.descendantsUpTo i n) : f.Above n c := by
  induction i generalizing n with
  | zero => cases h
  | succ i ih =>
    obtain ⟨b, hb, hc⟩ := List.mem_flatMap.mp h
    have hn := above_of_parent? ((hf.mem_children n b).mp hb)
    obtain rfl | hc := List.mem_cons.mp hc
    · exact hn
    · exact hn.trans (ih hc)

/-- To look deeper than a forest can be finds no more. -/
theorem descendantsUpTo_eq (hf : f.WellFormed) (hn : n < f.size) (hi : f.size ≤ i) :
    f.descendantsUpTo i n = f.descendants n := by
  refine (Trail.single hn).stable hf f.descendantsUpTo (fun n hc i j => ?_)
    (fun n i j h => List.flatMap_congr fun c hc => by rw [h c hc]) (by omega) (by omega)
  cases i <;> cases j <;> simp [descendantsUpTo, hc]

/-! ### New nodes -/

/-- A forest with more nodes. -/
def grow (f : Forest) (new : Array Node) : Forest := ⟨f.nodes ++ new⟩

section Grow

variable {new more : Array Node}

@[simp] theorem size_grow : (f.grow new).size = f.size + new.size := by
  simp [grow, size]

theorem grow_empty : f.grow #[] = f := by
  simp [grow]

theorem grow_grow : (f.grow new).grow more = f.grow (new ++ more) := by
  simp [grow, Array.append_assoc]

theorem node?_grow (h : n < f.size) : (f.grow new).node? n = f.node? n :=
  Array.getElem?_append_left h

theorem node?_grow_new (h : f.size ≤ n) : (f.grow new).node? n = new[n - f.size]? :=
  Array.getElem?_append_right h

theorem parent?_grow (h : n < f.size) : (f.grow new).parent? n = f.parent? n := by
  unfold parent?
  rw [node?_grow h]

theorem children_grow (h : n < f.size) : (f.grow new).children n = f.children n := by
  unfold children
  rw [node?_grow h]

theorem content?_grow (h : n < f.size) : (f.grow new).content? n = f.content? n := by
  unfold content?
  rw [node?_grow h]

theorem alloc_eq (x : Content) : f.alloc x = (f.size, f.grow #[⟨x, none, []⟩]) := by
  simp [alloc, grow]

theorem content?_alloc (x : Content) : (f.grow #[⟨x, none, []⟩]).content? f.size = some x := by
  unfold content?
  rw [node?_grow_new (Nat.le_refl _), Nat.sub_self]
  rfl

theorem parent?_alloc (x : Content) : (f.grow #[⟨x, none, []⟩]).parent? f.size = none := by
  unfold parent?
  rw [node?_grow_new (Nat.le_refl _), Nat.sub_self]
  rfl

theorem children_alloc (x : Content) : (f.grow #[⟨x, none, []⟩]).children f.size = [] := by
  unfold children
  rw [node?_grow_new (Nat.le_refl _), Nat.sub_self]
  rfl

/-- What stands above a node is not changed by new nodes. -/
theorem above_grow (hf : f.WellFormed) (hn : n < f.size) :
    (f.grow new).Above a n ↔ f.Above a n := by
  constructor
  · intro h
    induction h using Relation.TransGen.head_induction_on with
    | single h =>
      rw [Up, parent?_grow hn] at h
      exact above_of_parent? h
    | head h _ ih =>
      rw [Up, parent?_grow hn] at h
      exact (ih (hf.parent_lt_size h)).trans (above_of_parent? h)
  · intro h
    induction h using Relation.TransGen.head_induction_on with
    | single h =>
      refine above_of_parent? ?_
      rw [parent?_grow hn]
      exact h
    | head h _ ih =>
      refine (ih (hf.parent_lt_size h)).trans (above_of_parent? ?_)
      rw [parent?_grow hn]
      exact h

/-- The links of new nodes lead to new nodes. -/
theorem parent_new (hf : f.WellFormed) (hg : (f.grow new).WellFormed)
    (h : (f.grow new).parent? n = some p) : n < f.size ↔ p < f.size := by
  constructor
  · intro hn
    rw [parent?_grow hn] at h
    exact hf.parent_lt_size h
  · intro hp
    rw [← hg.mem_children, children_grow hp, hf.mem_children] at h
    exact lt_size_of_parent? h

theorem above_new (hf : f.WellFormed) (hg : (f.grow new).WellFormed) (hn : f.size ≤ n)
    (h : (f.grow new).Above a n) : f.size ≤ a := by
  induction h with
  | single h => exact Nat.not_lt.mp fun ha => Nat.not_lt.mpr hn ((parent_new hf hg h).mpr ha)
  | tail _ h ih => exact Nat.not_lt.mp fun ha => Nat.not_lt.mpr ih ((parent_new hf hg h).mpr ha)

/-- New nodes that leave one forest well formed leave every other one of its size so. -/
theorem WellFormed.grow (hf : f.WellFormed) (hfn : (f.grow new).WellFormed) (hg : g.WellFormed)
    (hs : g.size = f.size) : (g.grow new).WellFormed := by
  have hnode (n : NodeId) (hn : f.size ≤ n) : (g.grow new).node? n = (f.grow new).node? n := by
    rw [node?_grow_new hn, node?_grow_new (hs ▸ hn), hs]
  have hparent (n : NodeId) (hn : f.size ≤ n) :
      (g.grow new).parent? n = (f.grow new).parent? n := by
    unfold parent?
    rw [hnode n hn]
  have hchildren (n : NodeId) (hn : f.size ≤ n) :
      (g.grow new).children n = (f.grow new).children n := by
    unfold children
    rw [hnode n hn]
  refine ⟨fun p n => ?_, fun p => ?_, fun n h => ?_⟩
  · by_cases hp : p < f.size <;> by_cases hn : n < f.size
    · rw [children_grow (hs ▸ hp), parent?_grow (hs ▸ hn), hg.mem_children]
    · have hn' := Nat.not_lt.mp hn
      rw [children_grow (hs ▸ hp), hparent n hn', hg.mem_children]
      constructor
      · intro h
        exact absurd (hs ▸ lt_size_of_parent? h) hn
      · intro h
        exact absurd ((parent_new hf hfn h).mpr hp) hn
    · have hp' := Nat.not_lt.mp hp
      rw [hchildren p hp', parent?_grow (hs ▸ hn), hfn.mem_children]
      constructor
      · intro h
        exact absurd ((parent_new hf hfn h).mp hn) hp
      · intro h
        exact absurd (hs ▸ hg.parent_lt_size h) hp
    · rw [hchildren p (Nat.not_lt.mp hp), hparent n (Nat.not_lt.mp hn), hfn.mem_children]
  · by_cases hp : p < f.size
    · rw [children_grow (hs ▸ hp)]
      exact hg.nodup p
    · rw [hchildren p (Nat.not_lt.mp hp)]
      exact hfn.nodup p
  · by_cases hn : n < f.size
    · exact hg.acyclic n ((above_grow hg (hs ▸ hn)).mp h)
    · refine hfn.acyclic n ?_
      have hup (a b : NodeId) (ha : f.size ≤ a) (h : (g.grow new).Above b a) :
          (f.grow new).Above b a := by
        induction h using Relation.TransGen.head_induction_on with
        | single h =>
          rw [Up, hparent _ ha] at h
          exact above_of_parent? h
        | head h _ ih =>
          rw [Up, hparent _ ha] at h
          have hb := above_new hf hfn ha (above_of_parent? h)
          exact (ih hb).trans (above_of_parent? h)
      exact hup n n (Nat.not_lt.mp hn) h

/-- A node by itself leaves a forest well formed. -/
theorem WellFormed.alloc (hf : f.WellFormed) (x : Content) :
    (f.grow #[⟨x, none, []⟩]).WellFormed := by
  have hnew (n : NodeId) (hn : ¬ n < f.size) : (f.grow #[⟨x, none, []⟩]).parent? n = none ∧
      (f.grow #[⟨x, none, []⟩]).children n = [] := by
    unfold parent? children
    rw [node?_grow_new (Nat.not_lt.mp hn)]
    cases hi : n - f.size <;> simp
  refine ⟨fun p n => ?_, fun p => ?_, fun n h => ?_⟩
  · by_cases hp : p < f.size
    · rw [children_grow hp, hf.mem_children]
      by_cases hn : n < f.size
      · rw [parent?_grow hn]
      · rw [(hnew n hn).1]
        constructor
        · intro h
          exact absurd (lt_size_of_parent? h) hn
        · exact nofun
    · rw [(hnew p hp).2]
      constructor
      · exact nofun
      · intro h
        by_cases hn : n < f.size
        · rw [parent?_grow hn] at h
          exact absurd (hf.parent_lt_size h) hp
        · rw [(hnew n hn).1] at h
          cases h
  · by_cases hp : p < f.size
    · rw [children_grow hp]
      exact hf.nodup p
    · rw [(hnew p hp).2]
      exact List.nodup_nil
  · by_cases hn : n < f.size
    · exact hf.acyclic n ((above_grow hf hn).mp h)
    · exact not_above_of_parent?_none (hnew n hn).1 h

end Grow

end Forest

end LiveMarkdown.Document
