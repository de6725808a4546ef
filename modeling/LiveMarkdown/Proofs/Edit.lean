import LiveMarkdown.Proofs.Forest

/-!
Edits of well-formed forests that are not refused. Nodes that stand nowhere are put among the children
of a node, in order; nodes that stand anywhere may be put there too, unless they are over that node, and
none but them gets another parent.
-/

namespace LiveMarkdown.Document

namespace Forest

variable {f g h : Forest} {n p : NodeId}

/-- A forest differs from another in the children of one node, and in the links that lead back from
them. -/
structure Spliced (f g : Forest) (p : NodeId) (cs : List NodeId) : Prop where
  wellFormed : g.WellFormed
  size : g.size = f.size
  content : ∀ k, g.content? k = f.content? k
  here : g.children p = cs
  elsewhere : ∀ k, k ≠ p → g.children k = f.children k

theorem Spliced.trans {cs ds : List NodeId} (hg : Spliced f g p cs) (hh : Spliced g h p ds) :
    Spliced f h p ds where
  wellFormed := hh.wellFormed
  size := hh.size.trans hg.size
  content k := (hh.content k).trans (hg.content k)
  here := hh.here
  elsewhere k hk := (hh.elsewhere k hk).trans (hg.elsewhere k hk)

/-- The place of a child behind others. -/
theorem indexOf_eq {l₁ l₂ : List NodeId} (hf : f.WellFormed) (hc : f.children p = l₁ ++ n :: l₂) :
    f.indexOf p n = l₁.length := by
  have hd := hf.nodup p
  rw [hc] at hd
  have hn : n ∉ l₁ := fun hn => (List.nodup_append.mp hd).2.2 n hn n List.mem_cons_self rfl
  unfold indexOf
  rw [hc, List.idxOf_append_of_notMem hn, List.idxOf_cons_self, Nat.add_zero]

/-- A child is taken out. -/
theorem extract_spliced {l₁ l₂ : List NodeId} (hf : f.WellFormed)
    (hc : f.children p = l₁ ++ n :: l₂) : Spliced f (f.extract n) p (l₁ ++ l₂) := by
  have hp : f.parent? n = some p := by
    rw [← hf.mem_children, hc]
    simp
  have hs := hf.parent_lt_size hp
  have hd := hf.nodup p
  rw [hc] at hd
  have hn : n ∉ l₁ := fun hn => (List.nodup_append.mp hd).2.2 n hn n List.mem_cons_self rfl
  refine ⟨hf.extract n, size_extract, fun _ => content?_extract, ?_, fun k hk => ?_⟩
  · rw [children_extract hp hs, if_pos rfl, hc, List.erase_append_right _ hn, List.erase_cons_head]
  · rw [children_extract hp hs, if_neg hk]

/-- What can be put below a node without being taken from anywhere: an element or a text that has no
parent and does not stand over the node. -/
structure Loose (f : Forest) (p n : NodeId) : Prop where
  inside : n < f.size
  notRoot : f.isRoot n = false
  parent : f.parent? n = none
  below : ¬ f.Over n p

theorem insertIdx_append (l₁ l₂ : List NodeId) :
    (l₁ ++ l₂).insertIdx l₁.length n = l₁ ++ n :: l₂ := by
  induction l₁ with
  | nil => rfl
  | cons a l₁ ih =>
    rw [List.cons_append, List.length_cons, List.insertIdx_succ_cons, ih]
    rfl

/-- A loose node is put among the children of another. -/
theorem place_spliced {l₁ l₂ : List NodeId} (hf : f.WellFormed) (hp : p < f.size)
    (hn : f.Loose p n) (hc : f.children p = l₁ ++ l₂) :
    Spliced f (f.place p l₁.length n) p (l₁ ++ n :: l₂) := by
  refine ⟨hf.place hn.inside hp (by simp [hc]) hn.parent hn.below, size_place,
    fun _ => content?_place, ?_, fun k hk => ?_⟩
  · rw [children_place hp, if_pos rfl, hc, insertIdx_append]
  · rw [children_place hp, if_neg hk]

/-- A node that is loose for a child is loose for the parent, also once the child is taken out. -/
theorem Loose.extract {m : NodeId} (hm : f.Loose n m) (hp : f.parent? n = some p) :
    (f.extract n).Loose p m := by
  refine ⟨by simpa using hm.inside, ?_, ?_, fun ho => hm.below ?_⟩
  · unfold isRoot
    rw [content?_extract]
    exact hm.notRoot
  · rw [parent?_extract]
    split
    · rfl
    · exact hm.parent
  · refine (above_of_over_parent (Relation.ReflTransGen.mono ?_ _ _ ho) hp).over
    intro y z hyz
    unfold Up at *
    rw [parent?_extract] at hyz
    split at hyz
    · cases hyz
    · exact hyz

/-- A loose node stays loose while another one is put into its place. -/
theorem Loose.place {m : NodeId} {i : Nat} (hn : f.Loose p n) (hm : f.Loose p m) (hne : n ≠ m) :
    (f.place p i m).Loose p n := by
  refine ⟨by simpa using hn.inside, ?_, ?_, fun ho => ?_⟩
  · unfold isRoot
    rw [content?_place]
    exact hn.notRoot
  · rw [parent?_place hm.inside, if_neg hne]
    exact hn.parent
  · obtain rfl | ha := ho.eq_or_above
    · exact hn.below (.refl _)
    · obtain h | ⟨h, -⟩ := WellFormed.above_place hm.inside ha
      · exact hn.below h.over
      · exact hm.below h

/-! ### Nodes that stand anywhere -/

/-- What is over a node is known from the links of the nodes over it. -/
theorem over_congr {a : NodeId} (h : ∀ b, f.Over b n → g.parent? b = f.parent? b) :
    g.Over a n ↔ f.Over a n := by
  constructor
  · intro ho
    induction ho with
    | refl => exact .refl n
    | tail _ hu ih =>
      rw [Up, h _ ih] at hu
      exact Relation.ReflTransGen.tail ih hu
  · intro ho
    induction ho with
    | refl => exact .refl n
    | tail ho hu ih =>
      rw [Up, ← h _ ho] at hu
      exact Relation.ReflTransGen.tail ih hu

/-- What is above a node is known from the links of the node and of those over it. -/
theorem above_congr {a : NodeId} (h : ∀ b, f.Over b n → g.parent? b = f.parent? b) :
    g.Above a n ↔ f.Above a n := by
  have hn : g.parent? n = f.parent? n := h n (.refl n)
  have hup {p : NodeId} (hp : f.parent? n = some p) : g.Over a p ↔ f.Over a p :=
    over_congr fun b hb => h b (hb.trans (above_of_parent? hp).over)
  constructor
  · intro ha
    obtain ⟨p, hp, ho⟩ := Relation.TransGen.head'_iff.mp ha
    have hp : f.parent? n = some p := hn.symm.trans hp
    exact above_of_over_parent ((hup hp).mp ho) hp
  · intro ha
    obtain ⟨p, hp, ho⟩ := Relation.TransGen.head'_iff.mp ha
    exact above_of_over_parent ((hup hp).mpr ho) (hn.trans hp)

/-- A node stays over another if the nodes between the root and the other one keep their parents. -/
theorem over_kept {root a : NodeId}
    (h : ∀ b, f.Above root b → f.Over b n → g.parent? b = f.parent? b)
    (hr : f.Over root a) (hn : f.Over a n) : g.Over a n := by
  induction hn using Relation.ReflTransGen.head_induction_on with
  | refl => exact .refl _
  | @head n p hu ho ih =>
    have hrp : f.Over root p := Relation.ReflTransGen.trans ho hr
    have hk := h n (above_of_over_parent hrp hu) (.refl n)
    have hp := ih fun b hb hbp => h b hb (hbp.above_trans (above_of_parent? hu)).over
    exact (above_of_over_parent hp (hk.trans hu)).over

theorem above_kept {root a : NodeId}
    (h : ∀ b, f.Above root b → f.Over b n → g.parent? b = f.parent? b)
    (hr : f.Above root a) (hn : f.Over a n) : g.Above root a := by
  obtain ⟨p, hu, ho⟩ := Relation.TransGen.head'_iff.mp hr
  have hpn := ((above_of_parent? hu).over_trans hn).over
  have hp : g.Over root p :=
    over_kept (fun b hb hbp => h b hb (hbp.trans hpn)) (.refl _) ho
  exact above_of_over_parent hp ((h a hr hn).trans hu)

/-- What can be moved below a node: an element or a text that does not stand over it. -/
structure Movable (f : Forest) (p n : NodeId) : Prop where
  inside : n < f.size
  notRoot : f.isRoot n = false
  below : ¬ f.Over n p

theorem content?_moveTo {i k : Nat} : (f.moveTo p i n).content? k = f.content? k := by
  unfold moveTo
  rw [content?_place, content?_extract]

@[simp] theorem size_moveTo {i : Nat} : (f.moveTo p i n).size = f.size := by
  simp [moveTo]

/-- A node that is moved has a new parent, all others keep theirs. -/
theorem parent?_moveTo {i k : Nat} (hn : n < f.size) :
    (f.moveTo p i n).parent? k = if k = n then some p else f.parent? k := by
  unfold moveTo
  rw [parent?_place (by simpa using hn), parent?_extract]
  split <;> rfl

/-- A node that is moved leaves the children of its old parent and joins those of the new one. -/
theorem children_moveTo {i k : Nat} (hf : f.WellFormed) (hp : p < f.size) (hk : k ≠ p)
    (hn : f.parent? n ≠ some k) : (f.moveTo p i n).children k = f.children k := by
  unfold moveTo
  rw [children_place (by simpa using hp), if_neg hk]
  cases hq : f.parent? n with
  | none => rw [extract_of_parent?_none hq]
  | some q =>
    rw [children_extract hq (hf.parent_lt_size hq), if_neg]
    rintro rfl
    exact hn hq

/-- Once a node is taken out, there is room for it where it is to go. -/
theorem goal_le_length (hf : f.WellFormed) (hp : p < f.size) (i : Nat) :
    (if f.parent? n = some p ∧ f.indexOf p n < min i (f.children p).length then
      min i (f.children p).length - 1 else min i (f.children p).length) ≤
        ((f.extract n).children p).length := by
  by_cases hn : f.parent? n = some p
  · have hm := (hf.mem_children p n).mpr hn
    have hi : f.indexOf p n < (f.children p).length := List.idxOf_lt_length_of_mem hm
    have hl : ((f.extract n).children p).length = (f.children p).length - 1 := by
      rw [children_extract hn hp, if_pos rfl, List.length_erase_of_mem hm]
    simp only [hn, true_and, hl]
    split <;> omega
  · have hc : (f.extract n).children p = f.children p := by
      cases hq : f.parent? n with
      | none => rw [extract_of_parent?_none hq]
      | some q =>
        rw [children_extract hq (hf.parent_lt_size hq), if_neg]
        rintro rfl
        exact hn hq
    rw [hc, if_neg fun h => hn h.1]
    exact Nat.min_le_right ..

/-- A node can be moved below any node that it does not stand over. -/
theorem WellFormed.moveTo (hf : f.WellFormed) (hp : p < f.size) (hn : f.Movable p n) (i : Nat) :
    (f.moveTo p i n).WellFormed := by
  refine (hf.extract n).place (by simpa using hn.inside) (by simpa using hp)
    (goal_le_length hf hp i) ?_ ?_
  · rw [parent?_extract, if_pos rfl]
  · rw [over_congr fun b hb => ?_]
    · exact hn.below
    · rw [parent?_extract, if_neg]
      rintro rfl
      exact hn.below hb

/-- What can be moved below a node can be moved there also after another such node. -/
theorem Movable.moveTo {m : NodeId} {i : Nat} (hn : f.Movable p n) (hm : f.Movable p m) :
    (f.moveTo p i m).Movable p n := by
  refine ⟨by simpa using hn.inside, ?_, ?_⟩
  · unfold isRoot
    rw [content?_moveTo]
    exact hn.notRoot
  · rw [over_congr fun b hb => ?_]
    · exact hn.below
    · rw [parent?_moveTo hm.inside, if_neg]
      rintro rfl
      exact hm.below hb

/-- A forest is another one with some nodes gathered below a node; these left their places, and no
other node did. -/
structure Gathered (f g : Forest) (p : NodeId) (ns : List NodeId) : Prop where
  wellFormed : g.WellFormed
  size : g.size = f.size
  content : ∀ k, g.content? k = f.content? k
  parent : ∀ k, g.parent? k = if k ∈ ns then some p else f.parent? k

/-- A node that is gathered below another one stands among its children, and there once. -/
theorem Gathered.count_eq_one {ns : List NodeId} (h : f.Gathered g p ns) (hn : n ∈ ns) :
    (g.children p).count n = 1 := by
  refine List.count_eq_one_of_mem (h.wellFormed.nodup p) ?_
  rw [h.wellFormed.mem_children, h.parent, if_pos hn]

end Forest

namespace Edit

open Forest

variable {f : Forest} {n p : NodeId}

theorem move_loose {l₁ l₂ : List NodeId} (hn : f.Loose p n) (hc : f.children p = l₁ ++ l₂) :
    move p l₁.length n f = .ok () (f.place p l₁.length n) := by
  have hne : n ≠ p := fun h => hn.below (h ▸ .refl _)
  have hl : min l₁.length (f.children p).length = l₁.length := by
    simp [hc]
  have hno : ¬ (f.parent? n = some p ∧ f.indexOf p n < l₁.length) := by
    simp [hn.parent]
  have hm : f.moveTo p l₁.length n = f.place p l₁.length n := by
    unfold moveTo
    simp only [hl, if_neg hno, extract_of_parent?_none hn.parent]
  unfold move
  rw [if_neg hne]
  change EStateM.Result.ok () (f.moveTo p l₁.length n) = _
  rw [hm]

theorem insert_loose {l₁ l₂ : List NodeId} (hn : f.Loose p n) (hc : f.children p = l₁ ++ l₂) :
    insert p l₁.length n f = .ok () (f.place p l₁.length n) := by
  have hne : n ≠ p := fun h => hn.below (h ▸ .refl _)
  have hs : f.spread n = [n] := by
    unfold spread
    rw [hn.notRoot]
    rfl
  unfold insert
  rw [if_neg hne]
  change (moveAll p l₁.length (f.spread n)) f = _
  rw [hs]
  unfold moveAll
  change EStateM.bind (move p l₁.length n) _ f = _
  unfold EStateM.bind
  rw [move_loose hn hc]
  rfl

/-- Loose nodes are put among the children of a node, one behind the other. -/
theorem insertFrom_loose {l₁ l₂ new : List NodeId} (hf : f.WellFormed) (hp : p < f.size)
    (hn : ∀ n ∈ new, f.Loose p n) (hd : new.Nodup) (hc : f.children p = l₁ ++ l₂) :
    ∃ g, insertFrom p l₁.length new f = .ok () g ∧ Spliced f g p (l₁ ++ new ++ l₂) := by
  induction new generalizing f l₁ with
  | nil => exact ⟨f, rfl, hf, rfl, fun _ => rfl, by simp [hc], fun _ _ => rfl⟩
  | cons m new ih =>
    have hm := hn m List.mem_cons_self
    have hs := place_spliced hf hp hm hc
    obtain ⟨hmn, hd⟩ := List.nodup_cons.mp hd
    have hc' : (f.place p l₁.length m).children p = (l₁ ++ [m]) ++ l₂ := by
      rw [hs.here, List.append_assoc]
      rfl
    obtain ⟨g, hg, hsg⟩ := ih hs.wellFormed (by simpa using hp)
      (fun n hn' => (hn n (List.mem_cons_of_mem _ hn')).place hm fun h => hmn (h ▸ hn')) hd hc'
    refine ⟨g, ?_, ?_⟩
    · unfold insertFrom
      change EStateM.bind (insert p l₁.length m) _ f = _
      unfold EStateM.bind
      rw [insert_loose hm hc]
      rw [List.length_append] at hg
      exact hg
    · have ht := hs.trans hsg
      simpa using ht

/-- A node gives way to others unless they are the node alone. -/
theorem replaceWith_eq {new : List NodeId} (hp : f.parent? n = some p) (hn : p ∉ new) :
    replaceWith n new f = if new = [n] then .ok () f
      else insertFrom p (f.indexOf p n) new (f.extract n) := by
  have hg : (get : Edit Forest) f = .ok f f := rfl
  unfold replaceWith
  change EStateM.bind get _ f = _
  unfold EStateM.bind
  rw [hg]
  simp only [hp, if_neg hn]
  split <;> rfl

/-- Loose nodes are put into the place of a node. -/
theorem replaceWith_loose {l₁ l₂ new : List NodeId} (hf : f.WellFormed)
    (hn : ∀ m ∈ new, f.Loose n m) (hd : new.Nodup) (hc : f.children p = l₁ ++ n :: l₂) :
    ∃ g, replaceWith n new f = .ok () g ∧ Spliced f g p (l₁ ++ new ++ l₂) := by
  have hp : f.parent? n = some p := by
    rw [← hf.mem_children, hc]
    simp
  have hself : new ≠ [n] := by
    rintro rfl
    exact (hn n (by simp)).below (.refl _)
  have hparent : p ∉ new := fun h => (hn p h).below (above_of_parent? hp).over
  have hs := extract_spliced hf hc
  obtain ⟨g, hg, hsg⟩ := insertFrom_loose hs.wellFormed
    (by rw [hs.size]; exact hf.parent_lt_size hp) (fun m hm => (hn m hm).extract hp) hd hs.here
  refine ⟨g, ?_, hs.trans hsg⟩
  rw [replaceWith_eq hp hparent, if_neg hself, indexOf_eq hf hc]
  exact hg

theorem insert_movable {i : Nat} (hn : f.Movable p n) :
    insert p i n f = .ok () (f.moveTo p i n) := by
  have hne : n ≠ p := fun h => hn.below (h ▸ .refl _)
  have hs : f.spread n = [n] := by
    unfold spread
    rw [hn.notRoot]
    rfl
  have hm : move p i n f = .ok () (f.moveTo p i n) := by
    unfold move
    rw [if_neg hne]
    rfl
  unfold insert
  rw [if_neg hne]
  change (moveAll p i (f.spread n)) f = _
  rw [hs]
  change EStateM.bind (move p i n) _ f = _
  unfold EStateM.bind
  rw [hm]
  rfl

/-- Nodes that can be moved below a node are gathered there, however often each of them is named. -/
theorem insertFrom_gathers {new : List NodeId} (hf : f.WellFormed) (hp : p < f.size)
    (hn : ∀ n ∈ new, f.Movable p n) (i : Nat) :
    ∃ g, insertFrom p i new f = .ok () g ∧ f.Gathered g p new := by
  induction new generalizing f i with
  | nil => exact ⟨f, rfl, hf, rfl, fun _ => rfl, fun _ => by simp⟩
  | cons m new ih =>
    have hm := hn m List.mem_cons_self
    obtain ⟨g, hg, hw, hs, hc, hk⟩ := ih (hf.moveTo hp hm i) (by simpa using hp)
      (fun n h => (hn n (List.mem_cons_of_mem _ h)).moveTo hm) (i + 1)
    refine ⟨g, ?_, hw, hs.trans size_moveTo, fun k => (hc k).trans content?_moveTo, fun k => ?_⟩
    · unfold insertFrom
      change EStateM.bind (insert p i m) _ f = _
      unfold EStateM.bind
      rw [insert_movable hm]
      exact hg
    · rw [hk, parent?_moveTo hm.inside]
      by_cases hkm : k = m
      · simp [hkm]
      · simp [hkm]

/-- Nodes that are moved below a node leave the children of no other node but their old parents. -/
theorem insertFrom_children {new : List NodeId} {k : NodeId} (hf : f.WellFormed) (hp : p < f.size)
    (hn : ∀ n ∈ new, f.Movable p n) (hk : k ≠ p) (hc : ∀ n ∈ new, f.parent? n ≠ some k) {i : Nat}
    {g : Forest} (h : insertFrom p i new f = .ok () g) : g.children k = f.children k := by
  induction new generalizing f i with
  | nil =>
    cases h
    rfl
  | cons m new ih =>
    have hm := hn m List.mem_cons_self
    unfold insertFrom at h
    change EStateM.bind (insert p i m) _ f = _ at h
    unfold EStateM.bind at h
    rw [insert_movable hm] at h
    rw [ih (hf.moveTo hp hm i) (by simpa using hp)
      (fun n hn' => (hn n (List.mem_cons_of_mem _ hn')).moveTo hm) (fun n hn' => ?_) h,
      children_moveTo hf hp hk (hc m List.mem_cons_self)]
    rw [parent?_moveTo hm.inside]
    split
    · exact fun he => hk (Option.some.inj he).symm
    · exact hc n (List.mem_cons_of_mem _ hn')

/-- What does not stand above a node can be moved below its parent once the node is taken out. -/
theorem movable_extract {m : NodeId} (hf : f.WellFormed) (hp : f.parent? n = some p)
    (hm : m < f.size ∧ f.isRoot m = false ∧ ¬ f.Above m n) : (f.extract n).Movable p m := by
  obtain ⟨hin, hroot, hup⟩ := hm
  refine ⟨by simpa using hin, ?_, ?_⟩
  · unfold isRoot
    rw [content?_extract]
    exact hroot
  · -- the way up from the parent does not lead through the node
    rw [over_congr fun b hb => ?_]
    · exact fun ho => hup (above_of_over_parent ho hp)
    · rw [parent?_extract, if_neg]
      rintro rfl
      exact hf.acyclic b (above_of_over_parent hb hp)

/-- Nodes that do not stand above a node are gathered in its place; the node itself stands nowhere then,
unless it is one of them. -/
theorem replaceWith_gathers {new : List NodeId} (hf : f.WellFormed) (hp : f.parent? n = some p)
    (hn : ∀ m ∈ new, m < f.size ∧ f.isRoot m = false ∧ ¬ f.Above m n) :
    ∃ g, replaceWith n new f = .ok () g ∧ (f.extract n).Gathered g p new := by
  have hparent : p ∉ new := fun h => (hn p h).2.2 (above_of_parent? hp)
  rw [replaceWith_eq hp hparent]
  by_cases hself : new = [n]
  · rw [if_pos hself]
    refine ⟨f, rfl, hf, size_extract.symm, fun _ => content?_extract.symm, fun k => ?_⟩
    rw [hself, parent?_extract]
    by_cases hk : k = n
    · simp [hk, hp]
    · simp [hk]
  · rw [if_neg hself]
    refine insertFrom_gathers (hf.extract n) ?_ (fun m hm => movable_extract hf hp (hn m hm)) _
    rw [size_extract]
    exact hf.parent_lt_size hp

/-- Nodes that take the place of another one leave the children of no node but its parent and their own
old parents. -/
theorem replaceWith_children {new : List NodeId} {k : NodeId} {g : Forest} (hf : f.WellFormed)
    (hp : f.parent? n = some p) (hn : ∀ m ∈ new, m < f.size ∧ f.isRoot m = false ∧ ¬ f.Above m n)
    (hk : k ≠ p) (hc : ∀ m ∈ new, f.parent? m ≠ some k) (h : replaceWith n new f = .ok () g) :
    g.children k = f.children k := by
  have hparent : p ∉ new := fun h => (hn p h).2.2 (above_of_parent? hp)
  have hps := hf.parent_lt_size hp
  rw [replaceWith_eq hp hparent] at h
  by_cases hself : new = [n]
  · rw [if_pos hself] at h
    cases h
    rfl
  · rw [if_neg hself] at h
    rw [insertFrom_children (hf.extract n) (by simpa using hps)
      (fun m hm => movable_extract hf hp (hn m hm)) hk (fun m hm => ?_) h,
      children_extract hp hps, if_neg hk]
    rw [parent?_extract]
    split
    · exact nofun
    · exact hc m hm

end Edit

end LiveMarkdown.Document
