import LiveMarkdown.Document.Builder
import LiveMarkdown.Proofs.Recognition

/-!
Documents that are read from a text. Whatever the text is, its elements and texts form a tree, and no
element has two attributes of one name.
-/

namespace LiveMarkdown.Document

variable {attrs : List (String × AttrValue)}

theorem nodup_setAttribute {as : List (String × String)} (h : (as.map Prod.fst).Nodup)
    (name v : String) : ((Fragment.setAttribute as name v).map Prod.fst).Nodup := by
  unfold Fragment.setAttribute
  split
  · rw [List.map_map]
    have he : as.map (Prod.fst ∘ fun a => if a.1 == name then (name, v) else a) =
        as.map Prod.fst := by
      refine List.map_congr_left fun a _ => ?_
      by_cases ha : a.1 = name <;> simp [ha]
    rwa [he]
  · rename_i hno
    have hn : name ∉ as.map Prod.fst := by
      intro hm
      obtain ⟨a, ha, rfl⟩ := List.mem_map.mp hm
      exact hno (List.any_eq_true.mpr ⟨a, ha, by simp⟩)
    rw [List.map_append, List.nodup_append]
    refine ⟨h, List.nodup_singleton name, fun a ha b hb hab => hn ?_⟩
    obtain rfl : b = name := by simpa using hb
    exact hab ▸ ha

theorem nodup_lastOfEach (attrs : List (String × String)) :
    ((lastOfEach attrs).map Prod.fst).Nodup := by
  have hfold (seen : List (String × String)) (hs : (seen.map Prod.fst).Nodup) :
      ((Fragment.mergeAttributes seen attrs).map Prod.fst).Nodup := by
    induction attrs generalizing seen with
    | nil => exact hs
    | cons a attrs ih => exact ih _ (nodup_setAttribute hs a.1 a.2)
  exact hfold [] List.nodup_nil

theorem metaAttrs_names : (metaAttrs attrs).map Prod.fst = attrs.map Prod.fst := by
  have hset (name : String) (v : AttrValue) :
      (attrs.map fun a => if a.1 == name then (name, v) else a).map Prod.fst =
        attrs.map Prod.fst := by
    rw [List.map_map]
    refine List.map_congr_left fun a _ => ?_
    by_cases ha : a.1 = name <;> simp [ha]
  unfold metaAttrs
  dsimp only
  split
  · exact hset _ _
  · split
    · split
      · exact hset _ _
      · rfl
    · rfl

theorem nodup_tagOf (splits : Bool) (name : String) (attrs : List (String × String)) :
    ((tagOf splits name (lastOfEach attrs)).attrs.map Prod.fst).Nodup := by
  have h := nodup_lastOfEach attrs
  unfold tagOf
  dsimp only
  split
  · rw [metaAttrs_names, List.map_map]
    exact h
  · rw [List.map_map]
    exact h

namespace Forest

variable {f g : Forest} {n p : NodeId} {x : Content}

theorem ext_node? (h : ∀ n, f.node? n = g.node? n) : f = g := by
  cases f
  cases g
  exact congrArg _ (Array.ext_getElem? h)

/-- A forest with a new node at the end of the children of another one. -/
def append (f : Forest) (p : NodeId) (x : Content) : Forest :=
  (f.grow #[⟨x, none, []⟩]).place p (f.children p).length f.size

@[simp] theorem size_append : (f.append p x).size = f.size + 1 := by
  simp [append]

theorem append_eq (hp : p < f.size) : f.append p x =
    ((f.grow #[⟨x, none, []⟩]).modify f.size fun d => { d with parent := some p }).modify p
      fun d => { d with children := d.children ++ [f.size] } := by
  refine ext_node? fun k => ?_
  unfold append place
  rw [node?_modify, node?_modify, node?_modify, node?_modify]
  by_cases hk : p = k
  · subst hk
    have hne : f.size ≠ p := Nat.ne_of_gt hp
    rw [if_pos rfl, if_pos rfl, if_neg hne, if_neg hne, node?_grow hp, children_eq]
    cases f.node? p with
    | none => rfl
    | some d => simp [List.insertIdx_length_self]
  · simp [hk]

theorem WellFormed.append (hf : f.WellFormed) (hp : p < f.size) (x : Content) :
    (f.append p x).WellFormed := by
  have hover : ¬ (f.grow #[⟨x, none, []⟩]).Over f.size p := by
    intro h
    obtain h | h := h.eq_or_above
    · exact Nat.lt_irrefl p (h ▸ hp)
    · rw [above_grow hf hp] at h
      obtain ⟨q, -, hq⟩ := Relation.TransGen.tail'_iff.mp h
      exact Nat.lt_irrefl _ (hf.parent_lt_size hq)
  refine (hf.alloc x).place (by simp) ?_ ?_ (parent?_alloc x) hover
  · rw [size_grow]
    exact Nat.lt_add_right _ hp
  · rw [children_grow hp]

theorem DistinctNames.alloc (hf : f.DistinctNames)
    (hx : ∀ t, x = .tag t → (t.attrs.map Prod.fst).Nodup) :
    (f.grow #[⟨x, none, []⟩]).DistinctNames := by
  intro n t ht
  obtain hn | rfl | hn := Nat.lt_trichotomy n f.size
  · unfold tag? at ht
    rw [content?_grow hn] at ht
    exact hf n t ht
  · unfold tag? at ht
    rw [content?_alloc] at ht
    cases x with
    | tag u =>
      cases ht
      exact hx t rfl
    | root => cases ht
    | text kind s => cases ht
  · have hout : (f.grow #[⟨x, none, []⟩]).node? n = none := by
      rw [node?_eq_none, size_grow]
      exact hn
    unfold tag? content? at ht
    rw [hout] at ht
    cases ht

theorem DistinctNames.append (hf : f.DistinctNames) (p : NodeId)
    (hx : ∀ t, x = .tag t → (t.attrs.map Prod.fst).Nodup) : (f.append p x).DistinctNames := by
  intro k t ht
  unfold tag? Forest.append at ht
  rw [content?_place] at ht
  exact hf.alloc hx k t ht

end Forest

namespace Builder

variable {b : Builder}

/-- What has been built is a tree, and all open elements stand in it. -/
structure Sound (b : Builder) : Prop where
  wellFormed : b.forest.WellFormed
  distinct : b.forest.DistinctNames
  root : b.root < b.forest.size
  opened : ∀ o ∈ b.opened, o.1 < b.forest.size

theorem Sound.current (h : b.Sound) : b.current < b.forest.size := by
  unfold Builder.current
  split
  · rename_i ho
    exact h.opened _ (ho ▸ List.mem_cons_self)
  · exact h.root

theorem add_eq (hb : b.current < b.forest.size) (x : Content) :
    b.add x = (b.forest.size, { b with forest := b.forest.append b.current x }) := by
  rw [Forest.append_eq hb]
  unfold Builder.add
  rw [Forest.alloc_eq]

theorem Sound.add (h : b.Sound) {x : Content}
    (hx : ∀ t, x = .tag t → (t.attrs.map Prod.fst).Nodup) : (b.add x).2.Sound ∧
      (b.add x).1 < (b.add x).2.forest.size := by
  have hs : b.forest.size < (b.forest.append b.current x).size := by
    simp
  rw [add_eq h.current]
  refine ⟨⟨h.wellFormed.append h.current x, h.distinct.append _ hx, ?_, fun o ho => ?_⟩, hs⟩
  · exact Nat.lt_trans h.root hs
  · exact Nat.lt_trans (h.opened o ho) hs

theorem Sound.flush (h : b.Sound) (kind : TextKind) : (b.flush kind).Sound := by
  unfold Builder.flush
  split
  · exact h
  · have hp : Sound { b with pending := none } := ⟨h.wellFormed, h.distinct, h.root, h.opened⟩
    exact (hp.add fun t ht => by cases ht).1

theorem Sound.addText (h : b.Sound) (cs : List Char) : (b.addText cs).Sound :=
  ⟨h.wellFormed, h.distinct, h.root, h.opened⟩

theorem Sound.addPiece (h : b.Sound) (kind : TextKind) (cs : List Char) :
    (b.addPiece kind cs).Sound := ((h.flush .plain).addText cs).flush kind

theorem Sound.openTag (h : b.Sound) (name : String) (attrs : List (String × String)) :
    (b.openTag name attrs).Sound := by
  obtain ⟨ha, hn⟩ := (h.flush .plain).add (x := .tag (tagOf (b.flush .plain).splitTokens name
    (lastOfEach attrs))) fun t ht => by
      cases ht
      exact nodup_tagOf _ name attrs
  refine ⟨ha.wellFormed, ha.distinct, ha.root, fun o ho => ?_⟩
  obtain rfl | ho := List.mem_cons.mp ho
  · exact hn
  · exact ha.opened o ho

theorem Sound.closeTag (h : b.Sound) (name : String) : (b.closeTag name).Sound := by
  have hf := h.flush .plain
  unfold Builder.closeTag
  dsimp only
  split
  · refine ⟨hf.wellFormed, hf.distinct, hf.root, fun o ho => hf.opened o ?_⟩
    exact (List.dropWhile_suffix _).subset (List.mem_of_mem_drop ho)
  · exact hf

theorem Sound.endTag (h : b.Sound) (name : String) : (b.endTag name).Sound := by
  unfold Builder.endTag
  split
  · exact ⟨h.wellFormed, h.distinct, h.root, h.opened⟩
  · exact h.closeTag name

theorem Sound.step (h : b.Sound) (e : Event) : (b.step e).Sound := by
  cases e with
  | «open» name attrs =>
    have ho := h.openTag name attrs
    unfold Builder.step
    dsimp only
    split
    · have hc := ho.closeTag name
      exact ⟨hc.wellFormed, hc.distinct, hc.root, hc.opened⟩
    · exact ho
  | empty name attrs => exact (h.openTag name attrs).endTag name
  | close name => exact h.endTag name
  | text cs => exact h.addText cs
  | charRef digits => exact h.addText _
  | entityRef name => exact h.addText _
  | comment cs => exact h.addPiece _ cs
  | doctype cs => exact h.addPiece _ cs
  | declaration cs =>
    unfold Builder.step
    dsimp only
    split
    · exact h.addPiece _ _
    · exact h.addPiece _ _
  | instruction cs => exact h.addPiece _ cs

theorem Sound.run (h : b.Sound) (es : List Event) : (es.foldl Builder.step b).Sound := by
  induction es generalizing b with
  | nil => exact h
  | cons e es ih => exact ih (h.step e)

end Builder

/-- Reading a text keeps a forest well formed. -/
theorem Forest.read_sound {f g : Forest} {splits : Bool} {html : String} {root : NodeId}
    (hf : f.WellFormed) (hd : f.DistinctNames) (h : f.read splits html = .ok (root, g)) :
    g.WellFormed ∧ g.DistinctNames := by
  unfold Forest.read at h
  cases hes : readEvents html.toList with
  | error e =>
    rw [hes] at h
    cases h
  | ok es =>
    rw [hes, alloc_eq] at h
    cases h
    have hb : Builder.Sound ⟨f.grow #[⟨.root, none, []⟩], f.size, [], none, [], splits⟩ :=
      ⟨hf.alloc .root, hd.alloc (fun t ht => by cases ht), by simp, nofun⟩
    have hend := (hb.run es).flush .plain
    exact ⟨hend.wellFormed, hend.distinct⟩

end LiveMarkdown.Document
