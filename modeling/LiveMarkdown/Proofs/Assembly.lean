import LiveMarkdown.Proofs.Flattening
import LiveMarkdown.Proofs.Splice

/-!
Elements made of nodes. The nodes are moved below the new element one after the other, each of them to
the end, wherever it stood before; so a node that is named more than once stays where it was put last,
and no other list of children has anything but the nodes taken from it.
-/

namespace LiveMarkdown

open Document (NodeId Forest Content)
open Document.Forest (without settle)
open Script (Machine Run Stop Value World Ref Object Retains)

namespace Document.Forest

variable {f g h : Forest} {ns ms : List NodeId} {p c k n : NodeId}

/-! ### Nodes that have left their places -/

/-- Some nodes have left their places, and there may be new nodes; apart from that a forest is as it
was. -/
structure Departed (f g : Forest) (ns : List NodeId) : Prop where
  wellFormed : g.WellFormed
  size : f.size ≤ g.size
  content : ∀ k < f.size, g.content? k = f.content? k
  children : ∀ k < f.size, g.children k = without (f.children k) ns

theorem Departed.trans (hg : Departed f g ns) (hh : Departed g h ms) : Departed f h (ns ++ ms) where
  wellFormed := hh.wellFormed
  size := hg.size.trans hh.size
  content k hk := (hh.content k (hk.trans_le hg.size)).trans (hg.content k hk)
  children k hk := by
    rw [hh.children k (hk.trans_le hg.size), hg.children k hk, without_without]

/-- Only nodes that were there can have left their places. -/
theorem Departed.congr (hf : f.WellFormed) (hg : Departed f g ns)
    (hm : ∀ n < f.size, n ∈ ns ↔ n ∈ ms) : Departed f g ms where
  wellFormed := hg.wellFormed
  size := hg.size
  content := hg.content
  children k hk := by
    rw [hg.children k hk]
    refine List.filter_congr fun n hn => ?_
    rw [decide_eq_decide, hm n (lt_size_of_parent? ((hf.mem_children k n).mp hn))]

theorem Departed.content_some {x : Content} (hg : Departed f g ns) (hc : f.content? k = some x) :
    g.content? k = some x := by
  rw [hg.content k (lt_size_of_content? hc), hc]

theorem Departed.name? (hg : Departed f g ns) (hk : k < f.size) : g.name? k = f.name? k := by
  unfold Forest.name? Forest.tag?
  rw [hg.content k hk]

theorem Departed.of_extends {w w' : Script.World} (h : Extends w w') (hf : w.forest.WellFormed) :
    Departed w.forest w'.forest [] where
  wellFormed := h.wellFormed hf
  size := h.size_le
  content _ hk := h.content? hk
  children _ hk := by rw [h.children hk, without_nil]

/-! ### Moves to the end -/

/-- Nodes that can be moved below a node one after the other. -/
structure Gatherable (f : Forest) (p : NodeId) (ns : List NodeId) : Prop where
  wellFormed : f.WellFormed
  inside : p < f.size
  movable : ∀ n ∈ ns, f.Movable p n

theorem Gatherable.step {i : Nat} (h : f.Gatherable p (c :: ns)) :
    (f.moveTo p i c).Gatherable p ns where
  wellFormed := h.wellFormed.moveTo h.inside (h.movable c List.mem_cons_self) i
  inside := by simpa using h.inside
  movable n hn := (h.movable n (List.mem_cons_of_mem c hn)).moveTo (h.movable c List.mem_cons_self)

/-- A forest is another one with nodes moved to the end of the children of a node, in their order. Of a
node that is named more than once the last time counts. -/
structure Appended (f g : Forest) (p : NodeId) (ns : List NodeId) : Prop where
  wellFormed : g.WellFormed
  size : g.size = f.size
  content : ∀ k, g.content? k = f.content? k
  parent : ∀ k ∉ ns, g.parent? k = f.parent? k
  here : g.children p = without (f.children p) ns ++ ns.dedup
  elsewhere : ∀ k, k ≠ p → g.children k = without (f.children k) ns

theorem Appended.nil (hf : f.WellFormed) : Appended f f p [] :=
  ⟨hf, rfl, fun _ => rfl, fun _ _ => rfl, by simp, fun _ _ => without_nil.symm⟩

theorem without_dedup_cons (cs : List NodeId) :
    without (without cs [c] ++ [c]) ns ++ ns.dedup = without cs (c :: ns) ++ (c :: ns).dedup := by
  rw [without_append, without_singleton_without, List.append_assoc]
  by_cases hc : c ∈ ns
  · rw [without_cons_of_mem hc, List.dedup_cons_of_mem hc]
    rfl
  · rw [without_cons_of_notMem hc, List.dedup_cons_of_notMem hc]
    rfl

/-- The first node goes to the end, and the others come behind it. -/
theorem Appended.cons (hs : f.Gatherable p (c :: ns))
    (h : Appended (f.moveTo p (f.children p).length c) g p ns) : Appended f g p (c :: ns) where
  wellFormed := h.wellFormed
  size := h.size.trans size_moveTo
  content k := (h.content k).trans content?_moveTo
  parent k hk := by
    obtain ⟨hkc, hk⟩ := List.ne_and_not_mem_of_not_mem_cons hk
    rw [h.parent k hk, parent?_moveTo (hs.movable c List.mem_cons_self).inside, if_neg hkc]
  here := by
    have hend : settle (f.children p) (f.children p).length c = without (f.children p) [c] ++ [c] := by
      simp [settle]
    rw [h.here, moveTo_settles hs.wellFormed hs.inside, hend, without_dedup_cons]
  elsewhere k hk := by
    rw [h.elsewhere k hk, moveTo_elsewhere hs.wellFormed hs.inside hk, without_singleton_without]

end Document.Forest

open Document.Forest (Departed Gatherable Appended)

namespace Script.Element

variable {m : Machine} {w w' : World} {p c : NodeId} {ns : List NodeId} {g : Forest}

theorem edit_ok {e : Document.Edit Unit} (h : e w.forest = .ok () g) :
    edit e w = .ok () { w with forest := g } := by
  have he : e.run w.forest = .ok () g := h
  unfold edit
  rw [bind_of_ok (Run.forest_apply w), he]
  rfl

theorem append_apply (h : w.forest.Movable p c) : append p c w =
    .ok () { w with forest := w.forest.moveTo p (w.forest.children p).length c } :=
  edit_ok ((bind_of_ok get_apply).trans (Document.Edit.insert_movable h))

/-- Appends nodes one after the other. -/
def appendAll (p : NodeId) (ns : List NodeId) : Run Unit := do
  for c in ns do append p c

theorem appendAll_cons : appendAll p (c :: ns) = (do
    append p c
    appendAll p ns) := by
  simp [appendAll]

theorem appendAll_appends (h : w.forest.Gatherable p ns) :
    ∃ g, appendAll p ns w = .ok () { w with forest := g } ∧ Appended w.forest g p ns := by
  induction ns generalizing w with
  | nil => exact ⟨w.forest, rfl, .nil h.wellFormed⟩
  | cons c ns ih =>
    have ha := append_apply (h.movable c List.mem_cons_self)
    obtain ⟨g, hg, hs⟩ := ih (w := { w with
      forest := w.forest.moveTo p (w.forest.children p).length c }) h.step
    refine ⟨g, ?_, .cons h hs⟩
    rw [appendAll_cons, bind_of_ok ha]
    exact hg

theorem make_eq (name : Value) (children : List Value) (attrs : List (String × Value)) :
    make m name children attrs = (do
      let as ← attributes m attrs
      let n ← newElement m name as !as.isEmpty
      let ns ← flatten m children
      appendAll n ns
      return .node n) := by
  simp [make, appendAll]

/-! ### Attributes that are read without more -/

/-- A text or a number that is no instance of a class of the program. -/
def Plain (v : Value) (w : World) : Prop := Written v w ∧ ∀ r, v ≠ .ref r

/-- The value of an attribute: nothing, or a plain text or number, or a list of these. -/
def Simple (v : Value) (w : World) : Prop :=
  v = .none ∨ Plain v w ∨ ∃ items, Grouped v items w ∧ ∀ x ∈ items, Plain x w

/-- To read attributes does no more than to add, also when nodes have been moved. -/
def Mild (m : Machine) (w : World) (attrs : List (String × Value)) : Prop :=
  ∀ u, Retains w u → Extends u (worldAfter (attributes m attrs u))

section Attributes

variable {i : Nat} {v : Value} {items : List Value} {attrs : List (String × Value)} {u : World}

theorem texts_extending (h : ∀ x ∈ items, Plain x w) :
    Extending (items.mapM (machine (i + 2)).text) := by
  induction items with
  | nil => exact .pure []
  | cons x items ih =>
    obtain ⟨⟨hw, hr⟩, h⟩ := List.forall_mem_cons.mp h
    rw [List.mapM_cons]
    exact (hw.extending hr).bind fun _ => (ih h).bind fun _ => .pure _

theorem attrText_extends (hv : Simple v w) (h : Retains w u) :
    Extends u (worldAfter (attrText (machine (i + 2)) v u)) := by
  obtain rfl | ⟨hw, hr⟩ | ⟨items, hg, hi⟩ := hv
  · exact .refl u
  · have hl := listItems?_leaf (hw.isLeaf.retained h)
    have hx := ((hw.extending (d := i) hr).bind fun s => .pure (some s)) u
    cases v with
    | bool b => cases b <;> exact .refl u
    | none => exact .refl u
    | _ =>
      unfold attrText
      simp only
      rw [bind_of_ok hl]
      exact hx
  · have hl := listItems?_grouped (hg.retained h)
    have hx := ((texts_extending (i := i) hi).bind fun ss =>
      (.pure (some (" ".intercalate ss)))) u
    cases v with
    | none | bool _ => obtain h | ⟨r, h, -⟩ := hg <;> cases h
    | _ =>
      unfold attrText
      simp only
      rw [bind_of_ok hl]
      exact hx

/-- Simple attributes are read without more. -/
theorem mild_of_simple (h : ∀ a ∈ attrs, Simple a.2 w) : Mild (machine (i + 2)) w attrs := by
  intro u hu
  unfold attributes
  refine Extends.bind ?_ fun pairs u' _ => .refl u'
  induction attrs generalizing u with
  | nil => exact .refl u
  | cons a attrs ih =>
    obtain ⟨ha, h⟩ := List.forall_mem_cons.mp h
    have hx : Extends u (worldAfter ((attrText (machine (i + 2)) a.2 >>= fun s =>
        pure (s.map fun t => (attrName a.1, t))) u)) :=
      (attrText_extends ha hu).bind fun _ u' _ => .refl u'
    rw [List.filterMapM_cons]
    refine hx.bind fun o u₁ ho => ?_
    have hu₁ := hu.trans (worldAfter_ok ho hx).retains
    cases o with
    | none => exact ih h u₁ hu₁
    | some b => exact (ih h u₁ hu₁).bind fun _ u' _ => .refl u'

end Attributes

/-! ### A new element -/

/-- A new element of a forest that stands nowhere. -/
structure NewTag (f g : Forest) (t : Document.Tag) (n : NodeId) (cs : List NodeId) : Prop where
  fresh : f.size ≤ n
  content : g.content? n = some (.tag t)
  parent : g.parent? n = none
  children : g.children n = cs

/-- A world with one more element. -/
def withTag (t : Document.Tag) (w : World) : World :=
  { w with forest := w.forest.grow #[⟨.tag t, none, []⟩] }

theorem extends_withTag (t : Document.Tag) (w : World) : Extends w (withTag t w) := .alloc _ w

section

variable {name : Value} {s : String} {as : List (String × String)} {attrs : List (String × Value)}
  {children : List Value} {u w₁ : World}

theorem newElement_apply (hn : Kind.basic name w = .ok (.str s) w) (b : Bool) :
    newElement m name as b w = .ok w.forest.size (withTag (Document.tagOf true s as) w) := by
  unfold newElement
  rw [bind_of_ok hn]
  exact newNode_apply _ w

/-- The nodes of the children are moved below the new element. -/
theorem make_builds (ha : attributes m attrs w = .ok as w₁)
    (hn : Kind.basic name w₁ = .ok (.str s) w₁) (hf : w₁.forest.WellFormed)
    (hns : flatten m children (withTag (Document.tagOf true s as) w₁) = .ok ns u)
    (hu : Extends (withTag (Document.tagOf true s as) w₁) u)
    (hin : ∀ c ∈ ns, c < u.forest.size ∧ u.forest.isRoot c = false ∧ c ≠ w₁.forest.size) :
    ∃ g, make m name children attrs w = .ok (.node w₁.forest.size) { u with forest := g } ∧
      NewTag w₁.forest g (Document.tagOf true s as) w₁.forest.size ns.dedup ∧
      Departed w₁.forest g ns ∧ ∀ k, g.content? k = u.forest.content? k := by
  let n := w₁.forest.size
  have hlt : n < (withTag (Document.tagOf true s as) w₁).forest.size := by simp [n, withTag]
  have hin' : n < u.forest.size := hlt.trans_le hu.size_le
  have hwf : u.forest.WellFormed := hu.wellFormed (hf.alloc _)
  have hp : u.forest.parent? n = none := by
    rw [hu.parent? hlt]
    exact Forest.parent?_alloc _
  have hc : u.forest.children n = [] := by
    rw [hu.children hlt]
    exact Forest.children_alloc _
  -- what stands over the new element is the element itself
  have hmov (c : NodeId) (h : c ∈ ns) : u.forest.Movable n c := by
    obtain ⟨hlt, hroot, hne⟩ := hin c h
    refine ⟨hlt, hroot, fun ho => ?_⟩
    obtain he | ha := ho.eq_or_above
    · exact hne he
    · exact Forest.not_above_of_parent?_none hp ha
  obtain ⟨g, hg, happ⟩ := appendAll_appends (w := u) ⟨hwf, hin', hmov⟩
  refine ⟨g, ?_, ⟨Nat.le_refl n, ?_, ?_, ?_⟩, ⟨happ.wellFormed, ?_, fun k hk => ?_, fun k hk => ?_⟩,
    happ.content⟩
  · rw [make_eq, bind_of_ok ha, bind_of_ok (newElement_apply hn _), bind_of_ok hns, bind_of_ok hg]
    rfl
  · rw [happ.content, hu.content? hlt]
    exact Forest.content?_alloc _
  · rw [happ.parent n fun h => (hin n h).2.2 rfl, hp]
  · rw [happ.here, hc]
    rfl
  · rw [happ.size]
    exact hin'.le
  · rw [happ.content, ((extends_withTag _ w₁).trans hu).content? hk]
  · rw [happ.elsewhere k hk.ne, ((extends_withTag _ w₁).trans hu).children hk]

end

theorem refuseNamed_ok {method : String} {params : List String} {attrs : List (String × Value)}
    (h : refuseNamed method params attrs w = .ok () w') : w' = w := by
  unfold refuseNamed at h
  cases hf : attrs.find? fun a => params.contains a.1 with
  | none =>
    rw [hf] at h
    cases h
    rfl
  | some a =>
    obtain ⟨u, -, he, -⟩ :=
      Run.raise_apply "TypeError" s!"ElementFactory.{method}() got multiple values for argument '{a.1}'" w
    rw [hf] at h
    cases (he Unit).symm.trans h

/-! ### The entries of a list -/

/-- What holds a node in a list: the node, if it is a list item, or else a new list item around it. -/
def Holds (f g : Forest) (k e : NodeId) : Prop :=
  f.name? k = some "li" ∧ e = k ∨ f.name? k ≠ some "li" ∧
    f.size ≤ e ∧ g.content? e = some (.tag (Document.tagOf true "li" [])) ∧ g.children e = [k]

theorem flatten_nodes (ks : List NodeId) : flatten m (ks.map .node) w = .ok ks w := by
  rw [flatten_eq]
  induction ks with
  | nil => rfl
  | cons k ks ih =>
    have hk : leaves m depthLimit (.node k) w = .ok [k] w := rfl
    rw [List.map_cons, convert_cons, bind_of_ok hk, bind_of_ok ih]
    rfl

theorem entry_item {k : NodeId} (h : w.forest.name? k = some "li") :
    entry m k w = .ok (.node k) w := by
  unfold entry
  rw [bind_of_ok (Run.forest_apply w), h]
  rfl

theorem entry_wraps {k : NodeId} (hf : w.forest.WellFormed) (hk : k < w.forest.size)
    (hr : w.forest.isRoot k = false) (h : w.forest.name? k ≠ some "li") :
    ∃ g, entry m k w = .ok (.node w.forest.size) { w with forest := g } ∧
      NewTag w.forest g (Document.tagOf true "li" []) w.forest.size [k] ∧
      Departed w.forest g [k] := by
  let t := Document.tagOf true "li" []
  have hroot : (withTag t w).forest.isRoot k = false := by
    rw [Forest.isRoot_congr ((extends_withTag t w).content? hk), hr]
  have ha : attributes m [] w = .ok [] w := rfl
  have hname : Kind.basic (.str "li") w = .ok (.str "li") w := rfl
  have hns : flatten m [.node k] (withTag t w) = .ok [k] (withTag t w) := flatten_nodes [k]
  obtain ⟨g, hg, hn, hd, -⟩ := make_builds ha hname hf hns (.refl _) fun c hc => by
    obtain rfl := List.mem_singleton.mp hc
    exact ⟨hk.trans_le (extends_withTag t w).size_le, hroot, hk.ne⟩
  refine ⟨g, ?_, hn, hd⟩
  unfold entry
  rw [bind_of_ok (Run.forest_apply w), if_neg (by simpa using h)]
  exact hg

/-- An entry is one of the nodes, and a list item, or it is new. -/
theorem Holds.mem {f : Forest} {es : List NodeId} (h : List.Forall₂ (Holds f g) ns es) :
    ∀ e ∈ es, e ∈ ns ∧ f.name? e = some "li" ∨ f.size ≤ e := by
  induction h with
  | nil => simp
  | cons hk _ ih =>
    refine List.forall_mem_cons.mpr ⟨?_, fun e he => (ih e he).imp_left fun h =>
      ⟨List.mem_cons_of_mem _ h.1, h.2⟩⟩
    obtain ⟨hli, rfl⟩ | ⟨-, hle, -⟩ := hk
    · exact .inl ⟨List.mem_cons_self, hli⟩
    · exact .inr hle

theorem Holds.exists_mem {f : Forest} {es : List NodeId} {k : NodeId}
    (h : List.Forall₂ (Holds f g) ns es) (hk : k ∈ ns) : ∃ e ∈ es, Holds f g k e := by
  induction h with
  | nil => cases hk
  | cons he _ ih =>
    obtain rfl | hk := List.mem_cons.mp hk
    · exact ⟨_, List.mem_cons_self, he⟩
    · obtain ⟨e, hm, he⟩ := ih hk
      exact ⟨e, List.mem_cons_of_mem _ hm, he⟩

theorem Holds.imp {f f' g' : Forest} {es : List NodeId} (h : List.Forall₂ (Holds f g) ns es)
    (hi : ∀ k ∈ ns, ∀ e, Holds f g k e → Holds f' g' k e) : List.Forall₂ (Holds f' g') ns es := by
  rw [List.forall₂_iff_zip] at h ⊢
  exact ⟨h.1, fun {k e} hm => hi k (List.of_mem_zip hm).1 e (h.2 hm)⟩

theorem Holds.later {f f' g' : Forest} {k e : NodeId} (h : Holds f g k e) (hs : f'.size ≤ f.size)
    (hn : f'.name? k = some "li" ↔ f.name? k = some "li")
    (hc : ∀ x, g.content? e = some x → g'.content? e = some x)
    (hk : f.name? k ≠ some "li" → g.children e = [k] → g'.children e = [k]) : Holds f' g' k e := by
  unfold Holds
  rw [Ne, hn]
  obtain h | ⟨hli, hle, hcont, hch⟩ := h
  · exact .inl h
  · exact .inr ⟨hli, hs.trans hle, hc _ hcont, hk hli hch⟩

/-- The nodes that are not list items by themselves. -/
def unwrapped (f : Forest) (ns : List NodeId) : List NodeId :=
  ns.filter fun k => f.name? k ≠ some "li"

/-- Distinct nodes have distinct entries: the nodes that are no list items have been wrapped. -/
structure Listed (f g : Forest) (ns es : List NodeId) : Prop where
  departed : Departed f g (unwrapped f ns)
  holds : List.Forall₂ (Holds f g) ns es
  nodup : es.Nodup
  inside : ∀ e ∈ es, e < g.size ∧ g.isRoot e = false

section Listed

variable {f f₁ h : Forest} {k n : NodeId} {es : List NodeId}

theorem Listed.nil (hf : f.WellFormed) : Listed f f [] [] where
  departed := ⟨hf, Nat.le_refl _, fun _ _ => rfl, fun _ _ => by simp [unwrapped]⟩
  holds := .nil
  nodup := List.nodup_nil
  inside := by simp

theorem Listed.item (hg : Listed f g ns es) (hk : k < f.size) (hr : f.isRoot k = false)
    (hli : f.name? k = some "li") (hkn : k ∉ ns) : Listed f g (k :: ns) (k :: es) where
  departed := by
    rw [unwrapped, List.filter_cons_of_neg (by simp [hli])]
    exact hg.departed
  holds := .cons (.inl ⟨hli, rfl⟩) hg.holds
  nodup := by
    refine List.nodup_cons.mpr ⟨fun hm => ?_, hg.nodup⟩
    obtain ⟨hm, -⟩ | hle := Holds.mem hg.holds k hm
    · exact hkn hm
    · exact absurd hk (Nat.not_lt.mpr hle)
  inside := by
    refine List.forall_mem_cons.mpr ⟨⟨hk.trans_le hg.departed.size, ?_⟩, hg.inside⟩
    rw [Forest.isRoot_congr (hg.departed.content k hk), hr]

/-- The item around a node keeps it, since the node is not named again. -/
theorem Listed.wrap (hn : NewTag f f₁ (Document.tagOf true "li" []) n [k]) (hd : Departed f f₁ [k])
    (hin : ∀ c ∈ ns, c < f.size) (hli : f.name? k ≠ some "li") (hkn : k ∉ ns)
    (hg : Listed f₁ g ns es) : Listed f g (k :: ns) (n :: es) where
  departed := by
    have hun : unwrapped f₁ ns = unwrapped f ns :=
      List.filter_congr fun c hc => by rw [hd.name? (hin c hc)]
    have hcons : unwrapped f (k :: ns) = [k] ++ unwrapped f ns :=
      List.filter_cons_of_pos (by simpa using hli)
    rw [hcons, ← hun]
    exact hd.trans hg.departed
  holds := by
    refine .cons (.inr ⟨hli, hn.fresh, hg.departed.content_some hn.content, ?_⟩) ?_
    · rw [hg.departed.children n (Forest.lt_size_of_content? hn.content), hn.children]
      refine Forest.without_eq_self fun c hc hm => ?_
      obtain rfl := List.mem_singleton.mp hc
      exact hkn (List.mem_filter.mp hm).1
    · exact Holds.imp hg.holds fun c hc e he =>
        he.later hd.size (by rw [hd.name? (hin c hc)]) (fun _ h => h) fun _ h => h
  nodup := by
    refine List.nodup_cons.mpr ⟨fun hm => ?_, hg.nodup⟩
    obtain ⟨hm, -⟩ | hle := Holds.mem hg.holds n hm
    · exact absurd (hin n hm) (Nat.not_lt.mpr hn.fresh)
    · exact absurd (Forest.lt_size_of_content? hn.content) (Nat.not_lt.mpr hle)
  inside := by
    have hc := hg.departed.content_some hn.content
    refine List.forall_mem_cons.mpr ⟨⟨Forest.lt_size_of_content? hc, ?_⟩, hg.inside⟩
    unfold Forest.isRoot
    rw [hc]
    rfl

/-- The nodes leave their places in two steps: those that are wrapped, and the entries of the list. -/
theorem Listed.departs (hf : f.WellFormed) (hg : Listed f g ns es) (hh : Departed g h es) :
    Departed f h ns := by
  refine (hg.departed.trans hh).congr hf fun n hn => ?_
  rw [List.mem_append]
  constructor
  · rintro (hm | hm)
    · exact (List.mem_filter.mp hm).1
    · exact ((Holds.mem hg.holds n hm).resolve_right (Nat.not_le.mpr hn)).1
  · intro hm
    by_cases hli : f.name? n = some "li"
    · obtain ⟨e, he, ⟨-, rfl⟩ | ⟨hno, -⟩⟩ := Holds.exists_mem hg.holds hm
      · exact .inr he
      · exact absurd hli hno
    · exact .inl (List.mem_filter.mpr ⟨hm, by simpa using hli⟩)

end Listed

theorem entries_apply (hf : w.forest.WellFormed)
    (hin : ∀ k ∈ ns, k < w.forest.size ∧ w.forest.isRoot k = false) (hd : ns.Nodup) :
    ∃ es g, ns.mapM (entry m) w = .ok (es.map .node) { w with forest := g } ∧
      Listed w.forest g ns es := by
  induction ns generalizing w with
  | nil => exact ⟨[], w.forest, rfl, .nil hf⟩
  | cons k ns ih =>
    obtain ⟨⟨hk, hroot⟩, hin⟩ := List.forall_mem_cons.mp hin
    obtain ⟨hkn, hd⟩ := List.nodup_cons.mp hd
    rw [List.mapM_cons]
    by_cases hli : w.forest.name? k = some "li"
    · obtain ⟨es, g, hg, hl⟩ := ih hf hin hd
      refine ⟨k :: es, g, ?_, hl.item hk hroot hli hkn⟩
      rw [bind_of_ok (entry_item hli), bind_of_ok hg]
      rfl
    · obtain ⟨f₁, hf₁, hn, hd₁⟩ := entry_wraps (m := m) hf hk hroot hli
      obtain ⟨es, g, hg, hl⟩ := ih (w := { w with forest := f₁ }) hd₁.wellFormed
        (fun n h => ⟨(hin n h).1.trans_le hd₁.size, by
          rw [Forest.isRoot_congr (hd₁.content n (hin n h).1), (hin n h).2]⟩) hd
      refine ⟨w.forest.size :: es, g, ?_, .wrap hn hd₁ (fun n h => (hin n h).1) hli hkn hl⟩
      rw [bind_of_ok hf₁, bind_of_ok hg]
      rfl

theorem bulletList_eq_ok {items vs : List Value} {attrs : List (String × Value)} {r : Value}
    {u u' : World} (hns : flatten m items w = .ok ns u) (hvs : ns.mapM (entry m) u = .ok vs u')
    (h : bulletList m items attrs w = .ok r w') : make m (.str "ul") vs attrs u' = .ok r w' := by
  unfold bulletList shortcut at h
  rw [bind_of_ok hns, bind_of_ok hvs] at h
  obtain ⟨_, u₁, hu₁, h⟩ := bind_eq_ok.mp h
  rwa [refuseNamed_ok hu₁] at h

/-- A list of distinct nodes has one entry for each of them. -/
theorem bulletList_builds {items : List Value} {attrs : List (String × Value)} {r : Value} {u : World}
    (hf : w.forest.WellFormed) (hns : flatten m items w = .ok ns u) (hu : Extends w u)
    (hin : ∀ k ∈ ns, k < u.forest.size ∧ u.forest.isRoot k = false)
    (hnew : ∀ k ∈ ns, k < w.forest.size ∨ u.forest.name? k = none) (hd : ns.Nodup)
    (ha : Mild m w attrs) (h : bulletList m items attrs w = .ok r w') :
    ∃ n es as, r = .node n ∧ NewTag w.forest w'.forest (Document.tagOf true "ul" as) n es ∧
      Departed w.forest w'.forest ns ∧ List.Forall₂ (Holds w.forest w'.forest) ns es ∧
      ∀ k x, u.forest.content? k = some x → w'.forest.content? k = some x := by
  obtain ⟨es, g, hg, hl⟩ := entries_apply (m := m) (hu.wellFormed hf) hin hd
  let w₁ : World := { u with forest := g }
  have hmake : make m (.str "ul") (es.map .node) attrs w₁ = .ok r w' := bulletList_eq_ok hns hg h
  -- the attributes are read when the entries are there
  obtain ⟨as, w₂, has, -⟩ := bind_eq_ok.mp (make_eq (m := m) _ _ _ ▸ hmake)
  have hret : Retains w w₁ := hu.retains.trans ⟨fun _ o h => ⟨o, h, rfl⟩, fun _ h => h⟩
  have hw₂ : Extends w₁ w₂ := worldAfter_ok has (ha w₁ hret)
  let t := Document.tagOf true "ul" as
  have ht : Extends w₁ (withTag t w₂) := hw₂.trans (extends_withTag t w₂)
  have hname : Kind.basic (.str "ul") w₂ = .ok (.str "ul") w₂ := rfl
  obtain ⟨g', hg', ⟨-, hcont, hpar, hch⟩, hdep, -⟩ :=
    make_builds has hname (hw₂.wellFormed hl.departed.wellFormed) (flatten_nodes es) (.refl _) fun e he => by
      obtain ⟨hlt, hroot⟩ := hl.inside e he
      refine ⟨hlt.trans_le ht.size_le, ?_, (hlt.trans_le hw₂.size_le).ne⟩
      rw [Forest.isRoot_congr (ht.content? hlt)]
      exact hroot
  cases hmake.symm.trans hg'
  have hold : Departed w.forest u.forest [] := .of_extends hu hf
  have hlast : Departed g g' es := (Departed.of_extends hw₂ hl.departed.wellFormed).trans hdep
  have hli (k : NodeId) (hk : k ∈ ns) :
      w.forest.name? k = some "li" ↔ u.forest.name? k = some "li" := by
    constructor
    · intro h
      rw [hold.name? (Forest.lt_size_of_name? h), h]
    · intro h
      obtain hk | hk := hnew k hk
      · rw [← hold.name? hk, h]
      · rw [hk] at h
        cases h
  refine ⟨_, es, as, rfl, ⟨?_, hcont, hpar, hl.nodup.dedup ▸ hch⟩,
    hold.trans (hl.departs (hu.wellFormed hf) hlast), Holds.imp hl.holds fun k hk e he => ?_,
    fun k x h => hlast.content_some (hl.departed.content_some h)⟩
  · exact hu.size_le.trans (hl.departed.size.trans hw₂.size_le)
  · refine he.later hu.size_le (hli k hk) (fun x hx => hlast.content_some hx) fun hno hch => ?_
    -- the node around which an item was made is no entry itself
    rw [hlast.children e (Forest.lt_size_of_mem_children (hch ▸ List.mem_singleton_self k)), hch]
    refine Forest.without_eq_self fun n hn h => ?_
    obtain rfl := List.mem_singleton.mp hn
    obtain ⟨-, h⟩ | h := Holds.mem hl.holds n h
    · exact hno h
    · exact absurd (hin n hk).1 (Nat.not_lt.mpr h)

/-! ### Calls that succeed -/

section

variable {children : List Value} {attrs : List (String × Value)} {first : Value}

theorem call_tag : call m "tag" ⟨first :: children, attrs⟩ = (do
    refuseNamed "tag" ["self", "name"] attrs
    make m first children attrs) := by
  simp [call, firstParam]

theorem call_ul : call m "ul" ⟨children, attrs⟩ = (do
    refuseNamed "ul" ["self"] attrs
    bulletList m children attrs) := rfl

end

/-- Children that an element can be made of: lists that are nested in each other up to a depth, with
leaves that are nothing, nodes that can stand in a tree, texts and numbers. A text that is an instance
of a class of the program may be written in a way of its own, which does no more than to add. -/
structure Fit (m : Machine) (w : World) (d : Nat) (children ls : List Value) : Prop where
  wellFormed : w.forest.WellFormed
  flattens : Flattens w d children ls
  leaves : ∀ v ∈ ls, v = .none ∨ Result.IsNode v w ∨ Written v w
  tame : ∀ r, .ref r ∈ ls → Written (.ref r) w → Tame m w (.ref r)

section

variable {i d : Nat} {children ls : List Value} {u : World}

theorem tame_all (ht : ∀ r, .ref r ∈ ls → Written (.ref r) w → Tame (machine (i + 2)) w (.ref r)) :
    ∀ v ∈ ls, Written v w → Tame (machine (i + 2)) w v := by
  intro v hv hw
  by_cases hr : ∃ r, v = .ref r
  · obtain ⟨r, rfl⟩ := hr
    exact ht r hv hw
  · exact fun u _ => hw.extending (fun r h => hr ⟨r, h⟩) u

/-- The node that a leaf is, if it can stand in a tree. -/
def nodeOf? (w : World) (v : Value) : Option NodeId :=
  match Kind.core v w with
  | .ok part _ => Result.node? w.forest part
  | .error .. => none

/-- A node that can stand in a tree is there, and no whole document. -/
theorem inside_of_leaf {v : Value} {n : NodeId} (h : v = .none ∨ Result.IsNode v w ∨ Written v w)
    (hn : Kind.core v w = .ok (.node n) w) :
    n < w.forest.size ∧ w.forest.isRoot n = false ∧ nodeOf? w v = some n := by
  obtain rfl | ⟨k, level, hk, hl⟩ | hw := h
  · cases hn
  · cases hn.symm.trans hk
    obtain ⟨hlt, hroot⟩ := Forest.of_level? hl
    refine ⟨hlt, hroot, ?_⟩
    unfold nodeOf?
    rw [hn]
    simp [Result.node?, hl]
  · exact absurd hn hw.not_node

/-- The leaves of children are read as nodes: those of the tree, and new texts. -/
theorem Fit.read (h : Fit (machine (i + 2)) w d children ls) (hu : Extends w u)
    (hns : flatten (machine (i + 2)) children u = .ok ns w') :
    Extends u w' ∧ Rendered (machine (i + 2)) w w'.forest u.forest.size ls ns ∧
      (∀ k ∈ ns, k < w'.forest.size ∧ w'.forest.isRoot k = false ∧
        (k < w.forest.size ∨ u.forest.size ≤ k ∧ w'.forest.name? k = none)) ∧
      ∀ j vs, j < depthLimit → Flattens w j vs ls →
        flatten (machine (i + 2)) vs u = .ok ns w' := by
  have hacc (v : Value) (hv : v ∈ ls) : Accepted v w := by
    obtain rfl | ⟨n, -, hn, -⟩ | hw := h.leaves v hv
    · exact .inl rfl
    · exact .inr (.inl ⟨n, hn⟩)
    · exact .inr (.inr hw)
  obtain ⟨hu', hr, hgroup⟩ := flatten_accepted h.flattens hacc (tame_all h.tame) hu hns
  refine ⟨hu', hr, fun k hk => ?_, hgroup⟩
  obtain ⟨v, hm, hv⟩ | ⟨hle, s, hc⟩ := hr.mem hk
  · obtain ⟨hlt, hroot, -⟩ := inside_of_leaf (h.leaves v hm) hv
    refine ⟨hlt.trans_le (hu.trans hu').size_le, ?_, .inl hlt⟩
    rw [Forest.isRoot_congr ((hu.trans hu').content? hlt), hroot]
  · refine ⟨Forest.lt_size_of_content? hc, ?_, .inr ⟨hle, ?_⟩⟩
    · unfold Forest.isRoot
      rw [hc]
      rfl
    · unfold Forest.name? Forest.tag?
      rw [hc]
      rfl

/-- Leaves that name no node twice stand for distinct nodes. -/
theorem Rendered.nodup {f : Forest} {k : NodeId} (h : Rendered m w f k ls ns)
    (hl : ∀ v ∈ ls, v = .none ∨ Result.IsNode v w ∨ Written v w) (hk : w.forest.size ≤ k)
    (hd : (ls.filterMap (nodeOf? w)).Nodup) : ns.Nodup := by
  induction h with
  | nil => exact List.nodup_nil
  | nothing _ ih => exact ih (List.forall_mem_cons.mp hl).2 hk hd
  | @node k n v ls ns hv ht ih =>
    obtain ⟨hn, hl⟩ := List.forall_mem_cons.mp hl
    obtain ⟨hlt, -, hsome⟩ := inside_of_leaf hn hv
    rw [List.filterMap_cons_some hsome] at hd
    obtain ⟨hnd, hd⟩ := List.nodup_cons.mp hd
    refine List.nodup_cons.mpr ⟨fun h => ?_, ih hl hk hd⟩
    obtain ⟨x, hx, hxn⟩ | ⟨hle, -⟩ := ht.mem h
    · exact hnd (List.mem_filterMap.mpr ⟨x, hx, (inside_of_leaf (hl x hx) hxn).2.2⟩)
    · exact absurd hlt (Nat.not_lt.mpr (hk.trans hle))
  | @text k c v s ls ns hv hs hkc hc ht ih =>
    obtain ⟨-, hl⟩ := List.forall_mem_cons.mp hl
    have hd' := hd.sublist ((List.sublist_cons_self v ls).filterMap (nodeOf? w))
    refine List.nodup_cons.mpr ⟨fun h => ?_, ih hl ((hk.trans hkc).trans (Nat.le_succ c)) hd'⟩
    obtain ⟨x, hx, hxn⟩ | ⟨hle, -⟩ := ht.mem h
    · exact absurd (inside_of_leaf (hl x hx) hxn).1 (Nat.not_lt.mpr (hk.trans hkc))
    · exact absurd hle (Nat.not_succ_le_self c)

end

section

variable {i d : Nat} {children ls : List Value} {attrs : List (String × Value)} {name r : Value}
  {s : String} {as : List (String × String)} {w₁ : World}

theorem tag_builds (ha : attributes (machine (i + 2)) attrs w = .ok as w₁)
    (hn : Kind.basic name w₁ = .ok (.str s) w₁) (hf : Fit (machine (i + 2)) w₁ d children ls)
    (h : call (machine (i + 2)) "tag" ⟨name :: children, attrs⟩ w = .ok r w') :
    ∃ n ns, r = .node n ∧ NewTag w₁.forest w'.forest (Document.tagOf true s as) n ns.dedup ∧
      Rendered (machine (i + 2)) w₁ w'.forest (n + 1) ls ns ∧ Departed w₁.forest w'.forest ns ∧
      ∀ j vs, j < depthLimit → Flattens w₁ j vs ls →
        call (machine (i + 2)) "tag" ⟨name :: vs, attrs⟩ w = .ok r w' := by
  let t := Document.tagOf true s as
  rw [call_tag] at h
  obtain ⟨_, w₀, hfree, hmake⟩ := bind_eq_ok.mp h
  obtain rfl : w₀ = w := refuseNamed_ok hfree
  -- the nodes are taken from the children when the element is there
  have hflat : ∃ ns u, flatten (machine (i + 2)) children (withTag t w₁) = .ok ns u := by
    rw [make_eq, bind_of_ok ha, bind_of_ok (newElement_apply hn _)] at hmake
    obtain ⟨ns, u, hns, -⟩ := bind_eq_ok.mp hmake
    exact ⟨ns, u, hns⟩
  obtain ⟨ns, u, hns⟩ := hflat
  have hsize : (withTag t w₁).forest.size = w₁.forest.size + 1 := by simp [withTag]
  obtain ⟨hu, hr, hin, hgroup⟩ := hf.read (extends_withTag t w₁) hns
  obtain ⟨g, hg, htag, hdep, hkeep⟩ :=
    make_builds (m := machine (i + 2)) ha hn hf.wellFormed hns hu fun c hc => by
      obtain ⟨hlt, hroot, hold⟩ := hin c hc
      exact ⟨hlt, hroot, hold.elim Nat.ne_of_lt fun hnew => Nat.ne_of_gt (hsize.symm.trans_le hnew.1)⟩
  cases hmake.symm.trans hg
  refine ⟨_, ns, rfl, htag, ?_, hdep, fun j vs hj hvs => ?_⟩
  · rw [← hsize]
    exact hr.mono fun c x hc => by rw [hkeep, hc]
  · rw [call_tag, bind_of_ok hfree, ← hmake, make_eq, make_eq, bind_of_ok ha, bind_of_ok ha,
      bind_of_ok (newElement_apply hn _), bind_of_ok (newElement_apply hn _),
      bind_of_ok (hgroup j vs hj hvs), bind_of_ok hns]

theorem ul_builds (hf : Fit (machine (i + 2)) w d children ls)
    (hd : (ls.filterMap (nodeOf? w)).Nodup) (ha : Mild (machine (i + 2)) w attrs)
    (h : call (machine (i + 2)) "ul" ⟨children, attrs⟩ w = .ok r w') :
    ∃ n ns es as, r = .node n ∧
      NewTag w.forest w'.forest (Document.tagOf true "ul" as) n es ∧
      List.Forall₂ (Holds w.forest w'.forest) ns es ∧
      Rendered (machine (i + 2)) w w'.forest w.forest.size ls ns ∧
      Departed w.forest w'.forest ns := by
  rw [call_ul] at h
  obtain ⟨_, w₀, hfree, hmake⟩ := bind_eq_ok.mp h
  obtain rfl : w₀ = w := refuseNamed_ok hfree
  have hflat : ∃ ns u, flatten (machine (i + 2)) children w₀ = .ok ns u := by
    unfold bulletList at hmake
    obtain ⟨ns, u, hns, -⟩ := bind_eq_ok.mp hmake
    exact ⟨ns, u, hns⟩
  obtain ⟨ns, u, hns⟩ := hflat
  obtain ⟨hu, hr, hin, -⟩ := hf.read (.refl w₀) hns
  obtain ⟨n, es, as, hn, htag, hdep, hes, hkeep⟩ := bulletList_builds hf.wellFormed hns hu
    (fun k hk => ⟨(hin k hk).1, (hin k hk).2.1⟩) (fun k hk => (hin k hk).2.2.imp_right And.right)
    (hr.nodup hf.leaves (Nat.le_refl _) hd) ha hmake
  exact ⟨n, ns, es, as, hn, htag, hes, hr.mono hkeep, hdep⟩

end

/-- An element takes the nodes of its children in their order, and leaves all others where they are. How
the children are grouped makes no difference. A list has one item for each of distinct nodes. -/
theorem call_conserves (i : Nat) {d : Nat} {children ls : List Value} {attrs : List (String × Value)}
    {r : Value} {w w' : World} :
    (∀ name s as w₁, attributes (machine (i + 2)) attrs w = .ok as w₁ →
      Kind.basic name w₁ = .ok (.str s) w₁ → Fit (machine (i + 2)) w₁ d children ls →
      call (machine (i + 2)) "tag" ⟨name :: children, attrs⟩ w = .ok r w' →
      ∃ n ns, r = .node n ∧ NewTag w₁.forest w'.forest (Document.tagOf true s as) n ns.dedup ∧
        Rendered (machine (i + 2)) w₁ w'.forest (n + 1) ls ns ∧ Departed w₁.forest w'.forest ns ∧
        ∀ j vs, j < depthLimit → Flattens w₁ j vs ls →
          call (machine (i + 2)) "tag" ⟨name :: vs, attrs⟩ w = .ok r w') ∧
    (Fit (machine (i + 2)) w d children ls → (ls.filterMap (nodeOf? w)).Nodup →
      Mild (machine (i + 2)) w attrs →
      call (machine (i + 2)) "ul" ⟨children, attrs⟩ w = .ok r w' →
      ∃ n ns es as, r = .node n ∧
        NewTag w.forest w'.forest (Document.tagOf true "ul" as) n es ∧
        List.Forall₂ (Holds w.forest w'.forest) ns es ∧
        Rendered (machine (i + 2)) w w'.forest w.forest.size ls ns ∧
        Departed w.forest w'.forest ns) :=
  ⟨fun _ _ _ _ ha hn hf h => tag_builds ha hn hf h, fun hf hd ha h => ul_builds hf hd ha h⟩

/-- A paragraph and a list item with a text below one element, and a list that holds the paragraph. -/
def itemsWorld : World where
  heap := #[.list #[.node 2, .str "x"]]
  forest :=
    ⟨#[⟨.root, none, [1]⟩,
      ⟨.tag { name := "div", attrs := [] }, some 0, [2, 3]⟩,
      ⟨.tag { name := "p", attrs := [] }, some 1, []⟩,
      ⟨.tag { name := "li", attrs := [] }, some 1, [4]⟩,
      ⟨.text .plain "y", some 3, []⟩]⟩

def itemsAttrs : List (String × Value) := [("class_", .str "c")]

theorem itemsWorld_mild : Mild (machine 2) itemsWorld itemsAttrs :=
  mild_of_simple fun a ha => by
    obtain rfl := List.mem_singleton.mp ha
    exact .inr (.inl ⟨.inl ⟨"c", rfl⟩, nofun⟩)

/-- The list comes to the paragraph and a text. -/
theorem itemsWorld_fit (vs : List Value)
    (hv : ∀ v ∈ vs, v = .none ∨ Result.IsNode v itemsWorld ∨ Plain v itemsWorld) :
    Fit (machine 2) itemsWorld 1 (.ref 0 :: vs) (.node 2 :: .str "x" :: vs) := by
  have hx : Plain (.str "x") itemsWorld := ⟨.inl ⟨"x", rfl⟩, nofun⟩
  have hls : ∀ v ∈ [.node 2, .str "x"] ++ vs,
      v = .none ∨ Result.IsNode v itemsWorld ∨ Plain v itemsWorld :=
    List.forall_mem_cons.mpr ⟨.inr (.inl ⟨2, .block, rfl, rfl⟩), List.forall_mem_cons.mpr
      ⟨.inr (.inr hx), hv⟩⟩
  have hleaf (v : Value) (h : v ∈ [.node 2, .str "x"] ++ vs) : IsLeaf v itemsWorld := by
    obtain rfl | ⟨n, -, hn, -⟩ | h := hls v h
    · exact Accepted.isLeaf (.inl rfl)
    · exact Accepted.isLeaf (.inr (.inl ⟨n, hn⟩))
    · exact h.1.isLeaf
  refine ⟨?_, ?_, fun v h => (hls v h).imp_right (Or.imp_right And.left), fun r h hw => ?_⟩
  · refine .of_ordered ?_ ?_ <;> decide
  · have hg : Grouped (.ref 0) [.node 2, .str "x"] itemsWorld := .inr ⟨0, rfl, rfl⟩
    exact .group hg (.row (fun v h => hleaf v (List.mem_append_left vs h)) 0)
      (.row (fun v h => hleaf v (List.mem_append_right _ h)) 1)
  · obtain h | ⟨n, -, hn, -⟩ | ⟨-, h⟩ := hls _ h
    · cases h
    · exact absurd hn hw.not_node
    · exact absurd rfl (h r)

/-- The paragraph is named twice and comes last but one. A list takes the paragraph, a new text and the
list item, which keeps its own text. -/
theorem itemsWorld_conserved :
    (∃ n ns w', call (machine 2) "tag"
        ⟨[.str "div", .ref 0, .node 4, .none, .node 2, .int 7], itemsAttrs⟩ itemsWorld =
          .ok (.node n) w' ∧
      NewTag itemsWorld.forest w'.forest (Document.tagOf true "div" [("class", "c")]) n ns.dedup ∧
      Departed itemsWorld.forest w'.forest ns ∧ w'.forest.children 5 = [6, 4, 2, 7]) ∧
    ∃ n ns es as w', call (machine 2) "ul" ⟨[.ref 0, .none, .node 3], itemsAttrs⟩ itemsWorld =
        .ok (.node n) w' ∧
      NewTag itemsWorld.forest w'.forest (Document.tagOf true "ul" as) n es ∧
      List.Forall₂ (Holds itemsWorld.forest w'.forest) ns es ∧
      [6, 7, 3].map w'.forest.children = [[2], [5], [4]] := by
  have hseven : Plain (.int 7) itemsWorld := ⟨.inr (.inl (.inl ⟨7, rfl⟩)), nofun⟩
  constructor
  · have hok : okAnd (call (machine 2) "tag"
        ⟨[.str "div", .ref 0, .node 4, .none, .node 2, .int 7], itemsAttrs⟩ itemsWorld) fun _ w' =>
          w'.forest.children 5 == [6, 4, 2, 7] := by
      decide +kernel
    obtain ⟨r, w', h, hc⟩ := exists_of_okAnd hok
    have hf := itemsWorld_fit [.node 4, .none, .node 2, .int 7] (by
      simp only [List.forall_mem_cons]
      exact ⟨.inr (.inl ⟨4, .inline, rfl, rfl⟩), .inl trivial, .inr (.inl ⟨2, .block, rfl, rfl⟩),
        .inr (.inr hseven), by simp⟩)
    obtain ⟨n, ns, rfl, hn, -, hd, -⟩ := (call_conserves 0).1 (.str "div") "div" [("class", "c")]
      itemsWorld rfl rfl hf h
    exact ⟨n, ns, w', h, hn, hd, by simpa using hc⟩
  · have hok : okAnd (call (machine 2) "ul" ⟨[.ref 0, .none, .node 3], itemsAttrs⟩ itemsWorld)
        fun _ w' => [6, 7, 3].map w'.forest.children == [[2], [5], [4]] := by
      decide +kernel
    obtain ⟨r, w', h, hc⟩ := exists_of_okAnd hok
    have hf := itemsWorld_fit [.none, .node 3] (by
      simp only [List.forall_mem_cons]
      exact ⟨.inl trivial, .inr (.inl ⟨3, .block, rfl, rfl⟩), by simp⟩)
    obtain ⟨n, ns, es, as, rfl, hn, hes, -⟩ :=
      (call_conserves 0).2 hf (by decide) itemsWorld_mild h
    exact ⟨n, ns, es, as, w', h, hn, hes, by simpa using hc⟩

end Script.Element

end LiveMarkdown
