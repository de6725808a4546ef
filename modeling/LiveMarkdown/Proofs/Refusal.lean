import LiveMarkdown.Proofs.Gates

/-!
Edits that come too late. A fragment may stand elsewhere, or nowhere, when its outcome is applied; then
the edit is refused before anything is moved, and the tree stays as it was. Only one edit is refused when
the fragment has left its place already: the one that puts the document around its parent there. An
outcome that is applied a second time finds its fragment nowhere, unless the fragment is among its own
nodes, so the second time changes nothing.
-/

namespace LiveMarkdown.Document

namespace Forest

variable {f g : Forest} {a k m n p : NodeId} {i : Nat} {ns : List NodeId}

/-! ### What a move may change -/

theorem mem_children_modify (h : List NodeId → List NodeId)
    (hm : a ∈ (f.modify n fun d => { d with children := h d.children }).children k) :
    a ∈ h (f.children k) ∨ a ∈ f.children k := by
  rw [children_eq, node?_modify] at hm
  rw [children_eq]
  split at hm
  · cases hd : f.node? k with
    | none => simp [hd] at hm
    | some d => exact .inl (by simpa [hd] using hm)
  · exact .inr hm

theorem mem_children_extract (h : a ∈ (f.extract n).children k) : a ∈ f.children k := by
  unfold extract at h
  split at h
  · exact h
  · rw [children_modify_parent] at h
    obtain h | h := mem_children_modify (fun l => l.erase n) h
    · exact List.mem_of_mem_erase h
    · exact h

theorem mem_children_place (h : a ∈ (f.place p i n).children k) : a = n ∨ a ∈ f.children k := by
  unfold place at h
  rw [children_modify_parent] at h
  obtain h | h := mem_children_modify (fun l => l.insertIdx i n) h
  · exact List.eq_or_mem_of_mem_insertIdx h
  · exact .inr h

/-- A move adds to the children of a node only the node that is moved. -/
theorem mem_children_moveTo (h : a ∈ (f.moveTo p i n).children k) : a = n ∨ a ∈ f.children k := by
  obtain h | h := mem_children_place h
  · exact .inl h
  · exact .inr (mem_children_extract h)

theorem mem_children_modify_of (h : List NodeId → List NodeId) (ha : a ∈ f.children k)
    (hm : a ∈ h (f.children k)) :
    a ∈ (f.modify n fun d => { d with children := h d.children }).children k := by
  rw [children_eq] at ha hm
  rw [children_eq, node?_modify]
  split
  · cases hd : f.node? k with
    | none => simp [hd] at ha
    | some d => simpa [hd] using hm
  · exact ha

theorem mem_children_extract_of (ha : a ∈ f.children k) (hn : a ≠ n) :
    a ∈ (f.extract n).children k := by
  unfold extract
  split
  · exact ha
  · rw [children_modify_parent]
    exact mem_children_modify_of (fun l => l.erase n) ha ((List.mem_erase_of_ne hn).mpr ha)

theorem mem_children_place_of (ha : a ∈ f.children k) : a ∈ (f.place p i n).children k := by
  have hi : a ∈ (f.children k).insertIdx i n := by
    by_cases hl : i ≤ (f.children k).length
    · exact (List.mem_insertIdx hl).mpr (.inr ha)
    · rwa [List.insertIdx_of_length_lt (by omega)]
  unfold place
  rw [children_modify_parent]
  exact mem_children_modify_of (fun l => l.insertIdx i n) ha hi

theorem parent?_place_of_ne (hk : k ≠ n) : (f.place p i n).parent? k = f.parent? k := by
  have hn : ((f.modify p fun d => { d with children := d.children.insertIdx i n }).modify n
      fun d => { d with parent := some p }).node? k =
        (f.modify p fun d => { d with children := d.children.insertIdx i n }).node? k := by
    rw [node?_modify, if_neg (Ne.symm hk)]
  have hp : (f.place p i n).parent? k =
      (f.modify p fun d => { d with children := d.children.insertIdx i n }).parent? k := by
    unfold place parent?
    rw [hn]
  rw [hp, parent?_modify_children fun l => l.insertIdx i n]

theorem parent?_moveTo_of_ne (hk : k ≠ n) : (f.moveTo p i n).parent? k = f.parent? k := by
  unfold moveTo
  rw [parent?_place_of_ne hk, parent?_extract, if_neg hk]

/-- A forest is another one in which nodes were moved, all of them among the given ones. -/
structure Moved (f g : Forest) (ns : List NodeId) : Prop where
  content : ∀ k, g.content? k = f.content? k
  children : ∀ k a, a ∈ g.children k → a ∈ ns ∨ a ∈ f.children k
  kept : ∀ k a, a ∈ f.children k → a ∉ ns → a ∈ g.children k
  parent : ∀ k, k ∉ ns → g.parent? k = f.parent? k

theorem Moved.refl (f : Forest) (ns : List NodeId) : f.Moved f ns :=
  ⟨fun _ => rfl, fun _ _ h => .inr h, fun _ _ h _ => h, fun _ _ => rfl⟩

theorem Moved.moveTo (h : f.Moved g ns) (hn : n ∈ ns) : f.Moved (g.moveTo p i n) ns := by
  refine ⟨fun k => content?_moveTo.trans (h.content k), fun k a ha => ?_, fun k a ha hns => ?_,
    fun k hk => ?_⟩
  · obtain rfl | ha := mem_children_moveTo ha
    · exact .inl hn
    · exact h.children k a ha
  · have hne : a ≠ n := fun he => hns (he ▸ hn)
    exact mem_children_place_of (mem_children_extract_of (h.kept k a ha hns) hne)
  · have hne : k ≠ n := fun he => hk (he ▸ hn)
    rw [parent?_moveTo_of_ne hne, h.parent k hk]

theorem Moved.isRoot (h : f.Moved g ns) : g.isRoot k = f.isRoot k := by
  unfold Forest.isRoot
  rw [h.content k]

/-- A node that stands nowhere: it has no parent, and no node has it for a child. -/
structure Apart (f : Forest) (n : NodeId) : Prop where
  parent : f.parent? n = none
  child : ∀ k, n ∉ f.children k

theorem WellFormed.apart_extract (hf : f.WellFormed) (n : NodeId) : (f.extract n).Apart n := by
  have hn : (f.extract n).parent? n = none := by simp [parent?_extract]
  refine ⟨hn, fun k hk => ?_⟩
  rw [(hf.extract n).mem_children, hn] at hk
  cases hk

theorem Apart.moved (h : f.Apart n) (hg : f.Moved g ns) (hn : n ∉ ns) : g.Apart n := by
  refine ⟨(hg.parent n hn).trans h.parent, fun k hk => ?_⟩
  obtain hk | hk := hg.children k n hk
  · exact hn hk
  · exact h.child k hk

theorem Apart.not_mem_spread (h : f.Apart n) (hm : m ≠ n) : n ∉ f.spread m := by
  unfold spread
  split
  · exact h.child m
  · simpa using Ne.symm hm

end Forest

namespace Edit

open Forest

variable {f g : Forest} {m n p : NodeId} {i : Nat} {ns new : List NodeId} {e : EditError}

/-- The forest that an edit leaves, also if it is refused. -/
def left (x : Edit Unit) (f : Forest) : Forest :=
  match x f with
  | .ok _ g => g
  | .error _ g => g

theorem left_bind (x y : Edit Unit) : left (x >>= fun _ => y) f = match x f with
    | .ok _ g => left y g
    | .error _ g => g := by
  unfold left
  change (match EStateM.bind x (fun _ => y) f with
    | .ok _ g => g
    | .error _ g => g) = _
  unfold EStateM.bind
  cases x f <;> rfl

/-! ### What an insertion may change -/

theorem move_eq : move p i n f =
    if n = p then .error .insertedIntoItself f else .ok () (f.moveTo p i n) := by
  unfold move
  split <;> rfl

theorem moveAll_moved (hg : f.Moved g ns) (hs : new ⊆ ns) :
    f.Moved (left (moveAll p i new) g) ns := by
  induction new generalizing g i with
  | nil => exact hg
  | cons n new ih =>
    obtain ⟨hn, hs⟩ := List.cons_subset.mp hs
    unfold moveAll
    rw [left_bind, move_eq]
    by_cases hp : n = p
    · rw [if_pos hp]
      exact hg
    · rw [if_neg hp]
      exact ih (hg.moveTo hn) hs

theorem insert_moved : f.Moved (left (insert p i n) f) (f.spread n) := by
  unfold insert
  split
  · exact .refl f _
  · exact moveAll_moved (.refl f _) fun _ h => h

/-- Nodes that are inserted somewhere do not bring a node back that stands nowhere. -/
theorem insertFrom_apart (h : f.Apart n) (hn : n ∉ new) : (left (insertFrom p i new) f).Apart n := by
  induction new generalizing f i with
  | nil => exact h
  | cons m new ih =>
    have hm : n ≠ m := List.ne_of_not_mem_cons hn
    have hi : (left (insert p i m) f).Apart n :=
      h.moved insert_moved (h.not_mem_spread (Ne.symm hm))
    unfold insertFrom
    rw [left_bind]
    unfold left at hi
    cases hx : insert p i m f with
    | ok _ g =>
      rw [hx] at hi
      exact ih hi (List.not_mem_of_not_mem_cons hn)
    | error e g =>
      rw [hx] at hi
      exact hi

theorem moveAll_ok (h : p ∉ ns) : ∃ g, moveAll p i ns f = .ok () g := by
  induction ns generalizing f i with
  | nil => exact ⟨f, rfl⟩
  | cons n ns ih =>
    obtain ⟨g, hg⟩ := ih (f := f.moveTo p i n) (i := i + 1) (List.not_mem_of_not_mem_cons h)
    have hm : move p i n f = .ok () (f.moveTo p i n) := by
      rw [move_eq, if_neg (Ne.symm (List.ne_of_not_mem_cons h))]
    unfold moveAll
    exact ⟨g, (bind_of_ok hm).trans hg⟩

/-- A node among those that are moved stops the move when its turn to become its own child comes. -/
theorem moveAll_refused (h : p ∈ ns) : ∃ g, moveAll p i ns f = .error .insertedIntoItself g := by
  induction ns generalizing f i with
  | nil => cases h
  | cons n ns ih =>
    unfold moveAll
    by_cases hp : n = p
    · exact ⟨f, bind_of_error (by rw [move_eq, if_pos hp])⟩
    · obtain hn | h := List.mem_cons.mp h
      · exact absurd hn.symm hp
      · obtain ⟨g, hg⟩ := ih (f := f.moveTo p i n) (i := i + 1) h
        exact ⟨g, (bind_of_ok (by rw [move_eq, if_neg hp])).trans hg⟩

/-- A node can be inserted below another one: it is neither that one nor a document with that one
among its children. -/
def Insertable (f : Forest) (p n : NodeId) : Prop := n ≠ p ∧ p ∉ f.spread n

theorem insert_ok (h : Insertable f p n) :
    ∃ g, insert p i n f = .ok () g ∧ f.Moved g (f.spread n) := by
  obtain ⟨g, hg⟩ := moveAll_ok (f := f) (i := i) h.2
  have hi : insert p i n f = .ok () g := by
    unfold insert
    rw [if_neg h.1]
    exact hg
  have hm : f.Moved (left (insert p i n) f) (f.spread n) := insert_moved
  unfold left at hm
  rw [hi] at hm
  exact ⟨g, hi, hm⟩

theorem Insertable.moved (h : Insertable f p m) (hg : f.Moved g ns) (hp : p ∉ ns) : Insertable g p m := by
  refine ⟨h.1, fun hm => h.2 ?_⟩
  unfold spread at hm ⊢
  rw [hg.isRoot] at hm
  by_cases hr : f.isRoot m = true
  · rw [if_pos hr] at hm ⊢
    obtain hc | hc := hg.children m p hm
    · exact absurd hc hp
    · exact hc
  · rw [if_neg hr] at hm ⊢
    exact hm

theorem insertFrom_ok (h : ∀ m ∈ new, Insertable f p m) : ∃ g, insertFrom p i new f = .ok () g := by
  induction new generalizing f i with
  | nil => exact ⟨f, rfl⟩
  | cons m new ih =>
    have hm := h m List.mem_cons_self
    obtain ⟨g, hg, hmoved⟩ := insert_ok (i := i) hm
    obtain ⟨g', hg'⟩ := ih (f := g) (i := i + 1) fun m' hm' =>
      (h m' (List.mem_cons_of_mem _ hm')).moved hmoved hm.2
    unfold insertFrom
    exact ⟨g', (bind_of_ok hg).trans hg'⟩

/-- A document cannot be inserted below its own child, whatever is inserted there before it. -/
theorem insertFrom_refused (hm : m ∈ new) (hp : p ∉ new) (hr : f.isRoot m = true)
    (hc : p ∈ f.children m) (ho : ∀ k, p ∈ f.children k → k = m) :
    ∃ g, insertFrom p i new f = .error .insertedIntoItself g := by
  induction new generalizing f i with
  | nil => cases hm
  | cons k new ih =>
    obtain ⟨hk, hnew⟩ := List.ne_and_not_mem_of_not_mem_cons hp
    unfold insertFrom
    by_cases hkm : k = m
    · subst hkm
      obtain ⟨g, hg⟩ := moveAll_refused (f := f) (i := i) hc
      have hi : insert p i k f = .error .insertedIntoItself g := by
        unfold insert
        rw [if_neg (Ne.symm hk), bind_of_ok get_apply]
        unfold spread
        rwa [if_pos hr]
      exact ⟨g, bind_of_error hi⟩
    · have hs : p ∉ f.spread k := by
        unfold spread
        split
        · exact fun h => hkm (ho k h)
        · simpa using hk
      obtain ⟨g, hi, hg⟩ := insert_ok (i := i) ⟨Ne.symm hk, hs⟩
      have hmem : m ∈ new := (List.mem_cons.mp hm).resolve_left (Ne.symm hkm)
      obtain ⟨g', hg'⟩ := ih (f := g) (i := i + 1) hmem hnew (hg.isRoot.trans hr)
        (hg.kept m p hc hs) fun k' hk' => ho k' ((hg.children k' p hk').resolve_left hs)
      exact ⟨g', (bind_of_ok hi).trans hg'⟩

/-! ### Replacements that are refused -/

theorem replaceWith_nowhere (h : f.parent? n = none) :
    replaceWith n new f = .error .notInTree f := by
  unfold replaceWith
  refine (bind_of_ok get_apply).trans ?_
  rw [h]
  rfl

theorem replaceWith_parent (hp : f.parent? n = some p) (hself : new ≠ [n]) (h : p ∈ new) :
    replaceWith n new f = .error .replacedByParent f := by
  unfold replaceWith
  refine (bind_of_ok get_apply).trans ?_
  rw [hp]
  simp only [if_neg hself, if_pos h]
  rfl

/-- Among the nodes that are to be put in the place of a node is a document whose child the parent of
that node is. -/
def Exposed (f : Forest) (n : NodeId) (new : List NodeId) : Prop :=
  ∃ p m, f.parent? n = some p ∧ p ∉ new ∧ m ∈ new ∧ f.isRoot m = true ∧ f.parent? p = some m

/-- A refusal comes before anything is moved, unless such a document is among the nodes. -/
theorem replaceWith_refused (hf : f.WellFormed) (hs : ¬ Exposed f n new)
    (h : replaceWith n new f = .error e g) : g = f := by
  cases hp : f.parent? n with
  | none =>
    rw [replaceWith_nowhere hp] at h
    cases h
    rfl
  | some p =>
    by_cases hm : p ∈ new
    · by_cases hself : new = [n]
      · -- a node is not its own parent
        rw [hself, List.mem_singleton] at hm
        exact absurd (above_of_parent? (hm ▸ hp)) (hf.acyclic n)
      · rw [replaceWith_parent hp hself hm] at h
        cases h
        rfl
    · rw [replaceWith_eq hp hm] at h
      split at h
      · cases h
      · have hall : ∀ m ∈ new, Insertable (f.extract n) p m := by
          intro m hmn
          refine ⟨fun he => hm (he ▸ hmn), fun hc => ?_⟩
          unfold spread isRoot at hc
          rw [content?_extract] at hc
          split at hc
          · refine hs ⟨p, m, hp, hm, hmn, ‹_›, ?_⟩
            rw [← hf.mem_children]
            exact mem_children_extract hc
          · exact hm (List.mem_singleton.mp hc ▸ hmn)
        obtain ⟨g', hg'⟩ := insertFrom_ok (i := f.indexOf p n) hall
        rw [hg'] at h
        cases h

/-- With such a document among the nodes the refusal comes too late: the node has left its place, and
it stands nowhere unless it was put back before. -/
theorem replaceWith_exposed (hf : f.WellFormed) (h : Exposed f n new) :
    ∃ g, replaceWith n new f = .error .insertedIntoItself g ∧ (n ∉ new → g.Apart n) := by
  obtain ⟨p, m, hp, hpn, hm, hr, hpm⟩ := h
  have hpne : p ≠ n := fun he => hf.acyclic n (above_of_parent? (he ▸ hp))
  have hself : new ≠ [n] := by
    rintro rfl
    -- otherwise the node would stand above its own parent
    rw [List.mem_singleton.mp hm] at hpm
    exact hf.acyclic n ((above_of_parent? hpm).trans (above_of_parent? hp))
  have hroot : (f.extract n).isRoot m = true := by
    unfold Forest.isRoot at hr ⊢
    rwa [content?_extract]
  have hchild : p ∈ (f.extract n).children m :=
    mem_children_extract_of ((hf.mem_children m p).mpr hpm) hpne
  have hother (k : NodeId) (hk : p ∈ (f.extract n).children k) : k = m := by
    have hpk := (hf.mem_children k p).mp (mem_children_extract hk)
    exact Option.some.inj (hpk.symm.trans hpm)
  obtain ⟨g, hg⟩ := insertFrom_refused (i := f.indexOf p n) hm hpn hroot hchild hother
  refine ⟨g, by rw [replaceWith_eq hp hpn, if_neg hself, hg], fun hn => ?_⟩
  have ha := insertFrom_apart (p := p) (i := f.indexOf p n) (hf.apart_extract n) hn
  unfold left at ha
  rwa [hg] at ha

/-- A replacement leaves its node nowhere, or does nothing, unless the node is among those that are put
in its place. Either way the next one is refused before anything is moved. -/
theorem replaceWith_again (hf : f.WellFormed) (hn : n ∉ new) :
    ∃ e, replaceWith n new (left (replaceWith n new) f) =
      .error e (left (replaceWith n new) f) := by
  have hself : new ≠ [n] := by
    rintro rfl
    exact hn List.mem_cons_self
  cases hp : f.parent? n with
  | none =>
    have h : replaceWith n new f = .error .notInTree f := replaceWith_nowhere hp
    unfold left
    rw [h]
    exact ⟨_, h⟩
  | some p =>
    by_cases hm : p ∈ new
    · have h := replaceWith_parent hp hself hm
      unfold left
      rw [h]
      exact ⟨_, h⟩
    · have ha : (left (replaceWith n new) f).Apart n := by
        have h := insertFrom_apart (p := p) (i := f.indexOf p n) (hf.apart_extract n) hn
        unfold left at h ⊢
        rwa [replaceWith_eq hp hm, if_neg hself]
      exact ⟨_, replaceWith_nowhere ha.parent⟩

end Edit

end LiveMarkdown.Document

namespace LiveMarkdown

open Document (NodeId Forest)
open Script (Machine Value Run World)

/-- A session is another one but for its tree, new objects of the heap, and what the host was told.
All that has a name in it, and all that can be reached from there, is as it was. -/
def SameNames (st st' : Session) : Prop := ∃ forest objects told,
  st' = { st with
    world := { st.world with forest, heap := st.world.heap ++ objects }
    emitted := st.emitted ++ told }

theorem SameNames.of_forest (st : Session) (forest : Forest) :
    SameNames st { st with world := { st.world with forest } } :=
  ⟨forest, #[], [], by simp⟩

namespace Executor

section

variable {s : Settings} {f : Fragment} {o : Outcome} {st : Session} {t : Forest}

/-- The forest that an outcome leaves when it is applied. -/
def applied (f : Fragment) (o : Outcome) (t : Forest) : Forest := Document.Edit.left (edit f o) t

/-- An outcome is a failure to run the fragment, and the host was told so once. -/
def Warned (s : Settings) (o : Outcome) (st st' : Session) : Prop :=
  ∃ x : Failure, o = .unchanged (some x) ∧ x.kind = .exec ∧
    st'.emitted = st.emitted ++ [x.announcement s.debug]

/-! ### The tree after an edit -/

/-- A refusal leaves the tree as it is, if no document around the fragment is to be put in its place. -/
theorem applied_refused (hf : st.world.forest.WellFormed)
    (hs : ¬ Document.Edit.Exposed st.world.forest f.node o.inserted) (h : Refused f o st) :
    applied f o st.world.forest = st.world.forest := by
  obtain ⟨e, t, he⟩ := h
  cases o with
  | substituted nodes =>
    have he : Document.Edit.replaceWith f.node nodes st.world.forest = .error e t := he
    have ht : t = st.world.forest := Document.Edit.replaceWith_refused hf hs he
    have hl : Document.Edit.left (Document.Edit.replaceWith f.node nodes) st.world.forest = t := by
      unfold Document.Edit.left
      rw [he]
    exact hl.trans ht
  | removed | unchanged w => cases he

/-- Such a document is refused, and the fragment is taken out of the tree. -/
theorem applied_exposed (hf : st.world.forest.WellFormed)
    (hs : Document.Edit.Exposed st.world.forest f.node o.inserted) : Refused f o st ∧
      (f.node ∉ o.inserted → (applied f o st.world.forest).parent? f.node = none) := by
  cases o with
  | substituted nodes =>
    obtain ⟨g, hg, ha⟩ := Document.Edit.replaceWith_exposed hf hs
    refine ⟨⟨_, g, hg⟩, fun hn => ?_⟩
    have hg : Document.Edit.replaceWith f.node nodes st.world.forest = .error _ g := hg
    have hl : Document.Edit.left (Document.Edit.replaceWith f.node nodes) st.world.forest = g := by
      unfold Document.Edit.left
      rw [hg]
    have happ : applied f (.substituted nodes) st.world.forest = g := hl
    rw [happ]
    exact (ha hn).parent
  | removed | unchanged w =>
    obtain ⟨p, m, -, -, hm, -⟩ := hs
    cases hm

/-- The second time an outcome is applied, a substitution is refused, and nothing else is. -/
theorem refused_again {st₁ : Session} (hf : st.world.forest.WellFormed)
    (ht : st₁.world.forest = applied f o st.world.forest) (hn : f.node ∉ o.inserted) :
    Refused f o st₁ ↔ ∃ nodes, o = .substituted nodes := by
  cases o with
  | substituted nodes =>
    obtain ⟨e, he⟩ := Document.Edit.replaceWith_again hf hn
    refine ⟨fun _ => ⟨nodes, rfl⟩, fun _ => ⟨e, applied f (.substituted nodes) st.world.forest, ?_⟩⟩
    rw [ht]
    exact he
  | removed | unchanged w =>
    refine ⟨fun ⟨e, t, h⟩ => ?_, nofun⟩
    cases h

/-- An outcome that is applied again changes nothing. -/
theorem applied_again (hf : st.world.forest.WellFormed) (hn : f.node ∉ o.inserted) :
    applied f o (applied f o st.world.forest) = applied f o st.world.forest := by
  cases o with
  | substituted nodes =>
    obtain ⟨e, he⟩ := Document.Edit.replaceWith_again hf hn
    have hl : Document.Edit.left (Document.Edit.replaceWith f.node nodes)
        (applied f (.substituted nodes) st.world.forest) =
          applied f (.substituted nodes) st.world.forest := by
      have he' : Document.Edit.replaceWith f.node nodes
          (applied f (.substituted nodes) st.world.forest) = _ := he
      conv_lhs => unfold Document.Edit.left
      rw [he']
      rfl
    exact hl
  | removed =>
    have hp : (st.world.forest.extract f.node).parent? f.node = none := by
      simp [Forest.parent?_extract]
    exact Forest.extract_of_parent?_none hp
  | unchanged w => rfl

/-! ### The session after an edit -/

/-- The exception that a refused edit is. -/
def refusal (e : Document.EditError) : Script.Object :=
  .exception (.type "ValueError") [.str e.message] none none false #[]

theorem apply_ok (h : (edit f o).run st.world.forest = .ok () t) :
    apply s f o st = .ok o { st with world := { st.world with forest := t } } := by
  unfold apply
  rw [bind_apply, applyEdit_apply, h]
  rfl

/-- A refused edit becomes a warning. The tree is as the edit left it. -/
theorem apply_refused {e : Document.EditError} (d : Nat) (hm : s.machine = Script.machine (d + 2))
    (h : (edit f o).run st.world.forest = .error e t) : ∃ o' st', apply s f o st = .ok o' st' ∧
      SameNames st st' ∧ st'.world.forest = t ∧ Warned s o' st st' := by
  let r : Script.Ref := st.world.heap.size
  let w : World := { st.world with forest := t, heap := st.world.heap.push (refusal e) }
  have hr : w.heap[r]? = some (refusal e) := Array.getElem?_push_size
  obtain ⟨detail, hd⟩ := Exception.describe_valueError d hr
  let x : Failure := failure s f .exec detail (some (.ref r))
  refine ⟨.unchanged (some x), { st with world := w, emitted := st.emitted ++
    [x.announcement s.debug] }, ?_, ⟨t, #[refusal e], [x.announcement s.debug], rfl⟩, rfl,
    x, rfl, rfl, rfl⟩
  have hdescribe : Engine.lift (Exception.describe s.machine (.ref r)) { st with world := w } =
      .ok detail { st with world := w } := lift_ok { st with world := w } (hm ▸ hd)
  unfold apply
  rw [bind_apply, applyEdit_apply, h]
  exact bind_of_ok hdescribe

/-- Applying an outcome always ends, with the tree that its edit leaves. It warns if the edit is
refused, and otherwise tells the host nothing. -/
theorem apply_left (d : Nat) (hm : s.machine = Script.machine (d + 2)) (f : Fragment) (o : Outcome)
    (st : Session) : ∃ o' st', apply s f o st = .ok o' st' ∧ SameNames st st' ∧
      st'.world.forest = applied f o st.world.forest ∧
      (Refused f o st ∧ Warned s o' st st' ∨
        ¬ Refused f o st ∧ o' = o ∧ st'.emitted = st.emitted) := by
  unfold applied Document.Edit.left
  cases he : edit f o st.world.forest with
  | ok _ t =>
    refine ⟨o, _, apply_ok he, .of_forest st t, rfl, .inr ⟨fun ⟨e, t', hr⟩ => ?_, rfl, rfl⟩⟩
    cases he.symm.trans hr
  | error e t =>
    obtain ⟨o', st', ha, hs, ht, hw⟩ := apply_refused d hm he
    exact ⟨o', st', ha, hs, ht, .inl ⟨⟨e, t, he⟩, hw⟩⟩

theorem Warned.ne {o' : Outcome} {st' : Session} (h : Warned s o' st st') (hr : Refused f o st) :
    o' ≠ o := by
  rintro rfl
  obtain ⟨x, rfl, -⟩ := h
  obtain ⟨e, t, he⟩ := hr
  cases he

/-- No run of a fragment ends with a document in an outcome. So whatever becomes of the tree, as long as
elements and texts do not become documents, the outcome stays one that may be refused without harm. -/
theorem execute_not_exposed {g : Fragment} {st₁ : Session} (h : execute s f st = .ok (g, o) st₁)
    (ht : ∀ m, st₁.world.forest.isRoot m = false → t.isRoot m = false) :
    ¬ Document.Edit.Exposed t g.node o.inserted := by
  rintro ⟨p, m, -, -, hm, hr, -⟩
  cases o with
  | substituted nodes =>
    have hl := (execute_accepts h nodes rfl).level m hm
    have hroot := (Forest.of_level? hl).2
    rw [ht m hroot] at hr
    cases hr
  | removed | unchanged w => cases hm

/-- Applying an outcome, however late, keeps all that has a name, and tells the host nothing unless the
edit is refused. A refusal is one warning, and the tree is as before, unless a document with the parent
of the fragment among its children is to be put in the place of the fragment: then the edit is refused
too late, and the fragment is lost. Applied once more, the outcome leaves the tree as it is, if the
fragment is not among its own nodes; then a substitution is refused, and nothing else is. -/
theorem apply_harmless (d : Nat) (hm : s.machine = Script.machine (d + 2))
    (hf : st.world.forest.WellFormed) (f : Fragment) (o : Outcome) :
    ∃ o₁ st₁, apply s f o st = .ok o₁ st₁ ∧ SameNames st st₁ ∧
      (o₁ = o → st₁.emitted = st.emitted) ∧
      (o₁ ≠ o → Warned s o₁ st st₁ ∧
        (¬ Document.Edit.Exposed st.world.forest f.node o.inserted →
          st₁.world.forest = st.world.forest)) ∧
      (Document.Edit.Exposed st.world.forest f.node o.inserted → o₁ ≠ o ∧
        (f.node ∉ o.inserted → st₁.world.forest.parent? f.node = none)) ∧
      (f.node ∉ o.inserted → ∃ o₂ st₂, apply s f o st₁ = .ok o₂ st₂ ∧ SameNames st₁ st₂ ∧
        st₂.world.forest = st₁.world.forest ∧
        match o with
        | .substituted _ => Warned s o₂ st₁ st₂
        | .removed | .unchanged _ => o₂ = o ∧ st₂.emitted = st₁.emitted) := by
  obtain ⟨o₁, st₁, h₁, hs₁, ht₁, hw₁⟩ := apply_left d hm f o st
  refine ⟨o₁, st₁, h₁, hs₁, fun he => ?_, fun hne => ?_, fun hd => ?_, fun hn => ?_⟩
  · obtain ⟨hr, hw⟩ | ⟨-, -, hq⟩ := hw₁
    · exact absurd he (hw.ne hr)
    · exact hq
  · obtain ⟨hr, hw⟩ | ⟨-, he, -⟩ := hw₁
    · exact ⟨hw, fun hd => ht₁.trans (applied_refused hf hd hr)⟩
    · exact absurd he hne
  · obtain ⟨hr, hlost⟩ := applied_exposed hf hd
    obtain ⟨-, hw⟩ | ⟨hn, -⟩ := hw₁
    · exact ⟨hw.ne hr, fun hn => (congrArg (·.parent? f.node) ht₁).trans (hlost hn)⟩
    · exact absurd hr hn
  · obtain ⟨o₂, st₂, h₂, hs₂, ht₂, hw₂⟩ := apply_left d hm f o st₁
    have ht : st₂.world.forest = st₁.world.forest := by rw [ht₂, ht₁, applied_again hf hn]
    have hagain : Refused f o st₁ ↔ ∃ nodes, o = .substituted nodes := refused_again hf ht₁ hn
    refine ⟨o₂, st₂, h₂, hs₂, ht, ?_⟩
    cases o with
    | substituted nodes =>
      obtain ⟨-, hw⟩ | ⟨hr, -⟩ := hw₂
      · exact hw
      · exact absurd (hagain.mpr ⟨nodes, rfl⟩) hr
    | removed | unchanged w =>
      obtain ⟨hr, -⟩ | ⟨-, hq⟩ := hw₂
      · obtain ⟨nodes, he⟩ := hagain.mp hr
        cases he
      · exact hq

end

/-- The paragraph after its code was moved into the element behind it. -/
def regroupedParagraph : Session :=
  { paragraph with world :=
    { paragraph.world with forest := paragraph.world.forest.moveTo 5 1 3 } }

/-- The element now is the parent of the code and cannot be put in its place, however often. -/
theorem paragraph_refused : ∃ o₁ st₁ o₂ st₂,
    apply paragraphSettings paragraphCode (.substituted [5]) regroupedParagraph = .ok o₁ st₁ ∧
    Warned paragraphSettings o₁ regroupedParagraph st₁ ∧
    apply paragraphSettings paragraphCode (.substituted [5]) st₁ = .ok o₂ st₂ ∧
    Warned paragraphSettings o₂ st₁ st₂ ∧
    st₁.world.forest = regroupedParagraph.world.forest ∧
    st₂.world.forest = regroupedParagraph.world.forest := by
  have hm : paragraph.world.forest.Movable 5 3 := by
    refine ⟨by decide, by decide, fun h => ?_⟩
    obtain h | h := Relation.reflTransGen_iff_eq_or_transGen.mp h
    · cases h
    · exact absurd ((Forest.mem_ancestors paragraph_wellFormed).mpr h) (by decide)
  have hf : regroupedParagraph.world.forest.WellFormed :=
    paragraph_wellFormed.moveTo (by decide) hm 1
  have hs : ¬ Document.Edit.Exposed regroupedParagraph.world.forest 3 [5] := by
    rintro ⟨p, m, -, -, hmem, hr, -⟩
    cases List.mem_singleton.mp hmem
    exact absurd hr (by decide)
  obtain ⟨o₁, st₁, h₁, -, -, hrefused, -, hagain⟩ :=
    apply_harmless (s := paragraphSettings) 0 rfl hf paragraphCode (.substituted [5])
  obtain ⟨o₂, st₂, h₂, -, ht, hw₂⟩ := hagain (by decide)
  have hne : o₁ ≠ .substituted [5] := by
    rintro rfl
    have hok : okAnd (apply paragraphSettings paragraphCode (.substituted [5]) regroupedParagraph)
        fun o _ => o.inserted == [] := by decide +kernel
    rw [h₁] at hok
    cases hok
  obtain ⟨hw₁, hkept⟩ := hrefused hne
  have ht₁ := hkept hs
  exact ⟨o₁, st₁, o₂, st₂, h₁, hw₁, h₂, hw₂, ht₁, ht.trans ht₁⟩

/-- A paragraph with nothing but code in it. -/
def lonelyParagraph : Session where
  world :=
    { forest :=
        ⟨#[⟨.root, none, [1]⟩,
          ⟨.tag { name := "p", attrs := [] }, some 0, [2]⟩,
          ⟨.tag { name := "code", attrs := [("class", .text "python")] }, some 1, [3]⟩,
          ⟨.text .plain "1", some 2, []⟩]⟩ }

def lonelyCode : Fragment where
  node := 2
  level := .inline
  text := "1"
  attributes := [("class", "python")]

/-- The whole document cannot be put in the place of the code, but the code is gone by then. -/
theorem lonelyParagraph_loses : lonelyParagraph.world.forest.WellFormed ∧ ∃ o₁ st₁,
    apply paragraphSettings lonelyCode (.substituted [0]) lonelyParagraph = .ok o₁ st₁ ∧
    Warned paragraphSettings o₁ lonelyParagraph st₁ ∧
    lonelyParagraph.world.forest.children 1 = [2] ∧ st₁.world.forest.children 1 = [] ∧
    st₁.world.forest ≠ lonelyParagraph.world.forest := by
  have hf : lonelyParagraph.world.forest.WellFormed := by
    refine .of_ordered ?_ ?_ <;> decide
  have hd : Document.Edit.Exposed lonelyParagraph.world.forest 2 [0] :=
    ⟨1, 0, rfl, by decide, by decide, rfl, rfl⟩
  obtain ⟨hr, -⟩ := applied_exposed (o := .substituted [0]) (f := lonelyCode) hf hd
  obtain ⟨o₁, st₁, ha, -, ht, ⟨-, hw⟩ | ⟨hn, -⟩⟩ :=
    apply_left (s := paragraphSettings) 0 rfl lonelyCode (.substituted [0]) lonelyParagraph
  · have hlost : st₁.world.forest.children 1 = [] := by
      rw [ht]
      rfl
    refine ⟨hf, o₁, st₁, ha, hw, rfl, hlost, fun he => ?_⟩
    rw [he] at hlost
    cases hlost
  · exact absurd hr hn

end Executor

end LiveMarkdown
