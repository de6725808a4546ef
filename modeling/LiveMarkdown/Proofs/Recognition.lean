import LiveMarkdown.Fragment.Recognition
import LiveMarkdown.Proofs.Forest

/-!
Which nodes are fragments, said without the order in which the program looks: by the words of classes,
the first child of a name, and the nodes above a node.
-/

namespace LiveMarkdown.Text

variable {sep : Char → Bool} {c : Char} {cs v : List Char}

/-- A run of characters without separators that cannot be made longer on either side. -/
structure IsRun (sep : Char → Bool) (cs v : List Char) : Prop where
  nonempty : v ≠ []
  inner : ∀ c ∈ v, sep c = false
  bounded : ∃ before after, cs = before ++ (v ++ after) ∧ (∀ c ∈ before.getLast?, sep c = true) ∧
    ∀ c ∈ after.head?, sep c = true

/-- A word of a text. -/
def IsWord (s w : String) : Prop := IsRun isBlank s.toList w.toList

theorem not_isRun_nil : ¬ IsRun sep [] v := by
  intro h
  obtain ⟨before, after, he, -⟩ := h.bounded
  have hv : v = [] := by
    have h := congrArg List.length he
    simp only [List.length_nil, List.length_append] at h
    exact List.length_eq_zero_iff.mp (by omega)
  exact h.nonempty hv

theorem isRun_cons_of_sep (hc : sep c = true) : IsRun sep (c :: cs) v ↔ IsRun sep cs v := by
  constructor
  · rintro ⟨hne, hin, before, after, he, hb, ha⟩
    cases before with
    | nil =>
      obtain ⟨d, v, rfl⟩ := List.exists_cons_of_ne_nil hne
      obtain ⟨rfl, -⟩ := List.cons.inj he
      have hd := hin c List.mem_cons_self
      rw [hc] at hd
      cases hd
    | cons b before =>
      obtain ⟨rfl, rfl⟩ := List.cons.inj he
      refine ⟨hne, hin, before, after, rfl, fun d hd => hb d ?_, ha⟩
      cases before with
      | nil => cases hd
      | cons a before => simpa using hd
  · rintro ⟨hne, hin, before, after, rfl, hb, ha⟩
    refine ⟨hne, hin, c :: before, after, rfl, fun d hd => ?_, ha⟩
    cases before with
    | nil =>
      obtain rfl : c = d := by simpa using hd
      exact hc
    | cons a before => exact hb d (by simpa using hd)

theorem pieces_cons_of_sep (hc : sep c = true) : pieces sep (c :: cs) = pieces sep cs := by
  cases cs <;> simp [pieces, hc]

theorem pieces_cons_of_not_sep (hc : sep c = false) : pieces sep (c :: cs) =
    (c :: cs.takeWhile fun d => !sep d) :: pieces sep (cs.dropWhile fun d => !sep d) := by
  induction cs generalizing c with
  | nil => simp [pieces, hc]
  | cons d cs ih =>
    rw [pieces]
    simp only [hc, Bool.false_eq_true, if_false]
    cases hd : sep d with
    | true => simp [hd]
    | false => simp [hd, ih hd]

/-- Behind a separator, what stands before a run is cut at its first separator. -/
theorem dropWhile_before {before : List Char} (hb : ∀ d ∈ before.getLast?, sep d = true)
    (hne : before ≠ []) (cs : List Char) : ((before ++ cs).dropWhile fun d => !sep d) =
      (before.dropWhile fun d => !sep d) ++ cs ∧
      ∀ d ∈ (before.dropWhile fun d => !sep d).getLast?, sep d = true := by
  have hlast : sep (before.getLast hne) = true := hb _ (List.getLast?_eq_getLast_of_ne_nil hne)
  have hd : before.dropWhile (fun d => !sep d) ≠ [] := by
    intro he
    have hall := List.dropWhile_eq_nil_iff.mp he _ (List.getLast_mem hne)
    simp [hlast] at hall
  constructor
  · rw [List.dropWhile_append, if_neg (by simpa using hd)]
  · intro d hd
    refine hb d ?_
    rw [← List.takeWhile_append_dropWhile (p := fun d => !sep d) (l := before), List.getLast?_append,
      Option.mem_def.mp hd]
    rfl

theorem isRun_cons_of_not_sep (hc : sep c = false) : IsRun sep (c :: cs) v ↔
    (v = c :: cs.takeWhile fun d => !sep d) ∨ IsRun sep (cs.dropWhile fun d => !sep d) v := by
  have hhead : ∀ d ∈ (cs.dropWhile fun d => !sep d).head?, sep d = true := by
    intro d hd
    have h := List.head?_dropWhile_not (fun d => !sep d) cs
    rw [Option.mem_def.mp hd] at h
    simpa using h
  constructor
  · rintro ⟨hne, hin, before, after, he, hb, ha⟩
    cases before with
    | nil =>
      obtain ⟨d, v, rfl⟩ := List.exists_cons_of_ne_nil hne
      obtain ⟨rfl, rfl⟩ : c = d ∧ cs = v ++ after := by simpa using he
      have hv : ∀ d ∈ v, (!sep d) = true := fun d hd => by simp [hin d (List.mem_cons_of_mem _ hd)]
      refine .inl ?_
      rw [List.takeWhile_append_of_pos hv]
      cases after with
      | nil => simp
      | cons d after => simp [ha d (by simp)]
    | cons b before =>
      obtain ⟨rfl, rfl⟩ := List.cons.inj he
      have hbefore : before ≠ [] := by
        rintro rfl
        rw [hb c (by simp)] at hc
        cases hc
      have hb : ∀ d ∈ before.getLast?, sep d = true := by
        intro d hd
        refine hb d ?_
        rwa [List.getLast?_cons_of_ne_nil hbefore]
      obtain ⟨hdrop, hlast⟩ := dropWhile_before hb hbefore (v ++ after)
      exact .inr ⟨hne, hin, before.dropWhile fun d => !sep d, after, hdrop, hlast, ha⟩
  · rintro (rfl | ⟨hne, hin, before, after, he, hb, ha⟩)
    · refine ⟨List.cons_ne_nil _ _, fun d hd => ?_, [], cs.dropWhile fun d => !sep d, ?_, nofun, hhead⟩
      · obtain rfl | hd := List.mem_cons.mp hd
        · exact hc
        · simpa using List.mem_takeWhile_imp hd
      · simp
    · have hbefore : before ≠ [] := by
        -- what is left begins with a separator, a run does not
        rintro rfl
        obtain ⟨d, v, rfl⟩ := List.exists_cons_of_ne_nil hne
        have hd := hhead d (by simp [he])
        rw [hin d List.mem_cons_self] at hd
        cases hd
      refine ⟨hne, hin, (c :: cs.takeWhile fun d => !sep d) ++ before, after, ?_, ?_, ha⟩
      · simp [← he]
      · rw [List.getLast?_append_of_ne_nil _ hbefore]
        exact hb

/-- The pieces of a list are its runs. -/
theorem mem_pieces (cs : List Char) : v ∈ pieces sep cs ↔ IsRun sep cs v := by
  match cs with
  | [] => simp [pieces, not_isRun_nil]
  | c :: cs =>
    have hl := cs.length_dropWhile_le fun d => !sep d
    cases hc : sep c with
    | true => rw [isRun_cons_of_sep hc, pieces_cons_of_sep hc, mem_pieces cs]
    | false =>
      rw [isRun_cons_of_not_sep hc, pieces_cons_of_not_sep hc, List.mem_cons, mem_pieces]
termination_by cs.length
decreasing_by all_goals simp_all only [List.length_cons]; omega

theorem mem_words {s w : String} : w ∈ words s ↔ IsWord s w := by
  unfold words IsWord
  rw [← mem_pieces, List.mem_map]
  constructor
  · rintro ⟨v, hv, rfl⟩
    simpa using hv
  · intro h
    exact ⟨w.toList, h, by simp⟩

end LiveMarkdown.Text

namespace LiveMarkdown

open Document (NodeId Forest Tag AttrValue)

namespace Document.Forest

variable {f : Forest} {n c : NodeId} {name : String}

/-- A node is the first child of a name. -/
def FirstNamed (f : Forest) (n c : NodeId) (name : String) : Prop :=
  f.name? c = some name ∧ ∃ before after, f.children n = before ++ c :: after ∧
    ∀ b ∈ before, f.name? b ≠ some name

theorem childNamed?_eq_some : f.childNamed? n name = some c ↔ f.FirstNamed n c name := by
  unfold childNamed? FirstNamed
  rw [List.find?_eq_some_iff_append]
  simp

theorem childNamed?_eq_none :
    f.childNamed? n name = none ↔ ∀ c ∈ f.children n, f.name? c ≠ some name := by
  unfold childNamed?
  rw [List.find?_eq_none]
  simp

theorem isBelow_iff (hf : f.WellFormed) :
    f.isBelow n name = true ↔ ∃ a, f.Above a n ∧ f.name? a = some name := by
  unfold isBelow
  simp [mem_ancestors hf]

/-- No element has two attributes of one name. -/
def DistinctNames (f : Forest) : Prop := ∀ n t, f.tag? n = some t → (t.attrs.map Prod.fst).Nodup

end Document.Forest

namespace Fragment

variable {f : Forest} {markers : List String} {n : NodeId} {t u : Tag} {g : Fragment} {k : String}
  {as bs : List (String × String)}

/-- A token of the classes of an element: an item of their list, or a word of their text. -/
def HasClass (t : Tag) (k : String) : Prop := ∃ v, t.attr? "class" = some v ∧
  match v with
  | .tokens ks => k ∈ ks
  | v => Text.IsWord v.joined k

def Marked (markers : List String) (t : Tag) : Prop := ∃ k ∈ markers, HasClass t k

theorem mem_classesOf : k ∈ classesOf t ↔ HasClass t k := by
  unfold classesOf HasClass
  cases t.attr? "class" with
  | none => simp
  | some v => cases v <;> simp [AttrValue.words, Text.mem_words]

theorem hasMarker_iff : hasMarker markers t = true ↔ Marked markers t := by
  unfold hasMarker Marked
  simp [mem_classesOf, and_comm]

/-! ### Attributes that are overridden -/

/-- The value that a list of attributes has for a name. -/
def valueOf? (as : List (String × String)) (k : String) : Option String :=
  (as.find? fun a => a.1 == k).map (·.2)

/-- Attributes with those of another list: values of the same name take the place of the old ones, the
other attributes follow in their order. -/
def overridden (as bs : List (String × String)) : List (String × String) :=
  (as.map fun a => (a.1, (valueOf? bs a.1).getD a.2)) ++ bs.filter fun b => (valueOf? as b.1).isNone

theorem valueOf?_cons {b : String × String} :
    valueOf? (b :: bs) k = if b.1 = k then some b.2 else valueOf? bs k := by
  unfold valueOf?
  rw [List.find?_cons]
  by_cases h : b.1 = k
  · simp [h]
  · have hb : (b.1 == k) = false := by simpa using h
    simp [h, hb]

theorem valueOf?_append : valueOf? (as ++ bs) k = (valueOf? as k).or (valueOf? bs k) := by
  induction as with
  | nil => rfl
  | cons a as ih =>
    rw [List.cons_append, valueOf?_cons, valueOf?_cons, ih]
    split <;> rfl

theorem valueOf?_eq_none : valueOf? as k = none ↔ ∀ a ∈ as, a.1 ≠ k := by
  unfold valueOf?
  rw [Option.map_eq_none_iff, List.find?_eq_none]
  simp

theorem any_eq_isSome : (as.any fun a => a.1 == k) = (valueOf? as k).isSome := by
  unfold valueOf?
  rw [Bool.eq_iff_iff, List.any_eq_true, Option.isSome_map, List.find?_isSome]

theorem valueOf?_setAttribute (as : List (String × String)) (name v : String) :
    valueOf? (setAttribute as name v) k = if name = k then some v else valueOf? as k := by
  have hmap : valueOf? (as.map fun a => if a.1 == name then (name, v) else a) k =
      if name = k then (valueOf? as k).map fun _ => v else valueOf? as k := by
    induction as with
    | nil => simp [valueOf?]
    | cons a as ih =>
      rw [List.map_cons, valueOf?_cons, valueOf?_cons, ih]
      by_cases ha : a.1 = name
      · subst ha
        by_cases hk : a.1 = k <;> simp [hk]
      · by_cases hk : name = k
        · subst hk
          simp [ha]
        · simp [ha, hk]
  unfold setAttribute
  rw [any_eq_isSome]
  split
  · rename_i hs
    rw [hmap]
    by_cases hk : name = k
    · subst hk
      obtain ⟨x, hx⟩ := Option.isSome_iff_exists.mp hs
      simp [hx]
    · simp [hk]
  · rename_i hs
    rw [valueOf?_append, valueOf?_cons]
    by_cases hk : name = k
    · subst hk
      simp [Option.not_isSome_iff_eq_none.mp hs]
    · simp [hk, valueOf?]

/-- Of the values for a name, the last one counts. -/
theorem valueOf?_mergeAttributes (as bs : List (String × String)) (k : String) :
    valueOf? (mergeAttributes as bs) k = (valueOf? bs.reverse k).or (valueOf? as k) := by
  induction bs generalizing as with
  | nil => rfl
  | cons b bs ih =>
    have hm : mergeAttributes as (b :: bs) = mergeAttributes (setAttribute as b.1 b.2) bs := rfl
    rw [hm, ih, valueOf?_setAttribute, List.reverse_cons, valueOf?_append, Option.or_assoc,
      valueOf?_cons]
    split <;> rfl

theorem overridden_setAttribute {b : String × String} (hb : valueOf? bs b.1 = none) :
    overridden (setAttribute as b.1 b.2) bs = overridden as (b :: bs) := by
  have hfilter : (bs.filter fun c => (valueOf? (setAttribute as b.1 b.2) c.1).isNone) =
      bs.filter fun c => (valueOf? as c.1).isNone := by
    refine List.filter_congr fun c hc => ?_
    rw [valueOf?_setAttribute, if_neg (Ne.symm (valueOf?_eq_none.mp hb c hc))]
  unfold overridden
  rw [hfilter, List.filter_cons]
  unfold setAttribute
  rw [any_eq_isSome]
  cases ha : valueOf? as b.1 with
  | some x =>
    simp only [Option.isSome_some, if_true, List.map_map, Option.isNone_some, Bool.false_eq_true,
      if_false]
    congr 1
    refine List.map_congr_left fun a _ => ?_
    rw [valueOf?_cons, Function.comp_apply]
    by_cases he : a.1 = b.1
    · simp [he, hb]
    · simp [he, Ne.symm he]
  | none =>
    simp only [Option.isSome_none, Bool.false_eq_true, if_false, Option.isNone_none, if_true,
      List.map_append, List.map_cons, List.map_nil, hb, Option.getD_none, List.append_assoc,
      List.cons_append, List.nil_append]
    congr 1
    refine List.map_congr_left fun a hm => ?_
    rw [valueOf?_cons, if_neg (Ne.symm (valueOf?_eq_none.mp ha a hm))]

theorem mergeAttributes_eq (h : (bs.map Prod.fst).Nodup) :
    mergeAttributes as bs = overridden as bs := by
  induction bs generalizing as with
  | nil => simp [mergeAttributes, overridden, valueOf?]
  | cons b bs ih =>
    obtain ⟨hb, hbs⟩ := List.nodup_cons.mp h
    have hnone : valueOf? bs b.1 = none :=
      valueOf?_eq_none.mpr fun c hc he => hb (he ▸ List.mem_map_of_mem hc)
    have hm : mergeAttributes as (b :: bs) = mergeAttributes (setAttribute as b.1 b.2) bs := rfl
    rw [hm, ih hbs, overridden_setAttribute hnone]

/-! ### Fragments -/

/-- A block: a `pre` element that has a marker, or whose first `code` child has one, with the text of
that child and its attributes over those of the element; with its own text if there is no such child. -/
inductive IsBlock (f : Forest) (markers : List String) (n : NodeId) : Fragment → Prop where
  | fenced (t : Tag) (c : NodeId) (u : Tag) (ht : f.tag? n = some t) (hname : t.name = "pre")
      (hc : f.FirstNamed n c "code") (hu : f.tag? c = some u)
      (hm : Marked markers t ∨ Marked markers u) : IsBlock f markers n
        { node := n, level := .block, text := f.textOf c,
          attributes := overridden (textAttributes t) (textAttributes u) }
  | plain (t : Tag) (ht : f.tag? n = some t) (hname : t.name = "pre")
      (hc : ∀ c ∈ f.children n, f.name? c ≠ some "code") (hm : Marked markers t) :
      IsBlock f markers n
        { node := n, level := .block, text := f.textOf n, attributes := textAttributes t }

/-- Inline code: a `code` element that has a marker and stands below no `pre` element. -/
inductive IsInline (f : Forest) (markers : List String) (n : NodeId) : Fragment → Prop where
  | code (t : Tag) (ht : f.tag? n = some t) (hname : t.name = "code") (hm : Marked markers t)
      (hout : ∀ a, f.Above a n → f.name? a ≠ some "pre") : IsInline f markers n
        { node := n, level := .inline, text := f.textOf n, attributes := textAttributes t }

theorem nodup_textAttributes (h : (t.attrs.map Prod.fst).Nodup) :
    ((textAttributes t).map Prod.fst).Nodup := by
  have hs : ((textAttributes t).map Prod.fst).Sublist (t.attrs.map Prod.fst) := by
    unfold textAttributes
    rw [List.map_map]
    exact List.filter_sublist.map Prod.fst
  exact h.sublist hs

theorem ofPre?_eq_some (hd : f.DistinctNames) (ht : f.tag? n = some t) (hname : t.name = "pre") :
    ofPre? f markers n t = some g ↔ IsBlock f markers n g := by
  unfold ofPre?
  cases hc : f.childNamed? n "code" with
  | none =>
    have hno := Document.Forest.childNamed?_eq_none.mp hc
    simp only [hasMarker_iff, Option.ite_none_right_eq_some, Option.some.injEq]
    constructor
    · rintro ⟨hm, rfl⟩
      exact .plain t ht hname hno hm
    · intro h
      cases h with
      | fenced _ c _ _ _ hfirst =>
        rw [Document.Forest.childNamed?_eq_some.mpr hfirst] at hc
        cases hc
      | plain _ ht' _ _ hm =>
        cases ht.symm.trans ht'
        exact ⟨hm, rfl⟩
  | some c =>
    have hfirst := Document.Forest.childNamed?_eq_some.mp hc
    obtain ⟨u, hu, -⟩ := Option.map_eq_some_iff.mp hfirst.1
    have hmerge : mergeAttributes (textAttributes t) (textAttributes u) =
        overridden (textAttributes t) (textAttributes u) :=
      mergeAttributes_eq (nodup_textAttributes (hd c u hu))
    simp only [hu, Bool.or_eq_true, hasMarker_iff, Option.ite_none_right_eq_some, Option.some.injEq,
      hmerge]
    constructor
    · rintro ⟨hm, rfl⟩
      exact .fenced t c u ht hname hfirst hu hm
    · intro h
      cases h with
      | fenced _ c' _ ht' _ hfirst' hu' hm =>
        rw [Document.Forest.childNamed?_eq_some.mpr hfirst'] at hc
        cases hc
        cases ht.symm.trans ht'
        cases hu.symm.trans hu'
        exact ⟨hm, rfl⟩
      | plain _ _ _ hno =>
        rw [Document.Forest.childNamed?_eq_none.mpr hno] at hc
        cases hc

theorem ofCode?_eq_some (hf : f.WellFormed) (ht : f.tag? n = some t) (hname : t.name = "code") :
    ofCode? f markers n t = some g ↔ IsInline f markers n g := by
  have hout : (!f.isBelow n "pre") = true ↔ ∀ a, f.Above a n → f.name? a ≠ some "pre" := by
    rw [Bool.not_eq_true', ← Bool.not_eq_true, Document.Forest.isBelow_iff hf]
    simp
  unfold ofCode?
  simp only [Bool.and_eq_true, hasMarker_iff, hout, Option.ite_none_right_eq_some,
    Option.some.injEq]
  constructor
  · rintro ⟨⟨hm, hno⟩, rfl⟩
    exact .code t ht hname hm hno
  · intro h
    cases h with
    | code _ ht' _ hm hno =>
      cases ht.symm.trans ht'
      exact ⟨⟨hm, hno⟩, rfl⟩

theorem IsBlock.name (h : IsBlock f markers n g) : f.name? n = some "pre" := by
  cases h with
  | fenced t _ _ ht hname => exact Option.map_eq_some_iff.mpr ⟨t, ht, hname⟩
  | plain t ht hname => exact Option.map_eq_some_iff.mpr ⟨t, ht, hname⟩

theorem IsInline.name (h : IsInline f markers n g) : f.name? n = some "code" := by
  cases h with
  | code t ht hname => exact Option.map_eq_some_iff.mpr ⟨t, ht, hname⟩

/-- A node is a fragment exactly if it is a block or inline code. -/
theorem ofNode?_eq_some (hf : f.WellFormed) (hd : f.DistinctNames) :
    ofNode? f markers n = some g ↔ IsBlock f markers n g ∨ IsInline f markers n g := by
  have hname : f.name? n = (f.tag? n).map (·.name) := rfl
  unfold ofNode?
  cases ht : f.tag? n with
  | none =>
    rw [ht] at hname
    refine iff_of_false nofun ?_
    rintro (h | h)
    · exact absurd (h.name.symm.trans hname) nofun
    · exact absurd (h.name.symm.trans hname) nofun
  | some t =>
    rw [ht] at hname
    dsimp only
    by_cases hpre : t.name = "pre"
    · have hno : ¬ IsInline f markers n g := by
        intro h
        have hcode := h.name.symm.trans hname
        simp [hpre] at hcode
      rw [if_pos hpre, ofPre?_eq_some hd ht hpre, or_iff_left hno]
    · have hno : ¬ IsBlock f markers n g :=
        fun h => hpre (Option.some.inj (h.name.symm.trans hname)).symm
      rw [if_neg hpre, or_iff_right hno]
      by_cases hcode : t.name = "code"
      · rw [if_pos hcode, ofCode?_eq_some hf ht hcode]
      · rw [if_neg hcode]
        exact iff_of_false nofun fun h =>
          hcode (Option.some.inj (h.name.symm.trans hname)).symm

/-- No `code` element below a `pre` element is a fragment. -/
theorem ofNode?_below (hf : f.WellFormed) (hd : f.DistinctNames) {a : NodeId}
    (ha : f.Above a n) (hpre : f.name? a = some "pre") (hcode : f.name? n = some "code") :
    ofNode? f markers n = none := by
  refine Option.eq_none_iff_forall_ne_some.mpr fun x hx => ?_
  obtain h | h := (ofNode?_eq_some hf hd).mp hx
  · have hname := h.name.symm.trans hcode
    simp at hname
  · cases h with
    | code _ _ _ _ hout => exact hout a ha hpre

end Fragment

end LiveMarkdown
