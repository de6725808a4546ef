import LiveMarkdown.Proofs.Recognition
import LiveMarkdown.Prose.Extension
import Mathlib

/-!
The names of extensions: how they are read off texts, and which of them are left. Of several names with
one key the first one stays, at its place and in its spelling, so lists of names behave like sets that
have an order.
-/

namespace LiveMarkdown

/-! ### The first of each key -/

/-- The first item of each admitted key of a list, in their order. -/
structure Firsts {α κ : Type} [DecidableEq κ] (key : α → κ) (admitted : κ → Prop)
    (all kept : List α) : Prop where
  keys : ∀ k, k ∈ kept.map key ↔ k ∈ all.map key ∧ admitted k
  once : (kept.map key).Nodup
  ordered : kept.Pairwise fun a b => (all.map key).idxOf (key a) < (all.map key).idxOf (key b)
  spelled : ∀ a ∈ kept, all[(all.map key).idxOf (key a)]? = some a

namespace Firsts

variable {α κ : Type} [DecidableEq κ] {key : α → κ} {admitted : κ → Prop} {all kept : List α} {a : α}

theorem nil : Firsts key admitted [] [] :=
  ⟨fun k => by simp, .nil, .nil, fun a ha => absurd ha List.not_mem_nil⟩

theorem key_mem (h : Firsts key admitted all kept) (ha : a ∈ kept) : key a ∈ all.map key :=
  ((h.keys _).mp (List.mem_map_of_mem ha)).1

theorem idxOf_lt (h : Firsts key admitted all kept) (ha : a ∈ kept) :
    (all.map key).idxOf (key a) < all.length := by
  have hl := List.idxOf_lt_length_of_mem (h.key_mem ha)
  rwa [List.length_map] at hl

theorem idxOf_append (h : Firsts key admitted all kept) (ha : a ∈ kept) (b : α) :
    ((all ++ [b]).map key).idxOf (key a) = (all.map key).idxOf (key a) := by
  rw [List.map_append, List.idxOf_append_of_mem (h.key_mem ha)]

/-- What is kept stands where it stood, also if an item is put behind the list. -/
theorem later (h : Firsts key admitted all kept) (b : α) :
    (kept.Pairwise fun a c => ((all ++ [b]).map key).idxOf (key a) <
      ((all ++ [b]).map key).idxOf (key c)) ∧
    ∀ a ∈ kept, (all ++ [b])[((all ++ [b]).map key).idxOf (key a)]? = some a := by
  constructor
  · refine h.ordered.imp_of_mem fun ha hc hlt => ?_
    rwa [h.idxOf_append ha, h.idxOf_append hc]
  · intro a ha
    rw [h.idxOf_append ha, List.getElem?_append_left (h.idxOf_lt ha)]
    exact h.spelled a ha

/-- An item that is not admitted, or has a key that is there, is passed over. -/
theorem skip (h : Firsts key admitted all kept)
    (ha : ¬ admitted (key a) ∨ key a ∈ kept.map key) : Firsts key admitted (all ++ [a]) kept := by
  refine ⟨fun k => ?_, h.once, (h.later a).1, (h.later a).2⟩
  rw [h.keys, List.map_append, List.mem_append, List.map_singleton, List.mem_singleton]
  constructor
  · rintro ⟨hk, hd⟩
    exact ⟨.inl hk, hd⟩
  · rintro ⟨hk | rfl, hd⟩
    · exact ⟨hk, hd⟩
    · exact (h.keys _).mp (ha.resolve_left (not_not_intro hd))

/-- An admitted item with a new key is kept. -/
theorem add (h : Firsts key admitted all kept) (hd : admitted (key a))
    (ha : key a ∉ kept.map key) : Firsts key admitted (all ++ [a]) (kept ++ [a]) := by
  have hn : key a ∉ all.map key := fun hk => ha ((h.keys _).mpr ⟨hk, hd⟩)
  have hi : ((all ++ [a]).map key).idxOf (key a) = all.length := by
    simp [List.idxOf_append_of_notMem hn]
  refine ⟨fun k => ?_, ?_, ?_, fun b hb => ?_⟩
  · simp only [List.map_append, List.mem_append, List.map_singleton, List.mem_singleton, h.keys]
    constructor
    · rintro (⟨hk, hd⟩ | rfl)
      · exact ⟨.inl hk, hd⟩
      · exact ⟨.inr rfl, hd⟩
    · rintro ⟨hk | rfl, hd⟩
      · exact .inl ⟨hk, hd⟩
      · exact .inr rfl
  · rw [List.map_append, List.map_singleton]
    exact List.nodup_append.mpr ⟨h.once, List.nodup_singleton _, by
      rintro k hk _ hj rfl
      rw [List.mem_singleton] at hj
      exact ha (hj ▸ hk)⟩
  · refine List.pairwise_append.mpr ⟨(h.later a).1, List.pairwise_singleton _ _, fun b hb c hc => ?_⟩
    obtain rfl := List.mem_singleton.mp hc
    rw [hi, h.idxOf_append hb]
    exact h.idxOf_lt hb
  · rcases List.mem_append.mp hb with hb | hb
    · exact (h.later a).2 b hb
    · obtain rfl := List.mem_singleton.mp hb
      rw [hi]
      simp

/-- There is one list of first items only. -/
theorem unique {kept' : List α} (h : Firsts key admitted all kept)
    (h' : Firsts key admitted all kept') : kept = kept' := by
  have hp : (kept.map key).Perm (kept'.map key) :=
    (List.perm_ext_iff_of_nodup h.once h'.once).mpr fun k => by rw [h.keys, h'.keys]
  have hk : kept.map key = kept'.map key := by
    have ho {l : List α} (hl : Firsts key admitted all l) : (l.map key).Pairwise fun j k =>
        (all.map key).idxOf j < (all.map key).idxOf k := List.pairwise_map.mpr hl.ordered
    refine hp.eq_of_pairwise (fun j k _ _ hjk hkj => ?_) (ho h) (ho h')
    omega
  have hs {l : List α} (hl : Firsts key admitted all l) :
      l.map some = (l.map key).map fun k => all[(all.map key).idxOf k]? := by
    rw [List.map_map]
    exact List.map_congr_left fun a ha => (hl.spelled a ha).symm
  have he : kept.map some = kept'.map some := by
    rw [hs h, hs h', hk]
  exact List.map_injective_iff.mpr (Option.some_injective α) he

end Firsts

/-! ### The names in a text -/

namespace Text

variable {sep : Char → Bool} {c : Char} {cs ds : List Char} {vs ws : List (List Char)}

/-- A text with its pieces in their order: before, between and behind them stand separators only, and
at least one between two of them. -/
inductive Pieced (sep : Char → Bool) : List Char → List (List Char) → Prop where
  | gap {gap : List Char} (hg : ∀ c ∈ gap, sep c = true) : Pieced sep gap []
  | piece {gap w rest : List Char} {ws : List (List Char)} (hg : ∀ c ∈ gap, sep c = true)
      (hne : w ≠ []) (hw : ∀ c ∈ w, sep c = false) (hr : ∀ c ∈ rest.head?, sep c = true)
      (h : Pieced sep rest ws) : Pieced sep (gap ++ (w ++ rest)) (w :: ws)

theorem Pieced.cons (hc : sep c = true) (h : Pieced sep cs ws) : Pieced sep (c :: cs) ws := by
  cases h with
  | gap hg => exact .gap (List.forall_mem_cons.mpr ⟨hc, hg⟩)
  | @piece gap _ _ _ hg hne hw hr h =>
    have hg' : ∀ d ∈ c :: gap, sep d = true := List.forall_mem_cons.mpr ⟨hc, hg⟩
    exact .piece hg' hne hw hr h

theorem Pieced.single (hne : cs ≠ []) (hw : ∀ c ∈ cs, sep c = false) : Pieced sep cs [cs] := by
  have hg : ∀ c ∈ ([] : List Char), sep c = true := fun c hc => absurd hc List.not_mem_nil
  have hr : ∀ c ∈ ([] : List Char).head?, sep c = true := fun c hc => by cases hc
  simpa using Pieced.piece hg hne hw hr (.gap hg)

/-- Two texts with a separator between them have the pieces of both. -/
theorem Pieced.append (hc : sep c = true) (h : Pieced sep cs vs) (h' : Pieced sep ds ws) :
    Pieced sep (cs ++ c :: ds) (vs ++ ws) := by
  induction h with
  | @gap gap hg =>
    induction gap with
    | nil => exact h'.cons hc
    | cons d gap ih =>
      obtain ⟨hd, hg⟩ := List.forall_mem_cons.mp hg
      exact (ih hg).cons hd
  | @piece gap w rest ws hg hne hw hr _ ih =>
    rw [List.append_assoc, List.append_assoc]
    refine .piece hg hne hw (fun d hd => ?_) ih
    cases rest with
    | nil =>
      obtain rfl : c = d := by simpa using hd
      exact hc
    | cons e rest => exact hr d hd

theorem pieces_gap_append {gap : List Char} (hg : ∀ c ∈ gap, sep c = true) :
    pieces sep (gap ++ cs) = pieces sep cs := by
  induction gap with
  | nil => rfl
  | cons c gap ih =>
    obtain ⟨hc, hg⟩ := List.forall_mem_cons.mp hg
    rw [List.cons_append, pieces_cons_of_sep hc, ih hg]

theorem Pieced.pieces_eq (h : Pieced sep cs ws) : pieces sep cs = ws := by
  induction h with
  | @gap gap hg =>
    rw [← List.append_nil gap, pieces_gap_append hg]
    rfl
  | @piece gap w rest ws hg hne hw hr _ ih =>
    obtain ⟨c, w, rfl⟩ := List.exists_cons_of_ne_nil hne
    obtain ⟨hc, hw⟩ := List.forall_mem_cons.mp hw
    have hw' : ∀ d ∈ w, (!sep d) = true := fun d hd => by rw [hw d hd, Bool.not_false]
    have hr' : rest.takeWhile (fun d => !sep d) = [] ∧ rest.dropWhile (fun d => !sep d) = rest := by
      cases rest with
      | nil => exact ⟨rfl, rfl⟩
      | cons d rest =>
        have hd := hr d rfl
        simp [hd]
    rw [pieces_gap_append hg, List.cons_append, pieces_cons_of_not_sep hc,
      List.takeWhile_append_of_pos hw', List.dropWhile_append_of_pos hw', hr'.1, hr'.2, ih,
      List.append_nil]

theorem pieced_pieces (sep : Char → Bool) (cs : List Char) : Pieced sep cs (pieces sep cs) := by
  match cs with
  | [] => exact .gap fun c hc => absurd hc List.not_mem_nil
  | c :: cs =>
    have hl := cs.length_dropWhile_le fun d => !sep d
    cases hc : sep c with
    | true =>
      rw [pieces_cons_of_sep hc]
      exact (pieced_pieces sep cs).cons hc
    | false =>
      have hw : ∀ d ∈ c :: cs.takeWhile (fun d => !sep d), sep d = false := by
        refine List.forall_mem_cons.mpr ⟨hc, fun d hd => ?_⟩
        simpa using List.mem_takeWhile_imp hd
      have hr : ∀ d ∈ (cs.dropWhile fun d => !sep d).head?, sep d = true := by
        intro d hd
        have h := List.head?_dropWhile_not (fun d => !sep d) cs
        rw [Option.mem_def.mp hd] at h
        simpa using h
      have hg : ∀ d ∈ ([] : List Char), sep d = true := fun d hd => absurd hd List.not_mem_nil
      have h := Pieced.piece hg (List.cons_ne_nil _ _) hw hr (pieced_pieces sep _)
      rw [pieces_cons_of_not_sep hc]
      simpa using h
termination_by cs.length
decreasing_by all_goals simp_all only [List.length_cons]; omega

/-- The pieces of a text are told by its separators. -/
theorem pieces_eq_iff : pieces sep cs = ws ↔ Pieced sep cs ws :=
  ⟨fun h => h ▸ pieced_pieces sep cs, Pieced.pieces_eq⟩

end Text

namespace Prose.Extension

open Text (Pieced)

variable {dropped wider acc xs ys ns enabled disabled : List String} {n text gap : String}

theorem names_eq_iff : names text = ns ↔ Pieced isSeparator text.toList (ns.map String.toList) := by
  have hns : ns = (ns.map String.toList).map String.ofList := by simp
  have hinj : Function.Injective String.ofList := fun _ _ => String.ofList_inj.mp
  rw [← Text.pieces_eq_iff]
  unfold names
  conv_lhs => rw [hns]
  exact (List.map_injective_iff.mpr hinj).eq_iff

theorem pieced_names (text : String) :
    Pieced isSeparator text.toList ((names text).map String.toList) :=
  names_eq_iff.mp rfl

theorem names_single (hne : n.toList ≠ []) (hn : ∀ c ∈ n.toList, isSeparator c = false) :
    names n = [n] :=
  names_eq_iff.mpr (.single hne hn)

/-- A name that was read off a text is read off itself. -/
theorem names_of_mem (h : n ∈ names text) : names n = [n] := by
  obtain ⟨v, hv, rfl⟩ := List.mem_map.mp h
  have hr := (Text.mem_pieces _).mp hv
  exact names_single (by simpa using hr.nonempty) (by simpa using hr.inner)

theorem names_append_gap {s t : String} (hne : gap ≠ "")
    (hg : ∀ c ∈ gap.toList, isSeparator c = true) : names (s ++ gap ++ t) = names s ++ names t := by
  have hl : gap.toList ≠ [] := fun h => hne (String.toList_inj.mp h)
  obtain ⟨c, gap', hc⟩ := List.exists_cons_of_ne_nil hl
  rw [hc] at hg
  obtain ⟨hs, hg⟩ := List.forall_mem_cons.mp hg
  have ht : Pieced isSeparator (gap' ++ t.toList) ((names t).map String.toList) := by
    rw [← Text.pieces_eq_iff, Text.pieces_gap_append hg, Text.pieces_eq_iff]
    exact pieced_names t
  have h := (pieced_names s).append hs ht
  rw [names_eq_iff, String.toList_append, String.toList_append, hc, List.map_append]
  simpa using h

theorem names_intercalate (hne : gap ≠ "") (hg : ∀ c ∈ gap.toList, isSeparator c = true)
    (group : List String) : names (gap.intercalate group) = splitNames group := by
  induction group with
  | nil => rw [String.intercalate_nil]; rfl
  | cons t group ih =>
    cases group with
    | nil => simp [splitNames]
    | cons u group =>
      rw [String.intercalate_cons_cons, names_append_gap hne hg, ih]
      rfl

/-- Some texts that stand one behind the other in a list are put together to one text, with blanks
and commas between them. -/
inductive Joined : List String → List String → Prop where
  | mk (before group after : List String) (gap : String) (hne : gap ≠ "")
      (hg : ∀ c ∈ gap.toList, isSeparator c = true) :
      Joined (before ++ group ++ after) (before ++ gap.intercalate group :: after)

/-- Two lists have the same names, grouped into texts in two ways. -/
def Regrouped : List String → List String → Prop := Relation.EqvGen Joined

theorem splitNames_append (xs ys : List String) :
    splitNames (xs ++ ys) = splitNames xs ++ splitNames ys := List.flatMap_append

theorem splitNames_joined (h : Joined xs ys) : splitNames xs = splitNames ys := by
  obtain ⟨before, group, after, gap, hne, hg⟩ := h
  have hj : splitNames (gap.intercalate group :: after) = splitNames group ++ splitNames after :=
    List.flatMap_cons.trans (congrArg (· ++ splitNames after) (names_intercalate hne hg group))
  rw [List.append_assoc, splitNames_append, splitNames_append, splitNames_append, hj]

theorem splitNames_regrouped (h : Regrouped xs ys) : splitNames xs = splitNames ys := by
  induction h with
  | rel _ _ h => exact splitNames_joined h
  | refl => rfl
  | symm _ _ _ ih => exact ih.symm
  | trans _ _ _ _ _ ih ih' => exact ih.trans ih'

/-! ### Names that are added to others -/

theorem addNames_passed (h : Text.lower n ∈ dropped ∨ Text.lower n ∈ acc.map Text.lower) :
    addNames dropped acc (n :: ns) = addNames dropped acc ns :=
  if_pos (Bool.or_eq_true_iff.mpr (h.imp List.contains_iff_mem.mpr List.contains_iff_mem.mpr))

theorem addNames_added (hd : Text.lower n ∉ dropped) (ha : Text.lower n ∉ acc.map Text.lower) :
    addNames dropped acc (n :: ns) = addNames dropped (acc ++ [n]) ns := by
  rw [addNames]
  simp [hd, ha]

theorem addNames_append :
    addNames dropped acc (xs ++ ys) = addNames dropped (addNames dropped acc xs) ys := by
  induction xs generalizing acc with
  | nil => rfl
  | cons n xs ih =>
    by_cases h : Text.lower n ∈ dropped ∨ Text.lower n ∈ acc.map Text.lower
    · rw [List.cons_append, addNames_passed h, addNames_passed h, ih]
    · rw [not_or] at h
      rw [List.cons_append, addNames_added h.1 h.2, addNames_added h.1 h.2, ih]

theorem prefix_addNames (dropped acc ns : List String) : acc <+: addNames dropped acc ns := by
  induction ns generalizing acc with
  | nil => exact List.prefix_rfl
  | cons n ns ih =>
    by_cases h : Text.lower n ∈ dropped ∨ Text.lower n ∈ acc.map Text.lower
    · rw [addNames_passed h]
      exact ih acc
    · rw [not_or] at h
      rw [addNames_added h.1 h.2]
      exact (List.prefix_append acc [n]).trans (ih _)

/-- Names that are there already change nothing. -/
theorem addNames_known (h : ∀ n ∈ ns, Text.lower n ∈ acc.map Text.lower) :
    addNames dropped acc ns = acc := by
  induction ns with
  | nil => rfl
  | cons n ns ih =>
    obtain ⟨hn, hns⟩ := List.forall_mem_cons.mp h
    rw [addNames_passed (.inr hn), ih hns]

/-- Distinct names that are not dropped are all added. -/
theorem addNames_fresh (hd : ∀ n ∈ ns, Text.lower n ∉ dropped)
    (h : ((acc ++ ns).map Text.lower).Nodup) : addNames dropped acc ns = acc ++ ns := by
  induction ns generalizing acc with
  | nil => exact (List.append_nil acc).symm
  | cons n ns ih =>
    obtain ⟨hn, hns⟩ := List.forall_mem_cons.mp hd
    rw [List.append_cons] at h
    have ha : Text.lower n ∉ acc.map Text.lower := by
      rw [List.map_append, List.map_append, List.map_singleton] at h
      intro hm
      exact (List.nodup_append.mp h.of_append_left).2.2 _ hm _ (List.mem_singleton_self _) rfl
    rw [addNames_added hn ha, ih hns h, ← List.append_cons]

/-- To drop more names is to drop them from the result. -/
theorem addNames_filter (acc : List String) (hw : ∀ k ∈ dropped, k ∈ wider) :
    addNames wider (acc.filter fun n => Text.lower n ∉ wider) ns =
      (addNames dropped acc ns).filter fun n => Text.lower n ∉ wider := by
  induction ns generalizing acc with
  | nil => rfl
  | cons n ns ih =>
    have hk (h : Text.lower n ∉ wider) : Text.lower n ∈ (acc.filter fun n => Text.lower n ∉ wider).map
        Text.lower ↔ Text.lower n ∈ acc.map Text.lower := by
      simp only [List.mem_map, List.mem_filter, decide_eq_true_eq]
      constructor
      · rintro ⟨a, ⟨ha, -⟩, hl⟩
        exact ⟨a, ha, hl⟩
      · rintro ⟨a, ha, hl⟩
        exact ⟨a, ⟨ha, hl ▸ h⟩, hl⟩
    by_cases hd : Text.lower n ∈ dropped
    · rw [addNames_passed (.inl (hw _ hd)), addNames_passed (.inl hd), ih]
    by_cases hn : Text.lower n ∈ wider
    · rw [addNames_passed (.inl hn)]
      by_cases ha : Text.lower n ∈ acc.map Text.lower
      · rw [addNames_passed (.inr ha), ih]
      · rw [addNames_added hd ha, ← ih, List.filter_append]
        simp [hn]
    · by_cases ha : Text.lower n ∈ acc.map Text.lower
      · rw [addNames_passed (.inr ((hk hn).mpr ha)), addNames_passed (.inr ha), ih]
      · rw [addNames_added hn (mt (hk hn).mp ha), addNames_added hd ha, ← ih, List.filter_append]
        simp [hn]

/-- The names that are there are the first of their keys, at every moment. -/
theorem addNames_firsts (h : Firsts Text.lower (· ∉ dropped) xs acc) :
    Firsts Text.lower (· ∉ dropped) (xs ++ ns) (addNames dropped acc ns) := by
  induction ns generalizing xs acc with
  | nil => rwa [List.append_nil]
  | cons n ns ih =>
    rw [List.append_cons]
    by_cases hn : Text.lower n ∈ dropped ∨ Text.lower n ∈ acc.map Text.lower
    · rw [addNames_passed hn]
      exact ih (h.skip (hn.imp_left not_not_intro))
    · rw [not_or] at hn
      rw [addNames_added hn.1 hn.2]
      exact ih (h.add hn.1 hn.2)

theorem resolve_firsts (enabled disabled : List String) :
    Firsts Text.lower (· ∉ (splitNames disabled).map Text.lower) (defaults ++ splitNames enabled)
      (resolve enabled disabled) :=
  addNames_firsts .nil

theorem names_defaults : ∀ n ∈ defaults, names n = [n] := by
  decide +kernel

theorem names_resolve (h : n ∈ resolve enabled disabled) : names n = [n] := by
  have hf := resolve_firsts enabled disabled
  have hm : n ∈ defaults ++ splitNames enabled := List.mem_of_getElem? (hf.spelled n h)
  rcases List.mem_append.mp hm with hm | hm
  · exact names_defaults n hm
  · obtain ⟨t, -, ht⟩ := List.mem_flatMap.mp hm
    exact names_of_mem ht

theorem splitNames_resolve (enabled disabled : List String) :
    splitNames (resolve enabled disabled) = resolve enabled disabled := by
  have h {l : List String} (hl : ∀ n ∈ l, names n = [n]) : splitNames l = l := by
    unfold splitNames
    rw [List.flatMap_congr hl, List.flatMap_singleton']
  exact h fun n => names_resolve

/-- The result, enabled with the same names disabled, is the result again. -/
theorem resolve_resolve (enabled disabled : List String) :
    resolve (resolve enabled disabled) disabled = resolve enabled disabled := by
  have hf := resolve_firsts enabled disabled
  have hs := splitNames_resolve enabled disabled
  obtain ⟨extra, he⟩ : addNames ((splitNames disabled).map Text.lower) [] defaults <+:
      resolve enabled disabled := by
    unfold resolve
    rw [addNames_append]
    exact prefix_addNames _ _ _
  have hd : ∀ n ∈ extra, Text.lower n ∉ (splitNames disabled).map Text.lower := fun n hn =>
    ((hf.keys _).mp (List.mem_map_of_mem (he ▸ List.mem_append_right _ hn))).2
  have ho := hf.once
  calc resolve (resolve enabled disabled) disabled
    _ = addNames ((splitNames disabled).map Text.lower)
          (addNames ((splitNames disabled).map Text.lower) [] defaults)
          (resolve enabled disabled) := by
      rw [resolve, hs, addNames_append]
    _ = resolve enabled disabled := by
      rw [← he] at ho ⊢
      rw [addNames_append, addNames_known fun n hn => List.mem_map_of_mem hn,
        addNames_fresh hd ho]

theorem resolve_prefix (enabled disabled more : List String) :
    resolve enabled disabled <+: resolve (enabled ++ more) disabled := by
  have h : resolve (enabled ++ more) disabled = addNames ((splitNames disabled).map Text.lower)
      (resolve enabled disabled) (splitNames more) := by
    unfold resolve
    rw [splitNames_append, ← List.append_assoc, ← addNames_append]
  rw [h]
  exact prefix_addNames _ _ _

theorem resolve_filter (hw : ∀ k ∈ (splitNames disabled).map Text.lower,
      k ∈ (splitNames wider).map Text.lower) :
    resolve enabled wider = (resolve enabled disabled).filter fun n =>
      Text.lower n ∉ (splitNames wider).map Text.lower :=
  addNames_filter [] hw

/-- The extensions of a document are the first of each name among those that are always there and those
that are enabled, without the names that are disabled. So the result stays when it is enabled again, to
enable more adds names at its end, to disable more takes names out of it, and it does not matter how
the names are grouped into texts. -/
theorem resolve_orders (enabled disabled : List String) :
    (∀ ns, ns = resolve enabled disabled ↔ Firsts Text.lower
      (· ∉ (splitNames disabled).map Text.lower) (defaults ++ splitNames enabled) ns) ∧
    resolve (resolve enabled disabled) disabled = resolve enabled disabled ∧
    (∀ more, resolve enabled disabled <+: resolve (enabled ++ more) disabled) ∧
    (∀ wider, (∀ k ∈ (splitNames disabled).map Text.lower, k ∈ (splitNames wider).map Text.lower) →
      resolve enabled wider = (resolve enabled disabled).filter fun n =>
        Text.lower n ∉ (splitNames wider).map Text.lower) ∧
    (∀ enabled' disabled', Regrouped enabled enabled' → Regrouped disabled disabled' →
      resolve enabled' disabled' = resolve enabled disabled) ∧
    (∀ more, splitNames (enabled ++ more) = splitNames enabled ++ splitNames more) ∧
    ∀ text ns, splitNames [text] = ns ↔ Pieced isSeparator text.toList (ns.map String.toList) := by
  refine ⟨fun ns => ⟨fun h => h ▸ resolve_firsts enabled disabled,
      fun h => h.unique (resolve_firsts enabled disabled)⟩,
    resolve_resolve enabled disabled, resolve_prefix enabled disabled,
    fun wider hw => resolve_filter hw, fun enabled' disabled' he hd => ?_,
    splitNames_append enabled, fun text ns => ?_⟩
  · unfold resolve
    rw [splitNames_regrouped he, splitNames_regrouped hd]
  · rw [← names_eq_iff, splitNames, List.flatMap_singleton]

/-- A name in two spellings, in texts that are grouped in two ways, beside an extension that is disabled
and one more. -/
theorem contents_resolved :
    Regrouped ["TOC", "sane_lists", "toc"] ["TOC, sane_lists", "toc"] ∧
    resolve ["TOC, sane_lists", "toc"] ["tables"] = ["fenced_code", "attr_list", "abbr", "admonition",
      "def_list", "footnotes", "md_in_html", "TOC", "sane_lists"] ∧
    resolve ["TOC", "sane_lists", "toc"] ["Tables abbr"] = ["fenced_code", "attr_list", "admonition",
      "def_list", "footnotes", "md_in_html", "TOC", "sane_lists"] := by
  have hj : Regrouped ["TOC", "sane_lists", "toc"] ["TOC, sane_lists", "toc"] := by
    have h := Joined.mk [] ["TOC", "sane_lists"] ["toc"] ", " (by decide)
      (by simp [isSeparator, Text.isBlank])
    exact .rel _ _ (by simpa using h)
  have he : resolve ["TOC", "sane_lists", "toc"] ["tables"] = ["fenced_code", "attr_list", "abbr",
      "admonition", "def_list", "footnotes", "md_in_html", "TOC", "sane_lists"] := by
    decide +kernel
  obtain ⟨-, -, -, hwider, hgroups, -⟩ := resolve_orders ["TOC", "sane_lists", "toc"] ["tables"]
  refine ⟨hj, (hgroups _ _ hj (.refl _)).trans he, (hwider _ (by decide +kernel)).trans ?_⟩
  rw [he]
  decide +kernel

end Prose.Extension

end LiveMarkdown
