import LiveMarkdown.Text.Blank
import LiveMarkdown.Text.Search
import Mathlib

/-!
Texts that are cut at a separator, and the one spelling of the ends of lines. To normalise the ends of
lines is one pass over the text from left to right, and what is then cut at line feeds are the lines of
the text as it was.
-/

namespace LiveMarkdown.Text

section Cutting

variable {sep new : List Char}

theorem cutAtAll_nil (fuel : Nat) (piece : List Char) :
    cutAtAll sep (fuel + 1) piece [] = [piece.reverse] := rfl

theorem cutAtAll_separator {c : Char} {cs : List Char} (h : sep <+: c :: cs) (fuel : Nat)
    (piece : List Char) : cutAtAll sep (fuel + 1) piece (c :: cs) =
      piece.reverse :: cutAtAll sep fuel [] ((c :: cs).drop sep.length) :=
  if_pos (List.isPrefixOf_iff_prefix.mpr h)

theorem cutAtAll_other {c : Char} {cs : List Char} (h : ¬ sep <+: c :: cs) (fuel : Nat)
    (piece : List Char) :
    cutAtAll sep (fuel + 1) piece (c :: cs) = cutAtAll sep fuel (c :: piece) cs :=
  if_neg (mt List.isPrefixOf_iff_prefix.mp h)

theorem cutAtAll_ne_nil (fuel : Nat) (piece cs : List Char) : cutAtAll sep fuel piece cs ≠ [] := by
  induction fuel generalizing piece cs with
  | zero => exact List.cons_ne_nil _ _
  | succ fuel ih =>
    cases cs with
    | nil => exact List.cons_ne_nil _ _
    | cons c cs =>
      by_cases hp : sep <+: c :: cs
      · rw [cutAtAll_separator hp]
        exact List.cons_ne_nil _ _
      · rw [cutAtAll_other hp]
        exact ih _ _

/-- What is put together from the parts again with something else between them is what a function makes
that puts it in place of each separator and keeps all other characters. -/
theorem intercalate_cutAtAll {f : List Char → List Char} (hne : sep ≠ []) (hnil : f [] = [])
    (hsep : ∀ cs, f (sep ++ cs) = new ++ f cs)
    (hother : ∀ c cs, ¬ sep <+: c :: cs → f (c :: cs) = c :: f cs) (fuel : Nat)
    (piece cs : List Char) (h : cs.length < fuel) :
    new.intercalate (cutAtAll sep fuel piece cs) = piece.reverse ++ f cs := by
  induction fuel generalizing piece cs with
  | zero => exact absurd h (Nat.not_lt_zero _)
  | succ fuel ih =>
    cases cs with
    | nil => simp [cutAtAll_nil, hnil]
    | cons c cs =>
      by_cases hp : sep <+: c :: cs
      · obtain ⟨rest, hr⟩ := hp
        have hl : rest.length < fuel := by
          have hlen := congrArg List.length hr
          have hpos := List.length_pos_of_ne_nil hne
          simp only [List.length_append, List.length_cons] at hlen h
          omega
        rw [cutAtAll_separator ⟨rest, hr⟩,
          List.intercalate_cons_of_ne_nil (cutAtAll_ne_nil _ _ _), ← hr, List.drop_left,
          ih [] rest hl, hsep]
        simp
      · have hl : cs.length < fuel := by
          simp only [List.length_cons] at h
          omega
        rw [cutAtAll_other hp, ih (c :: piece) cs hl, hother c cs hp]
        simp

/-- Every occurrence of a separator is replaced, and nothing else. -/
theorem toList_replaceAll {f : List Char → List Char} {old fresh s : String} (hne : old.toList ≠ [])
    (hnil : f [] = []) (hold : ∀ cs, f (old.toList ++ cs) = fresh.toList ++ f cs)
    (hother : ∀ c cs, ¬ old.toList <+: c :: cs → f (c :: cs) = c :: f cs) :
    (replaceAll old fresh s).toList = f s.toList := by
  have hl : s.toList.length < s.length + 1 := Nat.lt_succ_of_le (Nat.le_of_eq String.length_toList)
  have h := intercalate_cutAtAll hne hnil hold hother (s.length + 1) [] s.toList hl
  unfold replaceAll splitAt
  rw [String.toList_intercalate, List.map_map]
  simpa [Function.comp_def] using h

theorem modifyHead_nil_append (ls : List (List Char)) : ls.modifyHead ([] ++ ·) = ls := by
  cases ls <;> rfl

/-- A separator of one character cuts a list wherever the character stands. -/
theorem cutAtAll_singleton (c : Char) (fuel : Nat) (piece cs : List Char) (h : cs.length < fuel) :
    cutAtAll [c] fuel piece cs = (cs.splitOn c).modifyHead (piece.reverse ++ ·) := by
  induction fuel generalizing piece cs with
  | zero => exact absurd h (Nat.not_lt_zero _)
  | succ fuel ih =>
    cases cs with
    | nil => simp [cutAtAll_nil]
    | cons d cs =>
      have hl : cs.length < fuel := by
        simp only [List.length_cons] at h
        omega
      rw [List.splitOn_cons_eq_if_modifyHead]
      by_cases hd : d = c
      · have hi := (ih [] cs hl).trans (modifyHead_nil_append _)
        have hp : [c] <+: d :: cs := ⟨cs, by rw [hd, List.singleton_append]⟩
        rw [cutAtAll_separator hp]
        simp [hd, hi]
      · have hp : ¬ [c] <+: d :: cs := fun hp => hd (List.cons_prefix_cons.mp hp).1.symm
        rw [cutAtAll_other hp, ih (d :: piece) cs hl]
        simp [hd, List.modifyHead_modifyHead, Function.comp_def]

/-- A text that is cut at one character. -/
theorem splitAt_singleton {sep : String} {c : Char} (hs : sep.toList = [c]) (s : String) :
    splitAt sep s = (s.toList.splitOn c).map String.ofList := by
  have hl : s.toList.length < s.length + 1 := Nat.lt_succ_of_le (Nat.le_of_eq String.length_toList)
  unfold splitAt
  rw [hs, cutAtAll_singleton c _ _ _ hl, List.reverse_nil, modifyHead_nil_append]

end Cutting

/-! ### One spelling for the ends of lines -/

/-- One pass from left to right: a carriage return with the line feed behind it becomes one line feed,
and so does every other carriage return. -/
def scanReturns : List Char → List Char
  | [] => []
  | '\r' :: '\n' :: cs => '\n' :: scanReturns cs
  | '\r' :: cs => '\n' :: scanReturns cs
  | c :: cs => c :: scanReturns cs

section Scan

variable {c : Char} {cs a b : List Char}

theorem scanReturns_cons (hc : c ≠ '\r') : scanReturns (c :: cs) = c :: scanReturns cs := by
  rw [scanReturns]
  · exact fun _ h => absurd h hc
  · exact hc

theorem scanReturns_return (hn : cs.head? ≠ some '\n') :
    scanReturns ('\r' :: cs) = '\n' :: scanReturns cs := by
  rw [scanReturns]
  rintro _ rfl
  exact hn rfl

/-- The two replacements, one after the other, are the one pass. -/
theorem feedReturns_joinReturns (cs : List Char) : feedReturns (joinReturns cs) = scanReturns cs := by
  fun_induction joinReturns cs with
  | case1 => rfl
  | case2 cs ih => exact congrArg ('\n' :: ·) ih
  | case3 c cs hc ih =>
    have hf : feedReturns (c :: joinReturns cs) =
        (if c = '\r' then '\n' else c) :: feedReturns (joinReturns cs) := rfl
    rw [hf, ih]
    by_cases h : c = '\r'
    · subst h
      have hn : cs.head? ≠ some '\n' := by
        intro h
        obtain ⟨rest, rfl⟩ := List.head?_eq_some_iff.mp h
        exact hc rest rfl rfl
      rw [if_pos rfl, scanReturns_return hn]
    · rw [if_neg h, scanReturns_cons h]

theorem toList_normaliseNewlines (s : String) :
    (normaliseNewlines s).toList = scanReturns s.toList := by
  unfold normaliseNewlines
  rw [String.toList_ofList, feedReturns_joinReturns]

/-- To normalise is to replace twice: both characters together first, then what is left of the carriage
returns. -/
theorem normaliseNewlines_eq (s : String) :
    normaliseNewlines s = replaceAll "\r" "\n" (replaceAll "\r\n" "\n" s) := by
  have hj : (replaceAll "\r\n" "\n" s).toList = joinReturns s.toList := by
    refine toList_replaceAll (by simp) rfl (fun cs => rfl) fun c cs h => ?_
    rw [joinReturns]
    rintro rest rfl rfl
    exact h ⟨rest, rfl⟩
  have hf (t : String) : (replaceAll "\r" "\n" t).toList = feedReturns t.toList := by
    refine toList_replaceAll (by simp) rfl (fun cs => rfl) fun c cs h => ?_
    have hc : c ≠ '\r' := by
      rintro rfl
      exact h ⟨cs, rfl⟩
    simp [feedReturns, hc]
  apply String.toList_inj.mp
  rw [hf, hj, normaliseNewlines, String.toList_ofList]

theorem not_mem_scanReturns (cs : List Char) : '\r' ∉ scanReturns cs := by
  fun_induction scanReturns cs with
  | case1 => exact List.not_mem_nil
  | case2 cs ih => simpa using ih
  | case3 cs _ ih => simpa using ih
  | case4 c cs _ hc ih => simpa [eq_comm] using ⟨hc, ih⟩

theorem scanReturns_of_not_mem (h : '\r' ∉ cs) : scanReturns cs = cs := by
  induction cs with
  | nil => rfl
  | cons c cs ih =>
    have hc : c ≠ '\r' := fun he => h (he ▸ List.mem_cons_self)
    have hcs : '\r' ∉ cs := fun hm => h (List.mem_cons_of_mem _ hm)
    rw [scanReturns_cons hc, ih hcs]

/-! ### Texts one behind the other -/

/-- A text ends between a carriage return and the line feed that goes with it. -/
def Severed (a b : List Char) : Prop := a.getLast? = some '\r' ∧ b.head? = some '\n'

theorem Severed.cons (h : Severed a b) (c : Char) : Severed (c :: a) b := by
  refine ⟨?_, h.2⟩
  rw [List.getLast?_cons, h.1]
  rfl

theorem not_severed_of_not_mem (h : '\r' ∉ a) : ¬ Severed a b :=
  fun hs => h (List.mem_of_getLast? hs.1)

theorem scanReturns_append (h : ¬ Severed a b) :
    scanReturns (a ++ b) = scanReturns a ++ scanReturns b := by
  fun_induction scanReturns a with
  | case1 => rfl
  | case2 cs ih => exact congrArg ('\n' :: ·) (ih fun hs => h ((hs.cons '\n').cons '\r'))
  | case3 cs hn ih =>
    have hn' : (cs ++ b).head? ≠ some '\n' := by
      cases cs with
      | nil => exact fun hb => h ⟨rfl, hb⟩
      | cons d cs =>
        intro hd
        obtain rfl : d = '\n' := by simpa using hd
        exact hn cs rfl
    rw [List.cons_append, scanReturns_return hn', ih fun hs => h (hs.cons '\r')]
    rfl
  | case4 c cs _ hc ih =>
    rw [List.cons_append, scanReturns_cons hc, ih fun hs => h (hs.cons c)]
    rfl

/-- Of a pair that is torn apart each half is a line end of its own. -/
theorem length_scanReturns_severed (h : Severed a b) :
    (scanReturns a ++ scanReturns b).length = (scanReturns (a ++ b)).length + 1 := by
  obtain ⟨ha, hb⟩ := h
  obtain ⟨a, rfl⟩ := List.getLast?_eq_some_iff.mp ha
  obtain ⟨b, rfl⟩ := List.head?_eq_some_iff.mp hb
  have hs (cs : List Char) : ¬ Severed a ('\r' :: cs) := fun h => by simpa using h.2
  have hw : a ++ ['\r'] ++ '\n' :: b = a ++ '\r' :: '\n' :: b := by simp
  have hone : scanReturns ['\r'] = ['\n'] := rfl
  have hfeed : scanReturns ('\n' :: b) = '\n' :: scanReturns b := rfl
  have hpair : scanReturns ('\r' :: '\n' :: b) = '\n' :: scanReturns b := rfl
  rw [hw, scanReturns_append (hs []), scanReturns_append (hs ('\n' :: b)), hone, hfeed, hpair]
  simp only [List.length_append, List.length_cons, List.length_nil]
  omega

theorem scanReturns_append_iff : scanReturns (a ++ b) = scanReturns a ++ scanReturns b ↔
    ¬ Severed a b := by
  refine ⟨fun he hs => ?_, scanReturns_append⟩
  have hl := length_scanReturns_severed hs
  rw [he] at hl
  omega

/-! ### Lines -/

/-- What ends a line in front of the rest of a text. A carriage return ends it alone only if no line
feed follows. -/
inductive EndsLine : List Char → List Char → Prop where
  | feed (rest : List Char) : EndsLine ['\n'] rest
  | both (rest : List Char) : EndsLine ['\r', '\n'] rest
  | alone {rest : List Char} (h : rest.head? ≠ some '\n') : EndsLine ['\r'] rest

/-- The lines of a text, whichever way each of them is ended. The last one is what stands behind the
last end. -/
inductive Lines : List Char → List (List Char) → Prop where
  | last {l : List Char} (hr : '\r' ∉ l) (hf : '\n' ∉ l) : Lines l [l]
  | line {l e rest : List Char} {ls : List (List Char)} (hr : '\r' ∉ l) (hf : '\n' ∉ l)
      (he : EndsLine e rest) (hl : Lines rest ls) : Lines (l ++ (e ++ rest)) (l :: ls)

theorem EndsLine.scanReturns {e rest : List Char} (h : EndsLine e rest) :
    scanReturns (e ++ rest) = '\n' :: scanReturns rest := by
  cases h with
  | feed => exact scanReturns_cons (by decide)
  | both => rfl
  | alone h => exact scanReturns_return h

theorem Lines.splitOn {ls : List (List Char)} (h : Lines cs ls) :
    (scanReturns cs).splitOn '\n' = ls := by
  induction h with
  | last hr hf => rw [scanReturns_of_not_mem hr, List.splitOn_eq_singleton hf]
  | line hr hf he _ ih =>
    rw [scanReturns_append (not_severed_of_not_mem hr), scanReturns_of_not_mem hr, he.scanReturns,
      List.splitOn_append_cons_self_of_not_mem hf, ih]

theorem Lines.cons {l : List Char} {ls : List (List Char)} (h : Lines cs (l :: ls)) (hr : c ≠ '\r')
    (hf : c ≠ '\n') : Lines (c :: cs) ((c :: l) :: ls) := by
  cases h with
  | last hr' hf' => exact .last (by simp [hr', hr.symm]) (by simp [hf', hf.symm])
  | line hr' hf' he hl =>
    exact .line (l := c :: l) (by simp [hr', hr.symm]) (by simp [hf', hf.symm]) he hl

theorem lines_scanReturns (cs : List Char) : Lines cs ((scanReturns cs).splitOn '\n') := by
  have hnil (c : Char) : c ∉ ([] : List Char) := List.not_mem_nil
  have hcut (cs : List Char) : ('\n' :: cs).splitOn '\n' = [] :: cs.splitOn '\n' :=
    List.splitOn_append_cons_self_of_not_mem (hnil _) cs
  fun_induction scanReturns cs with
  | case1 => exact .last (hnil _) (hnil _)
  | case2 cs ih =>
    rw [hcut]
    exact .line (hnil _) (hnil _) (.both cs) ih
  | case3 cs hn ih =>
    rw [hcut]
    refine .line (hnil _) (hnil _) (.alone fun h => ?_) ih
    obtain ⟨rest, rfl⟩ := List.head?_eq_some_iff.mp h
    exact hn rest rfl
  | case4 c cs _ hc ih =>
    by_cases hf : c = '\n'
    · subst hf
      rw [hcut]
      exact .line (hnil _) (hnil _) (.feed cs) ih
    · obtain ⟨l, ls, hls⟩ := List.exists_cons_of_ne_nil (List.splitOn_ne_nil '\n' (scanReturns cs))
      rw [hls] at ih
      rw [List.splitOn_cons_eq_if_modifyHead, if_neg (by simpa using hf), hls]
      exact ih.cons hc hf

/-- Cut at line feeds, the normalised text falls into the lines of the text. -/
theorem splitOn_scanReturns_iff {ls : List (List Char)} :
    (scanReturns cs).splitOn '\n' = ls ↔ Lines cs ls :=
  ⟨fun h => h ▸ lines_scanReturns cs, Lines.splitOn⟩

end Scan

/-- To normalise the ends of lines, by two replacements, is one pass over the text. No carriage return is
left, the lines are those of the text, a second time changes nothing, and a text can be normalised in
parts, unless it is cut between the two characters of one line end. -/
theorem normaliseNewlines_scans (s : String) :
    normaliseNewlines s = replaceAll "\r" "\n" (replaceAll "\r\n" "\n" s) ∧
      (normaliseNewlines s).toList = scanReturns s.toList ∧
      '\r' ∉ (normaliseNewlines s).toList ∧
      (∀ ls, splitAt "\n" (normaliseNewlines s) = ls ↔ Lines s.toList (ls.map String.toList)) ∧
      normaliseNewlines (normaliseNewlines s) = normaliseNewlines s ∧
      ∀ t, normaliseNewlines (s ++ t) = normaliseNewlines s ++ normaliseNewlines t ↔
        ¬ Severed s.toList t.toList := by
  have hs := toList_normaliseNewlines s
  have hr : '\r' ∉ (normaliseNewlines s).toList := hs ▸ not_mem_scanReturns s.toList
  refine ⟨normaliseNewlines_eq s, hs, hr, fun ls => ?_, ?_, fun t => ?_⟩
  · have hls : ls = (ls.map String.toList).map String.ofList := by simp
    have hinj : Function.Injective String.ofList := fun _ _ => String.ofList_inj.mp
    rw [splitAt_singleton (c := '\n') (by simp), hs, ← splitOn_scanReturns_iff]
    conv_lhs => rw [hls]
    exact (List.map_injective_iff.mpr hinj).eq_iff
  · apply String.toList_inj.mp
    rw [toList_normaliseNewlines, scanReturns_of_not_mem hr]
  · rw [← String.toList_inj, String.toList_append, toList_normaliseNewlines, String.toList_append,
      toList_normaliseNewlines, toList_normaliseNewlines, scanReturns_append_iff]

end LiveMarkdown.Text
