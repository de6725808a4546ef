import LiveMarkdown.Console.Markup
import LiveMarkdown.Proofs.Newlines

/-!
The markup of a console. A text in which no tag, no bracket behind a backslash and no name of a picture
stands is left as it is. A tag that opens is left out, and one that closes where none is open is
refused. What a console shows of a text is the text itself if it holds no control characters and no
tabs.
-/

namespace LiveMarkdown.Text

theorem takeWhile_append_drop {α : Type} (p : α → Bool) (l : List α) :
    l.takeWhile p ++ l.drop (l.takeWhile p).length = l :=
  List.prefix_iff_eq_append.mp (List.takeWhile_prefix p)

/-- A separator that does not occur in a text does not cut it. -/
theorem cutAtAll_absent {sep cs : List Char} (h : ¬ sep <:+: cs) (fuel : Nat) (piece : List Char) :
    cutAtAll sep fuel piece cs = [piece.reverse ++ cs] := by
  induction fuel generalizing piece cs with
  | zero => rfl
  | succ fuel ih =>
    cases cs with
    | nil => rw [cutAtAll_nil, List.append_nil]
    | cons c cs =>
      have hp : ¬ sep <+: c :: cs := fun hp => h hp.isInfix
      have hs : ¬ sep <:+: cs := fun hs => h (hs.trans (List.suffix_cons c cs).isInfix)
      rw [cutAtAll_other hp, ih hs]
      simp

theorem replaceAll_absent {old s : String} (h : ¬ old.toList <:+: s.toList) (fresh : String) :
    replaceAll old fresh s = s := by
  unfold replaceAll splitAt
  rw [cutAtAll_absent h]
  simp

section Tabs

variable {size col : Nat} {c : Char} {cs : List Char}

theorem expandTabs_tab (size col : Nat) (cs : List Char) :
    ∃ n, expandTabs size col ('\t' :: cs) = List.replicate n ' ' ++ expandTabs size (col + n) cs :=
  ⟨_, rfl⟩

theorem expandTabs_other (size col : Nat) (hc : c ≠ '\t') (cs : List Char) :
    ∃ next, expandTabs size col (c :: cs) = c :: expandTabs size next cs := by
  by_cases hl : c = '\n' ∨ c = '\r'
  · exact ⟨0, (if_neg hc).trans (if_pos hl)⟩
  · exact ⟨col + 1, (if_neg hc).trans (if_neg hl)⟩

theorem mem_expandTabs (h : c ∈ expandTabs size col cs) : c ∈ cs ∧ c ≠ '\t' ∨ c = ' ' := by
  induction cs generalizing col with
  | nil => cases h
  | cons d cs ih =>
    have hcs {col : Nat} (h : c ∈ expandTabs size col cs) : c ∈ d :: cs ∧ c ≠ '\t' ∨ c = ' ' :=
      (ih h).imp_left fun h => ⟨List.mem_cons_of_mem _ h.1, h.2⟩
    by_cases hd : d = '\t'
    · subst hd
      obtain ⟨n, hn⟩ := expandTabs_tab size col cs
      rw [hn] at h
      rcases List.mem_append.mp h with h | h
      · exact .inr (List.eq_of_mem_replicate h)
      · exact hcs h
    · obtain ⟨next, hn⟩ := expandTabs_other size col hd cs
      rw [hn] at h
      rcases List.mem_cons.mp h with rfl | h
      · exact .inl ⟨List.mem_cons_self, hd⟩
      · exact hcs h

theorem expandTabs_untabbed (h : '\t' ∉ cs) : expandTabs size col cs = cs := by
  induction cs generalizing col with
  | nil => rfl
  | cons c cs ih =>
    have hc : c ≠ '\t' := fun hc => h (hc ▸ List.mem_cons_self)
    have hs : '\t' ∉ cs := fun hs => h (List.mem_cons_of_mem _ hs)
    obtain ⟨next, hn⟩ := expandTabs_other size col hc cs
    rw [hn, ih hs]

end Tabs

end LiveMarkdown.Text

namespace LiveMarkdown.Console

/-! ### Text on a console -/

/-- A text of which a console leaves nothing out and which it does not space out: without control
characters and tabs. -/
structure Legible (cs : List Char) : Prop where
  uncontrolled : ∀ c ∈ cs, isControl c = false
  untabbed : '\t' ∉ cs

theorem toList_shown (s : String) :
    (shown s).toList = Text.expandTabs 8 0 (s.toList.filter fun c => !isControl c) :=
  String.toList_ofList

theorem Legible.shown (s : String) : Legible (shown s).toList := by
  have hc : ∀ c ∈ (Console.shown s).toList, isControl c = false ∧ c ≠ '\t' := by
    intro c hc
    rw [toList_shown] at hc
    rcases Text.mem_expandTabs hc with ⟨hc, ht⟩ | rfl
    · exact ⟨by simpa using (List.mem_filter.mp hc).2, ht⟩
    · decide
  exact ⟨fun c h => (hc c h).1, fun h => (hc _ h).2 rfl⟩

/-- A console shows exactly the legible texts character for character. -/
theorem shown_eq_self_iff (s : String) : shown s = s ↔ Legible s.toList := by
  constructor
  · intro h
    rw [← h]
    exact .shown s
  · intro h
    have hk : (s.toList.filter fun c => !isControl c) = s.toList :=
      List.filter_eq_self.mpr fun c hc => by simp [h.uncontrolled c hc]
    unfold shown
    rw [hk, Text.expandTabs_untabbed h.untabbed, String.ofList_toList]

/-! ### Tags -/

/-- What stands between the brackets of a tag: no brackets, and a character in front that tags begin
with. -/
def IsTag (c : Char) (inner : List Char) : Prop := beginsTag c = true ∧ '[' ∉ inner ∧ ']' ∉ inner

/-- A tag in front of what follows it. -/
def tagThen (c : Char) (inner rest : List Char) : List Char := '[' :: c :: (inner ++ ']' :: rest)

/-- No tag begins anywhere in a text. -/
def Untagged (cs : List Char) : Prop :=
  ∀ pre c inner post, cs = pre ++ tagThen c inner post → ¬ IsTag c inner

section Tags

variable {c : Char} {cs inner rest pre : List Char}

theorem beginsTag_ne (h : beginsTag c = true) : c ≠ '[' ∧ c ≠ ']' ∧ c ≠ '\\' := by
  refine ⟨?_, ?_, ?_⟩
  all_goals
    rintro rfl
    exact absurd h (by decide)

theorem takeWhile_tag {p : Char → Bool} (hp : p ']' = false) (hi : ∀ d ∈ inner, p d = true) :
    (inner ++ ']' :: rest).takeWhile p = inner := by
  rw [List.takeWhile_append_of_pos hi, List.takeWhile_cons_of_neg (by simp [hp]), List.append_nil]

/-- A text begins with a tag if nothing but backslashes stands in front of one. -/
theorem tag?_eq_some_iff {slashes : Nat} {body : List Char} : tag? cs = some (slashes, body, rest) ↔
    ∃ c inner, body = c :: inner ∧ IsTag c inner ∧
      cs = List.replicate slashes '\\' ++ tagThen c inner rest := by
  constructor
  · intro h
    unfold tag? at h
    dsimp only at h
    split at h
    · next c after hd =>
      split at h
      · next ht =>
        obtain ⟨hb, hr⟩ := Bool.and_eq_true_iff.mp ht
        cases h
        set inner := after.takeWhile fun d => d != '[' && d != ']'
        have hi : ∀ d ∈ inner, d ≠ '[' ∧ d ≠ ']' := by
          intro d hd
          simpa using List.mem_takeWhile_imp hd
        have ha : after = inner ++ ']' :: after.drop (inner.length + 1) := by
          obtain ⟨post, hp⟩ := List.head?_eq_some_iff.mp (beq_iff_eq.mp hr)
          have hd : after.drop (inner.length + 1) = post := by
            rw [← List.drop_drop, hp]
            rfl
          rw [hd, ← hp]
          exact (Text.takeWhile_append_drop _ after).symm
        have hw : cs.takeWhile (· == '\\') =
            List.replicate (cs.takeWhile (· == '\\')).length '\\' := by
          apply List.eq_replicate_of_mem
          intro d hd
          simpa using List.mem_takeWhile_imp hd
        refine ⟨c, inner, rfl, ⟨hb, fun h => (hi _ h).1 rfl, fun h => (hi _ h).2 rfl⟩, ?_⟩
        rw [← hw, tagThen, ← ha, ← hd]
        exact (Text.takeWhile_append_drop _ cs).symm
      · cases h
    · cases h
  · rintro ⟨c, inner, rfl, ht, rfl⟩
    have hs : (List.replicate slashes '\\' ++ tagThen c inner rest).takeWhile (· == '\\') =
        List.replicate slashes '\\' := by
      rw [List.takeWhile_append_of_pos (by simp)]
      simp [tagThen]
    have hi : (inner ++ ']' :: rest).takeWhile (fun d => d != '[' && d != ']') = inner := by
      apply takeWhile_tag rfl
      intro d hd
      have hl : d ≠ '[' := fun h => ht.2.1 (h ▸ hd)
      have hr : d ≠ ']' := fun h => ht.2.2 (h ▸ hd)
      simp [hl, hr]
    unfold tag?
    dsimp only
    rw [hs, List.length_replicate, List.drop_left' List.length_replicate, tagThen]
    simp [hi, ht.1]

theorem Untagged.tag? (h : Untagged cs) {t : List Char} (ht : t <:+ cs) : tag? t = none := by
  cases hs : Console.tag? t with
  | none => rfl
  | some found =>
    obtain ⟨slashes, body, rest⟩ := found
    obtain ⟨c, inner, -, hi, rfl⟩ := tag?_eq_some_iff.mp hs
    obtain ⟨pre, rfl⟩ := ht
    exact absurd hi (h _ c inner rest (List.append_assoc ..).symm)

/-- A tag is found no earlier than where it begins, unless a backslash stands in front of it. -/
theorem tag?_before (h : Untagged pre) (hl : pre.getLast? ≠ some '\\')
    {t : List Char} (ht : t <:+ pre) (hne : t ≠ []) : tag? (t ++ tagThen c inner rest) = none := by
  obtain ⟨front, rfl⟩ := ht
  have hslash (slashes : Nat) (u : List Char) : t ++ u ≠ List.replicate slashes '\\' := by
    intro he
    have hm : t.getLast hne ∈ List.replicate slashes '\\' :=
      he ▸ List.mem_append_left u (List.getLast_mem hne)
    apply hl
    rw [List.getLast?_append_of_ne_nil _ hne, List.getLast?_eq_some_getLast hne,
      List.eq_of_mem_replicate hm]
  cases hs : Console.tag? (t ++ tagThen c inner rest) with
  | none => rfl
  | some found =>
    obtain ⟨slashes, body, after⟩ := found
    obtain ⟨d, within, -, hw, he⟩ := tag?_eq_some_iff.mp hs
    rcases List.append_eq_append_iff.mp he with ⟨u, hu, -⟩ | ⟨u, rfl, hu⟩
    · exact absurd hu.symm (hslash slashes u)
    · cases u with
      | nil => exact absurd (by simp) (hslash slashes [])
      | cons x u =>
        -- the tag begins with `x` in front, so its other bracket stands in front as well
        obtain ⟨rfl, ht⟩ := List.cons_eq_cons.mp hu
        have hsplit : (d :: within) ++ ']' :: after = u ++ tagThen c inner rest := ht
        rcases List.append_eq_append_iff.mp hsplit with ⟨v, rfl, hv⟩ | ⟨v, hd, hv⟩
        · cases v with
          | nil => cases hv
          | cons y v =>
            obtain ⟨rfl, -⟩ := List.cons_eq_cons.mp hv
            exact absurd hw (h (front ++ List.replicate slashes '\\') d within v (by simp [tagThen]))
        · cases v with
          | nil => cases hv
          | cons y v =>
            obtain ⟨rfl, -⟩ := List.cons_eq_cons.mp hv
            have hm : '[' ∈ d :: within := hd ▸ by simp
            rcases List.mem_cons.mp hm with hm | hm
            · exact absurd hm.symm (beginsTag_ne hw.1).1
            · exact absurd hm hw.2.1

theorem markupPieces_nil (fuel i : Nat) (pending : List Char) :
    markupPieces (fuel + 1) i pending [] =
      if pending.isEmpty then [] else [.text (String.ofList pending.reverse)] := rfl

theorem markupPieces_none (h : Console.tag? (c :: cs) = none) (fuel i : Nat)
    (pending : List Char) : markupPieces (fuel + 1) i pending (c :: cs) =
      markupPieces fuel (i + 1) (c :: pending) cs := by
  simp only [markupPieces, h]

/-- The text in front of the first tag is gone over character by character. -/
theorem markupPieces_append (h : ∀ t, t <:+ pre → t ≠ [] → Console.tag? (t ++ rest) = none)
    (fuel i : Nat) (pending : List Char) : markupPieces (pre.length + fuel) i pending (pre ++ rest) =
      markupPieces fuel (i + pre.length) (pre.reverse ++ pending) rest := by
  induction pre generalizing i pending with
  | nil => simp
  | cons c pre ih =>
    have ht : Console.tag? (c :: (pre ++ rest)) = none := h (c :: pre) (List.suffix_refl _) (by simp)
    have hr (t) (hs : t <:+ pre) : t ≠ [] → Console.tag? (t ++ rest) = none :=
      h t (hs.trans (List.suffix_cons c pre))
    have hi : i + 1 + pre.length = i + (c :: pre).length := by
      simp only [List.length_cons]
      omega
    have hf : (c :: pre).length + fuel = pre.length + fuel + 1 := by
      simp only [List.length_cons]
      omega
    rw [hf, List.cons_append, markupPieces_none ht, ih hr, hi]
    simp

/-- A text as a piece of markup, if there is any. -/
def piece (cs : List Char) : List MarkupPiece := if cs.isEmpty then [] else [.text (String.ofList cs)]

/-- A text without tags is one piece. -/
theorem markupPieces_untagged (h : Untagged cs) (fuel i : Nat) :
    markupPieces (cs.length + (fuel + 1)) i [] cs = piece cs := by
  have hnone (t : List Char) (ht : t <:+ cs) (_ : t ≠ []) : Console.tag? (t ++ []) = none := by
    rw [List.append_nil, h.tag? ht]
  have hp := markupPieces_append hnone (fuel + 1) i []
  rw [List.append_nil] at hp
  rw [hp, markupPieces_nil]
  simp [piece]

/-- The first tag of a text stands between two pieces. -/
theorem markupPieces_tag (h : Untagged pre) (hl : pre.getLast? ≠ some '\\') (hi : IsTag c inner)
    (fuel i : Nat) : markupPieces (pre.length + (fuel + 1)) i [] (pre ++ tagThen c inner rest) =
      piece pre ++ tagOf (i + pre.length) (c :: inner) ::
        markupPieces fuel (i + pre.length + (inner.length + 3)) [] rest := by
  have ht : Console.tag? (tagThen c inner rest) = some (0, c :: inner, rest) :=
    tag?_eq_some_iff.mpr ⟨c, inner, rfl, hi, rfl⟩
  rw [markupPieces_append fun t hs => tag?_before h hl hs, tagThen, markupPieces, ← tagThen, ht]
  simp [piece]

end Tags

/-! ### Pictures -/

/-- No name between colons has a picture. -/
def Unpictured (cs : List Char) : Prop :=
  ∀ pre name post, cs = pre ++ ':' :: (name ++ ':' :: post) →
    (∀ d ∈ name, d ≠ ':' ∧ Text.isBlank d = false) → picture? name = none

theorem Unpictured.suffix {cs t : List Char} (h : Unpictured cs) (ht : t <:+ cs) : Unpictured t := by
  obtain ⟨front, rfl⟩ := ht
  intro pre name post he
  apply h (front ++ pre) name post
  rw [he, List.append_assoc]

theorem pictures_unpictured {cs : List Char} (h : Unpictured cs) (fuel : Nat) :
    pictures fuel cs = cs := by
  induction fuel generalizing cs with
  | zero => rfl
  | succ fuel ih =>
    cases cs with
    | nil => rfl
    | cons c cs =>
      have hs := ih (h.suffix (List.suffix_cons c cs))
      rw [pictures]
      split
      · rw [hs]
      · next hc =>
        have hc : c = ':' := by simpa using hc
        subst hc
        set name := cs.takeWhile fun d => d != ':' && !Text.isBlank d
        have hn : ∀ d ∈ name, d ≠ ':' ∧ Text.isBlank d = false := by
          intro d hd
          simpa using List.mem_takeWhile_imp hd
        have ha : cs = name ++ cs.drop name.length := (Text.takeWhile_append_drop _ cs).symm
        dsimp only
        split
        · rw [hs]
        · next hr =>
          have hh : (cs.drop name.length).head? = some ':' := by
            simpa only [bne_iff_ne, not_not] using hr
          obtain ⟨post, hp⟩ := List.head?_eq_some_iff.mp hh
          have he : ':' :: cs = [] ++ ':' :: (name ++ ':' :: post) := by
            rw [← hp, ← ha]
            rfl
          have ht : post <:+ ':' :: cs := by
            rw [he]
            exact ⟨':' :: (name ++ [':']), by simp⟩
          rw [h [] name post he hn, hp, List.drop_one, List.tail_cons, ih (h.suffix ht), he]
          simp

/-! ### The text of markup -/

/-- Nothing in a text is markup: it holds no tag, no bracket behind a backslash, and no name of a
picture between colons. -/
structure Literal (cs : List Char) : Prop where
  untagged : Untagged cs
  unescaped : ¬ ['\\', '['] <:+: cs
  unpictured : Unpictured cs

section Plain

variable {c : Char} {cs inner post pre : List Char} {s : String}

theorem plainOf_nil (opened : List OpenTag) : plainOf opened [] = .ok "" := rfl

theorem plainOf_text (opened : List OpenTag) (s : String) (ps : List MarkupPiece) :
    plainOf opened (.text s :: ps) =
      (withPictures (Text.replaceAll "\\[" "[" s) ++ ·) <$> plainOf opened ps := rfl

theorem plainOf_opened {name : String} (h : name.startsWith "/" = false) (position : Nat)
    (opened : List OpenTag) (parameters : Option String) (ps : List MarkupPiece) :
    plainOf opened (.tag position name parameters :: ps) =
      plainOf ({ name := normalStyle name, parameters } :: opened) ps :=
  if_pos (by rw [h, Bool.not_false])

theorem withPictures_literal (h : Literal s.toList) : withPictures s = s := by
  unfold withPictures
  rw [pictures_unpictured h.unpictured, String.ofList_toList]

/-- A piece of text is put in front of what comes after it. -/
theorem plainOf_piece (h : Literal cs) (opened : List OpenTag) (ps : List MarkupPiece) :
    plainOf opened (piece cs ++ ps) = (String.ofList cs ++ ·) <$> plainOf opened ps := by
  have hr : Text.replaceAll "\\[" "[" (String.ofList cs) = String.ofList cs := by
    apply Text.replaceAll_absent
    simpa using h.unescaped
  have hw : withPictures (String.ofList cs) = String.ofList cs :=
    withPictures_literal (by simpa using h)
  unfold piece
  cases cs with
  | nil =>
    cases hp : plainOf opened ps <;> simp [hp]
  | cons c cs =>
    rw [List.isEmpty_cons, if_neg (by simp), List.singleton_append, plainOf_text, hr, hw]

/-- A last piece of text is the whole text. -/
theorem plainOf_last (h : Literal cs) (opened : List OpenTag) :
    plainOf opened (piece cs) = .ok (String.ofList cs) := by
  have hp := plainOf_piece h opened []
  rw [List.append_nil, plainOf_nil] at hp
  rw [hp]
  exact congrArg Except.ok (String.append_empty ..)

/-- Text in which nothing is markup is left as it is. -/
theorem plain_literal (h : Literal s.toList) : plain s = .ok s := by
  unfold plain
  split
  · rw [withPictures_literal h]
  · have hf : s.length + 1 = s.toList.length + (0 + 1) := by
      rw [String.length_toList]
    rw [hf, markupPieces_untagged h.untagged, plainOf_last h, String.ofList_toList]

theorem contains_bracket {s : String} (h : '[' ∈ s.toList) : s.contains '[' = true := by
  simpa using h

/-- The name of a tag begins with a slash if the tag does. -/
theorem tagOf_eq (hc : beginsTag c = true) (position : Nat) (inner : List Char) :
    ∃ name parameters, tagOf position (c :: inner) = .tag position name parameters ∧
      (name.startsWith "/" = true ↔ c = '/') := by
  have he : c ≠ '=' := by
    rintro rfl
    exact absurd hc (by decide)
  have hn : (c :: inner).takeWhile (· != '=') = c :: inner.takeWhile (· != '=') := by
    rw [List.takeWhile_cons_of_pos (by simpa using he)]
  have hs : (String.ofList (c :: inner.takeWhile (· != '='))).startsWith "/" = true ↔ c = '/' := by
    rw [String.startsWith_string_iff]
    simp [eq_comm]
  unfold tagOf
  dsimp only
  rw [hn]
  split
  · exact ⟨_, _, rfl, hs⟩
  · exact ⟨_, _, rfl, hs⟩

/-- What is read of a text up to its first tag. -/
theorem plain_tag (h : Untagged pre) (hl : pre.getLast? ≠ some '\\') (hi : IsTag c inner)
    (hs : s.toList = pre ++ tagThen c inner post) : plain s =
      plainOf [] (piece pre ++ tagOf pre.length (c :: inner) ::
        markupPieces (post.length + (inner.length + 2 + 1)) (pre.length + (inner.length + 3)) []
          post) := by
  have hb : s.contains '[' = true := contains_bracket (by simp [hs, tagThen])
  have hf : s.length + 1 = pre.length + (post.length + (inner.length + 2 + 1) + 1) := by
    rw [← String.length_toList, hs]
    simp only [tagThen, List.length_append, List.length_cons]
    omega
  unfold plain
  rw [hb, hf, hs, markupPieces_tag h hl hi]
  simp

/-- A tag that opens is left out. -/
theorem plain_opens (hp : Literal pre) (hl : pre.getLast? ≠ some '\\') (hi : IsTag c inner)
    (hc : c ≠ '/') (hq : Literal post) (hs : s.toList = pre ++ tagThen c inner post) :
    plain s = .ok (String.ofList (pre ++ post)) := by
  obtain ⟨name, parameters, ht, hn⟩ := tagOf_eq hi.1 pre.length inner
  have hnot : name.startsWith "/" = false := by
    simpa [hc] using hn
  rw [plain_tag hp.untagged hl hi hs, plainOf_piece hp, ht, markupPieces_untagged hq.untagged,
    plainOf_opened hnot, plainOf_last hq]
  simp

/-- A tag that closes is refused where no tag is open. -/
theorem plain_closes (hp : Untagged pre) (hl : pre.getLast? ≠ some '\\') (hi : IsTag '/' inner)
    (hs : s.toList = pre ++ tagThen '/' inner post) : ∃ fault, plain s = .error fault := by
  obtain ⟨name, parameters, ht, hn⟩ := tagOf_eq hi.1 pre.length inner
  have hnot : ¬ (!name.startsWith "/") = true := by
    simpa using hn
  -- with no tag open, the tag is refused whether it has a name or not
  have hr (ps : List MarkupPiece) :
      ∃ fault, plainOf [] (tagOf pre.length ('/' :: inner) :: ps) = .error fault := by
    rw [ht]
    unfold plainOf
    rw [if_neg hnot]
    dsimp only
    split
    · exact ⟨_, rfl⟩
    · rw [takeOpen?]
      exact ⟨_, rfl⟩
  rw [plain_tag hp hl hi hs]
  obtain ⟨fault, hf⟩ := hr (markupPieces (post.length + (inner.length + 2 + 1))
    (pre.length + (inner.length + 3)) [] post)
  unfold piece
  split
  · exact ⟨fault, hf⟩
  · rw [List.singleton_append, plainOf_text, hf]
    exact ⟨fault, rfl⟩

/-- No closing tag stands in a text. -/
def Unclosed (cs : List Char) : Prop :=
  ∀ pre inner post, cs = pre ++ tagThen '/' inner post → ¬ IsTag '/' inner

theorem Unclosed.suffix {t : List Char} (h : Unclosed cs) (ht : t <:+ cs) : Unclosed t := by
  obtain ⟨front, rfl⟩ := ht
  intro pre inner post he
  apply h (front ++ pre) inner post
  rw [he, List.append_assoc]

/-- A piece of markup that closes nothing. -/
def Opens : MarkupPiece → Prop
  | .text _ => True
  | .tag _ name _ => name.startsWith "/" = false

/-- The pieces of a text without closing tags close nothing. -/
theorem markupPieces_opens (h : Unclosed cs) (fuel i : Nat) (pending : List Char) :
    ∀ p ∈ markupPieces fuel i pending cs, Opens p := by
  have htext (b : Bool) (t : String) : ∀ p ∈ if b then [] else [MarkupPiece.text t], Opens p := by
    intro p hp
    split at hp
    · cases hp
    · rw [List.mem_singleton.mp hp]
      trivial
  induction fuel generalizing i pending cs with
  | zero => exact htext false _
  | succ fuel ih =>
    cases cs with
    | nil => exact htext _ _
    | cons d cs =>
      rw [markupPieces]
      split
      · exact ih (h.suffix (List.suffix_cons d cs)) _ _
      · next slashes body rest ht =>
        obtain ⟨c, inner, rfl, hi, hs⟩ := tag?_eq_some_iff.mp ht
        have hc : c ≠ '/' := by
          rintro rfl
          exact h _ inner rest hs hi
        have hsuf : rest <:+ d :: cs := by
          rw [hs]
          exact ⟨List.replicate slashes '\\' ++ '[' :: c :: (inner ++ [']']), by simp [tagThen]⟩
        have hmade : ∀ position, Opens (tagOf position (c :: inner)) := by
          intro position
          obtain ⟨name, parameters, ht, hn⟩ := tagOf_eq hi.1 position inner
          rw [ht]
          simpa [Opens, hc] using hn
        intro p hp
        simp only [List.mem_append, List.mem_cons] at hp
        rcases hp with (hp | hp) | rfl | hp
        · exact htext _ _ p hp
        · exact htext (decide (slashes / 2 = 0)) _ p (by simpa using hp)
        · split
          · trivial
          · exact hmade _
        · exact ih (h.suffix hsuf) _ _ p hp

/-- Nothing is refused where nothing is closed. -/
theorem plainOf_opens {ps : List MarkupPiece} (h : ∀ p ∈ ps, Opens p)
    (opened : List OpenTag) : ∃ text, plainOf opened ps = .ok text := by
  induction ps generalizing opened with
  | nil => exact ⟨"", rfl⟩
  | cons p ps ih =>
    have hps : ∀ q ∈ ps, Opens q := fun q hq => h q (List.mem_cons_of_mem p hq)
    cases p with
    | text s =>
      obtain ⟨text, ht⟩ := ih hps opened
      exact ⟨_, by rw [plainOf_text, ht]; rfl⟩
    | tag position name parameters =>
      have hn : name.startsWith "/" = false := h _ List.mem_cons_self
      obtain ⟨text, ht⟩ := ih hps ({ name := normalStyle name, parameters } :: opened)
      exact ⟨text, (plainOf_opened hn ..).trans ht⟩

/-- Where nothing is closed, markup is read without complaint. -/
theorem plain_unclosed (h : Unclosed s.toList) : ∃ text, plain s = .ok text := by
  unfold plain
  split
  · exact ⟨_, rfl⟩
  · exact plainOf_opens (markupPieces_opens h _ _ _) []

end Plain

/-! ### Text around markup -/

/-- No character of a text takes part in markup. -/
def Unmarked (cs : List Char) : Prop := ∀ c ∈ cs, c ∉ ['[', ']', ':', '\\']

section Unmarked

variable {a b cs : List Char}

theorem Unmarked.append (ha : Unmarked a) (hb : Unmarked b) : Unmarked (a ++ b) :=
  fun c hc => (List.mem_append.mp hc).elim (ha c) (hb c)

/-- What reaches from a character that is not in front to one that is not behind stands between. -/
theorem exists_between {x y : Char} {pre mid post : List Char} (hx : x ∉ a) (hy : y ∉ b)
    (h : a ++ cs ++ b = pre ++ x :: (mid ++ y :: post)) :
    ∃ p q, cs = p ++ x :: (mid ++ y :: q) := by
  obtain ⟨p, hp⟩ : ∃ p, cs ++ b = p ++ x :: (mid ++ y :: post) := by
    rw [List.append_assoc] at h
    rcases List.append_eq_append_iff.mp h with ⟨u, -, hu⟩ | ⟨u, rfl, hu⟩
    · exact ⟨u, hu⟩
    · cases u with
      | nil => exact ⟨[], hu.symm⟩
      | cons z u =>
        obtain ⟨rfl, -⟩ := List.cons_eq_cons.mp hu
        exact absurd (by simp) hx
  have hsplit : cs ++ b = (p ++ x :: mid) ++ y :: post := by
    rw [hp]
    simp
  rcases List.append_eq_append_iff.mp hsplit with ⟨u, -, rfl⟩ | ⟨u, rfl, hu⟩
  · exact absurd (by simp) hy
  · cases u with
    | nil =>
      have hb : b = y :: post := hu.symm
      exact absurd (hb ▸ List.mem_cons_self) hy
    | cons z u =>
      obtain ⟨rfl, -⟩ := List.cons_eq_cons.mp hu
      exact ⟨p, u, by simp⟩

/-- Text without characters of markup around a text makes no markup of it. -/
theorem Literal.surround (ha : Unmarked a) (h : Literal cs) (hb : Unmarked b) :
    Literal (a ++ cs ++ b) := by
  refine ⟨fun pre c inner post he hi => ?_, fun he => ?_, fun pre name post he hn => ?_⟩
  · have hx : '[' ∉ a := fun hm => ha _ hm (by simp)
    have hy : ']' ∉ b := fun hm => hb _ hm (by simp)
    have he' : a ++ cs ++ b = pre ++ '[' :: ((c :: inner) ++ ']' :: post) := he
    obtain ⟨p, q, rfl⟩ := exists_between hx hy he'
    exact h.untagged p c inner q rfl hi
  · obtain ⟨pre, post, he⟩ := he
    have hx : '\\' ∉ a := fun hm => ha _ hm (by simp)
    have hy : '[' ∉ b := fun hm => hb _ hm (by simp)
    have he' : a ++ cs ++ b = pre ++ '\\' :: ([] ++ '[' :: post) := by
      rw [← he]
      simp
    obtain ⟨p, q, rfl⟩ := exists_between hx hy he'
    exact h.unescaped ⟨p, q, by simp⟩
  · have hx : ':' ∉ a := fun hm => ha _ hm (by simp)
    have hy : ':' ∉ b := fun hm => hb _ hm (by simp)
    obtain ⟨p, q, rfl⟩ := exists_between hx hy he
    exact h.unpictured p name q rfl hn

theorem Unmarked.literal (h : Unmarked cs) : Literal cs := by
  have hnil : Literal [] := by
    refine ⟨fun pre c inner post he => ?_, by simp, fun pre name post he => ?_⟩
    all_goals
      have hl := congrArg List.length he
      simp [tagThen] at hl
  simpa using hnil.surround h fun c hc => absurd hc List.not_mem_nil

theorem unmarked_int (n : Int) : Unmarked (toString n).toList := by
  have hdigits (k : Nat) : Unmarked k.repr.toList := by
    intro c hc
    rw [Nat.toList_repr] at hc
    have hd := Nat.isDigit_of_mem_toDigits (by decide) (by decide) hc
    intro hm
    simp only [List.mem_cons, List.not_mem_nil, or_false] at hm
    rcases hm with rfl | rfl | rfl | rfl <;> exact absurd hd (by decide)
  cases n with
  | ofNat k => exact hdigits k
  | negSucc k =>
    have ht : toString (Int.negSucc k) = "-" ++ (k + 1).repr := rfl
    have hm : Unmarked "-".toList := by
      simp [Unmarked]
    rw [ht, String.toList_append]
    exact hm.append (hdigits (k + 1))

end Unmarked

end LiveMarkdown.Console
