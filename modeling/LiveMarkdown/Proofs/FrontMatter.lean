import LiveMarkdown.Proofs.Construction

/-!
Taking the metadata off a source. A block is opened by a line of three dashes at the very beginning and
closed by the first line of three dashes or three points behind it; what stands between is the metadata
text, and what follows is the body. Whatever the text holds, it is taken as metadata, dropped, or left to
the body whole, unless the constructor of one of its scalars raises an exception: that one is not caught.
-/

namespace LiveMarkdown

namespace Metadata

open Script (Value Run World Machine Ref ScalarKeys)

namespace FrontMatter

/-! ### Lines -/

section Lines

variable {mark c : Char} {cs ds line rest before text body : List Char}

/-- A line of three marks without its line end: blanks may follow them, and one carriage return. -/
def MarkLine (mark : Char) (line : List Char) : Prop :=
  ∃ blanks ret, (∀ c ∈ blanks, c = ' ' ∨ c = '\t') ∧ (ret = [] ∨ ret = ['\r']) ∧
    line = [mark, mark, mark] ++ blanks ++ ret

/-- The line that opens a block, with its line end. A byte order mark may stand before it. -/
def Opening (cs : List Char) : Prop :=
  ∃ bom line, (bom = [] ∨ bom = ['\ufeff']) ∧ MarkLine '-' line ∧ cs = bom ++ line ++ ['\n']

/-- A line that closes a block. -/
def ClosingLine (line : List Char) : Prop := MarkLine '-' line ∨ MarkLine '.' line

/-- A line that closes a block, with its line end unless the source ends there. -/
def Closing (cs body : List Char) : Prop :=
  ∃ line, ClosingLine line ∧ (cs = line ++ ['\n'] ∨ cs = line ∧ body = [])

/-- Whole lines of which none closes a block. -/
def Enclosed (text : List Char) : Prop :=
  ∃ ls : List (List Char), text = ls.flatMap (· ++ ['\n']) ∧ ∀ l ∈ ls, '\n' ∉ l ∧ ¬ ClosingLine l

/-- The parts of a source with a block. -/
structure IsBlock (source opening text closing body : List Char) : Prop where
  parts : opening ++ text ++ closing ++ body = source
  opening : Opening opening
  text : Enclosed text
  closing : Closing closing body

/-- At the end of a line nothing is left, or a line end is next. -/
def AtEnd (rest : List Char) : Prop := rest = [] ∨ ∃ ds, rest = '\n' :: ds

/-- What is left behind the blanks of a line of marks, at its end. -/
def endOf? (cs : List Char) : Option (List Char) :=
  match cs with
  | '\r' :: '\n' :: _ | ['\r'] => some (cs.drop 1)
  | '\n' :: _ | [] => some cs
  | _ => none

theorem endOf?_eq_some :
    endOf? cs = some rest ↔ AtEnd rest ∧ ∃ ret, (ret = [] ∨ ret = ['\r']) ∧ cs = ret ++ rest := by
  constructor
  · intro h
    unfold endOf? at h
    split at h
    · cases h
      exact ⟨.inr ⟨_, rfl⟩, ['\r'], .inr rfl, rfl⟩
    · cases h
      exact ⟨.inl rfl, ['\r'], .inr rfl, rfl⟩
    · cases h
      exact ⟨.inr ⟨_, rfl⟩, [], .inl rfl, rfl⟩
    · cases h
      exact ⟨.inl rfl, [], .inl rfl, rfl⟩
    · cases h
  · rintro ⟨rfl | ⟨ds, rfl⟩, ret, rfl | rfl, rfl⟩ <;> rfl

theorem isBlank_iff : isBlank c = true ↔ c = ' ' ∨ c = '\t' := by
  simp [isBlank]

theorem markRest?_marks (cs : List Char) :
    markRest? mark (mark :: mark :: mark :: cs) = endOf? (cs.dropWhile isBlank) := by
  unfold markRest?
  simp only [decide_true, Bool.and_self, ↓reduceIte]
  rfl

theorem exists_marks (h : markRest? mark cs = some rest) : ∃ ds, cs = mark :: mark :: mark :: ds := by
  unfold markRest? at h
  split at h
  · split at h
    · rename_i hmark
      simp only [Bool.and_eq_true, decide_eq_true_eq] at hmark
      obtain ⟨⟨rfl, rfl⟩, rfl⟩ := hmark
      exact ⟨_, rfl⟩
    · cases h
  · cases h

/-- Blanks are passed over up to the end of a line. -/
theorem dropWhile_blanks {ret : List Char} (hb : ∀ c ∈ ds, c = ' ' ∨ c = '\t')
    (hret : ret = [] ∨ ret = ['\r']) (hend : AtEnd rest) :
    (ds ++ (ret ++ rest)).dropWhile isBlank = ret ++ rest := by
  rw [List.dropWhile_append_of_pos fun c hc => isBlank_iff.mpr (hb c hc)]
  obtain rfl | rfl := hret
  · obtain rfl | ⟨es, rfl⟩ := hend <;> rfl
  · rfl

/-- A mark is read just from a line of marks, and up to its end. -/
theorem markRest?_eq_some : markRest? mark cs = some rest ↔
    AtEnd rest ∧ ∃ line, MarkLine mark line ∧ cs = line ++ rest := by
  constructor
  · intro h
    obtain ⟨ds, rfl⟩ := exists_marks h
    rw [markRest?_marks, endOf?_eq_some] at h
    obtain ⟨hend, ret, hret, hds⟩ := h
    refine ⟨hend, [mark, mark, mark] ++ ds.takeWhile isBlank ++ ret,
      ⟨_, ret, fun c hc => isBlank_iff.mp (List.mem_takeWhile_imp hc), hret, rfl⟩, ?_⟩
    rw [List.append_assoc, ← hds, List.append_assoc, List.takeWhile_append_dropWhile]
    rfl
  · rintro ⟨hend, line, ⟨blanks, ret, hblank, hret, rfl⟩, rfl⟩
    have hcs : [mark, mark, mark] ++ blanks ++ ret ++ rest =
        mark :: mark :: mark :: (blanks ++ (ret ++ rest)) := by simp
    rw [hcs, markRest?_marks, dropWhile_blanks hblank hret hend, endOf?_eq_some]
    exact ⟨hend, ret, hret, rfl⟩

theorem MarkLine.no_feed (h : MarkLine mark line) (hm : mark ≠ '\n') : '\n' ∉ line := by
  obtain ⟨blanks, ret, hblank, hret, rfl⟩ := h
  have hb : '\n' ∉ blanks := fun h => by
    obtain h | h := hblank _ h <;> cases h
  have hr : '\n' ∉ ret := by
    obtain rfl | rfl := hret <;> decide
  simp [hb, hr, hm.symm]

theorem ClosingLine.no_feed (h : ClosingLine line) : '\n' ∉ line :=
  h.elim (·.no_feed (by decide)) (·.no_feed (by decide))

/-- Texts that are cut at their first line ends are cut at the same place. -/
theorem line_unique {as bs : List Char} (ha : '\n' ∉ as) (hb : '\n' ∉ bs) (hr : AtEnd rest)
    (hs : AtEnd ds) (h : as ++ rest = bs ++ ds) : as = bs ∧ rest = ds := by
  induction as generalizing bs with
  | nil =>
    cases bs with
    | nil => exact ⟨rfl, h⟩
    | cons b bs =>
      rw [List.nil_append] at h
      obtain rfl | ⟨es, rfl⟩ := hr
      · cases h
      · cases h
        exact absurd List.mem_cons_self hb
  | cons a as ih =>
    cases bs with
    | nil =>
      rw [List.nil_append] at h
      obtain rfl | ⟨es, rfl⟩ := hs
      · cases h
      · cases h
        exact absurd List.mem_cons_self ha
    | cons b bs =>
      injection h with hab h
      obtain ⟨rfl, hrest⟩ := ih (fun h => ha (List.mem_cons_of_mem _ h))
        (fun h => hb (List.mem_cons_of_mem _ h)) h
      exact ⟨by rw [hab], hrest⟩

/-! ### The opening -/

/-- What is left behind a line of dashes and its line end. -/
def dashes? (cs : List Char) : Option (List Char) :=
  match markRest? '-' cs with
  | some ('\n' :: rest) => some rest
  | _ => none

theorem dashes?_of (h : markRest? '-' cs = some ('\n' :: rest)) : dashes? cs = some rest := by
  unfold dashes?
  rw [h]
  rfl

theorem dashes?_eq_some :
    dashes? cs = some rest ↔ ∃ line, MarkLine '-' line ∧ cs = line ++ '\n' :: rest := by
  constructor
  · intro h
    unfold dashes? at h
    split at h
    · rename_i hm
      cases h
      obtain ⟨-, line, hl, hcs⟩ := markRest?_eq_some.mp hm
      exact ⟨line, hl, hcs⟩
    · cases h
  · rintro ⟨line, hl, rfl⟩
    exact dashes?_of (markRest?_eq_some.mpr ⟨.inr ⟨_, rfl⟩, line, hl, rfl⟩)

theorem opened?_bom (cs : List Char) : opened? ('\ufeff' :: cs) = dashes? cs := rfl

theorem opened?_marks (cs : List Char) : opened? ('-' :: cs) = dashes? ('-' :: cs) := rfl

theorem opened?_eq_some :
    opened? cs = some rest ↔ ∃ opening, Opening opening ∧ cs = opening ++ rest := by
  constructor
  · intro h
    have hd : (∃ ds, cs = '\ufeff' :: ds ∧ dashes? ds = some rest) ∨ dashes? cs = some rest := by
      unfold opened? at h
      dsimp only at h
      split at h
      · rename_i hm
        cases h
        split at hm
        · exact .inl ⟨_, rfl, dashes?_of hm⟩
        · exact .inr (dashes?_of hm)
      · cases h
    obtain ⟨ds, rfl, hd⟩ | hd := hd
    · obtain ⟨line, hl, rfl⟩ := dashes?_eq_some.mp hd
      exact ⟨_, ⟨['\ufeff'], line, .inr rfl, hl, rfl⟩, by simp⟩
    · obtain ⟨line, hl, rfl⟩ := dashes?_eq_some.mp hd
      exact ⟨_, ⟨[], line, .inl rfl, hl, rfl⟩, by simp⟩
  · rintro ⟨_, ⟨bom, line, rfl | rfl, hl, rfl⟩, rfl⟩
    · have hd : dashes? (line ++ '\n' :: rest) = some rest := dashes?_eq_some.mpr ⟨line, hl, rfl⟩
      obtain ⟨blanks, ret, -, -, rfl⟩ := hl
      simpa [opened?_marks] using hd
    · have hd : dashes? (line ++ '\n' :: rest) = some rest := dashes?_eq_some.mpr ⟨line, hl, rfl⟩
      simpa [opened?_bom] using hd

/-! ### The closing -/

/-- What is left behind the closing line at the beginning of a text. -/
def closing? (cs : List Char) : Option (List Char) := (markRest? '-' cs).or (markRest? '.' cs)

theorem closing?_eq_some :
    closing? cs = some rest ↔ AtEnd rest ∧ ∃ line, ClosingLine line ∧ cs = line ++ rest := by
  unfold closing?
  rw [Option.or_eq_some_iff]
  constructor
  · rintro (h | ⟨-, h⟩)
    · obtain ⟨hend, line, hl, hcs⟩ := markRest?_eq_some.mp h
      exact ⟨hend, line, .inl hl, hcs⟩
    · obtain ⟨hend, line, hl, hcs⟩ := markRest?_eq_some.mp h
      exact ⟨hend, line, .inr hl, hcs⟩
  · rintro ⟨hend, line, hl | hl, rfl⟩
    · exact .inl (markRest?_eq_some.mpr ⟨hend, line, hl, rfl⟩)
    · refine .inr ⟨?_, markRest?_eq_some.mpr ⟨hend, line, hl, rfl⟩⟩
      -- a text does not begin with both marks
      obtain ⟨blanks, ret, -, -, rfl⟩ := hl
      rw [Option.eq_none_iff_forall_ne_some]
      intro ds h
      obtain ⟨es, he⟩ := exists_marks h
      cases he

/-- A line that closes no block is not read as one, whatever follows it. -/
theorem closing?_eq_none (hl : '\n' ∉ line) (hc : ¬ ClosingLine line) (hr : AtEnd rest) :
    closing? (line ++ rest) = none := by
  rw [Option.eq_none_iff_forall_ne_some]
  intro ds h
  obtain ⟨hend, line', hl', he⟩ := closing?_eq_some.mp h
  obtain ⟨rfl, -⟩ := line_unique hl hl'.no_feed hr hend he
  exact hc hl'

/-- The body behind what is left at the end of the closing line. -/
def bodyOf (rest : List Char) : List Char := if rest.head? = some '\n' then rest.drop 1 else rest

theorem closed?_start (c : Char) (cs : List Char) : closed? true before (c :: cs) =
    match closing? (c :: cs) with
    | some rest => some (before.reverse, bodyOf rest)
    | none => closed? (c = '\n') (c :: before) cs := rfl

theorem closed?_cons (c : Char) (cs : List Char) :
    closed? false before (c :: cs) = closed? (c = '\n') (c :: before) cs := rfl

/-- A line that has begun is passed over up to its end. -/
theorem closed?_inside (hl : '\n' ∉ line) : closed? false before (line ++ '\n' :: cs) =
    closed? true ('\n' :: (line.reverse ++ before)) cs := by
  induction line generalizing before with
  | nil => rfl
  | cons c line ih =>
    obtain ⟨hc, hl⟩ := not_or.mp (mt List.mem_cons.mpr hl)
    rw [List.cons_append, closed?_cons, decide_eq_false (Ne.symm hc), ih hl, List.reverse_cons,
      List.append_assoc]
    rfl

theorem closed?_unended (hl : '\n' ∉ line) : closed? false before line = none := by
  induction line generalizing before with
  | nil => rfl
  | cons c line ih =>
    obtain ⟨hc, hl⟩ := not_or.mp (mt List.mem_cons.mpr hl)
    rw [closed?_cons, decide_eq_false (Ne.symm hc), ih hl]

/-- A line that does not close the block belongs to the metadata text. -/
theorem closed?_line (hl : '\n' ∉ line) (hc : ¬ ClosingLine line) :
    closed? true before (line ++ '\n' :: cs) =
      closed? true ('\n' :: (line.reverse ++ before)) cs := by
  have hno : closing? (line ++ '\n' :: cs) = none := closing?_eq_none hl hc (.inr ⟨_, rfl⟩)
  cases line with
  | nil =>
    rw [List.nil_append] at hno ⊢
    rw [closed?_start, hno]
    rfl
  | cons c line =>
    obtain ⟨hcn, hl⟩ := not_or.mp (mt List.mem_cons.mpr hl)
    rw [List.cons_append] at hno ⊢
    rw [closed?_start, hno]
    dsimp only
    rw [decide_eq_false (Ne.symm hcn), closed?_inside hl, List.reverse_cons, List.append_assoc]
    rfl

/-- A last line that does not close the block leaves it open. -/
theorem closed?_last (hl : '\n' ∉ line) (hc : ¬ ClosingLine line) :
    closed? true before line = none := by
  cases line with
  | nil => rfl
  | cons c line =>
    have hno := closing?_eq_none hl hc (.inl rfl)
    obtain ⟨hcn, hl⟩ := not_or.mp (mt List.mem_cons.mpr hl)
    rw [List.append_nil] at hno
    rw [closed?_start, hno]
    dsimp only
    rw [decide_eq_false (Ne.symm hcn), closed?_unended hl]

theorem closed?_of_closing (h : closing? cs = some rest) :
    closed? true before cs = some (before.reverse, bodyOf rest) := by
  cases cs with
  | nil => cases h
  | cons c cs => rw [closed?_start, h]

theorem Enclosed.nil : Enclosed [] := ⟨[], rfl, List.forall_mem_nil _⟩

theorem Enclosed.cons (hl : '\n' ∉ line) (hc : ¬ ClosingLine line) (h : Enclosed text) :
    Enclosed (line ++ '\n' :: text) := by
  obtain ⟨ls, rfl, hls⟩ := h
  exact ⟨line :: ls, by simp, List.forall_mem_cons.mpr ⟨⟨hl, hc⟩, hls⟩⟩

theorem Closing.of_closing? (h : closing? cs = some rest) :
    ∃ closing, Closing closing (bodyOf rest) ∧ cs = closing ++ bodyOf rest := by
  obtain ⟨rfl | ⟨ds, rfl⟩, line, hl, rfl⟩ := closing?_eq_some.mp h
  · exact ⟨line, ⟨line, hl, .inr ⟨rfl, rfl⟩⟩, rfl⟩
  · exact ⟨line ++ ['\n'], ⟨line, hl, .inl rfl⟩, by simp [bodyOf]⟩

theorem Closing.closing? {closing : List Char} (h : Closing closing body) :
    ∃ rest, closing? (closing ++ body) = some rest ∧ bodyOf rest = body := by
  obtain ⟨line, hl, rfl | ⟨rfl, rfl⟩⟩ := h
  · refine ⟨'\n' :: body, closing?_eq_some.mpr ⟨.inr ⟨_, rfl⟩, line, hl, ?_⟩, rfl⟩
    rw [List.append_assoc]
    rfl
  · exact ⟨[], closing?_eq_some.mpr ⟨.inl rfl, _, hl, rfl⟩, rfl⟩

/-- The search for the closing line ends at the first one. -/
theorem closed?_eq_some : closed? true before cs = some (text, body) ↔ ∃ inner closing,
    text = before.reverse ++ inner ∧ Enclosed inner ∧ Closing closing body ∧
      cs = inner ++ (closing ++ body) := by
  constructor
  · intro h
    induction hn : cs.length using Nat.strong_induction_on generalizing before cs with
    | _ n ih =>
      cases hc : closing? cs with
      | some rest =>
        rw [closed?_of_closing hc] at h
        cases h
        obtain ⟨closing, hclose, hcs⟩ := Closing.of_closing? hc
        exact ⟨[], closing, (List.append_nil _).symm, .nil, hclose, hcs⟩
      | none =>
        have hno (line rest) (he : AtEnd rest) (hcs : cs = line ++ rest) : ¬ ClosingLine line := by
          intro hl
          rw [closing?_eq_some.mpr ⟨he, line, hl, hcs⟩] at hc
          cases hc
        by_cases hf : '\n' ∈ cs
        · obtain ⟨line, ds, rfl, hl⟩ := List.eq_append_cons_of_mem hf
          have hcl := hno line _ (.inr ⟨_, rfl⟩) rfl
          rw [closed?_line hl hcl] at h
          have hlt : ds.length < n := by
            rw [← hn, List.length_append, List.length_cons]
            omega
          obtain ⟨inner, closing, rfl, hin, hclose, rfl⟩ := ih _ hlt h rfl
          exact ⟨line ++ '\n' :: inner, closing, by simp, .cons hl hcl hin, hclose, by simp⟩
        · rw [closed?_last hf (hno cs [] (.inl rfl) (List.append_nil _).symm)] at h
          cases h
  · rintro ⟨inner, closing, rfl, ⟨ls, rfl, hls⟩, hclose, rfl⟩
    induction ls generalizing before with
    | nil =>
      obtain ⟨rest, hc, rfl⟩ := hclose.closing?
      rw [List.flatMap_nil, List.nil_append, closed?_of_closing hc, List.append_nil]
    | cons line ls ih =>
      obtain ⟨⟨hl, hcl⟩, hls⟩ := List.forall_mem_cons.mp hls
      have hs := @ih ('\n' :: (line.reverse ++ before)) hls
      rw [List.flatMap_cons, List.append_assoc, List.append_assoc, List.singleton_append,
        closed?_line hl hcl, hs]
      simp

/-! ### Sources -/

section

variable {source opening closing opening' text' closing' body' : List Char}

theorem IsBlock.opened (h : IsBlock source opening text closing body) :
    opened? source = some (text ++ (closing ++ body)) :=
  opened?_eq_some.mpr ⟨opening, h.opening, by rw [← h.parts]; simp⟩

theorem IsBlock.closed (h : IsBlock source opening text closing body) :
    closed? true [] (text ++ (closing ++ body)) = some (text, body) :=
  closed?_eq_some.mpr ⟨text, closing, rfl, h.text, h.closing, rfl⟩

/-- A source has one block at most. -/
theorem IsBlock.unique (h : IsBlock source opening text closing body)
    (h' : IsBlock source opening' text' closing' body') :
    opening = opening' ∧ text = text' ∧ closing = closing' ∧ body = body' := by
  have hr := Option.some.inj (h.opened.symm.trans h'.opened)
  have ho : opening = opening' := by
    have hp : opening ++ (text ++ (closing ++ body)) = opening' ++ (text ++ (closing ++ body)) := by
      conv_rhs => rw [hr]
      simpa using h.parts.trans h'.parts.symm
    exact List.append_cancel_right hp
  have hc := h.closed
  rw [hr, h'.closed] at hc
  cases hc
  have hcl : closing = closing' := List.append_cancel_right (List.append_cancel_left hr)
  exact ⟨ho, rfl, hcl, rfl⟩

end

end Lines

/-- The search finds the metadata text and the body of a source just if it has a block. -/
theorem split?_eq_some {source text body : String} : split? source = some (text, body) ↔
    ∃ opening closing, IsBlock source.toList opening text.toList closing body.toList := by
  constructor
  · intro h
    obtain ⟨rest, ho, h⟩ := Option.bind_eq_some_iff.mp h
    obtain ⟨⟨t, b⟩, hc, h⟩ := Option.bind_eq_some_iff.mp h
    cases h
    obtain ⟨opening, hopen, hsource⟩ := opened?_eq_some.mp ho
    obtain ⟨inner, closing, rfl, hin, hclose, rfl⟩ := closed?_eq_some.mp hc
    refine ⟨opening, closing, ?_, hopen, ?_, ?_⟩
    · simp [hsource]
    · simpa using hin
    · simpa using hclose
  · rintro ⟨opening, closing, h⟩
    refine Option.bind_eq_some_iff.mpr ⟨_, h.opened, Option.bind_eq_some_iff.mpr ⟨_, h.closed, ?_⟩⟩
    simp

/-! ### What is taken -/

/-- What is taken off a source: the metadata and the body, and the world afterwards. -/
inductive Taken (m : Machine) (source : String) (w : World) : Value → String → World → Prop where
  /-- No block stands at the start, or none that is closed. -/
  | absent {v : Value} {w' : World} : split? source = none → Run.newDict [] w = .ok v w' →
      Taken m source w v source w'
  /-- The text of the block is no metadata text. -/
  | unreadable {text body : String} {v : Value} {w' : World} :
      split? source = some (text, body) → Graph.ofText text = .error .malformed →
      Run.newDict [] w = .ok v w' → Taken m source w v source w'
  /-- The nodes of the block do not make a value. -/
  | unbuildable {text body : String} {g : Graph} {r : Refusal} {v : Value} {w₁ w' : World} :
      split? source = some (text, body) → Graph.ofText text = .ok g →
      readValue m text w = .ok (.error r) w₁ → Run.newDict [] w₁ = .ok v w' →
      Taken m source w v source w'
  /-- The block holds something else than a mapping. -/
  | dropped {text body : String} {x v : Value} {w₁ w' : World} :
      split? source = some (text, body) → readValue m text w = .ok (.ok x) w₁ →
      (∀ es, Run.deref x w₁ ≠ .ok (some (.dict es)) w₁) → Run.newDict [] w₁ = .ok v w' →
      Taken m source w v body w'
  | mapping {text body : String} {r : Ref} {es : Array (Value × Value)} {w' : World} :
      split? source = some (text, body) → readValue m text w = .ok (.ok (.ref r)) w' →
      w'.heap[r]? = some (.dict es) → Taken m source w (.ref r) body w'

/-- A dictionary. -/
def IsMapping (v : Value) (w : World) : Prop := ∃ r es, v = .ref r ∧ w.heap[r]? = some (.dict es)

section Reading

variable {m : Machine} {source text body : String} {v x : Value} {w w₁ w' : World}

theorem isMapping_iff : IsMapping v w ↔ ∃ es, Run.deref v w = .ok (some (.dict es)) w := by
  constructor
  · rintro ⟨r, es, rfl, ho⟩
    exact ⟨es, Script.Run.deref_of ho⟩
  · rintro ⟨es, h⟩
    cases v with
    | ref r =>
      injection h with h
      exact ⟨r, es, rfl, h⟩
    | _ => cases h

/-- What is done with the value of a metadata text. -/
theorem read_value (h : split? source = some (text, body))
    (hr : readValue m text w = .ok (.ok x) w₁) : read m source w = (do
      match ← Run.deref x with
      | some (.dict _) => return (x, body)
      | _ => return (← Run.newDict [], body) : Run (Value × String)) w₁ := by
  unfold read
  rw [h]
  exact bind_of_ok hr

/-- Of the values of a metadata text a mapping is kept. -/
theorem read_mapping (h : split? source = some (text, body))
    (hr : readValue m text w = .ok (.ok x) w₁) (hx : IsMapping x w₁) :
    read m source w = .ok (x, body) w₁ := by
  obtain ⟨es, ho⟩ := isMapping_iff.mp hx
  rw [read_value h hr, bind_of_ok ho]
  rfl

theorem read_other (h : split? source = some (text, body))
    (hr : readValue m text w = .ok (.ok x) w₁) (hx : ¬ IsMapping x w₁)
    (hv : Run.newDict [] w₁ = .ok v w') : read m source w = .ok (v, body) w' := by
  obtain ⟨o, ho⟩ : ∃ o, Run.deref x w₁ = .ok o w₁ := by
    cases x <;> exact ⟨_, rfl⟩
  rw [read_value h hr, bind_of_ok ho]
  split
  · exact absurd (isMapping_iff.mpr ⟨_, ho⟩) hx
  · exact bind_of_ok hv

theorem read_refused {r : Refusal} (h : split? source = some (text, body))
    (hr : readValue m text w = .ok (.error r) w₁) (hv : Run.newDict [] w₁ = .ok v w') :
    read m source w = .ok (v, source) w' := by
  unfold read
  rw [h]
  exact (bind_of_ok hr).trans (bind_of_ok hv)

theorem read_raised {e : Value} (h : split? source = some (text, body))
    (hr : readValue m text w = .error (.raised e) w₁) :
    read m source w = .error (.raised e) w₁ := by
  unfold read
  rw [h]
  exact bind_eq_error.mpr (.inl hr)

theorem read_whole (h : split? source = none) (hv : Run.newDict [] w = .ok v w') :
    read m source w = .ok (v, source) w' := by
  unfold read
  rw [h]
  exact bind_of_ok hv

/-- A source whose block is refused comes back whole. -/
theorem Taken.of_refused {r : Refusal} (hs : split? source = some (text, body))
    (hr : readValue m text w = .ok (.error r) w₁) :
    ∃ v w', Run.newDict [] w₁ = .ok v w' ∧ Taken m source w v source w' := by
  refine ⟨_, _, rfl, ?_⟩
  cases hg : Graph.ofText text with
  | ok g => exact .unbuildable hs hg hr rfl
  | error e =>
    cases e with
    | malformed =>
      have hw : readValue m text w = .ok (.error .malformed) w := by
        unfold readValue
        rw [hg]
        rfl
      rw [hw] at hr
      cases hr
      exact .unreadable hs hg rfl
    | noSuchCharacter code =>
      obtain ⟨e, w', he⟩ := noSuchCharacter_raises (α := Except Refusal Value) code w
      unfold readValue at hr
      rw [hg] at hr
      dsimp only at hr
      rw [he] at hr
      cases hr

theorem read_taken (d : Nat) (source : String) (w : World) :
    (∃ v body w', read (Script.machine (d + 1)) source w = .ok (v, body) w' ∧
      Taken (Script.machine (d + 1)) source w v body w') ∨
    ∃ text body e w', split? source = some (text, body) ∧
      read (Script.machine (d + 1)) source w = .error (.raised e) w' ∧ Faulty text e w' := by
  cases hs : split? source with
  | none => exact .inl ⟨_, source, _, read_whole hs rfl, .absent hs rfl⟩
  | some p =>
    obtain ⟨text, body⟩ := p
    obtain ⟨r | x, w₁, hr, -⟩ | ⟨e, w', he, hf⟩ := readValue_ends d text w
    · obtain ⟨v, w', hv, ht⟩ := Taken.of_refused hs hr
      exact .inl ⟨v, source, w', read_refused hs hr hv, ht⟩
    · by_cases hx : IsMapping x w₁
      · obtain ⟨r, es, rfl, ho⟩ := hx
        exact .inl ⟨_, body, w₁, read_mapping hs hr ⟨r, es, rfl, ho⟩, .mapping hs hr ho⟩
      · refine .inl ⟨_, body, _, read_other hs hr hx rfl, .dropped hs hr (fun es h => ?_) rfl⟩
        exact hx (isMapping_iff.mpr ⟨es, h⟩)
    · exact .inr ⟨text, body, e, w', rfl, read_raised hs he, hf⟩

/-- What is taken is a new dictionary with scalars for its keys, and all that was there stays. -/
theorem Taken.dict {d : Nat} {v : Value} {w' : World}
    (h : Taken (Script.machine (d + 1)) source w v body w') : Grown w w' ∧
      ∃ r es, v = .ref r ∧ w.heap.size ≤ r ∧ w'.heap[r]? = some (.dict es) ∧ ScalarKeys es := by
  have hnew {w₁ : World} {v : Value} (hg : Grown w w₁) (hv : Run.newDict [] w₁ = .ok v w') :
      Grown w w' ∧ ∃ r es, v = .ref r ∧ w.heap.size ≤ r ∧ w'.heap[r]? = some (.dict es) ∧
        ScalarKeys es := by
    cases hv
    exact ⟨hg.trans (.alloc w₁ _), w₁.heap.size, #[], rfl, hg.size_le, by simp, .empty⟩
  have hread {text : String} {r : Except Refusal Value} {w₁ : World}
      (hr : readValue (Script.machine (d + 1)) text w = .ok r w₁) :
      Grown w w₁ ∧ NewKeys w w₁ ∧ ∀ v, r = .ok v → Made w v := by
    obtain ⟨r', u, he, hg⟩ | ⟨e, u, he, -⟩ := readValue_ends d text w
    · rw [he] at hr
      cases hr
      exact hg
    · rw [he] at hr
      cases hr
  cases h with
  | absent _ hv => exact hnew (.refl w) hv
  | unreadable _ _ hv => exact hnew (.refl w) hv
  | unbuildable _ _ hr hv => exact hnew (hread hr).1 hv
  | dropped _ hr _ hv => exact hnew (hread hr).1 hv
  | @mapping _ _ r es _ _ hr he =>
    obtain ⟨hg, hk, hm⟩ := hread hr
    obtain hs | ⟨r', h, hn⟩ := hm _ rfl
    · cases hs
    · cases h
      exact ⟨hg, r, es, rfl, hn, he, hk r es hn he⟩

/-- What is taken has no entries, or it was read from the block of the source. -/
theorem Taken.empty_or_read {m : Machine} {v : Value} {w' : World} (h : Taken m source w v body w') :
    (∃ r, v = .ref r ∧ w'.heap[r]? = some (.dict #[])) ∨
      ∃ text, split? source = some (text, body) ∧ readValue m text w = .ok (.ok v) w' := by
  have hnew {w₁ : World} (hv : Run.newDict [] w₁ = .ok v w') :
      ∃ r, v = .ref r ∧ w'.heap[r]? = some (.dict #[]) := by
    cases hv
    exact ⟨w₁.heap.size, rfl, by simp⟩
  cases h with
  | absent _ hv => exact .inl (hnew hv)
  | unreadable _ _ hv => exact .inl (hnew hv)
  | unbuildable _ _ _ hv => exact .inl (hnew hv)
  | dropped _ _ _ hv => exact .inl (hnew hv)
  | mapping hs hr _ => exact .inr ⟨_, hs, hr⟩

/-- The body is the end of the source. -/
theorem Taken.body_suffix {m : Machine} {v : Value} {w' : World} (h : Taken m source w v body w') :
    body.toList <:+ source.toList := by
  have hs {text : String} (h : split? source = some (text, body)) :
      body.toList <:+ source.toList := by
    obtain ⟨opening, closing, hb⟩ := split?_eq_some.mp h
    exact ⟨_, hb.parts⟩
  cases h with
  | absent _ _ => exact List.suffix_rfl
  | unreadable _ _ _ => exact List.suffix_rfl
  | unbuildable _ _ _ _ => exact List.suffix_rfl
  | dropped h _ _ _ => exact hs h
  | mapping h _ _ => exact hs h

/-- Taking the metadata off a source always ends. What is taken is a new dictionary with scalars for
its keys, and nothing that was there has changed; a block that is no metadata text or makes no value
leaves the source whole, with a dictionary without entries. The exceptions of the constructors of
scalars, and those for the numbers of characters that there are not, are all that is raised. -/
theorem read_settles (d : Nat) (source : String) (w : World) :
    (∃ r es body w', read (Script.machine (d + 1)) source w = .ok (.ref r, body) w' ∧
      Taken (Script.machine (d + 1)) source w (.ref r) body w' ∧ body.toList <:+ source.toList ∧
      Grown w w' ∧ w.heap.size ≤ r ∧ w'.heap[r]? = some (.dict es) ∧ ScalarKeys es) ∨
    ∃ text body e w', split? source = some (text, body) ∧
      read (Script.machine (d + 1)) source w = .error (.raised e) w' ∧ Faulty text e w' := by
  obtain ⟨v, body, w', hr, ht⟩ | hf := read_taken d source w
  · obtain ⟨hg, r, es, rfl, hn, he, hk⟩ := ht.dict
    exact .inl ⟨r, es, body, w', hr, ht, ht.body_suffix, hg, hn, he, hk⟩
  · exact .inr hf

end Reading

/-- A source is split into metadata without entries and a body. -/
def WithoutMetadata (m : Machine) (source body : String) (w : World) : Prop :=
  ∃ r w', read m source w = .ok (.ref r, body) w' ∧ w'.heap[r]? = some (.dict #[])

theorem withoutMetadata_of {m : Machine} {source body : String} {w w₁ : World}
    (h : ∀ v w', Run.newDict [] w₁ = .ok v w' → read m source w = .ok (v, body) w') :
    WithoutMetadata m source body w :=
  ⟨w₁.heap.size, _, h _ _ rfl, by simp⟩

/-- What comes of a source with a block: the value of its metadata text if that is a mapping, and the
body; no metadata, and the body, if it is another value; no metadata, and the whole source, if the text
is refused. What the reading of the text raises is raised. -/
inductive Splits (m : Machine) (source text body : String) (w : World) : Prop where
  | mapping {v : Value} {w₁ : World} : readValue m text w = .ok (.ok v) w₁ → IsMapping v w₁ →
      read m source w = .ok (v, body) w₁ → Splits m source text body w
  | other {v : Value} {w₁ : World} : readValue m text w = .ok (.ok v) w₁ → ¬ IsMapping v w₁ →
      WithoutMetadata m source body w → Splits m source text body w
  | refused {r : Refusal} {w₁ : World} : readValue m text w = .ok (.error r) w₁ →
      WithoutMetadata m source source w → Splits m source text body w
  | raised {e : Value} {w₁ : World} : readValue m text w = .error (.raised e) w₁ →
      read m source w = .error (.raised e) w₁ → Splits m source text body w

/-- A source is split along its lines. If it has a block, which is then the only one, the value of the
metadata text decides whether there are metadata and where the body begins; the opening, the text, the
closing line and the body make up the source. A source without a block is all body. -/
theorem read_delimits (d : Nat) (source : String) (w : World) :
    (∃ opening text closing body, IsBlock source.toList opening text.toList closing body.toList ∧
      (∀ o t c b, IsBlock source.toList o t c b →
        (o, t, c, b) = (opening, text.toList, closing, body.toList)) ∧
      Splits (Script.machine (d + 1)) source text body w) ∨
    (∀ o t c b, ¬ IsBlock source.toList o t c b) ∧
      WithoutMetadata (Script.machine (d + 1)) source source w := by
  cases hs : split? source with
  | none =>
    refine .inr ⟨fun o t c b h => ?_, withoutMetadata_of fun _ _ hv => read_whole hs hv⟩
    have hb : IsBlock source.toList o (String.ofList t).toList c (String.ofList b).toList := by
      simpa using h
    rw [split?_eq_some.mpr ⟨o, c, hb⟩] at hs
    cases hs
  | some p =>
    obtain ⟨text, body⟩ := p
    obtain ⟨opening, closing, hb⟩ := split?_eq_some.mp hs
    refine .inl ⟨opening, text, closing, body, hb, fun o t c b h => ?_, ?_⟩
    · obtain ⟨rfl, rfl, rfl, rfl⟩ := hb.unique h
      rfl
    obtain ⟨r | x, w₁, hr, -⟩ | ⟨e, w₁, hr, -⟩ := readValue_ends d text w
    · exact .refused hr (withoutMetadata_of fun _ _ hv => read_refused hs hr hv)
    · by_cases hx : IsMapping x w₁
      · exact .mapping hr hx (read_mapping hs hr hx)
      · exact .other hr hx (withoutMetadata_of fun _ _ hv => read_other hs hr hx hv)
    · exact .raised hr (read_raised hs hr)

/-- Four dashes close no block, nor do three behind a blank, and the source may end with the closing
line. -/
example : split? "\ufeff---\t\r\na: 1\n----\n ---\n... \r" = some ("a: 1\n----\n ---\n", "") := by
  decide +kernel

/-- Whether a value is an exception of a class with a message. -/
def isException (cls message : String) (e : Value) (w : World) : Bool :=
  match e with
  | .ref r =>
    match w.heap[r]? with
    | some (.exception (.type c) [.str s] ..) => c == cls && s == message
    | _ => false
  | _ => false

/-- A month that there is not ends the reading of the source. -/
theorem impossibleDate_raises : ∃ e w',
    read (Script.machine 2) "---\nd: 2020-13-45\n---\nBody\n" {} = .error (.raised e) w' ∧
      isException "ValueError" "month must be in 1..12" e w' :=
  exists_of_raisedAnd (by decide +kernel)

end FrontMatter

end Metadata

end LiveMarkdown
