import LiveMarkdown.Source.Cursor
import Mathlib

/-!
Runs of a locator over one source. The cursor never goes back, so what is found one after the other
stands one behind the other in the source, and the lines and columns that are told grow along with it.
A text that is not found leaves no trace.
-/

namespace LiveMarkdown

namespace Text

variable {α : Type} {needle text cs : List α} {start k i : Nat}

/-- A needle stands at a place of a text. An empty one stands at every place up to the end. -/
def OccursAt (needle text : List α) (k : Nat) : Prop :=
  k ≤ text.length ∧ needle <+: text.drop k

instance [DecidableEq α] : Decidable (OccursAt needle text k) := inferInstanceAs (Decidable (_ ∧ _))

theorem OccursAt.le_length (h : OccursAt needle text k) : k + needle.length ≤ text.length := by
  have hl := h.2.length_le
  have hk := h.1
  rw [List.length_drop] at hl
  omega

theorem occursAt_zero : OccursAt needle text 0 ↔ needle <+: text := by
  simp [OccursAt]

theorem occursAt_succ {c : α} : OccursAt needle (c :: cs) (k + 1) ↔ OccursAt needle cs k := by
  simp [OccursAt]

theorem not_occursAt_nil_succ : ¬ OccursAt needle [] (k + 1) := by
  simp [OccursAt]

theorem occursAt_drop (h : start ≤ text.length) :
    OccursAt needle (text.drop start) k ↔ OccursAt needle text (start + k) := by
  unfold OccursAt
  rw [List.drop_drop, List.length_drop]
  constructor
  · rintro ⟨hk, hp⟩
    exact ⟨by omega, hp⟩
  · rintro ⟨hk, hp⟩
    exact ⟨by omega, hp⟩

variable [BEq α] [LawfulBEq α]

/-- The first place of a needle, counted on from an index. -/
theorem firstFrom_eq_some_iff : firstFrom needle cs i = some k ↔
    ∃ d, k = i + d ∧ OccursAt needle cs d ∧ ∀ j < d, ¬ OccursAt needle cs j := by
  induction cs generalizing i with
  | nil =>
    unfold firstFrom
    constructor
    · intro h
      split at h
      · have hn : needle = [] := List.isEmpty_iff.mp ‹_›
        cases h
        refine ⟨0, rfl, ?_, fun j hj => absurd hj (Nat.not_lt_zero j)⟩
        rw [hn, occursAt_zero]
      · cases h
    · rintro ⟨d | d, rfl, hd, -⟩
      · have hn : needle = [] := by simpa [occursAt_zero] using hd
        simp [hn]
      · exact absurd hd not_occursAt_nil_succ
  | cons c cs ih =>
    unfold firstFrom
    by_cases hp : needle.isPrefixOf (c :: cs) = true
    · have hz : OccursAt needle (c :: cs) 0 :=
        occursAt_zero.mpr (List.isPrefixOf_iff_prefix.mp hp)
      rw [if_pos hp]
      constructor
      · intro h
        cases h
        exact ⟨0, rfl, hz, fun j hj => absurd hj (Nat.not_lt_zero j)⟩
      · rintro ⟨d | d, rfl, -, hno⟩
        · rfl
        · exact absurd hz (hno 0 (Nat.succ_pos d))
    · have hz : ¬ OccursAt needle (c :: cs) 0 := by
        rwa [occursAt_zero, ← List.isPrefixOf_iff_prefix]
      rw [if_neg hp, ih]
      constructor
      · rintro ⟨d, rfl, hd, hno⟩
        refine ⟨d + 1, by omega, occursAt_succ.mpr hd, fun j hj => ?_⟩
        cases j with
        | zero => exact hz
        | succ j =>
          rw [occursAt_succ]
          exact hno j (by omega)
      · rintro ⟨d | d, rfl, hd, hno⟩
        · exact absurd hd hz
        · refine ⟨d, by omega, occursAt_succ.mp hd, fun j hj => ?_⟩
          rw [← occursAt_succ (c := c)]
          exact hno (j + 1) (by omega)

/-- What is found is the first place from the start on. -/
theorem findFrom_eq_some_iff : findFrom needle text start = some k ↔
    start ≤ k ∧ OccursAt needle text k ∧ ∀ j, start ≤ j → j < k → ¬ OccursAt needle text j := by
  unfold findFrom
  by_cases hs : start ≤ text.length
  · rw [if_pos hs, firstFrom_eq_some_iff]
    constructor
    · rintro ⟨d, rfl, hd, hno⟩
      refine ⟨by omega, (occursAt_drop hs).mp hd, fun j hj hlt hoj => ?_⟩
      obtain ⟨i, rfl⟩ := Nat.exists_eq_add_of_le hj
      exact hno i (by omega) ((occursAt_drop hs).mpr hoj)
    · rintro ⟨hk, ho, hno⟩
      obtain ⟨d, rfl⟩ := Nat.exists_eq_add_of_le hk
      refine ⟨d, rfl, (occursAt_drop hs).mpr ho, fun j hj hoj => ?_⟩
      exact hno (start + j) (by omega) (by omega) ((occursAt_drop hs).mp hoj)
  · rw [if_neg hs]
    constructor
    · intro h
      cases h
    · rintro ⟨hk, ho, -⟩
      have hl := ho.1
      omega

end Text

namespace Source

open Text (OccursAt)

variable {source : List Char} {i j k : Nat} {level : Level} {text : String}

/-! ### Places in words -/

/-- The position of a place for a level: its line, and for inline code its column too. -/
def positionAt (source : List Char) (level : Level) (k : Nat) : Position where
  line := some (lineOf (source.take k))
  column := match level with
    | .inline => some (columnOf (source.take k))
    | .block => none

theorem lineOf_append (xs ys : List Char) : lineOf (xs ++ ys) = lineOf xs + ys.count '\n' := by
  unfold lineOf
  rw [List.count_append]
  omega

/-- Text without a line end moves the column on. -/
theorem columnOf_append {xs ys : List Char} (h : '\n' ∉ ys) :
    columnOf (xs ++ ys) = columnOf xs + ys.length := by
  have hy : ∀ c ∈ ys.reverse, decide (c ≠ '\n') = true := by
    intro c hc
    simp only [ne_eq, decide_eq_true_eq]
    rintro rfl
    exact h (List.mem_reverse.mp hc)
  unfold columnOf
  rw [List.reverse_append, List.takeWhile_append_of_pos hy, List.length_append, List.length_reverse]
  omega

theorem exists_take_append (h : i ≤ j) : ∃ ys, source.take j = source.take i ++ ys ∧
    ys.length = min j source.length - min i source.length := by
  refine ⟨(source.take j).drop i, ?_, ?_⟩
  · have ht : source.take i = (source.take j).take i := by
      rw [List.take_take, Nat.min_eq_left h]
    rw [ht, List.take_append_drop]
  · rw [List.length_drop, List.length_take]
    omega

/-- Lines grow along the source. -/
theorem lineOf_mono (h : i ≤ j) : lineOf (source.take i) ≤ lineOf (source.take j) := by
  obtain ⟨ys, hy, -⟩ : ∃ ys, source.take j = source.take i ++ ys ∧ _ := exists_take_append h
  rw [hy, lineOf_append]
  omega

/-- A place behind another one is on a later line, or in a later column of the same line. -/
theorem place_lt (h : i < j) (hj : j ≤ source.length) :
    Prod.Lex (· < ·) (· < ·) (lineOf (source.take i), columnOf (source.take i))
      (lineOf (source.take j), columnOf (source.take j)) := by
  obtain ⟨ys, hy, hl⟩ : ∃ ys, source.take j = source.take i ++ ys ∧ _ :=
    exists_take_append (Nat.le_of_lt h)
  by_cases hn : '\n' ∈ ys
  · have hc : 0 < ys.count '\n' := List.count_pos_iff.mpr hn
    apply Prod.Lex.left
    rw [hy, lineOf_append]
    omega
  · have hline : lineOf (source.take j) = lineOf (source.take i) := by
      rw [hy, lineOf_append, List.count_eq_zero.mpr hn, Nat.add_zero]
    rw [hline]
    apply Prod.Lex.right
    rw [hy, columnOf_append hn]
    omega

/-! ### One request -/

theorem searchStart_natCast (source : List Char) (c : Nat) : searchStart source c = c := by
  unfold searchStart
  rw [if_neg (by omega), Int.toNat_natCast]

/-- The needle of inline code has its two marks. -/
theorem two_le_length_needle (text : String) : 2 ≤ (needle text .inline).length := by
  simp [needle]

theorem locate_found {s : String} {cursor : Int} (hs : s.toList ≠ [])
    (hf : Text.findFrom (needle text level) s.toList (searchStart s.toList cursor) = some k) :
    locate s text cursor level =
      (positionAt s.toList level k, ((k + (needle text level).length : Nat) : Int)) := by
  unfold locate
  simp only [if_neg hs, hf]
  cases level <;> rfl

theorem locate_missed {s : String} {cursor : Int} (h : s.toList = [] ∨
    Text.findFrom (needle text level) s.toList (searchStart s.toList cursor) = none) :
    locate s text cursor level = (.unknown, cursor) := by
  unfold locate
  by_cases hs : s.toList = []
  · simp only [if_pos hs]
  · simp only [if_neg hs, h.resolve_left hs]

/-- A text that is found stands at the first place from the cursor on, and the cursor goes behind it. -/
theorem locate_of_first {s : String} {c : Nat} (hs : s.toList ≠ []) (hc : c ≤ k)
    (hk : OccursAt (needle text level) s.toList k)
    (hno : ∀ j, c ≤ j → j < k → ¬ OccursAt (needle text level) s.toList j) :
    locate s text c level =
      (positionAt s.toList level k, ((k + (needle text level).length : Nat) : Int)) := by
  refine locate_found hs ?_
  rw [searchStart_natCast]
  exact Text.findFrom_eq_some_iff.mpr ⟨hc, hk, hno⟩

/-- A text is found from the cursor on, or is not there and nothing happens. -/
theorem locate_cases (s text : String) (c : Nat) (level : Level) :
    locate s text c level = (.unknown, (c : Int)) ∨
    ∃ k, c ≤ k ∧ OccursAt (needle text level) s.toList k ∧ locate s text c level =
      (positionAt s.toList level k, ((k + (needle text level).length : Nat) : Int)) := by
  by_cases hs : s.toList = []
  · exact .inl (locate_missed (.inl hs))
  · cases hf : Text.findFrom (needle text level) s.toList c with
    | none =>
      refine .inl (locate_missed (.inr ?_))
      rw [searchStart_natCast, hf]
    | some k =>
      obtain ⟨hc, hk, hno⟩ := Text.findFrom_eq_some_iff.mp hf
      exact .inr ⟨k, hc, hk, locate_of_first hs hc hk hno⟩

/-! ### Runs -/

/-- What a locator answered to a request, with the cursor before and after it. -/
structure Answer where
  text : String
  level : Level
  position : Position
  before : Int
  after : Int

namespace Answer

def request (a : Answer) : String × Level := (a.text, a.level)

def found (a : Answer) : Bool := a.position.known

/-- Where what was found begins. -/
def start (a : Answer) : Int := a.after - (needle a.text a.level).length

/-- The line and the column of an answer that has both. -/
def place? (a : Answer) : Option (Nat × Nat) := do
  return (← a.position.line, ← a.position.column)

/-- The text was not there: the answer says so, and the cursor stays. -/
structure Missed (a : Answer) : Prop where
  position : a.position = .unknown
  after : a.after = a.before

/-- The needle of the request stands in the source from its beginning up to the new cursor, not before
the old one, and the position is that of its beginning. -/
structure Hit (source : List Char) (a : Answer) (k : Nat) : Prop where
  start : a.start = k
  before : a.before ≤ k
  inside : a.after ≤ source.length
  content : (source.take a.after.toNat).drop k = needle a.text a.level
  position : a.position = positionAt source a.level k

theorem Missed.found {a : Answer} (h : Missed a) : a.found = false := by
  unfold Answer.found
  rw [h.position]
  rfl

theorem Hit.found {a : Answer} (h : Hit source a k) : a.found = true := by
  unfold Answer.found
  rw [h.position]
  rfl

/-- Only inline code has a line and a column. -/
theorem Hit.place?_eq {a : Answer} (h : Hit source a k) : a.place? = match a.level with
    | .inline => some (lineOf (source.take k), columnOf (source.take k))
    | .block => none := by
  unfold Answer.place?
  rw [h.position]
  cases a.level <;> rfl

theorem found_of_place? {a : Answer} {p : Nat × Nat} (h : a.place? = some p) : a.found = true := by
  unfold Answer.place? at h
  cases hl : a.position.line with
  | none =>
    rw [hl] at h
    cases h
  | some n => simp [Answer.found, Position.known, hl]

theorem Hit.after {a : Answer} (h : Hit source a k) :
    a.after = k + (needle a.text a.level).length := by
  have hs := h.start
  unfold Answer.start at hs
  omega

end Answer

/-- The answers of a locator to requests, one after the other. -/
def Locator.serve (l : Locator) : List (String × Level) → List Answer
  | [] => []
  | (text, level) :: rs =>
    let (position, l') := l.next text level
    { text, level, position, before := l.cursor, after := l'.cursor } :: l'.serve rs

variable {s : String} {c : Nat} {rs : List (String × Level)} {answers : List Answer}

/-- One step of a locator: it misses and stays, or hits and goes behind what it found. -/
theorem serve_cons (s : String) (c : Nat) (text : String) (level : Level) :
    ∃ (a : Answer) (c' : Nat), a.request = (text, level) ∧ a.before = c ∧ a.after = c' ∧
      (a.Missed ∨ ∃ k, a.Hit s.toList k) ∧
      ∀ rs, Locator.serve ⟨s, c⟩ ((text, level) :: rs) = a :: Locator.serve ⟨s, c'⟩ rs := by
  obtain h | ⟨k, hc, hk, h⟩ := locate_cases s text c level
  · refine ⟨⟨text, level, .unknown, c, c⟩, c, rfl, rfl, rfl, .inl ⟨rfl, rfl⟩, fun rs => ?_⟩
    simp only [Locator.serve, Locator.next, h]
  · have hl := hk.le_length
    have hcontent : (s.toList.take (k + (needle text level).length)).drop k = needle text level := by
      rw [List.drop_take, Nat.add_sub_cancel_left]
      exact (List.prefix_iff_eq_take.mp hk.2).symm
    refine ⟨⟨text, level, positionAt s.toList level k, c, (k + (needle text level).length : Nat)⟩,
      k + (needle text level).length, rfl, rfl, rfl, .inr ⟨k, ?_, ?_, ?_, hcontent, rfl⟩,
      fun rs => ?_⟩
    · simp [Answer.start]
    · exact Int.ofNat_le.mpr hc
    · exact Int.ofNat_le.mpr hl
    · simp only [Locator.serve, Locator.next, h]

theorem Answer.Hit.before_le_after {a : Answer} (h : a.Hit source k) : a.before ≤ a.after := by
  have hb := h.before
  have ha := h.after
  omega

/-- What the answers of a locator to requests are, from an index of the source on. -/
structure Advances (s : String) (c : Nat) (rs : List (String × Level)) (answers : List Answer) :
    Prop where
  requests : answers.map Answer.request = rs
  /-- Each request begins with the cursor that the one before it left. -/
  cursors : answers.map Answer.before = ((c : Int) :: answers.map Answer.after).dropLast
  bounds : ∀ a ∈ answers, c ≤ a.before ∧ a.before ≤ a.after ∧ a.after ≤ s.toList.length
  settled : ∀ a ∈ answers, a.Missed ∨ ∃ k, a.Hit s.toList k
  /-- What is found later stands behind what was found before. -/
  apart : answers.Pairwise fun a b => a.found = true → b.found = true → a.after ≤ b.start
  /-- Requests that missed might as well not have been made. -/
  forgets : Locator.serve ⟨s, c⟩ ((answers.filter Answer.found).map Answer.request) =
    answers.filter Answer.found

namespace Advances

theorem hit {a : Answer} (h : Advances s c rs answers) (ha : a ∈ answers) (hf : a.found = true) :
    ∃ k, a.Hit s.toList k := by
  obtain hm | hk := h.settled a ha
  · rw [hm.found] at hf
    cases hf
  · exact hk

theorem nil (s : String) (c : Nat) : Advances s c [] [] :=
  ⟨rfl, rfl, List.forall_mem_nil _, List.forall_mem_nil _, .nil, rfl⟩

/-- One more answer, before the others. -/
theorem cons {a : Answer} {r : String × Level} {c' : Nat} (hr : a.request = r) (hb : a.before = c)
    (ha : a.after = c') (hs : a.Missed ∨ ∃ k, a.Hit s.toList k)
    (hc : c ≤ c') (hl : c' ≤ s.toList.length)
    (heq : ∀ rs, Locator.serve ⟨s, c⟩ (r :: rs) = a :: Locator.serve ⟨s, c'⟩ rs)
    (h : Advances s c' rs answers) : Advances s c (r :: rs) (a :: answers) := by
  refine ⟨?_, ?_, ?_, ?_, ?_, ?_⟩
  · rw [List.map_cons, hr, h.requests]
  · rw [List.map_cons, List.map_cons, h.cursors, hb, ha]
    cases answers <;> rfl
  · intro b hb'
    obtain rfl | hb' := List.mem_cons.mp hb'
    · rw [hb, ha]
      omega
    · obtain ⟨h₁, h₂, h₃⟩ := h.bounds b hb'
      exact ⟨by omega, h₂, h₃⟩
  · exact List.forall_mem_cons.mpr ⟨hs, h.settled⟩
  · refine List.pairwise_cons.mpr ⟨fun b hb' _ hf => ?_, h.apart⟩
    obtain ⟨k, hk⟩ := h.hit hb' hf
    have h₁ := (h.bounds b hb').1
    have h₂ := hk.before
    have h₃ := hk.start
    omega
  · obtain hm | ⟨k, hk⟩ := hs
    · have hcc : c = c' := by
        have := hm.after
        omega
      rw [List.filter_cons_of_neg (by simp [hm.found]), hcc]
      exact h.forgets
    · rw [List.filter_cons_of_pos hk.found, List.map_cons, hr, heq, h.forgets]

/-- What is found later begins behind the end of what was found before. -/
theorem ordered (h : Advances s c rs answers) : answers.Pairwise fun a b => ∀ i j,
    a.Hit s.toList i → b.Hit s.toList j → i + (needle a.text a.level).length ≤ j := by
  refine h.apart.imp fun {a b} hab i j hi hj => ?_
  have h₁ := hab hi.found hj.found
  have h₂ := hi.after
  have h₃ := hj.start
  omega

/-- The lines of what is found do not decrease. -/
theorem lines (h : Advances s c rs answers) :
    (answers.filterMap (·.position.line)).Pairwise (· ≤ ·) := by
  rw [List.pairwise_filterMap]
  refine h.ordered.imp_of_mem fun {a b} ha hb hab m hm n hn => ?_
  obtain ⟨i, hi⟩ := h.hit ha (by simp [Answer.found, Position.known, hm])
  obtain ⟨j, hj⟩ := h.hit hb (by simp [Answer.found, Position.known, hn])
  have hij := hab i j hi hj
  rw [hi.position] at hm
  rw [hj.position] at hn
  cases hm
  cases hn
  exact lineOf_mono (by omega)

/-- The places of the inline code that is found increase strictly, by lines and then by columns. -/
theorem places (h : Advances s c rs answers) :
    (answers.filterMap Answer.place?).Pairwise (Prod.Lex (· < ·) (· < ·)) := by
  rw [List.pairwise_filterMap]
  refine h.ordered.imp_of_mem fun {a b} ha hb hab p hp q hq => ?_
  obtain ⟨i, hi⟩ := h.hit ha (Answer.found_of_place? hp)
  obtain ⟨j, hj⟩ := h.hit hb (Answer.found_of_place? hq)
  have hij := hab i j hi hj
  have hj' : j ≤ s.toList.length := by
    have h₁ := hj.after
    have h₂ := hj.inside
    omega
  rw [hi.place?_eq] at hp
  rw [hj.place?_eq] at hq
  cases hla : a.level with
  | block =>
    rw [hla] at hp
    cases hp
  | inline =>
    cases hlb : b.level with
    | block =>
      rw [hlb] at hq
      cases hq
    | inline =>
      rw [hla] at hp hij
      rw [hlb] at hq
      cases hp
      cases hq
      have hn := two_le_length_needle a.text
      exact place_lt (by omega) hj'

end Advances

/-- A locator goes on from any index of its source. -/
theorem advances_serve (s : String) (c : Nat) (hc : c ≤ s.toList.length)
    (rs : List (String × Level)) : Advances s c rs (Locator.serve ⟨s, c⟩ rs) := by
  induction rs generalizing c with
  | nil => exact .nil s c
  | cons r rs ih =>
    obtain ⟨a, c', hr, hb, ha, hs, heq⟩ := serve_cons s c r.1 r.2
    have hcc : c ≤ c' ∧ c' ≤ s.toList.length := by
      obtain hm | ⟨k, hk⟩ := hs
      · have h₁ := hm.after
        omega
      · have h₁ := hk.before_le_after
        have h₂ := hk.inside
        omega
    rw [heq]
    exact .cons hr hb ha hs hcc.1 hcc.2 heq (ih c' hcc.2)

/-- A locator reads its source once, from the beginning to the end. Its cursor starts at zero and never
goes back; what it finds stands between the cursors before and after, so in the order of the requests
and without overlap; requests that miss might be left out. The lines that it tells never decrease, and
the places of inline code increase. -/
theorem serve_once (s : String) (rs : List (String × Level)) :
    Advances s 0 rs (Locator.serve { source := s } rs) ∧
      ((Locator.serve { source := s } rs).filterMap (·.position.line)).Pairwise (· ≤ ·) ∧
      ((Locator.serve { source := s } rs).filterMap Answer.place?).Pairwise
        (Prod.Lex (· < ·) (· < ·)) := by
  have h := advances_serve s 0 (Nat.zero_le _) rs
  exact ⟨h, h.lines, h.places⟩

/-- Equal pieces of code are found one after the other, and a text that is gone by is not found. -/
example : (Locator.serve { source := "`x`\n `x`" }
    [("x", .inline), ("y", .inline), ("x", .inline), ("x", .inline)]).map Answer.position =
      [⟨some 1, some 0⟩, .unknown, ⟨some 2, some 1⟩, .unknown] := by
  decide

end Source

end LiveMarkdown

/-!
Positions and the places that they stand for. A text is located where it begins first, counted from the
cursor on, and from its line and its column that place can be found again.
-/

namespace LiveMarkdown.Source

open Text (OccursAt)

variable {cs xs ys : List Char} {c : Char} {k : Nat} {level : Level}

/-! ### Lines -/

/-- Where a line begins that has a number of lines before it. -/
def lineStart : Nat → List Char → Nat
  | 0, _ => 0
  | _ + 1, [] => 0
  | n + 1, c :: cs => lineStart (if c = '\n' then n else n + 1) cs + 1

/-- A text of whole lines: it is empty, or a line end is its last character. -/
def WholeLines (xs : List Char) : Prop := xs = [] ∨ xs.getLast? = some '\n'

theorem WholeLines.of_cons (h : WholeLines (c :: xs)) : WholeLines xs := by
  cases xs with
  | nil => exact .inl rfl
  | cons b xs => exact .inr (by simpa [WholeLines] using h)

/-- Behind whole lines the next one begins. -/
theorem lineStart_append (h : WholeLines xs) : lineStart (xs.count '\n') (xs ++ ys) = xs.length := by
  induction xs with
  | nil => rw [List.count_nil, lineStart, List.length_nil]
  | cons c xs ih =>
    have hx := ih h.of_cons
    by_cases hc : c = '\n'
    · subst hc
      rw [List.count_cons_self, List.cons_append, lineStart, if_pos rfl, hx, List.length_cons]
    · -- a line that has begun is not the last one
      have hn : '\n' ∈ xs := by
        obtain h | h := h
        · cases h
        · exact (List.mem_cons.mp (List.mem_of_getLast? h)).resolve_left (Ne.symm hc)
      obtain ⟨n, hcount⟩ := Nat.exists_eq_succ_of_ne_zero (List.count_pos_iff.mpr hn).ne'
      rw [hcount] at hx
      rw [List.count_cons_of_ne hc, hcount, List.cons_append, lineStart, if_neg hc, hx,
        List.length_cons]

theorem columnOf_concat_feed (xs : List Char) : columnOf (xs ++ ['\n']) = 0 := by
  simp [columnOf]

/-- A text ends with as many characters behind its whole lines as its column says. -/
theorem exists_wholeLines (xs : List Char) : ∃ before rest, xs = before ++ rest ∧
    WholeLines before ∧ '\n' ∉ rest ∧ columnOf xs = rest.length := by
  induction xs using List.reverseRecOn with
  | nil => exact ⟨[], [], rfl, .inl rfl, List.not_mem_nil, rfl⟩
  | append_singleton xs c ih =>
    by_cases hc : c = '\n'
    · subst hc
      exact ⟨xs ++ ['\n'], [], (List.append_nil _).symm, .inr (by simp), List.not_mem_nil,
        columnOf_concat_feed xs⟩
    · obtain ⟨before, rest, rfl, hb, hno, hl⟩ := ih
      have hc' : '\n' ∉ [c] := fun h => hc (List.mem_singleton.mp h).symm
      refine ⟨before, rest ++ [c], List.append_assoc .., hb, ?_, ?_⟩
      · exact fun h => (List.mem_append.mp h).elim hno hc'
      · rw [columnOf_append hc', hl, List.length_append]

/-! ### Places -/

/-- The place that a line, counted from one, and a column of that line stand for. -/
def placeOf? (source : List Char) (p : Position) : Option Nat := do
  return lineStart ((← p.line) - 1) source + (← p.column)

/-- What a position tells of a place in a source: the line, as the number of the line ends before it,
and for inline code the column, as the number of the characters of that line before it. -/
structure Tells (source : List Char) (level : Level) (start : Nat) (p : Position) : Prop where
  line : p.line = some ((source.take start).count '\n' + 1)
  /-- No column is told of a block. -/
  block : level = .block → p.column = none
  inline : level = .inline → ∃ column, p.column = some column ∧ column ≤ start ∧
    '\n' ∉ (source.take start).drop (start - column) ∧
    (start - column = 0 ∨ source[start - column - 1]? = some '\n') ∧
    placeOf? source p = some start

/-- The position of a place tells where it is. -/
theorem positionAt_tells (hk : k ≤ cs.length) : Tells cs level k (positionAt cs level k) := by
  refine ⟨rfl, ?_, ?_⟩
  · rintro rfl
    rfl
  · rintro rfl
    obtain ⟨before, rest, hs, hb, hno, hl⟩ := exists_wholeLines (cs.take k)
    have hcs : cs = before ++ (rest ++ cs.drop k) := by
      rw [← List.append_assoc, ← hs, List.take_append_drop]
    have hlen : k = before.length + rest.length := by
      rw [← List.length_append, ← hs, List.length_take, Nat.min_eq_left hk]
    have hback : k - columnOf (cs.take k) = before.length := by omega
    have hcount : (cs.take k).count '\n' = before.count '\n' := by
      rw [hs, List.count_append, List.count_eq_zero.mpr hno, Nat.add_zero]
    have hstart : lineStart ((cs.take k).count '\n') cs = before.length := by
      rw [hcount]
      conv_lhs => rw [hcs]
      exact lineStart_append hb
    refine ⟨columnOf (cs.take k), rfl, by omega, ?_, ?_, ?_⟩
    · rw [hback, hs, List.drop_left]
      exact hno
    · rw [hback]
      obtain rfl | hlast := hb
      · exact .inl rfl
      · have hpos : 0 < before.length := List.length_pos_of_mem (List.mem_of_getLast? hlast)
        rw [List.getLast?_eq_getElem?] at hlast
        rw [hcs, List.getElem?_append_left (by omega)]
        exact .inr hlast
    · change some (lineStart ((cs.take k).count '\n') cs + columnOf (cs.take k)) = some k
      rw [hstart, hl, ← hlen]

/-! ### Requests -/

/-- Where a search may begin: at the cursor, which counts from the end if it is negative, but not from
before the beginning. -/
def searchFrom (source : List Char) (cursor : Int) : Int :=
  if cursor < 0 then max 0 (source.length + cursor) else cursor

theorem searchStart_le_iff {cursor : Int} :
    searchStart cs cursor ≤ k ↔ searchFrom cs cursor ≤ k := by
  unfold searchStart searchFrom
  split <;> omega

/-- The places where a text of a level can be found from a cursor on. -/
def candidates (source text : String) (cursor : Int) (level : Level) : Set Nat :=
  {k | searchFrom source.toList cursor ≤ k ∧ OccursAt (needle text level) source.toList k}

variable {s text : String} {cursor : Int}

theorem findFrom_eq_some_iff_isLeast :
    Text.findFrom (needle text level) s.toList (searchStart s.toList cursor) = some k ↔
      IsLeast (candidates s text cursor level) k := by
  rw [Text.findFrom_eq_some_iff]
  constructor
  · rintro ⟨hc, hk, hno⟩
    refine ⟨⟨searchStart_le_iff.mp hc, hk⟩, fun j hj => Nat.not_lt.mp fun hlt => ?_⟩
    exact hno j (searchStart_le_iff.mpr hj.1) hlt hj.2
  · rintro ⟨⟨hc, hk⟩, hleast⟩
    refine ⟨searchStart_le_iff.mpr hc, hk, fun j hj hlt ho => ?_⟩
    exact Nat.not_lt.mpr (hleast ⟨searchStart_le_iff.mp hj, ho⟩) hlt

theorem findFrom_eq_none_iff :
    Text.findFrom (needle text level) s.toList (searchStart s.toList cursor) = none ↔
      candidates s text cursor level = ∅ := by
  rw [Option.eq_none_iff_forall_ne_some, Set.eq_empty_iff_forall_notMem]
  constructor
  · intro h k hk
    classical
    have hne : (candidates s text cursor level).Nonempty := ⟨k, hk⟩
    exact h _ (findFrom_eq_some_iff_isLeast.mpr ⟨Nat.sInf_mem hne, fun j hj => Nat.sInf_le hj⟩)
  · intro h k hk
    exact h k (findFrom_eq_some_iff_isLeast.mp hk).1

/-- A text is located exactly if it stands in the source from the cursor on. Then it is located where it
stands first, its position leads back to that place, and the cursor goes to its end. Else the position is
unknown and the cursor stays. -/
theorem locate_inverts (s text : String) (cursor : Int) (level : Level) :
    ((locate s text cursor level).1.known = true ↔
      s.toList ≠ [] ∧ (candidates s text cursor level).Nonempty) ∧
    ((locate s text cursor level).1.known = true → ∃ start,
      IsLeast (candidates s text cursor level) start ∧
      Tells s.toList level start (locate s text cursor level).1 ∧
      (locate s text cursor level).2 = start + (needle text level).length) ∧
    ((locate s text cursor level).1.known = false →
      locate s text cursor level = (.unknown, cursor)) := by
  by_cases hs : s.toList = []
  · have h : locate s text cursor level = (.unknown, cursor) := locate_missed (.inl hs)
    simp [h, hs, Position.known, Position.unknown]
  cases hf : Text.findFrom (needle text level) s.toList (searchStart s.toList cursor) with
  | none =>
    have h : locate s text cursor level = (.unknown, cursor) := locate_missed (.inr hf)
    simp [h, findFrom_eq_none_iff.mp hf, Position.known, Position.unknown]
  | some start =>
    have hleast := findFrom_eq_some_iff_isLeast.mp hf
    have h := locate_found hs hf
    have hknown : (locate s text cursor level).1.known = true := by
      rw [h]
      rfl
    refine ⟨iff_of_true hknown ⟨hs, start, hleast.1⟩, fun _ => ⟨start, hleast, ?_, ?_⟩, ?_⟩
    · rw [h]
      exact positionAt_tells hleast.1.2.1
    · rw [h]
      push_cast
      rfl
    · rw [hknown]
      exact nofun

/-- A cursor before the last four characters, and the place of what is found behind it. -/
example : locate "a\n `x`" "x" (-4) .inline = (⟨some 2, some 1⟩, 6) ∧
    placeOf? "a\n `x`".toList ⟨some 2, some 1⟩ = some 3 := by
  decide

end LiveMarkdown.Source
