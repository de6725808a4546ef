import LiveMarkdown.Fragment.Failure
import LiveMarkdown.Proofs.Markers
import Mathlib

/-!
The messages of an exception and of those that led to it. From an exception the way goes on to its
cause, or else to its context, and it may come back to where it has been. The messages are the
first lines of the texts along the longest beginning of the way that comes to no exception twice.
-/

namespace LiveMarkdown

open Script (Value World Machine Ref Run)

/-! ### The first line of a text -/

namespace Text

variable {c : Char}

theorem isBlank_of_isLineEnd (h : isLineEnd c = true) : isBlank c = true := by
  simp only [isLineEnd, isBlank, Bool.or_eq_true, Bool.and_eq_true, decide_eq_true_eq,
    beq_iff_eq] at h ⊢
  omega

theorem headD_linesEndedBy {p : Char → Bool} (hp : p '\r' = true) (cs : List Char) :
    ((linesEndedBy p cs).map Prod.fst).headD [] = cs.takeWhile fun c => !p c := by
  fun_induction linesEndedBy p cs with
  | case1 => rfl
  | case2 => simp [hp]
  | case3 c cs _ hc => simp [hc]
  | case4 c cs _ hc h ih => simp_all
  | case5 c cs _ hc l e ls h ih => simp_all

/-- The first line of a text goes to where a line ends. -/
theorem headD_lines (t : String) :
    (lines t).headD "" = String.ofList (t.toList.takeWhile fun c => !isLineEnd c) := by
  rw [← headD_linesEndedBy (by decide)]
  unfold lines linesWithEnds
  cases linesEndedBy isLineEnd t.toList <;> rfl

/-- A text without the blanks at its ends does not begin with a blank. -/
theorem isBlank_of_strip {t : String} {cs : List Char} (h : (strip t).toList = c :: cs) :
    isBlank c = false := by
  have hd : (strip t).toList.dropWhile isBlank = (strip t).toList := by
    rw [strip, String.toList_ofList]
    exact dropWhile_dropLastWhile (List.dropWhile_idempotent isBlank t.toList)
  rw [h] at hd
  cases hc : isBlank c with
  | false => rfl
  | true =>
    rw [List.dropWhile_cons_of_pos hc] at hd
    have hl := cs.length_dropWhile_le isBlank
    rw [hd, List.length_cons] at hl
    omega

/-- What is stripped has something on its first line, unless the text is blank. -/
theorem strip_headD_lines (t : String) :
    strip ((lines (strip t)).headD "") = "" ↔ t.toList.all isBlank = true := by
  rw [List.all_eq_true, ← strip_eq_empty, headD_lines, strip_eq_empty, String.toList_ofList,
    ← String.toList_inj, String.toList_empty]
  cases hs : (strip t).toList with
  | nil => simp
  | cons c cs =>
    have hc := isBlank_of_strip hs
    have he : isLineEnd c = false := by
      by_contra he
      rw [isBlank_of_isLineEnd (by simpa using he)] at hc
      cases hc
    simp [he, hc]

end Text

namespace Exception

/-! ### The way from one object to the next -/

/-- The beginning of the way that leads from an object to the next one and on, up to a number of
objects. -/
def way (next : Ref → Option Ref) : Nat → Ref → List Ref
  | 0, _ => []
  | n + 1, r => r :: match next r with
    | some s => way next n s
    | none => []

/-- The longest beginning of the way from an object that comes to no object twice. -/
structure IsTrail (next : Ref → Option Ref) (r : Ref) (rs : List Ref) : Prop where
  begins : ∃ n, way next n r = rs
  once : rs.Nodup
  longest : ∀ n, (way next n r).Nodup → way next n r <+: rs

/-- The objects that are come to before the way ends or leads to one that was visited, up to a
number of objects. -/
def visits (next : Ref → Option Ref) : Nat → List Ref → Ref → List Ref
  | 0, _, _ => []
  | n + 1, visited, r =>
    if visited.contains r then []
    else r :: match next r with
      | some s => visits next n (r :: visited) s
      | none => []

section Way

variable {next : Ref → Option Ref} {n k size : Nat} {visited : List Ref} {r s a : Ref}

theorem way_succ_none (h : next r = none) : way next (n + 1) r = [r] := by
  rw [way, h]

theorem way_succ_some (h : next r = some s) : way next (n + 1) r = r :: way next n s := by
  rw [way, h]

theorem visits_of_mem (h : r ∈ visited) : visits next n visited r = [] := by
  cases n with
  | zero => rfl
  | succ n => rw [visits, if_pos (List.contains_iff_mem.mpr h)]

theorem visits_succ_none (hr : r ∉ visited) (h : next r = none) :
    visits next (n + 1) visited r = [r] := by
  rw [visits, if_neg (by simpa using hr), h]

theorem visits_succ_some (hr : r ∉ visited) (h : next r = some s) :
    visits next (n + 1) visited r = r :: visits next n (r :: visited) s := by
  rw [visits, if_neg (by simpa using hr), h]

theorem visits_eq_way : ∃ k, way next k r = visits next n visited r := by
  induction n generalizing visited r with
  | zero => exact ⟨0, rfl⟩
  | succ n ih =>
    by_cases hr : r ∈ visited
    · exact ⟨0, (visits_of_mem hr).symm⟩
    · cases hs : next r with
      | none => exact ⟨1, (way_succ_none hs).trans (visits_succ_none hr hs).symm⟩
      | some s =>
        obtain ⟨k, hk⟩ := @ih (r :: visited) s
        exact ⟨k + 1, by rw [way_succ_some hs, visits_succ_some hr hs, hk]⟩

theorem visits_once :
    (visits next n visited r).Nodup ∧ ∀ a ∈ visits next n visited r, a ∉ visited := by
  induction n generalizing visited r with
  | zero => exact ⟨List.nodup_nil, by simp [visits]⟩
  | succ n ih =>
    by_cases hr : r ∈ visited
    · rw [visits_of_mem hr]
      exact ⟨List.nodup_nil, by simp⟩
    · cases hs : next r with
      | none =>
        rw [visits_succ_none hr hs]
        exact ⟨List.nodup_singleton r, by simpa using hr⟩
      | some s =>
        obtain ⟨hn, hf⟩ := @ih (r :: visited) s
        rw [visits_succ_some hr hs]
        refine ⟨List.nodup_cons.mpr ⟨fun h => hf r h List.mem_cons_self, hn⟩, ?_⟩
        rintro a (_ | ⟨_, ha⟩)
        · exact hr
        · exact fun h => hf a ha (List.mem_cons_of_mem r h)

/-- A beginning of the way without repetition that keeps away from what was visited is visited, if
there are turns enough for it. -/
theorem way_prefix_visits (hn : (way next k r).Nodup) (hf : ∀ a ∈ way next k r, a ∉ visited)
    (hl : (way next k r).length ≤ n) : way next k r <+: visits next n visited r := by
  induction k generalizing n visited r with
  | zero => exact List.nil_prefix
  | succ k ih =>
    have hr : r ∉ visited := hf r (by rw [way]; exact List.mem_cons_self)
    cases hs : next r with
    | none =>
      rw [way_succ_none hs] at hl ⊢
      obtain ⟨n, rfl⟩ := Nat.exists_eq_add_of_le' hl
      rw [List.length_singleton, visits_succ_none hr hs]
    | some s =>
      rw [way_succ_some hs] at hn hf hl ⊢
      obtain ⟨hrs, hn⟩ := List.nodup_cons.mp hn
      cases n with
      | zero => cases hl
      | succ n =>
        rw [visits_succ_some hr hs, List.cons_prefix_cons]
        refine ⟨rfl, ih hn (fun a ha => ?_) (Nat.le_of_succ_le_succ hl)⟩
        rintro (_ | ⟨_, hv⟩)
        · exact hrs ha
        · exact hf a (List.mem_cons_of_mem r ha) hv

/-- The way goes on from every object on it but the last one. -/
theorem isSome_of_mem_dropLast (h : a ∈ (way next k r).dropLast) : (next a).isSome = true := by
  induction k generalizing r with
  | zero => cases h
  | succ k ih =>
    cases hs : next r with
    | none => simp [way_succ_none hs] at h
    | some s =>
      rw [way_succ_some hs] at h
      cases hw : way next k s with
      | nil => simp [hw] at h
      | cons b bs =>
        rw [hw, List.dropLast_cons_cons] at h
        obtain rfl | h := List.mem_cons.mp h
        · rw [hs]
          rfl
        · exact ih (hw ▸ h)

/-- If the way goes on from a limited number of objects only, a beginning without repetition has at
most one object more. -/
theorem length_way_le (hb : ∀ a, (next a).isSome = true → a < size) (hn : (way next k r).Nodup) :
    (way next k r).length ≤ size + 1 := by
  -- All but the last one are among the limited number, each once.
  have hd : ((way next k r).dropLast).Nodup := hn.sublist (List.dropLast_sublist _)
  have hs : (way next k r).dropLast ⊆ List.range size := fun a ha =>
    List.mem_range.mpr (hb a (isSome_of_mem_dropLast ha))
  have hl := (hd.subperm hs).length_le
  rw [List.length_range, List.length_dropLast] at hl
  omega

theorem isTrail_visits (hb : ∀ a, (next a).isSome = true → a < size) (hl : size < n) :
    IsTrail next r (visits next n [] r) where
  begins := visits_eq_way
  once := visits_once.1
  longest k hk := way_prefix_visits hk (by simp) (Nat.le_trans (length_way_le hb hk) hl)

theorem IsTrail.unique {rs ss : List Ref} (h : IsTrail next r rs) (g : IsTrail next r ss) :
    rs = ss := by
  obtain ⟨n, rfl⟩ := h.begins
  obtain ⟨k, rfl⟩ := g.begins
  exact (g.longest n h.once).eq_of_length_le (h.longest k g.once).length_le

end Way

/-! ### The way from an exception to what led to it -/

/-- The cause that was given to an exception. -/
def cause? (w : World) (r : Ref) : Option Value :=
  match w.heap[r]? with
  | some (.exception _ _ cause ..) => cause
  | _ => none

/-- The exception during whose handling another one was raised. -/
def context? (w : World) (r : Ref) : Option Value :=
  match w.heap[r]? with
  | some (.exception _ _ _ context ..) => context
  | _ => none

/-- The exception to which the way goes from another one: its cause if there is one, else its
context. -/
def link? (w : World) (r : Ref) : Option Ref :=
  match (cause? w r).or (context? w r) with
  | some (.ref s) => some s
  | _ => none

/-- The cause of an exception counts as true when it is asked for. -/
def Asked (m : Machine) (a : Ref) (v v' : World) : Prop :=
  match cause? v a with
  | some c => Script.Iteration.truth m c v = .ok true v'
  | none => v' = v

/-- The way from an exception comes to another one. -/
def OnWay (w : World) (r a : Ref) : Prop :=
  Relation.ReflTransGen (fun a b => link? w a = some b) r a

/-- A world that comes about while the exceptions on the way are shown and asked for their causes. -/
inductive Later (m : Machine) (w : World) (r : Ref) : World → Prop
  | start : Later m w r w
  | shown {v v' : World} {a : Ref} {t : String} (h : Later m w r v) (ha : OnWay w r a)
      (ht : m.text (.ref a) v = .ok t v') : Later m w r v'
  | asked {v v' : World} {a : Ref} (h : Later m w r v) (ha : OnWay w r a) (hq : Asked m a v v') :
      Later m w r v'

/-- The exceptions on the way can be shown and count as true, and meanwhile the way stays as it is. -/
structure Steady (m : Machine) (w : World) (r : Ref) : Prop where
  linked : ∀ v, Later m w r v → ∀ a, OnWay w r a → link? v a = link? w a
  shown : ∀ v, Later m w r v → ∀ a, OnWay w r a → ∃ t v', m.text (.ref a) v = .ok t v'
  truthy : ∀ v, Later m w r v → ∀ a, OnWay w r a → ∃ v', Asked m a v v'

/-- The texts that some exceptions show, one after the other. -/
inductive Told (m : Machine) : World → List Ref → List String → World → Prop
  | done {w : World} : Told m w [] [] w
  | told {w w₁ w₂ w' : World} {a : Ref} {t : String} {as : List Ref} {ts : List String}
      (ht : m.text (.ref a) w = .ok t w₁) (hq : Asked m a w₁ w₂) (h : Told m w₂ as ts w') :
      Told m w (a :: as) (t :: ts) w'

/-- The first lines of texts, without those of blank texts. -/
def firstLines (ts : List String) : List String :=
  (ts.filter fun t => !t.toList.all Text.isBlank).map firstLine

section Links

variable {m : Machine} {v v' v₁ v₂ : World} {a : Ref} {cls : Value} {args : List Value}
  {cause context : Option Value} {suppressed : Bool} {fields : Array (String × Value)}

theorem cause?_of (h : v.heap[a]? = some (.exception cls args cause context suppressed fields)) :
    cause? v a = cause := by
  rw [cause?, h]

theorem context?_of (h : v.heap[a]? = some (.exception cls args cause context suppressed fields)) :
    context? v a = context := by
  rw [context?, h]

theorem cause?_other (h : ∀ cls args cause context suppressed fields,
    v.heap[a]? ≠ some (.exception cls args cause context suppressed fields)) :
    cause? v a = none ∧ context? v a = none := by
  unfold cause? context?
  constructor <;>
  · split
    · exact (h _ _ _ _ _ _ ‹_›).elim
    · rfl

theorem asked_none (h : cause? v a = none) : Asked m a v v' ↔ v' = v := by
  rw [Asked, h]

theorem asked_some {c : Value} (h : cause? v a = some c) :
    Asked m a v v' ↔ Script.Iteration.truth m c v = .ok true v' := by
  rw [Asked, h]

theorem Asked.unique (h : Asked m a v v₁) (g : Asked m a v v₂) : v₁ = v₂ := by
  cases hc : cause? v a with
  | none => exact ((asked_none hc).mp h).trans ((asked_none hc).mp g).symm
  | some c => simpa using ((asked_some hc).mp h).symm.trans ((asked_some hc).mp g)

theorem lt_of_link? (h : (link? v a).isSome = true) : a < v.heap.size := by
  by_contra hn
  simp [link?, cause?, context?, Array.getElem?_eq_none (Nat.le_of_not_lt hn)] at h

theorem next?_other (h : ∀ cls args cause context suppressed fields,
    v.heap[a]? ≠ some (.exception cls args cause context suppressed fields)) :
    next? m a v = .ok none v := by
  rw [next?]
  cases ho : v.heap[a]? with
  | none =>
    have hr : Run.object? a v = .ok none v := by rw [← ho]; rfl
    rw [bind_of_ok hr]
    rfl
  | some o =>
    rw [bind_of_ok (Script.Run.object?_of ho)]
    cases o with
    | exception => exact (h _ _ _ _ _ _ ho).elim
    | _ => rfl

/-- The way goes on by the link of an exception whose cause counts as true. -/
theorem next?_eq (h : Asked m a v v') : next? m a v = .ok (link? v a) v' := by
  by_cases he : ∃ cls args cause context suppressed fields,
      v.heap[a]? = some (.exception cls args cause context suppressed fields)
  · obtain ⟨cls, args, cause, context, suppressed, fields, he⟩ := he
    rw [link?, cause?_of he, context?_of he, next?, bind_of_ok (Script.Run.object?_of he)]
    cases cause with
    | none =>
      obtain rfl := (asked_none (cause?_of he)).mp h
      dsimp only [Option.none_or]
      rw [pure_bind]
      split <;> simp_all
    | some c =>
      have hc := (asked_some (cause?_of he)).mp h
      dsimp only [Option.some_or]
      rw [bind_of_ok hc, if_pos rfl, pure_bind]
      split <;> simp_all
  · push Not at he
    obtain ⟨hc, hx⟩ := cause?_other he
    obtain rfl := (asked_none hc).mp h
    rw [next?_other he, link?, hc, hx]
    rfl

end Links

section Messages

variable {m : Machine} {w w' v v' v₁ v₂ : World} {r a : Ref} {n : Nat} {visited as : List Ref}
  {ts us lines : List String} {t : String}

theorem firstLines_cons (t : String) (ts : List String) : firstLines (t :: ts) =
    if firstLine t == "" then firstLines ts else firstLine t :: firstLines ts := by
  have h : firstLine t = "" ↔ t.toList.all Text.isBlank = true := Text.strip_headD_lines t
  by_cases hb : t.toList.all Text.isBlank = true
  · simp [firstLines, hb, h.mpr hb]
  · simp [firstLines, hb, mt h.mp hb]

theorem messagesFrom_visited (h : a ∈ visited) :
    messagesFrom m (n + 1) visited a v = .ok [] v := by
  rw [messagesFrom, if_pos (List.contains_iff_mem.mpr h)]
  rfl

/-- One turn: an exception shows its text, and the way goes on behind it. -/
theorem messagesFrom_told {s : Option Ref} (h : a ∉ visited) (ht : m.text (.ref a) v = .ok t v₁)
    (hs : next? m a v₁ = .ok s v₂)
    (hr : (match s with
      | some b => messagesFrom m n (a :: visited) b
      | none => pure []) v₂ = .ok lines v') :
    messagesFrom m (n + 1) visited a v =
      .ok (if firstLine t == "" then lines else firstLine t :: lines) v' := by
  rw [messagesFrom, if_neg (by simpa using h), bind_of_ok ht, bind_of_ok hs]
  cases s <;>
  · dsimp only at hr ⊢
    rw [bind_of_ok hr]
    rfl

/-- From an exception on the way, those are shown that are come to before one that was visited. -/
theorem messagesFrom_visits (h : Steady m w r) (n : Nat) (visited : List Ref)
    (hv : Later m w r v) (ha : OnWay w r a) :
    ∃ ts v', Told m v (visits (link? w) n visited a) ts v' ∧
      messagesFrom m n visited a v = .ok (firstLines ts) v' := by
  -- On the turns that are left. The way is that of the first world, in which nobody was shown yet.
  induction n generalizing visited v a with
  | zero => exact ⟨[], v, .done, rfl⟩
  | succ n ih =>
    by_cases hm : a ∈ visited
    · rw [visits_of_mem hm]
      exact ⟨[], v, .done, messagesFrom_visited hm⟩
    · obtain ⟨t, v₁, ht⟩ := h.shown v hv a ha
      have hv₁ : Later m w r v₁ := hv.shown ha ht
      obtain ⟨v₂, hq⟩ := h.truthy v₁ hv₁ a ha
      have hs := next?_eq hq
      rw [h.linked v₁ hv₁ a ha] at hs
      cases hl : link? w a with
      | none =>
        rw [hl] at hs
        rw [visits_succ_none hm hl]
        refine ⟨[t], v₂, .told ht hq .done, ?_⟩
        rw [firstLines_cons]
        exact messagesFrom_told hm ht hs rfl
      | some b =>
        rw [hl] at hs
        rw [visits_succ_some hm hl]
        obtain ⟨ts, v', htold, hr⟩ := ih (a :: visited) (hv₁.asked ha hq) (ha.tail hl)
        refine ⟨t :: ts, v', .told ht hq htold, ?_⟩
        rw [firstLines_cons]
        exact messagesFrom_told hm ht hs hr

theorem Told.unique (h : Told m w as ts v₁) (g : Told m w as us v₂) : ts = us ∧ v₁ = v₂ := by
  induction h generalizing us v₂ with
  | done =>
    cases g
    exact ⟨rfl, rfl⟩
  | told ht hq _ ih =>
    cases g with
    | told ht' hq' g =>
      obtain ⟨rfl, rfl⟩ : _ = _ ∧ _ = _ := by simpa using ht.symm.trans ht'
      obtain rfl := hq.unique hq'
      obtain ⟨rfl, rfl⟩ := ih g
      exact ⟨rfl, rfl⟩

/-- An exception and those that led to it are followed once, also where they lead back to each
other: along the longest beginning of the way that comes to none of them twice. Each shows its text
once, and each text that is not blank gives its first line. However many turns are allowed beyond the
number of objects, no more are made. -/
theorem messages_follow (h : Steady m w r) : ∃ rs, IsTrail (link? w) r rs ∧
    ∃ ts w', Told m w rs ts w' ∧ messages m (.ref r) w = .ok (firstLines ts) w' ∧
      ∀ n, w.heap.size < n → messagesFrom m n [] r w = messages m (.ref r) w := by
  have htrail (n : Nat) (hn : w.heap.size < n) : IsTrail (link? w) r (visits (link? w) n [] r) :=
    isTrail_visits (fun _ => lt_of_link?) hn
  have hone := htrail _ (Nat.lt_succ_self _)
  obtain ⟨ts, w', htold, hm⟩ := messagesFrom_visits h (w.heap.size + 1) [] .start .refl
  refine ⟨_, hone, ts, w', htold, hm, fun n hn => ?_⟩
  obtain ⟨us, u, htold', hm'⟩ := messagesFrom_visits h n [] .start .refl
  rw [(htrail n hn).unique hone] at htold'
  obtain ⟨rfl, rfl⟩ := htold.unique htold'
  exact hm'.trans hm.symm

end Messages

/-! ### Exceptions that show their argument -/

section Speaking

variable {m : Machine} {w v : World} {r a : Ref} {t : String}

/-- Nothing changes while the exceptions on the way are shown. -/
theorem Steady.of_still (hs : ∀ a, OnWay w r a → ∃ t, m.text (.ref a) w = .ok t w)
    (hq : ∀ a, OnWay w r a → Asked m a w w) : Steady m w r := by
  have hstill (v : World) (h : Later m w r v) : v = w := by
    induction h with
    | start => rfl
    | shown _ ha h ih =>
      subst ih
      obtain ⟨t, h'⟩ := hs _ ha
      rw [h'] at h
      cases h
      rfl
    | asked _ ha h ih =>
      subst ih
      exact h.unique (hq _ ha)
  refine ⟨fun v hv a ha => ?_, fun v hv a ha => ?_, fun v hv a ha => ?_⟩ <;>
    obtain rfl := hstill v hv
  · rfl
  · obtain ⟨t, h⟩ := hs a ha
    exact ⟨t, _, h⟩
  · exact ⟨_, hq a ha⟩

theorem Told.of_still {as : List Ref} (text : Ref → String)
    (hs : ∀ a ∈ as, m.text (.ref a) w = .ok (text a) w) (hq : ∀ a ∈ as, Asked m a w w) :
    Told m w as (as.map text) w := by
  induction as with
  | nil => exact .done
  | cons a as ih =>
    refine .told (hs a List.mem_cons_self) (hq a List.mem_cons_self) (ih ?_ ?_)
    · exact fun b hb => hs b (List.mem_cons_of_mem a hb)
    · exact fun b hb => hq b (List.mem_cons_of_mem a hb)

/-- An exception shows a text, which is its argument. Its cause is an object. -/
def Speaks (w : World) (a : Ref) (t : String) : Prop :=
  ∃ (k : String) (cause : Option Ref) (context : Option Value) (suppressed : Bool),
    Script.Raised.showsArgument k = true ∧
    w.heap[a]? = some (.exception (.type k) [.str t] (cause.map .ref) context suppressed #[])

theorem Speaks.text (d : Nat) (h : Speaks w a t) :
    (Script.machine (d + 2)).text (.ref a) w = .ok t w := by
  obtain ⟨k, cause, context, suppressed, hk, h⟩ := h
  exact Script.Show.text_argument d hk h

theorem Speaks.truth (h : Speaks w a t) : Script.Iteration.truth m (.ref a) w = .ok true w := by
  obtain ⟨k, cause, context, suppressed, -, h⟩ := h
  have hc : Script.Kind.core (.ref a) w = .ok (.ref a) w := by
    unfold Script.Kind.core
    rw [bind_of_ok (Script.Run.deref_of h)]
    rfl
  have hb : Script.Kind.basic (.ref a) w = .ok (.ref a) w := hc
  have hl : Script.Iteration.length? m (.ref a) w = .ok none w := by
    unfold Script.Iteration.length?
    rw [bind_of_ok (Script.Kind.special?_exception h _)]
    dsimp only
    rw [bind_of_ok hb]
    dsimp only
    rw [bind_of_ok (Script.Run.object?_of h)]
    rfl
  unfold Script.Iteration.truth
  rw [bind_of_ok (Script.Kind.special?_exception h _)]
  dsimp only
  rw [bind_of_ok hl]
  dsimp only
  rw [bind_of_ok hc]
  rfl

theorem Speaks.asked (h : Speaks w a t) (hl : ∀ b, link? w a = some b → ∃ u, Speaks w b u) :
    Asked m a w w := by
  obtain ⟨k, cause, context, suppressed, -, ho⟩ := h
  cases cause with
  | none => exact (asked_none (cause?_of ho)).mpr rfl
  | some b =>
    have hb : link? w a = some b := by
      rw [link?, cause?_of ho]
      rfl
    obtain ⟨u, hu⟩ := hl b hb
    exact (asked_some (cause?_of ho)).mpr hu.truth

/-- Exceptions that show their arguments do so wherever they lead, also if it is back to each other. -/
theorem Steady.of_speaks (d : Nat) (h : ∀ a, OnWay w r a → ∃ t, Speaks w a t) :
    Steady (Script.machine (d + 2)) w r := by
  refine .of_still (fun a ha => ?_) fun a ha => ?_ <;> obtain ⟨t, ht⟩ := h a ha
  · exact ⟨t, ht.text d⟩
  · exact ht.asked fun b hb => h b (ha.tail hb)

end Speaking

/-- Three exceptions. The way from the first one leads into a circle of the other two; the second one
is blank, and the third one has a context beside its cause. -/
def circle : World where
  heap := #[.exception (.type "ValueError") [.str " outer\nmore"] (some (.ref 1)) none false #[],
    .exception (.type "RuntimeError") [.str " \n "] none (some (.ref 2)) false #[],
    .exception (.type "TypeError") [.str "inner "] (some (.ref 1)) (some (.ref 0)) true #[]]

def circleText (a : Ref) : String :=
  match a with
  | 0 => " outer\nmore"
  | 1 => " \n "
  | _ => "inner "

theorem circle_speaks : ∀ a < 3, Speaks circle a (circleText a)
  | 0, _ => ⟨"ValueError", some 1, none, false, by decide +kernel, rfl⟩
  | 1, _ => ⟨"RuntimeError", none, some (.ref 2), false, by decide +kernel, rfl⟩
  | 2, _ => ⟨"TypeError", some 1, some (.ref 0), true, by decide +kernel, rfl⟩

theorem circle_linked {a b : Ref} (h : link? circle a = some b) : b < 3 := by
  have ha : a < 3 := lt_of_link? (Option.isSome_of_eq_some h)
  match a, ha with
  | 0, _ | 1, _ | 2, _ =>
    cases h
    decide

theorem circle_followed : Steady (Script.machine 2) circle 0 ∧
    IsTrail (link? circle) 0 [0, 1, 2] ∧
    messages (Script.machine 2) (.ref 0) circle = .ok ["outer", "inner"] circle := by
  have hway (a : Ref) (h : OnWay circle 0 a) : a < 3 := by
    obtain rfl | ⟨b, -, hb⟩ := Relation.ReflTransGen.cases_tail h
    · decide
    · exact circle_linked hb
  have hs : Steady (Script.machine 2) circle 0 :=
    .of_speaks 0 fun a ha => ⟨_, circle_speaks a (hway a ha)⟩
  have hvisits : visits (link? circle) 4 [] 0 = [0, 1, 2] := rfl
  have hrs : IsTrail (link? circle) 0 [0, 1, 2] :=
    hvisits ▸ isTrail_visits (fun _ => lt_of_link?) (Nat.lt_succ_self 3)
  have hall : ∀ a ∈ [0, 1, 2], a < 3 := by decide
  have ht : Told (Script.machine 2) circle [0, 1, 2] ([0, 1, 2].map circleText) circle := by
    refine .of_still circleText (fun a ha => ?_) fun a ha => ?_
    · exact (circle_speaks a (hall a ha)).text 0
    · exact (circle_speaks a (hall a ha)).asked fun b hb => ⟨_, circle_speaks b (circle_linked hb)⟩
  obtain ⟨rs, htrail, ts, w', htold, hm, -⟩ := messages_follow hs
  obtain rfl := htrail.unique hrs
  obtain ⟨rfl, rfl⟩ := htold.unique ht
  have hf : firstLines ([0, 1, 2].map circleText) = ["outer", "inner"] := by decide +kernel
  exact ⟨hs, hrs, hm.trans (by rw [hf])⟩

end Exception

end LiveMarkdown
