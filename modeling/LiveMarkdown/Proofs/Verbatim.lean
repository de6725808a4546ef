import LiveMarkdown.Console.Notice
import LiveMarkdown.Proofs.Flattening
import LiveMarkdown.Proofs.Markup
import LiveMarkdown.Proofs.Modules

/-!
Messages on a console. A warning and an error are printed as they are, whatever the message is. The
markup of a line of information is read, and the events of a run are such lines, so the name of an input
that holds markup is printed in another way, or stops the event.
-/

namespace LiveMarkdown

open Script (Machine Value Run World Ref)

namespace Script

section Shown

variable {m : Machine} {w : World}

theorem Iteration.truth_str (t : String) : Iteration.truth m (.str t) w = .ok (t != "") w := by
  have hl : Iteration.length? m (.str t) w = .ok (some t.length) w := rfl
  have ht : ((t.length : Int) != 0) = (t != "") := by
    rw [Bool.eq_iff_iff]
    simp
  have hs : Kind.special? (.str t) "__bool__" w = .ok none w := rfl
  unfold Iteration.truth
  rw [bind_of_ok hs]
  dsimp only
  rw [bind_of_ok hl, ← ht]
  rfl

/-- An integer is written in digits up to the limit. -/
theorem Show.int_eq {n : Int} (h : n.natAbs < 10 ^ digitLimit) : Show.int n w = .ok (toString n) w := by
  have hlen : ¬ digitLimit < (toString n).length - (if n < 0 then 1 else 0) := by
    have hr : (Nat.repr n.natAbs).length ≤ digitLimit :=
      Nat.repr_length _ _ (by decide) h
    rw [not_lt]
    cases n with
    | ofNat k =>
      have hl : (toString (Int.ofNat k)).length = k.repr.length := rfl
      rw [hl]
      exact (Nat.sub_le _ _).trans hr
    | negSucc k =>
      have hl : (toString (Int.negSucc k)).length = (k + 1).repr.length + 1 := by
        have ht : toString (Int.negSucc k) = "-" ++ (k + 1).repr := rfl
        rw [ht, String.length_append]
        exact Nat.add_comm 1 _
      rw [hl, if_pos (Int.negSucc_lt_zero k)]
      exact hr
  unfold Show.int
  split
  · rfl
  · dsimp only
    rw [if_neg hlen]
    rfl

/-- In no particular form a value is its text. -/
theorem Format.value_text {v : Value} (h : Kind.special? v "__format__" w = .ok none w) :
    Format.value m v "" w = m.text v w := by
  have he : ("" == "") = true := rfl
  unfold Format.value
  rw [bind_of_ok h]
  dsimp only
  rw [if_pos he]

theorem Format.value_int (d : Nat) {n : Int} (h : n.natAbs < 10 ^ Show.digitLimit) :
    Format.value (machine (d + 2)) (.int n) "" w = .ok (toString n) w := by
  rw [Format.value_text rfl, Show.text_int, Show.int_eq h]

theorem Format.value_str (d : Nat) (t : String) :
    Format.value (machine (d + 1)) (.str t) "" w = .ok t w :=
  (Format.value_text rfl).trans (Show.text_str d t w)

theorem Comparison.compare_int (d : Nat) (a b : Int) :
    (machine (d + 1)).compare .eq (.int a) (.int b) w = .ok (.bool (a == b)) w := by
  have ho : askedBoth (machine d) .eq (.int a) (.int b) w = .ok none w := rfl
  have he : Arithmetic.equal? (.int a) (.int b) = some (a == b) := by
    unfold Arithmetic.equal?
    simp [Arithmetic.isReal, Arithmetic.order?, Arithmetic.infinity?, Arithmetic.quotient?]
  have hb : builtinEqual (machine d) (.int a) (.int b) w = .ok (some (a == b)) w := by
    unfold builtinEqual
    rw [he]
    rfl
  change apply (machine d) .eq (.int a) (.int b) w = _
  unfold apply
  dsimp only
  rw [bind_of_ok ho]
  dsimp only
  rw [bind_of_ok (basic_scalar rfl), bind_of_ok (basic_scalar rfl), bind_of_ok hb]
  rfl

end Shown

section Get

variable {r : Ref} {w : World} {es : Array (Value × Value)}

/-- The search for a text among scalars ends at the first entry with it. -/
theorem Comparison.findKey_text (d : Nat) (hs : ScalarKeys es) (t : String) :
    (findKey (machine (d + 1)) es (.str t) w = .ok none w ∧ Space.lookup es t = none) ∨
      ∃ i e, findKey (machine (d + 1)) es (.str t) w = .ok (some i) w ∧ es[i]? = some e ∧
        Space.lookup es t = some e.2 := by
  have hf : findKey (machine (d + 1)) es (.str t) w =
      .ok (es.toList.findIdx? fun e => Space.isName t e.1) w :=
    findKey_eq fun e he => keyEqual_text d (hs e he) t
  have hl : Space.lookup es t =
      ((es.toList.findIdx? fun e => Space.isName t e.1).bind fun i => es[i]?).map (·.2) := by
    unfold Space.lookup
    rw [← Array.find?_toList, List.find?_eq_bind_findIdx?_getElem?]
    simp only [Array.getElem?_toList]
  cases hi : es.toList.findIdx? fun e => Space.isName t e.1 with
  | none =>
    rw [hi] at hf hl
    exact .inl ⟨hf, hl⟩
  | some i =>
    obtain ⟨hlt, -⟩ := List.findIdx?_eq_some_iff_getElem.mp hi
    have he : es[i]? = some es.toList[i] := by
      rw [← Array.getElem?_toList, List.getElem?_eq_getElem hlt]
    rw [hi] at hf hl
    refine .inr ⟨i, _, hf, he, ?_⟩
    rw [hl, Option.bind_some, he]
    rfl

/-- What a dictionary with scalars for its keys answers for a text, if it is told what to answer where
there is none. -/
theorem DictMethod.get_or (d : Nat) (hs : ScalarKeys es) (t : String) (v : Value) :
    call (machine (d + 1)) r es "get" ⟨[.str t, v], []⟩ w = .ok ((Space.lookup es t).getD v) w := by
  obtain ⟨hf, hl⟩ | ⟨i, e, hf, he, hl⟩ := Comparison.findKey_text (w := w) d hs t
  · rw [hl]
    exact (bind_of_ok hf).trans rfl
  · rw [hl]
    refine (bind_of_ok hf).trans ?_
    dsimp only
    rw [he]
    rfl

theorem Subscript.get_dict (d : Nat) (h : w.heap[r]? = some (.dict es)) (hs : ScalarKeys es)
    {t : String} {v : Value} (hv : Space.lookup es t = some v) :
    get (machine (d + 1)) (.ref r) (.str t) w = .ok v w := by
  obtain ⟨-, hl⟩ | ⟨i, e, hf, he, hl⟩ := Comparison.findKey_text (w := w) d hs t
  · rw [hv] at hl
    cases hl
  have hb : Kind.basic (.ref r) w = .ok (.ref r) w := Kind.core_dict h
  have hsame : (Value.ref r).same (.ref r) = true := by
    simp [Value.same]
  have ho : ofObject (machine (d + 1)) (.ref r) (.dict es) (.str t) w = .ok v w := by
    refine (bind_of_ok hf).trans ?_
    dsimp only
    rw [he]
    rw [hv] at hl
    exact congrArg (EStateM.Result.ok · w) (Option.some.inj hl).symm
  unfold get
  rw [bind_of_ok (Kind.special?_dict h _)]
  dsimp only
  rw [bind_of_ok hb]
  dsimp only
  rw [bind_of_ok (Run.deref_of h), hsame]
  exact ho

end Get

end Script

theorem filterMapM_of_ok {α β : Type} {w : World} {f : α → Run (Option β)} {g : α → Option β}
    {l : List α} (h : ∀ a ∈ l, f a w = .ok (g a) w) : l.filterMapM f w = .ok (l.filterMap g) w := by
  induction l with
  | nil => rfl
  | cons a l ih =>
    have hl := ih fun b hb => h b (List.mem_cons_of_mem a hb)
    rw [List.filterMapM_cons, bind_of_ok (h a List.mem_cons_self)]
    cases ha : g a with
    | none =>
      rw [List.filterMap_cons_none ha]
      exact hl
    | some b =>
      rw [List.filterMap_cons_some ha]
      exact (bind_of_ok hl).trans rfl

namespace Report

/-- A number with a noun. -/
def numbered (n : Int) (noun : String) : String :=
  toString n ++ " " ++ if n = 1 then noun else noun ++ "s"

/-- The name of an input, or what stands for it. -/
def inputOr (input : String) : String := if input = "" then "<input>" else input

/-- The number of an outcome in a line about a run, unless it is zero. -/
def outcome? (number : String → Int) (key : String) : Option String :=
  if number key = 0 then none else some (toString (number key) ++ " " ++ key)

/-- The numbers that a line about a run tells in brackets. -/
def countsOf (number : String → Int) : List String :=
  ["substituted", "removed", "unchanged"].filterMap (outcome? number) ++
    if number "warnings" = 0 then [] else [numbered (number "warnings") "warning"]

/-- The line about a run with an input and with numbers. -/
def runLine (input : String) (number : String → Int) : String :=
  let summary := "Processed " ++ numbered (number "fragments") "fragment" ++ " in " ++ inputOr input
  if (countsOf number).isEmpty then summary
  else summary ++ " (" ++ ", ".intercalate (countsOf number) ++ ")"

/-- The line about a document that was passed over because of a key. -/
def skipLine (input key : String) : String :=
  "Skipping " ++ inputOr input ++ ": front matter does not set '" ++ key ++ ": true'"

/-- The keys of the numbers in the payload of a run. -/
def runKeys : List String := ["substituted", "removed", "unchanged", "warnings", "fragments"]

/-- The entries of the payload of a run, which name an input and give numbers. What is left out is no
name, or zero. -/
structure TellsRun (es : Array (Value × Value)) (input : String) (number : String → Int) : Prop where
  scalars : Script.ScalarKeys es
  named : (Script.Space.lookup es "input").getD (.str "") = .str input
  counted : ∀ key ∈ runKeys,
    (Script.Space.lookup es key).getD (.int 0) = .int (number key)
  written : ∀ key, (number key).natAbs < 10 ^ Script.Show.digitLimit

/-- The entries of the payload of a document that was passed over. -/
structure TellsSkip (es : Array (Value × Value)) (input key : String) : Prop where
  scalars : Script.ScalarKeys es
  named : (Script.Space.lookup es "input").getD (.str "") = .str input
  keyed : Script.Space.lookup es "key" = some (.str key)

section Lines

variable {r : Ref} {w : World} {es : Array (Value × Value)} {input : String}

theorem counted_int (d : Nat) {n : Int} (h : n.natAbs < 10 ^ Script.Show.digitLimit) (noun : String) :
    counted (Script.machine (d + 2)) (.int n) noun w = .ok (numbered n noun) w := by
  have ht : Script.Iteration.truth (Script.machine (d + 2)) (.bool (n == 1)) w = .ok (n == 1) w := rfl
  unfold counted numbered
  rw [bind_of_ok (Script.Comparison.compare_int (d + 1) n 1), bind_of_ok ht,
    bind_of_ok (Script.Format.value_int d h)]
  simp

theorem entry?_eq (d : Nat) (h : w.heap[r]? = some (.dict es)) (hs : Script.ScalarKeys es)
    (key : String) : entry? (Script.machine (d + 2)) (.ref r) key w =
      .ok ((Script.Space.lookup es key).getD .none) w := by
  have ha : (Script.machine (d + 2)).attr (.ref r) "get" w = .ok (.method (.ref r) "get") w :=
    Script.Attribute.get_dict h
  unfold entry?
  rw [bind_of_ok ha]
  exact (Script.Call.method_dict_get h _).trans (Script.DictMethod.get_text d hs key)

theorem orElse_named (d : Nat)
    (hn : (Script.Space.lookup es "input").getD (.str "") = .str input) :
    orElse (Script.machine (d + 1)) ((Script.Space.lookup es "input").getD .none) "<input>" w =
      .ok (inputOr input) w := by
  cases hl : Script.Space.lookup es "input" with
  | none =>
    rw [hl] at hn
    cases hn
    rfl
  | some v =>
    rw [hl] at hn
    cases hn
    unfold orElse inputOr
    rw [Option.getD_some, bind_of_ok (Script.Iteration.truth_str input)]
    by_cases hi : input = ""
    · simp [hi]
    · have hb : (input != "") = true := by simpa using hi
      rw [if_pos hb, if_neg hi, Script.Format.value_str]

/-- An entry counts as false exactly if its number is zero. -/
theorem truth_number {m : Machine} {key : String} {n : Int}
    (hn : (Script.Space.lookup es key).getD (.int 0) = .int n) :
    Script.Iteration.truth m ((Script.Space.lookup es key).getD .none) w = .ok (n != 0) w := by
  cases hl : Script.Space.lookup es key with
  | none =>
    rw [hl] at hn
    cases hn
    rfl
  | some v =>
    rw [hl] at hn
    cases hn
    rfl

theorem lookup_number {key : String} {n : Int}
    (hn : (Script.Space.lookup es key).getD (.int 0) = .int n) (h0 : n ≠ 0) :
    Script.Space.lookup es key = some (.int n) := by
  cases hl : Script.Space.lookup es key with
  | none =>
    rw [hl] at hn
    cases hn
    exact absurd rfl h0
  | some v =>
    rw [hl] at hn
    exact congrArg some hn

theorem get_number (d : Nat) (h : w.heap[r]? = some (.dict es)) {number : String → Int}
    (ht : TellsRun es input number) {key : String} (hk : key ∈ runKeys) (h0 : number key ≠ 0) :
    Script.Subscript.get (Script.machine (d + 2)) (.ref r) (.str key) w =
      .ok (.int (number key)) w :=
  Script.Subscript.get_dict (d + 1) h ht.scalars (lookup_number (ht.counted key hk) h0)

theorem outcome?_eq (d : Nat) (h : w.heap[r]? = some (.dict es)) {number : String → Int}
    (ht : TellsRun es input number) {key : String} (hk : key ∈ runKeys) :
    (do
      if ← Script.Iteration.truth (Script.machine (d + 2))
          (← entry? (Script.machine (d + 2)) (.ref r) key) then
        let v ← Script.Subscript.get (Script.machine (d + 2)) (.ref r) (.str key)
        return some ((← Script.Format.value (Script.machine (d + 2)) v "") ++ " " ++ key)
      return none : Run (Option String)) w = .ok (outcome? number key) w := by
  rw [bind_of_ok (entry?_eq d h ht.scalars key), bind_of_ok (truth_number (ht.counted key hk))]
  unfold outcome?
  by_cases h0 : number key = 0
  · simp [h0]
  · have hb : (number key != 0) = true := by simp [h0]
    rw [if_pos hb, bind_of_ok (get_number d h ht hk h0),
      bind_of_ok (Script.Format.value_int d (ht.written key)), if_neg h0]
    rfl

/-- The line about a run holds the name of the input and the numbers as they are. -/
theorem describeRun_eq (d : Nat) (h : w.heap[r]? = some (.dict es)) {number : String → Int}
    (ht : TellsRun es input number) :
    describeRun (Script.machine (d + 2)) (.ref r) w = .ok (runLine input number) w := by
  have hkeys : ∀ key ∈ ["substituted", "removed", "unchanged"], key ∈ runKeys := by
    decide
  have houtcomes := filterMapM_of_ok fun key hk => outcome?_eq d h ht (hkeys key hk)
  have hwarned : "warnings" ∈ runKeys := by decide
  have hw : Script.Iteration.truth (Script.machine (d + 2))
      ((Script.Space.lookup es "warnings").getD .none) w = .ok (number "warnings" != 0) w :=
    truth_number (ht.counted _ hwarned)
  have ha : (Script.machine (d + 2)).attr (.ref r) "get" w = .ok (.method (.ref r) "get") w :=
    Script.Attribute.get_dict h
  have hf : (Script.machine (d + 2)).call (.method (.ref r) "get") [.str "fragments", .int 0] w =
      .ok (.int (number "fragments")) w := by
    rw [← ht.counted "fragments" (by decide)]
    exact (Script.Call.method_dict_get h _).trans (Script.DictMethod.get_or d ht.scalars _ _)
  have hc := counted_int (w := w) d (ht.written "fragments") "fragment"
  have hi := entry?_eq d h ht.scalars "input"
  have ho := orElse_named (w := w) (d + 1) ht.named
  -- both ends of the line follow the same way, with the warnings among the counts or without them
  unfold describeRun
  dsimp only
  rw [bind_of_ok houtcomes, bind_of_ok (entry?_eq d h ht.scalars "warnings"), bind_of_ok hw]
  by_cases h0 : number "warnings" = 0
  · have hb : ¬ (number "warnings" != 0) = true := by simp [h0]
    rw [if_neg hb, pure_bind, bind_of_ok ha, bind_of_ok hf, bind_of_ok hc, bind_of_ok hi,
      bind_of_ok ho, runLine, countsOf, if_pos h0, List.append_nil]
    rfl
  · have hb : (number "warnings" != 0) = true := by simp [h0]
    have hn := counted_int (w := w) d (ht.written "warnings") "warning"
    rw [if_pos hb, bind_of_ok (get_number d h ht hwarned h0), bind_of_ok hn, pure_bind,
      bind_of_ok ha, bind_of_ok hf, bind_of_ok hc, bind_of_ok hi, bind_of_ok ho, runLine, countsOf,
      if_neg h0]
    rfl

theorem describeSkip_eq (d : Nat) (h : w.heap[r]? = some (.dict es)) {key : String}
    (ht : TellsSkip es input key) :
    describeSkip (Script.machine (d + 2)) (.ref r) w = .ok (skipLine input key) w := by
  have hf : Script.Format.value (Script.machine (d + 2)) (.str key) "" w = .ok key w :=
    Script.Format.value_str (d + 1) key
  unfold describeSkip
  rw [bind_of_ok (entry?_eq d h ht.scalars "input"), bind_of_ok (orElse_named (d + 1) ht.named),
    bind_of_ok (entry?_eq d h ht.scalars "key"), ht.keyed, Option.getD_some, bind_of_ok hf]
  rfl

end Lines

/-! ### The line about a run holds no markup of its own -/

open Console (Unmarked Literal)

theorem unmarked_numbered (n : Int) {noun : String} (h : Unmarked noun.toList) :
    Unmarked (numbered n noun).toList := by
  have hb : Unmarked " ".toList := by simp [Unmarked]
  have hs : Unmarked "s".toList := by simp [Unmarked]
  have hn : Unmarked (if n = 1 then noun else noun ++ "s").toList := by
    split
    · exact h
    · rw [String.toList_append]
      exact h.append hs
  unfold numbered
  simp only [String.toList_append]
  exact ((Console.unmarked_int n).append hb).append hn

theorem unmarked_intercalate {ss : List String} (h : ∀ s ∈ ss, Unmarked s.toList) :
    Unmarked (", ".intercalate ss).toList := by
  have hc : Unmarked ", ".toList := by simp [Unmarked]
  induction ss with
  | nil => simp [Unmarked]
  | cons s ss ih =>
    have hs : Unmarked s.toList := h s List.mem_cons_self
    have hss := ih fun t ht => h t (List.mem_cons_of_mem s ht)
    cases ss with
    | nil => simpa using hs
    | cons t ss =>
      rw [String.intercalate_cons_of_ne_nil (by simp)]
      simp only [String.toList_append]
      exact (hs.append hc).append hss

theorem unmarked_countsOf (number : String → Int) : ∀ s ∈ countsOf number, Unmarked s.toList := by
  intro s hs
  rcases List.mem_append.mp hs with hs | hs
  · obtain ⟨key, hk, hs⟩ := List.mem_filterMap.mp hs
    unfold outcome? at hs
    split at hs
    · cases hs
    · cases hs
      have hb : Unmarked " ".toList := by simp [Unmarked]
      have hkey : Unmarked key.toList := by
        simp only [List.mem_cons, List.not_mem_nil, or_false] at hk
        rcases hk with rfl | rfl | rfl <;> simp [Unmarked]
      simp only [String.toList_append]
      exact ((Console.unmarked_int _).append hb).append hkey
  · split at hs
    · cases hs
    · rw [List.mem_singleton.mp hs]
      exact unmarked_numbered _ (by simp [Unmarked])

/-- The line about a run holds no markup if the name of its input holds none. -/
theorem runLine_literal {input : String} (h : Literal input.toList) (number : String → Int) :
    Literal (runLine input number).toList := by
  have hi : Literal (inputOr input).toList := by
    unfold inputOr
    split
    · exact Unmarked.literal (by simp [Unmarked])
    · exact h
  have hfront : Unmarked
      ("Processed " ++ numbered (number "fragments") "fragment" ++ " in ").toList := by
    have hp : Unmarked "Processed ".toList := by simp [Unmarked]
    have hin : Unmarked " in ".toList := by simp [Unmarked]
    simp only [String.toList_append]
    exact (hp.append (unmarked_numbered _ (by simp [Unmarked]))).append hin
  have hopen : Unmarked " (".toList := by simp [Unmarked]
  have hclose : Unmarked ")".toList := by simp [Unmarked]
  have hcounts := unmarked_intercalate (unmarked_countsOf number)
  unfold runLine
  dsimp only
  split
  · have hs := Literal.surround hfront hi (b := []) fun c hc => absurd hc List.not_mem_nil
    rwa [List.append_nil, ← String.toList_append] at hs
  · have hs := Literal.surround hfront hi ((hopen.append hcounts).append hclose)
    rw [← String.toList_append, ← String.toList_append, ← String.toList_append,
      ← String.toList_append] at hs
    simpa only [String.append_assoc] using hs

end Report

namespace DocumentRun

/-- The entries of the payload that a run sends with its event. -/
def payload (run : DocumentRun) : Array (Value × Value) :=
  (run.summary.map fun e => (Value.str e.1, e.2)).toArray

/-- The numbers of a run by their keys. -/
def number (run : DocumentRun) (key : String) : Int :=
  match key with
  | "fragments" => run.results.length
  | "substituted" => run.count isSubstituted
  | "removed" => run.count isRemoved
  | "unchanged" => run.count isUnchanged
  | "warnings" => run.warnings.length
  | _ => 0

theorem natAbs_number_le (run : DocumentRun) (key : String) :
    (run.number key).natAbs ≤ run.results.length := by
  have hcount (p : Outcome → Bool) : run.count p ≤ run.results.length := List.countP_le_length
  have hwarnings : run.warnings.length ≤ run.results.length := List.length_filterMap_le _ _
  unfold number
  split
  · exact Nat.le_refl _
  · exact hcount isSubstituted
  · exact hcount isRemoved
  · exact hcount isUnchanged
  · exact hwarnings
  · exact Nat.zero_le _

/-- The event of a run tells its input and its numbers. -/
theorem payload_tells {run : DocumentRun}
    (h : run.results.length < 10 ^ Script.Show.digitLimit) :
    Report.TellsRun run.payload run.inputName run.number := by
  refine ⟨fun e he => ?_, ?_, fun key hk => ?_, fun key => (run.natAbs_number_le key).trans_lt h⟩
  · obtain ⟨f, -, rfl⟩ := List.mem_map.mp (List.mem_toArray.mp he)
    rfl
  · simp [payload, summary, Script.Space.lookup, Script.Space.isName]
  · simp only [Report.runKeys, List.mem_cons, List.not_mem_nil, or_false] at hk
    rcases hk with rfl | rfl | rfl | rfl | rfl <;>
      simp [payload, summary, number, Script.Space.lookup, Script.Space.isName]

end DocumentRun

namespace Console

/-! ### Lines -/

/-- What the exception behind a line tells below it. -/
def causesOf (m : Machine) (s : Settings) (e : Option Value) : Run (List String) :=
  match e with
  | some e => if 1 ≤ s.verbosity then Exception.messages m e else pure []
  | none => pure []

/-- The exception that is printed below a warning, if exceptions are printed. -/
def printedBelow (m : Machine) (s : Settings) (e : Option Value) : Run String :=
  match e with
  | some e => if s.debug then Screen.exceptionChain m 64 e else pure ""
  | none => pure ""

/-- A message behind a label, and the causes below it that it does not hold. -/
def lineOf (label message : String) (causes : List String) : String :=
  label ++ ": " ++ message ++ String.join
    ((causes.filter fun cause => !Text.occursIn cause message).map ("\n  caused by: " ++ ·))

/-- A message is refused because of its markup: a new exception says so. -/
def Refused (x : Run String) (w : World) : Prop :=
  ∃ e why context w', x w = .error (.raised (.ref e)) w' ∧ w'.heap[e]? =
    some (.exception (.type "MarkupError") [.str why] none context false #[])

section Messages

variable {m : Machine} {s : Settings} {message : String} {w : World}

theorem labelled_eq (label message : String) (e : Option Value) :
    Screen.labelled m s label message e = (do
      return shown (lineOf label message (← causesOf m s e)) ++ "\n") := by
  cases e with
  | none => rfl
  | some e =>
    unfold Screen.labelled causesOf
    by_cases hv : 1 ≤ s.verbosity
    · simp [hv, lineOf]
    · simp [hv, lineOf]

theorem warning_eq (message : String) (e : Option Value) : Screen.warning m s message e = (do
    let causes ← causesOf m s e
    return shown (lineOf "warning" message causes) ++ "\n" ++ (← printedBelow m s e)) := by
  unfold Screen.warning
  rw [labelled_eq]
  cases e with
  | none => simp [causesOf, printedBelow]
  | some e =>
    by_cases hd : s.debug = true
    · simp [printedBelow, hd]
    · simp [printedBelow, hd]

theorem lineOf_nil (label message : String) : lineOf label message [] = label ++ ": " ++ message := by
  simp [lineOf]

theorem info_of_plain {text : String} (h : plain message = .ok text) :
    Screen.info message w = .ok (shown text ++ "\n") w := by
  unfold Screen.info
  rw [h]
  rfl

theorem info_refused {fault : MarkupFault} (h : plain message = .error fault) :
    Refused (Screen.info message) w := by
  -- two exceptions are made: the one that is being handled, and the one that tells of the markup
  let o : Script.Object := .exception (.type fault.context.1) [.str fault.context.2] none none false #[]
  let w₁ : World := { w with heap := w.heap.push o }
  let o' : Script.Object :=
    .exception (.type "MarkupError") [.str fault.message] none (some (.ref w.heap.size)) false #[]
  let w₂ : World := { w₁ with heap := w₁.heap.push o' }
  have hn : Run.new o w = .ok (.ref w.heap.size) w₁ := rfl
  have hn' : Run.new o' w₁ = .ok (.ref w₁.heap.size) w₂ := rfl
  have ho : w₂.heap[w₁.heap.size]? = some o' := by simp [w₂]
  obtain ⟨w', ht, hr⟩ := Run.throwValue_apply (.ref w₁.heap.size) w₂
  obtain ⟨context, hc⟩ := hr.exception ho
  refine ⟨w₁.heap.size, fault.message, context, w', ?_, hc⟩
  unfold Screen.info
  rw [h]
  dsimp only
  exact (bind_of_ok hn).trans ((bind_of_ok hn').trans (ht String))

theorem info_literal (h : Literal message.toList) :
    Screen.info message w = .ok (shown message ++ "\n") w :=
  info_of_plain (plain_literal h)

/-- The event of a run is its line as a line of information. -/
theorem event_run (d : Nat) {r : Ref} {es : Array (Value × Value)} {input : String}
    {number : String → Int} (hv : s.verbosity ≠ 0) (h : w.heap[r]? = some (.dict es))
    (ht : Report.TellsRun es input number) :
    Screen.event (Script.machine (d + 2)) s "fragment_run" (.ref r) w =
      Screen.info (Report.runLine input number) w := by
  have hm : Report.message? (Script.machine (d + 2)) "fragment_run" (.ref r) w =
      .ok (some (Report.runLine input number)) w := bind_of_ok (Report.describeRun_eq d h ht)
  unfold Screen.event
  rw [if_neg hv, bind_of_ok hm]

theorem event_skip (d : Nat) {r : Ref} {es : Array (Value × Value)} {input key : String}
    (hv : s.verbosity ≠ 0) (h : w.heap[r]? = some (.dict es)) (ht : Report.TellsSkip es input key) :
    Screen.event (Script.machine (d + 2)) s "fragment_run_skipped" (.ref r) w =
      Screen.info (Report.skipLine input key) w := by
  have hm : Report.message? (Script.machine (d + 2)) "fragment_run_skipped" (.ref r) w =
      .ok (some (Report.skipLine input key)) w := bind_of_ok (Report.describeSkip_eq d h ht)
  unfold Screen.event
  rw [if_neg hv, bind_of_ok hm]

/-- A message with one tag, and no other markup: a tag that opens is left out, and one that closes is
refused. -/
theorem info_tag {c : Char} {pre inner post : List Char} (hp : Literal pre)
    (hl : pre.getLast? ≠ some '\\') (hi : IsTag c inner) (hq : Literal post)
    (hs : message.toList = pre ++ tagThen c inner post) :
    if c = '/' then Refused (Screen.info message) w
    else Screen.info message w = .ok (shown (String.ofList (pre ++ post)) ++ "\n") w := by
  split
  · next hc =>
    subst hc
    obtain ⟨fault, hf⟩ := plain_closes hp.untagged hl hi hs
    exact info_refused hf
  · next hc => exact info_of_plain (plain_opens hp hl hi hc hq hs)

end Messages

/-- A host prints a warning and an error as they are, whatever the message is; only the exception behind
it is asked. The markup of a line of information is read, so the line is printed as it is if it holds
none, a message with a tag that opens loses the tag, and one with a tag that closes is refused. The
events of a run are lines of information about the name of its input and its numbers. -/
theorem messages_settle (d : Nat) (s : Settings) :
    -- warnings and errors
    (∀ message e, Screen.error (Script.machine d) s message e = (do
      return shown (lineOf "error" message (← causesOf (Script.machine d) s e)) ++ "\n")) ∧
    (∀ message e, Screen.warning (Script.machine d) s message e = (do
      let causes ← causesOf (Script.machine d) s e
      return shown (lineOf "warning" message causes) ++ "\n" ++
        (← printedBelow (Script.machine d) s e))) ∧
    (∀ message w, Screen.error (Script.machine d) s message none w =
        .ok (shown ("error: " ++ message) ++ "\n") w ∧
      Screen.warning (Script.machine d) s message none w =
        .ok (shown ("warning: " ++ message) ++ "\n") w) ∧
    -- information
    (∀ message w, Literal message.toList → Screen.info message w = .ok (shown message ++ "\n") w) ∧
    (∀ message w, Unclosed message.toList → ∃ text, Screen.info message w = .ok text w) ∧
    (∀ message c pre inner post w, Literal pre → pre.getLast? ≠ some '\\' → IsTag c inner →
      Literal post → message.toList = pre ++ tagThen c inner post →
      if c = '/' then Refused (Screen.info message) w
      else Screen.info message w = .ok (shown (String.ofList (pre ++ post)) ++ "\n") w) ∧
    -- events
    (∀ r es input number w, s.verbosity ≠ 0 → w.heap[r]? = some (.dict es) →
      Report.TellsRun es input number →
      Screen.event (Script.machine (d + 2)) s "fragment_run" (.ref r) w =
          Screen.info (Report.runLine input number) w ∧
        (Literal input.toList → Screen.event (Script.machine (d + 2)) s "fragment_run" (.ref r) w =
          .ok (shown (Report.runLine input number) ++ "\n") w)) ∧
    (∀ r (run : DocumentRun) w, s.verbosity ≠ 0 → w.heap[r]? = some (.dict run.payload) →
      run.results.length < 10 ^ Script.Show.digitLimit →
      Screen.event (Script.machine (d + 2)) s "fragment_run" (.ref r) w =
        Screen.info (Report.runLine run.inputName run.number) w) ∧
    (∀ r es input key w, s.verbosity ≠ 0 → w.heap[r]? = some (.dict es) →
      Report.TellsSkip es input key →
      Screen.event (Script.machine (d + 2)) s "fragment_run_skipped" (.ref r) w =
        Screen.info (Report.skipLine input key) w) ∧
    -- what a console shows of a line
    ∀ text, shown text = text ↔ Legible text.toList := by
  have hnone : causesOf (Script.machine d) s none = pure [] := rfl
  refine ⟨fun message e => labelled_eq "error" message e, warning_eq, fun message w => ⟨?_, ?_⟩,
    fun message w => info_literal, fun message w hu => ?_,
    fun message c pre inner post w => info_tag, fun r es input number w hv h ht => ?_,
    fun r run w hv h hn => event_run d hv h (DocumentRun.payload_tells hn),
    fun r es input key w hv h ht => event_skip d hv h ht, shown_eq_self_iff⟩
  · unfold Screen.error
    rw [labelled_eq, hnone, pure_bind, lineOf_nil]
    rfl
  · rw [warning_eq, hnone, pure_bind, lineOf_nil]
    exact congrArg (EStateM.Result.ok · w) (String.append_empty ..)
  · obtain ⟨text, ht⟩ := plain_unclosed hu
    exact ⟨_, info_of_plain ht⟩
  · have he := event_run d hv h ht
    exact ⟨he, fun hl => he.trans (info_literal (Report.runLine_literal hl number))⟩

/-- The entries of the payload of a run with one fragment. -/
def oneFragment (input : String) : Array (Value × Value) :=
  #[(.str "input", .str input), (.str "fragments", .int 1)]

def numberOfOne (key : String) : Int := if key = "fragments" then 1 else 0

theorem oneFragment_tells (input : String) :
    Report.TellsRun (oneFragment input) input numberOfOne := by
  refine ⟨(Script.ScalarKeys.empty.push rfl).push rfl, ?_, ?_, fun key => ?_⟩
  · simp [oneFragment, Script.Space.lookup, Script.Space.isName]
  · simp [Report.runKeys, oneFragment, numberOfOne, Script.Space.lookup, Script.Space.isName]
  · have h1 : 1 < 10 ^ Script.Show.digitLimit := Nat.one_lt_pow (by decide) (by decide)
    unfold numberOfOne
    split
    · exact h1
    · exact Nat.zero_lt_of_lt h1

theorem runLine_oneFragment {input : String} (h : input ≠ "") :
    Report.runLine input numberOfOne = "Processed 1 fragment in " ++ input := by
  have hn : Report.numbered 1 "fragment" = "1 fragment" := rfl
  simp [Report.runLine, Report.countsOf, Report.outcome?, Report.inputOr, numberOfOne, h, hn]

/-- The name of an input in brackets is left out of the line of a run, and one with a slash in brackets
stops the run. -/
theorem bracketedInput_altered :
    Report.runLine "[draft] notes.md" numberOfOne = "Processed 1 fragment in [draft] notes.md" ∧
    Screen.event (Script.machine 2) { verbosity := 1 } "fragment_run" (.ref 0)
        { heap := #[.dict (oneFragment "[draft] notes.md")] } =
      .ok "Processed 1 fragment in  notes.md\n"
        { heap := #[.dict (oneFragment "[draft] notes.md")] } ∧
    Refused (Screen.event (Script.machine 2) { verbosity := 1 } "fragment_run" (.ref 0))
      { heap := #[.dict (oneFragment "notes[/draft].md")] } := by
  have hopens (w : World) : Screen.info "Processed 1 fragment in [draft] notes.md" w =
      .ok "Processed 1 fragment in  notes.md\n" w := by
    have hp : Literal "Processed 1 fragment in ".toList := Unmarked.literal (by simp [Unmarked])
    have hl : "Processed 1 fragment in ".toList.getLast? ≠ some '\\' := by simp
    have hi : IsTag 'd' "raft".toList := ⟨by decide, by simp, by simp⟩
    have hq : Literal " notes.md".toList := Unmarked.literal (by simp [Unmarked])
    have hs : "Processed 1 fragment in [draft] notes.md".toList =
        "Processed 1 fragment in ".toList ++ tagThen 'd' "raft".toList " notes.md".toList := by
      simp [tagThen]
    have ht := info_tag (w := w) hp hl hi hq hs
    have hshown : shown (String.ofList ("Processed 1 fragment in ".toList ++ " notes.md".toList)) ++
        "\n" = "Processed 1 fragment in  notes.md\n" := by
      decide +kernel
    rwa [if_neg (by decide), hshown] at ht
  have hcloses (w : World) :
      Refused (Screen.info "Processed 1 fragment in notes[/draft].md") w := by
    have hp : Literal "Processed 1 fragment in notes".toList := Unmarked.literal (by simp [Unmarked])
    have hl : "Processed 1 fragment in notes".toList.getLast? ≠ some '\\' := by simp
    have hi : IsTag '/' "draft".toList := ⟨by decide, by simp, by simp⟩
    have hq : Literal ".md".toList := Unmarked.literal (by simp [Unmarked])
    have hs : "Processed 1 fragment in notes[/draft].md".toList =
        "Processed 1 fragment in notes".toList ++ tagThen '/' "draft".toList ".md".toList := by
      simp [tagThen]
    have ht := info_tag (w := w) hp hl hi hq hs
    rwa [if_pos rfl] at ht
  refine ⟨runLine_oneFragment (by simp), ?_, ?_⟩
  · rw [event_run 0 (by simp) rfl (oneFragment_tells _), runLine_oneFragment (by simp)]
    exact hopens _
  · obtain ⟨e, why, context, w', hx, hc⟩ :=
      hcloses { heap := #[.dict (oneFragment "notes[/draft].md")] }
    refine ⟨e, why, context, w', ?_, hc⟩
    rw [event_run 0 (by simp) rfl (oneFragment_tells _), runLine_oneFragment (by simp)]
    exact hx

end Console

end LiveMarkdown
