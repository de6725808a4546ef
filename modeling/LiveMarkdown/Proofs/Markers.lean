import LiveMarkdown.Fragment.Config
import LiveMarkdown.Proofs.Extensions
import LiveMarkdown.Proofs.Newlines
import LiveMarkdown.Proofs.Switch

/-!
The classes that mark code, as they are given in the settings: a text with commas, or a list. What is
kept is a normal form, which does not depend on how the classes were given.
-/

namespace LiveMarkdown

open Script (Value World Machine Ref Run)

namespace Text

variable {α : Type} {p : α → Bool} {cs : List α} {s : String}

theorem dropWhile_dropLastWhile (h : cs.dropWhile p = cs) :
    (dropLastWhile p cs).dropWhile p = dropLastWhile p cs := by
  cases hd : dropLastWhile p cs with
  | nil => rfl
  | cons c ds =>
    have hp : c :: ds <+: cs := hd ▸ List.rdropWhile_prefix p cs
    obtain ⟨rest, rfl⟩ := hp
    cases hc : p c with
    | false => simp [hc]
    | true =>
      -- the whole list begins with what is dropped at its start
      have hl := congrArg List.length h
      have hle := (ds ++ rest).length_dropWhile_le p
      simp only [List.cons_append, List.dropWhile_cons, hc, if_true, List.length_cons] at hl
      omega

theorem trim_trim (p : α → Bool) (cs : List α) : trim p (trim p cs) = trim p cs := by
  have h : (cs.dropWhile p).dropWhile p = cs.dropWhile p := List.dropWhile_idempotent p cs
  unfold trim
  rw [dropWhile_dropLastWhile h]
  exact List.rdropWhile_idempotent p _

theorem trim_eq_nil : trim p cs = [] ↔ ∀ c ∈ cs, p c = true := by
  unfold trim
  rw [show dropLastWhile p (cs.dropWhile p) = (cs.dropWhile p).rdropWhile p from rfl,
    List.rdropWhile_eq_nil_iff]
  constructor
  · intro h c hc
    rw [← List.takeWhile_append_dropWhile (p := p) (l := cs)] at hc
    rcases List.mem_append.mp hc with hc | hc
    · exact List.mem_takeWhile_imp hc
    · exact h c hc
  · exact fun h c hc => h c ((List.dropWhile_sublist p).mem hc)

theorem strip_strip (s : String) : strip (strip s) = strip s := by
  unfold strip
  rw [String.toList_ofList, trim_trim]

theorem strip_eq_empty : strip s = "" ↔ ∀ c ∈ s.toList, isBlank c = true := by
  rw [← trim_eq_nil, ← String.toList_inj, strip, String.toList_ofList, String.toList_empty]

end Text

theorem Firsts.self {α κ : Type} [DecidableEq κ] {key : α → κ} {all : List α}
    (h : (all.map key).Nodup) : Firsts key (fun _ => True) all all := by
  induction all using List.reverseRecOn with
  | nil => exact .nil
  | append_singleton all a ih =>
    rw [List.map_append, List.map_singleton, List.nodup_append] at h
    exact (ih h.1).add trivial fun ha => h.2.2 _ ha _ (List.mem_singleton_self _) rfl

namespace Config

variable {entries classes all seen : List String}

/-- Entries that can be read as classes: there is one, and none is blank. -/
def Acceptable (entries : List String) : Prop :=
  entries ≠ [] ∧ ∀ e ∈ entries, ∃ c ∈ e.toList, Text.isBlank c = false

/-- The classes of some entries: each entry without the blanks around it, at its first place. -/
def ClassesOf (entries classes : List String) : Prop :=
  Firsts id (fun _ => True) (entries.map Text.strip) classes

theorem strip_ne_empty {e : String} :
    Text.strip e ≠ "" ↔ ∃ c ∈ e.toList, Text.isBlank c = false := by
  rw [ne_eq, Text.strip_eq_empty]
  simp

/-- The loop over the entries keeps the classes of those behind it. -/
theorem go_ok (h : ∀ e ∈ entries, Text.strip e ≠ "")
    (hs : Firsts id (fun _ => True) all seen) : ∃ classes, readMarkers.go seen entries = .ok classes ∧
      Firsts id (fun _ => True) (all ++ entries.map Text.strip) classes := by
  induction entries generalizing all seen with
  | nil => exact ⟨seen, rfl, by simpa using hs⟩
  | cons e es ih =>
    obtain ⟨he, hes⟩ := List.forall_mem_cons.mp h
    have hn : Firsts id (fun _ => True) (all ++ [Text.strip e])
        (if seen.contains (Text.strip e) then seen else seen ++ [Text.strip e]) := by
      by_cases hc : Text.strip e ∈ seen
      · rw [if_pos (List.contains_iff_mem.mpr hc)]
        exact hs.skip (.inr (by simpa using hc))
      · rw [if_neg (mt List.contains_iff_mem.mp hc)]
        exact hs.add trivial (by simpa using hc)
    obtain ⟨classes, hg, hc⟩ := ih hes hn
    refine ⟨classes, ?_, by simpa using hc⟩
    rw [readMarkers.go]
    simpa [he] using hg

theorem go_refused (h : ∃ e ∈ entries, Text.strip e = "") (seen : List String) :
    readMarkers.go seen entries =
      .error (.refused "Marker classes cannot contain empty entries.") := by
  induction entries generalizing seen with
  | nil => simp at h
  | cons e es ih =>
    rw [readMarkers.go]
    by_cases he : Text.strip e = ""
    · simp [he]
    · have hes : ∃ e ∈ es, Text.strip e = "" := by simpa [he] using h
      simpa [he] using ih hes _

theorem ClassesOf.ne_nil (h : ClassesOf entries classes) (hne : entries ≠ []) : classes ≠ [] := by
  obtain ⟨e, es, rfl⟩ := List.exists_cons_of_ne_nil hne
  have hm := (h.keys (Text.strip e)).mpr ⟨by simp, trivial⟩
  rintro rfl
  simp at hm

theorem readMarkers_ok (h : Acceptable entries) :
    ∃ classes, readMarkers entries = .ok classes ∧ ClassesOf entries classes := by
  obtain ⟨classes, hg, hc⟩ := go_ok (fun e he => strip_ne_empty.mpr (h.2 e he)) .nil
  have hne : classes ≠ [] := ClassesOf.ne_nil hc h.1
  refine ⟨classes, ?_, hc⟩
  unfold readMarkers
  rw [hg]
  cases classes with
  | nil => exact absurd rfl hne
  | cons c cs => rfl

/-- Why entries are refused. -/
def refusal (entries : List String) : SettingFault :=
  .refused (if entries = [] then "At least one marker class is required."
    else "Marker classes cannot contain empty entries.")

theorem readMarkers_refused (h : ¬ Acceptable entries) :
    readMarkers entries = .error (refusal entries) := by
  by_cases hne : entries = []
  · subst hne
    rfl
  · have he : ∃ e ∈ entries, Text.strip e = "" := by
      by_contra hno
      exact h ⟨hne, fun e he => strip_ne_empty.mp fun hs => hno ⟨e, he, hs⟩⟩
    unfold readMarkers refusal
    rw [go_refused he, if_neg hne]

/-! ### The classes again -/

theorem ClassesOf.stripped (h : ClassesOf entries classes) : ∀ c ∈ classes, Text.strip c = c := by
  intro c hc
  obtain ⟨e, -, rfl⟩ := List.mem_map.mp (List.mem_of_getElem? (h.spelled c hc))
  exact Text.strip_strip e

theorem ClassesOf.nodup (h : ClassesOf entries classes) : classes.Nodup := by
  simpa using h.once

theorem ClassesOf.acceptable (h : ClassesOf entries classes) (ha : Acceptable entries) :
    Acceptable classes := by
  refine ⟨h.ne_nil ha.1, fun c hc => ?_⟩
  obtain ⟨e, he, rfl⟩ := List.mem_map.mp (List.mem_of_getElem? (h.spelled c hc))
  rw [← strip_ne_empty, Text.strip_strip]
  exact strip_ne_empty.mpr (ha.2 e he)

/-- Classes that were kept are their own classes. -/
theorem ClassesOf.again (h : ClassesOf entries classes) : ClassesOf classes classes := by
  have hs : classes.map Text.strip = classes :=
    (List.map_congr_left h.stripped).trans (List.map_id' classes)
  unfold ClassesOf
  rw [hs]
  exact .self (by simpa using h.nodup)

theorem ClassesOf.unique {classes' : List String} (h : ClassesOf entries classes)
    (h' : ClassesOf entries classes') : classes = classes' := Firsts.unique h h'

/-! ### Values -/

section Values

variable {w : World} {v : Value}

/-- The entries of a value: those between the commas of a text, or those of a list of texts. -/
inductive Lists (w : World) : Value → List String → Prop where
  | text (s : String) : Lists w (.str s) (Text.splitAt "," s)
  | tuple (entries : List String) : Lists w (.tuple (entries.map .str)) entries
  | list {r : Ref} {items : Array Value} {entries : List String} (h : w.heap[r]? = some (.list items))
      (hi : items.toList = entries.map .str) : Lists w (.ref r) entries

/-- The entries up to the first blank one. -/
def upToBlank : List String → List String
  | [] => []
  | e :: es => if Text.strip e = "" then [e] else e :: upToBlank es

theorem entryTexts_str (d : Nat) (entries : List String) (w : World) :
    entryTexts (Script.machine (d + 1)) (entries.map .str) w = .ok (upToBlank entries) w := by
  induction entries with
  | nil => rfl
  | cons e es ih =>
    rw [List.map_cons, entryTexts, bind_of_ok (Script.Show.text_str d e w), upToBlank]
    by_cases he : Text.strip e = ""
    · simp [he]
    · simp [he, map_apply, ih]

/-- Entries behind a blank one do not matter. -/
theorem readMarkers_upToBlank (entries : List String) :
    readMarkers (upToBlank entries) = readMarkers entries := by
  have hg (seen : List String) :
      readMarkers.go seen (upToBlank entries) = readMarkers.go seen entries := by
    induction entries generalizing seen with
    | nil => rfl
    | cons e es ih =>
      by_cases he : Text.strip e = ""
      · simp [upToBlank, readMarkers.go, he]
      · simp [upToBlank, readMarkers.go, he, ih]
  unfold readMarkers
  rw [hg]

theorem readMarkerValue_eq (d : Nat) (h : Lists w v entries) :
    readMarkerValue (Script.machine (d + 1)) v w = .ok (readMarkers entries) w := by
  unfold readMarkerValue
  cases h with
  | text s =>
    have hb : Script.Kind.basic (.str s) w = .ok (.str s) w := rfl
    rw [bind_of_ok hb]
    rfl
  | tuple entries =>
    have hb : Script.Kind.basic (.tuple (entries.map .str)) w =
        .ok (.tuple (entries.map .str)) w := rfl
    rw [bind_of_ok hb]
    dsimp only
    rw [bind_of_ok (entryTexts_str d entries w), readMarkers_upToBlank]
    rfl
  | @list r items entries h hi =>
    have hb : Script.Kind.basic (.ref r) w = .ok (.ref r) w := by
      change Script.Kind.core (.ref r) w = _
      unfold Script.Kind.core
      rw [bind_of_ok (Script.Run.deref_of h)]
      rfl
    rw [bind_of_ok hb]
    dsimp only
    rw [bind_of_ok (Script.Run.deref_of h)]
    dsimp only
    rw [hi, bind_of_ok (entryTexts_str d entries w), readMarkers_upToBlank]
    rfl

/-- The settings when nothing but the classes is given. -/
def withMarkers : Except SettingFault (List String) → Except (List (String × SettingFault)) Config
  | .ok markers => .ok { markers }
  | .error e => .error [("marker_classes", e)]

theorem read_markers {m : Machine} {r : Except SettingFault (List String)}
    (h : readMarkerValue m v w = .ok r w) :
    read m [("marker_classes", v)] w = .ok (withMarkers r) w := by
  have hu : List.filter (fun p : String × Value => !settingNames.contains p.1)
      [("marker_classes", v)] = [] := by
    simp [settingNames]
  unfold read
  simp only [hu, List.map_nil]
  simp only [List.find?_cons, List.find?_nil, Option.map, pure_bind]
  refine (bind_of_ok h).trans ?_
  cases r <;> rfl

theorem read_eq (d : Nat) (h : Lists w v entries) :
    read (Script.machine (d + 1)) [("marker_classes", v)] w =
      .ok (withMarkers (readMarkers entries)) w :=
  read_markers (readMarkerValue_eq d h)

/-- Entries without commas, put together with commas, are read as the entries. -/
theorem splitAt_intercalate (h : ∀ e ∈ entries, ',' ∉ e.toList) (hne : entries ≠ []) :
    Text.splitAt "," (",".intercalate entries) = entries := by
  have hs : ",".toList = [','] := by simp
  have hl : ∀ l ∈ entries.map String.toList, ',' ∉ l := by
    intro l hl
    obtain ⟨e, he, rfl⟩ := List.mem_map.mp hl
    exact h e he
  have hn : entries.map String.toList ≠ [] := by simpa using hne
  rw [Text.splitAt_singleton hs, String.toList_intercalate, hs, List.splitOn_intercalate ',' hl hn,
    List.map_map]
  simp [Function.comp_def]

/-- The text for no entries at all has one entry, which is blank. -/
theorem not_acceptable_empty : ¬ Acceptable (Text.splitAt "," (",".intercalate [])) := by
  rintro ⟨-, h⟩
  obtain ⟨c, hc, -⟩ := h "" (by decide +kernel)
  simp at hc

theorem acceptable_intercalate (h : ∀ e ∈ entries, ',' ∉ e.toList) :
    Acceptable (Text.splitAt "," (",".intercalate entries)) ↔ Acceptable entries := by
  by_cases hne : entries = []
  · subst hne
    exact ⟨fun ha => absurd ha not_acceptable_empty, fun ha => absurd rfl ha.1⟩
  · rw [splitAt_intercalate h hne]

/-- Classes that mark code are accepted if there is one and none is blank. What is kept is the list of
the stripped entries, each at its first place. It is accepted again as it is, and it is the same
whether the entries are given one by one or in a text with commas. -/
theorem read_normalises (d : Nat) (h : Lists w v entries) :
    ((∃ config w', read (Script.machine (d + 1)) [("marker_classes", v)] w = .ok (.ok config) w') ↔
      Acceptable entries) ∧
    (Acceptable entries → ∃ classes,
      read (Script.machine (d + 1)) [("marker_classes", v)] w = .ok (.ok { markers := classes }) w ∧
      ClassesOf entries classes ∧ classes ≠ [] ∧ classes.Nodup ∧
      (∀ c ∈ classes, Text.strip c = c) ∧ ∀ w' v', Lists w' v' classes →
        read (Script.machine (d + 1)) [("marker_classes", v')] w' =
          .ok (.ok { markers := classes }) w') ∧
    (¬ Acceptable entries → read (Script.machine (d + 1)) [("marker_classes", v)] w =
      .ok (.error [("marker_classes", refusal entries)]) w) ∧
    ((∀ e ∈ entries, ',' ∉ e.toList) →
      (∃ classes,
        read (Script.machine (d + 1)) [("marker_classes", v)] w = .ok (.ok { markers := classes }) w ∧
        read (Script.machine (d + 1)) [("marker_classes", .str (",".intercalate entries))] w =
          .ok (.ok { markers := classes }) w) ∨
      ∃ e e', read (Script.machine (d + 1)) [("marker_classes", v)] w =
          .ok (.error [("marker_classes", e)]) w ∧
        read (Script.machine (d + 1)) [("marker_classes", .str (",".intercalate entries))] w =
          .ok (.error [("marker_classes", e')]) w) := by
  have hr := read_eq d h
  have hj := read_eq d (Lists.text (w := w) (",".intercalate entries))
  by_cases ha : Acceptable entries
  · obtain ⟨classes, hm, hc⟩ := readMarkers_ok ha
    have hagain : readMarkers classes = .ok classes := by
      obtain ⟨classes', hm', hc'⟩ := readMarkers_ok (hc.acceptable ha)
      rw [hm', hc'.unique hc.again]
    rw [hm] at hr
    refine ⟨⟨fun _ => ha, fun _ => ⟨_, _, hr⟩⟩, fun _ => ⟨classes, hr, hc, hc.ne_nil ha.1, hc.nodup,
      hc.stripped, fun w' v' h' => ?_⟩, fun hn => absurd ha hn, fun hcomma => .inl ⟨classes, hr, ?_⟩⟩
    · rw [read_eq d h', hagain]
      rfl
    · rw [hj, splitAt_intercalate hcomma ha.1, hm]
      rfl
  · rw [readMarkers_refused ha] at hr
    refine ⟨⟨?_, fun h => absurd h ha⟩, fun h => absurd h ha, fun _ => hr, fun hcomma => ?_⟩
    · rintro ⟨config, w', hok⟩
      cases hr.symm.trans hok
    · rw [readMarkers_refused (mt (acceptable_intercalate hcomma).mp ha)] at hj
      exact .inr ⟨_, _, hr, hj⟩

/-- Entries with blanks around them, two of which are one class. -/
theorem spacedMarkers_read :
    Lists {} (.tuple [.str " py", .str "python ", .str "py"]) [" py", "python ", "py"] ∧
    read (Script.machine 1) [("marker_classes", .tuple [.str " py", .str "python ", .str "py"])] {} =
      .ok (.ok { markers := ["py", "python"] }) {} ∧
    read (Script.machine 1) [("marker_classes", .str " py,python ,py")] {} =
      .ok (.ok { markers := ["py", "python"] }) {} := by
  have hl : Lists {} (.tuple [.str " py", .str "python ", .str "py"]) [" py", "python ", "py"] :=
    .tuple [" py", "python ", "py"]
  have hm : readMarkers [" py", "python ", "py"] = .ok ["py", "python"] := by
    decide +kernel
  have hj : ",".intercalate [" py", "python ", "py"] = " py,python ,py" := by
    simp
  obtain ⟨-, -, -, hboth⟩ := read_normalises 0 hl
  have hr : read (Script.machine 1) [("marker_classes",
      .tuple [.str " py", .str "python ", .str "py"])] {} =
      .ok (.ok { markers := ["py", "python"] }) {} := by
    rw [read_eq 0 hl, hm]
    rfl
  rcases hboth (by simp) with ⟨classes, hc, ht⟩ | ⟨e, e', he, -⟩
  · rw [hr] at hc
    cases hc
    rw [hj] at ht
    exact ⟨hl, hr, ht⟩
  · rw [hr] at he
    cases he

end Values

end Config

end LiveMarkdown
