import LiveMarkdown.Page
import LiveMarkdown.Proofs.Application
import LiveMarkdown.Proofs.FrontMatter
import LiveMarkdown.Proofs.Journal

/-!
Running a page from its source. Unless the metadata of the source hold the value `true` itself under
the key of the configuration, the page is its markup read and written again: nothing is compiled,
nothing is asked for its place, and no warning is given. With that value every fragment that the walk
reaches is handled.
-/

namespace LiveMarkdown

open Document (NodeId)
open Script (Machine Value Run Stop World Ref)
open Engine (final)

namespace Script

theorem Value.same_true_iff (v : Value) : v.same (.bool true) = true ↔ v = .bool true := by
  cases v with
  | bool b => cases b <;> simp [Value.same]
  | _ => simp [Value.same]

theorem Space.same_true_iff (es : Array (Value × Value)) (key : String) :
    ((Space.lookup es key).getD .none).same (.bool true) = true ↔
      Space.lookup es key = some (.bool true) := by
  rw [Value.same_true_iff]
  cases Space.lookup es key <;> simp

/-- Without attributes that code holds, a document that can be written is written as it is. -/
theorem Markup.text_ok {m : Machine} {n : NodeId} {w : World} (hh : w.heldAttributes = [])
    (hf : w.forest.fault? n = none) : Markup.text m n w =
      .ok (String.join (w.forest.writeUpTo {} (w.forest.size + 1) .inside n)) w := by
  unfold Markup.text Markup.write
  rw [bind_of_ok (LiveAttributes.settle_nothing hh), bind_of_ok (Run.forest_apply w)]
  simp only [Bool.false_eq_true, ↓reduceIte, hf]
  rfl

end Script

namespace Walk

variable {s : Settings} {q : Point} {n : NodeId} {f : Fragment}
  {rs : List (Fragment × Outcome)} {st st' : Session}

/-- The visit of a fragment that ends well has an outcome for it. -/
theorem visit_fragment_ok {r : Option (Fragment × Outcome)}
    (hf : Fragment.ofNode? st.world.forest s.markers n = some f) (h : visit s n st = .ok r st') :
    ∃ g o, r = some (g, o) ∧ g.node = f.node := by
  rw [visit_fragment hf] at h
  obtain ⟨⟨g, o⟩, st₁, hx, h⟩ := bind_eq_ok.mp h
  obtain ⟨o', st₂, -, h⟩ := bind_eq_ok.mp h
  cases h
  exact ⟨g, o', rfl, Executor.execute_node hx⟩

/-- A walk that ends well visits the node that it meets. -/
theorem visit_of_resume (hn : q.Meets n) (h : resume s q q.session = .ok rs st') :
    ∃ r st₁, visit s n q.session = .ok r st₁ := by
  obtain ⟨ns, hl, hp⟩ := hn
  cases hv : visit s n q.session with
  | ok r st₁ => exact ⟨r, st₁, rfl⟩
  | error e st₁ =>
    unfold resume at h
    rw [hl, siblings_failed hp hv] at h
    cases h

end Walk

namespace DocumentRun

variable {ev : Evaluator} {m : Machine} {config : Config} {root : NodeId} {metadata : Value}
  {options : RunOptions} {run : DocumentRun} {s : Settings} {q : Walk.Point} {st st' : Session}

theorem enabled_of_on {w : World} (he : enabledFor m config metadata st.world = .ok true w)
    (h : process ev m config root metadata options st = .ok run st') : run.enabled = true := by
  obtain ⟨w₁, hw, -, -⟩ | ⟨w₁, space, w', -, -, h⟩ := process_ok h
  · rw [he] at hw
    cases hw
  · rw [perform_eq] at h
    obtain ⟨rs, st₁, -, h⟩ := bind_eq_ok.mp h
    cases h
    rfl

/-- A run that ends well records every fragment that its walk meets. -/
theorem recorded {n : NodeId} {f : Fragment} (hq : Comes ev m config root metadata options st s q)
    (hm : q.Meets n) (hf : Fragment.ofNode? q.session.world.forest s.markers n = some f)
    (h : process ev m config root metadata options st = .ok run st') :
    ∃ g o st₁, Walk.visit s n q.session = .ok (some (g, o)) st₁ ∧ g.node = f.node ∧
      (g, o) ∈ run.results := by
  have hv : ∃ r st₁, Walk.visit s n q.session = .ok r st₁ := by
    obtain ⟨w, space, w', hw, hn, rfl, hr⟩ := hq
    rw [process_on hw, bind_of_ok (Engine.lift_eq_ok.mpr ⟨w', hn, rfl⟩), perform_eq] at h
    obtain ⟨rs, st₁, hs, -⟩ := bind_eq_ok.mp h
    obtain ⟨rs', st₂, hs', -⟩ := Walk.resume_sublist hr hs
    exact Walk.visit_of_resume hm hs'
  obtain ⟨r, st₁, hv⟩ := hv
  obtain ⟨g, o, rfl, hg⟩ := Walk.visit_fragment_ok hf hv
  obtain ⟨ns, hl, hp⟩ := hm
  exact ⟨g, o, st₁, hv, hg, mem_results hq hl hp hv h⟩

end DocumentRun

namespace Page

/-- The document that a markup text is read as, and its text. -/
def plain (m : Machine) (html : String) : Run (NodeId × String) := do
  let root ← readDocument html
  return (root, ← Script.Markup.text m root)

section Parts

variable {m : Machine} {config : Config} {source html : String} {asked : Option (List Prose.Asked)}
  {options : RunOptions} {metadata : Value} {w w₁ w₂ : World} {root : NodeId} {st : Session}

/-- What is rendered is the body of the source. -/
theorem render_ok (h : render m source asked w = .ok (html, metadata) w₁) : ∃ body features,
    Metadata.FrontMatter.read m source w = .ok (metadata, body) w₁ ∧
    Prose.Setup.loadAll (asked.getD (Prose.Extension.defaults.map .name)) = .ok features ∧
    Prose.render features body = .ok html := by
  obtain ⟨⟨v, body⟩, w', hr, h⟩ := bind_eq_ok.mp h
  have raise_ne {cls message : String} : Run.raise cls message w' ≠ .ok (html, metadata) w₁ := by
    obtain ⟨e, u, he⟩ := Script.Run.raise_raises (α := String × Value) cls message w'
    rw [he]
    nofun
  dsimp only at h
  cases hl : Prose.Setup.loadAll (asked.getD (Prose.Extension.defaults.map .name)) with
  | error fault =>
    rw [hl] at h
    exact absurd h raise_ne
  | ok features =>
    rw [hl] at h
    dsimp only at h
    cases hp : Prose.render features body with
    | error fault =>
      rw [hp] at h
      exact absurd h raise_ne
    | ok html' =>
      rw [hp] at h
      cases h
      exact ⟨body, features, hr, rfl, hp⟩

/-- A document is added to the tree, and nothing else changes. -/
theorem readDocument_heap (h : readDocument html w = .ok root w₁) : w₁.heap = w.heap := by
  unfold readDocument at h
  rw [bind_of_ok (Run.forest_apply w)] at h
  cases hf : w.forest.read true html with
  | ok p =>
    rw [hf] at h
    cases h
    rfl
  | error fault =>
    obtain ⟨e, u, he⟩ :=
      Script.Run.raise_raises (α := NodeId) "ParserRejectedMarkup" fault.message w
    rw [hf] at h
    dsimp only at h
    rw [he] at h
    cases h

theorem run_of_document (hr : render m source asked st.world = .ok (html, metadata) w₁)
    (hd : readDocument html w₁ = .ok root w₂) : run m config source asked options st =
      (do
        let run ← DocumentRun.process (Program.evaluator m config.filename) m config root metadata
          { options with source := some source }
        let html ← Engine.lift (Script.Markup.text m root)
        return { root, html, run, metadata : Result }) { st with world := w₂ } := by
  unfold run
  rw [bind_of_ok (Engine.lift_eq_ok.mpr ⟨w₁, hr, rfl⟩)]
  dsimp only
  rw [bind_of_ok (Engine.lift_eq_ok.mpr ⟨w₂, hd, rfl⟩)]

/-- The session in which the host was told that execution is not switched on. -/
def skipped (config : Config) (options : RunOptions) (st : Session) : Session :=
  { st with
    emitted := st.emitted ++ [.event "fragment_run_skipped"
      [("input", .str options.inputName), ("key", .str config.enableKey)]] }

theorem skipped_warnings : (skipped config options st).warnings = st.warnings := by
  simp [skipped, Session.warnings]

end Parts

section Switch

variable (m : Machine) (config : Config) (source : String) (asked : Option (List Prose.Asked))
  (options : RunOptions) (st : Session)

/-- What running a page comes to that is not switched on: `html` is what was rendered, in the world
in which that is read. -/
structure PassedOver (html : String) (metadata : Value) (w : World) : Prop where
  /-- Nothing is compiled, invoked or located. -/
  journal : (final (run m config source asked options st)).journal = st.journal
  warnings : (final (run m config source asked options st)).warnings = st.warnings
  written : ∀ root text w', plain m html w = .ok (root, text) w' →
    run m config source asked options st = .ok
      { root, html := text, run := { enabled := false, inputName := options.inputName }, metadata }
      { skipped config options st with world := w' }
  /-- Markup that cannot be read ends the run before the host is told anything. -/
  rejected : ∀ e w', readDocument html w = .error e w' →
    run m config source asked options st = .error e { st with world := w' }
  /-- A document that cannot be written ends it when the host has been told. -/
  unwritten : ∀ root e w₂ w', readDocument html w = .ok root w₂ →
    Script.Markup.text m root w₂ = .error e w' →
      run m config source asked options st = .error e { skipped config options st with world := w' }

/-- The walk of a page, whose document has the given root, comes to a point. -/
def Comes (root : NodeId) (metadata : Value) (w : World) (s : Settings) (q : Walk.Point) : Prop :=
  DocumentRun.Comes (Program.evaluator m config.filename) m config root metadata
    { options with source := some source } { st with world := w } s q

/-- What running a page comes to that is switched on. -/
structure Processed (root : NodeId) (metadata : Value) (w : World) : Prop where
  begins : ∃ s q, Comes m config source options st root metadata w s q ∧ q.parent = root ∧
    q.left = q.session.world.forest.children root
  /-- Every node that the walk meets is handled, whatever becomes of the run. -/
  handled : ∀ s q n, Comes m config source options st root metadata w s q → q.Meets n →
    Executor.Handled s n q.session (final (run m config source asked options st)).journal
  /-- A run that ends well records every fragment that the walk meets. -/
  recorded : ∀ result st', run m config source asked options st = .ok result st' →
    result.run.enabled = true ∧
    ∀ s q n f, Comes m config source options st root metadata w s q → q.Meets n →
      Fragment.ofNode? q.session.world.forest s.markers n = some f →
      ∃ g o st₁, Walk.visit s n q.session = .ok (some (g, o)) st₁ ∧ g.node = f.node ∧
        (g, o) ∈ result.run.results

variable {m config source asked options st} {html : String} {metadata : Value} {w₁ w₂ : World}
  {root : NodeId}

/-- A page that is not switched on is read and written, and between the two its host is told. -/
theorem run_off (hr : render m source asked st.world = .ok (html, metadata) w₁)
    (he : ∀ w, w.heap = w₁.heap → DocumentRun.enabledFor m config metadata w = .ok false w) :
    run m config source asked options st = (do
      let root ← Engine.lift (readDocument html)
      Engine.event "fragment_run_skipped"
        [("input", .str options.inputName), ("key", .str config.enableKey)]
      let html ← Engine.lift (Script.Markup.text m root)
      let run : DocumentRun := { enabled := false, inputName := options.inputName }
      return { root, html, run, metadata : Result }) { st with world := w₁ } := by
  cases hd : readDocument html w₁ with
  | ok root w₂ =>
    rw [run_of_document hr hd, bind_of_ok (Engine.lift_eq_ok.mpr ⟨w₂, hd, rfl⟩),
      bind_of_ok (DocumentRun.process_off (he w₂ (readDocument_heap hd)))]
    rfl
  | error e w₂ =>
    have hl : Engine.lift (readDocument html) { st with world := w₁ } =
        .error e { st with world := w₂ } := Engine.lift_eq_error.mpr ⟨w₂, hd, rfl⟩
    unfold run
    rw [bind_of_ok (Engine.lift_eq_ok.mpr ⟨w₁, hr, rfl⟩)]
    exact (bind_eq_error.mpr (.inl hl)).trans (bind_eq_error.mpr (.inl hl)).symm

theorem run_rejected (hr : render m source asked st.world = .ok (html, metadata) w₁)
    (he : ∀ w, w.heap = w₁.heap → DocumentRun.enabledFor m config metadata w = .ok false w) {e : Stop}
    (hd : readDocument html w₁ = .error e w₂) :
    run m config source asked options st = .error e { st with world := w₂ } := by
  rw [run_off hr he, bind_of_error (Engine.lift_eq_error.mpr ⟨w₂, hd, rfl⟩)]

/-- A page that can be read is written when its host has been told, if it can be. -/
theorem run_skipped (hr : render m source asked st.world = .ok (html, metadata) w₁)
    (he : ∀ w, w.heap = w₁.heap → DocumentRun.enabledFor m config metadata w = .ok false w)
    (hd : readDocument html w₁ = .ok root w₂) :
    run m config source asked options st = match Script.Markup.text m root w₂ with
      | .ok text w => .ok
        { root, html := text, run := { enabled := false, inputName := options.inputName }, metadata }
        { skipped config options st with world := w }
      | .error e w => .error e { skipped config options st with world := w } := by
  rw [run_off hr he, bind_of_ok (Engine.lift_eq_ok.mpr ⟨w₂, hd, rfl⟩),
    bind_of_ok (Engine.event_apply ..), bind_apply]
  unfold Engine.lift
  dsimp only
  cases Script.Markup.text m root w₂ <;> rfl

theorem passedOver (hr : render m source asked st.world = .ok (html, metadata) w₁)
    (he : ∀ w, w.heap = w₁.heap → DocumentRun.enabledFor m config metadata w = .ok false w) :
    PassedOver m config source asked options st html metadata w₁ := by
  have hfinal : (final (run m config source asked options st)).journal = st.journal ∧
      (final (run m config source asked options st)).warnings = st.warnings := by
    cases hd : readDocument html w₁ with
    | error e w₂ =>
      rw [run_rejected hr he hd]
      exact ⟨rfl, rfl⟩
    | ok root w₂ =>
      rw [run_skipped hr he hd]
      cases Script.Markup.text m root w₂ <;> exact ⟨rfl, skipped_warnings⟩
  refine ⟨hfinal.1, hfinal.2, fun root text w' h => ?_, fun e w' hd => run_rejected hr he hd,
    fun root e w₂ w' hd ht => ?_⟩
  · obtain ⟨root', w₂, hd, h⟩ := bind_eq_ok.mp h
    obtain ⟨text', w₃, ht, h⟩ := bind_eq_ok.mp h
    cases h
    rw [run_skipped hr he hd, ht]
  · rw [run_skipped hr he hd, ht]

theorem processed (hr : render m source asked st.world = .ok (html, metadata) w₁)
    (hd : readDocument html w₁ = .ok root w₂)
    (he : DocumentRun.enabledFor m config metadata w₂ = .ok true w₂) :
    Processed m config source asked options st root metadata w₂ := by
  have hrun : run m config source asked options st = _ := run_of_document hr hd
  obtain ⟨space, w', -, hn, -, -⟩ :=
    DocumentRun.namespaceFor_grows root metadata { options with source := some source } w₂
  refine ⟨⟨_, _, ⟨w₂, space, w', he, hn, rfl, .refl _⟩, rfl, rfl⟩,
    fun s q n hq hm => ?_, fun result st' h => ?_⟩
  · rw [hrun]
    exact (DocumentRun.process_handled hq hm).mono _ (Engine.Extends.final_bind
      (fun _ => (Engine.Extends.lift _).bind fun _ => .pure _) _)
  · rw [hrun] at h
    obtain ⟨dr, st₁, hp, h⟩ := bind_eq_ok.mp h
    obtain ⟨text, st₂, -, h⟩ := bind_eq_ok.mp h
    cases h
    exact ⟨DocumentRun.enabled_of_on he hp, fun s q n f hq hm hf =>
      DocumentRun.recorded hq hm hf hp⟩

/-- A page whose metadata and markup are made is run just if the metadata, which come from a block at
the start of its source, hold the value `true` itself under the key of the configuration. -/
theorem run_follows_switch (d : Nat) (config : Config) (source : String)
    (asked : Option (List Prose.Asked)) (options : RunOptions) (st : Session) {html : String}
    {metadata : Value} {w₁ : World}
    (hr : render (Script.machine (d + 2)) source asked st.world = .ok (html, metadata) w₁) :
    ∃ body features r es,
      Metadata.FrontMatter.read (Script.machine (d + 2)) source st.world =
        .ok (metadata, body) w₁ ∧
      Prose.Setup.loadAll (asked.getD (Prose.Extension.defaults.map .name)) = .ok features ∧
      Prose.render features body = .ok html ∧
      metadata = .ref r ∧ w₁.heap[r]? = some (.dict es) ∧
      (∀ v, Script.Space.lookup es config.enableKey = some v →
        ∃ text, Metadata.FrontMatter.split? source = some (text, body) ∧
          Metadata.readValue (Script.machine (d + 2)) text st.world = .ok (.ok metadata) w₁) ∧
      (Script.Space.lookup es config.enableKey ≠ some (.bool true) →
        PassedOver (Script.machine (d + 2)) config source asked options st html metadata w₁) ∧
      (Script.Space.lookup es config.enableKey = some (.bool true) →
        ∀ root w₂, readDocument html w₁ = .ok root w₂ →
          Processed (Script.machine (d + 2)) config source asked options st root metadata w₂) := by
  obtain ⟨body, features, hf, hl, hp⟩ := render_ok hr
  have ht : Metadata.FrontMatter.Taken (Script.machine (d + 2)) source st.world metadata body w₁ := by
    obtain ⟨v, b, w', hv, ht⟩ | ⟨_, _, e, w', -, he, -⟩ :=
      Metadata.FrontMatter.read_taken (d + 1) source st.world
    · rw [hf] at hv
      cases hv
      exact ht
    · rw [hf] at he
      cases he
  obtain ⟨-, r, es, rfl, -, hd, hk⟩ := ht.dict
  have he (w : World) (hw : w.heap = w₁.heap) :
      DocumentRun.enabledFor (Script.machine (d + 2)) config (.ref r) w =
        .ok (((Script.Space.lookup es config.enableKey).getD .none).same (.bool true)) w :=
    DocumentRun.enabledFor_scalarKeys d (by rw [hw, hd]) hk
  refine ⟨body, features, r, es, hf, hl, hp, rfl, hd, fun v hv => ?_, fun hs => ?_,
    fun hs root w₂ hdoc => ?_⟩
  · obtain ⟨r', h, hn⟩ | h := ht.empty_or_read
    · cases h
      rw [hd] at hn
      cases hn
      cases hv
    · exact h
  · rw [ne_eq, ← Script.Space.same_true_iff, Bool.not_eq_true] at hs
    exact passedOver hr fun w hw => by rw [he w hw, hs]
  · rw [← Script.Space.same_true_iff] at hs
    exact processed hr hdoc (by rw [he w₂ (readDocument_heap hdoc), hs])

/-- A page with one piece of code, and the given value under the key of the switch. -/
def onePiece (switch : String) : String :=
  "---\npython-elements: " ++ switch ++ "\n---\n`6 * 7`{.python}\n"

/-- Whether what a dictionary has under the key of the switch passes a test. -/
def switchIs (p : Option Value → Bool) (v : Value) (w : World) : Bool :=
  match v with
  | .ref r =>
    match w.heap[r]? with
    | some (.dict es) => p (Script.Space.lookup es ({} : Config).enableKey)
    | _ => false
  | _ => false

/-- Whether markup can be read, and what was read can be written. -/
def isWritable (html : String) (w : World) : Bool :=
  okAnd (readDocument html w) fun root w =>
    (w.forest.fault? root).isNone && w.heldAttributes.isEmpty

theorem exists_plain {html : String} (h : isWritable html w₁) :
    ∃ root text w', plain m html w₁ = .ok (root, text) w' := by
  obtain ⟨root, w₂, hd, h⟩ := exists_of_okAnd h
  rw [Bool.and_eq_true, Option.isNone_iff_eq_none, List.isEmpty_iff] at h
  exact ⟨root, _, w₂, bind_eq_ok.mpr ⟨root, w₂, hd, bind_eq_ok.mpr
    ⟨_, w₂, Script.Markup.text_ok h.2 h.1, rfl⟩⟩⟩

/-- The number one under the key leaves the code alone, and `true` has the walk begin. -/
theorem onePiece_switched :
    (∃ result st', run (Script.machine 2) {} (onePiece "1") none {} { world := {} } = .ok result st' ∧
      result.run.enabled = false ∧ st'.journal = []) ∧
    ∃ root v w, Processed (Script.machine 2) {} (onePiece "true") none {} { world := {} } root v w := by
  constructor
  · have ht : okAnd (render (Script.machine 2) (onePiece "1") none {}) fun p w =>
        switchIs (fun v => (v.getD .none).same (.int 1)) p.2 w && isWritable p.1 w := by
      decide +kernel
    obtain ⟨⟨html, v⟩, w₁, hr, ht⟩ := exists_of_okAnd ht
    rw [Bool.and_eq_true] at ht
    obtain ⟨-, -, r, es, -, -, -, rfl, hd, -, hoff, -⟩ :=
      run_follows_switch 0 {} (onePiece "1") none {} { world := {} } hr
    obtain ⟨root, text, w', hp⟩ := exists_plain (m := Script.machine 2) ht.2
    have hs : Script.Space.lookup es ({} : Config).enableKey ≠ some (.bool true) := by
      intro hl
      simp [switchIs, hd, hl, Value.same] at ht
    exact ⟨_, _, (hoff hs).written root text w' hp, rfl, rfl⟩
  · have ht : okAnd (render (Script.machine 2) (onePiece "true") none {}) fun p w =>
        switchIs (fun v => (v.getD .none).same (.bool true)) p.2 w && isWritable p.1 w := by
      decide +kernel
    obtain ⟨⟨html, v⟩, w₁, hr, ht⟩ := exists_of_okAnd ht
    rw [Bool.and_eq_true] at ht
    obtain ⟨-, -, r, es, -, -, -, rfl, hd, -, -, hon⟩ :=
      run_follows_switch 0 {} (onePiece "true") none {} { world := {} } hr
    obtain ⟨root, w₂, hdoc, -⟩ := exists_of_okAnd ht.2
    have hs : Script.Space.lookup es ({} : Config).enableKey = some (.bool true) :=
      (Script.Space.same_true_iff es _).mp (by simpa [switchIs, hd] using ht.1)
    exact ⟨root, _, w₂, hon hs root w₂ hdoc⟩

/-- A page with a marked section of a kind that there is not. -/
def unknownSection : String := "<div><![x[ y ]]></div>\n"

/-- Markup that cannot be read stops a page that is not switched on, and its host is told nothing. -/
theorem unknownSection_rejected :
    (∃ html v w₁, render (Script.machine 2) unknownSection none {} = .ok (html, v) w₁ ∧
      switchIs Option.isNone v w₁) ∧
    ∃ e st', run (Script.machine 2) {} unknownSection none {} { world := {} } = .error (.raised e) st' ∧
      st'.emitted.isEmpty := by
  have hr : okAnd (render (Script.machine 2) unknownSection none {}) fun p w =>
      switchIs Option.isNone p.2 w := by
    decide +kernel
  obtain ⟨⟨html, v⟩, w₁, hr, hv⟩ := exists_of_okAnd hr
  exact ⟨⟨html, v, w₁, hr, hv⟩, exists_of_raisedAnd (by decide +kernel)⟩

end Switch

end Page

end LiveMarkdown
