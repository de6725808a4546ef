import LiveMarkdown.Proofs.Modules

/-!
Star imports. The statement of the language and the function that stands for it in code that returns
copy the same names, in the same order, and stop at the same name.
-/

namespace LiveMarkdown.Script

namespace Import

variable {m : Machine} {fr : Frame} {v : Value} {w w₁ w₂ w' : World} {name : String}
  {names : List String} {r : Ref}

/-- Copies the values of names from a module into a namespace, one after the other. -/
def copyNames (m : Machine) (v : Value) (r : Ref) : List String → Run Unit
  | [] => pure ()
  | s :: names => do
    Subscript.set m (.ref r) (.str s) (← m.attr v s)
    copyNames m v r names

/-- A module can be imported under a name. -/
structure Importable (m : Machine) (name : String) (v : Value) (w w₁ : World) : Prop where
  named : name ≠ ""
  absolute : name.toList.head? ≠ some '.'
  loaded : load m name w = .ok v w₁

/-- The names of a list that do not begin with an underscore. -/
def publicOf (keys : List String) : List String := keys.filter fun s => !isPrivate s

/-- The names that a module gives away: those that it lists, in a tuple or a list of texts, else those
of its own that do not begin with an underscore, where all of them are texts. -/
inductive Exports (m : Machine) (v : Value) (w : World) : List String → World → Prop where
  | tuple (names : List String) (w₁ : World) (h : Iteration.catching "AttributeError"
      (m.attr v "__all__") w = .ok (some (.tuple (names.map .str))) w₁) : Exports m v w names w₁
  | list (q : Ref) (names : List String) (w₁ : World) (h : Iteration.catching "AttributeError"
      (m.attr v "__all__") w = .ok (some (.ref q)) w₁)
      (hl : w₁.heap[q]? = some (.list (names.map Value.str).toArray)) : Exports m v w names w₁
  | own (keys : List String) (w₁ : World) (h : Iteration.catching "AttributeError"
      (m.attr v "__all__") w = .ok none w₁) (hk : keysOf v w₁ = .ok (keys.map .str) w₁) :
      Exports m v w (publicOf keys) w₁

/-! ### The loops of both -/

/-- A loop that copies the value of each text copies them all. -/
theorem forIn_texts {step : Value → PUnit → Run (ForInStep PUnit)} (h : ∀ s, step (.str s) ⟨⟩ = do
      Subscript.set m (.ref r) (.str s) (← m.attr v s)
      return .yield ⟨⟩) (names : List String) :
    forIn (names.map Value.str) PUnit.unit step = copyNames m v r names := by
  induction names with
  | nil => rfl
  | cons s names ih =>
    rw [List.map_cons, List.forIn_cons, h]
    unfold copyNames
    simp only [bind_assoc, pure_bind, ih]

/-- A loop that passes by the names with an underscore copies the others before it goes on. -/
theorem forIn_publicOf {step : Value → PUnit → Run (ForInStep PUnit)}
    (h : ∀ s, step (.str s) ⟨⟩ = if isPrivate s then pure (.yield ⟨⟩) else do
      Subscript.set m (.ref r) (.str s) (← m.attr v s)
      return .yield ⟨⟩) (keys : List String) (rest : List Value) :
    forIn (keys.map Value.str ++ rest) PUnit.unit step =
      copyNames m v r (publicOf keys) >>= fun _ => forIn rest PUnit.unit step := by
  induction keys with
  | nil => rfl
  | cons s keys ih =>
    have hs : publicOf (s :: keys) = if isPrivate s then publicOf keys else s :: publicOf keys := by
      unfold publicOf
      rw [List.filter_cons]
      cases isPrivate s <;> rfl
    rw [List.map_cons, List.cons_append, List.forIn_cons, h, hs]
    cases isPrivate s with
    | true => simp only [if_true, pure_bind, ih]
    | false =>
      simp only [Bool.false_eq_true, if_false, copyNames, bind_assoc, pure_bind, ih]

/-- Texts are told apart before the keys behind them are asked. -/
theorem filterAuxM_texts (keys : List String) (rest acc : List Value) :
    (keys.map Value.str ++ rest).filterAuxM (fun k => do return !(← startsLow m k)) acc =
      (rest.filterAuxM (fun k => do return !(← startsLow m k))
        (((publicOf keys).map .str).reverse ++ acc) : Run (List Value)) := by
  induction keys generalizing acc with
  | nil => rfl
  | cons s keys ih =>
    have hs : startsLow m (.str s) = pure (isPrivate s) := rfl
    rw [List.map_cons, List.cons_append, List.filterAuxM, hs, pure_bind, pure_bind, ih]
    unfold publicOf
    rw [List.filter_cons]
    cases isPrivate s <;> simp

theorem publicNames_texts {keys : List String} (h : keysOf v w = .ok (keys.map .str) w) :
    publicNames m v w = .ok ((publicOf keys).map .str) w := by
  have hf := filterAuxM_texts (m := m) keys [] []
  rw [List.append_nil, List.append_nil] at hf
  unfold publicNames List.filterM
  rw [bind_of_ok h, hf]
  simp

/-! ### What both copy -/

section List

variable {q : Ref} {vs : List Value}

theorem collect_list (h : w.heap[q]? = some (.list vs.toArray)) :
    Iteration.collect m (.ref q) w = .ok vs w := (bind_of_ok (Run.deref_of h)).trans rfl

/-- A list can be gone through by place. -/
theorem isIndexed_list (h : w.heap[q]? = some (.list vs.toArray)) :
    isIndexed (.ref q) w = .ok true w := by
  have hb : Kind.basic (.ref q) w = .ok (.ref q) w := (bind_of_ok (Run.deref_of h)).trans rfl
  unfold isIndexed
  refine (bind_of_ok hb).trans ((bind_of_ok (Run.deref_of h)).trans rfl)

end List

theorem shownName_reads (v : Value) : Reads (shownName v) := by
  have hd : Reads (Run.deref v) := by
    cases v with
    | ref r => exact Run.object?_reads r
    | _ => exact .pure _
  refine hd.bind fun o => ?_
  split <;> exact .pure _

/-- The function copies the names that the module gives away. -/
theorem copyFrom_eq (he : Exports m v w names w₂) :
    copyFrom m v (.ref r) w = copyNames m v r names w₂ := by
  unfold copyFrom
  cases he with
  | tuple _ _ h =>
    have hc : Iteration.collect m (.tuple (names.map .str)) w₂ = .ok (names.map .str) w₂ := rfl
    refine (bind_of_ok h).trans ((bind_of_ok hc).trans ?_)
    dsimp only
    rw [forIn_texts (m := m) (v := v) (r := r) fun s => rfl, bind_pure_unit]
  | list q _ _ h hl =>
    refine (bind_of_ok h).trans ((bind_of_ok (collect_list hl)).trans ?_)
    dsimp only
    rw [forIn_texts (m := m) (v := v) (r := r) fun s => rfl, bind_pure_unit]
  | own keys _ h hk =>
    refine (bind_of_ok h).trans ((bind_of_ok (publicNames_texts hk)).trans ?_)
    dsimp only
    rw [forIn_texts (m := m) (v := v) (r := r) fun s => rfl, bind_pure_unit]

theorem copyPublic_eq (hi : Importable m name v w w₁) :
    copyPublic m name (.int 0) (.ref r) w = copyFrom m v (.ref r) w₁ := by
  have hz : Iteration.truth m (.int 0) w = .ok false w := rfl
  have hn : (name == "") = false := by simpa using hi.named
  have hd : (name.toList.head? == some '.') = false := by simpa using hi.absolute
  unfold copyPublic
  rw [bind_of_ok hz]
  simp only [hn, hd, Bool.false_eq_true, if_false]
  exact bind_of_ok hi.loaded

/-- The statement copies the names that the module gives away. -/
theorem starEntries_eq (he : Exports m v w names w₂) :
    starEntries m v (fun s x => Subscript.set m (.ref r) (.str s) x) w = copyNames m v r names w₂ := by
  obtain ⟨shown, hs⟩ := shownName_reads v w
  unfold starEntries
  refine (bind_of_ok hs).trans ?_
  cases he with
  | tuple _ _ h =>
    have hi : isIndexed (.tuple (names.map .str)) w₂ = .ok true w₂ := rfl
    have hc : Iteration.collect m (.tuple (names.map .str)) w₂ = .ok (names.map .str) w₂ := rfl
    refine (bind_of_ok h).trans ((bind_of_ok hi).trans ((bind_of_ok hc).trans ?_))
    rw [forIn_texts (m := m) (v := v) (r := r) fun s => rfl, bind_pure_unit]
  | list q _ _ h hl =>
    refine (bind_of_ok h).trans ((bind_of_ok (isIndexed_list hl)).trans
      ((bind_of_ok (collect_list hl)).trans ?_))
    rw [forIn_texts (m := m) (v := v) (r := r) fun s => rfl, bind_pure_unit]
  | own keys _ h hk =>
    refine (bind_of_ok h).trans ((bind_of_ok hk).trans ?_)
    rw [← List.append_nil (keys.map _), forIn_publicOf (m := m) (v := v) (r := r) fun s => ?_]
    · simp only [List.forIn_nil, bind_pure_unit]
    · dsimp only
      cases isPrivate s <;> rfl

theorem importFrom_eq (hb : Statement.mayImport fr w = .ok () w) (hk : fr.kind = .module)
    (hi : Importable m name v w w₁) (l : Loc) (as : Option String) :
    Statement.importFrom m fr (some name) [⟨l, "*", as⟩] (some 0) w =
      starEntries m v (fun s x => Subscript.set m (.ref fr.globals) (.str s) x) w₁ := by
  have hn : (name == "") = false := by simpa using hi.named
  unfold Statement.importFrom
  refine (bind_of_ok hb).trans ?_
  simp only [Option.getD_some, ne_eq, not_true_eq_false, hn, Bool.false_eq_true, if_false, hk]
  exact bind_of_ok hi.loaded

/-! ### What is left in the namespace -/

/-- Sets names to what a module has under them. -/
def putAll (part : String → Option Value) (es : Array (Value × Value)) (names : List String) :
    Array (Value × Value) :=
  names.foldl (fun es s => Space.put es s ((part s).getD .none)) es

section Copying

variable {n : String} {q space : Ref} {part : String → Option Value}
  {es entries : Array (Value × Value)} {s : String} {x : Value}

theorem putAll_cons (hs : part s = some x) (names : List String) :
    putAll part es (s :: names) = putAll part (Space.put es s x) names := by
  unfold putAll
  rw [List.foldl_cons, hs]
  rfl

/-- A module and a namespace while names are copied: what the module has under each name does not
change. -/
structure Poised (n : String) (q space r : Ref) (part : String → Option Value)
    (es : Array (Value × Value)) (w : World) : Prop where
  module : ∃ entries, IsModule q n space entries w ∧
    ∀ s, Attribute.ofModule? n q space entries s = part s
  target : w.heap[r]? = some (.dict es)
  told : ToldKeys es

/-- The module of the names may be the one into whose dictionary they are copied. -/
theorem ofModule?_put (hs : Attribute.ofModule? n q space entries s = some x) (t : String) :
    Attribute.ofModule? n q space (Space.put entries s x) t =
      Attribute.ofModule? n q space entries t := by
  unfold Attribute.ofModule? Attribute.ofDictionary at hs ⊢
  rw [Space.lookup_put]
  by_cases h : s = t
  · subst h
    by_cases hc : s == "__class__"
    · rw [if_pos hc, if_pos hc]
    rw [if_neg hc] at hs
    rw [if_neg hc, if_neg hc, hs, if_pos rfl]
    split
    · split
      · simp_all
      · rfl
    · rfl
  · rw [if_neg h]

theorem Poised.put (h : Poised n q space r part es w) (hs : part s = some x) :
    Poised n q space r part (Space.put es s x) (w.withEntries r (Space.put es s x)) := by
  obtain ⟨entries, hm, hp⟩ := h.module
  obtain ⟨own, ho, hown⟩ := hm.object
  have hself : (w.withEntries r (Space.put es s x)).heap[r]? = some (.dict (Space.put es s x)) :=
    World.withEntries_self h.target
  have hq : r ≠ q := by
    rintro rfl
    have ht := h.target
    rw [ho] at ht
    cases ht
  have hobject : (w.withEntries r (Space.put es s x)).heap[q]? = some (.module n own) :=
    (World.withEntries_ne hq).trans ho
  refine ⟨?_, hself, h.told.put s x⟩
  by_cases hr : r = space
  · subst hr
    have ht := h.target
    rw [hm.entries] at ht
    cases ht
    exact ⟨_, ⟨⟨own, hobject, hown⟩, hself⟩,
      fun t => (ofModule?_put ((hp s).trans hs) t).trans (hp t)⟩
  · exact ⟨entries, ⟨⟨own, hobject, hown⟩, (World.withEntries_ne hr).trans hm.entries⟩, hp⟩

theorem Poised.attr (h : Poised n q space r part es w) (d : Nat) (s : String) :
    (machine (d + 1)).attr (.ref q) s w = match part s with
      | some x => .ok x w
      | none => Run.raise "AttributeError" (Attribute.lacks n s) w := by
  obtain ⟨entries, hm, hp⟩ := h.module
  rw [← hp s]
  exact Attribute.get_module hm

/-- The names before the first one that is missing are copied; that one is told. -/
theorem copyNames_poised (h : Poised n q space r part es w) (d : Nat) (names : List String) :
    copyNames (machine (d + 1)) (.ref q) r names w =
      let w₁ := w.withEntries r (putAll part es (names.takeWhile fun s => (part s).isSome))
      match names.find? fun s => (part s).isNone with
      | none => .ok () w₁
      | some s => Run.raise "AttributeError" (Attribute.lacks n s) w₁ := by
  have hself := World.withEntries_same h.target
  induction names generalizing es w with
  | nil =>
    dsimp only
    exact congrArg (EStateM.Result.ok ()) hself.symm
  | cons s names ih =>
    have ha := h.attr d s
    unfold copyNames
    cases hs : part s with
    | none =>
      rw [hs] at ha
      obtain ⟨w', context, hr, -, -⟩ := Run.raise_apply "AttributeError" (Attribute.lacks n s) w
      have hw : (machine (d + 1)).attr (.ref q) s w = .error (.raised (.ref w.heap.size)) w' :=
        ha.trans (hr Value)
      have hnone : putAll part es [] = es := rfl
      rw [bind_apply, hw]
      simp only [List.takeWhile_cons, List.find?_cons, hs, Option.isSome_none, Option.isNone_none,
        Bool.false_eq_true, if_false]
      rw [hnone, hself, hr Unit]
    | some x =>
      rw [hs] at ha
      have hp := h.put hs
      have hset := Subscript.set_told h.target h.told d s x
      refine (bind_of_ok ha).trans ((bind_of_ok hset).trans ?_)
      rw [ih hp (World.withEntries_same hp.target)]
      simp only [List.takeWhile_cons, List.find?_cons, hs, Option.isSome_some, Option.isNone_some,
        if_true, putAll_cons hs, World.withEntries_withEntries]

/-- How a copy of names ends: with all of them there, or with an error that tells the module and the
first name that it lacks. -/
inductive Ended (n : String) (part : String → Option Value) (names : List String) (w : World) :
    EStateM.Result Stop World Unit → Prop where
  | all (h : ∀ s ∈ names, (part s).isSome) : Ended n part names w (.ok () w)
  | lacking (s : String) (k : Ref) (context : Option Value)
      (h : names.find? (fun s => (part s).isNone) = some s)
      (ho : w.heap[k]? = some (.exception (.type "AttributeError") [.str (Attribute.lacks n s)]
        none context false #[])) : Ended n part names w (.error (.raised (.ref k)) w)

theorem Poised.ends (h : Poised n q space r part es w) (names : List String) : ∃ w' e,
    Ended n part names w' e ∧
    w'.heap[r]? = some (.dict (putAll part es (names.takeWhile fun s => (part s).isSome))) ∧
    ∀ d, copyNames (machine (d + 1)) (.ref q) r names w = e := by
  let w₁ := w.withEntries r (putAll part es (names.takeWhile fun s => (part s).isSome))
  have hself : w₁.heap[r]? = some (.dict _) := World.withEntries_self h.target
  have hc := fun d => copyNames_poised h d names
  dsimp only at hc
  cases hf : names.find? fun s => (part s).isNone with
  | none =>
    rw [hf] at hc
    refine ⟨w₁, _, .all fun s hs => ?_, hself, hc⟩
    have hn := List.find?_eq_none.mp hf s hs
    cases hp : part s with
    | none => simp [hp] at hn
    | some x => rfl
  | some s =>
    rw [hf] at hc
    obtain ⟨w', context, hr, ho, hw⟩ :=
      Run.raise_apply "AttributeError" (Attribute.lacks n s) w₁
    exact ⟨w', _, .lacking s _ context hf ho, hw.same hself rfl, fun d => (hc d).trans (hr Unit)⟩

theorem lookup_putAll (part : String → Option Value) (names : List String)
    (h : ∀ s ∈ names, (part s).isSome) (es : Array (Value × Value)) (t : String) :
    Space.lookup (putAll part es names) t =
      if t ∈ names then part t else Space.lookup es t := by
  induction names generalizing es with
  | nil => rfl
  | cons s names ih =>
    obtain ⟨x, hx⟩ := Option.isSome_iff_exists.mp (h s List.mem_cons_self)
    rw [putAll_cons hx, ih (fun t ht => h t (List.mem_cons_of_mem _ ht)), Space.lookup_put]
    by_cases ht : t ∈ names
    · simp [ht]
    · by_cases hs : s = t
      · subst hs
        simp [ht, hx]
      · simp [ht, hs, Ne.symm hs]

/-! ### The names that a module gives away -/

/-- The names that the entries of a module give away: those that they list, in a tuple or a list of
texts, else their own that do not begin with an underscore, where all of them are texts. -/
inductive Gives (entries : Array (Value × Value)) (w : World) : List String → Prop where
  | tuple (names : List String)
      (h : Space.lookup entries "__all__" = some (.tuple (names.map .str))) : Gives entries w names
  | list (k : Ref) (names : List String) (h : Space.lookup entries "__all__" = some (.ref k))
      (hl : w.heap[k]? = some (.list (names.map Value.str).toArray)) : Gives entries w names
  | own (keys : List String) (h : Space.lookup entries "__all__" = none)
      (hk : entries.toList.map (·.1) = keys.map .str) : Gives entries w (publicOf keys)

theorem isSome_lookup (t : String) :
    (Space.lookup entries t).isSome ↔ Value.str t ∈ entries.toList.map (·.1) := by
  unfold Space.lookup
  rw [Option.isSome_map, Array.find?_isSome]
  simp [Space.isName_iff]

/-- What begins with no underscore is read from the dictionary. -/
theorem ofModule?_public {t : String} (hp : isPrivate t = false)
    (ht : (Space.lookup entries t).isSome) :
    Attribute.ofModule? n q space entries t = Space.lookup entries t := by
  obtain ⟨x, hx⟩ := Option.isSome_iff_exists.mp ht
  have hne {u : String} (hu : isPrivate u = true) : t ≠ u := by
    rintro rfl
    rw [hp] at hu
    cases hu
  have hc : ¬ ((t == "__class__") = true) := by
    simpa using hne (u := "__class__") (by decide)
  have hd : t ≠ "__dict__" := hne (by decide)
  unfold Attribute.ofModule? Attribute.ofDictionary
  rw [if_neg hc, if_neg hd, hx]
  split <;> rfl

theorem keysOf_module (hm : IsModule q n space entries w) :
    keysOf (.ref q) w = .ok (entries.toList.map (·.1)) w := by
  obtain ⟨own, h, ho⟩ := hm.object
  have hs : dictionaryOf n own w = .ok space w := by
    unfold dictionaryOf
    by_cases hn : n = "builtins"
    · rw [if_pos hn] at ho ⊢
      exact Builtin.space_known ho
    · rw [if_neg hn] at ho ⊢
      rw [ho]
      rfl
  unfold keysOf
  exact (bind_of_ok (Run.deref_of h)).trans ((bind_of_ok hs).trans
    ((bind_of_ok (Space.entries_dict hm.entries)).trans rfl))

theorem catching_of_ok {α : Type} {cls : String} {y : Run α} {a : α} (h : y w = .ok a w₁) :
    Iteration.catching cls y w = .ok (some a) w₁ := by
  unfold Iteration.catching
  rw [tryCatch_apply, map_apply, h]

/-- A missing attribute is caught, and leaves no more than the object of its exception. -/
theorem catching_raise (message : String) (w : World) : ∃ w₁, Retains w w₁ ∧ ∀ y : Run Value,
    y w = Run.raise "AttributeError" message w →
      Iteration.catching "AttributeError" y w = .ok none w₁ := by
  obtain ⟨w₁, context, hr, ho, hw⟩ := Run.raise_apply "AttributeError" message w
  have hc : ((builtinOrder "AttributeError").map Value.type).any
      (Kind.sameClass (.type "AttributeError")) = true := by
    decide +kernel
  have ha : Kind.isA (.ref w.heap.size) "AttributeError" w₁ = .ok true w₁ := by
    have hk : Kind.of (.ref w.heap.size) w₁ = .ok (.type "AttributeError") w₁ := by
      exact (bind_of_ok (Run.object?_of ho)).trans rfl
    refine (bind_of_ok hk).trans ?_
    exact congrArg (EStateM.Result.ok · w₁) hc
  refine ⟨w₁, hw, fun y h => ?_⟩
  unfold Iteration.catching
  rw [tryCatch_apply, map_apply, h, hr]
  exact (bind_of_ok ha).trans rfl

theorem Gives.exports (hm : IsModule q n space entries w) (h : Gives entries w names) :
    ∃ w₁, Retains w w₁ ∧ ∀ d, Exports (machine (d + 1)) (.ref q) w names w₁ := by
  have ha (d : Nat) : (machine (d + 1)).attr (.ref q) "__all__" w = _ := Attribute.get_module hm
  rw [Attribute.ofModule?_all] at ha
  cases h with
  | tuple names hl =>
    rw [hl] at ha
    exact ⟨w, .refl w, fun d => .tuple names w (catching_of_ok (ha d))⟩
  | list k names hl hk =>
    rw [hl] at ha
    exact ⟨w, .refl w, fun d => .list k names w (catching_of_ok (ha d)) hk⟩
  | own keys hl hk =>
    rw [hl] at ha
    obtain ⟨w₁, hw, hc⟩ := catching_raise (Attribute.lacks n "__all__") w
    have hkeys := keysOf_module (hm.retained hw)
    rw [hk] at hkeys
    exact ⟨w₁, hw, fun d => .own keys w₁ (hc _ (ha d)) hkeys⟩

end Copying

/-! ### The function and the statement -/

/-- A call of the function that copies the public names of a module, with the level of its statement. -/
def starCall (m : Machine) (name : String) (level : Nat) (r : Ref) : Run Unit :=
  discard (m.call (.native "import_star") [.str name, .int level, .ref r])

/-- The statement that binds the public names of a module. -/
def starStatement (m : Machine) (fr : Frame) (name : String) : Run Unit :=
  discard (m.block fr [.importFrom {} (some name) [⟨{}, "*", none⟩] (some 0)])

theorem starCall_apply (d : Nat) (name : String) (level : Nat) (r : Ref) (w : World) :
    starCall (machine (d + 1)) name level r w =
      copyPublic (machine d) name (.int level) (.ref r) w := by
  have h : starCall (machine (d + 1)) name level r = discard (do
      copyPublic (machine d) name (.int level) (.ref r)
      return Value.none) := rfl
  have hd (y : Run Value) : discard y = (fun _ => ⟨⟩) <$> y := rfl
  rw [h, hd, map_apply, bind_apply]
  cases copyPublic (machine d) name (.int level) (.ref r) w <;> rfl

theorem starStatement_apply (d : Nat) (fr : Frame) (name : String) (w : World) :
    starStatement (machine (d + 1)) fr name w =
      Statement.importFrom (machine d) fr (some name) [⟨{}, "*", none⟩] (some 0) w := by
  let s : Stmt := .importFrom {} (some name) [⟨{}, "*", none⟩] (some 0)
  have hd (y : Run Ending) : discard y = (fun _ => ⟨⟩) <$> y := rfl
  unfold starStatement
  rw [hd, map_apply]
  cases h : Statement.importFrom (machine d) fr (some name) [⟨{}, "*", none⟩] (some 0) w with
  | ok u w' =>
    have hr : Statement.run (machine d) fr s w = .ok .next w' := (bind_of_ok h).trans rfl
    have hb : (machine (d + 1)).block fr [s] w = .ok .next w' := (bind_of_ok hr).trans rfl
    rw [hb]
  | error e w' =>
    have hr : Statement.run (machine d) fr s w = .error e w' := bind_of_error h
    have hb : (machine (d + 1)).block fr [s] w = .error e w' := bind_of_error hr
    rw [hb]

/-- Above the top level nothing is imported. -/
theorem copyPublic_relative {level : Nat} (h : 0 < level) (v : Value) : ∃ k context w',
    copyPublic m name (.int level) v w = .error (.raised (.ref k)) w' ∧
    w'.heap[k]? = some (.exception (.type "ImportError")
      [.str "attempted relative import with no known parent package"] none context false #[]) ∧
    Retains w w' := by
  have ht : Iteration.truth m (.int level) w = .ok true w := by
    have hl : ((level : Int) != 0) = true := by
      simpa using h.ne'
    exact congrArg (EStateM.Result.ok · w) hl
  obtain ⟨w', context, hr, ho, hw⟩ := Run.raise_apply "ImportError"
    "attempted relative import with no known parent package" w
  refine ⟨_, context, w', ?_, ho, hw⟩
  unfold copyPublic
  rw [bind_of_ok ht]
  dsimp only
  rw [if_pos rfl]
  unfold noPackage
  rw [bind_apply, hr]

/-- What a module without a list of names leaves behind. -/
theorem own_settles {n : String} {q space : Ref} {entries es : Array (Value × Value)}
    (hg : Gives entries w names) (h : Space.lookup entries "__all__" = none) :
    (∀ s ∈ names, (Attribute.ofModule? n q space entries s).isSome) ∧
    ∀ t, Space.lookup (putAll (Attribute.ofModule? n q space entries) es names) t =
      (if isPrivate t then none else Space.lookup entries t).or (Space.lookup es t) := by
  cases hg with
  | tuple _ hl =>
    rw [h] at hl
    cases hl
  | list _ _ hl _ =>
    rw [h] at hl
    cases hl
  | own keys _ hk =>
    have hmem (t : String) : t ∈ publicOf keys ↔ isPrivate t = false ∧ (Space.lookup entries t).isSome := by
      rw [isSome_lookup, hk]
      unfold publicOf
      simp [and_comm]
    have hall : ∀ s ∈ publicOf keys, (Attribute.ofModule? n q space entries s).isSome := by
      intro s hs
      obtain ⟨hp, ht⟩ := (hmem s).mp hs
      rwa [ofModule?_public hp ht]
    refine ⟨hall, fun t => ?_⟩
    rw [lookup_putAll _ _ hall]
    by_cases ht : t ∈ publicOf keys
    · obtain ⟨hp, hs⟩ := (hmem t).mp ht
      rw [if_pos ht, ofModule?_public hp hs, hp]
      obtain ⟨x, hx⟩ := Option.isSome_iff_exists.mp hs
      simp [hx]
    · rw [if_neg ht]
      cases hp : isPrivate t with
      | true => rfl
      | false =>
        have hn : Space.lookup entries t = none := by
          by_contra hne
          exact ht ((hmem t).mpr ⟨hp, Option.isSome_iff_ne_none.mpr hne⟩)
        rw [hn]
        rfl

/-- The function that stands for a star import in code that returns does what the statement does. Both
give the same answer and leave the same world, whatever the module is and however its attributes are
read. From a module they copy its names in their order, up to the first that it lacks, over what the
namespace has; that name is told by an error. Without a list of names these are exactly those of the
module that do not begin with an underscore. Above the top level the function raises an error and leaves
the namespace as it is. -/
theorem importStar_settles (hb : Statement.mayImport fr w = .ok () w) (hk : fr.kind = .module) :
    (∀ d name v w₁ names w₂, Importable (machine d) name v w w₁ →
      Exports (machine d) v w₁ names w₂ →
      starCall (machine (d + 1)) name 0 fr.globals w =
        starStatement (machine (d + 1)) fr name w) ∧
    (∀ d name q w₁ n space entries names es, Importable (machine d) name (.ref q) w w₁ →
      IsModule q n space entries w₁ → Gives entries w₁ names →
      w.heap[fr.globals]? = some (.dict es) → ToldKeys es →
      let part := Attribute.ofModule? n q space entries
      let found := names.takeWhile fun s => (part s).isSome
      ∃ w' e, Ended n part names w' e ∧
        w'.heap[fr.globals]? = some (.dict (putAll part es found)) ∧
        (∀ t, Space.lookup (putAll part es found) t =
          if t ∈ found then part t else Space.lookup es t) ∧
        (Space.lookup entries "__all__" = none → e = .ok () w' ∧
          ∀ t, Space.lookup (putAll part es found) t =
            (if isPrivate t then none else Space.lookup entries t).or (Space.lookup es t)) ∧
        ∀ d', starCall (machine (d' + 2)) name 0 fr.globals w = e ∧
          starStatement (machine (d' + 2)) fr name w = e) ∧
    ∀ d name level r, 0 < level → ∃ k context w',
      starCall (machine (d + 1)) name level r w = .error (.raised (.ref k)) w' ∧
      w'.heap[k]? = some (.exception (.type "ImportError")
        [.str "attempted relative import with no known parent package"] none context false #[]) ∧
      ∀ es, w.heap[r]? = some (.dict es) → w'.heap[r]? = some (.dict es) := by
  refine ⟨fun d name v w₁ names w₂ hi he => ?_,
    fun d name q w₁ n space entries names es hi hm hg hs ht => ?_, fun d name level r hl => ?_⟩
  · rw [starCall_apply, starStatement_apply, importFrom_eq hb hk hi, starEntries_eq he]
    exact (copyPublic_eq hi).trans (copyFrom_eq he)
  · obtain ⟨w₂, hw, he⟩ := hg.exports hm
    have hretained := (load_retains hi.loaded).trans hw
    have hp : Poised n q space fr.globals (Attribute.ofModule? n q space entries) es w₂ :=
      ⟨⟨entries, hm.retained hw, fun _ => rfl⟩, hretained.same hs rfl, ht⟩
    obtain ⟨w', e, hended, hspace, hcopy⟩ := hp.ends names
    refine ⟨w', e, hended, hspace, fun t => ?_, fun hall => ?_, fun d' => ?_⟩
    · refine lookup_putAll _ _ (fun s hs => ?_) es t
      exact List.mem_takeWhile_imp (p := fun s => (Attribute.ofModule? n q space entries s).isSome) hs
    · obtain ⟨hfound, hlook⟩ := own_settles hg hall
      refine ⟨?_, fun t => ?_⟩
      · cases hended with
        | all _ => rfl
        | lacking s _ _ hf _ =>
          have hn := List.find?_some hf
          have hs := hfound s (List.mem_of_find?_eq_some hf)
          rw [Option.isNone_iff_eq_none.mp hn] at hs
          cases hs
      · rw [List.takeWhile_eq_self_iff.mpr hfound]
        exact hlook t
    · have hi' : Importable (machine (d' + 1)) name (.ref q) w w₁ :=
        ⟨hi.named, hi.absolute, load_ok_of hi.loaded _⟩
      rw [starCall_apply, starStatement_apply, importFrom_eq hb hk hi', starEntries_eq (he d')]
      exact ⟨(copyPublic_eq hi').trans ((copyFrom_eq (he d')).trans (hcopy d')), hcopy d'⟩
  · obtain ⟨k, context, w', hr, ho, hw⟩ := copyPublic_relative hl (.ref r)
    exact ⟨k, context, w', (starCall_apply ..).trans hr, ho, fun es he => hw.same he rfl⟩

/-- A module that lists two of its names, and a namespace with a name of its own. -/
def listedNames : World where
  heap := #[
    .dict #[(.str "a", .int 1), (.str "_b", .int 2), (.str "__all__", .tuple [.str "_b", .str "a"])],
    .module "m" 0,
    .dict #[(.str "a", .int 0), (.str "c", .int 3)]]
  modules := [("os", .none), ("m", .ref 1)]

/-- Code of the module with that namespace. -/
def besideNames : Frame where
  kind := .module
  globals := 2
  builtins := none
  scope := none
  closure := none
  names := { locals := [], globals := [], outer := [] }
  space := none
  owner := none
  privateTo := none
  firstParam := none
  path := ""

theorem listedNames_imported : Statement.mayImport besideNames listedNames = .ok () listedNames ∧
    besideNames.kind = .module ∧ ∃ w', starCall (machine 2) "m" 0 2 listedNames = .ok () w' ∧
      starStatement (machine 2) besideNames "m" listedNames = .ok () w' ∧
      w'.heap[2]? = some (.dict #[(.str "a", .int 1), (.str "c", .int 3), (.str "_b", .int 2)]) := by
  have hb : Statement.mayImport besideNames listedNames = .ok () listedNames := rfl
  obtain ⟨-, h, -⟩ := importStar_settles hb rfl
  have hi : Importable (machine 0) "m" (.ref 1) listedNames listedNames :=
    ⟨by decide, by decide, load_eq_ok.mpr ⟨listedNames, rfl, rfl⟩⟩
  obtain ⟨w', e, hended, hspace, -, -, hboth⟩ := h 0 "m" 1 listedNames "m" 0 _ ["_b", "a"] _ hi
    ⟨⟨0, rfl, rfl⟩, rfl⟩ (.tuple _ rfl) rfl ((ScalarKeys.empty.push rfl).push rfl).told
  cases hended with
  | all _ =>
    refine ⟨hb, rfl, w', (hboth 0).1, (hboth 0).2, hspace.trans ?_⟩
    simp [putAll, Space.put, Space.isName, Attribute.ofModule?, Attribute.ofDictionary, Space.lookup,
      List.findIdx?_cons]
  | lacking _ _ _ hf _ => cases hf

/-! ### Keys that are no texts -/

section Keys

variable {n : String} {q space : Ref} {entries es : Array (Value × Value)} {keys : List String}
  {rest : List Value} {i : Int}

theorem attr_startswith (d : Nat) (i : Int) (w : World) :
    (machine (d + 1)).attr (.int i) "startswith" w =
      Run.raise "AttributeError" "'int' object has no attribute 'startswith'" w := by
  have hp : Part.plain? (.int i) "startswith" = none := by
    unfold Part.plain?
    rfl
  have hc : Part.ofCallable? (.int i) "startswith" w = .ok none w := by
    unfold Part.ofCallable?
    rfl
  have hk : Kind.of (.int i) w = .ok (.type "int") w := rfl
  have hn : ¬ (("startswith" == "__new__") = true) := by decide
  have hcls : ¬ (("startswith" == "__class__") = true) := by decide
  have hb : Attribute.ofBuiltin (.int i) "startswith" w = .ok none w := by
    unfold Attribute.ofBuiltin
    simp only [hp]
    refine (bind_of_ok hc).trans ((bind_of_ok hk).trans ?_)
    dsimp only
    rw [if_neg hn, Attribute.hasMethod_int_startswith]
    rfl
  have hd : Run.deref (.int i) w = .ok none w := rfl
  have hf : Attribute.find? (machine d) (.int i) "startswith" w = .ok none w := by
    unfold Attribute.find? Attribute.plain?
    dsimp only
    rw [if_neg hcls]
    refine (bind_of_ok hd).trans ?_
    simp only [pure_bind]
    exact hb
  have hm : (Attribute.missing (.int i) "startswith" : Run Value) w =
      Run.raise "AttributeError" "'int' object has no attribute 'startswith'" w := by
    obtain ⟨b, hi⟩ := Kind.isA_eq (.int i) "OSError" w
    have hfault : Attribute.isFault (.int i) w = .ok (false && b) w :=
      (bind_of_ok hd).trans (bind_of_ok hi)
    have hname : Kind.name (.int i) w = .ok "int" w := rfl
    have hw : ("startswith" == "characters_written") = false := by decide
    unfold Attribute.missing
    refine (bind_of_ok hd).trans ((bind_of_ok hname).trans ?_)
    simp only [pure_bind]
    refine (bind_of_ok hfault).trans ?_
    rw [hw, Bool.false_and]
    rfl
  exact (bind_of_ok hf).trans hm

theorem publicNames_number {e : Stop} (hk : keysOf v w = .ok (keys.map .str ++ .int i :: rest) w)
    (ha : m.attr (.int i) "startswith" w = .error e w') : publicNames m v w = .error e w' := by
  have hs : startsLow m (.int i) w = .error e w' := by
    unfold startsLow
    exact bind_of_error ha
  unfold publicNames List.filterM
  rw [bind_of_ok hk, filterAuxM_texts, List.filterAuxM]
  exact bind_of_error (bind_of_error (bind_of_error hs))

theorem shownName_module (hm : IsModule q n space entries w) : shownName (.ref q) w = .ok n w := by
  obtain ⟨own, h, -⟩ := hm.object
  exact (bind_of_ok (Run.deref_of h)).trans rfl

/-- What the statement says of a key that is no text. -/
def wrongKey (n kind : String) : String := s!"Key in {n}.__dict__ must be str, not {kind}"

/-- Where a module has a number for a key, the function asks the number whether it begins with an
underscore, and copies nothing; the statement copies the names before the number. -/
theorem number_apart (d : Nat) (hb : Statement.mayImport fr w = .ok () w) (hk : fr.kind = .module)
    (hi : Importable (machine (d + 1)) name (.ref q) w w₁) (hm : IsModule q n space entries w₁)
    (hall : Space.lookup entries "__all__" = none)
    (hkeys : entries.toList.map (·.1) = keys.map .str ++ .int i :: rest)
    (hs : w.heap[fr.globals]? = some (.dict es)) (ht : ToldKeys es) :
    (∃ k context w', starCall (machine (d + 2)) name 0 fr.globals w = .error (.raised (.ref k)) w' ∧
      w'.heap[k]? = some (.exception (.type "AttributeError")
        [.str "'int' object has no attribute 'startswith'"] none context false #[]) ∧
      w'.heap[fr.globals]? = some (.dict es)) ∧
    ∃ k context w', starStatement (machine (d + 2)) fr name w = .error (.raised (.ref k)) w' ∧
      w'.heap[k]? = some (.exception (.type "TypeError")
        [.str (wrongKey n "int")] none context false #[]) ∧
      w'.heap[fr.globals]? =
        some (.dict (putAll (Attribute.ofModule? n q space entries) es (publicOf keys))) := by
  obtain ⟨w₂, hw, hc⟩ := catching_raise (Attribute.lacks n "__all__") w₁
  have ha : (machine (d + 1)).attr (.ref q) "__all__" w₁ = _ := Attribute.get_module hm
  rw [Attribute.ofModule?_all, hall] at ha
  have hnone := hc _ ha
  have hread := keysOf_module (hm.retained hw)
  rw [hkeys] at hread
  have hspace : w₂.heap[fr.globals]? = some (.dict es) :=
    ((load_retains hi.loaded).trans hw).same hs rfl
  constructor
  · obtain ⟨w', context, hr, ho, hw'⟩ := Run.raise_apply "AttributeError"
      "'int' object has no attribute 'startswith'" w₂
    refine ⟨_, context, w', ?_, ho, hw'.same hspace rfl⟩
    refine (starCall_apply ..).trans ((copyPublic_eq hi).trans ?_)
    unfold copyFrom
    refine (bind_of_ok hnone).trans ?_
    exact bind_of_error (publicNames_number hread ((attr_startswith d i w₂).trans (hr Value)))
  · have hp : Poised n q space fr.globals (Attribute.ofModule? n q space entries) es w₂ :=
      ⟨⟨entries, hm.retained hw, fun _ => rfl⟩, hspace, ht⟩
    have hfound : ∀ s ∈ publicOf keys, (Attribute.ofModule? n q space entries s).isSome := by
      intro s hs
      unfold publicOf at hs
      obtain ⟨hmem, hpub⟩ := List.mem_filter.mp hs
      have hsome : (Space.lookup entries s).isSome := by
        rw [isSome_lookup, hkeys]
        simp [hmem]
      rwa [ofModule?_public (by simpa using hpub) hsome]
    have hcopy := copyNames_poised hp d (publicOf keys)
    dsimp only at hcopy
    have hnothing : (publicOf keys).find? (fun s =>
        (Attribute.ofModule? n q space entries s).isNone) = none :=
      List.find?_eq_none.mpr fun s hs => by simpa [Option.isSome_iff_ne_none] using hfound s hs
    rw [List.takeWhile_eq_self_iff.mpr hfound, hnothing] at hcopy
    let w₃ := w₂.withEntries fr.globals
      (putAll (Attribute.ofModule? n q space entries) es (publicOf keys))
    have hself : w₃.heap[fr.globals]? = some (.dict _) := World.withEntries_self hspace
    obtain ⟨w', context, hr, ho, hw'⟩ := Run.raise_apply "TypeError" (wrongKey n "int") w₃
    refine ⟨_, context, w', ?_, ho, hw'.same hself rfl⟩
    have hname : Kind.name (.int i) w₃ = .ok "int" w₃ := rfl
    rw [starStatement_apply, importFrom_eq hb hk hi]
    unfold starEntries
    refine (bind_of_ok (shownName_module hm)).trans ((bind_of_ok hnone).trans
      ((bind_of_ok hread).trans ?_))
    rw [forIn_publicOf (m := machine (d + 1)) (v := .ref q) (r := fr.globals) fun s => ?_]
    · rw [bind_pure_unit, List.forIn_cons]
      refine (bind_of_ok hcopy).trans ?_
      simp only [bind_assoc]
      refine (bind_of_ok hname).trans ?_
      exact bind_of_error (hr Unit)
    · dsimp only
      cases isPrivate s <;> rfl

end Keys

/-- A module that has a name before a number. -/
def numberedNames : World where
  heap := #[.dict #[(.str "a", .int 1), (.int 1, .int 2)], .module "m" 0, .dict #[]]
  modules := [("os", .none), ("m", .ref 1)]

theorem numberKey_differs :
    (∃ k context w', starCall (machine 2) "m" 0 2 numberedNames = .error (.raised (.ref k)) w' ∧
      w'.heap[k]? = some (.exception (.type "AttributeError")
        [.str "'int' object has no attribute 'startswith'"] none context false #[]) ∧
      w'.heap[2]? = some (.dict #[])) ∧
    ∃ k context w', starStatement (machine 2) besideNames "m" numberedNames =
        .error (.raised (.ref k)) w' ∧
      w'.heap[k]? = some (.exception (.type "TypeError")
        [.str "Key in m.__dict__ must be str, not int"] none context false #[]) ∧
      w'.heap[2]? = some (.dict #[(.str "a", .int 1)]) := by
  have hi : Importable (machine 1) "m" (.ref 1) numberedNames numberedNames :=
    ⟨by decide, by decide, load_eq_ok.mpr ⟨numberedNames, rfl, rfl⟩⟩
  have hb : Statement.mayImport besideNames numberedNames = .ok () numberedNames := rfl
  have hkeys : [(Value.str "a", Value.int 1), (.int 1, .int 2)].map (·.1) =
      ["a"].map Value.str ++ .int 1 :: [] := rfl
  obtain ⟨hcall, k, context, w', hstatement, hkey, hspace⟩ := number_apart 0 hb rfl hi
    ⟨⟨0, rfl, rfl⟩, rfl⟩ rfl hkeys rfl ScalarKeys.empty.told
  refine ⟨hcall, k, context, w', hstatement, hkey, hspace.trans ?_⟩
  simp [putAll, publicOf, isPrivate, Space.put, Attribute.ofModule?, Attribute.ofDictionary,
    Space.lookup, Space.isName]

end Import

end LiveMarkdown.Script
