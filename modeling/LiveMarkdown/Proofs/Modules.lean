import LiveMarkdown.Proofs.Scalars
import LiveMarkdown.Proofs.Switch

/-!
What stays in the heap. An exception that is raised is a new object, and changes no more than the
contexts of those that are there; a module that is loaded is made of new objects. Everything else stays
as it is.
-/

namespace LiveMarkdown

namespace Script

/-- An object without the exception during whose handling it was raised. -/
def Object.withoutContext : Object → Object
  | .exception c args cause _ suppressed fields => .exception c args cause none suppressed fields
  | o => o

def Object.isException : Object → Bool
  | .exception .. => true
  | _ => false

theorem Object.withoutContext_of {o : Object} (h : o.isException = false) : o.withoutContext = o := by
  unfold withoutContext
  split
  · cases h
  · rfl

theorem Object.isException_withoutContext (o : Object) :
    o.withoutContext.isException = o.isException := by
  unfold withoutContext
  split <;> rfl

/-- All objects of a world are there in another one, and only the contexts of exceptions may differ. The
dictionary of the built-in names, once it is there, stays. -/
structure Retains (w w' : World) : Prop where
  heap : ∀ (k : Ref) (o : Object), w.heap[k]? = some o →
    ∃ o' : Object, w'.heap[k]? = some o' ∧ o'.withoutContext = o.withoutContext
  builtins : ∀ r, w.builtins = some r → w'.builtins = some r

section Retains

variable {w w₁ w₂ : World} {k : Ref} {o : Object}

theorem Retains.refl (w : World) : Retains w w := ⟨fun _ o h => ⟨o, h, rfl⟩, fun _ h => h⟩

theorem Retains.trans (h : Retains w w₁) (h' : Retains w₁ w₂) : Retains w w₂ := by
  refine ⟨fun k o ho => ?_, fun r hr => h'.builtins r (h.builtins r hr)⟩
  obtain ⟨o₁, h₁, he₁⟩ := h.heap k o ho
  obtain ⟨o₂, h₂, he₂⟩ := h'.heap k o₁ h₁
  exact ⟨o₂, h₂, he₂.trans he₁⟩

theorem Retains.push (o : Object) : Retains w { w with heap := w.heap.push o } := by
  refine ⟨fun k o' h => ⟨o', ?_, rfl⟩, fun _ h => h⟩
  obtain ⟨hk, -⟩ := Array.getElem?_eq_some_iff.mp h
  rw [← h, Array.getElem?_push_lt hk, Array.getElem?_eq_getElem hk]

/-- What is no exception stays the same. -/
theorem Retains.same (h : Retains w w₁) (ho : w.heap[k]? = some o) (he : o.isException = false) :
    w₁.heap[k]? = some o := by
  obtain ⟨o', h', heq⟩ := h.heap k o ho
  have hn : o'.isException = false := by
    rw [← o'.isException_withoutContext, heq, o.isException_withoutContext, he]
  rw [h', ← Object.withoutContext_of hn, heq, Object.withoutContext_of he]

/-- An exception stays the same but for its context. -/
theorem Retains.exception {cls : Value} {args : List Value} {cause context : Option Value}
    {suppressed : Bool} {fields : Array (String × Value)} (h : Retains w w₁)
    (ho : w.heap[k]? = some (.exception cls args cause context suppressed fields)) :
    ∃ context', w₁.heap[k]? = some (.exception cls args cause context' suppressed fields) := by
  obtain ⟨o', h', heq⟩ := h.heap k _ ho
  rw [h']
  unfold Object.withoutContext at heq
  split at heq
  · cases heq
    exact ⟨_, rfl⟩
  · subst heq
    exact ⟨_, rfl⟩

end Retains

end Script

open Script (Run World Stop Value Ref Object Retains)

/-- The world in which a computation ends. -/
def worldAfter {α : Type} : EStateM.Result Stop World α → World
  | .ok _ w => w
  | .error _ w => w

/-- A computation retains what is there. -/
def Retaining {α : Type} (x : Run α) : Prop := ∀ w, Retains w (worldAfter (x w))

section Retaining

variable {α β : Type} {x : Run α} {f : α → Run β}

theorem Reads.retaining (h : Reads x) : Retaining x := by
  intro w
  obtain ⟨a, ha⟩ := h w
  rw [ha]
  exact .refl w

theorem Retaining.pure (a : α) : Retaining (pure a) := fun w => .refl w

theorem Retaining.bind (hx : Retaining x) (hf : ∀ a, Retaining (f a)) : Retaining (x >>= f) := by
  intro w
  have hw := hx w
  rw [bind_apply]
  cases h : x w with
  | error e w₁ => rwa [h] at hw
  | ok a w₁ =>
    rw [h] at hw
    exact hw.trans (hf a w₁)

theorem Retaining.of_ok {a : α} {w w' : World} (h : Retaining x) (hx : x w = .ok a w') :
    Retains w w' := by
  have hw := h w
  rwa [hx] at hw

theorem Retaining.discard (hx : Retaining x) : Retaining (Functor.discard x) := by
  intro w
  have hw := hx w
  have hd : Functor.discard x = (fun _ => ⟨⟩) <$> x := rfl
  rw [hd, map_apply]
  cases h : x w <;> rwa [h] at hw

theorem Retaining.mapM {g : β → Run α} (h : ∀ b, Retaining (g b)) (bs : List β) :
    Retaining (bs.mapM g) := by
  induction bs with
  | nil => exact .pure _
  | cons b bs ih =>
    rw [List.mapM_cons]
    exact (h b).bind fun _ => ih.bind fun _ => .pure _

end Retaining

namespace Script

namespace Run

theorem alloc_retaining (o : Object) : Retaining (alloc o) := fun _ => .push o

theorem new_retaining (o : Object) : Retaining (new o) :=
  (alloc_retaining o).bind fun _ => .pure _

theorem setContext_retaining (e : Ref) (c : Option Ref) : Retaining (setContext e c) := by
  intro w
  have ho : object? e w = .ok w.heap[e]? w := rfl
  unfold setContext
  rw [bind_of_ok ho]
  cases h : w.heap[e]? with
  | none => exact .refl w
  | some o =>
  cases o with
  | exception cls args cause old suppressed fields =>
    refine ⟨fun k o hk => ?_, fun _ h => h⟩
    change ∃ o', (w.heap.set! e _)[k]? = some o' ∧ _
    rw [Array.set!_eq_setIfInBounds, Array.getElem?_setIfInBounds]
    by_cases he : e = k
    · subst he
      have hlt : e < w.heap.size := (Array.getElem?_eq_some_iff.mp hk).1
      rw [h] at hk
      cases hk
      exact ⟨.exception cls args cause (c.map .ref) suppressed fields, by simp [hlt], rfl⟩
    · exact ⟨o, by simpa [he] using hk, rfl⟩
  | _ => exact .refl w

theorem unlinkContext_retaining (e : Ref) (fuel : Nat) (r : Ref) :
    Retaining (unlinkContext e fuel r) := by
  induction fuel generalizing r with
  | zero => exact .pure _
  | succ fuel ih =>
    refine (context?_reads r).retaining.bind fun c => ?_
    cases c with
    | none => exact .pure _
    | some c =>
      dsimp only
      split
      · exact setContext_retaining r none
      · exact ih c

/-- What is thrown is raised as it is, whatever is being handled. -/
theorem throwValue_apply (e : Value) (w : World) : ∃ w',
    (∀ α, (throwValue e : Run α) w = .error (.raised e) w') ∧ Retains w w' := by
  by_cases hh : ∃ r h hs, e = .ref r ∧ w.handling = .ref h :: hs ∧ r ≠ h
  · obtain ⟨r, h, hs, rfl, hw, hne⟩ := hh
    obtain ⟨_, w₁, -, h₁, -⟩ := unlinkContext_grows r w.heap.size h w
    obtain ⟨_, w₂, -, h₂, -⟩ := setContext_grows r (some h) w₁
    refine ⟨w₂, fun α => ?_,
      ((unlinkContext_retaining r _ h).of_ok h₁).trans ((setContext_retaining r _).of_ok h₂)⟩
    unfold throwValue
    rw [bind_of_ok get_apply, hw]
    dsimp only
    rw [if_pos hne]
    exact (bind_of_ok get_apply).trans ((bind_of_ok h₁).trans (bind_of_ok h₂))
  · refine ⟨w, fun α => ?_, .refl w⟩
    unfold throwValue
    rw [bind_of_ok get_apply]
    cases e with
    | ref r =>
      rcases hw : w.handling with - | ⟨h, hs⟩
      · rfl
      cases h with
      | ref h =>
        have hne : r = h := by
          by_contra hne
          exact hh ⟨r, h, hs, rfl, hw, hne⟩
        dsimp only
        rw [if_neg (not_not.mpr hne)]
        rfl
      | _ => rfl
    | _ => rfl

/-- What is raised is a new object of its class, with its message. -/
theorem raise_apply (cls message : String) (w : World) : ∃ w' context,
    (∀ α, (raise cls message : Run α) w = .error (.raised (.ref w.heap.size)) w') ∧
    w'.heap[w.heap.size]? =
      some (.exception (.type cls) [.str message] none context false #[]) ∧ Retains w w' := by
  let o : Object := .exception (.type cls) [.str message] none none false #[]
  let w₁ : World := { w with heap := w.heap.push o }
  have hn : new o w = .ok (.ref w.heap.size) w₁ := rfl
  have ho : w₁.heap[w.heap.size]? = some o := by simp [w₁]
  obtain ⟨w', ht, hr⟩ := throwValue_apply (.ref w.heap.size) w₁
  obtain ⟨context, hc⟩ := hr.exception ho
  refine ⟨w', context, fun α => ?_, hc, (Retains.push o).trans hr⟩
  unfold raise raiseWith
  rw [bind_of_ok hn, ht]

end Run

namespace Import

variable {m : Machine} {name : String} {v : Value} {w w' : World}

theorem remember_retaining (name : String) (v : Value) : Retaining (remember name v) :=
  fun _ => ⟨fun _ o h => ⟨o, h, rfl⟩, fun _ h => h⟩

theorem newModule_retaining (name : String) (entries : List (String × Value)) :
    Retaining (newModule name entries) :=
  (Run.alloc_retaining _).bind fun _ => Run.new_retaining _

theorem known?_retaining (name : String) : Retaining (known? name) := by
  have hnew (entries : List (String × Value)) : Retaining (do
      return some (← remember name (← newModule name entries))) :=
    (newModule_retaining _ _).bind fun _ => (remember_retaining _ _).bind fun _ => .pure _
  have hget : Retaining (get : Run World) := fun w => .refl w
  unfold known?
  refine hget.bind fun w => ?_
  split
  · exact .pure _
  split
  · exact hnew _
  · exact hnew _
  · exact (newModule_retaining _ _).bind fun _ => (remember_retaining _ _).bind fun _ => hnew _
  · exact (Retaining.mapM (fun n => (Run.new_retaining _).bind fun _ => .pure _) _).bind fun _ =>
      hnew _
  · exact .pure _

theorem notFound_ne_ok {α : Type} {message : String} {a : α} :
    notFound name message w ≠ .ok a w' := by
  intro h
  obtain ⟨v, w₁, -, h⟩ := bind_eq_ok.mp h
  obtain ⟨w₂, ht, -⟩ := Run.throwValue_apply v w₁
  rw [ht] at h
  cases h

/-- A module that is loaded is one that is known, once those that are always there are. -/
theorem load_eq_ok : load m name w = .ok v w' ↔
    ∃ w₁, prepare name w = .ok () w₁ ∧ known? name w₁ = .ok (some v) w' := by
  unfold load
  rw [loadWith]
  constructor
  · intro h
    obtain ⟨_, w₁, h₁, h⟩ := bind_eq_ok.mp h
    obtain ⟨x, w₂, h₂, h⟩ := bind_eq_ok.mp h
    cases x with
    | some x =>
      cases h
      exact ⟨w₁, h₁, h₂⟩
    | none =>
      dsimp only at h
      cases ho : outer? name with
      | none =>
        rw [ho] at h
        exact absurd h notFound_ne_ok
      | some o =>
        rw [ho] at h
        obtain ⟨_, w₃, -, h⟩ := bind_eq_ok.mp h
        obtain ⟨x, w₄, -, h⟩ := bind_eq_ok.mp h
        cases x <;> exact absurd h notFound_ne_ok
  · rintro ⟨w₁, h₁, h₂⟩
    exact (bind_of_ok h₁).trans (bind_of_ok h₂)

theorem prepare_retaining (name : String) : Retaining (prepare name) := by
  have hs : Retaining Builtin.space := by
    intro w
    unfold Builtin.space
    rw [bind_of_ok get_apply]
    cases hb : w.builtins with
    | some r => exact .refl w
    | none => exact ⟨(Retains.push _).heap, fun r hr => by rw [hb] at hr; cases hr⟩
  unfold prepare
  refine (known?_retaining _).discard.bind fun _ => ?_
  split
  · exact hs.discard
  · exact .pure _

/-- What is loaded does not depend on the machine. -/
theorem load_ok_of (h : load m name w = .ok v w') (m' : Machine) : load m' name w = .ok v w' :=
  load_eq_ok.mpr (load_eq_ok.mp h)

theorem load_retains (h : load m name w = .ok v w') : Retains w w' := by
  obtain ⟨w₁, h₁, h₂⟩ := load_eq_ok.mp h
  exact ((prepare_retaining _).of_ok h₁).trans ((known?_retaining _).of_ok h₂)

end Import

end Script

end LiveMarkdown

/-!
The attributes of modules, and names that are set in the namespace of a module.
-/

namespace LiveMarkdown.Script

/-- A module in the heap with the dictionary of its names. The built-in names have one dictionary,
whatever module they are read from. -/
structure IsModule (q : Ref) (n : String) (space : Ref) (entries : Array (Value × Value))
    (w : World) : Prop where
  object : ∃ own, w.heap[q]? = some (.module n own) ∧
    if n = "builtins" then w.builtins = some space else own = space
  entries : w.heap[space]? = some (.dict entries)

theorem IsModule.retained {q space : Ref} {n : String} {entries : Array (Value × Value)}
    {w w₁ : World} (h : IsModule q n space entries w) (hw : Retains w w₁) :
    IsModule q n space entries w₁ := by
  obtain ⟨own, ho, hown⟩ := h.object
  refine ⟨⟨own, hw.same ho rfl, ?_⟩, hw.same h.entries rfl⟩
  split
  · rename_i hn
    rw [if_pos hn] at hown
    exact hw.builtins space hown
  · rename_i hn
    rwa [if_neg hn] at hown

section Dictionary

variable {w : World} {space : Ref} {name : String} {entries : Array (Value × Value)}

theorem Space.entries_dict (he : w.heap[space]? = some (.dict entries)) :
    Space.entries space w = .ok entries w := (bind_of_ok (Run.object?_of he)).trans rfl

theorem Space.get?_dict (he : w.heap[space]? = some (.dict entries)) :
    Space.get? space name w = .ok (Space.lookup entries name) w :=
  (bind_of_ok (Space.entries_dict he)).trans rfl

theorem Builtin.space_known (hb : w.builtins = some space) : Builtin.space w = .ok space w := by
  unfold Builtin.space
  rw [bind_of_ok get_apply, hb]
  rfl

theorem Builtin.find?_known (hb : w.builtins = some space)
    (he : w.heap[space]? = some (.dict entries)) :
    Builtin.find? name w = .ok (Space.lookup entries name) w := by
  unfold Builtin.find?
  rw [bind_of_ok get_apply, hb]
  exact Space.get?_dict he

end Dictionary

namespace Attribute

/-- What a module has under a name that its dictionary lacks. -/
def ofHeader (n : String) (space : Ref) (name : String) : Option Value :=
  match name with
  | "__name__" => some (.str n)
  | "__dict__" => some (.ref space)
  | "__doc__" | "__loader__" | "__spec__" => some .none
  | "__package__" => some (.str "")
  | _ => none

/-- What a module has under a name by itself. -/
def ofDictionary (n : String) (space : Ref) (entries : Array (Value × Value)) (name : String) :
    Option Value :=
  if n = "builtins" then
    if name = "__dict__" then some (.ref space) else Space.lookup entries name
  else (Space.lookup entries name).or (ofHeader n space name)

/-- What a module has under a name by its class. -/
def ofModuleClass (q : Ref) (name : String) : Option Value :=
  if name == "__new__" then some (newMethod ((builtinOrder "module").map .type))
  else if hasMethod "module" name then some (.method (.ref q) name)
  else match name with
    | "__doc__" => some .none
    | "__hash__" => if (Part.ownerOf? "module" name).isSome then some .none else none
    | _ => none

/-- What a module has under a name: its class, what it has by itself, or what every module has. -/
def ofModule? (n : String) (q space : Ref) (entries : Array (Value × Value)) (name : String) :
    Option Value :=
  if name == "__class__" then some (.type "module")
  else (ofDictionary n space entries name).or (ofModuleClass q name)

/-- What the error says when a module lacks a name. -/
def lacks (n name : String) : String := s!"module '{n}' has no attribute '{name}'"

variable {m : Machine} {w : World} {q space own : Ref} {n name : String}
  {entries : Array (Value × Value)}

theorem ofObject_module {v : Value}
    (ho : if n = "builtins" then w.builtins = some space else own = space)
    (he : w.heap[space]? = some (.dict entries)) : ofObject m v (.module n own) name w =
      .ok (ofDictionary n space entries name) w := by
  unfold ofDictionary
  generalize hx : ofObject m v (.module n own) name = x
  unfold ofObject at hx
  split at hx
  case h_4 h =>
    cases h
    rw [if_pos rfl] at ho
    rw [if_pos rfl]
    split at hx
    · subst hx
      exact (bind_of_ok (Builtin.space_known ho)).trans rfl
    · rename_i hd
      subst hx
      rw [if_neg hd]
      exact Builtin.find?_known ho he
  case h_5 hn h =>
    cases h
    rw [if_neg hn] at ho
    rw [if_neg hn]
    subst ho hx
    refine (bind_of_ok (Space.get?_dict he)).trans ?_
    cases Space.lookup entries name with
    | some x => rfl
    | none =>
      dsimp only
      unfold ofHeader
      split
      case h_7 => simp [*]
      all_goals rfl
  case h_12 h _ _ _ _ _ _ => exact absurd rfl (h n own)
  all_goals contradiction

theorem of_module (h : w.heap[q]? = some (.module n own)) :
    Kind.of (.ref q) w = .ok (.type "module") w := (bind_of_ok (Run.object?_of h)).trans rfl

theorem ofBuiltin_module (h : w.heap[q]? = some (.module n own)) :
    ofBuiltin (.ref q) name w = .ok (ofModuleClass q name) w := by
  have hp : Part.plain? (.ref q) name = none := by
    unfold Part.plain?
    rfl
  have hc : Part.ofCallable? (.ref q) name w = .ok none w := by
    unfold Part.ofCallable?
    rfl
  unfold ofBuiltin
  simp only [hp]
  refine (bind_of_ok hc).trans ((bind_of_ok (of_module h)).trans ?_)
  dsimp only
  unfold ofModuleClass
  by_cases h₁ : name == "__new__"
  · rw [if_pos h₁, if_pos h₁]
    rfl
  by_cases h₂ : hasMethod "module" name
  · rw [if_neg h₁, if_neg h₁, if_pos h₂, if_pos h₂]
    rfl
  rw [if_neg h₁, if_neg h₁, if_neg h₂, if_neg h₂]
  by_cases h₃ : name = "__module__"
  · subst h₃
    have hw : Hierarchy.isWritten "module" = false := by decide
    obtain ⟨s, hs⟩ : ∃ s, ofBuiltinClass "module" "__module__" w = .ok (some (.str s)) w := ⟨_, rfl⟩
    refine (bind_of_ok hs).trans ?_
    rw [hw]
    generalize Option.some (Value.str s) = o
    split <;> rfl
  · clear h₁ h₂
    -- The table is not gone through.
    generalize Part.ownerOf? "module" name = o
    split
    any_goals rfl
    · contradiction
    · split
      any_goals contradiction
      rfl

/-- What is read from a module is what it has; nothing changes. -/
theorem find?_module (hm : IsModule q n space entries w) :
    find? m (.ref q) name w = .ok (ofModule? n q space entries name) w := by
  obtain ⟨own, h, ho⟩ := hm.object
  have hp : plain? m (.ref q) name w = .ok (ofModule? n q space entries name) w := by
    unfold plain? ofModule?
    by_cases hc : name == "__class__"
    · rw [if_pos hc, if_pos hc]
      exact (bind_of_ok (of_module h)).trans rfl
    · rw [if_neg hc, if_neg hc]
      refine (bind_of_ok (Run.deref_of h)).trans ((bind_of_ok (ofObject_module ho hm.entries)).trans ?_)
      cases ofDictionary n space entries name with
      | some x => rfl
      | none => exact ofBuiltin_module h
  exact (bind_of_ok (of_module h)).trans hp

theorem missing_module {α : Type} (h : w.heap[q]? = some (.module n own)) :
    (missing (.ref q) name : Run α) w =
      (Run.raise "AttributeError" (lacks n name) : Run α) w := by
  have hf : isFault (.ref q) w = .ok false w := by
    unfold isFault
    obtain ⟨b, hb⟩ := Kind.isA_eq (.ref q) "OSError" w
    exact (bind_of_ok (Run.deref_of h)).trans (bind_of_ok hb)
  unfold missing
  refine (bind_of_ok (Run.deref_of h)).trans ((bind_of_ok hf).trans ?_)
  rw [Bool.and_false]
  rfl

/-- Reading a name from a module gives what it has, or raises an error that tells the module and the
name. -/
theorem get_module (hm : IsModule q n space entries w) : get m (.ref q) name w =
    match ofModule? n q space entries name with
    | some x => .ok x w
    | none => Run.raise "AttributeError" (lacks n name) w := by
  obtain ⟨own, h, -⟩ := hm.object
  unfold get
  refine (bind_of_ok (find?_module hm)).trans ?_
  cases ofModule? n q space entries name with
  | some x => rfl
  | none => exact missing_module h

-- All are looked for at once, since it takes long to go through the table.
theorem rows_lack : (["module", "int", "object"].all fun c => ["__all__", "startswith"].all fun n =>
    !(Member.rows.reverse.find? fun r => Member.holds r.classes c).any fun r =>
      Member.holds r.methods n) = true := by
  decide +kernel

theorem hasMethod_false {cls name : String} (ho : builtinOrder cls = [cls, "object"])
    (hm : methodNames cls = Member.methods cls) (hc : cls ∈ ["module", "int", "object"])
    (hn : name ∈ ["__all__", "startswith"]) : hasMethod cls name = false := by
  have hlack {c : String} (h : c ∈ ["module", "int", "object"]) :
      (Member.methods c).contains name = false := by
    have hr := List.all_eq_true.mp (List.all_eq_true.mp rows_lack c h) name hn
    rw [Member.contains_methods]
    simpa only [Bool.not_eq_true'] using hr
  have hobject : methodNames "object" = Member.methods "object" := rfl
  unfold hasMethod
  rw [ho, List.any_cons, List.any_cons, hm, hobject, hlack hc, hlack (by decide)]
  rfl

theorem hasMethod_module_all : hasMethod "module" "__all__" = false :=
  hasMethod_false (by decide +kernel) rfl (by decide) (by decide)

theorem hasMethod_int_startswith : hasMethod "int" "startswith" = false :=
  hasMethod_false (by decide +kernel) rfl (by decide) (by decide)

/-- A module lists names only if its dictionary says so. -/
theorem ofModule?_all : ofModule? n q space entries "__all__" = Space.lookup entries "__all__" := by
  have hc : ofModuleClass q "__all__" = none := by
    have h : ¬ (("__all__" == "__new__") = true) := by decide
    unfold ofModuleClass
    rw [if_neg h, hasMethod_module_all]
    rfl
  have h : ¬ (("__all__" == "__class__") = true) := by decide
  have hd : ofDictionary n space entries "__all__" = Space.lookup entries "__all__" := by
    have hh : ofHeader n space "__all__" = none := rfl
    have hne : ¬ ("__all__" = "__dict__") := by decide
    unfold ofDictionary
    rw [if_neg hne, hh, Option.or_none, ite_self]
  unfold ofModule?
  rw [if_neg h, hd, hc, Option.or_none]

end Attribute

namespace Space

theorem isName_iff {s : String} {k : Value} : isName s k = true ↔ k = .str s := by
  cases k <;> simp [isName]

/-- Sets a name in a list of entries, as `put` does. -/
def putIn (l : List (Value × Value)) (s : String) (x : Value) : List (Value × Value) :=
  match l.findIdx? fun e => isName s e.1 with
  | some i => l.set i (.str s, x)
  | none => l ++ [(.str s, x)]

theorem toList_put (es : Array (Value × Value)) (s : String) (x : Value) :
    (put es s x).toList = putIn es.toList s x := by
  obtain ⟨l⟩ := es
  unfold put putIn
  rw [List.findIdx?_toArray]
  cases l.findIdx? fun e => isName s e.1 with
  | some i => simp [Array.set!_eq_setIfInBounds]
  | none => simp

theorem putIn_cons (a : Value × Value) (l : List (Value × Value)) (s : String) (x : Value) :
    putIn (a :: l) s x = if isName s a.1 then (.str s, x) :: l else a :: putIn l s x := by
  unfold putIn
  rw [List.findIdx?_cons]
  cases isName s a.1 with
  | true => rfl
  | false => cases l.findIdx? fun e => isName s e.1 <;> simp

theorem find?_putIn (s t : String) (x : Value) (l : List (Value × Value)) :
    (putIn l s x).find? (fun e => isName t e.1) =
      if s = t then some (.str s, x) else l.find? fun e => isName t e.1 := by
  induction l with
  | nil => by_cases h : s = t <;> simp [putIn, isName, h]
  | cons a l ih =>
    rw [putIn_cons]
    by_cases ha : isName s a.1
    · have hk := isName_iff.mp ha
      rw [if_pos ha]
      by_cases h : s = t <;> simp [hk, isName, h]
    · rw [if_neg ha, List.find?_cons, List.find?_cons, ih]
      by_cases h : s = t
      · subst h
        simp [ha]
      · simp [h]

/-- A name that was set has its value; all others have what they had. -/
theorem lookup_put (es : Array (Value × Value)) (s t : String) (x : Value) :
    lookup (put es s x) t = if s = t then some x else lookup es t := by
  unfold lookup
  rw [← Array.find?_toList, ← Array.find?_toList, toList_put, find?_putIn]
  by_cases h : s = t <;> simp [h]

end Space

/-- The world after a namespace was given other entries. -/
def World.withEntries (w : World) (r : Ref) (es : Array (Value × Value)) : World :=
  { w with heap := w.heap.set! r (.dict es) }

section Entries

variable {w : World} {r k : Ref} {o : Object} {es : Array (Value × Value)}

theorem World.withEntries_self (h : w.heap[r]? = some o) :
    (w.withEntries r es).heap[r]? = some (.dict es) := by
  have hlt : r < w.heap.size := (Array.getElem?_eq_some_iff.mp h).1
  unfold withEntries
  rw [Array.set!_eq_setIfInBounds, Array.getElem?_setIfInBounds_self_of_lt hlt]

theorem World.withEntries_ne (h : r ≠ k) : (w.withEntries r es).heap[k]? = w.heap[k]? := by
  unfold withEntries
  rw [Array.set!_eq_setIfInBounds, Array.getElem?_setIfInBounds_ne h]

theorem World.withEntries_same (h : w.heap[r]? = some (.dict es)) : w.withEntries r es = w := by
  have hh : (w.withEntries r es).heap = w.heap := by
    apply Array.ext_getElem?
    intro k
    by_cases hk : r = k
    · subst hk
      rw [withEntries_self h, h]
    · exact withEntries_ne hk
  exact congrArg (fun heap => { w with heap := heap }) hh

theorem World.withEntries_withEntries (es' : Array (Value × Value)) :
    (w.withEntries r es).withEntries r es' = w.withEntries r es' := by
  unfold withEntries
  simp

end Entries

/-- The keys are told apart from texts without a question to a program. -/
def ToldKeys (es : Array (Value × Value)) : Prop := ∀ e ∈ es, ∀ (d : Nat) (s : String) (w : World),
  Comparison.keyEqual (machine (d + 1)) e.1 (.str s) w = .ok (Space.isName s e.1) w

section ToldKeys

variable {es : Array (Value × Value)} {r : Ref} {w : World}

/-- Scalars are told apart from texts. -/
theorem ScalarKeys.told (h : ScalarKeys es) : ToldKeys es :=
  fun e he d s _ => Comparison.keyEqual_text d (h e he) s

theorem ToldKeys.put (h : ToldKeys es) (s : String) (x : Value) : ToldKeys (Space.put es s x) := by
  have hs (d : Nat) (t : String) (w : World) : Comparison.keyEqual (machine (d + 1)) (.str s) (.str t) w =
      .ok (Space.isName t (.str s)) w := rfl
  intro e he
  unfold Space.put at he
  split at he
  · rw [Array.set!_eq_setIfInBounds] at he
    rcases Array.mem_or_eq_of_mem_setIfInBounds he with he | rfl
    · exact h e he
    · exact hs
  · rcases Array.mem_push.mp he with he | rfl
    · exact h e he
    · exact hs

theorem Comparison.putKey_told (h : ToldKeys es) (d : Nat) (s : String) (x : Value) :
    putKey (machine (d + 1)) es (.str s) x w = .ok (Space.put es s x) w := by
  have hf : findKey (machine (d + 1)) es (.str s) w =
      .ok (es.toList.findIdx? fun e => Space.isName s e.1) w := findKey_eq fun e he => h e he d s w
  refine (bind_of_ok hf).trans ?_
  obtain ⟨l⟩ := es
  unfold Space.put
  rw [List.findIdx?_toArray]
  cases hi : l.findIdx? fun e => Space.isName s e.1 with
  | none => rfl
  | some i =>
    obtain ⟨hlt, hs, -⟩ := List.findIdx?_eq_some_iff_getElem.mp hi
    have hk := Space.isName_iff.mp hs
    have he : l.toArray[i]? = some (.str s, l[i].2) := by
      rw [List.getElem?_toArray, List.getElem?_eq_getElem hlt, ← hk]
    dsimp only
    rw [he]
    rfl

/-- A name is set in a namespace where its keys are told apart from texts. -/
theorem Subscript.set_told (h : w.heap[r]? = some (.dict es)) (ht : ToldKeys es) (d : Nat) (s : String)
    (x : Value) : set (machine (d + 1)) (.ref r) (.str s) x w =
      .ok () (w.withEntries r (Space.put es s x)) := by
  have hh : Comparison.hashable (machine (d + 1)) (.str s) w = .ok () w := rfl
  unfold set
  refine (bind_of_ok (Kind.special?_dict h _)).trans ((bind_of_ok (Kind.core_dict h)).trans
    ((bind_of_ok (Run.object?_of h)).trans ((bind_of_ok hh).trans
      ((bind_of_ok (Comparison.putKey_told ht d s x)).trans rfl))))

end ToldKeys

end LiveMarkdown.Script
