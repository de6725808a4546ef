import LiveMarkdown.Proofs.Quiet
import LiveMarkdown.Proofs.Recognition

/-!
How the switch in the metadata of a document is read: by the method `get` of a dictionary. The names
of methods stand in a table, which is first put into a form that can be looked through.
-/

namespace LiveMarkdown

open Script (Value Run World Machine Ref Object)

namespace Script

namespace Member

theorem getElem?_foldl_insert {α : Type} (v : α) (cs : List String) (t : Std.HashMap String α)
    (c : String) :
    (cs.foldl (fun t c => t.insert c v) t)[c]? = if cs.contains c then some v else t[c]? := by
  induction cs generalizing t with
  | nil => rfl
  | cons a cs ih =>
    rw [List.foldl_cons, ih, Std.HashMap.getElem?_insert, List.contains_cons, BEq.comm (a := c)]
    cases cs.contains c <;> cases a == c <;> rfl

/-- What the last row that names a class has for it. -/
def row? (rs : List Row) (c : String) : Option (List String × List String) :=
  (rs.reverse.find? fun r => (words r.classes).contains c).map fun r =>
    (words r.methods, words r.parts)

theorem row?_cons (r : Row) (rs : List Row) (c : String) : row? (r :: rs) c =
    (row? rs c).or (if (words r.classes).contains c then some (words r.methods, words r.parts)
      else none) := by
  unfold row?
  rw [List.reverse_cons, List.find?_append, List.find?_singleton]
  cases List.find? (fun r => (words r.classes).contains c) rs.reverse with
  | some x => rfl
  | none => cases (words r.classes).contains c <;> rfl

theorem table_getElem? (c : String) : table[c]? = row? rows c := by
  have h (rs : List Row) (t : Std.HashMap String (List String × List String)) :
      (rs.foldl (fun t r =>
        let row := (words r.methods, words r.parts)
        (words r.classes).foldl (fun t c => t.insert c row) t) t)[c]? = (row? rs c).or t[c]? := by
    induction rs generalizing t with
    | nil => rfl
    | cons r rs ih =>
      rw [List.foldl_cons, ih, getElem?_foldl_insert, row?_cons, Option.or_assoc]
      cases (words r.classes).contains c <;> rfl
  unfold table
  rw [h, Std.HashMap.getElem?_empty, Option.or_none]

/-- The bytes of a text. -/
def bytes (s : String) : List UInt8 := s.toByteArray.data.toList

theorem bytes_append (s t : String) : bytes (s ++ t) = bytes s ++ bytes t := by
  unfold bytes
  simp

/-- Whether the bytes of a name stand in one of the lines. -/
def mayHold (lines : List String) (name : String) : Bool :=
  lines.any fun l => (bytes l).tails.any fun t => (bytes name).isPrefixOf t

theorem mayHold_of_mem {lines : List String} {name : String} (h : name ∈ words lines) :
    mayHold lines name = true := by
  obtain ⟨l, hl, hw⟩ := List.mem_flatMap.mp h
  obtain ⟨before, after, hcs, -⟩ := (Text.mem_words.mp hw).bounded
  have hs : l = String.ofList before ++ (name ++ String.ofList after) :=
    String.toList_inj.mp (by simpa using hcs)
  refine List.any_eq_true.mpr ⟨l, hl, List.any_eq_true.mpr ⟨bytes name ++ bytes (.ofList after), ?_, ?_⟩⟩
  · rw [List.mem_tails, hs, bytes_append, bytes_append]
    exact List.suffix_append _ _
  · rw [List.isPrefixOf_iff_prefix]
    exact List.prefix_append _ _

/-- Whether a name is one of the words of lines. Only lines that hold its bytes are cut into words, since
that takes long. -/
def holds (lines : List String) (name : String) : Bool :=
  mayHold lines name && (words lines).contains name

theorem holds_eq (lines : List String) (name : String) :
    holds lines name = (words lines).contains name := by
  unfold holds
  cases h : (words lines).contains name with
  | true => rw [mayHold_of_mem (List.contains_iff_mem.mp h), Bool.and_true]
  | false => rw [Bool.and_false]

/-- The methods of a class stand in the last row that names it. -/
theorem contains_methods (cls name : String) : (methods cls).contains name =
    (rows.reverse.find? fun r => holds r.classes cls).any fun r => holds r.methods name := by
  unfold methods
  rw [table_getElem?]
  unfold row?
  simp only [holds_eq]
  cases rows.reverse.find? fun r => (words r.classes).contains cls <;> rfl

end Member

namespace Attribute

theorem hasMethod_dict_get : hasMethod "dict" "get" = true := by
  have h : (Member.methods "dict").contains "get" = true := by
    rw [Member.contains_methods]
    decide +kernel
  have hd : methodNames "dict" = Member.methods "dict" := by
    unfold methodNames
    rfl
  have ho : builtinOrder "dict" = ["dict", "object"] := by
    decide +kernel
  unfold hasMethod
  rw [ho, List.any_cons, hd, h]
  rfl

end Attribute

section Dict

variable {m : Machine} {r : Ref} {w : World} {es : Array (Value × Value)}

theorem Kind.core_dict (h : w.heap[r]? = some (.dict es)) :
    Kind.core (.ref r) w = .ok (.ref r) w := by
  unfold Kind.core
  rw [bind_of_ok (Run.deref_of h)]
  rfl

theorem Kind.of_dict (h : w.heap[r]? = some (.dict es)) :
    Kind.of (.ref r) w = .ok (.type "dict") w := by
  unfold Kind.of
  rw [bind_of_ok (Run.object?_of h)]
  rfl

theorem Kind.special?_dict (h : w.heap[r]? = some (.dict es)) (name : String) :
    Kind.special? (.ref r) name w = .ok none w := by
  unfold Kind.special?
  dsimp only
  rw [bind_of_ok (Kind.of_dict h)]
  rfl

/-- A dictionary counts as true unless it is empty. -/
theorem Iteration.truth_dict (h : w.heap[r]? = some (.dict es)) :
    Iteration.truth m (.ref r) w = .ok ((es.size : Int) != 0) w := by
  have hb : Kind.basic (.ref r) w = .ok (.ref r) w := Kind.core_dict h
  have hl : Iteration.length? m (.ref r) w = .ok (some es.size) w := by
    unfold Iteration.length?
    rw [bind_of_ok (Kind.special?_dict h _)]
    dsimp only
    rw [bind_of_ok hb]
    dsimp only
    rw [bind_of_ok (Run.object?_of h)]
    rfl
  unfold Iteration.truth
  rw [bind_of_ok (Kind.special?_dict h _)]
  dsimp only
  rw [bind_of_ok hl]
  rfl

theorem Attribute.get_dict (h : w.heap[r]? = some (.dict es)) :
    Attribute.get m (.ref r) "get" w = .ok (.method (.ref r) "get") w := by
  have hb : ofBuiltin (.ref r) "get" w = .ok (some (.method (.ref r) "get")) w := by
    have hp : Part.plain? (.ref r) "get" = none := rfl
    have hc : Part.ofCallable? (.ref r) "get" w = .ok none w := rfl
    unfold ofBuiltin
    simp only [hp]
    rw [bind_of_ok hc]
    dsimp only
    rw [bind_of_ok (Kind.of_dict h)]
    simp [hasMethod_dict_get]
  have hp : plain? m (.ref r) "get" w = .ok (some (.method (.ref r) "get")) w := by
    have hn : ¬ ("get" == "__class__") = true := by
      decide
    unfold plain?
    rw [if_neg hn]
    dsimp only
    rw [bind_of_ok (Run.deref_of h)]
    exact hb
  have hf : find? m (.ref r) "get" w = .ok (some (.method (.ref r) "get")) w := by
    unfold find?
    dsimp only
    rw [bind_of_ok (Kind.of_dict h)]
    exact hp
  unfold get
  rw [bind_of_ok hf]
  rfl

end Dict

end Script

namespace DocumentRun

variable {config : Config} {w : World}

/-- Without metadata execution is off. -/
theorem enabledFor_none {m : Machine} : enabledFor m config .none w = .ok false w := rfl

/-- The switch in a dictionary is what its method `get` answers. -/
theorem enabledFor_dict {r : Ref} {es : Array (Value × Value)} (d : Nat)
    (h : w.heap[r]? = some (.dict es)) : enabledFor (Script.machine (d + 1)) config (.ref r) w =
      if es.size = 0 then .ok false w
      else (do return (← (Script.machine (d + 1)).call (.method (.ref r) "get")
        [.str config.enableKey]).same (.bool true)) w := by
  unfold enabledFor
  rw [bind_of_ok (Script.Iteration.truth_dict h)]
  by_cases hs : es.size = 0
  · simp [hs]
  · have ha : (Script.machine (d + 1)).attr (.ref r) "get" w = .ok (.method (.ref r) "get") w :=
      Script.Attribute.get_dict h
    have hn : (!((es.size : Int) != 0)) = false := by
      simp [hs]
    rw [hn, if_neg (by simp), if_neg hs, bind_of_ok ha]

end DocumentRun

/-!
Dictionaries whose keys are scalars. Scalars are compared without a question to a program, so such a
dictionary can be searched at once, and what its method `get` answers for a text is the value of the
entry with that text.
-/

namespace Script

/-- Whether a value is a scalar: a value without parts that is no object. -/
def Value.isScalar : Value → Bool
  | .none | .bool _ | .int _ | .float _ | .str _ | .bytes _ | .date .. | .moment _ => true
  | _ => false

/-- All keys of the entries are scalars. -/
def ScalarKeys (es : Array (Value × Value)) : Prop := ∀ e ∈ es, e.1.isScalar

theorem ScalarKeys.empty : ScalarKeys #[] := fun e he => by simp at he

theorem ScalarKeys.push {es : Array (Value × Value)} {k v : Value} (h : ScalarKeys es)
    (hk : k.isScalar) : ScalarKeys (es.push (k, v)) := by
  intro e he
  rcases Array.mem_push.mp he with he | rfl
  · exact h e he
  · exact hk

theorem ScalarKeys.set {es : Array (Value × Value)} {k v : Value} (h : ScalarKeys es)
    (hk : k.isScalar) (i : Nat) : ScalarKeys (es.set! i (k, v)) := by
  intro e he
  rw [Array.set!_eq_setIfInBounds] at he
  rcases Array.mem_or_eq_of_mem_setIfInBounds he with he | rfl
  · exact h e he
  · exact hk

namespace Comparison

variable {a b k : Value} {m : Machine} {w : World} {es : Array (Value × Value)}

theorem asked_scalar (name : String) (ha : a.isScalar) (b : Value) :
    asked m name a b w = .ok none w := by
  cases a <;> first | rfl | cases ha

theorem basic_scalar (ha : a.isScalar) : Kind.basic a w = .ok a w := by
  cases a <;> first | rfl | cases ha

theorem builtinEqual_reads (m : Machine) (ha : a.isScalar) (hb : b.isScalar) :
    Reads (builtinEqual m a b) := by
  intro w
  unfold builtinEqual
  cases a <;> cases ha <;> cases b <;> cases hb <;> exact ⟨_, rfl⟩

/-- Scalars are compared without a question to a program. -/
theorem compare_scalar (d : Nat) (ha : a.isScalar) (hb : b.isScalar) (w : World) :
    ∃ r, (machine (d + 1)).compare .eq a b w = .ok (.bool r) w := by
  have ho : askedBoth (machine d) .eq a b w = .ok none w := by
    unfold askedBoth
    dsimp only
    rw [bind_of_ok (asked_scalar _ ha b)]
    dsimp only
    rw [bind_of_ok (asked_scalar _ hb a)]
    rfl
  obtain ⟨r, hr⟩ := builtinEqual_reads (machine d) ha hb w
  have hc : (machine (d + 1)).compare .eq a b = apply (machine d) .eq a b := rfl
  rw [hc]
  unfold apply
  dsimp only
  rw [bind_of_ok ho]
  dsimp only
  rw [bind_of_ok (basic_scalar ha), bind_of_ok (basic_scalar hb), bind_of_ok hr]
  cases r with
  | none => exact ⟨_, rfl⟩
  | some r => exact ⟨_, rfl⟩

theorem equal_reads (d : Nat) (ha : a.isScalar) (hb : b.isScalar) :
    Reads (equal (machine (d + 1)) a b) := by
  have hc : Reads ((machine (d + 1)).compare .eq a b >>= Iteration.truth (machine (d + 1))) := by
    intro w
    obtain ⟨r, hr⟩ := compare_scalar d ha hb w
    exact ⟨r, by rw [bind_of_ok hr]; rfl⟩
  unfold equal
  split
  · exact .pure _
  · exact .pure _
  · split <;> exact iteInduction (fun _ => .pure _) fun _ => hc

theorem keyEqual_reads (d : Nat) (ha : a.isScalar) (hb : b.isScalar) :
    Reads (keyEqual (machine (d + 1)) a b) := by
  unfold keyEqual sameOrEqual
  split
  any_goals exact .pure _
  split
  · exact .pure _
  · exact equal_reads d ha hb

/-- Of the scalars only a text itself is the same key as the text. -/
theorem keyEqual_text (d : Nat) (ha : a.isScalar) (t : String) :
    keyEqual (machine (d + 1)) a (.str t) w = .ok (Space.isName t a) w := by
  cases a <;> first | rfl | cases ha

/-! ### The search for a key -/

/-- What the search for a key does at a place. -/
def lookAt (m : Machine) (es : Array (Value × Value)) (k : Value) (i : Nat) :
    Run (ForInStep (Option (Option Nat) × Unit)) := do
  match es[i]? with
  | some (k', _) =>
    if ← keyEqual m k' k then return .done (some (some i), ()) else return .yield (none, ())
  | none => return .yield (none, ())

/-- The search over the entries that are left, where keys can be told apart at once. -/
theorem forIn_lookAt {p : Value × Value → Bool} (h : ∀ e ∈ es, keyEqual m e.1 k w = .ok (p e) w)
    (pre l : List (Value × Value)) (hl : es.toList = pre ++ l) :
    forIn (List.range' pre.length l.length) (none, ()) (fun i _ => lookAt m es k i) w =
      .ok ((l.findIdx? p).map fun i => some (i + pre.length), ()) w := by
  induction l generalizing pre with
  | nil => rfl
  | cons e l ih =>
    have he : es[pre.length]? = some e := by
      rw [← Array.getElem?_toList, hl, List.getElem?_append_right (Nat.le_refl _)]
      simp
    have hm : e ∈ es := Array.mem_of_getElem? he
    have hs : lookAt m es k pre.length w =
        .ok (if p e then .done (some (some pre.length), ()) else .yield (none, ())) w := by
      unfold lookAt
      rw [he]
      dsimp only
      rw [bind_of_ok (h e hm)]
      cases p e <;> rfl
    rw [List.length_cons, List.range'_succ, List.forIn_cons, bind_of_ok hs, List.findIdx?_cons]
    cases hp : p e with
    | true => simp
    | false =>
      have hr := ih (pre ++ [e]) (by simp [hl])
      have hi (i : Nat) : i + (pre.length + 1) = i + 1 + pre.length := by omega
      rw [List.length_append, List.length_singleton] at hr
      simp only [Bool.false_eq_true, if_false]
      rw [hr, Option.map_map]
      simp [Function.comp_def, hi]

/-- Where keys can be told apart at once, the first entry with the key is found. -/
theorem findKey_eq {p : Value × Value → Bool} (h : ∀ e ∈ es, keyEqual m e.1 k w = .ok (p e) w) :
    findKey m es k w = .ok (es.toList.findIdx? p) w := by
  have hl := forIn_lookAt h [] es.toList rfl
  have hn : (es.size - 0 + 1 - 1) / 1 = es.toList.length := by simp
  unfold findKey
  simp only [Std.Legacy.Range.forIn_eq_forIn_range', Std.Legacy.Range.size]
  rw [hn]
  refine (bind_of_ok hl).trans ?_
  cases List.findIdx? p es.toList <;> rfl

theorem findKey_reads (d : Nat) (hs : ScalarKeys es) (hk : k.isScalar) :
    Reads (findKey (machine (d + 1)) es k) := by
  intro w
  have h : ∀ e ∈ es, ∃ b, keyEqual (machine (d + 1)) e.1 k w = .ok b w :=
    fun e he => keyEqual_reads d (hs e he) hk w
  choose! p hp using h
  exact ⟨_, findKey_eq hp⟩

/-- A scalar is put under the scalars without a question to a program. -/
theorem putKey_scalar (d : Nat) (hs : ScalarKeys es) (hk : k.isScalar) (v : Value) (w : World) :
    ∃ es', putKey (machine (d + 1)) es k v w = .ok es' w ∧ ScalarKeys es' := by
  obtain ⟨i, hi⟩ := findKey_reads d hs hk w
  unfold putKey
  rw [bind_of_ok hi]
  cases i with
  | none => exact ⟨_, rfl, hs.push hk⟩
  | some i =>
    dsimp only
    cases he : es[i]? with
    | none => exact ⟨_, rfl, hs⟩
    | some e => exact ⟨_, rfl, hs.set (hs e (Array.mem_of_getElem? he)) i⟩

end Comparison

/-! ### The method `get` -/

section Get

variable {m : Machine} {r : Ref} {w : World} {es : Array (Value × Value)}

theorem Hierarchy.isSlot_get (cls : String) : isSlot cls "get" = false := by
  have h : "get".startsWith "__" = false := by decide +kernel
  unfold isSlot
  rw [h]
  rfl

theorem SpecialMethod.ownerOf_reads (v : Value) (name : String) : Reads (ownerOf v name) :=
  (Kind.of_reads v).bind fun cls => (Kind.order_reads cls).bind fun _ => .pure _

/-- The method `get` is none of those with reserved names. -/
theorem SpecialMethod.call?_dict_get (h : w.heap[r]? = some (.dict es)) (a : Args) :
    call? m (.ref r) "get" a w = .ok none w := by
  obtain ⟨owner, ho⟩ := ownerOf_reads (.ref r) "get" w
  have hb : Kind.basic (.ref r) w = .ok (.ref r) w := Kind.core_dict h
  have hc : Arity.check owner "get" a w = .ok () w := by
    unfold Arity.check
    rw [Hierarchy.isSlot_get]
    rfl
  have hp : ofProperty? m (.ref r) "get" a w = .ok none w := by
    unfold ofProperty?
    rw [bind_of_ok (Run.deref_of h)]
    rfl
  have hq : operator? "get" = none := by rfl
  have hi : inPlace? "get" = none := by rfl
  have hr : comparison? "get" = none := by rfl
  unfold call? callOf?
  rw [bind_of_ok ho]
  dsimp only
  rw [bind_of_ok hb, bind_of_ok hc, hq, hi, hr]
  exact (bind_of_ok hp).trans rfl

theorem Call.method_dict_get (h : w.heap[r]? = some (.dict es)) (a : Args) :
    method m (.ref r) "get" a w = DictMethod.call m r es "get" a w := by
  unfold method
  dsimp only
  rw [bind_of_ok (Run.deref_of h)]
  dsimp only
  rw [bind_of_ok (SpecialMethod.call?_dict_get h a)]
  dsimp only
  unfold valueMethod
  dsimp only
  rw [bind_of_ok (Kind.core_dict h)]
  dsimp only
  rw [bind_of_ok (Run.deref_of h)]
  rfl

/-- What a dictionary with scalars for its keys answers for a text. -/
theorem DictMethod.get_text (d : Nat) (hs : ScalarKeys es) (t : String) :
    call (machine (d + 1)) r es "get" ⟨[.str t], []⟩ w =
      .ok ((Space.lookup es t).getD .none) w := by
  have hk : Comparison.findKey (machine (d + 1)) es (.str t) w =
      .ok (es.toList.findIdx? fun e => Space.isName t e.1) w :=
    Comparison.findKey_eq fun e he => Comparison.keyEqual_text d (hs e he) t
  have hl : Space.lookup es t =
      ((es.toList.findIdx? fun e => Space.isName t e.1).bind fun i => es[i]?).map (·.2) := by
    unfold Space.lookup
    rw [← Array.find?_toList, List.find?_eq_bind_findIdx?_getElem?]
    simp only [Array.getElem?_toList]
  refine (bind_of_ok hk).trans ?_
  rw [hl]
  cases es.toList.findIdx? fun e => Space.isName t e.1 with
  | none => rfl
  | some i => rfl

end Get

end Script

/-- A document with scalars for the keys of its metadata is switched on by the value `true` under the
key, and by nothing else. -/
theorem DocumentRun.enabledFor_scalarKeys {config : Config} {r : Script.Ref} {w : Script.World}
    {es : Array (Script.Value × Script.Value)} (d : Nat) (h : w.heap[r]? = some (.dict es))
    (hs : Script.ScalarKeys es) : enabledFor (Script.machine (d + 2)) config (.ref r) w =
      .ok (((Script.Space.lookup es config.enableKey).getD .none).same (.bool true)) w := by
  have hc : (Script.machine (d + 2)).call (.method (.ref r) "get") [.str config.enableKey] w =
      .ok ((Script.Space.lookup es config.enableKey).getD .none) w :=
    (Script.Call.method_dict_get h _).trans (Script.DictMethod.get_text d hs _)
  rw [enabledFor_dict (d + 1) h]
  by_cases hz : es.size = 0
  · rw [if_pos hz, Array.eq_empty_of_size_eq_zero hz]
    rfl
  · rw [if_neg hz, bind_of_ok hc]
    rfl

end LiveMarkdown
