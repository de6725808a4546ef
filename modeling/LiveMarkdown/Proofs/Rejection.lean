import LiveMarkdown.Proofs.Assembly

/-!
Children that no element can be made of. All children are made into nodes before the first of them is
moved, so the call ends while all nodes still stand where they stood.
-/

namespace LiveMarkdown

open Document (NodeId)
open Script (Machine Run Stop Value World Ref Object)

namespace Script.Element

variable {m : Machine} {w w₁ : World} {attrs : List (String × Value)} {children values : List Value}
  {method : String} {level : Value} {k n : Int}

/-! ### Calls that come to their children -/

/-- No parameter of a method is given by an attribute. -/
def Free (params : List String) (attrs : List (String × Value)) : Prop :=
  ∀ a ∈ attrs, a.1 ∉ params

theorem Free.mono {ps qs : List String} (h : Free qs attrs) (hs : ps ⊆ qs) : Free ps attrs :=
  fun a ha hp => h a ha (hs hp)

theorem refuseNamed_free {params : List String} (h : Free params attrs) :
    refuseNamed method params attrs w = .ok () w := by
  have hnone : attrs.find? (fun a => params.contains a.1) = none := by
    rw [List.find?_eq_none]
    intro a ha
    simpa using h a ha
  unfold refuseNamed
  rw [hnone]
  rfl

theorem call_heading : call m "heading" ⟨level :: children, attrs⟩ = (do
    refuseNamed "heading" ["self", "level"] attrs
    heading m level children attrs) := by
  simp [call, firstParam]

theorem heading_apply {u u' : World}
    (hl : Convert.int m level w = .ok k u) (hk : 1 ≤ k ∧ k ≤ 6) (hl' : Convert.int m level u = .ok n u') :
    Element.heading m level children attrs w = shortcut m s!"h{n}" children attrs u' := by
  have hrange : ¬ (k < 1 || 6 < k) = true := by
    simp only [Bool.or_eq_true, decide_eq_true_eq]
    omega
  unfold Element.heading
  rw [bind_of_ok hl, if_neg hrange]
  exact bind_of_ok hl'

/-- The methods that make an element of a fixed name. -/
def shortcuts : List String := ["p", "div", "span", "em", "strong", "code"]

theorem call_shortcut (h : method ∈ shortcuts) : call m method ⟨children, attrs⟩ = (do
    refuseNamed method ["self"] attrs
    shortcut m method children attrs) := by
  simp only [shortcuts, List.mem_cons, List.not_mem_nil, or_false] at h
  obtain rfl | rfl | rfl | rfl | rfl | rfl := h <;> rfl

/-- A call comes to its children in a world: its attributes are read, and no parameter is given by an
attribute. The level of a heading is an integer from 1 to 6, also when it is asked for once more. The
attributes of a list are read after its children. -/
inductive ComesToChildren (m : Machine) (w : World) (attrs : List (String × Value)) (children : List Value) :
    String → List Value → World → Prop where
  | tag {name : Value} {s : String} {as : List (String × String)} {w₁ : World}
      (hf : Free ["self", "name"] attrs) (ha : attributes m attrs w = .ok as w₁)
      (hn : Kind.basic name w₁ = .ok (.str s) w₁) :
      ComesToChildren m w attrs children "tag" (name :: children) w₁
  | shortcut {method : String} {as : List (String × String)} {w₁ : World} (hm : method ∈ shortcuts)
      (hf : Free ["self", "name"] attrs) (ha : attributes m attrs w = .ok as w₁) :
      ComesToChildren m w attrs children method children w₁
  | heading {level : Value} {k n : Int} {as : List (String × String)} {w₁ u u' : World}
      (hf : Free ["self", "level", "name"] attrs) (hl : Convert.int m level w = .ok k u)
      (hk : 1 ≤ k ∧ k ≤ 6) (hl' : Convert.int m level u = .ok n u')
      (ha : attributes m attrs u' = .ok as w₁) :
      ComesToChildren m w attrs children "heading" (level :: children) w₁
  | list (hf : Free ["self"] attrs) : ComesToChildren m w attrs children "ul" children w

/-! ### Calls that are refused -/

/-- A computation ends at a leaf that is refused, or because the children are nested too deep. It does
no more than to add to a world. -/
def Rejects (m : Machine) (w₁ : World) (d : Nat) (before : List Value) (bad : Value)
    (x : EStateM.Result Stop World Value) : Prop :=
  ∃ e w', x = .error e w' ∧ Extends w₁ w' ∧
    (Refused m w₁ before bad e w' ∨ e = .exhausted ∧ depthLimit ≤ d)

section

variable {d : Nat} {before after : List Value} {bad : Value} {as : List (String × String)}
  (hc : Flattens w₁ d children (before ++ bad :: after)) (hok : ∀ v ∈ before, Accepted v w₁)
  (hbad : ¬ Accepted bad w₁) (ht : ∀ v ∈ before, Written v w₁ → Tame m w₁ v)

include hc hok hbad ht

theorem make_rejects {name : Value} {s : String} (ha : attributes m attrs w = .ok as w₁)
    (hn : Kind.basic name w₁ = .ok (.str s) w₁) :
    Rejects m w₁ d before bad (make m name children attrs w) := by
  let t := Document.tagOf true s as
  -- the element is there when the leaf is found, but nothing stands below it yet
  obtain ⟨e, u, he, hu, hr⟩ := flatten_refused hc hok hbad ht (extends_withTag t w₁)
  refine ⟨e, u, ?_, (extends_withTag t w₁).trans hu, hr⟩
  rw [make_eq, bind_of_ok ha, bind_of_ok (newElement_apply hn _)]
  exact bind_of_error he

theorem shortcut_rejects (name : String) (hf : Free ["name"] attrs)
    (ha : attributes m attrs w = .ok as w₁) :
    Rejects m w₁ d before bad (shortcut m name children attrs w) := by
  unfold shortcut
  rw [bind_of_ok (refuseNamed_free hf)]
  exact make_rejects hc hok hbad ht ha rfl

theorem ComesToChildren.rejects (h : ComesToChildren m w attrs children method values w₁) :
    Rejects m w₁ d before bad (call m method ⟨values, attrs⟩ w) := by
  cases h with
  | tag hf ha hn =>
    rw [call_tag, bind_of_ok (refuseNamed_free hf)]
    exact make_rejects hc hok hbad ht ha hn
  | shortcut hm hf ha =>
    rw [call_shortcut hm, bind_of_ok (refuseNamed_free (hf.mono (by simp)))]
    exact shortcut_rejects hc hok hbad ht method (hf.mono (by simp)) ha
  | @heading _ _ n _ _ _ _ hf hl hk hl' ha =>
    rw [call_heading, bind_of_ok (refuseNamed_free (hf.mono (by simp))), heading_apply hl hk hl']
    exact shortcut_rejects hc hok hbad ht s!"h{n}" (hf.mono (by simp)) ha
  | list hf =>
    -- the items are wrapped only when all of them are nodes
    obtain ⟨e, u, he, hu, hr⟩ := flatten_refused hc hok hbad ht (.refl w)
    refine ⟨e, u, ?_, hu, hr⟩
    rw [call_ul, bind_of_ok (refuseNamed_free hf)]
    exact bind_of_error he

end

section

variable {d : Nat} {before after : List Value} {bad : Value}

/-- A child that is refused moves nothing. The first of the leaves that no element can be made of is named
in the error, unless the text of a leaf before it cannot be had, or the children are nested too deep. -/
theorem call_rejects (i : Nat) (hp : ComesToChildren (machine (i + 2)) w attrs children method values w₁)
    (hc : Flattens w₁ d children (before ++ bad :: after)) (hok : ∀ v ∈ before, Accepted v w₁)
    (hbad : ¬ Accepted bad w₁)
    (ht : ∀ r, .ref r ∈ before → Written (.ref r) w₁ → Tame (machine (i + 2)) w₁ (.ref r)) :
    ∃ e w', call (machine (i + 2)) method ⟨values, attrs⟩ w = .error e w' ∧
      (Refused (machine (i + 2)) w₁ before bad e w' ∨ e = .exhausted ∧ depthLimit ≤ d) ∧
      ∀ k < w₁.forest.size, w'.forest.content? k = w₁.forest.content? k ∧
        w'.forest.parent? k = w₁.forest.parent? k ∧ w'.forest.children k = w₁.forest.children k := by
  obtain ⟨e, w', he, hw, hr⟩ := hp.rejects hc hok hbad (tame_all ht)
  exact ⟨e, w', he, hr, fun k hk => ⟨hw.content? hk, hw.parent? hk, hw.children hk⟩⟩

theorem bytes_not_accepted (bs : List UInt8) (w : World) : ¬ Accepted (.bytes bs) w := by
  rintro (h | ⟨n, h⟩ | h)
  · cases h
  · cases h
  · obtain ⟨part, hp, hs⟩ := h.scalar
    cases hp
    simp at hs

/-- Bytes stand behind a nested list. The paragraph and the text of the list item stay where they are. -/
theorem bytes_rejected : ∃ e w', call (machine 2) "ul"
      ⟨[.ref 0, .node 4, .bytes [], .node 3], itemsAttrs⟩ itemsWorld = .error e w' ∧
    Refused (machine 2) itemsWorld [.node 2, .str "x", .node 4] (.bytes []) e w' ∧
    w'.forest.children 1 = [2, 3] ∧ w'.forest.children 3 = [4] := by
  have hg : Grouped (.ref 0) [.node 2, .str "x"] itemsWorld := .inr ⟨0, rfl, rfl⟩
  have hb : IsLeaf (.bytes []) itemsWorld := ⟨.bytes [], rfl, nofun, nofun⟩
  have hn (n : NodeId) : Accepted (.node n) itemsWorld := .inr (.inl ⟨n, rfl⟩)
  have hx : Accepted (.str "x") itemsWorld := .inr (.inr (.inl ⟨"x", rfl⟩))
  have hitems : Flattens itemsWorld 0 [.node 2, .str "x"] [.node 2, .str "x"] :=
    .leaf (hn 2).isLeaf (.leaf hx.isLeaf (.nil 0))
  have hrest : Flattens itemsWorld 1 [.node 4, .bytes [], .node 3] [.node 4, .bytes [], .node 3] :=
    .leaf (hn 4).isLeaf (.leaf hb (.leaf (hn 3).isLeaf (.nil 1)))
  have hall := Flattens.group hg hitems hrest
  have hc : Flattens itemsWorld 1 [.ref 0, .node 4, .bytes [], .node 3]
      ([.node 2, .str "x", .node 4] ++ .bytes [] :: [.node 3]) := hall
  have hfree : Free ["self"] itemsAttrs := by simp [Free, itemsAttrs]
  have hbefore : ∀ v ∈ [.node 2, .str "x", .node 4], Accepted v itemsWorld := by simp [hn, hx]
  obtain ⟨e, w', he, hr, hk⟩ :=
    call_rejects 0 (.list hfree) hc hbefore (bytes_not_accepted [] itemsWorld) (by simp)
  exact ⟨e, w', he, hr.resolve_right fun h => absurd h.2 (by decide), (hk 1 (by decide)).2.2,
    (hk 3 (by decide)).2.2⟩

/-- An attribute that has the name of a parameter is refused before the children are looked at. -/
theorem name_clashes : attributes (machine 2) [("name", .str "x")] {} = .ok [("name", "x")] {} ∧
    Flattens {} 0 [.bytes []] ([] ++ [.bytes []]) ∧ ¬ Accepted (.bytes []) {} ∧
    ∃ r w', call (machine 2) "p" ⟨[.bytes []], [("name", .str "x")]⟩ {} = .error (.raised (.ref r)) w' ∧
      w'.heap[r]? = some (.exception (.type "TypeError")
        [.str "ElementFactory.tag() got multiple values for argument 'name'"] none none false #[]) ∧
      ¬ Refused (machine 2) {} [] (.bytes []) (.raised (.ref r)) w' := by
  have hb : IsLeaf (.bytes []) {} := ⟨.bytes [], rfl, nofun, nofun⟩
  refine ⟨rfl, .leaf hb (.nil 0), bytes_not_accepted [] {}, 0, _, rfl, rfl, fun h => ?_⟩
  obtain ⟨-, hk, hr⟩ | ⟨v, hv, -⟩ := h
  · have hkind (u : World) : Kind.plainName (.bytes []) u = .ok "bytes" u := rfl
    cases (hkind _).symm.trans hk
    simp only [List.push_toArray, List.nil_append, List.getElem?_toArray, List.getElem?_cons_zero,
      Option.some.injEq, Object.exception.injEq, List.cons.injEq, Value.str.injEq] at hr
    exact absurd hr.2.1.1 (by decide)
  · cases hv

end

end Script.Element

end LiveMarkdown
