import LiveMarkdown.Proofs.Reading
import Mathlib.Data.List.Forall2
import Mathlib.Data.Option.Basic

/-!
Documents that hold some attributes as lists of tokens, and the same documents that hold them as plain
text. Reading a text in one way and in the other goes in step, and the two documents have the same
fragments.
-/

namespace LiveMarkdown.Document

/-! ### Attributes -/

/-- Names of attributes that never hold tokens: those that say how a text is encoded, and those that
say what is done with a fragment. -/
def plainNames : List String := ["charset", "content", "http-equiv", "exec", "include"]

theorem holdsTokens_plain {k : String} (hk : k ∈ plainNames) (tag : String) :
    holdsTokens tag k = false := by
  unfold plainNames at hk
  simp only [List.mem_cons, List.not_mem_nil, or_false] at hk
  unfold holdsTokens
  obtain rfl | rfl | rfl | rfl | rfl := hk <;> split <;> first | contradiction | (split <;> rfl)

/-- Two attributes are the same, but one may be a list of tokens and the other one their text. -/
inductive SameAttr : String × AttrValue → String × AttrValue → Prop where
  | refl (a : String × AttrValue) : SameAttr a a
  | tokens (name s : String) (h : name ∉ plainNames) :
      SameAttr (name, .tokens (Text.words s)) (name, .text s)

section Attributes

variable {a b : String × AttrValue} {as bs : List (String × AttrValue)} {k : String}

theorem SameAttr.name (h : SameAttr a b) : a.1 = b.1 := by
  cases h <;> rfl

theorem SameAttr.words (h : SameAttr a b) : a.2.words = b.2.words := by
  cases h <;> rfl

theorem SameAttr.eq (h : SameAttr a b) (hk : a.1 ∈ plainNames) : a = b := by
  cases h with
  | refl => rfl
  | tokens name s hn => exact absurd hk hn

theorem find_same (h : List.Forall₂ SameAttr as bs) (k : String) :
    Option.Rel SameAttr (as.find? fun a => a.1 == k) (bs.find? fun a => a.1 == k) := by
  induction h with
  | nil => exact .none
  | cons hab _ ih =>
    rw [List.find?_cons, List.find?_cons, hab.name]
    split
    · exact .some hab
    · exact ih

theorem find_plain (h : List.Forall₂ SameAttr as bs) (hk : k ∈ plainNames) :
    (as.find? fun a => a.1 == k) = bs.find? fun a => a.1 == k := by
  have hs := find_same h k
  cases ha : as.find? fun a => a.1 == k with
  | none =>
    rw [ha] at hs
    cases hb : bs.find? fun a => a.1 == k with
    | none => rfl
    | some b =>
      rw [hb] at hs
      cases hs
  | some a =>
    rw [ha] at hs
    cases hb : bs.find? fun a => a.1 == k with
    | none =>
      rw [hb] at hs
      cases hs
    | some b =>
      rw [hb] at hs
      cases hs with
      | some hab =>
        have hn : a.1 = k := by simpa using List.find?_some ha
        rw [hab.eq (hn ▸ hk)]

theorem metaAttrs_same (h : List.Forall₂ SameAttr as bs) :
    List.Forall₂ SameAttr (metaAttrs as) (metaAttrs bs) := by
  have hset (name : String) (v : AttrValue) :
      List.Forall₂ SameAttr (as.map fun a => if a.1 == name then (name, v) else a)
        (bs.map fun a => if a.1 == name then (name, v) else a) := by
    rw [List.forall₂_map_left_iff, List.forall₂_map_right_iff]
    refine h.imp fun a b hab => ?_
    rw [hab.name]
    split
    · exact .refl _
    · exact hab
  unfold metaAttrs
  simp only [find_plain h (show "charset" ∈ plainNames by decide),
    find_plain h (show "content" ∈ plainNames by decide),
    find_plain h (show "http-equiv" ∈ plainNames by decide)]
  split
  · exact hset _ _
  · split
    · split
      · exact hset _ _
      · exact h
    · exact h

end Attributes

/-- Two elements are the same but for tokens of attributes. -/
structure SameTag (t u : Tag) : Prop where
  rest : u = { t with attrs := u.attrs }
  attrs : List.Forall₂ SameAttr t.attrs u.attrs

theorem tagOf_same (name : String) (attrs : List (String × String)) :
    SameTag (tagOf true name attrs) (tagOf false name attrs) := by
  refine ⟨rfl, ?_⟩
  unfold tagOf
  dsimp only
  split
  on_goal 1 => refine metaAttrs_same ?_
  all_goals
    rw [List.forall₂_map_left_iff, List.forall₂_map_right_iff]
    refine List.forall₂_same.mpr fun a _ => ?_
    obtain ⟨k, v⟩ := a
    dsimp only
    cases ha : holdsTokens (Text.lower name) k with
    | false => exact .refl _
    | true =>
      refine .tokens k v fun hk => ?_
      rw [holdsTokens_plain hk] at ha
      cases ha

/-! ### Documents -/

inductive SameContent : Content → Content → Prop where
  | root : SameContent .root .root
  | tag (t u : Tag) (h : SameTag t u) : SameContent (.tag t) (.tag u)
  | text (kind : TextKind) (s : String) : SameContent (.text kind s) (.text kind s)

theorem SameContent.refl (x : Content) : SameContent x x := by
  cases x with
  | root => exact .root
  | tag t => exact .tag t t ⟨rfl, List.forall₂_same.mpr fun a _ => .refl a⟩
  | text kind s => exact .text kind s

structure SameNode (d e : Node) : Prop where
  content : SameContent d.content e.content
  parent : e.parent = d.parent
  children : e.children = d.children

namespace Forest

variable {f g : Forest} {n : NodeId} {x y : Content} {name : String}

/-- Two forests are the same but for tokens of attributes. -/
structure Same (f g : Forest) : Prop where
  size : g.size = f.size
  node : ∀ n, Option.Rel SameNode (f.node? n) (g.node? n)

theorem Same.refl (f : Forest) : f.Same f := by
  refine ⟨rfl, fun n => ?_⟩
  cases f.node? n with
  | none => exact .none
  | some d => exact .some ⟨.refl _, rfl, rfl⟩

theorem Same.modify (h : f.Same g) (n : NodeId) {k : Node → Node}
    (hk : ∀ d e, SameNode d e → SameNode (k d) (k e)) : (f.modify n k).Same (g.modify n k) := by
  refine ⟨by simp [h.size], fun m => ?_⟩
  rw [node?_modify, node?_modify]
  have hm := h.node m
  generalize f.node? m = x at hm ⊢
  generalize g.node? m = y at hm ⊢
  split
  · cases hm with
    | some hd => exact .some (hk _ _ hd)
    | none => exact .none
  · exact hm

theorem Same.alloc (h : f.Same g) (hx : SameContent x y) : (f.alloc x).1 = (g.alloc y).1 ∧
    (f.alloc x).2.Same (g.alloc y).2 := by
  rw [alloc_eq, alloc_eq]
  refine ⟨h.size.symm, by simp [h.size], fun n => ?_⟩
  dsimp only
  by_cases hn : n < f.size
  · rw [node?_grow hn, node?_grow (h.size ▸ hn)]
    exact h.node n
  · have hf : f.size ≤ n := Nat.le_of_not_lt hn
    rw [node?_grow_new hf, node?_grow_new (h.size ▸ hf), h.size]
    cases n - f.size with
    | zero => exact .some ⟨hx, rfl, rfl⟩
    | succ i => exact .none

end Forest

namespace Builder

variable {b c : Builder}

/-- Two documents are built in step, the one with lists of tokens and the other one without. -/
structure Same (b c : Builder) : Prop where
  forest : b.forest.Same c.forest
  splits : b.splitTokens = true
  rest : c = { b with forest := c.forest, splitTokens := false }

theorem Same.add {x y : Content} (h : Same b c) (hx : SameContent x y) :
    (b.add x).1 = (c.add y).1 ∧ Same (b.add x).2 (c.add y).2 := by
  have hcurrent : c.current = b.current := by
    rw [h.rest]
    rfl
  obtain ⟨hn, hf⟩ := h.forest.alloc hx
  unfold Builder.add
  dsimp only
  rw [hcurrent, ← hn]
  refine ⟨rfl, ?_, h.splits, ?_⟩
  · refine Forest.Same.modify (Forest.Same.modify hf _ fun d e hd => ?_) _ fun d e hd => ?_
    · exact ⟨hd.content, rfl, hd.children⟩
    · exact ⟨hd.content, hd.parent, by simp [hd.children]⟩
  · conv_lhs => rw [h.rest]

theorem Same.flush (h : Same b c) (kind : TextKind) : Same (b.flush kind) (c.flush kind) := by
  have hp : c.pending = b.pending := by rw [h.rest]
  have hc (cs : List Char) : c.condense cs = b.condense cs := by
    rw [h.rest]
    rfl
  have hk : c.plainKind = b.plainKind := by
    rw [h.rest]
    rfl
  unfold Builder.flush
  rw [hp]
  cases b.pending with
  | none => exact h
  | some cs =>
    dsimp only
    rw [hc, hk]
    have hs : Same { b with pending := none } { c with pending := none } :=
      ⟨h.forest, h.splits, by conv_lhs => rw [h.rest]⟩
    exact (hs.add (.refl _)).2

theorem Same.addText (h : Same b c) (cs : List Char) : Same (b.addText cs) (c.addText cs) := by
  refine ⟨h.forest, h.splits, ?_⟩
  unfold Builder.addText
  conv_lhs => rw [h.rest]

theorem Same.addPiece (h : Same b c) (kind : TextKind) (cs : List Char) :
    Same (b.addPiece kind cs) (c.addPiece kind cs) :=
  ((h.flush .plain).addText cs).flush kind

theorem Same.openTag (h : Same b c) (name : String) (attrs : List (String × String)) :
    Same (b.openTag name attrs) (c.openTag name attrs) := by
  have hf := h.flush .plain
  have hplain : (c.flush .plain).splitTokens = false := by rw [hf.rest]
  have ht : SameContent (.tag (tagOf (b.flush .plain).splitTokens name (lastOfEach attrs)))
      (.tag (tagOf (c.flush .plain).splitTokens name (lastOfEach attrs))) := by
    rw [hf.splits, hplain]
    exact .tag _ _ (tagOf_same name _)
  obtain ⟨hn, ha⟩ := hf.add ht
  unfold Builder.openTag
  dsimp only
  rw [← hn]
  refine ⟨ha.forest, ha.splits, ?_⟩
  conv_lhs => rw [ha.rest]

theorem Same.closeTag (h : Same b c) (name : String) : Same (b.closeTag name) (c.closeTag name) := by
  have hf := h.flush .plain
  have ho : (c.flush .plain).opened = (b.flush .plain).opened := by rw [hf.rest]
  unfold Builder.closeTag
  dsimp only
  rw [ho]
  split
  · refine ⟨hf.forest, hf.splits, ?_⟩
    conv_lhs => rw [hf.rest]
  · exact hf

theorem Same.endTag (h : Same b c) (name : String) : Same (b.endTag name) (c.endTag name) := by
  have hc : c.closed = b.closed := by rw [h.rest]
  unfold Builder.endTag
  rw [hc]
  split
  · refine ⟨h.forest, h.splits, ?_⟩
    conv_lhs => rw [h.rest]
  · exact h.closeTag name

theorem Same.step (h : Same b c) (e : Event) : Same (b.step e) (c.step e) := by
  cases e with
  | «open» name attrs =>
    have ho := h.openTag name attrs
    unfold Builder.step
    dsimp only
    split
    · have hc := ho.closeTag name
      have hclosed : ((c.openTag name attrs).closeTag name).closed =
          ((b.openTag name attrs).closeTag name).closed := by rw [hc.rest]
      rw [hclosed]
      refine ⟨hc.forest, hc.splits, ?_⟩
      conv_lhs => rw [hc.rest]
    · exact ho
  | empty name attrs => exact (h.openTag name attrs).endTag name
  | close name => exact h.endTag name
  | text cs => exact h.addText cs
  | charRef digits => exact h.addText _
  | entityRef name => exact h.addText _
  | comment cs => exact h.addPiece _ cs
  | doctype cs => exact h.addPiece _ cs
  | declaration cs =>
    unfold Builder.step
    dsimp only
    split
    · exact h.addPiece _ _
    · exact h.addPiece _ _
  | instruction cs => exact h.addPiece _ cs

theorem Same.run (h : Same b c) (es : List Event) :
    Same (es.foldl Builder.step b) (es.foldl Builder.step c) := by
  induction es generalizing b c with
  | nil => exact h
  | cons e es ih => exact ih (h.step e)

end Builder

/-- Reading a text with lists of tokens and without fails in the same way, or gives the same document
but for tokens of attributes. -/
theorem Forest.read_same (f : Forest) (html : String) :
    (∃ e, f.read true html = .error e ∧ f.read false html = .error e) ∨
      ∃ root g g', f.read true html = .ok (root, g) ∧ f.read false html = .ok (root, g') ∧ g.Same g' := by
  unfold Forest.read
  cases readEvents html.toList with
  | error e => exact .inl ⟨e, rfl, rfl⟩
  | ok es =>
    have hb : Builder.Same ⟨(f.alloc .root).2, (f.alloc .root).1, [], none, [], true⟩
        ⟨(f.alloc .root).2, (f.alloc .root).1, [], none, [], false⟩ := ⟨.refl _, rfl, rfl⟩
    exact .inr ⟨_, _, _, rfl, rfl, ((hb.run es).flush .plain).forest⟩

end LiveMarkdown.Document

namespace LiveMarkdown

open Document (NodeId Forest Tag SameTag SameAttr)

namespace Document.Forest.Same

variable {f g : Forest} {n : NodeId} {name : String}

/-! ### Questions to both documents -/

theorem content? (h : f.Same g) (n : NodeId) :
    Option.Rel SameContent (f.content? n) (g.content? n) := by
  have hn := h.node n
  unfold Forest.content?
  generalize f.node? n = x at hn ⊢
  generalize g.node? n = y at hn ⊢
  cases hn with
  | none => exact .none
  | some hd => exact .some hd.content

theorem parent? (h : f.Same g) (n : NodeId) : g.parent? n = f.parent? n := by
  have hn := h.node n
  unfold Forest.parent?
  generalize f.node? n = x at hn ⊢
  generalize g.node? n = y at hn ⊢
  cases hn with
  | none => rfl
  | some hd => exact hd.parent

theorem children (h : f.Same g) (n : NodeId) : g.children n = f.children n := by
  have hn := h.node n
  unfold Forest.children
  generalize f.node? n = x at hn ⊢
  generalize g.node? n = y at hn ⊢
  cases hn with
  | none => rfl
  | some hd => exact hd.children

theorem tag? (h : f.Same g) (n : NodeId) : Option.Rel SameTag (f.tag? n) (g.tag? n) := by
  have hn := h.content? n
  unfold Forest.tag?
  generalize f.content? n = x at hn ⊢
  generalize g.content? n = y at hn ⊢
  cases hn with
  | none => exact .none
  | some hc =>
    cases hc with
    | root => exact .none
    | tag t u ht => exact .some ht
    | text kind s => exact .none

theorem name? (h : f.Same g) (n : NodeId) : g.name? n = f.name? n := by
  have hn := h.tag? n
  unfold Forest.name?
  generalize f.tag? n = x at hn ⊢
  generalize g.tag? n = y at hn ⊢
  cases hn with
  | none => rfl
  | some ht => rw [Option.map_some, Option.map_some, ht.rest]

theorem ancestors (h : f.Same g) (n : NodeId) : g.ancestors n = f.ancestors n := by
  have hup (i : Nat) (n : NodeId) : g.ancestorsUpTo i n = f.ancestorsUpTo i n := by
    induction i generalizing n with
    | zero => rfl
    | succ i ih =>
      unfold Forest.ancestorsUpTo
      simp only [h.parent?, ih]
  unfold Forest.ancestors
  rw [h.size, hup]

theorem descendants (h : f.Same g) (n : NodeId) : g.descendants n = f.descendants n := by
  have hdown (i : Nat) (n : NodeId) : g.descendantsUpTo i n = f.descendantsUpTo i n := by
    induction i generalizing n with
    | zero => rfl
    | succ i ih =>
      unfold Forest.descendantsUpTo
      simp only [h.children, ih]
  unfold Forest.descendants
  rw [h.size, hdown]

theorem childNamed? (h : f.Same g) (n : NodeId) (name : String) :
    g.childNamed? n name = f.childNamed? n name := by
  unfold Forest.childNamed?
  simp only [h.children, h.name?]

theorem isBelow (h : f.Same g) (n : NodeId) (name : String) : g.isBelow n name = f.isBelow n name := by
  unfold Forest.isBelow
  simp only [h.ancestors, h.name?]

/-- The text that a content adds to the text of an element around it. -/
def countedText? (name : Option String) : Option Content → Option String
  | some (.text kind s) => if countsText name kind then some s else none
  | _ => none

theorem textOf (h : f.Same g) (n : NodeId) : g.textOf n = f.textOf n := by
  have hin : (fun c => countedText? (f.name? n) (g.content? c)) =
      fun c => countedText? (f.name? n) (f.content? c) := by
    funext c
    have hc := h.content? c
    generalize f.content? c = x at hc ⊢
    generalize g.content? c = y at hc ⊢
    cases hc with
    | none => rfl
    | some hc => cases hc <;> rfl
  have hn := h.content? n
  unfold Forest.textOf
  rw [h.descendants, h.name?]
  have hjoin := congrArg (fun k => String.join ((f.descendants n).filterMap k)) hin
  generalize f.content? n = x at hn ⊢
  generalize g.content? n = y at hn ⊢
  cases hn with
  | none => exact hjoin
  | some hc =>
    cases hc with
    | root => exact hjoin
    | tag t u ht => exact hjoin
    | text kind s => rfl

end Document.Forest.Same

namespace Fragment

variable {f g : Forest} {n : NodeId} {t u : Tag} {markers : List String} {k : String}

/-! ### Fragments of both documents -/

/-- Two fragments have the same place, level and text, and the same is done with them. -/
structure Same (x y : Fragment) : Prop where
  node : x.node = y.node
  level : x.level = y.level
  text : x.text = y.text
  executes : x.executes = y.executes
  included : x.included = y.included

theorem hasMarker_same (h : SameTag t u) : hasMarker markers u = hasMarker markers t := by
  have hs := Document.find_same h.attrs "class"
  have hc : classesOf u = classesOf t := by
    unfold classesOf Tag.attr?
    generalize t.attrs.find? (fun a => a.1 == "class") = x at hs ⊢
    generalize u.attrs.find? (fun a => a.1 == "class") = y at hs ⊢
    cases hs with
    | none => rfl
    | some ha => exact ha.words.symm
  unfold hasMarker
  rw [hc]

/-- Lists of attributes that agree on a name. -/
def AgreeOn (k : String) (as bs : List (String × String)) : Prop :=
  List.Forall₂ (fun a b => a.1 = b.1 ∧ (a.1 = k → a = b)) as bs

theorem AgreeOn.valueOf? {as bs : List (String × String)} (h : AgreeOn k as bs) :
    valueOf? as k = valueOf? bs k := by
  induction h with
  | nil => rfl
  | cons hab _ ih =>
    rw [valueOf?_cons, valueOf?_cons, ih, ← hab.1]
    split
    · rw [hab.2 ‹_›]
    · rfl

theorem textAttributes_agree (h : SameTag t u) (hk : k ∈ Document.plainNames) :
    AgreeOn k (textAttributes t) (textAttributes u) := by
  unfold textAttributes AgreeOn
  rw [List.forall₂_map_left_iff, List.forall₂_map_right_iff]
  have hf : List.Forall₂ SameAttr (t.attrs.filter fun a => a.1 != "class")
      (u.attrs.filter fun a => a.1 != "class") := by
    refine List.rel_filter (fun a b hab => ?_) h.attrs
    change (a.1 != "class") = true ↔ (b.1 != "class") = true
    rw [hab.name]
  refine hf.imp fun a b hab => ⟨hab.name, fun ha => ?_⟩
  rw [hab.eq (ha ▸ hk)]

theorem mergeAttributes_agree (h : SameTag t u) {t' u' : Tag} (h' : SameTag t' u')
    (hk : k ∈ Document.plainNames) :
    valueOf? (mergeAttributes (textAttributes t) (textAttributes t')) k =
      valueOf? (mergeAttributes (textAttributes u) (textAttributes u')) k := by
  have hr : AgreeOn k (textAttributes t').reverse (textAttributes u').reverse :=
    List.rel_reverse (textAttributes_agree h' hk)
  rw [valueOf?_mergeAttributes, valueOf?_mergeAttributes, hr.valueOf?,
    (textAttributes_agree h hk).valueOf?]

/-- What is done with two fragments is the same, if their attributes agree on the two names that say
what is to be done. -/
theorem Same.of_attributes {x y : Fragment} (hnode : x.node = y.node) (hlevel : x.level = y.level)
    (htext : x.text = y.text)
    (h : ∀ k ∈ Document.plainNames, Fragment.valueOf? x.attributes k = valueOf? y.attributes k) :
    Same x y := by
  refine ⟨hnode, hlevel, htext, ?_, ?_⟩
  · have hk : x.attribute? "exec" = y.attribute? "exec" := h "exec" (by decide)
    unfold Fragment.executes
    rw [hk]
  · have hk : x.attribute? "include" = y.attribute? "include" := h "include" (by decide)
    unfold Fragment.included
    rw [hk]

theorem ofPre?_same (h : f.Same g) (ht : SameTag t u) :
    Option.Rel Same (ofPre? f markers n t) (ofPre? g markers n u) := by
  unfold ofPre?
  rw [h.childNamed?, hasMarker_same ht]
  cases f.childNamed? n "code" with
  | none =>
    dsimp only
    split
    · exact .some (.of_attributes rfl rfl (h.textOf n).symm fun k hk =>
        (textAttributes_agree ht hk).valueOf?)
    · exact .none
  | some c =>
    have hc := h.tag? c
    dsimp only
    generalize f.tag? c = x at hc ⊢
    generalize g.tag? c = y at hc ⊢
    cases hc with
    | none => exact .none
    | some hc =>
      dsimp only
      rw [hasMarker_same hc]
      split
      · exact .some (.of_attributes rfl rfl (h.textOf c).symm fun k hk =>
          mergeAttributes_agree ht hc hk)
      · exact .none

theorem ofCode?_same (h : f.Same g) (ht : SameTag t u) :
    Option.Rel Same (ofCode? f markers n t) (ofCode? g markers n u) := by
  unfold ofCode?
  rw [h.isBelow, hasMarker_same ht]
  split
  · exact .some (.of_attributes rfl rfl (h.textOf n).symm fun k hk =>
      (textAttributes_agree ht hk).valueOf?)
  · exact .none

/-- Documents that are the same but for tokens of attributes have the same fragments. -/
theorem ofNode?_same (h : f.Same g) (markers : List String) (n : NodeId) :
    Option.Rel Same (ofNode? f markers n) (ofNode? g markers n) := by
  have hn := h.tag? n
  unfold ofNode?
  generalize f.tag? n = x at hn ⊢
  generalize g.tag? n = y at hn ⊢
  cases hn with
  | none => exact .none
  | some ht =>
    rename_i t u
    have hname : u.name = t.name := by rw [ht.rest]
    dsimp only
    rw [hname]
    split
    · exact ofPre?_same h ht
    · split
      · exact ofCode?_same h ht
      · exact .none

/-- Which nodes of a tree are fragments, and that this does not depend on how a document holds the
classes of its elements: read with lists of tokens or without, a text has the same fragments. -/
theorem fragments_settle :
    (∀ (f : Forest) (markers : List String) (n : NodeId), f.WellFormed → f.DistinctNames →
      (∀ x, ofNode? f markers n = some x ↔ IsBlock f markers n x ∨ IsInline f markers n x) ∧
      ∀ a, f.Above a n → f.name? a = some "pre" → f.name? n = some "code" →
        ofNode? f markers n = none) ∧
    ∀ (f : Forest) (html : String) (markers : List String),
      (∃ e, f.read true html = .error e ∧ f.read false html = .error e) ∨
      ∃ root g g', f.read true html = .ok (root, g) ∧ f.read false html = .ok (root, g') ∧
        (f.WellFormed → f.DistinctNames →
          (g.WellFormed ∧ g.DistinctNames) ∧ g'.WellFormed ∧ g'.DistinctNames) ∧
        ∀ n, Option.Rel Same (ofNode? g markers n) (ofNode? g' markers n) := by
  refine ⟨fun f markers n hf hd => ⟨fun x => ofNode?_eq_some hf hd, fun a ha hpre hcode =>
    ofNode?_below hf hd ha hpre hcode⟩, fun f html markers => ?_⟩
  obtain h | ⟨root, g, g', hg, hg', hs⟩ := Document.Forest.read_same f html
  · exact .inl h
  · exact .inr ⟨root, g, g', hg, hg', fun hf hd =>
      ⟨Document.Forest.read_sound hf hd hg, Document.Forest.read_sound hf hd hg'⟩,
      ofNode?_same hs markers⟩

/-- A block with a marker among the classes of its code. -/
def markedBlock : String :=
  "<pre id=\"outer\" lang=\"en\"><code class=\"python x\" id=\"inner\">6 * 7</code></pre>"

/-- It is a block, with the attributes of the code over its own, and read in the other way it is the
same block. -/
theorem markedBlock_recognised : ∃ root g g' x x',
    Forest.empty.read true markedBlock = .ok (root, g) ∧
    Forest.empty.read false markedBlock = .ok (root, g') ∧ IsBlock g ["python"] 1 x ∧
    x.text = "6 * 7" ∧ x.attributes = [("id", "inner"), ("lang", "en")] ∧
    ofNode? g' ["python"] 1 = some x' ∧ Same x x' := by
  have hempty : Forest.empty.WellFormed := by
    refine .of_ordered ?_ ?_ <;> exact fun p hp => absurd hp (Nat.not_lt_zero p)
  have hdistinct : Forest.empty.DistinctNames := fun n t h => by cases h
  have hread : (match Forest.empty.read true markedBlock with
      | .ok (_, g) => (ofNode? g ["python"] 1).map fun x => (x.level, x.text, x.attributes)
      | .error _ => none) = some (.block, "6 * 7", [("id", "inner"), ("lang", "en")]) := by
    decide +kernel
  obtain ⟨hexact, hboth⟩ := fragments_settle
  obtain ⟨e, he, -⟩ | ⟨root, g, g', hg, hg', hsound, hsame⟩ := hboth .empty markedBlock ["python"]
  · rw [he] at hread
    cases hread
  · rw [hg] at hread
    obtain ⟨x, hx, hp⟩ := Option.map_eq_some_iff.mp hread
    obtain ⟨hlevel, htext, hattributes⟩ : x.level = .block ∧ x.text = "6 * 7" ∧
        x.attributes = [("id", "inner"), ("lang", "en")] := by simpa using hp
    have hs := hsame 1
    rw [hx] at hs
    obtain ⟨⟨hf, hd⟩, -⟩ := hsound hempty hdistinct
    obtain hb | hi := ((hexact g ["python"] 1 hf hd).1 x).mp hx
    · cases hx' : ofNode? g' ["python"] 1 with
      | none =>
        rw [hx'] at hs
        cases hs
      | some x' =>
        rw [hx'] at hs
        cases hs with
        | some hs => exact ⟨root, g, g', x, x', hg, hg', hb, htext, hattributes, hx', hs⟩
    · cases hi
      cases hlevel

end Fragment

end LiveMarkdown
