import LiveMarkdown.Proofs.Gates

/-!
Where the nodes of a substitution come to stand. The place of the fragment is found once, before any
node is moved. A node that is taken from in front of that place lets what is behind it slip through by
one, so the nodes that are put in stay together only if none but the last of them stood there, or if
nothing slips through that would have stayed behind them.
-/

namespace LiveMarkdown.Document

namespace Forest

/-! ### Lists of children -/

/-- The nodes of a list but for some. -/
def without (cs ns : List NodeId) : List NodeId := cs.filter (· ∉ ns)

section

variable {A B cs ds ms ns : List NodeId} {a n r : NodeId} {i : Nat}

@[simp] theorem mem_without : n ∈ without cs ns ↔ n ∈ cs ∧ n ∉ ns := by
  simp [without]

@[simp] theorem without_nil_left : without [] ns = [] := rfl

@[simp] theorem without_nil : without cs [] = cs := by
  simp [without]

@[simp] theorem without_append : without (cs ++ ds) ns = without cs ns ++ without ds ns := by
  simp [without]

theorem without_cons_of_mem (h : n ∈ ns) : without (n :: cs) ns = without cs ns := by
  simp [without, h]

theorem without_cons_of_notMem (h : n ∉ ns) : without (n :: cs) ns = n :: without cs ns := by
  simp [without, h]

theorem without_eq_self (h : ∀ n ∈ cs, n ∉ ns) : without cs ns = cs :=
  List.filter_eq_self.mpr (by simpa using h)

theorem without_of_notMem (h : n ∉ cs) : without cs [n] = cs :=
  without_eq_self fun _ hm hn => h (List.mem_singleton.mp hn ▸ hm)

theorem without_without : without (without cs ms) ns = without cs (ms ++ ns) := by
  unfold without
  rw [List.filter_filter]
  refine List.filter_congr fun n _ => ?_
  rw [← Bool.decide_and]
  simp [and_comm]

/-- Leaving a node out first makes no difference if it is left out later. -/
theorem without_singleton_without (cs : List NodeId) :
    without (without cs [n]) ns = without cs (n :: ns) := without_without

theorem erase_eq_without (h : cs.Nodup) : cs.erase n = without cs [n] := by
  rw [h.erase_eq_filter]
  refine List.filter_congr fun m _ => ?_
  by_cases hm : m = n <;> simp [hm]

/-- The children of a node once a node has been moved to a place among them. -/
def settle (cs : List NodeId) (i : Nat) (n : NodeId) : List NodeId :=
  without (cs.take i) [n] ++ n :: without (cs.drop i) [n]

/-- The children of a node once nodes have been moved there, each of them one place further. -/
def settleAll (cs : List NodeId) (i : Nat) : List NodeId → List NodeId
  | [] => cs
  | n :: ns => settleAll (settle cs i n) (i + 1) ns

theorem settle_append (hi : A.length ≤ i) : settle (A ++ B) i n =
    without A [n] ++ without (B.take (i - A.length)) [n] ++ n ::
      without (B.drop (i - A.length)) [n] := by
  unfold settle
  rw [List.take_append, List.drop_append, List.take_of_length_le hi, List.drop_of_length_le hi,
    List.nil_append, without_append]

theorem length_without_le (cs ns : List NodeId) : (without cs ns).length ≤ cs.length :=
  List.length_filter_le ..

/-- Nodes that are moved among children stand there in their order, behind all that stood in front of
their place; the other children keep their order too. -/
theorem settleAll_append (hi : A.length ≤ i) (hn : ns.Nodup) : ∃ V,
    settleAll (A ++ B) i ns = without A ns ++ V ∧ V.filter (· ∈ ns) = ns ∧
      without V ns = without B ns := by
  induction ns generalizing A B i with
  | nil => exact ⟨B, by simp [settleAll], by simp, rfl⟩
  | cons n ns ih =>
    obtain ⟨hnn, hn⟩ := List.nodup_cons.mp hn
    let T := B.take (i - A.length)
    let D := B.drop (i - A.length)
    have hlen : (without A [n] ++ without T [n] ++ [n]).length ≤ i + 1 := by
      have hA := length_without_le A [n]
      have hT := length_without_le T [n]
      have hB : T.length ≤ i - A.length := List.length_take_le ..
      simp only [List.length_append, List.length_singleton]
      omega
    obtain ⟨V, hV, hin, hout⟩ := ih (B := without D [n]) hlen hn
    -- the node stands in front of all that comes later
    have hnV : n ∉ V := fun h => by
      have hm : n ∈ without V ns := mem_without.mpr ⟨h, hnn⟩
      rw [hout] at hm
      simp at hm
    refine ⟨without T (n :: ns) ++ n :: V, ?_, ?_, ?_⟩
    · have hs : settle (A ++ B) i n =
          (without A [n] ++ without T [n] ++ [n]) ++ without D [n] := by
        rw [settle_append hi, List.append_assoc _ [n]]
        rfl
      rw [settleAll, hs, hV]
      simp only [without_append, without_singleton_without, without_cons_of_notMem hnn,
        without_nil_left, List.append_assoc, List.cons_append, List.nil_append]
    · have hT : (without T (n :: ns)).filter (· ∈ n :: ns) = [] := by
        refine List.filter_eq_nil_iff.mpr fun m hm => ?_
        simpa using (mem_without.mp hm).2
      have hV' : V.filter (· ∈ n :: ns) = V.filter (· ∈ ns) := by
        refine List.filter_congr fun m hm => ?_
        have hne : m ≠ n := fun h => hnV (h ▸ hm)
        simp [hne]
      rw [List.filter_append, hT, List.filter_cons_of_pos (by simp), hV', hin, List.nil_append]
    · have hV' : without V (n :: ns) = without D (n :: ns) := by
        rw [← without_singleton_without, without_of_notMem hnV, hout, without_singleton_without]
      have hT : without (without T (n :: ns)) (n :: ns) = without T (n :: ns) :=
        without_eq_self fun m hm => (mem_without.mp hm).2
      rw [without_append, without_cons_of_mem List.mem_cons_self, hV', hT, ← without_append,
        List.take_append_drop]

/-- Nodes can be put between children without a seam: none of them but the last stands in front, or
all that stands behind is among them, or one of them but the last stands in front, and the child that
slips through in its stead is the last of them. -/
def Seamless (A ns B : List NodeId) : Prop :=
  (∀ n ∈ ns.dropLast, n ∉ A) ∨ (∀ b ∈ B, b ∈ ns) ∨
    ((∀ m ∈ ns.dropLast, ∀ n ∈ ns.dropLast, m ∈ A → n ∈ A → m = n) ∧
      (without B ns.dropLast).head? = ns.getLast?)

instance : Decidable (Seamless A ns B) :=
  inferInstanceAs (Decidable (_ ∨ _ ∨ _))

/-- If all that stands behind is among the nodes that are moved, they end up together. -/
theorem settleAll_of_subset (hn : ns.Nodup) (hB : ∀ b ∈ B, b ∈ ns) :
    settleAll (A ++ B) A.length ns = without A ns ++ ns ++ without B ns := by
  obtain ⟨V, hV, hin, hout⟩ := settleAll_append (A := A) (B := B) (Nat.le_refl _) hn
  have hnil : without B ns = [] := List.filter_eq_nil_iff.mpr (by simpa using hB)
  have hself : V.filter (· ∈ ns) = V := by
    refine List.filter_eq_self.mpr fun m hm => ?_
    by_contra hno
    have h : m ∈ without V ns := mem_without.mpr ⟨hm, by simpa using hno⟩
    rw [hout, hnil] at h
    cases h
  rw [hV, hnil, List.append_nil, ← hself, hin]

theorem settle_length : settle (A ++ B) A.length n = without A [n] ++ n :: without B [n] := by
  unfold settle
  rw [List.take_left, List.drop_left]

/-- A node that did not stand in front of its place gets in front of the next one. -/
theorem settle_behind (hA : n ∉ A) :
    settle (A ++ B) A.length n = (A ++ [n]) ++ without B [n] := by
  rw [settle_length, without_of_notMem hA, List.append_assoc]
  rfl

/-- If a node stood in front of its place, a child from behind slips through with it. -/
theorem settle_front (hB : n ∉ r :: B) :
    settle (A ++ r :: B) A.length n = (without A [n] ++ [n, r]) ++ B := by
  rw [settle_length, without_of_notMem hB, List.append_assoc]
  rfl

theorem settleAll_behind (hA : n ∉ A) : settleAll (A ++ B) A.length (n :: ns) =
    settleAll ((A ++ [n]) ++ without B [n]) (A ++ [n]).length ns := by
  rw [settleAll, settle_behind hA, List.length_append, List.length_singleton]

theorem settleAll_front (hd : A.Nodup) (hA : n ∈ A) (hB : n ∉ r :: B) :
    settleAll (A ++ r :: B) A.length (n :: ns) =
      settleAll ((without A [n] ++ [n, r]) ++ B) (without A [n] ++ [n, r]).length ns := by
  have hlen : (without A [n] ++ [n, r]).length = A.length + 1 := by
    have hpos := List.length_pos_of_mem hA
    rw [← erase_eq_without hd, List.length_append, List.length_erase_of_mem hA, List.length_cons,
      List.length_singleton]
    omega
  rw [settleAll, settle_front hB, hlen]

theorem nodup_settle (h : cs.Nodup) (i : Nat) (n : NodeId) : (settle cs i n).Nodup := by
  have hs : (settle cs i n).Perm (n :: without cs [n]) := by
    unfold settle
    conv_rhs => rw [← List.take_append_drop i cs, without_append]
    exact List.perm_middle
  rw [hs.nodup_iff, List.nodup_cons]
  exact ⟨by simp, h.filter _⟩

/-- Whether there is a seam does not change with a first node that did not stand in front. -/
theorem seamless_behind {m : NodeId} (hA : n ∉ A) (hn : n ∉ m :: ms) :
    Seamless A (n :: m :: ms) B ↔ Seamless (A ++ [n]) (m :: ms) (without B [n]) := by
  have hD : n ∉ (m :: ms).dropLast := fun h => hn (List.dropLast_subset _ h)
  unfold Seamless
  rw [List.dropLast_cons_cons, List.getLast?_cons_cons, without_singleton_without]
  generalize (m :: ms).dropLast = D at *
  refine or_congr ?_ (or_congr ?_ (and_congr_left' ?_))
  · grind
  · grind [mem_without]
  · grind

/-- Nor with a first node that stood in front, if the child that slips through in its stead is moved
later. -/
theorem seamless_front {m : NodeId} (hA : n ∈ A) (hB : n ∉ B) (hr : r ∉ A) (hrB : r ∉ B)
    (hn : n ∉ m :: ms) (hrm : r ∈ m :: ms) :
    Seamless A (n :: m :: ms) (r :: B) ↔ Seamless (without A [n] ++ [n, r]) (m :: ms) B := by
  have hD : n ∉ (m :: ms).dropLast := fun h => hn (List.dropLast_subset _ h)
  have hne : r ≠ n := fun h => hr (h ▸ hA)
  have hBD : without B (n :: (m :: ms).dropLast) = without B (m :: ms).dropLast := by
    rw [← without_singleton_without, without_of_notMem hB]
  have hbehind : (∀ b ∈ r :: B, b ∈ n :: m :: ms) ↔ ∀ b ∈ B, b ∈ m :: ms := by
    grind
  unfold Seamless
  rw [List.dropLast_cons_cons, List.getLast?_cons_cons, hbehind]
  by_cases hrD : r ∈ (m :: ms).dropLast
  · -- the child that slips through lets another one through
    rw [without_cons_of_mem (List.mem_cons_of_mem _ hrD), hBD]
    generalize (m :: ms).dropLast = D at *
    grind [mem_without]
  · -- the child that slips through is the last of the nodes
    have hlast : (m :: ms).getLast? = some r := by
      rw [← List.dropLast_concat_getLast (List.cons_ne_nil m ms), List.mem_append] at hrm
      have he := List.mem_singleton.mp (hrm.resolve_left hrD)
      rw [he, List.getLast?_eq_some_getLast]
    have hhead : (without B (m :: ms).dropLast).head? ≠ some r := by
      intro h
      have := List.mem_of_head? h
      grind [mem_without]
    rw [without_cons_of_notMem (by grind), hlast]
    generalize (m :: ms).dropLast = D at *
    grind [mem_without]

/-- A child that slips through and is not moved later stays between the nodes. -/
theorem not_seamless_front {m : NodeId} (hA : n ∈ A) (hrn : r ≠ n) (hr : r ∉ m :: ms) :
    ¬ Seamless A (n :: m :: ms) (r :: B) := by
  have hrD : r ∉ (m :: ms).dropLast := fun h => hr (List.dropLast_subset _ h)
  have hlast : (m :: ms).getLast? ≠ some r := fun h => hr (List.mem_of_getLast? h)
  unfold Seamless
  rw [List.dropLast_cons_cons, List.getLast?_cons_cons, without_cons_of_notMem (by grind)]
  grind

/-- A child that slips through and is not moved later stands between the nodes at the end. -/
theorem settleAll_divided {m : NodeId} (hm : (m :: ms).Nodup) (hn : n ∉ m :: ms)
    (hr : r ∉ m :: ms) : settleAll ((without A [n] ++ [n, r]) ++ B)
      (without A [n] ++ [n, r]).length (m :: ms) ≠
        without A (n :: m :: ms) ++ n :: m :: ms ++ cs := by
  obtain ⟨V, hV, -, -⟩ := settleAll_append (B := B) (Nat.le_refl _) hm
  rw [hV, without_append, without_cons_of_notMem hn, without_cons_of_notMem hr,
    without_singleton_without]
  intro he
  simp only [List.append_assoc, List.cons_append, List.append_cancel_left_eq,
    List.cons.injEq] at he
  exact hr (he.2.1 ▸ List.mem_cons_self)

/-- Nodes that are moved to a place among children are together there, and all other children around
them, exactly if they can be put there without a seam. -/
theorem settleAll_iff (hd : (A ++ B).Nodup) (hn : ns.Nodup) :
    settleAll (A ++ B) A.length ns = without A ns ++ ns ++ without B ns ↔ Seamless A ns B := by
  induction ns generalizing A B with
  | nil => simp [settleAll, Seamless]
  | cons n ns ih =>
    obtain ⟨hnn, hns⟩ := List.nodup_cons.mp hn
    obtain ⟨hdA, -, hAB⟩ := List.nodup_append.mp hd
    have hs := nodup_settle hd A.length n
    cases ns with
    | nil => simp [settleAll, settle_length, Seamless]
    | cons m ms =>
      by_cases hA : n ∈ A
      · cases B with
        | nil => exact iff_of_true (settleAll_of_subset hn (by simp)) (.inr (.inl (by simp)))
        | cons r B =>
          have hnB : n ∉ r :: B := fun h => hAB n hA n h rfl
          have hrA : r ∉ A := fun h => hAB r h r List.mem_cons_self rfl
          rw [settle_front hnB] at hs
          rw [settleAll_front hdA hA hnB]
          by_cases hr : r ∈ m :: ms
          · rw [seamless_front hA (by grind) hrA (by grind) hnn hr, ← ih hs hns, without_append,
              without_singleton_without A, without_cons_of_notMem hnn, without_cons_of_mem hr,
              ← without_singleton_without (r :: B), without_of_notMem hnB, without_cons_of_mem hr]
            simp
          · exact iff_of_false (settleAll_divided hns hnn hr)
              (not_seamless_front hA (by grind) hr)
      · rw [settle_behind hA] at hs
        rw [settleAll_behind hA, seamless_behind hA hnn, ← ih hs hns, without_append,
          without_cons_of_notMem hnn, ← without_singleton_without A, without_of_notMem hA,
          without_singleton_without]
        simp

end

/-! ### Moves in a forest -/

section

variable {f : Forest} {n p k : NodeId} {i : Nat}

/-- A node that is taken out leaves all lists of children. -/
theorem children_extract_eq (hf : f.WellFormed) :
    (f.extract n).children k = without (f.children k) [n] := by
  have hm := hf.mem_children k n
  cases hq : f.parent? n with
  | none =>
    rw [extract_of_parent?_none hq, without_of_notMem]
    simp [hm, hq]
  | some q =>
    rw [children_extract hq (hf.parent_lt_size hq)]
    split
    · exact erase_eq_without (hf.nodup k)
    · rename_i hk
      rw [without_of_notMem]
      simp [hm, hq, Ne.symm hk]

/-- The place that a node is moved to once it is taken out. -/
theorem goal_eq (hf : f.WellFormed) :
    (if f.parent? n = some p ∧ f.indexOf p n < min i (f.children p).length then
      min i (f.children p).length - 1 else min i (f.children p).length) =
        (without ((f.children p).take i) [n]).length := by
  have hm := hf.mem_children p n
  rw [← erase_eq_without ((hf.nodup p).sublist (List.take_sublist ..)), List.length_erase,
    List.length_take]
  by_cases hn : n ∈ f.children p
  · have hi : n ∈ (f.children p).take i ↔ f.indexOf p n < i := List.mem_take_iff_idxOf_lt hn
    have hl : f.indexOf p n < (f.children p).length := List.idxOf_lt_length_of_mem hn
    by_cases hlt : f.indexOf p n < i
    · rw [if_pos ⟨hm.mp hn, Nat.lt_min.mpr ⟨hlt, hl⟩⟩, if_pos (hi.mpr hlt)]
    · rw [if_neg fun h => hlt (Nat.lt_min.mp h.2).1, if_neg (mt hi.mp hlt)]
  · rw [if_neg fun h => hn (hm.mpr h.1), if_neg fun h => hn (List.mem_of_mem_take h)]

/-- A node that is moved settles among the children of its new parent. -/
theorem moveTo_settles (hf : f.WellFormed) (hp : p < f.size) :
    (f.moveTo p i n).children p = settle (f.children p) i n := by
  have hc : without (f.children p) [n] =
      without ((f.children p).take i) [n] ++ without ((f.children p).drop i) [n] := by
    rw [← without_append, List.take_append_drop]
  unfold moveTo
  simp only [goal_eq hf]
  rw [children_place (by simpa using hp), if_pos rfl, children_extract_eq hf, hc,
    insertIdx_append]
  rfl

theorem moveTo_elsewhere (hf : f.WellFormed) (hp : p < f.size) (hk : k ≠ p) :
    (f.moveTo p i n).children k = without (f.children k) [n] := by
  unfold moveTo
  rw [children_place (by simpa using hp), if_neg hk, children_extract_eq hf]

end

end Forest

namespace Edit

open Forest

variable {f g : Forest} {n p : NodeId} {ns : List NodeId} {i : Nat}

theorem insertFrom_settles (hf : f.WellFormed) (hp : p < f.size) (hn : ∀ n ∈ ns, f.Movable p n)
    (h : insertFrom p i ns f = .ok () g) :
    g.children p = settleAll (f.children p) i ns ∧
      ∀ k, k ≠ p → g.children k = without (f.children k) ns := by
  induction ns generalizing f i with
  | nil =>
    cases h
    exact ⟨rfl, fun k _ => without_nil.symm⟩
  | cons n ns ih =>
    have hm := hn n List.mem_cons_self
    unfold insertFrom at h
    change EStateM.bind (insert p i n) _ f = _ at h
    unfold EStateM.bind at h
    rw [insert_movable hm] at h
    obtain ⟨hc, hk⟩ := ih (hf.moveTo hp hm i) (by simpa using hp)
      (fun m hm' => (hn m (List.mem_cons_of_mem _ hm')).moveTo hm) h
    refine ⟨?_, fun k hkp => ?_⟩
    · rw [hc, moveTo_settles hf hp]
      rfl
    · rw [hk k hkp, moveTo_elsewhere hf hp hkp, without_singleton_without]

/-- Nodes that take the place of a child settle there, and leave all other lists of children. -/
theorem replaceWith_settles {A B : List NodeId} (hf : f.WellFormed)
    (hc : f.children p = A ++ n :: B)
    (hn : ∀ m ∈ ns, m < f.size ∧ f.isRoot m = false ∧ ¬ f.Above m n)
    (h : replaceWith n ns f = .ok () g) :
    g.children p = (if ns = [n] then A ++ n :: B else settleAll (A ++ B) A.length ns) ∧
      ∀ k, k ≠ p → g.children k = without (f.children k) ns := by
  have hs := extract_spliced hf hc
  have hp : f.parent? n = some p := by
    rw [← hf.mem_children, hc]
    simp
  rw [replaceWith_eq hp fun hp' => (hn p hp').2.2 (above_of_parent? hp), indexOf_eq hf hc] at h
  by_cases hself : ns = [n]
  · subst hself
    rw [if_pos rfl] at h
    cases h
    refine ⟨by rw [if_pos rfl, hc], fun k hk => (without_of_notMem ?_).symm⟩
    simp [hf.mem_children, hp, Ne.symm hk]
  · rw [if_neg hself] at h
    obtain ⟨hg, hk⟩ := insertFrom_settles hs.wellFormed
      (by rw [hs.size]; exact hf.parent_lt_size hp) (fun m hm => movable_extract hf hp (hn m hm)) h
    refine ⟨by rw [if_neg hself, hg, hs.here], fun k hkp => ?_⟩
    rw [hk k hkp, hs.elsewhere k hkp]

end Edit

end LiveMarkdown.Document

namespace LiveMarkdown.Executor

open Document (NodeId Forest)
open Document.Forest (without Seamless)

/-- Where nodes stand that have been put between the children `L` and `R` of a node. -/
structure Landed (t t' : Forest) (p : NodeId) (L nodes R : List NodeId) : Prop where
  /-- The nodes stand behind all that was in front of them and stays, in their order, and the children
  that stay keep theirs. -/
  ordered : ∃ V, t'.children p = without L nodes ++ V ∧ V.filter (· ∈ nodes) = nodes ∧
    without V nodes = without R nodes
  /-- No child that stays stands between them exactly if there is no seam. -/
  together : t'.children p = without L nodes ++ nodes ++ without R nodes ↔ Seamless L nodes R
  elsewhere : ∀ k, k ≠ p → t'.children k = without (t.children k) nodes

section

variable {s : Settings} {f g : Fragment} {st st₁ : Session} {p : NodeId} {L nodes R : List NodeId}

/-- Nodes that take the place of a child land there. -/
theorem replaceWith_lands {t t' : Forest} {n : NodeId} (ht : t.WellFormed)
    (hc : t.children p = L ++ n :: R) (hd : nodes.Nodup)
    (hn : ∀ m ∈ nodes, m < t.size ∧ t.isRoot m = false ∧ ¬ t.Above m n)
    (h : Document.Edit.replaceWith n nodes t = .ok () t') : Landed t t' p L nodes R := by
  obtain ⟨hp, hk⟩ := Document.Edit.replaceWith_settles ht hc hn h
  have hLR : (L ++ R).Nodup := ((Forest.extract_spliced ht hc).here ▸ (ht.extract n).nodup p)
  by_cases hself : nodes = [n]
  · subst hself
    have hdn := hc ▸ ht.nodup p
    have hL : without L [n] = L := Forest.without_of_notMem (by grind)
    have hR : without R [n] = R := Forest.without_of_notMem (by grind)
    have hf : R.filter (· ∈ [n]) = [] := List.filter_eq_nil_iff.mpr fun m hm => by grind
    -- a fragment that gives way to itself stays where it is
    rw [if_pos rfl] at hp
    refine ⟨⟨n :: R, by rw [hp, hL], ?_, ?_⟩, iff_of_true ?_ (.inl ?_), hk⟩
    · rw [List.filter_cons_of_pos (by simp), hf]
    · rw [Forest.without_cons_of_mem (List.mem_singleton_self n)]
    · rw [hp, hL, hR, List.append_assoc]
      rfl
    · simp
  · rw [if_neg hself] at hp
    refine ⟨?_, ?_, hk⟩
    · rw [hp]
      exact Forest.settleAll_append (Nat.le_refl _) hd
    · rw [hp]
      exact Forest.settleAll_iff hLR hd

/-- The nodes of an accepted outcome take the place of the fragment. -/
theorem apply_substituted (ha : Accepted g nodes st₁.world.forest)
    (ht : st₁.world.forest.WellFormed) : ∃ t,
    Document.Edit.replaceWith g.node nodes st₁.world.forest = .ok () t ∧
    apply s g (.substituted nodes) st₁ =
      .ok (.substituted nodes) { st₁ with world := { st₁.world with forest := t } } := by
  obtain ⟨p, t, -, he, -⟩ := ha.replaces ht
  have hr : (edit g (.substituted nodes)).run st₁.world.forest = .ok () t := he
  refine ⟨t, he, ?_⟩
  unfold apply
  rw [bind_apply, applyEdit_apply, hr]
  rfl

/-- Whatever nodes the code of a fragment returned, applying its outcome is not refused, and the nodes
land in the place of the fragment. -/
theorem execute_lands (h : execute s f st = .ok (g, .substituted nodes) st₁)
    (ht : st₁.world.forest.WellFormed) (hd : nodes.Nodup)
    (hc : st₁.world.forest.children p = L ++ f.node :: R) :
    ∃ st₂, apply s g (.substituted nodes) st₁ = .ok (.substituted nodes) st₂ ∧
      Landed st₁.world.forest st₂.world.forest p L nodes R := by
  have ha := execute_accepts h nodes rfl
  obtain ⟨t, he, hap⟩ := apply_substituted ha ht
  rw [← execute_node h] at hc
  exact ⟨_, hap, replaceWith_lands ht hc hd (ha.insertable ht) he⟩

end

/-- Code that returns nodes. -/
def returning (ns : List NodeId) : Evaluator where
  Code := Unit
  compile _ _ := .ok ()
  invoke _ _ := pure (.tuple (ns.map .node))

/-- A paragraph, a block of code, and a paragraph; one more paragraph stands nowhere. -/
def blocks : Session where
  world :=
    { forest :=
        ⟨#[⟨.root, none, [1]⟩,
          ⟨.tag { name := "div", attrs := [] }, some 0, [2, 4, 6]⟩,
          ⟨.tag { name := "p", attrs := [] }, some 1, [3]⟩,
          ⟨.text .plain "a", some 2, []⟩,
          ⟨.tag { name := "pre", attrs := [] }, some 1, [5]⟩,
          ⟨.text .plain "return", some 4, []⟩,
          ⟨.tag { name := "p", attrs := [] }, some 1, [7]⟩,
          ⟨.text .plain "b", some 6, []⟩,
          ⟨.tag { name := "p", attrs := [] }, none, []⟩]⟩ }

def blockCode : Fragment where
  node := 4
  level := .block
  text := "return"
  attributes := []

def blockSettings (ns : List NodeId) : Settings :=
  { paragraphSettings with evaluator := returning ns }

theorem blocks_wellFormed : blocks.world.forest.WellFormed := by
  refine .of_ordered ?_ ?_ <;> decide

theorem blocks_substituted (n : NodeId) (ns : List NodeId)
    (hv : Result.validate (Script.machine 2) (.tuple ((n :: ns).map .node)) .block blocks.world =
      .ok (some (n :: ns)) blocks.world)
    (he : encloses blocks.world.forest (n :: ns) 4 = false) :
    ∃ st₁, execute (blockSettings (n :: ns)) blockCode blocks =
        .ok (blockCode, .substituted (n :: ns)) st₁ ∧ st₁.world = blocks.world :=
  ⟨_, execute_of_verdict rfl (.substituted (returns_of_invoke rfl rfl rfl) hv rfl he), rfl⟩

/-- The new paragraph and the one in front of the code take its place. -/
theorem blocks_together : ∃ st₁ st₂,
    execute (blockSettings [8, 2]) blockCode blocks = .ok (blockCode, .substituted [8, 2]) st₁ ∧
    st₁.world.forest.WellFormed ∧ [8, 2].Nodup ∧
    st₁.world.forest.children 1 = [2] ++ blockCode.node :: [6] ∧
    apply (blockSettings [8, 2]) blockCode (.substituted [8, 2]) st₁ =
      .ok (.substituted [8, 2]) st₂ ∧
    Landed st₁.world.forest st₂.world.forest 1 [2] [8, 2] [6] ∧
    st₂.world.forest.children 1 = [8, 2, 6] := by
  obtain ⟨st₁, hx, hw⟩ := blocks_substituted 8 [2] rfl (by decide)
  have ht : st₁.world.forest.WellFormed := hw ▸ blocks_wellFormed
  have hc : st₁.world.forest.children 1 = [2] ++ blockCode.node :: [6] := by
    rw [hw]
    rfl
  obtain ⟨st₂, ha, hl⟩ := execute_lands hx ht (by decide) hc
  exact ⟨st₁, st₂, hx, ht, by decide, hc, ha, hl, hl.together.mpr (by decide)⟩

/-- In the other order they do not: the paragraph behind the code gets between them. -/
theorem blocks_apart : ∃ st₁ st₂,
    execute (blockSettings [2, 8]) blockCode blocks = .ok (blockCode, .substituted [2, 8]) st₁ ∧
    st₁.world.forest.WellFormed ∧ [2, 8].Nodup ∧
    st₁.world.forest.children 1 = [2] ++ blockCode.node :: [6] ∧
    apply (blockSettings [2, 8]) blockCode (.substituted [2, 8]) st₁ =
      .ok (.substituted [2, 8]) st₂ ∧
    st₂.world.forest.children 1 = [2, 6, 8] ∧
    st₂.world.forest.children 1 ≠ without [2] [2, 8] ++ [2, 8] ++ without [6] [2, 8] := by
  obtain ⟨st₁, hx, hw⟩ := blocks_substituted 2 [8] rfl (by decide)
  have ht : st₁.world.forest.WellFormed := hw ▸ blocks_wellFormed
  have hc : st₁.world.forest.children 1 = [2] ++ blockCode.node :: [6] := by
    rw [hw]
    rfl
  have ha := execute_accepts hx [2, 8] rfl
  obtain ⟨t, he, hap⟩ := apply_substituted ha ht
  have hs := (Document.Edit.replaceWith_settles ht hc (ha.insertable ht) he).1
  exact ⟨st₁, _, hx, ht, by decide, hc, hap, hs, hs ▸ by decide⟩

end LiveMarkdown.Executor
