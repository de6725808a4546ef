import LiveMarkdown.Proofs.Wrapper
import Mathlib

/-!
Whether a block returns. The nodes that are still to be looked at wait, one of them is taken, and
its parts wait in its place. The answer says whether a return can be reached without entering a
function, a class or a lambda. It is that of a recursion over the statements, and the same in
whichever order the waiting nodes are taken; no order takes more turns than there are nodes.
-/

namespace LiveMarkdown.Script

namespace Node

variable {n m c : Node} {pending next last : Multiset Node} {k : Nat} {b : Bool}

/-- A node leads to its parts, unless it begins a block of its own. -/
def Leads (n c : Node) : Prop := n.isScope = false ∧ c ∈ n.children

theorem mem_exposed_iff : m ∈ n.exposed ↔ Relation.ReflTransGen Leads n m := by
  constructor
  · intro h
    induction n using walk.induct with | case1 n ih
    obtain rfl | ⟨hs, c, hc, hm⟩ := mem_exposed.mp h
    · exact .refl
    · exact .head ⟨hs, hc⟩ (ih c hc hm)
  · intro h
    induction h using Relation.ReflTransGen.head_induction_on with
    | refl => exact mem_exposed.mpr (.inl rfl)
    | head hl _ ih => exact mem_exposed.mpr (.inr ⟨hl.1, _, hl.2, ih⟩)

/-! ### By recursion -/

/-- Whether a node is a return, or one of its parts returns; what begins a block of its own does not. -/
def returns (n : Node) : Bool :=
  n.isReturn || !n.isScope && n.children.attach.any fun ⟨c, _⟩ => returns c
termination_by sizeOf n
decreasing_by exact sizeOf_lt_of_mem_children ‹_›

theorem returns_iff_leads :
    n.returns = true ↔ n.isReturn = true ∨ ∃ c, Leads n c ∧ c.returns = true := by
  rw [returns]
  simp [Leads, and_assoc]

theorem returns_iff_exposed : n.returns = true ↔ ∃ m ∈ n.exposed, m.isReturn = true := by
  induction n using walk.induct with | case1 n ih
  rw [returns_iff_leads]
  constructor
  · rintro (h | ⟨c, ⟨hs, hc⟩, h⟩)
    · exact ⟨n, mem_exposed.mpr (.inl rfl), h⟩
    · obtain ⟨m, hm, hr⟩ := (ih c hc).mp h
      exact ⟨m, mem_exposed.mpr (.inr ⟨hs, c, hc, hm⟩), hr⟩
  · rintro ⟨m, hm, hr⟩
    obtain rfl | ⟨hs, c, hc, hm⟩ := mem_exposed.mp hm
    · exact .inl hr
    · exact .inr ⟨c, ⟨hs, hc⟩, (ih c hc).mpr ⟨m, hm, hr⟩⟩

theorem hasReturn_eq_any (ns : List Node) : hasReturn ns = ns.any returns := by
  rw [Bool.eq_iff_iff, hasReturn_iff, List.any_eq_true]
  simp only [returns_iff_exposed]

/-! ### In any order -/

/-- The nodes that wait in the place of one that was taken. -/
def opened (n : Node) : List Node := if n.isScope then [] else n.children

theorem mem_opened : c ∈ n.opened ↔ Leads n c := by
  unfold opened Leads
  cases n.isScope <;> simp

/-- One turn of a search: a waiting node, whichever it is, is taken. -/
inductive Turn : Multiset Node → Multiset Node → Prop
  | take {n : Node} {rest : Multiset Node} (h : n.isReturn = false) :
      Turn (n ::ₘ rest) (n.opened + rest)

/-- A number of turns. -/
inductive Turns : Nat → Multiset Node → Multiset Node → Prop
  | done {pending : Multiset Node} : Turns 0 pending pending
  | turn {k : Nat} {pending next last : Multiset Node} (h : Turn pending next)
      (hs : Turns k next last) : Turns (k + 1) pending last

/-- A search can end with an answer: a return is there to be taken, or no node waits. -/
def Ends (pending : Multiset Node) : Bool → Prop
  | true => ∃ n ∈ pending, n.isReturn = true
  | false => pending = 0

/-- A search in some order ends with an answer. -/
def Answers (pending : Multiset Node) (b : Bool) : Prop :=
  ∃ k last, Turns k pending last ∧ Ends last b

/-- The number of nodes that wait or stand below one that waits. -/
def size (pending : Multiset Node) : Nat := (pending.map weight).sum

theorem total_eq_sum (ns : List Nat) : Number.total ns = ns.sum := by
  induction ns with
  | nil => rfl
  | cons n ns ih => rw [Number.total_cons, ih, List.sum_cons]

theorem size_opened_lt (n : Node) : size n.opened < n.weight := by
  have hw := weight_eq n
  have hs : size n.children = Number.total (n.children.map weight) := by
    rw [total_eq_sum, size, Multiset.map_coe, Multiset.sum_coe]
  unfold opened
  split
  · change 0 < n.weight
    omega
  · omega

/-- A turn takes a node away for good. -/
theorem Turn.size_lt (h : Turn pending next) : size next < size pending := by
  cases h with | @take n rest h
  have hn : size (n ::ₘ rest) = n.weight + size rest := by simp [size]
  have ho : size (n.opened + rest) = size n.opened + size rest := by simp [size]
  rw [hn, ho]
  exact Nat.add_lt_add_right (size_opened_lt n) _

theorem Turns.size_le (h : Turns k pending last) : k + size last ≤ size pending := by
  induction h with
  | done => exact (Nat.zero_add _).le
  | turn h _ ih =>
    have := h.size_lt
    omega

/-- What a turn takes returns exactly if what waits in its place does. -/
theorem Turn.returns_iff (h : Turn pending next) :
    (∃ n ∈ next, n.returns = true) ↔ ∃ n ∈ pending, n.returns = true := by
  cases h with | @take n rest h
  have hn : n.returns = true ↔ ∃ c ∈ n.opened, c.returns = true := by
    rw [returns_iff_leads]
    simp [h, mem_opened]
  simp [or_and_right, exists_or, hn]

theorem Turns.returns_iff (h : Turns k pending last) :
    (∃ n ∈ last, n.returns = true) ↔ ∃ n ∈ pending, n.returns = true := by
  induction h with
  | done => rfl
  | turn h _ ih => exact ih.trans h.returns_iff

theorem Ends.returns_iff (h : Ends pending b) : b = true ↔ ∃ n ∈ pending, n.returns = true := by
  cases b with
  | true =>
    obtain ⟨n, hn, hr⟩ := h
    exact iff_of_true rfl ⟨n, hn, returns_iff_leads.mpr (.inl hr)⟩
  | false =>
    obtain rfl : pending = 0 := h
    simp

theorem Answers.returns_iff (h : Answers pending b) :
    b = true ↔ ∃ n ∈ pending, n.returns = true := by
  obtain ⟨k, last, ht, he⟩ := h
  exact he.returns_iff.trans ht.returns_iff

theorem Answers.turn (h : Turn pending next) (ha : Answers next b) : Answers pending b := by
  obtain ⟨k, last, ht, he⟩ := ha
  exact ⟨k + 1, last, .turn h ht, he⟩

theorem Turn.of_list {n : Node} {ns rest : List Node} (h : ¬ n.isReturn = true)
    (hp : ns.Perm n.opened) : Turn (n :: rest : List Node) (ns ++ rest : List Node) := by
  have ht : Turn (n ::ₘ rest) (n.opened + rest) := .take (by simpa using h)
  rwa [Multiset.cons_coe, ← Multiset.coe_eq_coe.mpr hp, Multiset.coe_add] at ht

/-- To take the node on top each time is one way to search. -/
theorem answers_hasReturn (ns : List Node) : Answers ns (hasReturn ns) := by
  induction ns using hasReturn.induct with
  | case1 => exact ⟨0, 0, .done, by simp [hasReturn, Ends]⟩
  | case2 n rest h =>
    rw [hasReturn, if_pos h]
    exact ⟨0, _, .done, n, by simp, h⟩
  | case3 n rest h hs ih =>
    rw [hasReturn, if_neg h, if_pos hs]
    have hp : ([] : List Node).Perm n.opened := by rw [opened, if_pos hs]
    exact ih.turn (.of_list h hp)
  | case4 n rest h hs ih =>
    rw [hasReturn, if_neg h, if_neg hs]
    have hp : n.children.reverse.Perm n.opened := by
      rw [opened, if_neg hs]
      exact n.children.reverse_perm
    exact ih.turn (.of_list h hp)

/-- Every search can be brought to an end, and there is one answer for it to give. -/
theorem answers_iff : Answers pending b ↔ (b = true ↔ ∃ n ∈ pending, n.returns = true) := by
  refine ⟨Answers.returns_iff, fun h => ?_⟩
  induction pending using Quotient.inductionOn with | h ns
  have hb : b = hasReturn ns := by
    rw [Bool.eq_iff_iff, h, hasReturn_eq_any, List.any_eq_true]
    simp
  rw [hb]
  exact answers_hasReturn ns

end Node

/-! ### By recursion over statements -/

mutual

/-- Whether a statement returns: what the statements inside it say, but for functions and classes. -/
def Stmt.returns : Stmt → Bool
  | .return .. => true
  | .for _ _ _ _ body orElse => anyReturns body || anyReturns orElse
  | .while _ _ body orElse => anyReturns body || anyReturns orElse
  | .if _ _ body orElse => anyReturns body || anyReturns orElse
  | .with _ _ _ body => anyReturns body
  | .match _ _ cases => casesReturn cases
  | .try _ _ body handlers orElse final =>
    anyReturns body || handlersReturn handlers || anyReturns orElse || anyReturns final
  | .function .. | .cls .. => false
  | .delete .. | .assign .. | .augAssign .. | .annAssign .. | .raise .. | .assert .. | .import ..
  | .importFrom .. | .global .. | .nonlocal .. | .expr .. | .pass _ | .break _ | .continue _ => false

def anyReturns : List Stmt → Bool
  | [] => false
  | s :: ss => s.returns || anyReturns ss

def casesReturn : List Case → Bool
  | [] => false
  | .mk _ _ body :: cs => anyReturns body || casesReturn cs

def handlersReturn : List Handler → Bool
  | [] => false
  | .mk _ _ _ body :: hs => anyReturns body || handlersReturn hs

end

theorem anyReturns_eq (ss : List Stmt) : anyReturns ss = ss.any Stmt.returns := by
  induction ss with
  | nil => rfl
  | cons s ss ih => rw [anyReturns, ih, List.any_cons]

theorem casesReturn_eq (cs : List Case) : casesReturn cs = cs.any (anyReturns ·.body) := by
  induction cs with
  | nil => rfl
  | cons c cs ih =>
    cases c
    rw [casesReturn, ih, List.any_cons]
    rfl

theorem handlersReturn_eq (hs : List Handler) : handlersReturn hs = hs.any (anyReturns ·.body) := by
  induction hs with
  | nil => rfl
  | cons h hs ih =>
    cases h
    rw [handlersReturn, ih, List.any_cons]
    rfl

theorem Stmt.returns_eq (s : Stmt) :
    s.returns = (Node.isReturn (.stmt s) || s.blocks.any anyReturns) := by
  cases s <;> simp [returns, Node.isReturn, blocks, casesReturn_eq, handlersReturn_eq,
    Function.comp_def, Bool.or_assoc]

theorem Stmt.returns_iff_shows (s : Stmt) :
    s.returns = true ↔ ∃ t, s.Shows t ∧ Node.isReturn (.stmt t) = true := by
  induction s using Stmt.blocks_induction with | h s ih
  rw [Stmt.returns_eq, Bool.or_eq_true, List.any_eq_true]
  simp only [anyReturns_eq, List.any_eq_true]
  constructor
  · rintro (h | ⟨b, hb, t, ht, hr⟩)
    · exact ⟨s, Stmt.shows_iff.mpr (.inl rfl), h⟩
    · obtain ⟨u, hu, hr⟩ := (ih b hb t ht).mp hr
      exact ⟨u, Stmt.shows_iff.mpr (.inr ⟨b, hb, t, ht, hu⟩), hr⟩
  · rintro ⟨u, hu, hr⟩
    obtain rfl | ⟨b, hb, t, ht, hu⟩ := Stmt.shows_iff.mp hu
    · exact .inl hr
    · exact .inr ⟨b, hb, t, ht, (ih b hb t ht).mpr ⟨u, hu, hr⟩⟩

theorem hasReturn_eq_anyReturns (ss : List Stmt) : hasReturn ss = anyReturns ss := by
  rw [Bool.eq_iff_iff, hasReturn_iff, anyReturns_eq, List.any_eq_true]
  simp only [Stmt.returns_iff_shows]

theorem hasReturn_iff_returns {ss : List Stmt} :
    hasReturn ss = true ↔ ∃ n ∈ Node.stmts ss, n.returns = true := by
  rw [hasReturn, Node.hasReturn_eq_any, List.any_eq_true]
  simp only [List.mem_reverse]

/-- A block returns exactly if a return is reached from one of its statements without entering a
function, a class or a lambda. To find out by recursion, over all nodes or over the statements alone,
gives the same answer. So does a search that takes the waiting nodes in any order: it makes at most
one turn for each node, and wherever it stands it comes to that answer and no other. -/
theorem hasReturn_settles (ss : List Stmt) :
    (hasReturn ss = true ↔
      ∃ s ∈ ss, ∃ n, Relation.ReflTransGen Node.Leads (.stmt s) n ∧ n.isReturn = true) ∧
    hasReturn ss = (Node.stmts ss).any Node.returns ∧
    hasReturn ss = anyReturns ss ∧
    ∀ k pending, Node.Turns k (Node.stmts ss) pending →
      k + Node.size pending ≤ Node.size (Node.stmts ss) ∧
      ∀ b, Node.Answers pending b ↔ b = hasReturn ss := by
  refine ⟨?_, ?_, hasReturn_eq_anyReturns ss, fun k pending h => ⟨h.size_le, fun b => ?_⟩⟩
  · rw [hasReturn_iff_returns]
    simp only [Node.returns_iff_exposed, Node.mem_exposed_iff]
    simp [Node.stmts]
  · rw [Bool.eq_iff_iff, hasReturn_iff_returns, List.any_eq_true]
  · have hr : (∃ n ∈ (Node.stmts ss : Multiset Node), n.returns = true) ↔ hasReturn ss = true :=
      hasReturn_iff_returns.symm
    rw [Node.answers_iff, h.returns_iff, hr]
    exact Bool.eq_iff_iff.symm

/-- A loop in which a function returns, and a handler behind it. -/
def returningLoop : Stmt :=
  .for {} false (.name {} "x" .store) (.name {} "xs" .load)
    [.function {} false "f" (.mk [] [] none [] [] none []) [.return {} none] [] none,
      .try {} false [.pass {}] [.mk {} none none [.return {} none]] [] []] []

theorem returningLoop_searched : ∃ pending,
    Node.Turns 1 (Node.stmts [returningLoop]) pending ∧
    1 + Node.size pending ≤ Node.size (Node.stmts [returningLoop]) ∧
    ∀ b, Node.Answers pending b ↔ b = true := by
  obtain ⟨-, -, hr, hs⟩ := hasReturn_settles [returningLoop]
  have ht : Node.Turns 1 (Node.stmts [returningLoop])
      ((Node.stmt returningLoop).opened ++ [] : List Node) :=
    .turn (.of_list (by decide) (.refl _)) .done
  obtain ⟨hl, ha⟩ := hs 1 _ ht
  have hr : hasReturn [returningLoop] = true := hr
  exact ⟨_, ht, hl, fun b => hr ▸ ha b⟩

end LiveMarkdown.Script
