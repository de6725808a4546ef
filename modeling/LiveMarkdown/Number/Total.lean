/-!
Totals of lists of natural numbers.
-/

namespace LiveMarkdown.Number

/-- The total of a list of numbers. -/
def total : List Nat → Nat
  | [] => 0
  | n :: ns => n + total ns

@[simp] theorem total_nil : total [] = 0 := rfl

@[simp] theorem total_cons (n : Nat) (ns : List Nat) : total (n :: ns) = n + total ns := rfl

@[simp] theorem total_append (ns ms : List Nat) : total (ns ++ ms) = total ns + total ms := by
  induction ns with
  | nil => simp
  | cons n ns ih => simp [ih, Nat.add_assoc]

@[simp] theorem total_reverse (ns : List Nat) : total ns.reverse = total ns := by
  induction ns with
  | nil => rfl
  | cons n ns ih => simp [ih, Nat.add_comm]

end LiveMarkdown.Number
