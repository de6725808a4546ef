import LiveMarkdown.Script.Kind

/-!
The questions that the parts of the interpreter put to each other. Each part answers one kind of
question and is given a machine that answers the questions in it; the machine that answers all of
them is built from the parts by recursion on the depth that is left.
-/

namespace LiveMarkdown.Script

/-- A question, indexed by the type of its answer. -/
inductive Request : Type → Type where
  | eval (fr : Frame) (e : Expr) : Request Value
  | block (fr : Frame) (ss : List Stmt) : Request Ending
  | assign (fr : Frame) (target : Expr) (v : Value) : Request Unit
  | call (f : Value) (args : List Value) (names : List (String × Value)) : Request Value
  | attr (v : Value) (name : String) : Request Value
  | next (iter : Value) : Request (Option Value)
  | show (full : Bool) (v : Value) : Request String
  | compare (op : CompareOp) (a b : Value) : Request Value
  | resume (generator : Ref) (sent : Value) : Request (Option Value)
  | fail (generator : Ref) (e : Value) : Request (Option Value)

/-- A machine answers questions. -/
structure Machine where
  ask : {α : Type} → Request α → Run α

namespace Machine

variable (m : Machine)

def eval (fr : Frame) (e : Expr) : Run Value := m.ask (.eval fr e)

def block (fr : Frame) (ss : List Stmt) : Run Ending := m.ask (.block fr ss)

def assign (fr : Frame) (target : Expr) (v : Value) : Run Unit := m.ask (.assign fr target v)

def call (f : Value) (args : List Value) : Run Value := m.ask (.call f args [])

def callWith (f : Value) (args : List Value) (names : List (String × Value)) : Run Value :=
  m.ask (.call f args names)

def attr (v : Value) (name : String) : Run Value := m.ask (.attr v name)

def next (iter : Value) : Run (Option Value) := m.ask (.next iter)

/-- A value as it is shown to a reader. -/
def text (v : Value) : Run String := m.ask (.show false v)

/-- A value as it is shown in lists and messages. -/
def shown (v : Value) : Run String := m.ask (.show true v)

def compare (op : CompareOp) (a b : Value) : Run Value := m.ask (.compare op a b)

end Machine

/-- How often one loop may run. -/
def loopLimit : Nat := 10000000

/-- Repeats a step until it gives a result. -/
def repeatUpTo {α : Type} : Nat → Run (Option α) → Run α
  | 0, _ => throw .exhausted
  | fuel + 1, step => do
    match ← step with
    | some a => return a
    | none => repeatUpTo fuel step

/-- Repeats a step on a state until it gives a result. -/
def iterateUpTo {σ α : Type} : Nat → σ → (σ → Run (σ ⊕ α)) → Run α
  | 0, _, _ => throw .exhausted
  | fuel + 1, s, step => do
    match ← step s with
    | .inl s => iterateUpTo fuel s step
    | .inr a => return a

end LiveMarkdown.Script
