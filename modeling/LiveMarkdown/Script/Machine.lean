import LiveMarkdown.Script.Resume

/-!
The machine that answers all questions, to a given depth.
-/

namespace LiveMarkdown.Script

/-- Answers a question with a machine for the questions in it. -/
def answer (m : Machine) : {α : Type} → Request α → Run α
  | _, .eval fr e => Expression.eval m fr e
  | _, .block fr ss => Statement.block m fr ss
  | _, .assign fr t v => Target.assign m fr t v
  | _, .call f args names => Call.call m f args names
  | _, .attr v name => Attribute.get m v name
  | _, .next it => Iteration.step m it
  | _, .show full v => if full then Show.full m v else Show.plain m v
  | _, .compare op a b => Comparison.apply m op a b
  | _, .resume g v => Resume.resume m g v
  | _, .fail g e => Resume.fail m g e

/-- The machine that answers questions inside questions to a depth. -/
def machine : Nat → Machine
  | 0 => ⟨fun _ => throw .exhausted⟩
  | depth + 1 => ⟨fun q => answer (machine depth) q⟩

/-- The depth to which programs run. -/
def depthLimit : Nat := 5000

/-- The machine that runs programs. -/
def fullMachine : Machine := machine depthLimit

end LiveMarkdown.Script
