import LiveMarkdown.Text.Blank

/-!
What is said about a text that is no program.
-/

namespace LiveMarkdown.Script

/-- An error in the text of a program: what is wrong, where, and the line it is about. -/
structure SyntaxFault where
  message : String
  className : String := "SyntaxError"
  line : Option Int := none
  column : Option Int := none
  text : Option String := none
deriving DecidableEq, Repr

namespace SyntaxFault

/-- The message with the line, as the exception shows itself. -/
def short (e : SyntaxFault) (filename : Option String) : String :=
  match filename, e.line with
  | some f, some n => s!"{e.message} ({f}, line {n})"
  | none, some n => s!"{e.message} (line {n})"
  | some f, none => s!"{e.message} ({f})"
  | none, none => e.message

/-- The message with the place, and below it the line without blanks around it. -/
def describe (e : SyntaxFault) : String :=
  let message := if e.message == "" then e.short none else e.message
  match e.line with
  | none => message
  | some n =>
    let column := match e.column with
      | some c => if c = 0 then "" else s!", column {c}"
      | none => ""
    let place := s!"{message} (line {n}{column})"
    let feeds := Text.dropLastWhile (· = '\n') (e.text.getD "").toList
    let shown := Text.strip (String.ofList feeds)
    if shown == "" then place else place ++ "\n    " ++ shown

end SyntaxFault

end LiveMarkdown.Script
