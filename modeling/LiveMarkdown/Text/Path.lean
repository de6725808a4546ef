import LiveMarkdown.Text.Search

/-!
Paths of files. Empty steps and steps that stay where they are say nothing.
-/

namespace LiveMarkdown.Text

/-- The steps of a path. -/
def pathSteps (s : String) : List String :=
  (splitAt "/" s).filter fun p => p != "" && p != "."

/-- A path in its plain form. Two slashes at the start are kept, more count as one. -/
def cleanPath (s : String) : String :=
  let slashes := (s.toList.takeWhile (· == '/')).length
  let front := if slashes = 0 then "" else if slashes = 2 then "//" else "/"
  let body := front ++ "/".intercalate (pathSteps s)
  if body == "" then "." else body

/-- Takes the steps of a path that lead back; none if it leads outside. -/
def stepsBelow? : List String → List String → Option (List String)
  | done, [] => some done.reverse
  | done, s :: rest =>
    if s == ".." then
      match done with
      | [] => none
      | _ :: done => stepsBelow? done rest
    else stepsBelow? (s :: done) rest

/-- The path of a file below the directory that a path is seen from. -/
def pathBelow? (path : String) : Option String :=
  if path.startsWith "/" then none
  else (stepsBelow? [] (pathSteps path)).map fun ss => "/".intercalate ss

end LiveMarkdown.Text
