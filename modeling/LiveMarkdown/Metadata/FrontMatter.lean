import LiveMarkdown.Metadata.Value

/-!
The block at the start of a document that holds its metadata. It begins with a line of three dashes
and ends with a line of three dashes or three points; the body is what follows.
-/

namespace LiveMarkdown.Metadata

open Script (Value Run Machine)

namespace FrontMatter

def isBlank (c : Char) : Bool := c = ' ' || c = '\t'

/-- What follows three given characters at the end of a line: blanks and an optional carriage
return. The end of the line is left. -/
def markRest? (c : Char) (cs : List Char) : Option (List Char) :=
  match cs with
  | a :: b :: d :: rest =>
    if a = c && b = c && d = c then
      let rest := rest.dropWhile isBlank
      match rest with
      | '\r' :: '\n' :: _ | ['\r'] => some (rest.drop 1)
      | '\n' :: _ | [] => some rest
      | _ => none
    else none
  | _ => none

/-- The text behind the line that opens a block. -/
def opened? (cs : List Char) : Option (List Char) :=
  let cs := match cs with
    | '\ufeff' :: rest => rest
    | cs => cs
  match markRest? '-' cs with
  | some ('\n' :: rest) => some rest
  | _ => none

/-- Looks for the line that closes a block; gives the lines before it and the text behind it. -/
def closed? (atStart : Bool) (before : List Char) : List Char → Option (List Char × List Char)
  | [] => none
  | c :: cs =>
    let closing := if atStart then (markRest? '-' (c :: cs)).or (markRest? '.' (c :: cs)) else none
    match closing with
    | some rest => some (before.reverse, if rest.head? = some '\n' then rest.drop 1 else rest)
    | none => closed? (c = '\n') (c :: before) cs

/-- The metadata text of a document and its body, if it begins with such a block. -/
def split? (source : String) : Option (String × String) := do
  let (text, body) ← closed? true [] (← opened? source.toList)
  return (String.ofList text, String.ofList body)

/-- The metadata of a document and its body. A block that cannot be read belongs to the body; one that
holds no mapping is dropped. -/
def read (m : Machine) (source : String) : Run (Value × String) := do
  match split? source with
  | none => return (← Run.newDict [], source)
  | some (text, body) =>
    match ← readValue m text with
    | .error _ => return (← Run.newDict [], source)
    | .ok v =>
      match ← Run.deref v with
      | some (.dict _) => return (v, body)
      | _ => return (← Run.newDict [], body)

end FrontMatter

end LiveMarkdown.Metadata
