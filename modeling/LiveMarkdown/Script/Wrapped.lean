import LiveMarkdown.Script.Names

/-!
Blocks with a top-level return. Such a block runs as the body of a function that declares every name
it binds as global, so that it binds them where a block without a return would. Statements that have
no place in such a body are replaced.
-/

namespace LiveMarkdown.Script

/-- The name under which the function of a returning block runs. -/
def wrapperName : String := "__execsmith_fragment__"

/-- The name of the function that copies the public names of a module. -/
def starImportName : String := "__execsmith_import_star__"

/-- A star import as a call with the module, the level and the namespace. -/
def starImportCall (loc : Loc) (source : Option String) (level : Option Nat) : Stmt :=
  .expr loc (.call loc (.name loc starImportName .load)
    [.constant loc (.str (source.getD "") false),
      .constant loc (match level with
        | some n => .int n
        | none => .none),
      .call loc (.name loc "globals" .load) [] []] [])

mutual

/-- A statement as it stands in the function: a global declaration is already made, an annotation of
a plain name is dropped, and a star import is a call. Inner functions and classes stay. -/
def inWrapper : Stmt → Stmt
  | .global loc _ => .pass loc
  | .annAssign loc (.name l id _) _ value _ =>
    match value with
    | none => .pass loc
    | some v => .assign loc [.name l id .store] v
  | .importFrom loc source names level =>
    if (names.head?.map Alias.name) == some "*" then starImportCall loc source level
    else .importFrom loc source names level
  | .for loc isAsync target iter body orElse =>
    .for loc isAsync target iter (allInWrapper body) (allInWrapper orElse)
  | .while loc test body orElse => .while loc test (allInWrapper body) (allInWrapper orElse)
  | .if loc test body orElse => .if loc test (allInWrapper body) (allInWrapper orElse)
  | .with loc isAsync items body => .with loc isAsync items (allInWrapper body)
  | .match loc subject cases => .match loc subject (casesInWrapper cases)
  | .try loc isStar body handlers orElse final =>
    .try loc isStar (allInWrapper body) (handlersInWrapper handlers) (allInWrapper orElse)
      (allInWrapper final)
  | s => s

def allInWrapper : List Stmt → List Stmt
  | [] => []
  | s :: ss => inWrapper s :: allInWrapper ss

def handlersInWrapper : List Handler → List Handler
  | [] => []
  | .mk loc kind name body :: hs => .mk loc kind name (allInWrapper body) :: handlersInWrapper hs

def casesInWrapper : List Case → List Case
  | [] => []
  | .mk p guard body :: cs => .mk p guard (allInWrapper body) :: casesInWrapper cs

end

/-- The body of the function that a returning block becomes. -/
def wrapperBody (ss : List Stmt) : List Stmt :=
  let names := boundNames ss
  (if names = [] then [] else [.global {} names]) ++ allInWrapper ss

end LiveMarkdown.Script
