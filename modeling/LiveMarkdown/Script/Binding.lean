import LiveMarkdown.Script.Attribute

/-!
Arguments bound to the parameters of a function, and what is said when they do not fit.
-/

namespace LiveMarkdown.Script

namespace Binding

def quotedName (n : String) : String := "'" ++ n ++ "'"

/-- Names in a sentence: the last one after "and". -/
def listed : List String → String
  | [] => ""
  | [a] => quotedName a
  | [a, b] => quotedName a ++ " and " ++ quotedName b
  | names =>
    ", ".intercalate (names.dropLast.map quotedName) ++ ", and " ++
      quotedName (names.getLast?.getD "")

def argumentWord (n : Nat) : String := if n = 1 then "argument" else "arguments"

def wasWere (n : Nat) : String := if n = 1 then "was" else "were"

def missing {α : Type} (func kind : String) (names : List String) : Run α :=
  Run.typeError s!"{func}() missing {names.length} required {kind} {argumentWord names.length}: {listed names}"

def tooMany {α : Type} (func : String) (most defaults given nameOnlyGiven : Nat) : Run α := do
  let takes := if defaults = 0 then s!"{most} positional {argumentWord most}"
    else s!"from {most - defaults} to {most} positional {argumentWord most}"
  let gave := if nameOnlyGiven = 0 then s!"{given}"
    else s!"{given} positional {argumentWord given} (and {nameOnlyGiven} keyword-only {argumentWord nameOnlyGiven})"
  let verb := if nameOnlyGiven = 0 then wasWere given else "were"
  Run.typeError s!"{func}() takes {takes} but {gave} {verb} given"

def nameOf : Param → String
  | .mk _ n _ => n

/-- The bound parameters of a function in the order in which they are declared, with the defaults of
the last ones. -/
def bindParams (func : String) (params : Params) (defaults : List Value)
    (nameDefaults : List (String × Value)) (args : List Value) (names : List (String × Value)) :
    Run (List (String × Value)) := do
  match params with
  | .mk po ps rest ns _ restNames _ =>
    let positional := (po ++ ps).map nameOf
    let onlyPlace := po.map nameOf
    let byName := ps.map nameOf ++ ns.map nameOf
    let taken := (positional.zip args)
    -- arguments by name
    let mut given : List (String × Value) := taken
    let mut extra : List (String × Value) := []
    for (k, v) in names do
      if byName.contains k then
        if given.any fun p => p.1 == k then
          Run.typeError s!"{func}() got multiple values for argument '{k}'"
        given := given ++ [(k, v)]
      else if restNames.isSome then extra := extra ++ [(k, v)]
      else if onlyPlace.contains k then
        let wrong := (names.map (·.1)).filter onlyPlace.contains
        let shown := quotedName (", ".intercalate wrong)
        Run.typeError s!"{func}() got some positional-only arguments passed as keyword arguments: {shown}"
      else Run.typeError s!"{func}() got an unexpected keyword argument '{k}'"
    -- arguments by position that no parameter takes
    if rest.isNone && positional.length < args.length then
      let byNameOnly := (given.filter fun p => (ns.map nameOf).contains p.1).length
      tooMany func positional.length defaults.length args.length byNameOnly
    let withDefault := positional.drop (positional.length - defaults.length)
    let defaults := withDefault.zip defaults
    let value? (n : String) : Option Value :=
      match given.find? fun p => p.1 == n with
      | some (_, v) => some v
      | none => (defaults.find? fun p => p.1 == n).map (·.2)
    let absent := positional.filter fun n => (value? n).isNone
    if absent ≠ [] then missing func "positional" absent
    let named? (n : String) : Option Value :=
      match given.find? fun p => p.1 == n with
      | some (_, v) => some v
      | none => (nameDefaults.find? fun p => p.1 == n).map (·.2)
    let absent := (ns.map nameOf).filter fun n => (named? n).isNone
    if absent ≠ [] then missing func "keyword-only" absent
    let first := positional.filterMap fun n => (value? n).map fun v => (n, v)
    let second := (ns.map nameOf).filterMap fun n => (named? n).map fun v => (n, v)
    let third := match rest with
      | some p => [(nameOf p, Value.tuple (args.drop positional.length))]
      | none => []
    let fourth ← match restNames with
      | some p => pure [(nameOf p, ← Run.newDict (extra.map fun (k, v) => (.str k, v)))]
      | none => pure []
    return first ++ second ++ third ++ fourth

/-- The bound parameters of a function. -/
def bind (f : Function) (args : List Value) (names : List (String × Value)) :
    Run (List (String × Value)) :=
  bindParams f.qualifiedName f.params f.defaults f.nameDefaults args names

end Binding

end LiveMarkdown.Script
