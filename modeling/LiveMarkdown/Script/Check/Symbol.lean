import LiveMarkdown.Script.Node
import LiveMarkdown.Script.SyntaxFault

/-!
What the blocks of a program do with their names, and the rules for it: a name is declared before it
is used, parameters differ, the targets of a comprehension are not bound by an assignment expression,
and a nonlocal name belongs to a function around the block.
-/

namespace LiveMarkdown.Script

/-- A fault at a place. -/
def SyntaxFault.at (loc : Loc) (message : String) : SyntaxFault where
  message := message
  line := some loc.line
  column := some (loc.column + 1)

namespace Check

/-- What a block does with one name. -/
structure Usage where
  isGlobal : Bool := false
  isNonlocal : Bool := false
  isAssigned : Bool := false
  isParam : Bool := false
  isImported : Bool := false
  isUsed : Bool := false
  isAnnotated : Bool := false
  /-- The name stands in the target of a comprehension. -/
  isTarget : Bool := false

namespace Usage

def isBound (u : Usage) : Bool := u.isAssigned || u.isParam || u.isImported

def merge (u v : Usage) : Usage where
  isGlobal := u.isGlobal || v.isGlobal
  isNonlocal := u.isNonlocal || v.isNonlocal
  isAssigned := u.isAssigned || v.isAssigned
  isParam := u.isParam || v.isParam
  isImported := u.isImported || v.isImported
  isUsed := u.isUsed || v.isUsed
  isAnnotated := u.isAnnotated || v.isAnnotated
  isTarget := u.isTarget || v.isTarget

end Usage

inductive BlockKind where
  | module
  | function
  | classBody
  /-- A comprehension, with the words for it. -/
  | comprehension (words : String)
  | hint
deriving DecidableEq

structure Block where
  kind : BlockKind
  /-- The class to which private names belong. -/
  privateTo : Option String := none
  names : List (String × Usage) := []
  /-- The declarations of names as belonging elsewhere. -/
  declared : List (String × Loc) := []
  inTarget : Bool := false
  /-- How many iterables of comprehensions the place is in. -/
  iterables : Nat := 0

/-- A block with the blocks in it. -/
inductive BlockTree where
  | node (block : Block) (inner : List BlockTree)

/-- A private name as it is kept: with the name of the class that it belongs to. -/
def privateName (cls : Option String) (name : String) : String :=
  match cls with
  | some c =>
    let cs := name.toList
    let own := String.ofList (c.toList.dropWhile (· = '_'))
    if cs.take 2 = ['_', '_'] ∧ cs.reverse.take 2 ≠ ['_', '_'] ∧ !cs.contains '.' ∧ own ≠ "" then
      "_" ++ own ++ name
    else name
  | none => name

namespace Block

def usage (b : Block) (name : String) : Usage := ((b.names.find? (·.1 = name)).map (·.2)).getD {}

def put (b : Block) (name : String) (u : Usage) : Block :=
  if b.names.any (·.1 = name) then
    { b with names := b.names.map fun p => if p.1 = name then (name, u) else p }
  else { b with names := b.names ++ [(name, u)] }

/-- Notes what a block does with a name. -/
def note (b : Block) (loc : Loc) (name : String) (u : Usage) : Except SyntaxFault Block := do
  let kept := privateName b.privateTo name
  let before := b.usage kept
  if u.isParam && before.isParam then
    throw (.at loc s!"duplicate argument '{name}' in function definition")
  let all := before.merge u
  if b.inTarget && (all.isGlobal || all.isNonlocal) then
    throw (.at loc s!"comprehension inner loop cannot rebind assignment expression target '{name}'")
  return b.put kept { all with isTarget := all.isTarget || b.inTarget }

def declare (b : Block) (loc : Loc) (name : String) : Block :=
  { b with declared := b.declared ++ [(privateName b.privateTo name, loc)] }

end Block

/-! ### Walking through a program -/

/-- The blocks around a place, innermost first, each with the blocks in it that are done. -/
abbrev Naming := StateT (List (Block × List BlockTree)) (Except SyntaxFault)

namespace Naming

def refuse {α : Type} (loc : Loc) (message : String) : Naming α := throw (.at loc message)

def current : Naming Block := do return ((← get).head?.map (·.1)).getD ⟨.module, none, [], [], false, 0⟩

def change (f : Block → Except SyntaxFault Block) : Naming Unit := do
  match ← get with
  | (b, done) :: rest => set ((← f b, done) :: rest)
  | [] => return ()

def note (loc : Loc) (name : String) (u : Usage) : Naming Unit := change fun b => b.note loc name u

def bind (loc : Loc) (name : String) : Naming Unit := note loc name { isAssigned := true }

def declare (loc : Loc) (name : String) : Naming Unit := change fun b => .ok (b.declare loc name)

/-- Goes through a part of a program as a block of its own. What an annotation does with names is of
no consequence. -/
def within (kind : BlockKind) (privateTo : Option String) (x : Naming Unit) : Naming Unit := do
  let outer ← current
  modify fun st => (⟨kind, privateTo, [], [], false, outer.iterables⟩, []) :: st
  x
  match ← get with
  | (b, done) :: (outer, before) :: rest =>
    let added := if kind = .hint then [] else [BlockTree.node b done]
    set ((outer, before ++ added) :: rest)
  | _ => return ()

def withinHere (kind : BlockKind) (x : Naming Unit) : Naming Unit := do
  within kind (← current).privateTo x

def inHint (x : Naming Unit) : Naming Unit := withinHere .hint x

def refuseInAnnotation (loc : Loc) (what : String) : Naming Unit := do
  if (← current).kind = .hint then
    refuse loc s!"'{what}' can not be used within an annotation"

/-- Goes through the target of a comprehension. -/
def inTarget (x : Naming Unit) : Naming Unit := do
  change fun b => .ok { b with inTarget := true }
  x
  change fun b => .ok { b with inTarget := false }

/-- Goes through the iterable of a comprehension. -/
def inIterable (x : Naming Unit) : Naming Unit := do
  change fun b => .ok { b with iterables := b.iterables + 1 }
  x
  change fun b => .ok { b with iterables := b.iterables - 1 }

/-- The name of an assignment expression in a comprehension belongs to the nearest block around it
that is no comprehension. -/
def bindAround (loc : Loc) (name : String) : Naming Unit := do
  go loc name [] (← get)
where
  go (loc : Loc) (name : String) (passed : List (Block × List BlockTree)) :
      List (Block × List BlockTree) → Naming Unit
    | [] => return ()
    | (b, done) :: rest => do
      match b.kind with
      | .comprehension _ =>
        if (b.usage name).isTarget then
          refuse loc s!"assignment expression cannot rebind comprehension iteration variable '{name}'"
        go loc name (passed ++ [(b, done)]) rest
      | .hint => go loc name (passed ++ [(b, done)]) rest
      | .function =>
        let u : Usage :=
          if (b.usage name).isGlobal then { isGlobal := true } else { isNonlocal := true }
        note loc name u
        declare loc name
        finish passed.length (fun b => b.note loc name { isAssigned := true })
      | .module =>
        note loc name { isGlobal := true }
        declare loc name
        finish passed.length (fun b => b.note loc name { isGlobal := true })
      | .classBody =>
        refuse loc
          "assignment expression within a comprehension cannot be used in a class body"
  finish (n : Nat) (f : Block → Except SyntaxFault Block) : Naming Unit := do
    let st ← get
    match st.drop n with
    | (b, done) :: rest => set (st.take n ++ (← f b, done) :: rest)
    | [] => return ()

variable (visit : Node → Naming Unit)

def each (ns : List Node) : Naming Unit := ns.forM visit

def params : Params → Naming Unit
  | .mk positionOnly plain rest nameOnly _ restNames _ =>
    (positionOnly ++ plain ++ nameOnly ++ rest.toList ++ restNames.toList).forM fun
      | .mk loc name _ => note loc name { isParam := true }

def defaults : Params → Naming Unit
  | .mk _ _ _ _ nameDefaults _ defaults =>
    each visit (Node.exprs defaults ++ Node.present nameDefaults)

def hints (ps : Params) (returns : Option Expr) : Naming Unit := do
  let .mk positionOnly plain rest nameOnly _ restNames _ := ps
  inHint do
    (positionOnly ++ plain ++ rest.toList ++ restNames.toList ++ nameOnly).forM fun
      | .mk _ _ hint => each visit (Node.option hint)
  match returns with
  | some e => inHint (visit (.expr e))
  | none => return ()

/-- A clause of a comprehension behind the first. -/
def clause : Clause → Naming Unit
  | .mk target iter conditions _ => do
    inTarget (visit (.expr target))
    inIterable (visit (.expr iter))
    each visit (Node.exprs conditions)

def comprehension (words : String) (elements : List Expr) : List Clause → Naming Unit
  | [] => return ()
  | .mk target iter conditions _ :: cs => do
    inIterable (visit (.expr iter))
    withinHere (.comprehension words) do
      inTarget (visit (.expr target))
      each visit (Node.exprs conditions)
      cs.forM (clause visit)
      each visit (Node.exprs elements)

/-- A yield in a comprehension belongs to no function. -/
def refuseYield (loc : Loc) : Naming Unit := do
  match (← current).kind with
  | .comprehension words => refuse loc s!"'yield' inside {words}"
  | _ => return ()

def expr : Expr → Naming Unit
  | .named loc target value => do
    refuseInAnnotation loc "named expression"
    let b ← current
    if 0 < b.iterables then
      refuse loc "assignment expression cannot be used in a comprehension iterable expression"
    match b.kind, target with
    | .comprehension _, .name loc id _ => bindAround loc id
    | _, _ => pure ()
    visit (.expr value)
    visit (.expr target)
  | .lambda _ ps body => do
    defaults visit ps
    withinHere .function do
      params ps
      visit (.expr body)
  | .listComp _ e cs => comprehension visit "list comprehension" [e] cs
  | .setComp _ e cs => comprehension visit "set comprehension" [e] cs
  | .dictComp _ k v cs => comprehension visit "dict comprehension" [v, k] cs
  | .generator _ e cs => comprehension visit "generator expression" [e] cs
  | .yield loc e => do
    refuseInAnnotation loc "yield expression"
    each visit (Node.option e)
    refuseYield loc
  | .yieldFrom loc e => do
    refuseInAnnotation loc "yield expression"
    visit (.expr e)
    refuseYield loc
  | .await loc e => do
    refuseInAnnotation loc "await expression"
    visit (.expr e)
  -- a name that is always known is no name of the block
  | .name _ "__debug__" .load => return ()
  | .name loc id ctx => note loc id (if ctx = .load then { isUsed := true } else { isAssigned := true })
  | e => each visit (Node.ofExpr e)

def pattern : Pattern → Naming Unit
  | .star loc name => name.toList.forM (bind loc)
  | .capture loc p name => do
    each visit (p.toList.map .pattern)
    name.toList.forM (bind loc)
  | .mapping loc keys ps rest => do
    each visit (Node.exprs keys ++ ps.map .pattern)
    rest.toList.forM (bind loc)
  | p => each visit (Node.ofPattern p)

/-- A declaration that names belong elsewhere, which stands before all other uses of them. -/
def declaration (loc : Loc) (word : String) (u : Usage) (names : List String) : Naming Unit :=
  names.forM fun name => do
    let b ← current
    let before := b.usage (privateName b.privateTo name)
    if before.isParam then refuse loc s!"name '{name}' is parameter and {word}"
    if before.isUsed then refuse loc s!"name '{name}' is used prior to {word} declaration"
    if before.isAnnotated then refuse loc s!"annotated name '{name}' can't be {word}"
    if before.isAssigned then refuse loc s!"name '{name}' is assigned to before {word} declaration"
    note loc name u
    declare loc name

def importedAlias (a : Alias) : Naming Unit := do
  if a.name == "*" then
    if (← current).kind ≠ .module then refuse a.loc "import * only allowed at module level"
  else
    let name := a.asName.getD a.name
    note a.loc (String.ofList (name.toList.takeWhile (· ≠ '.'))) { isImported := true }

def annotated (loc : Loc) (target hint : Expr) (value : Option Expr) (simple : Int) :
    Naming Unit := do
  match target with
  | .name l id _ =>
    let b ← current
    let u := b.usage (privateName b.privateTo id)
    if b.kind ≠ .module && simple ≠ 0 then
      if u.isGlobal then refuse loc s!"annotated name '{id}' can't be global"
      if u.isNonlocal then refuse loc s!"annotated name '{id}' can't be nonlocal"
    if simple ≠ 0 then note l id { isAnnotated := true, isAssigned := true }
    else if value.isSome then bind l id
  | t => visit (.expr t)
  inHint (visit (.expr hint))
  each visit (Node.option value)

def stmt : Stmt → Naming Unit
  | .function loc _ name ps body ds returns => do
    bind loc name
    defaults visit ps
    hints visit ps returns
    each visit (Node.exprs ds)
    withinHere .function do
      params ps
      each visit (Node.stmts body)
  | .cls loc name bs ks body ds => do
    bind loc name
    each visit (Node.exprs bs ++ ks.map .keyword ++ Node.exprs ds)
    within .classBody (some name) (each visit (Node.stmts body))
  | .annAssign loc target hint value simple => annotated visit loc target hint value simple
  | .try _ _ body handlers orElse final =>
    each visit (Node.stmts body ++ Node.stmts orElse ++ handlers.map .handler ++ Node.stmts final)
  | .import _ names | .importFrom _ _ names _ => names.forM importedAlias
  | .global loc names => declaration loc "global" { isGlobal := true } names
  | .nonlocal loc names => declaration loc "nonlocal" { isNonlocal := true } names
  | s => each visit (Node.ofStmt s)

def handler : Handler → Naming Unit
  | .mk loc kind name body => do
    each visit (Node.option kind)
    name.toList.forM (bind loc)
    each visit (Node.stmts body)

end Naming

/-- Goes through a part of a program, to a depth. -/
def naming : Nat → Node → Naming Unit
  | 0, _ => return ()
  | depth + 1, n =>
    let visit := naming depth
    match n with
    | .expr e => Naming.expr visit e
    | .stmt s => Naming.stmt visit s
    | .pattern p => Naming.pattern visit p
    | .handler h => Naming.handler visit h
    | .clause c => Naming.clause visit c
    | n => Naming.each visit n.children

/-! ### Nonlocal names -/

/-- Checks the names of a block against the names of the functions around it; gives the names that
are known in the functions inside of it. -/
def knownInside (b : Block) (around : Option (List String)) : Except SyntaxFault (List String) := do
  let refuse (name message : String) : Except SyntaxFault Unit :=
    match b.declared.find? (·.1 = name) with
    | some (_, loc) => throw (.at loc message)
    | none => return ()
  for (name, u) in b.names do
    if u.isGlobal && u.isNonlocal then refuse name s!"name '{name}' is nonlocal and global"
    if u.isNonlocal then
      match around with
      | none => refuse name "nonlocal declaration not allowed at module level"
      | some known =>
        if !known.contains name then refuse name s!"no binding for nonlocal '{name}' found"
  let known := around.getD []
  let own := (b.names.filter fun p => p.2.isBound && !p.2.isGlobal && !p.2.isNonlocal).map (·.1)
  let elsewhere := (b.names.filter fun p => p.2.isGlobal).map (·.1)
  match b.kind with
  | .classBody => return "__class__" :: known
  | .module | .hint => return known.filter fun n => !elsewhere.contains n
  | .function | .comprehension _ => return own ++ known.filter fun n => !elsewhere.contains n

mutual

def nonlocals (around : Option (List String)) : BlockTree → Except SyntaxFault Unit
  | .node b inner => do nonlocalsOfAll (some (← knownInside b around)) inner

def nonlocalsOfAll (around : Option (List String)) : List BlockTree → Except SyntaxFault Unit
  | [] => return ()
  | t :: ts => do
    nonlocals around t
    nonlocalsOfAll around ts

end

/-- How deep a program is gone through. -/
def depthLimit : Nat := 100000

/-- Checks the names of a program. -/
def names (ns : List Node) : Except SyntaxFault Unit := do
  let start : List (Block × List BlockTree) := [(⟨.module, none, [], [], false, 0⟩, [])]
  let (_, st) ← (Naming.each (naming depthLimit) ns).run start
  match st with
  | (b, done) :: _ => nonlocals none (.node b done)
  | [] => return ()

end Check

end LiveMarkdown.Script
