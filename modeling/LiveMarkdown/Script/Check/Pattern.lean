import LiveMarkdown.Number.Decimal
import LiveMarkdown.Script.Check.Symbol
import LiveMarkdown.Text.Quoted

/-!
Where the parts of a program stand: in which function or class, and inside of which loops, handlers
and managers.
-/

namespace LiveMarkdown.Script.Check

inductive UnitKind where
  | module
  | classBody
  | function
  | asyncFunction
  | lambda
  | comprehension
deriving DecidableEq

/-- Whether code of its own call stands in a unit. -/
def UnitKind.isCalled : UnitKind → Bool
  | .module | .classBody => false
  | _ => true

/-- A statement around a place that something has to be done for when it is left. -/
inductive Around where
  | loop
  | guarded
  /-- A block with a final block, which runs when the block is left. -/
  | final (body : List Stmt)
  | manager
  | handler
  /-- A handler for exceptions of a group. -/
  | groupHandler

structure Place where
  unit : UnitKind
  /-- The place that a fault is reported for; none behind what was left. -/
  loc : Option Loc
  around : List Around := []
  /-- Whether the unit answers step by step and awaits. -/
  isAsyncGenerator : Bool := false
  /-- The names that the pattern at hand has bound. -/
  stores : List String := []
  /-- Whether the pattern at hand may match everything. -/
  mayMatchAll : Bool := true

abbrev Placing := StateT Place (Except SyntaxFault)

namespace Placing

/-- Refuses the program at the place at hand. -/
def refuse {α : Type} (message : String) : Placing α := do
  match (← get).loc with
  | some loc => throw (.at loc message)
  | none => throw { message, line := some (-1), column := some 0 }

def move (loc : Loc) : Placing Unit := modify fun p => { p with loc := some loc }

/-- Goes through an expression, and back to the place before it. -/
def visiting (loc : Loc) (x : Placing Unit) : Placing Unit := do
  let before := (← get).loc
  move loc
  x
  modify fun p => { p with loc := before }

/-- Goes through the code of another unit. -/
def inUnit (unit : UnitKind) (loc : Loc) (isAsyncGenerator : Bool) (x : Placing Unit) :
    Placing Unit := do
  let outer ← get
  set { unit, loc := some loc, isAsyncGenerator : Place }
  x
  set outer

/-- How many statements may stand around a place. -/
def nestingLimit : Nat := 20

/-- Goes through a part that stands inside of a statement. -/
def inside (a : Around) (x : Placing Unit) : Placing Unit := do
  let around := (← get).around
  if nestingLimit ≤ around.length then refuse "too many statically nested blocks"
  modify fun p => { p with around := a :: around }
  x
  modify fun p => { p with around }

/-- The name that cannot be bound. -/
def debugName : String := "__debug__"

def mayAssign (name : String) : Placing Unit := do
  if name = debugName then refuse "cannot assign to __debug__"

def mayDelete (name : String) : Placing Unit := do
  if name = debugName then refuse "cannot delete __debug__"

end Placing

/-!
The rules for patterns: a name is bound once, all alternatives bind the same names, only the last
case may match everything, and keys differ.
-/

/-- A constant as it is shown. -/
def shownConstant : Constant → String
  | .none => "None"
  | .ellipsis => "Ellipsis"
  | .bool b => if b then "True" else "False"
  | .int n => toString n
  | .float x => Number.showFloat x
  | .complex re im => Number.showComplex re im
  | .str s _ => Text.quoted s
  | .bytes bs => Text.quotedBytes bs

/-- A number as its real and its imaginary part. -/
def number? : Constant → Option (Float × Float)
  | .bool b => some (if b then 1 else 0, 0)
  | .int n => some (Float.ofInt n, 0)
  | .float x => some (x, 0)
  | .complex re im => some (re, im)
  | _ => none

/-- Whether two keys are equal. -/
def sameKey : Constant → Constant → Bool
  | .int m, .int n => m == n
  | .str s _, .str t _ => s == t
  | .bytes s, .bytes t => s == t
  | .none, .none => true
  | a, b =>
    match number? a, number? b with
    | some (x, y), some (z, w) => x == z && y == w
    | _, _ => false

/-- The constant that an expression stands for: a literal, a negated number, or a complex number as
a sum. -/
def constant? : Expr → Option Constant
  | .constant _ c => some c
  | .unary _ .minus (.constant _ (.int n)) => some (.int (-n))
  | .unary _ .minus (.constant _ (.float x)) => some (.float (-x))
  | .unary _ .minus (.constant _ (.complex re im)) => some (.complex (-re) (-im))
  | .binary _ left op (.constant _ (.complex re im)) => do
    let l ← match left with
      | .unary _ .minus (.constant _ c) => (number? c).map fun p => -p.1
      | .constant _ c => (number? c).map (·.1)
      | _ => none
    match op with
    | .add => some (.complex (l + re) im)
    | .sub => some (.complex (l - re) (-im))
    | _ => none
  | _ => none

def isAttribute : Expr → Bool
  | .attribute .. => true
  | _ => false

/-- Whether a pattern matches everything and binds nothing. -/
def isWildcard : Pattern → Bool
  | .capture _ none none => true
  | _ => false

def isStarWildcard : Pattern → Bool
  | .star _ none => true
  | _ => false

def isStar : Pattern → Bool
  | .star .. => true
  | _ => false

namespace Placing

def storeTwice {α : Type} (name : String) : Placing α :=
  refuse s!"multiple assignments to name {Text.quoted name} in pattern"

/-- Binds the name of a pattern. -/
def storeName (name : Option String) : Placing Unit := do
  match name with
  | none => return ()
  | some n =>
    mayAssign n
    if (← get).stores.contains n then storeTwice n
    modify fun p => { p with stores := p.stores ++ [n] }

/-- Goes through a pattern inside of another, which may match everything. -/
def innerPattern (x : Placing Unit) : Placing Unit := do
  let before := (← get).mayMatchAll
  modify fun p => { p with mayMatchAll := true }
  x
  modify fun p => { p with mayMatchAll := before }

/-- The keys of a mapping. -/
def keys (visit : Expr → Placing Unit) : List Constant → List Expr → Placing Unit
  | _, [] => return ()
  | seen, e :: es => do
    match constant? e with
    | some c =>
      if seen.any (sameKey c) then
        refuse s!"mapping pattern checks duplicate key ({shownConstant c})"
      keys visit (c :: seen) es
    | none =>
      if !isAttribute e then
        refuse "mapping pattern keys may only match literals and attribute lookups"
      visit e
      keys visit seen es

/-- The attributes of a class. -/
def attributes : List (String × Pattern) → Placing Unit
  | [] => return ()
  | (name, p) :: rest => do
    move p.loc
    mayAssign name
    match rest.find? (·.1 = name) with
    | some (_, q) =>
      move q.loc
      refuse s!"attribute name repeated in class pattern: {name}"
    | none => attributes rest

/-- Goes through alternatives. The names of the first must be the names of all. -/
def alternatives (pattern : Pattern → Placing Unit) (lastMay : Bool) :
    Option (List String) → List Pattern → Placing (List String)
  | control, [] => return control.getD []
  | control, p :: ps => do
    move p.loc
    modify fun st => { st with stores := [], mayMatchAll := ps.isEmpty && lastMay }
    pattern p
    let own := (← get).stores
    match control with
    | none => alternatives pattern lastMay (some own) ps
    | some names =>
      if own.length ≠ names.length || !names.all own.contains then
        refuse "alternative patterns bind different names"
      alternatives pattern lastMay (some names) ps

def patternWith (visit : Expr → Placing Unit) (pattern : Pattern → Placing Unit) (p : Pattern) :
    Placing Unit := do
  move p.loc
  match p with
  | .value _ e =>
    if (constant? e).isNone && !isAttribute e then
      refuse "patterns may only match literals and attribute lookups"
    visit e
  | .singleton .. => return ()
  | .sequence _ ps =>
    if 1 < ps.countP isStar then refuse "multiple starred names in sequence pattern"
    if ps.all fun q => isWildcard q || isStarWildcard q then return ()
    let skips := ps.any isStarWildcard
    for q in ps do
      if !(skips && (isWildcard q || isStar q)) then innerPattern (pattern q)
  | .mapping _ ks ps rest =>
    keys visit [] ks
    for q in ps do innerPattern (pattern q)
    storeName rest
  | .cls _ c ps names named =>
    attributes (names.zip named)
    visit c
    for q in ps ++ named do
      if !isWildcard q then innerPattern (pattern q)
  | .star _ name => storeName name
  | .capture _ none name =>
    if !(← get).mayMatchAll then
      match name with
      | some n => refuse s!"name capture {Text.quoted n} makes remaining patterns unreachable"
      | none => refuse "wildcard makes remaining patterns unreachable"
    storeName name
  | .capture _ (some q) name =>
    pattern q
    storeName name
  | .either _ ps =>
    let before ← get
    let names ← alternatives pattern before.mayMatchAll none ps
    modify fun st => { st with stores := before.stores, mayMatchAll := before.mayMatchAll }
    for n in names do
      if (← get).stores.contains n then storeTwice n
      modify fun st => { st with stores := st.stores ++ [n] }

/-- Goes through a pattern, to a depth. -/
def pattern (visit : Expr → Placing Unit) : Nat → Pattern → Placing Unit
  | 0, _ => return ()
  | depth + 1, p => patternWith visit (pattern visit depth) p

end Placing

end LiveMarkdown.Script.Check
