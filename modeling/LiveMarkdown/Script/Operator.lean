import LiveMarkdown.Script.Method.Collection
import LiveMarkdown.Script.Method.Sequence
import LiveMarkdown.Script.Percent

/-!
The operators of programs on all kinds of values.
-/

namespace LiveMarkdown.Script

namespace Operator

def unsupported {α : Type} (symbol : String) (a b : Value) : Run α := do
  Run.typeError s!"unsupported operand type(s) for {symbol}: '{← Kind.name a}' and '{← Kind.name b}'"

/-- The longest sequence that repetition makes. -/
def repeatLimit : Nat := 50000000

def repeatList {α : Type} (items : List α) (n : Int) : Run (List α) := do
  if n < -Int.pow 2 63 || Int.pow 2 63 ≤ n then
    Run.raise "OverflowError" "cannot fit 'int' into an index-sized integer"
  if items.isEmpty then return []
  if repeatLimit < items.length * n.toNat then Run.raiseWith "MemoryError" []
  return (List.replicate n.toNat items).flatten

def repeatText (s : String) (n : Int) : Run String := do
  return String.join (← repeatList (if s.isEmpty then [] else [s]) n)

/-- A sequence with its items repeated, if the value is a sequence. -/
def repeated? (v : Value) (n : Int) : Run (Option Value) := do
  match v with
  | .str s => return some (.str (← repeatText s n))
  | .bytes bs => return some (.bytes (← repeatList bs n))
  | .tuple vs => return some (.tuple (← repeatList vs n))
  | v =>
    match ← Run.deref v with
    | some (.list items) => return some (← Run.newList (← repeatList items.toList n))
    | some (.deque items limit _) =>
      let all ← repeatList items.toList n
      return some (← Run.new (.deque (DequeMethod.kept limit false all.toArray) limit 0))
    | some (.userList items) =>
      return some (← Run.new (.userList (← repeatList items.toList n).toArray))
    | some (.userText s) =>
      return some (← Run.new (.userText (← repeatText s n)))
    | some (.byteArray bs) => return some (← Run.new (.byteArray (← repeatList bs n)))
    | _ => return none

def isSequence (v : Value) : Run Bool := do
  match v with
  | .str _ | .bytes _ | .tuple _ => return true
  | v =>
    match ← Run.deref v with
    | some (.list _) | some (.byteArray _) | some (.deque ..) | some (.userList _)
    | some (.userText _) => return true
    | _ => return false

/-- Two sequences joined, if one of them is wrapped in another object, which decides. -/
def joinedWrapped? (m : Machine) (a b : Value) : Run (Option Value) := do
  let items (v : Value) : Run (Array Value) := do return (← Iteration.collect m v).toArray
  match ← Run.deref a, ← Run.deref b with
  | some (.userText s), some (.userText t) => return some (← Run.new (.userText (s ++ t)))
  | some (.userText s), _ => return some (← Run.new (.userText (s ++ (← m.text b))))
  | _, some (.userText t) => return some (← Run.new (.userText ((← m.text a) ++ t)))
  | some (.userList x), some (.userList y) => return some (← Run.new (.userList (x ++ y)))
  | some (.userList x), _ => return some (← Run.new (.userList (x ++ (← items b))))
  | _, some (.userList y) => return some (← Run.new (.userList ((← items a) ++ y)))
  | _, _ => return none

/-- Two sequences joined, if the left value is a sequence. -/
def joinedPlain? (a b : Value) : Run (Option Value) := do
  match a, b with
  | .str s, .str t => return some (.str (s ++ t))
  | .str _, b =>
    Run.typeError s!"can only concatenate str (not \"{← Kind.name b}\") to str"
  | .tuple s, .tuple t => return some (.tuple (s ++ t))
  | .tuple _, b =>
    Run.typeError s!"can only concatenate tuple (not \"{← Kind.name b}\") to tuple"
  | .bytes s, b =>
    match ← Run.bytes? b with
    | some t => return some (.bytes (s ++ t))
    | none => Run.typeError s!"can't concat {← Kind.name b} to bytes"
  | a, b =>
    match ← Run.deref a, ← Run.deref b with
    | some (.list x), some (.list y) => return some (← Run.newList (x ++ y).toList)
    | some (.list _), _ =>
      Run.typeError s!"can only concatenate list (not \"{← Kind.name b}\") to list"
    | some (.deque x limit _), some (.deque y ..) =>
      return some (← Run.new (.deque (DequeMethod.kept limit false (x ++ y)) limit 0))
    | some (.deque ..), _ =>
      Run.typeError s!"can only concatenate deque (not \"{← Kind.name b}\") to deque"
    | some (.byteArray x), _ =>
      match ← Run.bytes? b with
      | some y => return some (← Run.new (.byteArray (x ++ y)))
      | none => Run.typeError s!"can't concat {← Kind.name b} to bytearray"
    | _, _ => return none

def joined? (m : Machine) (a b : Value) : Run (Option Value) := do
  match ← joinedWrapped? m a b with
  | some v => return some v
  | none => joinedPlain? a b

/-- Whether a value is a view of a dictionary that acts as a set. -/
def isSetView (v : Value) : Run Bool := do
  match ← Run.deref v with
  | some (.view kind _) => return kind != "dict_values"
  | _ => return false

/-- The classes that a value stands for in a union of classes. -/
def unionParts? (v : Value) : Run (Option (List Value)) := do
  match v with
  | .none => return some [.type "NoneType"]
  | .type _ => return some [v]
  | v =>
    match ← Run.deref v with
    | some (.cls _) | some (.alias ..) => return some [v]
    | some (.union vs) => return some vs
    | _ => return none

/-- The union of two classes. Two classes that are the same are one. -/
def classUnion? (m : Machine) (op : BinaryOp) (a b : Value) : Run (Option Value) := do
  match op, a, b with
  | .bitOr, .none, .none => return none
  | .bitOr, a, b =>
    match ← unionParts? a, ← unionParts? b with
    | some xs, some ys =>
      let all ← (xs ++ ys).foldlM (fun acc c => do
        return if ← Comparison.anyEqual m c acc then acc else acc ++ [c]) []
      match all with
      | [c] => return some c
      | all => return some (← Run.new (.union all))
    | _, _ => return none
  | _, _, _ => return none

/-- An operator on built-in values that are not both numbers. -/
def builtin (m : Machine) (op : BinaryOp) (a b : Value) : Run (Option Value) := do
  match op with
  | .add => joined? m a b
  | .mult =>
    let x ← if ← isSequence b then Subscript.index? m a else pure (Arithmetic.intOf? a)
    let y ← if ← isSequence a then Subscript.index? m b else pure (Arithmetic.intOf? b)
    match x, y with
    | _, some n =>
      match ← repeated? a n with
      | some v => return some v
      | none => return none
    | some n, none => repeated? b n
    | none, none =>
      if ← isSequence a then
        Run.typeError s!"can't multiply sequence by non-int of type '{← Kind.name b}'"
      if ← isSequence b then
        Run.typeError s!"can't multiply sequence by non-int of type '{← Kind.name a}'"
      return none
  | .mod =>
    match a with
    | .str s => return some (.str (← Percent.text m s b))
    | .bytes bs => return some (.bytes (← Percent.bytes m bs b))
    | a =>
      match ← Run.deref a with
      | some (.byteArray bs) => return some (← Run.new (.byteArray (← Percent.bytes m bs b)))
      | some (.userText s) => return some (← Run.new (.userText (← Percent.text m s b)))
      | _ => return none
  | op =>
    match ← Run.deref a, ← Run.deref b with
    | some (.dict x), some (.dict y) =>
      if op == .bitOr then
        return some (← Run.new (.dict (← DictMethod.merged m x y.toList)))
      return none
    | some (.proxy p), some (.dict y) =>
      match ← Run.object? p with
      | some (.dict x) =>
        if op == .bitOr then
          return some (← Run.new (.dict (← DictMethod.merged m x y.toList)))
        return none
      | _ => return none
    | some (.set frozen x), some (.set _ y) =>
      match SetMethod.operator? m op x y with
      | some r => return some (← Run.new (.set frozen (← r)))
      | none => return none
    | _, _ =>
      if (← isSetView a) || (← isSetView b) then
        match SetMethod.viewOperator? m op a b with
        | some r => return some (← Run.new (.set false (← r)))
        | none => return none
      classUnion? m op a b

/-- What a class of the program answers to an operator. -/
def asked (m : Machine) (name : String) (a b : Value) : Run (Option Value) := do
  match ← Kind.special? a name with
  | some f =>
    match ← m.call f [b] with
    | .notImplemented => return none
    | v => return some v
  | none => return none

/-- What the classes of two values answer by a method of the left or of the right one. The left one is
asked first, unless the class of the right one is more special and has a method of its own. -/
def askedBoth (m : Machine) (methods : String × String) (a b : Value) : Run (Option Value) := do
  let left := asked m methods.1 a b
  let right := asked m methods.2 b a
  let ka ← Kind.of a
  let kb ← Kind.of b
  let special ← if Kind.sameClass ka kb then pure false else Kind.inherits kb ka
  let own ← if special then do
      match ← Kind.attr? ka methods.2, ← Kind.attr? kb methods.2 with
      | some f, some g => pure (!f.same g)
      | none, some _ => pure true
      | _, none => pure false
    else pure false
  let (first, second) := if own then (right, left) else (left, right)
  match ← first with
  | some v => return some v
  | none => if Kind.sameClass ka kb then return none else second

/-- An operator on two values, under the name that an error gives it. -/
def binaryAs (m : Machine) (symbol : String) (op : BinaryOp) (a b : Value) : Run Value := do
  match ← askedBoth m op.methods a b with
  | some v => return v
  | none =>
    let x ← Kind.basic a
    let y ← Kind.basic b
    match Arithmetic.numeric op x y with
    | some r => r
    | none =>
      -- a text that is filled in shows its argument as it is, unless that is a list of arguments
      let y := match op, y with
        | .mod, .tuple _ => y
        | .mod, _ => b
        | _, _ => y
      match ← builtin m op x y with
      | some v => return v
      | none => unsupported symbol a b

/-- The symbol of an operator in messages. -/
def shownSymbol (op : BinaryOp) : String :=
  if op == .pow then "** or pow()" else op.symbol

def binary (m : Machine) (op : BinaryOp) (a b : Value) : Run Value :=
  binaryAs m (shownSymbol op) op a b

/-- An operator that may change its left value. -/
def augmented (m : Machine) (op : BinaryOp) (a b : Value) : Run Value := do
  match ← asked m op.inPlace a b with
  | some v => return v
  | none =>
    let usual : Run Value := binaryAs m (op.symbol ++ "=") op a b
    match a with
    | .ref r =>
      match op, ← Run.object? r with
      | .add, some (.list items) =>
        let more ← Iteration.collect m b
        Run.write r (.list (items ++ more.toArray))
        return a
      | .mult, some (.list items) =>
        match ← Subscript.index? m b with
        | some n =>
          Run.write r (.list (← repeatList items.toList n).toArray)
          return a
        | none => usual
      | .mult, some (.dict _) | .mult, some (.set ..) | .mult, some (.view ..)
      | .mult, some (.proxy _) => unsupported "*=" a b
      | .mult, some (.instance _ _ none) =>
        if (← Kind.special? a "__mul__").isNone && (← isSequence (← Kind.basic b)) then
          unsupported "*=" a b
        usual
      | .bitOr, some (.dict es) =>
        Run.write r (.dict (← DictMethod.merged m es (← DictMethod.entriesOf m b)))
        return a
      | _, some (.set false items) =>
        match ← Run.deref b with
        | some (.set _ ys) =>
          match SetMethod.operator? m op items ys with
          | some x =>
            Run.write r (.set false (← x))
            return a
          | none => usual
        | _ => usual
      | .add, some (.deque items ..) =>
        let more ← Iteration.collect m b
        DequeMethod.write r false (items ++ more.toArray)
        return a
      | .mult, some (.deque items ..) =>
        match ← Subscript.index? m b with
        | some n =>
          DequeMethod.write r false (← repeatList items.toList n).toArray
          return a
        | none => usual
      | .add, some (.userList items) =>
        let more ← Iteration.collect m b
        Run.write r (.userList (items ++ more.toArray))
        return a
      | .mult, some (.userList items) =>
        match ← Subscript.index? m b with
        | some n =>
          Run.write r (.userList (← repeatList items.toList n).toArray)
          return a
        | none => usual
      | .add, some (.byteArray bs) =>
        match ← Run.bytes? b with
        | some more =>
          ByteView.setBytes r (bs ++ more)
          return a
        | none => Run.typeError s!"can't concat {← Kind.name b} to bytearray"
      | .mult, some (.byteArray bs) =>
        match ← Subscript.index? m b with
        | some n =>
          ByteView.setBytes r (← repeatList bs n)
          return a
        | none => usual
      | _, _ => usual
    | _ => usual

/-- A sign, a complement, or a negation. -/
def unary (m : Machine) (op : UnaryOp) (v : Value) : Run Value := do
  let (method, symbol) := match op with
    | .plus => ("__pos__", "+")
    | .minus => ("__neg__", "-")
    | .invert => ("__invert__", "~")
    | .not => ("", "")
  if op == .not then return .bool (!(← Iteration.truth m v))
  match ← Kind.special? v method with
  | some f => m.call f []
  | none =>
    match Arithmetic.unary op (← Kind.core v) with
    | some r => r
    | none => Run.typeError s!"bad operand type for unary {symbol}: '{← Kind.name v}'"

end Operator

end LiveMarkdown.Script
