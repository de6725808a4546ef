import LiveMarkdown.Script.Arithmetic
import LiveMarkdown.Script.Iteration

/-!
Equality, order and membership, and the search for keys in dictionaries and sets.
-/

namespace LiveMarkdown.Script

def CompareOp.symbol : CompareOp → String
  | .eq => "=="
  | .notEq => "!="
  | .less => "<"
  | .lessEq => "<="
  | .greater => ">"
  | .greaterEq => ">="
  | .is => "is"
  | .isNot => "is not"
  | .isIn => "in"
  | .notIn => "not in"

/-- The methods that answer a comparison, from the left and from the right. -/
def CompareOp.methods : CompareOp → String × String
  | .eq => ("__eq__", "__eq__")
  | .notEq => ("__ne__", "__ne__")
  | .less => ("__lt__", "__gt__")
  | .lessEq => ("__le__", "__ge__")
  | .greater => ("__gt__", "__lt__")
  | .greaterEq => ("__ge__", "__le__")
  | _ => ("", "")

/-- Whether an order fits a comparison. -/
def CompareOp.holds (op : CompareOp) (o : Ordering) : Bool :=
  match op with
  | .less => o == .lt
  | .lessEq => o != .gt
  | .greater => o == .gt
  | .greaterEq => o != .lt
  | .eq => o == .eq
  | .notEq => o != .eq
  | _ => false

namespace Comparison

/-- Whether two values are equal; a value equals itself. -/
def equal (m : Machine) (a b : Value) : Run Bool := do
  match a, b with
  | .str x, .str y => return x == y
  | .int x, .int y => return x == y
  | a, b =>
    if a.same b && !(match a with
      | .float x => Number.isNaN x
      | _ => false) then return true
    Iteration.truth m (← m.compare .eq a b)

/-- Whether two values are the same or equal, as items of containers are compared. -/
def sameOrEqual (m : Machine) (a b : Value) : Run Bool := do
  if a.same b then return true
  equal m a b

def equalLists (m : Machine) : List Value → List Value → Run Bool
  | [], [] => return true
  | a :: as, b :: bs => do
    if ← sameOrEqual m a b then equalLists m as bs else return false
  | _, _ => return false

/-- The order of two lists: that of the first items that differ, or of the lengths. -/
def orderLists (m : Machine) (op : CompareOp) : List Value → List Value → Run Value
  | [], [] => return .bool (op.holds .eq)
  | [], _ :: _ => return .bool (op.holds .lt)
  | _ :: _, [] => return .bool (op.holds .gt)
  | a :: as, b :: bs => do
    if ← sameOrEqual m a b then orderLists m op as bs else m.compare op a b

def anyEqual (m : Machine) (v : Value) : List Value → Run Bool
  | [] => return false
  | x :: xs => do if ← sameOrEqual m x v then return true else anyEqual m v xs

/-- Whether a value may be a key. Raises an error that names the class if not. -/
def checkHashable (m : Machine) : Nat → Value → Run Unit
  | 0, _ => return ()
  | fuel + 1, v => do
    let refuse : Run Unit := do Run.typeError s!"unhashable type: '{← Kind.name v}'"
    match v with
    | .tuple vs => for x in vs do checkHashable m fuel x
    | .slice .. => refuse
    | .ref r =>
      match ← Run.object? r with
      | some (.list _) | some (.dict _) | some (.set false _) | some (.byteArray _)
      | some (.deque ..) | some (.userList _) | some (.view "dict_keys" _)
      | some (.view "dict_items" _) => refuse
      | some (.memory view) =>
        if view.released then
          Run.valueError "operation forbidden on released memoryview object"
        if !view.readOnly then Run.valueError "cannot hash writable memoryview object"
        if !view.cell.isByte then
          Run.valueError "memoryview: hashing is restricted to formats 'B', 'b' or 'c'"
      | some (.instance c _ core) =>
        match ← Kind.attr? c "__hash__" with
        | some .none => refuse
        | some _ =>
          match ← Kind.special? v "__hash__" with
          | some f =>
            match ← Kind.core (← m.call f []) with
            | .int _ | .bool _ => return ()
            | _ => Run.typeError "__hash__ method should return an integer"
          | none => return ()
        | none =>
          if (← Kind.attr? c "__eq__").isSome then refuse
          match core with
          | some c => checkHashable m fuel c
          | none => return ()
      | _ => return ()
    | _ => return ()

def hashable (m : Machine) (v : Value) : Run Unit := checkHashable m 100 v

/-- Whether two keys may be equal although they are not the same. Texts and numbers are told apart
without asking them. -/
def keyEqual (m : Machine) (a b : Value) : Run Bool := do
  match a, b with
  | .str x, .str y => return x == y
  | .int x, .int y => return x == y
  | .str _, .int _ | .int _, .str _ | .none, .str _ | .str _, .none => return false
  | a, b => sameOrEqual m a b

/-- The place of a key among entries. -/
def findKey (m : Machine) (es : Array (Value × Value)) (k : Value) : Run (Option Nat) := do
  for i in [0:es.size] do
    match es[i]? with
    | some (k', _) => if ← keyEqual m k' k then return some i
    | none => pure ()
  return none

def findItem (m : Machine) (items : Array Value) (k : Value) : Run (Option Nat) := do
  for i in [0:items.size] do
    match items[i]? with
    | some k' => if ← keyEqual m k' k then return some i
    | none => pure ()
  return none

/-- Sets a key; a new one comes last, an old one keeps its place and spelling. -/
def putKey (m : Machine) (es : Array (Value × Value)) (k v : Value) :
    Run (Array (Value × Value)) := do
  match ← findKey m es k with
  | some i =>
    match es[i]? with
    | some (k', _) => return es.set! i (k', v)
    | none => return es
  | none => return es.push (k, v)

def addItem (m : Machine) (items : Array Value) (v : Value) : Run (Array Value) := do
  match ← findItem m items v with
  | some _ => return items
  | none => return items.push v

/-- The items of a set built from a list. -/
def distinct (m : Machine) (vs : List Value) : Run (Array Value) := do
  let mut items : Array Value := #[]
  for v in vs do
    hashable m v
    items ← addItem m items v
  return items

def equalDicts (m : Machine) (a b : Array (Value × Value)) : Run Bool := do
  if a.size ≠ b.size then return false
  for (k, v) in a do
    match ← findKey m b k with
    | some i =>
      match b[i]? with
      | some (_, v') => if !(← sameOrEqual m v v') then return false
      | none => return false
    | none => return false
  return true

def subset (m : Machine) (a b : Array Value) : Run Bool := do
  for v in a do
    if (← findItem m b v).isNone then return false
  return true

/-- The order of two sets is inclusion. -/
def orderSets (m : Machine) (op : CompareOp) (a b : Array Value) : Run Value := do
  match op with
  | .less => return .bool (decide (a.size < b.size) && (← subset m a b))
  | .lessEq => return .bool (← subset m a b)
  | .greater => return .bool (decide (b.size < a.size) && (← subset m b a))
  | _ => return .bool (← subset m b a)

def text? (o : Option Object) (v : Value) : Option String :=
  match v, o with
  | .str s, _ => some s
  | _, some (.userText s) => some s
  | _, _ => none

def orderBytes : List UInt8 → List UInt8 → Ordering
  | [], [] => .eq
  | [], _ => .lt
  | _, [] => .gt
  | a :: as, b :: bs => if a < b then .lt else if b < a then .gt else orderBytes as bs

def orderText (a b : String) : Ordering := if a < b then .lt else if b < a then .gt else .eq

/-- Equality of the items of a dictionary view, as a set. -/
def viewItems (o : Object) : Run (Option (List Value)) := do
  match o with
  | .view kind source =>
    match ← Run.object? source with
    | some (.dict es) =>
      if kind == "dict_values" then return none
      return some (es.toList.map fun (k, v) => if kind == "dict_keys" then k else .tuple [k, v])
    | _ => return none
  | .set _ items => return some items.toList
  | _ => return none

/-- The value of an attribute without what it means to the document. -/
def plainAttr : Document.AttrValue → Document.AttrValue
  | .charset s | .contentType s => .text s
  | v => v

/-- Whether attributes are the same, in any order. -/
def sameAttrs (as bs : List (String × Document.AttrValue)) : Bool :=
  as.length == bs.length && as.all fun a =>
    bs.any fun b => a.1 == b.1 && plainAttr a.2 == plainAttr b.2

/-- Whether two nodes are equal: the same text, or elements with equal attributes and children. The
fuel bounds the depth. -/
def equalNodes (f : Document.Forest) : Nat → Document.NodeId → Document.NodeId → Bool
  | 0, _, _ => false
  | fuel + 1, a, b =>
    a == b || match f.content? a, f.content? b with
      | some (.text _ s), some (.text _ t) => s == t
      | some (.tag s), some (.tag t) =>
        s.name == t.name && sameAttrs s.attrs t.attrs &&
          (f.children a).length == (f.children b).length &&
          ((f.children a).zip (f.children b)).all fun p => equalNodes f fuel p.1 p.2
      | some .root, some .root =>
        (f.children a).length == (f.children b).length &&
          ((f.children a).zip (f.children b)).all fun p => equalNodes f fuel p.1 p.2
      | _, _ => false

def isDecimal : Value → Bool
  | .decimal _ => true
  | _ => false

def isDecimalNaN : Value → Bool
  | .decimal (.notANumber ..) => true
  | _ => false

def isSignaling : Value → Bool
  | .decimal (.notANumber _ signaling _) => signaling
  | _ => false

def isFloatNaN : Value → Bool
  | .float x => Number.isNaN x
  | _ => false

/-- The lengths in all dimensions and the items that a value made of bytes is compared by. -/
def comparedItems? (v : Value) : Run (Option (List Nat × List Value)) := do
  match ← Run.deref v with
  | some (.memory view) =>
    if view.released then return none
    return some (ByteView.shape view, ← ByteView.items view)
  | _ =>
    match ← Run.bytes? v with
    | some bs => return some ([bs.length], Iteration.byteItems bs)
    | none => return none

/-- Whether two views, or a view and bytes, have the same items. -/
def equalViews? (a b : Value) : Run (Option Bool) := do
  match ← comparedItems? a, ← comparedItems? b with
  | some (s, xs), some (t, ys) =>
    return some (s == t && (xs.zip ys).all fun (x, y) =>
      match x, y with
      | .bytes p, .bytes q => p == q
      | x, y => (Arithmetic.equal? x y).getD false)
  | _, _ => return none


/-- The bytes of a value whose order is that of its bytes. -/
def orderedBytes? (v : Value) : Run (Option (List UInt8)) := do
  match ← Run.deref v with
  | some (.memory _) => return none
  | _ => Run.bytes? v

/-- Two values made of bytes that have an order. A view has one beside a byte array only. -/
def orderedPair? (a b : Value) : Run (Option (List UInt8 × List UInt8)) := do
  match ← orderedBytes? a, ← orderedBytes? b with
  | some s, some t => return some (s, t)
  | none, none => return none
  | _, _ =>
    match ← Run.deref a, ← Run.deref b with
    | some (.memory _), some (.byteArray t) => return (← ByteView.closeBytes? a).map fun s => (s, t)
    | some (.byteArray s), some (.memory _) => return (← ByteView.closeBytes? b).map fun t => (s, t)
    | _, _ => return none

/-- What built-in values answer to a comparison for equality, if they know each other. -/
def builtinEqual (m : Machine) (a b : Value) : Run (Option Bool) := do
  if (isSignaling a && Arithmetic.isReal b) || (Arithmetic.isReal a && isSignaling b) then
    Arithmetic.scaledFault .invalid
  match Arithmetic.equal? a b with
  | some r => return some r
  | none =>
    match a, b with
    | .node x, .node y =>
      LiveAttributes.settle m
      let f ← Run.forest
      return some (equalNodes f f.size x y)
    | .tuple as, .tuple bs => return some (← equalLists m as bs)
    | .slice p q r, .slice s t u =>
      return some (← equalLists m [p, q, r] [s, t, u])
    | .range p q r, .range s t u =>
      let n := Iteration.rangeLength p q r
      let k := Iteration.rangeLength s t u
      return some (n == k && (n == 0 || (p == s && (n == 1 || r == u))))
    | a, b =>
      let x ← Run.deref a
      let y ← Run.deref b
      match text? x a, text? y b with
      | some s, some t => return some (s == t)
      | _, _ =>
        match ← orderedBytes? a, ← orderedBytes? b with
        | some s, some t => return some (s == t)
        | _, _ =>
          if let some r ← equalViews? a b then return some r
          match x, y with
          | some (.list as), some (.list bs) | some (.deque as ..), some (.deque bs ..)
          | some (.userList as), some (.userList bs) | some (.userList as), some (.list bs)
          | some (.list as), some (.userList bs) =>
            return some (← equalLists m as.toList bs.toList)
          | some (.dict as), some (.dict bs) => return some (← equalDicts m as bs)
          | some (.proxy p), _ => return some (← Iteration.truth m (← m.compare .eq (.ref p) b))
          | _, some (.proxy p) => return some (← Iteration.truth m (← m.compare .eq a (.ref p)))
          | some (.boundMethod f s), some (.boundMethod g t) => return some (f.same g && s.same t)
          | some (.alias o as s), some (.alias p bs t) =>
            if s != t || !(← sameOrEqual m o p) then return some false
            return some (← equalLists m as bs)
          | some (.union as), some (.union bs) =>
            return some (as.length == bs.length && (← subset m as.toArray bs.toArray))
          | some o, some p =>
            match ← viewItems o, ← viewItems p with
            | some as, some bs =>
              return some (as.length == bs.length && (← subset m as.toArray bs.toArray))
            | _, _ => return none
          | _, _ => return none

/-- What built-in values answer to a comparison of order, if they know each other. -/
def builtinOrder (m : Machine) (op : CompareOp) (a b : Value) : Run (Option Value) := do
  if Arithmetic.isReal a && Arithmetic.isReal b then
    if isDecimalNaN a || isDecimalNaN b || (isDecimal a && isFloatNaN b) ||
        (isFloatNaN a && isDecimal b) then
      Arithmetic.scaledFault .invalid
    return some (.bool (match Arithmetic.order? a b with
      | some o => op.holds o
      | none => false))
  match a, b with
  | .tuple as, .tuple bs => return some (← orderLists m op as bs)
  | .slice p q r, .slice s t u => return some (← orderLists m op [p, q, r] [s, t, u])
  | .date y mo d, .date y' mo' d' =>
    return some (.bool (op.holds (Ord.compare (y * 400 + mo * 31 + d) (y' * 400 + mo' * 31 + d'))))
  | a, b =>
    let x ← Run.deref a
    let y ← Run.deref b
    match text? x a, text? y b with
    | some s, some t => return some (.bool (op.holds (orderText s t)))
    | _, _ =>
      match ← orderedPair? a b with
      | some (s, t) => return some (.bool (op.holds (orderBytes s t)))
      | none =>
        match x, y with
        | some (.list as), some (.list bs) | some (.deque as ..), some (.deque bs ..)
        | some (.userList as), some (.userList bs) =>
          return some (← orderLists m op as.toList bs.toList)
        | some o, some p =>
          match ← viewItems o, ← viewItems p with
          | some as, some bs => return some (← orderSets m op as.toArray bs.toArray)
          | _, _ => return none
        | _, _ => return none

/-- What a class of the program answers to a comparison. -/
def asked (m : Machine) (name : String) (a b : Value) : Run (Option Value) := do
  match ← Kind.special? a name with
  | some f =>
    match ← m.call f [b] with
    | .notImplemented => return none
    | v => return some v
  | none => return none

/-- A comparison as the classes of the program answer it: the left value first, then the right one. A
class without an answer to "unequal" negates its answer to "equal". -/
def askedBoth (m : Machine) (op : CompareOp) (a b : Value) : Run (Option Value) := do
  let (left, right) := op.methods
  match ← asked m left a b with
  | some v => return some v
  | none =>
    match ← asked m right b a with
    | some v => return some v
    | none =>
      if op == .notEq then
        match ← asked m "__eq__" a b with
        | some v => return some (.bool (!(← Iteration.truth m v)))
        | none =>
          match ← asked m "__eq__" b a with
          | some v => return some (.bool (!(← Iteration.truth m v)))
          | none => return none
      else return none

/-- Whether a byte, or bytes after one another, are among other bytes. -/
def containsByte (m : Machine) (v : Value) (bs : List UInt8) : Run Bool := do
  let number? : Option Int ← match ← Kind.basic v with
    | .int n => pure (some n)
    | .bool t => pure (some (if t then 1 else 0))
    | _ =>
      match ← Kind.special? v "__index__" with
      | none => pure none
      | some f =>
        match ← Iteration.catching "Exception" (m.call f []) with
        | some (.int n) => pure (some n)
        | some (.bool t) => pure (some (if t then 1 else 0))
        | _ => pure none
  match number? with
  | some n =>
    if n < 0 || 256 ≤ n then Run.valueError "byte must be in range(0, 256)"
    return bs.any fun b => (b.toNat : Int) == n
  | none =>
    match ← ByteView.buffer? (← Kind.basic v) with
    | some cs =>
      let chars (l : List UInt8) := l.map fun b => Char.ofNat b.toNat
      return (Text.findFrom (chars cs) (chars bs) 0).isSome
    | none => Run.typeError s!"a bytes-like object is required, not '{← Kind.name v}'"

/-- Whether a value is among the items of a container. -/
def contains (m : Machine) (v container : Value) : Run Bool := do
  match ← Kind.special? container "__contains__" with
  | some f => Iteration.truth m (← m.call f [v])
  | none =>
    match ← Kind.basic container with
    | .str s =>
      match ← Kind.basic v with
      | .str t => return Text.occursIn t s
      | _ =>
        Run.typeError s!"'in <string>' requires string as left operand, not {← Kind.name v}"
    | .bytes bs => containsByte m v bs
    | .tuple vs => anyEqual m v vs
    | .range a z s =>
      match v with
      | .int n =>
        let k := Iteration.rangeLength a z s
        return k != 0 && (n - a) % s == 0 && 0 ≤ (n - a) / s && (n - a) / s < k
      | .str _ | .bytes _ | .none | .tuple _ => return false
      | _ => anyEqual m v (← Iteration.collect m (.range a z s))
    | .node n => anyEqual m v (((← Run.forest).children n).map .node)
    | c =>
      match ← Run.deref c with
      | some (.list items) | some (.deque items ..) | some (.userList items) =>
        anyEqual m v items.toList
      | some (.proxy source) => Iteration.truth m (← m.compare .isIn v (.ref source))
      | some (.view kind source) =>
        match ← Run.object? source, kind, v with
        | some (.dict es), "dict_keys", v =>
          hashable m v
          return (← findKey m es v).isSome
        | some (.dict es), "dict_items", .tuple [k, x] =>
          hashable m k
          match ← findKey m es k with
          | some i => sameOrEqual m ((es[i]?.map (·.2)).getD .none) x
          | none => return false
        | some (.dict es), "dict_values", v => anyEqual m v (es.toList.map (·.2))
        | _, _, _ => return false
      | some (.dict es) =>
        hashable m v
        return (← findKey m es v).isSome
      | some (.set _ items) =>
        match ← Run.deref v with
        | some (.set ..) => pure ()
        | _ => hashable m v
        return (← findItem m items v).isSome
      | some (.userText s) =>
        match ← Kind.basic v with
        | .str t => return Text.occursIn t s
        | _ => return false
      | some (.byteArray bs) => containsByte m v bs
      | _ =>
        match ← Iteration.catching "TypeError" (Iteration.iter m container) with
        | some it =>
          let found ← Iteration.firstWhere m it fun x => sameOrEqual m x v
          return found.isSome
        | none => Run.typeError s!"argument of type '{← Kind.name container}' is not iterable"

/-- A comparison of two values. -/
def apply (m : Machine) (op : CompareOp) (a b : Value) : Run Value := do
  match op with
  | .is => return .bool (a.same b)
  | .isNot => return .bool (!a.same b)
  | .isIn => return .bool (← contains m a b)
  | .notIn => return .bool (!(← contains m a b))
  | op =>
    match ← askedBoth m op a b with
    | some v => return v
    | none =>
      let x ← Kind.basic a
      let y ← Kind.basic b
      match op with
      | .eq =>
        match ← builtinEqual m x y with
        | some r => return .bool r
        | none => return .bool (a.same b)
      | .notEq =>
        match ← builtinEqual m x y with
        | some r => return .bool (!r)
        | none => return .bool (!a.same b)
      | op =>
        match ← builtinOrder m op x y with
        | some v => return v
        | none =>
          Run.typeError s!"'{op.symbol}' not supported between instances of '{← Kind.name a}' and '{← Kind.name b}'"

end Comparison

end LiveMarkdown.Script
