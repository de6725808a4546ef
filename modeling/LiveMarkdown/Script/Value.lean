import LiveMarkdown.Document.Forest
import LiveMarkdown.Number.Binary
import LiveMarkdown.Number.Scaled
import LiveMarkdown.Script.Syntax

/-!
The cells of a view of bytes: how many bytes an item takes, and what they stand for. Numbers have their
low byte first.
-/

namespace LiveMarkdown.Script

/-- What the bytes of one item of a view stand for. -/
inductive Cell where
  | character
  | integer (width : Nat) (signed : Bool)
  | single
  | double
  | truth
deriving DecidableEq, Repr

namespace Cell

/-- A number of one byte. -/
def byte : Cell := .integer 1 false

/-- How many bytes an item takes. -/
def width : Cell → Nat
  | character | truth => 1
  | integer w _ => w
  | single => 4
  | double => 8

def ofLetter? : Char → Option Cell
  | 'c' => some .character
  | 'b' => some (.integer 1 true)
  | 'B' => some byte
  | 'h' => some (.integer 2 true)
  | 'H' => some (.integer 2 false)
  | 'i' => some (.integer 4 true)
  | 'I' => some (.integer 4 false)
  | 'l' | 'q' | 'n' => some (.integer 8 true)
  | 'L' | 'Q' | 'N' | 'P' => some (.integer 8 false)
  | 'f' => some .single
  | 'd' => some .double
  | '?' => some .truth
  | _ => none

/-- The cell that a format names: a letter, with or without a mark for the order of bytes that is in
use anyway. -/
def ofFormat? (format : String) : Option Cell :=
  match format.toList with
  | [c] | ['@', c] => ofLetter? c
  | _ => none

/-- Whether a cell is a byte of its own, as a character or as a number. -/
def isByte : Cell → Bool
  | character => true
  | integer 1 _ => true
  | _ => false

/-- The number that bytes stand for, the low one first. -/
def natOfBytes (bs : List UInt8) : Nat := bs.foldr (fun b n => b.toNat + 256 * n) 0

/-- The bytes of a number, the low one first. Those beyond the width are dropped. -/
def bytesOfNat : Nat → Nat → List UInt8
  | 0, _ => []
  | w + 1, n => UInt8.ofNat (n % 256) :: bytesOfNat w (n / 256)

/-- The integer that the bytes of a cell stand for. -/
def intOfBytes (signed : Bool) (bs : List UInt8) : Int :=
  let n := natOfBytes bs
  if signed then Int.bmod n (Nat.pow 256 bs.length) else n

/-- The bytes of an integer, if it fits. -/
def bytesOfInt? (w : Nat) (signed : Bool) (n : Int) : Option (List UInt8) :=
  let bs := bytesOfNat w (n % (Nat.pow 256 w : Nat)).toNat
  if intOfBytes signed bs = n then some bs else none

/-- The binary fraction that the bytes of a cell stand for. -/
def floatOfBytes (bs : List UInt8) : Float :=
  let n := natOfBytes bs
  if bs.length = 4 then (Float32.ofBits n.toUInt32).toFloat else Float.ofBits n.toUInt64

/-- The bytes of a binary fraction, in four or eight bytes. -/
def bytesOfFloat (w : Nat) (x : Float) : List UInt8 :=
  bytesOfNat w (if w = 4 then x.toFloat32.toBits.toNat else x.toBits.toNat)

end Cell

/-!
The values of programs and the objects they refer to. Values that cannot change are held as they
are; what can change, or has an identity, is an object of the heap.
-/

open LiveMarkdown.Document (NodeId)

/-- A place in the heap. -/
abbrev Ref := Nat

/-- A moment: a day, and for a time of day its parts and its distance to universal time in minutes. -/
structure Moment where
  year : Nat
  month : Nat
  day : Nat
  hour : Nat
  minute : Nat
  second : Nat
  microsecond : Nat
  offset : Option Int
deriving DecidableEq, Repr

inductive Value where
  | none
  | ellipsis
  | notImplemented
  | bool (b : Bool)
  | int (n : Int)
  | float (x : Float)
  | complex (re im : Float)
  | fraction (numerator : Int) (denominator : Nat)
  | decimal (d : Number.Scaled)
  | str (s : String)
  | bytes (bs : List UInt8)
  | tuple (items : List Value)
  | range (start stop step : Int)
  | slice (lower upper step : Value)
  | date (year month day : Nat)
  | moment (m : Moment)
  | node (n : NodeId)
  /-- A builder of elements for the document with the given root. -/
  | factory (root : NodeId)
  /-- A built-in class. -/
  | type (name : String)
  /-- A built-in function. -/
  | native (name : String)
  /-- A built-in method of a value. -/
  | method (self : Value) (name : String)
  | ref (r : Ref)
deriving Inhabited

/-- The names of a function body by the block that they belong to. -/
structure BlockNames where
  locals : List String
  globals : List String
  outer : List String
  /-- The names that a function inside another one uses. -/
  used : List String := []

/-- How a function answers a call: at once, or step by step. -/
inductive FunctionKind where
  | plain
  | generator
  | coroutine
  | asyncGenerator
deriving DecidableEq, Repr

structure Function where
  name : String
  qualifiedName : String
  params : Params
  body : List Stmt
  defaults : List Value
  nameDefaults : List (String × Value)
  scope : Option Ref
  globals : Ref
  builtins : Option Ref
  names : BlockNames
  kind : FunctionKind
  owner : Option Value
  privateTo : Option String
  /-- The annotations of its parameters and of its result, as texts. -/
  hints : List (String × String)
  attrs : Array (String × Value)

/-- Where a statement runs: in a module, the body of a function, or the body of a class. -/
inductive FrameKind where
  | module
  | function
  | classBody
deriving DecidableEq, Repr

/-- Where code runs. `scope` holds the variables of the innermost function, `names` says which names
belong to it, and `space` holds the names of a class body. `closure` holds the variables that the
blocks inside see: a function without variables of its own is passed over. -/
structure Frame where
  kind : FrameKind
  globals : Ref
  builtins : Option Ref
  scope : Option Ref
  closure : Option Ref
  names : BlockNames
  space : Option Ref
  /-- The class in whose body the code stands. -/
  owner : Option Value
  /-- The name of the innermost class around the code, to which private names belong. -/
  privateTo : Option String
  /-- The name of the first parameter of the innermost function. -/
  firstParam : Option String
  path : String

/-- How a part of a program ends. -/
inductive Ending where
  | next
  | break
  | continue
  | return (v : Value)
  | raise (e : Value)

/-- What a suspended function still has to do. -/
inductive Task where
  | run (ss : List Stmt)
  | eachItem (target : Expr) (iter : Value) (body orElse : List Stmt)
  | whileTrue (test : Expr) (body orElse : List Stmt)
  /-- A test that is ready, and the loop with the test that is to be made each time. -/
  | whileReady (ready test : Expr) (body orElse : List Stmt)
  /-- A loop over the items of an asynchronous iterator, and what follows when an item is in its slot. -/
  | eachAwaited (target : Expr) (iter : Value) (body orElse : List Stmt)
  | itemAwaited (target : Expr) (iter : Value) (body orElse : List Stmt) (slot : String)
  /-- Handlers for what the tasks before raise, and what follows if they raise nothing. -/
  | guarded (handlers : List Handler) (orElse : List Stmt)
  /-- Handlers that share a group of exceptions, and the handlers to which what is left still goes. -/
  | guardedGroup (handlers : List Handler) (orElse : List Stmt)
  | sharing (e : Value) (left : Option Value) (raised : List Value) (handlers : List Handler)
  | final (body : List Stmt)
  /-- The end of a handler: its name is unbound. -/
  | handled (name : Option String) (e : Value)
  /-- The end of a `with` block: the manager is told by a call. -/
  | leave (exit : Value)
  /-- The body of an asynchronous `with` block, once its manager has answered. -/
  | entered (body : List Stmt) (exit : Value)
  /-- The end of an asynchronous `with` block: the answer to the call is awaited. -/
  | leaveAwaited (exit : Value)
  /-- What follows when the answer is in its slot, after the ending of the block. -/
  | left (how : Ending) (slot : String)
  /-- How to go on after a final block. -/
  | resume (how : Ending)
  /-- A slot for the value that is sent. -/
  | receive (slot : String)
  /-- Another iterator that answers until its end; its result goes to the slot. -/
  | delegate (iter : Value) (slot : String)

/-- A function that answers step by step. -/
structure Generator where
  name : String
  frame : Frame
  /-- The tasks that are left, innermost first. -/
  tasks : List Task
  started : Bool
  running : Bool
  finished : Bool
  kind : FunctionKind
  /-- What the function returned at its end. -/
  result : Value
  /-- Whether the last value was yielded by the function itself, and not passed on. -/
  own : Bool := false
  /-- Whether an answer of an asynchronous generator is being awaited, and whether it gives no more. -/
  busy : Bool := false
  closed : Bool := false

/-- How far an answer that is awaited got. -/
inductive PullState where
  | fresh
  | going
  | done
deriving DecidableEq, Repr

/-- An answer that can be awaited: the next value of an asynchronous generator, to which a value is
sent, an exception is raised in it, or its end; or what a coroutine answers. -/
structure Pull where
  kind : String
  source : Ref
  sent : Value
  fault : Option Value
  state : PullState
  result : Value

structure Class where
  name : String
  qualifiedName : String
  /-- The class of the class. -/
  kind : Value
  bases : List Value
  /-- The class itself and the classes it inherits from, in the order of look-up. -/
  order : List Value
  space : Ref
  /-- The names that its instances can store, if it lists them. -/
  slots : Option (List String)

/-- A view of bytes: some of those of a value, as items from a place on. `extent` has the number of
items in each dimension, and their distance. -/
structure Memory where
  source : Value
  start : Int
  extent : List (Nat × Int)
  cell : Cell
  format : String
  readOnly : Bool
  released : Bool

namespace Memory

/-- The number of items in the first dimension. -/
def count (v : Memory) : Nat := (v.extent.head?.map (·.1)).getD 1

/-- The distances of the items from the first one, in dimensions after one another. -/
def offsets : List (Nat × Int) → Int → List Int
  | [], start => [start]
  | (n, d) :: rest, start => (List.range n).flatMap fun (i : Nat) => offsets rest (start + i * d)

/-- The number of bytes of all items. -/
def size (v : Memory) : Nat := (v.extent.map (·.1)).foldl (· * ·) v.cell.width

end Memory

/-- What code that was compiled apart runs. -/
inductive Runnable where
  | expression (e : Expr)
  /-- Statements; an interactive program shows the values of its expressions. -/
  | program (ss : List Stmt) (interactive : Bool)
  /-- The body of a function. -/
  | body (f : Function)

/-- Compiled code, with what is known of it by name. -/
structure Code where
  name : String
  parts : List (String × Value)
  runs : Runnable

/-- The state of a built-in iterator. -/
inductive Iterator where
  /-- The items of a list object from a place on; the list may change meanwhile. -/
  | list (source : Ref) (next : Nat)
  /-- The items of a list object before a place, the last one first. -/
  | listBackwards (source : Ref) (left : Nat)
  | items (kind : String) (rest : List Value)
  /-- Numbers in steps. The long kind is for those that do not fit into a machine word. -/
  | range (long : Bool) (next : Int) (count : Nat) (step : Int)
  /-- The entries of a dictionary from a place on, with the size it must keep and the number of entries
  that there may still be. -/
  | dict (kind : String) (source : Ref) (next size left : Nat)
  /-- Items of a set, with the size it must keep. -/
  | set (source : Ref) (rest : List Value) (size : Nat)
  /-- The items of a queue from a place on, with the number of changes it had. -/
  | deque (backwards : Bool) (source : Ref) (next changes : Nat)
  /-- The children of an element from a place on; they may change meanwhile. -/
  | children (parent : NodeId) (next : Nat)
  /-- The results of `__getitem__` from an index on. -/
  | indexed (source : Value) (next : Nat)
  /-- The results of `__getitem__` below an index, the last one first. -/
  | indexedBackwards (source : Value) (left : Nat)
  | enumerate (inner : Value) (next : Int)
  | zip (inners : List Value) (strict : Bool)
  | map (f : Value) (inners : List Value)
  | filter (f : Value) (inner : Value)
  | untilEqual (f : Value) (last : Value)
  | done (kind : String)

inductive Object where
  | list (items : Array Value)
  | dict (entries : Array (Value × Value))
  | set (frozen : Bool) (items : Array Value)
  | byteArray (bs : List UInt8)
  | memory (view : Memory)
  /-- A queue, with the most items it keeps and the number of its changes. -/
  | deque (items : Array Value) (limit : Option Nat) (changes : Nat)
  | userList (items : Array Value)
  | userText (s : String)
  /-- The variables of one run of a function. -/
  | scope (names : BlockNames) (vars : Array (String × Value)) (outer : Option Ref)
  | function (f : Function)
  | cls (c : Class)
  /-- An instance of a class of the program. `space` holds what is stored with it, and `core` is its
  value as an instance of a built-in class. -/
  | instance (cls : Value) (space : Ref) (core : Option Value)
  | exception (cls : Value) (args : List Value) (cause context : Option Value)
      (suppressed : Bool) (fields : Array (String × Value))
  | module (name : String) (space : Ref)
  | boundMethod (func self : Value)
  /-- A computed attribute. Without a text of its own it is described by that of its getter. -/
  | property (getter setter deleter doc : Value)
  | classMethod (f : Value)
  | staticMethod (f : Value)
  | iterator (i : Iterator)
  | generator (g : Generator)
  | pull (p : Pull)
  /-- The keys, values or items of a dictionary. -/
  | view (kind : String) (source : Ref)
  /-- A dictionary that cannot be changed through this object. -/
  | proxy (source : Ref)
  /-- The place of a variable that belongs to a function around another one. -/
  | cell (scope : Ref) (name : String)
  /-- What a class has in the place of a part that its instances store or compute. -/
  | slot (kind : String) (owner : Value) (name : String)
  /-- A class with classes for its parts. -/
  | alias (origin : Value) (args : List Value) (unpacked : Bool := false)
  /-- One class of several. -/
  | union (classes : List Value)
  | code (c : Code)
  | super (cls self : Value)
  /-- An object known by the name of its class and what it is shown as, if it can be shown. -/
  | opaqueThing (className : String) (shown : Option String)
deriving Inhabited

end LiveMarkdown.Script
