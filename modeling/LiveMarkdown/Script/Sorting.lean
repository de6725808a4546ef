import LiveMarkdown.Script.Comparison

/-!
The sorting of values by comparisons. Stretches that are in order already are found first, short ones
are made longer by insertion, and neighbours are merged. Items that are equal keep their order. Since
comparisons are made by programs, which ones are made, and in which order, is part of what is
promised.
-/

namespace LiveMarkdown.Script

namespace Sorting

/-- A value with the key that it is sorted by. -/
structure Item where
  key : Value
  value : Value
deriving Inhabited

/-- A stretch of items that are in order. Its power says how soon it is merged with the next one. -/
structure Stretch where
  start : Nat
  size : Nat
  power : Nat

/-- The state of sorting. Of two stretches that are being merged, `merged` holds what is merged already,
and the counts say how many items of each are taken. -/
structure Work where
  items : Array Item
  /-- The stretches found so far, the last one first. -/
  runs : List Stretch
  /-- How many items in a row must come from one stretch before whole parts of it are looked for. -/
  patience : Nat
  merged : Array Item
  left : Nat
  right : Nat

/-- A part of sorting. What a comparison raises ends it, and the items stay as they are by then. -/
abbrev Sorter := ExceptT Value (StateT Work Run)

variable (m : Machine)

def less (a b : Item) : Sorter Bool := do
  let answer : Run (Except Value Bool) :=
    Run.handle (do return .ok (← Iteration.truth m (← m.compare .less a.key b.key)))
      fun e => return .error e
  match ← (answer : Sorter (Except Value Bool)) with
  | .ok b => return b
  | .error e => throw e

def item (i : Nat) : Sorter Item := do return (← get).items.getD i default

/-! ### Stretches -/

/-- The end of a stretch of items that goes on from a place as long as comparisons of neighbours have
the same answer. -/
def follow (down : Bool) (stop : Nat) : Nat → Nat → Sorter Nat
  | 0, i => return i
  | fuel + 1, i => do
    if stop ≤ i then return i
    if (← less m (← item i) (← item (i - 1))) == down then follow down stop fuel (i + 1)
    else return i

def reverseItems (start stop : Nat) : Sorter Unit :=
  modify fun w =>
    let part := (w.items.extract start stop).reverse
    { w with items := w.items.extract 0 start ++ part ++ w.items.extract stop w.items.size }

/-- The end of the stretch that begins at a place. One that goes down is turned around. -/
def stretch (start stop : Nat) : Sorter Nat := do
  if stop ≤ start + 1 then return stop
  let down ← less m (← item (start + 1)) (← item start)
  let last ← follow m down stop (stop - start) (start + 2)
  if down then reverseItems start last
  return last

/-- The place of an item in a part that is in order, after those that are equal. -/
def findPlace (pivot : Item) : Nat → Nat → Nat → Sorter Nat
  | 0, l, _ => return l
  | fuel + 1, l, r => do
    if r ≤ l then return l
    let p := l + (r - l) / 2
    if ← less m pivot (← item p) then findPlace pivot fuel l p else findPlace pivot fuel (p + 1) r

/-- Puts the items of a part into their places one after the other. -/
def insertAll (start stop : Nat) : Nat → Nat → Sorter Unit
  | 0, _ => return ()
  | fuel + 1, i => do
    if stop ≤ i then return ()
    let pivot ← item i
    let p ← findPlace m pivot (i - start + 1) start i
    modify fun w => { w with
      items := (w.items.eraseIdxIfInBounds i).insertIdxIfInBounds p pivot }
    insertAll start stop fuel (i + 1)

/-! ### Search in steps that grow -/

/-- Doubles an offset as long as a test holds and it stays below a bound: the last offset at which the
test held, and the first one at which it did not. -/
def double (test : Nat → Sorter Bool) (most : Nat) : Nat → Nat → Nat → Sorter (Nat × Nat)
  | 0, last, ofs => return (last, min ofs most)
  | fuel + 1, last, ofs => do
    if most ≤ ofs then return (last, most)
    if ← test ofs then double test most fuel ofs (2 * ofs + 1) else return (last, ofs)

/-- The first place of a range at which a test fails that holds before some place and fails after. -/
def halve (test : Nat → Sorter Bool) : Nat → Nat → Nat → Sorter Nat
  | 0, lo, _ => return lo
  | fuel + 1, lo, hi => do
    if hi ≤ lo then return hi
    let mid := lo + (hi - lo) / 2
    if ← test mid then halve test fuel (mid + 1) hi else halve test fuel lo mid

/-- The first of `n` places at which a test fails, looked for around a hint. -/
def search (before : Nat → Sorter Bool) (n hint : Nat) : Sorter Nat := do
  if ← before hint then
    let (last, ofs) ← double (fun o => before (hint + o)) (n - hint) 64 0 1
    halve before (n + 1) (last + hint + 1) (ofs + hint)
  else
    let (last, ofs) ← double (fun o => not <$> before (hint - o)) (hint + 1) 64 0 1
    halve before (n + 1) (hint + 1 - ofs) (hint - last)

/-- The place of a key among `n` items from an index on, before those that are equal. -/
def placeBefore (key : Item) (xs : Array Item) (start n hint : Nat) : Sorter Nat :=
  search (fun i => less m (xs.getD (start + i) default) key) n hint

/-- The place of a key among `n` items from an index on, after those that are equal. -/
def placeAfter (key : Item) (xs : Array Item) (start n hint : Nat) : Sorter Nat :=
  search (fun i => not <$> less m key (xs.getD (start + i) default)) n hint

/-! ### Merging -/

/-- How the merging of two stretches ended: not yet, with the rest of the stretch that gives way, or with
a single item of it that belongs at the far end. -/
inductive Closing where
  | going
  | straight
  | crossed

/-- From how many items in a row on whole parts are looked for. -/
def usualPatience : Nat := 7

/-- Takes items of the stretch on the left, or of the one on the right, as the next of the merge. -/
def takeLeft (as : Array Item) (n : Nat) : Sorter Unit :=
  modify fun w => { w with
    merged := w.merged ++ as.extract w.left (w.left + n), left := w.left + n }

def takeRight (bs : Array Item) (n : Nat) : Sorter Unit :=
  modify fun w => { w with
    merged := w.merged ++ bs.extract w.right (w.right + n), right := w.right + n }

def lessPatient : Sorter Unit :=
  modify fun w => { w with patience := if 1 < w.patience then w.patience - 1 else w.patience }

def morePatient : Sorter Unit := modify fun w => { w with patience := w.patience + 1 }

/-- Merges item by item from the left end, until one stretch has won often enough in a row. -/
def lowSingle (as bs : Array Item) : Nat → Nat → Nat → Sorter Closing
  | 0, _, _ => return .straight
  | fuel + 1, wonLeft, wonRight => do
    let w ← get
    if ← less m (bs.getD w.right default) (as.getD w.left default) then
      takeRight bs 1
      if bs.size ≤ w.right + 1 then return .straight
      if w.patience ≤ wonRight + 1 then return .going
      lowSingle as bs fuel 0 (wonRight + 1)
    else
      takeLeft as 1
      if as.size ≤ w.left + 2 then return .crossed
      if w.patience ≤ wonLeft + 1 then return .going
      lowSingle as bs fuel (wonLeft + 1) 0

/-- Merges whole parts from the left end, as long as they are long. -/
def lowParts (as bs : Array Item) : Nat → Sorter Closing
  | 0 => return .straight
  | fuel + 1 => do
    lessPatient
    let w ← get
    let k ← placeAfter m (bs.getD w.right default) as w.left (as.size - w.left) 0
    takeLeft as k
    if k ≠ 0 then
      if as.size = w.left + k + 1 then return .crossed
      if as.size ≤ w.left + k then return .straight
    takeRight bs 1
    let w ← get
    if bs.size ≤ w.right then return .straight
    let j ← placeBefore m (as.getD w.left default) bs w.right (bs.size - w.right) 0
    takeRight bs j
    if j ≠ 0 && bs.size ≤ w.right + j then return .straight
    takeLeft as 1
    if as.size ≤ w.left + 2 then return .crossed
    if usualPatience ≤ k || usualPatience ≤ j then lowParts as bs fuel
    else
      morePatient
      return .going

def lowLoop (as bs : Array Item) : Nat → Sorter Closing
  | 0 => return .straight
  | fuel + 1 => do
    match ← lowSingle m as bs (as.size + bs.size) 0 0 with
    | .going =>
      morePatient
      match ← lowParts m as bs (as.size + bs.size) with
      | .going => lowLoop as bs fuel
      | c => return c
    | c => return c

/-- Replaces the items from a place on. -/
def putBack (start : Nat) (xs : Array Item) : Sorter Unit :=
  modify fun w => { w with
    items := w.items.extract 0 start ++ xs ++ w.items.extract (start + xs.size) w.items.size }

/-- Merges two neighbouring stretches from the left end; the first item of the right one is known to come
first. -/
def mergeLow (start : Nat) (as bs : Array Item) : Sorter Unit := do
  modify fun w => { w with merged := bs.extract 0 1, left := 0, right := 1 }
  let close (crossed : Bool) : Sorter Unit := do
    let w ← get
    let a := as.extract w.left as.size
    let b := bs.extract w.right bs.size
    putBack start (w.merged ++ if crossed then b ++ a else a ++ b)
  let ending ← tryCatch
    (if bs.size ≤ 1 then return .straight
      else if as.size ≤ 1 then return .crossed
      else lowLoop m as bs (as.size + bs.size))
    fun e => do
      close false
      throw e
  close (match ending with
    | .crossed => true
    | _ => false)

/-- Takes items of a stretch from its right end, as the last ones before the merge. -/
def dropLeft (as : Array Item) (n : Nat) : Sorter Unit :=
  modify fun w => { w with
    merged := as.extract (w.left - n) w.left ++ w.merged, left := w.left - n }

def dropRight (bs : Array Item) (n : Nat) : Sorter Unit :=
  modify fun w => { w with
    merged := bs.extract (w.right - n) w.right ++ w.merged, right := w.right - n }

/-- Merges item by item from the right end, until one stretch has won often enough in a row. -/
def highSingle (as bs : Array Item) : Nat → Nat → Nat → Sorter Closing
  | 0, _, _ => return .straight
  | fuel + 1, wonLeft, wonRight => do
    let w ← get
    if ← less m (bs.getD (w.right - 1) default) (as.getD (w.left - 1) default) then
      dropLeft as 1
      if w.left ≤ 1 then return .straight
      if w.patience ≤ wonLeft + 1 then return .going
      highSingle as bs fuel (wonLeft + 1) 0
    else
      dropRight bs 1
      if w.right ≤ 2 then return .crossed
      if w.patience ≤ wonRight + 1 then return .going
      highSingle as bs fuel 0 (wonRight + 1)

/-- Merges whole parts from the right end, as long as they are long. -/
def highParts (as bs : Array Item) : Nat → Sorter Closing
  | 0 => return .straight
  | fuel + 1 => do
    lessPatient
    let w ← get
    let k ← placeAfter m (bs.getD (w.right - 1) default) as 0 w.left (w.left - 1)
    let k := w.left - k
    dropLeft as k
    if k ≠ 0 && w.left ≤ k then return .straight
    dropRight bs 1
    let w ← get
    if w.right ≤ 1 then return .crossed
    let j ← placeBefore m (as.getD (w.left - 1) default) bs 0 w.right (w.right - 1)
    let j := w.right - j
    dropRight bs j
    if j ≠ 0 then
      if w.right = j + 1 then return .crossed
      if w.right ≤ j then return .straight
    dropLeft as 1
    if w.left ≤ 1 then return .straight
    if usualPatience ≤ k || usualPatience ≤ j then highParts as bs fuel
    else
      morePatient
      return .going

def highLoop (as bs : Array Item) : Nat → Sorter Closing
  | 0 => return .straight
  | fuel + 1 => do
    match ← highSingle m as bs (as.size + bs.size) 0 0 with
    | .going =>
      morePatient
      match ← highParts m as bs (as.size + bs.size) with
      | .going => highLoop as bs fuel
      | c => return c
    | c => return c

/-- Merges two neighbouring stretches from the right end; the last item of the left one is known to come
last. -/
def mergeHigh (start : Nat) (as bs : Array Item) : Sorter Unit := do
  modify fun w => { w with
    merged := as.extract (as.size - 1) as.size, left := as.size - 1, right := bs.size }
  let close (crossed : Bool) : Sorter Unit := do
    let w ← get
    let a := as.extract 0 w.left
    let b := bs.extract 0 w.right
    putBack start ((if crossed then b ++ a else a ++ b) ++ w.merged)
  let ending ← tryCatch
    (if as.size ≤ 1 then return .straight
      else if bs.size ≤ 1 then return .crossed
      else highLoop m as bs (as.size + bs.size))
    fun e => do
      close false
      throw e
  close (match ending with
    | .crossed => true
    | _ => false)

/-- Merges two neighbouring stretches. What is in its place already at both ends is left there. -/
def mergeStretches (a b : Stretch) : Sorter Unit := do
  let items := (← get).items
  let k ← placeAfter m (items.getD b.start default) items a.start a.size 0
  let start := a.start + k
  let size := a.size - k
  if size = 0 then return ()
  let last ← placeBefore m (items.getD (start + size - 1) default) items b.start b.size (b.size - 1)
  if last = 0 then return ()
  let as := items.extract start (start + size)
  let bs := items.extract b.start (b.start + last)
  if size ≤ last then mergeLow m start as bs else mergeHigh m start as bs

/-- Merges the stretch at a depth with the one found after it. -/
def mergeAt (depth : Nat) : Sorter Unit := do
  let runs := (← get).runs
  match runs[depth + 1]?, runs[depth]? with
  | some a, some b =>
    modify fun w => { w with
      runs := runs.take depth ++ { a with size := a.size + b.size } :: runs.drop (depth + 2) }
    mergeStretches m a b
  | _, _ => return ()

/-- How deep the middle between two neighbouring stretches lies in a tree of halves of the whole. -/
def power (a b size : Nat) : Nat → Nat → Nat
  | 0, n => n
  | fuel + 1, n =>
    if size ≤ a then power (2 * (a - size)) (2 * (b - size)) size fuel (n + 1)
    else if size ≤ b then n + 1
    else power (2 * a) (2 * b) size fuel (n + 1)

/-- Merges stretches that lie deeper than a power, except for the last one. -/
def collapse (limit : Nat) : Nat → Sorter Unit
  | 0 => return ()
  | fuel + 1 => do
    match (← get).runs with
    | _ :: r :: _ =>
      if limit < r.power then
        mergeAt m 0
        collapse limit fuel
    | _ => return ()

/-- Adds a new stretch after the ones found so far. -/
def addStretch (start size : Nat) : Sorter Unit := do
  let w ← get
  match w.runs with
  | [] => pure ()
  | last :: _ =>
    let a := 2 * last.start + last.size
    let p := power a (a + last.size + size) w.items.size 64 0
    collapse m p w.runs.length
    modify fun w => match w.runs with
      | r :: rs => { w with runs := { r with power := p } :: rs }
      | [] => w
  modify fun w => { w with runs := ⟨start, size, 0⟩ :: w.runs }

/-- Merges all stretches that are left. -/
def collapseAll : Nat → Sorter Unit
  | 0 => return ()
  | fuel + 1 => do
    match (← get).runs with
    | top :: _ :: r :: _ =>
      mergeAt m (if r.size < top.size then 1 else 0)
      collapseAll fuel
    | _ :: _ :: _ =>
      mergeAt m 0
      collapseAll fuel
    | _ => return ()

/-- The least size of a stretch for a number of items. -/
def leastSize : Nat → Nat → Nat → Nat
  | 0, n, r => n + r
  | fuel + 1, n, r => if n < 64 then n + r else leastSize fuel (n / 2) (if n % 2 = 1 then 1 else r)

/-- Finds all stretches from a place on, and merges them on the way. -/
def stretches (least : Nat) : Nat → Nat → Sorter Unit
  | 0, _ => return ()
  | fuel + 1, start => do
    let size := (← get).items.size
    if size ≤ start then return ()
    let last ← stretch m start size
    let stop := if last - start < least then min size (start + least) else last
    insertAll m start stop (stop - start) last
    addStretch m start (stop - start)
    stretches least fuel stop

def sortAll : Sorter Unit := do
  let size := (← get).items.size
  if 2 ≤ size then
    stretches m (leastSize 64 size 0) size 0
    collapseAll m size

/-- Values with their keys, in order, and what a comparison raised meanwhile. Reversed, items that are
equal still keep their order. -/
def sortItems (items : Array Item) (backwards : Bool) : Run (Array Item × Option Value) := do
  let items := if backwards then items.reverse else items
  let (result, w) ← (sortAll m).run.run ⟨items, [], usualPatience, #[], 0, 0⟩
  let items := if backwards then w.items.reverse else w.items
  match result with
  | .ok _ => return (items, none)
  | .error e => return (items, some e)

/-- Values with the keys that a function gives them. -/
def withKeys (vs : List Value) (key : Value) : Run (Array Item) := do
  let items ← vs.mapM fun v => do
    match key with
    | .none => return Item.mk v v
    | f => return Item.mk (← m.call f [v]) v
  return items.toArray

/-- Sorts values by a key function. -/
def sort (vs : List Value) (key : Value) (backwards : Bool) : Run (List Value) := do
  match ← sortItems m (← withKeys m vs key) backwards with
  | (items, none) => return items.toList.map Item.value
  | (_, some e) => throw (.raised e)

end Sorting

end LiveMarkdown.Script
