import LiveMarkdown.Document.Selector.Lexer

/-!
Selectors from text. A text is read from left to right; a list of selectors in brackets is read by the
same function as the whole text. Conditions with a name of their own that other conditions explain,
such as being disabled, are written out as selectors here.
-/

namespace LiveMarkdown.Document

namespace SelectorText

/-- Which list of selectors is read: the whole text, one in brackets, one in brackets in which empty
places match nothing, or one in brackets that begins with a relation. -/
inductive Form where
  | whole
  | bracketed
  | forgiving
  | relative
deriving DecidableEq

/-- A list of selectors that is being read. The conditions of the compound and the finished selectors
come last first. In a relative list the compounds of a selector are kept with what leads to each. -/
structure Progress where
  compound : List Condition := []
  started : Bool := false
  link : Option (Relation × Selector) := none
  done : List Selector := []
  lead : Relation := .descendant
  chain : List (Relation × List Condition) := []

namespace Progress

def add (p : Progress) (c : Condition) : Progress :=
  { p with compound := c :: p.compound, started := true }

/-- The compound as a selector, with what it is related to. -/
def selector (p : Progress) : Selector :=
  match p.link with
  | some (r, s) => .related p.compound.reverse r s
  | none => .alone p.compound.reverse

/-- Conditions on an element from which others are reached one after the other. -/
def chained (conditions : List Condition) : List (Relation × List Condition) → Selector
  | [] => .alone conditions
  | (r, cs) :: rest => .related conditions r (chained cs rest)

/-- The selector of a relative list that ends with the compound. -/
def relativeSelector (p : Progress) : Selector :=
  chained [] ((p.lead, p.compound.reverse) :: p.chain).reverse

end Progress

def nothing : Selector := .alone [.role .never]

def expected {α : Type} (place : Nat) : Except SelectorFault α :=
  .error (.malformed s!"Expected a selector at position {place}" place)

/-- The selectors of a finished list. -/
def finish (form : Form) (closed : Bool) (index : Nat) (p : Progress) :
    Except SelectorFault (List Selector) :=
  if form ≠ .whole && !closed then
    .error (.malformed s!"Unclosed pseudo-class at position {index}" index)
  else if p.started then
    .ok ((if form = .relative then p.relativeSelector else p.selector) :: p.done).reverse
  else if form = .forgiving && (p.done.isEmpty || p.link.isNone) then .ok (nothing :: p.done).reverse
  else expected index

/-- How a mark between two compounds relates them. -/
def relationOf (mark : Char) : Relation :=
  match mark with
  | '>' => .parent
  | '~' => .sibling
  | '+' => .neighbour
  | _ => .ancestor

/-- How a mark in front of a compound relates it to what was before it. -/
def leadOf (mark : Char) : Relation :=
  match mark with
  | '>' => .child
  | '~' => .laterSibling
  | '+' => .nextSibling
  | _ => .descendant

def unled {α : Type} (mark : Char) (index : Nat) : Except SelectorFault α :=
  .error (.malformed
    s!"The combinator '{mark}' at position {index}, must have a selector before it" index)

/-- A list after a mark between compounds. -/
def combine (form : Form) (mark : Char) (index : Nat) (p : Progress) :
    Except SelectorFault Progress :=
  if form = .relative then
    if mark == ',' then
      if p.started then .ok { done := p.relativeSelector :: p.done } else unled mark index
    else if p.started then
      .ok { done := p.done, lead := leadOf mark, chain := (p.lead, p.compound.reverse) :: p.chain }
    else if p.lead ≠ .descendant then
      .error (.malformed s!"The multiple combinators at position {index}" index)
    else .ok { done := p.done, lead := leadOf mark, chain := p.chain }
  else if !p.started then
    if form = .forgiving && mark == ',' then .ok { done := nothing :: p.done } else unled mark index
  else if mark == ',' then .ok { done := p.selector :: p.done }
  else .ok { done := p.done, link := some (relationOf mark, p.selector) }

/-! ### Conditions -/

/-- The test of a value that an operator asks for. -/
def valueTest (operator : String) (v : List Char) : ValueTest :=
  match operator with
  | "" => .present
  | "^=" => .beginsWith v
  | "$=" => .endsWith v
  | "*=" => .holds v
  | "~=" => if v.isEmpty || v.any isSpace then .never else .hasWord v
  | "|=" => .dashed v
  | _ => .equals v

def lowerName (cs : List Char) : String := String.ofList (cs.map Char.toLower)

/-- A condition on an attribute. The case of the types of elements does not matter. -/
def attributeCondition (t : AttrText) : Condition :=
  let name := lowerName t.name
  let caseless := match t.caseMark with
    | some c => c == 'i'
    | none => name == "type"
  let c := Condition.attribute name caseless (valueTest t.operator t.value)
  if t.operator == "!=" then .noneOf [.alone [c]] else c

/-- A place from one end, among all elements or among those of the same name. -/
def endPlace (fromEnd sameName : Bool) : Condition :=
  .place { step := 1, offset := 0, repeats := false, fromEnd, sameName } []

/-- The conditions that a name without brackets stands for. -/
def simpleConditions : String → List Condition
  | "root" => [.role .root]
  | "scope" => [.role .scope]
  | "empty" => [.role .empty]
  | "defined" => [.role .defined]
  | "first-child" => [endPlace false false]
  | "last-child" => [endPlace true false]
  | "first-of-type" => [endPlace false true]
  | "last-of-type" => [endPlace true true]
  | "only-child" => [endPlace false false, endPlace true false]
  | "only-of-type" => [endPlace false true, endPlace true true]
  | _ => []

/-- Names of conditions that no element of a written document meets. -/
def idleNames : List String :=
  ["active", "autofill", "buffering", "current", "focus", "focus-visible", "focus-within",
    "fullscreen", "future", "host", "hover", "local-link", "past", "paused", "picture-in-picture",
    "playing", "popover-open", "seeking", "stalled", "target", "target-within", "user-invalid",
    "visited", "volume-locked"]

/-- Names that take a list of selectors and that no element meets. -/
def idleListNames : List String := ["current", "host", "host-context"]

/-- Names that take a list of selectors. -/
def listNames : List String :=
  ["contains", "-soup-contains", "-soup-contains-own", "has", "is", "matches", "not", "where"]

/-- Names with arguments of their own. -/
def argumentNames : List String :=
  ["dir", "lang", "nth-child", "nth-last-child", "nth-last-of-type", "nth-of-type"]

/-- The selectors that the name of a condition stands for, and what the last of them asks for
besides. -/
def presetText : String → Option (String × Option Role)
  | "link" | "any-link" => some (":is(a, area)[href]", none)
  | "checked" =>
    some (":is(input[type=checkbox], input[type=radio])[checked], option[selected]", none)
  | "default" =>
    some (":checked, form :is(button, input)[type=\"submit\"]", some .firstSubmit)
  | "indeterminate" =>
    some ("input[type=\"checkbox\"][indeterminate], " ++
      "input[type=\"radio\"]:is(:not([name]), [name=\"\"]):not([checked]), " ++
      "progress:not([value]), input[type=\"radio\"][name]:not([name='']):not([checked])",
      some .uncheckedGroup)
  | "disabled" =>
    some (":is(input:not([type=hidden]), button, select, textarea, fieldset, optgroup, option)" ++
      "[disabled], optgroup[disabled] > option, " ++
      "fieldset[disabled] > :is(input:not([type=hidden]), button, select, textarea, fieldset), " ++
      "fieldset[disabled] > :not(legend:nth-of-type(1)) " ++
      ":is(input:not([type=hidden]), button, select, textarea, fieldset)", none)
  | "enabled" =>
    some (":is(input:not([type=hidden]), button, select, textarea, fieldset, optgroup, option)" ++
      ":not(:disabled)", none)
  | "required" => some (":is(input, select, textarea)[required]", none)
  | "optional" => some (":is(input, select, textarea):not([required])", none)
  | "placeholder-shown" =>
    some ("input:is(:not([type]), [type=\"\"], [type=text], [type=search], [type=url], " ++
      "[type=tel], [type=email], [type=password], [type=number])[placeholder]" ++
      ":not([placeholder='']):is(:not([value]), [value=\"\"]), " ++
      "textarea[placeholder]:not([placeholder=''])", some .placeholderShown)
  | "read-write" =>
    some (":is(textarea, input:is(:not([type]), [type=\"\"], [type=date], [type=datetime-local], " ++
      "[type=email], [type=month], [type=number], [type=password], [type=search], [type=tel], " ++
      "[type=text], [type=time], [type=url], [type=week])):not([readonly], :disabled), " ++
      ":is([contenteditable=\"\"], [contenteditable=\"true\" i])", none)
  | "read-only" => some (":not(:read-write)", none)
  | "in-range" => some (rangeText, some .inRange)
  | "out-of-range" => some (rangeText, some .outOfRange)
  | "open" => some (":is(details, dialog)[open]", none)
  | "muted" => some (":is(video, audio)[muted]", none)
  | _ => none
where
  rangeText : String :=
    "input:is([type=\"date\"], [type=\"month\"], [type=\"week\"], [type=\"time\"], " ++
      "[type=\"datetime-local\"], [type=\"number\"], [type=\"range\"]):is([min], [max])"

/-- Adds a condition to the last of several selectors. -/
def addToLast (c : Condition) : List Selector → List Selector
  | [] => []
  | [.alone cs] => [.alone (cs ++ [c])]
  | [.related cs r s] => [.related (cs ++ [c]) r s]
  | s :: ss => s :: addToLast c ss

/-- A text or word in brackets as one of two directions. -/
def direction? (cs : List Char) : Read Role :=
  match word? "ltr" cs, word? "rtl" cs with
  | some rest, _ => some (.leftToRight, rest)
  | none, some rest => some (.rightToLeft, rest)
  | none, none => none

def closing? (cs : List Char) : Option (List Char) :=
  match skip cs with
  | ')' :: rest => some rest
  | _ => none

/-- What follows comments and at least one space. -/
def afterSpace? (cs : List Char) : Option (List Char) :=
  let rec uncommented : Nat → List Char → List Char
    | 0, cs => cs
    | fuel + 1, cs =>
      match afterComment? cs with
      | some rest => uncommented fuel rest
      | none => cs
  match uncommented (cs.length + 1) cs with
  | c :: rest => if isSpace c then some (skip rest) else none
  | [] => none

/-- The places that are asked for in brackets, and whether a list of selectors follows. -/
def placeArguments? (ofList : Bool) (cs : List Char) : Read ((Int × Int × Bool) × Bool) :=
  match places? cs with
  | none => none
  | some (p, rest) =>
    match closing? rest with
    | some rest => some ((p, false), rest)
    | none =>
      if !ofList then none
      else match ((afterSpace? rest).bind (word? "of")).bind afterSpace? with
        | some rest => some ((p, true), rest)
        | none => none

/-- What a name with arguments of its own asks for; a list of selectors may still follow. -/
def special? (name : String) (cs : List Char) : Read (Condition × Bool) :=
  let nth (fromEnd sameName : Bool) : Read (Condition × Bool) :=
    (placeArguments? (!sameName) cs).map fun (((step, offset, repeats), more), rest) =>
      ((.place { step, offset, repeats, fromEnd, sameName } [], more), rest)
  let texts (own : Bool) : Read (Condition × Bool) :=
    (values? (cs.length + 1) cs).map fun (vs, rest) =>
      ((.text own (vs.map String.ofList), false), rest)
  match name with
  | "contains" | "-soup-contains" => texts false
  | "-soup-contains-own" => texts true
  | "nth-child" => nth false false
  | "nth-last-child" => nth true false
  | "nth-of-type" => nth false true
  | "nth-last-of-type" => nth true true
  | "lang" =>
    (values? (cs.length + 1) cs).map fun (vs, rest) =>
      ((.language (vs.map String.ofList), false), rest)
  | "dir" =>
    match direction? cs with
    | some (r, rest) => (closing? rest).map fun rest => ((.role r, false), rest)
    | none => none
  | _ => none

/-- The form of the list of selectors in the brackets of a name. -/
def formOf (name : String) : Form :=
  match name with
  | "has" => .relative
  | "is" | "where" => .forgiving
  | _ => .bracketed

/-- The condition that a list in the brackets of a name makes. -/
def listCondition (name : String) (ss : List Selector) : Condition :=
  if idleListNames.contains name then .role .never
  else if name == "not" then .noneOf ss
  else .oneOf ss

/-- The condition among selected elements. -/
def among (c : Condition) (ss : List Selector) : Condition :=
  match c with
  | .place p _ => .place p ss
  | c => c

/-- What is next in a text: a condition; a name with brackets, in which a list of selectors follows,
and what the list makes of it; a mark between compounds; the name of an element; or a fault. -/
inductive Next where
  | condition (c : Condition) (rest : List Char)
  | conditions (cs : List Condition) (rest : List Char)
  | list (form : Form) (make : List Selector → Condition) (rest : List Char)
  | mark (c : Char) (rest : List Char)
  | element (c : Condition) (rest : List Char)
  | fault (f : SelectorFault)

/-- What a name behind a colon asks for. -/
def named (preset : String → Option Condition) (place size : Nat) (raw : List Char)
    (name : String) (rest : List Char) : Next :=
  let invalid : Next := .fault (.malformed s!"Invalid syntax for pseudo class ':{name}'" place)
  let unknown : Next := .fault (.malformed
    s!"':{name}' was detected as a pseudo-class and is either unsupported or invalid. If the syntax was not intended to be recognized as a pseudo-class, please escape the colon."
    place)
  let custom := ['-', '-'].isPrefixOf raw
  match rest with
  | '(' :: inside =>
    let inside := skip inside
    match special? name inside with
    | some ((c, false), rest) => .condition c rest
    | some ((c, true), rest) => .list .bracketed (among c) rest
    | none =>
      if custom then
        let stop := size - rest.length
        .fault (.malformed s!"Undefined custom selector ':{name}' found at position {stop}" stop)
      else if listNames.contains name || idleListNames.contains name then
        .list (formOf name) (listCondition name) inside
      else if argumentNames.contains name || idleNames.contains name ||
          !(simpleConditions name).isEmpty || (presetText name).isSome then invalid
      else unknown
  | rest =>
    if custom then
      let stop := size - rest.length
      .fault (.malformed s!"Undefined custom selector ':{name}' found at position {stop}" stop)
    else match simpleConditions name with
      | [] =>
        match preset name with
        | some c => .condition c rest
        | none =>
          if idleNames.contains name then .condition (.role .never) rest
          else if argumentNames.contains name || listNames.contains name ||
              idleListNames.contains name || (presetText name).isSome then invalid
          else unknown
      | cs => .conditions cs rest

/-- The name of an element with its namespace. -/
def elementName? (cs : List Char) : Read Condition :=
  let plain (space : Option String) (cs : List Char) : Read Condition :=
    match cs with
    | '*' :: rest => some (.named space "*", rest)
    | cs => (name? cs).map fun (n, rest) => (.named space (lowerName n), rest)
  match (space? cs).bind fun (s, rest) => plain (some s) rest with
  | some found => some found
  | none => plain none cs

/-- A character that begins nothing. -/
def invalidCharacter (place : Nat) (c : Char) : SelectorFault :=
  let malformed (kind : String) : SelectorFault :=
    .malformed s!"Malformed {kind} selector at position {place}" place
  match c with
  | '[' => malformed "attribute"
  | '.' => malformed "class"
  | '#' => malformed "id"
  | ':' => malformed "pseudo-class"
  | c =>
    let shown := Text.quoted c.toString
    .malformed s!"Invalid character {shown} position {place}" place

/-- What begins at a place. -/
def next (preset : String → Option Condition) (size place : Nat) (cs : List Char) : Next :=
  let other : Next :=
    match elementName? cs with
    | some (c, rest) => .element c rest
    | none =>
      match attribute? cs with
      | some (t, rest) => .condition (attributeCondition t) rest
      | none =>
        match combinator? (cs.length + 1) cs with
        | some (c, rest) => .mark c rest
        | none => .fault (invalidCharacter place (cs.headD ' '))
  match cs with
  | ':' :: ':' :: body =>
    if (name? body).isSome then
      .fault (.unsupported s!"Pseudo-element found at position {place}")
    else other
  | ':' :: body =>
    match name? body with
    | some (n, rest) => named preset place size body (lowerName n) rest
    | none => other
  | '&' :: rest => .condition (.role .scope) rest
  | '@' :: c :: body =>
    if (c == 'p' || c == 'P') && (name? body).isSome then
      .fault (.unsupported s!"At-rules found at position {place}")
    else other
  | '#' :: body =>
    match name? body with
    | some (n, rest) => .condition (.hasId (String.ofList n)) rest
    | none => other
  | '.' :: body =>
    match name? body with
    | some (n, rest) => .condition (.hasClass (String.ofList n)) rest
    | none => other
  | _ => other

/-- Reads a list of selectors; `index` is where the last piece ended, and the text ends at `stop`.
The fuel bounds the pieces. -/
def list (preset : String → Option Condition) (size stop : Nat) :
    Nat → Form → Nat → List Char → Progress → Except SelectorFault (List Selector × List Char)
  | 0, _, index, _, _ => expected index
  | fuel + 1, form, index, cs, p => do
    let place := size - cs.length
    let onward := list preset size stop fuel form
    if stop ≤ place then return (← finish form false index p, cs)
    match skip cs with
    | ')' :: rest =>
      if !p.started && form ≠ .forgiving then expected place
      else if form = .whole then
        throw (.malformed s!"Unmatched pseudo-class close at position {place}" place)
      else return (← finish form true index p, rest)
    | _ =>
      match next preset size place cs with
      | .condition c rest => onward (size - rest.length) rest (p.add c)
      | .conditions found rest => onward (size - rest.length) rest (found.foldl Progress.add p)
      | .list inner make rest =>
        let index := size - rest.length
        let (ss, rest) ← list preset size stop fuel inner index rest {}
        onward index rest (p.add (make ss))
      | .mark c rest => onward (size - rest.length) rest (← combine form c index p)
      | .element c rest =>
        if p.started then
          throw (.malformed s!"Tag name found at position {place} instead of at the start" place)
        onward (size - rest.length) rest (p.add c)
      | .fault f => throw f

/-- Where the spaces and comments at the end of a text begin. -/
def endFrom : Nat → List Char → Nat
  | place, [] => place
  | place, c :: cs => if isOver (c :: cs) then place else endFrom (place + 1) cs

/-- Reads a text with the names that are known already. -/
def read (preset : String → Option Condition) (cs : List Char) :
    Except SelectorFault (List Selector) := do
  let cs := cs.map fun c => if c = Char.ofNat 0 then Char.ofNat 0xFFFD else c
  let (ss, _) ← list preset cs.length (endFrom 0 cs) (2 * cs.length + 2) .whole 0 (skip cs) {}
  return ss

/-- The condition that a name stands for. The fuel bounds how deep names stand for names. -/
def preset? : Nat → String → Option Condition
  | 0, _ => none
  | fuel + 1, name =>
    match presetText name with
    | none => none
    | some (text, role) =>
      match read (preset? fuel) text.toList with
      | .ok ss =>
        some (.oneOf (match role with
          | some r => addToLast (.role r) ss
          | none => ss))
      | .error _ => none

end SelectorText

/-- Reads the selectors of a text. -/
def Selector.parse (text : String) : Except SelectorFault (List Selector) :=
  SelectorText.read (SelectorText.preset? 4) text.toList

end LiveMarkdown.Document
