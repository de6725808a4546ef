import LiveMarkdown.Script.Check.Placement
import LiveMarkdown.Script.Encoded
import LiveMarkdown.Script.FilePath
import LiveMarkdown.Script.Grammar.Program

/-!
Programs that run programs: texts and compiled code are run against the namespaces that a program
names, or against its own.
-/

namespace LiveMarkdown.Script

namespace Execution

/-! ### Where code runs -/

/-- The built-in names that a namespace has, unless these are the ones that are always there. -/
def builtinsOf (space : Ref) : Run (Option Ref) := do
  match ← Space.get? space Builtin.placeName with
  | some v =>
    match v, ← Run.deref v with
    | _, some (.module _ _) => return none
    | .ref r, _ => return some r
    | _, _ => return none
  | none => return none

/-- Gives a namespace the built-in names if it has none. -/
def provideBuiltins (space : Ref) : Run Unit := do
  if (← Space.get? space Builtin.placeName).isNone then
    Space.set space Builtin.placeName (.ref (← Builtin.space))

/-- Where the statements of a module run. -/
def moduleFrame (space : Ref) : Run Frame := do
  return {
    kind := .module
    globals := space
    builtins := ← builtinsOf space
    scope := none
    closure := none
    names := { locals := [], globals := [], outer := [] }
    space := none
    owner := none
    privateTo := none
    firstParam := none
    path := "" }

/-- Where code runs that keeps its names apart from those of its module. -/
def apart (globals locals : Ref) (body : List Stmt) : Run Frame := do
  if globals = locals then moduleFrame globals
  else return { ← moduleFrame globals with
    kind := .classBody, names := Scope.blockNames [] body, space := some locals }

/-- Runs code as that of the module with a namespace. -/
def within {α : Type} (space : Ref) (x : Run α) : Run α := do
  let before := (← get).globals
  modify fun w => { w with globals := some space }
  let v ← tryCatch x fun e => do
    modify fun w => { w with globals := before }
    throw e
  modify fun w => { w with globals := before }
  return v

/-- Shows the value of an expression to the reader of a session. -/
def display (m : Machine) (v : Value) : Run Unit := do
  match v with
  | .none => return ()
  | v =>
    Run.print ((← m.shown v) ++ "\n")
    Space.set (← Builtin.space) "_" v

/-- Runs code with the given namespaces. -/
def run (m : Machine) (globals locals : Ref) (code : Runnable) : Run Value :=
  within globals do
    match code with
    | .expression e => m.eval (← apart globals locals []) e
    | .program ss interactive =>
      let fr ← apart globals locals ss
      if interactive then
        for s in ss do
          match s with
          | .expr _ e => display m (← m.eval fr e)
          | s => discard (m.block fr [s])
      else
        match openingText? ss with
        | some s => Variable.store fr "__doc__" (.str s)
        | none => pure ()
        discard (m.block fr ss)
      return .none
    | .body f =>
      let builtins ← builtinsOf globals
      m.call (← Run.new (.function { f with
        globals, builtins, scope := none, defaults := [], nameDefaults := [] })) []

/-! ### What is run -/

/-- The name of the encoding that a line says its text is in. -/
def namedEncoding? (line : List Char) : Option String :=
  match line.dropWhile fun c => c = ' ' || c = '\t' || c = '\x0c' with
  | '#' :: rest => find rest
  | _ => none
where
  isNamePart (c : Char) : Bool := c.isAlphanum || c = '-' || c = '_' || c = '.'
  find : List Char → Option String
    | [] => none
    | c :: cs =>
      match (if "coding".toList.isPrefixOf (c :: cs) then (c :: cs).drop 6 else []) with
      | mark :: rest =>
        let name := (rest.dropWhile fun c => c = ' ' || c = '\t').takeWhile isNamePart
        if (mark = ':' || mark = '=') && !name.isEmpty then some (String.ofList name) else find cs
      | [] => find cs

/-- Refuses a text that is no program. -/
def refuse {α : Type} (filename : String) (e : SyntaxFault) : Run α := do
  match e.line with
  | none => Run.raise e.className e.message
  | some line =>
    let column : Value := match e.column with
      | some n => .int n
      | none => .none
    let text : Value := match e.text with
      | some s => .str s
      | none => .none
    Run.raiseWith e.className
      [.str e.message, .tuple [.str filename, .int line, column, text, .int line, column]]

/-- The text of a program given as bytes. Its first two lines may say how it is encoded. -/
def decoded (m : Machine) (filename : String) (bs : List UInt8) : Run String := do
  let marked := [0xef, 0xbb, 0xbf].isPrefixOf bs
  let bs := if marked then bs.drop 3 else bs
  let lines := (Encoded.byteChars bs).splitOnP fun c => c = '\n' || c = '\r'
  let codec := ((lines.take 2).findSome? namedEncoding?).getD "utf-8"
  Run.handle (Encoded.decode bs codec "strict") fun e => do
    let reason ← m.text e
    if ← Kind.isA e "LookupError" then
      refuse filename { message := s!"unknown encoding: {codec}", line := some 0, column := some 0 }
    refuse filename
      { message := s!"(unicode error) {reason}", line := some 1, column := some 1,
        text := some (String.ofList (Encoded.byteChars bs)) }

/-- The text of a program. -/
def source (m : Machine) (refusal filename : String) (v : Value) : Run String := do
  let s ← match ← textArg? v with
    | some s => pure s
    | none =>
      match ← Run.bytes? (← Kind.basic v) with
      | some bs => decoded m filename bs
      | none => Run.typeError refusal
  if s.toList.contains '\x00' then Run.valueError "source code string cannot contain null bytes"
  return s

/-- Reads the text of a program: an expression, a session's statement, or statements. -/
def read (filename mode text : String) : Run Runnable := do
  let result : Except SyntaxFault Runnable := do
    match mode with
    | "eval" =>
      let e ← Grammar.readExpression text
      Check.expression e
      return .expression e
    | mode =>
      let ss ← Grammar.readProgram text
      Check.module ss
      return .program ss (mode == "single")
  match result with
  | .ok c => return c
  | .error e =>
    let ended (s : String) : String := if mode == "eval" || s.endsWith "\n" then s else s ++ "\n"
    refuse filename { e with text := e.text.map ended }

/-- The code of a value. -/
def code? (v : Value) : Run (Option Code) := do
  match ← Run.deref v with
  | some (.code c) => return some c
  | _ => return none

/-- The text of an expression without the blanks before it. -/
def unindented (s : String) : String :=
  String.ofList (s.toList.dropWhile fun c => c = ' ' || c = '\t')

/-! ### The built-in functions -/

/-- A dictionary, also one that belongs to an instance of a class of the program. -/
def dict? (v : Value) : Run (Option Ref) := do
  match ← Kind.basic v with
  | .ref r =>
    match ← Run.object? r with
    | some (.dict _) => return some r
    | _ => return none
  | _ => return none

/-- A value that answers look-ups by name. -/
def mapping? (v : Value) : Run (Option Ref) := do
  match v, ← dict? v with
  | .ref r, some d =>
    match ← Run.object? r with
    | some (.instance ..) => return some r
    | _ => return some d
  | .ref r, none =>
    return if (← Kind.special? v "__getitem__").isSome then some r else none
  | _, _ => return none

/-- The namespaces that a call names, of which those of the caller are the default. -/
def spaces (name : String) (globals : Ref) (locals : Run Value) (vs : List Value) :
    Run (Ref × Ref) := do
  let isEval := name == "eval"
  let g := (vs[1]?).getD .none
  let l := (vs[2]?).getD .none
  let refuseLocals : Run (Ref × Ref) := do
    if isEval then Run.typeError "locals must be a mapping"
    Run.typeError s!"locals must be a mapping or None, not {← Kind.name l}"
  let own ← match l with
    | .none => pure (some none)
    | l => do pure ((← mapping? l).map some)
  match g, own with
  | .none, none => refuseLocals
  | .none, some none =>
    match ← locals with
    | .ref r => return (globals, r)
    | _ => return (globals, globals)
  | .none, some (some r) => return (globals, r)
  | g, own =>
    if isEval && own.isNone then return ← refuseLocals
    match ← dict? g with
    | none =>
      if isEval then
        if (← mapping? g).isSome || (← Run.deref g).isSome then
          Run.typeError "globals must be a real dict; try eval(expr, \x7b\x7d, mapping)"
        Run.typeError "globals must be a dict"
      Run.typeError s!"exec() globals must be a dict, not {← Kind.name g}"
    | some space =>
      match own with
      | none => refuseLocals
      | some own =>
        provideBuiltins space
        return (space, own.getD ((← mapping? g).getD space))

/-- Runs a program or code, and says what an expression is worth. -/
def evaluate (m : Machine) (globals : Ref) (locals : Run Value) (a : Args) : Run Value := do
  let vs ← a.between "eval" 1 3
  let (g, l) ← spaces "eval" globals locals vs
  let v := (vs[0]?).getD .none
  match ← code? v with
  | some c =>
    match c.runs with
    | .body f =>
      if !(← Part.freeNames f).isEmpty then
        Run.typeError "code object passed to eval() may not contain free variables"
      run m g l c.runs
    | code => run m g l code
  | none =>
    let text ← source m "eval() arg 1 must be a string, bytes or code object" "<string>" v
    run m g l (← read "<string>" "eval" (unindented text))

/-- Runs a program or code. -/
def execute (m : Machine) (globals : Ref) (locals : Run Value) (a : Args) : Run Value := do
  let vs := (← (Signature.mk "exec" ["", "", ""] 1 3 ["closure"]).take a)
  let given := (vs.take 3).map fun v => v.getD .none
  let closure := ((vs[3]?).getD none).getD .none
  let (g, l) ← spaces "exec" globals locals given
  let v := (given[0]?).getD .none
  match ← code? v with
  | some c =>
    match c.runs with
    | .body f =>
      if !(← Part.freeNames f).isEmpty then
        Run.typeError "code object requires a closure of exactly length 1"
      discard (run m g l c.runs)
    | code => discard (run m g l code)
  | none =>
    match closure with
    | .none => pure ()
    | _ => Run.typeError "closure can only be used when source is a code object"
    let text ← source m "exec() arg 1 must be a string, bytes or code object" "<string>" v
    discard (run m g l (← read "<string>" "exec" text))
  return .none

/-- The names that code uses of its module. -/
def usedNames (code : Runnable) : List String :=
  let nodes := match code with
    | .expression e => [Node.expr e]
    | .program ss _ => Node.stmts ss
    | .body f => Node.stmts f.body
  (nodes.flatMap own).eraseDups
where
  own (n : Node) : List String :=
    let inner := if Part.opensFunction n then [] else n.children.attach.flatMap fun ⟨c, _⟩ => own c
    match n with
    | .expr (.name _ id _) => [id]
    | .expr (.attribute _ _ attr _) => inner ++ [attr]
    | .stmt (.function _ _ name ..) | .stmt (.cls _ name ..) => inner ++ [name]
    | _ => inner
  termination_by sizeOf n
  decreasing_by exact Node.sizeOf_lt_of_mem_children ‹_›

/-- New code. -/
def newCode (filename : String) (code : Runnable) : Run Value := do
  let parts : List (String × Value) :=
    [("co_name", .str "<module>"), ("co_qualname", .str "<module>"), ("co_argcount", .int 0),
      ("co_posonlyargcount", .int 0), ("co_kwonlyargcount", .int 0), ("co_nlocals", .int 0),
      ("co_varnames", .tuple []), ("co_cellvars", .tuple []), ("co_freevars", .tuple []),
      ("co_names", .tuple ((usedNames code).map .str)), ("co_filename", .str filename),
      ("co_flags", .int Part.inheritedFlags), ("co_firstlineno", .int 1)]
  Run.new (.code ⟨"<module>", parts, code⟩)

/-- Makes code of a text, to be run later. -/
def compile (m : Machine) (a : Args) : Run Value := do
  let params := ["source", "filename", "mode", "flags", "dont_inherit", "optimize"]
  let vs ← (Signature.mk "compile" params 3 0 ["_feature_version"]).take a
  let at? (i : Nat) : Option Value := (vs[i]?).getD none
  let path ← FilePath.pathOf m ((at? 1).getD .none)
  let mode ← match ← textArg? ((at? 2).getD .none) with
    | some s => pure s
    | none =>
      Run.typeError
        s!"compile() argument 'mode' must be str, not {← Kind.given ((at? 2).getD .none)}"
  let whole (i : Nat) (default : Int) : Run Int := do
    match at? i with
    | some v => Subscript.number m v
    | none => return default
  let flags ← whole 3 0
  match at? 4 with
  | some v => discard (Iteration.truth m v)
  | none => pure ()
  let optimize ← whole 5 (-1)
  -- the flags of the coming features, of trees, and of what may be left open
  let known : Nat := 0x1fe0000 + 0x3600 + 0x10
  if (flags.toNat ||| known) ≠ known || flags < 0 then
    Run.valueError "compile(): unrecognised flags"
  if optimize < -1 || 2 < optimize then Run.valueError "compile(): invalid optimize value"
  if !(["exec", "eval", "single"].contains mode) then
    if mode == "func_type" then
      Run.valueError "compile() mode 'func_type' requires flag PyCF_ONLY_AST"
    Run.valueError "compile() mode must be 'exec', 'eval' or 'single'"
  let v := (at? 0).getD .none
  let text ← source m "compile() arg 1 must be a string, bytes or AST object" path.text v
  match ← read path.text mode text with
  | .program ss true =>
    let lines := (ss.map fun s => s.loc.line).eraseDups
    if ss.isEmpty then
      refuse path.text
        { message := "invalid syntax", line := some 0, column := some 0, text := some "" }
    if 1 < lines.length then
      refuse path.text
        { message := "multiple statements found while compiling a single statement"
          line := some 1, column := some 2
          text := some (String.ofList ((text.toList.takeWhile (· ≠ '\n')) ++ ['\n'])) }
    newCode path.text (.program ss true)
  | code => newCode path.text code

/-- Calls a built-in function that runs programs; `none` if it is another one. -/
def call? (m : Machine) (name : String) (globals : Ref) (locals : Run Value) (a : Args) :
    Run (Option Value) := do
  match name with
  | "eval" => return some (← evaluate m globals locals a)
  | "exec" => return some (← execute m globals locals a)
  | "compile" => return some (← compile m a)
  | _ => return none

end Execution

end LiveMarkdown.Script
