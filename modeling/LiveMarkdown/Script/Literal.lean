import LiveMarkdown.Number.Total
import LiveMarkdown.Script.Convert
import LiveMarkdown.Text.Quoted

/-!
The values that numbers and quoted texts in programs stand for.
-/

namespace LiveMarkdown.Script

/-- Why a quoted text has no value. Positions count the characters that the escapes are read from. -/
inductive LiteralFault where
  | escape (start stop : Nat) (reason : String)
  | byteEscape (position : Nat)
deriving DecidableEq, Repr

def LiteralFault.message : LiteralFault → String
  | .escape start stop reason =>
    s!"(unicode error) 'unicodeescape' codec can't decode bytes in position {start}-{stop - 1}: {reason}"
  | .byteEscape position => s!"(value error) invalid \\x escape at position {position}"

namespace Literal

/-! ### Numbers -/

/-- The most digits that a decimal number may have. -/
def digitLimit : Nat := 4300

/-- The number that a text of digits stands for in a base. -/
def ofDigits (base : Nat) (cs : List Char) : Nat :=
  cs.foldl (fun n c => n * base + (Convert.digit? c).getD 0) 0

/-- The value of a number without underscores. -/
def number (cs : List Char) : Constant :=
  match cs with
  | '0' :: 'x' :: ds | '0' :: 'X' :: ds => .int (ofDigits 16 ds)
  | '0' :: 'o' :: ds | '0' :: 'O' :: ds => .int (ofDigits 8 ds)
  | '0' :: 'b' :: ds | '0' :: 'B' :: ds => .int (ofDigits 2 ds)
  | cs =>
    let real (cs : List Char) : Float := (Convert.floatOfText? (String.ofList cs)).getD 0
    match cs.getLast? with
    | some 'j' | some 'J' => .complex 0 (real cs.dropLast)
    | _ =>
      if cs.any fun c => c == '.' || c == 'e' || c == 'E' then .float (real cs)
      else .int (ofDigits 10 cs)

/-- The value of a number token. -/
def ofNumber (text : String) : Constant := number (text.toList.filter (· ≠ '_'))

/-- The number of digits of a decimal number that has too many. -/
def tooLong? (text : String) : Option Nat :=
  let cs := text.toList.filter (· ≠ '_')
  if digitLimit < cs.length && cs.all fun c => '0' ≤ c && c ≤ '9' then some cs.length else none

/-! ### Quoted texts -/

/-- The width of a character in the count of positions. -/
def width (c : Char) : Nat := if c.toNat < 128 then 1 else 10

/-- The text that a text with escapes stands for. The fuel bounds its length. -/
def unescape : Nat → Nat → List Char → Except LiteralFault (List Char)
  | 0, _, _ => .ok []
  | _, _, [] => .ok []
  | _, _, ['\\'] => .ok ['\\']
  | fuel + 1, at_, '\\' :: cs => do
    let ⟨result, size⟩ := Text.Escaped.step cs
    -- a backslash that begins no escape is an escape itself if no ASCII follows
    let own := if (cs.headD 'a').toNat < 128 then 1 else 6
    let stop := at_ + own + Number.total ((cs.take size).map width)
    match result with
    | .ok ds => return ds ++ (← unescape fuel stop (cs.drop size))
    | .error reason => throw (.escape at_ stop reason)
  | fuel + 1, at_, c :: cs => do return c :: (← unescape fuel (at_ + width c) cs)

/-- The value of a text between quotes. -/
def text (raw : Bool) (cs : List Char) : Except LiteralFault String := do
  if raw then return String.ofList cs
  return String.ofList (← unescape (cs.length + 1) 0 cs)

/-- The bytes that a text with escapes stands for. -/
def unescapeBytes : Nat → Nat → List Char → Except LiteralFault (List UInt8)
  | 0, _, _ => .ok []
  | _, _, [] => .ok []
  | fuel + 1, at_, '\\' :: c :: cs => do
    match Text.Escaped.letter? c with
    | some d => return UInt8.ofNat d.toNat :: (← unescapeBytes fuel (at_ + 2) cs)
    | none =>
      if c == '\n' then return ← unescapeBytes fuel (at_ + 2) cs
      else if c == 'x' then
        if Text.Escaped.hexCount 2 cs < 2 then throw (.byteEscape at_)
        return UInt8.ofNat (ofDigits 16 (cs.take 2)) :: (← unescapeBytes fuel (at_ + 4) (cs.drop 2))
      else if Text.Escaped.isOctal c then
        let ds := c :: ((cs.take 2).takeWhile Text.Escaped.isOctal)
        return UInt8.ofNat (ofDigits 8 ds) ::
          (← unescapeBytes fuel (at_ + 1 + ds.length) (cs.drop (ds.length - 1)))
      else return 92 :: UInt8.ofNat c.toNat :: (← unescapeBytes fuel (at_ + 2) cs)
  | fuel + 1, at_, c :: cs => do
    return UInt8.ofNat c.toNat :: (← unescapeBytes fuel (at_ + 1) cs)

def bytes (raw : Bool) (cs : List Char) : Except LiteralFault (List UInt8) :=
  if raw then .ok (cs.map fun c => UInt8.ofNat c.toNat) else unescapeBytes (cs.length + 1) 0 cs

/-- A quoted text taken apart: the letters before the quotes, and what is between these. -/
structure Quoted where
  raw : Bool
  isBytes : Bool
  isTemplate : Bool
  /-- The number of characters before the body. -/
  offset : Nat
  body : List Char

def quoted (text : String) : Quoted :=
  let cs := text.toList
  let letters := (cs.takeWhile fun c => c != '"' && c != '\'').map Char.toLower
  let rest := cs.drop letters.length
  let size := match rest with
    | a :: b :: c :: _ => if a = b && b = c && 6 ≤ rest.length then 3 else 1
    | _ => 1
  { raw := letters.contains 'r'
    isBytes := letters.contains 'b'
    isTemplate := letters.contains 'f'
    offset := letters.length + size
    body := (rest.drop size).take (rest.length - 2 * size) }

end Literal

end LiveMarkdown.Script
