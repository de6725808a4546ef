import LiveMarkdown.Text.Quoted

/-!
Bytes as text in UTF-8. Bytes that are no text say where they go wrong and how.
-/

namespace LiveMarkdown.Text

inductive DecodeReason where
  | start
  | continuation
  | unfinished
  deriving BEq, Repr, DecidableEq

/-- The bytes from `first` up to `stop` that are no text. -/
structure DecodeFault where
  first : Nat
  stop : Nat
  reason : DecodeReason
  /-- The first of the bytes. -/
  byte : UInt8
  deriving BEq, Repr

def DecodeReason.message : DecodeReason → String
  | .start => "invalid start byte"
  | .continuation => "invalid continuation byte"
  | .unfinished => "unexpected end of data"

def DecodeFault.message (f : DecodeFault) : String :=
  let place :=
    if f.stop = f.first + 1 then
      s!"byte 0x{String.ofList (hexDigits 2 f.byte.toNat)} in position {f.first}"
    else s!"bytes in position {f.first}-{f.stop - 1}"
  "'utf-8' codec can't decode " ++ place ++ ": " ++ f.reason.message

/-- How many bytes follow a first byte, its bits, and the bounds of the second byte; none if no
character begins with it. -/
def leadByte? (b : Nat) : Option (Nat × Nat × Nat × Nat) :=
  if b < 0x80 then some (0, b, 0x80, 0xBF)
  else if b < 0xC2 then none
  else if b < 0xE0 then some (1, b - 0xC0, 0x80, 0xBF)
  else if b < 0xF0 then
    some (2, b - 0xE0, if b = 0xE0 then 0xA0 else 0x80, if b = 0xED then 0x9F else 0xBF)
  else if b < 0xF5 then
    some (3, b - 0xF0, if b = 0xF0 then 0x90 else 0x80, if b = 0xF4 then 0x8F else 0xBF)
  else none

/-- Reads the bytes that go on a character. If one of them is wrong, the number of those before it;
none in its place if the bytes end. -/
def continuation (n : Nat) (code lowest highest : Nat) (read : Nat) (bs : List UInt8) :
    Except (Option Nat) (Nat × List UInt8) :=
  match n, bs with
  | 0, bs => .ok (code, bs)
  | _ + 1, [] => .error none
  | n + 1, b :: bs =>
    if b.toNat < lowest || highest < b.toNat then .error (some read)
    else continuation n (code * 64 + (b.toNat - 0x80)) 0x80 0xBF (read + 1) bs

/-- Decodes bytes that begin at a position. The fuel bounds their number. -/
def decodeFrom : Nat → Nat → List UInt8 → Except DecodeFault (List Char)
  | 0, _, _ => .ok []
  | _, _, [] => .ok []
  | fuel + 1, i, b :: bs =>
    match leadByte? b.toNat with
    | none => .error { first := i, stop := i + 1, reason := .start, byte := b }
    | some (n, code, lowest, highest) =>
      match continuation n code lowest highest 1 bs with
      | .ok (code, rest) => do return Char.ofNat code :: (← decodeFrom fuel (i + n + 1) rest)
      | .error (some read) =>
        .error { first := i, stop := i + read, reason := .continuation, byte := b }
      | .error none =>
        .error { first := i, stop := i + bs.length + 1, reason := .unfinished, byte := b }

/-- The text of bytes. -/
def decodeBytes (bs : List UInt8) : Except DecodeFault String :=
  (decodeFrom (bs.length + 1) 0 bs).map String.ofList

end LiveMarkdown.Text
