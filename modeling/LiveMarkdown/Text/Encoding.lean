import LiveMarkdown.Text.Blank
import LiveMarkdown.Text.CodePage
import LiveMarkdown.Text.Quoted
import LiveMarkdown.Text.Unicode

/-!
Encodings of text by name: what bytes they write for a character, and what they read from bytes.
Characters and bytes that an encoding has nothing for are refused, or filled in by the caller.
-/

namespace LiveMarkdown.Text

/-- The order of the bytes of a number. -/
inductive ByteOrder where
  | little
  | big
deriving DecidableEq, Repr

inductive Encoding where
  /-- UTF-8, perhaps with a mark in front. -/
  | utf8 (marked : Bool)
  /-- Units of two bytes. Without an order a mark in front tells it. -/
  | utf16 (order : Option ByteOrder)
  | utf32 (order : Option ByteOrder)
  | ascii
  | latin
  | page (runs : Runs)
  /-- ASCII with escapes for all other characters. -/
  | escaped

/-- A place where an encoding has nothing for characters or bytes, and why. -/
structure Refusal where
  first : Nat
  stop : Nat
  reason : String

namespace Encoding

/-! ### Names -/

/-- A name in the form in which names are looked up: lower case, with one underscore for all that
is neither a letter, a digit nor a point. -/
def normalName (s : String) : String :=
  let keeps (c : Char) : Bool := c.isAlphanum || c == '.' || 128 ≤ c.toNat
  let words := (pieces (fun c => !keeps c) s.toList).map fun w => w.filter fun c => c.toNat < 128
  String.ofList ((['_'].intercalate words).map Char.toLower)

def simpleNames : List (String × Encoding) :=
  [("utf_8 utf8 u8 utf utf8_ucs2 utf8_ucs4 cp65001", .utf8 false),
    ("utf_8_sig", .utf8 true),
    ("utf_16 utf16 u16", .utf16 none),
    ("utf_16_le utf_16le unicodelittleunmarked", .utf16 (some .little)),
    ("utf_16_be utf_16be unicodebigunmarked", .utf16 (some .big)),
    ("utf_32 utf32 u32", .utf32 none),
    ("utf_32_le utf_32le", .utf32 (some .little)),
    ("utf_32_be utf_32be", .utf32 (some .big)),
    ("ascii 646 ansi_x3.4_1968 ansi_x3_4_1968 ansi_x3.4_1986 cp367 csascii ibm367 iso646_us " ++
      "iso_646.irv_1991 iso_ir_6 us us_ascii", .ascii),
    ("latin_1 8859 cp819 csisolatin1 ibm819 iso8859 iso8859_1 iso_8859_1 iso_8859_1_1987 " ++
      "iso_ir_100 l1 latin latin1", .latin),
    ("unicode_escape unicodeescape", .escaped)]

/-- Names of encodings of bytes as other bytes, which do not encode text. -/
def otherNames : List String :=
  ["rot13", "rot_13", "hex", "hex_codec", "base64", "base_64", "base64_codec", "bz2", "bz2_codec",
    "zlib", "zip", "zlib_codec", "uu", "uu_codec", "quopri", "quopri_codec", "quoted_printable",
    "quotedprintable"]

def ofName? (s : String) : Option Encoding :=
  let name := normalName s
  let isNamed (w : String) : Bool := w == name || w == name.replace "." "_"
  match simpleNames.find? fun e => (e.1.splitOn " ").any isNamed with
  | some (_, e) => some e
  | none => (CodePage.all.find? fun p => p.names.any isNamed).map fun p => .page p.runs

/-- The name that an encoding gives itself in messages. -/
def title : Encoding → String
  | .utf8 _ => "utf-8"
  | .utf16 none => "utf-16"
  | .utf16 (some .little) => "utf-16-le"
  | .utf16 (some .big) => "utf-16-be"
  | .utf32 none => "utf-32"
  | .utf32 (some .little) => "utf-32-le"
  | .utf32 (some .big) => "utf-32-be"
  | .ascii => "ascii"
  | .latin => "latin-1"
  | .page _ => "charmap"
  | .escaped => "unicodeescape"

/-! ### Writing -/

/-- A number in a fixed number of bytes. -/
def bytesOf (order : Option ByteOrder) (size n : Nat) : List UInt8 :=
  let little := (List.range size).map fun (i : Nat) => UInt8.ofNat (n / Nat.pow 256 i)
  if order = some .big then little.reverse else little

/-- Whether an encoding writes escapes. -/
def isEscaped : Encoding → Bool
  | .escaped => true
  | _ => false

/-- The bytes of a half of a pair where it is written as if it were a character. -/
def half? (e : Encoding) (c : Char) : Option (List UInt8) :=
  let n := point c
  match e with
  | .utf8 _ =>
    some [UInt8.ofNat (0xe0 + n / 4096), UInt8.ofNat (0x80 + n / 64 % 64), UInt8.ofNat (0x80 + n % 64)]
  | .utf16 order => some (bytesOf order 2 n)
  | .utf32 order => some (bytesOf order 4 n)
  | _ => none

/-- The bytes of a character, if it has any. -/
def unit? (e : Encoding) (c : Char) : Option (List UInt8) :=
  let n := point c
  if isHalf c && !e.isEscaped then none
  else
  match e with
  | .utf8 _ => some (String.toUTF8 c.toString).toList
  | .utf16 order =>
    if n < 0x10000 then some (bytesOf order 2 n)
    else
      let k := n - 0x10000
      some (bytesOf order 2 (0xd800 + k / 1024) ++ bytesOf order 2 (0xdc00 + k % 1024))
  | .utf32 order => some (bytesOf order 4 n)
  | .ascii => if n < 128 then some [UInt8.ofNat n] else none
  | .latin => if n < 256 then some [UInt8.ofNat n] else none
  | .page runs => (CodePage.byte? runs c).map fun b => [b]
  | .escaped =>
    let cs :=
      if c == '\\' then ['\\', '\\']
      else if c == '\t' then ['\\', 't']
      else if c == '\n' then ['\\', 'n']
      else if c == '\r' then ['\\', 'r']
      else if 32 ≤ n && n < 127 then [c]
      else if n < 0x100 then ['\\', 'x'] ++ hexDigits 2 n
      else if n < 0x10000 then ['\\', 'u'] ++ hexDigits 4 n
      else ['\\', 'U'] ++ hexDigits 8 n
    some (cs.map fun c => UInt8.ofNat c.toNat)

/-- The bytes in front of all others. -/
def mark : Encoding → List UInt8
  | .utf8 true => [0xef, 0xbb, 0xbf]
  | .utf16 none => [0xff, 0xfe]
  | .utf32 none => [0xff, 0xfe, 0, 0]
  | _ => []

def refusalReason : Encoding → String
  | .ascii => "ordinal not in range(128)"
  | .latin => "ordinal not in range(256)"
  | .utf8 _ | .utf16 _ | .utf32 _ => "surrogates not allowed"
  | _ => "character maps to <undefined>"

/-- The bytes of a text from a position on. `fill` gives bytes in the place of a run of characters
that have none. The fuel bounds the length of the text. -/
def encodeFrom (e : Encoding) (fill : List Char → Option (List UInt8)) :
    Nat → Nat → List Char → Except Refusal (List UInt8)
  | 0, _, _ => .ok []
  | _, _, [] => .ok []
  | fuel + 1, i, c :: cs => do
    match e.unit? c with
    | some bs => return bs ++ (← encodeFrom e fill fuel (i + 1) cs)
    | none =>
      let run := c :: cs.takeWhile fun d => (e.unit? d).isNone
      let stop := i + run.length
      match fill run with
      | some bs =>
        return bs ++ (← encodeFrom e fill fuel stop (cs.drop (run.length - 1)))
      | none => throw ⟨i, stop, e.refusalReason⟩

/-- The bytes of a text. -/
def encode (e : Encoding) (fill : List Char → Option (List UInt8)) (s : String) :
    Except Refusal (List UInt8) := do
  return e.mark ++ (← e.encodeFrom fill (s.length + 1) 0 s.toList)

/-! ### Reading -/

/-- What the first bytes are read as: the characters, or why they are none; and their number. -/
structure Step where
  result : Except String (List Char)
  size : Nat

def number (order : Option ByteOrder) (bs : List UInt8) : Nat :=
  (if order = some .big then bs else bs.reverse).foldl (fun n b => n * 256 + b.toNat) 0

def step8 (b : UInt8) (bs : List UInt8) : Step :=
  match leadByte? b.toNat with
  | none => ⟨.error "invalid start byte", 1⟩
  | some (n, code, lowest, highest) =>
    match continuation n code lowest highest 1 bs with
    | .ok (code, _) => ⟨.ok [Char.ofNat code], n + 1⟩
    | .error (some read) => ⟨.error "invalid continuation byte", read⟩
    | .error none => ⟨.error "unexpected end of data", bs.length + 1⟩

def step16 (order : Option ByteOrder) (bs : List UInt8) : Step :=
  if bs.length < 2 then ⟨.error "truncated data", bs.length⟩
  else
    let n := number order (bs.take 2)
    if n < 0xd800 || 0xdfff < n then ⟨.ok [Char.ofNat n], 2⟩
    else if 0xdc00 ≤ n then ⟨.error "illegal encoding", 2⟩
    else if bs.length < 4 then ⟨.error "unexpected end of data", bs.length⟩
    else
      let k := number order ((bs.drop 2).take 2)
      if 0xdc00 ≤ k && k ≤ 0xdfff then
        ⟨.ok [Char.ofNat (0x10000 + (n - 0xd800) * 1024 + (k - 0xdc00))], 4⟩
      else ⟨.error "illegal UTF-16 surrogate", 2⟩

def step32 (order : Option ByteOrder) (bs : List UInt8) : Step :=
  if bs.length < 4 then ⟨.error "truncated data", bs.length⟩
  else
    let n := number order (bs.take 4)
    if 0x10ffff < n then ⟨.error "code point not in range(0x110000)", 4⟩
    else if 0xd800 ≤ n && n ≤ 0xdfff then
      ⟨.error "code point in surrogate code point range(0xd800, 0xe000)", 4⟩
    else ⟨.ok [Char.ofNat n], 4⟩

/-- Reads the first bytes of a list. -/
def step (e : Encoding) (b : UInt8) (bs : List UInt8) : Step :=
  let same : Step := ⟨.ok [Char.ofNat b.toNat], 1⟩
  match e with
  | .utf8 _ => step8 b bs
  | .utf16 order => step16 order (b :: bs)
  | .utf32 order => step32 order (b :: bs)
  | .ascii => if b < 128 then same else ⟨.error "ordinal not in range(128)", 1⟩
  | .latin => same
  | .page runs =>
    match CodePage.char? runs b with
    | some c => ⟨.ok [c], 1⟩
    | none => ⟨.error "character maps to <undefined>", 1⟩
  | .escaped =>
    if b = 92 then
      let s := Escaped.step (bs.map fun b => Char.ofNat b.toNat)
      ⟨s.result, s.size + 1⟩
    else same

/-- The text of bytes from a position on. `fill` gives a text in the place of bytes that are none.
The fuel bounds the number of bytes. -/
def decodeFrom (e : Encoding) (fill : List UInt8 → Option (List Char)) :
    Nat → Nat → List UInt8 → Except Refusal (List Char)
  | 0, _, _ => .ok []
  | _, _, [] => .ok []
  | fuel + 1, i, b :: bs => do
    let ⟨result, size⟩ := e.step b bs
    let stop := i + size
    let rest := (b :: bs).drop size
    match result with
    | .ok cs => return cs ++ (← decodeFrom e fill fuel stop rest)
    | .error reason =>
      match fill ((b :: bs).take size) with
      | some cs => return cs ++ (← decodeFrom e fill fuel stop rest)
      | none => throw ⟨i, stop, reason⟩

/-- The encoding of bytes without an order, as their mark tells it, and the size of the mark. -/
def settle (e : Encoding) (bs : List UInt8) : Encoding × Nat :=
  match e with
  | .utf16 none =>
    if [0xff, 0xfe].isPrefixOf bs then (.utf16 (some .little), 2)
    else if [0xfe, 0xff].isPrefixOf bs then (.utf16 (some .big), 2)
    else (.utf16 (some .little), 0)
  | .utf32 none =>
    if [0xff, 0xfe, 0, 0].isPrefixOf bs then (.utf32 (some .little), 4)
    else if [0, 0, 0xfe, 0xff].isPrefixOf bs then (.utf32 (some .big), 4)
    else (.utf32 (some .little), 0)
  | e => (e, 0)

/-- The text of bytes; a mark in front is not a part of it. -/
def decode (e : Encoding) (fill : List UInt8 → Option (List Char)) (bs : List UInt8) :
    Except Refusal String :=
  let (e, skipped) := e.settle bs
  (e.decodeFrom fill (bs.length + 1) skipped (bs.drop skipped)).map String.ofList

end Encoding

end LiveMarkdown.Text
