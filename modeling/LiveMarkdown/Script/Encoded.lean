import LiveMarkdown.Script.Method.Argument
import LiveMarkdown.Text.Encoding
import LiveMarkdown.Text.Identifier

/-!
Text as bytes and bytes as text, in an encoding known by its name and with a rule, also known by its
name, for what the encoding has nothing for.
-/

namespace LiveMarkdown.Script

namespace Encoded

/-- A character as an escape. -/
def escape (c : Char) : List Char :=
  let n := Text.point c
  if n < 0x100 then ['\\', 'x'] ++ Text.hexDigits 2 n
  else if n < 0x10000 then ['\\', 'u'] ++ Text.hexDigits 4 n
  else ['\\', 'U'] ++ Text.hexDigits 8 n

/-- The rules by name. -/
def rules : List String :=
  ["strict", "ignore", "replace", "xmlcharrefreplace", "backslashreplace", "namereplace",
    "surrogateescape", "surrogatepass"]

/-- What a rule writes in the place of characters. -/
def fillText (rule : String) (cs : List Char) : Option (List Char) :=
  match rule with
  | "ignore" => some []
  | "replace" => some (cs.map fun _ => '?')
  | "xmlcharrefreplace" => some (cs.flatMap fun c => s!"&#{Text.point c};".toList)
  | "backslashreplace" => some (cs.flatMap escape)
  | "namereplace" =>
    some (cs.flatMap fun c =>
      match Text.CharacterName.of? c with
      | some n => ['\\', 'N', '\x7b'] ++ n.toList ++ ['\x7d']
      | none => escape c)
  | _ => none

/-- The bytes that a rule writes in the place of characters. Two rules write halves of pairs: as if they
were characters, or as the bytes that they stand for. -/
def fillChars (e : Text.Encoding) (rule : String) (cs : List Char) : Option (List UInt8) :=
  match rule with
  | "surrogatepass" => (cs.mapM fun c => if Text.isHalf c then e.half? c else none).map List.flatten
  | "surrogateescape" =>
    cs.mapM fun c =>
      let n := Text.point c
      if 0xdc80 ≤ n && n ≤ 0xdcff then some (UInt8.ofNat (n - 0xdc00)) else none
  | rule => (fillText rule cs).map fun t => t.flatMap fun d => (e.unit? d).getD []

/-- What a rule reads in the place of bytes. -/
def fillBytes (rule : String) (bs : List UInt8) : Option (List Char) :=
  match rule with
  | "surrogateescape" =>
    if bs.all (128 ≤ ·) then some (bs.map fun b => Text.ofPoint (0xdc00 + b.toNat)) else none
  | "ignore" => some []
  | "replace" => some ['\ufffd']
  | "backslashreplace" => some (bs.flatMap fun b => escape (Char.ofNat b.toNat))
  | _ => none

/-- The encoding with a name. -/
def encoding (verb codec : String) : Run Text.Encoding := do
  if codec.toList.contains '\x00' then Run.valueError "embedded null character"
  match Text.Encoding.ofName? codec with
  | some e => return e
  | none =>
    if Text.Encoding.otherNames.contains (Text.Encoding.normalName codec) then
      Run.raise "LookupError" (s!"'{codec}' is not a text encoding; use codecs.{verb}() to handle " ++
        "arbitrary codecs")
    Run.raise "LookupError" s!"unknown encoding: {codec}"

/-- Refuses a rule that is not known, in the words of the encoding that needs it. -/
def checkRule (verb codec : String) (e : Text.Encoding) (rule : String) : Run Unit := do
  if rules.contains rule then return ()
  let text := s!"unknown error handler name '{rule}'"
  match e with
  | .page _ | .utf8 true =>
    Run.raise "LookupError" s!"{verb} with '{codec}' codec failed (LookupError: {text})"
  | _ => Run.raise "LookupError" text

/-- The bytes of a text. -/
def encode (s codec rule : String) : Run (List UInt8) := do
  let e ← encoding "encode" codec
  match e.encode (fillChars e rule) s with
  | .ok bs => return bs
  | .error f =>
    checkRule "encoding" codec e rule
    Run.raiseWith "UnicodeEncodeError"
      [.str e.title, .str s, .int f.first, .int f.stop, .str f.reason]

/-- The text of bytes. Without bytes the encoding is not looked up. -/
def decode (bs : List UInt8) (codec rule : String) : Run String := do
  if bs.isEmpty && !codec.toList.contains '\x00' then return ""
  let e ← encoding "decode" codec
  let bs := if e.mark.length = 3 && e.mark.isPrefixOf bs then bs.drop 3 else bs
  match e.decode (fillBytes rule) bs with
  | .ok s => return s
  | .error f =>
    checkRule "decoding" codec e rule
    if rule == "xmlcharrefreplace" || rule == "namereplace" then
      let text := "don't know how to handle UnicodeDecodeError in error callback"
      match e with
      | .page _ | .utf8 true =>
        Run.typeError s!"decoding with '{codec}' codec failed (TypeError: {text})"
      | _ => Run.typeError text
    Run.raiseWith "UnicodeDecodeError"
      [.str (e.settle bs).1.title, .bytes bs, .int f.first, .int f.stop, .str f.reason]

/-- The text of bytes in UTF-8. -/
def decode8 (bs : List UInt8) : Run String := decode bs "utf-8" "strict"

/-- A text with one character for each byte. -/
def byteChars (bs : List UInt8) : List Char := bs.map fun b => Char.ofNat b.toNat

/-- The bytes of characters that stand for one byte each. -/
def charBytes (cs : List Char) : List UInt8 := cs.map fun c => UInt8.ofNat c.toNat

/-- A text argument of a function, known by its name or its place. -/
def textArgument (func place : String) (v : Value) : Run String := do
  match ← textArg? v with
  | some s => return s
  | none => Run.typeError s!"{func}() argument {place} must be str, not {← Kind.given v}"

/-- The names of the encoding and of the rule among the arguments of a function. -/
def names (func : String) (codec rule : Option Value) : Run (String × String) := do
  let codec ← match codec with
    | some v => textArgument func "'encoding'" v
    | none => pure "utf-8"
  let rule ← match rule with
    | some v => textArgument func "'errors'" v
    | none => pure "strict"
  return (codec, rule)

end Encoded

end LiveMarkdown.Script
