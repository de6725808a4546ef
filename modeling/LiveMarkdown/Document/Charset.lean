import LiveMarkdown.Text.Blank
import LiveMarkdown.Text.Encoding
import LiveMarkdown.Text.Search

/-!
The character set of a document that is given as bytes: a mark in front tells it, or the document
declares it at its beginning; else it is one of two that are tried.
-/

namespace LiveMarkdown.Document

namespace Charset

/-- The character set that a mark in front tells, and the size of the mark. -/
def mark? (bs : List UInt8) : Option (String × Nat) :=
  let wide := 4 ≤ bs.length && (bs.drop 2).take 2 != [0, 0]
  if wide && [0xfe, 0xff].isPrefixOf bs then some ("utf-16be", 2)
  else if wide && [0xff, 0xfe].isPrefixOf bs then some ("utf-16le", 2)
  else if [0xef, 0xbb, 0xbf].isPrefixOf bs then some ("utf-8", 3)
  else if [0, 0, 0xfe, 0xff].isPrefixOf bs then some ("utf-32be", 4)
  else if [0xff, 0xfe, 0, 0].isPrefixOf bs then some ("utf-32le", 4)
  else none

def isQuote (c : Char) : Bool := c == '\x22' || c == '\x27'

/-- What follows a word, in either case, at the beginning of a text. -/
def after? (word : String) (cs : List Char) : Option (List Char) :=
  if ((cs.take word.length).map Char.toLower) == word.toList then some (cs.drop word.length) else none

/-- All ends of a text, the longest first. -/
def ends : List Char → List (List Char)
  | [] => [[]]
  | c :: cs => (c :: cs) :: ends cs

/-- The character set in a declaration at the beginning. -/
def inDeclaration? (cs : List Char) : Option (List Char) :=
  match cs.dropWhile Text.isBlank with
  | '<' :: '?' :: rest =>
    (ends (rest.takeWhile (· ≠ '\n'))).reverse.findSome? fun t =>
      match after? "encoding=" t with
      | some (q :: v) =>
        let value := v.takeWhile fun c => !isQuote c
        let behind := v.drop (value.length + 1)
        if isQuote q && value.length < v.length &&
            (Text.findFrom ['?', '>'] behind 0).isSome then some value else none
      | _ => none
  | _ => none

/-- What follows `charset=` up to the end of the value. `closed` says whether the element ends behind the
text. -/
def setting? (closed : Bool) (cs : List Char) : Option (List Char) :=
  match (after? "charset" cs).map (·.dropWhile Text.isBlank) with
  | some ('=' :: rest) =>
    let rest := rest.dropWhile Text.isBlank
    let rest := match rest with
      | c :: more => if isQuote c then more else rest
      | [] => rest
    let value := rest.takeWhile fun c => !(isQuote c || c == ' ' || c == '/' || c == ';')
    if value.length < rest.length || closed then some value else none
  | _ => none

/-- The character set that the first element of its kind names. -/
def inElement? (cs : List Char) : Option (List Char) :=
  (ends cs).findSome? fun
    | '<' :: rest =>
      match after? "meta" (rest.dropWhile Text.isBlank) with
      | some body =>
        let inside := body.takeWhile (· ≠ '>')
        (ends (inside.drop 1)).reverse.findSome? (setting? (inside.length < body.length))
      | none => none
    | _ => none

/-- The character set that a document declares at its beginning. -/
def declared? (bs : List UInt8) : Option String :=
  let chars (n : Nat) : List Char := (bs.take n).map fun b => Char.ofNat b.toNat
  let found := (inDeclaration? (chars 1024)).orElse fun _ =>
    inElement? (chars (max 2048 (bs.length / 20)))
  match found with
  | some (c :: cs) => some (String.ofList ((c :: cs).map Char.toLower))
  | _ => none

/-- The character set that a name stands for in documents. -/
def ofName? (name : String) : Option Text.Encoding :=
  let name := match name with
    | "macintosh" => "mac-roman"
    | "x-sjis" => "shift-jis"
    | name => name
  [name, name.replace "-" "", name.replace "-" "_"].findSome? Text.Encoding.ofName?

/-- The text of a document that is given as bytes. If no character set fits, what does not fit is
replaced. -/
def decode (bs : List UInt8) : String :=
  let mark := mark? bs
  let body := bs.drop ((mark.map (·.2)).getD 0)
  let names := (mark.map (·.1)).toList ++ (declared? body).toList ++ ["utf-8", "windows-1252"]
  let read (fill : List UInt8 → Option (List Char)) (name : String) : Option String :=
    match ofName? name with
    | some e => (e.decode fill body).toOption
    | none => none
  let exact := names.findSome? (read fun _ => none)
  let replaced := (names.filter (· ≠ "ascii")).findSome? (read fun _ => some ['\ufffd'])
  (exact.orElse fun _ => replaced).getD ""

end Charset

end LiveMarkdown.Document
