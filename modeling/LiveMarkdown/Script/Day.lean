import LiveMarkdown.Calendar
import LiveMarkdown.Script.Show

/-!
Days and moments written by patterns.
-/

namespace LiveMarkdown.Script

namespace Day

/-- A moment as its parts; a day has none beyond the day. -/
structure Parts where
  year : Nat
  month : Nat
  day : Nat
  hour : Nat := 0
  minute : Nat := 0
  second : Nat := 0
  microsecond : Nat := 0
  offset : Option Int := none

def Parts.ofMoment (t : Moment) : Parts :=
  ⟨t.year, t.month, t.day, t.hour, t.minute, t.second, t.microsecond, t.offset⟩

/-- The year and the number of the week that a day belongs to: weeks begin on Monday, and the first
one of a year holds its first Thursday. -/
def week (p : Parts) : Nat × Nat :=
  let place := Calendar.dayOfYear p.year p.month p.day
  let weekday := Calendar.weekday p.year p.month p.day
  let weeksIn (year : Nat) : Nat :=
    let first := Calendar.weekday year 1 1
    if first = 3 || (first = 2 && Calendar.isLeap year) then 53 else 52
  let n := (place + 9 - weekday) / 7
  if n = 0 then (p.year - 1, weeksIn (p.year - 1))
  else if weeksIn p.year < n then (p.year + 1, 1)
  else (p.year, n)

/-- The seconds since the year 1970 began. -/
def seconds (p : Parts) : Int :=
  ((Calendar.ordinal p.year p.month p.day : Int) - 719163) * 86400 +
    (p.hour * 3600 + p.minute * 60 + p.second : Nat)

/-- What a mark stands for: a number of at least so many digits, filled up with a sign; a text; or
what a longer pattern stands for. -/
inductive Shown where
  | number (digits : Nat) (fill : Char) (n : Int)
  | text (s : String)
  | marks (s : String)

/-- What one mark of a pattern stands for. -/
def mark? (p : Parts) (c : Char) : Option Shown :=
  let weekday := Calendar.weekday p.year p.month p.day
  let sunday := (weekday + 1) % 7
  let place := Calendar.dayOfYear p.year p.month p.day - 1
  let dayName := (Calendar.dayNames[weekday]?).getD ""
  let monthName := (Calendar.monthNames[p.month - 1]?).getD ""
  let short (s : String) : String := String.ofList (s.toList.take 3)
  let hour12 := if p.hour % 12 = 0 then 12 else p.hour % 12
  let number (digits : Nat) (n : Nat) : Option Shown := some (.number digits '0' n)
  match c with
  | 'Y' => number 1 p.year
  | 'C' => number 1 (p.year / 100)
  | 'G' => number 1 (week p).1
  | 'g' => number 2 ((week p).1 % 100)
  | 'y' => number 2 (p.year % 100)
  | 'm' => number 2 p.month
  | 'd' => number 2 p.day
  | 'e' => some (.number 2 ' ' p.day)
  | 'H' => number 2 p.hour
  | 'k' => some (.number 2 ' ' p.hour)
  | 'I' => number 2 hour12
  | 'l' => some (.number 2 ' ' hour12)
  | 'M' => number 2 p.minute
  | 'S' => number 2 p.second
  | 'j' => number 3 (place + 1)
  | 'U' => number 2 ((place + 7 - sunday) / 7)
  | 'W' => number 2 ((place + 7 - weekday) / 7)
  | 'V' => number 2 (week p).2
  | 'w' => number 1 sunday
  | 'u' => number 1 (weekday + 1)
  | 's' => some (.number 1 '0' (seconds p))
  | 'p' => some (.text (if p.hour < 12 then "AM" else "PM"))
  | 'P' => some (.text (if p.hour < 12 then "am" else "pm"))
  | 'A' => some (.text dayName)
  | 'a' => some (.text (short dayName))
  | 'B' => some (.text monthName)
  | 'b' | 'h' => some (.text (short monthName))
  | 'n' => some (.text "\n")
  | 't' => some (.text "\t")
  | '%' => some (.text "%")
  | 'z' | 'Z' => some (.text "")
  | 'F' => some (.marks "%Y-%m-%d")
  | 'T' | 'X' => some (.marks "%H:%M:%S")
  | 'D' | 'x' => some (.marks "%m/%d/%y")
  | 'R' => some (.marks "%H:%M")
  | 'r' => some (.marks "%I:%M:%S %p")
  | 'c' => some (.marks "%a %b %e %H:%M:%S %Y")
  | _ => none

/-- How a mark is written: signs before it, a width, and a letter that asks for other digits. -/
structure Manner where
  flags : List Char := []
  width : Nat := 0
  other : Option Char := none

/-- Whether a letter for other digits may stand before a mark. -/
def Manner.suits (q : Manner) (c : Char) : Bool :=
  match q.other with
  | some 'E' => "cCxXyY".toList.contains c
  | some _ => "deHkIlmMSuUVwWy".toList.contains c
  | none => true

/-- A text in the manner of its mark. -/
def Manner.apply (q : Manner) (c : Char) (s : String) : String :=
  let s := if q.flags.contains '^' || (q.flags.contains '#' && "aAbBh".toList.contains c) then
      s.toUpper
    else if q.flags.contains '#' && c == 'p' then s.toLower
    else s
  let fill := if q.flags.contains '0' then '0' else ' '
  String.ofList (List.replicate (q.width - s.length) fill) ++ s

/-- A number in the manner of its mark. -/
def Manner.number (q : Manner) (digits : Nat) (fill : Char) (n : Int) : String :=
  let s := toString n.natAbs
  let sign := if n < 0 then "-" else ""
  match q.flags.find? fun f => f == '-' || f == '_' || f == '0' with
  | some '-' => sign ++ s
  | f =>
    let fill := match f with
      | some '_' => ' '
      | some '0' => '0'
      | _ => fill
    let missing := String.ofList (List.replicate (max digits q.width - (s.length + sign.length)) fill)
    if fill == '0' then sign ++ missing ++ s else missing ++ sign ++ s

/-- The manner at the start of a pattern after its percent sign, and what follows. -/
def manner (cs : List Char) : Manner × List Char :=
  let flags := cs.takeWhile fun c => "_-0^#".toList.contains c
  let rest := cs.drop flags.length
  let digits := rest.takeWhile Char.isDigit
  let rest := rest.drop digits.length
  let q : Manner := { flags := flags.reverse, width := ((String.ofList digits).toNat?).getD 0 }
  match rest with
  | 'E' :: rest => ({ q with other := some 'E' }, rest)
  | 'O' :: rest => ({ q with other := some 'O' }, rest)
  | rest => (q, rest)

/-- A moment written by a pattern. The fuel bounds how patterns stand for longer ones. -/
def patternWith (p : Parts) : Nat → List Char → String
  | 0, cs => String.ofList cs
  | _, [] => ""
  | fuel + 1, '%' :: 'f' :: cs => Show.padded 6 p.microsecond ++ patternWith p fuel cs
  | fuel + 1, '%' :: 'z' :: cs =>
    (match p.offset with
      | some o => (Show.offset o).replace ":" ""
      | none => "") ++ patternWith p fuel cs
  | fuel + 1, '%' :: 'Z' :: cs =>
    (match p.offset with
      | some 0 => "UTC"
      | some o => "UTC" ++ Show.offset o
      | none => "") ++ patternWith p fuel cs
  | fuel + 1, '%' :: cs =>
    let (q, rest) := manner cs
    match rest with
    | [] => String.ofList (List.replicate (q.width - (cs.length + 1)) ' ' ++ '%' :: cs)
    | c :: after =>
      let raw := String.ofList ('%' :: cs.take (cs.length - after.length))
      let made := match (mark? p c).filter fun _ => q.suits c with
        | some (.number digits fill n) => q.number digits fill n
        | some (.text s) => q.apply c s
        | some (.marks s) => q.apply c (patternWith p fuel s.toList)
        | none => raw
      made ++ patternWith p fuel after
  | fuel + 1, c :: cs => c.toString ++ patternWith p fuel cs

/-- A moment written by a pattern. -/
def pattern (p : Parts) (cs : List Char) : String := patternWith p (cs.length + 32) cs

end Day

end LiveMarkdown.Script
