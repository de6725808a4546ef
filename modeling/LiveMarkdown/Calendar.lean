import LiveMarkdown.Number.Total

/-!
Days of the calendar that counts leap years by fours, hundreds and four hundreds, also before it was
in use.
-/

namespace LiveMarkdown.Calendar

def isLeap (year : Nat) : Bool := year % 4 = 0 && (year % 100 ≠ 0 || year % 400 = 0)

def daysInMonth (year month : Nat) : Nat :=
  if month = 2 then (if isLeap year then 29 else 28)
  else if month = 4 ∨ month = 6 ∨ month = 9 ∨ month = 11 then 30
  else 31

/-- The days of a year before a month begins. -/
def daysBefore (year month : Nat) : Nat :=
  Number.total ((List.range (month - 1)).map fun i => daysInMonth year (i + 1))

/-- The place of a day in its year, from one on. -/
def dayOfYear (year month day : Nat) : Nat := daysBefore year month + day

/-- The number of a day; the first day of the year 1 has the number 1. -/
def ordinal (year month day : Nat) : Nat :=
  let y := year - 1
  y * 365 + y / 4 - y / 100 + y / 400 + dayOfYear year month day

/-- The day of the week; Monday is zero. -/
def weekday (year month day : Nat) : Nat := (ordinal year month day + 6) % 7

def monthNames : List String :=
  ["January", "February", "March", "April", "May", "June", "July", "August", "September",
    "October", "November", "December"]

def dayNames : List String :=
  ["Monday", "Tuesday", "Wednesday", "Thursday", "Friday", "Saturday", "Sunday"]

theorem weekday_lt (year month day : Nat) : weekday year month day < 7 :=
  Nat.mod_lt _ (by decide)

end LiveMarkdown.Calendar
