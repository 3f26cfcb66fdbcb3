import P4Control.Toml.Number

namespace P4Control.Toml

/-!
# Dates and times

A moment is a date, a time of day, or a date with a time of day and perhaps an offset.  Its
parts have fixed widths and have to exist in the calendar.

* `readDate`, `readTime`, `readOffset` — the parts, `readMoment` — the whole.
-/

/-- Reads exactly `width` decimal digits. -/
def readFixed (width : Nat) (s : List Char) : Option (Nat × List Char) :=
  let digits := s.take width
  if digits.length = width ∧ digits.all isDigit then some (digitsValue 10 digits, s.drop width)
  else none

/-- Reads two digits whose value is in the given range. -/
def readPair (lo hi : Nat) (s : List Char) : Option (Nat × List Char) := do
  let (n, r) ← readFixed 2 s
  if lo ≤ n ∧ n ≤ hi then some (n, r) else none

/-- Reads the given character. -/
def expect (c : Char) : List Char → Option (List Char)
  | d :: r => if d = c then some r else none
  | [] => none

/-- Whether a year has a 29th of February. -/
def isLeap (year : Nat) : Bool := year % 4 = 0 && (year % 100 ≠ 0 || year % 400 = 0)

/-- The number of days of a month. -/
def daysIn (year month : Nat) : Nat :=
  if month = 2 then (if isLeap year then 29 else 28)
  else if month = 4 ∨ month = 6 ∨ month = 9 ∨ month = 11 then 30
  else 31

/-- Reads a date: year, month and day with dashes between them. -/
def readDate (s : List Char) : Option (List Char) := do
  let (year, r) ← readFixed 4 s
  let r ← expect '-' r
  let (month, r) ← readPair 1 12 r
  let r ← expect '-' r
  let (_, r) ← readPair 1 (daysIn year month) r
  some r

/-- Drops the fraction of a second, when there is one. -/
def dropFraction : List Char → List Char
  | '.' :: c :: r => if isDigit c then r.dropWhile isDigit else '.' :: c :: r
  | r => r

/-- Reads a time of day; a minute may have a leap second. -/
def readTime (s : List Char) : Option (List Char) := do
  let (_, r) ← readPair 0 23 s
  let r ← expect ':' r
  let (_, r) ← readPair 0 59 r
  let r ← expect ':' r
  let (_, r) ← readPair 0 60 r
  some (dropFraction r)

/-- Reads the distance from universal time. -/
def readOffset : List Char → Option (List Char)
  | c :: r =>
    if c = 'Z' ∨ c = 'z' then some r
    else if c = '+' ∨ c = '-' then do
      let (_, r) ← readPair 0 23 r
      let r ← expect ':' r
      let (_, r) ← readPair 0 59 r
      some r
    else none
  | [] => none

/-- Reads the time of day that may follow a date, and its offset. -/
def readTimeAfterDate : List Char → Option (List Char)
  | c :: r =>
    if c = 'T' ∨ c = 't' ∨ c = ' ' then do
      let r ← readTime r
      some ((readOffset r).getD r)
    else none
  | [] => none

/-- Reads a date, a time of day or both. -/
def readMoment (s : List Char) : Option (List Char) :=
  match readDate s with
  | some r => some ((readTimeAfterDate r).getD r)
  | none => readTime s

/-- The only key of the table that a moment is read as. -/
def momentKey : String := "$__toml_private_datetime"

/-- A moment as a piece of configuration: a table with one key, which no setting has. -/
def momentOf (written : List Char) : Datum := .table [(momentKey, .text (String.ofList written))]

end P4Control.Toml
