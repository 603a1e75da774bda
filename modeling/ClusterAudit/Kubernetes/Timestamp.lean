import ClusterAudit.Text.Basic
import ClusterAudit.Text.Blank

/-!
# Timestamps

A timestamp is a date, a time of day and an offset. Reading is lenient about layout: numbers
may have fewer digits than usual, white space may stand in front of a number or a separator,
and the offset is a letter, a word, or hours and minutes. It is strict about values: the date
must exist, an hour is below 24 and the seconds go up to 60, for a leap second. The years reach
from -262143 to 262142, and the moment must lie in them also when its offset is taken off.
-/

namespace ClusterAudit.Kubernetes.Timestamp

open Text

/-- A number of one digit at least and `width` at most, and the text behind it. -/
def number (width : Nat) (cs : List Char) : Option (Nat × List Char) :=
  let ds := (cs.take width).takeWhile Char.isDigit
  (natIn 10 ds).map (·, cs.drop ds.length)

/-- A number with white space in front of it. -/
def field (width : Nat) (cs : List Char) : Option (Nat × List Char) :=
  number width (skipWhiteSpace cs)

/-- The text behind a separator, which may have white space in front of it. -/
def separator (c : Char) (cs : List Char) : Option (List Char) :=
  match skipWhiteSpace cs with
  | d :: rest => if d = c then some rest else none
  | [] => none

/-- A year: four digits at most, or any number of them behind a sign. -/
def year (cs : List Char) : Option (Int × List Char) :=
  match skipWhiteSpace cs with
  | '-' :: rest => (number rest.length rest).map fun (n, rest) => (-(n : Int), rest)
  | '+' :: rest => (number rest.length rest).map fun (n, rest) => ((n : Int), rest)
  | cs => (number 4 cs).map fun (n, rest) => ((n : Int), rest)

/-- The fraction of a second, if there is one; a point needs a digit behind it. -/
def fraction : List Char → Option (List Char)
  | '.' :: d :: rest => if d.isDigit then some (rest.dropWhile Char.isDigit) else none
  | '.' :: [] => none
  | cs => some cs

/-- Two digits as a number. -/
def twoDigits : List Char → Option (Nat × List Char)
  | a :: b :: rest => (natIn 10 [a, b]).map (·, rest)
  | _ => none

/-- An offset in seconds and the text behind it: a letter for none, or a sign with hours below 24
and minutes. -/
def offset (cs : List Char) : Option (Int × List Char) :=
  match cs with
  | 'Z' :: rest => some (0, rest)
  | 'z' :: rest => some (0, rest)
  | c :: rest =>
    if c = '+' || c = '-' || c = '\u2212' then do
      let (hours, rest) ← twoDigits rest
      let (minutes, rest) ← twoDigits (rest.dropWhile fun d => d = ':' || isWhiteSpace d)
      let seconds : Int := 3600 * hours + 60 * minutes
      if hours < 24 ∧ minutes < 60 then some (if c = '+' then seconds else -seconds, rest) else none
    else none
  | [] => none

/-- Whether a year has a 29th of February. -/
def isLeap (y : Int) : Bool :=
  y % 4 = 0 && (y % 100 ≠ 0 || y % 400 = 0)

/-- How many days a month has. -/
def daysIn (y : Int) (month : Nat) : Nat :=
  if month = 2 then (if isLeap y then 29 else 28)
  else if month = 4 ∨ month = 6 ∨ month = 9 ∨ month = 11 then 30 else 31

/-- The first year. -/
def firstYear : Int := -262143

/-- The last year. -/
def lastYear : Int := 262142

/-- How many seconds a day has. -/
def secondsPerDay : Int := 86400

/-- Whether a day of the year `y` whose clock shows `clock` seconds is still a day of some year when
the offset is taken off. -/
def inRange (y : Int) (month day : Nat) (clock offset : Int) : Bool :=
  let utc := clock - offset
  firstYear ≤ y && y ≤ lastYear
    && !(decide (utc < 0) && decide ((y, month, day) = (firstYear, 1, 1)))
    && !(decide (secondsPerDay ≤ utc) && decide ((y, month, day) = (lastYear, 12, 31)))

/-- The text behind a timestamp that starts here, if the timestamp is one. -/
def scan (cs : List Char) : Option (List Char) := do
  let (y, cs) ← year cs
  let (month, cs) ← field 2 (← separator '-' cs)
  let (day, cs) ← field 2 (← separator '-' cs)
  let cs ← match cs with
    | c :: rest => if c = 't' || c = 'T' || c = ' ' then some rest else none
    | [] => none
  let (hour, cs) ← field 2 cs
  let (minute, cs) ← field 2 (← separator ':' cs)
  let (second, cs) ← field 2 (← separator ':' cs)
  let cs := skipWhiteSpace (← fraction cs)
  let (shift, cs) ←
    if (cs.take 3).map Char.toUpper = ['U', 'T', 'C'] then some (0, cs.drop 3) else offset cs
  let clock := 3600 * hour + 60 * minute + min second 59
  if 1 ≤ month ∧ month ≤ 12 ∧ 1 ≤ day ∧ day ≤ daysIn y month ∧ hour < 24 ∧ minute < 60 ∧ second ≤ 60
      ∧ inRange y month day clock shift then some cs
  else none

/-- **Whether a text is a timestamp.** -/
def isValid (s : String) : Bool :=
  match scan s.toList with
  | some rest => (skipWhiteSpace rest).isEmpty
  | none => false

end ClusterAudit.Kubernetes.Timestamp
