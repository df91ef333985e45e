import JudgeClient.Numeral
import JudgeClient.Text.Blank

/-!
# Timestamps

The points in time that the API writes, such as `2022-08-27T02:05:29.000Z`.  Reading is lenient
about blanks before a number and about the number of digits, but strict about everything else, and
the day has to exist in the Gregorian calendar.  Pages show a timestamp without its milliseconds.
-/

namespace JudgeClient

/-- A point in time, to the millisecond.  The second `60` is a leap second. -/
structure Timestamp where
  year : Int
  month : Nat
  day : Nat
  hour : Nat
  minute : Nat
  second : Nat
  millisecond : Nat
deriving DecidableEq, Repr

namespace Timestamp

/-! ### The calendar -/

/-- The year has a 29th of February. -/
def isLeapYear (year : Int) : Bool := year % 4 == 0 && (year % 100 != 0 || year % 400 == 0)

/-- The number of days of a month; there are none in a month that does not exist. -/
def daysInMonth (year : Int) (month : Nat) : Nat :=
  match month with
  | 1 | 3 | 5 | 7 | 8 | 10 | 12 => 31
  | 4 | 6 | 9 | 11 => 30
  | 2 => if isLeapYear year then 29 else 28
  | _ => 0

/-- The years of the calendar. -/
def isYear (year : Int) : Bool := -262143 ≤ year && year ≤ 262142

/-- The day and the time of day exist. -/
def isValid (t : Timestamp) : Bool :=
  isYear t.year && 1 ≤ t.day && t.day ≤ daysInMonth t.year t.month &&
    t.hour ≤ 23 && t.minute ≤ 59 && t.second ≤ 60

/-! ### Reading -/

/-- A number of at least one and at most `width` digits. -/
def readDigits? (width : Nat) (s : List Char) : Option (Nat × List Char) :=
  let digits := (s.take width).takeWhile Char.isDigit
  if digits.isEmpty then none else some (Numeral.ofDigits digits, s.drop digits.length)

/-- A number of at most two digits, behind blanks. -/
def readField? (s : List Char) : Option (Nat × List Char) := readDigits? 2 (Text.trimStart s)

/-- A year, behind blanks.  With a sign it may have any number of digits, else at most four. -/
def readYear? (s : List Char) : Option (Int × List Char) :=
  match Text.trimStart s with
  | '-' :: rest => (readDigits? rest.length rest).map fun r => (-(r.1 : Int), r.2)
  | '+' :: rest => (readDigits? rest.length rest).map fun r => ((r.1 : Int), r.2)
  | s => (readDigits? 4 s).map fun r => ((r.1 : Int), r.2)

/-- A character that has to stand here. -/
def readMark? (c : Char) : List Char → Option (List Char)
  | [] => none
  | d :: rest => if c = d then some rest else none

/-- The milliseconds behind a point; without a point there are none. -/
def readFraction? (s : List Char) : Option (Nat × List Char) :=
  match s with
  | '.' :: rest =>
    if 3 ≤ rest.length ∧ (rest.take 3).all Char.isDigit then
      some (Numeral.ofDigits (rest.take 3), rest.drop 3)
    else none
  | s => some (0, s)

/-- The timestamp that a text stands for. -/
def read? (text : String) : Option Timestamp := do
  let (year, s) ← readYear? text.toList
  let (month, s) ← readField? (← readMark? '-' s)
  let (day, s) ← readField? (← readMark? '-' s)
  let (hour, s) ← readField? (← readMark? 'T' s)
  let (minute, s) ← readField? (← readMark? ':' s)
  let (second, s) ← readField? (← readMark? ':' s)
  let (millisecond, s) ← readFraction? s
  let rest ← readMark? 'Z' s
  let t : Timestamp := ⟨year, month, day, hour, minute, second, millisecond⟩
  if rest.isEmpty && t.isValid then some t else none

/-! ### Writing -/

/-- A number with leading zeros up to a width. -/
def pad (width n : Nat) : List Char :=
  let digits := Nat.toDigits 10 n
  List.replicate (width - digits.length) '0' ++ digits

/-- A year with at least four digits, and with a sign if it has more or is negative. -/
def writeYear (year : Int) : List Char :=
  if year < 0 then '-' :: pad 4 year.natAbs
  else if 9999 < year then '+' :: pad 4 year.natAbs
  else pad 4 year.natAbs

/-- Day and time of day, as pages show them. -/
def write (t : Timestamp) : List Char :=
  writeYear t.year ++ '-' :: (pad 2 t.month ++ '-' :: (pad 2 t.day ++ ' ' :: (pad 2 t.hour ++
    ':' :: (pad 2 t.minute ++ ':' :: pad 2 t.second))))

/-- Day and time of day with nanoseconds. -/
def writePrecise (t : Timestamp) : List Char :=
  t.write ++ '.' :: (pad 3 t.millisecond ++ List.replicate 6 '0')

/-- The text as pages show it: the day and the time that it stands for, or the text itself. -/
def display (text : String) : String :=
  match read? text with
  | some t => String.ofList t.write
  | none => text

end Timestamp

end JudgeClient
