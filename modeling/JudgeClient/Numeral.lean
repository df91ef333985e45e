/-!
# Numerals

Reading and writing of integers as they stand in locations and query strings: ASCII digits with
at most one sign, any number of leading zeros, and a bound.  A number is read digit by digit, and
each step is checked against the bound.  `isNumeric` is the test that a numeric path segment has to
pass: digits only, and a signed 64-bit number.
-/

namespace JudgeClient.Numeral

/-! ### Digit texts -/

/-- The value of a decimal digit. -/
def digitValue (c : Char) : Nat := c.toNat - '0'.toNat

/-- The value of a run of digits, most significant first. -/
def ofDigits (ds : List Char) : Nat := ds.foldl (fun n d => n * 10 + digitValue d) 0

/-- A non-empty run of ASCII digits. -/
def isDigits (s : List Char) : Bool := !s.isEmpty && s.all Char.isDigit

/-- The value of a digit text. -/
def readNat? (s : List Char) : Option Nat := if isDigits s then some (ofDigits s) else none

/-! ### Reading within a bound -/

/-- The number with one more digit behind it.  The product and the sum are each checked, so that no
number above `max` is ever made. -/
def appendDigit? (max n : Nat) (c : Char) : Option Nat :=
  if c.isDigit then
    (Option.guard (· ≤ max) (n * 10)).bind fun tens =>
      Option.guard (· ≤ max) (tens + digitValue c)
  else none

/-- The number that a digit text makes digit by digit, if it stays within the bound. -/
def readBounded? (max : Nat) (s : List Char) : Option Nat :=
  if s.isEmpty then none else s.foldlM (appendDigit? max) 0

/-! ### Signed and bounded texts -/

/-- The signed 64-bit numbers are those from `-signedBound` on and below `signedBound`, which is
`2 ^ 63`. -/
abbrev signedBound : Nat := 9223372036854775808

/-- The value of a digit text after at most one `+`, if it is at most `max`. -/
def readUnsigned? (max : Nat) (s : List Char) : Option Nat :=
  match s with
  | '+' :: rest => readBounded? max rest
  | s => readBounded? max s

/-- The value of a digit text after at most one sign, if it is a signed 64-bit number. -/
def readSigned? (s : List Char) : Option Int :=
  match s with
  | '-' :: rest => (readBounded? signedBound rest).map fun n => -(n : Int)
  | '+' :: rest => (readBounded? (signedBound - 1) rest).map Int.ofNat
  | s => (readBounded? (signedBound - 1) s).map Int.ofNat

/-! ### The numeric test -/

/-- Digits only, which read as a signed 64-bit number. -/
def isNumeric (s : List Char) : Bool := isDigits s && (readSigned? s).isSome

end JudgeClient.Numeral
