import JudgeClient.Numeral
import JudgeClient.Toml.Table
import JudgeClient.Toml.Text

/-!
# TOML scalars

Booleans, integers, floating-point numbers, dates and times.  Each of them is a single word of
letters, digits and a few marks, except that a date and a time may be separated by a space.
-/

namespace JudgeClient.Toml

/-! ### Digits -/

/-- Groups of digits with single underscores between them. -/
def digits? (isDigit : Char → Bool) (s : List Char) : Option (List Char) :=
  let groups := s.splitOn '_'
  if groups.all fun g => !g.isEmpty && g.all isDigit then some groups.flatten else none

/-- The digits of a decimal number without superfluous zeros before it. -/
def decimalDigits? (s : List Char) : Option (List Char) := do
  let ds ← digits? Char.isDigit s
  match ds with
  | '0' :: _ :: _ => none
  | ds => some ds

/-- A number in some base. -/
def inBase? (base : Nat) (s : List Char) : Option Nat := do
  let ds ← digits? (fun c => ((hexValue? c).filter (· < base)).isSome) s
  ds.foldlM (fun n c => (hexValue? c).map (base * n + ·)) 0

/-! ### Integers -/

/-- A number without sign, as an integer of 64 bits with sign. -/
def nonnegative? (n : Option Nat) : Option Int :=
  (n.filter (· < Numeral.signedBound)).map Int.ofNat

/-- A decimal number. -/
def decimal? (s : List Char) : Option Nat := (decimalDigits? s).map Numeral.ofDigits

/-- An integer of 64 bits with sign. -/
def int? (s : List Char) : Option Int :=
  match s with
  | '0' :: 'x' :: rest => nonnegative? (inBase? 16 rest)
  | '0' :: 'o' :: rest => nonnegative? (inBase? 8 rest)
  | '0' :: 'b' :: rest => nonnegative? (inBase? 2 rest)
  | '-' :: rest =>
    ((decimal? rest).filter (· ≤ Numeral.signedBound)).map fun n => -(n : Int)
  | '+' :: rest => nonnegative? (decimal? rest)
  | s => nonnegative? (decimal? s)

/-! ### Floating-point numbers -/

/-- An exponent behind its mark. -/
def exponent? (s : List Char) : Option Int :=
  match s with
  | '-' :: rest => (digits? Char.isDigit rest).map fun ds => -(Numeral.ofDigits ds : Int)
  | '+' :: rest => (digits? Char.isDigit rest).map fun ds => (Numeral.ofDigits ds : Int)
  | s => (digits? Char.isDigit s).map fun ds => (Numeral.ofDigits ds : Int)

/-- The decimal number `digits * 10 ^ exponent` rounds to a finite double. -/
def fitsDouble (digits : List Char) (exponent : Int) : Bool :=
  let significant := digits.dropWhile (· == '0')
  let size := (significant.length : Int) + exponent
  if significant.isEmpty || size < 300 then true
  else if 310 < size then false
  else
    let n := Numeral.ofDigits significant
    (Float.ofScientific n (exponent < 0) exponent.natAbs).isFinite

/-- An exponent mark. -/
def isExponentMark (c : Char) : Bool := c == 'e' || c == 'E'

/-- The word is a floating-point number without sign.  It has to be `bounded` by the largest double
or may be of any size. -/
def isUnsignedFloat (bounded : Bool) (s : List Char) : Bool :=
  let whole := s.takeWhile fun c => c != '.' && !isExponentMark c
  let tail := s.dropWhile fun c => c != '.' && !isExponentMark c
  let (fraction, power) := match tail with
    | '.' :: rest =>
      (some (rest.takeWhile (!isExponentMark ·)), rest.dropWhile (!isExponentMark ·))
    | tail => (none, tail)
  let parts : Option (List Char × List Char × Int) := do
    let whole ← decimalDigits? whole
    let fraction ← match fraction with
      | none => some []
      | some ds => digits? Char.isDigit ds
    let power ← match power with
      | [] => some 0
      | _ :: power => exponent? power
    some (whole, fraction, power)
  !tail.isEmpty && match parts with
    | none => false
    | some (whole, fraction, power) =>
      !bounded || fitsDouble (whole ++ fraction) (power - fraction.length)

/-- The word is a floating-point number.  Only an upper bound is checked, so a negative number may
be of any size. -/
def isFloat (s : List Char) : Bool :=
  let (negative, unsigned) := match s with
    | '-' :: rest => (true, rest)
    | '+' :: rest => (false, rest)
    | s => (false, s)
  unsigned == "inf".toList || unsigned == "nan".toList || isUnsignedFloat (!negative) unsigned

/-! ### Dates and times -/

/-- Exactly two digits with a value in a range. -/
def twoDigits? (low high : Nat) : List Char → Option (Nat × List Char)
  | a :: b :: rest =>
    if a.isDigit ∧ b.isDigit then
      let n := Numeral.ofDigits [a, b]
      if low ≤ n ∧ n ≤ high then some (n, rest) else none
    else none
  | _ => none

/-- The text behind a date.  The day is not held against the length of its month. -/
def date? (s : List Char) : Option (List Char) := do
  if s.length < 4 ∨ !(s.take 4).all Char.isDigit then none
  let (_, s) ← twoDigits? 1 12 (← mark? '-' (s.drop 4))
  let (_, s) ← twoDigits? 1 31 (← mark? '-' s)
  some s

/-- The text behind a time of day. -/
def time? (s : List Char) : Option (List Char) := do
  let (_, s) ← twoDigits? 0 23 s
  let (_, s) ← twoDigits? 0 59 (← mark? ':' s)
  let (_, s) ← twoDigits? 0 60 (← mark? ':' s)
  match s with
  | '.' :: c :: rest => if c.isDigit then some (rest.dropWhile Char.isDigit) else none
  | '.' :: [] => none
  | s => some s

/-- The text is the offset of a time zone. -/
def isOffset (s : List Char) : Bool :=
  let hoursAndMinutes := fun s : List Char => (do
    let (_, s) ← twoDigits? 0 23 s
    let (_, s) ← twoDigits? 0 59 (← mark? ':' s)
    some s.isEmpty : Option Bool)
  match s with
  | ['Z'] => true
  | ['z'] => true
  | '+' :: rest => hoursAndMinutes rest == some true
  | '-' :: rest => hoursAndMinutes rest == some true
  | _ => false

/-- The text is a time of day with or without an offset. -/
def isTimeWithOffset (s : List Char) : Bool :=
  match time? s with
  | none => false
  | some rest => rest.isEmpty || isOffset rest

/-- The word is a date, a time of day, or both. -/
def isDateTime (s : List Char) : Bool :=
  match date? s with
  | some [] => true
  | some (c :: rest) => (c == 'T' || c == 't' || c == ' ') && isTimeWithOffset rest
  | none => time? s == some []

/-! ### Words -/

/-- A character of a word. -/
def isWordChar (c : Char) : Bool :=
  c.isAlphanum || c == '_' || c == '+' || c == '-' || c == '.' || c == ':'

/-- The value of a word. -/
def word? (s : List Char) : Option Node :=
  if s = "true".toList then some (.bool true)
  else if s = "false".toList then some (.bool false)
  else match int? s with
    | some i => some (.int i)
    | none => if isFloat s then some .float else if isDateTime s then some .dateTime else none

/-- A scalar that is no string.  A date goes on behind a space if a time stands there. -/
def readWord? (s : List Char) : Option (Node × List Char) := do
  let word := s.takeWhile isWordChar
  let rest := s.dropWhile isWordChar
  let more := match rest with
    | ' ' :: time => time.takeWhile isWordChar
    | _ => []
  if date? word = some [] ∧ (time? more).isSome then
    if isDateTime (word ++ ' ' :: more) then some (.dateTime, rest.drop (more.length + 1)) else none
  else
    let node ← word? word
    some (node, rest)

end JudgeClient.Toml
