import JudgeClient.Decimal.Shortest

/-!
# Layout of decimals

How the digits of a number are written down.  A `Layout` holds the decisions of one output
format; the digits are those of the shortest decimal.  Two formats are in use: numbers in a page
(`plain`), and numbers in JSON texts (`json`).
-/

namespace JudgeClient.Decimal

/-- The decisions of an output format. -/
structure Layout where
  /-- Leading exponents that are written without an exponent part; everywhere if absent. -/
  positional : Option (Int × Int)
  /-- A whole number keeps a point and a zero. -/
  point : Bool
  /-- The choice between equally near decimals. -/
  tie : Tie

/-- Pages show numbers without an exponent part, and whole numbers without a point. -/
def plain : Layout := ⟨none, false, .up⟩

/-- JSON texts keep the point of a whole number, and write numbers from `1e+16` on and below
`0.00001` with an exponent part, which always has a sign. -/
def json : Layout := ⟨some (-5, 15), true, .even⟩

namespace Layout

/-- Digits with their point in place. -/
def writePositional (l : Layout) (digits : List Char) (exponent : Int) : List Char :=
  if 0 ≤ exponent then
    digits ++ List.replicate exponent.toNat '0' ++ (if l.point then ['.', '0'] else [])
  else
    let places := (-exponent).toNat
    if places < digits.length then
      digits.take (digits.length - places) ++ '.' :: digits.drop (digits.length - places)
    else '0' :: '.' :: (List.replicate (places - digits.length) '0' ++ digits)

/-- The exponent part. -/
def writeExponent (e : Int) : List Char :=
  'e' :: (if e < 0 then '-' else '+') :: Nat.toDigits 10 e.natAbs

/-- One digit before the point, and an exponent part. -/
def writeScientific (digits : List Char) (e : Int) : List Char :=
  match digits with
  | [] => []
  | [d] => d :: writeExponent e
  | d :: rest => d :: '.' :: (rest ++ writeExponent e)

/-- A positive decimal. -/
def writeDecimal (l : Layout) (d : Decimal) : List Char :=
  let digits := Nat.toDigits 10 d.digits
  let leading := d.exponent + digits.length - 1
  match l.positional with
  | none => l.writePositional digits d.exponent
  | some (low, high) =>
    if low ≤ leading ∧ leading ≤ high then l.writePositional digits d.exponent
    else writeScientific digits leading

/-- The sign of a number. -/
def writeSign (negative : Bool) : List Char := if negative then ['-'] else []

/-- A double as a text. -/
def write (l : Layout) (x : Float) : List Char :=
  match parts x with
  | .nan => "NaN".toList
  | .infinite negative => writeSign negative ++ "inf".toList
  | .zero negative => writeSign negative ++ '0' :: (if l.point then ['.', '0'] else [])
  | .finite negative window => writeSign negative ++ l.writeDecimal (shortest window l.tie)

end Layout

end JudgeClient.Decimal
