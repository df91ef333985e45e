import JudgeClient.Json.Fault
import JudgeClient.Numeral

/-!
# Numbers of JSON

A number is an integer if it is written without a point and without an exponent and fits 64 bits,
with or without sign; every other number is a floating-point number, also `-0`.  The value of a
floating-point number is its significand of at most 64 bits, to which digits that do not fit add
no more than their place, times or divided by a power of ten.
-/

namespace JudgeClient.Json

/-- A number as it is read. -/
inductive Number
  | int (i : Int)
  | float (x : Float)

/-! ### Values -/

/-- A power of ten. -/
def powerOfTen (n : Nat) : Float := Float.ofScientific 1 false n

/-- The number `significand * 10 ^ exponent`.  A number too large for a double is an error; one
too small is zero. -/
def scaleByTen (significand : Nat) (exponent : Int) : Except Fault Float :=
  let f := Float.ofNat significand
  if 308 < exponent then
    if f == 0.0 then .ok f else .error .numberTooLarge
  else if 0 ≤ exponent then
    let x := f * powerOfTen exponent.toNat
    if x.isInf then .error .numberTooLarge else .ok x
  else if -308 ≤ exponent then .ok (f / powerOfTen (-exponent).toNat)
  else if -616 ≤ exponent then .ok (f / powerOfTen 308 / powerOfTen (-exponent - 308).toNat)
  else .ok (f / powerOfTen 308 / powerOfTen 308)

/-- The number with the given sign. -/
def withSign (negative : Bool) (x : Float) : Float := if negative then -x else x

/-! ### Scanning -/

/-- Adds digits to a significand as long as it fits 64 bits.  The result holds the digits that
are left over. -/
def addDigits (significand : Nat) : List Char → Nat × List Char
  | [] => (significand, [])
  | d :: ds =>
    let next := significand * 10 + Numeral.digitValue d
    if next < UInt64.size then addDigits next ds else (significand, d :: ds)

/-- Exponents from here on are too large to be calculated with. -/
def exponentBound : Nat := 2147483648

/-- The rest of a number behind the mark of its exponent. -/
def scanExponent (negative : Bool) (significand : Nat) (exponent : Int) : Reader Number := fun s =>
  let (down, s) := match s with
    | '+' :: rest => (false, rest)
    | '-' :: rest => (true, rest)
    | s => (false, s)
  match s.span Char.isDigit with
  | ([], []) => .error .endInValue
  | ([], _ :: _) => .error .badNumber
  | (digits, rest) =>
    let e := Numeral.ofDigits digits
    if exponentBound ≤ e then
      if significand ≠ 0 ∧ down = false then .error .numberTooLarge
      else .ok (.float (withSign negative 0.0), rest)
    else do
      let x ← scaleByTen significand (if down then exponent - e else exponent + e)
      return (.float (withSign negative x), rest)

/-- The end of a number whose point or leftover digits have made it a floating-point one. -/
def scanEnd (negative : Bool) (significand : Nat) (exponent : Int) : Reader Number := fun s =>
  match s with
  | 'e' :: rest => scanExponent negative significand exponent rest
  | 'E' :: rest => scanExponent negative significand exponent rest
  | s => do
    let x ← scaleByTen significand exponent
    return (.float (withSign negative x), s)

/-- The rest of a number behind its point. -/
def scanFraction (negative : Bool) (significand : Nat) (exponent : Int) : Reader Number := fun s =>
  match s.span Char.isDigit with
  | ([], []) => .error .endInValue
  | ([], _ :: _) => .error .badNumber
  | (digits, rest) =>
    let (significand, left) := addDigits significand digits
    scanEnd negative significand (exponent - (digits.length - left.length : Nat)) rest

/-- A whole number with its sign. -/
def signedNumber (negative : Bool) (n : Nat) : Number :=
  if !negative then .int n
  else if 0 < n ∧ n ≤ Numeral.signedBound then .int (-(n : Int))
  else .float (-(Float.ofNat n))

/-- A number behind its sign. -/
def scanUnsigned (negative : Bool) : Reader Number := fun s =>
  match s.span Char.isDigit with
  | ([], []) => .error .endInValue
  | ([], _ :: _) => .error .badNumber
  | ('0' :: _ :: _, _) => .error .badNumber
  | (digits, rest) =>
    let (significand, left) := addDigits 0 digits
    match rest with
    | '.' :: rest => scanFraction negative significand left.length rest
    | rest =>
      if left.isEmpty && rest.head? != some 'e' && rest.head? != some 'E' then
        .ok (signedNumber negative significand, rest)
      else scanEnd negative significand left.length rest

/-- A number. -/
def readNumber : Reader Number := fun s =>
  match s with
  | '-' :: rest => scanUnsigned true rest
  | s => scanUnsigned false s

/-! ### Numbers that nobody looks at -/

/-- The text behind the exponent of an ignored number. -/
def skipExponent (s : List Char) : Except Fault (List Char) :=
  let s := match s with
    | '+' :: rest => rest
    | '-' :: rest => rest
    | s => s
  match s.span Char.isDigit with
  | ([], _) => .error .badNumber
  | (_, rest) => .ok rest

/-- The text behind the end of an ignored number. -/
def skipEnd (s : List Char) : Except Fault (List Char) :=
  match s with
  | 'e' :: rest => skipExponent rest
  | 'E' :: rest => skipExponent rest
  | s => .ok s

/-- The text behind an ignored number.  Its size does not matter, and every flaw is the same. -/
def skipNumber (s : List Char) : Except Fault (List Char) :=
  let s := match s with
    | '-' :: rest => rest
    | s => s
  match s.span Char.isDigit with
  | ([], _) => .error .badNumber
  | ('0' :: _ :: _, _) => .error .badNumber
  | (_, '.' :: rest) =>
    match rest.span Char.isDigit with
    | ([], _) => .error .badNumber
    | (_, rest) => skipEnd rest
  | (_, rest) => skipEnd rest

end JudgeClient.Json
