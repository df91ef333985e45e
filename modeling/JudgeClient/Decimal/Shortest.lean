/-!
# Shortest decimals

The decimal that stands for a binary floating-point number in a text: of all decimals that round
to the number, those with the fewest digits, and of these the nearest; of two that are equally
near, a rule says which.  A number is `m * 2 ^ q`; the decimals that round to it fill an interval
whose ends count when `m` is even.  Everything is exact arithmetic on natural numbers.
-/

namespace JudgeClient

/-- The positive decimal number `digits * 10 ^ exponent`. -/
structure Decimal where
  digits : Nat
  exponent : Int
deriving DecidableEq, Repr

namespace Decimal

/-- Which of two equally near decimals stands for a number. -/
inductive Tie
  /-- The larger one. -/
  | up
  /-- The one with an even last digit. -/
  | even
deriving DecidableEq, Repr

/-- Of the neighbours `below` and `below + 1`, the upper one is chosen. -/
def Tie.goesUp (t : Tie) (below : Nat) : Bool :=
  match t with
  | .up => true
  | .even => below % 2 == 1

/-- A positive number with its neighbours' midpoints: the number is `4 * mantissa * unit / den`,
and the numbers that round to it lie between `low * unit / den` and `high * unit / den`. -/
structure Window where
  mantissa : Nat
  low : Nat
  high : Nat
  unit : Nat
  den : Nat
deriving Repr

namespace Window

/-- The window of `m * 2 ^ q`.  Below a power of two the next number is only half as far away,
which `tight` says. -/
def of (m : Nat) (q : Int) (tight : Bool) : Window where
  mantissa := m
  low := if tight then 4 * m - 1 else 4 * m - 2
  high := 4 * m + 2
  unit := Nat.pow 2 (q - 2).toNat
  den := Nat.pow 2 (2 - q).toNat

/-- The same window with `10 ^ k` as the unit of measure. -/
def scale (w : Window) (k : Int) : Window :=
  { w with unit := w.unit * Nat.pow 10 (-k).toNat, den := w.den * Nat.pow 10 k.toNat }

/-- The natural number `n` lies in the window. -/
def isInside (w : Window) (n : Nat) : Bool :=
  if w.mantissa % 2 == 0 then w.low * w.unit ≤ n * w.den && n * w.den ≤ w.high * w.unit
  else w.low * w.unit < n * w.den && n * w.den < w.high * w.unit

/-- The natural number in the window that is nearest to the window's number, if one of its two
neighbours is in the window. -/
def pick? (w : Window) (tie : Tie) : Option Nat :=
  let value := 4 * w.mantissa * w.unit
  let below := value / w.den
  let above := below + 1
  match w.isInside below, w.isInside above with
  | true, true =>
    let fromBelow := value - below * w.den
    let fromAbove := above * w.den - value
    some (if fromAbove < fromBelow ∨ (fromAbove = fromBelow ∧ tie.goesUp below) then above
      else below)
  | true, false => some below
  | false, true => some above
  | false, false => none

/-- The exponent of the leading digit. -/
def leading (w : Window) : Int :=
  let value := 4 * w.mantissa * w.unit
  if w.den ≤ value then ((Nat.toDigits 10 (value / w.den)).length : Int) - 1
  else
    let inverse := (w.den + value - 1) / value
    (0 : Int) - (Nat.toDigits 10 (inverse - 1)).length

end Window

/-- The decimal without trailing zeros. -/
def normalize (d : Decimal) : Decimal :=
  let zeros := ((Nat.toDigits 10 d.digits).reverse.takeWhile (· == '0')).length
  { digits := d.digits / Nat.pow 10 zeros, exponent := d.exponent + zeros }

/-- The shortest decimal for the number of a window: grids of ever more digits are tried, and
seventeen digits always suffice. -/
def shortest (w : Window) (tie : Tie) : Decimal :=
  let top := w.leading
  let found := (List.range 17).findSome? fun (n : Nat) =>
    let k := top - (n : Int)
    ((w.scale k).pick? tie).map fun d => normalize ⟨d, k⟩
  found.getD ⟨0, 0⟩

/-! ### Floating-point numbers -/

/-- The parts of a double. -/
inductive Parts
  | nan
  | infinite (negative : Bool)
  | zero (negative : Bool)
  | finite (negative : Bool) (window : Window)

/-- How many doubles share a sign and an exponent: they differ in their 52 fraction bits. -/
def fractions : Nat := Nat.pow 2 52

/-- How many exponents a double may have. -/
def exponents : Nat := Nat.pow 2 11

/-- A double taken apart into sign and magnitude. -/
def parts (x : Float) : Parts :=
  let bits := x.toBits.toNat
  let negative := bits / (exponents * fractions) == 1
  let exponent : Nat := bits / fractions % exponents
  let fraction : Nat := bits % fractions
  if exponent = 2047 then
    if fraction = 0 then .infinite negative else .nan
  else if exponent = 0 then
    if fraction = 0 then .zero negative else .finite negative (.of fraction (-1074) false)
  else
    .finite negative
      (.of (fractions + fraction) ((exponent : Int) - 1075) (fraction == 0 && exponent != 1))

end Decimal

end JudgeClient
