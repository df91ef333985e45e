import JudgeClient.Proofs.Route.Params
import Mathlib.Data.Nat.Digits.Defs

/-!
# The numeric test

A segment of a path is tested for a number before it is captured, and what is captured is read as an
id afterwards.  Both read the digits one by one and check every step, and the text can be of any
length.  This file says what comes out of all the steps: the bound holds for the number as it is
written in the decimal system, and the id is that number.

* `Numeral.decimalValue` : the number that digits stand for by their places;
* `Numeral.isNumeric_iff_decimalValue_le` : the numeric texts;
* `Params.exists_get?_of_isNumeric` : a numeric text is an id;
* `Numeral.numeric_within_63_bits` : the test, the ids and their texts together.
-/

namespace JudgeClient

namespace Numeral

/-! ### The decimal system -/

/-- The number that digits stand for by their places; the last digit is that of the ones. -/
def decimalValue (s : List Char) : Nat := Nat.ofDigits 10 (s.reverse.map digitValue)

/-- Taking one digit after the other gives each of them its place. -/
theorem ofDigits_eq_decimalValue (s : List Char) : ofDigits s = decimalValue s := by
  rw [decimalValue, Nat.ofDigits_eq_foldr, List.map_reverse, List.foldr_reverse, List.foldl_map,
    ofDigits]
  congr 1
  funext n d
  rw [Nat.cast_id, Nat.mul_comm, Nat.add_comm]

/-! ### The numeric texts -/

/-- A text is numeric if it is made of digits and its number has at most 63 bits. -/
theorem isNumeric_iff_decimalValue_le {s : List Char} : isNumeric s = true ↔
    s ≠ [] ∧ (∀ c ∈ s, c.isDigit = true) ∧ decimalValue s ≤ 2 ^ 63 - 1 := by
  have hbound : signedBound = 2 ^ 63 - 1 + 1 := by decide
  rw [isNumeric_iff, isDigits_iff, ofDigits_eq_decimalValue, hbound, Nat.lt_succ_iff, and_assoc]

/-- Zeros before a text do not make it numeric, and do not keep it from being so. -/
theorem isNumeric_replicate_append (zeros : Nat) {s : List Char} (hs : s ≠ []) :
    isNumeric (List.replicate zeros '0' ++ s) = isNumeric s := by
  have hdigits : isDigits (List.replicate zeros '0' ++ s) = true ↔ isDigits s = true := by
    simp only [isDigits_iff, List.forall_mem_append]
    simp [hs]
  rw [Bool.eq_iff_iff, isNumeric_iff, isNumeric_iff, hdigits, ofDigits_replicate_append]

end Numeral

/-- A numeric text is an id, which is the number of its digits. -/
theorem Params.exists_get?_of_isNumeric {p : Params} {key text : String}
    (hl : p.lookup key = some text) (h : Numeral.isNumeric text.toList = true) :
    ∃ id : Int64, p.get? key = some id ∧ id.toInt = Numeral.decimalValue text.toList := by
  obtain ⟨id, hread, hval⟩ := ParamValue.read?_int64_of_isNumeric h
  rw [Numeral.ofDigits_eq_decimalValue] at hval
  exact ⟨id, by rw [get?, hl]; exact hread, hval⟩

namespace Numeral

/-- **Numeric texts have 63 bits.**  A text of any length is numeric if it is not empty, has only
ASCII digits, and stands for a number of at most `2 ^ 63 - 1`; zeros before its digits do not count.
Wherever such a text is looked up, it is read as the id with this number, which is not negative.
The text of every id that is not negative is numeric. -/
theorem numeric_within_63_bits :
    (∀ s : String, isNumeric s.toList = true ↔
      s ≠ "" ∧ (∀ c ∈ s.toList, c.isDigit = true) ∧ decimalValue s.toList ≤ 2 ^ 63 - 1) ∧
    (∀ (s : String) (zeros : Nat), s ≠ "" →
      isNumeric (List.replicate zeros '0' ++ s.toList) = isNumeric s.toList) ∧
    (∀ (s : String) (p : Params) (key : String), isNumeric s.toList = true →
      p.lookup key = some s → ∃ id : Int64, p.get? key = some id ∧
        id.toInt = decimalValue s.toList ∧ 0 ≤ id.toInt) ∧
    ∀ id : Int64, 0 ≤ id.toInt → isNumeric (ParamValue.write id).toList = true := by
  have hempty : ∀ s : String, s.toList ≠ [] ↔ s ≠ "" := fun s => by simp
  refine ⟨fun s => ?_, fun s zeros hs => ?_, fun s p key hs hl => ?_, fun id hid => ?_⟩
  · rw [isNumeric_iff_decimalValue_le, hempty]
  · exact isNumeric_replicate_append zeros ((hempty s).2 hs)
  · obtain ⟨id, hget, hval⟩ := Params.exists_get?_of_isNumeric hl hs
    exact ⟨id, hget, hval, by rw [hval]; exact Int.natCast_nonneg _⟩
  · exact isNumeric_toString_toInt hid

/-- The last number of 63 bits with zeros before it, the next number, and the text of zero. -/
theorem numeric_within_63_bits_of_last :
    let last := "9223372036854775807"
    let text := "0009223372036854775807"
    let p := Params.empty.insert "id" text
    isNumeric text.toList = true ∧ p.lookup "id" = some text ∧
      (∃ id : Int64, p.get? "id" = some id ∧ id.toInt = 2 ^ 63 - 1) ∧
      isNumeric text.toList = isNumeric last.toList ∧
      ¬isNumeric "9223372036854775808".toList = true ∧
      isNumeric (ParamValue.write (0 : Int64)).toList = true := by
  intro last text p
  obtain ⟨hiff, hzeros, hid, hwrite⟩ := numeric_within_63_bits
  have hl : p.lookup "id" = some text := by decide
  have hdigits : text.toList.all Char.isDigit = true := by decide
  have htext : isNumeric text.toList = true :=
    (hiff text).2 ⟨by decide, List.all_eq_true.1 hdigits, by decide⟩
  obtain ⟨id, hget, hval, -⟩ := hid text p "id" htext hl
  refine ⟨htext, hl, ⟨id, hget, hval.trans (by decide)⟩, ?_, ?_, hwrite 0 (by decide)⟩
  · have heq : text.toList = List.replicate 3 '0' ++ last.toList := by decide
    rw [heq]
    exact hzeros last 3 (by decide)
  · rw [hiff]
    exact fun h => absurd h.2.2 (by decide)

end Numeral

end JudgeClient
