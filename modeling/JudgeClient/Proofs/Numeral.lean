import JudgeClient.Numeral

/-!
# Printed numbers read back

The decimal text of a number is a run of digits, behind a minus sign if the number is negative.
Reading such a text gives the number again.

* `readBounded?_eq` : checking each step against a bound is checking the value of all digits once;
* `readNat?_toDigits`, `readSigned?_toString`, `readUnsigned?_toString` : reading inverts printing;
* `isNumeric_iff` : the numeric texts are the digit texts below the bound;
* `readSigned?_of_isNumeric` : a text that passes the numeric test reads as the value of its digits,
  and zeros before the digits do not count (`ofDigits_replicate_append`);
* `isNumeric_toString_toInt` : the text of a number that is not negative passes the numeric test.
-/

namespace JudgeClient.Numeral

/-! ### Digits -/

theorem ofDigits_toDigits (n : Nat) : ofDigits (Nat.toDigits 10 n) = n := by
  have hf : (fun n d => n * 10 + digitValue d) =
      fun sofar c => 10 * sofar + (c.toNat - '0'.toNat) := by
    funext n d
    rw [digitValue, Nat.mul_comm]
  rw [ofDigits, hf, ← Nat.ofDigitChars_eq_foldl, Nat.ofDigitChars_ten_toDigits]

theorem isDigits_iff {s : List Char} :
    isDigits s = true ↔ s ≠ [] ∧ ∀ c ∈ s, c.isDigit = true := by
  simp [isDigits]

theorem isDigits_toDigits (n : Nat) : isDigits (Nat.toDigits 10 n) = true := by
  have hne : Nat.toDigits 10 n ≠ [] := List.ne_nil_of_length_pos Nat.length_toDigits_pos
  have hall : ∀ c ∈ Nat.toDigits 10 n, c.isDigit = true := fun c hc =>
    Nat.isDigit_of_mem_toDigits (by decide) (by decide) hc
  exact isDigits_iff.2 ⟨hne, hall⟩

theorem exists_cons_of_isDigits {s : List Char} (h : isDigits s = true) :
    ∃ c rest, s = c :: rest ∧ c.isDigit = true := by
  cases s with
  | nil => cases h
  | cons c rest => exact ⟨c, rest, rfl, (isDigits_iff.1 h).2 c List.mem_cons_self⟩

theorem digitValue_le {c : Char} (h : c.isDigit = true) : digitValue c ≤ 9 := by
  have hdigit : 48 ≤ c.toNat ∧ c.toNat ≤ 57 := Char.isDigit_iff_toNat.1 h
  have hvalue : digitValue c = c.toNat - 48 := rfl
  omega

/-- As many digits as there are stand for less than the number with one digit more. -/
theorem ofDigits_lt {s : List Char} (h : ∀ c ∈ s, c.isDigit = true) :
    ofDigits s < Nat.pow 10 s.length := by
  have hfold : ∀ (s : List Char) (n : Nat), (∀ c ∈ s, c.isDigit = true) →
      s.foldl (fun n d => n * 10 + digitValue d) n < (n + 1) * Nat.pow 10 s.length := by
    intro s
    induction s with
    | nil => exact fun n _ => by simp
    | cons c s ih =>
      intro n hall
      have hc := digitValue_le (hall c List.mem_cons_self)
      have hrest := ih (n * 10 + digitValue c) fun d hd => hall d (List.mem_cons_of_mem c hd)
      have hstep : (n * 10 + digitValue c + 1) * Nat.pow 10 s.length ≤
          (n + 1) * 10 * Nat.pow 10 s.length := Nat.mul_le_mul_right _ (by omega)
      have hpow : Nat.pow 10 (c :: s).length = 10 * Nat.pow 10 s.length := Nat.pow_succ'
      rw [List.foldl_cons, hpow, ← Nat.mul_assoc]
      exact Nat.lt_of_lt_of_le hrest hstep
  simpa [ofDigits] using hfold s 0 h

theorem readNat?_toDigits (n : Nat) : readNat? (Nat.toDigits 10 n) = some n := by
  rw [readNat?, if_pos (isDigits_toDigits n), ofDigits_toDigits]

/-! ### Reading within a bound -/

/-- Digits behind a number do not make it less. -/
theorem le_foldl_digits (n : Nat) (s : List Char) :
    n ≤ s.foldl (fun n d => n * 10 + digitValue d) n := by
  induction s generalizing n with
  | nil => exact Nat.le_refl n
  | cons d s ih =>
    have hd : n ≤ n * 10 + digitValue d := by omega
    exact Nat.le_trans hd (ih _)

/-- The product is within the bound if the sum is. -/
theorem appendDigit?_eq (max n : Nat) (c : Char) : appendDigit? max n c =
    if c.isDigit then Option.guard (· ≤ max) (n * 10 + digitValue c) else none := by
  unfold appendDigit?
  by_cases hproduct : n * 10 ≤ max
  · simp [Option.guard, hproduct]
  · have hsum : ¬n * 10 + digitValue c ≤ max := fun h => hproduct (Nat.le_of_add_right_le h)
    simp [Option.guard, hproduct, hsum]

/-- Digit by digit nothing is refused that stays within the bound as a whole. -/
theorem foldlM_appendDigit? {max n : Nat} (hn : n ≤ max) (s : List Char) :
    s.foldlM (appendDigit? max) n =
      if s.all Char.isDigit then
        Option.guard (· ≤ max) (s.foldl (fun n d => n * 10 + digitValue d) n)
      else none := by
  induction s generalizing n with
  | nil => simp [Option.guard, hn]
  | cons c s ih =>
    rw [List.foldlM_cons, List.foldl_cons, appendDigit?_eq]
    cases hc : c.isDigit with
    | false => simp [hc]
    | true =>
      by_cases hsum : n * 10 + digitValue c ≤ max
      · simpa [Option.guard, hc, hsum] using ih hsum
      · -- what is above the bound here is above it at the end
        have hend : ¬s.foldl (fun n d => n * 10 + digitValue d) (n * 10 + digitValue c) ≤ max :=
          fun h => hsum (Nat.le_trans (le_foldl_digits _ s) h)
        simp [Option.guard, hsum, hend]

/-- Checking each step against the bound is checking the value of all digits once. -/
theorem readBounded?_eq (max : Nat) (s : List Char) :
    readBounded? max s = (readNat? s).filter (· ≤ max) := by
  unfold readBounded? readNat? isDigits
  cases s.isEmpty with
  | true => rfl
  | false =>
    rw [if_neg Bool.false_ne_true, foldlM_appendDigit? (Nat.zero_le max)]
    cases s.all Char.isDigit <;> simp [ofDigits, Option.guard, Option.filter]

/-- The last number within the bound of signed numbers is the one before it. -/
theorem readBounded?_signedBound (s : List Char) :
    readBounded? (signedBound - 1) s = (readNat? s).filter (· < signedBound) := by
  have hbound : (fun n => decide (n ≤ signedBound - 1)) = fun n => decide (n < signedBound) := by
    funext n
    exact decide_eq_decide.2 (Nat.le_sub_one_iff_lt (by decide))
  rw [readBounded?_eq, hbound]

/-! ### Signed texts -/

theorem toList_toString_int (i : Int) : (toString i).toList =
    if i < 0 then '-' :: Nat.toDigits 10 i.natAbs else Nat.toDigits 10 i.natAbs := by
  cases i with
  | ofNat n => simp [Int.toString_eq_repr, Int.repr_eq_if]
  | negSucc n => simp [Int.toString_eq_repr, Int.repr_eq_if]

/-- A text that starts with a digit has no sign. -/
theorem readSigned?_of_isDigits {s : List Char} (h : isDigits s = true) :
    readSigned? s = ((readNat? s).filter (· < signedBound)).map Int.ofNat := by
  obtain ⟨c, rest, rfl, hc⟩ := exists_cons_of_isDigits h
  unfold readSigned?
  split
  · next heq => cases heq; cases hc
  · next heq => cases heq; cases hc
  · rw [readBounded?_signedBound]

theorem readSigned?_toString {i : Int} (hl : -(signedBound : Int) ≤ i) (hu : i < signedBound) :
    readSigned? (toString i).toList = some i := by
  rw [toList_toString_int]
  by_cases hi : i < 0
  · have hb : i.natAbs ≤ signedBound := by omega
    have habs : -(i.natAbs : Int) = i := by omega
    rw [if_pos hi]
    simp only [readSigned?]
    rw [readBounded?_eq, readNat?_toDigits, Option.filter_some_pos (by simpa using hb)]
    exact congrArg some habs
  · have hb : i.natAbs < signedBound := by omega
    have habs : Int.ofNat i.natAbs = i := Int.natAbs_of_nonneg (by omega)
    rw [if_neg hi, readSigned?_of_isDigits (isDigits_toDigits _), readNat?_toDigits,
      Option.filter_some_pos (by simpa using hb), Option.map_some, habs]

theorem readSigned?_toString_toInt (i : Int64) :
    readSigned? (toString i.toInt).toList = some i.toInt :=
  readSigned?_toString i.le_toInt i.toInt_lt

/-! ### Unsigned texts -/

/-- A text that starts with a digit has no sign. -/
theorem readUnsigned?_of_isDigits {s : List Char} (max : Nat) (h : isDigits s = true) :
    readUnsigned? max s = (readNat? s).filter (· ≤ max) := by
  obtain ⟨c, rest, rfl, hc⟩ := exists_cons_of_isDigits h
  unfold readUnsigned?
  split
  · next heq => cases heq; cases hc
  · rw [readBounded?_eq]

theorem readUnsigned?_toString {max n : Nat} (h : n ≤ max) :
    readUnsigned? max (toString n).toList = some n := by
  have hdigits : (toString n).toList = Nat.toDigits 10 n := by
    rw [Nat.toString_eq_repr, Nat.repr_eq_ofList_toDigits, String.toList_ofList]
  rw [hdigits, readUnsigned?_of_isDigits max (isDigits_toDigits n), readNat?_toDigits,
    Option.filter_some_pos (by simpa using h)]

/-! ### Numeric texts -/

/-- The numeric texts are the digit texts below the bound. -/
theorem isNumeric_iff {s : List Char} :
    isNumeric s = true ↔ isDigits s = true ∧ ofDigits s < signedBound := by
  rw [isNumeric, Bool.and_eq_true]
  refine and_congr_right fun hd => ?_
  rw [readSigned?_of_isDigits hd, readNat?, if_pos hd]
  simp [Option.filter]

theorem readSigned?_of_isNumeric {s : List Char} (h : isNumeric s = true) :
    readSigned? s = some (ofDigits s : Int) := by
  obtain ⟨hd, hlt⟩ := isNumeric_iff.1 h
  rw [readSigned?_of_isDigits hd, readNat?, if_pos hd, Option.filter_some_pos (by simpa using hlt)]
  rfl

theorem isDigit_of_isNumeric {s : List Char} (h : isNumeric s = true) {c : Char} (hc : c ∈ s) :
    c.isDigit = true :=
  (isDigits_iff.1 (isNumeric_iff.1 h).1).2 c hc

theorem ne_nil_of_isNumeric {s : List Char} (h : isNumeric s = true) : s ≠ [] :=
  (isDigits_iff.1 (isNumeric_iff.1 h).1).1

theorem isNumeric_toString_toInt {i : Int64} (h : 0 ≤ i.toInt) :
    isNumeric (toString i.toInt).toList = true := by
  have hlt : i.toInt < signedBound := i.toInt_lt
  rw [isNumeric_iff, toList_toString_int, if_neg (by omega), ofDigits_toDigits]
  exact ⟨isDigits_toDigits _, by omega⟩

theorem ofDigits_replicate_append (n : Nat) (s : List Char) :
    ofDigits (List.replicate n '0' ++ s) = ofDigits s := by
  induction n with
  | zero => rfl
  | succ n ih => exact ih

end JudgeClient.Numeral
