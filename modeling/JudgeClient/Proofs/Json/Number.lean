import JudgeClient.Json.Number
import JudgeClient.Proofs.Numeral
import Mathlib.Data.List.TakeDrop

/-!
# Integers read back

The decimal text of an integer is a number without a point, without an exponent and without a
leading zero.  It stays an integer when it is read as long as it fits 64 bits, which is watched
digit by digit, and as long as what follows cannot be taken for more of the number.

* `Ends` : what may follow a value inside a list or an object, or at the end of a text;
* `readNumber_toString` : an integer in front of such a text reads back.
-/

namespace JudgeClient.Json

/-! ### Steps of a reading -/

theorem exists_of_bind_eq_ok {α β : Type} {x : Except Fault α} {f : α → Except Fault β} {b : β}
    (h : x >>= f = .ok b) : ∃ a, x = .ok a ∧ f a = .ok b := by
  cases x with
  | error e => cases h
  | ok a => exact ⟨a, rfl, h⟩

theorem exists_of_map_eq_ok {α β : Type} {x : Except Fault α} {f : α → β} {b : β}
    (h : x.map f = .ok b) : ∃ a, x = .ok a ∧ f a = b := by
  cases x with
  | error e => cases h
  | ok a => exact ⟨a, rfl, Except.ok.inj h⟩

/-! ### What follows a value -/

/-- The text is at its end, or goes on with a comma or a closing bracket. -/
def Ends (s : List Char) : Prop := ∀ c ∈ s.head?, c = ',' ∨ c = ']' ∨ c = '}'

theorem ends_nil : Ends [] := by
  intro c hc
  cases hc

theorem ends_cons {c : Char} (h : c = ',' ∨ c = ']' ∨ c = '}') (s : List Char) : Ends (c :: s) := by
  intro d hd
  obtain rfl : c = d := by simpa using hd
  exact h

/-- No character that ends a value belongs to a number. -/
theorem Ends.not_number {s : List Char} (h : Ends s) {c : Char} (hc : c ∈ s.head?) :
    c.isDigit = false ∧ c ≠ '.' ∧ c ≠ 'e' ∧ c ≠ 'E' := by
  rcases h c hc with rfl | rfl | rfl <;> decide

/-! ### Digits -/

theorem isDigit_of_mem_toDigits {n : Nat} {c : Char} (h : c ∈ Nat.toDigits 10 n) :
    c.isDigit = true :=
  Nat.isDigit_of_mem_toDigits (by decide) (by decide) h

theorem exists_cons_toDigits (n : Nat) :
    ∃ c ds, Nat.toDigits 10 n = c :: ds ∧ c.isDigit = true := by
  obtain ⟨c, ds, hds⟩ := List.exists_cons_of_ne_nil (Nat.toDigits_ne_nil (n := n) (b := 10))
  have hc : c ∈ Nat.toDigits 10 n := by
    rw [hds]
    exact List.mem_cons_self
  exact ⟨c, ds, hds, isDigit_of_mem_toDigits hc⟩

/-- The digits of a number do not start with a zero, unless they are nothing else. -/
theorem head?_toDigits_ne_zero {n : Nat} (h : 0 < n) : (Nat.toDigits 10 n).head? ≠ some '0' := by
  induction n using Nat.strongRecOn with
  | ind n ih =>
    by_cases hn : n < 10
    · have hdigit : ∀ n < 10, 0 < n → Nat.digitChar n ≠ '0' := by decide
      rw [Nat.toDigits_of_lt_base hn]
      simpa using hdigit n hn h
    · -- the leading digit is that of the tenth part
      have htenth := ih (n / 10) (by omega) (by omega)
      obtain ⟨d, ds, hds, -⟩ := exists_cons_toDigits (n / 10)
      rw [hds] at htenth
      rw [Nat.toDigits_of_base_le (by decide) (by omega), hds]
      exact htenth

/-- Digits whose value fits 64 bits fit one after the other. -/
theorem addDigits_of_lt {n : Nat} {ds : List Char}
    (h : ds.foldl (fun n d => n * 10 + Numeral.digitValue d) n < UInt64.size) :
    addDigits n ds = (ds.foldl (fun n d => n * 10 + Numeral.digitValue d) n, []) := by
  induction ds generalizing n with
  | nil => rfl
  | cons d ds ih =>
    have hnext : n * 10 + Numeral.digitValue d < UInt64.size :=
      Nat.lt_of_le_of_lt (Numeral.le_foldl_digits _ ds) h
    rw [addDigits]
    simp only [if_pos hnext]
    exact ih h

theorem addDigits_toDigits {n : Nat} (h : n < UInt64.size) :
    addDigits 0 (Nat.toDigits 10 n) = (n, []) := by
  have hn : (Nat.toDigits 10 n).foldl (fun n d => n * 10 + Numeral.digitValue d) 0 = n :=
    Numeral.ofDigits_toDigits n
  rw [addDigits_of_lt (by rwa [hn]), hn]

/-- A run of digits goes up to the first character that is none. -/
theorem span_append {ds s : List Char} (hds : ∀ c ∈ ds, c.isDigit = true)
    (hs : ∀ c ∈ s.head?, c.isDigit = false) : (ds ++ s).span Char.isDigit = (ds, s) := by
  have hstop : s.takeWhile Char.isDigit = [] ∧ s.dropWhile Char.isDigit = s := by
    cases s with
    | nil => exact ⟨rfl, rfl⟩
    | cons c s => simp [hs c rfl]
  rw [List.span_eq_takeWhile_dropWhile, List.takeWhile_append_of_pos hds,
    List.dropWhile_append_of_pos hds, hstop.1, hstop.2, List.append_nil]

theorem span_toDigits {s : List Char} (hs : Ends s) (n : Nat) :
    (Nat.toDigits 10 n ++ s).span Char.isDigit = (Nat.toDigits 10 n, s) :=
  span_append (fun _ => isDigit_of_mem_toDigits) fun _ hc => (hs.not_number hc).1

/-! ### Integers -/

theorem scanUnsigned_toDigits (negative : Bool) {n : Nat} (hn : n < UInt64.size) {s : List Char}
    (hs : Ends s) : scanUnsigned negative (Nat.toDigits 10 n ++ s) =
      .ok (signedNumber negative n, s) := by
  have hadd := addDigits_toDigits hn
  -- neither a point nor an exponent follows
  have hpoint : ∀ t, s ≠ '.' :: t := by
    rintro t rfl
    exact (hs.not_number rfl).2.1 rfl
  have hexponent : (s.head? != some 'e') = true ∧ (s.head? != some 'E') = true := by
    cases hc : s.head? with
    | none => decide
    | some c =>
      obtain ⟨-, -, he, hE⟩ := hs.not_number hc
      simp [he, hE]
  rw [scanUnsigned, span_toDigits hs]
  split
  case h_1 h =>
    exact absurd (congrArg Prod.fst h) Nat.toDigits_ne_nil
  case h_2 h =>
    exact absurd (congrArg Prod.fst h) Nat.toDigits_ne_nil
  case h_3 c ds _ h =>
    -- the number is not zero, as it has two digits at least
    have hds : Nat.toDigits 10 n = '0' :: c :: ds := congrArg Prod.fst h
    have hpos : 0 < n := by
      rcases Nat.eq_zero_or_pos n with rfl | hpos
      · cases hds
      · exact hpos
    exact absurd (by rw [hds]; rfl) (head?_toDigits_ne_zero hpos)
  case h_4 h =>
    obtain ⟨rfl, rfl⟩ := Prod.mk.injEq .. ▸ h
    simp only [hadd, List.isEmpty_nil, hexponent, Bool.and_self, if_true]

/-- A text that starts with a digit is a number without a sign. -/
theorem readNumber_of_isDigit {c : Char} (hc : c.isDigit = true) (s : List Char) :
    readNumber (c :: s) = scanUnsigned false (c :: s) := by
  have hne : c ≠ '-' := by
    rintro rfl
    cases hc
  simp [readNumber, hne]

/-- An integer of at most 64 bits, with its sign, reads back. -/
theorem readNumber_toString {i : Int} (hl : -(Numeral.signedBound : Int) ≤ i)
    (hu : i < UInt64.size) {s : List Char} (hs : Ends s) :
    readNumber ((toString i).toList ++ s) = .ok (.int i, s) := by
  rw [Numeral.toList_toString_int]
  by_cases hi : i < 0
  · have hsize : Numeral.signedBound < UInt64.size := by decide
    have habs : -(i.natAbs : Int) = i := by omega
    have hsigned : signedNumber true i.natAbs = .int i := by
      have hb : 0 < i.natAbs ∧ i.natAbs ≤ Numeral.signedBound := by omega
      simp only [signedNumber, Bool.not_true, Bool.false_eq_true, if_false, if_pos hb, habs]
    rw [if_pos hi, List.cons_append]
    show scanUnsigned true (Nat.toDigits 10 i.natAbs ++ s) = _
    rw [scanUnsigned_toDigits true (by omega) hs, hsigned]
  · have hb : i.natAbs < UInt64.size := by omega
    have habs : (i.natAbs : Int) = i := Int.natAbs_of_nonneg (by omega)
    have hsigned : signedNumber false i.natAbs = .int i := by
      simp only [signedNumber, Bool.not_false, if_true, habs]
    obtain ⟨c, ds, hds, hc⟩ := exists_cons_toDigits i.natAbs
    have hscan := scanUnsigned_toDigits false hb hs
    rw [hds] at hscan
    rw [if_neg hi, hds, List.cons_append, readNumber_of_isDigit hc, ← List.cons_append, hscan,
      hsigned]

/-! ### Numbers that nobody looks at -/

/-- The text behind an ignored number that has no sign. -/
def skipUnsigned (s : List Char) : Except Fault (List Char) :=
  match s.span Char.isDigit with
  | ([], _) => .error .badNumber
  | ('0' :: _ :: _, _) => .error .badNumber
  | (_, '.' :: rest) =>
    match rest.span Char.isDigit with
    | ([], _) => .error .badNumber
    | (_, rest) => skipEnd rest
  | (_, rest) => skipEnd rest

theorem skipNumber_of_ne {s : List Char} (h : ∀ t, s ≠ '-' :: t) :
    skipNumber s = skipUnsigned s := by
  unfold skipNumber
  split
  · next t => exact absurd rfl (h t)
  · rfl

end JudgeClient.Json
