import JudgeClient.Text.Utf8
import Mathlib.Tactic.SplitIfs

/-!
# Octets and back

The reader of octets is a machine: a first octet says how many octets follow and what the next one
may be, and every octet that follows adds six bits.  The octets of a character take the machine
from its start to its start, and the number they add up to is the number of the character.  The
range of the second octet is what keeps out forms that are too long, surrogates and numbers that
are too large, and no character is any of these.

* `decodeFrom_encodeChar` : what is written for a character is read as that character;
* `decode_encode` : every text survives its octets.
-/

namespace JudgeClient.Utf8

/-! ### Octets are small -/

theorem toNat_bounds (c : Char) :
    c.toNat < 0xD800 ∨ 0xDFFF < c.toNat ∧ c.toNat < 0x110000 := c.valid

theorem lt_of_mem_encodeChar {c : Char} {b : Nat} (h : b ∈ encodeChar c) : b < 256 := by
  have hc := toNat_bounds c
  simp only [encodeChar] at h
  split_ifs at h <;> simp only [List.mem_cons, List.not_mem_nil, or_false] at h <;> omega

theorem lt_of_mem_encode {s : List Char} {b : Nat} (h : b ∈ encode s) : b < 256 := by
  obtain ⟨c, -, hb⟩ := List.mem_flatMap.1 h
  exact lt_of_mem_encodeChar hb

/-! ### Steps of the reader -/

variable {index seen left low high value b : Nat} (rest : List Nat)

/-- An octet below `0x80` is a character by itself. -/
theorem decodeFrom_single (h : b < 0x80) : decodeFrom index .start (b :: rest) =
    (decodeFrom (index + 1) .start rest).map (Char.ofNat b :: ·) := by
  rw [decodeFrom, if_pos h]

theorem le_of_follow? {f : Nat × Nat × Nat} (h : follow? b = some f) : 0xC2 ≤ b := by
  unfold follow? at h
  split_ifs at h <;> omega

/-- A first octet opens a sequence. -/
theorem decodeFrom_first (h : follow? b = some (left, low, high)) :
    decodeFrom index .start (b :: rest) = decodeFrom index (.inside 1 left low high
      (if left = 1 then b - 0xC0 else if left = 2 then b - 0xE0 else b - 0xF0)) rest := by
  have hb : ¬b < 0x80 := by have := le_of_follow? h; omega
  rw [decodeFrom, if_neg hb, h]

/-- An octet inside a sequence adds its six bits. -/
theorem decodeFrom_next (h : low ≤ b ∧ b ≤ high) :
    decodeFrom index (.inside seen (left + 2) low high value) (b :: rest) =
      decodeFrom index (.inside (seen + 1) (left + 1) 0x80 0xBF (value * 64 + (b - 0x80)))
        rest := by
  rw [decodeFrom, if_pos h]
  simp

/-- The last octet of a sequence completes a character. -/
theorem decodeFrom_last (h : low ≤ b ∧ b ≤ high) :
    decodeFrom index (.inside seen 1 low high value) (b :: rest) =
      (decodeFrom (index + seen + 1) .start rest).map
        (Char.ofNat (value * 64 + (b - 0x80)) :: ·) := by
  rw [decodeFrom, if_pos h]
  simp

/-! ### First octets -/

theorem follow?_two {n : Nat} (hl : 0x80 ≤ n) (hu : n < 0x800) :
    follow? (0xC0 + n / 64) = some (1, 0x80, 0xBF) := if_pos (by omega)

/-- The second octet of three is in its range: the character is not below `0x800`, and it is no
surrogate. -/
theorem follow?_three {n : Nat} (hl : 0x800 ≤ n) (hu : n < 0x10000)
    (hs : n < 0xD800 ∨ 0xDFFF < n) : ∃ low high, follow? (0xE0 + n / 4096) = some (2, low, high) ∧
      low ≤ 0x80 + n / 64 % 64 ∧ 0x80 + n / 64 % 64 ≤ high := by
  unfold follow?
  split_ifs <;> first | omega | exact ⟨_, _, rfl, by omega, by omega⟩

/-- The second octet of four is in its range: the character is not below `0x10000`, and there is
none from `0x110000` on. -/
theorem follow?_four {n : Nat} (hl : 0x10000 ≤ n) (hu : n < 0x110000) :
    ∃ low high, follow? (0xF0 + n / 262144) = some (3, low, high) ∧
      low ≤ 0x80 + n / 4096 % 64 ∧ 0x80 + n / 4096 % 64 ≤ high := by
  unfold follow?
  split_ifs <;> first | omega | exact ⟨_, _, rfl, by omega, by omega⟩

/-! ### Characters and texts -/

theorem decodeFrom_encodeChar (c : Char) (index : Nat) (rest : List Nat) :
    decodeFrom index .start (encodeChar c ++ rest) =
      (decodeFrom (index + (encodeChar c).length) .start rest).map (c :: ·) := by
  have hc := toNat_bounds c
  have hofNat : ∀ m, m = c.toNat → Char.ofNat m = c := fun m hm => by rw [hm, Char.ofNat_toNat]
  -- every octet but the first and the second is in its range for any six bits
  have hcont : ∀ m : Nat, 0x80 ≤ 0x80 + m % 64 ∧ 0x80 + m % 64 ≤ 0xBF := fun m => by omega
  simp only [encodeChar]
  split_ifs with h₁ h₂ h₃
  · simp only [List.cons_append, List.nil_append]
    rw [decodeFrom_single rest h₁, hofNat _ rfl]
    rfl
  · simp only [List.cons_append, List.nil_append]
    rw [decodeFrom_first _ (follow?_two (by omega) h₂), decodeFrom_last _ (hcont _),
      hofNat _ (by simp only [reduceIte, Nat.reduceEqDiff]; omega)]
    rfl
  · obtain ⟨low, high, hf, hr⟩ := follow?_three (by omega) h₃ (by omega)
    simp only [List.cons_append, List.nil_append]
    rw [decodeFrom_first _ hf, decodeFrom_next _ hr, decodeFrom_last _ (hcont _),
      hofNat _ (by simp only [reduceIte, Nat.reduceEqDiff]; omega)]
    rfl
  · obtain ⟨low, high, hf, hr⟩ := follow?_four (n := c.toNat) (by omega) (by omega)
    simp only [List.cons_append, List.nil_append]
    rw [decodeFrom_first _ hf, decodeFrom_next _ hr, decodeFrom_next _ (hcont _),
      decodeFrom_last _ (hcont _), hofNat _ (by simp only [reduceIte, Nat.reduceEqDiff]; omega)]
    rfl

theorem decodeFrom_encode (s : List Char) (index : Nat) :
    decodeFrom index .start (encode s) = .ok s := by
  induction s generalizing index with
  | nil => rfl
  | cons c s ih =>
    rw [encode, List.flatMap_cons, decodeFrom_encodeChar]
    exact congrArg (Except.map (c :: ·)) (ih _)

/-- **A text survives its octets.** -/
@[simp] theorem decode_encode (s : List Char) : decode (encode s) = .ok s := decodeFrom_encode s 0

end JudgeClient.Utf8
