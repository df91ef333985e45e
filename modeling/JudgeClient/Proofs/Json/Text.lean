import JudgeClient.Json.Printer
import JudgeClient.Json.Token

/-!
# Quoted texts read back

A printed text is a run of characters and escapes, each of which the scanner takes for the
character that it was printed for.  The only escapes that are printed are the short ones and
`\u00XY`, so a scan of a printed text never sees half of a surrogate pair.

* `scanText_escapeChar` : one character, whatever the printer makes of it;
* `readText_renderText` : a whole text, and what follows it.
-/

namespace JudgeClient.Json

/-! ### Numeric escapes -/

theorem hexValue?_hexDigit {n : Nat} (h : n < 16) : hexValue? (hexDigit n) = some n := by
  have hall : ∀ n < 16, hexValue? (hexDigit n) = some n := by decide
  exact hall n h

/-- Four digits are enough for a numeric escape, whatever follows them. -/
theorem lacksUnit_append {digits : List Char} (h : Utf8.size digits = 4)
    (hlen : digits.length = 4) (s : List Char) : lacksUnit (digits ++ s) = false := by
  have htake : (digits ++ s).take 4 = digits := by rw [← hlen, List.take_left']; rfl
  simp [lacksUnit, htake, h]

/-- A control character without a short escape. -/
theorem scanText_control {n : Nat} (h : n < 32) (acc s : List Char) :
    scanText .plain acc
        (['\\', 'u'] ++ (['0', '0', hexDigit (n / 16), hexDigit (n % 16)] ++ s)) =
      scanText .plain (Char.ofNat n :: acc) s := by
  have hsize : ∀ n < 32, Utf8.size ['0', '0', hexDigit (n / 16), hexDigit (n % 16)] = 4 := by
    decide
  have hlacks := lacksUnit_append (hsize n h) rfl s
  have hzero : hexValue? '0' = some 0 := by decide
  have hhigh : hexValue? (hexDigit (n / 16)) = some (n / 16) := hexValue?_hexDigit (by omega)
  have hlow : hexValue? (hexDigit (n % 16)) = some (n % 16) := hexValue?_hexDigit (by omega)
  have hvalue : n / 16 * 16 + n % 16 = n := by omega
  have hfinish : finishUnit none n = .ok (.inl (Char.ofNat n)) := by
    rw [finishUnit, if_neg (by omega), if_neg (by omega)]
  simp only [List.cons_append, List.nil_append] at hlacks ⊢
  simp [scanText, hlacks, hzero, hhigh, hlow, hvalue, hfinish]

/-! ### Texts -/

/-- The scanner takes what is printed for a character for that character. -/
theorem scanText_escapeChar (c : Char) (acc s : List Char) :
    scanText .plain acc (escapeChar c ++ s) = scanText .plain (c :: acc) s := by
  unfold escapeChar
  split
  case h_8 hquote hback _ _ _ _ _ =>
    by_cases h : c.toNat < 32
    · have hc := scanText_control h acc s
      rw [Char.ofNat_toNat] at hc
      rw [if_pos h]
      exact hc
    · rw [if_neg h, List.singleton_append, scanText, if_neg hquote, if_neg hback, if_neg h]
  all_goals rfl

theorem scanText_flatMap_escapeChar (cs acc s : List Char) :
    scanText .plain acc (cs.flatMap escapeChar ++ '"' :: s) = .ok (acc.reverse ++ cs, s) := by
  induction cs generalizing acc with
  | nil => simp [scanText]
  | cons c cs ih =>
    rw [List.flatMap_cons, List.append_assoc, scanText_escapeChar, ih, List.reverse_cons,
      List.append_assoc, List.singleton_append]

theorem renderText_append (t : String) (s : List Char) :
    renderText t ++ s = '"' :: (t.toList.flatMap escapeChar ++ '"' :: s) := by
  simp [renderText]

/-- A printed text reads back, behind its opening mark. -/
theorem readText_renderText (t : String) (s : List Char) :
    readText (t.toList.flatMap escapeChar ++ '"' :: s) = .ok (t, s) := by
  rw [readText, scanText_flatMap_escapeChar]
  simp [Except.map]

end JudgeClient.Json
