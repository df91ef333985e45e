import JudgeClient.Proofs.Text.Blank
import JudgeClient.Proofs.Toml.Text
import JudgeClient.Toml.Reader

/-!
# Values in TOML

The values that matter to a configuration are strings, in any of their forms, and decimal numbers,
whose digits may stand in groups.

* `Grammar.Value` : a text starts with a value;
* `readValue?_of_value` : the value is read, however deep values may be nested.
-/

namespace JudgeClient.Toml

namespace Grammar

/-- The digits of a number in groups, without superfluous zeros before them. -/
structure IsGrouped (groups : List (List Char)) : Prop where
  ne_nil : groups ≠ []
  digits : ∀ group ∈ groups, group ≠ [] ∧ ∀ c ∈ group, c.isDigit = true
  zeros : ∀ c rest, groups.flatten ≠ '0' :: c :: rest

/-- A string, a decimal number, or whatever else is read. -/
inductive Value : List Char → Node → List Char → Prop
  | text {s v t : List Char} (h : Text s v t) : Value s (.text (String.ofList v)) t
  | number {groups : List (List Char)} {t : List Char} (h : IsGrouped groups)
      (hbound : Numeral.ofDigits groups.flatten < Numeral.signedBound)
      (ht : ∀ c ∈ t.head?, isWordChar c = false) :
      Value (['_'].intercalate groups ++ t) (.int (Numeral.ofDigits groups.flatten)) t
  | other {s t : List Char} {node : Node} (h : readValue? maxDepth s = some (node, t)) :
      Value s node t

end Grammar

/-! ### Strings -/

theorem readValue?_of_text {depth : Nat} {s v t : List Char} (h : Grammar.Text s v t) :
    readValue? depth s = some (.text (String.ofList v), t) := by
  have hread : (readText? s).map (fun r => (Node.text (String.ofList r.1), r.2)) =
      some (.text (String.ofList v), t) := by rw [Grammar.text_iff.2 h, Option.map_some]
  cases h <;> (rw [readValue?]; exact hread)

/-! ### Numbers -/

section Number

variable {groups : List (List Char)} {s : List Char}

/-- Digits and underscores, with a digit first. -/
structure IsNumeral (s : List Char) : Prop where
  first : ∃ c rest, s = c :: rest ∧ c.isDigit = true
  chars : ∀ c ∈ s, c = '_' ∨ c.isDigit = true

theorem Grammar.IsGrouped.isNumeral (h : Grammar.IsGrouped groups) :
    IsNumeral (['_'].intercalate groups) := by
  refine ⟨?_, fun c hc => ?_⟩
  · obtain ⟨group, groups, rfl⟩ := List.exists_cons_of_ne_nil h.ne_nil
    obtain ⟨hne, hdigits⟩ := h.digits group List.mem_cons_self
    obtain ⟨c, rest, rfl⟩ := List.exists_cons_of_ne_nil hne
    cases groups with
    | nil => exact ⟨c, rest, List.intercalate_singleton, hdigits c List.mem_cons_self⟩
    | cons next groups =>
      rw [List.intercalate_cons_cons]
      exact ⟨c, _, rfl, hdigits c List.mem_cons_self⟩
  · rcases Text.eq_or_mem_of_mem_intercalate hc with hsep | ⟨group, hgroup, hc⟩
    · exact .inl hsep
    · exact .inr ((h.digits group hgroup).2 c hc)

/-- The groups are told apart, and together they are the digits of the number. -/
theorem decimal?_of_isGrouped (h : Grammar.IsGrouped groups) :
    decimal? (['_'].intercalate groups) = some (Numeral.ofDigits groups.flatten) := by
  have hsplit : (['_'].intercalate groups).splitOn '_' = groups :=
    List.splitOn_intercalate '_'
      (fun group hgroup hmem => absurd ((h.digits group hgroup).2 '_' hmem) (by decide)) h.ne_nil
  have hall : (groups.all fun g => !g.isEmpty && g.all Char.isDigit) = true := by
    refine List.all_eq_true.2 fun group hgroup => ?_
    obtain ⟨hne, hdigits⟩ := h.digits group hgroup
    simpa [hne] using hdigits
  have hdigits : digits? Char.isDigit (['_'].intercalate groups) = some groups.flatten := by
    simp only [digits?, hsplit, hall, if_true]
  have hzeros : decimalDigits? (['_'].intercalate groups) = some groups.flatten := by
    rw [decimalDigits?, hdigits]
    dsimp only [Option.bind_eq_bind, Option.bind_some]
    split
    · next c rest heq => exact absurd heq (h.zeros c rest)
    · rfl
  rw [decimal?, hzeros, Option.map_some]

theorem IsNumeral.ne {c : Char} (h : IsNumeral s) (hc : c ∈ s) (d : Char)
    (hd : d ≠ '_' ∧ d.isDigit = false) : c ≠ d := by
  rintro rfl
  rcases h.chars c hc with heq | hdigit
  · exact hd.1 heq
  · cases hdigit.symm.trans hd.2

/-- Without a dash there is no date. -/
theorem IsNumeral.date?_eq (h : IsNumeral s) : date? s = none := by
  have hmark : mark? '-' (s.drop 4) = none := by
    cases hs : s.drop 4 with
    | nil => rfl
    | cons c rest =>
      have hc : c ∈ s := List.mem_of_mem_drop (hs ▸ List.mem_cons_self)
      rw [mark?, if_neg (h.ne hc '-' (by decide)).symm]
  unfold date?
  split
  · rfl
  · rw [hmark]
    rfl

/-- There is neither a sign nor a mark for another base. -/
theorem IsNumeral.int?_eq (h : IsNumeral s) : int? s = nonnegative? (decimal? s) := by
  unfold int?
  split
  · exact absurd rfl (h.ne (c := 'x') (by simp) 'x' (by decide))
  · exact absurd rfl (h.ne (c := 'o') (by simp) 'o' (by decide))
  · exact absurd rfl (h.ne (c := 'b') (by simp) 'b' (by decide))
  · exact absurd rfl (h.ne (c := '-') (by simp) '-' (by decide))
  · exact absurd rfl (h.ne (c := '+') (by simp) '+' (by decide))
  · rfl

/-- A number is a word of its own. -/
theorem IsNumeral.readWord?_append {t : List Char} (h : IsNumeral s)
    (ht : ∀ c ∈ t.head?, isWordChar c = false) :
    readWord? (s ++ t) = (word? s).map (·, t) := by
  have hword : ∀ c ∈ s, isWordChar c = true := by
    intro c hc
    rcases h.chars c hc with rfl | hdigit
    · rfl
    · simp [isWordChar, Char.isAlphanum, hdigit]
  have htake : (s ++ t).takeWhile isWordChar = s := Text.takeWhile_append_of_head hword ht
  have hdrop : (s ++ t).dropWhile isWordChar = t := Text.dropWhile_append_of_head hword ht
  unfold readWord?
  extract_lets word rest more
  have hdate : ¬(date? word = some [] ∧ (time? more).isSome = true) := by
    rintro ⟨hdate, -⟩
    rw [show word = s from htake, h.date?_eq] at hdate
    cases hdate
  rw [if_neg hdate, show word = s from htake, show rest = t from hdrop]
  cases word? s <;> rfl

theorem IsNumeral.readValue?_append {depth : Nat} {t : List Char} (h : IsNumeral s)
    (ht : ∀ c ∈ t.head?, isWordChar c = false) :
    readValue? depth (s ++ t) = (word? s).map (·, t) := by
  rw [← h.readWord?_append ht]
  obtain ⟨c, rest, rfl, hc⟩ := h.first
  unfold readValue?
  split
  · next heq => cases heq; cases hc
  · next heq => cases heq; cases hc
  · next heq => cases heq; cases hc
  · next heq => cases heq; cases hc
  · rfl

theorem IsNumeral.word?_eq (h : IsNumeral s) {i : Int} (hi : int? s = some i) :
    word? s = some (.int i) := by
  obtain ⟨c, rest, rfl, hc⟩ := h.first
  have htrue : c :: rest ≠ "true".toList := by
    intro heq
    cases heq
    cases hc
  have hfalse : c :: rest ≠ "false".toList := by
    intro heq
    cases heq
    cases hc
  rw [word?, if_neg htrue, if_neg hfalse, hi]

theorem readValue?_of_isGrouped {depth : Nat} {t : List Char} (h : Grammar.IsGrouped groups)
    (hbound : Numeral.ofDigits groups.flatten < Numeral.signedBound)
    (ht : ∀ c ∈ t.head?, isWordChar c = false) :
    readValue? depth (['_'].intercalate groups ++ t) =
      some (.int (Numeral.ofDigits groups.flatten), t) := by
  have hint : int? (['_'].intercalate groups) = some (Numeral.ofDigits groups.flatten : Int) := by
    rw [h.isNumeral.int?_eq, decimal?_of_isGrouped h, nonnegative?,
      Option.filter_some_pos (by simpa using hbound)]
    rfl
  rw [h.isNumeral.readValue?_append ht, h.isNumeral.word?_eq hint, Option.map_some]

end Number

theorem readValue?_of_value {s t : List Char} {node : Node} (h : Grammar.Value s node t) :
    readValue? maxDepth s = some (node, t) := by
  cases h with
  | text h => exact readValue?_of_text h
  | number h hbound ht => exact readValue?_of_isGrouped h hbound ht
  | other h => exact h

end JudgeClient.Toml
