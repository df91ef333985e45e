import JudgeClient.Json.Reader
import JudgeClient.Proofs.Json.Float
import JudgeClient.Proofs.Json.Text

/-!
# Single values read back

A compact text of a value starts with no blank and with no closing bracket, so a reader sees at
once which kind of value it is.

* `Reads` : a reader takes the text of one value for another value;
* `Leads`, `exists_cons_render` : what the text of a value starts with;
* `reads_int`, `reads_text`, `reads_choice` : integers, texts and spellings are taken for
  themselves;
* `reads_optional` : a value that cannot be taken for `null` may stand where `null` may.
-/

namespace JudgeClient.Json

/-- The reader takes the text of the first value for the second one, whatever may follow it. -/
def Reads (read : Reader Json) (v w : Json) : Prop :=
  ∀ s, Ends s → read (v.render ++ s) = .ok (w, s)

theorem skipGaps_cons {c : Char} (h : isGap c = false) (s : List Char) :
    skipGaps (c :: s) = c :: s := by
  simp [skipGaps, h]

/-! ### What a value starts with -/

/-- The character may stand at the front of a value. -/
def Opens (c : Char) : Prop := isGap c = false ∧ c ≠ ']'

instance (c : Char) : Decidable (Opens c) := inferInstanceAs (Decidable (_ ∧ _))

theorem opens_of_isNumber {c : Char} (h : (c == '-' || c.isDigit) = true) : Opens c := by
  constructor
  · cases hc : isGap c with
    | false => rfl
    | true =>
      simp only [isGap, Bool.or_eq_true, beq_iff_eq] at hc
      rcases hc with ((rfl | rfl) | rfl) | rfl <;> cases h
  · rintro rfl
    cases h

/-- The character may stand at the front of the text of the value. -/
def Leads : Json → Char → Prop
  | .null, c => c = 'n'
  | .bool b, c => c = if b then 't' else 'f'
  | .int _, c => (c == '-' || c.isDigit) = true
  | .float _, c => (c == '-' || c.isDigit) = true ∨ c ∈ ['n', 'N', 'i']
  | .text _, c => c = '"'
  | .array _, c => c = '['
  | .object _, c => c = '\x7b'

instance (v : Json) (c : Char) : Decidable (Leads v c) :=
  match v with
  | .null | .text _ | .array _ | .object _ => inferInstanceAs (Decidable (c = _))
  | .bool b => inferInstanceAs (Decidable (c = if b then 't' else 'f'))
  | .int _ => inferInstanceAs (Decidable ((c == '-' || c.isDigit) = true))
  | .float _ => inferInstanceAs (Decidable ((c == '-' || c.isDigit) = true ∨ c ∈ ['n', 'N', 'i']))

theorem Leads.opens {v : Json} {c : Char} (h : Leads v c) : Opens c := by
  have hwords : ∀ c ∈ ['n', 'N', 'i'], Opens c := by
    intro c hc
    simp only [List.mem_cons, List.not_mem_nil, or_false] at hc
    rcases hc with rfl | rfl | rfl <;> decide
  cases v with
  | bool b =>
    obtain rfl : c = if b then 't' else 'f' := h
    cases b <;> decide
  | int i => exact opens_of_isNumber h
  | float x => exact h.elim opens_of_isNumber (hwords c)
  | null | text | array | object =>
    obtain rfl := h
    decide

theorem exists_cons_toString_int (i : Int) : ∃ c s, (toString i).toList = c :: s ∧
    (c == '-' || c.isDigit) = true := by
  rw [Numeral.toList_toString_int]
  by_cases hi : i < 0
  · exact ⟨'-', _, if_pos hi, rfl⟩
  · obtain ⟨c, s, hs, hc⟩ := exists_cons_toDigits i.natAbs
    exact ⟨c, s, by rw [if_neg hi, hs], by simp [hc]⟩

theorem exists_cons_renderFloat (x : Float) :
    ∃ c s, renderFloat x = c :: s ∧ ((c == '-' || c.isDigit) = true ∨ c ∈ ['n', 'N', 'i']) := by
  rcases exists_cons_or_mem_infiniteWords x with ⟨c, s, hs, hc⟩ | hword
  · exact ⟨c, s, hs, .inl hc⟩
  · rcases mem_infiniteWords.1 hword with hx | hx | hx | hx
    · exact ⟨'n', _, hx, by decide⟩
    · exact ⟨'N', _, hx, by decide⟩
    · exact ⟨'i', _, hx, by decide⟩
    · exact ⟨'-', _, hx, by decide⟩

theorem exists_cons_render (v : Json) : ∃ c s, v.render = c :: s ∧ Leads v c := by
  cases v with
  | null => exact ⟨_, _, rfl, rfl⟩
  | bool b => cases b <;> exact ⟨_, _, rfl, rfl⟩
  | int i => exact exists_cons_toString_int i
  | float x => exact exists_cons_renderFloat x
  | text t => exact ⟨_, _, rfl, rfl⟩
  | array items => exact ⟨_, _, by rw [render], rfl⟩
  | object es => exact ⟨_, _, by rw [render], rfl⟩

/-- No blanks are skipped in front of a value. -/
theorem skipGaps_render (v : Json) (s : List Char) :
    skipGaps (v.render ++ s) = v.render ++ s := by
  obtain ⟨c, t, ht, hc⟩ := exists_cons_render v
  rw [ht, List.cons_append, skipGaps_cons hc.opens.1]

/-! ### Single values -/

/-- An integer is taken for itself, if it is between the bounds and fits 64 bits. -/
theorem reads_int {low high i : Int} (hl : low ≤ i) (hu : i ≤ high)
    (hlow : -(Numeral.signedBound : Int) ≤ low) (hhigh : high < UInt64.size) (wanted : String) :
    Reads (readInt low high wanted) (.int i) (.int i) := by
  intro s hs
  have hread := readNumber_toString (Int.le_trans hlow hl) (Int.lt_of_le_of_lt hu hhigh) hs
  obtain ⟨c, t, ht, hc⟩ := exists_cons_toString_int i
  rw [ht, List.cons_append] at hread
  rw [readInt, render, ht, List.cons_append, skipGaps_cons (opens_of_isNumber hc).1]
  simp only [hc, if_true, hread]
  exact if_pos ⟨hl, hu⟩

theorem reads_text (wanted t : String) : Reads (readString wanted) (.text t) (.text t) := by
  intro s _
  rw [readString, render, renderText_append, skipGaps_cons (by decide)]
  simp only [readText_renderText, Except.map]

theorem reads_choice {spellings : List String} {t : String} (h : t ∈ spellings) (depth : Nat) :
    Reads (readChoice depth spellings) (.text t) (.text t) := by
  intro s _
  have hcheck : checkSpelling spellings t = .ok () := if_pos (by simpa using h)
  rw [readChoice, render, renderText_append, skipGaps_cons (by decide)]
  simp only [bind, Except.bind, readText_renderText, hcheck]
  rfl

theorem reads_optional_null (inner : Reader Json) : Reads (readOptional inner) .null .null := by
  intro s _
  rfl

/-- A value stands for itself where `null` may stand, unless it starts like `null`. -/
theorem reads_optional {inner : Reader Json} {v w : Json} (h : Reads inner v w)
    (hnull : 'n' ∉ v.render.head?) : Reads (readOptional inner) v w := by
  intro s hs
  have hread := h s hs
  rw [readOptional, skipGaps_render]
  obtain ⟨c, t, ht, -⟩ := exists_cons_render v
  rw [ht] at hnull hread ⊢
  split
  case h_1 heq =>
    obtain rfl : c = 'n' := (List.cons.inj heq).1
    exact absurd rfl hnull
  case h_2 => exact hread

end JudgeClient.Json
