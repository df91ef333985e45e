import JudgeClient.Text.Blank
import Mathlib.Data.List.TakeWhile

/-!
# What trimming leaves

Trimming takes the longest runs of blanks away from both ends of a text.

* `takeWhile_append_of_head`, `dropWhile_append_of_head`, `exists_append_dropWhile` : the longest
  run of certain characters that a text starts with;
* `IsTrimmed` : what is left of a text, without a word about how it is found;
* `trim_eq_iff` : trimming finds it;
* `dropTrailing_eq_iff` : the same for the run of one character at the end.
-/

namespace JudgeClient.Text

theorem isBlank_of_isDigit {c : Char} (h : c.isDigit = true) : isBlank c = false := by
  have hdigit : 48 ≤ c.toNat ∧ c.toNat ≤ 57 := Char.isDigit_iff_toNat.1 h
  simp only [isBlank, Bool.or_eq_false_iff, Bool.and_eq_false_iff, decide_eq_false_iff_not,
    beq_eq_false_iff_ne, ne_eq]
  omega

/-! ### Texts in parts -/

theorem eq_or_mem_of_mem_intercalate {sep c : Char} {parts : List (List Char)}
    (h : c ∈ [sep].intercalate parts) : c = sep ∨ ∃ part ∈ parts, c ∈ part := by
  induction parts with
  | nil => cases h
  | cons part parts ih =>
    cases parts with
    | nil => exact .inr ⟨part, List.mem_cons_self, by simpa using h⟩
    | cons next parts =>
      simp only [List.intercalate_cons_cons, List.mem_append, List.mem_singleton] at h
      rcases h with (h | h) | h
      · exact .inr ⟨part, List.mem_cons_self, h⟩
      · exact .inl h
      · rcases ih h with h | ⟨p, hp, hc⟩
        · exact .inl h
        · exact .inr ⟨p, List.mem_cons_of_mem part hp, hc⟩

theorem dropWhile_append_of_head {p : Char → Bool} {u t : List Char} (hu : ∀ c ∈ u, p c = true)
    (ht : ∀ c ∈ t.head?, p c = false) : (u ++ t).dropWhile p = t := by
  rw [List.dropWhile_append_of_pos hu]
  cases t with
  | nil => rfl
  | cons c t => exact List.dropWhile_cons_of_neg (by simp [ht c rfl])

theorem takeWhile_append_of_head {p : Char → Bool} {u t : List Char} (hu : ∀ c ∈ u, p c = true)
    (ht : ∀ c ∈ t.head?, p c = false) : (u ++ t).takeWhile p = u := by
  rw [List.takeWhile_append_of_pos hu]
  cases t with
  | nil => exact List.append_nil u
  | cons c t => rw [List.takeWhile_cons_of_neg (by simp [ht c rfl]), List.append_nil]

theorem exists_append_dropWhile (p : Char → Bool) (s : List Char) :
    ∃ u, s = u ++ s.dropWhile p ∧ (∀ c ∈ u, p c = true) ∧
      ∀ c ∈ (s.dropWhile p).head?, p c = false := by
  refine ⟨s.takeWhile p, List.takeWhile_append_dropWhile.symm,
    fun c hc => List.mem_takeWhile_imp hc, fun c hc => ?_⟩
  have hhead := List.head?_dropWhile_not p s
  rw [Option.mem_def.1 hc] at hhead
  simpa using hhead

/-! ### Trimming -/

/-- The second text is the first one without the blanks around it: what is taken away is blank,
and what is left neither starts nor ends with a blank. -/
def IsTrimmed (s t : List Char) : Prop :=
  ∃ before after, s = before ++ (t ++ after) ∧
    (∀ c ∈ before, isBlank c = true) ∧ (∀ c ∈ after, isBlank c = true) ∧
    (∀ c ∈ t.head?, isBlank c = false) ∧ (∀ c ∈ t.getLast?, isBlank c = false)

/-- Without blanks at its end, a text is what is left of it with them. -/
theorem trimEnd_append {t after : List Char} (hafter : ∀ c ∈ after, isBlank c = true)
    (hlast : ∀ c ∈ t.getLast?, isBlank c = false) : trimEnd (t ++ after) = t := by
  have hdrop : (after.reverse ++ t.reverse).dropWhile isBlank = t.reverse :=
    dropWhile_append_of_head (fun c hc => hafter c (List.mem_reverse.1 hc))
      (by rwa [List.head?_reverse])
  rw [trimEnd, List.reverse_append, hdrop, List.reverse_reverse]

theorem IsTrimmed.trim_eq {s t : List Char} (h : IsTrimmed s t) : trim s = t := by
  obtain ⟨before, after, rfl, hbefore, hafter, hhead, hlast⟩ := h
  have hend : trimEnd (t ++ after) = t := trimEnd_append hafter hlast
  rw [trim, trimStart, List.dropWhile_append_of_pos hbefore]
  cases t with
  | nil =>
    have hblank : after.dropWhile isBlank = [] := List.dropWhile_eq_nil_iff.2 hafter
    rw [List.nil_append, hblank]
    rfl
  | cons c t =>
    rwa [List.cons_append, List.dropWhile_cons_of_neg (by simp [hhead c rfl])]

theorem isTrimmed_trim (s : List Char) : IsTrimmed s (trim s) := by
  obtain ⟨before, hs, hbefore, hhead⟩ := exists_append_dropWhile isBlank s
  obtain ⟨u, hu, hafter, hlast⟩ := exists_append_dropWhile isBlank (trimStart s).reverse
  have hstart : trimStart s = trim s ++ u.reverse := by
    have hreverse := congrArg List.reverse hu
    rwa [List.reverse_reverse, List.reverse_append] at hreverse
  refine ⟨before, u.reverse, ?_, hbefore, fun c hc => hafter c (List.mem_reverse.1 hc), ?_, ?_⟩
  · rw [← hstart]
    exact hs
  · intro c hc
    refine hhead c ?_
    show c ∈ (trimStart s).head?
    rw [hstart, List.head?_append, Option.mem_def.1 hc]
    rfl
  · intro c hc
    refine hlast c ?_
    rwa [trim, trimEnd, List.getLast?_reverse] at hc

/-- What is left without the run of a character at the end. -/
theorem dropTrailing_eq_iff {c : Char} {s t : List Char} :
    dropTrailing c s = t ↔ (∃ n, s = t ++ List.replicate n c) ∧ t.getLast? ≠ some c := by
  constructor
  · rintro rfl
    obtain ⟨u, hu, hrun, hlast⟩ := exists_append_dropWhile (· == c) s.reverse
    have hreplicate : u.reverse = List.replicate u.length c := by
      refine List.eq_replicate_iff.2 ⟨List.length_reverse, fun d hd => ?_⟩
      exact beq_iff_eq.1 (hrun d (List.mem_reverse.1 hd))
    refine ⟨⟨u.length, ?_⟩, fun heq => ?_⟩
    · have hreverse := congrArg List.reverse hu
      rwa [List.reverse_reverse, List.reverse_append, hreplicate] at hreverse
    · rw [dropTrailing, List.getLast?_reverse] at heq
      simpa using hlast c heq
  · rintro ⟨⟨n, rfl⟩, hlast⟩
    have hdrop : (List.replicate n c ++ t.reverse).dropWhile (· == c) = t.reverse := by
      refine dropWhile_append_of_head (fun d hd => ?_) fun d hd => ?_
      · exact beq_iff_eq.2 (List.eq_of_mem_replicate hd)
      · refine beq_eq_false_iff_ne.2 fun heq => hlast ?_
        rwa [List.head?_reverse, Option.mem_def, heq] at hd
    rw [dropTrailing, List.reverse_append, List.reverse_replicate, hdrop, List.reverse_reverse]

/-- Trimming leaves what is left without the blanks around it. -/
theorem trim_eq_iff {s t : List Char} : trim s = t ↔ IsTrimmed s t :=
  ⟨fun h => h ▸ isTrimmed_trim s, IsTrimmed.trim_eq⟩

end JudgeClient.Text
