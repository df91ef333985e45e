import JudgeClient.Json.Token
import JudgeClient.Proofs.Json.Number
import Mathlib.Data.List.TakeWhile

/-!
# The grammar of JSON

What a JSON text is, without a word about how it is read.  Each notion relates a text to what is
left of it behind a blank, a number, a quoted text or a value.  The scanners of the tokens take
nothing but what the grammar has.

* `Grammar.Value`, `Grammar.IsText` : the grammar;
* `Grammar.number_of_readNumber`, `Grammar.number_of_skipNumber` : numbers;
* `Grammar.chars_of_readText`, `Grammar.chars_of_skipText` : quoted texts.
-/

namespace JudgeClient.Json.Grammar

/-! ### Blanks and numbers -/

/-- A run of blanks. -/
inductive Gaps : List Char → List Char → Prop
  | nil {s : List Char} : Gaps s s
  | cons {c : Char} {s t : List Char} (hc : isGap c = true) (h : Gaps s t) : Gaps (c :: s) t

/-- One or more digits. -/
inductive Digits : List Char → List Char → Prop
  | last {c : Char} {s : List Char} (hc : c.isDigit = true) : Digits (c :: s) s
  | cons {c : Char} {s t : List Char} (hc : c.isDigit = true) (h : Digits s t) : Digits (c :: s) t

/-- A sign, or none. -/
inductive Sign (allowed : List Char) : List Char → List Char → Prop
  | absent {s : List Char} : Sign allowed s s
  | present {c : Char} {s : List Char} (hc : c ∈ allowed) : Sign allowed (c :: s) s

/-- The whole part of a number: a zero, or digits that do not start with one. -/
inductive Whole : List Char → List Char → Prop
  | zero {s : List Char} : Whole ('0' :: s) s
  | digits {c : Char} {s t : List Char} (hc : c ≠ '0') (h : Digits (c :: s) t) : Whole (c :: s) t

/-- The digits behind a point, or none. -/
inductive Fraction : List Char → List Char → Prop
  | absent {s : List Char} : Fraction s s
  | present {s t : List Char} (h : Digits s t) : Fraction ('.' :: s) t

/-- An exponent with its mark, or none. -/
inductive Exponent : List Char → List Char → Prop
  | absent {s : List Char} : Exponent s s
  | present {c : Char} {s t u : List Char} (hc : c = 'e' ∨ c = 'E') (hs : Sign ['+', '-'] s t)
      (h : Digits t u) : Exponent (c :: s) u

/-- A number. -/
def Number (s t : List Char) : Prop :=
  ∃ u v w, Sign ['-'] s u ∧ Whole u v ∧ Fraction v w ∧ Exponent w t

/-! ### Quoted texts -/

/-- The characters of a quoted text up to its closing mark, with the mark. -/
inductive Chars : List Char → List Char → Prop
  | close {s : List Char} : Chars ('"' :: s) s
  | plain {c : Char} {s t : List Char} (hquote : c ≠ '"') (hback : c ≠ '\\') (hc : 32 ≤ c.toNat)
      (h : Chars s t) : Chars (c :: s) t
  | short {c : Char} {s t : List Char} (hc : (shortEscape? c).isSome = true) (h : Chars s t) :
      Chars ('\\' :: c :: s) t
  | unit {digits s t : List Char} (hlen : digits.length = 4)
      (hd : ∀ d ∈ digits, (hexValue? d).isSome = true) (h : Chars s t) :
      Chars ('\\' :: 'u' :: (digits ++ s)) t

/-! ### Values -/

mutual

/-- A value. -/
inductive Value : List Char → List Char → Prop
  | null {s : List Char} : Value ('n' :: 'u' :: 'l' :: 'l' :: s) s
  | true {s : List Char} : Value ('t' :: 'r' :: 'u' :: 'e' :: s) s
  | false {s : List Char} : Value ('f' :: 'a' :: 'l' :: 's' :: 'e' :: s) s
  | number {s t : List Char} (h : Number s t) : Value s t
  | text {s t : List Char} (h : Chars s t) : Value ('"' :: s) t
  | emptyList {s t : List Char} (h : Gaps s (']' :: t)) : Value ('[' :: s) t
  | list {s t : List Char} (h : Items s t) : Value ('[' :: s) t
  | emptyObject {s t : List Char} (h : Gaps s ('\x7d' :: t)) : Value ('\x7b' :: s) t
  | object {s t : List Char} (h : Members s t) : Value ('\x7b' :: s) t

/-- The items of a list up to its end; there is at least one. -/
inductive Items : List Char → List Char → Prop
  | last {s t u v : List Char} (hs : Gaps s t) (h : Value t u) (hu : Gaps u (']' :: v)) : Items s v
  | more {s t u v w : List Char} (hs : Gaps s t) (h : Value t u) (hu : Gaps u (',' :: v))
      (hv : Items v w) : Items s w

/-- The entries of an object up to its end; there is at least one. -/
inductive Members : List Char → List Char → Prop
  | last {s t u : List Char} (h : Member s t) (ht : Gaps t ('\x7d' :: u)) : Members s u
  | more {s t u v : List Char} (h : Member s t) (ht : Gaps t (',' :: u)) (hu : Members u v) :
      Members s v

/-- An entry of an object: a quoted text, a colon and a value. -/
inductive Member : List Char → List Char → Prop
  | mk {s t u v w x : List Char} (hs : Gaps s ('"' :: t)) (hkey : Chars t u)
      (hu : Gaps u (':' :: v)) (hv : Gaps v w) (h : Value w x) : Member s x

end

/-- The text is a value between blanks. -/
def IsText (s : List Char) : Prop := ∃ t u, Gaps s t ∧ Value t u ∧ Gaps u []

/-! ### Blanks are skipped -/

theorem gaps_skipGaps (s : List Char) : Gaps s (skipGaps s) := by
  induction s with
  | nil => exact .nil
  | cons c s ih =>
    cases hc : isGap c with
    | true => simpa [skipGaps, hc] using Gaps.cons hc ih
    | false => simpa [skipGaps, hc] using Gaps.nil

theorem Gaps.trans {s t u : List Char} (h : Gaps s t) (h' : Gaps t u) : Gaps s u := by
  induction h with
  | nil => exact h'
  | cons hc _ ih => exact .cons hc (ih h')

/-! ### Numbers are scanned -/

theorem digits_append {ds : List Char} (hne : ds ≠ []) (h : ∀ c ∈ ds, c.isDigit = true)
    (s : List Char) : Digits (ds ++ s) s := by
  induction ds with
  | nil => exact absurd rfl hne
  | cons c ds ih =>
    have hc := h c List.mem_cons_self
    cases ds with
    | nil => exact .last hc
    | cons d ds =>
      exact .cons hc (ih (List.cons_ne_nil _ _) fun c hd => h c (List.mem_cons_of_mem _ hd))

theorem digits_of_span {s ds rest : List Char} (h : s.span Char.isDigit = (ds, rest))
    (hne : ds ≠ []) : Digits s rest := by
  rw [List.span_eq_takeWhile_dropWhile] at h
  obtain ⟨rfl, rfl⟩ := Prod.mk.inj h
  have happend := digits_append hne (fun c hc => List.mem_takeWhile_imp hc)
    (s.dropWhile Char.isDigit)
  rwa [List.takeWhile_append_dropWhile] at happend

theorem whole_of_span {s ds rest : List Char} (h : s.span Char.isDigit = (ds, rest))
    (hne : ds ≠ []) (hzero : ∀ d ds', ds ≠ '0' :: d :: ds') : Whole s rest := by
  have hdigits := digits_of_span h hne
  rw [List.span_eq_takeWhile_dropWhile] at h
  obtain ⟨hds, hrest⟩ := Prod.mk.inj h
  have hs : s = ds ++ rest := by rw [← hds, ← hrest, List.takeWhile_append_dropWhile]
  obtain ⟨c, ds, rfl⟩ := List.exists_cons_of_ne_nil hne
  rw [List.cons_append] at hs
  by_cases hc : c = '0'
  · subst hc
    cases ds with
    | nil => exact hs ▸ .zero
    | cons d ds => exact absurd rfl (hzero d ds)
  · rw [hs] at hdigits ⊢
    exact .digits hc hdigits

/-- There are digits, if a scan fails without any, be it at the end of the text or before it. -/
theorem ne_nil_of_ends {ds rest : List Char} (hend : ds = [] → rest = [] → False)
    (hmore : ∀ c s, ds = [] → rest = c :: s → False) : ds ≠ [] := by
  rintro rfl
  cases rest with
  | nil => exact hend rfl rfl
  | cons c s => exact hmore c s rfl rfl

theorem exponent_of_scanExponent {negative : Bool} {significand : Nat} {exponent : Int}
    {s rest : List Char} {n : Json.Number}
    (h : scanExponent negative significand exponent s = .ok (n, rest)) :
    (∃ t, Sign ['+', '-'] s t ∧ Digits t rest) ∧ ∃ x, n = .float x := by
  unfold scanExponent at h
  split at h
  next down t hsign =>
    have ht : Sign ['+', '-'] s t := by
      split at hsign <;> cases hsign
      · exact .present (by decide)
      · exact .present (by decide)
      · exact .absent
    split at h
    · cases h
    · cases h
    · next digits rest' hend hmore hspan =>
      have hdigits := digits_of_span hspan (ne_nil_of_ends hend hmore)
      dsimp only at h
      split at h
      · split at h <;> cases h
        exact ⟨⟨t, ht, hdigits⟩, _, rfl⟩
      · obtain ⟨x, -, hx⟩ := exists_of_bind_eq_ok h
        cases hx
        exact ⟨⟨t, ht, hdigits⟩, _, rfl⟩

/-- A number that does not end behind its digits is no integer. -/
theorem exponent_of_scanEnd {negative : Bool} {significand : Nat} {exponent : Int}
    {s rest : List Char} {n : Json.Number}
    (h : scanEnd negative significand exponent s = .ok (n, rest)) :
    Exponent s rest ∧ ∃ x, n = .float x := by
  unfold scanEnd at h
  split at h
  · obtain ⟨⟨t, hsign, ht⟩, hn⟩ := exponent_of_scanExponent h
    exact ⟨.present (.inl rfl) hsign ht, hn⟩
  · obtain ⟨⟨t, hsign, ht⟩, hn⟩ := exponent_of_scanExponent h
    exact ⟨.present (.inr rfl) hsign ht, hn⟩
  · obtain ⟨x, -, hx⟩ := exists_of_bind_eq_ok h
    cases hx
    exact ⟨.absent, _, rfl⟩

theorem digits_of_scanFraction {negative : Bool} {significand : Nat} {exponent : Int}
    {s rest : List Char} {n : Json.Number}
    (h : scanFraction negative significand exponent s = .ok (n, rest)) :
    (∃ t, Digits s t ∧ Exponent t rest) ∧ ∃ x, n = .float x := by
  unfold scanFraction at h
  split at h
  · cases h
  · cases h
  · next digits t hend hmore hspan =>
    obtain ⟨hexponent, hn⟩ := exponent_of_scanEnd h
    exact ⟨⟨t, digits_of_span hspan (ne_nil_of_ends hend hmore), hexponent⟩, hn⟩

theorem number_of_scanUnsigned {negative : Bool} {s rest : List Char} {n : Json.Number}
    (h : scanUnsigned negative s = .ok (n, rest)) :
    ∃ t u, Whole s t ∧ Fraction t u ∧ Exponent u rest := by
  unfold scanUnsigned at h
  split at h
  · cases h
  · cases h
  · cases h
  · next digits t hend hmore hzero hspan =>
    have hwhole : Whole s t := whole_of_span hspan (ne_nil_of_ends hend hmore) hzero
    dsimp only at h
    split at h
    · obtain ⟨⟨u, hu, hrest⟩, -⟩ := digits_of_scanFraction h
      exact ⟨_, _, hwhole, .present hu, hrest⟩
    · split at h
      · cases h
        exact ⟨_, _, hwhole, .absent, .absent⟩
      · exact ⟨_, _, hwhole, .absent, (exponent_of_scanEnd h).1⟩

theorem number_of_readNumber {s rest : List Char} {n : Json.Number}
    (h : readNumber s = .ok (n, rest)) : Number s rest := by
  unfold readNumber at h
  split at h
  · obtain ⟨t, u, ht, hu, hrest⟩ := number_of_scanUnsigned h
    exact ⟨_, t, u, .present (by decide), ht, hu, hrest⟩
  · obtain ⟨t, u, ht, hu, hrest⟩ := number_of_scanUnsigned h
    exact ⟨_, t, u, .absent, ht, hu, hrest⟩

theorem digits_of_skipExponent {s rest : List Char} (h : skipExponent s = .ok rest) :
    ∃ t, Sign ['+', '-'] s t ∧ Digits t rest := by
  unfold skipExponent at h
  dsimp only at h
  split at h
  · cases h
  · next t digits rest' hne hspan =>
    cases h
    refine ⟨_, ?_, digits_of_span hspan hne⟩
    split
    · exact .present (by decide)
    · exact .present (by decide)
    · exact .absent

theorem exponent_of_skipEnd {s rest : List Char} (h : skipEnd s = .ok rest) :
    Exponent s rest := by
  unfold skipEnd at h
  split at h
  · obtain ⟨t, hsign, ht⟩ := digits_of_skipExponent h
    exact .present (.inl rfl) hsign ht
  · obtain ⟨t, hsign, ht⟩ := digits_of_skipExponent h
    exact .present (.inr rfl) hsign ht
  · cases h
    exact .absent

theorem number_of_skipUnsigned {s rest : List Char} (h : skipUnsigned s = .ok rest) :
    ∃ t u, Whole s t ∧ Fraction t u ∧ Exponent u rest := by
  unfold skipUnsigned at h
  split at h
  · cases h
  · cases h
  · next digits t hne hzero hspan =>
    split at h
    · cases h
    · next more u hmore hspan' =>
      exact ⟨_, _, whole_of_span hspan hne hzero, .present (digits_of_span hspan' hmore),
        exponent_of_skipEnd h⟩
  · next digits t hne hzero _ hspan =>
    exact ⟨_, _, whole_of_span hspan hne hzero, .absent, exponent_of_skipEnd h⟩

theorem number_of_skipNumber {s rest : List Char} (h : skipNumber s = .ok rest) :
    Number s rest := by
  by_cases hminus : ∃ t, s = '-' :: t
  · obtain ⟨s, rfl⟩ := hminus
    obtain ⟨t, u, ht, hu, hrest⟩ := number_of_skipUnsigned h
    exact ⟨_, t, u, .present (by decide), ht, hu, hrest⟩
  · rw [skipNumber_of_ne fun t ht => hminus ⟨t, ht⟩] at h
    obtain ⟨t, u, ht, hu, hrest⟩ := number_of_skipUnsigned h
    exact ⟨_, t, u, .absent, ht, hu, hrest⟩

/-! ### Quoted texts are scanned -/

/-- What a scan of a quoted text has still before it, together with what it has just behind it. -/
def TextRest : TextState → List Char → List Char → Prop
  | .plain, s, t => Chars s t
  | .escape, s, t => Chars ('\\' :: s) t
  | .unit _ left _, s, t => ∃ digits u, digits.length = max left 1 ∧
      (∀ d ∈ digits, (hexValue? d).isSome = true) ∧ s = digits ++ u ∧ Chars u t
  | .pairEscape _, s, t => Chars s t
  | .pairMark _, s, t => Chars ('\\' :: s) t

theorem rest_of_scanText {state : TextState} {acc s : List Char} {r : List Char × List Char}
    (h : scanText state acc s = .ok r) : TextRest state s r.2 := by
  induction s generalizing state acc with
  | nil => cases state <;> cases h
  | cons c s ih =>
    cases state with
    | plain =>
      rw [scanText] at h
      split at h
      · next hc =>
        cases h
        exact hc ▸ .close
      · next hquote =>
        split at h
        · next hc => exact hc ▸ ih h
        · next hback =>
          split at h
          · cases h
          · next hc => exact .plain hquote hback (Nat.le_of_not_lt hc) (ih h)
    | escape =>
      rw [scanText] at h
      split at h
      · next hc =>
        split at h
        · cases h
        · obtain ⟨digits, u, hlen, hd, rfl, hu⟩ := ih h
          exact hc ▸ .unit hlen hd hu
      · split at h
        · next e he => exact .short (by rw [he]; rfl) (ih h)
        · cases h
    | unit lead left value =>
      rw [scanText] at h
      split at h
      · cases h
      · next d hd =>
        have hd : (hexValue? c).isSome = true := by rw [hd]; rfl
        dsimp only at h
        split at h
        · next hleft =>
          have hone : Chars s r.2 → TextRest (.unit lead left value) (c :: s) r.2 := fun hs =>
            ⟨[c], s, by simp; omega, by simpa using hd, rfl, hs⟩
          split at h
          · cases h
          · exact hone (ih h)
          · exact hone (ih h)
        · next hleft =>
          obtain ⟨digits, u, hlen, hds, rfl, hu⟩ := ih h
          exact ⟨c :: digits, u, by simp; omega, by simpa [hd] using hds, rfl, hu⟩
    | pairEscape lead =>
      rw [scanText] at h
      split at h
      · next hc => exact hc ▸ ih h
      · cases h
    | pairMark lead =>
      rw [scanText] at h
      split at h
      · next hc =>
        split at h
        · cases h
        · obtain ⟨digits, u, hlen, hd, rfl, hu⟩ := ih h
          exact hc ▸ .unit hlen hd hu
      · cases h

theorem chars_of_readText {s : List Char} {r : String × List Char} (h : readText s = .ok r) :
    Chars s r.2 := by
  obtain ⟨a, ha, rfl⟩ := exists_of_map_eq_ok h
  exact rest_of_scanText ha

/-- The same for the scan of a text that nobody looks at. -/
def SkipRest : SkipState → List Char → List Char → Prop
  | .plain, s, t => Chars s t
  | .escape, s, t => Chars ('\\' :: s) t
  | .unit left, s, t => ∃ digits u, digits.length = max left 1 ∧
      (∀ d ∈ digits, (hexValue? d).isSome = true) ∧ s = digits ++ u ∧ Chars u t

theorem rest_of_skipText {state : SkipState} {s t : List Char} (h : skipText state s = .ok t) :
    SkipRest state s t := by
  induction s generalizing state with
  | nil => cases state <;> cases h
  | cons c s ih =>
    cases state with
    | plain =>
      rw [skipText] at h
      split at h
      · next hc =>
        cases h
        exact hc ▸ .close
      · next hquote =>
        split at h
        · next hc => exact hc ▸ ih h
        · next hback =>
          split at h
          · cases h
          · next hc => exact .plain hquote hback (Nat.le_of_not_lt hc) (ih h)
    | escape =>
      rw [skipText] at h
      split at h
      · next hc =>
        split at h
        · cases h
        · obtain ⟨digits, u, hlen, hd, rfl, hu⟩ := ih h
          exact hc ▸ .unit hlen hd hu
      · split at h
        · next he => exact .short he (ih h)
        · cases h
    | unit left =>
      rw [skipText] at h
      split at h
      · cases h
      · next hd =>
        have hd : (hexValue? c).isSome = true := by
          rwa [Bool.not_eq_true, Option.isNone_eq_false_iff] at hd
        split at h
        · next hleft => exact ⟨[c], s, by simp; omega, by simpa using hd, rfl, ih h⟩
        · next hleft =>
          obtain ⟨digits, u, hlen, hds, rfl, hu⟩ := ih h
          exact ⟨c :: digits, u, by simp; omega, by simpa [hd] using hds, rfl, hu⟩

theorem chars_of_skipText {s t : List Char} (h : skipText .plain s = .ok t) : Chars s t :=
  rest_of_skipText h

end JudgeClient.Json.Grammar
