import JudgeClient.Json.Printer
import JudgeClient.Proofs.Json.Grammar

/-!
# What numbers look like

A floating-point number is written with a point or with an exponent, so it is never taken for an
integer.  Only numbers that are not finite are written as words.

* `IsNumber` : the three parts of a number;
* `renderFloat_cases` : what a floating-point number is written as;
* `IsNumber.eq_of_skipNumber` : a number is passed over as a whole;
* `isFloat_of_readNumber_renderFloat` : what is written is read as a floating-point number.
-/

namespace JudgeClient.Json

/-! ### Parts of numbers -/

/-- Digits behind a point, or nothing. -/
def IsFraction (t : List Char) : Prop :=
  t = [] ∨ ∃ ds, ds ≠ [] ∧ (∀ c ∈ ds, c.isDigit = true) ∧ t = '.' :: ds

/-- Digits behind the mark of an exponent and its sign, or nothing. -/
def IsExponent (t : List Char) : Prop :=
  t = [] ∨ ∃ sign ds, (sign = '+' ∨ sign = '-') ∧ ds ≠ [] ∧ (∀ c ∈ ds, c.isDigit = true) ∧
    t = 'e' :: sign :: ds

/-- A number in parts: digits, a fraction and an exponent. -/
structure IsNumber (whole fraction exponent : List Char) : Prop where
  ne_nil : whole ≠ []
  isDigit : ∀ c ∈ whole, c.isDigit = true
  isFraction : IsFraction fraction
  isExponent : IsExponent exponent

theorem IsExponent.head?_append {x s : List Char} (h : IsExponent x) (hs : Ends s) :
    ∀ c ∈ (x ++ s).head?, c.isDigit = false ∧ c ≠ '.' := by
  rcases h with rfl | ⟨sign, ds, -, -, -, rfl⟩
  · exact fun c hc => ⟨(hs.not_number hc).1, (hs.not_number hc).2.1⟩
  · rintro c ⟨⟩
    decide

theorem IsFraction.head?_append {f x s : List Char} (h : IsFraction f) (hx : IsExponent x)
    (hs : Ends s) : ∀ c ∈ (f ++ (x ++ s)).head?, c.isDigit = false := by
  rcases h with rfl | ⟨ds, -, -, rfl⟩
  · exact fun c hc => (hx.head?_append hs c hc).1
  · rintro c ⟨⟩
    decide

/-! ### Numbers passed over -/

theorem IsExponent.skipEnd_append {x s : List Char} (h : IsExponent x) (hs : Ends s) :
    skipEnd (x ++ s) = .ok s := by
  rcases h with rfl | ⟨sign, ds, hsign, hne, hds, rfl⟩
  · rw [List.nil_append]
    unfold skipEnd
    split
    · exact absurd rfl (hs.not_number rfl).2.2.1
    · exact absurd rfl (hs.not_number rfl).2.2.2
    · rfl
  · have hspan := span_append hds fun c hc => (hs.not_number hc).1
    obtain ⟨d, ds, rfl⟩ := List.exists_cons_of_ne_nil hne
    show skipExponent (sign :: (d :: ds ++ s)) = .ok s
    rcases hsign with rfl | rfl <;> simp only [skipExponent, hspan]

/-- A number is passed over as a whole, unless it has leading zeros. -/
theorem IsNumber.eq_of_skipUnsigned {w f x s t : List Char} (h : IsNumber w f x) (hs : Ends s)
    (hskip : skipUnsigned (w ++ (f ++ (x ++ s))) = .ok t) : t = s := by
  have hskipEnd := h.isExponent.skipEnd_append hs
  rw [skipUnsigned, span_append h.isDigit (h.isFraction.head?_append h.isExponent hs)] at hskip
  split at hskip
  · cases hskip
  · cases hskip
  · next rest _ _ hparts =>
    -- a point follows, so there is a fraction
    have hpoint : f ++ (x ++ s) = '.' :: rest := congrArg Prod.snd hparts
    rcases h.isFraction with rfl | ⟨ds, hne, hds, rfl⟩
    · have hhead : '.' ∈ (x ++ s).head? := by
        rw [← List.nil_append (x ++ s), hpoint]
        rfl
      exact absurd rfl (h.isExponent.head?_append hs '.' hhead).2
    · obtain rfl : rest = ds ++ (x ++ s) := (List.cons.inj hpoint).2.symm
      rw [span_append hds fun c hc => (h.isExponent.head?_append hs c hc).1] at hskip
      split at hskip
      · cases hskip
      · next hds' =>
        obtain ⟨rfl, rfl⟩ := Prod.mk.inj hds'
        rw [hskipEnd] at hskip
        exact (Except.ok.inj hskip).symm
  · next rest _ _ hpoint hparts =>
    obtain rfl : f ++ (x ++ s) = rest := congrArg Prod.snd hparts
    rcases h.isFraction with rfl | ⟨ds, hne, hds, rfl⟩
    · rw [List.nil_append, hskipEnd] at hskip
      exact (Except.ok.inj hskip).symm
    · exact absurd rfl (hpoint _)

/-- The same behind a sign. -/
theorem IsNumber.eq_of_skipNumber {w f x s t sign : List Char} (h : IsNumber w f x) (hs : Ends s)
    (hsign : sign = [] ∨ sign = ['-'])
    (hskip : skipNumber (sign ++ (w ++ (f ++ x)) ++ s) = .ok t) : t = s := by
  have hassoc : w ++ (f ++ x) ++ s = w ++ (f ++ (x ++ s)) := by simp
  rw [List.append_assoc, hassoc] at hskip
  rcases hsign with rfl | rfl
  · rw [List.nil_append, skipNumber_of_ne] at hskip
    · exact h.eq_of_skipUnsigned hs hskip
    · intro u hu
      obtain ⟨c, w, rfl⟩ := List.exists_cons_of_ne_nil h.ne_nil
      obtain rfl : c = '-' := (List.cons.inj hu).1
      exact absurd (h.isDigit '-' List.mem_cons_self) (by decide)
  · exact h.eq_of_skipUnsigned hs hskip

theorem eq_of_skipNumber_toString {i : Int} {s t : List Char} (hs : Ends s)
    (h : skipNumber ((toString i).toList ++ s) = .ok t) : t = s := by
  have hnumber : IsNumber (Nat.toDigits 10 i.natAbs) [] [] :=
    ⟨Nat.toDigits_ne_nil, fun _ => isDigit_of_mem_toDigits, .inl rfl, .inl rfl⟩
  rw [Numeral.toList_toString_int] at h
  by_cases hi : i < 0
  · rw [if_pos hi] at h
    exact hnumber.eq_of_skipNumber hs (.inr rfl) (by simpa using h)
  · rw [if_neg hi] at h
    exact hnumber.eq_of_skipNumber hs (.inl rfl) (by simpa using h)

/-! ### Numbers read -/

/-- With a fraction or an exponent, a number is no integer. -/
theorem IsNumber.isFloat_of_scanUnsigned {w f x s t : List Char} {negative : Bool} {n : Number}
    (h : IsNumber w f x) (hfx : f ≠ [] ∨ x ≠ []) (hs : Ends s)
    (hscan : scanUnsigned negative (w ++ (f ++ (x ++ s))) = .ok (n, t)) : ∃ y, n = .float y := by
  rw [scanUnsigned, span_append h.isDigit (h.isFraction.head?_append h.isExponent hs)] at hscan
  split at hscan
  · cases hscan
  · cases hscan
  · cases hscan
  · next digits rest _ _ _ hparts =>
    obtain rfl : f ++ (x ++ s) = rest := congrArg Prod.snd hparts
    dsimp only at hscan
    split at hscan
    · exact (Grammar.digits_of_scanFraction hscan).2
    · next hpoint =>
      split at hscan
      · next hend =>
        -- the number ends here, so it has neither a fraction nor an exponent
        rcases h.isFraction with rfl | ⟨ds, -, -, rfl⟩
        · rcases h.isExponent with rfl | ⟨sign, ds, -, -, -, rfl⟩
          · simp at hfx
          · simp at hend
        · exact absurd rfl (hpoint _)
      · exact (Grammar.exponent_of_scanEnd hscan).2

/-- Digits that are all added fit 64 bits. -/
theorem lt_of_addDigits {n : Nat} {ds : List Char} (hn : n < UInt64.size)
    (h : (addDigits n ds).2 = []) :
    ds.foldl (fun n d => n * 10 + Numeral.digitValue d) n < UInt64.size := by
  induction ds generalizing n with
  | nil => exact hn
  | cons d ds ih =>
    rw [addDigits] at h
    split at h
    · next hnext => exact ih hnext h
    · cases h

theorem lt_of_scanUnsigned {negative : Bool} {n : Nat} {s t : List Char} {j : Int} (hs : Ends s)
    (h : scanUnsigned negative (Nat.toDigits 10 n ++ s) = .ok (.int j, t)) :
    n < UInt64.size := by
  rw [scanUnsigned, span_toDigits hs] at h
  split at h
  · cases h
  · cases h
  · cases h
  · next hparts =>
    obtain ⟨rfl, rfl⟩ := Prod.mk.inj hparts
    dsimp only at h
    split at h
    · exact absurd rfl (hs.not_number rfl).2.1
    · split at h
      · next hend =>
        simp only [Bool.and_eq_true, List.isEmpty_iff] at hend
        have hlt := lt_of_addDigits (by decide) hend.1.1
        rwa [show (Nat.toDigits 10 n).foldl (fun n d => n * 10 + Numeral.digitValue d) 0 = n from
          Numeral.ofDigits_toDigits n] at hlt
      · obtain ⟨x, hx⟩ := (Grammar.exponent_of_scanEnd h).2
        cases hx

/-- The text of an integer is taken for no other integer, however large it is. -/
theorem eq_of_readNumber_toString {i j : Int} {s t : List Char} (hs : Ends s)
    (h : readNumber ((toString i).toList ++ s) = .ok (.int j, t)) : j = i ∧ t = s := by
  rw [Numeral.toList_toString_int] at h
  by_cases hi : i < 0
  · rw [if_pos hi, List.cons_append] at h
    have hscan : scanUnsigned true (Nat.toDigits 10 i.natAbs ++ s) = .ok (.int j, t) := h
    rw [scanUnsigned_toDigits true (lt_of_scanUnsigned hs hscan) hs] at hscan
    obtain ⟨hj, rfl⟩ := Prod.mk.inj (Except.ok.inj hscan)
    simp only [signedNumber, Bool.not_true, Bool.false_eq_true, if_false] at hj
    split at hj
    · cases hj
      exact ⟨by omega, rfl⟩
    · cases hj
  · obtain ⟨c, ds, hds, hc⟩ := exists_cons_toDigits i.natAbs
    rw [if_neg hi, hds, List.cons_append, readNumber_of_isDigit hc, ← List.cons_append,
      ← hds] at h
    rw [scanUnsigned_toDigits false (lt_of_scanUnsigned hs h) hs] at h
    obtain ⟨hj, rfl⟩ := Prod.mk.inj (Except.ok.inj h)
    cases hj
    exact ⟨by omega, rfl⟩

/-! ### Floating-point numbers written -/

/-- A number of three parts, one of which tells it from an integer. -/
def IsFloat (t : List Char) : Prop :=
  ∃ w f x, t = w ++ (f ++ x) ∧ IsNumber w f x ∧ (f ≠ [] ∨ x ≠ [])

theorem isDigit_of_mem_zero : ∀ c ∈ ['0'], c.isDigit = true := List.forall_mem_singleton.2 rfl

theorem isFloat_writePositional (n : Nat) (e : Int) :
    IsFloat (Decimal.json.writePositional (Nat.toDigits 10 n) e) := by
  have hdigit : ∀ c ∈ Nat.toDigits 10 n, c.isDigit = true := fun _ => isDigit_of_mem_toDigits
  have hzero : ∀ k, ∀ c ∈ List.replicate k '0', c.isDigit = true := fun k c hc =>
    (List.mem_replicate.1 hc).2 ▸ rfl
  -- a point follows some digits, and digits follow it
  have hpoint : ∀ w ds, w ≠ [] → (∀ c ∈ w, c.isDigit = true) → ds ≠ [] →
      (∀ c ∈ ds, c.isDigit = true) → IsFloat (w ++ '.' :: ds) := fun w ds hne hw hne' hds =>
    ⟨w, '.' :: ds, [], by rw [List.append_nil], ⟨hne, hw, .inr ⟨ds, hne', hds, rfl⟩, .inl rfl⟩,
      .inl (List.cons_ne_nil _ _)⟩
  unfold Decimal.Layout.writePositional
  split
  · refine hpoint _ ['0'] (by simp [Nat.toDigits_ne_nil]) ?_ (List.cons_ne_nil _ _)
      isDigit_of_mem_zero
    exact fun c hc => (List.mem_append.1 hc).elim (hdigit c) (hzero _ c)
  · dsimp only
    split
    · next hplaces =>
      refine hpoint _ _ (fun hnil => ?_) (fun c hc => hdigit c (List.mem_of_mem_take hc))
        (fun hnil => ?_) fun c hc => hdigit c (List.mem_of_mem_drop hc)
      · rcases List.take_eq_nil_iff.1 hnil with hlen | hlen
        · omega
        · exact Nat.toDigits_ne_nil hlen
      · have hlen := List.drop_eq_nil_iff.1 hnil
        omega
    · refine hpoint ['0'] _ (List.cons_ne_nil _ _) isDigit_of_mem_zero
        (by simp [Nat.toDigits_ne_nil]) ?_
      exact fun c hc => (List.mem_append.1 hc).elim (hzero _ c) (hdigit c)

theorem isFloat_writeScientific (n : Nat) (e : Int) :
    IsFloat (Decimal.Layout.writeScientific (Nat.toDigits 10 n) e) := by
  have hexponent : IsExponent (Decimal.Layout.writeExponent e) := by
    refine .inr ⟨_, _, ?_, Nat.toDigits_ne_nil, fun _ => isDigit_of_mem_toDigits, rfl⟩
    split
    · exact .inr rfl
    · exact .inl rfl
  have hne : Decimal.Layout.writeExponent e ≠ [] := List.cons_ne_nil _ _
  have hdigit : ∀ c ∈ Nat.toDigits 10 n, c.isDigit = true := fun _ => isDigit_of_mem_toDigits
  cases hds : Nat.toDigits 10 n with
  | nil => exact absurd hds Nat.toDigits_ne_nil
  | cons d ds =>
    rw [hds] at hdigit
    have hd : ∀ c ∈ [d], c.isDigit = true := fun c hc =>
      hdigit c (List.mem_cons.2 (.inl (List.mem_singleton.1 hc)))
    cases ds with
    | nil => exact ⟨[d], [], _, rfl, ⟨List.cons_ne_nil _ _, hd, .inl rfl, hexponent⟩, .inr hne⟩
    | cons d' ds =>
      refine ⟨[d], '.' :: d' :: ds, _, rfl, ⟨List.cons_ne_nil _ _, hd, ?_, hexponent⟩, .inr hne⟩
      exact .inr ⟨_, List.cons_ne_nil _ _, fun c hc => hdigit c (List.mem_cons_of_mem _ hc), rfl⟩

theorem isFloat_writeDecimal (d : Decimal) : IsFloat (Decimal.json.writeDecimal d) := by
  unfold Decimal.Layout.writeDecimal
  dsimp only [Decimal.json]
  split
  · exact isFloat_writePositional _ _
  · exact isFloat_writeScientific _ _

/-- The words that are written for numbers that are not finite. -/
def infiniteWords : List (List Char) :=
  ["null".toList, "NaN".toList, "inf".toList, "-inf".toList]

theorem mem_infiniteWords {t : List Char} : t ∈ infiniteWords ↔
    t = "null".toList ∨ t = "NaN".toList ∨ t = "inf".toList ∨ t = "-inf".toList := by
  simp only [infiniteWords, List.mem_cons, List.not_mem_nil, or_false]

theorem renderFloat_cases (x : Float) : renderFloat x ∈ infiniteWords ∨
    ∃ sign t, renderFloat x = sign ++ t ∧ (sign = [] ∨ sign = ['-']) ∧ IsFloat t := by
  have hsign : ∀ negative, Decimal.Layout.writeSign negative = [] ∨
      Decimal.Layout.writeSign negative = ['-'] := by decide
  unfold renderFloat
  split
  · unfold Decimal.Layout.write
    split
    · exact .inl (by decide)
    · next negative _ => exact .inl (by cases negative <;> decide)
    · exact .inr ⟨_, _, rfl, hsign _, ['0'], ['.', '0'], [], rfl,
        ⟨List.cons_ne_nil _ _, isDigit_of_mem_zero,
          .inr ⟨['0'], List.cons_ne_nil _ _, isDigit_of_mem_zero, rfl⟩, .inl rfl⟩,
        .inl (List.cons_ne_nil _ _)⟩
    · exact .inr ⟨_, _, rfl, hsign _, isFloat_writeDecimal _⟩
  · exact .inl (by decide)

theorem exists_cons_or_mem_infiniteWords (x : Float) :
    (∃ c s, renderFloat x = c :: s ∧ (c == '-' || c.isDigit) = true) ∨
      renderFloat x ∈ infiniteWords := by
  rcases renderFloat_cases x with hword | ⟨sign, t, ht, hsign, w, f, e, rfl, h, -⟩
  · exact .inr hword
  · obtain ⟨c, w, rfl⟩ := List.exists_cons_of_ne_nil h.ne_nil
    rcases hsign with rfl | rfl
    · exact .inl ⟨c, _, ht, by simp [h.isDigit c List.mem_cons_self]⟩
    · exact .inl ⟨'-', _, ht, rfl⟩

/-- A floating-point number is never taken for an integer. -/
theorem isFloat_of_readNumber_renderFloat {x : Float} {s t : List Char} {n : Number}
    (hs : Ends s) (h : readNumber (renderFloat x ++ s) = .ok (n, t)) : ∃ y, n = .float y := by
  rcases renderFloat_cases x with hword | ⟨sign, u, hu, hsign, w, f, e, rfl, hnumber, hfe⟩
  · rcases mem_infiniteWords.1 hword with hx | hx | hx | hx <;> rw [hx] at h <;> cases h
  · have hassoc : w ++ (f ++ e) ++ s = w ++ (f ++ (e ++ s)) := by simp
    rcases hsign with rfl | rfl
    · obtain ⟨c, w, rfl⟩ := List.exists_cons_of_ne_nil hnumber.ne_nil
      rw [hu, List.nil_append, hassoc, List.cons_append,
        readNumber_of_isDigit (hnumber.isDigit c List.mem_cons_self), ← List.cons_append] at h
      exact hnumber.isFloat_of_scanUnsigned hfe hs h
    · rw [hu, List.append_assoc, hassoc] at h
      exact hnumber.isFloat_of_scanUnsigned hfe hs h

/-- A floating-point number that is passed over is passed over as a whole. -/
theorem eq_of_skipNumber_renderFloat {x : Float} {s t : List Char} (hs : Ends s)
    (h : skipNumber (renderFloat x ++ s) = .ok t) : t = s := by
  rcases renderFloat_cases x with hword | ⟨sign, u, hu, hsign, w, f, e, rfl, hnumber, hfe⟩
  · rcases mem_infiniteWords.1 hword with hx | hx | hx | hx <;> rw [hx] at h <;> cases h
  · rw [hu] at h
    exact hnumber.eq_of_skipNumber hs hsign h

end JudgeClient.Json
