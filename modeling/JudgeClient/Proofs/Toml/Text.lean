import JudgeClient.Toml.Text

/-!
# The grammar of TOML strings

The four forms of a string, without a word about how they are read.  Each form relates a text to
what it spells and to what is left of it behind the closing quotes.

* `Grammar.Basic`, `Grammar.Literal` : the forms on one line;
* `Grammar.LongBasic`, `Grammar.LongLiteral` : the forms over several lines;
* `Grammar.text_iff` : a string is read as what it spells, and nothing else is read as a string.
-/

namespace JudgeClient.Toml

namespace Grammar

/-! ### One character -/

/-- An escape behind its backslash: a letter, or the number of a character. -/
inductive Escape : List Char → Char → List Char → Prop
  | letter {c x : Char} {s : List Char} (h : escape? c = some x) : Escape (c :: s) x s
  | short {digits : List Char} {x : Char} {s : List Char} (hlen : digits.length = 4)
      (h : numbered? digits = some x) : Escape ('u' :: (digits ++ s)) x s
  | long {digits : List Char} {x : Char} {s : List Char} (hlen : digits.length = 8)
      (h : numbered? digits = some x) : Escape ('U' :: (digits ++ s)) x s

theorem exists_four {digits : List Char} (h : digits.length = 4) :
    ∃ a b c d, digits = [a, b, c, d] := by
  match digits, h with
  | [a, b, c, d], _ => exact ⟨a, b, c, d, rfl⟩

theorem exists_eight {digits : List Char} (h : digits.length = 8) :
    ∃ a b c d e f g h, digits = [a, b, c, d, e, f, g, h] := by
  match digits, h with
  | [a, b, c, d, e, f, g, h], _ => exact ⟨a, b, c, d, e, f, g, h, rfl⟩

/-- The letters before a number are no escapes of their own. -/
theorem ne_of_escape? {c x : Char} (h : escape? c = some x) : c ≠ 'u' ∧ c ≠ 'U' := by
  constructor <;> rintro rfl <;> cases h

section Spelled

variable {read : Option (List Char × List Char)} {v t : List Char}

theorem eq_cons_of_map {c : Char} (h : (read.map fun r => (c :: r.1, r.2)) = some (v, t)) :
    ∃ w, read = some (w, t) ∧ v = c :: w := by
  obtain ⟨⟨w, u⟩, hread, heq⟩ := Option.map_eq_some_iff.1 h
  cases heq
  exact ⟨w, hread, rfl⟩

theorem eq_cons_of_bind {char : Option Char}
    (h : (do let x ← char; let (s, rest) ← read; some (x :: s, rest)) = some (v, t)) :
    ∃ x w, char = some x ∧ read = some (w, t) ∧ v = x :: w := by
  obtain ⟨x, hx, h⟩ := Option.bind_eq_some_iff.1 h
  obtain ⟨⟨w, u⟩, hread, heq⟩ := Option.bind_eq_some_iff.1 h
  cases heq
  exact ⟨x, w, hx, hread, rfl⟩

end Spelled

/-! ### Strings on one line -/

/-- A string between double quotes, behind the first one. -/
inductive Basic : List Char → List Char → List Char → Prop
  | close {t : List Char} : Basic ('"' :: t) [] t
  | plain {c : Char} {s v t : List Char} (hquote : c ≠ '"') (hback : c ≠ '\\')
      (hc : isVisible c = true) (h : Basic s v t) : Basic (c :: s) (c :: v) t
  | escape {x : Char} {s u v t : List Char} (hx : Escape s x u) (h : Basic u v t) :
      Basic ('\\' :: s) (x :: v) t

/-- A string between single quotes, behind the first one. -/
inductive Literal : List Char → List Char → List Char → Prop
  | close {t : List Char} : Literal ('\'' :: t) [] t
  | plain {c : Char} {s v t : List Char} (hquote : c ≠ '\'') (hc : isVisible c = true)
      (h : Literal s v t) : Literal (c :: s) (c :: v) t

theorem readBasic_of_basic {s v t : List Char} (h : Basic s v t) : readBasic s = some (v, t) := by
  induction h with
  | close => rfl
  | plain hquote hback hc _ ih => simp [readBasic, *]
  | escape hx _ ih =>
    cases hx with
    | letter hx =>
      obtain ⟨hu, hU⟩ := ne_of_escape? hx
      simp [readBasic, hu, hU, hx, ih]
    | short hlen hx =>
      obtain ⟨a, b, c, d, rfl⟩ := exists_four hlen
      simp [readBasic, hx, ih]
    | long hlen hx =>
      obtain ⟨a, b, c, d, e, f, g, h, rfl⟩ := exists_eight hlen
      simp [readBasic, hx, ih]

theorem basic_of_readBasic {s v t : List Char} (h : readBasic s = some (v, t)) : Basic s v t := by
  fun_induction readBasic s generalizing v t with
  | case1 => cases h
  | case2 rest =>
    cases h
    exact .close
  | case3 a b c d rest ih =>
    obtain ⟨x, w, hx, hrest, rfl⟩ := eq_cons_of_bind h
    exact .escape (@Escape.short [a, b, c, d] x rest rfl hx) (ih hrest)
  | case4 a b c d e f g k rest ih =>
    obtain ⟨x, w, hx, hrest, rfl⟩ := eq_cons_of_bind h
    exact .escape (@Escape.long [a, b, c, d, e, f, g, k] x rest rfl hx) (ih hrest)
  | case5 c rest _ _ ih =>
    obtain ⟨x, w, hx, hrest, rfl⟩ := eq_cons_of_bind h
    exact .escape (.letter hx) (ih hrest)
  | case6 c rest hquote _ _ _ hc ih =>
    obtain ⟨w, hrest, rfl⟩ := eq_cons_of_map h
    exact .plain hquote hc.1 hc.2 (ih hrest)
  | case7 => cases h

theorem readLiteral_of_literal {s v t : List Char} (h : Literal s v t) :
    readLiteral s = some (v, t) := by
  induction h with
  | close => rfl
  | plain hquote hc _ ih => simp [readLiteral, *]

theorem literal_of_readLiteral {s v t : List Char} (h : readLiteral s = some (v, t)) :
    Literal s v t := by
  fun_induction readLiteral s generalizing v t with
  | case1 => cases h
  | case2 rest =>
    cases h
    exact .close
  | case3 c rest hquote hc ih =>
    obtain ⟨w, hrest, rfl⟩ := eq_cons_of_map h
    exact .plain hquote hc (ih hrest)
  | case4 => cases h

/-! ### Strings over several lines -/

/-- Quotes that end a string, with up to two more that belong to it. -/
inductive Close (quote : Char) : List Char → List Char → List Char → Prop
  | zero {t : List Char} (ht : ∀ u, t ≠ quote :: u) :
      Close quote (quote :: quote :: quote :: t) [] t
  | one {t : List Char} (ht : ∀ u, t ≠ quote :: u) :
      Close quote (quote :: quote :: quote :: quote :: t) [quote] t
  | two {t : List Char} :
      Close quote (quote :: quote :: quote :: quote :: quote :: t) [quote, quote] t

/-- The text starts with neither a space nor a line end. -/
structure Stops (s : List Char) : Prop where
  space : ∀ c ∈ s.head?, isSpace c = false
  line : lineEnd? s = none

/-- A run of spaces, tabs and line ends, as long as possible. -/
inductive Gap : List Char → List Char → Prop
  | stop {s : List Char} (hs : Stops s) : Gap s s
  | space {c : Char} {s t : List Char} (hc : isSpace c = true) (h : Gap s t) : Gap (c :: s) t
  | line {s t u : List Char} (hs : lineEnd? s = some t) (h : Gap t u) : Gap s u

/-- A string between three double quotes, behind the first three. -/
inductive LongBasic : List Char → List Char → List Char → Prop
  | close {s v t : List Char} (h : Close '"' s v t) : LongBasic s v t
  | quote {s v t : List Char} (hs : ∀ u, s ≠ '"' :: '"' :: u) (h : LongBasic s v t) :
      LongBasic ('"' :: s) ('"' :: v) t
  | plain {c : Char} {s v t : List Char} (hquote : c ≠ '"') (hback : c ≠ '\\')
      (hc : isVisible c = true) (h : LongBasic s v t) : LongBasic (c :: s) (c :: v) t
  | line {s u v t : List Char} (hs : lineEnd? s = some u) (h : LongBasic u v t) :
      LongBasic s ('\n' :: v) t
  | escape {x : Char} {s u v t : List Char} (hx : Escape s x u) (h : LongBasic u v t) :
      LongBasic ('\\' :: s) (x :: v) t
  | continued {s u v t : List Char} (hs : endsLine s = true) (hu : Gap s u)
      (h : LongBasic u v t) : LongBasic ('\\' :: s) v t

/-- A string between three single quotes, behind the first three. -/
inductive LongLiteral : List Char → List Char → List Char → Prop
  | close {s v t : List Char} (h : Close '\'' s v t) : LongLiteral s v t
  | quote {s v t : List Char} (hs : ∀ u, s ≠ '\'' :: '\'' :: u) (h : LongLiteral s v t) :
      LongLiteral ('\'' :: s) ('\'' :: v) t
  | plain {c : Char} {s v t : List Char} (hquote : c ≠ '\'') (hc : isVisible c = true)
      (h : LongLiteral s v t) : LongLiteral (c :: s) (c :: v) t
  | line {s u v t : List Char} (hs : lineEnd? s = some u) (h : LongLiteral u v t) :
      LongLiteral s ('\n' :: v) t

theorem eq_of_lineEnd? {s u : List Char} (h : lineEnd? s = some u) :
    s = '\n' :: u ∨ s = '\r' :: '\n' :: u := by
  unfold lineEnd? at h
  split at h
  · cases h
    exact .inl rfl
  · cases h
    exact .inr rfl
  · cases h

theorem ne_of_isVisible {c : Char} (h : isVisible c = true) : c ≠ '\n' ∧ c ≠ '\r' := by
  constructor <;> rintro rfl <;> cases h

theorem length_lt_of_lineEnd? {s u : List Char} (h : lineEnd? s = some u) :
    u.length < s.length := by
  rcases eq_of_lineEnd? h with rfl | rfl <;> simp only [List.length_cons] <;> omega

theorem lineEnd?_cons {c : Char} (hn : c ≠ '\n') (hr : c ≠ '\r') (s : List Char) :
    lineEnd? (c :: s) = none := by
  unfold lineEnd?
  split
  · next heq => exact absurd (List.cons.inj heq).1 hn
  · next heq => exact absurd (List.cons.inj heq).1 hr
  · rfl

theorem readLongLiteral_of_longLiteral {s v t : List Char} (h : LongLiteral s v t) :
    readLongLiteral s = some (v, t) := by
  induction h with
  | close h =>
    cases h with
    | zero ht => rw [readLongLiteral] <;> rintro u rfl <;> exact ht _ rfl
    | one ht =>
      rw [readLongLiteral]
      exact ht
    | two => rfl
  | quote hs _ ih =>
    have hvisible : isVisible '\'' = true := by decide
    simp [readLongLiteral, hs, ih, hvisible]
  | @plain c s v t hquote hc _ ih =>
    obtain ⟨-, hr⟩ := ne_of_isVisible hc
    simp [readLongLiteral, *]
  | line hs _ ih =>
    rcases eq_of_lineEnd? hs with rfl | rfl
    · simp [readLongLiteral, ih]
    · simp [readLongLiteral, ih]

theorem longLiteral_of_readLongLiteral {s v t : List Char} (h : readLongLiteral s = some (v, t)) :
    LongLiteral s v t := by
  fun_induction readLongLiteral s generalizing v t with
  | case1 => cases h
  | case2 rest =>
    cases h
    exact .close .two
  | case3 rest ht =>
    cases h
    exact .close (.one ht)
  | case4 rest _ ht =>
    cases h
    exact .close (.zero ht)
  | case5 rest ih =>
    obtain ⟨w, hrest, rfl⟩ := eq_cons_of_map h
    exact .line rfl (ih hrest)
  | case6 c rest _ _ hquotes _ hc ih =>
    obtain ⟨w, hrest, rfl⟩ := eq_cons_of_map h
    by_cases hquote : c = '\''
    · subst hquote
      exact .quote (fun u => hquotes u rfl) (ih hrest)
    · rcases hc with rfl | hc
      · exact .line rfl (ih hrest)
      · exact .plain hquote hc (ih hrest)
  | case7 => cases h

theorem Gap.stops {s u : List Char} (h : Gap s u) : Stops u := by
  induction h with
  | stop hs => exact hs
  | space _ _ ih => exact ih
  | line _ _ ih => exact ih

theorem eq_of_isSpace {c : Char} (h : isSpace c = true) : c = ' ' ∨ c = '\t' := by
  simpa [isSpace] using h

theorem Gap.readLongBasic_eq {s u : List Char} (h : Gap s u) :
    readLongBasic true s = readLongBasic true u := by
  induction h with
  | stop => rfl
  | space hc _ ih =>
    rcases eq_of_isSpace hc with rfl | rfl
    · rw [readLongBasic, ih]
    · rw [readLongBasic, ih]
  | line hs _ ih =>
    rcases eq_of_lineEnd? hs with rfl | rfl
    · rw [readLongBasic, ih]
    · rw [readLongBasic, ih]

/-- An escape does not end its line. -/
theorem endsLine_of_escape? {c x : Char} (h : escape? c = some x) (s : List Char) :
    endsLine (c :: s) = false := by
  unfold escape? at h
  split at h <;> first | rfl | cases h

theorem exists_cons_of_endsLine {s : List Char} (h : endsLine s = true) :
    ∃ c rest, s = c :: rest ∧ c ≠ 'u' ∧ c ≠ 'U' := by
  cases s with
  | nil => cases h
  | cons c rest => refine ⟨c, rest, rfl, ?_, ?_⟩ <;> rintro rfl <;> cases h

/-- Where a gap has come to its end, it makes no difference whether the reader is trimming. -/
theorem readLongBasic_of_longBasic {s v t : List Char} (h : LongBasic s v t) :
    ∀ trimming, (trimming = true → Stops s) → readLongBasic trimming s = some (v, t) := by
  induction h with
  | close h =>
    intro trimming _
    cases h with
    | zero ht => rw [readLongBasic] <;> rintro u rfl <;> exact ht _ rfl
    | one ht =>
      rw [readLongBasic]
      exact ht
    | two => rw [readLongBasic]
  | quote hs _ ih =>
    intro trimming _
    have hrest := ih false nofun
    have hvisible : isVisible '"' = true := by decide
    simp [readLongBasic, hs, hrest, hvisible]
  | @plain c s v t hquote hback hc _ ih =>
    intro trimming hstops
    have hrest := ih false nofun
    obtain ⟨hn, hr⟩ := ne_of_isVisible hc
    cases trimming with
    | false => simp [readLongBasic, *]
    | true =>
      have hspace : c ≠ ' ' ∧ c ≠ '\t' := by simpa [isSpace] using (hstops rfl).space c rfl
      simp [readLongBasic, *]
  | line hs _ ih =>
    intro trimming hstops
    cases trimming with
    | false =>
      have hrest := ih false nofun
      rcases eq_of_lineEnd? hs with rfl | rfl
      · simp [readLongBasic, hrest]
      · simp [readLongBasic, hrest]
    | true =>
      -- a gap would go on over this line end
      cases hs.symm.trans (hstops rfl).line
  | escape hx _ ih =>
    intro trimming _
    have hrest := ih false nofun
    cases hx with
    | letter hx =>
      obtain ⟨hu, hU⟩ := ne_of_escape? hx
      simp [readLongBasic, hu, hU, hx, hrest, endsLine_of_escape? hx]
    | short hlen hx =>
      obtain ⟨a, b, c, d, rfl⟩ := exists_four hlen
      simp [readLongBasic, hx, hrest]
    | long hlen hx =>
      obtain ⟨a, b, c, d, e, f, g, h, rfl⟩ := exists_eight hlen
      simp [readLongBasic, hx, hrest]
  | continued hs hu _ ih =>
    intro trimming _
    -- the reader goes on trimming, through the gap and no further
    have hrest := hu.readLongBasic_eq.trans (ih true fun _ => hu.stops)
    obtain ⟨c, rest, rfl, hshort, hlong⟩ := exists_cons_of_endsLine hs
    simp [readLongBasic, hshort, hlong, hs, hrest]

theorem stops_cons {c : Char} (hspace : isSpace c = false) (hn : c ≠ '\n') (hr : c ≠ '\r')
    (s : List Char) : Stops (c :: s) :=
  ⟨by simpa using hspace, lineEnd?_cons hn hr s⟩

/-- What the reader takes: the string that stands there, or behind a gap while it is trimming. -/
def Behind (trimming : Bool) (s v t : List Char) : Prop :=
  ∃ u, (trimming = false → u = s) ∧ (trimming = true → Gap s u) ∧ LongBasic u v t

theorem behind_of_stops {trimming : Bool} {s v t : List Char} (hs : trimming = true → Stops s)
    (h : LongBasic s v t) : Behind trimming s v t :=
  ⟨s, fun _ => rfl, fun htrimming => .stop (hs htrimming), h⟩

theorem behind_false_iff {s v t : List Char} : Behind false s v t ↔ LongBasic s v t := by
  refine ⟨?_, behind_of_stops nofun⟩
  rintro ⟨u, hu, -, h⟩
  exact hu rfl ▸ h

theorem behind_true_iff {s v t : List Char} :
    Behind true s v t ↔ ∃ u, Gap s u ∧ LongBasic u v t := by
  refine ⟨?_, ?_⟩
  · rintro ⟨u, -, hgap, h⟩
    exact ⟨u, hgap rfl, h⟩
  · rintro ⟨u, hgap, h⟩
    exact ⟨u, nofun, fun _ => hgap, h⟩

theorem Behind.space {c : Char} {s v t : List Char} (hc : isSpace c = true)
    (h : Behind true s v t) : Behind true (c :: s) v t := by
  obtain ⟨u, hgap, hu⟩ := behind_true_iff.1 h
  exact behind_true_iff.2 ⟨u, .space hc hgap, hu⟩

theorem Behind.line {s u v t : List Char} (hs : lineEnd? s = some u) (h : Behind true u v t) :
    Behind true s v t := by
  obtain ⟨w, hgap, hw⟩ := behind_true_iff.1 h
  exact behind_true_iff.2 ⟨w, .line hs hgap, hw⟩

theorem behind_of_readLongBasic {trimming : Bool} {s v t : List Char}
    (h : readLongBasic trimming s = some (v, t)) : Behind trimming s v t := by
  have hquote : ∀ s, Stops ('"' :: s) := stops_cons (by decide) (by decide) (by decide)
  have hback : ∀ s, Stops ('\\' :: s) := stops_cons (by decide) (by decide) (by decide)
  fun_induction readLongBasic trimming s generalizing v t with
  | case1 => cases h
  -- blanks and line ends of a gap
  | case2 rest ih => exact (ih h).space rfl
  | case3 rest ih => exact (ih h).space rfl
  | case4 rest ih => exact (ih h).line rfl
  | case5 rest ih => exact (ih h).line rfl
  -- closing quotes
  | case6 trimming rest =>
    cases h
    exact behind_of_stops (fun _ => hquote _) (.close .two)
  | case7 trimming rest ht =>
    cases h
    exact behind_of_stops (fun _ => hquote _) (.close (.one ht))
  | case8 trimming rest _ ht =>
    cases h
    exact behind_of_stops (fun _ => hquote _) (.close (.zero ht))
  -- what stands behind a backslash
  | case9 trimming a b c d rest ih =>
    obtain ⟨x, w, hx, hrest, rfl⟩ := eq_cons_of_bind h
    exact behind_of_stops (fun _ => hback _)
      (.escape (@Escape.short [a, b, c, d] x rest rfl hx) (behind_false_iff.1 (ih hrest)))
  | case10 trimming a b c d e f g k rest ih =>
    obtain ⟨x, w, hx, hrest, rfl⟩ := eq_cons_of_bind h
    exact behind_of_stops (fun _ => hback _)
      (.escape (@Escape.long [a, b, c, d, e, f, g, k] x rest rfl hx)
        (behind_false_iff.1 (ih hrest)))
  | case11 trimming c rest _ _ hends ih =>
    obtain ⟨u, hgap, hu⟩ := behind_true_iff.1 (ih h)
    exact behind_of_stops (fun _ => hback _) (.continued hends hgap hu)
  | case12 trimming c rest _ _ hends ih =>
    obtain ⟨x, w, hx, hrest, rfl⟩ := eq_cons_of_bind h
    exact behind_of_stops (fun _ => hback _) (.escape (.letter hx) (behind_false_iff.1 (ih hrest)))
  -- line ends and characters of the string
  | case13 trimming rest htrimming ih =>
    obtain ⟨w, hrest, rfl⟩ := eq_cons_of_map h
    exact behind_of_stops (fun h => absurd h htrimming)
      (.line rfl (behind_false_iff.1 (ih hrest)))
  | case14 trimming c rest hblank htab hline _ _ _ hquotes _ _ _ _ hc ih =>
    obtain ⟨w, hrest, rfl⟩ := eq_cons_of_map h
    have hw := behind_false_iff.1 (ih hrest)
    rcases hc with rfl | ⟨hne, hc⟩
    · exact behind_of_stops (fun h => absurd rfl (hline h)) (.line rfl hw)
    · obtain ⟨hn, hr⟩ := ne_of_isVisible hc
      have hstops : trimming = true → Stops (c :: rest) := fun h =>
        stops_cons (by simpa [isSpace] using ⟨hblank h, htab h⟩) hn hr rest
      by_cases hq : c = '"'
      · subst hq
        exact behind_of_stops hstops (.quote (fun u => hquotes u rfl) hw)
      · exact behind_of_stops hstops (.plain hq hne hc hw)
  | case15 => cases h

/-! ### All forms -/

/-- A string with its quotes. -/
inductive Text : List Char → List Char → List Char → Prop
  | basic {s v t : List Char} (hs : ∀ u, s ≠ '"' :: '"' :: u) (h : Basic s v t) :
      Text ('"' :: s) v t
  | longBasic {s v t : List Char} (h : LongBasic (dropLineEnd s) v t) :
      Text ('"' :: '"' :: '"' :: s) v t
  | literal {s v t : List Char} (hs : ∀ u, s ≠ '\'' :: '\'' :: u) (h : Literal s v t) :
      Text ('\'' :: s) v t
  | longLiteral {s v t : List Char} (h : LongLiteral (dropLineEnd s) v t) :
      Text ('\'' :: '\'' :: '\'' :: s) v t

/-- **Strings.**  A string is read as what it spells, and nothing else is read as a string. -/
theorem text_iff {s v t : List Char} : readText? s = some (v, t) ↔ Text s v t := by
  constructor
  · intro h
    unfold readText? at h
    split at h
    · exact .longBasic (behind_false_iff.1 (behind_of_readLongBasic h))
    · next hs => exact .basic hs (basic_of_readBasic h)
    · exact .longLiteral (longLiteral_of_readLongLiteral h)
    · next hs => exact .literal hs (literal_of_readLiteral h)
    · cases h
  · intro h
    cases h with
    | basic hs h =>
      rw [readText?]
      · exact readBasic_of_basic h
      · exact hs
    | longBasic h => exact readLongBasic_of_longBasic h false nofun
    | literal hs h =>
      rw [readText?]
      · exact readLiteral_of_literal h
      · exact hs
    | longLiteral h => exact readLongLiteral_of_longLiteral h

end Grammar

end JudgeClient.Toml
