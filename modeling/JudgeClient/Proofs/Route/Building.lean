import JudgeClient.Route.Table
import Mathlib.Data.List.Forall2

/-!
# Building a table

A table is built from its rows: each row has an entry with its pattern read.  There is no table if
the text of a row is no pattern, and then the first such row is to blame.

* `IsFirst` : the first row of a kind;
* `RouteTable.build_eq_ok_iff` : the table of some rows;
* `RouteTable.build_eq_error_iff`, `RouteTable.exists_build_eq_error_iff` : why there is none.
-/

namespace JudgeClient

/-! ### Rows -/

/-- The row stands at the place, and it is the first one of its kind. -/
structure IsFirst (P : RouteRow → Prop) (rows : List RouteRow) (place : Nat) (row : RouteRow) :
    Prop where
  stands : rows[place]? = some row
  holds : P row
  earlier : ∀ i < place, ∀ r, rows[i]? = some r → ¬P r

theorem isFirst_zero_iff {P : RouteRow → Prop} {r row : RouteRow} {rows : List RouteRow} :
    IsFirst P (r :: rows) 0 row ↔ r = row ∧ P row := by
  constructor
  · rintro ⟨hstands, hrow, -⟩
    exact ⟨by simpa using hstands, hrow⟩
  · rintro ⟨rfl, hrow⟩
    exact ⟨rfl, hrow, fun i hi => absurd hi (Nat.not_lt_zero i)⟩

theorem isFirst_succ_iff {P : RouteRow → Prop} {r row : RouteRow} {rows : List RouteRow}
    {place : Nat} : IsFirst P (r :: rows) (place + 1) row ↔ ¬P r ∧ IsFirst P rows place row := by
  constructor
  · rintro ⟨hstands, hrow, hearlier⟩
    refine ⟨hearlier 0 (Nat.succ_pos place) r rfl, by simpa using hstands, hrow, fun i hi => ?_⟩
    exact fun r' hr' => hearlier (i + 1) (Nat.succ_lt_succ hi) r' (by simpa using hr')
  · rintro ⟨hr, hstands, hrow, hearlier⟩
    refine ⟨by simpa using hstands, hrow, fun i hi r' hr' => ?_⟩
    cases i with
    | zero =>
      obtain rfl : r = r' := by simpa using hr'
      exact hr
    | succ i => exact hearlier i (Nat.lt_of_succ_lt_succ hi) r' (by simpa using hr')

/-- The first row of a kind is the head, or the head is not of that kind. -/
theorem exists_isFirst_cons_iff {P Q : RouteRow → Prop} {r : RouteRow} {rows : List RouteRow} :
    (∃ place row, IsFirst P (r :: rows) place row ∧ Q row) ↔
      P r ∧ Q r ∨ ¬P r ∧ ∃ place row, IsFirst P rows place row ∧ Q row := by
  constructor
  · rintro ⟨place, row, hfirst, hrow⟩
    cases place with
    | zero =>
      obtain ⟨rfl, hr⟩ := isFirst_zero_iff.1 hfirst
      exact .inl ⟨hr, hrow⟩
    | succ place =>
      obtain ⟨hr, hfirst⟩ := isFirst_succ_iff.1 hfirst
      exact .inr ⟨hr, place, row, hfirst, hrow⟩
  · rintro (⟨hr, hrow⟩ | ⟨hr, place, row, hfirst, hrow⟩)
    · exact ⟨0, r, isFirst_zero_iff.2 ⟨rfl, hr⟩, hrow⟩
    · exact ⟨place + 1, row, isFirst_succ_iff.2 ⟨hr, hfirst⟩, hrow⟩

namespace RouteRow

/-- The text of the row is no pattern. -/
def IsFaulty (row : RouteRow) : Prop := ∃ e, Pattern.parse row.pattern = .error e

/-- The row has a pattern, which matches the path with these captures. -/
def Matches (row : RouteRow) (path : List Char) (params : Params) : Prop :=
  ∃ p, Pattern.parse row.pattern = .ok p ∧ p.matches? path = some params

/-- The entry has the pattern of the row and what else the row says.  It passes its captures on if
the row has no name. -/
structure IsEntry (row : RouteRow) (entry : RouteEntry) : Prop where
  pattern : Pattern.parse row.pattern = .ok entry.pattern
  name : entry.name = row.name
  page : entry.page = row.page
  forwardsParams : entry.forwardsParams = row.name.isNone

theorem IsEntry.matches_iff {row : RouteRow} {entry : RouteEntry} (h : row.IsEntry entry)
    {path : List Char} {params : Params} :
    row.Matches path params ↔ entry.pattern.matches? path = some params := by
  constructor
  · rintro ⟨p, hp, hm⟩
    obtain rfl : entry.pattern = p := Except.ok.inj (h.pattern.symm.trans hp)
    exact hm
  · exact fun hm => ⟨_, h.pattern, hm⟩

theorem IsEntry.not_isFaulty {row : RouteRow} {entry : RouteEntry} (h : row.IsEntry entry) :
    ¬row.IsFaulty := by
  rintro ⟨e, he⟩
  cases h.pattern.symm.trans he

/-- A row that is not faulty has an entry. -/
theorem isFaulty_or_exists_isEntry (row : RouteRow) :
    row.IsFaulty ∨ ∃ entry, row.IsEntry entry := by
  cases hp : Pattern.parse row.pattern with
  | error e => exact .inl ⟨e, hp⟩
  | ok p => exact .inr ⟨⟨p, row.name, row.page, row.name.isNone⟩, hp, rfl, rfl, rfl⟩

end RouteRow

namespace RouteTable

/-! ### Building -/

section Row

variable {row : RouteRow} {rows : List RouteRow}

theorem entryOfRow_of_parse_eq_error {e : PatternError}
    (h : Pattern.parse row.pattern = .error e) : entryOfRow row = .error e := by
  rw [entryOfRow, h]
  rfl

theorem entryOfRow_of_isEntry {entry : RouteEntry} (h : row.IsEntry entry) :
    entryOfRow row = .ok entry := by
  obtain ⟨pattern, name, page, forwardsParams⟩ := entry
  obtain ⟨hpattern, rfl, rfl, rfl⟩ := h
  rw [entryOfRow, hpattern]
  rfl

/-- A faulty row hides the rows behind it. -/
theorem mapM_entryOfRow_of_parse_eq_error {e : PatternError}
    (h : Pattern.parse row.pattern = .error e) : (row :: rows).mapM entryOfRow = .error e := by
  rw [List.mapM_cons, entryOfRow_of_parse_eq_error h]
  rfl

theorem mapM_entryOfRow_of_isEntry {entry : RouteEntry} (h : row.IsEntry entry) :
    (row :: rows).mapM entryOfRow = (rows.mapM entryOfRow).map (entry :: ·) := by
  rw [List.mapM_cons, entryOfRow_of_isEntry h]
  rfl

end Row

theorem mapM_entryOfRow_eq_ok_iff {rows : List RouteRow} {entries : List RouteEntry} :
    rows.mapM entryOfRow = .ok entries ↔ List.Forall₂ RouteRow.IsEntry rows entries := by
  constructor
  · intro h
    induction rows generalizing entries with
    | nil =>
      obtain rfl := Except.ok.inj h
      exact .nil
    | cons row rows ih =>
      rcases row.isFaulty_or_exists_isEntry with ⟨e, he⟩ | ⟨entry, hentry⟩
      · simp [mapM_entryOfRow_of_parse_eq_error he] at h
      · rw [mapM_entryOfRow_of_isEntry hentry] at h
        cases hrest : rows.mapM entryOfRow with
        | error e => simp [hrest, Except.map] at h
        | ok rest =>
          obtain rfl : entry :: rest = entries := by simpa [hrest, Except.map] using h
          exact .cons hentry (ih hrest)
  · intro h
    induction h with
    | nil => rfl
    | cons hentry _ ih =>
      rw [mapM_entryOfRow_of_isEntry hentry, ih]
      rfl

theorem mapM_entryOfRow_eq_error_iff {rows : List RouteRow} {e : PatternError} :
    rows.mapM entryOfRow = .error e ↔ ∃ place row, IsFirst RouteRow.IsFaulty rows place row ∧
      Pattern.parse row.pattern = .error e := by
  induction rows with
  | nil =>
    constructor
    · intro h
      cases h
    · rintro ⟨place, row, hfirst, -⟩
      cases hfirst.stands
  | cons row rows ih =>
    rw [exists_isFirst_cons_iff, ← ih]
    rcases row.isFaulty_or_exists_isEntry with ⟨e', he⟩ | ⟨entry, hentry⟩
    · have hrow : row.IsFaulty := ⟨e', he⟩
      simp [mapM_entryOfRow_of_parse_eq_error he, hrow, he]
    · have hrow : ¬row.IsFaulty := hentry.not_isFaulty
      rw [mapM_entryOfRow_of_isEntry hentry]
      cases rows.mapM entryOfRow <;> simp [Except.map, hrow]

theorem build_eq_map (rows : List RouteRow) :
    build rows = (rows.mapM entryOfRow).map RouteTable.mk := by
  cases h : rows.mapM entryOfRow <;>
    simp [build, h, bind, Except.bind, Except.map, pure, Except.pure]

/-- The table has one entry for each row, in their order. -/
theorem build_eq_ok_iff {rows : List RouteRow} {t : RouteTable} :
    build rows = .ok t ↔ List.Forall₂ RouteRow.IsEntry rows t.entries := by
  obtain ⟨entries⟩ := t
  rw [← mapM_entryOfRow_eq_ok_iff, build_eq_map]
  cases rows.mapM entryOfRow <;> simp [Except.map]

/-- The first row that is no pattern is an error. -/
theorem build_eq_error_iff {rows : List RouteRow} {e : PatternError} :
    build rows = .error e ↔ ∃ place row, IsFirst RouteRow.IsFaulty rows place row ∧
      Pattern.parse row.pattern = .error e := by
  rw [← mapM_entryOfRow_eq_error_iff, build_eq_map]
  cases rows.mapM entryOfRow <;> simp [Except.map]

/-- Rows make no table just if one of them is faulty. -/
theorem exists_build_eq_error_iff {rows : List RouteRow} :
    (∃ e, build rows = .error e) ↔ ∃ row ∈ rows, row.IsFaulty := by
  constructor
  · rintro ⟨e, h⟩
    obtain ⟨place, row, hfirst, -⟩ := build_eq_error_iff.1 h
    exact ⟨row, List.mem_of_getElem? hfirst.stands, hfirst.holds⟩
  · rintro ⟨row, hmem, hrow⟩
    cases h : build rows with
    | error e => exact ⟨e, rfl⟩
    | ok t =>
      have hsound : List.Forall₂ (fun row entry => ¬row.IsFaulty ∧ row.IsEntry entry) rows
          t.entries := (build_eq_ok_iff.1 h).imp fun _ _ hentry => ⟨hentry.not_isFaulty, hentry⟩
      exact absurd hrow (((List.forall₂_and_left ..).1 hsound).1 row hmem)

end RouteTable

end JudgeClient
