import JudgeClient.Proofs.Route.Building
import JudgeClient.Proofs.Route.Table
import Mathlib.Data.List.Perm.Basic

/-!
# Tables without ambiguity

A table is read from the top, so in general the order of its rows matters.  It does not if no path
is matched by two rows.  Whether two patterns can match one path is decided segment by segment:
they cannot if they differ in length, or if somewhere no part suits both of their segments.

* `Pattern.matches?_eq_none_of_excludes` : patterns that exclude each other match no common path;
* `RouteTable.IsUnambiguous.find?_eq_of_perm` : without ambiguity the order of the entries does
  not matter, and `RouteTable.IsUnambiguous.find?_eq_some` an entry that matches is the one found;
* `RouteTable.exists_build_of_perm` : rows in another order make the same entries in another order;
* `RouteTable.app_order_irrelevant` : the application's table is without ambiguity.
-/

namespace JudgeClient

/-! ### Segments that exclude each other -/

namespace Segment

/-- No part of a path suits both segments. -/
def excludes : Segment → Segment → Bool
  | .literal a, .literal b => a.toList.map Char.toLower != b.toList.map Char.toLower
  | .literal a, .numeric _ => !Numeral.isNumeric (a.toList.map Char.toLower)
  | .numeric _, .literal b => !Numeral.isNumeric (b.toList.map Char.toLower)
  | _, _ => false

/-- Digits have no case. -/
theorem map_toLower_of_isNumeric {part : List Char} (h : Numeral.isNumeric part = true) :
    part.map Char.toLower = part := by
  have hlower : ∀ c ∈ part, c.toLower = c := by
    intro c hc
    have hdigit := Numeral.isDigit_of_isNumeric h hc
    simp only [Char.isDigit, Bool.and_eq_true, decide_eq_true_eq, ge_iff_le] at hdigit
    -- the letters begin behind the digits
    have hupper : ¬65 ≤ c.val := fun hu => absurd (UInt32.le_trans hu hdigit.2) (by decide)
    exact dif_neg fun hu => hupper hu.1
  exact List.map_congr_left hlower |>.trans (List.map_id part)

theorem accepts_literal_iff {text : String} {part : List Char} :
    (literal text).accepts part = true ↔
      text.toList.map Char.toLower = part.map Char.toLower := by
  simp [accepts]

theorem accepts_numeric_iff {name : String} {part : List Char} :
    (numeric name).accepts part = true ↔ Numeral.isNumeric part = true := Iff.rfl

/-- A part that suits one of two segments that exclude each other does not suit the other one. -/
theorem accepts_eq_false_of_excludes {a b : Segment} (h : a.excludes b = true) {part : List Char}
    (ha : a.accepts part = true) : b.accepts part = false := by
  rw [← Bool.not_eq_true]
  intro hb
  cases a with
  | any => cases b <;> cases h
  | literal s =>
    rw [accepts_literal_iff] at ha
    cases b with
    | any => cases h
    | literal t =>
      rw [accepts_literal_iff] at hb
      simp [excludes, ha, hb] at h
    | numeric =>
      rw [accepts_numeric_iff] at hb
      simp [excludes, ha, map_toLower_of_isNumeric hb, hb] at h
  | numeric =>
    rw [accepts_numeric_iff] at ha
    cases b with
    | any | numeric => cases h
    | literal t =>
      rw [accepts_literal_iff] at hb
      simp [excludes, hb, map_toLower_of_isNumeric ha, ha] at h

end Segment

/-! ### Patterns that exclude each other -/

namespace Pattern

/-- The segments differ in number, or two of them at one place exclude each other. -/
def segmentsExclude : List Segment → List Segment → Bool
  | [], [] => false
  | a :: as, b :: bs => a.excludes b || segmentsExclude as bs
  | _, _ => true

/-- No path is matched by both patterns. -/
def excludes (p q : Pattern) : Bool := segmentsExclude p.segments q.segments

theorem capture?_eq_none_of_segmentsExclude {as bs : List Segment}
    (h : segmentsExclude as bs = true) {parts : List (List Char)} {params : Params}
    (ha : capture? as parts = some params) : capture? bs parts = none := by
  induction as generalizing bs parts params with
  | nil =>
    cases parts with
    | cons => cases ha
    | nil =>
      cases bs with
      | nil => cases h
      | cons => rfl
  | cons a as ih =>
    cases parts with
    | nil => cases ha
    | cons part parts =>
      cases bs with
      | nil => rfl
      | cons b bs =>
        obtain ⟨hpart, rest, hrest, -⟩ := capture?_cons_eq_some ha
        -- either this part does not suit the second pattern, or a later one does not
        rcases Bool.or_eq_true_iff.1 h with h | h
        · simp [capture?, Segment.accepts_eq_false_of_excludes h hpart]
        · simp [capture?, ih h hrest]

theorem matches?_eq_none_of_excludes {p q : Pattern} (h : p.excludes q = true) {path : List Char}
    {params : Params} (hp : p.matches? path = some params) : q.matches? path = none := by
  cases path with
  | nil => cases hp
  | cons c rest =>
    by_cases hc : c = '/'
    · subst hc
      exact capture?_eq_none_of_segmentsExclude h hp
    · simp [matches?, hc]

end Pattern

namespace RouteTable

/-! ### The entries that match -/

/-- The entries that match a path, in the order of the table, with their captures. -/
def matching (path : List Char) (entries : List RouteEntry) : List (RouteEntry × Params) :=
  entries.filterMap fun entry => (entry.pattern.matches? path).map fun params => (entry, params)

theorem find?_eq_head?_matching (path : List Char) (entries : List RouteEntry) :
    find? path entries = (matching path entries).head? := by
  induction entries with
  | nil => rfl
  | cons entry entries ih =>
    rw [find?, matching, List.filterMap_cons]
    cases entry.pattern.matches? path with
    | none => exact ih
    | some params => rfl

theorem length_matching (path : List Char) (entries : List RouteEntry) :
    (matching path entries).length =
      entries.countP fun entry => (entry.pattern.matches? path).isSome := by
  simp [matching, List.length_filterMap_eq_countP]

/-- No path is matched by two entries. -/
def IsUnambiguous (t : RouteTable) : Prop :=
  t.entries.Pairwise fun a b => a.pattern.excludes b.pattern = true

namespace IsUnambiguous

variable {t : RouteTable}

theorem length_matching_le (h : t.IsUnambiguous) (path : List Char) :
    (matching path t.entries).length ≤ 1 := by
  obtain ⟨entries⟩ := t
  unfold IsUnambiguous at h
  dsimp only at h ⊢
  induction entries with
  | nil => exact Nat.zero_le 1
  | cons entry entries ih =>
    obtain ⟨hentry, hentries⟩ := List.pairwise_cons.1 h
    cases hm : entry.pattern.matches? path with
    | none => simpa [matching, hm] using ih hentries
    | some params =>
      -- the patterns behind a pattern that matches do not match
      have hrest : matching path entries = [] := by
        refine List.filterMap_eq_nil_iff.2 fun e he => ?_
        simp [Pattern.matches?_eq_none_of_excludes (hentry e he) hm]
      have hone : matching path (entry :: entries) = [(entry, params)] := by
        rw [← hrest]
        simp [matching, hm]
      rw [hone]
      exact Nat.le_refl 1

/-- Another order of the entries finds the same entry. -/
theorem find?_eq_of_perm (h : t.IsUnambiguous) {entries : List RouteEntry}
    (hperm : entries.Perm t.entries) (path : List Char) :
    find? path entries = find? path t.entries := by
  have hmatching : (matching path entries).Perm (matching path t.entries) := hperm.filterMap _
  have hlen := h.length_matching_le path
  have heq : matching path entries = matching path t.entries := by
    match hm : matching path t.entries with
    | [] => exact List.perm_nil.1 (hm ▸ hmatching)
    | [e] => exact List.perm_singleton.1 (hm ▸ hmatching)
    | _ :: _ :: _ => simp [hm] at hlen
  rw [find?_eq_head?_matching, find?_eq_head?_matching, heq]

/-- An entry that matches is the one that is found, wherever it stands. -/
theorem find?_eq_some (h : t.IsUnambiguous) {entry : RouteEntry} (hmem : entry ∈ t.entries)
    {path : List Char} {params : Params} (hm : entry.pattern.matches? path = some params) :
    find? path t.entries = some (entry, params) := by
  have hin : (entry, params) ∈ matching path t.entries :=
    List.mem_filterMap.2 ⟨entry, hmem, by simp [hm]⟩
  have hlen := h.length_matching_le path
  rw [find?_eq_head?_matching]
  match hall : matching path t.entries with
  | [] => simp [hall] at hin
  | [e] =>
    rw [hall, List.mem_singleton] at hin
    rw [hin]
    rfl
  | _ :: _ :: _ => simp [hall] at hlen

theorem resolve_eq_of_perm (h : t.IsUnambiguous) {entries : List RouteEntry}
    (hperm : entries.Perm t.entries) (location : String) :
    resolve ⟨entries⟩ location = t.resolve location := by
  simp only [resolve, h.find?_eq_of_perm hperm]

end IsUnambiguous

/-! ### Rows in another order -/

/-- Rows in another order make the same entries in another order. -/
theorem exists_build_of_perm {rows rows' : List RouteRow} (hperm : rows'.Perm rows)
    {t : RouteTable} (h : build rows = .ok t) :
    ∃ t', build rows' = .ok t' ∧ t'.entries.Perm t.entries := by
  obtain ⟨entries, hentries, hp⟩ := List.perm_comp_forall₂ hperm (build_eq_ok_iff.1 h)
  exact ⟨⟨entries⟩, build_eq_ok_iff.2 hentries, hp⟩

/-! ### The application's table -/

theorem isUnambiguous_app : app.IsUnambiguous := by
  unfold IsUnambiguous
  decide

/-- **The application's table is without ambiguity.**  Of its ten entries at most one matches a
path.  Hence its entries could stand in any order, and so could the rows that it is built from:
every location would stand for the same. -/
theorem app_order_irrelevant :
    app.entries.length = 10 ∧
      (∀ path, (app.entries.countP fun entry => (entry.pattern.matches? path).isSome) ≤ 1) ∧
      (∀ entries, entries.Perm app.entries →
        ∀ location, resolve ⟨entries⟩ location = app.resolve location) ∧
      ∀ rows, rows.Perm appRows →
        ∃ t, build rows = .ok t ∧ ∀ location, t.resolve location = app.resolve location := by
  refine ⟨by decide, fun path => ?_, fun entries hperm => ?_, fun rows hperm => ?_⟩
  · rw [← length_matching]
    exact isUnambiguous_app.length_matching_le path
  · exact isUnambiguous_app.resolve_eq_of_perm hperm
  · obtain ⟨t, ht, hentries⟩ := exists_build_of_perm hperm build_appRows
    exact ⟨t, ht, isUnambiguous_app.resolve_eq_of_perm hentries⟩

/-- The table from the bottom up, at a location that begins like two others. -/
theorem app_order_irrelevant_of_reversed :
    let location := "/Contest/3/SUBMISSIONS/?user_id=1"
    app.entries.reverse.Perm app.entries ∧ appRows.reverse.Perm appRows ∧
      resolve ⟨app.entries.reverse⟩ location = app.resolve location ∧
      ∃ t, build appRows.reverse = .ok t ∧ t.resolve location = app.resolve location := by
  intro location
  have hentries : app.entries.reverse.Perm app.entries := List.reverse_perm _
  have hrows : appRows.reverse.Perm appRows := List.reverse_perm _
  obtain ⟨-, -, hresolve, hbuild⟩ := app_order_irrelevant
  obtain ⟨t, ht, hlocation⟩ := hbuild _ hrows
  exact ⟨hentries, hrows, hresolve _ hentries location, t, ht, hlocation location⟩

end RouteTable

end JudgeClient
