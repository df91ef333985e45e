import JudgeClient.Proofs.Route.Building
import JudgeClient.Proofs.Route.Location
import JudgeClient.Proofs.Route.Path

/-!
# Resolving a location

A location is resolved by its path alone: the first row whose pattern matches gives the page and the
captures, whatever the query says, and one more slash at the end of the path changes nothing.  The
query is only handed on.

* `RouteTable.exists_hit` : the row that a path finds;
* `RouteTable.resolve_eq_resolution` : a location stands for what its path finds;
* `RouteTable.resolves_by_first_row` : building and resolving as a whole.
-/

namespace JudgeClient

namespace RouteTable

/-! ### The row that a path finds -/

/-- A row that a path finds: its place, and what its pattern captures. -/
structure Hit where
  place : Nat
  row : RouteRow
  params : Params

/-- The hit is the first row whose pattern matches the path; without one no pattern does. -/
def IsHit (rows : List RouteRow) (path : List Char) : Option Hit → Prop
  | none => ∀ row ∈ rows, ∀ params, ¬row.Matches path params
  | some hit => IsFirst (fun row => ∃ params, row.Matches path params) rows hit.place hit.row ∧
      hit.row.Matches path hit.params

/-- What a location with the query stands for if its path finds the hit. -/
def resolution (location : String) (query : List Char) : Option Hit → Resolution
  | none => .notFound location
  | some hit => .found {
      page := hit.row.page
      name := hit.row.name
      params := hit.params
      query := (Params.ofQuery query).toOption.getD .empty
      forwardsParams := hit.row.name.isNone }

/-- Every path has a hit, and the table finds its entry. -/
theorem exists_hit {rows : List RouteRow} {entries : List RouteEntry}
    (h : List.Forall₂ RouteRow.IsEntry rows entries) (path : List Char) :
    ∃ hit, IsHit rows path hit ∧
      Option.Rel (fun hit found => hit.row.IsEntry found.1 ∧ hit.params = found.2) hit
        (find? path entries) := by
  induction h with
  | nil => exact ⟨none, by simp [IsHit], .none⟩
  | @cons row entry rows entries hentry _ ih =>
    rw [find?]
    cases hm : entry.pattern.matches? path with
    | some params =>
      have hrow : row.Matches path params := hentry.matches_iff.2 hm
      exact ⟨some ⟨0, row, params⟩, ⟨isFirst_zero_iff.2 ⟨rfl, params, hrow⟩, hrow⟩,
        .some ⟨hentry, rfl⟩⟩
    | none =>
      have hrow : ¬∃ params, row.Matches path params := by
        rintro ⟨params, hparams⟩
        simp [hentry.matches_iff.1 hparams] at hm
      obtain ⟨hit, hhit, hfound⟩ := ih
      dsimp only
      generalize find? path entries = found at hfound
      -- the hit among the other rows stands one place further on
      cases hfound with
      | none => exact ⟨none, List.forall_mem_cons.2 ⟨not_exists.1 hrow, hhit⟩, .none⟩
      | @some hit _ hfound =>
        exact ⟨some { hit with place := hit.place + 1 },
          ⟨isFirst_succ_iff.2 ⟨hrow, hhit.1⟩, hhit.2⟩, .some hfound⟩

theorem queryParams_eq (query : List Char) :
    queryParams query = (Params.ofQuery query).toOption.getD .empty := by
  unfold queryParams
  cases Params.ofQuery query <;> rfl

theorem resolve_eq_resolution {t : RouteTable} {location : String} {path query : List Char}
    (hs : Location.IsSplit location path query) {hit : Option Hit}
    (hfound : Option.Rel (fun hit found => hit.row.IsEntry found.1 ∧ hit.params = found.2) hit
      (find? (if path = [] then ['/'] else path) t.entries)) :
    t.resolve location = resolution location query hit := by
  simp only [resolve, splitLocation_of_isSplit hs]
  generalize find? (if path = [] then ['/'] else path) t.entries = found at hfound
  cases hfound with
  | none => rfl
  | some hfound =>
    obtain ⟨hentry, hparams⟩ := hfound
    simp only [resolution, hentry.page, hentry.name, hentry.forwardsParams, hparams, queryParams_eq]

theorem find?_congr {path path' : List Char}
    (h : ∀ p : Pattern, p.matches? path = p.matches? path') (entries : List RouteEntry) :
    find? path entries = find? path' entries := by
  induction entries with
  | nil => rfl
  | cons entry entries ih => rw [find?, find?, h, ih]

/-- One more slash at the end of a path finds the same entry. -/
theorem find?_concat_slash {path : List Char} (hlast : path.getLast? ≠ some '/')
    (entries : List RouteEntry) :
    find? (if path ++ ['/'] = [] then ['/'] else path ++ ['/']) entries =
      find? (if path = [] then ['/'] else path) entries := by
  by_cases hne : path = []
  · simp [hne]
  · rw [if_neg hne, if_neg (by simp)]
    exact find?_congr (fun p => p.matches?_concat_slash hne hlast) entries

/-- **Building and resolving.**  Some rows make a table with one entry for each, unless there is one
whose text is no pattern; the first such row is the error.  A path has one hit, the first row whose
pattern matches, and every location with that path stands for it, whatever its query is and also
with one more slash behind the path; a query that is malformed is empty.  The captures are passed on
if the row has no name. -/
theorem resolves_by_first_row (rows : List RouteRow) :
    ((∃ e, build rows = .error e) ↔ ∃ row ∈ rows, row.IsFaulty) ∧
    (∀ e, build rows = .error e ↔ ∃ place row, IsFirst RouteRow.IsFaulty rows place row ∧
      Pattern.parse row.pattern = .error e) ∧
    ∀ t, build rows = .ok t →
      List.Forall₂ RouteRow.IsEntry rows t.entries ∧
      (∀ path, ∃ hit, IsHit rows (if path = [] then ['/'] else path) hit ∧
        (∀ location query, Location.IsSplit location path query →
          t.resolve location = resolution location query hit) ∧
        (path.getLast? ≠ some '/' → ∀ location query,
          Location.IsSplit location (path ++ ['/']) query →
            t.resolve location = resolution location query hit)) ∧
      ∀ location route, t.resolve location = .found route →
        route.props = if route.name = none then route.params else .empty := by
  refine ⟨exists_build_eq_error_iff, fun e => build_eq_error_iff, fun t ht => ?_⟩
  have hentries := build_eq_ok_iff.1 ht
  refine ⟨hentries, fun path => ?_, fun location route hroute => ?_⟩
  · obtain ⟨hit, hhit, hfound⟩ := exists_hit hentries (if path = [] then ['/'] else path)
    refine ⟨hit, hhit, fun location query hs => resolve_eq_resolution hs hfound, ?_⟩
    intro hlast location query hs
    exact resolve_eq_resolution hs (by rw [find?_concat_slash hlast]; exact hfound)
  · obtain ⟨path, query, hs⟩ := Location.exists_isSplit location
    obtain ⟨hit, -, hfound⟩ := exists_hit hentries _
    rw [resolve_eq_resolution hs hfound] at hroute
    cases hit with
    | none => cases hroute
    | some hit =>
      obtain rfl := Resolution.found.inj hroute
      simp [ResolvedRoute.props]

/-- Two rows that match the same number, and a query that is malformed. -/
theorem resolves_by_first_row_of_overlap :
    let rows : List RouteRow :=
      [⟨some "Names", "/contest/:name", .contestList⟩, ⟨none, "/contest/:id(\\d+)", .contestPage⟩]
    let path := "/contest/3".toList
    ∃ t, build rows = .ok t ∧ ∃ hit, IsHit rows path hit ∧
      t.resolve "/contest/3?a[" = resolution "/contest/3?a[" ['a', '['] hit ∧
      t.resolve "/contest/3/" = resolution "/contest/3/" [] hit := by
  intro rows path
  have ht : build rows = .ok ((build rows).toOption.getD ⟨[]⟩) := rfl
  obtain ⟨-, hhits, -⟩ := (resolves_by_first_row rows).2.2 _ ht
  obtain ⟨hit, hhit, hplain, hslash⟩ := hhits path
  exact ⟨_, ht, hit, hhit, hplain _ _ ⟨by decide, .inl (by decide)⟩,
    hslash (by decide) _ _ ⟨by decide, .inr ⟨by decide, rfl⟩⟩⟩

end RouteTable

end JudgeClient
