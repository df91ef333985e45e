import JudgeClient.Proofs.Route.Params
import JudgeClient.Proofs.Route.Pattern
import JudgeClient.Route.Table

/-!
# What a resolved location captures

A location resolves through one entry of the table, and the parameters of the route are the captures
of that entry's pattern.  The application's own table captures nothing but numbers, under the names
`id` and `contestId`, and passes them on wherever a page needs them.  Hence a route of the
application has every id that its page asks for.

* `RouteTable.exists_entry_of_resolve` : a route comes from an entry that matches;
* `RouteTable.value_of_lookup_app` : a text captured by the application's table is an id, not
  negative and with the value of its digits;
* `RouteTable.isSome_id_app` : a page that needs an id is given one.
-/

namespace JudgeClient

/-- The page is opened with an id. -/
def PageKind.needsId : PageKind → Bool
  | .problemSubmission | .submissionStatus | .contestPage => true
  | .home | .problemList | .submissionList | .contestList | .rankList => false

namespace RouteTable

/-! ### Routes and entries -/

theorem mem_of_find? {path : List Char} {entries : List RouteEntry} {entry : RouteEntry}
    {params : Params} (h : find? path entries = some (entry, params)) :
    entry ∈ entries ∧ entry.pattern.matches? path = some params := by
  induction entries with
  | nil => cases h
  | cons e entries ih =>
    rw [find?] at h
    split at h
    · next params' hm =>
      obtain ⟨rfl, rfl⟩ := Prod.mk.inj (Option.some.inj h)
      exact ⟨List.mem_cons_self, hm⟩
    · obtain ⟨hmem, hm⟩ := ih h
      exact ⟨List.mem_cons_of_mem e hmem, hm⟩

theorem exists_entry_of_resolve {t : RouteTable} {location : String} {route : ResolvedRoute}
    (h : t.resolve location = .found route) : ∃ entry ∈ t.entries,
      entry.page = route.page ∧ entry.forwardsParams = route.forwardsParams ∧
        ∃ parts, Pattern.capture? entry.pattern.segments parts = some route.params := by
  unfold resolve at h
  simp only at h
  split at h
  · cases h
  · next entry params hf =>
    obtain rfl := Resolution.found.inj h
    obtain ⟨hmem, hm⟩ := mem_of_find? hf
    obtain ⟨rest, -, hc⟩ := Pattern.exists_of_matches?_eq_some hm
    exact ⟨entry, hmem, rfl, rfl, splitPath rest, hc⟩

theorem props_eq_of_forwardsParams {route : ResolvedRoute} (h : route.forwardsParams = true) :
    route.props = route.params := if_pos h

/-! ### The application's table -/

theorem isAny_eq_false_app :
    ∀ entry ∈ app.entries, ∀ s ∈ entry.pattern.segments, s.isAny = false := by
  decide

/-- A page that needs an id has one in its pattern, and it is passed on. -/
theorem numeric_id_mem_app : ∀ entry ∈ app.entries, entry.page.needsId = true →
    entry.forwardsParams = true ∧ .numeric "id" ∈ entry.pattern.segments := by
  decide

/-- A contest is captured for a problem or a list of submissions, and it is passed on. -/
theorem page_of_contestId_app :
    ∀ entry ∈ app.entries, .numeric "contestId" ∈ entry.pattern.segments →
      entry.forwardsParams = true ∧
        (entry.page = .problemSubmission ∨ entry.page = .submissionList) := by
  decide

section App

variable {location : String} {route : ResolvedRoute} (h : app.resolve location = .found route)

include h

/-- A captured text is an id with the value of its digits. -/
theorem value_of_lookup_app {name text : String} (hl : route.params.lookup name = some text) :
    ∃ v : Int64, route.params.get? name = some v ∧
      Numeral.readSigned? text.toList = some v.toInt ∧
      v.toInt = Numeral.ofDigits text.toList := by
  obtain ⟨entry, hmem, -, -, parts, hc⟩ := exists_entry_of_resolve h
  obtain ⟨-, hn⟩ := Pattern.isNumeric_of_capture? hc (isAny_eq_false_app entry hmem) hl
  obtain ⟨v, hv, hval⟩ := ParamValue.read?_int64_of_isNumeric hn
  refine ⟨v, by simp [Params.get?, hl, hv], ?_, hval⟩
  rw [hval]
  exact Numeral.readSigned?_of_isNumeric hn

theorem isSome_id_app (hp : route.page.needsId = true) :
    route.forwardsParams = true ∧ ∃ text, route.params.lookup "id" = some text := by
  obtain ⟨entry, hmem, hpage, hforward, parts, hc⟩ := exists_entry_of_resolve h
  obtain ⟨hf, hs⟩ := numeric_id_mem_app entry hmem (by rw [hpage]; exact hp)
  refine ⟨hforward ▸ hf, Option.isSome_iff_exists.1 ?_⟩
  exact Pattern.isSome_lookup_of_capture? hc hs rfl

theorem page_of_lookup_contestId_app {text : String}
    (hl : route.params.lookup "contestId" = some text) : route.forwardsParams = true ∧
      (route.page = .problemSubmission ∨ route.page = .submissionList) := by
  obtain ⟨entry, hmem, hpage, hforward, parts, hc⟩ := exists_entry_of_resolve h
  obtain ⟨hs, -⟩ := Pattern.isNumeric_of_capture? hc (isAny_eq_false_app entry hmem) hl
  rw [← hpage, ← hforward]
  exact page_of_contestId_app entry hmem hs

end App

end RouteTable

end JudgeClient
