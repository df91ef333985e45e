import JudgeClient.Page.Basic
import JudgeClient.Proofs.Fetch.Step
import JudgeClient.Proofs.Route.Table

/-!
# From a location to its page

A location goes through four hands before anything is asked for: a pattern takes a text out of the
path, the row passes it on or not, the page reads it as a number, and the number is written into
the path of a request.  This file follows an id through all of them.

* `Page.opened_of_id`, `Page.opened_of_needsId_eq_false`, `Page.ofRoute_of_eq_none` : a route opens
  its page, unless the page needs an id that the route does not give;
* `Page.get?_props_id_eq_none_iff` : the three ways in which a route does not give an id;
* `Page.opens_with_captured_id` : the application's table never gets there, and what it opens asks
  for the value of the captured digits.
-/

namespace JudgeClient

namespace Page

/-! ### What a page is opened with -/

/-- The page that is shown, if the location says what to show. -/
def kind? : Page → Option PageKind
  | .home => some .home
  | .problemList _ => some .problemList
  | .problemSubmission _ _ _ => some .problemSubmission
  | .submissionList _ _ => some .submissionList
  | .submissionStatus _ => some .submissionStatus
  | .contestList _ => some .contestList
  | .contestPage _ => some .contestPage
  | .rankList _ _ _ => some .rankList
  | .failed _ => none
  | .notFound _ => none

/-- The contest in which a problem or a list of submissions is shown. -/
def contest? : Page → Option Int64
  | .problemSubmission _ _ form => form.contestId
  | .submissionList contest _ => contest
  | _ => none

/-- The paths that a page asks for which is opened with an id. -/
def idPaths (kind : PageKind) (id : Int64) : List String :=
  match kind with
  | .problemSubmission => ["/problems/" ++ toString id.toInt, "/languages"]
  | .submissionStatus => ["/jobs/" ++ toString id.toInt]
  | .contestPage => ["/contests/" ++ toString id.toInt]
  | .home | .problemList | .submissionList | .contestList | .rankList => []

/-- The page is the one that the route says, with the id and the contest that it passes on. -/
structure Opened (route : ResolvedRoute) (page : Page) : Prop where
  kind : page.kind? = some route.page
  requests : route.page.needsId = true → ∃ id : Int64, route.props.get? "id" = some id ∧
    page.requests = (idPaths route.page id).map .forPath
  contest : route.page = .problemSubmission ∨ route.page = .submissionList →
    page.contest? = route.props.get? "contestId"

/-- The pages that need an id are opened with the one that the route gives. -/
theorem opened_of_id {route : ResolvedRoute} {id : Int64} (h : route.props.get? "id" = some id)
    (hn : route.page.needsId = true) (router : Router) :
    ∃ page, ofRoute route router = .ok page ∧ Opened route page := by
  have hr : route.props.require "id" = .ok id := Params.require_of_eq_some h
  obtain ⟨kind, name, params, query, forwards⟩ := route
  have hpath : ∀ collection path : String, collection ++ "/" = path →
      Endpoint.member collection id = path ++ toString id.toInt := by
    rintro collection path rfl
    rfl
  cases kind with
  | problemSubmission =>
    refine ⟨_, by simp only [ofRoute, hr]; rfl, rfl, fun _ => ⟨id, h, ?_⟩, fun _ => rfl⟩
    rw [idPaths, ← hpath Endpoint.problems "/problems/" rfl]
    rfl
  | submissionStatus =>
    refine ⟨_, by simp only [ofRoute, hr]; rfl, rfl, fun _ => ⟨id, h, ?_⟩, by simp⟩
    rw [idPaths, ← hpath Endpoint.jobs "/jobs/" rfl]
    rfl
  | contestPage =>
    refine ⟨_, by simp only [ofRoute, hr]; rfl, rfl, fun _ => ⟨id, h, ?_⟩, by simp⟩
    rw [idPaths, ← hpath Endpoint.contests "/contests/" rfl]
    rfl
  | home | problemList | submissionList | contestList | rankList => cases hn

/-- The other pages are opened by every route. -/
theorem opened_of_needsId_eq_false {route : ResolvedRoute} (hn : route.page.needsId = false)
    (router : Router) : ∃ page, ofRoute route router = .ok page ∧ Opened route page := by
  obtain ⟨kind, name, params, query, forwards⟩ := route
  cases kind with
  | problemSubmission | submissionStatus | contestPage => cases hn
  | submissionList => exact ⟨_, rfl, rfl, fun h => Bool.noConfusion h, fun _ => rfl⟩
  | home | problemList | contestList | rankList =>
    exact ⟨_, rfl, rfl, fun h => Bool.noConfusion h, by simp⟩

/-- A page that needs an id and is given none is not opened. -/
theorem ofRoute_of_eq_none {route : ResolvedRoute}
    (h : (route.props.get? "id" : Option Int64) = none) (hn : route.page.needsId = true)
    (router : Router) : ∃ e, ofRoute route router = .error e ∧ e.kind = .malformedUrl := by
  obtain ⟨e, he, hk⟩ := Params.require_of_eq_none h
  obtain ⟨kind, name, params, query, forwards⟩ := route
  cases kind with
  | problemSubmission | submissionStatus | contestPage =>
    exact ⟨e, by simp only [ofRoute, he]; rfl, hk⟩
  | home | problemList | submissionList | contestList | rankList => cases hn

/-- The route does not give an id: it does not pass its captures on, or has none of that name, or
has one that is no number. -/
def GivesNoId (route : ResolvedRoute) : Prop :=
  route.forwardsParams = false ∨ route.params.lookup "id" = none ∨
    ∃ text, route.params.lookup "id" = some text ∧ Numeral.readSigned? text.toList = none

theorem get?_props_id_eq_none_iff {route : ResolvedRoute} :
    (route.props.get? "id" : Option Int64) = none ↔ GivesNoId route := by
  unfold GivesNoId ResolvedRoute.props
  cases route.forwardsParams with
  | false => simp
  | true => simp [Params.get?_eq_none_iff, ParamValue.read?_int64_eq_none_iff]

/-! ### What is mounted -/

/-- The page that is mounted where the table resolves a location. -/
def mountAt (t : RouteTable) (location : String) (connected : Bool) : Page :=
  mount (.start t (.start location) connected)

section MountAt

variable {t : RouteTable} {location : String} {route : ResolvedRoute}

theorem mountAt_of_ofRoute_eq_ok (h : t.resolve location = .found route) {connected : Bool}
    {page : Page} (ho : ofRoute route (.start t (.start location) connected) = .ok page) :
    mountAt t location connected = page := by
  have hr : (Router.start t (.start location) connected).resolution = .found route := h
  simp only [mountAt, mount, hr, ho]

theorem opened_mountAt (h : t.resolve location = .found route)
    (hn : ¬(route.page.needsId = true ∧ GivesNoId route)) (connected : Bool) :
    Opened route (mountAt t location connected) := by
  have hopened : ∃ page, ofRoute route (.start t (.start location) connected) = .ok page ∧
      Opened route page := by
    cases hneeds : route.page.needsId with
    | false => exact opened_of_needsId_eq_false hneeds _
    | true =>
      cases hid : (route.props.get? "id" : Option Int64) with
      | some id => exact opened_of_id hid hneeds _
      | none => exact absurd ⟨hneeds, get?_props_id_eq_none_iff.1 hid⟩ hn
  obtain ⟨page, ho, hp⟩ := hopened
  rwa [mountAt_of_ofRoute_eq_ok h ho]

theorem mountAt_eq_failed (h : t.resolve location = .found route)
    (hneeds : route.page.needsId = true) (hno : GivesNoId route) (connected : Bool) :
    ∃ e, mountAt t location connected = .failed e ∧ e.kind = .malformedUrl := by
  obtain ⟨e, he, hk⟩ := ofRoute_of_eq_none (get?_props_id_eq_none_iff.2 hno) hneeds
    (.start t (.start location) connected)
  have hr : (Router.start t (.start location) connected).resolution = .found route := h
  exact ⟨e, by simp only [mountAt, mount, hr, he], hk⟩

theorem Opened.ne_failed {page : Page} (h : Opened route page) (e : Error) : page ≠ .failed e := by
  rintro rfl
  cases h.kind

end MountAt

/-! ### The application's table -/

section App

variable {location : String} {route : ResolvedRoute}

theorem not_givesNoId_app (h : RouteTable.app.resolve location = .found route) :
    ¬(route.page.needsId = true ∧ GivesNoId route) := by
  rintro ⟨hneeds, hno⟩
  obtain ⟨hforward, text, hl⟩ := RouteTable.isSome_id_app h hneeds
  obtain ⟨id, hget, -⟩ := RouteTable.value_of_lookup_app h hl
  have hnone := get?_props_id_eq_none_iff.2 hno
  rw [RouteTable.props_eq_of_forwardsParams hforward, hget] at hnone
  cases hnone

/-- The requests of a page of the application are for the value of the digits in its location. -/
theorem requests_mountAt_app (h : RouteTable.app.resolve location = .found route)
    (hneeds : route.page.needsId = true) {text : String}
    (hl : route.params.lookup "id" = some text) (connected : Bool) :
    ∃ id : Int64, Numeral.readSigned? text.toList = some id.toInt ∧
      id.toInt = Numeral.ofDigits text.toList ∧
      (mountAt .app location connected).requests = (idPaths route.page id).map .forPath := by
  obtain ⟨id, hget, hread, hval⟩ := RouteTable.value_of_lookup_app h hl
  obtain ⟨id', hget', hreq⟩ :=
    (opened_mountAt h (not_givesNoId_app h) connected).requests hneeds
  rw [RouteTable.props_eq_of_forwardsParams (RouteTable.isSome_id_app h hneeds).1] at hget'
  obtain rfl : id' = id := Option.some.inj (hget'.symm.trans hget)
  exact ⟨id', hread, hval, hreq⟩

theorem contest?_mountAt_app (h : RouteTable.app.resolve location = .found route) {text : String}
    (hl : route.params.lookup "contestId" = some text) (connected : Bool) :
    ∃ contest : Int64, Numeral.readSigned? text.toList = some contest.toInt ∧
      contest.toInt = Numeral.ofDigits text.toList ∧
      (mountAt .app location connected).contest? = some contest := by
  obtain ⟨contest, hget, hread, hval⟩ := RouteTable.value_of_lookup_app h hl
  obtain ⟨hforward, hpage⟩ := RouteTable.page_of_lookup_contestId_app h hl
  refine ⟨contest, hread, hval, ?_⟩
  rw [(opened_mountAt h (not_givesNoId_app h) connected).contest hpage,
    RouteTable.props_eq_of_forwardsParams hforward, hget]

end App

/-- **From location to page and requests.**  In the application no location is malformed.  A page
that needs an id asks for the value of the digits that stand in the location, written without
leading zeros, so that zeros before the digits do not change a request; where a contest is
captured, the page is given it.  In an arbitrary table a location that resolves is malformed iff its
page needs an id that the route does not give, and then nothing is asked for. -/
theorem opens_with_captured_id :
    (∀ (location : String) (connected : Bool),
      let page := mountAt .app location connected
      (∀ e, page ≠ .failed e) ∧
        ∀ route, RouteTable.app.resolve location = .found route →
          page.kind? = some route.page ∧
          (route.page.needsId = true → ∃ (text : String) (id : Int64),
            route.params.lookup "id" = some text ∧
              Numeral.readSigned? text.toList = some id.toInt ∧ 0 ≤ id.toInt ∧
              page.requests = (idPaths route.page id).map .forPath ∧
              ∀ location' route' zeros, RouteTable.app.resolve location' = .found route' →
                route'.page = route.page →
                route'.params.lookup "id" =
                  some (String.ofList (List.replicate zeros '0' ++ text.toList)) →
                (mountAt .app location' connected).requests = page.requests) ∧
          ∀ text, route.params.lookup "contestId" = some text → ∃ contest : Int64,
            Numeral.readSigned? text.toList = some contest.toInt ∧ 0 ≤ contest.toInt ∧
              page.contest? = some contest) ∧
      ∀ (t : RouteTable) (location : String) (connected : Bool) (route : ResolvedRoute),
        t.resolve location = .found route →
        let page := mountAt t location connected
        ((∃ e, page = .failed e ∧ e.kind = .malformedUrl) ↔
          route.page.needsId = true ∧ GivesNoId route) ∧
          ∀ e, page = .failed e → e.kind = .malformedUrl ∧ page.requests = [] := by
  refine ⟨fun location connected => ?_, fun t location connected route h => ?_⟩
  · intro page
    refine ⟨fun e he => ?_, fun route h => ⟨?_, fun hneeds => ?_, fun text hl => ?_⟩⟩
    · cases hres : RouteTable.app.resolve location with
      | found route =>
        exact (opened_mountAt hres (not_givesNoId_app hres) connected).ne_failed e he
      | notFound l =>
        have hr : (Router.start .app (.start location) connected).resolution = .notFound l := hres
        simp [page, mountAt, mount, hr] at he
    · exact (opened_mountAt h (not_givesNoId_app h) connected).kind
    · obtain ⟨-, text, hl⟩ := RouteTable.isSome_id_app h hneeds
      obtain ⟨id, hread, hval, hreq⟩ := requests_mountAt_app h hneeds hl connected
      refine ⟨text, id, hl, hread, by omega, hreq, ?_⟩
      intro location' route' zeros h' hpage hl'
      obtain ⟨id', -, hval', hreq'⟩ :=
        requests_mountAt_app h' (by rw [hpage]; exact hneeds) hl' connected
      rw [String.toList_ofList, Numeral.ofDigits_replicate_append, ← hval] at hval'
      rw [hreq', hreq, hpage, Int64.toInt_inj.1 hval']
    · obtain ⟨contest, hread, hval, hcontest⟩ := contest?_mountAt_app h hl connected
      exact ⟨contest, hread, by omega, hcontest⟩
  · intro page
    by_cases hn : route.page.needsId = true ∧ GivesNoId route
    · obtain ⟨e, he, hk⟩ := mountAt_eq_failed h hn.1 hn.2 connected
      refine ⟨iff_of_true ⟨e, he, hk⟩ hn, fun e' he' => ?_⟩
      obtain rfl : e = e' := Page.failed.inj (he.symm.trans he')
      exact ⟨hk, by rw [he']; rfl⟩
    · have hopened := opened_mountAt h hn connected
      exact ⟨iff_of_false (fun ⟨e, he, _⟩ => hopened.ne_failed e he) hn,
        fun e he => absurd he (hopened.ne_failed e)⟩

/-- A problem of a contest, and the same problem outside of it, with zeros before its id. -/
theorem opens_with_captured_id_of_zeros :
    let inContest := "/contest/3/problem/7"
    let alone := "/problem/007"
    ∃ route route', (RouteTable.app.resolve inContest = .found route ∧
        route.page.needsId = true ∧ route.params.lookup "contestId" = some "3") ∧
      (RouteTable.app.resolve alone = .found route' ∧ route'.page = route.page ∧
        route'.params.lookup "id" = some "007") ∧
      (mountAt .app alone true).requests = (mountAt .app inContest true).requests ∧
      (mountAt .app inContest true).contest? = some 3 ∧
      ∀ e, mountAt .app alone true = .failed e → (mountAt .app alone true).requests = [] := by
  intro inContest alone
  let route : ResolvedRoute :=
    ⟨.problemSubmission, none, (Params.empty.insert "id" "7").insert "contestId" "3", .empty, true⟩
  let route' : ResolvedRoute :=
    ⟨.problemSubmission, none, Params.empty.insert "id" "007", .empty, true⟩
  have h : RouteTable.app.resolve inContest = .found route := by decide
  have h' : RouteTable.app.resolve alone = .found route' := by decide
  obtain ⟨-, hopen⟩ := opens_with_captured_id.1 inContest true
  obtain ⟨-, hid, hcontest⟩ := hopen route h
  obtain ⟨text, id, hl, -, -, -, hzeros⟩ := hid rfl
  obtain rfl : "7" = text := Option.some.inj hl
  obtain ⟨contest, hread, -, hc⟩ := hcontest "3" rfl
  obtain rfl : 3 = contest := Int64.toInt_inj.1 (Option.some.inj hread)
  refine ⟨route, route', ⟨h, rfl, rfl⟩, ⟨h', rfl, rfl⟩, hzeros alone route' 2 h' rfl rfl, hc, ?_⟩
  exact fun e he => ((opens_with_captured_id.2 .app alone true route' h').2 e he).2

end Page

end JudgeClient
