import JudgeClient.Proofs.Page.JobFilter
import JudgeClient.Proofs.Page.Opening

/-!
# From a filter to its page

A list of submissions is linked to by a location that carries a filter.  The location leads to the
list, whose page reads the filter and writes it once more, behind the path that the jobs are asked
for under.  Nothing is lost on the way, whatever characters stand in the filter's texts: none of
them is taken for a mark of the location, of its query or of the request.

* `RouteTable.resolve_submissions` : whatever is written behind it, the path leads to the list;
* `Page.mountAt_withQuery` : the page at the location of a filter searches with the filter;
* `JobSearch.query_url_forPath` : the request of a search carries its filter;
* `JobFilter.survives_location` : all of this, and that different filters have different locations.
-/

namespace JudgeClient

/-! ### The route -/

/-- The route of the list of all submissions. -/
def ResolvedRoute.submissions (query : Params) : ResolvedRoute where
  page := .submissionList
  name := some "Submissions"
  params := .empty
  query := query
  forwardsParams := false

@[simp] theorem ResolvedRoute.query_submissions (query : Params) :
    (submissions query).query = query := rfl

/-- Whatever is written behind it, the path leads to the list. -/
theorem RouteTable.resolve_submissions {v : Json} {fields : List Query.Field}
    (h : Query.Flat v fields) : app.resolve (Query.withQuery "/submissions" v) =
      .found (.submissions (Location.query (Query.withQuery "/submissions" v))) := by
  have hpath : '?' ∉ "/submissions".toList := by decide
  have hfind : find? "/submissions".toList app.entries = some
      (⟨⟨"/submissions", [.literal "submissions"]⟩, some "Submissions", .submissionList, false⟩,
        .empty) := by
    rfl
  exact resolve_withQuery hpath (by decide) hfind h

theorem Page.ofRoute_submissions (query : Params) (router : Router) :
    ofRoute (.submissions query) router =
      .ok (.submissionList none (.start (.ofQuery none query))) := rfl

/-- The page at the location of a filter searches with the filter, outside of every contest. -/
theorem Page.mountAt_withQuery (f : JobFilter) (connected : Bool) :
    mountAt .app (Query.withQuery "/submissions" (Payload.toJson f)) connected =
      .submissionList none (.start f) := by
  have hpath : '?' ∉ "/submissions".toList := by decide
  refine mountAt_of_ofRoute_eq_ok (RouteTable.resolve_submissions f.flat) ?_
  rw [ofRoute_submissions, JobFilter.ofQuery_query_withQuery hpath (by decide)]

/-! ### The request -/

theorem Config.apiUrl_withQuery (path : String) (v : Json) :
    apiUrl (Query.withQuery path v) = Query.withQuery (apiUrl path) v := by
  unfold Query.withQuery apiUrl joinOrigin
  split <;> simp [String.append_assoc]

/-- The request of a search carries its filter. -/
theorem JobSearch.query_url_forPath (f : JobFilter) :
    JobFilter.ofQuery none (Location.query (Request.forPath (Endpoint.jobsMatching f)).url) =
      f := by
  have hpath : '?' ∉ (Config.apiUrl Endpoint.jobs).toList := by decide
  have hurl : (Request.forPath (Endpoint.jobsMatching f)).url =
      Query.withQuery (Config.apiUrl Endpoint.jobs) (Payload.toJson f) :=
    Config.apiUrl_withQuery _ _
  rw [hurl]
  exact JobFilter.ofQuery_query_withQuery hpath (by decide) f

/-! ### Both together -/

namespace JobFilter

/-- **A filter survives its location.**  The location of a filter leads to the list of submissions,
and the filter is read from its query.  The page there searches with the filter, and its one request
carries the filter again.  So the locations of different filters are different; in particular a text
that is absent is told from an empty one. -/
theorem survives_location :
    (∀ (f : JobFilter) (connected : Bool),
      let location := Query.withQuery "/submissions" (Payload.toJson f)
      let page := Page.mountAt .app location connected
      (∃ route, RouteTable.app.resolve location = .found route ∧ route.page = .submissionList ∧
        ofQuery none route.query = f) ∧
      ∃ q, page.requests = [q] ∧ q.method = .get ∧ q.body = none ∧
        q.url = Config.apiUrl (Query.withQuery "/jobs" (Payload.toJson f)) ∧
        ofQuery none (Location.query q.url) = f) ∧
    (∀ f g : JobFilter,
      Query.withQuery "/submissions" (Payload.toJson f) =
        Query.withQuery "/submissions" (Payload.toJson g) ↔ f = g) ∧
    ∀ (f : JobFilter) (text : String),
      Query.withQuery "/submissions" (Payload.toJson { f with userName := some text }) ≠
        Query.withQuery "/submissions" (Payload.toJson { f with userName := none }) ∧
      Query.withQuery "/submissions" (Payload.toJson { f with language := some text }) ≠
        Query.withQuery "/submissions" (Payload.toJson { f with language := none }) := by
  have hpath : '?' ∉ "/submissions".toList := by decide
  have hne : "/submissions" ≠ "" := by decide
  refine ⟨fun f connected => ?_, fun f g => ?_, fun f text => ⟨fun h => ?_, fun h => ?_⟩⟩
  · have hread := ofQuery_query_withQuery hpath hne f
    have hpage := congrArg Page.requests (Page.mountAt_withQuery f connected)
    refine ⟨⟨_, RouteTable.resolve_submissions f.flat, rfl, ?_⟩,
      .forPath (Endpoint.jobsMatching f), hpage, rfl, rfl, rfl, JobSearch.query_url_forPath f⟩
    rwa [ResolvedRoute.query_submissions]
  · exact ⟨eq_of_withQuery_eq hpath hne, fun h => by rw [h]⟩
  · cases congrArg userName (eq_of_withQuery_eq hpath hne h)
  · cases congrArg language (eq_of_withQuery_eq hpath hne h)

/-- A filter with an empty text and with marks in its texts. -/
example : Query.withQuery "/submissions"
    (Payload.toJson ({ userName := some "a b&c=é", language := some "" } : JobFilter)) =
      "/submissions?user_name=a+b%26c%3D%C3%A9&language=" := by
  decide

end JobFilter

end JudgeClient
