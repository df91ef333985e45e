import JudgeClient.Proofs.Page.FilterLocation
import JudgeClient.Proofs.Route.Filling

/-!
# The submissions of a contest

The submissions of a contest are listed at a path with the contest's id in it, and the query behind
the path may filter them further.  Anybody can write a query by hand: it may name another contest,
name fields twice, hold texts that are no ids or states, or be no query string at all.  None of this
leads out of the contest.

* `RouteTable.resolve_contestSubmissions` : whatever is written behind it, the path leads to the
  list, and the digits in it are captured;
* `Query.Sets`, `JobFilter.IsSetBy` : what a text sets when it is taken for a query;
* `Page.mountAt_contestSubmissions` : the page there searches within the contest;
* `JobFilter.url_jobsMatching` : the request of a search with a field has a query string, which
  holds the filter;
* `JobFilter.contest_of_path_wins` : all of this, for every text behind the path.
-/

namespace JudgeClient

/-! ### The route -/

/-- Whatever is written behind it, the path of a contest's submissions leads to the list.  The
contest is captured with the zeros before its digits. -/
theorem RouteTable.resolve_contestSubmissions {digits : String}
    (h : Numeral.isNumeric digits.toList = true) (query : String) :
    app.resolve ("/contest/" ++ digits ++ "/submissions?" ++ query) = .found {
      page := .submissionList
      name := none
      params := Params.empty.insert "contestId" digits
      query := queryParams query.toList
      forwardsParams := true } := by
  let parts : List (List Char) := ["contest".toList, digits.toList, "submissions".toList]
  let segments : List Segment :=
    [.literal "contest", .numeric "contestId", .literal "submissions"]
  let entry : RouteEntry :=
    ⟨⟨"/contest/:contestId(\\d+)/submissions", segments⟩, none, .submissionList, true⟩
  have hmem : entry ∈ app.entries := by decide
  have hparts : ∀ part ∈ parts, IsPart part := by
    have hcontest : IsPart "contest".toList := ⟨by decide, by decide, by decide⟩
    have hsubmissions : IsPart "submissions".toList := ⟨by decide, by decide, by decide⟩
    simpa [parts] using ⟨hcontest, IsPart.of_isNumeric h, hsubmissions⟩
  have hsplit : splitLocation ("/contest/" ++ digits ++ "/submissions?" ++ query) =
      (pathOf parts, query.toList) := by
    have hl : ("/contest/" ++ digits ++ "/submissions?" ++ query).toList =
        pathOf parts ++ '?' :: query.toList := by
      simp [parts, pathOf]
    have hne : pathOf parts ≠ [] := List.cons_ne_nil _ _
    rw [splitLocation_of_isSplit ⟨mark_not_mem_pathOf hparts, .inl hl⟩, if_neg hne]
  have hmatch : entry.pattern.matches? (pathOf parts) =
      some (Params.empty.insert "contestId" digits) := by
    rw [Pattern.matches?_pathOf _ hparts]
    simp [entry, segments, parts, Pattern.capture?, Segment.accepts, Segment.name?, h]
  have hfind := isUnambiguous_app.find?_eq_some hmem hmatch
  simp only [resolve, hsplit, hfind, entry]

/-! ### What a query sets -/

/-- The text sets a member under a name: it is a query string, and what stands in it under the name
reads as the member. -/
def Query.Sets {α : Type} [ParamValue α] (query key : String) (a : α) : Prop :=
  ∃ params text, Params.ofQuery query.toList = .ok params ∧ params.lookup key = some text ∧
    ParamValue.read? text = some a

/-- What a page reads is what the query sets; a text that is no query string sets nothing. -/
theorem Query.sets_iff {α : Type} [ParamValue α] {query key : String} {a : α} :
    Sets query key a ↔ (RouteTable.queryParams query.toList).get? key = some a := by
  unfold Sets RouteTable.queryParams
  cases Params.ofQuery query.toList with
  | error e => simp
  | ok params => simp [Params.get?, Option.bind_eq_some_iff]

/-- Every field but the contest is what the text sets under its name, and absent if it sets
nothing. -/
structure JobFilter.IsSetBy (f : JobFilter) (query : String) : Prop where
  userId : ∀ id, f.userId = some id ↔ Query.Sets query "user_id" id
  userName : ∀ name, f.userName = some name ↔ Query.Sets query "user_name" name
  problemId : ∀ id, f.problemId = some id ↔ Query.Sets query "problem_id" id
  language : ∀ name, f.language = some name ↔ Query.Sets query "language" name
  state : ∀ state, f.state = some state ↔ Query.Sets query "state" state
  result : ∀ result, f.result = some result ↔ Query.Sets query "result" result

theorem JobFilter.isSetBy_ofQuery (contest : Option Int64) (query : String) :
    (ofQuery contest (RouteTable.queryParams query.toList)).IsSetBy query where
  userId _ := Query.sets_iff.symm
  userName _ := Query.sets_iff.symm
  problemId _ := Query.sets_iff.symm
  language _ := Query.sets_iff.symm
  state _ := Query.sets_iff.symm
  result _ := Query.sets_iff.symm

/-- Its contest and what a text sets leave nothing open about a filter. -/
theorem JobFilter.IsSetBy.eq_ofQuery {f : JobFilter} {query : String} (h : f.IsSetBy query)
    {contest : Int64} (hcontest : f.contestId = some contest) :
    f = ofQuery (some contest) (RouteTable.queryParams query.toList) := by
  obtain ⟨userId, userName, contestId, problemId, language, state, result⟩ := f
  simp only [ofQuery, mk.injEq]
  exact ⟨Option.ext fun id => (h.userId id).trans Query.sets_iff,
    Option.ext fun name => (h.userName name).trans Query.sets_iff, hcontest,
    Option.ext fun id => (h.problemId id).trans Query.sets_iff,
    Option.ext fun name => (h.language name).trans Query.sets_iff,
    Option.ext fun state => (h.state state).trans Query.sets_iff,
    Option.ext fun result => (h.result result).trans Query.sets_iff⟩

/-! ### The page -/

/-- The page at the path of a contest's submissions searches within the contest. -/
theorem Page.mountAt_contestSubmissions {digits : String} {contest : Int64}
    (h : Numeral.isNumeric digits.toList = true)
    (hcontest : ParamValue.read? digits = some contest) (query : String) (connected : Bool) :
    mountAt .app ("/contest/" ++ digits ++ "/submissions?" ++ query) connected =
      .submissionList (some contest)
        (.start (.ofQuery (some contest) (RouteTable.queryParams query.toList))) := by
  refine mountAt_of_ofRoute_eq_ok (RouteTable.resolve_contestSubmissions h query) ?_
  have hget : ((Params.empty.insert "contestId" digits).get? "contestId" : Option Int64) =
      some contest := by
    rw [Params.get?, Params.lookup_insert, if_pos rfl]
    exact hcontest
  simp only [ofRoute, ResolvedRoute.props, if_true, hget]
  rfl

/-! ### The request -/

namespace JobFilter

theorem present_fields_ne_nil {f : JobFilter} {contest : Int64} (h : f.contestId = some contest) :
    Query.present f.fields ≠ [] := by
  have hmem : Query.field "contest_id" (some contest) ∈ f.fields := by simp [fields, h]
  have htext : Params.lookupEntry "contest_id" (Query.present f.fields) =
      some (ParamValue.write contest) := Query.lookupEntry_present f.flat.distinct hmem
  intro hnil
  simp [hnil, Params.lookupEntry] at htext

/-- The request for the jobs of a contest has a query string, from which the filter can be read. -/
theorem url_jobsMatching {f : JobFilter} {contest : Int64} (h : f.contestId = some contest) :
    ∃ written params, Config.apiUrl (Endpoint.jobsMatching f) =
        Config.apiUrl Endpoint.jobs ++ "?" ++ written ∧
      Params.ofQuery written.toList = .ok params ∧ ofQuery none params = f := by
  have hpath : '?' ∉ (Config.apiUrl Endpoint.jobs).toList := by decide
  have hne : Config.apiUrl Endpoint.jobs ≠ "" := by decide
  have hread := ofQuery_query_withQuery hpath hne f
  rw [Location.query_withQuery hpath hne f.flat] at hread
  let written := ['&'].intercalate ((Query.present f.fields).map Query.writeEntry)
  refine ⟨String.ofList written, .ofList (Query.present f.fields), ?_, ?_, hread⟩
  · rw [Endpoint.jobsMatching, Config.apiUrl_withQuery, ← String.toList_inj,
      f.flat.toList_withQuery, if_neg (present_fields_ne_nil h)]
    simp [written]
  · rw [String.toList_ofList]
    exact Params.ofQuery_present f.flat

/-! ### All together -/

/-- **The contest of the path wins.**  Let the digits, with or without zeros before them, stand for
a number that is an id, and let any text be written behind the path of that contest's submissions.
The page there sends one request, for the jobs that match a filter, and the filter can be read from
its query string.  The contest of the filter is the one in the path, whatever contest the text
names; every other field is what the text sets, if it is a query string and sets anything. -/
theorem contest_of_path_wins {digits : String} {n : Nat}
    (hdigits : Numeral.readNat? digits.toList = some n) (hn : n < Numeral.signedBound)
    (query : String) (connected : Bool) :
    let page := Page.mountAt .app ("/contest/" ++ digits ++ "/submissions?" ++ query) connected
    ∃ (request : Request) (f : JobFilter) (written : String) (params : Params),
      page.requests = [request] ∧ request.method = .get ∧ request.body = none ∧
      request.url = Config.apiUrl (Query.withQuery "/jobs" (Payload.toJson f)) ∧
      request.url = Config.apiUrl "/jobs" ++ "?" ++ written ∧
      Params.ofQuery written.toList = .ok params ∧ ofQuery none params = f ∧
      (∃ contest : Int64, f.contestId = some contest ∧ contest.toInt = n) ∧ f.IsSetBy query := by
  intro page
  obtain ⟨hd, hsome⟩ := Option.ite_none_right_eq_some.1 hdigits
  obtain rfl : Numeral.ofDigits digits.toList = n := Option.some.inj hsome
  have hnumeric : Numeral.isNumeric digits.toList = true := Numeral.isNumeric_iff.2 ⟨hd, hn⟩
  obtain ⟨contest, hread, hval⟩ := ParamValue.read?_int64_of_isNumeric hnumeric
  obtain ⟨f, hmount, hcontest, hset⟩ : ∃ f : JobFilter,
      page = .submissionList (some contest) (.start f) ∧ f.contestId = some contest ∧
        f.IsSetBy query :=
    ⟨_, Page.mountAt_contestSubmissions hnumeric hread query connected, rfl,
      isSetBy_ofQuery (some contest) query⟩
  have hrequests : page.requests = [.forPath (Endpoint.jobsMatching f)] := by
    rw [hmount]
    exact Resource.requests_atPath _
  obtain ⟨written, params, hurl, hparse, hf⟩ := url_jobsMatching hcontest
  exact ⟨.forPath (Endpoint.jobsMatching f), f, written, params, hrequests, rfl, rfl, rfl, hurl,
    hparse, hf, ⟨contest, hcontest, hval⟩, hset⟩

/-- A query that names another contest, a user, a state that there is not, and a result. -/
theorem contest_of_path_wins_of_other_contest :
    let query := "contest_id=9&user_id=2&state=Done&result=Wrong+Answer"
    (Numeral.readNat? "007".toList = some 7 ∧ 7 < Numeral.signedBound) ∧
    ∃ (request : Request) (f : JobFilter),
      (Page.mountAt .app ("/contest/" ++ "007" ++ "/submissions?" ++ query) true).requests =
        [request] ∧
      request.url = Config.apiUrl (Query.withQuery "/jobs" (Payload.toJson f)) ∧
      f = { userId := some 2, contestId := some 7, result := some .wrongAnswer } := by
  intro query
  have hdigits : Numeral.readNat? "007".toList = some 7 := by decide
  have hn : 7 < Numeral.signedBound := by decide
  obtain ⟨request, f, -, -, hrequests, -, -, hurl, -, -, -, ⟨contest, hcontest, hval⟩, hset⟩ :=
    contest_of_path_wins hdigits hn query true
  refine ⟨⟨hdigits, hn⟩, request, f, hrequests, hurl, ?_⟩
  obtain rfl : contest = 7 := Int64.toInt_inj.1 hval
  rw [hset.eq_ofQuery hcontest]
  decide

end JobFilter

end JudgeClient
