import JudgeClient.Proofs.Page.Opening
import JudgeClient.Proofs.Route.Query
import JudgeClient.Route.Links

/-!
# From the rules of a rank list to its page

A rank list is linked to by a location that carries its contest and its rules.  The location is put
together from texts without any escapes, and is read as a query.  It is the query that would be
written for the contest and the rules, since numbers and spellings are written as they are; so the
page reads the very contest and rules back, and asks for them.

* `Links.ranks_eq_withQuery` : the location is a written query;
* `RouteTable.resolve_ranklist` : whatever is written behind it, the path leads to the rank list;
* `Page.mountAt_rankValue` : the page at the location of a contest and rules;
* `RankListQuery.survives_rank_location` : all of this, for every contest and all rules.
-/

namespace JudgeClient

namespace Links

/-! ### The query -/

/-- The fields of the query with which a rank list is linked to. -/
def rankFields (contest : Int64) (rule : Option ScoringRule) (tie : Option TieBreaker) :
    List Query.Field :=
  [Query.field "contest" (some contest), Query.field "scoring_rule" rule,
    Query.field "tie_breaker" tie]

/-- The fields of a rank list's query as a value. -/
def rankValue (contest : Int64) (rule : Option ScoringRule) (tie : Option TieBreaker) : Json :=
  .object (Payload.optionalEntry "contest" (some contest) ++
    Payload.optionalEntry "scoring_rule" rule ++ Payload.optionalEntry "tie_breaker" tie)

theorem flat_rankValue (contest : Int64) (rule : Option ScoringRule) (tie : Option TieBreaker) :
    Query.Flat (rankValue contest rule tie) (rankFields contest rule tie) where
  pairs := by
    refine ⟨_, rfl, ?_⟩
    simp only [Query.entryPairs_append, Query.entryPairs_optionalEntry, rankFields, Query.field,
      Query.present, List.map_append, List.append_nil, List.append_assoc]
  distinct := by
    show ["contest", "scoring_rule", "tie_breaker"].Nodup
    decide
  named := by
    have hnames : ∀ name ∈ ["contest", "scoring_rule", "tie_breaker"], name ≠ "" := by decide
    exact fun f hf => hnames f.1 (List.mem_map.2 ⟨f, hf, rfl⟩)

/-- The contest and the rules are read as they were set. -/
theorem get?_query_rankValue (contest : Int64) (rule : Option ScoringRule)
    (tie : Option TieBreaker) :
    let query := Location.query (Query.withQuery "/ranklist" (rankValue contest rule tie))
    query.get? "contest" = some contest ∧ query.get? "scoring_rule" = rule ∧
      query.get? "tie_breaker" = tie := by
  have hpath : '?' ∉ "/ranklist".toList := by decide
  have hflat := flat_rankValue contest rule tie
  refine ⟨?_, ?_, ?_⟩
  · exact Location.get?_query_withQuery hpath (by decide) hflat (by simp [rankFields])
  · exact Location.get?_query_withQuery hpath (by decide) hflat (by simp [rankFields])
  · exact Location.get?_query_withQuery hpath (by decide) hflat (by simp [rankFields])

/-! ### Locations that are written by hand -/

theorem writeEntry_contest (contest : Int64) :
    Query.writeEntry ("contest", idText contest) =
      "contest=".toList ++ (idText contest).toList := by
  have hname : Query.writeComponent "contest".toList = "contest".toList := by decide
  have hnumber : Query.writeComponent (idText contest).toList = (idText contest).toList :=
    Query.writeComponent_toString_int contest.toInt
  rw [Query.writeEntry, Query.writePair, hname, hnumber]
  rfl

theorem writeEntry_scoringRule (rule : ScoringRule) :
    Query.writeEntry ("scoring_rule", Spelled.spelling rule) =
      "scoring_rule=".toList ++ (Spelled.spelling rule).toList := by
  cases rule <;> decide

theorem writeEntry_tieBreaker (tie : TieBreaker) :
    Query.writeEntry ("tie_breaker", Spelled.spelling tie) =
      "tie_breaker=".toList ++ (Spelled.spelling tie).toList := by
  cases tie <;> decide

/-- The texts of the fields that are set. -/
theorem present_rankFields (contest : Int64) (rule : Option ScoringRule)
    (tie : Option TieBreaker) : Query.present (rankFields contest rule tie) =
      ("contest", idText contest) ::
        ((rule.map fun rule => ("scoring_rule", Spelled.spelling rule)).toList ++
          (tie.map fun tie => ("tie_breaker", Spelled.spelling tie)).toList) := by
  have hrule : ∀ rule : ScoringRule, ParamValue.write rule = Spelled.spelling rule := fun _ => rfl
  have htie : ∀ tie : TieBreaker, ParamValue.write tie = Spelled.spelling tie := fun _ => rfl
  cases rule <;> cases tie <;>
    simp [rankFields, Query.field, Query.present, idText, hrule, htie]

theorem contestRanks_eq_withQuery (contest : Int64) :
    contestRanks contest = Query.withQuery "/ranklist" (rankValue contest none none) := by
  have hlink : contestRanks contest = "/ranklist?contest=" ++ idText contest := rfl
  rw [← String.toList_inj, (flat_rankValue contest none none).toList_withQuery,
    present_rankFields, hlink]
  simp [writeEntry_contest]

/-- The location of a rank list is the query that is written for its contest and its rules. -/
theorem ranks_eq_withQuery (contest : Int64) (q : RankListQuery) :
    ranks contest q =
      Query.withQuery "/ranklist" (rankValue contest (some q.scoringRule) q.tieBreaker) := by
  obtain ⟨rule, tie⟩ := q
  have hlink : ranks contest ⟨rule, tie⟩ =
      "/ranklist?contest=" ++ idText contest ++ "&scoring_rule=" ++ Spelled.spelling rule ++
        (tie.map fun tie => "&tie_breaker=" ++ Spelled.spelling tie).getD "" := by
    cases tie <;> rfl
  rw [← String.toList_inj, (flat_rankValue contest (some rule) tie).toList_withQuery,
    present_rankFields, hlink]
  cases tie <;> simp [writeEntry_contest, writeEntry_scoringRule, writeEntry_tieBreaker]

theorem normalize_contestRanks (contest : Int64) :
    Location.normalize (contestRanks contest) = contestRanks contest := by
  rw [contestRanks_eq_withQuery]
  exact Location.normalize_withQuery rfl (flat_rankValue contest none none)

theorem normalize_ranks (contest : Int64) (q : RankListQuery) :
    Location.normalize (ranks contest q) = ranks contest q := by
  rw [ranks_eq_withQuery]
  exact Location.normalize_withQuery rfl (flat_rankValue contest (some q.scoringRule) q.tieBreaker)

end Links

/-! ### The page -/

/-- The route of the rank list. -/
def ResolvedRoute.ranklist (query : Params) : ResolvedRoute where
  page := .rankList
  name := some "Rank List"
  params := .empty
  query := query
  forwardsParams := false

@[simp] theorem ResolvedRoute.query_ranklist (query : Params) : (ranklist query).query = query :=
  rfl

/-- Whatever is written behind it, the path leads to the rank list. -/
theorem RouteTable.resolve_ranklist {v : Json} {fields : List Query.Field}
    (h : Query.Flat v fields) : app.resolve (Query.withQuery "/ranklist" v) =
      .found (.ranklist (Location.query (Query.withQuery "/ranklist" v))) := by
  have hpath : '?' ∉ "/ranklist".toList := by decide
  have hfind : find? "/ranklist".toList app.entries = some
      (⟨⟨"/ranklist", [.literal "ranklist"]⟩, some "Rank List", .rankList, false⟩, .empty) := by
    rfl
  exact resolve_withQuery hpath (by decide) hfind h

theorem Page.ofRoute_ranklist (query : Params) (router : Router) :
    ofRoute (.ranklist query) router = .ok (.rankList (rankedContest query) (.ofQuery query)
      (.atPath (Endpoint.ranks (rankedContest query) (.ofQuery query)))) := rfl

/-- The page at the location of a contest and rules shows the ranks of the contest by the rules. -/
theorem Page.mountAt_rankValue (contest : Int64) (rule : Option ScoringRule)
    (tie : Option TieBreaker) (connected : Bool) :
    mountAt .app (Query.withQuery "/ranklist" (Links.rankValue contest rule tie)) connected =
      .rankList contest ⟨rule.getD .latest, tie⟩
        (.atPath (Endpoint.ranks contest ⟨rule.getD .latest, tie⟩)) := by
  have hflat := Links.flat_rankValue contest rule tie
  obtain ⟨hcontest, hrule, htie⟩ := Links.get?_query_rankValue contest rule tie
  refine mountAt_of_ofRoute_eq_ok (RouteTable.resolve_ranklist hflat) ?_
  rw [ofRoute_ranklist, rankedContest, RankListQuery.ofQuery, hcontest, hrule, htie]
  rfl

theorem Endpoint.ranks_eq (contest : Int64) (q : RankListQuery) : ranks contest q =
    Query.withQuery ("/contests/" ++ toString contest.toInt ++ "/ranklist") (Payload.toJson q) := by
  have hpath : Endpoint.contest contest = "/contests/" ++ toString contest.toInt := by
    rw [Endpoint.contest, member, contests, ← String.toList_inj]
    simp
  rw [ranks, hpath]

namespace RankListQuery

/-- **The rules of a rank list survive their location.**  The location of a contest and rules, be
the contest negative or not, leads to the rank list, and is kept as it is when it is gone to.  The
page there reads the contest and the rules that the location was made with, and its one request is
for the ranks of that contest by those rules. -/
theorem survives_rank_location (contest : Int64) (q : RankListQuery) :
    let location := Links.ranks contest q
    Location.normalize location = location ∧
      (∃ route, RouteTable.app.resolve location = .found route ∧ route.page = .rankList ∧
        Page.rankedContest route.query = contest ∧ ofQuery route.query = q) ∧
      ∀ connected : Bool, ∃ ranks request,
        Page.mountAt .app location connected = .rankList contest q ranks ∧
        (Page.mountAt .app location connected).requests = [request] ∧
        request.method = .get ∧ request.body = none ∧
        request.url = Config.current.apiServer ++
          Query.withQuery ("/contests/" ++ toString contest.toInt ++ "/ranklist")
            (Payload.toJson q) := by
  intro location
  have hlocation : location = _ := Links.ranks_eq_withQuery contest q
  obtain ⟨hcontest, hrule, htie⟩ :=
    Links.get?_query_rankValue contest (some q.scoringRule) q.tieBreaker
  refine ⟨Links.normalize_ranks contest q, ?_, fun connected => ?_⟩
  · rw [hlocation]
    refine ⟨_, RouteTable.resolve_ranklist (Links.flat_rankValue contest _ _), rfl, ?_, ?_⟩
    · rw [ResolvedRoute.query_ranklist, Page.rankedContest, hcontest, Option.getD_some]
    · rw [ResolvedRoute.query_ranklist, ofQuery, hrule, htie, Option.getD_some]
  · have hmount := Page.mountAt_rankValue contest (some q.scoringRule) q.tieBreaker connected
    rw [← hlocation] at hmount
    refine ⟨_, .forPath (Endpoint.ranks contest q), hmount, ?_, rfl, rfl, ?_⟩
    · rw [hmount]
      rfl
    · rw [← Endpoint.ranks_eq]
      rfl

/-- A contest below zero, and a rule with a mark in its spelling. -/
example : Links.ranks (-3) ⟨.highest, some .submissionCount⟩ =
    "/ranklist?contest=-3&scoring_rule=highest&tie_breaker=submission_count" := by
  decide

end RankListQuery

end JudgeClient
