import JudgeClient.Proofs.Page.Opening
import JudgeClient.Proofs.Page.RankLocation
import JudgeClient.Proofs.Route.Filling
import JudgeClient.Proofs.Route.Router
import JudgeClient.Proofs.View.Links

/-!
# Links land where they point

Links are written in the views and read by the table, and nothing but their text passes between the
two.  A link is a pattern filled in, so with ids that are not negative it finds the row it is meant
for, and the page that opens there has the ids that the link was made with.

* `Links.LeadsTo` : a link opens a page, with an id and a contest;
* `Links.Target.leadsTo` : the links whose ids stand in their paths;
* `Links.exists_route_contestRanks` : the link to a rank list, whose contest stands in its query;
* `Links.land_where_they_point` : the links of the views.
-/

namespace JudgeClient

namespace Links

/-- Following the link opens the page.  The page is given the id and the contest, or none where
there is none, and what it asks for is what is asked for with the id. -/
def LeadsTo (link : String) (kind : PageKind) (id contest : Option Int64) : Prop :=
  ∃ route, RouteTable.app.resolve (Location.normalize link) = .found route ∧ route.page = kind ∧
    route.props.get? "id" = id ∧ route.props.get? "contestId" = contest ∧
    ∀ connected, Page.Opened route (Page.mountAt .app (Location.normalize link) connected)

/-! ### Links whose ids stand in their paths -/

/-- What a link is for whose ids stand in its path. -/
inductive Target
  | problem (id : Int64)
  | contestProblem (contest id : Int64)
  | submission (id : Int64)
  | contest (id : Int64)
  | contestSubmissions (contest : Int64)

namespace Target

/-- The location that the link is made of. -/
def location : Target → String
  | .problem id => Links.problem id
  | .contestProblem c id => Links.contestProblem c id
  | .submission id => Links.submission id
  | .contest id => Links.contest id
  | .contestSubmissions c => Links.contestSubmissions c

/-- The page that the link is meant for. -/
def kind : Target → PageKind
  | .problem _ | .contestProblem _ _ => .problemSubmission
  | .submission _ => .submissionStatus
  | .contest _ => .contestPage
  | .contestSubmissions _ => .submissionList

/-- The id that the page is meant to get. -/
def id? : Target → Option Int64
  | .problem id | .contestProblem _ id | .submission id | .contest id => some id
  | .contestSubmissions _ => none

/-- The contest that the page is meant to get. -/
def contest? : Target → Option Int64
  | .contestProblem c _ | .contestSubmissions c => some c
  | .problem _ | .submission _ | .contest _ => none

/-- The pieces of the location. -/
def pieces : Target → List Piece
  | .problem id => [.text "problem", .number "id" id]
  | .contestProblem c id =>
    [.text "contest", .number "contestId" c, .text "problem", .number "id" id]
  | .submission id => [.text "submission", .number "id" id]
  | .contest id => [.text "contest", .number "id" id]
  | .contestSubmissions c =>
    [.text "contest", .number "contestId" c, .text "submissions"]

theorem toList_location (t : Target) : t.location.toList = pathOf (t.pieces.map Piece.part) := by
  cases t <;> simp [location, Links.problem, Links.contestProblem, Links.submission, Links.contest,
    Links.contestSubmissions, pieces, pathOf, Piece.part]

/-- The table has a row for every target, which passes its captures on to the page. -/
theorem exists_row (t : Target) : ∃ entry ∈ RouteTable.app.entries,
    entry.pattern.segments = t.pieces.map Piece.segment ∧ entry.page = t.kind ∧
      entry.forwardsParams = true := by
  cases t <;> simp only [pieces, List.map_cons, List.map_nil, Piece.segment, kind] <;> decide

theorem isProper_of_mem_pieces {t : Target} (hid : ∀ id ∈ t.id?, 0 ≤ id.toInt)
    (hcontest : ∀ contest ∈ t.contest?, 0 ≤ contest.toInt) :
    ∀ piece ∈ t.pieces, piece.IsProper := by
  have hliteral : ∀ s ∈ ["problem", "submission", "submissions", "contest"],
      s.toList ≠ [] ∧ '/' ∉ s.toList ∧ '?' ∉ s.toList := by
    decide
  have htext : ∀ s ∈ ["problem", "submission", "submissions", "contest"],
      (Piece.text s).IsProper := by
    intro s hs
    obtain ⟨hne, hslash, hmark⟩ := hliteral s hs
    exact ⟨hne, hslash, hmark⟩
  have hnumber : ∀ name (id : Int64), 0 ≤ id.toInt → (Piece.number name id).IsProper :=
    fun _ _ h => h
  cases t <;> simp_all [pieces, id?, contest?]

/-- The captures of the pieces are the ids that the page is meant to get. -/
theorem get?_captures (t : Target) : (Piece.captures t.pieces).get? "id" = t.id? ∧
    (Piece.captures t.pieces).get? "contestId" = t.contest? := by
  cases t <;> simp [pieces, Piece.captures, Piece.get?_insert_idText, id?, contest?]

theorem normalize_location (t : Target) : Location.normalize t.location = t.location :=
  Location.normalize_of_slash t.toList_location

/-- The link leads to the page that it is meant for, with its ids. -/
theorem leadsTo {t : Target} (hid : ∀ id ∈ t.id?, 0 ≤ id.toInt)
    (hcontest : ∀ contest ∈ t.contest?, 0 ≤ contest.toInt) :
    LeadsTo (Location.href t.location) t.kind t.id? t.contest? := by
  have hproper := isProper_of_mem_pieces hid hcontest
  have hparts : ∀ part ∈ t.pieces.map Piece.part, IsPart part := by
    intro part hp
    obtain ⟨piece, hpiece, rfl⟩ := List.mem_map.1 hp
    exact Piece.isPart_part (hproper piece hpiece)
  have hnorm : Location.normalize (Location.href t.location) = t.location := by
    rw [Location.normalize_href, t.normalize_location]
  have hpath := congrArg Prod.fst (RouteTable.splitLocation_of_parts t.toList_location hparts)
  obtain ⟨entry, hmem, hs, hpage, hforward⟩ := t.exists_row
  have hresolve := RouteTable.resolve_of_pieces RouteTable.isUnambiguous_app hmem hs hproper hpath
  obtain ⟨hgetId, hgetContest⟩ := t.get?_captures
  refine ⟨_, by rw [hnorm]; exact hresolve, hpage, ?_, ?_, fun connected => ?_⟩
  · rw [RouteTable.props_eq_of_forwardsParams hforward, hgetId]
  · rw [RouteTable.props_eq_of_forwardsParams hforward, hgetContest]
  · rw [hnorm]
    exact Page.opened_mountAt hresolve (Page.not_givesNoId_app hresolve) connected

end Target

/-! ### Links to rank lists -/

/-- The path under which the ranks of a contest are asked for by the usual rules. -/
theorem ranks_latest (contest : Int64) : Endpoint.ranks contest {} =
    "/contests/" ++ toString contest.toInt ++ "/ranklist?scoring_rule=latest" := by
  have hwrite : Query.write? (Payload.toJson ({} : RankListQuery)) =
      some "scoring_rule=latest".toList := by decide
  rw [Endpoint.ranks, Query.withQuery, hwrite]
  simp [Endpoint.contest, Endpoint.member, Endpoint.contests, ← String.toList_inj]

/-- The link to the ranks of a contest opens them by the usual rules. -/
theorem exists_route_contestRanks (contest : Int64) : ∃ route,
    RouteTable.app.resolve (contestRanks contest) = .found route ∧ route.page = .rankList ∧
      route.query.get? "contest" = some contest ∧
      ∀ connected, Page.mountAt .app (contestRanks contest) connected =
        .rankList contest {} (.atPath (Endpoint.ranks contest {})) := by
  rw [contestRanks_eq_withQuery]
  obtain ⟨hcontest, -⟩ := get?_query_rankValue contest none none
  refine ⟨_, RouteTable.resolve_ranklist (flat_rankValue contest none none), rfl, ?_, ?_⟩
  · rw [ResolvedRoute.query_ranklist, hcontest]
  · intro connected
    rw [Page.mountAt_rankValue, Option.getD_none]

/-! ### The links of the views -/

theorem leadsTo_problem {id : Int64} (h : 0 ≤ id.toInt) :
    LeadsTo (Location.href (problem id)) .problemSubmission (some id) none :=
  Target.leadsTo (t := .problem id) (by simpa [Target.id?] using h) (by simp [Target.contest?])

/-- A problem is linked to in its contest, if the job has one. -/
theorem leadsTo_submittedProblem {s : Submission} (hproblem : 0 ≤ s.problemId.toInt)
    (hcontest : 0 ≤ s.contestId.toInt) :
    LeadsTo (Location.href (submittedProblem s)) .problemSubmission (some s.problemId)
      (if s.contestId = 0 then none else some s.contestId) := by
  by_cases h : s.contestId = 0
  · rw [submittedProblem, if_pos h, if_pos h]
    exact leadsTo_problem hproblem
  · rw [submittedProblem, if_neg h, if_neg h]
    exact Target.leadsTo (t := .contestProblem s.contestId s.problemId)
      (by simpa [Target.id?] using hproblem) (by simpa [Target.contest?] using hcontest)

/-- A job that comes back takes the form to the job's location. -/
theorem location_applyChange_dataSet (f : SubmitForm) (url : String) (job : Job) :
    (f.applyChange (.dataSet url job)).router.location = submission job.id := by
  show (Router.step f.router (.navigate (submission job.id))).1.location = _
  rw [Router.step_navigate, Router.location_lookAt, History.current_push]
  exact Target.normalize_location (.submission job.id)

/-- **Links land where they point.**  With ids that are not negative, the links of a problem, of a
contest and of a job, and the location that the form goes to when a job comes back, open the pages
that they are meant for, and these have the ids that the links were made with: a problem outside of
every contest, a contest, a contest's problems in the contest, its submissions and its ranks, a
job's status, and a job's problem, in its contest unless that is `0`. -/
theorem land_where_they_point :
    (∀ p : Problem, 0 ≤ p.id.toInt →
      (View.problemRow p).links = [Location.href (problem p.id)] ∧
        LeadsTo (Location.href (problem p.id)) .problemSubmission (some p.id) none) ∧
    (∀ c : Contest, 0 ≤ c.id.toInt → (∀ id ∈ c.problemIds, 0 ≤ id.toInt) →
      (View.contestRow c).links = [Location.href (contest c.id)] ∧
        (View.backToContest c.id).links = [Location.href (contest c.id)] ∧
        LeadsTo (Location.href (contest c.id)) .contestPage (some c.id) none ∧
        Node.fragmentLinks (View.contestDetail c) =
          Location.href (contestSubmissions c.id) :: Location.href (contestRanks c.id) ::
            c.problemIds.map (fun id => Location.href (contestProblem c.id id)) ∧
        LeadsTo (Location.href (contestSubmissions c.id)) .submissionList none (some c.id) ∧
        (∃ route, RouteTable.app.resolve
            (Location.normalize (Location.href (contestRanks c.id))) = .found route ∧
          route.page = .rankList ∧ route.query.get? "contest" = some c.id ∧
          ∀ connected,
            let page := Page.mountAt .app
              (Location.normalize (Location.href (contestRanks c.id))) connected
            page.kind? = some .rankList ∧ page.requests =
              [.forPath ("/contests/" ++ toString c.id.toInt ++
                "/ranklist?scoring_rule=latest")]) ∧
        ∀ id ∈ c.problemIds, LeadsTo (Location.href (contestProblem c.id id))
          .problemSubmission (some id) (some c.id)) ∧
    ∀ j : Job, 0 ≤ j.id.toInt → 0 ≤ j.submission.problemId.toInt →
      0 ≤ j.submission.contestId.toInt →
        (View.jobRow j).links =
            [Location.href (submission j.id), Location.href (submittedProblem j.submission)] ∧
          LeadsTo (Location.href (submission j.id)) .submissionStatus (some j.id) none ∧
          LeadsTo (Location.href (submittedProblem j.submission)) .problemSubmission
            (some j.submission.problemId)
            (if j.submission.contestId = 0 then none else some j.submission.contestId) ∧
          ∀ (f : SubmitForm) (url : String),
            (f.applyChange (.dataSet url j)).router.location = submission j.id := by
  refine ⟨fun p hp => ⟨View.links_problemRow p, ?_⟩, fun c hc hproblems => ?_,
    fun j hj hproblem hcontest => ?_⟩
  · exact Target.leadsTo (t := .problem p.id) (by simpa [Target.id?] using hp)
      (by simp [Target.contest?])
  · obtain ⟨route, hroute, hpage, hget, hmount⟩ := exists_route_contestRanks c.id
    have hranks : Location.normalize (Location.href (contestRanks c.id)) = contestRanks c.id := by
      rw [Location.normalize_href, normalize_contestRanks]
    refine ⟨View.links_contestRow c, View.links_backToContest c.id, ?_,
      View.fragmentLinks_contestDetail c, ?_, ⟨route, ?_, hpage, hget, fun connected => ?_⟩,
      fun id hid => ?_⟩
    · exact Target.leadsTo (t := .contest c.id) (by simpa [Target.id?] using hc)
        (by simp [Target.contest?])
    · exact Target.leadsTo (t := .contestSubmissions c.id) (by simp [Target.id?])
        (by simpa [Target.contest?] using hc)
    · rw [hranks, hroute]
    · rw [hranks, hmount, ranks_latest]
      exact ⟨rfl, rfl⟩
    · exact Target.leadsTo (t := .contestProblem c.id id)
        (by simpa [Target.id?] using hproblems id hid) (by simpa [Target.contest?] using hc)
  · refine ⟨View.links_jobRow j, ?_, leadsTo_submittedProblem hproblem hcontest,
      fun f url => location_applyChange_dataSet f url j⟩
    exact Target.leadsTo (t := .submission j.id) (by simpa [Target.id?] using hj)
      (by simp [Target.contest?])

/-- A problem is linked to from its contest, from a job handed in there, and from the list of all
problems. -/
theorem land_where_they_point_of_job_in_contest :
    LeadsTo (Location.href (contestProblem 4 7)) .problemSubmission (some 7) (some 4) ∧
      LeadsTo (Location.href (submittedProblem ⟨"print(1)", "Python", 0, 4, 7⟩))
        .problemSubmission (some 7) (some 4) ∧
      LeadsTo (Location.href (problem 7)) .problemSubmission (some 7) none := by
  have hproblems : ∀ id ∈ [(7 : Int64)], 0 ≤ id.toInt := by
    intro id hid
    obtain rfl := List.mem_singleton.1 hid
    decide
  obtain ⟨hproblem, hcontest, hjob⟩ := land_where_they_point
  refine ⟨?_, ?_, (hproblem ⟨7, "Sum", .standard⟩ (by decide)).2⟩
  · obtain ⟨-, -, -, -, -, -, hlinks⟩ := hcontest
      ⟨4, "Spring", "2022-03-01", "2022-03-02", [7], [0], 0⟩ (by decide) hproblems
    exact hlinks 7 List.mem_cons_self
  · obtain ⟨-, -, hlink, -⟩ := hjob ⟨12, "2022-03-01", "2022-03-01",
      ⟨"print(1)", "Python", 0, 4, 7⟩, .queueing, .waiting, 0, []⟩ (by decide) (by decide)
      (by decide)
    exact hlink

end Links

end JudgeClient
