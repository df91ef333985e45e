import JudgeClient.Payload.Search
import JudgeClient.Route.Params

/-!
# Links between pages

The locations that the client's pages link to.  What a page reads back from its location is what
the link was made with.
-/

namespace JudgeClient.Links

/-- The text of an id in a location. -/
def idText (id : Int64) : String := ParamValue.write id

/-- A problem outside any contest. -/
def problem (id : Int64) : String := "/problem/" ++ idText id

/-- A problem of a contest. -/
def contestProblem (contest id : Int64) : String :=
  "/contest/" ++ idText contest ++ "/problem/" ++ idText id

/-- The problem of a submission, in its contest if it has one. -/
def submittedProblem (s : Submission) : String :=
  if s.contestId = 0 then problem s.problemId else contestProblem s.contestId s.problemId

/-- The status of a submission. -/
def submission (id : Int64) : String := "/submission/" ++ idText id

/-- A contest. -/
def contest (id : Int64) : String := "/contest/" ++ idText id

/-- The submissions of a contest. -/
def contestSubmissions (id : Int64) : String := "/contest/" ++ idText id ++ "/submissions"

/-- The rank list of a contest, by the usual rules. -/
def contestRanks (id : Int64) : String := "/ranklist?contest=" ++ idText id

/-- The rank list of a contest by the given rules. -/
def ranks (contest : Int64) (q : RankListQuery) : String :=
  "/ranklist?contest=" ++ idText contest ++ "&scoring_rule=" ++ Spelled.spelling q.scoringRule ++
    match q.tieBreaker with
    | some t => "&tie_breaker=" ++ Spelled.spelling t
    | none => ""

end JudgeClient.Links
