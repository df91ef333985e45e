import JudgeClient.Payload.Search
import JudgeClient.Query.Writer

/-!
# Endpoints

The API paths under which the judge keeps what the client shows.
-/

namespace JudgeClient.Endpoint

/-- The path of one thing in a collection. -/
def member (collection : String) (id : Int64) : String := collection ++ "/" ++ toString id.toInt

/-- All problems. -/
def problems : String := "/problems"

/-- One problem. -/
def problem (id : Int64) : String := member problems id

/-- The languages that the judge knows. -/
def languages : String := "/languages"

/-- The jobs, which new submissions are added to. -/
def jobs : String := "/jobs"

/-- One job. -/
def job (id : Int64) : String := member jobs id

/-- The jobs that match a filter. -/
def jobsMatching (f : JobFilter) : String := Query.withQuery jobs (Payload.toJson f)

/-- All contests. -/
def contests : String := "/contests"

/-- One contest. -/
def contest (id : Int64) : String := member contests id

/-- The ranks of a contest by the given rules. -/
def ranks (contestId : Int64) (q : RankListQuery) : String :=
  Query.withQuery (contest contestId ++ "/ranklist") (Payload.toJson q)

end JudgeClient.Endpoint
