import JudgeClient.Payload.Job

/-!
# Searches

What a list of jobs or ranks is asked for with: the filter of a job list, and the rules of a rank
list.  Both travel as JSON and as query strings, without the fields that are absent.
-/

namespace JudgeClient

/-! ### Filters of job lists -/

/-- The filter of a job list; an absent field does not filter. -/
structure JobFilter where
  userId : Option Int64 := none
  userName : Option String := none
  contestId : Option Int64 := none
  problemId : Option Int64 := none
  language : Option String := none
  state : Option JobState := none
  result : Option JobResult := none
deriving DecidableEq

instance : Payload JobFilter where
  shape := .record "JobFilter" [("user_id", .optional .int64), ("user_name", .optional .text),
    ("contest_id", .optional .int64), ("problem_id", .optional .int64),
    ("language", .optional .text), ("state", .optional (Payload.shape JobState)),
    ("result", .optional (Payload.shape JobResult))]
  toJson f := .object (
    Payload.optionalEntry "user_id" f.userId ++
    Payload.optionalEntry "user_name" f.userName ++
    Payload.optionalEntry "contest_id" f.contestId ++
    Payload.optionalEntry "problem_id" f.problemId ++
    Payload.optionalEntry "language" f.language ++
    Payload.optionalEntry "state" f.state ++
    Payload.optionalEntry "result" f.result)
  ofJson? v := do
    return {
      userId := ← Payload.optionalField "user_id" v
      userName := ← Payload.optionalField "user_name" v
      contestId := ← Payload.optionalField "contest_id" v
      problemId := ← Payload.optionalField "problem_id" v
      language := ← Payload.optionalField "language" v
      state := ← Payload.optionalField "state" v
      result := ← Payload.optionalField "result" v }

/-! ### Rules of rank lists -/

/-- Which submission of a user counts. -/
inductive ScoringRule
  | latest
  | highest
deriving DecidableEq, Repr

namespace ScoringRule

instance : Spelled ScoringRule where
  members := [.latest, .highest]
  spelling
    | .latest => "latest"
    | .highest => "highest"

instance : Payload ScoringRule := Payload.ofSpelled ScoringRule

end ScoringRule

/-- What decides between users with the same score. -/
inductive TieBreaker
  | submissionTime
  | submissionCount
  | userId
deriving DecidableEq, Repr

namespace TieBreaker

instance : Spelled TieBreaker where
  members := [.submissionTime, .submissionCount, .userId]
  spelling
    | .submissionTime => "submission_time"
    | .submissionCount => "submission_count"
    | .userId => "user_id"

instance : Payload TieBreaker := Payload.ofSpelled TieBreaker

end TieBreaker

/-- The rules of a rank list. -/
structure RankListQuery where
  scoringRule : ScoringRule := .latest
  tieBreaker : Option TieBreaker := none
deriving DecidableEq

instance : Payload RankListQuery where
  shape := .record "RankListQuery" [("scoring_rule", Payload.shape ScoringRule),
    ("tie_breaker", .optional (Payload.shape TieBreaker))]
  toJson q := .object (
    ("scoring_rule", Payload.toJson q.scoringRule) ::
    Payload.optionalEntry "tie_breaker" q.tieBreaker)
  ofJson? v := do
    return {
      scoringRule := ← Payload.field "scoring_rule" v
      tieBreaker := ← Payload.optionalField "tie_breaker" v }

end JudgeClient
