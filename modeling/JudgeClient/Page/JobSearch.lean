import JudgeClient.Fetch.Endpoint
import JudgeClient.Fetch.Resource
import JudgeClient.Route.Params

/-!
# Searching for jobs

A list of jobs is looked for with a filter that a location sets.  The contest of the location's
path wins over one in its query.  The problem can be changed afterwards, and every change looks
again.
-/

namespace JudgeClient

/-- The filter that a query sets.  A field whose text does not read as a member of its type does
not filter. -/
def JobFilter.ofQuery (contest : Option Int64) (query : Params) : JobFilter where
  userId := query.get? "user_id"
  userName := query.get? "user_name"
  contestId := contest.orElse fun _ => query.get? "contest_id"
  problemId := query.get? "problem_id"
  language := query.get? "language"
  state := query.get? "state"
  result := query.get? "result"

/-- A filter, and the jobs that match it. -/
structure JobSearch where
  filter : JobFilter
  jobs : Resource (List Job)

namespace JobSearch

/-- What may happen to a search. -/
inductive Event
  | setProblem (id : Option Int64)
  | refresh
  | answer (ticket : Nat) (outcome : Outcome)

/-- A new search. -/
def start (filter : JobFilter) : JobSearch where
  filter := filter
  jobs := .atPath (Endpoint.jobsMatching filter)

/-- The search after an event. -/
def step (s : JobSearch) : Event → JobSearch
  | .setProblem id =>
    let filter := { s.filter with problemId := id }
    ⟨filter, s.jobs.step (.setPath (Endpoint.jobsMatching filter))⟩
  | .refresh => { s with jobs := s.jobs.step .execute }
  | .answer ticket outcome => { s with jobs := s.jobs.step (.answer ticket outcome) }

end JobSearch

end JudgeClient
