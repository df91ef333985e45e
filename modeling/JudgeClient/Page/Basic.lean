import JudgeClient.Page.JobSearch
import JudgeClient.Page.Polling
import JudgeClient.Page.SubmitForm
import JudgeClient.Payload.Contest

/-!
# Pages

A page is opened by a resolution: it reads its ids and its search from the parameters, and asks
for what it shows.  A location without the ids that its page needs is malformed, and then nothing
is asked for.

What a page waits for is counted over all its resources, oldest first.
-/

namespace JudgeClient

/-- An open page, with the resources that it shows. -/
inductive Page
  | home
  | problemList (problems : Resource (List Problem))
  | problemSubmission (problem : Resource Problem) (languages : Resource (List String))
      (form : SubmitForm)
  | submissionList (contest : Option Int64) (search : JobSearch)
  | submissionStatus (polling : Polling)
  | contestList (contests : Resource (List Contest))
  | contestPage (contest : Resource Contest)
  | rankList (contest : Int64) (query : RankListQuery) (ranks : Resource (List RankItem))
  /-- The location does not say what to show. -/
  | failed (error : Error)
  /-- No page is at the location. -/
  | notFound (location : String)

/-- The rules that a query sets; a rule whose text does not read is the usual one. -/
def RankListQuery.ofQuery (query : Params) : RankListQuery where
  scoringRule := (query.get? "scoring_rule").getD .latest
  tieBreaker := query.get? "tie_breaker"

namespace Page

/-! ### Opening -/

/-- The contest of a rank list; without one all users are ranked on all problems. -/
def rankedContest (query : Params) : Int64 := (query.get? "contest").getD 0

/-- The page of a route. -/
def ofRoute (route : ResolvedRoute) (router : Router) : Except Error Page := do
  let contest : Option Int64 := route.props.get? "contestId"
  match route.page with
  | .home => return .home
  | .problemList => return .problemList (.atPath Endpoint.problems)
  | .problemSubmission =>
    let id : Int64 ← route.props.require "id"
    return .problemSubmission (.atPath (Endpoint.problem id)) (.atPath Endpoint.languages)
      (.start id contest router)
  | .submissionList => return .submissionList contest (.start (.ofQuery contest route.query))
  | .submissionStatus => return .submissionStatus (.start (← route.props.require "id"))
  | .contestList => return .contestList (.atPath Endpoint.contests)
  | .contestPage => return .contestPage (.atPath (Endpoint.contest (← route.props.require "id")))
  | .rankList =>
    let contest := rankedContest route.query
    let query := RankListQuery.ofQuery route.query
    return .rankList contest query (.atPath (Endpoint.ranks contest query))

/-- The page at the router's location. -/
def mount (router : Router) : Page :=
  match router.resolution with
  | .notFound location => .notFound location
  | .found route =>
    match ofRoute route router with
    | .ok page => page
    | .error e => .failed e

/-! ### Requests and answers -/

/-- The requests that the page waits for. -/
def requests : Page → List Request
  | .home => []
  | .problemList r => r.requests
  | .problemSubmission problem languages form =>
    problem.requests ++ languages.requests ++ form.job.requests
  | .submissionList _ search => search.jobs.requests
  | .submissionStatus polling => polling.job.requests
  | .contestList r => r.requests
  | .contestPage r => r.requests
  | .rankList _ _ r => r.requests
  | .failed _ => []
  | .notFound _ => []

/-- The page after an answer to the request at a place among those that it waits for. -/
def answerAt? (index : Nat) (outcome : Outcome) : Page → Option Page
  | .home => none
  | .problemList r => (r.answerAt? index outcome).map .problemList
  | .problemSubmission problem languages form =>
    let before := problem.waiting.length + languages.waiting.length
    if index < problem.waiting.length then
      (problem.answerAt? index outcome).map fun problem =>
        .problemSubmission problem languages form
    else if index < before then
      (languages.answerAt? (index - problem.waiting.length) outcome).map fun languages =>
        .problemSubmission problem languages form
    else
      (form.job.ticketAt? (index - before)).map fun ticket =>
        .problemSubmission problem languages (form.step (.answer ticket outcome))
  | .submissionList contest search =>
    (search.jobs.ticketAt? index).map fun ticket =>
      .submissionList contest (search.step (.answer ticket outcome))
  | .submissionStatus polling =>
    (polling.job.ticketAt? index).map fun ticket =>
      .submissionStatus (polling.step (.answer ticket outcome))
  | .contestList r => (r.answerAt? index outcome).map .contestList
  | .contestPage r => (r.answerAt? index outcome).map .contestPage
  | .rankList contest query r => (r.answerAt? index outcome).map (.rankList contest query)
  | .failed _ => none
  | .notFound _ => none

/-! ### Timers -/

/-- The intervals of the timers that are running, in milliseconds. -/
def timers (c : Config) : Page → List Nat
  | .submissionStatus polling => if polling.isRunning then [c.pollIntervalMs] else []
  | _ => []

/-- Every running timer fires once. -/
def tick : Page → Page
  | .submissionStatus polling => .submissionStatus (polling.step .tick)
  | page => page

/-! ### Answers at hand -/

/-- The first answer for a URL, and the answers without it. -/
def takeAnswer? (url : String) :
    List (String × Outcome) → Option (Outcome × List (String × Outcome))
  | [] => none
  | a :: rest =>
    if a.1 == url then some (a.2, rest)
    else (takeAnswer? url rest).map fun r => (r.1, a :: r.2)

/-- Serves up to `count` requests from a place on. -/
def serveFrom (page : Page) (answers : List (String × Outcome)) (index : Nat) :
    Nat → Page × List (String × Outcome)
  | 0 => (page, answers)
  | count + 1 =>
    let served : Option (Page × List (String × Outcome)) := do
      let request ← page.requests[index]?
      let (outcome, rest) ← takeAnswer? request.url answers
      return (← page.answerAt? index outcome, rest)
    match served with
    | some (page, rest) => serveFrom page rest index count
    | none => serveFrom page answers (index + 1) count

/-- Serves the requests that the page waits for: each takes the first answer left for its URL. -/
def serve (page : Page) (answers : List (String × Outcome)) : Page × List (String × Outcome) :=
  serveFrom page answers 0 page.requests.length

end Page

end JudgeClient
