import JudgeClient.Fetch.Endpoint
import JudgeClient.Fetch.Resource
import JudgeClient.Payload.Job
import JudgeClient.Route.Links
import JudgeClient.Route.Router

/-!
# The submission form

A program for a problem is typed in and handed in.  Every job that comes back opens its status
page, once.  Nothing is sent but by handing in, and what was sent does not change by typing on.
-/

namespace JudgeClient

/-- The form of one problem: what has been typed, the job made of it, and the router that opens
the job's page. -/
structure SubmitForm where
  problemId : Int64
  contestId : Option Int64
  language : String := ""
  sourceCode : String := ""
  job : Resource Job
  router : Router

namespace SubmitForm

/-- What may happen to a form. -/
inductive Event
  | setLanguage (language : String)
  | setSource (source : String)
  | submit
  | answer (ticket : Nat) (outcome : Outcome)
  /-- The history moves without the form's doing. -/
  | outside (e : History.Event)

/-- What would be handed in now. -/
def submissionOf (problemId : Int64) (contestId : Option Int64) (language sourceCode : String) :
    Submission where
  sourceCode := sourceCode
  language := language
  userId := 0
  contestId := contestId.getD 0
  problemId := problemId

/-- The body in which a submission is handed in. -/
def bodyOf (s : Submission) : Json := (Payload.toJson s).sortEntries

/-- What would be handed in now. -/
def submission (f : SubmitForm) : Submission :=
  submissionOf f.problemId f.contestId f.language f.sourceCode

/-- How a form sends: it adds to the jobs, and only when it is told to. -/
def settings : FetchSettings where
  method := .post
  immediate := false
  refetch := false

/-- An empty form. -/
def start (problemId : Int64) (contestId : Option Int64) (router : Router) : SubmitForm where
  problemId := problemId
  contestId := contestId
  job := .start settings Endpoint.jobs
    (.live (bodyOf (submissionOf problemId contestId "" "")))
  router := router

/-- The form with its submission as the body to send. -/
def refreshBody (f : SubmitForm) : SubmitForm :=
  { f with job := f.job.step (.setBody (bodyOf f.submission)) }

/-- The form after one change of its job.  A job that comes back opens its page. -/
def applyChange (f : SubmitForm) (c : Resource.Change Job) : SubmitForm :=
  let f := { f with job := f.job.apply c }
  match c with
  | .dataSet _ job => { f with router := f.router.navigate (Links.submission job.id) }
  | _ => f

/-- The form after an event of its job. -/
def stepJob (f : SubmitForm) (e : Resource.Event) : SubmitForm :=
  (f.job.changes e).foldl applyChange f

/-- The form after an event. -/
def step (f : SubmitForm) : Event → SubmitForm
  | .setLanguage language => { f with language := language }.refreshBody
  | .setSource source => { f with sourceCode := source }.refreshBody
  | .submit => f.stepJob .execute
  | .answer ticket outcome => f.stepJob (.answer ticket outcome)
  | .outside e => { f with router := (f.router.step (.outside e)).1 }

/-- The form cannot be handed in: a job is awaited, no language is chosen, or nothing is typed. -/
def isDisabled (f : SubmitForm) : Bool :=
  f.job.isLoading || f.language.isEmpty || (Text.trim f.sourceCode.toList).isEmpty

end SubmitForm

end JudgeClient
