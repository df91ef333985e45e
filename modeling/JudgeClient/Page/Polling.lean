import JudgeClient.Fetch.Endpoint
import JudgeClient.Fetch.Resource
import JudgeClient.Payload.Job

/-!
# Polling a job

A job that is shown is asked for again at intervals, until it will not change any more or asking
again cannot help.  No request is made while another one is waiting.
-/

namespace JudgeClient

/-- A job that is asked for again while its timer is running. -/
structure Polling where
  id : Int64
  job : Resource Job
  isRunning : Bool

namespace Polling

/-- What may happen to a polled job. -/
inductive Event
  /-- The interval has passed. -/
  | tick
  | answer (ticket : Nat) (outcome : Outcome)

/-- Asking again is of no use: the job is final, or the API refused for good. -/
def isDone (job : Option Job) (error : Option Error) : Bool :=
  job.any (·.state.isFinal) || error.any (·.kind.isPermanent)

/-- A job that is asked for the first time. -/
def start (id : Int64) : Polling where
  id := id
  job := .atPath (Endpoint.job id)
  isRunning := true

/-- The polling after one change of the job, which may stop the timer. -/
def applyChange (p : Polling) (c : Resource.Change Job) : Polling :=
  let job := p.job.apply c
  { p with job := job, isRunning := p.isRunning && !isDone job.data job.error }

/-- The polling after an event of the job. -/
def stepJob (p : Polling) (e : Resource.Event) : Polling := (p.job.changes e).foldl applyChange p

/-- The polling after an event. -/
def step (p : Polling) : Event → Polling
  | .tick => if p.isRunning && !p.job.isLoading then p.stepJob .execute else p
  | .answer ticket outcome => p.stepJob (.answer ticket outcome)

end Polling

end JudgeClient
