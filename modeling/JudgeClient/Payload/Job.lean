import JudgeClient.Payload.Basic
import JudgeClient.Timestamp

/-!
# Submissions and jobs

A submission is what a user hands in for a problem; the job that judges it carries its state, its
result, and the result of each case.
-/

namespace JudgeClient

/-! ### States and results -/

/-- How far a job has come. -/
inductive JobState
  | queueing
  | running
  | finished
  | canceled
deriving DecidableEq, Repr

namespace JobState

instance : Spelled JobState where
  members := [.queueing, .running, .finished, .canceled]
  spelling
    | .queueing => "Queueing"
    | .running => "Running"
    | .finished => "Finished"
    | .canceled => "Canceled"

instance : Payload JobState := Payload.ofSpelled JobState

/-- Nothing about the job will change any more. -/
def isFinal : JobState → Bool
  | .finished | .canceled => true
  | .queueing | .running => false

end JobState

/-- What the judge found. -/
inductive JobResult
  | waiting
  | running
  | accepted
  | compilationError
  | compilationSuccess
  | wrongAnswer
  | runtimeError
  | timeLimitExceeded
  | memoryLimitExceeded
  | systemError
  | spjError
  | skipped
deriving DecidableEq, Repr

namespace JobResult

/-- The result as it is shown, which is also how it is spelled. -/
def label : JobResult → String
  | .waiting => "Waiting"
  | .running => "Running"
  | .accepted => "Accepted"
  | .compilationError => "Compilation Error"
  | .compilationSuccess => "Compilation Success"
  | .wrongAnswer => "Wrong Answer"
  | .runtimeError => "Runtime Error"
  | .timeLimitExceeded => "Time Limit Exceeded"
  | .memoryLimitExceeded => "Memory Limit Exceeded"
  | .systemError => "System Error"
  | .spjError => "SPJ Error"
  | .skipped => "Skipped"

instance : Spelled JobResult where
  members := [.waiting, .running, .accepted, .compilationError, .compilationSuccess, .wrongAnswer,
    .runtimeError, .timeLimitExceeded, .memoryLimitExceeded, .systemError, .spjError, .skipped]
  spelling := label

instance : Payload JobResult := Payload.ofSpelled JobResult

end JobResult

/-! ### Submissions -/

/-- A program handed in for a problem.  Contest `0` stands for no contest. -/
structure Submission where
  sourceCode : String
  language : String
  userId : Int64
  contestId : Int64
  problemId : Int64
deriving DecidableEq

instance : Payload Submission where
  shape := .record "Submission" [("source_code", .text), ("language", .text),
    ("user_id", .int64), ("contest_id", .int64), ("problem_id", .int64)]
  toJson s := .object [("source_code", .text s.sourceCode), ("language", .text s.language),
    ("user_id", .int s.userId.toInt), ("contest_id", .int s.contestId.toInt),
    ("problem_id", .int s.problemId.toInt)]
  ofJson? v := do
    return {
      sourceCode := ← Payload.field "source_code" v
      language := ← Payload.field "language" v
      userId := ← Payload.field "user_id" v
      contestId := ← Payload.field "contest_id" v
      problemId := ← Payload.field "problem_id" v }

/-! ### Jobs -/

/-- The result of one test case. -/
structure Case where
  id : Int64
  result : JobResult
  /-- In microseconds. -/
  time : Int64
  /-- In bytes. -/
  memory : Int64
  info : String
deriving DecidableEq

instance : Payload Case where
  shape := .record "Case" [("id", .int64), ("result", Payload.shape JobResult), ("time", .int64),
    ("memory", .int64), ("info", .text)]
  toJson c := .object [("id", .int c.id.toInt), ("result", Payload.toJson c.result),
    ("time", .int c.time.toInt), ("memory", .int c.memory.toInt), ("info", .text c.info)]
  ofJson? v := do
    return {
      id := ← Payload.field "id" v
      result := ← Payload.field "result" v
      time := ← Payload.field "time" v
      memory := ← Payload.field "memory" v
      info := ← Payload.field "info" v }

/-- A submission on its way through the judge. -/
structure Job where
  id : Int64
  createdTime : String
  updatedTime : String
  submission : Submission
  state : JobState
  result : JobResult
  score : Float
  cases : List Case
deriving DecidableEq

instance : Payload Job where
  shape := .record "Job" [("id", .int64), ("created_time", .text), ("updated_time", .text),
    ("submission", Payload.shape Submission), ("state", Payload.shape JobState),
    ("result", Payload.shape JobResult), ("score", .float), ("cases", Payload.shape (List Case))]
  toJson j := .object [("id", .int j.id.toInt), ("created_time", .text j.createdTime),
    ("updated_time", .text j.updatedTime), ("submission", Payload.toJson j.submission),
    ("state", Payload.toJson j.state), ("result", Payload.toJson j.result),
    ("score", .float j.score), ("cases", Payload.toJson j.cases)]
  ofJson? v := do
    return {
      id := ← Payload.field "id" v
      createdTime := ← Payload.field "created_time" v
      updatedTime := ← Payload.field "updated_time" v
      submission := ← Payload.field "submission" v
      state := ← Payload.field "state" v
      result := ← Payload.field "result" v
      score := ← Payload.field "score" v
      cases := ← Payload.field "cases" v }

namespace Job

/-- When the job came in, if its text is a timestamp. -/
def createdAt (j : Job) : Option Timestamp := Timestamp.read? j.createdTime

/-- When the job last changed, if its text is a timestamp. -/
def updatedAt (j : Job) : Option Timestamp := Timestamp.read? j.updatedTime

end Job

end JudgeClient
