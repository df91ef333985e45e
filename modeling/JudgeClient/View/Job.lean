import JudgeClient.Payload.Job
import JudgeClient.Route.Links
import JudgeClient.Timestamp
import JudgeClient.View.Node

/-!
# Jobs

A job as a row of a list, and in full with the result of each case.
-/

namespace JudgeClient

/-! ### Units -/

/-- A time in whole milliseconds; what is left over is dropped. -/
def Units.time (microseconds : Int64) : String :=
  toString (microseconds / 1000).toInt ++ " ms"

/-- An amount of memory in whole kibibytes; what is left over is dropped. -/
def Units.memory (bytes : Int64) : String := toString (bytes / 1024).toInt ++ " KiB"

namespace View

/-! ### A job in full -/

/-- The result of one case. -/
def caseRow (c : Case) : Node :=
  Node.row [
    Node.cell (Node.ofInt c.id),
    Node.cell (Node.ofText c.result.label),
    Node.cell (Node.ofText (Units.time c.time)),
    Node.cell (Node.ofText (Units.memory c.memory)),
    Node.styled "td" "p-2 font-mono" (Node.ofText c.info)]

/-- A term and what it stands for. -/
def described (term : String) (description : Fragment) : Fragment :=
  [Node.plain "dt" (Node.ofText term), Node.plain "dd" description]

/-- A job, its cases, and its program. -/
def jobDetail (j : Job) : Fragment := [
  Node.styled "dl" "grid grid-cols-2 gap-2 w-96"
    (described "Problem" [
        Node.link (Links.problem j.submission.problemId) (Node.ofInt j.submission.problemId)] ++
      described "Language" (Node.ofText j.submission.language) ++
      described "State" (Node.ofText (Spelled.spelling j.state)) ++
      described "Result" (Node.ofText j.result.label) ++
      described "Score" (Node.ofFloat j.score) ++
      described "Updated" (Node.ofText (Timestamp.display j.updatedTime))),
  Node.table ["Case", "Result", "Time", "Memory", "Info"] (j.cases.map caseRow),
  Node.styled "pre" "p-2 bg-lighten rounded overflow-x-auto" [
    Node.plain "code" (Node.ofText j.submission.sourceCode)]]

/-! ### Lists of jobs -/

/-- A job as a row. -/
def jobRow (j : Job) : Node :=
  Node.row [
    Node.cell [Node.link (Links.submission j.id) (Node.ofInt j.id)],
    Node.cell [
      Node.link (Links.submittedProblem j.submission) (Node.ofInt j.submission.problemId)],
    Node.cell (Node.ofText j.submission.language),
    Node.cell (Node.ofText (Spelled.spelling j.state)),
    Node.cell (Node.ofText j.result.label),
    Node.cell (Node.ofFloat j.score),
    Node.cell (Node.ofText (Timestamp.display j.createdTime))]

/-- A list of jobs. -/
def jobTable (jobs : List Job) : Fragment :=
  [Node.table ["ID", "Problem", "Language", "State", "Result", "Score", "Submitted"]
    (jobs.map jobRow)]

end View

end JudgeClient
