import JudgeClient.Payload.Contest
import JudgeClient.Route.Links
import JudgeClient.View.Node

/-!
# Contests

A list of contests, and one contest with its problems.
-/

namespace JudgeClient.View

/-! ### Lists -/

/-- A contest as a row. -/
def contestRow (c : Contest) : Node :=
  Node.row [
    Node.cell (Node.ofInt c.id),
    Node.cell [Node.link (Links.contest c.id) (Node.ofText c.name)],
    Node.cell (Node.ofText c.start),
    Node.cell (Node.ofText c.stop),
    Node.cell (Node.ofText (toString c.problemIds.length))]

/-- A list of contests. -/
def contestTable (contests : List Contest) : Fragment :=
  [Node.table ["#", "Name", "From", "To", "Problems"] (contests.map contestRow)]

/-! ### One contest -/

/-- How often a participant may submit for a problem. -/
def submissionLimit (limit : Int64) : String :=
  if limit = 0 then "unlimited" else toString limit.toInt

/-- The link to a problem of a contest. -/
def contestProblem (contest problem : Int64) : Node :=
  Node.plain "li" [
    Node.link (Links.contestProblem contest problem)
      (Node.ofText ("Problem #" ++ toString problem.toInt))]

/-- A contest, with links to its submissions, its ranks and its problems. -/
def contestDetail (c : Contest) : Fragment := [
  Node.styled "h1" "text-2xl" (Node.ofText c.name),
  Node.styled "p" "text-sm opacity-60" (Node.ofText (c.start ++ " ~ " ++ c.stop)),
  Node.plain "p"
    (Node.ofText ("Submission limit per problem: " ++ submissionLimit c.submissionLimit)),
  Node.plain "p" (Node.ofText (toString c.userIds.length ++ " participants")),
  Node.styled "div" "flex flex-row gap-4" [
    Node.styledLink (Links.contestSubmissions c.id) "text-primary underline"
      (Node.ofText "Submissions"),
    Node.styledLink (Links.contestRanks c.id) "text-primary underline"
      (Node.ofText "Rank List")],
  Node.styled "ul" "list-disc pl-6" (c.problemIds.map (contestProblem c.id))]

end JudgeClient.View
