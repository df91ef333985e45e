import JudgeClient.Payload.Contest
import JudgeClient.Route.Links
import JudgeClient.View.Node

/-!
# Problems

A list of problems, the heading of one problem, and the form in which a submission for it is
typed.
-/

namespace JudgeClient.View

/-! ### Lists and headings -/

/-- A problem as a row. -/
def problemRow (p : Problem) : Node :=
  Node.row [
    Node.cell (Node.ofInt p.id),
    Node.cell [Node.link (Links.problem p.id) (Node.ofText p.name)],
    Node.cell (Node.ofText (Spelled.spelling p.problemType))]

/-- A list of problems. -/
def problemTable (problems : List Problem) : Fragment :=
  [Node.table ["#", "Name", "Type"] (problems.map problemRow)]

/-- The heading of a problem. -/
def problemHeading (p : Problem) : Fragment := [
  Node.styled "h1" "text-2xl" (Node.ofText ("#" ++ toString p.id.toInt ++ " " ++ p.name)),
  Node.styled "p" "text-sm opacity-60" (Node.ofText (Spelled.spelling p.problemType))]

/-! ### The submission form -/

/-- The link from a problem back to its contest. -/
def backToContest (contest : Int64) : Node :=
  Node.styledLink (Links.contest contest) "text-primary underline"
    (Node.ofText ("Back to contest #" ++ toString contest.toInt))

/-- A language that can be chosen. -/
def languageOption (name : String) : Node := .element "option" [("value", name)] (Node.ofText name)

/-- An attribute that is there or not. -/
def flag (name : String) (b : Bool) : List (String × String) := if b then [(name, "")] else []

/-- The form in which a submission is typed. -/
def submitForm (languages : List String) (isDisabled : Bool) : Node :=
  Node.styled "form" "flex flex-col gap-4" [
    Node.styled "select" "w-64 p-2 bg-lighten rounded"
      (.element "option" ([("value", "")] ++ flag "disabled" true ++ flag "selected" true)
          (Node.ofText "Language") ::
        languages.map languageOption),
    .element "textarea"
      [("class", "font-mono p-2 bg-lighten rounded"), ("rows", "20"),
        ("placeholder", "Source code")] [],
    .element "button"
      ([("type", "submit"), ("class", "w-32 p-2 rounded bg-primary disabled:opacity-40")] ++
        flag "disabled" isDisabled)
      (Node.ofText "Submit")]

end JudgeClient.View
