import JudgeClient.Page.Basic
import JudgeClient.View.Contest
import JudgeClient.View.Fetched
import JudgeClient.View.Frame
import JudgeClient.View.Job
import JudgeClient.View.Problem
import JudgeClient.View.Ranking

/-!
# What a page shows

The document of an open page, from what its resources have at the moment.
-/

namespace JudgeClient.Page

/-- The style of a page that is a list with a heading. -/
def listStyle : String := "container mx-auto p-4 text-text"

/-- The style of a page whose parts stand below each other. -/
def columnStyle : String := "container mx-auto p-4 flex flex-col gap-4 text-text"

/-- The start page. -/
def homeView (c : Config) : Node :=
  Node.styled "div" "container mx-auto p-8 flex flex-col gap-4 text-text" [
    Node.styled "h1" "text-4xl" (Node.ofText c.siteName),
    Node.plain "p" (Node.ofText "Pick a problem, submit a solution and watch it being judged."),
    Node.styled "div" "flex flex-row gap-4" [
      Node.styledLink "/problems" "text-primary underline" (Node.ofText "Browse problems"),
      Node.styledLink "/contests" "text-primary underline" (Node.ofText "Browse contests")]]

/-- A list under a heading. -/
def listView (heading : String) (list : Fragment) : Node :=
  Node.styled "div" listStyle (Node.styled "h1" "text-2xl mb-4" (Node.ofText heading) :: list)

/-- A heading with parts below it. -/
def columnView (heading : String) (parts : Fragment) : Node :=
  Node.styled "div" columnStyle (Node.styled "h1" "text-2xl" (Node.ofText heading) :: parts)

/-- A problem, the way back to its contest, the form, and what came of handing in. -/
def problemView (problem : Shown Problem) (languages : Shown (List String)) (form : SubmitForm) :
    Node :=
  Node.styled "div" columnStyle
    (View.fetched problem View.problemHeading ++
      (form.contestId.elim [] fun contest => [View.backToContest contest]) ++
      [View.submitForm (languages.data.getD []) form.isDisabled] ++
      form.job.error.elim [] View.failure)

/-- The heading of a list of submissions. -/
def submissionsHeading (contest : Option Int64) : String :=
  contest.elim "Submissions" fun c => "Submissions of contest #" ++ toString c.toInt

/-- The field for a problem's id, and the button that looks again. -/
def searchBar (isLoading : Bool) : Node :=
  Node.styled "div" "flex flex-row gap-4 items-center" [
    .element "input"
      [("type", "number"), ("class", "w-48 p-2 bg-lighten rounded"),
        ("placeholder", "Problem ID")] [],
    .element "button"
      (("class", "p-2 rounded bg-primary disabled:opacity-40") ::
        View.flag "disabled" isLoading)
      (Node.ofText "Refresh")]

/-- The heading of a rank list. -/
def ranksHeading (contest : Int64) : String :=
  if contest = 0 then "Rank List" else "Rank List of contest #" ++ toString contest.toInt

/-- The buttons that choose the rule of a rank list. -/
def ruleBar (current : ScoringRule) : Node :=
  Node.styled "div" "flex flex-row gap-2" [
    View.ruleButton current .latest "Latest",
    View.ruleButton current .highest "Highest"]

/-- What a page shows. -/
def view (c : Config) : Page → Fragment
  | .home => [homeView c]
  | .problemList r => [listView "Problems" (View.fetched r.toShown View.problemTable)]
  | .problemSubmission problem languages form =>
    [problemView problem.toShown languages.toShown form]
  | .submissionList contest search =>
    [columnView (submissionsHeading contest)
      (searchBar search.jobs.isLoading :: View.fetched search.jobs.toShown View.jobTable)]
  | .submissionStatus polling =>
    [columnView ("Submission #" ++ toString polling.id.toInt)
      (View.fetched polling.job.toShown View.jobDetail)]
  | .contestList r => [listView "Contests" (View.fetched r.toShown View.contestTable)]
  | .contestPage r =>
    [Node.styled "div" columnStyle (View.fetched r.toShown View.contestDetail)]
  | .rankList contest query r =>
    [columnView (ranksHeading contest)
      (ruleBar query.scoringRule :: View.fetched r.toShown View.rankTable)]
  | .failed e => View.failure e
  | .notFound location => View.notFound (some location) none

end JudgeClient.Page
