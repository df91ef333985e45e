import JudgeClient.View.Contest
import JudgeClient.View.Job
import JudgeClient.View.Problem

/-!
# Where a view leads

The links of a view are the targets of its anchors, in the order of the document.  Texts and tables
add none of their own, so what a view leads to can be listed.

* `View.links_problemRow`, `View.links_contestRow`, `View.links_jobRow` : the links of a row;
* `View.fragmentLinks_contestDetail`, `View.links_backToContest` : the links around one contest;
* `View.fragmentLinks_jobDetail` : the link of a job in full.
-/

namespace JudgeClient

namespace Node

/-! ### Links of elements -/

@[simp] theorem fragmentLinks_nil : fragmentLinks [] = [] := by
  simp [fragmentLinks]

@[simp] theorem fragmentLinks_cons (node : Node) (rest : Fragment) :
    fragmentLinks (node :: rest) = node.links ++ fragmentLinks rest := by
  simp [fragmentLinks]

@[simp] theorem fragmentLinks_map {α : Type} (f : α → Node) (as : List α) :
    fragmentLinks (as.map f) = as.flatMap fun a => (f a).links := by
  induction as with
  | nil => simp
  | cons a as ih => simp [ih]

@[simp] theorem fragmentLinks_ofText (s : String) : fragmentLinks (ofText s) = [] := by
  unfold ofText
  cases s.isEmpty <;> simp [links]

@[simp] theorem fragmentLinks_ofInt (i : Int64) : fragmentLinks (ofInt i) = [] :=
  fragmentLinks_ofText _

@[simp] theorem fragmentLinks_ofFloat (x : Float) : fragmentLinks (ofFloat x) = [] :=
  fragmentLinks_ofText _

@[simp] theorem links_plain (tag : String) (children : Fragment) :
    (plain tag children).links = fragmentLinks children := by
  simp [plain, links, targets]

@[simp] theorem links_styled (tag style : String) (children : Fragment) :
    (styled tag style children).links = fragmentLinks children := by
  simp [styled, links, targets]

@[simp] theorem links_cell (children : Fragment) :
    (cell children).links = fragmentLinks children := links_styled ..

@[simp] theorem links_row (cells : Fragment) : (row cells).links = fragmentLinks cells :=
  links_styled ..

@[simp] theorem links_headCell (s : String) : (headCell s).links = [] := by
  simp [headCell]

@[simp] theorem links_table (headings : List String) (rows : List Node) :
    (table headings rows).links = fragmentLinks rows := by
  simp [table]

@[simp] theorem links_link (location : String) (children : Fragment) :
    (link location children).links = Location.href location :: fragmentLinks children := by
  simp [link, links, targets]

@[simp] theorem links_styledLink (location style : String) (children : Fragment) :
    (styledLink location style children).links =
      Location.href location :: fragmentLinks children := by
  simp [styledLink, links, targets]

end Node

namespace View

/-! ### Links of views -/

theorem links_problemRow (p : Problem) :
    (problemRow p).links = [Location.href (Links.problem p.id)] := by
  simp [problemRow]

theorem links_contestRow (c : Contest) :
    (contestRow c).links = [Location.href (Links.contest c.id)] := by
  simp [contestRow]

theorem links_backToContest (contest : Int64) :
    (backToContest contest).links = [Location.href (Links.contest contest)] := by
  simp [backToContest]

theorem fragmentLinks_contestDetail (c : Contest) : Node.fragmentLinks (contestDetail c) =
    Location.href (Links.contestSubmissions c.id) :: Location.href (Links.contestRanks c.id) ::
      c.problemIds.map fun problem => Location.href (Links.contestProblem c.id problem) := by
  have hproblem : ∀ problem, (contestProblem c.id problem).links =
      [Location.href (Links.contestProblem c.id problem)] := by
    intro problem
    simp [contestProblem]
  simp [contestDetail, hproblem, ← List.map_eq_flatMap]

theorem links_jobRow (j : Job) : (jobRow j).links =
    [Location.href (Links.submission j.id),
      Location.href (Links.submittedProblem j.submission)] := by
  simp [jobRow]

theorem links_caseRow (c : Case) : (caseRow c).links = [] := by
  simp [caseRow]

/-- The one link of a job in full leads to its problem, outside of every contest. -/
theorem fragmentLinks_jobDetail (j : Job) : Node.fragmentLinks (jobDetail j) =
    [Location.href (Links.problem j.submission.problemId)] := by
  simp [jobDetail, described, links_caseRow]

end View

end JudgeClient
