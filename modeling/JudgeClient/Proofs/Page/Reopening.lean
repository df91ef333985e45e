import JudgeClient.Proofs.Page.Landing
import JudgeClient.Proofs.Page.Submitting

/-!
# A job's problem, opened again

A job is shown in two views, as a row of a list and in full, and both link to its problem.  The row
links to the problem in the contest of the job, the view in full to the problem outside of every
contest.  So the two links lead to the same problem, and to the same page only if the job has no
contest; from the view in full of any other job, what is handed in next is handed in outside of the
contest.

* `Links.LeadsTo.unique` : a link leads to one page;
* `Links.SamePage` : two links lead to the same page, with the same id and the same contest;
* `Links.HandsIn` : what is handed in on the page that a link leads to;
* `Links.same_page_iff_no_contest` : where the two views of a job lead.
-/

namespace JudgeClient

namespace Links

/-! ### Pages that links lead to -/

section LeadsTo

variable {link : String} {kind kind' : PageKind} {id id' contest contest' : Option Int64}

/-- A link leads to one page, with one id and one contest. -/
theorem LeadsTo.unique (h : LeadsTo link kind id contest) (h' : LeadsTo link kind' id' contest') :
    kind = kind' ∧ id = id' ∧ contest = contest' := by
  obtain ⟨route, hroute, rfl, rfl, rfl, -⟩ := h
  obtain ⟨route', hroute', rfl, rfl, rfl, -⟩ := h'
  obtain rfl : route = route' := Resolution.found.inj (hroute.symm.trans hroute')
  exact ⟨rfl, rfl, rfl⟩

/-- The page that the link to a problem leads to has an empty form for it. -/
theorem LeadsTo.exists_form {id : Int64} (h : LeadsTo link .problemSubmission (some id) contest)
    (connected : Bool) : ∃ problem languages,
      Page.mountAt .app (Location.normalize link) connected = .problemSubmission problem languages
        (.start id contest (.start .app (.start (Location.normalize link)) connected)) := by
  obtain ⟨route, hroute, hpage, hid, hcontest, -⟩ := h
  have hrequire : route.props.require "id" = .ok id := Params.require_of_eq_some hid
  have hopen : ∀ router, Page.ofRoute route router = .ok (.problemSubmission
      (.atPath (Endpoint.problem id)) (.atPath Endpoint.languages) (.start id contest router)) := by
    intro router
    simp only [Page.ofRoute, hpage, hrequire, hcontest]
    rfl
  exact ⟨_, _, Page.mountAt_of_ofRoute_eq_ok hroute (hopen _)⟩

end LeadsTo

/-- Following either link opens the same page, with the same id and the same contest. -/
def SamePage (a b : String) : Prop :=
  ∃ kind id contest, LeadsTo a kind id contest ∧ LeadsTo b kind id contest

theorem samePage_iff {a b : String} {kind : PageKind} {id contest contest' : Option Int64}
    (ha : LeadsTo a kind id contest) (hb : LeadsTo b kind id contest') :
    SamePage a b ↔ contest = contest' := by
  constructor
  · rintro ⟨_, _, _, ha', hb'⟩
    exact (ha.unique ha').2.2.trans (hb.unique hb').2.2.symm
  · rintro rfl
    exact ⟨kind, id, contest, ha, hb⟩

/-! ### What is handed in there -/

/-- Following the link opens a form, and whatever happens to it, what it hands in is for the problem
and in the contest. -/
def HandsIn (link : String) (problem contest : Int64) : Prop :=
  ∃ shown languages form,
    Page.mountAt .app (Location.normalize link) true = .problemSubmission shown languages form ∧
      ∀ es, (form.run es).submission.problemId = problem ∧
        (form.run es).submission.contestId = contest

/-- A form hands in for the problem of its page, and in the contest of its page or in none. -/
theorem LeadsTo.handsIn {link : String} {id : Int64} {contest : Option Int64}
    (h : LeadsTo link .problemSubmission (some id) contest) :
    HandsIn link id (contest.getD 0) := by
  obtain ⟨shown, languages, hmount⟩ := h.exists_form true
  refine ⟨shown, languages, _, hmount, fun es => ?_⟩
  have hfirst : (Router.start .app (.start (Location.normalize link)) true).Follows :=
    Router.follows_start _ _
  rw [(SubmitForm.kept_run hfirst es).submission]
  exact ⟨rfl, rfl⟩

/-! ### The two views of a job -/

/-- The problem of a submission and the problem as such are the same page only outside of every
contest. -/
theorem samePage_submittedProblem_iff {s : Submission} (hproblem : 0 ≤ s.problemId.toInt)
    (hcontest : 0 ≤ s.contestId.toInt) :
    SamePage (Location.href (problem s.problemId)) (Location.href (submittedProblem s)) ↔
      s.contestId = 0 := by
  rw [samePage_iff (leadsTo_problem hproblem) (leadsTo_submittedProblem hproblem hcontest)]
  by_cases h : s.contestId = 0 <;> simp [h]

/-- **A job's problem, opened again.**  A job in full has one link and its row has one behind that
to the job.  If the ids are not negative, both lead to the problem of the job, the row's in the
contest of the job and the other one in none, so that they open the same page just if the job has no
contest.  What is handed in after following the row's link goes to the contest of the job, and what is handed
in after following the other one to none. -/
theorem same_page_iff_no_contest (j : Job) (hproblem : 0 ≤ j.submission.problemId.toInt)
    (hcontest : 0 ≤ j.submission.contestId.toInt) :
    ∃ detail row, Node.fragmentLinks (View.jobDetail j) = [detail] ∧
      (View.jobRow j).links = [Location.href (submission j.id), row] ∧
      LeadsTo detail .problemSubmission (some j.submission.problemId) none ∧
      LeadsTo row .problemSubmission (some j.submission.problemId)
        (if j.submission.contestId = 0 then none else some j.submission.contestId) ∧
      (SamePage detail row ↔ j.submission.contestId = 0) ∧
      HandsIn detail j.submission.problemId 0 ∧
      HandsIn row j.submission.problemId j.submission.contestId := by
  have hdetail := leadsTo_problem hproblem
  have hrow := leadsTo_submittedProblem hproblem hcontest
  have hgetD : (if j.submission.contestId = 0 then none else some j.submission.contestId).getD 0 =
      j.submission.contestId := by
    by_cases h : j.submission.contestId = 0 <;> simp [h]
  refine ⟨_, _, View.fragmentLinks_jobDetail j, View.links_jobRow j, hdetail, hrow,
    samePage_submittedProblem_iff hproblem hcontest, hdetail.handsIn, ?_⟩
  have hin := hrow.handsIn
  rwa [hgetD] at hin

/-- A job handed in for a contest, and one handed in for none. -/
theorem same_page_iff_no_contest_of_both :
    let job (contest : Int64) : Job := ⟨12, "2022-03-01", "2022-03-01",
      ⟨"print(1)", "Python", 0, contest, 7⟩, .finished, .accepted, 100, []⟩
    (∃ detail row, Node.fragmentLinks (View.jobDetail (job 4)) = [detail] ∧
      (View.jobRow (job 4)).links = [Location.href (submission 12), row] ∧
      ¬SamePage detail row ∧ HandsIn detail 7 0 ∧ HandsIn row 7 4) ∧
    ∃ detail row, Node.fragmentLinks (View.jobDetail (job 0)) = [detail] ∧
      (View.jobRow (job 0)).links = [Location.href (submission 12), row] ∧ SamePage detail row := by
  intro job
  obtain ⟨detail, row, hdetail, hrow, -, -, hsame, hin, hin'⟩ :=
    same_page_iff_no_contest (job 4) (by decide) (by decide)
  obtain ⟨detail', row', hdetail', hrow', -, -, hsame', -, -⟩ :=
    same_page_iff_no_contest (job 0) (by decide) (by decide)
  refine ⟨⟨detail, row, hdetail, hrow, fun h => ?_, hin, hin'⟩,
    detail', row', hdetail', hrow', hsame'.2 rfl⟩
  exact absurd (hsame.1 h) (by decide)

/-- The two views of a job do not always lead to the same page. -/
theorem not_all_views_same_page :
    ¬∀ j : Job, 0 ≤ j.id.toInt → 0 ≤ j.submission.userId.toInt →
      0 ≤ j.submission.contestId.toInt → 0 ≤ j.submission.problemId.toInt →
      (∀ c ∈ j.cases, 0 ≤ c.id.toInt) → ∀ detail row,
        Node.fragmentLinks (View.jobDetail j) = [detail] →
        (View.jobRow j).links = [Location.href (submission j.id), row] → SamePage detail row := by
  intro h
  let s : Submission := ⟨"print(1)", "Python", 0, 4, 7⟩
  let j : Job := ⟨12, "2022-03-01", "2022-03-01", s, .finished, .accepted, 100, []⟩
  have hsame := h j (by decide) (by decide) (by decide) (by decide) (by simp [j]) _ _
    (View.fragmentLinks_jobDetail j) (View.links_jobRow j)
  have hcontest : s.contestId = 0 :=
    (samePage_submittedProblem_iff (by decide) (by decide)).1 hsame
  exact absurd hcontest (by decide)

end Links

end JudgeClient
