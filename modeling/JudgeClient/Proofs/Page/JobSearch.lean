import JudgeClient.Proofs.Fetch.Origin
import JudgeClient.Proofs.Page.JobFilter

/-!
# What a search shows

The jobs of a search are a resource whose path is written from a filter.  The filter can be told
from the path, so jobs that came from the URL of the search are jobs of its problem.

* `Endpoint.jobsMatching_inj` : different filters have different paths;
* `JobSearch.jobs_run`, `JobSearch.url_run` : a run of a search is a run of its resource, which is
  always at the URL of the filter;
* `shown_data_of_latest_url` : where the data of a resource is from, and the jobs of a search.
-/

namespace JudgeClient

/-! ### Paths of filters -/

theorem Endpoint.jobsMatching_inj {f g : JobFilter} (h : jobsMatching f = jobsMatching g) :
    f = g :=
  have hpath : '?' ∉ jobs.toList := by decide
  JobFilter.eq_of_withQuery_eq hpath (by decide) h

theorem Endpoint.problemId_eq_of_jobsMatching_eq {f : JobFilter} {a b : Option Int64}
    (h : jobsMatching { f with problemId := a } = jobsMatching { f with problemId := b }) :
    a = b :=
  congrArg JobFilter.problemId (jobsMatching_inj h)

theorem Config.apiUrl_inj {p q : String} (h : apiUrl p = apiUrl q) : p = q := by
  have hl := congrArg String.toList h
  simp only [apiUrl, joinOrigin, String.toList_append] at hl
  exact String.toList_inj.1 (List.append_cancel_left hl)

namespace JobSearch

/-! ### Runs -/

/-- The search after some events. -/
def run (s : JobSearch) (es : List Event) : JobSearch := es.foldl step s

/-- The problem that is selected after an event. -/
def select (problem : Option Int64) : Event → Option Int64
  | .setProblem id => id
  | .refresh | .answer _ _ => problem

/-- What an event of the search means to its resource. -/
def onJobs (filter : JobFilter) : Event → Resource.Event
  | .setProblem id => .setPath (Endpoint.jobsMatching { filter with problemId := id })
  | .refresh => .execute
  | .answer ticket outcome => .answer ticket outcome

theorem step_eq (s : JobSearch) (e : Event) :
    s.step e = ⟨{ s.filter with problemId := select s.filter.problemId e },
      s.jobs.step (onJobs s.filter e)⟩ := by
  cases e <;> rfl

/-- The filter keeps everything but its problem, which is the one that was selected last. -/
theorem filter_run (s : JobSearch) (es : List Event) :
    (s.run es).filter = { s.filter with problemId := es.foldl select s.filter.problemId } := by
  induction es generalizing s with
  | nil => rfl
  | cons e es ih =>
    refine (ih (s.step e)).trans ?_
    rw [step_eq]
    rfl

theorem jobs_run (s : JobSearch) (es : List Event) :
    (s.run es).jobs = s.jobs.run (es.map (onJobs s.filter)) := by
  induction es generalizing s with
  | nil => rfl
  | cons e es ih =>
    -- the problem that the filter had before does not matter
    have ho : onJobs (s.step e).filter = onJobs s.filter := by
      funext e'
      cases e' <;> cases e <;> rfl
    refine (ih (s.step e)).trans ?_
    rw [ho, step_eq]
    rfl

theorem path_step {s : JobSearch} (h : s.jobs.path = Endpoint.jobsMatching s.filter) (e : Event) :
    (s.step e).jobs.path = Endpoint.jobsMatching (s.step e).filter := by
  rw [step_eq, Resource.path_step]
  cases e with
  | setProblem id => rfl
  | refresh | answer => exact h

theorem path_run {s : JobSearch} (h : s.jobs.path = Endpoint.jobsMatching s.filter)
    (es : List Event) : (s.run es).jobs.path = Endpoint.jobsMatching (s.run es).filter := by
  induction es generalizing s with
  | nil => exact h
  | cons e es ih => exact ih (path_step h e)

/-- The URL of a search is that of its filter with the problem that was selected last. -/
theorem url_run (filter : JobFilter) (es : List Event) : ((start filter).run es).jobs.url =
    Config.apiUrl
      (Endpoint.jobsMatching { filter with problemId := es.foldl select filter.problemId }) := by
  rw [Resource.url, path_run rfl, filter_run]
  rfl

/-- The resource of a new search, with its ledger. -/
def record (filter : JobFilter) : Resource.Recorded (List Job) :=
  .start {} (Endpoint.jobsMatching filter) .absent

theorem jobs_eq_record (filter : JobFilter) (es : List Event) :
    ((start filter).run es).jobs = ((record filter).run (es.map (onJobs filter))).resource := by
  rw [Resource.Recorded.resource_run]
  exact jobs_run (start filter) es

end JobSearch

/-! ### Where data is from -/

/-- **Shown data belongs to the right URL.**  Data and its URL come and go together, and the data
was decoded from a successful response to a request for that URL.  A resource that is not loading
shows nothing or data of the URL that it asked for last; if it asks by itself, that is where it is.
Hence a search that is not loading shows the jobs of the URL of its filter, and the problem it has
selected is the only one whose jobs have this URL. -/
theorem shown_data_of_latest_url :
    (∀ (α : Type) [Payload α] (settings : FetchSettings) (path : String) (body : RequestBody)
      (es : List Resource.Event),
      let a := (Resource.Recorded.start settings path body : Resource.Recorded α).run es
      let r := a.resource
      (r.data.isSome = true ↔ r.dataUrl.isSome = true) ∧
        (∀ data, r.data = some data →
          ∃ url, r.dataUrl = some url ∧ a.ledger.Brought url data) ∧
        (r.isLoading = false →
          r.data = none ∨ ∃ q, a.ledger.latest? = some q ∧ r.dataUrl = some q.url) ∧
        (settings.refetch = true → r.isLoading = false → r.data.isSome = true →
          r.dataUrl = some r.url)) ∧
    ∀ (filter : JobFilter) (es : List JobSearch.Event),
      let s := (JobSearch.start filter).run es
      let a := (JobSearch.record filter).run (es.map (JobSearch.onJobs filter))
      let selected := es.foldl JobSearch.select filter.problemId
      let urlOf := fun id => Config.apiUrl (Endpoint.jobsMatching { filter with problemId := id })
      s.jobs = a.resource ∧
        (s.jobs.isLoading = false → ∀ jobs, s.jobs.data = some jobs →
          s.jobs.dataUrl = some (urlOf selected) ∧ a.ledger.Brought (urlOf selected) jobs ∧
          ∀ id, s.jobs.dataUrl = some (urlOf id) → id = selected) := by
  refine ⟨fun α _ settings path body es => ?_, fun filter es => ?_⟩
  · intro a r
    have ha : Resource.Sourced a := Resource.Recorded.sourced_run settings path body es
    have hset : r.settings = settings := Resource.Recorded.settings_run settings path body es
    refine ⟨by rw [ha.isSome], fun data hd => ha.exists_brought hd, ha.latest, ?_⟩
    intro hr hl hd
    obtain ⟨data, hd⟩ := Option.isSome_iff_exists.1 hd
    exact ha.dataUrl_eq_url (hset ▸ hr) hl hd
  · intro s a selected urlOf
    have ha : Resource.Sourced a := Resource.Recorded.sourced_run ..
    have hjobs : s.jobs = a.resource := JobSearch.jobs_eq_record filter es
    have hurl : a.resource.url = urlOf selected := hjobs ▸ JobSearch.url_run filter es
    refine ⟨hjobs, fun hl jobs hd => ?_⟩
    rw [hjobs] at hl hd ⊢
    have hr : a.resource.settings.refetch = true :=
      congrArg FetchSettings.refetch (Resource.Recorded.settings_run ..)
    have hu : a.resource.dataUrl = some (urlOf selected) := by
      rw [← hurl]
      exact ha.dataUrl_eq_url hr hl hd
    refine ⟨hu, ha.brought jobs _ hd hu, fun id hid => ?_⟩
    -- filters with the same URL have the same pairs, and those tell the problem
    have he : urlOf id = urlOf selected := Option.some.inj (hid.symm.trans hu)
    exact Endpoint.problemId_eq_of_jobsMatching_eq (Config.apiUrl_inj he)

/-- The problem is changed before the first answer, which then comes last. -/
theorem shown_data_of_latest_url_of_new_problem :
    let es : List JobSearch.Event :=
      [.setProblem (some 1), .answer 2 (.ok ⟨200, "[]"⟩), .answer 1 (.ok ⟨200, "[]"⟩)]
    let s := (JobSearch.start {}).run es
    (s.jobs.isLoading = false ∧ s.jobs.data = some []) ∧
      s.jobs.dataUrl = some (Config.apiUrl (Endpoint.jobsMatching { problemId := some 1 })) := by
  intro es s
  have hs : s.jobs.isLoading = false ∧ s.jobs.data = some [] := ⟨rfl, rfl⟩
  exact ⟨hs, ((shown_data_of_latest_url.2 {} es).2 hs.1 [] hs.2).1⟩

end JudgeClient
