import JudgeClient.Proofs.Fetch.Issuing
import JudgeClient.Proofs.Fetch.Outcome
import JudgeClient.Proofs.Page.Landing
import JudgeClient.Proofs.Payload.Submission

/-!
# A form posts what is typed and opens what comes back

A form is a resource whose body follows what is typed, and a router that is moved by the jobs that
come back.  Typing changes the body and sends nothing, so each request carries the texts as they
were when it was handed in.  Of all changes that an answer makes only new data moves the router,
and new data comes only with a successful answer to the latest request, once.

* `SubmitForm.typed` : what the events so far have typed;
* `SubmitForm.record` : the resource of the form with its ledger;
* `SubmitForm.moves` : how the events move the history;
* `SubmitForm.Kept.step`, `SubmitForm.kept_run` : what ties a form to these three;
* `SubmitForm.posts_typed_and_opens_created` : requests and moves of whole runs.
-/

namespace JudgeClient

/-! ### The latest request -/

/-- The number is that of the latest request, and this has not been answered. -/
def Resource.Ledger.AwaitsLatest (l : Ledger) (number : Nat) : Prop :=
  1 ≤ number ∧ number = l.issued.length ∧ ∀ d ∈ l.delivered, d.number ≠ number

instance (l : Resource.Ledger) (number : Nat) : Decidable (l.AwaitsLatest number) :=
  inferInstanceAs (Decidable (_ ∧ _ ∧ _))

theorem Resource.Accounted.awaitsLatest_iff {α : Type} {a : Recorded α} (h : Accounted a)
    {number : Nat} : a.ledger.AwaitsLatest number ↔
      number ∈ a.resource.waitingTickets ∧ a.resource.tickets.latest = number := by
  rw [h.waits, h.latest, Ledger.AwaitsLatest]
  constructor
  · rintro ⟨hpos, rfl, hd⟩
    exact ⟨⟨⟨hpos, Nat.le_refl _⟩, hd⟩, rfl⟩
  · rintro ⟨⟨⟨hpos, -⟩, hd⟩, hn⟩
    exact ⟨hpos, hn.symm, hd⟩

namespace SubmitForm

/-! ### What is typed -/

/-- The language that the event chooses. -/
def Event.language? : Event → Option String
  | .setLanguage language => some language
  | .setSource _ | .submit | .answer _ _ | .outside _ => none

/-- The program that the event types. -/
def Event.source? : Event → Option String
  | .setSource source => some source
  | .setLanguage _ | .submit | .answer _ _ | .outside _ => none

section Problem

variable (problemId : Int64) (contestId : Option Int64)

/-- What would be handed in after some events. -/
def typed (es : List Event) : Submission where
  sourceCode := (es.filterMap Event.source?).getLast?.getD ""
  language := (es.filterMap Event.language?).getLast?.getD ""
  userId := 0
  contestId := contestId.getD 0
  problemId := problemId

/-- The request that hands a submission in. -/
def post (s : Submission) : Request :=
  ⟨.post, Config.current.apiServer ++ "/jobs", [], some (bodyOf s).compact⟩

/-- The last of the events hands in. -/
def endsSubmitting (es : List Event) : Bool :=
  match es.getLast? with
  | some .submit => true
  | _ => false

/-! ### What the form makes of its events -/

/-- What an event means to the resource of the job after others have happened. -/
def onJob (past : List Event) (e : Event) : List Resource.Event :=
  match e with
  | .setLanguage _ | .setSource _ => [.setBody (bodyOf (typed problemId contestId (past ++ [e])))]
  | .submit => [.execute]
  | .answer ticket outcome => [.answer ticket outcome]
  | .outside _ => []

/-- What events mean to the resource of the job after others have happened. -/
def jobEvents (past : List Event) : List Event → List Resource.Event
  | [] => []
  | e :: es => onJob problemId contestId past e ++ jobEvents (past ++ [e]) es

/-- The resource of the job after some events, with its ledger. -/
def record (es : List Event) : Resource.Recorded Job :=
  (Resource.Recorded.start settings Endpoint.jobs
    (.live (bodyOf (typed problemId contestId [])))).run (jobEvents problemId contestId [] es)

/-- The move that a job makes when it comes back with an answer to the latest request. -/
def opening : Outcome → List History.Event
  | .ok response =>
    match response.isSuccess, Payload.decode Job response.jsonText with
    | true, .ok job => [.push (Links.submission job.id)]
    | _, _ => []
  | .error _ => []

/-- How an event moves the history, when the resource of the job has this ledger. -/
def move (l : Resource.Ledger) : Event → List History.Event
  | .outside e => [e]
  | .answer ticket outcome => if l.AwaitsLatest ticket then opening outcome else []
  | .setLanguage _ | .setSource _ | .submit => []

/-- How events move the history after others have happened. -/
def moves (past : List Event) : List Event → List History.Event
  | [] => []
  | e :: es => move (record problemId contestId past).ledger e ++ moves (past ++ [e]) es

/-- The form after some events. -/
def run (f : SubmitForm) (es : List Event) : SubmitForm := es.foldl step f

variable {problemId contestId}

theorem jobEvents_concat (past es : List Event) (e : Event) :
    jobEvents problemId contestId past (es ++ [e]) =
      jobEvents problemId contestId past es ++ onJob problemId contestId (past ++ es) e := by
  induction es generalizing past with
  | nil => simp [jobEvents]
  | cons e' es ih => simp [jobEvents, ih]

theorem record_concat (es : List Event) (e : Event) : record problemId contestId (es ++ [e]) =
    (record problemId contestId es).run (onJob problemId contestId es e) := by
  rw [record, jobEvents_concat, Resource.Recorded.run, List.foldl_append]
  rfl

theorem moves_concat (past es : List Event) (e : Event) :
    moves problemId contestId past (es ++ [e]) = moves problemId contestId past es ++
      move (record problemId contestId (past ++ es)).ledger e := by
  induction es generalizing past with
  | nil => simp [moves]
  | cons e' es ih => simp [moves, ih]

theorem typed_concat_setLanguage (es : List Event) (language : String) :
    typed problemId contestId (es ++ [.setLanguage language]) =
      { typed problemId contestId es with language := language } := by
  simp [typed, Event.language?, Event.source?]

theorem typed_concat_setSource (es : List Event) (source : String) :
    typed problemId contestId (es ++ [.setSource source]) =
      { typed problemId contestId es with sourceCode := source } := by
  simp [typed, Event.language?, Event.source?]

/-- An event that types nothing leaves what has been typed. -/
theorem typed_concat_of_eq_none {es : List Event} {e : Event} (hl : e.language? = none)
    (hs : e.source? = none) :
    typed problemId contestId (es ++ [e]) = typed problemId contestId es := by
  simp [typed, hl, hs]

end Problem

/-! ### Answers -/

theorem opening_of_ok {outcome : Outcome} {job : Job} (h : outcome.decode Job = .ok job) :
    opening outcome = [.push (Links.submission job.id)] := by
  obtain ⟨response, rfl, hs, hd⟩ := Outcome.decode_eq_ok_iff.1 h
  rw [Response.decode, if_pos hs] at hd
  cases hp : Payload.decode Job response.jsonText with
  | ok job' =>
    obtain rfl : job' = job := by simpa [hp] using hd
    simp [opening, hs, hp]
  | error f => simp [hp] at hd

theorem opening_of_error {outcome : Outcome} {e : Error} (h : outcome.decode Job = .error e) :
    opening outcome = [] := by
  cases outcome with
  | error e => rfl
  | ok response =>
    cases hs : response.isSuccess with
    | false => simp [opening, hs]
    | true =>
      cases hp : Payload.decode Job response.jsonText with
      | error f => simp [opening, hp]
      | ok job => simp [Outcome.decode, Response.decode, hs, hp] at h

/-- The router after one change of the job. -/
def follow (r : Router) : Resource.Change Job → Router
  | .dataSet _ job => r.navigate (Links.submission job.id)
  | _ => r

theorem applyChange_eq (f : SubmitForm) (c : Resource.Change Job) :
    f.applyChange c = { f with job := f.job.apply c, router := follow f.router c } := by
  cases c <;> rfl

/-- An event of the job takes the job one step, and the router along with each change. -/
theorem stepJob_eq (f : SubmitForm) (e : Resource.Event) : f.stepJob e =
    { f with job := f.job.step e, router := (f.job.changes e).foldl follow f.router } := by
  have hchanges : ∀ (cs : List (Resource.Change Job)) (f : SubmitForm), cs.foldl applyChange f =
      { f with job := f.job.applyAll cs, router := cs.foldl follow f.router } := by
    intro cs
    induction cs with
    | nil => exact fun f => rfl
    | cons c cs ih =>
      intro f
      rw [List.foldl_cons, ih, applyChange_eq]
      rfl
  exact hchanges (f.job.changes e) f

section Router

variable {r : Router}

/-- A router that follows its history is moved to a job as its history would move it. -/
theorem navigate_submission (h : r.Follows) (id : Int64) :
    r.navigate (Links.submission id) = r.run [.outside (.push (Links.submission id))] := by
  have hpath : Location.normalize (Links.submission id) = Links.submission id :=
    Links.Target.normalize_location (.submission id)
  have hown := Router.step_navigate r (Links.submission id)
  have houtside := h.step_eq (.outside (.push (Links.submission id)))
  rw [hpath] at hown
  exact hown.trans houtside.symm

theorem foldl_follow_completion (h : r.Follows) (job : Resource Job) (url : String)
    (outcome : Outcome) : (job.completion url outcome).foldl follow r =
      r.run ((opening outcome).map .outside) := by
  cases hd : outcome.decode Job with
  | ok j =>
    rw [Resource.completion_of_ok job url hd, opening_of_ok hd]
    exact navigate_submission h j.id
  | error e =>
    rw [Resource.completion_of_error job url hd, opening_of_error hd]
    split <;> rfl

/-- An answer moves the router if it is to the latest request, by the job that it carries. -/
theorem foldl_follow_answer (h : r.Follows) {a : Resource.Recorded Job}
    (ha : Resource.Accounted a) (ticket : Nat) (outcome : Outcome) :
    (a.resource.changes (.answer ticket outcome)).foldl follow r =
      r.run ((move a.ledger (.answer ticket outcome)).map .outside) := by
  have hlatest : a.ledger.AwaitsLatest ticket ↔
      ticket ∈ a.resource.waitingTickets ∧ a.resource.tickets.latest = ticket :=
    ha.awaitsLatest_iff
  cases hw : a.resource.waitingRequest? ticket with
  | none =>
    have hnot : ¬a.ledger.AwaitsLatest ticket := fun hl =>
      Resource.waitingRequest?_eq_none_iff.1 hw (hlatest.1 hl).1
    simp only [Resource.changes, hw, move, if_neg hnot]
    rfl
  | some request =>
    have hmem : ticket ∈ a.resource.waitingTickets :=
      List.mem_map_of_mem (Resource.mem_waiting_of_waitingRequest? hw)
    by_cases ht : a.resource.tickets.latest = ticket
    · have hcurrent := Tickets.isCurrent_iff.2 ht
      simp only [Resource.changes, hw, hcurrent, if_true, move, if_pos (hlatest.2 ⟨hmem, ht⟩)]
      exact foldl_follow_completion h a.resource request.url outcome
    · have hnot : ¬a.ledger.AwaitsLatest ticket := fun hl => ht (hlatest.1 hl).2
      have hcurrent : ¬a.resource.tickets.isCurrent ticket = true :=
        fun hc => ht (Tickets.isCurrent_iff.1 hc)
      simp only [Resource.changes, hw, if_neg hcurrent, move, if_neg hnot]
      rfl

end Router

/-! ### Runs -/

/-- What ties a form to the events that it has seen.  Its router began as the first one and has been
moved like a history since. -/
structure Kept (problemId : Int64) (contestId : Option Int64) (first : Router) (es : List Event)
    (f : SubmitForm) : Prop where
  submission : f.submission = typed problemId contestId es
  job : f.job = (record problemId contestId es).resource
  settings : f.job.settings = settings
  path : f.job.path = Endpoint.jobs
  body : f.job.body = .live (bodyOf (typed problemId contestId es))
  router : f.router = first.run ((moves problemId contestId [] es).map .outside)

namespace Kept

variable {problemId : Int64} {contestId : Option Int64} {first : Router} {es : List Event}
  {f : SubmitForm}

theorem router_concat {e : Event} {router : Router} (h : Kept problemId contestId first es f)
    (hr : router = f.router.run
      ((move (record problemId contestId es).ledger e).map .outside)) :
    router = first.run ((moves problemId contestId [] (es ++ [e])).map .outside) := by
  rw [hr, h.router, moves_concat, List.nil_append, List.map_append, Router.run, Router.run,
    Router.run, List.foldl_append]

/-- Typing changes the body and nothing else. -/
theorem refreshBody (h : Kept problemId contestId first es f) {e : Event} (f' : SubmitForm)
    (hjob : f'.job = f.job) (hrouter : f'.router = f.router)
    (hsubmission : f'.submission = typed problemId contestId (es ++ [e]))
    (he : onJob problemId contestId es e =
      [.setBody (bodyOf (typed problemId contestId (es ++ [e])))])
    (hmove : move (record problemId contestId es).ledger e = []) :
    Kept problemId contestId first (es ++ [e]) f'.refreshBody := by
  have hstep : f'.refreshBody.job =
      f.job.step (.setBody (bodyOf (typed problemId contestId (es ++ [e])))) := by
    rw [← hsubmission, ← hjob]
    rfl
  refine ⟨hsubmission, ?_, ?_, ?_, ?_, h.router_concat ?_⟩
  · rw [hstep, record_concat, he, h.job]
    rfl
  · rw [hstep]
    exact (Resource.settings_applyAll _ _).trans h.settings
  · rw [hstep, Resource.path_step]
    exact h.path
  · rw [hstep, Resource.body_step, Resource.moved, h.body]
    rfl
  · rw [hmove]
    exact hrouter

/-- An event of the job that types nothing. -/
theorem stepJob (h : Kept problemId contestId first es f) {e : Event} {je : Resource.Event}
    (htyped : typed problemId contestId (es ++ [e]) = typed problemId contestId es)
    (he : onJob problemId contestId es e = [je]) (hmoved : f.job.moved je = f.job)
    (hrouter : (f.job.changes je).foldl follow f.router =
      f.router.run ((move (record problemId contestId es).ledger e).map .outside)) :
    Kept problemId contestId first (es ++ [e]) (f.stepJob je) := by
  rw [stepJob_eq]
  refine ⟨?_, ?_, ?_, ?_, ?_, h.router_concat hrouter⟩
  · rw [htyped]
    exact h.submission
  · rw [record_concat, he, h.job]
    rfl
  · exact (Resource.settings_applyAll _ _).trans h.settings
  · rw [Resource.path_step, hmoved]
    exact h.path
  · rw [Resource.body_step, hmoved, htyped]
    exact h.body

theorem follows (h : Kept problemId contestId first es f) (hfirst : first.Follows) :
    f.router.Follows := by
  rw [h.router]
  exact hfirst.run _

theorem step (h : Kept problemId contestId first es f) (hfirst : first.Follows) (e : Event) :
    Kept problemId contestId first (es ++ [e]) (f.step e) := by
  cases e with
  | setLanguage language =>
    refine h.refreshBody { f with language := language } rfl rfl ?_ rfl rfl
    rw [typed_concat_setLanguage, ← h.submission]
    rfl
  | setSource source =>
    refine h.refreshBody { f with sourceCode := source } rfl rfl ?_ rfl rfl
    rw [typed_concat_setSource, ← h.submission]
    rfl
  | submit => exact h.stepJob (typed_concat_of_eq_none rfl rfl) rfl rfl rfl
  | answer ticket outcome =>
    refine h.stepJob (typed_concat_of_eq_none rfl rfl) rfl rfl ?_
    have haccounted : Resource.Accounted (record problemId contestId es) :=
      Resource.Recorded.accounted_run _ _ _ _
    rw [h.job]
    exact foldl_follow_answer (h.follows hfirst) haccounted ticket outcome
  | outside e =>
    have htyped : typed problemId contestId (es ++ [.outside e]) = typed problemId contestId es :=
      typed_concat_of_eq_none rfl rfl
    have hrecord : record problemId contestId (es ++ [.outside e]) =
        record problemId contestId es := record_concat es (.outside e)
    refine ⟨htyped ▸ h.submission, hrecord ▸ h.job, h.settings, h.path, htyped ▸ h.body,
      h.router_concat rfl⟩

/-- The form hands in what has been typed. -/
theorem request_eq (h : Kept problemId contestId first es f) :
    f.job.request = post (typed problemId contestId es) := by
  simp only [Resource.request, Resource.url, h.settings, h.path, h.body]
  rfl

/-- Only handing in sends something. -/
theorem issued_concat (h : Kept problemId contestId first es f) (e : Event) :
    (record problemId contestId (es ++ [e])).ledger.issued =
      (record problemId contestId es).ledger.issued ++
        if endsSubmitting (es ++ [e]) then [post (typed problemId contestId (es ++ [e]))]
        else [] := by
  -- typing asks only where the resource asks by itself, which it does not
  have hbody : ∀ v, (record problemId contestId es).resource.asks (.setBody v) = false := by
    intro v
    rw [← h.job, Resource.asks, h.settings]
    exact Bool.and_false _
  rw [record_concat]
  cases e with
  | setLanguage language =>
    exact (Resource.Recorded.issued_step _ _).trans (by simp [hbody, endsSubmitting])
  | setSource source =>
    exact (Resource.Recorded.issued_step _ _).trans (by simp [hbody, endsSubmitting])
  | submit =>
    have hrequest : ((record problemId contestId es).resource.step .execute).request =
        post (typed problemId contestId (es ++ [.submit])) := by
      rw [typed_concat_of_eq_none rfl rfl, ← h.request_eq, h.job]
      rfl
    have hends : endsSubmitting (es ++ [.submit]) = true := by simp [endsSubmitting]
    rw [if_pos hends, ← hrequest]
    exact Resource.Recorded.issued_step _ _
  | answer ticket outcome =>
    exact (Resource.Recorded.issued_step _ _).trans (by simp [Resource.asks, endsSubmitting])
  | outside e => simp [onJob, Resource.Recorded.run, endsSubmitting]

end Kept

variable {problemId : Int64} {contestId : Option Int64}

theorem kept_start (first : Router) :
    Kept problemId contestId first [] (start problemId contestId first) :=
  ⟨rfl, rfl, rfl, rfl, rfl, rfl⟩

theorem kept_run {first : Router} (hfirst : first.Follows) (es : List Event) :
    Kept problemId contestId first es ((start problemId contestId first).run es) := by
  induction es using List.reverseRecOn with
  | nil => exact kept_start first
  | append_singleton es e ih =>
    rw [run, List.foldl_append]
    exact ih.step hfirst e

/-- Every request hands in what had been typed when it was issued. -/
theorem issued_record {first : Router} (hfirst : first.Follows) (es : List Event) :
    (record problemId contestId es).ledger.issued = (es.inits.filter endsSubmitting).map
      fun past => post (typed problemId contestId past) := by
  induction es using List.reverseRecOn with
  | nil => rfl
  | append_singleton es e ih =>
    rw [(kept_run hfirst es).issued_concat, ih, map_filter_inits_concat]

/-- **A form posts what is typed and opens what comes back.**  Every event that hands in sends one
request, and no other event sends any.  The request adds to the jobs, and its body reads as the
submission with the texts as they had been typed by then.  The history makes the moves from outside
and one more to the page of the job whenever the latest request, not answered before, is answered
with a job; no other answer and nothing that is typed moves it, and the router is where its history
is. -/
theorem posts_typed_and_opens_created (problemId : Int64) (contestId : Option Int64)
    (table : RouteTable) (history : History) (es : List Event) :
    let f := (start problemId contestId (.start table history true)).run es
    let a := record problemId contestId es
    f.submission = typed problemId contestId es ∧
      f.job = a.resource ∧
      a.ledger.issued = (es.inits.filter endsSubmitting).map
        (fun past => post (typed problemId contestId past)) ∧
      (∀ past, ∃ body, (post (typed problemId contestId past)).body = some body ∧
        Payload.decode Submission body = .ok (typed problemId contestId past)) ∧
      f.router.history =
        (moves problemId contestId [] es).foldl (fun h e => (h.step e).1) history ∧
      f.router.location = f.router.history.current := by
  intro f a
  have hfirst : (Router.start table history true).Follows := Router.follows_start table history
  have h : Kept problemId contestId (.start table history true) es f := kept_run hfirst es
  refine ⟨h.submission, h.job, issued_record hfirst es,
    fun past => ⟨_, rfl, Submission.decode_sortEntries _⟩, ?_, (h.follows hfirst).current⟩
  rw [h.router, Router.history_run, List.foldl_map]
  rfl

end SubmitForm

end JudgeClient
