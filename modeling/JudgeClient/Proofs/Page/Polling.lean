import JudgeClient.Page.Polling
import JudgeClient.Proofs.Fetch.Loading
import JudgeClient.Proofs.Fetch.Outcome

/-!
# When polling asks and when it stops

A polled job is a resource and a timer.  The timer asks only while nothing is awaited, and it stops
for good with the first answer that settles the matter.  An answer is applied in several changes,
and the timer is looked at after each of them, so it sees data and errors of different answers side
by side.  Such a pair never stops a timer that neither answer stops: what was there before had left
the timer running.

* `isRunning_stepJob_timely` : the changes of one answer stop the timer iff the answer concludes
  the polling;
* `Polled.step`, `Polled.run` : what ties the timer to the ledger of its resource, kept by every
  event;
* `step_eq_of_stopped` : a stopped timer and its resource do not move any more;
* `polls_until_concluded` : one request at a time, and none after the first conclusive answer.
-/

namespace JudgeClient

namespace Polling

/-! ### Conclusive answers -/

/-- The answer ends the polling: it carries a job that will not change any more, or it is an error
that asking again does not mend. -/
def Concludes (outcome : Outcome) : Prop :=
  (∃ response job, outcome = .ok response ∧ response.isSuccess = true ∧
      response.decode Job = .ok job ∧ (job.state = .finished ∨ job.state = .canceled)) ∨
    ∃ e, outcome.decode Job = .error e ∧
      (e.kind = .notFound ∨ e.kind = .invalidArgument ∨ e.kind = .malformedUrl)

theorem isFinal_iff {s : JobState} : s.isFinal = true ↔ s = .finished ∨ s = .canceled := by
  cases s <;> simp [JobState.isFinal]

theorem isPermanent_iff {k : ErrorKind} :
    k.isPermanent = true ↔ k = .notFound ∨ k = .invalidArgument ∨ k = .malformedUrl := by
  cases k <;> simp [ErrorKind.isPermanent]

theorem concludes_iff_of_ok {outcome : Outcome} {job : Job} (h : outcome.decode Job = .ok job) :
    Concludes outcome ↔ job.state.isFinal = true := by
  rw [isFinal_iff]
  constructor
  · rintro (⟨response, job', rfl, -, hd, hs⟩ | ⟨e, he, -⟩)
    · obtain rfl : job' = job := Except.ok.inj (hd.symm.trans h)
      exact hs
    · cases h.symm.trans he
  · intro hs
    obtain ⟨response, ho, hsuccess, hd⟩ := Outcome.decode_eq_ok_iff.1 h
    exact .inl ⟨response, job, ho, hsuccess, hd, hs⟩

theorem concludes_iff_of_error {outcome : Outcome} {e : Error}
    (h : outcome.decode Job = .error e) : Concludes outcome ↔ e.kind.isPermanent = true := by
  rw [isPermanent_iff]
  constructor
  · rintro (⟨response, job, rfl, -, hd, -⟩ | ⟨e', he, hk⟩)
    · cases h.symm.trans hd
    · obtain rfl : e' = e := Except.error.inj (he.symm.trans h)
      exact hk
  · exact fun hk => .inr ⟨e, h, hk⟩

/-! ### The changes of an event -/

theorem job_foldl_applyChange (p : Polling) (cs : List (Resource.Change Job)) :
    (cs.foldl applyChange p).job = p.job.applyAll cs := by
  induction cs generalizing p with
  | nil => rfl
  | cons c cs ih => exact ih (p.applyChange c)

/-- The resource of the job makes the step that it would make without a timer. -/
theorem job_stepJob (p : Polling) (e : Resource.Event) : (p.stepJob e).job = p.job.step e :=
  job_foldl_applyChange p _

/-- Nothing that is shown would stop the timer. -/
def IsCalm (p : Polling) : Prop := isDone p.job.data p.job.error = false

theorem isCalm_iff {p : Polling} : p.IsCalm ↔
    p.job.data.any (·.state.isFinal) = false ∧ p.job.error.any (·.kind.isPermanent) = false := by
  rw [IsCalm, isDone, Bool.or_eq_false_iff]

/-- The changes of the answer to the latest request stop the timer iff the answer is conclusive.
Each of the two signals is judged by itself, so the old one does no harm beside the new one. -/
theorem isRunning_completion {p : Polling} (h : p.IsCalm) (hr : p.isRunning = true) (url : String)
    (outcome : Outcome) :
    ((p.job.completion url outcome).foldl applyChange p).isRunning = true ↔
      ¬Concludes outcome := by
  obtain ⟨hdata, herror⟩ := isCalm_iff.1 h
  cases hd : outcome.decode Job with
  | ok job =>
    rw [Resource.completion_of_ok _ _ hd, concludes_iff_of_ok hd]
    simp [applyChange, Resource.apply, isDone, hr, hdata, herror]
  | error e =>
    rw [Resource.completion_of_error _ _ hd, concludes_iff_of_error hd]
    cases p.job.keepsData url e <;>
      simp [applyChange, Resource.apply, isDone, hr, hdata, herror]

theorem isRunning_stepJob_timely {p : Polling} (h : p.IsCalm) (hr : p.isRunning = true)
    {ticket : Nat} {request : Request} (hw : p.job.waitingRequest? ticket = some request)
    (ht : p.job.tickets.latest = ticket) (outcome : Outcome) :
    (p.stepJob (.answer ticket outcome)).isRunning = true ↔ ¬Concludes outcome := by
  have hc : p.job.changes (.answer ticket outcome) = .answered ticket ::
      (p.applyChange (.answered ticket)).job.completion request.url outcome := by
    simp only [Resource.changes, hw, Tickets.isCurrent_iff.2 ht, if_true]
    rfl
  -- the end of the waiting shows nothing new
  have hr' : (p.applyChange (.answered ticket)).isRunning = true := by
    have hdone : isDone p.job.data p.job.error = false := h
    simp [applyChange, Resource.apply, hr, hdone]
  rw [stepJob, hc, List.foldl_cons]
  exact isRunning_completion (p := p.applyChange (.answered ticket)) h hr' request.url outcome

/-- While the timer is running, nothing that is shown would stop it. -/
theorem isCalm_foldl_applyChange {p : Polling} (h : p.isRunning = true → p.IsCalm)
    (cs : List (Resource.Change Job)) :
    (cs.foldl applyChange p).isRunning = true → (cs.foldl applyChange p).IsCalm := by
  induction cs generalizing p with
  | nil => exact h
  | cons c cs ih =>
    refine ih fun hr => ?_
    -- each change looks at the timer itself
    simp only [applyChange, Bool.and_eq_true, Bool.not_eq_true'] at hr
    exact hr.2

/-! ### Runs -/

/-- The polling after some events. -/
def run (p : Polling) (es : List Event) : Polling := es.foldl step p

/-- What an event means to the resource of the job: a tick asks, if the timer is running and
nothing is awaited. -/
def onJob (p : Polling) : Event → List Resource.Event
  | .tick => if p.isRunning && !p.job.isLoading then [.execute] else []
  | .answer ticket outcome => [.answer ticket outcome]

/-- What some events mean to the resource of the job, one after the other. -/
def jobEvents (p : Polling) : List Event → List Resource.Event
  | [] => []
  | e :: es => p.onJob e ++ (p.step e).jobEvents es

/-- The resource of a polled job after some events, with its ledger. -/
def record (id : Int64) (es : List Event) : Resource.Recorded Job :=
  (Resource.Recorded.start {} (Endpoint.job id) .absent).run ((start id).jobEvents es)

theorem jobEvents_append (p : Polling) (es fs : List Event) :
    p.jobEvents (es ++ fs) = p.jobEvents es ++ (p.run es).jobEvents fs := by
  induction es generalizing p with
  | nil => rfl
  | cons e es ih =>
    rw [List.cons_append, jobEvents, jobEvents, ih, List.append_assoc]
    rfl

theorem record_append (id : Int64) (es fs : List Event) :
    record id (es ++ fs) = (record id es).run (((start id).run es).jobEvents fs) := by
  rw [record, record, jobEvents_append, Resource.Recorded.run, List.foldl_append]
  rfl

/-! ### The timer and the ledger -/

/-- What ties a timer to the resource that it polls: at most the latest request is waiting, and
nothing once the timer has stopped; the timer is running as long as no answer was conclusive. -/
structure Polled (request : Request) (p : Polling) (a : Resource.Recorded Job) : Prop where
  job : p.job = a.resource
  accounted : Resource.Accounted a
  loading : Resource.LoadingExact a.resource
  asks : a.resource.request = request
  issued : ∀ q ∈ a.ledger.issued, q = request
  single : a.resource.waitingTickets = [] ∨
    a.resource.waitingTickets = [a.resource.tickets.latest]
  calm : p.isRunning = true → p.IsCalm
  stopped : p.isRunning = false → a.resource.waitingTickets = []
  running : p.isRunning = true ↔ ∀ d ∈ a.ledger.delivered, ¬Concludes d.outcome

namespace Polled

variable {request : Request} {p : Polling} {a : Resource.Recorded Job}

theorem isLoading_eq_false_iff (h : Polled request p a) :
    p.job.isLoading = false ↔ a.resource.waitingTickets = [] := by
  have hl : p.job.isLoading = true ↔ a.resource.tickets.latest ∈ a.resource.waitingTickets := by
    rw [h.job]
    exact h.loading
  rw [← Bool.not_eq_true, hl]
  rcases h.single with hs | hs <;> simp [hs]

theorem step_tick_of_asks (h : Polled request p a)
    (hc : (p.isRunning && !p.job.isLoading) = true) :
    Polled request (p.step .tick) (a.step .execute) := by
  obtain ⟨hr, hl⟩ : p.isRunning = true ∧ p.job.isLoading = false := by simpa using hc
  have hnone : a.resource.waitingTickets = [] := h.isLoading_eq_false_iff.1 hl
  have hstep : p.step .tick = p.stepJob .execute := if_pos hc
  have hr' : (p.stepJob .execute).isRunning = true := by
    have hdone : isDone p.job.data p.job.error = false := h.calm hr
    simp [stepJob, Resource.changes, applyChange, Resource.apply, hr, hdone]
  have hmove := a.move_step .execute
  rw [hstep]
  refine ⟨?_, h.accounted.of_move hmove, Resource.loadingExact_of_move hmove h.loading, h.asks,
    fun q hq => ?_, .inr ?_, isCalm_foldl_applyChange h.calm _, fun hs => ?_, ?_⟩
  · rw [job_stepJob, h.job]
    rfl
  · rcases List.mem_append.1 hq with hq | hq
    · exact h.issued q hq
    · exact (List.mem_singleton.1 hq).trans h.asks
  · have ht := Resource.waitingTickets_issued a.resource a.resource.request
    rw [hnone] at ht
    exact ht
  · exact absurd hr' (by simp [hs])
  · exact iff_of_true hr' (h.running.1 hr)

theorem step_answer_of_waiting (h : Polled request p a) {ticket : Nat} {q : Request}
    (hw : a.resource.waitingRequest? ticket = some q) (outcome : Outcome) :
    Polled request (p.step (.answer ticket outcome)) (a.step (.answer ticket outcome)) := by
  have hmem : ticket ∈ a.resource.waitingTickets :=
    List.mem_map_of_mem (Resource.mem_waiting_of_waitingRequest? hw)
  have hsingle : a.resource.waitingTickets = [a.resource.tickets.latest] := by
    rcases h.single with hs | hs
    · rw [hs] at hmem
      cases hmem
    · exact hs
  have ht : a.resource.tickets.latest = ticket := by
    rw [hsingle] at hmem
    exact (List.mem_singleton.1 hmem).symm
  -- only a running timer has left a request behind
  have hr : p.isRunning = true := by
    cases hr : p.isRunning with
    | true => rfl
    | false =>
      rw [h.stopped hr] at hmem
      cases hmem
  have hdelivered : (a.step (.answer ticket outcome)).ledger =
      a.ledger.deliver ticket q outcome := by
    simp only [Resource.Recorded.step, Resource.Ledger.next, Resource.sentBy?_answer,
      Resource.Ledger.answered, hw, List.foldl_nil]
  have hnone : (a.resource.step (.answer ticket outcome)).waitingTickets = [] := by
    rw [Resource.waitingTickets_step_answer, hsingle, ht]
    simp
  have hmove := a.move_step (.answer ticket outcome)
  obtain ⟨s, hs, -⟩ := Resource.step_answer_eq a.resource ticket outcome
  refine ⟨?_, h.accounted.of_move hmove, Resource.loadingExact_of_move hmove h.loading, ?_,
    fun q hq => ?_, .inl hnone, isCalm_foldl_applyChange h.calm _, fun _ => hnone, ?_⟩
  · rw [step, job_stepJob, h.job]
    rfl
  · rw [← h.asks, Resource.Recorded.step, hs]
    rfl
  · rw [hdelivered] at hq
    exact h.issued q hq
  · have hconcludes := isRunning_stepJob_timely (h.calm hr) hr (h.job ▸ hw) (h.job ▸ ht) outcome
    have hold := h.running.1 hr
    rw [step, hconcludes, hdelivered]
    simp only [Resource.Ledger.deliver, List.mem_append, List.mem_singleton]
    constructor
    · rintro hn d (hd | rfl)
      · exact hold d hd
      · exact hn
    · exact fun hd => hd _ (.inr rfl)

/-- An answer to a request that is not waiting reaches neither the timer nor the ledger. -/
theorem step_answer_of_eq_none (h : Polled request p a) {ticket : Nat}
    (hw : a.resource.waitingRequest? ticket = none) (outcome : Outcome) :
    p.step (.answer ticket outcome) = p ∧ a.run (p.onJob (.answer ticket outcome)) = a := by
  constructor
  · rw [← h.job] at hw
    simp only [Polling.step, stepJob, Resource.changes, hw, List.foldl_nil]
  · simp only [onJob, Resource.Recorded.run, List.foldl_cons, List.foldl_nil,
      Resource.Recorded.step, Resource.Ledger.next, Resource.sentBy?_answer,
      Resource.Ledger.answered, hw, Resource.step_answer_of_eq_none hw]

theorem step (h : Polled request p a) (e : Event) :
    Polled request (p.step e) (a.run (p.onJob e)) := by
  cases e with
  | tick =>
    cases hc : p.isRunning && !p.job.isLoading with
    | true =>
      simp only [onJob, hc, if_true]
      exact h.step_tick_of_asks hc
    | false =>
      simp only [onJob, Polling.step, hc, Bool.false_eq_true, if_false]
      exact h
  | answer ticket outcome =>
    cases hw : a.resource.waitingRequest? ticket with
    | some q => exact h.step_answer_of_waiting hw outcome
    | none =>
      obtain ⟨hp, ha⟩ := h.step_answer_of_eq_none hw outcome
      rw [hp, ha]
      exact h

theorem run (h : Polled request p a) (es : List Event) :
    Polled request (p.run es) (a.run (p.jobEvents es)) := by
  induction es generalizing p a with
  | nil => exact h
  | cons e es ih =>
    rw [jobEvents, Resource.Recorded.run, List.foldl_append]
    exact ih (h.step e)

/-- A timer that has stopped does not move any more, and neither does what it polled. -/
theorem step_eq_of_stopped (h : Polled request p a) (hs : p.isRunning = false) (e : Event) :
    p.step e = p ∧ a.run (p.onJob e) = a := by
  cases e with
  | tick => simp [Polling.step, onJob, hs, Resource.Recorded.run]
  | answer ticket outcome =>
    have hw : a.resource.waitingRequest? ticket = none := by
      rw [Resource.waitingRequest?_eq_none_iff, h.stopped hs]
      exact List.not_mem_nil
    exact h.step_answer_of_eq_none hw outcome

theorem run_eq_of_stopped (h : Polled request p a) (hs : p.isRunning = false) (es : List Event) :
    p.run es = p ∧ a.run (p.jobEvents es) = a := by
  induction es with
  | nil => exact ⟨rfl, rfl⟩
  | cons e es ih =>
    obtain ⟨hp, ha⟩ := h.step_eq_of_stopped hs e
    constructor
    · rw [Polling.run, List.foldl_cons, hp]
      exact ih.1
    · rw [jobEvents, Resource.Recorded.run, List.foldl_append, hp]
      exact (congrArg (Resource.Recorded.run · (p.jobEvents es)) ha).trans ih.2

end Polled

/-- The request that a polled job is asked for with. -/
def request (id : Int64) : Request := .forPath ("/jobs/" ++ toString id.toInt)

theorem path_eq (id : Int64) : Endpoint.job id = "/jobs/" ++ toString id.toInt := by
  have hslash : Endpoint.jobs ++ "/" = "/jobs/" := rfl
  rw [Endpoint.job, Endpoint.member, hslash]

theorem polled_start (id : Int64) : Polled (request id) (start id) (record id []) := by
  have hq : (record id []).resource.request = request id := by
    rw [request, ← path_eq]
    rfl
  refine ⟨rfl, Resource.Recorded.accounted_run .., ?_, hq, fun q hm => ?_, .inr rfl, fun _ => rfl,
    fun hs => Bool.noConfusion hs, ?_⟩
  · exact Resource.Recorded.isLoading_run_iff {} (Endpoint.job id) .absent []
  · exact (List.mem_singleton.1 hm).trans hq
  · exact iff_of_true rfl fun d hd => absurd hd List.not_mem_nil

theorem polled_run (id : Int64) (es : List Event) :
    Polled (request id) ((start id).run es) (record id es) :=
  (polled_start id).run es

/-- The kinds of errors after which a job is asked for again. -/
def retried : List ErrorKind :=
  [.network, .rateLimit, .internal, .invalidState, .browser, .invalidResponse]

theorem not_concludes_of_retried {outcome : Outcome} {e : Error}
    (h : outcome.decode Job = .error e) (hk : e.kind ∈ retried) : ¬Concludes outcome := by
  have hall : ∀ k ∈ retried, k.isPermanent = false := by decide
  rw [concludes_iff_of_error h, hall e.kind hk]
  exact Bool.false_ne_true

/-- **A job is polled until an answer concludes it.**  After every run at most one request is
waiting, and every request is for the job.  A tick asks iff the timer is running and nothing is
waiting, and nothing else asks.  The timer is running iff no answer so far was conclusive; hence
failures that may pass do not stop it, and once it has stopped nothing is waiting, it never runs
again and nothing is asked for any more. -/
theorem polls_until_concluded (id : Int64) (es : List Event) :
    let p := (start id).run es
    let a := record id es
    p.job = a.resource ∧
      p.job.waiting.length ≤ 1 ∧
      (∀ q ∈ a.ledger.issued,
        q = ⟨.get, Config.apiUrl ("/jobs/" ++ toString id.toInt), [], none⟩) ∧
      (record id (es ++ [.tick])).ledger.issued = a.ledger.issued ++
        (if p.isRunning = true ∧ p.job.waiting = [] then [request id] else []) ∧
      (∀ ticket outcome,
        (record id (es ++ [.answer ticket outcome])).ledger.issued = a.ledger.issued) ∧
      (p.isRunning = true ↔ ∀ d ∈ a.ledger.delivered, ¬Concludes d.outcome) ∧
      (p.isRunning = false → p.job.waiting = [] ∧ ∀ fs,
        ((start id).run (es ++ fs)).isRunning = false ∧
          (record id (es ++ fs)).ledger.issued = a.ledger.issued) ∧
      ((∀ d ∈ a.ledger.delivered, ∃ e, d.outcome.decode Job = .error e ∧ e.kind ∈ retried) →
        p.isRunning = true) := by
  intro p a
  have h : Polled (request id) p a := polled_run id es
  have hwaiting : p.job.waiting = [] ↔ a.resource.waitingTickets = [] := by
    rw [h.job]
    exact List.map_eq_nil_iff.symm
  refine ⟨h.job, ?_, h.issued, ?_, fun ticket outcome => ?_, h.running, fun hs => ?_,
    fun hd => h.running.2 fun d hm => ?_⟩
  · have hlen : p.job.waiting.length = a.resource.waitingTickets.length := by
      rw [h.job]
      exact (List.length_map _).symm
    rcases h.single with hw | hw <;> simp [hlen, hw]
  · rw [record_append]
    cases hc : p.isRunning && !p.job.isLoading with
    | true =>
      obtain ⟨hr, hl⟩ : p.isRunning = true ∧ p.job.isLoading = false := by simpa using hc
      have hasks : p.isRunning = true ∧ p.job.waiting = [] :=
        ⟨hr, hwaiting.2 (h.isLoading_eq_false_iff.1 hl)⟩
      have hev : p.jobEvents [.tick] = [.execute] := by simp [jobEvents, onJob, hr, hl]
      rw [hev, if_pos hasks, ← h.asks]
      rfl
    | false =>
      have hasks : ¬(p.isRunning = true ∧ p.job.waiting = []) := by
        rintro ⟨hr, hw⟩
        rw [hr, h.isLoading_eq_false_iff.2 (hwaiting.1 hw)] at hc
        cases hc
      have hev : p.jobEvents [.tick] = [] := by simp [jobEvents, onJob, hc]
      rw [hev, if_neg hasks, List.append_nil]
      rfl
  · rw [record_append]
    have hev : p.jobEvents [.answer ticket outcome] = [.answer ticket outcome] := rfl
    rw [hev]
    simp only [Resource.Recorded.run, List.foldl_cons, List.foldl_nil, Resource.Recorded.step,
      Resource.Ledger.next, Resource.sentBy?_answer, Resource.Ledger.answered]
    cases a.resource.waitingRequest? ticket <;> rfl
  · refine ⟨hwaiting.2 (h.stopped hs), fun fs => ?_⟩
    obtain ⟨hp, ha⟩ := h.run_eq_of_stopped hs fs
    have hrun : (start id).run (es ++ fs) = p.run fs := by simp [p, run]
    rw [hrun, record_append, hp, ha]
    exact ⟨hs, rfl⟩
  · obtain ⟨e, he, hk⟩ := hd d hm
    exact not_concludes_of_retried he hk

/-- A refusal that asking again does not mend stops the timer, and a lost connection does not. -/
theorem polls_until_concluded_of_refusal :
    let refused : List Event := [.answer 1 (.ok ⟨404, ""⟩)]
    let lost : List Event := [.answer 1 (.error ⟨.network, "reset"⟩), .tick]
    (((start 5).run refused).isRunning = false ∧
        (record 5 (refused ++ [.tick])).ledger.issued = (record 5 refused).ledger.issued) ∧
      (∀ d ∈ (record 5 lost).ledger.delivered,
        ∃ e, d.outcome.decode Job = .error e ∧ e.kind ∈ retried) ∧
      ((start 5).run lost).isRunning = true := by
  intro refused lost
  have hs : ((start 5).run refused).isRunning = false := rfl
  have hlost : ∀ d ∈ (record 5 lost).ledger.delivered,
      ∃ e, d.outcome.decode Job = .error e ∧ e.kind ∈ retried := by
    intro d hd
    obtain rfl : d = ⟨1, request 5, .error ⟨.network, "reset"⟩, true⟩ := List.mem_singleton.1 hd
    exact ⟨_, rfl, by decide⟩
  obtain ⟨-, -, -, -, -, -, hstop, -⟩ := polls_until_concluded 5 refused
  obtain ⟨-, -, -, -, -, -, -, hretry⟩ := polls_until_concluded 5 lost
  exact ⟨⟨hs, ((hstop hs).2 [.tick]).2⟩, hlost, hretry hlost⟩

end Polling

end JudgeClient
