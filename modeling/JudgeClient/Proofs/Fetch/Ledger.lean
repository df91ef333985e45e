import JudgeClient.Proofs.Fetch.Step

/-!
# The ledger of a resource

A resource remembers what it needs to go on and forgets the rest.  A `Ledger` keeps what passed
between the resource and the API: every request in the order of issue, and every answer in the
order of arrival.  Which request is the latest, and whether an answer came in time, is read off the
ledger without looking at tickets, so that it can be compared with what the resource makes of its
tickets.

* `Recorded.move_step` : every event is one of four moves;
* `Recorded.invariant` : what holds of an idle resource and is kept by the moves holds after every
  run;
* `Recorded.accounted_run` : after every run the tickets of the resource agree with its ledger;
* `Recorded.isCurrent_run_word` : words of 64 bits would do for the tickets.
-/

namespace JudgeClient

namespace Resource

variable {α : Type}

/-! ### Ledgers -/

/-- An answer that reached a waiting request. -/
structure Delivery where
  /-- The place of the request in the order of issue, counted from one. -/
  number : Nat
  request : Request
  outcome : Outcome
  /-- No other request had been issued since. -/
  isTimely : Bool

/-- What passed between a resource and the API. -/
structure Ledger where
  /-- The requests in the order of issue. -/
  issued : List Request := []
  /-- The answers in the order of arrival. -/
  delivered : List Delivery := []

namespace Ledger

/-- The request with a place in the order of issue. -/
def request? (l : Ledger) : Nat → Option Request
  | 0 => none
  | n + 1 => l.issued[n]?

/-- The ledger with one more request. -/
def issue (l : Ledger) (request : Request) : Ledger := { l with issued := l.issued ++ [request] }

/-- The ledger with one more answer. -/
def deliver (l : Ledger) (number : Nat) (request : Request) (outcome : Outcome) : Ledger :=
  { l with
    delivered := l.delivered ++ [⟨number, request, outcome, number == l.issued.length⟩] }

/-- The ledger with the answer that an event brings, if it reaches a waiting request. -/
def answered (l : Ledger) (r : Resource α) : Event → Ledger
  | .answer number outcome =>
    match r.waitingRequest? number with
    | none => l
    | some request => l.deliver number request outcome
  | _ => l

/-- The ledger after an event. -/
def next [Payload α] (l : Ledger) (r : Resource α) (e : Event) : Ledger :=
  ((r.changes e).filterMap Deferred.sentBy?).foldl issue (l.answered r e)

end Ledger

/-- A resource with the ledger of what happened to it. -/
structure Recorded (α : Type) where
  resource : Resource α
  ledger : Ledger

namespace Recorded

/-- A resource that has not asked for anything. -/
def idle (settings : FetchSettings) (path : String) (body : RequestBody) : Recorded α :=
  ⟨{ settings := settings, path := path, body := body }, {}⟩

/-- A new resource; what it asks for at once is in its ledger. -/
def start (settings : FetchSettings) (path : String) (body : RequestBody) : Recorded α :=
  let r : Resource α := .start settings path body
  ⟨r, r.requests, []⟩

variable [Payload α]

/-- The resource and its ledger after an event. -/
def step (a : Recorded α) (e : Event) : Recorded α :=
  ⟨a.resource.step e, a.ledger.next a.resource e⟩

/-- The resource and its ledger after some events. -/
def run (a : Recorded α) (es : List Event) : Recorded α := es.foldl step a

@[simp] theorem run_cons (a : Recorded α) (e : Event) (es : List Event) :
    a.run (e :: es) = (a.step e).run es := rfl

@[simp] theorem resource_run (a : Recorded α) (es : List Event) :
    (a.run es).resource = a.resource.run es := by
  induction es generalizing a with
  | nil => rfl
  | cons e es ih => exact ih (a.step e)

theorem run_induction {P : Recorded α → Prop} (hs : ∀ a e, P a → P (a.step e)) {a : Recorded α}
    (h : P a) (es : List Event) : P (a.run es) := by
  induction es generalizing a with
  | nil => exact h
  | cons e es ih => exact ih (hs a e h)

/-- What an event may do to a recorded resource. -/
inductive Move (a : Recorded α) : Event → Recorded α → Prop
  /-- Nothing is sent, and no waiting request is answered. -/
  | quiet {e : Event} (path : String) (body : RequestBody)
      (hpath : a.resource.settings.refetch = true → path = a.resource.path) :
      Move a e ⟨{ a.resource with path := path, body := body }, a.ledger⟩
  /-- The resource asks from where it is now. -/
  | asked {e : Event} (path : String) (body : RequestBody) {r : Resource α}
      (hr : r = { a.resource with path := path, body := body }) :
      Move a e ⟨r.apply (.issued r.request), a.ledger.issue r.request⟩
  /-- A request is answered that is not the latest one. -/
  | outdated {ticket : Nat} {outcome : Outcome} {request : Request}
      (hw : a.resource.waitingRequest? ticket = some request)
      (ht : a.resource.tickets.latest ≠ ticket) :
      Move a (.answer ticket outcome)
        ⟨a.resource.apply (.answered ticket), a.ledger.deliver ticket request outcome⟩
  /-- The latest request is answered. -/
  | timely {ticket : Nat} {outcome : Outcome} {request : Request}
      (hw : a.resource.waitingRequest? ticket = some request)
      (ht : a.resource.tickets.latest = ticket) :
      Move a (.answer ticket outcome)
        ⟨(a.resource.apply (.answered ticket)).withShown
            (a.resource.toShown.settle request.url outcome),
          a.ledger.deliver ticket request outcome⟩

theorem move_of_not_isAnswer (a : Recorded α) {e : Event} (h : e.isAnswer = false) :
    Move a e (a.step e) := by
  have hl : a.ledger.answered a.resource e = a.ledger := by
    cases e <;> first | rfl | cases h
  -- a resource that asks by itself is not moved without asking
  obtain ⟨path, body, hm, hpath⟩ : ∃ path body,
      a.resource.moved e = { a.resource with path := path, body := body } ∧
      (a.resource.asks e = false → a.resource.settings.refetch = true →
        path = a.resource.path) := by
    cases e with
    | setPath path => exact ⟨path, _, rfl, fun h h' => by simp [asks, h'] at h⟩
    | setBody body => exact ⟨_, _, rfl, fun _ _ => rfl⟩
    | setBoth path body => exact ⟨path, _, rfl, fun h h' => by simp [asks, h'] at h⟩
    | execute | answer => exact ⟨_, _, rfl, fun _ _ => rfl⟩
  rw [step, step_of_not_isAnswer a.resource h, Ledger.next, sentBy?_changes a.resource h, hl]
  cases ha : a.resource.asks e with
  | false =>
    simp only [hm]
    exact .quiet path body (hpath ha)
  | true => exact .asked path body hm

theorem move_answer (a : Recorded α) (ticket : Nat) (outcome : Outcome) :
    Move a (.answer ticket outcome) (a.step (.answer ticket outcome)) := by
  rw [step, Ledger.next, sentBy?_answer, Ledger.answered]
  cases hw : a.resource.waitingRequest? ticket with
  | none =>
    rw [step_answer_of_eq_none hw]
    exact .quiet a.resource.path a.resource.body fun _ => rfl
  | some request =>
    by_cases ht : a.resource.tickets.latest = ticket
    · rw [step_answer_of_latest_eq hw ht]
      exact .timely hw ht
    · rw [step_answer_of_latest_ne hw ht]
      exact .outdated hw ht

/-- **Every event is one of four moves.** -/
theorem move_step (a : Recorded α) (e : Event) : Move a e (a.step e) := by
  cases h : e.isAnswer with
  | false => exact move_of_not_isAnswer a h
  | true =>
    cases e with
    | setPath | setBody | setBoth | execute => cases h
    | answer ticket outcome => exact move_answer a ticket outcome

end Recorded

/-! ### Tickets and the ledger -/

namespace Ledger

theorem request?_issue_of_eq_some {l : Ledger} {n : Nat} {q : Request} (h : l.request? n = some q)
    (q' : Request) : (l.issue q').request? n = some q := by
  cases n with
  | zero => cases h
  | succ n =>
    have hn : n < l.issued.length := (List.getElem?_eq_some_iff.1 h).1
    simpa only [request?, issue, List.getElem?_append_left hn] using h

theorem request?_issue_length (l : Ledger) (q : Request) :
    (l.issue q).request? (l.issued.length + 1) = some q := by
  simp [request?, issue]

theorem bounds_of_request?_eq_some {l : Ledger} {n : Nat} {q : Request}
    (h : l.request? n = some q) : 1 ≤ n ∧ n ≤ l.issued.length := by
  cases n with
  | zero => cases h
  | succ n => exact ⟨by omega, (List.getElem?_eq_some_iff.1 h).1⟩

end Ledger

/-- The tickets of a resource agree with its ledger: they count the requests in the order of
issue, and a request is waiting until it is answered. -/
structure Accounted (a : Recorded α) : Prop where
  latest : a.resource.tickets.latest = a.ledger.issued.length
  sorted : a.resource.waitingTickets.Pairwise (· < ·)
  request : ∀ w ∈ a.resource.waiting, a.ledger.request? w.ticket = some w.request
  delivered : ∀ d ∈ a.ledger.delivered, a.ledger.request? d.number = some d.request
  waits : ∀ n, n ∈ a.resource.waitingTickets ↔
    (1 ≤ n ∧ n ≤ a.ledger.issued.length) ∧ ∀ d ∈ a.ledger.delivered, d.number ≠ n

namespace Accounted

variable {a : Recorded α}

theorem le_latest (h : Accounted a) {n : Nat} (hn : n ∈ a.resource.waitingTickets) :
    n ≤ a.resource.tickets.latest := by
  rw [h.latest]
  exact ((h.waits n).1 hn).1.2

theorem issued (h : Accounted a) {r : Resource α} (path : String) (body : RequestBody)
    (hr : r = { a.resource with path := path, body := body }) :
    Accounted ⟨r.apply (.issued r.request), a.ledger.issue r.request⟩ := by
  have hw : r.waitingTickets = a.resource.waitingTickets := by rw [hr]; rfl
  have hl : r.tickets.latest = a.ledger.issued.length := by rw [hr]; exact h.latest
  refine ⟨?_, ?_, ?_, ?_, ?_⟩
  · simp [apply, Ledger.issue, hl]
  · rw [waitingTickets_issued, hw, hl, List.pairwise_append]
    refine ⟨h.sorted, List.pairwise_singleton .., fun n hn m hm => ?_⟩
    have := ((h.waits n).1 hn).1.2
    simp only [List.mem_singleton] at hm
    omega
  · intro w hm
    rcases List.mem_append.1 hm with hm | hm
    · rw [hr] at hm
      exact Ledger.request?_issue_of_eq_some (h.request w hm) _
    · obtain rfl := List.mem_singleton.1 hm
      simp only [Tickets.latest_issue, hl]
      exact Ledger.request?_issue_length ..
  · exact fun d hd => Ledger.request?_issue_of_eq_some (h.delivered d hd) _
  · intro n
    -- every answer so far belongs to a request that was issued before
    have hfresh : ∀ d ∈ a.ledger.delivered, d.number ≠ a.ledger.issued.length + 1 := by
      intro d hd
      have := (Ledger.bounds_of_request?_eq_some (h.delivered d hd)).2
      omega
    rw [waitingTickets_issued, hw, hl, List.mem_append, h.waits n, List.mem_singleton]
    simp only [Ledger.issue, List.length_append, List.length_singleton]
    constructor
    · rintro (⟨hb, hd⟩ | rfl)
      · exact ⟨by omega, hd⟩
      · exact ⟨by omega, hfresh⟩
    · rintro ⟨hb, hd⟩
      by_cases hn : n = a.ledger.issued.length + 1
      · exact .inr hn
      · exact .inl ⟨by omega, hd⟩

theorem answered (h : Accounted a) {ticket : Nat} {request : Request} (outcome : Outcome)
    (hw : a.resource.waitingRequest? ticket = some request) (s : Shown α) :
    Accounted ⟨(a.resource.apply (.answered ticket)).withShown s,
      a.ledger.deliver ticket request outcome⟩ := by
  have hwt : ((a.resource.apply (.answered ticket)).withShown s).waitingTickets =
      a.resource.waitingTickets.filter (· != ticket) := waitingTickets_answered a.resource ticket
  refine ⟨h.latest, ?_, ?_, ?_, ?_⟩
  · rw [hwt]
    exact h.sorted.filter _
  · exact fun w hm => h.request w ((List.mem_filter.1 hm).1)
  · intro d hd
    rcases List.mem_append.1 hd with hd | hd
    · exact h.delivered d hd
    · obtain rfl := List.mem_singleton.1 hd
      exact h.request _ (mem_waiting_of_waitingRequest? hw)
  · intro n
    rw [hwt, List.mem_filter, h.waits n]
    simp only [Ledger.deliver, List.mem_append, List.mem_singleton, bne_iff_ne, ne_eq]
    constructor
    · rintro ⟨⟨hb, hd⟩, hn⟩
      refine ⟨hb, ?_⟩
      rintro d (hm | rfl)
      · exact hd d hm
      · exact fun he => hn he.symm
    · rintro ⟨hb, hd⟩
      exact ⟨⟨hb, fun d hm => hd d (.inl hm)⟩, fun he => hd _ (.inr rfl) he.symm⟩

theorem of_move [Payload α] {b : Recorded α} {e : Event} (h : Accounted a)
    (hm : Recorded.Move a e b) : Accounted b := by
  cases hm with
  | quiet path body => exact ⟨h.latest, h.sorted, h.request, h.delivered, h.waits⟩
  | asked path body hr => exact h.issued path body hr
  | outdated hw => exact h.answered _ hw a.resource.toShown
  | timely hw => exact h.answered _ hw _

theorem idle (settings : FetchSettings) (path : String) (body : RequestBody) :
    Accounted (.idle settings path body : Recorded α) where
  latest := rfl
  sorted := .nil
  request := by simp [Recorded.idle]
  delivered := by simp [Recorded.idle]
  waits n := by simp [Recorded.idle, waitingTickets]; omega

end Accounted

namespace Recorded

variable [Payload α]

theorem start_eq (settings : FetchSettings) (path : String) (body : RequestBody) :
    (start settings path body : Recorded α) =
      if settings.immediate then (idle settings path body).step .execute
      else idle settings path body := by
  unfold start Resource.start
  cases settings.immediate <;> rfl

/-- Every predicate that holds of an idle resource and is kept by every move holds after every
run. -/
theorem invariant {P : Recorded α → Prop} {settings : FetchSettings} {path : String}
    {body : RequestBody} (h : P (idle settings path body))
    (hm : ∀ {a e b}, Accounted a → Move a e b → P a → P b) (es : List Event) :
    P ((start settings path body).run es) := by
  -- the accounts are carried along, as a move is understood only with them
  have hs : ∀ a e, Accounted a ∧ P a → Accounted (a.step e) ∧ P (a.step e) := by
    rintro a e ⟨ha, hp⟩
    have hstep := move_step a e
    exact ⟨ha.of_move hstep, hm ha hstep hp⟩
  have h₀ : Accounted (idle settings path body : Recorded α) ∧ P (idle settings path body) :=
    ⟨Accounted.idle settings path body, h⟩
  rw [start_eq]
  cases settings.immediate with
  | false => exact (run_induction hs h₀ es).2
  | true => exact (run_induction hs (hs _ .execute h₀) es).2

theorem accounted_run (settings : FetchSettings) (path : String) (body : RequestBody)
    (es : List Event) : Accounted ((start settings path body : Recorded α).run es) :=
  invariant (Accounted.idle settings path body) (fun _ hm ha => ha.of_move hm) es

/-- In a run with fewer requests than there are words of 64 bits, a waiting request is the latest one
iff the word of its ticket is the word of the latest ticket. -/
theorem isCurrent_run_word (settings : FetchSettings) (path : String) (body : RequestBody)
    (es : List Event) :
    let a := (start settings path body : Recorded α).run es
    a.ledger.issued.length < UInt64.size → ∀ n ∈ a.resource.waitingTickets,
      (UInt64.ofNat a.resource.tickets.latest == UInt64.ofNat n) =
        a.resource.tickets.isCurrent n := by
  intro a hlt n hn
  have ha : Accounted a := accounted_run settings path body es
  exact Tickets.isCurrent_word (ha.latest ▸ hlt) (ha.le_latest hn)

theorem settings_run (settings : FetchSettings) (path : String) (body : RequestBody)
    (es : List Event) :
    ((start settings path body : Recorded α).run es).resource.settings = settings := by
  rw [resource_run, Resource.settings_run]
  exact settings_start settings path body

end Recorded

end Resource

end JudgeClient
