import JudgeClient.Fetch.Exchange

/-!
# One event of a resource

What an event does to a resource is defined as a list of changes.  This file puts the effect of a
whole event in closed form, so that nothing else has to look into the changes:

* `Resource.applyAll_completion` : the changes of an answer to the latest request amount to
  `Shown.settle`;
* `Resource.step_answer_of_eq_none`, `Resource.step_answer_of_latest_ne`,
  `Resource.step_answer_of_latest_eq` : an answer does nothing, ends the waiting of an outdated
  request, or settles what is shown;
* `Resource.step_answer_eq` : whichever it is, the request is gone and nothing else has moved;
* `Resource.step_of_not_isAnswer` : any other event moves the resource, and then it asks or not;
* `Resource.exists_step_eq` : an event leaves path and body as it sets them;
* `Resource.sentBy?_changes`, `Resource.sentBy?_answer` : what an event sends.

`Resource.waitingTickets` is the view of the waiting requests in which tickets are compared, and
`Request.forPath` the one request of a new resource.
-/

namespace JudgeClient

/-! ### What an answer settles -/

/-- What is shown after the answer to the latest request, which asked for the URL. -/
def Shown.settle {α : Type} [Payload α] (s : Shown α) (url : String) (outcome : Outcome) :
    Shown α :=
  match outcome.decode α with
  | .ok data => ⟨some data, some url, none, false, outcome.status?⟩
  | .error e =>
    if e.kind == .network && s.dataUrl == some url then
      { s with error := some e, isLoading := false, status := outcome.status? }
    else ⟨none, none, some e, false, outcome.status?⟩

namespace Shown

variable {α : Type} [Payload α] {s : Shown α} {url : String} {outcome : Outcome}

theorem settle_of_ok {data : α} (h : outcome.decode α = .ok data) :
    s.settle url outcome = ⟨some data, some url, none, false, outcome.status?⟩ := by
  rw [settle, h]

theorem settle_of_kept {e : Error} (h : outcome.decode α = .error e)
    (hk : (e.kind == .network && s.dataUrl == some url) = true) : s.settle url outcome =
      ⟨s.data, s.dataUrl, some e, false, outcome.status?⟩ := by
  rw [settle, h]
  exact if_pos hk

theorem settle_of_lost {e : Error} (h : outcome.decode α = .error e)
    (hk : (e.kind == .network && s.dataUrl == some url) = false) : s.settle url outcome =
      ⟨none, none, some e, false, outcome.status?⟩ := by
  rw [settle, h]
  exact if_neg (by simp [hk])

/-- Data and its URL come and go together. -/
theorem isSome_data_settle (h : s.data.isSome = s.dataUrl.isSome) :
    (s.settle url outcome).data.isSome = (s.settle url outcome).dataUrl.isSome := by
  cases hd : outcome.decode α with
  | ok data => rw [settle_of_ok hd]; rfl
  | error e =>
    cases hk : e.kind == .network && s.dataUrl == some url with
    | true => rw [settle_of_kept hd hk]; exact h
    | false => rw [settle_of_lost hd hk]; rfl

end Shown

/-- The request of a resource that has no settings of its own and sends no body. -/
def Request.forPath (path : String) : Request := ⟨.get, Config.apiUrl path, [], none⟩

namespace Resource

variable {α : Type}

/-- The resource with something else to show. -/
def withShown (r : Resource α) (s : Shown α) : Resource α := { r with toShown := s }

theorem completion_of_ok [Payload α] (r : Resource α) (url : String) {outcome : Outcome} {data : α}
    (h : outcome.decode α = .ok data) : r.completion url outcome =
      [.statusSet outcome.status?, .dataSet url data, .errorSet none, .finished] := by
  simp [completion, h]

theorem completion_of_error [Payload α] (r : Resource α) (url : String) {outcome : Outcome}
    {e : Error} (h : outcome.decode α = .error e) : r.completion url outcome =
      if r.keepsData url e then [.statusSet outcome.status?, .errorSet (some e), .finished]
      else [.statusSet outcome.status?, .dataCleared, .errorSet (some e), .finished] := by
  simp only [completion, h]
  split <;> rfl

theorem applyAll_completion [Payload α] (r : Resource α) (url : String) (outcome : Outcome) :
    r.applyAll (r.completion url outcome) = r.withShown (r.toShown.settle url outcome) := by
  cases h : outcome.decode α with
  | ok data =>
    rw [completion_of_ok r url h, Shown.settle_of_ok h]
    rfl
  | error e =>
    rw [completion_of_error r url h]
    cases hk : r.keepsData url e with
    | true => rw [Shown.settle_of_kept h hk]; rfl
    | false => rw [Shown.settle_of_lost h hk]; rfl

section Answer

variable [Payload α] {r : Resource α} {ticket : Nat} {request : Request}

theorem step_answer_of_eq_none (h : r.waitingRequest? ticket = none) (outcome : Outcome) :
    r.step (.answer ticket outcome) = r := by
  simp only [step, changes, h, applyAll_nil]

theorem step_answer_of_latest_ne (h : r.waitingRequest? ticket = some request)
    (ht : r.tickets.latest ≠ ticket) (outcome : Outcome) :
    r.step (.answer ticket outcome) = r.apply (.answered ticket) := by
  simp only [step, changes, h, Tickets.isCurrent_iff, ht, if_false, applyAll_cons, applyAll_nil]

theorem step_answer_of_latest_eq (h : r.waitingRequest? ticket = some request)
    (ht : r.tickets.latest = ticket) (outcome : Outcome) : r.step (.answer ticket outcome) =
      (r.apply (.answered ticket)).withShown (r.toShown.settle request.url outcome) := by
  simp only [step, changes, h, Tickets.isCurrent_iff, ht, if_true, applyAll_cons]
  exact applyAll_completion (r.apply (.answered ticket)) request.url outcome

end Answer

theorem sentBy?_completion [Payload α] (r : Resource α) (url : String) (outcome : Outcome) :
    (r.completion url outcome).filterMap Deferred.sentBy? = [] := by
  cases h : outcome.decode α with
  | ok data => rw [completion_of_ok r url h]; rfl
  | error e => rw [completion_of_error r url h]; cases r.keepsData url e <;> rfl

theorem sentBy?_answer [Payload α] (r : Resource α) (ticket : Nat) (outcome : Outcome) :
    (r.changes (.answer ticket outcome)).filterMap Deferred.sentBy? = [] := by
  simp only [changes]
  cases r.waitingRequest? ticket with
  | none => rfl
  | some request =>
    cases r.tickets.isCurrent ticket with
    | false => rfl
    | true => exact sentBy?_completion r request.url outcome

/-! ### Events that are no answers -/

/-- The resource with its new path and body, if the event sets them. -/
def moved (r : Resource α) : Event → Resource α
  | .setPath path => { r with path := path }
  | .setBody body => { r with body := r.body.set body }
  | .setBoth path body => { r with path := path, body := r.body.set body }
  | .execute | .answer _ _ => r

/-- The event makes the resource ask. -/
def asks (r : Resource α) : Event → Bool
  | .setPath _ | .setBoth _ _ => r.settings.refetch
  | .setBody _ => r.body.isLive && r.settings.refetch
  | .execute => true
  | .answer _ _ => false

/-- The event is an answer. -/
def Event.isAnswer : Event → Bool
  | .answer _ _ => true
  | _ => false

theorem set_of_isLive_eq_false {b : RequestBody} (h : b.isLive = false) (v : Json) :
    b.set v = b := by
  cases b with
  | live => cases h
  | absent | fixed => rfl

theorem applyAll_refetch (r : Resource α) :
    r.applyAll r.refetch = if r.settings.refetch then r.apply (.issued r.request) else r := by
  unfold refetch
  cases r.settings.refetch <;> rfl

theorem sentBy?_refetch (r : Resource α) :
    r.refetch.filterMap Deferred.sentBy? = if r.settings.refetch then [r.request] else [] := by
  unfold refetch
  cases r.settings.refetch <;> rfl

theorem step_of_not_isAnswer [Payload α] (r : Resource α) {e : Event} (h : e.isAnswer = false) :
    r.step e =
      if r.asks e then (r.moved e).apply (.issued (r.moved e).request) else r.moved e := by
  cases e with
  | setPath path => exact applyAll_refetch (r.apply (.pathSet path))
  | setBody body =>
    cases hb : r.body.isLive with
    | true =>
      simp only [step, changes, asks, hb, if_true, Bool.true_and]
      exact applyAll_refetch (r.apply (.bodySet body))
    | false => simp [step, changes, asks, moved, hb, set_of_isLive_eq_false hb]
  | setBoth path body => exact applyAll_refetch (r.applyAll [.pathSet path, .bodySet body])
  | execute => rfl
  | answer => cases h

theorem sentBy?_changes [Payload α] (r : Resource α) {e : Event} (h : e.isAnswer = false) :
    (r.changes e).filterMap Deferred.sentBy? = if r.asks e then [(r.moved e).request] else [] := by
  cases e with
  | setPath path => exact sentBy?_refetch (r.apply (.pathSet path))
  | setBody body =>
    cases hb : r.body.isLive with
    | true =>
      simp only [changes, asks, hb, if_true, Bool.true_and]
      exact sentBy?_refetch (r.apply (.bodySet body))
    | false => simp [changes, asks, hb]
  | setBoth path body => exact sentBy?_refetch (r.applyAll [.pathSet path, .bodySet body])
  | execute => rfl
  | answer => cases h

/-! ### Waiting requests -/

/-- The tickets of the waiting requests, oldest first. -/
def waitingTickets (r : Resource α) : List Nat := r.waiting.map (·.ticket)

theorem waitingTickets_issued (r : Resource α) (request : Request) :
    (r.apply (.issued request)).waitingTickets = r.waitingTickets ++ [r.tickets.latest + 1] := by
  simp [waitingTickets, apply]

theorem waitingTickets_answered (r : Resource α) (ticket : Nat) :
    (r.apply (.answered ticket)).waitingTickets = r.waitingTickets.filter (· != ticket) := by
  simp [waitingTickets, apply, List.filter_map, Function.comp_def]

theorem mem_waiting_of_waitingRequest? {r : Resource α} {ticket : Nat} {request : Request}
    (h : r.waitingRequest? ticket = some request) : ⟨ticket, request⟩ ∈ r.waiting := by
  obtain ⟨w, hw, rfl⟩ := Option.map_eq_some_iff.1 h
  have ht : w.ticket = ticket := by simpa using List.find?_some hw
  subst ht
  exact List.mem_of_find?_eq_some hw

theorem waitingRequest?_eq_none_iff {r : Resource α} {ticket : Nat} :
    r.waitingRequest? ticket = none ↔ ticket ∉ r.waitingTickets := by
  simp only [waitingRequest?, waitingTickets, Option.map_eq_none_iff, List.find?_eq_none,
    beq_iff_eq, List.mem_map, not_exists, not_and]

theorem apply_answered_of_eq_none {r : Resource α} {ticket : Nat}
    (h : r.waitingRequest? ticket = none) : r.apply (.answered ticket) = r := by
  have hw : r.waiting.filter (·.ticket != ticket) = r.waiting := by
    refine List.filter_eq_self.2 fun w hw => bne_iff_ne.2 fun he => ?_
    exact waitingRequest?_eq_none_iff.1 h (he ▸ List.mem_map_of_mem hw)
  simp only [apply, hw]

/-! ### Steps and runs -/

@[simp] theorem requests_atPath (path : String) :
    (atPath path : Resource α).requests = [.forPath path] := rfl

theorem settings_start (settings : FetchSettings) (path : String) (body : RequestBody) :
    (start settings path body : Resource α).settings = settings := by
  unfold start
  cases settings.immediate <;> rfl

theorem settings_applyAll (r : Resource α) (cs : List (Change α)) :
    (r.applyAll cs).settings = r.settings := by
  induction cs generalizing r with
  | nil => rfl
  | cons c cs ih => rw [applyAll_cons, ih, settings_apply]

variable [Payload α]

/-- After an answer the request is not waiting, whether or not it was; what is shown has changed
only if the request was the latest one. -/
theorem step_answer_eq (r : Resource α) (ticket : Nat) (outcome : Outcome) : ∃ s,
    r.step (.answer ticket outcome) = (r.apply (.answered ticket)).withShown s ∧
      (r.tickets.latest ≠ ticket → s = r.toShown) := by
  cases h : r.waitingRequest? ticket with
  | none =>
    have hr : (r.apply (.answered ticket)).withShown r.toShown = r := apply_answered_of_eq_none h
    exact ⟨r.toShown, by rw [step_answer_of_eq_none h, hr], fun _ => rfl⟩
  | some request =>
    by_cases ht : r.tickets.latest = ticket
    · exact ⟨_, step_answer_of_latest_eq h ht outcome, fun hn => absurd ht hn⟩
    · exact ⟨r.toShown, step_answer_of_latest_ne h ht outcome, fun _ => rfl⟩

theorem waitingTickets_step_answer (r : Resource α) (ticket : Nat) (outcome : Outcome) :
    (r.step (.answer ticket outcome)).waitingTickets = r.waitingTickets.filter (· != ticket) := by
  obtain ⟨s, hs, -⟩ := step_answer_eq r ticket outcome
  rw [hs]
  exact waitingTickets_answered r ticket

theorem tickets_step_answer (r : Resource α) (ticket : Nat) (outcome : Outcome) :
    (r.step (.answer ticket outcome)).tickets = r.tickets := by
  obtain ⟨s, hs, -⟩ := step_answer_eq r ticket outcome
  rw [hs]
  rfl

/-- An answer to an outdated request changes nothing that is shown. -/
theorem toShown_step_of_latest_ne (r : Resource α) {ticket : Nat} (ht : r.tickets.latest ≠ ticket)
    (outcome : Outcome) : (r.step (.answer ticket outcome)).toShown = r.toShown := by
  obtain ⟨s, hs, hshown⟩ := step_answer_eq r ticket outcome
  rw [hs, hshown ht]
  rfl

/-- Where the resource is and what it sends is decided by what the event sets, whatever else the
event does. -/
theorem exists_step_eq (r : Resource α) (e : Event) : ∃ shown tickets waiting,
    r.step e = { r.moved e with toShown := shown, tickets := tickets, waiting := waiting } := by
  cases h : e.isAnswer with
  | false =>
    rw [step_of_not_isAnswer r h]
    cases r.asks e <;> exact ⟨_, _, _, rfl⟩
  | true =>
    cases e with
    | setPath | setBody | setBoth | execute => cases h
    | answer ticket outcome =>
      obtain ⟨shown, hs, -⟩ := step_answer_eq r ticket outcome
      exact ⟨shown, _, _, hs⟩

theorem path_step (r : Resource α) (e : Event) : (r.step e).path = (r.moved e).path := by
  obtain ⟨_, _, _, h⟩ := exists_step_eq r e
  rw [h]

theorem body_step (r : Resource α) (e : Event) : (r.step e).body = (r.moved e).body := by
  obtain ⟨_, _, _, h⟩ := exists_step_eq r e
  rw [h]

theorem settings_run (r : Resource α) (es : List Event) : (r.run es).settings = r.settings := by
  induction es generalizing r with
  | nil => rfl
  | cons e es ih => exact (ih (r.step e)).trans (settings_applyAll r _)

end Resource

end JudgeClient
