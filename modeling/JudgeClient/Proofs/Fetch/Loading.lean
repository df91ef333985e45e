import JudgeClient.Proofs.Fetch.Ledger

/-!
# When a resource is loading

A resource is shown as loading from the moment it asks until its latest request is answered.  The
flag is set with every request and cleared by the answer to the latest one, so it has to be right
for any number of requests that overlap, and for superseded ones that are answered late or never.

* `Recorded.isLoading_run_iff` : the flag is set exactly while the latest request is waiting;
* `toShown_run_stale` : answers to superseded requests leave everything shown as it is;
* `isLoading_exact` : what holds of the flag and of the tickets after every run.
-/

namespace JudgeClient

variable {α : Type}

theorem Shown.isLoading_settle [Payload α] (s : Shown α) (url : String) (outcome : Outcome) :
    (s.settle url outcome).isLoading = false := by
  cases h : outcome.decode α with
  | ok data => rw [settle_of_ok h]
  | error e =>
    cases hk : e.kind == .network && s.dataUrl == some url with
    | true => rw [settle_of_kept h hk]
    | false => rw [settle_of_lost h hk]

namespace Resource

/-! ### The flag -/

/-- The flag is set exactly while the latest request is waiting. -/
def LoadingExact (r : Resource α) : Prop :=
  r.isLoading = true ↔ r.tickets.latest ∈ r.waitingTickets

variable [Payload α]

theorem loadingExact_of_move {a b : Recorded α} {e : Event} (hm : Recorded.Move a e b)
    (h : LoadingExact a.resource) : LoadingExact b.resource := by
  cases hm with
  | quiet path body => exact h
  | asked path body hr =>
    refine iff_of_true rfl ?_
    rw [waitingTickets_issued]
    exact List.mem_append_right _ (List.mem_singleton.2 rfl)
  | @outdated ticket outcome request hw ht =>
    -- another request goes, so the latest one stays if it was there
    have hmem : a.resource.tickets.latest ∈ a.resource.waitingTickets ↔
        a.resource.tickets.latest ∈ (a.resource.apply (.answered ticket)).waitingTickets := by
      rw [waitingTickets_answered, List.mem_filter, bne_iff_ne]
      exact ⟨fun hm => ⟨hm, ht⟩, And.left⟩
    exact Iff.trans h hmem
  | @timely ticket outcome request hw ht =>
    refine iff_of_false ?_ fun hm => ?_
    · have hs := Shown.isLoading_settle a.resource.toShown request.url outcome
      exact fun hl => Bool.false_ne_true (hs.symm.trans hl)
    · have hgone : a.resource.tickets.latest ∈
          (a.resource.apply (.answered ticket)).waitingTickets := hm
      rw [waitingTickets_answered, List.mem_filter, bne_iff_ne] at hgone
      exact hgone.2 ht

theorem Recorded.isLoading_run_iff (settings : FetchSettings) (path : String) (body : RequestBody)
    (es : List Event) :
    let a := (Recorded.start settings path body : Recorded α).run es
    a.resource.isLoading = true ↔ a.ledger.issued.length ∈ a.resource.waitingTickets := by
  intro a
  rw [← (accounted_run settings path body es).latest]
  exact invariant (P := fun a => LoadingExact a.resource)
    (by simp [LoadingExact, idle, waitingTickets]) (fun _ hm h => loadingExact_of_move hm h) es

/-! ### Answers to superseded requests -/

theorem toShown_run_stale {r : Resource α} {last : Nat} (hl : r.tickets.latest = last)
    {answers : List (Nat × Outcome)} (h : ∀ x ∈ answers, x.1 ≠ last) :
    (r.run (answers.map fun x => .answer x.1 x.2)).toShown = r.toShown := by
  induction answers generalizing r with
  | nil => rfl
  | cons x answers ih =>
    have hx : r.tickets.latest ≠ x.1 := fun he => h x List.mem_cons_self (he.symm.trans hl)
    have ht : (r.step (.answer x.1 x.2)).tickets.latest = last := by rw [tickets_step_answer, hl]
    have hrest := ih ht fun y hy => h y (List.mem_cons_of_mem x hy)
    exact hrest.trans (toShown_step_of_latest_ne r hx x.2)

theorem isLoading_step_latest {r : Resource α} (h : LoadingExact r) (outcome : Outcome) :
    (r.step (.answer r.tickets.latest outcome)).isLoading = false := by
  cases hw : r.waitingRequest? r.tickets.latest with
  | none =>
    -- the answer reaches nothing, but then nothing was loading before it
    rw [step_answer_of_eq_none hw]
    exact Bool.eq_false_iff.2 fun hl => waitingRequest?_eq_none_iff.1 hw (h.1 hl)
  | some request =>
    rw [step_answer_of_latest_eq hw rfl]
    exact Shown.isLoading_settle r.toShown request.url outcome

/-! ### After every run -/

/-- **The loading flag is exact.**  A resource is loading iff the last request it issued is waiting
for its answer.  It is not before the first request; answers to superseded requests do not change
it, and the answer to the last one clears it, whatever that answer is.  Tickets count the requests
in the order of issue, those that wait are the ones that no answer has reached, and as long as
there are fewer requests than words of 64 bits, comparing words gives the same. -/
theorem isLoading_exact (settings : FetchSettings) (path : String) (body : RequestBody)
    (es : List Event) :
    let a := (Recorded.start settings path body : Recorded α).run es
    let r := a.resource
    let last := a.ledger.issued.length
    (r.isLoading = true ↔ last ∈ r.waitingTickets) ∧
      (a.ledger.issued = [] → r.isLoading = false) ∧
      (∀ answers : List (Nat × Outcome), (∀ x ∈ answers, x.1 ≠ last) →
        (r.run (answers.map fun x => .answer x.1 x.2)).isLoading = r.isLoading) ∧
      (∀ outcome, (r.step (.answer last outcome)).isLoading = false) ∧
      r.waitingTickets.Pairwise (· < ·) ∧
      (∀ w ∈ r.waiting, w.ticket ≤ r.tickets.latest ∧
        a.ledger.request? w.ticket = some w.request) ∧
      r.tickets.latest = last ∧
      (∀ n, n ∈ r.waitingTickets ↔
        (1 ≤ n ∧ n ≤ last) ∧ ∀ d ∈ a.ledger.delivered, d.number ≠ n) ∧
      (last < UInt64.size → ∀ n ∈ r.waitingTickets,
        (UInt64.ofNat r.tickets.latest == UInt64.ofNat n) = r.tickets.isCurrent n) := by
  intro a r last
  have ha : Accounted a := Recorded.accounted_run settings path body es
  have hl : r.isLoading = true ↔ last ∈ r.waitingTickets :=
    Recorded.isLoading_run_iff settings path body es
  have hlast : r.tickets.latest = last := ha.latest
  have hexact : LoadingExact r := by rw [LoadingExact, hlast]; exact hl
  refine ⟨hl, fun hnil => ?_, fun answers h => ?_, fun outcome => ?_, ha.sorted, fun w hw => ?_,
    hlast, ha.waits, Recorded.isCurrent_run_word settings path body es⟩
  · have hzero : last = 0 := by rw [← List.length_nil, ← hnil]
    refine Bool.eq_false_iff.2 fun h => ?_
    have := ((ha.waits last).1 (hl.1 h)).1.1
    omega
  · exact congrArg Shown.isLoading (toShown_run_stale hlast h)
  · rw [← hlast]
    exact isLoading_step_latest hexact outcome
  · exact ⟨ha.le_latest (List.mem_map_of_mem hw), ha.request w hw⟩

/-- Two requests wait, and the first one is answered. -/
theorem isLoading_exact_of_two_waiting :
    let a : Recorded Unit := (Recorded.start {} "/jobs" .absent).run [.execute]
    let answers : List (Nat × Outcome) := [(1, .ok ⟨200, ""⟩)]
    (∀ x ∈ answers, x.1 ≠ a.ledger.issued.length) ∧
      (a.resource.run (answers.map fun x => .answer x.1 x.2)).isLoading = a.resource.isLoading := by
  intro a answers
  have hstale : ∀ x ∈ answers, x.1 ≠ a.ledger.issued.length := by
    intro x hx
    obtain rfl := List.mem_singleton.1 hx
    decide
  exact ⟨hstale, (isLoading_exact {} "/jobs" .absent [.execute]).2.2.1 answers hstale⟩

end Resource

end JudgeClient
