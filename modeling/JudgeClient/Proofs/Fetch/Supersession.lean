import JudgeClient.Proofs.Fetch.Ledger

/-!
# Superseded requests

A request is superseded once the resource has asked again.  An answer to such a request is stale,
and this file shows that nothing of it can be seen.

`Resource.latestOnly` is the resource that has dropped every superseded request.  It makes the same
steps as the full one, and a stale answer does not move it (`latestOnly_step`,
`latestOnly_step_stale`).  Hence:

* `Recorded.latestOnly_run_eraseStale` : a run and the same run without its stale answers lead to
  the same resource, superseded requests apart;
* `latestOnly_run_answers` : a series of answers has the effect of the one to the latest request;
* `stale_answers_invisible` : the two together, for every resource and every run.
-/

namespace JudgeClient

namespace Resource

variable {α : Type}

/-! ### The latest request alone -/

/-- The resource without the requests that have been superseded. -/
def latestOnly (r : Resource α) : Resource α :=
  { r with waiting := r.waiting.filter fun w => r.tickets.isCurrent w.ticket }

theorem latestOnly_of_waiting_eq_nil {r : Resource α} (h : r.waiting = []) :
    r.latestOnly = r := by
  simp only [latestOnly, h, List.filter_nil]
  rw [← h]

theorem latestOnly_latestOnly (r : Resource α) : r.latestOnly.latestOnly = r.latestOnly := by
  simp [latestOnly]

theorem toShown_eq_of_latestOnly_eq {r s : Resource α} (h : r.latestOnly = s.latestOnly) :
    r.toShown = s.toShown := by
  have hs : r.latestOnly.toShown = s.latestOnly.toShown := by rw [h]
  exact hs

/-- The end of the waiting of a superseded request is not seen. -/
theorem latestOnly_answered_of_ne {r : Resource α} {ticket : Nat} (h : r.tickets.latest ≠ ticket) :
    (r.apply (.answered ticket)).latestOnly = r.latestOnly := by
  have hf : ∀ w : Waiting, (r.tickets.isCurrent w.ticket && w.ticket != ticket) =
      r.tickets.isCurrent w.ticket := fun w => by
    by_cases hw : r.tickets.latest = w.ticket
    · simp [Tickets.isCurrent, ← hw, h]
    · simp [Tickets.isCurrent, hw]
  simp only [latestOnly, apply, List.filter_filter, hf]

theorem latestOnly_answered (r : Resource α) :
    (r.apply (.answered r.tickets.latest)).latestOnly = { r with waiting := [] } := by
  have hw : (r.waiting.filter fun w => w.ticket != r.tickets.latest).filter
      (fun w => r.tickets.isCurrent w.ticket) = [] := by
    simp only [List.filter_eq_nil_iff, List.mem_filter, bne_iff_ne, Tickets.isCurrent_iff]
    rintro w ⟨-, hw⟩ he
    exact hw he.symm
  simp only [latestOnly, apply, hw]

theorem latestOnly_issued {r : Resource α} (h : ∀ n ∈ r.waitingTickets, n ≤ r.tickets.latest)
    (request : Request) : (r.apply (.issued request)).latestOnly =
      { r with
        tickets := r.tickets.issue
        waiting := [⟨r.tickets.latest + 1, request⟩]
        isLoading := true } := by
  have hold : r.waiting.filter (fun w => r.tickets.issue.isCurrent w.ticket) = [] := by
    refine List.filter_eq_nil_iff.2 fun w hw => ?_
    have := h w.ticket (List.mem_map_of_mem hw)
    simp only [Tickets.isCurrent_iff, Tickets.latest_issue]
    omega
  simp only [latestOnly, apply, List.filter_append, hold, List.nil_append]
  simp [Tickets.isCurrent]

theorem waitingTickets_latestOnly_le {r : Resource α} (n : Nat)
    (hn : n ∈ r.latestOnly.waitingTickets) : n ≤ r.latestOnly.tickets.latest := by
  obtain ⟨w, hw, rfl⟩ := List.mem_map.1 hn
  have ht : r.tickets.latest = w.ticket := Tickets.isCurrent_iff.1 (List.mem_filter.1 hw).2
  exact Nat.le_of_eq ht.symm

theorem waitingRequest?_latestOnly (r : Resource α) :
    r.latestOnly.waitingRequest? r.tickets.latest = r.waitingRequest? r.tickets.latest := by
  simp only [waitingRequest?, latestOnly, List.find?_filter]
  congr 2
  funext w
  by_cases hw : w.ticket = r.tickets.latest <;> simp [Tickets.isCurrent, hw]

theorem waitingRequest?_latestOnly_of_ne {r : Resource α} {ticket : Nat}
    (h : r.tickets.latest ≠ ticket) : r.latestOnly.waitingRequest? ticket = none := by
  refine waitingRequest?_eq_none_iff.2 fun ht => ?_
  obtain ⟨w, hw, rfl⟩ := List.mem_map.1 ht
  exact h (Tickets.isCurrent_iff.1 (List.mem_filter.1 hw).2)

theorem latestOnly_moved (r : Resource α) (e : Event) :
    (r.moved e).latestOnly = r.latestOnly.moved e := by
  cases e <;> rfl

/-! ### One step -/

variable [Payload α]

/-- A stale answer does not move the latest request. -/
theorem latestOnly_step_stale (r : Resource α) {ticket : Nat} (ht : r.tickets.latest ≠ ticket)
    (outcome : Outcome) : (r.step (.answer ticket outcome)).latestOnly = r.latestOnly := by
  obtain ⟨s, hs, hshown⟩ := step_answer_eq r ticket outcome
  rw [hs, hshown ht]
  exact latestOnly_answered_of_ne ht

theorem latestOnly_step_answer (r : Resource α) (ticket : Nat) (outcome : Outcome) :
    (r.step (.answer ticket outcome)).latestOnly =
      (r.latestOnly.step (.answer ticket outcome)).latestOnly := by
  by_cases ht : r.tickets.latest = ticket
  · subst ht
    have hw := waitingRequest?_latestOnly r
    cases h : r.waitingRequest? r.tickets.latest with
    | none =>
      rw [step_answer_of_eq_none h, step_answer_of_eq_none (hw.trans h), latestOnly_latestOnly]
    | some request =>
      have hr := congrArg (withShown · (r.toShown.settle request.url outcome))
        (latestOnly_answered r)
      have hl := congrArg (withShown · (r.toShown.settle request.url outcome))
        (latestOnly_answered r.latestOnly)
      rw [step_answer_of_latest_eq h rfl, step_answer_of_latest_eq (hw.trans h) rfl]
      exact hr.trans hl.symm
  · -- the superseded request is gone already on the right
    rw [step_answer_of_eq_none (waitingRequest?_latestOnly_of_ne ht), latestOnly_latestOnly]
    exact latestOnly_step_stale r ht outcome

/-- The superseded requests have no part in a step. -/
theorem latestOnly_step {r : Resource α} (h : ∀ n ∈ r.waitingTickets, n ≤ r.tickets.latest)
    (e : Event) : (r.step e).latestOnly = (r.latestOnly.step e).latestOnly := by
  cases he : e.isAnswer with
  | true =>
    cases e with
    | setPath | setBody | setBoth | execute => cases he
    | answer ticket outcome => exact latestOnly_step_answer r ticket outcome
  | false =>
    have ha : r.latestOnly.asks e = r.asks e := by cases e <;> rfl
    have hm : ∀ n ∈ (r.moved e).waitingTickets, n ≤ (r.moved e).tickets.latest := by
      cases e <;> exact h
    rw [step_of_not_isAnswer r he, step_of_not_isAnswer r.latestOnly he, ha, ← latestOnly_moved]
    cases r.asks e with
    | false => exact (latestOnly_latestOnly _).symm
    | true =>
      have hq : (r.moved e).latestOnly.request = (r.moved e).request := rfl
      simp only [if_true, hq]
      rw [latestOnly_issued hm, latestOnly_issued waitingTickets_latestOnly_le]
      rfl

/-! ### A series of answers -/

theorem waitingTickets_run_answers (r : Resource α) (answers : Nat → Outcome) (order : List Nat) :
    (r.run (order.map fun n => .answer n (answers n))).waitingTickets =
      r.waitingTickets.filter (· ∉ order) := by
  induction order generalizing r with
  | nil => exact (List.filter_eq_self.2 fun n _ => by simp).symm
  | cons n order ih =>
    have hr := ih (r.step (.answer n (answers n)))
    rw [waitingTickets_step_answer, List.filter_filter] at hr
    refine hr.trans (List.filter_congr fun m _ => ?_)
    by_cases hm : m = n <;> simp [hm]

/-- A series of answers that leaves out no waiting request, in whatever order, has the effect of
the answer to the latest request. -/
theorem latestOnly_run_answers (answers : Nat → Outcome) {order : List Nat} {r : Resource α}
    {last : Nat} (hl : r.tickets.latest = last) (h : last ∈ r.waitingTickets → last ∈ order) :
    (r.run (order.map fun n => .answer n (answers n))).latestOnly =
      (r.step (.answer last (answers last))).latestOnly := by
  induction order generalizing r with
  | nil =>
    have hw : last ∉ r.waitingTickets := fun hw => List.not_mem_nil (h hw)
    rw [step_answer_of_eq_none (waitingRequest?_eq_none_iff.2 hw)]
    rfl
  | cons n order ih =>
    have ht := tickets_step_answer r n (answers n)
    have hw := waitingTickets_step_answer r n (answers n)
    have hr : (r.step (.answer n (answers n))).tickets.latest = last := by rw [ht, hl]
    by_cases hn : n = last
    · -- what follows is stale, and another answer to the same request does nothing
      subst hn
      have hgone : n ∉ (r.step (.answer n (answers n))).waitingTickets := by simp [hw]
      refine (ih hr fun hm => absurd hm hgone).trans ?_
      rw [step_answer_of_eq_none (waitingRequest?_eq_none_iff.2 hgone)]
    · have hlast : last ∈ (r.step (.answer n (answers n))).waitingTickets → last ∈ order :=
        fun hm => by
          rw [hw] at hm
          exact (List.mem_cons.1 (h (List.mem_filter.1 hm).1)).resolve_left (Ne.symm hn)
      have hstale : r.tickets.latest ≠ n := fun he => hn (he.symm.trans hl)
      refine (ih hr hlast).trans ?_
      rw [latestOnly_step_answer, latestOnly_step_stale r hstale, ← latestOnly_step_answer]

theorem run_answers {r : Resource α} (answers : Nat → Outcome) {order : List Nat} {last : Nat}
    (hl : r.tickets.latest = last) (h : ∀ n ∈ r.waitingTickets, n ∈ order) :
    r.run (order.map fun n => .answer n (answers n)) =
      { r.step (.answer last (answers last)) with waiting := [] } := by
  have he := latestOnly_run_answers answers hl (h last)
  have hw : (r.run (order.map fun n => .answer n (answers n))).waiting = [] := by
    refine List.map_eq_nil_iff.1 (?_ : Resource.waitingTickets _ = [])
    rw [waitingTickets_run_answers]
    simpa using h
  have hlast : (r.step (.answer last (answers last))).latestOnly.waiting = [] := by
    rw [← he, latestOnly_of_waiting_eq_nil hw, hw]
  -- nothing is waiting on either side, so nothing is lost by dropping what is superseded
  calc r.run (order.map fun n => .answer n (answers n))
      = (r.run (order.map fun n => .answer n (answers n))).latestOnly :=
        (latestOnly_of_waiting_eq_nil hw).symm
    _ = (r.step (.answer last (answers last))).latestOnly := he
    _ = { r.step (.answer last (answers last)) with waiting := [] } := by
        rw [← hlast]
        rfl

/-! ### Runs without their stale answers -/

namespace Recorded

/-- The event is an answer that reaches a request after the resource has asked again. -/
def isStale (a : Recorded α) : Event → Bool
  | .answer number _ =>
    (a.resource.waitingRequest? number).isSome && number != a.ledger.issued.length
  | _ => false

/-- A run without its stale answers. -/
def eraseStale (a : Recorded α) : List Event → List Event
  | [] => []
  | e :: es => if a.isStale e then (a.step e).eraseStale es else e :: (a.step e).eraseStale es

theorem latestOnly_step_of_isStale {a : Recorded α} (ha : Accounted a) {e : Event}
    (hs : a.isStale e = true) : (a.step e).resource.latestOnly = a.resource.latestOnly := by
  cases e with
  | setPath | setBody | setBoth | execute => cases hs
  | answer number outcome =>
    simp only [isStale, Bool.and_eq_true, bne_iff_ne, ← ha.latest] at hs
    exact latestOnly_step_stale a.resource hs.2.symm outcome

/-- The two runs are compared step by step; a stale answer is a step of the full run alone. -/
theorem latestOnly_run_eraseStale {a b : Recorded α} (ha : Accounted a) (hb : Accounted b)
    (h : a.resource.latestOnly = b.resource.latestOnly) (es : List Event) :
    (a.run es).resource.latestOnly = (b.run (a.eraseStale es)).resource.latestOnly := by
  induction es generalizing a b with
  | nil => exact h
  | cons e es ih =>
    have ha' : Accounted (a.step e) := ha.of_move (move_step a e)
    rw [run_cons, eraseStale]
    cases hs : a.isStale e with
    | true => exact ih ha' hb ((latestOnly_step_of_isStale ha hs).trans h)
    | false =>
      have hstep : (a.step e).resource.latestOnly = (b.step e).resource.latestOnly :=
        calc (a.step e).resource.latestOnly
            = (a.resource.latestOnly.step e).latestOnly := latestOnly_step (fun _ => ha.le_latest) e
          _ = (b.resource.latestOnly.step e).latestOnly := by rw [h]
          _ = (b.step e).resource.latestOnly := (latestOnly_step (fun _ => hb.le_latest) e).symm
      exact ih ha' (hb.of_move (move_step b e)) hstep

end Recorded

/-- **Stale answers are invisible.**  What is shown after a run is what is shown after the same run
without the answers that came after the resource had asked again.  Hence the order in which all
waiting requests are answered does not matter: the resource ends up where the answer to the last
request it issued would lead it. -/
theorem stale_answers_invisible (settings : FetchSettings) (path : String) (body : RequestBody)
    (es : List Event) :
    let a : Recorded α := .start settings path body
    (a.run es).resource.toShown = (a.run (a.eraseStale es)).resource.toShown ∧
      ∀ (answers : Nat → Outcome) (order : List Nat),
        order.Perm (a.run es).resource.waitingTickets →
        let last := (a.run es).ledger.issued.length
        (a.run es).resource.run (order.map fun n => .answer n (answers n)) =
          { (a.run es).resource.step (.answer last (answers last)) with waiting := [] } := by
  intro a
  have ha : Accounted a := Recorded.accounted_run settings path body []
  refine ⟨?_, fun answers order horder => ?_⟩
  · exact toShown_eq_of_latestOnly_eq (Recorded.latestOnly_run_eraseStale ha ha rfl es)
  · have hlast := (Recorded.accounted_run (α := α) settings path body es).latest
    exact run_answers answers hlast fun n hn => horder.mem_iff.2 hn

/-- Two requests wait, and the second one is answered first. -/
theorem stale_answers_invisible_of_two_waiting :
    let a : Recorded Unit := (Recorded.start {} "/jobs" .absent).run [.execute]
    let answers : Nat → Outcome := fun n =>
      if n = 2 then .ok ⟨200, ""⟩ else .error ⟨.network, "dropped"⟩
    [2, 1].Perm a.resource.waitingTickets ∧
      a.resource.run ([2, 1].map fun n => .answer n (answers n)) =
        { a.resource.step (.answer 2 (answers 2)) with waiting := [] } := by
  intro a answers
  have horder : [2, 1].Perm a.resource.waitingTickets := by decide
  exact ⟨horder, (stale_answers_invisible {} "/jobs" .absent [.execute]).2 answers [2, 1] horder⟩

end Resource

end JudgeClient
