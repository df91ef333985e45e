import JudgeClient.Proofs.Fetch.Ledger
import JudgeClient.Proofs.Fetch.Outcome

/-!
# Where data comes from

The data of a resource may outlive the request that brought it: it stays while the next request is
under way, and it stays when a refresh of the same URL meets no response.  In between the path may
change and come back, and requests for other URLs may be answered late or not at all.

`Sourced` is the invariant that ties the data to its URL through all of this.

* `Recorded.sourced_run` : after every run a resource is sourced;
* `Sourced.dataUrl_eq_url` : a resource that asks by itself shows the data of the URL where it is,
  as soon as it is not loading.
-/

namespace JudgeClient

/-- The answer to the latest request either brings its own data, or leaves what was there because
it came from the same URL, or takes it away. -/
theorem Shown.data_settle {α : Type} [Payload α] (s : Shown α) (url : String) (outcome : Outcome) :
    (∃ data, outcome.decode α = .ok data ∧ (s.settle url outcome).data = some data ∧
        (s.settle url outcome).dataUrl = some url) ∨
      (s.dataUrl = some url ∧ (s.settle url outcome).data = s.data ∧
        (s.settle url outcome).dataUrl = some url) ∨
      (s.settle url outcome).data = none ∧ (s.settle url outcome).dataUrl = none := by
  cases h : outcome.decode α with
  | ok data =>
    rw [settle_of_ok h]
    exact .inl ⟨data, rfl, rfl, rfl⟩
  | error e =>
    cases hk : e.kind == .network && s.dataUrl == some url with
    | true =>
      have hu : s.dataUrl = some url := by
        rw [Bool.and_eq_true] at hk
        exact eq_of_beq hk.2
      rw [settle_of_kept h hk]
      exact .inr (.inl ⟨hu, rfl, hu⟩)
    | false =>
      rw [settle_of_lost h hk]
      exact .inr (.inr ⟨rfl, rfl⟩)

namespace Resource

variable {α : Type}

/-- The last request that was issued. -/
def Ledger.latest? (l : Ledger) : Option Request := l.issued.getLast?

theorem Ledger.latest?_eq (l : Ledger) : l.latest? = l.request? l.issued.length := by
  cases l with | mk issued delivered =>
  cases issued with
  | nil => rfl
  | cons q issued => simp [latest?, request?, List.getLast?_eq_getElem?]

theorem Ledger.latest?_issue (l : Ledger) (request : Request) :
    (l.issue request).latest? = some request := by
  simp [latest?, issue]

variable [Payload α]

/-- The data was decoded from a successful response to a request for the URL, which was the latest
one when the response came. -/
def Ledger.Brought (l : Ledger) (url : String) (data : α) : Prop :=
  ∃ d ∈ l.delivered, d.request ∈ l.issued ∧ d.request.url = url ∧ d.isTimely = true ∧
    ∃ response, d.outcome = .ok response ∧ response.isSuccess = true ∧
      response.decode α = .ok data

theorem Ledger.Brought.issue {l : Ledger} {url : String} {data : α} (h : l.Brought url data)
    (request : Request) : (l.issue request).Brought url data := by
  obtain ⟨d, hd, hi, hrest⟩ := h
  exact ⟨d, hd, List.mem_append_left _ hi, hrest⟩

theorem Ledger.Brought.deliver {l : Ledger} {url : String} {data : α} (h : l.Brought url data)
    (number : Nat) (request : Request) (outcome : Outcome) :
    (l.deliver number request outcome).Brought url data := by
  obtain ⟨d, hd, hrest⟩ := h
  exact ⟨d, List.mem_append_left _ hd, hrest⟩

theorem Ledger.brought_deliver {l : Ledger} {request : Request} {outcome : Outcome} {data : α}
    (hl : l.latest? = some request) (h : outcome.decode α = .ok data) :
    (l.deliver l.issued.length request outcome).Brought request.url data := by
  obtain ⟨response, ho, hs, hd⟩ := Outcome.decode_eq_ok_iff.1 h
  exact ⟨_, List.mem_append_right _ (List.mem_singleton.2 rfl), List.mem_of_getLast? hl, rfl,
    beq_self_eq_true _, response, ho, hs, hd⟩

/-- What is shown is tied to its URL: the URL is there with the data, the data was brought by a
request for it, and once the resource is not loading it is the URL of the latest request.  That
request was for where the resource is, if the resource asks by itself. -/
structure Sourced (a : Recorded α) : Prop where
  isSome : a.resource.data.isSome = a.resource.dataUrl.isSome
  brought : ∀ data url, a.resource.data = some data → a.resource.dataUrl = some url →
    a.ledger.Brought url data
  latest : a.resource.isLoading = false →
    a.resource.data = none ∨ ∃ q, a.ledger.latest? = some q ∧ a.resource.dataUrl = some q.url
  current : a.resource.settings.refetch = true →
    ∀ q, a.ledger.latest? = some q → q.url = a.resource.url

namespace Sourced

variable {a b : Recorded α} {e : Event}

theorem timely (h : Sourced a) (ha : Accounted a) {ticket : Nat} {request : Request}
    (outcome : Outcome) (hw : a.resource.waitingRequest? ticket = some request)
    (ht : a.resource.tickets.latest = ticket) :
    Sourced ⟨(a.resource.apply (.answered ticket)).withShown
        (a.resource.toShown.settle request.url outcome),
      a.ledger.deliver ticket request outcome⟩ := by
  have hlen : ticket = a.ledger.issued.length := ht.symm.trans ha.latest
  have hl : a.ledger.latest? = some request := by
    rw [Ledger.latest?_eq, ← hlen]
    exact ha.request _ (mem_waiting_of_waitingRequest? hw)
  have hs := a.resource.toShown.data_settle request.url outcome
  refine ⟨Shown.isSome_data_settle h.isSome, fun data url hd hu => ?_, fun _ => ?_, h.current⟩
  · rcases hs with ⟨data', hdec, hd', hu'⟩ | ⟨hold, hd', hu'⟩ | ⟨hd', -⟩
    · -- the answer itself is what brought the data
      obtain rfl : data' = data := Option.some.inj (hd'.symm.trans hd)
      obtain rfl : request.url = url := Option.some.inj (hu'.symm.trans hu)
      rw [hlen]
      exact Ledger.brought_deliver hl hdec
    · -- the data is older than the answer, and so is what brought it
      have hu'' : a.resource.dataUrl = some url := hold.trans (hu'.symm.trans hu)
      exact (h.brought data url (hd'.symm.trans hd) hu'').deliver ..
    · cases hd'.symm.trans hd
  · rcases hs with ⟨-, -, -, hu'⟩ | ⟨-, -, hu'⟩ | ⟨hd', -⟩
    · exact .inr ⟨request, hl, hu'⟩
    · exact .inr ⟨request, hl, hu'⟩
    · exact .inl hd'

theorem of_move (ha : Accounted a) (hm : Recorded.Move a e b) (h : Sourced a) : Sourced b := by
  cases hm with
  | quiet path body hpath =>
    refine ⟨h.isSome, h.brought, h.latest, fun hr q hq => (h.current hr q hq).trans ?_⟩
    simp only [url, hpath hr]
  | asked path body hr =>
    subst hr
    refine ⟨h.isSome, fun data url hd hu => (h.brought data url hd hu).issue _,
      fun hl => Bool.noConfusion hl, fun _ q hq => ?_⟩
    rw [Ledger.latest?_issue] at hq
    exact (Option.some.inj hq) ▸ rfl
  | outdated hw ht =>
    exact ⟨h.isSome, fun data url hd hu => (h.brought data url hd hu).deliver .., h.latest,
      h.current⟩
  | timely hw ht => exact h.timely ha _ hw ht

theorem exists_brought (h : Sourced a) {data : α} (hd : a.resource.data = some data) :
    ∃ url, a.resource.dataUrl = some url ∧ a.ledger.Brought url data := by
  obtain ⟨url, hu⟩ : ∃ url, a.resource.dataUrl = some url := by
    rw [← Option.isSome_iff_exists, ← h.isSome, hd]
    rfl
  exact ⟨url, hu, h.brought data url hd hu⟩

/-- A resource that asks by itself shows the data of the URL where it is. -/
theorem dataUrl_eq_url (h : Sourced a) (hr : a.resource.settings.refetch = true)
    (hl : a.resource.isLoading = false) {data : α} (hd : a.resource.data = some data) :
    a.resource.dataUrl = some a.resource.url := by
  rcases h.latest hl with hn | ⟨q, hq, hu⟩
  · rw [hn] at hd
    cases hd
  · rw [hu, h.current hr q hq]

end Sourced

theorem Recorded.sourced_run (settings : FetchSettings) (path : String) (body : RequestBody)
    (es : List Event) : Sourced ((start settings path body : Recorded α).run es) :=
  invariant ⟨rfl, fun _ _ h => (by cases h), fun _ => .inl rfl, fun _ _ h => (by cases h)⟩
    Sourced.of_move es

end Resource

end JudgeClient
