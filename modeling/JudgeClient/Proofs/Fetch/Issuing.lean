import JudgeClient.Proofs.Fetch.Ledger
import Mathlib.Data.List.Infix

/-!
# What a resource asks for

Whether an event makes a resource ask is decided by the settings, and what it asks for by what has
been set so far.  Both can be read off the events: answers have no part in it, and what a resource
has asked for stays as it was issued.

* `Resource.request_run` : the request that a resource would issue after some events;
* `Resource.Recorded.issued_step` : the request that one event makes it issue, if any;
* `Resource.issues_exactly` : all requests of a run, in their order.
-/

namespace JudgeClient

/-- What is made of the beginnings of a longer run is what is made of those of the run, and of the
longer run itself. -/
theorem map_filter_inits_concat {ε β : Type} (p : List ε → Bool) (f : List ε → β) (es : List ε)
    (e : ε) : ((es ++ [e]).inits.filter p).map f =
      (es.inits.filter p).map f ++ if p (es ++ [e]) then [f (es ++ [e])] else [] := by
  have hinits : (es ++ [e]).inits = es.inits ++ [es ++ [e]] := by simp [List.inits_append]
  rw [hinits, List.filter_append, List.map_append]
  cases h : p (es ++ [e]) <;> simp [h]

namespace Resource

/-! ### What the events have set -/

/-- The path that the event sets. -/
def Event.path? : Event → Option String
  | .setPath path | .setBoth path _ => some path
  | .setBody _ | .execute | .answer _ _ => none

/-- The body that the event sets. -/
def Event.body? : Event → Option Json
  | .setBody body | .setBoth _ body => some body
  | .setPath _ | .execute | .answer _ _ => none

/-- The path that was set last, which was this one at first. -/
def lastPath (path : String) (es : List Event) : String :=
  (es.filterMap Event.path?).getLast?.getD path

/-- The body that was set last, if it may change. -/
def lastBody (body : RequestBody) (es : List Event) : RequestBody :=
  match body with
  | .live v => .live ((es.filterMap Event.body?).getLast?.getD v)
  | body => body

/-- The request that a resource with the settings issues after some events. -/
def requestAfter (settings : FetchSettings) (path : String) (body : RequestBody)
    (es : List Event) : Request where
  method := settings.method
  url := Config.current.apiServer ++ lastPath path es
  headers := settings.headers
  body := (lastBody body es).value?.map Json.compact

/-- The event makes a resource with the settings ask. -/
def Event.asks (e : Event) (settings : FetchSettings) (body : RequestBody) : Bool :=
  match e with
  | .execute => true
  | .setPath _ | .setBoth _ _ => settings.refetch
  | .setBody _ => settings.refetch && body.isLive
  | .answer _ _ => false

/-- The last of the events makes a resource with the settings ask. -/
def endsAsking (settings : FetchSettings) (body : RequestBody) (es : List Event) : Bool :=
  es.getLast?.any (·.asks settings body)

theorem lastPath_cons (path : String) (e : Event) (es : List Event) :
    lastPath path (e :: es) = lastPath (lastPath path [e]) es := by
  cases e <;> simp [lastPath, Event.path?, List.getLast?_cons]

theorem lastBody_cons (body : RequestBody) (e : Event) (es : List Event) :
    lastBody body (e :: es) = lastBody (lastBody body [e]) es := by
  cases body <;> cases e <;> simp [lastBody, Event.body?, List.getLast?_cons]

theorem isLive_lastBody (body : RequestBody) (es : List Event) :
    (lastBody body es).isLive = body.isLive := by
  cases body <;> rfl

theorem Event.asks_lastBody (e : Event) (settings : FetchSettings) (body : RequestBody)
    (es : List Event) : e.asks settings (lastBody body es) = e.asks settings body := by
  cases e <;> simp [Event.asks, isLive_lastBody]

/-! ### What a resource would ask for -/

section Run

variable {α : Type}

theorem path_moved (r : Resource α) (e : Event) : (r.moved e).path = lastPath r.path [e] := by
  cases e <;> rfl

theorem body_moved (r : Resource α) (e : Event) : (r.moved e).body = lastBody r.body [e] := by
  cases hb : r.body <;> cases e <;> simp [moved, hb, RequestBody.set, lastBody, Event.body?]

theorem asks_eq (r : Resource α) (e : Event) : r.asks e = e.asks r.settings r.body := by
  cases e <;> simp [asks, Event.asks, Bool.and_comm]

theorem path_start (settings : FetchSettings) (path : String) (body : RequestBody) :
    (start settings path body : Resource α).path = path := by
  unfold start
  cases settings.immediate <;> rfl

theorem body_start (settings : FetchSettings) (path : String) (body : RequestBody) :
    (start settings path body : Resource α).body = body := by
  unfold start
  cases settings.immediate <;> rfl

variable [Payload α]

theorem path_run (r : Resource α) (es : List Event) : (r.run es).path = lastPath r.path es := by
  induction es generalizing r with
  | nil => rfl
  | cons e es ih =>
    calc ((r.step e).run es).path
      _ = lastPath (r.step e).path es := ih (r.step e)
      _ = lastPath (lastPath r.path [e]) es := by rw [path_step, path_moved]
      _ = lastPath r.path (e :: es) := (lastPath_cons r.path e es).symm

theorem body_run (r : Resource α) (es : List Event) : (r.run es).body = lastBody r.body es := by
  induction es generalizing r with
  | nil => cases hb : r.body <;> simp [run, lastBody, hb]
  | cons e es ih =>
    calc ((r.step e).run es).body
      _ = lastBody (r.step e).body es := ih (r.step e)
      _ = lastBody (lastBody r.body [e]) es := by rw [body_step, body_moved]
      _ = lastBody r.body (e :: es) := (lastBody_cons r.body e es).symm

/-- The request that a resource would issue after some events. -/
theorem request_run (r : Resource α) (es : List Event) :
    (r.run es).request = requestAfter r.settings r.path r.body es := by
  simp only [request, url, Config.apiUrl, Config.joinOrigin, settings_run, path_run, body_run,
    requestAfter]

end Run

/-! ### What it has asked for -/

namespace Recorded

variable {α : Type} [Payload α]

theorem run_concat (a : Recorded α) (es : List Event) (e : Event) :
    a.run (es ++ [e]) = (a.run es).step e := by
  simp [run]

/-- What an event adds to the requests that have been issued. -/
theorem issued_step (a : Recorded α) (e : Event) : (a.step e).ledger.issued = a.ledger.issued ++
    if a.resource.asks e then [(a.resource.step e).request] else [] := by
  cases h : e.isAnswer with
  | false =>
    have hl : a.ledger.answered a.resource e = a.ledger := by
      cases e <;> first | rfl | cases h
    rw [step, Ledger.next, sentBy?_changes a.resource h, hl, step_of_not_isAnswer a.resource h]
    cases a.resource.asks e with
    | false => exact (List.append_nil _).symm
    | true => rfl
  | true =>
    cases e with
    | setPath | setBody | setBoth | execute => cases h
    | answer ticket outcome =>
      rw [step, Ledger.next, sentBy?_answer, Ledger.answered]
      cases a.resource.waitingRequest? ticket <;> simp [asks, Ledger.deliver]

theorem request_run_start (settings : FetchSettings) (path : String) (body : RequestBody)
    (es : List Event) : ((start settings path body : Recorded α).run es).resource.request =
      requestAfter settings path body es := by
  rw [resource_run, start, request_run, settings_start, path_start, body_start]

theorem asks_run_start (settings : FetchSettings) (path : String) (body : RequestBody)
    (es : List Event) (e : Event) :
    ((start settings path body : Recorded α).run es).resource.asks e = e.asks settings body := by
  have hbody : ((start settings path body : Recorded α).run es).resource.body =
      lastBody body es := by
    rw [resource_run, start, body_run, body_start]
  rw [asks_eq, settings_run, hbody, Event.asks_lastBody]

/-- The requests of a run, in the order of issue. -/
theorem issued_run_start (settings : FetchSettings) (path : String) (body : RequestBody)
    (es : List Event) : ((start settings path body : Recorded α).run es).ledger.issued =
      (if settings.immediate then [requestAfter settings path body []] else []) ++
        (es.inits.filter (endsAsking settings body)).map (requestAfter settings path body) := by
  induction es using List.reverseRecOn with
  | nil =>
    have hfirst := request_run_start (α := α) settings path body []
    have hnone : ([] : List Event).inits.filter (endsAsking settings body) = [] := rfl
    rw [hnone, ← hfirst]
    simp only [run, start, Resource.start, List.foldl_nil, List.map_nil, List.append_nil]
    cases settings.immediate <;> rfl
  | append_singleton es e ih =>
    have hlast : endsAsking settings body (es ++ [e]) = e.asks settings body := by
      simp [endsAsking]
    have hrequest := request_run_start (α := α) settings path body (es ++ [e])
    rw [run_concat] at hrequest ⊢
    rw [issued_step, ih, asks_run_start, map_filter_inits_concat, hlast, ← hrequest,
      List.append_assoc]
    rfl

theorem issued_prefix_run (a : Recorded α) (es : List Event) :
    a.ledger.issued <+: (a.run es).ledger.issued :=
  run_induction (P := fun b => a.ledger.issued <+: b.ledger.issued)
    (fun b e h => h.trans (issued_step b e ▸ List.prefix_append ..)) (List.prefix_refl _) es

end Recorded

/-- **Which requests are issued.**  A new resource asks at once if it is to, and after that exactly
when an event makes it ask: being told to always does, and if the resource asks by itself, so does
a new path, a new body if the body may change, or both of them together, once; answers never do.
A request is made of the settings and of the path and the body that were set last when it was
issued.  What happens later takes nothing back: the requests of a run are the first ones of every
longer run, and those that are still waiting are as they were issued. -/
theorem issues_exactly (α : Type) [Payload α] (settings : FetchSettings) (path : String)
    (body : RequestBody) (es : List Event) :
    let a := (Recorded.start settings path body : Recorded α).run es
    a.resource = (Resource.start settings path body : Resource α).run es ∧
      a.ledger.issued =
        (if settings.immediate then [requestAfter settings path body []] else []) ++
          (es.inits.filter (endsAsking settings body)).map (requestAfter settings path body) ∧
      (∀ fs, a.ledger.issued <+: (a.run fs).ledger.issued) ∧
      ∀ w ∈ a.resource.waiting, a.ledger.request? w.ticket = some w.request := by
  intro a
  have haccounted : Accounted a := Recorded.accounted_run settings path body es
  exact ⟨Recorded.resource_run .., Recorded.issued_run_start settings path body es,
    fun fs => Recorded.issued_prefix_run a fs, haccounted.request⟩

/-- A resource that asks only when it is told to sends what has been set by then. -/
theorem issues_exactly_of_no_refetch :
    let headers := [("Accept", "text/html"), ("Accept", "*/*")]
    let settings : FetchSettings := ⟨.post, headers, false, false⟩
    let es : List Event := [.setPath "/b", .setBody (.int 1), .execute, .setBoth "/c" (.int 2)]
    let request : Request := ⟨.post, "http://localhost:12345/b", headers, some "1"⟩
    let a := (Recorded.start settings "/a" (.live .null) : Recorded Unit).run es
    a.ledger.issued = [request] ∧ (⟨1, request⟩ : Waiting) ∈ a.resource.waiting ∧
      a.ledger.request? 1 = some request := by
  intro headers settings es request a
  obtain ⟨-, hissued, -, hwaiting⟩ := issues_exactly Unit settings "/a" (.live .null) es
  have hone : a.ledger.issued = [request] := by
    rw [hissued]
    decide
  have hmem : (⟨1, request⟩ : Waiting) ∈ a.resource.waiting := List.mem_singleton.2 rfl
  exact ⟨hone, hmem, hwaiting _ hmem⟩

end Resource

end JudgeClient
