import JudgeClient.Proofs.Fetch.Ledger
import JudgeClient.Proofs.Fetch.Outcome
import JudgeClient.View.Fetched
import Mathlib.Logic.ExistsUnique

/-!
# Phases of a resource

Data, error and status are three signals that are written one after the other.  Between events only
four combinations of them occur: nothing has come back (`fresh`), there is data (`loaded`), there is
an error and no data (`failed`), or a refresh met no response and the data stayed (`kept`).

* `Shown.isSettled_settle` : the answer to the latest request ends in one of the last three;
* `Recorded.phased_run` : after every run a resource is fresh until a request was answered in time,
  and in one of the other phases from then on;
* `View.showsLoading_iff`, … : what is seen in which phase;
* `shown_in_one_phase` : all of this for every resource and every run.
-/

namespace JudgeClient

/-- What data, error and status say together. -/
inductive Phase
  /-- No answer has come to a request that was the latest one. -/
  | fresh
  | loaded
  | failed
  /-- The refresh met no response, and the data stayed. -/
  | kept
deriving DecidableEq

namespace Shown

variable {α : Type}

/-- The three signals agree with the phase. -/
def InPhase (s : Shown α) : Phase → Prop
  | .fresh => s.data = none ∧ s.error = none ∧ s.status = none
  | .loaded => s.data.isSome = true ∧ s.error = none ∧ ∃ c, s.status = some c ∧ 200 ≤ c ∧ c < 300
  | .failed => s.data = none ∧ ∃ e, s.error = some e ∧
      (s.status = none ∨
        ∃ c, s.status = some c ∧
          ((200 ≤ c ∧ c < 300) ∧ e.kind = .invalidResponse ∨
            ¬(200 ≤ c ∧ c < 300) ∧ e.kind ∈ ErrorKind.reported))
  | .kept => s.data.isSome = true ∧ s.status = none ∧ ∃ e, s.error = some e ∧ e.kind = .network

/-- The phase that data and error point to. -/
def phase (s : Shown α) : Phase :=
  match s.data, s.error with
  | none, none => .fresh
  | some _, none => .loaded
  | none, some _ => .failed
  | some _, some _ => .kept

theorem InPhase.phase_eq {s : Shown α} {p : Phase} (h : s.InPhase p) : s.phase = p := by
  cases p with
  | fresh =>
    obtain ⟨hd, he, -⟩ := h
    rw [phase, hd, he]
  | loaded =>
    obtain ⟨hd, he, -⟩ := h
    obtain ⟨d, hd⟩ := Option.isSome_iff_exists.1 hd
    rw [phase, hd, he]
  | failed =>
    obtain ⟨hd, e, he, -⟩ := h
    rw [phase, hd, he]
  | kept =>
    obtain ⟨hd, -, e, he, -⟩ := h
    obtain ⟨d, hd⟩ := Option.isSome_iff_exists.1 hd
    rw [phase, hd, he]

theorem InPhase.unique {s : Shown α} {p q : Phase} (hp : s.InPhase p) (hq : s.InPhase q) : q = p :=
  hq.phase_eq.symm.trans hp.phase_eq

/-- The phase is over in which nothing has come back. -/
def IsSettled (s : Shown α) : Prop := s.InPhase .loaded ∨ s.InPhase .failed ∨ s.InPhase .kept

variable [Payload α] {s : Shown α} {url : String} {outcome : Outcome}

theorem inPhase_failed {e : Error} (h : outcome.decode α = .error e) :
    InPhase (⟨none, none, some e, false, outcome.status?⟩ : Shown α) .failed := by
  refine ⟨rfl, e, rfl, ?_⟩
  rcases Outcome.decode_eq_error h with rfl | ⟨response, rfl, hk⟩
  · exact .inl rfl
  · refine .inr ⟨response.status, rfl, ?_⟩
    simpa [Response.isSuccess] using hk

/-- The answer to the latest request settles the resource. -/
theorem isSettled_settle (hd : s.data.isSome = s.dataUrl.isSome) :
    (s.settle url outcome).IsSettled := by
  cases h : outcome.decode α with
  | ok data =>
    obtain ⟨response, rfl, hs, -⟩ := Outcome.decode_eq_ok_iff.1 h
    rw [settle_of_ok h]
    refine .inl ⟨rfl, rfl, response.status, rfl, ?_⟩
    simpa [Response.isSuccess] using hs
  | error e =>
    cases hk : e.kind == .network && s.dataUrl == some url with
    | true =>
      rw [settle_of_kept h hk]
      obtain ⟨hkind, hurl⟩ : e.kind = .network ∧ s.dataUrl = some url := by simpa using hk
      -- a response never gives this kind, so there was none and the status is absent
      obtain rfl := Outcome.eq_error_of_kind_eq_network h hkind
      exact .inr (.inr ⟨by rw [hd, hurl]; rfl, rfl, e, rfl, hkind⟩)
    | false =>
      rw [settle_of_lost h hk]
      exact .inr (.inl (inPhase_failed h))

end Shown

namespace Resource

variable {α : Type} [Payload α]

/-! ### Runs -/

/-- Some answer came to a request that was the latest one. -/
def Ledger.HasTimely (l : Ledger) : Prop := ∃ d ∈ l.delivered, d.isTimely = true

theorem Ledger.hasTimely_deliver {l : Ledger} {number : Nat} {request : Request}
    {outcome : Outcome} : (l.deliver number request outcome).HasTimely ↔
      l.HasTimely ∨ number = l.issued.length := by
  simp only [HasTimely, deliver, List.mem_append, List.mem_singleton]
  constructor
  · rintro ⟨d, hd | rfl, ht⟩
    · exact .inl ⟨d, hd, ht⟩
    · exact .inr (by simpa using ht)
  · rintro (⟨d, hd, ht⟩ | hn)
    · exact ⟨d, .inl hd, ht⟩
    · exact ⟨_, .inr rfl, by simpa using hn⟩

/-- A resource is fresh until a request is answered in time, and settled from then on. -/
structure Phased (a : Recorded α) : Prop where
  isSome : a.resource.data.isSome = a.resource.dataUrl.isSome
  fresh : ¬a.ledger.HasTimely → a.resource.InPhase .fresh
  settled : a.ledger.HasTimely → a.resource.IsSettled

theorem Phased.of_move {a b : Recorded α} {e : Event} (ha : Accounted a)
    (hm : Recorded.Move a e b) (h : Phased a) : Phased b := by
  cases hm with
  | quiet path body => exact ⟨h.isSome, h.fresh, h.settled⟩
  | asked path body hr => rw [hr]; exact ⟨h.isSome, h.fresh, h.settled⟩
  | @outdated ticket outcome request hw ht =>
    have hl : (a.ledger.deliver ticket request outcome).HasTimely ↔ a.ledger.HasTimely := by
      rw [Ledger.hasTimely_deliver, ← ha.latest]
      exact or_iff_left (Ne.symm ht)
    exact ⟨h.isSome, fun hn => h.fresh fun hl' => hn (hl.2 hl'), fun hl' => h.settled (hl.1 hl')⟩
  | @timely ticket outcome request hw ht =>
    have hl : (a.ledger.deliver ticket request outcome).HasTimely :=
      Ledger.hasTimely_deliver.2 (.inr (by rw [← ha.latest, ht]))
    exact ⟨Shown.isSome_data_settle h.isSome, fun hn => absurd hl hn,
      fun _ => Shown.isSettled_settle h.isSome⟩

theorem Recorded.phased_run (settings : FetchSettings) (path : String) (body : RequestBody)
    (es : List Event) : Phased ((start settings path body : Recorded α).run es) :=
  invariant ⟨rfl, fun _ => ⟨rfl, rfl, rfl⟩, by rintro ⟨d, hd, -⟩; cases hd⟩ Phased.of_move es

end Resource

/-! ### What is seen -/

namespace View

variable {α : Type} {s : Shown α}

/-- The line that asks for patience is seen, however data would be shown. -/
def ShowsLoading (s : Shown α) : Prop := ∀ render, fetched s render = loading

/-- The resource's error is seen and nothing else. -/
def ShowsFailure (s : Shown α) : Prop :=
  ∃ e, s.error = some e ∧ ∀ render, fetched s render = failure e

/-- The resource's data is seen, with or without something above it. -/
def ShowsData (s : Shown α) : Prop :=
  ∃ data, s.data = some data ∧ ∀ render, render data <:+ fetched s render

/-- The line is seen that tells the resource's error as that of a refresh. -/
def ShowsRefreshFailed (s : Shown α) : Prop :=
  ∃ e, s.error = some e ∧ ∀ render, (fetched s render).head? = some (refreshFailed e)

theorem failure_eq_div (e : Error) :
    ∃ style children, failure e = [.styled "div" style children] := by
  unfold failure
  cases e.kind <;> exact ⟨_, _, rfl⟩

theorem loading_ne_failure (e : Error) : loading ≠ failure e := by
  obtain ⟨style, children, he⟩ := failure_eq_div e
  rw [he]
  simp [loading, Node.styled]

theorem head?_failure_ne (e e' : Error) : (failure e).head? ≠ some (refreshFailed e') := by
  obtain ⟨style, children, he⟩ := failure_eq_div e
  rw [he]
  simp [refreshFailed, Node.styled]

theorem showsLoading_iff : ShowsLoading s ↔ s.phase = .fresh := by
  unfold ShowsLoading fetched Shown.phase
  cases s.data with
  | none =>
    cases s.error with
    | none => exact iff_of_true (fun _ => rfl) rfl
    | some e =>
      exact iff_of_false (fun h => loading_ne_failure e (h fun _ => []).symm) (by simp)
  | some data =>
    cases s.error <;> refine iff_of_false (fun h => ?_) (by simp)
    · exact absurd (h fun _ => []) (by simp [loading])
    · exact absurd (h fun _ => []) (by simp [loading, refreshFailed, Node.styled])

theorem showsFailure_iff : ShowsFailure s ↔ s.phase = .failed := by
  unfold ShowsFailure fetched Shown.phase
  cases s.data with
  | none =>
    cases s.error with
    | none => exact iff_of_false (fun ⟨e, h, _⟩ => by cases h) (by simp)
    | some e => exact iff_of_true ⟨e, rfl, fun _ => rfl⟩ rfl
  | some data =>
    cases s.error with
    | none => exact iff_of_false (fun ⟨e, h, _⟩ => by cases h) (by simp)
    | some e =>
      refine iff_of_false ?_ (by simp)
      rintro ⟨e', -, h⟩
      exact head?_failure_ne e' e (congrArg List.head? (h fun _ => [])).symm

theorem showsData_iff : ShowsData s ↔ s.phase = .loaded ∨ s.phase = .kept := by
  unfold ShowsData fetched Shown.phase
  cases s.data with
  | none =>
    refine iff_of_false (fun ⟨data, h, _⟩ => by cases h) ?_
    cases s.error <;> simp
  | some data =>
    cases s.error with
    | none => exact iff_of_true ⟨data, rfl, fun render => List.suffix_refl _⟩ (.inl rfl)
    | some e => exact iff_of_true ⟨data, rfl, fun render => List.suffix_cons ..⟩ (.inr rfl)

theorem showsRefreshFailed_iff : ShowsRefreshFailed s ↔ s.phase = .kept := by
  unfold ShowsRefreshFailed fetched Shown.phase
  cases s.data with
  | none =>
    cases s.error with
    | none => exact iff_of_false (fun ⟨e, h, _⟩ => by cases h) (by simp)
    | some e =>
      refine iff_of_false ?_ (by simp)
      rintro ⟨e', -, h⟩
      exact head?_failure_ne e e' (h fun _ => [])
  | some data =>
    cases s.error with
    | none => exact iff_of_false (fun ⟨e, h, _⟩ => by cases h) (by simp)
    | some e => exact iff_of_true ⟨e, rfl, fun _ => rfl⟩ rfl

end View

namespace Resource

/-- **Four phases.**  After every event of every run a resource is in exactly one of the phases: it
is fresh iff no answer has come to a request that was the latest one at that moment.  The line that
asks for patience is seen iff it is fresh, its error in place of data iff it failed, its data iff it
is loaded or kept, and the line about a failed refresh iff it is kept, that is, only for an error of
kind `network`. -/
theorem shown_in_one_phase {α : Type} [Payload α] (settings : FetchSettings) (path : String)
    (body : RequestBody) (es : List Event) :
    let a := (Recorded.start settings path body : Recorded α).run es
    let s := a.resource.toShown
    (∃! p, s.InPhase p) ∧
      (s.InPhase .fresh ↔ ∀ d ∈ a.ledger.delivered, d.isTimely = false) ∧
      (View.ShowsLoading s ↔ s.InPhase .fresh) ∧
      (View.ShowsFailure s ↔ s.InPhase .failed) ∧
      (View.ShowsData s ↔ s.InPhase .loaded ∨ s.InPhase .kept) ∧
      (View.ShowsRefreshFailed s ↔ s.InPhase .kept) := by
  intro a s
  have ha : Phased a := Recorded.phased_run settings path body es
  obtain ⟨p, hp⟩ : ∃ p, s.InPhase p := by
    by_cases ht : a.ledger.HasTimely
    · rcases ha.settled ht with h | h | h
      · exact ⟨_, h⟩
      · exact ⟨_, h⟩
      · exact ⟨_, h⟩
    · exact ⟨_, ha.fresh ht⟩
  have hphase : ∀ q, s.phase = q ↔ s.InPhase q := fun q =>
    ⟨fun h => h ▸ hp.phase_eq ▸ hp, fun h => h.phase_eq⟩
  have hfresh : s.InPhase .fresh ↔ ¬a.ledger.HasTimely := by
    refine ⟨fun hf ht => ?_, ha.fresh⟩
    rcases ha.settled ht with h | h | h <;> cases hf.unique h
  refine ⟨⟨p, hp, fun q hq => hp.unique hq⟩, ?_, ?_, ?_, ?_, ?_⟩
  · rw [hfresh]
    simp [Ledger.HasTimely]
  · rw [View.showsLoading_iff, hphase]
  · rw [View.showsFailure_iff, hphase]
  · rw [View.showsData_iff, hphase, hphase]
  · rw [View.showsRefreshFailed_iff, hphase]

end Resource

end JudgeClient
