import JudgeClient.Fetch.Decoding
import JudgeClient.Proofs.Error

/-!
# What an outcome is decoded to

An outcome carries a payload, or an error whose kind tells where it comes from: a successful
response that does not read gives `invalidResponse`, any other response one of the kinds that the
API has, and without a response the error is the connection's own.  So only a connection can bring
an error of kind `network`.

* `Response.failure_of_decode_eq_ok`, `Response.failure_of_forall_ne` : the two sides of an
  envelope;
* `Outcome.decode_eq_ok_iff` : payloads come from successful responses;
* `Outcome.decode_eq_error` : where errors come from.
-/

namespace JudgeClient

namespace Response

theorem failure_of_decode_eq_ok {r : Response} {e : ErrorResponse}
    (h : Payload.decode ErrorResponse r.body = .ok e) :
    r.failure = ⟨(ErrorKind.ofReason? e.reason).getD (ErrorKind.ofStatus r.status), e.message⟩ := by
  rw [failure, h]

/-- A body that is no envelope leaves the status alone to tell the error. -/
theorem failure_of_forall_ne {r : Response}
    (h : ∀ e, Payload.decode ErrorResponse r.body ≠ .ok e) :
    r.failure = ⟨ErrorKind.ofStatus r.status, "HTTP " ++ toString r.status⟩ := by
  cases hd : Payload.decode ErrorResponse r.body with
  | ok e => exact absurd hd (h e)
  | error fault => rw [failure, hd]; rfl

theorem kind_failure_mem_reported (r : Response) : r.failure.kind ∈ ErrorKind.reported := by
  cases hd : Payload.decode ErrorResponse r.body with
  | ok e =>
    rw [failure_of_decode_eq_ok hd]
    exact ErrorKind.mem_reported_of_isOfEnvelope (ErrorKind.isOfEnvelope_iff.2 rfl)
  | error fault =>
    rw [failure_of_forall_ne (by simp [hd])]
    exact ErrorKind.mem_reported_of_isOfStatus (ErrorKind.isOfStatus_iff.2 rfl)

variable {α : Type} [Payload α] {r : Response} {e : Error}

theorem isSuccess_of_decode_eq_ok {data : α} (h : r.decode α = .ok data) : r.isSuccess = true := by
  unfold decode at h
  split at h
  · assumption
  · cases h

theorem kind_of_decode_eq_error (h : r.decode α = .error e) :
    r.isSuccess = true ∧ e.kind = .invalidResponse ∨
      r.isSuccess = false ∧ e.kind ∈ ErrorKind.reported := by
  unfold decode at h
  cases hs : r.isSuccess with
  | true =>
    rw [hs, if_pos rfl] at h
    cases hd : Payload.decode α r.jsonText with
    | ok data => simp [hd] at h
    | error f =>
      simp only [hd, Except.error.injEq] at h
      exact .inl ⟨rfl, h ▸ rfl⟩
  | false =>
    simp only [hs, Bool.false_eq_true, if_false, Except.error.injEq] at h
    exact .inr ⟨rfl, h ▸ kind_failure_mem_reported r⟩

end Response

namespace Outcome

variable {α : Type} [Payload α] {outcome : Outcome} {e : Error}

theorem decode_eq_ok_iff {data : α} : outcome.decode α = .ok data ↔
    ∃ response, outcome = .ok response ∧ response.isSuccess = true ∧
      response.decode α = .ok data := by
  constructor
  · intro h
    cases outcome with
    | error e => cases h
    | ok response => exact ⟨response, rfl, Response.isSuccess_of_decode_eq_ok h, h⟩
  · rintro ⟨response, rfl, -, h⟩
    exact h

theorem decode_eq_error (h : outcome.decode α = .error e) :
    outcome = .error e ∨ ∃ response, outcome = .ok response ∧
      (response.isSuccess = true ∧ e.kind = .invalidResponse ∨
        response.isSuccess = false ∧ e.kind ∈ ErrorKind.reported) := by
  cases outcome with
  | error e' => exact .inl (congrArg Except.error (Except.error.inj h))
  | ok response => exact .inr ⟨response, rfl, Response.kind_of_decode_eq_error h⟩

/-- Only a connection brings an error of kind `network`. -/
theorem eq_error_of_kind_eq_network (h : outcome.decode α = .error e) (hk : e.kind = .network) :
    outcome = .error e := by
  rcases decode_eq_error h with h | ⟨response, -, ⟨-, hi⟩ | ⟨-, hr⟩⟩
  · exact h
  · rw [hk] at hi
    cases hi
  · rw [hk] at hr
    exact absurd hr (by decide)

end Outcome

end JudgeClient
