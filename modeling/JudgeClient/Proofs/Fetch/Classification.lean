import JudgeClient.Proofs.Fetch.Outcome
import JudgeClient.Proofs.Json.Soundness
import JudgeClient.Proofs.Payload.Envelope
import JudgeClient.Proofs.Text.Blank

/-!
# Telling responses apart

Two decoders share the responses.  The body of a success is read as the payload, without the blanks
around it; the body of any other response is read as an envelope, as it stands.  If the second one
fails, nothing of the body is kept: the status alone says what kind of error the response is.

* `Response.jsonText_eq` : the text that a success is read from;
* `Response.failure_of_compact` : what an envelope says, its entries in any order;
* `Response.failure_of_not_isToldBy`, `Response.failure_of_not_isText` : bodies that are none;
* `Response.classifies` : all of it.
-/

namespace JudgeClient

/-- Only JSON texts are decoded. -/
theorem Payload.isText_of_decode {α : Type} [Payload α] {s : String} {a : α}
    (h : decode α s = .ok a) : Json.Grammar.IsText s.toList := by
  obtain ⟨v, hparse, -⟩ := Json.exists_of_bind_eq_ok h
  exact Json.Grammar.isText_of_parse hparse

namespace Response

variable {r : Response}

theorem isSuccess_iff : r.isSuccess = true ↔ 200 ≤ r.status ∧ r.status < 300 := by
  simp [isSuccess]

/-- There is one text in a body without blanks around it, and it is read; `null` is read if there is
nothing but blanks. -/
theorem jsonText_eq (r : Response) :
    ∃ text, (∀ other, Text.IsTrimmed r.body.toList other ↔ other = text) ∧
      r.jsonText = if text = [] then "null" else String.ofList text := by
  refine ⟨Text.trim r.body.toList, fun other => Text.trim_eq_iff.symm.trans eq_comm, ?_⟩
  unfold jsonText
  cases Text.trim r.body.toList with
  | nil => rfl
  | cons c s => rw [if_neg (List.cons_ne_nil c s)]

/-! ### Successes -/

section Success

variable {α : Type} [Payload α]

theorem decode_eq_ok_iff {a : α} : r.decode α = .ok a ↔
    (200 ≤ r.status ∧ r.status < 300) ∧ Payload.decode α r.jsonText = .ok a := by
  rw [← isSuccess_iff, decode]
  cases r.isSuccess with
  | false => simp
  | true => cases Payload.decode α r.jsonText <;> simp

theorem decode_of_fault (h : 200 ≤ r.status ∧ r.status < 300) {fault : Json.Fault}
    (hf : Payload.decode α r.jsonText = .error fault) : r.decode α =
      .error ⟨.invalidResponse, fault.message ++ "\n  >" ++ ("HTTP " ++ toString r.status)⟩ := by
  rw [decode, if_pos (isSuccess_iff.2 h), hf]
  rfl

theorem decode_of_not_success (h : ¬(200 ≤ r.status ∧ r.status < 300)) :
    r.decode α = .error r.failure := by
  rw [decode, if_neg fun hs => h (isSuccess_iff.1 hs)]

/-- The one error that a response which is no success stands for. -/
theorem decode_eq_error_iff (h : ¬(200 ≤ r.status ∧ r.status < 300)) {kind : ErrorKind}
    {context : String} (hfailure : r.failure = ⟨kind, context⟩) {e : Error} :
    r.decode α = .error e ↔ kind = e.kind ∧ e.context = context := by
  rw [decode_of_not_success h, hfailure, Except.error.injEq]
  cases e
  simp [eq_comm]

end Success

/-! ### Failures -/

theorem failure_of_compact {code : UInt8} {reason message : String} {es : List (String × Json)}
    (h : es.Perm [("code", .int code.toNat), ("reason", .text reason),
      ("message", .text message)]) (hbody : r.body = (Json.object es).compact) :
    r.failure = ⟨(ErrorKind.ofReason? reason).getD (ErrorKind.ofStatus r.status), message⟩ :=
  failure_of_decode_eq_ok (hbody ▸ ErrorResponse.decode_of_perm h)

theorem failure_of_not_isToldBy {v : Json} (h : ∀ e : ErrorResponse, ¬e.IsToldBy v)
    (hbody : r.body = v.compact) :
    r.failure = ⟨ErrorKind.ofStatus r.status, "HTTP " ++ toString r.status⟩ :=
  failure_of_forall_ne fun e he => h e (ErrorResponse.isToldBy_of_decode (hbody ▸ he))

theorem failure_of_not_isText (h : ¬Json.Grammar.IsText r.body.toList) :
    r.failure = ⟨ErrorKind.ofStatus r.status, "HTTP " ++ toString r.status⟩ :=
  failure_of_forall_ne fun _ he => h (Payload.isText_of_decode he)

/-! ### All responses -/

/-- **What a response stands for.**  A success is the payload that its text holds, or an error that
ends in the line with the status.  Any other response is an error, be its body a payload or not.  An
envelope tells the error: its message, and the kind of its reason or, for a reason that the API does
not document, of the status.  A body that is no envelope leaves the status alone to tell both. -/
theorem classifies (r : Response) :
    (∃ text, (∀ other, Text.IsTrimmed r.body.toList other ↔ other = text) ∧
      r.jsonText = if text = [] then "null" else String.ofList text) ∧
    (∀ (α : Type) [Payload α],
      (∀ a : α, r.decode α = .ok a ↔
        (200 ≤ r.status ∧ r.status < 300) ∧ Payload.decode α r.jsonText = .ok a) ∧
      (200 ≤ r.status ∧ r.status < 300 →
        (∀ a : α, Payload.decode α r.jsonText ≠ .ok a) ∨ ¬Json.Grammar.IsText r.jsonText.toList →
        ∃ context, r.decode α = .error ⟨.invalidResponse,
          context ++ "\n  >" ++ ("HTTP " ++ toString r.status)⟩) ∧
      (¬(200 ≤ r.status ∧ r.status < 300) →
        (∀ (code : UInt8) (reason message : String) (es : List (String × Json)),
          es.Perm [("code", .int code.toNat), ("reason", .text reason),
            ("message", .text message)] → r.body = (Json.object es).compact →
          ∀ e, r.decode α = .error e ↔
            ErrorKind.IsOfEnvelope reason r.status e.kind ∧ e.context = message) ∧
        ((∀ e, Payload.decode ErrorResponse r.body ≠ .ok e) ∨
          (∃ v : Json, r.body = v.compact ∧ ∀ e : ErrorResponse, ¬e.IsToldBy v) ∨
          ¬Json.Grammar.IsText r.body.toList →
          ∀ e, r.decode α = .error e ↔
            ErrorKind.IsOfStatus r.status e.kind ∧ e.context = "HTTP " ++ toString r.status))) := by
  refine ⟨jsonText_eq r, fun α _ => ⟨fun a => decode_eq_ok_iff, fun hs hne => ?_, fun hs => ?_⟩⟩
  · cases hd : Payload.decode α r.jsonText with
    | ok a => exact (hne.elim (· a hd) (· (Payload.isText_of_decode hd))).elim
    | error fault => exact ⟨fault.message, decode_of_fault hs hd⟩
  · refine ⟨fun code reason message es hp hbody e => ?_, fun hbody e => ?_⟩
    · rw [decode_eq_error_iff hs (failure_of_compact hp hbody), ErrorKind.isOfEnvelope_iff]
    · -- in whichever way the body is no envelope, nothing of it is kept
      have hfailure : r.failure = ⟨.ofStatus r.status, "HTTP " ++ toString r.status⟩ := by
        rcases hbody with hne | ⟨v, hbody, hv⟩ | htext
        · exact failure_of_forall_ne hne
        · exact failure_of_not_isToldBy hv hbody
        · exact failure_of_not_isText htext
      rw [decode_eq_error_iff hs hfailure, ErrorKind.isOfStatus_iff]

/-- A page of a proxy as a success and as a failure, an envelope whose reason says something else
than the status, with its entries in another order, the same one with a code that does not fit eight
bits, and one with a reason of its own. -/
theorem classifies_of_wrong_code :
    (∃ context, Response.decode Unit ⟨200, "Bad Gateway"⟩ =
      .error ⟨.invalidResponse, context ++ "\n  >" ++ "HTTP 200"⟩) ∧
    Response.decode Unit ⟨502, "Bad Gateway"⟩ = .error ⟨.internal, "HTTP 502"⟩ ∧
    Response.decode Unit ⟨503, (Json.object [("reason", .text "ERR_NOT_FOUND"), ("code", .int 3),
      ("message", .text "Job 5 not found.")]).compact⟩ = .error ⟨.notFound, "Job 5 not found."⟩ ∧
    Response.decode Unit ⟨503, (Json.object [("code", .int 256), ("reason", .text "ERR_NOT_FOUND"),
      ("message", .text "Job 5 not found.")]).compact⟩ = .error ⟨.internal, "HTTP 503"⟩ ∧
    Response.decode Unit ⟨429, (Json.object [("code", .int 9), ("reason", .text "ERR_BUSY"),
      ("message", .text "Try later.")]).compact⟩ = .error ⟨.rateLimit, "Try later."⟩ := by
  refine ⟨?_, ?_, ?_, ?_, ?_⟩
  · exact ((classifies ⟨200, "Bad Gateway"⟩).2 Unit).2.1 (by decide)
      (.inl (by rintro a h; cases h))
  · exact ((((classifies ⟨502, "Bad Gateway"⟩).2 Unit).2.2 (by decide)).2
      (.inl (by rintro e h; cases h)) _).2 ⟨.other (by decide), rfl⟩
  · exact ((((classifies ⟨503, _⟩).2 Unit).2.2 (by decide)).1 3 "ERR_NOT_FOUND" "Job 5 not found."
      _ (.swap _ _ _) rfl _).2 ⟨.known (by decide), rfl⟩
  · refine ((((classifies ⟨503, _⟩).2 Unit).2.2 (by decide)).2 (.inr (.inl ⟨_, rfl, ?_⟩)) _).2
      ⟨.other (by decide), rfl⟩
    rintro e (⟨es, hes, hcode, -⟩ | harray)
    · cases hes
      have hsize : (256 : Int) = e.code.toNat := Json.int.inj (Option.some.inj hcode)
      have := e.code.toNat_lt
      omega
    · cases harray
  · have hunknown : ∀ kind, ("ERR_BUSY", kind) ∉ ErrorKind.reasons := by simp [ErrorKind.reasons]
    exact ((((classifies ⟨429, _⟩).2 Unit).2.2 (by decide)).1 9 "ERR_BUSY" "Try later."
      _ (.refl _) rfl _).2 ⟨.unknown hunknown .limited, rfl⟩

end Response

end JudgeClient
