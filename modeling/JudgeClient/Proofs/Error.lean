import JudgeClient.Error
import Mathlib.Tactic.SplitIfs

/-!
# The kind of a reported error

An answer that is no success has a status, and it may bring an envelope with a reason.  The reasons
that the API documents have a kind of their own, whatever the status is; for any other reason, and
without an envelope, the kind follows from the status.

* `ErrorKind.mem_reasons_iff`, `ErrorKind.isOfStatus_iff` : the two tables that the client has;
* `ErrorKind.isOfEnvelope_iff` : the kind for an envelope;
* `ErrorKind.mem_reported_of_isOfEnvelope` : no kind but these is ever reported.
-/

namespace JudgeClient.ErrorKind

variable {reason : String} {status : Nat} {kind : ErrorKind}

/-! ### Reasons -/

/-- The reasons that the API gives, each with its kind. -/
def reasons : List (String × ErrorKind) :=
  [("ERR_NOT_FOUND", .notFound), ("ERR_RATE_LIMIT", .rateLimit),
    ("ERR_INVALID_ARGUMENT", .invalidArgument), ("ERR_INVALID_STATE", .invalidState),
    ("ERR_EXTERNAL", .internal), ("ERR_INTERNAL", .internal)]

theorem mem_reasons_iff : (reason, kind) ∈ reasons ↔ ofReason? reason = some kind := by
  unfold ofReason?
  split <;> simp_all [reasons, eq_comm]

/-! ### Statuses -/

/-- The kind that a status has by itself.  Two statuses of the client's own range are told apart
from the rest of it. -/
inductive IsOfStatus : Nat → ErrorKind → Prop
  | missing : IsOfStatus 404 .notFound
  | limited : IsOfStatus 429 .rateLimit
  | client {status : Nat} (hrange : 400 ≤ status ∧ status ≤ 499) (hmissing : status ≠ 404)
      (hlimited : status ≠ 429) : IsOfStatus status .invalidArgument
  | other {status : Nat} (hrange : ¬(400 ≤ status ∧ status ≤ 499)) : IsOfStatus status .internal

theorem isOfStatus_ofStatus (status : Nat) : IsOfStatus status (ofStatus status) := by
  unfold ofStatus
  split_ifs with hmissing hlimited hrange
  · exact hmissing ▸ .missing
  · exact hlimited ▸ .limited
  · exact .client hrange hmissing hlimited
  · exact .other hrange

theorem isOfStatus_iff : IsOfStatus status kind ↔ ofStatus status = kind := by
  refine ⟨fun h => ?_, fun h => h ▸ isOfStatus_ofStatus status⟩
  cases h with
  | missing => rfl
  | limited => rfl
  | client hrange hmissing hlimited =>
    rw [ofStatus, if_neg hmissing, if_neg hlimited, if_pos hrange]
  | other hrange =>
    -- the two statuses lie in the range
    rw [ofStatus, if_neg (by omega), if_neg (by omega), if_neg hrange]

/-! ### Envelopes -/

/-- The kind of an error that is reported with a reason, in an answer with a status: the kind of the
reason if it has one, and the kind of the status if not. -/
inductive IsOfEnvelope (reason : String) (status : Nat) (kind : ErrorKind) : Prop
  | known (h : (reason, kind) ∈ reasons)
  | unknown (h : ∀ other, (reason, other) ∉ reasons) (hstatus : IsOfStatus status kind)

theorem isOfEnvelope_iff :
    IsOfEnvelope reason status kind ↔ (ofReason? reason).getD (ofStatus status) = kind := by
  cases h : ofReason? reason with
  | none =>
    -- the table has no entry for the reason, so only the status is left
    have hunknown : ∀ other, (reason, other) ∉ reasons := fun other hmem => by
      simp [mem_reasons_iff.1 hmem] at h
    refine ⟨fun he => ?_, fun hs => .unknown hunknown (isOfStatus_iff.2 hs)⟩
    cases he with
    | known hmem => exact absurd hmem (hunknown kind)
    | unknown _ hstatus => exact isOfStatus_iff.1 hstatus
  | some own =>
    -- the table has one, and the status does not count
    refine ⟨fun he => ?_, fun hown => .known (mem_reasons_iff.2 (h.trans (congrArg some hown)))⟩
    cases he with
    | known hmem => exact Option.some.inj (h.symm.trans (mem_reasons_iff.1 hmem))
    | unknown hnone _ => exact absurd (mem_reasons_iff.2 h) (hnone own)

/-! ### All reports -/

/-- The kinds of errors that the API reports. -/
def reported : List ErrorKind :=
  [.notFound, .rateLimit, .invalidArgument, .invalidState, .internal]

theorem mem_reported_of_isOfStatus (h : IsOfStatus status kind) : kind ∈ reported := by
  cases h <;> decide

theorem mem_reported_of_isOfEnvelope (h : IsOfEnvelope reason status kind) : kind ∈ reported := by
  cases h with
  | known hmem =>
    have hkinds : ∀ entry ∈ reasons, entry.2 ∈ reported := by decide
    exact hkinds _ hmem
  | unknown _ hstatus => exact mem_reported_of_isOfStatus hstatus

end JudgeClient.ErrorKind
