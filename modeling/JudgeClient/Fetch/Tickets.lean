/-!
# Tickets

Requests are numbered in the order in which they are issued, so that an answer to a request that
has been superseded can be told from an answer to the latest one.

The numbers are unbounded.  `isCurrent_word` says that words of 64 bits tell the latest request just
as well, as long as there are words for all requests.
-/

namespace JudgeClient

/-- The numbering of the requests of one resource. -/
structure Tickets where
  /-- The number of the latest request, or `0` before the first one. -/
  latest : Nat := 0
deriving DecidableEq, Repr

namespace Tickets

/-- The numbering with one more request, whose number is the latest one. -/
def issue (t : Tickets) : Tickets := ⟨t.latest + 1⟩

/-- No request has been issued since the one with the given number. -/
def isCurrent (t : Tickets) (ticket : Nat) : Bool := t.latest == ticket

@[simp] theorem latest_issue (t : Tickets) : t.issue.latest = t.latest + 1 := rfl

theorem isCurrent_iff {t : Tickets} {ticket : Nat} :
    t.isCurrent ticket = true ↔ t.latest = ticket := by
  simp [isCurrent]

theorem isCurrent_word {t : Tickets} (ht : t.latest < UInt64.size) {ticket : Nat}
    (hle : ticket ≤ t.latest) :
    (UInt64.ofNat t.latest == UInt64.ofNat ticket) = t.isCurrent ticket := by
  have hword : UInt64.ofNat t.latest = UInt64.ofNat ticket ↔ t.latest = ticket := by
    refine ⟨fun h => ?_, fun h => by rw [h]⟩
    have := congrArg UInt64.toNat h
    rwa [UInt64.toNat_ofNat_of_lt' ht, UInt64.toNat_ofNat_of_lt' (by omega)] at this
  rw [Bool.eq_iff_iff, beq_iff_eq, isCurrent_iff]
  exact hword

end Tickets

end JudgeClient
