import JudgeClient.Payload.Job
import JudgeClient.Proofs.Payload.Lawful

/-!
# Submissions read back

A submission that was written comes back as it was, whatever its texts hold and in whatever order
its entries stand.

* `Submission.decode_sortEntries` : the text of a submission with its entries sorted.
-/

namespace JudgeClient

open LawfulPayload

instance : LawfulRecord Submission where
  fieldLevels := 0
  readEntries s := [("source_code", readAs s.sourceCode), ("language", readAs s.language),
    ("user_id", readAs s.userId), ("contest_id", readAs s.contestId),
    ("problem_id", readAs s.problemId)]
  exists_shape_eq := ⟨_, rfl⟩
  nodup_fields := by decide
  toJson_eq _ := rfl
  readsFields s _ h := .field s.sourceCode h <| .field s.language h <| .field s.userId h <|
    .field s.contestId h <| .field s.problemId h .nil
  ofJson?_readEntries s := by simp [Payload.ofJson?]

/-- The text of a submission with its entries sorted. -/
theorem Submission.decode_sortEntries (s : Submission) :
    Payload.decode Submission (Payload.toJson s).sortEntries.compact = .ok s :=
  LawfulRecord.decode_sortEntries (by decide) s

end JudgeClient
