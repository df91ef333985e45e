import JudgeClient.Error
import JudgeClient.Payload.Contest
import JudgeClient.Payload.Envelope
import JudgeClient.Payload.Search
import JudgeClient.Proofs.Payload.Submission

/-!
# What comes back

Everything without floating-point numbers that the client sends, receives or stores comes back
from its compact text: each field of a record obeys the law of its type, and a record the law of
its fields.

* `Payload.decode_encode_eq_ok` : the law for every such type.
-/

namespace JudgeClient

open LawfulPayload

/-! ### Enumerations -/

instance : LawfulPayload JobState := .ofSpelled JobState
instance : LawfulPayload JobResult := .ofSpelled JobResult
instance : LawfulPayload ProblemType := .ofSpelled ProblemType
instance : LawfulPayload ScoringRule := .ofSpelled ScoringRule
instance : LawfulPayload TieBreaker := .ofSpelled TieBreaker
instance : LawfulPayload ErrorKind := .ofSpelled ErrorKind

instance : NeverNull JobState := .ofSpelled JobState
instance : NeverNull JobResult := .ofSpelled JobResult
instance : NeverNull TieBreaker := .ofSpelled TieBreaker

/-! ### Records -/

instance : LawfulRecord Case where
  fieldLevels := 0
  readEntries c := [("id", readAs c.id), ("result", readAs c.result), ("time", readAs c.time),
    ("memory", readAs c.memory), ("info", readAs c.info)]
  exists_shape_eq := ⟨_, rfl⟩
  nodup_fields := by decide
  toJson_eq _ := rfl
  readsFields c _ h := .field c.id h <| .field c.result h <| .field c.time h <|
    .field c.memory h <| .field c.info h .nil
  ofJson?_readEntries c := by simp [Payload.ofJson?]

instance : LawfulRecord Problem where
  fieldLevels := 0
  readEntries p := [("id", readAs p.id), ("name", readAs p.name),
    ("problem_type", readAs p.problemType)]
  exists_shape_eq := ⟨_, rfl⟩
  nodup_fields := by decide
  toJson_eq _ := rfl
  readsFields p _ h := .field p.id h <| .field p.name h <| .field p.problemType h .nil
  ofJson?_readEntries p := by simp [Payload.ofJson?]

instance : LawfulRecord User where
  fieldLevels := 0
  readEntries u := [("id", readAs u.id), ("name", readAs u.name)]
  exists_shape_eq := ⟨_, rfl⟩
  nodup_fields := by decide
  toJson_eq _ := rfl
  readsFields u _ h := .field u.id h <| .field u.name h .nil
  ofJson?_readEntries u := by simp [Payload.ofJson?]

instance : LawfulRecord Contest where
  fieldLevels := 1
  readEntries c := [("id", readAs c.id), ("name", readAs c.name), ("from", readAs c.start),
    ("to", readAs c.stop), ("problem_ids", readAs c.problemIds), ("user_ids", readAs c.userIds),
    ("submission_limit", readAs c.submissionLimit)]
  exists_shape_eq := ⟨_, rfl⟩
  nodup_fields := by decide
  toJson_eq _ := rfl
  readsFields c _ h := .field c.id (Nat.zero_le _) <| .field c.name (Nat.zero_le _) <|
    .field c.start (Nat.zero_le _) <| .field c.stop (Nat.zero_le _) <| .field c.problemIds h <|
    .field c.userIds h <| .field c.submissionLimit (Nat.zero_le _) .nil
  ofJson?_readEntries c := by simp [Payload.ofJson?]

instance : LawfulRecord JobFilter where
  fieldLevels := 0
  readEntries f := [("user_id", readAs f.userId), ("user_name", readAs f.userName),
    ("contest_id", readAs f.contestId), ("problem_id", readAs f.problemId),
    ("language", readAs f.language), ("state", readAs f.state), ("result", readAs f.result)]
  exists_shape_eq := ⟨_, rfl⟩
  nodup_fields := by decide
  toJson_eq _ := rfl
  readsFields f _ h := by
    -- the entries end in the empty list, in front of which the optional ones are put
    have hentries : Payload.entries f =
        Payload.optionalEntry "user_id" f.userId ++ (Payload.optionalEntry "user_name" f.userName ++
        (Payload.optionalEntry "contest_id" f.contestId ++
        (Payload.optionalEntry "problem_id" f.problemId ++
        (Payload.optionalEntry "language" f.language ++
        (Payload.optionalEntry "state" f.state ++
        (Payload.optionalEntry "result" f.result ++ [])))))) := by
      simp only [Payload.entries, Payload.toJson, List.append_assoc, List.append_nil]
    rw [hentries]
    exact .optionalField f.userId h <| .optionalField f.userName h <|
      .optionalField f.contestId h <| .optionalField f.problemId h <|
      .optionalField f.language h <| .optionalField f.state h <| .optionalField f.result h .nil
  ofJson?_readEntries f := by simp [Payload.ofJson?]

instance : LawfulRecord RankListQuery where
  fieldLevels := 0
  readEntries q := [("scoring_rule", readAs q.scoringRule), ("tie_breaker", readAs q.tieBreaker)]
  exists_shape_eq := ⟨_, rfl⟩
  nodup_fields := by decide
  toJson_eq _ := rfl
  readsFields q _ h := by
    have hentries : Payload.entries q = ("scoring_rule", Payload.toJson q.scoringRule) ::
        (Payload.optionalEntry "tie_breaker" q.tieBreaker ++ []) := by
      rw [List.append_nil]
      rfl
    rw [hentries]
    exact .field q.scoringRule h <| .optionalField q.tieBreaker h .nil
  ofJson?_readEntries q := by simp [Payload.ofJson?]

instance : LawfulRecord ErrorResponse where
  fieldLevels := 0
  readEntries e := [("code", readAs e.code), ("reason", readAs e.reason),
    ("message", readAs e.message)]
  exists_shape_eq := ⟨_, rfl⟩
  nodup_fields := by decide
  toJson_eq _ := rfl
  readsFields e _ h := .field e.code h <| .field e.reason h <| .field e.message h .nil
  ofJson?_readEntries e := by simp [Payload.ofJson?]

instance : LawfulRecord Error where
  fieldLevels := 0
  readEntries e := [("kind", readAs e.kind), ("context", readAs e.context)]
  exists_shape_eq := ⟨_, rfl⟩
  nodup_fields := by decide
  toJson_eq _ := rfl
  readsFields e _ h := .field e.kind h <| .field e.context h .nil
  ofJson?_readEntries e := by simp [Payload.ofJson?]

/-! ### All of them -/

/-- **Everything without floating-point numbers comes back** from its compact text, whatever its
texts hold, however large its numbers are, and whichever of its optional fields are absent. -/
theorem Payload.decode_encode_eq_ok :
    (∀ s : Submission, decode Submission (encode s) = .ok s) ∧
    (∀ c : Case, decode Case (encode c) = .ok c) ∧
    (∀ p : Problem, decode Problem (encode p) = .ok p) ∧
    (∀ u : User, decode User (encode u) = .ok u) ∧
    (∀ c : Contest, decode Contest (encode c) = .ok c) ∧
    (∀ f : JobFilter, decode JobFilter (encode f) = .ok f) ∧
    (∀ q : RankListQuery, decode RankListQuery (encode q) = .ok q) ∧
    (∀ e : ErrorResponse, decode ErrorResponse (encode e) = .ok e) ∧
    (∀ e : Error, decode Error (encode e) = .ok e) :=
  ⟨decode_encode (by decide), decode_encode (by decide), decode_encode (by decide),
    decode_encode (by decide), decode_encode (by decide), decode_encode (by decide),
    decode_encode (by decide), decode_encode (by decide), decode_encode (by decide)⟩

end JudgeClient
