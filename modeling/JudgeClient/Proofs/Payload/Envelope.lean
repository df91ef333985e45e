import JudgeClient.Proofs.Json.Refusal
import JudgeClient.Proofs.Payload.RoundTrip

/-!
# Envelopes and what is none

An envelope is read from an object with its three fields, among others, or from an array of the
three.  Of all other values none is read as an envelope: a field that is missing or of a wrong
kind, or a code that does not fit eight bits, makes the whole value unreadable.

* `ErrorResponse.decode_of_perm` : the entries of an envelope, in whatever order;
* `ErrorResponse.isToldBy_of_decode` : nothing else.
-/

namespace JudgeClient

namespace ErrorResponse

/-- The value holds the envelope, be it as an object or as an array. -/
def IsToldBy (e : ErrorResponse) (v : Json) : Prop :=
  (∃ es, v = .object es ∧ Json.lookup "code" es = some (.int e.code.toNat) ∧
    Json.lookup "reason" es = some (.text e.reason) ∧
    Json.lookup "message" es = some (.text e.message)) ∨
  v = .array [.int e.code.toNat, .text e.reason, .text e.message]

/-- The text of an envelope's entries, in whatever order they stand, is the envelope's. -/
theorem decode_of_perm {code : UInt8} {reason message : String} {es : List (String × Json)}
    (h : es.Perm [("code", .int code.toNat), ("reason", .text reason),
      ("message", .text message)]) :
    Payload.decode ErrorResponse (Json.object es).compact = .ok ⟨code, reason, message⟩ :=
  LawfulRecord.decode_of_perm (by decide) h

/-- The kind of value that a field of an envelope takes. -/
def FieldKind (name : String) (v : Json) : Prop :=
  if name = "code" then ∃ code : UInt8, v = .int code.toNat else ∃ t, v = .text t

/-- The readers of an envelope's fields. -/
def readers : List Json.FieldReader :=
  Json.fieldReaders (Json.maxDepth - 1) [("code", .uint8), ("reason", .text), ("message", .text)]

theorem takes_code (depth : Nat) :
    Json.Takes (Json.Shape.uint8.read depth) fun v => ∃ code : UInt8, v = .int code.toNat := by
  intro v w s t hs h
  obtain ⟨hw, ht, i, rfl, hlow, hhigh⟩ := Json.takes_readInt _ _ _ hs h
  refine ⟨hw, ht, UInt8.ofNat i.toNat, ?_⟩
  have hsize : i.toNat < UInt8.size := by omega
  rw [UInt8.toNat_ofNat_of_lt' hsize, Int.toNat_of_nonneg hlow]

theorem takes_readers : ∀ f ∈ readers, Json.Takes f.read (FieldKind f.name) := by
  have htext : ∀ name, name ≠ "code" →
      Json.Takes (Json.Shape.text.read (Json.maxDepth - 1)) (FieldKind name) := by
    intro name hname v w s t hs h
    rw [FieldKind, if_neg hname]
    exact Json.takes_readString _ hs h
  exact List.forall_mem_cons.2 ⟨takes_code (Json.maxDepth - 1),
    List.forall_mem_cons.2 ⟨htext "reason" (by decide),
      List.forall_mem_singleton.2 (htext "message" (by decide))⟩⟩

/-- The entries that an envelope is read as. -/
theorem eq_of_member {code : UInt8} {reason message : String} {e : ErrorResponse}
    (h : Payload.member ErrorResponse (.object [("code", .int code.toNat),
      ("reason", .text reason), ("message", .text message)]) = .ok e) :
    e = ⟨code, reason, message⟩ := by
  have hread : Payload.ofJson? (.object [("code", .int code.toNat),
      ("reason", .text reason), ("message", .text message)]) =
      some (⟨code, reason, message⟩ : ErrorResponse) :=
    LawfulRecord.ofJson?_readEntries (⟨code, reason, message⟩ : ErrorResponse)
  rw [Payload.member, hread] at h
  exact (Except.ok.inj h).symm

theorem isToldBy_of_object {es : List (String × Json)} {w : Json} {s t : List Char}
    {e : ErrorResponse} (h : Json.readRecord Json.maxDepth "ErrorResponse"
      (Payload.shape ErrorResponse).wanted readers (Json.render (.object es) ++ s) = .ok (w, t))
    (he : Payload.member ErrorResponse w = .ok e) : e.IsToldBy (.object es) := by
  obtain ⟨-, rs, rfl, hholds⟩ := Json.readRecord_object takes_readers h
  obtain _ | ⟨hcode, _ | ⟨hreason, _ | ⟨hmessage, ⟨⟩⟩⟩⟩ := hholds
  obtain ⟨v, rfl, hcode, code, rfl⟩ := hcode.of_required rfl
  obtain ⟨v, rfl, hreason, reason, rfl⟩ := hreason.of_required rfl
  obtain ⟨v, rfl, hmessage, message, rfl⟩ := hmessage.of_required rfl
  obtain rfl := eq_of_member he
  exact .inl ⟨es, rfl, hcode, hreason, hmessage⟩

theorem isToldBy_of_array {vs : List Json} {w : Json} {s t : List Char}
    {e : ErrorResponse} (h : Json.readRecord Json.maxDepth "ErrorResponse"
      (Payload.shape ErrorResponse).wanted readers (Json.render (.array vs) ++ s) = .ok (w, t))
    (he : Payload.member ErrorResponse w = .ok e) : e.IsToldBy (.array vs) := by
  obtain ⟨-, hkinds, rfl⟩ := Json.readRecord_array takes_readers (List.cons_ne_nil _ _) h
  obtain _ | ⟨⟨code, rfl⟩, _ | ⟨⟨reason, rfl⟩, _ | ⟨⟨message, rfl⟩, ⟨⟩⟩⟩⟩ := hkinds
  exact .inr (eq_of_member he ▸ rfl)

/-- What is decoded as an envelope holds it. -/
theorem isToldBy_of_decode {v : Json} {e : ErrorResponse}
    (h : Payload.decode ErrorResponse v.compact = .ok e) : e.IsToldBy v := by
  obtain ⟨w, hparse, hmember⟩ := Json.exists_of_bind_eq_ok h
  obtain ⟨⟨w', t⟩, hread, hparse⟩ := Json.exists_of_bind_eq_ok hparse
  have hw : w' = w := by
    dsimp only at hparse
    split at hparse
    · exact Except.ok.inj hparse
    · cases hparse
  subst hw
  rw [Json.compact, String.toList_ofList, ← List.append_nil v.render] at hread
  rcases Json.isRecord_of_readRecord hread with ⟨es, rfl⟩ | ⟨vs, rfl⟩
  · exact isToldBy_of_object hread hmember
  · exact isToldBy_of_array hread hmember

end ErrorResponse

end JudgeClient
