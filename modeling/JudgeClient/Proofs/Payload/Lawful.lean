import JudgeClient.Proofs.Json.List
import JudgeClient.Proofs.Json.Record
import JudgeClient.Proofs.Spelled

/-!
# Payloads read back

A payload type is lawful if each member comes back from what is written for it.  What is written
is not always what is read: a record leaves out the fields that are absent, and a reader fills them
in with `null`.  So a lawful payload also says what its members are read as.

* `LawfulPayload` : the law, which lists and optional members inherit;
* `LawfulRecord` : the law for records, field by field;
* `LawfulPayload.decode_encode` : a member comes back from its compact text;
* `LawfulRecord.decode_of_perm` : a record also does if its entries stand in another order.
-/

namespace JudgeClient

/-- A payload type whose members come back from what is written for them. -/
class LawfulPayload (α : Type) [Payload α] where
  /-- How deep lists and records are nested in what is written. -/
  levels : Nat
  /-- The value that a member is read as. -/
  readAs : α → Json
  reads (a : α) {depth : Nat} (h : levels ≤ depth) :
    Json.Reads ((Payload.shape α).read depth) (Payload.toJson a) (readAs a)
  ofJson?_readAs (a : α) : Payload.ofJson? (readAs a) = some a

/-- A payload type none of whose members can be taken for `null`. -/
class NeverNull (α : Type) [Payload α] [LawfulPayload α] : Prop where
  not_mem_head? (a : α) : 'n' ∉ (Payload.toJson a).render.head?
  readAs_ne_null (a : α) : LawfulPayload.readAs a ≠ .null

open LawfulPayload

namespace Payload

/-- What a text holds is decided by the value that it reads as. -/
theorem decode_compact {α : Type} [Payload α] {v w : Json} {a : α}
    (h : Json.Reads ((shape α).read Json.maxDepth) v w) (ha : ofJson? w = some a) :
    decode α v.compact = .ok a := by
  rw [decode, Json.parse_compact h]
  simp only [bind, Except.bind, member, ha]

end Payload

/-- A member comes back from its compact text. -/
theorem LawfulPayload.decode_encode {α : Type} [Payload α] [LawfulPayload α]
    (h : levels α ≤ Json.maxDepth) (a : α) : Payload.decode α (Payload.encode a) = .ok a :=
  Payload.decode_compact (reads a h) (ofJson?_readAs a)

/-! ### Plain payloads -/

instance : LawfulPayload Int64 where
  levels := 0
  readAs i := .int i.toInt
  reads i _ _ := by
    have hl : -(Numeral.signedBound : Int) ≤ i.toInt := i.le_toInt
    have hu : i.toInt < Numeral.signedBound := i.toInt_lt
    exact Json.reads_int hl (by omega) (Int.le_refl _) (by decide) _
  ofJson?_readAs i := congrArg some i.ofInt_toInt

instance : LawfulPayload UInt8 where
  levels := 0
  readAs n := .int n.toNat
  reads n _ _ := by
    have hu : n.toNat < UInt8.size := n.toNat_lt
    exact Json.reads_int (Int.natCast_nonneg _) (by omega) (by decide) (by decide) _
  ofJson?_readAs n := congrArg some n.ofNat_toNat

instance : LawfulPayload String where
  levels := 0
  readAs s := .text s
  reads s _ _ := Json.reads_text _ s
  ofJson?_readAs _ := rfl

instance : NeverNull Int64 where
  not_mem_head? i := by
    obtain ⟨c, s, hs, hc⟩ := Json.exists_cons_toString_int i.toInt
    rw [show (Payload.toJson i).render = c :: s from hs]
    rintro ⟨⟩
    cases hc
  readAs_ne_null _ := Json.noConfusion

instance : NeverNull String where
  not_mem_head? _ := by rintro ⟨⟩
  readAs_ne_null _ := Json.noConfusion

/-! ### Enumerations -/

section Enumerations

variable (α : Type) [Spelled α] [LawfulSpelled α]

/-- An enumeration that travels as its spelling. -/
abbrev LawfulPayload.ofSpelled : @LawfulPayload α (Payload.ofSpelled α) :=
  letI := Payload.ofSpelled α
  { levels := 0
    readAs := fun a => .text (Spelled.spelling a)
    reads := fun a depth _ =>
      Json.reads_choice (List.mem_map_of_mem (LawfulSpelled.mem_members a)) depth
    ofJson?_readAs := LawfulSpelled.ofSpelling?_spelling }

theorem NeverNull.ofSpelled : @NeverNull α (Payload.ofSpelled α) (LawfulPayload.ofSpelled α) :=
  letI := Payload.ofSpelled α
  letI := LawfulPayload.ofSpelled α
  { not_mem_head? := fun _ => by rintro ⟨⟩
    readAs_ne_null := fun _ => Json.noConfusion }

end Enumerations

/-! ### Lists and optional members -/

instance {α : Type} [Payload α] [LawfulPayload α] : LawfulPayload (List α) where
  levels := levels α + 1
  readAs as := .array (as.map readAs)
  reads as depth h := by
    obtain ⟨depth, rfl⟩ := Nat.exists_eq_succ_of_ne_zero (Nat.ne_zero_of_lt h)
    have hitems : ∀ a ∈ as,
        Json.Reads ((Payload.shape α).read depth) (Payload.toJson a) (readAs a) :=
      fun a _ => reads a (Nat.le_of_succ_le_succ h)
    exact Json.reads_list (List.forall₂_map_left_iff.2
      (List.forall₂_map_right_iff.2 (List.forall₂_same.2 hitems)))
  ofJson?_readAs as := by
    show (as.map readAs).mapM Payload.ofJson? = some as
    induction as with
    | nil => rfl
    | cons a as ih => simp [ofJson?_readAs, ih]

instance {α : Type} [Payload α] [LawfulPayload α] [NeverNull α] : LawfulPayload (Option α) where
  levels := levels α
  readAs
    | none => .null
    | some a => readAs a
  reads a _ h := by
    cases a with
    | none => exact Json.reads_optional_null _
    | some a => exact Json.reads_optional (reads a h) (NeverNull.not_mem_head? a)
  ofJson?_readAs
    | none => rfl
    | some a => by
      have hnull := NeverNull.readAs_ne_null a
      have hmember := ofJson?_readAs a
      cases hv : readAs a <;> simp_all [Payload.ofJson?]

/-! ### Records -/

namespace Payload

/-- The fields of a record type. -/
def fields (α : Type) [Payload α] : List (String × Json.Shape) :=
  match shape α with
  | .record _ fields => fields
  | _ => []

/-- The entries that are written for a member of a record type. -/
def entries {α : Type} [Payload α] (a : α) : List (String × Json) :=
  match toJson a with
  | .object es => es
  | _ => []

variable {α : Type} [Payload α] {key : String} {rs : List (String × Json)}

@[simp] theorem field_cons_self [LawfulPayload α] (a : α) :
    field key (.object ((key, readAs a) :: rs)) = some a := by
  simp [field, Json.get?, Json.lookup, ofJson?_readAs]

@[simp] theorem field_cons_of_ne {e : String × Json} (h : e.1 ≠ key) :
    (field key (.object (e :: rs)) : Option α) = field key (.object rs) := by
  simp [field, Json.get?, Json.lookup, h]

theorem optionalField_of_get? {v w : Json} (h : v.get? key = some w) :
    (optionalField key v : Option (Option α)) = ofJson? w := by
  rw [optionalField, h]
  cases w <;> rfl

@[simp] theorem optionalField_cons_self [LawfulPayload α] [NeverNull α] (a : Option α) :
    optionalField key (.object ((key, readAs a) :: rs)) = some a :=
  (optionalField_of_get? (by simp [Json.get?, Json.lookup])).trans (ofJson?_readAs a)

@[simp] theorem optionalField_cons_of_ne {e : String × Json} (h : e.1 ≠ key) :
    (optionalField key (.object (e :: rs)) : Option (Option α)) =
      optionalField key (.object rs) := by
  simp [optionalField, Json.get?, Json.lookup, h]

end Payload

namespace Json.ReadsFields

variable {α : Type} [Payload α] [LawfulPayload α] {name : String} {depth : Nat}
variable {fields : List (String × Shape)} {es rs : List (String × Json)}

/-- A field of a lawful payload type. -/
theorem field (a : α) (h : levels α ≤ depth) (hs : ReadsFields depth fields es rs) :
    ReadsFields depth ((name, Payload.shape α) :: fields) ((name, Payload.toJson a) :: es)
      ((name, readAs a) :: rs) :=
  .present (reads a h) hs

/-- A field of a lawful payload type that is left out when it is absent. -/
theorem optionalField [NeverNull α] (a : Option α) (h : levels α ≤ depth)
    (hs : ReadsFields depth fields es rs) :
    ReadsFields depth ((name, .optional (Payload.shape α)) :: fields)
      (Payload.optionalEntry name a ++ es) ((name, readAs a) :: rs) := by
  cases a with
  | none => exact .absent rfl hs
  | some a => exact .present (reads (some a) h) hs

end Json.ReadsFields

/-- A payload type that travels as a record whose fields read back. -/
class LawfulRecord (α : Type) [Payload α] where
  /-- How deep the nesting of a field is. -/
  fieldLevels : Nat
  /-- The entries that a member is read as. -/
  readEntries : α → List (String × Json)
  exists_shape_eq : ∃ name, Payload.shape α = .record name (Payload.fields α)
  nodup_fields : ((Payload.fields α).map (·.1)).Nodup
  toJson_eq (a : α) : Payload.toJson a = .object (Payload.entries a)
  readsFields (a : α) {depth : Nat} (h : fieldLevels ≤ depth) :
    Json.ReadsFields depth (Payload.fields α) (Payload.entries a) (readEntries a)
  ofJson?_readEntries (a : α) : Payload.ofJson? (.object (readEntries a)) = some a

namespace LawfulRecord

variable {α : Type} [Payload α] [LawfulRecord α]

theorem nodup_entries (a : α) : ((Payload.entries a).map (·.1)).Nodup :=
  (readsFields a (Nat.le_refl _)).sublist.nodup nodup_fields

theorem reads_of_perm (a : α) {es : List (String × Json)} (hp : es.Perm (Payload.entries a))
    {depth : Nat} (h : fieldLevels α + 1 ≤ depth) :
    Json.Reads ((Payload.shape α).read depth) (.object es) (.object (readEntries a)) := by
  obtain ⟨depth, rfl⟩ := Nat.exists_eq_succ_of_ne_zero (Nat.ne_zero_of_lt h)
  obtain ⟨name, hshape⟩ : ∃ name, Payload.shape α = .record name (Payload.fields α) :=
    exists_shape_eq
  rw [hshape]
  exact (readsFields a (Nat.le_of_succ_le_succ h)).reads_of_perm nodup_fields hp name

instance : LawfulPayload α where
  levels := fieldLevels α + 1
  readAs a := .object (readEntries a)
  reads a _ h := by
    rw [toJson_eq]
    exact reads_of_perm a (.refl _) h
  ofJson?_readAs := ofJson?_readEntries

/-- The text of a record's entries, in whatever order they stand, is the record's. -/
theorem decode_of_perm (h : fieldLevels α < Json.maxDepth) {a : α} {es : List (String × Json)}
    (hp : es.Perm (Payload.entries a)) : Payload.decode α (Json.object es).compact = .ok a :=
  Payload.decode_compact (reads_of_perm a hp h) (ofJson?_readEntries a)

/-- The text of a record with its entries sorted by key is the record's. -/
theorem decode_sortEntries (h : fieldLevels α < Json.maxDepth) (a : α) :
    Payload.decode α (Payload.toJson a).sortEntries.compact = .ok a := by
  obtain ⟨sorted, hperm, hsorted⟩ := Json.exists_sortEntries (nodup_entries a)
  rw [toJson_eq, hsorted]
  exact decode_of_perm h hperm

end LawfulRecord

end JudgeClient
