import JudgeClient.Proofs.Numeral
import JudgeClient.Proofs.Spelled
import JudgeClient.Route.Params

/-!
# Reading parameters

A page takes its ids from the captures of its location.  An id that is there and reads as a number
is given to the page; an id that is missing or reads as no number is the one way in which a location
is malformed.

* `Params.require_of_eq_some`, `Params.require_of_eq_none` : `require` is `get?`, with an error of
  kind `malformedUrl` where there is nothing;
* `ParamValue.read?_int64_of_isNumeric` : a numeric text is an id that is not negative;
* `Params.lookup_ofList` : distinct names keep their texts;
* `LawfulParamValue` : the types whose members can be read from what is written for them.
-/

namespace JudgeClient

namespace ParamValue

theorem read?_int64_eq_none_iff {s : String} :
    (read? s : Option Int64) = none ↔ Numeral.readSigned? s.toList = none :=
  Option.map_eq_none_iff

/-- A numeric text is an id, and the id is the value of its digits. -/
theorem read?_int64_of_isNumeric {s : String} (h : Numeral.isNumeric s.toList = true) :
    ∃ v : Int64, read? s = some v ∧ v.toInt = Numeral.ofDigits s.toList := by
  have hlt : Numeral.ofDigits s.toList < 9223372036854775808 := (Numeral.isNumeric_iff.1 h).2
  have hval := Int64.toInt_ofInt_of_le (n := Numeral.ofDigits s.toList) (by omega) (by omega)
  refine ⟨Int64.ofInt (Numeral.ofDigits s.toList), ?_, hval⟩
  exact congrArg (Option.map Int64.ofInt) (Numeral.readSigned?_of_isNumeric h)

end ParamValue

/-! ### Lawful types -/

/-- What is written for a member is read as that member. -/
class LawfulParamValue (α : Type) [ParamValue α] : Prop where
  read?_write : ∀ a : α, ParamValue.read? (ParamValue.write a) = some a

namespace LawfulParamValue

instance : LawfulParamValue Int64 where
  read?_write i := by
    have hread := Numeral.readSigned?_toString_toInt i
    simp only [ParamValue.read?, ParamValue.write, hread, Option.map_some, Int64.ofInt_toInt]

instance : LawfulParamValue UInt64 where
  read?_write n := by
    have hread := Numeral.readUnsigned?_toString (Nat.le_sub_one_of_lt n.toNat_lt_size)
    simp only [ParamValue.read?, ParamValue.write, hread, Option.map_some, UInt64.ofNat_toNat]

instance : LawfulParamValue UInt8 where
  read?_write n := by
    have hread := Numeral.readUnsigned?_toString (Nat.le_sub_one_of_lt n.toNat_lt_size)
    simp only [ParamValue.read?, ParamValue.write, hread, Option.map_some, UInt8.ofNat_toNat]

instance : LawfulParamValue Bool := ⟨by rintro ⟨⟩ <;> rfl⟩
instance : LawfulParamValue String := ⟨fun _ => rfl⟩

/-- An enumeration that is written as its spelling. -/
theorem ofSpelled (α : Type) [Spelled α] [LawfulSpelled α] :
    @LawfulParamValue α (ParamValue.ofSpelled α) :=
  letI := ParamValue.ofSpelled α
  ⟨LawfulSpelled.ofSpelling?_spelling⟩

instance : LawfulParamValue JobState := ofSpelled JobState
instance : LawfulParamValue JobResult := ofSpelled JobResult
instance : LawfulParamValue ScoringRule := ofSpelled ScoringRule
instance : LawfulParamValue TieBreaker := ofSpelled TieBreaker

end LawfulParamValue

namespace Params

variable {α : Type} [ParamValue α] {p : Params} {key : String}

theorem require_of_eq_some {a : α} (h : p.get? key = some a) : p.require key = .ok a := by
  obtain ⟨raw, hl, hr⟩ := Option.bind_eq_some_iff.1 h
  simp only [require, hl, hr]

theorem require_of_eq_none (h : (p.get? key : Option α) = none) :
    ∃ e : Error, (p.require key : Except Error α) = .error e ∧ e.kind = .malformedUrl := by
  unfold require
  cases hl : p.lookup key with
  | none => exact ⟨_, rfl, rfl⟩
  | some raw =>
    have hr : (ParamValue.read? raw : Option α) = none := by simpa [get?, hl] using h
    simp only [hr]
    exact ⟨_, rfl, rfl⟩

/-- A required member is the one that is read. -/
theorem require_eq_ok_iff {a : α} : p.require key = .ok a ↔ p.get? key = some a := by
  refine ⟨fun h => ?_, require_of_eq_some⟩
  cases hget : (p.get? key : Option α) with
  | none =>
    obtain ⟨e, he, -⟩ := require_of_eq_none hget
    cases he.symm.trans h
  | some b =>
    cases (require_of_eq_some hget).symm.trans h
    rfl

theorem get?_eq_none_iff : (p.get? key : Option α) = none ↔ p.lookup key = none ∨
    ∃ raw, p.lookup key = some raw ∧ (ParamValue.read? raw : Option α) = none := by
  cases hl : p.lookup key <;> simp [get?, hl]

@[simp] theorem get?_empty : (empty.get? key : Option α) = none := rfl

/-! ### Texts with distinct names -/

theorem lookupEntry_eq_none_of_not_mem {k : String} {l : List (String × String)}
    (h : k ∉ l.map (·.1)) : lookupEntry k l = none := by
  simp only [lookupEntry, Option.map_eq_none_iff, List.find?_eq_none, beq_iff_eq]
  exact fun e he heq => h (List.mem_map.2 ⟨e, he, heq⟩)

theorem lookup_foldl_insert {entries : List (String × String)}
    (hdistinct : (entries.map (·.1)).Nodup) (p : Params) (k : String) :
    (entries.foldl (fun p e => p.insert e.1 e.2) p).lookup k =
      (lookupEntry k entries).or (p.lookup k) := by
  induction entries generalizing p with
  | nil => rfl
  | cons e entries ih =>
    obtain ⟨hfresh, hdistinct⟩ := List.nodup_cons.1 hdistinct
    rw [List.foldl_cons, ih hdistinct, lookup_insert, lookupEntry_cons]
    by_cases hk : k = e.1
    · -- the name stands nowhere behind, so nothing replaces its text
      have hnone : lookupEntry k entries = none :=
        lookupEntry_eq_none_of_not_mem (hk ▸ hfresh)
      rw [hnone, if_pos hk, if_pos hk.symm]
      rfl
    · rw [if_neg hk, if_neg (Ne.symm hk)]

theorem lookup_ofList {entries : List (String × String)}
    (hdistinct : (entries.map (·.1)).Nodup) (k : String) :
    (ofList entries).lookup k = lookupEntry k entries := by
  rw [ofList, lookup_foldl_insert hdistinct, lookup_empty, Option.or_none]

theorem nodup_map_entries (p : Params) : (p.entries.map (·.1)).Nodup := by
  refine List.pairwise_map.2 (List.Pairwise.imp ?_ p.sorted)
  intro a b hlt heq
  exact String.lt_irrefl b.1 (heq ▸ hlt)

theorem lookupEntry_eq_some_iff {entries : List (String × String)}
    (hdistinct : (entries.map (·.1)).Nodup) {k text : String} :
    lookupEntry k entries = some text ↔ (k, text) ∈ entries := by
  induction entries with
  | nil => simp [lookupEntry]
  | cons e entries ih =>
    obtain ⟨hfresh, hdistinct⟩ := List.nodup_cons.1 hdistinct
    rw [lookupEntry_cons, List.mem_cons, Prod.ext_iff]
    by_cases hk : e.1 = k
    · -- the name stands nowhere behind, so only this entry counts
      have hmem : (k, text) ∉ entries := fun hmem => hfresh (List.mem_map.2 ⟨_, hmem, hk.symm⟩)
      simp [hk, hmem, eq_comm]
    · simp [hk, Ne.symm hk, ih hdistinct]

theorem lookup_eq_some_iff {text : String} : p.lookup key = some text ↔ (key, text) ∈ p.entries :=
  lookupEntry_eq_some_iff p.nodup_map_entries

theorem perm_insertEntry {value : String} {entries : List (String × String)}
    (hfresh : key ∉ entries.map (·.1)) :
    (insertEntry key value entries).Perm ((key, value) :: entries) := by
  induction entries with
  | nil => exact .refl _
  | cons e entries ih =>
    have hne : key ≠ e.1 := fun heq => hfresh (heq ▸ List.mem_cons_self)
    have hfresh : key ∉ entries.map (·.1) := fun h => hfresh (List.mem_cons_of_mem _ h)
    unfold insertEntry
    rw [if_neg hne]
    split
    · exact .refl _
    · exact ((ih hfresh).cons e).trans (.swap ..)

/-- A text with a new name is one entry more. -/
theorem perm_insert {value : String} (hfresh : key ∉ p.entries.map (·.1)) :
    (p.insert key value).entries.Perm ((key, value) :: p.entries) :=
  perm_insertEntry hfresh

@[simp] theorem ofList_entries (p : Params) : ofList p.entries = p :=
  eq_of_lookup_eq fun k => lookup_ofList p.nodup_map_entries k

end Params

end JudgeClient
