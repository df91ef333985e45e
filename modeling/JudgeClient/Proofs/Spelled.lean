import JudgeClient.Error
import JudgeClient.Payload.Contest
import JudgeClient.Payload.Search
import Mathlib.Data.List.Nodup

/-!
# Enumerations whose spellings read back

An enumeration travels as the spellings of its members, in JSON and in query strings alike.  It
comes back if all members are listed and no two of them share a spelling; both can be looked up in
the list.

* `LawfulSpelled` : the two conditions, and the enumerations that meet them;
* `LawfulSpelled.ofSpelling?_spelling` : a spelling reads back.
-/

namespace JudgeClient

/-- An enumeration with a spelling of its own for every member. -/
class LawfulSpelled (α : Type) [Spelled α] : Prop where
  mem_members (a : α) : a ∈ (Spelled.members : List α)
  nodup_spellings : (Spelled.spellings α).Nodup

namespace LawfulSpelled

theorem ofSpelling?_spelling {α : Type} [Spelled α] [LawfulSpelled α] (a : α) :
    Spelled.ofSpelling? (Spelled.spelling a) = some a :=
  Spelled.ofSpelling?_spelling (mem_members a) fun b hb =>
    List.inj_on_of_nodup_map nodup_spellings (mem_members b) (mem_members a) hb

instance : LawfulSpelled JobState := ⟨by rintro ⟨⟩ <;> decide, by decide⟩
instance : LawfulSpelled JobResult := ⟨by rintro ⟨⟩ <;> decide, by decide⟩
instance : LawfulSpelled ProblemType := ⟨by rintro ⟨⟩ <;> decide, by decide⟩
instance : LawfulSpelled ScoringRule := ⟨by rintro ⟨⟩ <;> decide, by decide⟩
instance : LawfulSpelled TieBreaker := ⟨by rintro ⟨⟩ <;> decide, by decide⟩
instance : LawfulSpelled ErrorKind := ⟨by rintro ⟨⟩ <;> decide, by decide⟩

end LawfulSpelled

end JudgeClient
