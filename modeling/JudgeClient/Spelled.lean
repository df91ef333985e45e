/-!
# Spelled enumerations

Enumerations whose members are written as fixed texts, in JSON as well as in query strings.
`ofSpelling?_spelling` says that the spelling of a listed member reads back if no other member
shares it.
-/

namespace JudgeClient

/-- An enumeration with a spelling for each member. -/
class Spelled (α : Type) where
  members : List α
  spelling : α → String

namespace Spelled

variable {α : Type} [Spelled α]

/-- All spellings, in the order of the members. -/
def spellings (α : Type) [Spelled α] : List String := (members : List α).map spelling

/-- The member with the given spelling. -/
def ofSpelling? (s : String) : Option α := members.find? fun a => spelling a == s

theorem ofSpelling?_spelling {a : α} (hmem : a ∈ (members : List α))
    (hinj : ∀ b : α, spelling b = spelling a → b = a) : ofSpelling? (spelling a) = some a := by
  unfold ofSpelling?
  cases h : (members : List α).find? fun b => spelling b == spelling a with
  | none => simpa using List.find?_eq_none.1 h a hmem
  | some b => rw [hinj b (by simpa using List.find?_some h)]

end Spelled

end JudgeClient
