import JudgeClient.Route.Location
import JudgeClient.Route.Table
import Mathlib.Data.List.TakeWhile

/-!
# The path and the query of a location

The query of a location begins at its first question mark; further ones belong to the query.  A
location without one is a path, and has an empty query.

`RouteTable.splitLocation_of_isSplit` says what a table makes of the two: an empty path is the root.
`Location.normalize_of_slash` says that a location with its leading slash is kept as it is.
-/

namespace JudgeClient

theorem Location.normalize_of_slash {location : String} {rest : List Char}
    (h : location.toList = '/' :: rest) : normalize location = location := by
  rw [normalize, h, ← String.toList_inj, h]
  simp [normalizeChars]

/-- The path stands before the first question mark of the location, and the query behind it. -/
def Location.IsSplit (location : String) (path query : List Char) : Prop :=
  '?' ∉ path ∧ (location.toList = path ++ '?' :: query ∨ location.toList = path ∧ query = [])

/-- The parts that a location is split into. -/
theorem Location.isSplit_iff {location : String} {path query : List Char} :
    IsSplit location path query ↔ path = location.toList.takeWhile (· != '?') ∧
      query = (location.toList.dropWhile (· != '?')).drop 1 := by
  constructor
  · rintro ⟨hmark, hlocation⟩
    have hpath : ∀ c ∈ path, (c != '?') = true := fun _ hc =>
      bne_iff_ne.2 fun heq => hmark (heq ▸ hc)
    rcases hlocation with hl | ⟨hl, rfl⟩
    · rw [hl, List.takeWhile_append_of_pos hpath, List.dropWhile_append_of_pos hpath]
      simp
    · rw [hl, List.takeWhile_eq_self_iff.2 hpath, List.dropWhile_eq_nil_iff.2 hpath]
      simp
  · rintro ⟨rfl, rfl⟩
    have hsplit : location.toList.takeWhile (· != '?') ++ location.toList.dropWhile (· != '?') =
        location.toList := List.takeWhile_append_dropWhile
    refine ⟨fun hmark => by simpa using List.mem_takeWhile_imp hmark, ?_⟩
    have hhead := List.head?_dropWhile_not (· != '?') location.toList
    cases hrest : location.toList.dropWhile (· != '?') with
    | nil => exact .inr ⟨by rw [hrest, List.append_nil] at hsplit; exact hsplit.symm, rfl⟩
    | cons c rest =>
      obtain rfl : c = '?' := by simpa [hrest] using hhead
      exact .inl (by rw [hrest] at hsplit; exact hsplit.symm)

theorem Location.exists_isSplit (location : String) : ∃ path query, IsSplit location path query :=
  ⟨_, _, isSplit_iff.2 ⟨rfl, rfl⟩⟩

namespace RouteTable

theorem splitLocation_of_isSplit {location : String} {path query : List Char}
    (h : Location.IsSplit location path query) :
    splitLocation location = (if path = [] then ['/'] else path, query) := by
  obtain ⟨rfl, rfl⟩ := Location.isSplit_iff.1 h
  simp [splitLocation]

end RouteTable

end JudgeClient
