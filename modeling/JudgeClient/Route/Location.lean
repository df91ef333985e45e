/-!
# Locations

A location is a path with an optional query, as in `/submissions?user_id=1`.  It is kept with its
leading slash, and linked to as a fragment of the one document that the client is.

`normalize_href` says that a link leads to where its location leads.
-/

namespace JudgeClient.Location

/-- The characters of a location without the marks of a fragment, and with its leading slash. -/
def normalizeChars (s : List Char) : List Char :=
  match s.dropWhile (· == '#') with
  | '/' :: rest => '/' :: rest
  | rest => '/' :: rest

/-- The location without the marks of a fragment, and with its leading slash. -/
def normalize (location : String) : String := String.ofList (normalizeChars location.toList)

/-- The link to a location. -/
def href (location : String) : String := "#" ++ normalize location

theorem normalizeChars_eq_cons (s : List Char) : ∃ rest, normalizeChars s = '/' :: rest := by
  unfold normalizeChars
  split <;> exact ⟨_, rfl⟩

theorem normalizeChars_normalizeChars (s : List Char) :
    normalizeChars (normalizeChars s) = normalizeChars s := by
  obtain ⟨rest, h⟩ := normalizeChars_eq_cons s
  rw [h]
  rfl

theorem normalizeChars_hash (s : List Char) : normalizeChars ('#' :: s) = normalizeChars s := by
  simp [normalizeChars]

@[simp] theorem normalize_href (location : String) :
    normalize (href location) = normalize location := by
  simp [normalize, href, normalizeChars_hash, normalizeChars_normalizeChars]

end JudgeClient.Location
