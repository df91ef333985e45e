/-!
# JSON values

Values of the JSON data format.  Integers are kept apart from floating-point numbers, as the two
are written differently.  An object is a list of entries; `Json.ofEntries` sorts them by key and
lets the last of equal keys win, which is how a value without a known shape is kept.
-/

namespace JudgeClient

/-- A JSON value. -/
inductive Json
  | null
  | bool (b : Bool)
  | int (i : Int)
  | float (x : Float)
  | text (s : String)
  | array (items : List Json)
  | object (entries : List (String × Json))
deriving Inhabited

namespace Json

/-! ### Entries -/

/-- Entries sorted by key with one more entry, which replaces an entry with the same key. -/
def insertEntry (key : String) (value : Json) : List (String × Json) → List (String × Json)
  | [] => [(key, value)]
  | (k, v) :: rest =>
    if key = k then (key, value) :: rest
    else if key < k then (key, value) :: (k, v) :: rest
    else (k, v) :: insertEntry key value rest

/-- The object with the given entries, sorted by key; the last of equal keys wins. -/
def ofEntries (entries : List (String × Json)) : Json :=
  .object (entries.foldl (fun acc e => insertEntry e.1 e.2 acc) [])

/-- An object with its own entries sorted by key; any other value as it is. -/
def sortEntries : Json → Json
  | .object entries => ofEntries entries
  | v => v

/-- The value of the first entry with the key. -/
def lookup (key : String) (entries : List (String × Json)) : Option Json :=
  (entries.find? (·.1 == key)).map (·.2)

/-- The value of an object's entry. -/
def get? (key : String) : Json → Option Json
  | .object entries => lookup key entries
  | _ => none

/-! ### Values of one kind -/

/-- The text, if the value is one. -/
def asText? : Json → Option String
  | .text s => some s
  | _ => none

/-- The integer, if the value is one. -/
def asInt? : Json → Option Int
  | .int i => some i
  | _ => none

/-- The number, if the value is a floating-point one. -/
def asFloat? : Json → Option Float
  | .float x => some x
  | _ => none

/-- The items, if the value is an array. -/
def asArray? : Json → Option (List Json)
  | .array items => some items
  | _ => none

end Json

end JudgeClient
