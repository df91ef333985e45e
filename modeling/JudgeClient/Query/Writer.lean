import JudgeClient.Json.Value
import JudgeClient.Decimal.Layout
import JudgeClient.Query.Percent

/-!
# Writing query strings

A JSON object or array as a query string: one pair for each scalar in it, keyed by the path to it
in brackets.  Empty objects and arrays leave no trace, and `null` is a key without a value.  A
scalar by itself has no key, so it cannot be written.
-/

namespace JudgeClient.Query

/-- The key of a member: the component itself at the top, in brackets below a key. -/
def memberKey (outer : Option (List Char)) (component : List Char) : List Char :=
  match outer with
  | none => component
  | some key => key ++ '[' :: (component ++ [']'])

/-- The pair of a scalar. -/
def writePair (key : List Char) (text : String) : List Char :=
  key ++ '=' :: writeComponent text.toList

mutual

/-- The pairs of a value below a key. -/
def pairs (key : List Char) : Json → List (List Char)
  | .array items => itemPairs (some key) 0 items
  | .object entries => entryPairs (some key) entries
  | .null => [writePair key ""]
  | .bool b => [writePair key (toString b)]
  | .int i => [writePair key (toString i)]
  | .float x => [writePair key (String.ofList (Decimal.plain.write x))]
  | .text s => [writePair key s]

/-- The pairs of an array's items, numbered from `index`. -/
def itemPairs (outer : Option (List Char)) (index : Nat) : List Json → List (List Char)
  | [] => []
  | v :: rest =>
    pairs (memberKey outer (toString index).toList) v ++ itemPairs outer (index + 1) rest

/-- The pairs of an object's entries. -/
def entryPairs (outer : Option (List Char)) : List (String × Json) → List (List Char)
  | [] => []
  | (key, v) :: rest =>
    pairs (memberKey outer (writeComponent key.toList)) v ++ entryPairs outer rest

end

/-- The query string of a value, if it has one. -/
def write? (v : Json) : Option (List Char) :=
  match v with
  | .object entries => some (['&'].intercalate (entryPairs none entries))
  | .array items => some (['&'].intercalate (itemPairs none 0 items))
  | .null => some []
  | _ => none

/-- The path with a query string behind it; a value that sets nothing leaves the path alone. -/
def withQuery (path : String) (v : Json) : String :=
  match write? v with
  | none => path
  | some [] => path
  | some query => path ++ "?" ++ String.ofList query

end JudgeClient.Query
