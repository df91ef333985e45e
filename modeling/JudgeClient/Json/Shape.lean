/-!
# Shapes of JSON values

What kind of JSON value a payload is written as.  A record names its fields; a field whose shape
is optional may be left out.
-/

namespace JudgeClient.Json

/-- A kind of JSON value. -/
inductive Shape
  /-- A signed 64-bit integer. -/
  | int64
  /-- An unsigned 64-bit integer. -/
  | uint64
  /-- An unsigned 8-bit integer. -/
  | uint8
  /-- Any number. -/
  | float
  | text
  /-- One of some spellings. -/
  | choice (spellings : List String)
  /-- The value or `null`. -/
  | optional (inner : Shape)
  | list (item : Shape)
  | record (name : String) (fields : List (String × Shape))
  /-- Only `null`. -/
  | unit
  /-- Every value. -/
  | any

/-- A field of this shape may be left out. -/
def Shape.isOptional : Shape → Bool
  | .optional _ => true
  | _ => false

/-- What an error message calls the shape. -/
def Shape.wanted : Shape → String
  | .int64 => "i64"
  | .uint64 => "u64"
  | .uint8 => "u8"
  | .float => "f64"
  | .text => "a string"
  | .choice _ => "variant identifier"
  | .optional inner => inner.wanted
  | .list _ => "a sequence"
  | .record name _ => "struct " ++ name
  | .unit => "unit"
  | .any => "any valid JSON value"

end JudgeClient.Json
