import JudgeClient.Json.Conversion
import JudgeClient.Json.Printer
import JudgeClient.Spelled

/-!
# Payloads

What the judge's API sends and receives.  A payload type has a JSON shape, a JSON value for each
of its members, and a way back from a value of the shape.  `Payload.decode` reads a JSON text,
`Payload.ofValue` a JSON value of unknown kind, and `Payload.encode` writes a compact text.
-/

namespace JudgeClient

/-- A type whose members travel as JSON. -/
class Payload (α : Type) where
  /-- The kind of JSON value that stands for a member. -/
  shape : Json.Shape
  /-- The JSON value of a member. -/
  toJson : α → Json
  /-- The member that a value of the shape stands for. -/
  ofJson? : Json → Option α

namespace Payload

/-- The member that a value of the payload's shape stands for.  Such a value always stands for a
member, so the fault is never seen. -/
def member (α : Type) [Payload α] (v : Json) : Except Json.Fault α :=
  match ofJson? v with
  | some a => .ok a
  | none => .error .wantedValue

/-- The member that a JSON text stands for. -/
def decode (α : Type) [Payload α] (s : String) : Except Json.Fault α := do
  member α (← Json.parse (shape α) s)

/-- The member that a JSON value of unknown kind stands for. -/
def ofValue (α : Type) [Payload α] (v : Json) : Except Json.Fault α := do
  member α (← (shape α).convert v)

/-- The compact JSON text of a member. -/
def encode {α : Type} [Payload α] (a : α) : String := (toJson a).compact

/-! ### Fields of records -/

/-- A field of a record. -/
def field {α : Type} [Payload α] (key : String) (v : Json) : Option α := (v.get? key).bind ofJson?

/-- A field of a record that may be absent. -/
def optionalField {α : Type} [Payload α] (key : String) (v : Json) : Option (Option α) :=
  match v.get? key with
  | none => some none
  | some .null => some none
  | some v => (ofJson? v).map some

/-- The entry of a field that is left out when it is absent. -/
def optionalEntry {α : Type} [Payload α] (key : String) (a : Option α) : List (String × Json) :=
  match a with
  | none => []
  | some a => [(key, toJson a)]

/-! ### Plain payloads -/

instance : Payload Int64 where
  shape := .int64
  toJson i := .int i.toInt
  ofJson? v := v.asInt?.map Int64.ofInt

instance : Payload UInt64 where
  shape := .uint64
  toJson n := .int n.toNat
  ofJson? v := v.asInt?.map fun i => UInt64.ofNat i.toNat

instance : Payload UInt8 where
  shape := .uint8
  toJson n := .int n.toNat
  ofJson? v := v.asInt?.map fun i => UInt8.ofNat i.toNat

instance : Payload Float where
  shape := .float
  toJson x := .float x
  ofJson? := Json.asFloat?

instance : Payload String where
  shape := .text
  toJson s := .text s
  ofJson? := Json.asText?

instance : Payload Unit where
  shape := .unit
  toJson _ := .null
  ofJson? _ := some ()

instance : Payload Json where
  shape := .any
  toJson v := v
  ofJson? := some

instance {α : Type} [Payload α] : Payload (List α) where
  shape := .list (shape α)
  toJson as := .array (as.map toJson)
  ofJson? v := v.asArray?.bind fun items => items.mapM ofJson?

instance {α : Type} [Payload α] : Payload (Option α) where
  shape := .optional (shape α)
  toJson
    | none => .null
    | some a => toJson a
  ofJson?
    | .null => some none
    | v => (ofJson? v).map some

/-! ### Enumerations -/

/-- The member of an enumeration with the given spelling. -/
def ofSpelling (α : Type) [Spelled α] (s : String) : Except Json.Fault α :=
  match Spelled.ofSpelling? s with
  | some a => .ok a
  | none => .error (.unknownSpelling s (Spelled.spellings α))

/-- An enumeration travels as its spelling. -/
abbrev ofSpelled (α : Type) [Spelled α] : Payload α where
  shape := .choice (Spelled.spellings α)
  toJson a := .text (Spelled.spelling a)
  ofJson? v := v.asText?.bind Spelled.ofSpelling?

end Payload

end JudgeClient
