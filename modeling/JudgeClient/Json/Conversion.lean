import JudgeClient.Json.Reader

/-!
# JSON values of a shape

`Shape.convert` takes a value of unknown kind for one of a given shape.  It is the counterpart of
`Shape.read` for a value that is already there as a whole, and gives the same results: the fields
of a record in the order of their declaration, a member of an enumeration as its spelling.  The
entries of an object are looked at in their own order, and what is wrong with an enumeration or
with an array that is too long is said in other words than for a text.
-/

namespace JudgeClient.Json

/-- What a value is where another kind is wanted. -/
def found : Json → Found
  | .null => .null
  | .bool b => .bool b
  | .int i => .int i
  | .float x => .float x
  | .text s => .text s
  | .array _ => .sequence
  | .object _ => .map

/-- Takes a value for one of a certain kind. -/
abbrev Converter := Json → Except Fault Json

/-! ### Single values -/

/-- An integer between two bounds. -/
def convertInt (low high : Int) (wanted : String) : Converter
  | .int i => if low ≤ i ∧ i ≤ high then .ok (.int i) else .error (.outOfRange i wanted)
  | v => .error (.wrongKind v.found wanted)

/-- Any number, as a floating-point one. -/
def convertFloat (wanted : String) : Converter
  | .int i => .ok (.float (Float.ofInt i))
  | .float x => .ok (.float x)
  | v => .error (.wrongKind v.found wanted)

/-- A text. -/
def convertText (wanted : String) : Converter
  | .text s => .ok (.text s)
  | v => .error (.wrongKind v.found wanted)

/-- The value `null`. -/
def convertUnit (wanted : String) : Converter
  | .null => .ok .null
  | v => .error (.wrongKind v.found wanted)

/-- One of some spellings: the spelling itself, or an object with the spelling as its only key
and `null` as its value. -/
def convertChoice (spellings : List String) : Converter
  | .text s => do
    checkSpelling spellings s
    return .text s
  | .object [(key, v)] => do
    checkSpelling spellings key
    let _ ← convertUnit Shape.unit.wanted v
    return .text key
  | .object _ => .error .wantedSingleKey
  | v => .error (.wrongKind v.found "string or map")

/-- The value, or `null` in its place. -/
def convertOptional (inner : Converter) : Converter
  | .null => .ok .null
  | v => inner v

/-! ### Lists and records -/

/-- A list of items. -/
def convertList (convertItem : Converter) (wanted : String) : Converter
  | .array items => (items.mapM convertItem).map .array
  | v => .error (.wrongKind v.found wanted)

/-- A field whose value is taken from a value of unknown kind. -/
abbrev FieldConverter := Field Converter

/-- The fields that the entries of an object hold, in the order of the entries.  `seen` holds the
fields before them; unknown entries are passed over. -/
def convertEntries (fields : List FieldConverter) :
    List (String × Json) → List (String × Json) → Except Fault (List (String × Json))
  | seen, [] => .ok seen
  | seen, (key, v) :: rest =>
    match fields.find? (·.name == key) with
    | none => convertEntries fields seen rest
    | some field => do
      if (lookup key seen).isSome then throw (.repeatedField key)
      convertEntries fields (seen ++ [(key, ← field.read v)]) rest

/-- The fields of a record that is given as an array; `done` counts the fields before them. -/
def convertElements (record : String) (count : Nat) :
    Nat → List FieldConverter → List Json → Except Fault (List (String × Json))
  | _, [], [] => .ok []
  | done, [], items => .error (.tooLong (done + items.length))
  | done, _ :: _, [] => .error (.tooShort done record count)
  | done, field :: fields, v :: items => do
    let v ← field.read v
    let vs ← convertElements record count (done + 1) fields items
    return (field.name, v) :: vs

/-- A record. -/
def convertRecord (name wanted : String) (fields : List FieldConverter) : Converter
  | .object es => do return .object (← collect (← convertEntries fields [] es) fields)
  | .array items => (convertElements name fields.length 0 fields items).map .object
  | v => .error (.wrongKind v.found wanted)

/-! ### Shapes -/

mutual

/-- A value taken for one of the shape. -/
def Shape.convert : Shape → Converter
  | .int64 => convertInt (-Numeral.signedBound) (Numeral.signedBound - 1) Shape.int64.wanted
  | .uint64 => convertInt 0 (UInt64.size - 1) Shape.uint64.wanted
  | .uint8 => convertInt 0 (UInt8.size - 1) Shape.uint8.wanted
  | .float => convertFloat Shape.float.wanted
  | .text => convertText Shape.text.wanted
  | .choice spellings => convertChoice spellings
  | .optional inner => convertOptional inner.convert
  | .list item => convertList item.convert (Shape.list item).wanted
  | .record name fields =>
    convertRecord name (Shape.record name fields).wanted (fieldConverters fields)
  | .unit => convertUnit Shape.unit.wanted
  | .any => .ok
termination_by structural shape => shape

/-- The converters of a record's fields. -/
def fieldConverters : List (String × Shape) → List FieldConverter
  | [] => []
  | field :: rest => fieldConverter field :: fieldConverters rest
termination_by structural fields => fields

/-- The converter of one field. -/
def fieldConverter : String × Shape → FieldConverter
  | (name, shape) => ⟨name, shape.isOptional, shape.convert⟩
termination_by structural field => field

end

end JudgeClient.Json
