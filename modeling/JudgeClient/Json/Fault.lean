import JudgeClient.Decimal.Layout
import JudgeClient.Text.Quoted

/-!
# Faults of JSON

Why a text or a value is not the JSON that was asked for: the text breaks the grammar, or a value
is not of the wanted kind.  `Fault.message` is the wording that an error shows; positions in the
text are not part of it.
-/

namespace JudgeClient.Json

/-- What a reader found where it wanted something else. -/
inductive Found
  | null
  | bool (b : Bool)
  | int (i : Int)
  | float (x : Float)
  | text (s : String)
  | sequence
  | map

/-- The wording of a finding. -/
def Found.describe : Found → String
  | .null => "null"
  | .bool b => "boolean `" ++ toString b ++ "`"
  | .int i => "integer `" ++ toString i ++ "`"
  | .float x => "floating point `" ++ String.ofList (Decimal.json.write x) ++ "`"
  | .text s => "string " ++ Text.quoted s
  | .sequence => "sequence"
  | .map => "map"

/-- The cause of a failed reading. -/
inductive Fault
  | endInValue
  | endInList
  | endInObject
  | endInText
  | wantedValue
  | wantedWord
  | wantedColon
  | wantedCommaOrBracket
  | wantedCommaOrBrace
  | trailingComma
  | trailingCharacters
  | keyIsNoText
  | badNumber
  | numberTooLarge
  | badEscape
  | rawControl
  | loneSurrogate
  | cutSurrogatePair
  | tooDeep
  /-- A value of another kind than the wanted one. -/
  | wrongKind (found : Found) (wanted : String)
  /-- An integer outside the wanted range. -/
  | outOfRange (i : Int) (wanted : String)
  /-- A record written as an array that ends too early. -/
  | tooShort (length : Nat) (record : String) (fields : Nat)
  /-- A record given as an array that goes on behind the last field. -/
  | tooLong (length : Nat)
  /-- An object that should name a member by its only key, and has no or several keys. -/
  | wantedSingleKey
  | missingField (name : String)
  | repeatedField (name : String)
  | unknownSpelling (found : String) (known : List String)

/-- The known spellings in an error message. -/
def describeSpellings : List String → String
  | [a] => "`" ++ a ++ "`"
  | [a, b] => "`" ++ a ++ "` or `" ++ b ++ "`"
  | known => "one of " ++ ", ".intercalate (known.map fun s => "`" ++ s ++ "`")

/-- The wording of a fault. -/
def Fault.message : Fault → String
  | .endInValue => "EOF while parsing a value"
  | .endInList => "EOF while parsing a list"
  | .endInObject => "EOF while parsing an object"
  | .endInText => "EOF while parsing a string"
  | .wantedValue => "expected value"
  | .wantedWord => "expected ident"
  | .wantedColon => "expected `:`"
  | .wantedCommaOrBracket => "expected `,` or `]`"
  | .wantedCommaOrBrace => "expected `,` or `\x7d`"
  | .trailingComma => "trailing comma"
  | .trailingCharacters => "trailing characters"
  | .keyIsNoText => "key must be a string"
  | .badNumber => "invalid number"
  | .numberTooLarge => "number out of range"
  | .badEscape => "invalid escape"
  | .rawControl => "control character (\\u0000-\\u001F) found while parsing a string"
  | .loneSurrogate => "lone leading surrogate in hex escape"
  | .cutSurrogatePair => "unexpected end of hex escape"
  | .tooDeep => "recursion limit exceeded"
  | .wrongKind found wanted => "invalid type: " ++ found.describe ++ ", expected " ++ wanted
  | .outOfRange i wanted => "invalid value: integer `" ++ toString i ++ "`, expected " ++ wanted
  | .tooShort length record fields =>
    "invalid length " ++ toString length ++ ", expected struct " ++ record ++ " with " ++
      toString fields ++ " elements"
  | .tooLong length =>
    "invalid length " ++ toString length ++ ", expected fewer elements in array"
  | .wantedSingleKey => "invalid value: map, expected map with a single key"
  | .missingField name => "missing field `" ++ name ++ "`"
  | .repeatedField name => "duplicate field `" ++ name ++ "`"
  | .unknownSpelling found known =>
    "unknown variant `" ++ found ++ "`, expected " ++ describeSpellings known

/-- A step of reading: a value and the rest of the text. -/
abbrev Reader (α : Type) := List Char → Except Fault (α × List Char)

end JudgeClient.Json
