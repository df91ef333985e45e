import JudgeClient.Json.Number
import JudgeClient.Json.Shape
import JudgeClient.Json.Token
import JudgeClient.Json.Value

/-!
# Reading JSON texts

`Shape.read` reads a value of a given shape from the front of a text.  It goes through the text
from left to right and stops at the first fault, be it one of the grammar or a value of a wrong
kind.  Fields of a record may come in any order; unknown ones are passed over, and a record may
also be written as the array of its fields.  Lists and records may be nested `maxDepth` levels
deep; ignored values may be nested as deep as they like.

`parse` reads a whole text.
-/

namespace JudgeClient.Json

/-- How deep lists and records may be nested. -/
def maxDepth : Nat := 127

/-! ### Punctuation -/

/-- The text behind the colon between a key and its value. -/
def colon (s : List Char) : Except Fault (List Char) :=
  match skipGaps s with
  | ':' :: rest => .ok rest
  | [] => .error .endInObject
  | _ => .error .wantedColon

/-- What follows in a list or an object: its end, or a further member. -/
inductive Next
  /-- The closing bracket was read. -/
  | done (rest : List Char)
  /-- A member starts here. -/
  | member (rest : List Char)

/-- What follows in a list, behind its opening bracket or behind an item. -/
def nextItem (first : Bool) (s : List Char) : Except Fault Next :=
  match skipGaps s with
  | [] => .error .endInList
  | ']' :: rest => .ok (.done rest)
  | c :: rest =>
    if first then .ok (.member (c :: rest))
    else if c = ',' then
      match skipGaps rest with
      | [] => .error .endInValue
      | ']' :: _ => .error .trailingComma
      | rest => .ok (.member rest)
    else .error .wantedCommaOrBracket

/-- The text behind the closing bracket of a list that has all its items. -/
def closeList (s : List Char) : Except Fault (List Char) :=
  match skipGaps s with
  | [] => .error .endInList
  | ']' :: rest => .ok rest
  | ',' :: rest =>
    match skipGaps rest with
    | ']' :: _ => .error .trailingComma
    | _ => .error .trailingCharacters
  | _ => .error .trailingCharacters

/-- What follows in an object, behind its opening brace or behind an entry.  A member is given
without the opening mark of its key. -/
def nextEntry (first : Bool) (s : List Char) : Except Fault Next :=
  match skipGaps s with
  | [] => .error .endInObject
  | '}' :: rest => .ok (.done rest)
  | c :: rest =>
    if first then if c = '"' then .ok (.member rest) else .error .keyIsNoText
    else if c = ',' then
      match skipGaps rest with
      | [] => .error .endInValue
      | '"' :: rest => .ok (.member rest)
      | '}' :: _ => .error .trailingComma
      | _ => .error .keyIsNoText
    else .error .wantedCommaOrBrace

/-! ### Values that nobody looks at -/

/-- An open list or object around an ignored value. -/
inductive Bracket
  | list
  | object
deriving DecidableEq

/-- What an ignored text is read as next: a value, or what follows a value (`false`) or an
opening bracket (`true`). -/
inductive Expect
  | value
  | member (opened : Bool)

/-- The text behind the key of an ignored entry and its colon. -/
def skipKey (s : List Char) : Except Fault (List Char) :=
  match skipGaps s with
  | '"' :: rest => do
    let s ← skipText .plain rest
    colon s
  | [] => .error .endInObject
  | _ => .error .keyIsNoText

/-- The fault of an ignored text that ends inside a bracket. -/
def Bracket.cut : Bracket → Fault
  | .list => .endInList
  | .object => .endInObject

/-- The fault of an ignored value that is followed by neither a comma nor the bracket's end. -/
def Bracket.unseparated : Bracket → Fault
  | .list => .wantedCommaOrBracket
  | .object => .wantedCommaOrBrace

/-- The closing character of a bracket. -/
def Bracket.close : Bracket → Char
  | .list => ']'
  | .object => '}'

/-- Where a value starts inside a bracket: at once in a list, behind the key in an object. -/
def Bracket.startValue (b : Bracket) (s : List Char) : Except Fault (List Char) :=
  match b with
  | .list => .ok s
  | .object => skipKey s

/-- Passes over one value.  `open_` holds the brackets around the current place, innermost first;
`fuel` bounds the number of steps, each of which takes a character. -/
def skipFrom : Nat → Expect → List Bracket → List Char → Except Fault (List Char)
  | 0, _, _, _ => .error .endInValue
  | fuel + 1, .value, open_, s =>
    match skipGaps s with
    | [] => .error .endInValue
    | 'n' :: rest => do skipFrom fuel (.member false) open_ (← word "ull".toList rest)
    | 't' :: rest => do skipFrom fuel (.member false) open_ (← word "rue".toList rest)
    | 'f' :: rest => do skipFrom fuel (.member false) open_ (← word "alse".toList rest)
    | '"' :: rest => do skipFrom fuel (.member false) open_ (← skipText .plain rest)
    | '[' :: rest => skipFrom fuel (.member true) (.list :: open_) rest
    | '{' :: rest => skipFrom fuel (.member true) (.object :: open_) rest
    | c :: rest =>
      if c == '-' || c.isDigit then do
        skipFrom fuel (.member false) open_ (← skipNumber (c :: rest))
      else .error .wantedValue
  | _ + 1, .member _, [], s => .ok s
  | fuel + 1, .member opened, b :: outer, s =>
    match skipGaps s with
    | [] => .error b.cut
    | c :: rest =>
      if c = b.close then skipFrom fuel (.member false) outer rest
      else if opened then do skipFrom fuel .value (b :: outer) (← b.startValue (c :: rest))
      else if c = ',' then do skipFrom fuel .value (b :: outer) (← b.startValue rest)
      else .error b.unseparated

/-- The text behind one value. -/
def skipValue (s : List Char) : Except Fault (List Char) :=
  skipFrom (2 * s.length + 2) .value [] s

/-! ### Values of a wrong kind -/

/-- The fault of a value that is not of the wanted kind; a flaw in the value itself comes first.
The text starts with the value. -/
def wrongKind (wanted : String) (s : List Char) : Fault :=
  match s with
  | [] => .endInValue
  | 'n' :: rest => named .null (word "ull".toList rest)
  | 't' :: rest => named (.bool true) (word "rue".toList rest)
  | 'f' :: rest => named (.bool false) (word "alse".toList rest)
  | '"' :: rest =>
    match readText rest with
    | .error f => f
    | .ok (t, _) => .wrongKind (.text t) wanted
  | '[' :: _ => .wrongKind .sequence wanted
  | '{' :: _ => .wrongKind .map wanted
  | c :: rest =>
    if c == '-' || c.isDigit then
      match readNumber (c :: rest) with
      | .error f => f
      | .ok (.int i, _) => .wrongKind (.int i) wanted
      | .ok (.float x, _) => .wrongKind (.float x) wanted
    else .wantedValue
where
  named (found : Found) (tail : Except Fault (List Char)) : Fault :=
    match tail with
    | .error f => f
    | .ok _ => .wrongKind found wanted

/-! ### Single values -/

/-- An integer between two bounds. -/
def readInt (low high : Int) (wanted : String) : Reader Json := fun s =>
  match skipGaps s with
  | [] => .error .endInValue
  | c :: rest =>
    if c == '-' || c.isDigit then do
      match ← readNumber (c :: rest) with
      | (.int i, rest) =>
        if low ≤ i ∧ i ≤ high then return (.int i, rest) else throw (.outOfRange i wanted)
      | (.float x, _) => throw (.wrongKind (.float x) wanted)
    else .error (wrongKind wanted (c :: rest))

/-- Any number, as a floating-point one. -/
def readFloat (wanted : String) : Reader Json := fun s =>
  match skipGaps s with
  | [] => .error .endInValue
  | c :: rest =>
    if c == '-' || c.isDigit then do
      match ← readNumber (c :: rest) with
      | (.int i, rest) => return (.float (Float.ofInt i), rest)
      | (.float x, rest) => return (.float x, rest)
    else .error (wrongKind wanted (c :: rest))

/-- A text. -/
def readString (wanted : String) : Reader Json := fun s =>
  match skipGaps s with
  | '"' :: rest => (readText rest).map fun r => (.text r.1, r.2)
  | s => .error (wrongKind wanted s)

/-- The value `null`. -/
def readUnit (wanted : String) : Reader Json := fun s =>
  match skipGaps s with
  | 'n' :: rest => (word "ull".toList rest).map fun r => (.null, r)
  | s => .error (wrongKind wanted s)

/-- A text has to be one of the known spellings. -/
def checkSpelling (known : List String) (t : String) : Except Fault Unit :=
  if known.contains t then .ok () else .error (.unknownSpelling t known)

/-- One of some spellings: the spelling itself, or an object with the spelling as its only key
and `null` as its value.  The object is entered like any other: if something that is no key stands
behind the brace, or nothing at all, it is the object that is faulty and not the choice. -/
def readChoice (depth : Nat) (spellings : List String) : Reader Json := fun s =>
  match skipGaps s with
  | [] => .error .endInValue
  | '"' :: rest => do
    let (t, rest) ← readText rest
    checkSpelling spellings t
    return (.text t, rest)
  | '{' :: rest =>
    if depth = 0 then .error .tooDeep
    else do
      match ← nextEntry true rest with
      | .done _ => throw .wantedValue
      | .member rest =>
        let (t, rest) ← readText rest
        checkSpelling spellings t
        let (_, rest) ← readUnit Shape.unit.wanted (← colon rest)
        match skipGaps rest with
        | '}' :: rest => return (.text t, rest)
        | [] => throw .endInObject
        | _ => throw .wantedValue
  | _ => .error .wantedValue

/-- The value, or `null` in its place. -/
def readOptional (inner : Reader Json) : Reader Json := fun s =>
  match skipGaps s with
  | 'n' :: rest => (word "ull".toList rest).map fun r => (.null, r)
  | s => inner s

/-! ### Lists -/

/-- The items of a list up to its end; `fuel` bounds their number. -/
def items (readItem : Reader Json) : Nat → Bool → Reader (List Json)
  | 0, _, _ => .error .endInList
  | fuel + 1, first, s => do
    match ← nextItem first s with
    | .done rest => return ([], rest)
    | .member s =>
      let (v, s) ← readItem s
      let (vs, s) ← items readItem fuel false s
      return (v :: vs, s)

/-- A list behind its opening bracket. -/
def readItems (readItem : Reader Json) : Reader Json := fun s =>
  (items readItem (s.length + 1) true s).map fun r => (.array r.1, r.2)

/-! ### Records -/

/-- A field of a record: its name, whether it may be left out, and how its value is obtained. -/
structure Field (ρ : Type) where
  name : String
  optional : Bool
  read : ρ

/-- A field whose value is read from a text. -/
abbrev FieldReader := Field (Reader Json)

/-- The entries of a record's object up to its end.  `seen` holds the fields read so far. -/
def entries (fields : List FieldReader) :
    Nat → Bool → List (String × Json) → Reader (List (String × Json))
  | 0, _, _, _ => .error .endInObject
  | fuel + 1, first, seen, s => do
    match ← nextEntry first s with
    | .done rest => return (seen, rest)
    | .member s =>
      let (key, s) ← readText s
      match fields.find? (·.name == key) with
      | some field =>
        if (lookup key seen).isSome then throw (.repeatedField key)
        let (v, s) ← field.read (← colon s)
        entries fields fuel false (seen ++ [(key, v)]) s
      | none =>
        let s ← skipValue (← colon s)
        entries fields fuel false seen s

/-- The fields of a record in the order of their declaration.  A field that may be left out is
`null` if it is. -/
def collect {ρ : Type} (seen : List (String × Json)) :
    List (Field ρ) → Except Fault (List (String × Json))
  | [] => .ok []
  | field :: rest =>
    match lookup field.name seen with
    | some v => (collect seen rest).map ((field.name, v) :: ·)
    | none =>
      if field.optional then (collect seen rest).map ((field.name, .null) :: ·)
      else .error (.missingField field.name)

/-- The fields of a record that is written as an array; `done` counts the fields before them. -/
def elements (record : String) (count : Nat) :
    Nat → List FieldReader → Reader (List (String × Json))
  | _, [], s => (closeList s).map fun s => ([], s)
  | done, field :: rest, s => do
    match ← nextItem (done == 0) s with
    | .done _ => throw (.tooShort done record count)
    | .member s =>
      let (v, s) ← field.read s
      let (vs, s) ← elements record count (done + 1) rest s
      return ((field.name, v) :: vs, s)

/-- A record. -/
def readRecord (depth : Nat) (name wanted : String) (fields : List FieldReader) : Reader Json :=
  fun s =>
    match skipGaps s with
    | '{' :: s =>
      if depth = 0 then .error .tooDeep
      else do
        let (seen, s) ← entries fields (s.length + 1) true [] s
        return (.object (← collect seen fields), s)
    | '[' :: s =>
      if depth = 0 then .error .tooDeep
      else (elements name fields.length 0 fields s).map fun r => (.object r.1, r.2)
    | s => .error (wrongKind wanted s)

/-! ### Values of any kind -/

/-- The entries of an object up to its end, in the order of the text. -/
def anyEntries (readValue : Reader Json) : Nat → Bool → Reader (List (String × Json))
  | 0, _, _ => .error .endInObject
  | fuel + 1, first, s => do
    match ← nextEntry first s with
    | .done rest => return ([], rest)
    | .member s =>
      let (key, s) ← readText s
      let (v, s) ← readValue (← colon s)
      let (vs, s) ← anyEntries readValue fuel false s
      return ((key, v) :: vs, s)

/-- A value of any kind; `inner` reads the values inside it, if it may have any. -/
def readAnyWith (inner : Option (Reader Json)) : Reader Json := fun s =>
  match skipGaps s with
  | [] => .error .endInValue
  | 'n' :: rest => (word "ull".toList rest).map fun r => (.null, r)
  | 't' :: rest => (word "rue".toList rest).map fun r => (.bool true, r)
  | 'f' :: rest => (word "alse".toList rest).map fun r => (.bool false, r)
  | '"' :: rest => (readText rest).map fun r => (.text r.1, r.2)
  | '[' :: rest =>
    match inner with
    | none => .error .tooDeep
    | some inner => readItems inner rest
  | '{' :: rest =>
    match inner with
    | none => .error .tooDeep
    | some inner =>
      (anyEntries inner (rest.length + 1) true rest).map fun r => (ofEntries r.1, r.2)
  | c :: rest =>
    if c == '-' || c.isDigit then do
      match ← readNumber (c :: rest) with
      | (.int i, rest) => return (.int i, rest)
      | (.float x, rest) => return (.float x, rest)
    else .error .wantedValue

/-- A value of any kind that is nested at most `depth` levels deep. -/
def readAny : Nat → Reader Json
  | 0 => readAnyWith none
  | depth + 1 => readAnyWith (some (readAny depth))

/-! ### Shapes -/

mutual

/-- A value of the shape, nested at most `depth` levels deep. -/
def Shape.read (depth : Nat) : Shape → Reader Json
  | .int64 => readInt (-Numeral.signedBound) (Numeral.signedBound - 1) Shape.int64.wanted
  | .uint64 => readInt 0 (UInt64.size - 1) Shape.uint64.wanted
  | .uint8 => readInt 0 (UInt8.size - 1) Shape.uint8.wanted
  | .float => readFloat Shape.float.wanted
  | .text => readString Shape.text.wanted
  | .choice spellings => readChoice depth spellings
  | .optional inner => readOptional (inner.read depth)
  | .list item => fun s =>
    match skipGaps s with
    | '[' :: rest => if depth = 0 then .error .tooDeep else readItems (item.read (depth - 1)) rest
    | s => .error (wrongKind (Shape.list item).wanted s)
  | .record name fields =>
    readRecord depth name (Shape.record name fields).wanted (fieldReaders (depth - 1) fields)
  | .unit => readUnit Shape.unit.wanted
  | .any => readAny depth
termination_by structural shape => shape

/-- The readers of a record's fields. -/
def fieldReaders (depth : Nat) : List (String × Shape) → List FieldReader
  | [] => []
  | field :: rest => fieldReader depth field :: fieldReaders depth rest
termination_by structural fields => fields

/-- The reader of one field. -/
def fieldReader (depth : Nat) : String × Shape → FieldReader
  | (name, shape) => ⟨name, shape.isOptional, shape.read depth⟩
termination_by structural field => field

end

/-- Reads a whole text as a value of the shape. -/
def parse (shape : Shape) (s : String) : Except Fault Json := do
  let (v, rest) ← shape.read maxDepth s.toList
  match skipGaps rest with
  | [] => return v
  | _ => throw .trailingCharacters

end JudgeClient.Json
