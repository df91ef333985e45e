import JudgeClient.Numeral
import JudgeClient.Route.Params

/-!
# Path patterns

A pattern is an absolute path whose segments are literals (`problems`), captures of any text
(`:name`), or captures of a number (`:name(\d+)`).  Patterns and paths are split in the same way,
which tolerates one slash at the end.

`Pattern.parse` reads a pattern and `Pattern.matches?` matches a path against it.
-/

namespace JudgeClient

/-! ### Segments -/

/-- A segment of a pattern. -/
inductive Segment
  | literal (text : String)
  /-- A capture of any text. -/
  | any (name : String)
  /-- A capture of a number below `2 ^ 63`. -/
  | numeric (name : String)
deriving DecidableEq, Repr

namespace Segment

/-- The name of a capture. -/
def name? : Segment → Option String
  | .literal _ => none
  | .any name => some name
  | .numeric name => some name

/-- The part of a path stands where the segment does.  Literals are compared without regard to
the case of ASCII letters. -/
def accepts (s : Segment) (part : List Char) : Bool :=
  match s with
  | .literal text => text.toList.map Char.toLower == part.map Char.toLower
  | .any _ => true
  | .numeric _ => Numeral.isNumeric part

end Segment

/-- The parts of a path behind its leading slash; one slash at the end does not count. -/
def splitPath (rest : List Char) : List (List Char) :=
  let rest := if rest.getLast? = some '/' then rest.dropLast else rest
  if rest.isEmpty then [] else rest.splitOn '/'

/-! ### Errors -/

/-- Why a text is no pattern. -/
inductive PatternError
  | notAbsolute (pattern : String)
  | emptySegment (pattern : String)
  | unnamedCapture (pattern : String)
  | unsupportedConstraint (pattern constraint : String)
  | duplicateCapture (pattern name : String)
deriving DecidableEq, Repr

/-- The wording of an error. -/
def PatternError.message : PatternError → String
  | .notAbsolute pattern => "pattern `" ++ pattern ++ "` must start with `/`"
  | .emptySegment pattern => "pattern `" ++ pattern ++ "` has an empty segment"
  | .unnamedCapture pattern => "capture in `" ++ pattern ++ "` has no name"
  | .unsupportedConstraint pattern constraint =>
    "unsupported constraint `" ++ constraint ++ "` in `" ++ pattern ++ "`"
  | .duplicateCapture pattern name =>
    "capture `" ++ name ++ "` appears twice in `" ++ pattern ++ "`"

/-! ### Patterns -/

/-- A pattern: the text it was read from, and its segments. -/
structure Pattern where
  raw : String
  segments : List Segment
deriving DecidableEq, Repr

namespace Pattern

/-- The capture that is written behind a colon. -/
def parseCapture (raw : String) (capture : List Char) : Except PatternError Segment :=
  let name := capture.takeWhile (· != '(')
  if name.isEmpty then .error (.unnamedCapture raw)
  else match capture.dropWhile (· != '(') with
    | [] => .ok (.any (String.ofList name))
    | _ :: constraint =>
      if constraint = "\\d+)".toList then .ok (.numeric (String.ofList name))
      else .error (.unsupportedConstraint raw (String.ofList
        (if constraint.getLast? = some ')' then constraint.dropLast else capture)))

/-- The segment that a part of a pattern stands for. -/
def parseSegment (raw : String) (part : List Char) : Except PatternError Segment :=
  match part with
  | ':' :: capture => parseCapture raw capture
  | literal => .ok (.literal (String.ofList literal))

/-- The segments of the parts of a pattern; `names` holds the captures before them. -/
def parseSegments (raw : String) :
    List String → List (List Char) → Except PatternError (List Segment)
  | _, [] => .ok []
  | names, part :: rest => do
    let segment ← parseSegment raw part
    match segment.name? with
    | none => return segment :: (← parseSegments raw names rest)
    | some name =>
      if names.contains name then throw (.duplicateCapture raw name)
      return segment :: (← parseSegments raw (name :: names) rest)

/-- Reads a pattern. -/
def parse (raw : String) : Except PatternError Pattern :=
  match raw.toList with
  | '/' :: rest => do
    let segments ← parseSegments raw [] (splitPath rest)
    if segments.contains (.literal "") then throw (.emptySegment raw)
    return ⟨raw, segments⟩
  | _ => .error (.notAbsolute raw)

/-- The captures of the parts of a path that stand where the segments do. -/
def capture? : List Segment → List (List Char) → Option Params
  | [], [] => some .empty
  | segment :: segments, part :: parts =>
    if segment.accepts part then do
      let params ← capture? segments parts
      match segment.name? with
      | none => return params
      | some name => return params.insert name (String.ofList part)
    else none
  | _, _ => none

/-- The captures of a path that the pattern matches.  The path has no query. -/
def matches? (p : Pattern) (path : List Char) : Option Params :=
  match path with
  | '/' :: rest => capture? p.segments (splitPath rest)
  | _ => none

end Pattern

end JudgeClient
