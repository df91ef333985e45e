import JudgeClient.Payload.Basic

/-!
# Errors

What the client shows when something failed: a kind, and a context that grows by one line for
each layer that passes the error on.  The kind decides whether asking again can help
(`ErrorKind.isPermanent`).
-/

namespace JudgeClient

/-! ### Kinds -/

/-- The kind of an error. -/
inductive ErrorKind
  | notFound
  | rateLimit
  | invalidArgument
  | invalidState
  | network
  | browser
  | internal
  | invalidResponse
  | malformedUrl
deriving DecidableEq, Repr

namespace ErrorKind

instance : Spelled ErrorKind where
  members := [.notFound, .rateLimit, .invalidArgument, .invalidState, .network, .browser,
    .internal, .invalidResponse, .malformedUrl]
  spelling
    | .notFound => "NotFound"
    | .rateLimit => "RateLimit"
    | .invalidArgument => "InvalidArgument"
    | .invalidState => "InvalidState"
    | .network => "Network"
    | .browser => "Browser"
    | .internal => "Internal"
    | .invalidResponse => "InvalidResponse"
    | .malformedUrl => "MalformedUrl"

instance : Payload ErrorKind := Payload.ofSpelled ErrorKind

/-- The heading under which an error is shown. -/
def title : ErrorKind → String
  | .notFound => "Not Found"
  | .rateLimit => "Rate limited"
  | .invalidArgument => "Invalid Argument"
  | .invalidState => "Invalid State"
  | .network => "Network Error"
  | .browser => "Browser Error"
  | .internal => "Internal Error"
  | .invalidResponse => "Cannot read response, please check API version"
  | .malformedUrl => "Malformed Url"

/-- The kind for a reason that the API gives. -/
def ofReason? (reason : String) : Option ErrorKind :=
  match reason with
  | "ERR_NOT_FOUND" => some .notFound
  | "ERR_RATE_LIMIT" => some .rateLimit
  | "ERR_INVALID_ARGUMENT" => some .invalidArgument
  | "ERR_INVALID_STATE" => some .invalidState
  | "ERR_EXTERNAL" => some .internal
  | "ERR_INTERNAL" => some .internal
  | _ => none

/-- The kind for an HTTP status that is no success. -/
def ofStatus (status : Nat) : ErrorKind :=
  if status = 404 then .notFound
  else if status = 429 then .rateLimit
  else if 400 ≤ status ∧ status ≤ 499 then .invalidArgument
  else .internal

/-- Asking again gives the same answer. -/
def isPermanent : ErrorKind → Bool
  | .notFound | .invalidArgument | .malformedUrl => true
  | _ => false

end ErrorKind

/-! ### Errors with their context -/

/-- An error: its kind, and what is known about it. -/
structure Error where
  kind : ErrorKind
  context : String
deriving DecidableEq, Repr

namespace Error

instance : Payload Error where
  shape := .record "Error" [("kind", Payload.shape ErrorKind), ("context", .text)]
  toJson e := .object [("kind", Payload.toJson e.kind), ("context", .text e.context)]
  ofJson? v := do
    return { kind := ← Payload.field "kind" v, context := ← Payload.field "context" v }

/-- The error with one more line of context. -/
def addContext (e : Error) (line : String) : Error :=
  { e with context := e.context ++ "\n  >" ++ line }

/-- The error in one text. -/
def display (e : Error) : String := e.kind.title ++ " : " ++ e.context

/-- The error of a text that is not the JSON asked for. -/
def ofJsonFault (f : Json.Fault) : Error := ⟨.invalidResponse, f.message⟩

/-- The error of a request that got no answer. -/
def ofConnection (message : String) : Error := ⟨.network, message⟩

end Error

end JudgeClient
