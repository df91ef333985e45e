import JudgeClient.Fetch.Request
import JudgeClient.Payload.Envelope
import JudgeClient.Text.Blank

/-!
# Decoding responses

A successful response carries a payload as JSON; an empty body stands for `null`.  Any other
response is an error.  The API explains it in an envelope, and without one the HTTP status says
what kind of error it is.
-/

namespace JudgeClient

namespace Response

/-- The line that tells the status of a response. -/
def statusLine (r : Response) : String := "HTTP " ++ toString r.status

/-- The JSON text in the body: the body without surrounding blanks, or `null` if that is empty. -/
def jsonText (r : Response) : String :=
  match Text.trim r.body.toList with
  | [] => "null"
  | s => String.ofList s

/-- The error that a response stands for that is no success. -/
def failure (r : Response) : Error :=
  match Payload.decode ErrorResponse r.body with
  | .ok e => ⟨(ErrorKind.ofReason? e.reason).getD (ErrorKind.ofStatus r.status), e.message⟩
  | .error _ => ⟨ErrorKind.ofStatus r.status, r.statusLine⟩

/-- The payload of a response. -/
def decode (α : Type) [Payload α] (r : Response) : Except Error α :=
  if r.isSuccess then
    match Payload.decode α r.jsonText with
    | .ok a => .ok a
    | .error f => .error ((Error.ofJsonFault f).addContext r.statusLine)
  else .error r.failure

end Response

namespace Outcome

/-- The HTTP status, if there was a response. -/
def status? : Outcome → Option Nat
  | .ok r => some r.status
  | .error _ => none

/-- The payload that came of a request. -/
def decode (α : Type) [Payload α] : Outcome → Except Error α
  | .ok r => r.decode α
  | .error e => .error e

end Outcome

end JudgeClient
