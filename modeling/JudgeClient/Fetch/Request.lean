import JudgeClient.Error

/-!
# Requests and their outcomes

What is sent to the judge's API, and what comes of it: a response with some HTTP status, or an
error when there was no response at all.
-/

namespace JudgeClient

/-- The HTTP method of a request. -/
inductive Method
  | get
  | post
  | put
  | delete
deriving DecidableEq, Repr

/-- A request to the API. -/
structure Request where
  method : Method
  url : String
  headers : List (String × String)
  /-- The text of a JSON value. -/
  body : Option String
deriving DecidableEq, Repr

/-- A response of the API, whatever its status. -/
structure Response where
  status : Nat
  body : String
deriving DecidableEq, Repr

/-- The API did what it was asked for. -/
def Response.isSuccess (r : Response) : Bool := 200 ≤ r.status && r.status < 300

/-- What comes of a request. -/
abbrev Outcome := Except Error Response

end JudgeClient
