import JudgeClient.Payload.Basic

/-!
# Error envelopes

The body with which the API explains a request that it did not fulfil.
-/

namespace JudgeClient

/-- The API's explanation of a failure. -/
structure ErrorResponse where
  code : UInt8
  reason : String
  message : String
deriving DecidableEq

instance : Payload ErrorResponse where
  shape := .record "ErrorResponse" [("code", .uint8), ("reason", .text), ("message", .text)]
  toJson e := .object [("code", .int e.code.toNat), ("reason", .text e.reason),
    ("message", .text e.message)]
  ofJson? v := do
    return {
      code := ← Payload.field "code" v
      reason := ← Payload.field "reason" v
      message := ← Payload.field "message" v }

end JudgeClient
