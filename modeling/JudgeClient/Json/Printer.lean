import JudgeClient.Json.Value
import JudgeClient.Decimal.Layout

/-!
# Compact JSON texts

The JSON text of a value without blanks.  Entries are written in the order in which the value
holds them.  In a quoted text only quotation marks, backslashes and controls are escaped, the
controls by their short form where they have one.
-/

namespace JudgeClient.Json

/-! ### Quoted texts -/

/-- A hexadecimal digit in lower case. -/
def hexDigit (n : Nat) : Char := if n < 10 then Char.ofNat (48 + n) else Char.ofNat (87 + n)

/-- One character as it stands in a quoted text. -/
def escapeChar (c : Char) : List Char :=
  match c with
  | '"' => ['\\', '"']
  | '\\' => ['\\', '\\']
  | '\x08' => ['\\', 'b']
  | '\x0c' => ['\\', 'f']
  | '\n' => ['\\', 'n']
  | '\r' => ['\\', 'r']
  | '\t' => ['\\', 't']
  | c =>
    if c.toNat < 32 then ['\\', 'u', '0', '0', hexDigit (c.toNat / 16), hexDigit (c.toNat % 16)]
    else [c]

/-- A text between quotation marks. -/
def renderText (s : String) : List Char := '"' :: (s.toList.flatMap escapeChar ++ ['"'])

/-! ### Values -/

/-- A floating-point number; one that is not finite has no JSON text of its own. -/
def renderFloat (x : Float) : List Char :=
  if x.isFinite then Decimal.json.write x else "null".toList

mutual

/-- The compact JSON text of a value. -/
def render : Json → List Char
  | .null => "null".toList
  | .bool b => if b then "true".toList else "false".toList
  | .int i => (toString i).toList
  | .float x => renderFloat x
  | .text s => renderText s
  | .array items => '[' :: (renderItems items ++ [']'])
  | .object entries => '{' :: (renderEntries entries ++ ['}'])

/-- The items of an array. -/
def renderItems : List Json → List Char
  | [] => []
  | v :: rest => render v ++ renderMoreItems rest

/-- Items that follow another one. -/
def renderMoreItems : List Json → List Char
  | [] => []
  | v :: rest => ',' :: (render v ++ renderMoreItems rest)

/-- The entries of an object. -/
def renderEntries : List (String × Json) → List Char
  | [] => []
  | (key, v) :: rest => renderText key ++ ':' :: (render v ++ renderMoreEntries rest)

/-- Entries that follow another one. -/
def renderMoreEntries : List (String × Json) → List Char
  | [] => []
  | (key, v) :: rest =>
    ',' :: (renderText key ++ ':' :: (render v ++ renderMoreEntries rest))

end

/-- The compact JSON text of a value. -/
def compact (v : Json) : String := String.ofList v.render

end JudgeClient.Json
