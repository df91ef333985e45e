import JudgeClient.Text.Hidden

/-!
# Quoted texts

The form in which an error message shows a text it found: between quotation marks, with quotation
marks, backslashes and the common controls escaped, and every other hidden character spelled out
by its number in hexadecimal.
-/

namespace JudgeClient.Text

/-- One character as it stands inside quotation marks. -/
def quoteChar (c : Char) : List Char :=
  match c with
  | '"' => ['\\', '"']
  | '\\' => ['\\', '\\']
  | '\t' => ['\\', 't']
  | '\r' => ['\\', 'r']
  | '\n' => ['\\', 'n']
  | '\x00' => ['\\', '0']
  | c =>
    if isHidden c then '\\' :: 'u' :: '{' :: (Nat.toDigits 16 c.toNat ++ ['}']) else [c]

/-- The text between quotation marks. -/
def quoted (s : String) : String :=
  String.ofList ('"' :: (s.toList.flatMap quoteChar ++ ['"']))

end JudgeClient.Text
