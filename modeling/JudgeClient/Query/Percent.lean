import JudgeClient.Text.Utf8

/-!
# Components of query strings

The form in which a key or a value stands in a query string: a space is written as `+`, letters,
digits and four marks as themselves, and every other octet by its number behind a percent sign.
Reading is more liberal: a percent sign without two digits behind it stands for itself.
-/

namespace JudgeClient.Query

/-! ### Writing -/

/-- The octet is written as itself. -/
def isPlain (b : Nat) : Bool :=
  (0x30 ≤ b && b ≤ 0x39) || (0x41 ≤ b && b ≤ 0x5A) || (0x61 ≤ b && b ≤ 0x7A) ||
    b == 0x2A || b == 0x2D || b == 0x2E || b == 0x5F

/-- A hexadecimal digit in upper case. -/
def hexDigit (n : Nat) : Char := if n < 10 then Char.ofNat (48 + n) else Char.ofNat (55 + n)

/-- One octet of a component. -/
def writeOctet (b : Nat) : List Char :=
  if b = 0x20 then ['+']
  else if isPlain b then [Char.ofNat b]
  else ['%', hexDigit (b / 16), hexDigit (b % 16)]

/-- A component of a query string. -/
def writeComponent (s : List Char) : List Char := (Utf8.encode s).flatMap writeOctet

/-! ### Reading -/

/-- The value of a hexadecimal digit. -/
def hexValue? (c : Char) : Option Nat :=
  if '0' ≤ c ∧ c ≤ '9' then some (c.toNat - 48)
  else if 'a' ≤ c ∧ c ≤ 'f' then some (c.toNat - 87)
  else if 'A' ≤ c ∧ c ≤ 'F' then some (c.toNat - 55)
  else none

/-- The octet behind a percent sign. -/
def hexOctet? (a b : Char) : Option Nat :=
  match hexValue? a, hexValue? b with
  | some x, some y => some (16 * x + y)
  | _, _ => none

/-- The octets of a single character of a component. -/
def plainOctets (c : Char) : List Nat := if c = '+' then [0x20] else Utf8.encodeChar c

/-- The octets that a component stands for. -/
def componentOctets : List Char → List Nat
  | '%' :: a :: b :: rest =>
    match hexOctet? a b with
    | some x => x :: componentOctets rest
    | none => 0x25 :: componentOctets (a :: b :: rest)
  | c :: rest => plainOctets c ++ componentOctets rest
  | [] => []

/-- The text that a component stands for. -/
def readComponent (s : List Char) : Except Utf8.Fault String :=
  (Utf8.decode (componentOctets s)).map String.ofList

end JudgeClient.Query
