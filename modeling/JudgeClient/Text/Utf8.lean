/-!
# UTF-8

Texts as octets and back.  An octet is a number below 256.  `decode` refuses the first octet
sequence that encodes no character: overlong forms, surrogates, numbers beyond the last code
point, stray continuation octets, and a sequence that the end cuts short.
-/

namespace JudgeClient.Utf8

/-! ### Writing -/

/-- The octets of one character. -/
def encodeChar (c : Char) : List Nat :=
  let n := c.toNat
  if n < 0x80 then [n]
  else if n < 0x800 then [0xC0 + n / 64, 0x80 + n % 64]
  else if n < 0x10000 then [0xE0 + n / 4096, 0x80 + n / 64 % 64, 0x80 + n % 64]
  else [0xF0 + n / 262144, 0x80 + n / 4096 % 64, 0x80 + n / 64 % 64, 0x80 + n % 64]

/-- The first octet of a character. -/
def firstOctet (c : Char) : Nat := (encodeChar c).headD 0

/-- The octets of a text. -/
def encode (s : List Char) : List Nat := s.flatMap encodeChar

/-- How many octets a text takes. -/
def size (s : List Char) : Nat := (encode s).length

/-! ### Reading -/

/-- Where octets stop being text.  `length` counts the octets that are wrong; it is absent when
the octets end inside a sequence that could still have become a character. -/
structure Fault where
  index : Nat
  length : Option Nat
deriving DecidableEq, Repr

/-- The wording of a fault. -/
def Fault.message (f : Fault) : String :=
  match f.length with
  | some n => "invalid utf-8 sequence of " ++ toString n ++ " bytes from index " ++ toString f.index
  | none => "incomplete utf-8 byte sequence from index " ++ toString f.index

/-- The octet continues a sequence. -/
def isContinuation (b : Nat) : Bool := 0x80 ≤ b && b ≤ 0xBF

/-- What may follow the first octet of a sequence: the number of continuation octets, and the
range of the first of them, which excludes overlong forms, surrogates and too large numbers. -/
def follow? (b : Nat) : Option (Nat × Nat × Nat) :=
  if 0xC2 ≤ b ∧ b ≤ 0xDF then some (1, 0x80, 0xBF)
  else if b = 0xE0 then some (2, 0xA0, 0xBF)
  else if b = 0xED then some (2, 0x80, 0x9F)
  else if 0xE1 ≤ b ∧ b ≤ 0xEF then some (2, 0x80, 0xBF)
  else if b = 0xF0 then some (3, 0x90, 0xBF)
  else if b = 0xF4 then some (3, 0x80, 0x8F)
  else if 0xF1 ≤ b ∧ b ≤ 0xF3 then some (3, 0x80, 0xBF)
  else none

/-- What a run of octets is part of. -/
inductive State
  /-- Between characters. -/
  | start
  /-- Inside a sequence: octets seen, octets to come, range of the next one, number so far. -/
  | inside (seen left low high value : Nat)

/-- Reads octets from a state, counting from `index`, the position of the current character. -/
def decodeFrom : Nat → State → List Nat → Except Fault (List Char)
  | _, .start, [] => .ok []
  | index, .inside .., [] => .error ⟨index, none⟩
  | index, .start, b :: rest =>
    if b < 0x80 then
      (decodeFrom (index + 1) .start rest).map (Char.ofNat b :: ·)
    else
      match follow? b with
      | none => .error ⟨index, some 1⟩
      | some (left, low, high) =>
        let lead := if left = 1 then b - 0xC0 else if left = 2 then b - 0xE0 else b - 0xF0
        decodeFrom index (.inside 1 left low high lead) rest
  | index, .inside seen left low high value, b :: rest =>
    if low ≤ b ∧ b ≤ high then
      let value := value * 64 + (b - 0x80)
      if left ≤ 1 then
        (decodeFrom (index + seen + 1) .start rest).map (Char.ofNat value :: ·)
      else
        decodeFrom index (.inside (seen + 1) (left - 1) 0x80 0xBF value) rest
    else .error ⟨index, some seen⟩

/-- The text that the octets encode. -/
def decode (octets : List Nat) : Except Fault (List Char) := decodeFrom 0 .start octets

end JudgeClient.Utf8
