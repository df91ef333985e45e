import JudgeClient.Json.Fault
import JudgeClient.Text.Utf8

/-!
# Words and quoted texts of JSON

The scanners below the grammar: blanks, the words `null`, `true` and `false`, and quoted texts
with their escapes.  A scanner of quoted texts starts behind the opening quotation mark and walks
through the characters with a small state, so its recursion is on the text.
-/

namespace JudgeClient.Json

/-! ### Blanks and words -/

/-- The four blanks of the JSON grammar. -/
def isGap (c : Char) : Bool := c == ' ' || c == '\n' || c == '\t' || c == '\r'

/-- The text from its first character that is no blank. -/
def skipGaps (s : List Char) : List Char := s.dropWhile isGap

/-- The text behind a word that it has to start with. -/
def word : List Char → List Char → Except Fault (List Char)
  | [], s => .ok s
  | _ :: _, [] => .error .endInValue
  | w :: ws, c :: s => if w = c then word ws s else .error .wantedWord

/-! ### Quoted texts -/

/-- The value of a hexadecimal digit. -/
def hexValue? (c : Char) : Option Nat :=
  if '0' ≤ c ∧ c ≤ '9' then some (c.toNat - 48)
  else if 'a' ≤ c ∧ c ≤ 'f' then some (c.toNat - 87)
  else if 'A' ≤ c ∧ c ≤ 'F' then some (c.toNat - 55)
  else none

/-- Where a scan of a quoted text stands. -/
inductive TextState
  /-- Between characters. -/
  | plain
  /-- Behind a backslash. -/
  | escape
  /-- Inside a numeric escape: the leading surrogate before it, digits to come, value so far. -/
  | unit (lead : Option Nat) (left value : Nat)
  /-- Behind a leading surrogate, where a backslash has to follow. -/
  | pairEscape (lead : Nat)
  /-- Behind a leading surrogate and a backslash. -/
  | pairMark (lead : Nat)

/-- The character of a one-letter escape. -/
def shortEscape? (c : Char) : Option Char :=
  match c with
  | '"' => some '"'
  | '\\' => some '\\'
  | '/' => some '/'
  | 'b' => some '\x08'
  | 'f' => some '\x0c'
  | 'n' => some '\n'
  | 'r' => some '\r'
  | 't' => some '\t'
  | _ => none

/-- The text is too short to hold the four digits of a numeric escape. -/
def lacksUnit (s : List Char) : Bool := Utf8.size (s.take 4) < 4

/-- What a numeric escape that is read to its end stands for: a character, or the first half of a
surrogate pair. -/
def finishUnit (lead : Option Nat) (value : Nat) : Except Fault (Char ⊕ Nat) :=
  match lead with
  | none =>
    if 0xDC00 ≤ value ∧ value ≤ 0xDFFF then .error .loneSurrogate
    else if 0xD800 ≤ value ∧ value ≤ 0xDBFF then .ok (.inr value)
    else .ok (.inl (Char.ofNat value))
  | some lead =>
    if 0xDC00 ≤ value ∧ value ≤ 0xDFFF then
      .ok (.inl (Char.ofNat (0x10000 + (lead - 0xD800) * 0x400 + (value - 0xDC00))))
    else .error .loneSurrogate

/-- Scans a quoted text up to its closing mark; `acc` holds the characters so far, last first. -/
def scanText : TextState → List Char → Reader (List Char)
  | .plain, _, [] => .error .endInText
  | .plain, acc, c :: s =>
    if c = '"' then .ok (acc.reverse, s)
    else if c = '\\' then scanText .escape acc s
    else if c.toNat < 32 then .error .rawControl
    else scanText .plain (c :: acc) s
  | .escape, _, [] => .error .endInText
  | .escape, acc, c :: s =>
    if c = 'u' then
      if lacksUnit s then .error .endInText else scanText (.unit none 4 0) acc s
    else match shortEscape? c with
      | some e => scanText .plain (e :: acc) s
      | none => .error .badEscape
  | .unit .., _, [] => .error .endInText
  | .unit lead left value, acc, c :: s =>
    match hexValue? c with
    | none => .error .badEscape
    | some d =>
      let value := value * 16 + d
      if left ≤ 1 then
        match finishUnit lead value with
        | .error f => .error f
        | .ok (.inl e) => scanText .plain (e :: acc) s
        | .ok (.inr lead) => scanText (.pairEscape lead) acc s
      else scanText (.unit lead (left - 1) value) acc s
  | .pairEscape _, _, [] => .error .endInText
  | .pairEscape lead, acc, c :: s =>
    if c = '\\' then scanText (.pairMark lead) acc s else .error .cutSurrogatePair
  | .pairMark _, _, [] => .error .endInText
  | .pairMark lead, acc, c :: s =>
    if c = 'u' then
      if lacksUnit s then .error .endInText else scanText (.unit (some lead) 4 0) acc s
    else .error .cutSurrogatePair

/-- The quoted text whose opening mark has just been read. -/
def readText : Reader String := fun s =>
  (scanText .plain [] s).map fun r => (String.ofList r.1, r.2)

/-! ### Quoted texts that nobody looks at -/

/-- Where a scan of an ignored quoted text stands: between characters, behind a backslash, or
inside a numeric escape with some digits to come. -/
inductive SkipState
  | plain
  | escape
  | unit (left : Nat)

/-- Scans a quoted text without building it.  The digits of a numeric escape are checked, but not
whether they name a character. -/
def skipText : SkipState → List Char → Except Fault (List Char)
  | _, [] => .error .endInText
  | .plain, c :: s =>
    if c = '"' then .ok s
    else if c = '\\' then skipText .escape s
    else if c.toNat < 32 then .error .rawControl
    else skipText .plain s
  | .escape, c :: s =>
    if c = 'u' then if lacksUnit s then .error .endInText else skipText (.unit 4) s
    else if (shortEscape? c).isSome then skipText .plain s
    else .error .badEscape
  | .unit left, c :: s =>
    if (hexValue? c).isNone then .error .badEscape
    else if left ≤ 1 then skipText .plain s
    else skipText (.unit (left - 1)) s

end JudgeClient.Json
