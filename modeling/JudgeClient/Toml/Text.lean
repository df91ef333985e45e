/-!
# TOML strings

The four forms of a string: between double quotes with escapes, between single quotes as it
stands, and both over several lines between triple quotes.  Line ends inside a string are read as
a single line feed.  A reader starts behind the opening quotes.
-/

namespace JudgeClient.Toml

/-! ### Characters -/

/-- A space or a tab. -/
def isSpace (c : Char) : Bool := c == ' ' || c == '\t'

/-- A character that may stand in a comment or a string: no control except the tab. -/
def isVisible (c : Char) : Bool := c == '\t' || (32 ≤ c.toNat && c.toNat != 127)

/-- The text behind a line end. -/
def lineEnd? : List Char → Option (List Char)
  | '\n' :: rest => some rest
  | '\r' :: '\n' :: rest => some rest
  | _ => none

/-- The text behind a character that has to stand here. -/
def mark? (c : Char) : List Char → Option (List Char)
  | [] => none
  | d :: rest => if c = d then some rest else none

/-- The text without the line end it starts with, if it does. -/
def dropLineEnd (s : List Char) : List Char := (lineEnd? s).getD s

/-- The value of a hexadecimal digit. -/
def hexValue? (c : Char) : Option Nat :=
  if '0' ≤ c ∧ c ≤ '9' then some (c.toNat - 48)
  else if 'a' ≤ c ∧ c ≤ 'f' then some (c.toNat - 87)
  else if 'A' ≤ c ∧ c ≤ 'F' then some (c.toNat - 55)
  else none

/-- The character with the number that hexadecimal digits spell. -/
def numbered? (digits : List Char) : Option Char := do
  let n ← digits.foldlM (fun n c => (hexValue? c).map (16 * n + ·)) 0
  if n.isValidChar then some (Char.ofNat n) else none

/-- The character of a one-letter escape. -/
def escape? (c : Char) : Option Char :=
  match c with
  | 'b' => some '\x08'
  | 't' => some '\t'
  | 'n' => some '\n'
  | 'f' => some '\x0c'
  | 'r' => some '\r'
  | '"' => some '"'
  | '\\' => some '\\'
  | _ => none

/-! ### Strings on one line -/

/-- The string up to a double quote. -/
def readBasic : List Char → Option (List Char × List Char)
  | [] => none
  | '"' :: rest => some ([], rest)
  | '\\' :: 'u' :: a :: b :: c :: d :: rest => do
    let x ← numbered? [a, b, c, d]
    let (s, rest) ← readBasic rest
    some (x :: s, rest)
  | '\\' :: 'U' :: a :: b :: c :: d :: e :: f :: g :: h :: rest => do
    let x ← numbered? [a, b, c, d, e, f, g, h]
    let (s, rest) ← readBasic rest
    some (x :: s, rest)
  | '\\' :: c :: rest => do
    let x ← escape? c
    let (s, rest) ← readBasic rest
    some (x :: s, rest)
  | c :: rest =>
    if c ≠ '\\' ∧ isVisible c then (readBasic rest).map fun r => (c :: r.1, r.2) else none

/-- The string up to a single quote. -/
def readLiteral : List Char → Option (List Char × List Char)
  | [] => none
  | '\'' :: rest => some ([], rest)
  | c :: rest => if isVisible c then (readLiteral rest).map fun r => (c :: r.1, r.2) else none

/-! ### Strings over several lines -/

/-- A backslash that ends its line. -/
def endsLine (s : List Char) : Bool := (lineEnd? (s.dropWhile isSpace)).isSome

/-- The string up to three double quotes, two more of which may stand before them.  While
`trimming`, blanks and line ends are passed over. -/
def readLongBasic : Bool → List Char → Option (List Char × List Char)
  | _, [] => none
  | true, ' ' :: rest => readLongBasic true rest
  | true, '\t' :: rest => readLongBasic true rest
  | true, '\n' :: rest => readLongBasic true rest
  | true, '\r' :: '\n' :: rest => readLongBasic true rest
  | _, '"' :: '"' :: '"' :: '"' :: '"' :: rest => some (['"', '"'], rest)
  | _, '"' :: '"' :: '"' :: '"' :: rest => some (['"'], rest)
  | _, '"' :: '"' :: '"' :: rest => some ([], rest)
  | _, '\\' :: 'u' :: a :: b :: c :: d :: rest => do
    let x ← numbered? [a, b, c, d]
    let (s, rest) ← readLongBasic false rest
    some (x :: s, rest)
  | _, '\\' :: 'U' :: a :: b :: c :: d :: e :: f :: g :: h :: rest => do
    let x ← numbered? [a, b, c, d, e, f, g, h]
    let (s, rest) ← readLongBasic false rest
    some (x :: s, rest)
  | _, '\\' :: c :: rest =>
    if endsLine (c :: rest) then readLongBasic true (c :: rest)
    else do
      let x ← escape? c
      let (s, rest) ← readLongBasic false rest
      some (x :: s, rest)
  | _, '\r' :: '\n' :: rest => (readLongBasic false rest).map fun r => ('\n' :: r.1, r.2)
  | _, c :: rest =>
    if c = '\n' ∨ (c ≠ '\\' ∧ isVisible c) then
      (readLongBasic false rest).map fun r => (c :: r.1, r.2)
    else none

/-- The string up to three single quotes, two more of which may stand before them. -/
def readLongLiteral : List Char → Option (List Char × List Char)
  | [] => none
  | '\'' :: '\'' :: '\'' :: '\'' :: '\'' :: rest => some (['\'', '\''], rest)
  | '\'' :: '\'' :: '\'' :: '\'' :: rest => some (['\''], rest)
  | '\'' :: '\'' :: '\'' :: rest => some ([], rest)
  | '\r' :: '\n' :: rest => (readLongLiteral rest).map fun r => ('\n' :: r.1, r.2)
  | c :: rest =>
    if c = '\n' ∨ isVisible c then (readLongLiteral rest).map fun r => (c :: r.1, r.2) else none

/-! ### All forms -/

/-- A string with its quotes. -/
def readText? : List Char → Option (List Char × List Char)
  | '"' :: '"' :: '"' :: rest => readLongBasic false (dropLineEnd rest)
  | '"' :: rest => readBasic rest
  | '\'' :: '\'' :: '\'' :: rest => readLongLiteral (dropLineEnd rest)
  | '\'' :: rest => readLiteral rest
  | _ => none

end JudgeClient.Toml
