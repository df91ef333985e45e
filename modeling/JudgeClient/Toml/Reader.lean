import JudgeClient.Toml.Scalar

/-!
# Reading TOML

`parse` reads a whole document as the entries of its root table, or refuses it.  A document is a
sequence of lines: a header, a key with its value, or nothing, each with an optional comment.
Arrays and inline tables may be nested `maxDepth` levels deep, and a key has at most that many
parts.
-/

namespace JudgeClient.Toml

/-- How deep arrays and inline tables may be nested, and how many parts a key may have. -/
def maxDepth : Nat := 127

/-! ### Blanks and comments -/

/-- The text behind spaces and tabs. -/
def skipSpaces (s : List Char) : List Char := s.dropWhile isSpace

/-- The text behind a comment. -/
def skipComment? (s : List Char) : Option (List Char) :=
  match s with
  | '#' :: rest =>
    let rest := rest.dropWhile isVisible
    if rest.isEmpty || (lineEnd? rest).isSome then some rest else none
  | s => some s

/-- The text behind the end of a line, which only a comment may stand before. -/
def endLine? (s : List Char) : Option (List Char) := do
  let rest ← skipComment? (skipSpaces s)
  if rest.isEmpty then some [] else lineEnd? rest

/-- The text behind blanks, comments and line ends; `fuel` bounds the number of lines. -/
def skipLines? : Nat → List Char → Option (List Char)
  | 0, _ => none
  | fuel + 1, s => do
    let rest ← skipComment? (skipSpaces s)
    match lineEnd? rest with
    | some rest => skipLines? fuel rest
    | none => some rest

/-! ### Keys -/

/-- A character of a bare key. -/
def isBareChar (c : Char) : Bool := c.isAlphanum || c == '_' || c == '-'

/-- One part of a key. -/
def readKeyPart? (s : List Char) : Option (String × List Char) :=
  match s with
  | '"' :: rest => (readBasic rest).map fun r => (String.ofList r.1, r.2)
  | '\'' :: rest => (readLiteral rest).map fun r => (String.ofList r.1, r.2)
  | s =>
    let name := s.takeWhile isBareChar
    if name.isEmpty then none else some (String.ofList name, s.dropWhile isBareChar)

/-- A key: the parts before its last dot, and its last part. -/
def readKey? : Nat → List Char → Option (List String × String × List Char)
  | 0, _ => none
  | fuel + 1, s => do
    let (part, rest) ← readKeyPart? (skipSpaces s)
    match skipSpaces rest with
    | '.' :: rest => do
      let (path, key, rest) ← readKey? fuel rest
      some (part :: path, key, rest)
    | rest => some ([], part, rest)

/-- A key of at most `maxDepth` parts. -/
def key? (s : List Char) : Option (List String × String × List Char) := readKey? maxDepth s

/-! ### Values -/

/-- The items of an array up to its end. -/
def readItems? (readValue : List Char → Option (Node × List Char)) :
    Nat → List Char → Option (List Node × List Char)
  | 0, _ => none
  | fuel + 1, s => do
    let s ← skipLines? (s.length + 1) s
    match s with
    | ']' :: rest => some ([], rest)
    | s =>
      let (v, s) ← readValue s
      let s ← skipLines? (s.length + 1) s
      match s with
      | ']' :: rest => some ([v], rest)
      | ',' :: rest => do
        let (vs, rest) ← readItems? readValue fuel rest
        some (v :: vs, rest)
      | _ => none

/-- The entries of an inline table up to its end. -/
def readInline? (readValue : List Char → Option (Node × List Char)) :
    Nat → Entries → List Char → Option (Entries × List Char)
  | 0, _, _ => none
  | fuel + 1, entries, s => do
    let (path, key, s) ← key? s
    let s ← mark? '=' s
    let (v, s) ← readValue (skipSpaces s)
    let entries ← entries.setInline v path key
    match skipSpaces s with
    | '}' :: rest => some (entries, rest)
    | ',' :: rest => readInline? readValue fuel entries rest
    | _ => none

/-- A value that is nested at most `depth` levels deep. -/
def readValue? : Nat → List Char → Option (Node × List Char)
  | depth, s =>
    match s with
    | '"' :: _ => (readText? s).map fun r => (.text (String.ofList r.1), r.2)
    | '\'' :: _ => (readText? s).map fun r => (.text (String.ofList r.1), r.2)
    | '[' :: rest =>
      match depth with
      | 0 => none
      | depth + 1 =>
        (readItems? (readValue? depth) (rest.length + 1) rest).map fun r => (.array r.1, r.2)
    | '{' :: rest =>
      match depth with
      | 0 => none
      | depth + 1 =>
        match skipSpaces rest with
        | '}' :: rest => some (.inline [], rest)
        | rest =>
          (readInline? (readValue? depth) (rest.length + 1) [] rest).map fun r =>
            (.inline r.1, r.2)
    | s => readWord? s

/-! ### Documents -/

/-- Reads lines; `table` is the path of the table that the last header opened. -/
def readLines? : Nat → List String → Entries → List Char → Option Entries
  | 0, _, _, _ => none
  | fuel + 1, table, root, s => do
    match skipSpaces s with
    | [] => some root
    | '[' :: '[' :: rest => do
      let (path, key, rest) ← key? rest
      let rest ← mark? ']' rest
      let rest ← mark? ']' rest
      readLines? fuel (path ++ [key]) (← root.addTable path key) (← endLine? rest)
    | '[' :: rest => do
      let (path, key, rest) ← key? rest
      let rest ← mark? ']' rest
      readLines? fuel (path ++ [key]) (← root.openTable path key) (← endLine? rest)
    | c :: rest =>
      if c = '#' ∨ (lineEnd? (c :: rest)).isSome then
        readLines? fuel table root (← endLine? (c :: rest))
      else do
        let (path, key, rest) ← key? (c :: rest)
        let rest ← mark? '=' rest
        let (v, rest) ← readValue? maxDepth (skipSpaces rest)
        readLines? fuel table (← root.setIn table path key v) (← endLine? rest)

/-- The entries of a document.  A byte order mark before it does not count. -/
def parse (s : String) : Option Entries :=
  let text := match s.toList with
    | '\uFEFF' :: rest => rest
    | s => s
  readLines? (text.length + 1) [] [] text

end JudgeClient.Toml
