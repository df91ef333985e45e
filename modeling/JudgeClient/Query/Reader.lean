import JudgeClient.Query.Tree

/-!
# Reading query strings

A query string is a sequence of pairs between `&` signs.  A pair has a key and, behind the first
equals sign, a value; the key may go on in brackets.  The first character of a pair always
belongs to the key, be it an equals sign.  Keys go at most a few levels deep (`firstDepth`): what
lies deeper is one key, brackets included, and each pair may go one level deeper than the pair
before it.

`parse` reads a query string whose values are all texts.
-/

namespace JudgeClient.Query

/-- How many levels deep the key of the first pair may go. -/
def firstDepth : Nat := 5

/-! ### Keys -/

/-- A character that starts the name in a bracket. -/
def startsName (c : Char) : Bool :=
  let n := c.toNat
  (0x20 ≤ n && n ≤ 0x2F) || (0x3A ≤ n && n ≤ 0x5A) || n == 0x5C || (0x5E ≤ n && n ≤ 0x7E)

/-- The value of an index, whose digits are read from left to right. -/
def readIndex : Nat → List Char → Except Fault Nat
  | n, [] => .ok n
  | n, c :: rest =>
    if c.isDigit then
      let next := n * 10 + (c.toNat - 48)
      if next < UInt64.size then readIndex next rest else .error .largeIndex
    else .error .badIndex

/-- The key with the given spelling. -/
def readName (s : List Char) : Except Fault Step :=
  match readComponent s with
  | .error f => .error (.badText f)
  | .ok name => .ok (.key name)

/-- The index with the given spelling. -/
def readNumber (s : List Char) : Except Fault Step :=
  match readComponent s with
  | .error f => .error (.badText f)
  | .ok name => (readIndex 0 name.toList).map .index

/-- The value of a pair. -/
def readValue (s : List Char) : Except Fault String :=
  match readComponent s with
  | .error f => .error (.badText f)
  | .ok text => .ok text

/-! ### Pairs -/

/-- The spelling inside a bracket, and what follows it.  A bracket that is not closed reaches to
the end of the pair. -/
def insideBracket (s : List Char) : List Char × List Char :=
  (s.takeWhile (· != ']'), (s.dropWhile (· != ']')).drop 1)

/-- The fault of a character behind a step that ends no key.  Behind an index it is told by its
first octet. -/
def badEnd (step : Step) (c : Char) : Fault :=
  match step with
  | .key _ => .badKeyEnd c
  | .index _ => .badIndexEnd (Utf8.firstOctet c)
  | .next => .nestedList

/-- The path of a pair behind one of its steps.  `deeper` reads it behind an opening bracket. -/
def afterStep (deeper : List Char → Path) (step : Except Fault Step) (s : List Char) : Path :=
  match step with
  | .error f => .bad f
  | .ok step =>
    match s with
    | [] => .last step (.ok "")
    | '=' :: rest => .last step (readValue rest)
    | '[' :: rest =>
      match step with
      | .next => .last step (.error .nestedList)
      | step => .more step (deeper rest)
    | c :: _ => .last step (.error (badEnd step c))

/-- The path of a pair that may go no deeper: all that stands before the value is one key. -/
def deepestPath (s : List Char) : Path :=
  afterStep (fun _ => .bad (.badKeyEnd '[')) (readName ('[' :: s.takeWhile (· != '=')))
    (s.dropWhile (· != '='))

/-- The path of a pair behind an opening bracket.  `isLast` says that no pair follows. -/
def bracketPath (isLast : Bool) : Nat → List Char → Path
  | 0, s => deepestPath s
  | depth + 1, s =>
    match s with
    | [] =>
      if isLast then .bad .cut
      else afterStep (bracketPath isLast depth) (readName []) []
    | '[' :: _ => .bad .doubleBracket
    | ']' :: rest => afterStep (bracketPath isLast depth) (.ok .next) rest
    | c :: _ =>
      let (inside, rest) := insideBracket s
      if c.isDigit then afterStep (bracketPath isLast depth) (readNumber inside) rest
      else if startsName c then afterStep (bracketPath isLast depth) (readName inside) rest
      else .bad (.badKeyStart c)

/-- The path of a pair. -/
def pairPath (isLast : Bool) (depth : Nat) (pair : List Char) : Path :=
  match pair with
  | '[' :: rest => bracketPath isLast depth rest
  | [] => .bad .cut
  | c :: rest =>
    let stops := fun c : Char => c == '=' || c == '['
    afterStep (bracketPath isLast (depth - 1)) (readName (c :: rest.takeWhile (!stops ·)))
      (rest.dropWhile (!stops ·))

/-! ### Query strings -/

/-- Adds pairs to a tree.  Empty pairs are passed over. -/
def addPairs : Nat → Tree → List (List Char) → Except Fault Tree
  | _, t, [] => .ok t
  | depth, t, [] :: rest => addPairs depth t rest
  | depth, t, pair :: rest => do
    addPairs (depth + 1) (← t.add (pairPath rest.isEmpty depth pair)) rest

/-- The texts of a query string in the order of their keys. -/
def parse (s : List Char) : Except Fault (List (String × String)) := do
  let t ← addPairs firstDepth (.map []) (s.splitOn '&')
  t.asTexts

end JudgeClient.Query
