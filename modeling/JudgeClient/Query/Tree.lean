import JudgeClient.Query.Percent
import JudgeClient.Text.Quoted

/-!
# What a query string holds

The keys of a query string may be bracketed, so that it holds a tree: texts, maps, lists and
numbered lists.  Pairs are added one after another, and two pairs may contradict each other.  A
contradiction breaks only its own node, which is reported when that node is looked at.
-/

namespace JudgeClient.Query

/-! ### Faults -/

/-- Why a query string is refused. -/
inductive Fault
  /-- The text ends behind an opening bracket. -/
  | cut
  /-- An opening bracket behind another one. -/
  | doubleBracket
  /-- A character that no bracketed key starts with. -/
  | badKeyStart (c : Char)
  /-- A character behind a name that ends no key. -/
  | badKeyEnd (c : Char)
  /-- A character behind an index that ends no key; its first octet. -/
  | badIndexEnd (octet : Nat)
  /-- A list without indices that holds more than texts. -/
  | nestedList
  /-- An index that is not written in digits. -/
  | badIndex
  /-- An index beyond 64 bits. -/
  | largeIndex
  | badText (f : Utf8.Fault)
  | repeatedKey (key : String)
  | repeatedIndex
  | noMap
  | noList
  /-- A key below a node that has none; the node as it is shown. -/
  | noKeysIn (node : String)
  /-- A map or a list where a text is wanted. -/
  | foundMap
  | foundList
deriving DecidableEq, Repr

/-- A character in an error message, where only ASCII is shown. -/
def showChar (c : Char) : String := if c.toNat < 128 then c.toString else "\uFFFD"

/-- The wording of a fault of the grammar. -/
def grammarMessage (detail : String) : String := "parsing failed with error: '" ++ detail ++ "'"

/-- The wording of a fault. -/
def Fault.message : Fault → String
  | .cut => "query string ended before expected"
  | .doubleBracket =>
    grammarMessage "found another opening bracket before the closed bracket"
  | .badKeyStart c => grammarMessage ("unexpected character: " ++ showChar c)
  | .badKeyEnd c =>
    grammarMessage ("Unexpected character: '" ++ showChar c ++ "' found when parsing")
  | .badIndexEnd octet =>
    grammarMessage ("Unexpected character: " ++ toString octet ++ " found when parsing")
  | .nestedList => grammarMessage "non-indexed sequence of structs not supported"
  | .badIndex => "invalid digit found in string"
  | .largeIndex => "number too large to fit in target type"
  | .badText f => f.message
  | .repeatedKey key =>
    if key.toList.contains '[' then
      "Multiple values for one key: \"" ++ String.ofList (writeComponent key.toList) ++ "\"\n" ++
      "Invalid field contains an encoded bracket -- did you mean to use non-strict mode?\n" ++
      "  https://docs.rs/serde_qs/latest/serde_qs/#strict-vs-non-strict-modes"
    else "Multiple values for one key: \"" ++ key ++ "\""
  | .repeatedIndex => "Multiple values for one key"
  | .noMap => "Attempted to insert map value into non-map structure"
  | .noList => "Attempted to insert seq value into non-seq structure"
  | .noKeysIn node => grammarMessage ("tried to insert a new key into " ++ node)
  | .foundMap => "invalid type: map, expected a string"
  | .foundList => "invalid type: sequence, expected a string"

/-! ### Trees -/

/-- A node of a query string's tree. -/
inductive Tree
  /-- Nothing is known about the node yet. -/
  | fresh
  | text (s : String)
  /-- Entries in the order of their keys. -/
  | map (entries : List (String × Tree))
  /-- Items in the order of their numbers. -/
  | numbered (items : List (Nat × Tree))
  | list (items : List Tree)
  /-- Two pairs contradict each other here. -/
  | broken (f : Fault)

/-- One step from a node to a node below it. -/
inductive Step
  | key (name : String)
  | index (n : Nat)
  /-- The next place of a list. -/
  | next

/-- The way from the root to the value of a pair, as far as it could be read. -/
inductive Path
  /-- The next step could not be read. -/
  | bad (f : Fault)
  | last (step : Step) (value : Except Fault String)
  | more (step : Step) (rest : Path)

namespace Tree

/-! ### Showing a node -/

mutual

/-- A node as it is shown in an error message. -/
def describe : Tree → String
  | .fresh => "Uninitialised"
  | .text s => "Flat(" ++ Text.quoted s ++ ")"
  | .map entries => "Nested(\x7b" ++ ", ".intercalate (describeEntries entries) ++ "\x7d)"
  | .numbered items => "OrderedSeq(\x7b" ++ ", ".intercalate (describeNumbered items) ++ "\x7d)"
  | .list items => "Sequence([" ++ ", ".intercalate (describeItems items) ++ "])"
  | .broken f => "Invalid(" ++ Text.quoted f.message ++ ")"

/-- The entries of a map as they are shown. -/
def describeEntries : List (String × Tree) → List String
  | [] => []
  | (key, t) :: rest => (Text.quoted key ++ ": " ++ t.describe) :: describeEntries rest

/-- The items of a numbered list as they are shown. -/
def describeNumbered : List (Nat × Tree) → List String
  | [] => []
  | (n, t) :: rest => (toString n ++ ": " ++ t.describe) :: describeNumbered rest

/-- The items of a list as they are shown. -/
def describeItems : List Tree → List String
  | [] => []
  | t :: rest => t.describe :: describeItems rest

end

/-! ### Adding pairs -/

/-- Entries sorted by key with one more entry, which replaces an entry with the same key. -/
def put {κ : Type} [DecidableEq κ] [LT κ] [DecidableLT κ] (key : κ) (t : Tree) :
    List (κ × Tree) → List (κ × Tree)
  | [] => [(key, t)]
  | (k, u) :: rest =>
    if key = k then (key, t) :: rest
    else if key < k then (key, t) :: (k, u) :: rest
    else (k, u) :: put key t rest

/-- The node below a key. -/
def below? {κ : Type} [DecidableEq κ] (key : κ) (entries : List (κ × Tree)) : Option Tree :=
  (entries.find? (·.1 == key)).map (·.2)

/-- The node with a text one step below it. -/
def putText (t : Tree) (step : Step) (s : String) : Tree :=
  match step, t with
  | .key name, .fresh => .map [(name, .text s)]
  | .key name, .map entries =>
    match below? name entries with
    | none => .map (put name (.text s) entries)
    | some _ => .map (put name (.broken (.repeatedKey name)) entries)
  | .key _, _ => .broken .noMap
  | .index n, .fresh => .numbered [(n, .text s)]
  | .index n, .numbered items =>
    match below? n items with
    | none => .numbered (put n (.text s) items)
    | some _ => .numbered (put n (.broken .repeatedIndex) items)
  | .index _, _ => .broken .noList
  | .next, .fresh => .list [.text s]
  | .next, .list items => .list (items ++ [.text s])
  | .next, _ => .broken .noList

/-- The node one step below, and the way to put it back. -/
def focus (t : Tree) (step : Step) : Except Fault (Tree × (Tree → Tree)) :=
  match step, t with
  | .key name, .fresh => .ok (.fresh, fun u => .map [(name, u)])
  | .key name, .map entries =>
    .ok ((below? name entries).getD .fresh, fun u => .map (put name u entries))
  | .index n, .fresh => .ok (.fresh, fun u => .numbered [(n, u)])
  | .index n, .numbered items =>
    .ok ((below? n items).getD .fresh, fun u => .numbered (put n u items))
  | .next, _ => .error .nestedList
  | _, t => .error (.noKeysIn t.describe)

/-- The tree with one more pair. -/
def add (t : Tree) : Path → Except Fault Tree
  | .bad f => .error f
  | .last _ (.error f) => .error f
  | .last step (.ok s) => .ok (t.putText step s)
  | .more step rest => do
    let (u, back) ← t.focus step
    return back (← u.add rest)

/-! ### Flat trees -/

/-- The text of a node that should be one. -/
def asText : Tree → Except Fault String
  | .text s => .ok s
  | .map _ => .error .foundMap
  | .numbered _ => .error .foundList
  | .list _ => .error .foundList
  | .broken f => .error f
  | .fresh => .ok ""

/-- The texts of a tree that should be a map of texts, in the order of their keys. -/
def asTexts : Tree → Except Fault (List (String × String))
  | .map entries => entries.mapM fun e => e.2.asText.map fun s => (e.1, s)
  | _ => .ok []

end Tree

end JudgeClient.Query
