/-!
# TOML tables

The values of the TOML configuration format, and the rules by which its lines build up a table:
a header opens a table that no line before has opened, a header in double brackets adds a table to
a list of tables, and a dotted key defines tables of its own.  A value cannot be set twice, and an
inline table is extended at most by the inline table that it stands in.  Every function here
refuses by giving nothing.
-/

namespace JudgeClient.Toml

/-- How a table came about. -/
inductive TableKind
  /-- By a header of its own. -/
  | explicit
  /-- As the place of a table with a header. -/
  | implicit
  /-- By a dotted key. -/
  | dotted
deriving DecidableEq, Repr

/-- What a key stands for. -/
inductive Node
  | text (s : String)
  | int (i : Int)
  | float
  | bool (b : Bool)
  | dateTime
  | array (items : List Node)
  | inline (entries : List (String × Node))
  | table (kind : TableKind) (entries : List (String × Node))
  /-- The tables of a header in double brackets. -/
  | tables (items : List (List (String × Node)))

/-- The entries of a table. -/
abbrev Entries := List (String × Node)

/-- The node of a key. -/
def Entries.get? (key : String) (entries : Entries) : Option Node :=
  (entries.find? (·.1 == key)).map (·.2)

/-- The entries with the node of a key replaced or added. -/
def Entries.put (key : String) (node : Node) : Entries → Entries
  | [] => [(key, node)]
  | (k, n) :: rest => if k = key then (key, node) :: rest else (k, n) :: put key node rest

/-! ### Going down -/

/-- Changes the last item of a list. -/
def updateLast {α : Type} (f : α → Option α) : List α → Option (List α)
  | [] => none
  | [a] => (f a).map fun a => [a]
  | a :: rest => (updateLast f rest).map (a :: ·)

/-- Changes the table that headers have opened at a path, and opens it if need be.  In a list of
tables the last one is meant. -/
def Entries.updateAt (f : Entries → Option Entries) : List String → Entries → Option Entries
  | [], entries => f entries
  | key :: path, entries =>
    match Entries.get? key entries with
    | none => (updateAt f path []).map fun es => Entries.put key (.table .implicit es) entries
    | some (.table kind es) =>
      (updateAt f path es).map fun es => Entries.put key (.table kind es) entries
    | some (.tables items) =>
      (updateLast (updateAt f path) items).map fun items =>
        Entries.put key (.tables items) entries
    | some _ => none

/-- Sets a value behind a dotted key.  On the way only tables that no header has opened may be
passed, or the last table of a list, and the last of them has to come from dotted keys. -/
def Entries.setDotted (value : Node) : List String → String → Entries → Option Entries
  | [], key, entries =>
    match Entries.get? key entries with
    | none => some (Entries.put key value entries)
    | some _ => none
  | outer :: path, key, entries =>
    match Entries.get? outer entries with
    | none =>
      (setDotted value path key []).map fun es => Entries.put outer (.table .dotted es) entries
    | some (.table kind es) =>
      if kind = .dotted ∨ (kind = .implicit ∧ path ≠ []) then
        (setDotted value path key es).map fun es => Entries.put outer (.table kind es) entries
      else none
    | some (.tables items) =>
      if path ≠ [] then
        (updateLast (setDotted value path key) items).map fun items =>
          Entries.put outer (.tables items) entries
      else none
    | some _ => none

/-- Sets a value behind a dotted key of an inline table.  On the way only inline tables may be
passed, be they written out or defined by dotted keys. -/
def Entries.setInline (value : Node) : List String → String → Entries → Option Entries
  | [], key, entries =>
    match Entries.get? key entries with
    | none => some (Entries.put key value entries)
    | some _ => none
  | outer :: path, key, entries =>
    match Entries.get? outer entries with
    | none => (setInline value path key []).map fun es => Entries.put outer (.inline es) entries
    | some (.inline es) =>
      (setInline value path key es).map fun es => Entries.put outer (.inline es) entries
    | some _ => none

/-! ### Headers -/

/-- Opens the table of a header. -/
def Entries.openTable (path : List String) (key : String) (root : Entries) : Option Entries :=
  root.updateAt (fun entries =>
    match Entries.get? key entries with
    | none => some (Entries.put key (.table .explicit []) entries)
    | some (.table .implicit es) => some (Entries.put key (.table .explicit es) entries)
    | some _ => none) path

/-- Adds a table for a header in double brackets. -/
def Entries.addTable (path : List String) (key : String) (root : Entries) : Option Entries :=
  root.updateAt (fun entries =>
    match Entries.get? key entries with
    | none => some (Entries.put key (.tables [[]]) entries)
    | some (.tables items) => some (Entries.put key (.tables (items ++ [[]])) entries)
    | some _ => none) path

/-- Sets a value in the table at a path. -/
def Entries.setIn (table path : List String) (key : String) (value : Node) (root : Entries) :
    Option Entries :=
  root.updateAt (Entries.setDotted value path key) table

end JudgeClient.Toml
