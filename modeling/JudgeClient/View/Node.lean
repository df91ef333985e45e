import JudgeClient.Decimal.Layout
import JudgeClient.Route.Location

/-!
# Document nodes

What a page is made of: elements with attributes and children, and texts.  A fragment is a list of
nodes next to each other.  An empty text is no node, so a fragment never holds one.
-/

namespace JudgeClient

/-- A node of a document. -/
inductive Node
  | text (s : String)
  | element (tag : String) (attributes : List (String × String)) (children : List Node)

/-- Nodes next to each other. -/
abbrev Fragment := List Node

namespace Node

/-! ### Texts -/

/-- A text. -/
def ofText (s : String) : Fragment := if s.isEmpty then [] else [.text s]

/-- An integer. -/
def ofInt (i : Int64) : Fragment := ofText (toString i.toInt)

/-- A number, without an exponent. -/
def ofFloat (x : Float) : Fragment := ofText (String.ofList (Decimal.plain.write x))

/-! ### Elements -/

/-- An element without attributes. -/
def plain (tag : String) (children : Fragment) : Node := .element tag [] children

/-- An element with a class. -/
def styled (tag style : String) (children : Fragment) : Node :=
  .element tag [("class", style)] children

/-- A link to a location. -/
def link (location : String) (children : Fragment) : Node :=
  .element "a" [("href", Location.href location)] children

/-- A link with a class. -/
def styledLink (location style : String) (children : Fragment) : Node :=
  .element "a" [("href", Location.href location), ("class", style)] children

/-! ### Tables -/

/-- A cell of a table's head. -/
def headCell (s : String) : Node := styled "th" "p-2" (ofText s)

/-- A cell of a table. -/
def cell (children : Fragment) : Node := styled "td" "p-2" children

/-- A row of a table. -/
def row (cells : Fragment) : Node := styled "tr" "odd:bg-lighten" cells

/-- A table with a heading for each column. -/
def table (headings : List String) (rows : List Node) : Node :=
  styled "table" "w-full table-auto" [
    plain "thead" [
      styled "tr" "text-left border-b-2 border-primary" (headings.map headCell)],
    plain "tbody" rows]

/-! ### Links of a document -/

/-- Where an element leads, by its attributes. -/
def targets (attributes : List (String × String)) : List String :=
  (attributes.filter (·.1 == "href")).map (·.2)

mutual

/-- Where the links of a node lead, in the order of the document. -/
def links : Node → List String
  | .text _ => []
  | .element _ attributes children => targets attributes ++ fragmentLinks children

/-- Where the links of a fragment lead. -/
def fragmentLinks : Fragment → List String
  | [] => []
  | node :: rest => links node ++ fragmentLinks rest

end

end Node

end JudgeClient
