import JudgeClient.Proofs.Route.Ambiguity
import JudgeClient.Proofs.Route.Path
import JudgeClient.Proofs.Route.Query
import JudgeClient.Proofs.Text.Blank
import JudgeClient.Route.Links

/-!
# Patterns filled in

A link is made of the same pieces as the pattern that it is meant for: the literals as they are, and
an id where the pattern captures a number.  This file follows such a text through the split into
parts, the match, and the look-up in a table without ambiguity.

* `Pattern.matches?_pathOf` : a path is matched part by part;
* `Piece.capture?_map` : the parts match the segments of the pieces, and the captures are the ids;
* `RouteTable.resolve_of_pieces` : in a table without ambiguity the location made of some pieces
  stands for the entry with their segments.
-/

namespace JudgeClient

/-! ### Paths made of parts -/

/-- The text can stand between two slashes of a path: it is not empty, and has neither a slash nor
the mark that ends a path. -/
structure IsPart (part : List Char) : Prop where
  ne_nil : part ≠ []
  slash : '/' ∉ part
  mark : '?' ∉ part

theorem IsPart.of_isNumeric {part : List Char} (h : Numeral.isNumeric part = true) :
    IsPart part where
  ne_nil := Numeral.ne_nil_of_isNumeric h
  slash hc := absurd (Numeral.isDigit_of_isNumeric h hc) (by decide)
  mark hc := absurd (Numeral.isDigit_of_isNumeric h hc) (by decide)

theorem Pattern.matches?_pathOf (p : Pattern) {parts : List (List Char)}
    (h : ∀ part ∈ parts, IsPart part) :
    p.matches? (pathOf parts) = capture? p.segments parts := by
  have hsplit : splitPath (['/'].intercalate parts) = parts :=
    splitPath_of_isPathOf (fun part hp => (h part hp).ne_nil) (fun part hp => (h part hp).slash)
      (.inl rfl)
  simp only [matches?, pathOf, hsplit]

theorem mark_not_mem_pathOf {parts : List (List Char)} (h : ∀ part ∈ parts, IsPart part) :
    '?' ∉ pathOf parts := by
  intro hmem
  rcases List.mem_cons.1 hmem with hslash | hmem
  · cases hslash
  · rcases Text.eq_or_mem_of_mem_intercalate hmem with hslash | ⟨part, hp, hc⟩
    · cases hslash
    · exact (h part hp).mark hc

/-- A location that is a path has no query. -/
theorem RouteTable.splitLocation_of_parts {location : String} {parts : List (List Char)}
    (hl : location.toList = pathOf parts) (h : ∀ part ∈ parts, IsPart part) :
    splitLocation location = (pathOf parts, []) := by
  have hsplit : Location.IsSplit location (pathOf parts) [] :=
    ⟨mark_not_mem_pathOf h, .inr ⟨hl, rfl⟩⟩
  have hne : pathOf parts ≠ [] := List.cons_ne_nil _ _
  rw [splitLocation_of_isSplit hsplit, if_neg hne]

/-! ### Pieces of a link -/

/-- A piece of a link: a text, or an id for a capture. -/
inductive Piece
  | text (s : String)
  | number (name : String) (id : Int64)

namespace Piece

/-- The segment that the piece is meant for. -/
def segment : Piece → Segment
  | .text s => .literal s
  | .number name _ => .numeric name

/-- What the piece adds to a path. -/
def part : Piece → List Char
  | .text s => s.toList
  | .number _ id => (Links.idText id).toList

/-- The piece can stand in a path: its id is not negative, or its text is a part. -/
def IsProper : Piece → Prop
  | .text s => IsPart s.toList
  | .number _ id => 0 ≤ id.toInt

/-- The ids of some pieces under their names. -/
def captures : List Piece → Params
  | [] => .empty
  | .text _ :: pieces => captures pieces
  | .number name id :: pieces => (captures pieces).insert name (Links.idText id)

theorem isNumeric_idText {id : Int64} (h : 0 ≤ id.toInt) :
    Numeral.isNumeric (Links.idText id).toList = true :=
  Numeral.isNumeric_toString_toInt h

theorem isPart_part {piece : Piece} (h : piece.IsProper) : IsPart piece.part := by
  cases piece with
  | text s => exact h
  | number name id => exact .of_isNumeric (isNumeric_idText h)

/-- The parts match the segments of the pieces, and the captures are the ids. -/
theorem capture?_map {pieces : List Piece} (h : ∀ piece ∈ pieces, piece.IsProper) :
    Pattern.capture? (pieces.map segment) (pieces.map part) = some (captures pieces) := by
  induction pieces with
  | nil => rfl
  | cons piece pieces ih =>
    have hrest := ih fun p hp => h p (List.mem_cons_of_mem piece hp)
    rw [List.map_cons, List.map_cons, Pattern.capture?]
    cases piece with
    | text s =>
      have hs : (segment (.text s)).accepts (part (.text s)) = true := by
        simp [segment, part, Segment.accepts]
      rw [if_pos hs, hrest]
      rfl
    | number name id =>
      have hn : (segment (.number name id)).accepts (part (.number name id)) = true :=
        isNumeric_idText (h _ List.mem_cons_self)
      rw [if_pos hn, hrest]
      simp [segment, part, Segment.name?, captures]

/-- An id can be read under its name. -/
theorem get?_insert_idText (p : Params) (name key : String) (id : Int64) :
    ((p.insert name (Links.idText id)).get? key : Option Int64) =
      if key = name then some id else p.get? key := by
  unfold Params.get?
  rw [Params.lookup_insert]
  by_cases hk : key = name
  · simpa [hk, Links.idText] using LawfulParamValue.read?_write id
  · simp [hk]

end Piece

namespace RouteTable

variable {t : RouteTable} {entry : RouteEntry} {pieces : List Piece} {location : String}

/-- The location made of some pieces stands for the entry with their segments. -/
theorem resolve_of_pieces (ht : t.IsUnambiguous) (hmem : entry ∈ t.entries)
    (hs : entry.pattern.segments = pieces.map Piece.segment)
    (h : ∀ piece ∈ pieces, piece.IsProper)
    (hl : (splitLocation location).1 = pathOf (pieces.map Piece.part)) :
    t.resolve location = .found {
      page := entry.page
      name := entry.name
      params := Piece.captures pieces
      query := Location.query location
      forwardsParams := entry.forwardsParams } := by
  have hparts : ∀ part ∈ pieces.map Piece.part, IsPart part := by
    intro part hp
    obtain ⟨piece, hpiece, rfl⟩ := List.mem_map.1 hp
    exact Piece.isPart_part (h piece hpiece)
  have hm : entry.pattern.matches? (pathOf (pieces.map Piece.part)) =
      some (Piece.captures pieces) := by
    rw [Pattern.matches?_pathOf _ hparts, hs]
    exact Piece.capture?_map h
  have hfind := ht.find?_eq_some hmem hm
  rw [← hl] at hfind
  simp only [resolve, hfind, Location.query]

end RouteTable

end JudgeClient
