import JudgeClient.Route.Pattern

/-!
# What a pattern captures

A pattern is matched segment by segment, and each capture is put into the parameters under its
name.  What can be looked up afterwards is a part of the path that its segment accepts; in
particular a number, if the segment is numeric.

* `Pattern.lookup_of_capture?` : every text of the captures stood where a segment of that name does;
* `Pattern.isSome_lookup_of_capture?` : every name of the pattern has a text;
* `Pattern.isNumeric_of_capture?` : a pattern that captures only numbers gives only numeric texts.
-/

namespace JudgeClient

namespace Segment

/-- The segment captures whatever stands there. -/
def isAny : Segment → Bool
  | .any _ => true
  | _ => false

/-- The captures with what the segment captures. -/
def put (s : Segment) (part : List Char) (params : Params) : Params :=
  match s.name? with
  | none => params
  | some name => params.insert name (String.ofList part)

theorem lookup_put (s : Segment) (part : List Char) (params : Params) (name : String) :
    (s.put part params).lookup name =
      if s.name? = some name then some (String.ofList part) else params.lookup name := by
  unfold put
  cases s.name? with
  | none => rfl
  | some key => simp [Params.lookup_insert, eq_comm]

end Segment

namespace Pattern

theorem capture?_cons {s : Segment} {segments : List Segment} {part : List Char}
    {parts : List (List Char)} : capture? (s :: segments) (part :: parts) =
      if s.accepts part = true then (capture? segments parts).map (s.put part) else none := by
  rw [capture?]
  cases capture? segments parts with
  | none => rfl
  | some params => cases hn : s.name? <;> simp [Segment.put, hn]

theorem capture?_cons_eq_some {segment : Segment} {segments : List Segment} {part : List Char}
    {parts : List (List Char)} {params : Params}
    (h : capture? (segment :: segments) (part :: parts) = some params) :
    segment.accepts part = true ∧ ∃ rest, capture? segments parts = some rest ∧
      ∀ name, params.lookup name =
        if segment.name? = some name then some (String.ofList part) else rest.lookup name := by
  rw [capture?_cons] at h
  split at h
  · next ha =>
    obtain ⟨rest, hrest, rfl⟩ := Option.map_eq_some_iff.1 h
    exact ⟨ha, rest, hrest, segment.lookup_put part rest⟩
  · cases h

/-- A text of the captures is a part that some segment of its name accepts. -/
theorem lookup_of_capture? {segments : List Segment} {parts : List (List Char)} {params : Params}
    (h : capture? segments parts = some params) {name text : String}
    (hl : params.lookup name = some text) :
    ∃ segment ∈ segments, segment.name? = some name ∧ segment.accepts text.toList = true := by
  induction segments generalizing parts params with
  | nil =>
    cases parts with
    | nil =>
      obtain rfl : Params.empty = params := Option.some.inj h
      cases hl
    | cons => cases h
  | cons segment segments ih =>
    cases parts with
    | nil => cases h
    | cons part parts =>
      obtain ⟨ha, rest, hrest, hlookup⟩ := capture?_cons_eq_some h
      rw [hlookup] at hl
      split at hl
      · next hn =>
        obtain rfl : String.ofList part = text := Option.some.inj hl
        exact ⟨segment, List.mem_cons_self, hn, by simpa using ha⟩
      · obtain ⟨s, hs, hname⟩ := ih hrest hl
        exact ⟨s, List.mem_cons_of_mem _ hs, hname⟩

/-- Every name of the pattern has a text. -/
theorem isSome_lookup_of_capture? {segments : List Segment} {parts : List (List Char)}
    {params : Params} (h : capture? segments parts = some params) {segment : Segment}
    {name : String} (hs : segment ∈ segments) (hn : segment.name? = some name) :
    (params.lookup name).isSome = true := by
  induction segments generalizing parts params with
  | nil => cases hs
  | cons s segments ih =>
    cases parts with
    | nil => cases h
    | cons part parts =>
      obtain ⟨-, rest, hrest, hlookup⟩ := capture?_cons_eq_some h
      rw [hlookup]
      split
      · rfl
      · next hne =>
        rcases List.mem_cons.1 hs with rfl | hs
        · exact absurd hn hne
        · exact ih hrest hs

/-- A pattern that captures only numbers gives only numeric texts. -/
theorem isNumeric_of_capture? {segments : List Segment} {parts : List (List Char)}
    {params : Params} (h : capture? segments parts = some params)
    (hnum : ∀ s ∈ segments, s.isAny = false) {name text : String}
    (hl : params.lookup name = some text) :
    .numeric name ∈ segments ∧ Numeral.isNumeric text.toList = true := by
  obtain ⟨segment, hs, hn, ha⟩ := lookup_of_capture? h hl
  cases segment with
  | literal => cases hn
  | any => cases hnum _ hs
  | numeric key =>
    obtain rfl : key = name := Option.some.inj hn
    exact ⟨hs, ha⟩

theorem exists_of_matches?_eq_some {p : Pattern} {path : List Char} {params : Params}
    (h : p.matches? path = some params) :
    ∃ rest, path = '/' :: rest ∧ capture? p.segments (splitPath rest) = some params := by
  unfold matches? at h
  split at h
  · exact ⟨_, rfl, h⟩
  · cases h

end Pattern

end JudgeClient
