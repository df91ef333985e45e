import JudgeClient.Proofs.Route.Path
import Mathlib.Data.List.TakeWhile

/-!
# The grammar of patterns

A pattern is written as a path whose parts are its segments: a literal as it is, a capture behind a
colon, and a capture of numbers with its constraint behind the name.  Reading a pattern accepts what
is written so and nothing else, and gives the segments that were written.

* `Pattern.parseSegment_eq_ok_iff`, `Pattern.parseSegments_eq_ok_iff` : which parts are read as
  which segments;
* `Pattern.parse_eq_ok_iff` : the texts of a pattern;
* `Pattern.parse_eq_error` : an error is about the text that was read;
* `Pattern.parses_what_is_rendered` : the grammar as a whole.
-/

namespace JudgeClient

/-! ### Written segments -/

namespace Segment

/-- How a segment is written. -/
def render : Segment → List Char
  | .literal text => text.toList
  | .any name => ':' :: name.toList
  | .numeric name => ':' :: name.toList ++ "(\\d+)".toList

/-- A segment of a pattern: a literal does not begin like a capture, a name ends before a
constraint, and neither is empty or has a slash. -/
def IsWellFormed : Segment → Prop
  | .literal text => text.toList.head? ≠ some ':' ∧ '/' ∉ text.toList ∧ text ≠ ""
  | .any name | .numeric name => name ≠ "" ∧ '(' ∉ name.toList ∧ '/' ∉ name.toList

instance : DecidablePred IsWellFormed
  | .literal text =>
    inferInstanceAs (Decidable (text.toList.head? ≠ some ':' ∧ '/' ∉ text.toList ∧ text ≠ ""))
  | .any name | .numeric name =>
    inferInstanceAs (Decidable (name ≠ "" ∧ '(' ∉ name.toList ∧ '/' ∉ name.toList))

/-- What reading a part makes sure of.  That it has no slash is known, and a literal may still be
empty. -/
def IsReadable : Segment → Prop
  | .literal text => text.toList.head? ≠ some ':'
  | .any name | .numeric name => name ≠ "" ∧ '(' ∉ name.toList

theorem isWellFormed_iff {s : Segment} :
    s.IsWellFormed ↔ s.IsReadable ∧ '/' ∉ s.render ∧ s ≠ .literal "" := by
  cases s with
  | literal text => simp [IsWellFormed, IsReadable, render]
  | any name | numeric name => simp [IsWellFormed, IsReadable, render, and_assoc]

theorem IsWellFormed.render_ne_nil {s : Segment} (h : s.IsWellFormed) : s.render ≠ [] := by
  cases s with
  | literal text => simpa [render] using h.2.2
  | any | numeric => simp [render]

end Segment

/-- The pattern that an error is about. -/
def PatternError.pattern : PatternError → String
  | .notAbsolute pattern | .emptySegment pattern | .unnamedCapture pattern => pattern
  | .unsupportedConstraint pattern _ | .duplicateCapture pattern _ => pattern

namespace Pattern

/-- The names of the captures, from left to right. -/
def captureNames (segments : List Segment) : List String := segments.filterMap Segment.name?

/-- The segments of a pattern: each is well formed, and no two captures have one name. -/
structure IsWellFormed (segments : List Segment) : Prop where
  segment : ∀ s ∈ segments, s.IsWellFormed
  distinct : (captureNames segments).Nodup

/-- How the segments of a pattern are written. -/
def render (segments : List Segment) : String :=
  String.ofList (pathOf (segments.map Segment.render))

/-- The text stands for the segments: one more slash may stand at its end. -/
def Denotes (raw : String) (segments : List Segment) : Prop :=
  raw = render segments ∨ raw = render segments ++ "/"

theorem denotes_iff {raw : String} {segments : List Segment} :
    Denotes raw segments ↔ IsPathOf raw.toList (segments.map Segment.render) := by
  simp [Denotes, IsPathOf, render, ← String.toList_inj]

/-! ### Reading a segment -/

section Capture

variable {raw : String} {name : List Char} (h : '(' ∉ name)

include h

theorem bne_paren_of_mem : ∀ c ∈ name, (c != '(') = true := fun _ hc =>
  bne_iff_ne.2 fun heq => h (heq ▸ hc)

theorem parseCapture_name : parseCapture raw name =
    if name = [] then .error (.unnamedCapture raw) else .ok (.any (String.ofList name)) := by
  have htake : name.takeWhile (· != '(') = name := List.takeWhile_eq_self_iff.2 (bne_paren_of_mem h)
  have hdrop : name.dropWhile (· != '(') = [] := List.dropWhile_eq_nil_iff.2 (bne_paren_of_mem h)
  simp [parseCapture, htake, hdrop]

theorem parseCapture_constrained (constraint : List Char) :
    parseCapture raw (name ++ '(' :: constraint) =
      if name = [] then .error (.unnamedCapture raw)
      else if constraint = "\\d+)".toList then .ok (.numeric (String.ofList name))
      else .error (.unsupportedConstraint raw (String.ofList
        (if constraint.getLast? = some ')' then constraint.dropLast
          else name ++ '(' :: constraint))) := by
  simp only [parseCapture, List.takeWhile_append_of_pos (bne_paren_of_mem h),
    List.dropWhile_append_of_pos (bne_paren_of_mem h)]
  simp

end Capture

theorem parseCapture_eq_ok_iff {raw : String} {capture : List Char} {s : Segment} :
    parseCapture raw capture = .ok s ↔ ':' :: capture = s.render ∧ s.IsReadable := by
  constructor
  · intro h
    -- the name ends at the first parenthesis, whatever is behind it
    by_cases hparen : '(' ∈ capture
    · obtain ⟨name, constraint, rfl, hname⟩ := List.eq_append_cons_of_mem hparen
      rw [parseCapture_constrained hname] at h
      split_ifs at h with hne hconstraint
      obtain rfl := Except.ok.inj h
      simp [Segment.render, Segment.IsReadable, hconstraint, hne, hname]
    · rw [parseCapture_name hparen] at h
      split_ifs at h with hne
      obtain rfl := Except.ok.inj h
      simp [Segment.render, Segment.IsReadable, hne, hparen]
  · rintro ⟨hrender, hs⟩
    cases s with
    | literal text => exact absurd (by rw [← show _ = text.toList from hrender]; rfl) hs
    | any name =>
      obtain rfl : capture = name.toList := (List.cons.inj hrender).2
      simp [parseCapture_name hs.2, hs.1]
    | numeric name =>
      obtain rfl : capture = name.toList ++ '(' :: "\\d+)".toList := (List.cons.inj hrender).2
      simp [parseCapture_constrained hs.2, hs.1]

theorem parseSegment_eq_ok_iff {raw : String} {part : List Char} {s : Segment} :
    parseSegment raw part = .ok s ↔ part = s.render ∧ s.IsReadable := by
  unfold parseSegment
  split
  · exact parseCapture_eq_ok_iff
  · next hcolon =>
    constructor
    · intro h
      obtain rfl := Except.ok.inj h
      refine ⟨by simp [Segment.render], fun hhead => ?_⟩
      obtain ⟨capture, hpart⟩ := List.head?_eq_some_iff.1 hhead
      exact hcolon capture (by simpa using hpart)
    · rintro ⟨rfl, hs⟩
      cases s with
      | literal text => simp [Segment.render]
      | any | numeric => exact absurd rfl (hcolon _)

/-! ### Reading the segments -/

/-- The captures have distinct names, and none of the given ones. -/
def Fresh (names : List String) (segments : List Segment) : Prop :=
  (captureNames segments).Nodup ∧ ∀ name ∈ captureNames segments, name ∉ names

theorem fresh_cons_iff {names : List String} {s : Segment} {segments : List Segment} :
    Fresh names (s :: segments) ↔
      (∀ name ∈ s.name?, name ∉ names) ∧ Fresh (s.name?.toList ++ names) segments := by
  cases h : s.name? with
  | none => simp [Fresh, captureNames, h]
  | some name =>
    simp only [Fresh, captureNames, List.filterMap_cons_some h, List.nodup_cons, List.mem_cons,
      Option.mem_def, Option.some.injEq, Option.toList_some, List.singleton_append]
    grind

section Step

variable {raw : String} {names : List String} {part : List Char} {parts : List (List Char)}

theorem parseSegments_of_error {e : PatternError} (h : parseSegment raw part = .error e) :
    parseSegments raw names (part :: parts) = .error e := by
  rw [parseSegments, h]
  rfl

theorem parseSegments_of_repeated {s : Segment} (h : parseSegment raw part = .ok s) {name : String}
    (hn : s.name? = some name) (hmem : name ∈ names) :
    parseSegments raw names (part :: parts) = .error (.duplicateCapture raw name) := by
  have hcontains : names.contains name = true := by simpa using hmem
  simp only [parseSegments, h, bind, Except.bind, hn, hcontains]
  rfl

theorem parseSegments_of_new {s : Segment} (h : parseSegment raw part = .ok s)
    (hnew : ∀ name ∈ s.name?, name ∉ names) :
    parseSegments raw names (part :: parts) =
      (parseSegments raw (s.name?.toList ++ names) parts).map (s :: ·) := by
  cases hn : s.name? with
  | none =>
    simp only [parseSegments, h, bind, Except.bind, hn]
    rfl
  | some name =>
    have hcontains : names.contains name = false := by simpa using hnew name hn
    simp only [parseSegments, h, bind, Except.bind, hn, hcontains]
    rfl

/-- A part is no segment, or its name is not new, or the parts behind it are read. -/
theorem parseSegments_cons_cases :
    (∃ e, parseSegment raw part = .error e ∧ parseSegments raw names (part :: parts) = .error e) ∨
    (∃ name, parseSegments raw names (part :: parts) = .error (.duplicateCapture raw name)) ∨
    ∃ s, parseSegment raw part = .ok s ∧ (∀ name ∈ s.name?, name ∉ names) ∧
      parseSegments raw names (part :: parts) =
        (parseSegments raw (s.name?.toList ++ names) parts).map (s :: ·) := by
  cases hs : parseSegment raw part with
  | error e => exact .inl ⟨e, rfl, parseSegments_of_error hs⟩
  | ok s =>
    by_cases hnew : ∀ name ∈ s.name?, name ∉ names
    · exact .inr (.inr ⟨s, rfl, hnew, parseSegments_of_new hs hnew⟩)
    · obtain ⟨name, hn, hmem⟩ : ∃ name, s.name? = some name ∧ name ∈ names := by simpa using hnew
      exact .inr (.inl ⟨name, parseSegments_of_repeated hs hn hmem⟩)

end Step

theorem parseSegments_eq_ok_iff {raw : String} {names : List String} {parts : List (List Char)}
    {segments : List Segment} : parseSegments raw names parts = .ok segments ↔
      parts = segments.map Segment.render ∧ (∀ s ∈ segments, s.IsReadable) ∧
        Fresh names segments := by
  induction parts generalizing names segments with
  | nil =>
    cases segments with
    | nil => simp [parseSegments, captureNames, Fresh]
    | cons => simp [parseSegments]
  | cons part parts ih =>
    constructor
    · intro h
      rcases parseSegments_cons_cases with ⟨e, -, heq⟩ | ⟨name, heq⟩ | ⟨s, hs, hnew, heq⟩
      · cases heq.symm.trans h
      · cases heq.symm.trans h
      · rw [heq] at h
        cases hrest : parseSegments raw (s.name?.toList ++ names) parts with
        | error e => simp [hrest, Except.map] at h
        | ok rest =>
          obtain rfl : s :: rest = segments := by simpa [hrest, Except.map] using h
          obtain ⟨rfl, hread, hfresh⟩ := ih.1 hrest
          obtain ⟨rfl, hsread⟩ := parseSegment_eq_ok_iff.1 hs
          exact ⟨rfl, List.forall_mem_cons.2 ⟨hsread, hread⟩, fresh_cons_iff.2 ⟨hnew, hfresh⟩⟩
    · rintro ⟨hparts, hread, hfresh⟩
      cases segments with
      | nil => cases hparts
      | cons s rest =>
        obtain ⟨rfl, rfl⟩ := List.cons.inj hparts
        obtain ⟨hsread, hread⟩ := List.forall_mem_cons.1 hread
        obtain ⟨hnew, hfresh⟩ := fresh_cons_iff.1 hfresh
        rw [parseSegments_of_new (parseSegment_eq_ok_iff.2 ⟨rfl, hsread⟩) hnew,
          ih.2 ⟨rfl, hread, hfresh⟩]
        rfl

/-! ### Reading a pattern -/

theorem parse_of_relative {raw : String} (h : raw.toList.head? ≠ some '/') :
    parse raw = .error (.notAbsolute raw) := by
  unfold parse
  split
  · next heq => exact absurd (by rw [heq]; rfl) h
  · rfl

theorem parse_of_absolute {raw : String} {rest : List Char} (h : raw.toList = '/' :: rest) :
    parse raw = match parseSegments raw [] (splitPath rest) with
      | .error e => .error e
      | .ok segments =>
        if .literal "" ∈ segments then .error (.emptySegment raw) else .ok ⟨raw, segments⟩ := by
  simp only [parse, h, bind, Except.bind]
  cases parseSegments raw [] (splitPath rest) with
  | error e => rfl
  | ok segments => by_cases hempty : .literal "" ∈ segments <;> simp [hempty] <;> rfl

theorem parse_eq_ok_iff {raw : String} {p : Pattern} :
    parse raw = .ok p ↔ p.raw = raw ∧ IsWellFormed p.segments ∧ Denotes raw p.segments := by
  constructor
  · intro h
    by_cases hhead : raw.toList.head? = some '/'
    · obtain ⟨rest, hraw⟩ := List.head?_eq_some_iff.1 hhead
      rw [parse_of_absolute hraw] at h
      cases hsegments : parseSegments raw [] (splitPath rest) with
      | error e => simp [hsegments] at h
      | ok segments =>
        simp only [hsegments] at h
        split_ifs at h with hempty
        obtain rfl := Except.ok.inj h
        obtain ⟨hparts, hread, hfresh⟩ := parseSegments_eq_ok_iff.1 hsegments
        -- no name is checked for slashes: the parts have none because they were split there
        have hslash : ∀ s ∈ segments, '/' ∉ s.render := fun s hs =>
          slash_not_mem_of_mem_splitPath (hparts ▸ List.mem_map_of_mem hs)
        refine ⟨rfl, ⟨fun s hs => Segment.isWellFormed_iff.2
          ⟨hread s hs, hslash s hs, fun heq => hempty (heq ▸ hs)⟩, hfresh.1⟩, denotes_iff.2 ?_⟩
        rw [hraw, ← hparts]
        exact isPathOf_splitPath rest
    · simp [parse_of_relative hhead] at h
  · rintro ⟨rfl, hs, hd⟩
    have hpath := denotes_iff.1 hd
    obtain ⟨rest, hrest⟩ := hpath.exists_rest
    have hwell : ∀ s ∈ p.segments, s.IsReadable ∧ '/' ∉ s.render ∧ s ≠ .literal "" := fun s hmem =>
      Segment.isWellFormed_iff.1 (hs.segment s hmem)
    have hsplit : splitPath rest = p.segments.map Segment.render := by
      refine splitPath_of_isPathOf ?_ ?_ (hrest ▸ hpath)
      · exact List.forall_mem_map.2 fun s hmem => (hs.segment s hmem).render_ne_nil
      · exact List.forall_mem_map.2 fun s hmem => (hwell s hmem).2.1
    have hsegments : parseSegments p.raw [] (splitPath rest) = .ok p.segments :=
      parseSegments_eq_ok_iff.2 ⟨hsplit, fun s hmem => (hwell s hmem).1, hs.distinct, by simp⟩
    have hempty : .literal "" ∉ p.segments := fun hmem => (hwell _ hmem).2.2 rfl
    simp only [parse_of_absolute hrest, hsegments, if_neg hempty]

/-! ### Errors -/

theorem parseSegment_eq_error {raw : String} {part : List Char} {e : PatternError}
    (h : parseSegment raw part = .error e) :
    e = .unnamedCapture raw ∨ ∃ constraint, e = .unsupportedConstraint raw constraint := by
  unfold parseSegment at h
  split at h
  · next capture =>
    by_cases hparen : '(' ∈ capture
    · obtain ⟨name, constraint, rfl, hname⟩ := List.eq_append_cons_of_mem hparen
      rw [parseCapture_constrained hname] at h
      split at h
      · exact .inl (Except.error.inj h).symm
      · split at h
        · cases h
        · exact .inr ⟨_, (Except.error.inj h).symm⟩
    · rw [parseCapture_name hparen] at h
      split_ifs at h
      exact .inl (Except.error.inj h).symm
  · cases h

theorem parseSegments_eq_error {raw : String} {names : List String} {parts : List (List Char)}
    {e : PatternError} (h : parseSegments raw names parts = .error e) :
    e.pattern = raw ∧ e ≠ .notAbsolute raw := by
  induction parts generalizing names with
  | nil => cases h
  | cons part parts ih =>
    rcases parseSegments_cons_cases with ⟨e', hs, heq⟩ | ⟨name, heq⟩ | ⟨s, -, -, heq⟩
    · obtain rfl : e' = e := Except.error.inj (heq.symm.trans h)
      rcases parseSegment_eq_error hs with rfl | ⟨constraint, rfl⟩
      · exact ⟨rfl, PatternError.noConfusion⟩
      · exact ⟨rfl, PatternError.noConfusion⟩
    · obtain rfl : .duplicateCapture raw name = e := Except.error.inj (heq.symm.trans h)
      exact ⟨rfl, PatternError.noConfusion⟩
    · rw [heq] at h
      cases hrest : parseSegments raw (s.name?.toList ++ names) parts with
      | error e' =>
        obtain rfl : e' = e := by simpa [hrest, Except.map] using h
        exact ih hrest
      | ok rest => simp [hrest, Except.map] at h

/-- An error is about the text that was read, and it is told apart whether the text is a path. -/
theorem parse_eq_error {raw : String} {e : PatternError} (h : parse raw = .error e) :
    e.pattern = raw ∧ (e = .notAbsolute raw ↔ raw.toList.head? ≠ some '/') := by
  by_cases hhead : raw.toList.head? = some '/'
  · obtain ⟨rest, hraw⟩ := List.head?_eq_some_iff.1 hhead
    rw [parse_of_absolute hraw] at h
    suffices e.pattern = raw ∧ e ≠ .notAbsolute raw from
      ⟨this.1, iff_of_false this.2 fun hne => hne hhead⟩
    cases hsegments : parseSegments raw [] (splitPath rest) with
    | error e' =>
      obtain rfl : e' = e := by simpa [hsegments] using h
      exact parseSegments_eq_error hsegments
    | ok segments =>
      simp only [hsegments] at h
      split_ifs at h
      obtain rfl := Except.error.inj h
      exact ⟨rfl, PatternError.noConfusion⟩
  · rw [parse_of_relative hhead] at h
    obtain rfl := Except.error.inj h
    exact ⟨rfl, iff_of_true rfl hhead⟩

/-- **The grammar of patterns.**  A text is read as some segments just if it is what is written for
them, up to one more slash at its end; the text is kept.  Every other text is an error, which is
about that text and says whether its first slash is missing. -/
theorem parses_what_is_rendered (raw : String) :
    (∀ segments, IsWellFormed segments →
      (parse raw = .ok ⟨raw, segments⟩ ↔ Denotes raw segments)) ∧
    ((∀ segments, IsWellFormed segments → ¬Denotes raw segments) →
      ∃ e, parse raw = .error e ∧ e.pattern = raw ∧
        (e = .notAbsolute raw ↔ raw.toList.head? ≠ some '/')) := by
  constructor
  · intro segments hs
    rw [parse_eq_ok_iff]
    exact ⟨fun h => h.2.2, fun h => ⟨rfl, hs, h⟩⟩
  · intro hnone
    cases h : parse raw with
    | ok p =>
      obtain ⟨-, hs, hd⟩ := parse_eq_ok_iff.1 h
      exact absurd hd (hnone p.segments hs)
    | error e => exact ⟨e, rfl, parse_eq_error h⟩

/-- A name with a colon and a parenthesis in it, and a constraint with one parenthesis too many. -/
theorem parses_what_is_rendered_of_parentheses :
    let segments := [.any ":a)", .literal "b:(c", .numeric "id"]
    let raw := "/::a)/b:(c/:id(\\d+)/"
    let bad := "/:id(\\d+))"
    IsWellFormed segments ∧ parse raw = .ok ⟨raw, segments⟩ ∧
      (∀ segments, IsWellFormed segments → ¬Denotes bad segments) ∧
      ∃ e, parse bad = .error e ∧ e.pattern = bad ∧ e ≠ .notAbsolute bad := by
  intro segments raw bad
  have hs : IsWellFormed segments := ⟨by decide, by decide⟩
  have hbad : parse bad = .error (.unsupportedConstraint bad "\\d+)") := by decide
  have hnone : ∀ segments, IsWellFormed segments → ¬Denotes bad segments := by
    intro segments hs hd
    have hok : parse bad = .ok ⟨bad, segments⟩ :=
      ((parses_what_is_rendered bad).1 segments hs).2 hd
    simp [hbad] at hok
  obtain ⟨e, he, hpattern, habsolute⟩ := (parses_what_is_rendered bad).2 hnone
  exact ⟨hs, ((parses_what_is_rendered raw).1 segments hs).2 (.inr rfl), hnone, e, he, hpattern,
    fun hrel => habsolute.1 hrel (by decide)⟩

end Pattern

end JudgeClient
