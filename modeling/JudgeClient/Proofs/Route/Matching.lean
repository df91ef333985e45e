import JudgeClient.Proofs.Route.Grammar
import JudgeClient.Proofs.Route.Params
import JudgeClient.Proofs.Route.Pattern
import Mathlib.Data.List.Forall2

/-!
# Matching is the inverse of filling in

A pattern is filled in by choosing a part for each of its segments: the text of a literal up to the
case of its ASCII letters, a number for a numeric capture, anything for another one.  A path that is
filled in so is matched, with the chosen parts as captures; and a path that is matched has been
filled in so, except that a capture of any text may have been given no text at all.

* `Segment.accepts_iff` : the parts that stand where a segment does;
* `Pattern.isSome_capture?_iff`, `Pattern.perm_captured` : when there are captures, and which;
* `Pattern.matches_what_is_filled_in` : matching as a whole;
* `Pattern.captures_empty_iff` : an empty text is captured if two slashes stand side by side.
-/

namespace JudgeClient

/-! ### Letters up to their case -/

/-- The characters are the same, or the two cases of one ASCII letter. -/
def SameLetter (a b : Char) : Prop :=
  a = b ∨ a.isUpper = true ∧ b.toNat = a.toNat + 32 ∨ b.isUpper = true ∧ a.toNat = b.toNat + 32

theorem isUpper_iff {c : Char} : c.isUpper = true ↔ 65 ≤ c.toNat ∧ c.toNat ≤ 90 := by
  refine decide_eq_true_iff.trans ?_
  simp [UInt32.le_iff_toNat_le]

theorem toNat_toLower (c : Char) :
    c.toLower.toNat = if c.isUpper = true then c.toNat + 32 else c.toNat := by
  unfold Char.toLower
  split
  · next h =>
    have hupper : c.isUpper = true := decide_eq_true h
    have hle := (isUpper_iff.1 hupper).2
    have hval : c.val.toNat = c.toNat := rfl
    have hdiff : ('a'.val - 'A'.val).toNat = 32 := rfl
    rw [if_pos hupper, ← Char.toNat_val, UInt32.toNat_add, hdiff, hval]
    exact Nat.mod_eq_of_lt (by omega)
  · next h =>
    have hupper : ¬c.isUpper = true := fun hc => h (of_decide_eq_true hc)
    rw [if_neg hupper]

theorem toLower_eq_toLower_iff {a b : Char} : a.toLower = b.toLower ↔ SameLetter a b := by
  rw [← Char.toNat_inj, toNat_toLower, toNat_toLower, SameLetter, ← Char.toNat_inj]
  split_ifs <;> simp only [isUpper_iff] at * <;> omega

theorem map_toLower_eq_iff {s t : List Char} :
    s.map Char.toLower = t.map Char.toLower ↔ List.Forall₂ SameLetter s t := by
  rw [← List.forall₂_eq_eq_eq, List.forall₂_map_left_iff, List.forall₂_map_right_iff]
  simp only [toLower_eq_toLower_iff]

/-! ### Segments and parts -/

namespace Segment

/-- The part can stand in a path where the segment does. -/
def Suits : Segment → List Char → Prop
  | .literal text, part => List.Forall₂ SameLetter text.toList part
  | .any _, _ => True
  | .numeric _, part => Numeral.isNumeric part = true

theorem accepts_iff {s : Segment} {part : List Char} : s.accepts part = true ↔ s.Suits part := by
  cases s with
  | literal text => simp [accepts, Suits, map_toLower_eq_iff]
  | any name => simp [accepts, Suits]
  | numeric name => rfl

/-- Only a capture of any text can be given an empty one. -/
theorem exists_any_of_suits_nil {s : Segment} (hs : s.IsWellFormed) (h : s.Suits []) :
    ∃ name, s = .any name := by
  cases s with
  | literal text => exact absurd (by simpa [Suits] using h) hs.2.2
  | any name => exact ⟨name, rfl⟩
  | numeric name => cases h

/-- What the segment captures of a part. -/
def pair? (s : Segment) (part : List Char) : Option (String × String) :=
  s.name?.map fun name => (name, String.ofList part)

end Segment

namespace Pattern

/-- The captures that the parts are for their segments, each under its name. -/
def captured (segments : List Segment) (parts : List (List Char)) : List (String × String) :=
  (segments.zip parts).filterMap fun sp => sp.1.pair? sp.2

theorem isSome_capture?_iff {segments : List Segment} {parts : List (List Char)} :
    (capture? segments parts).isSome = true ↔ List.Forall₂ Segment.Suits segments parts := by
  induction segments generalizing parts with
  | nil => cases parts <;> simp [capture?]
  | cons s segments ih =>
    cases parts with
    | nil => simp [capture?]
    | cons part parts =>
      rw [capture?_cons, List.forall₂_cons, ← ih, ← Segment.accepts_iff]
      split_ifs with h <;> simp [h]

theorem mem_captureNames_of_mem_captured {segments : List Segment} {parts : List (List Char)}
    {e : String × String} (h : e ∈ captured segments parts) : e.1 ∈ captureNames segments := by
  obtain ⟨sp, hsp, he⟩ := List.mem_filterMap.1 h
  obtain ⟨name, hn, rfl⟩ := Option.map_eq_some_iff.1 he
  exact List.mem_filterMap.2 ⟨sp.1, (List.of_mem_zip hsp).1, hn⟩

/-- The captures are what is captured, one entry for each capture. -/
theorem perm_captured {segments : List Segment} (hd : (captureNames segments).Nodup)
    {parts : List (List Char)} {params : Params} (h : capture? segments parts = some params) :
    params.entries.Perm (captured segments parts) := by
  induction segments generalizing parts params with
  | nil =>
    cases parts with
    | nil =>
      obtain rfl : Params.empty = params := Option.some.inj h
      exact .nil
    | cons => cases h
  | cons s segments ih =>
    cases parts with
    | nil => cases h
    | cons part parts =>
      rw [capture?_cons] at h
      split_ifs at h
      obtain ⟨rest, hrest, rfl⟩ := Option.map_eq_some_iff.1 h
      cases hn : s.name? with
      | none =>
        have hd : (captureNames segments).Nodup := by simpa [captureNames, hn] using hd
        simpa [Segment.put, captured, Segment.pair?, hn] using ih hd hrest
      | some name =>
        obtain ⟨hfresh, hd⟩ : name ∉ captureNames segments ∧ (captureNames segments).Nodup := by
          simpa only [captureNames, List.filterMap_cons_some hn, List.nodup_cons] using hd
        have hp := ih hd hrest
        have hnew : name ∉ rest.entries.map (·.1) := by
          intro hmem
          obtain ⟨e, he, rfl⟩ := List.mem_map.1 hmem
          exact hfresh (mem_captureNames_of_mem_captured (hp.subset he))
        -- no capture behind it has this name, so that putting it in overwrites none
        have hput : (s.put part rest).entries.Perm
            ((name, String.ofList part) :: rest.entries) := by
          simpa only [Segment.put, hn] using Params.perm_insert hnew
        have hcaptured : captured (s :: segments) (part :: parts) =
            (name, String.ofList part) :: captured segments parts := by
          simp [captured, Segment.pair?, hn]
        rw [hcaptured]
        exact hput.trans (hp.cons _)

/-- Only a capture of any text can hold an empty one, and there is one if a part is empty. -/
theorem exists_lookup_eq_empty_iff {segments : List Segment} (hs : IsWellFormed segments)
    {parts : List (List Char)} {params : Params} (h : capture? segments parts = some params) :
    (∀ name, params.lookup name = some "" → .any name ∈ segments) ∧
      ((∃ name, params.lookup name = some "") ↔ [] ∈ parts) := by
  have hsuits : List.Forall₂ Segment.Suits segments parts :=
    isSome_capture?_iff.1 (by rw [h]; rfl)
  have hany : ∀ s, (s, []) ∈ segments.zip parts → ∃ name, s = .any name := fun s hmem =>
    Segment.exists_any_of_suits_nil (hs.segment s (List.of_mem_zip hmem).1)
      ((List.forall₂_iff_zip.1 hsuits).2 hmem)
  -- what is looked up is the part that stands beside the capture
  have hlookup : ∀ name, params.lookup name = some "" ↔ (.any name, []) ∈ segments.zip parts := by
    intro name
    rw [Params.lookup_eq_some_iff, (perm_captured hs.distinct h).mem_iff, captured,
      List.mem_filterMap]
    constructor
    · rintro ⟨⟨s, part⟩, hmem, hpair⟩
      obtain ⟨key, hn, heq⟩ := Option.map_eq_some_iff.1 hpair
      obtain ⟨rfl, hpart⟩ := Prod.mk.inj heq
      obtain rfl : part = [] := by simpa using hpart
      obtain ⟨key', rfl⟩ := hany s hmem
      obtain rfl : key' = key := Option.some.inj hn
      exact hmem
    · intro hmem
      exact ⟨_, hmem, rfl⟩
  refine ⟨fun name hl => (List.of_mem_zip ((hlookup name).1 hl)).1, ?_⟩
  constructor
  · rintro ⟨name, hl⟩
    exact (List.of_mem_zip ((hlookup name).1 hl)).2
  · intro hnil
    rw [← List.map_snd_zip hsuits.length_eq.ge] at hnil
    obtain ⟨⟨s, part⟩, hmem, rfl⟩ := List.mem_map.1 hnil
    obtain ⟨name, rfl⟩ := hany s hmem
    exact ⟨name, (hlookup name).2 hmem⟩

/-- **Matching is the inverse of filling in.**  Parts that suit the segments of a pattern make a
path that it matches, with one more slash at its end or without, and what they are for the captures
is captured, one entry for each.  A path that is matched is made so. -/
theorem matches_what_is_filled_in {raw : String} {p : Pattern} (hp : parse raw = .ok p) :
    (∀ parts, List.Forall₂ Segment.Suits p.segments parts →
      (∀ part ∈ parts, part ≠ [] ∧ '/' ∉ part) →
      ∀ path, path = pathOf parts ∨ path = pathOf parts ++ ['/'] →
        ∃ params, p.matches? path = some params ∧
          params.entries.Perm (captured p.segments parts)) ∧
    ∀ path params, p.matches? path = some params →
      ∃ parts, List.Forall₂ Segment.Suits p.segments parts ∧ (∀ part ∈ parts, '/' ∉ part) ∧
        (path = pathOf parts ∨ path = pathOf parts ++ ['/']) ∧
        params.entries.Perm (captured p.segments parts) := by
  have hd : (captureNames p.segments).Nodup := (parse_eq_ok_iff.1 hp).2.1.distinct
  constructor
  · intro parts hsuits hparts path hpath
    obtain ⟨rest, rfl⟩ := IsPathOf.exists_rest hpath
    have hne : ∀ part ∈ parts, part ≠ [] := fun part h => (hparts part h).1
    have hslash : ∀ part ∈ parts, '/' ∉ part := fun part h => (hparts part h).2
    have hsplit : splitPath rest = parts := splitPath_of_isPathOf hne hslash hpath
    obtain ⟨params, hc⟩ := Option.isSome_iff_exists.1 (isSome_capture?_iff.2 hsuits)
    refine ⟨params, ?_, perm_captured hd hc⟩
    rw [matches?, hsplit, hc]
  · intro path params hm
    obtain ⟨rest, rfl, hc⟩ := exists_of_matches?_eq_some hm
    exact ⟨splitPath rest, isSome_capture?_iff.1 (by rw [hc]; rfl),
      fun part h => slash_not_mem_of_mem_splitPath h, isPathOf_splitPath rest, perm_captured hd hc⟩

/-- A literal in capitals, a number with zeros before it, and a text that is no ASCII. -/
theorem matches_what_is_filled_in_of_capitals :
    let p : Pattern := ⟨"/contest/:id(\\d+)/:tab", [.literal "contest", .numeric "id", .any "tab"]⟩
    let parts := ["CONTEST".toList, "007".toList, "É".toList]
    parse p.raw = .ok p ∧ List.Forall₂ Segment.Suits p.segments parts ∧
      (∃ params, p.matches? (pathOf parts ++ ['/']) = some params ∧
        params.entries.Perm [("id", "007"), ("tab", "É")]) ∧
      ∃ params parts, p.matches? "/contest/7//".toList = some params ∧
        List.Forall₂ Segment.Suits p.segments parts ∧
        params.entries.Perm (captured p.segments parts) := by
  intro p parts
  have hp : parse p.raw = .ok p := by decide
  have hsuits : List.Forall₂ Segment.Suits p.segments parts :=
    isSome_capture?_iff.1 (by decide)
  obtain ⟨hfill, hmatch⟩ := matches_what_is_filled_in hp
  have hm : p.matches? "/contest/7//".toList =
      some ((Params.empty.insert "tab" "").insert "id" "7") := by decide
  obtain ⟨parts', hsuits', -, -, hperm⟩ := hmatch _ _ hm
  exact ⟨hp, hsuits, hfill parts hsuits (by decide) _ (.inr rfl), _, parts', hm, hsuits', hperm⟩

/-! ### Empty captures -/

/-- **Empty captures.**  Only a capture of any text can be empty, and one of them is just if two
slashes stand side by side in the path, unless they are all of it. -/
theorem captures_empty_iff {raw : String} {p : Pattern} (hp : parse raw = .ok p)
    {path : List Char} {params : Params} (hm : p.matches? path = some params) :
    (∀ name, params.lookup name = some "" → .any name ∈ p.segments) ∧
      ((∃ name, params.lookup name = some "") ↔ ['/', '/'] <:+: path ∧ path ≠ ['/', '/']) := by
  obtain ⟨rest, rfl, hc⟩ := exists_of_matches?_eq_some hm
  obtain ⟨hany, hempty⟩ := exists_lookup_eq_empty_iff (parse_eq_ok_iff.1 hp).2.1 hc
  refine ⟨hany, hempty.trans ?_⟩
  rw [slashes_infix_iff]
  constructor
  · intro hnil
    refine ⟨.inl hnil, fun hroot => ?_⟩
    rw [(List.cons.inj hroot).2] at hnil
    cases hnil
  · rintro ⟨hnil | hroot, hne⟩
    · exact hnil
    · exact absurd (congrArg (List.cons '/') hroot) hne

/-- The path of a contest without its name. -/
theorem captures_empty_iff_of_contest :
    let p : Pattern := ⟨"/contest/:name", [.literal "contest", .any "name"]⟩
    let path := "/contest//".toList
    parse p.raw = .ok p ∧ ∃ params, p.matches? path = some params ∧
      ((∃ name, params.lookup name = some "") ↔ ['/', '/'] <:+: path ∧ path ≠ ['/', '/']) := by
  intro p path
  have hp : parse p.raw = .ok p := by decide
  have hm : p.matches? path = some (Params.empty.insert "name" "") := by decide
  exact ⟨hp, _, hm, (captures_empty_iff hp hm).2⟩

/-- A capture can be empty. -/
theorem not_all_captures_nonempty :
    ¬∀ (raw : String) (p : Pattern) (path : List Char) (params : Params),
      parse raw = .ok p → p.matches? path = some params →
        ∀ name text, params.lookup name = some text → text ≠ "" := by
  intro h
  have hp : parse "/contest/:name" =
      .ok ⟨"/contest/:name", [.literal "contest", .any "name"]⟩ := by decide
  have hm : matches? ⟨"/contest/:name", [.literal "contest", .any "name"]⟩ "/contest//".toList =
      some (Params.empty.insert "name" "") := by decide
  exact h _ _ _ _ hp hm "name" "" (by decide) rfl

end Pattern

end JudgeClient
