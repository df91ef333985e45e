import JudgeClient.Route.Pattern

/-!
# Paths and their parts

A path is made of parts by a slash before each of them.  One more slash may stand at the end, and
the root has no parts.  Splitting a path undoes this, whatever the parts are, unless the slashes at
its end leave open how many empty parts there are.

* `splitPath_eq_iff` : the texts that are split into given parts;
* `isPathOf_splitPath` : a path is made of the parts that it is split into;
* `splitPath_of_isPathOf` : a path is split into the parts that it was made of, if none is empty;
* `Pattern.matches?_concat_slash` : one more slash at the end of a path does not count;
* `slashes_infix_iff` : a part is empty if two slashes stand side by side.
-/

namespace JudgeClient

/-- The path made of some parts. -/
def pathOf (parts : List (List Char)) : List Char := '/' :: ['/'].intercalate parts

/-- The path is made of the parts, and one more slash may stand at its end. -/
def IsPathOf (path : List Char) (parts : List (List Char)) : Prop :=
  path = pathOf parts ∨ path = pathOf parts ++ ['/']

theorem IsPathOf.exists_rest {path : List Char} {parts : List (List Char)}
    (h : IsPathOf path parts) : ∃ rest, path = '/' :: rest := by
  rcases h with rfl | rfl
  · exact ⟨_, rfl⟩
  · exact ⟨_, rfl⟩

/-! ### Joining -/

theorem intercalate_eq_nil_iff {sep : Char} {parts : List (List Char)} :
    [sep].intercalate parts = [] ↔ parts = [] ∨ parts = [[]] := by
  cases parts with
  | nil => simp
  | cons part parts =>
    cases parts with
    | nil => simp
    | cons next parts => simp [List.intercalate_cons_cons]

/-- One more part makes a path longer at its end. -/
theorem pathOf_concat {parts : List (List Char)} (hne : parts ≠ []) (part : List Char) :
    pathOf (parts ++ [part]) = pathOf parts ++ '/' :: part := by
  induction parts with
  | nil => exact absurd rfl hne
  | cons first parts ih =>
    cases parts with
    | nil => simp [pathOf]
    | cons next parts =>
      have ih := ih (List.cons_ne_nil next parts)
      simp only [pathOf, List.cons_append, List.cons.injEq, true_and] at ih ⊢
      simp only [List.intercalate_cons_cons, ih, List.append_assoc]

/-- A slash stands at the end if an empty part is joined to others there. -/
theorem getLast?_intercalate_iff {parts : List (List Char)} (h : ∀ part ∈ parts, '/' ∉ part) :
    (['/'].intercalate parts).getLast? = some '/' ↔ parts.getLast? = some [] ∧ parts ≠ [[]] := by
  induction parts with
  | nil => simp
  | cons part parts ih =>
    cases parts with
    | nil =>
      have hpart : part.getLast? ≠ some '/' := fun hlast =>
        h part List.mem_cons_self (List.mem_of_getLast? hlast)
      simpa using hpart
    | cons next parts =>
      have ih := ih fun p hp => h p (List.mem_cons_of_mem part hp)
      rw [List.intercalate_cons_cons, List.getLast?_append]
      by_cases hnil : ['/'].intercalate (next :: parts) = []
      · have hnext : next :: parts = [[]] := by simpa using intercalate_eq_nil_iff.1 hnil
        simp [hnext]
      · have hne : next :: parts ≠ [[]] := fun heq => hnil (by simp [heq])
        obtain ⟨c, hc⟩ := Option.isSome_iff_exists.1 (List.getLast?_isSome.2 hnil)
        rw [hc] at ih ⊢
        simpa [hne] using ih

/-! ### Splitting -/

theorem slash_not_mem_of_mem_splitOn {s part : List Char} (h : part ∈ s.splitOn '/') :
    '/' ∉ part := by
  rw [List.splitOn_eq_splitOnP] at h
  induction s generalizing part with
  | nil =>
    obtain rfl : part = [] := by simpa using h
    exact List.not_mem_nil
  | cons c s ih =>
    rw [List.splitOnP_cons_eq_if_modifyHead] at h
    split at h
    · rcases List.mem_cons.1 h with rfl | h
      · exact List.not_mem_nil
      · exact ih h
    · next hc =>
      cases hs : s.splitOnP (· == '/') with
      | nil => simp [hs] at h
      | cons first rest =>
        rw [hs, List.modifyHead_cons] at h
        rcases List.mem_cons.1 h with rfl | h
        · have hfirst : '/' ∉ first := ih (by simp [hs])
          have hslash : '/' ≠ c := fun heq => hc (beq_iff_eq.2 heq.symm)
          simp [hslash, hfirst]
        · exact ih (by simp [hs, h])

/-- What a text without a slash at its end is split into. -/
theorem splitOn_eq_iff {s : List Char} {parts : List (List Char)} :
    (if s = [] then [] else s.splitOn '/') = parts ↔
      (∀ part ∈ parts, '/' ∉ part) ∧ s = ['/'].intercalate parts ∧ parts ≠ [[]] := by
  by_cases hs : s = []
  · rw [if_pos hs, hs]
    constructor
    · rintro rfl
      simp
    · rintro ⟨-, hjoin, hne⟩
      exact ((intercalate_eq_nil_iff.1 hjoin.symm).resolve_right hne).symm
  · rw [if_neg hs]
    constructor
    · have hjoin : ['/'].intercalate (s.splitOn '/') = s := List.intercalate_splitOn '/'
      rintro rfl
      refine ⟨fun part hp => slash_not_mem_of_mem_splitOn hp, hjoin.symm, fun hone => hs ?_⟩
      rw [← hjoin, hone]
      rfl
    · rintro ⟨hslash, rfl, -⟩
      exact List.splitOn_intercalate '/' hslash fun hnil => hs (by rw [hnil]; rfl)

/-- The texts that are split into given parts.  An empty part is not seen at the end of a text
without one more slash, and a single one nowhere. -/
theorem splitPath_eq_iff {rest : List Char} {parts : List (List Char)} :
    splitPath rest = parts ↔ (∀ part ∈ parts, '/' ∉ part) ∧
      (rest = ['/'].intercalate parts ∧ parts.getLast? ≠ some [] ∨
        rest = ['/'].intercalate parts ++ ['/'] ∧ parts ≠ [[]]) := by
  have hsplit : splitPath rest =
      let s := if rest.getLast? = some '/' then rest.dropLast else rest
      if s = [] then [] else s.splitOn '/' := by simp [splitPath]
  by_cases hlast : rest.getLast? = some '/'
  · -- the slash at the end is none of those that join the parts
    obtain ⟨s, rfl⟩ := List.getLast?_eq_some_iff.1 hlast
    simp only [hsplit, hlast, if_pos, List.dropLast_concat, splitOn_eq_iff, List.append_left_inj]
    refine and_congr_right fun hslash => ⟨.inr, fun h => h.resolve_left ?_⟩
    rintro ⟨hjoin, hne⟩
    exact hne ((getLast?_intercalate_iff hslash).1 (hjoin ▸ hlast)).1
  · simp only [hsplit, hlast, if_false, splitOn_eq_iff]
    refine and_congr_right fun hslash => ⟨fun ⟨hjoin, hne⟩ => .inl ⟨hjoin, fun hnil => ?_⟩, ?_⟩
    · exact hlast (hjoin ▸ (getLast?_intercalate_iff hslash).2 ⟨hnil, hne⟩)
    · rintro (⟨hjoin, hne⟩ | ⟨hjoin, -⟩)
      · exact ⟨hjoin, fun hone => hne (by rw [hone]; rfl)⟩
      · exact absurd (by rw [hjoin, List.getLast?_concat]) hlast

theorem slash_not_mem_of_mem_splitPath {rest part : List Char} (h : part ∈ splitPath rest) :
    '/' ∉ part :=
  (splitPath_eq_iff.1 rfl).1 part h

/-- A path is made of the parts that it is split into. -/
theorem isPathOf_splitPath (rest : List Char) : IsPathOf ('/' :: rest) (splitPath rest) := by
  rcases (splitPath_eq_iff.1 (rfl : splitPath rest = _)).2 with ⟨hrest, -⟩ | ⟨hrest, -⟩
  · exact .inl (congrArg (List.cons '/') hrest)
  · exact .inr (congrArg (List.cons '/') hrest)

/-- A path is split into the parts that it was made of, if none of them is empty. -/
theorem splitPath_of_isPathOf {rest : List Char} {parts : List (List Char)}
    (hne : ∀ part ∈ parts, part ≠ []) (hslash : ∀ part ∈ parts, '/' ∉ part)
    (h : IsPathOf ('/' :: rest) parts) : splitPath rest = parts := by
  refine splitPath_eq_iff.2 ⟨hslash, ?_⟩
  rcases h with h | h
  · exact .inl ⟨(List.cons.inj h).2, fun hlast => hne [] (List.mem_of_getLast? hlast) rfl⟩
  · exact .inr ⟨(List.cons.inj h).2, fun hone => hne [] (by simp [hone]) rfl⟩

/-- One more slash at the end of a path does not count. -/
theorem splitPath_concat_slash {rest : List Char} (h : rest.getLast? ≠ some '/') :
    splitPath (rest ++ ['/']) = splitPath rest := by
  obtain ⟨hslash, hform⟩ := splitPath_eq_iff.1 (rfl : splitPath rest = _)
  refine splitPath_eq_iff.2 ⟨hslash, .inr ?_⟩
  rcases hform with ⟨hrest, hlast⟩ | ⟨hrest, -⟩
  · exact ⟨congrArg (· ++ ['/']) hrest, fun hone => hlast (by rw [hone]; rfl)⟩
  · exact absurd (by rw [hrest, List.getLast?_concat]) h

theorem Pattern.matches?_concat_slash (p : Pattern) {path : List Char} (hne : path ≠ [])
    (hlast : path.getLast? ≠ some '/') : p.matches? (path ++ ['/']) = p.matches? path := by
  cases path with
  | nil => exact absurd rfl hne
  | cons c rest =>
    by_cases hc : c = '/'
    · subst hc
      have hrest : rest.getLast? ≠ some '/' := fun h => hlast (by rw [List.getLast?_cons, h]; rfl)
      simp only [List.cons_append, matches?, splitPath_concat_slash hrest]
    · simp [matches?, hc]

/-! ### Two slashes side by side -/

theorem slashes_infix_append_iff {part rest : List Char} (h : '/' ∉ part) :
    ['/', '/'] <:+: part ++ rest ↔ ['/', '/'] <:+: rest := by
  induction part with
  | nil => rfl
  | cons c part ih =>
    have hc : '/' ≠ c := fun heq => h (heq ▸ List.mem_cons_self)
    rw [List.cons_append, List.infix_cons_iff, ih fun hp => h (List.mem_cons_of_mem c hp)]
    simp [hc]

/-- The slash of a part stands beside the next one if the part is empty. -/
theorem slashes_infix_pathOf_iff {parts : List (List Char)} (h : ∀ part ∈ parts, '/' ∉ part) :
    ['/', '/'] <:+: pathOf parts ↔ [] ∈ parts.dropLast := by
  induction parts with
  | nil => decide
  | cons part parts ih =>
    have hpart : '/' ∉ part := h part List.mem_cons_self
    cases parts with
    | nil =>
      have hnone : ¬['/', '/'] <:+: pathOf [part] := by
        rw [pathOf, List.intercalate_singleton, List.infix_cons_iff]
        rintro (hp | hp)
        · exact hpart ((List.cons_prefix_cons.1 hp).2.mem List.mem_cons_self)
        · exact hpart (hp.mem List.mem_cons_self)
      simpa using hnone
    | cons next parts =>
      have hpath : pathOf (part :: next :: parts) = '/' :: (part ++ pathOf (next :: parts)) := by
        simp [pathOf, List.intercalate_cons_cons]
      have hfirst : ['/', '/'] <+: '/' :: (part ++ pathOf (next :: parts)) ↔ part = [] := by
        cases part with
        | nil => simp [pathOf]
        | cons c part =>
          have hc : '/' ≠ c := fun heq => hpart (heq ▸ List.mem_cons_self)
          simp [hc]
      rw [hpath, List.infix_cons_iff, hfirst, slashes_infix_append_iff hpart,
        ih fun p hp => h p (List.mem_cons_of_mem part hp), List.dropLast_cons_cons, List.mem_cons,
        eq_comm]

/-- Two slashes stand side by side at an empty part, and besides only in the root when it has one
more slash at its end. -/
theorem slashes_infix_iff (rest : List Char) :
    ['/', '/'] <:+: '/' :: rest ↔ [] ∈ splitPath rest ∨ rest = ['/'] := by
  by_cases hroot : rest = ['/']
  · simp [hroot]
  · obtain ⟨hslash, hform⟩ := splitPath_eq_iff.1 (rfl : splitPath rest = _)
    rw [or_iff_left hroot]
    rcases hform with ⟨hrest, hlast⟩ | ⟨hrest, hone⟩
    · -- the last part is not empty, so that a slash stands behind every empty one
      have hmem : [] ∈ (splitPath rest).dropLast ↔ [] ∈ splitPath rest := by
        refine ⟨fun h => List.dropLast_subset _ h, fun h => ?_⟩
        obtain ⟨last, hl⟩ :=
          Option.isSome_iff_exists.1 (List.getLast?_isSome.2 (List.ne_nil_of_mem h))
        obtain ⟨init, hparts⟩ := List.getLast?_eq_some_iff.1 hl
        have hne : [] ≠ last := fun heq => hlast (heq ▸ hl)
        rw [hparts, List.dropLast_concat]
        simpa [hparts, hne] using h
      rw [← hmem, ← slashes_infix_pathOf_iff hslash, pathOf, ← hrest]
    · -- the slash at the end stands behind the last part as if one more empty part followed
      have hne : splitPath rest ≠ [] := fun hnil => hroot (by rw [hrest, hnil]; rfl)
      have hpath : '/' :: rest = pathOf (splitPath rest ++ [[]]) := by
        rw [pathOf_concat hne, pathOf, List.cons_append, ← hrest]
      rw [hpath, slashes_infix_pathOf_iff, List.dropLast_concat]
      simpa [or_imp, forall_and] using hslash

end JudgeClient
