import JudgeClient.Proofs.Json.Value
import Mathlib.Data.List.Forall2

/-!
# Records read back

A compact text holds the values of a record in the order in which they were written.  A reader of
records takes them in any order, each by the field of its key, and puts them into the order of the
fields.

* `reads_record` : records, once their fields can be read;
* `ReadsFields`, `ReadsFields.reads_of_perm` : records field by field, in any order of the entries;
* `parse_compact` : a whole text.
-/

namespace JudgeClient.Json

/-! ### Entries -/

/-- The first entry's key names a field, by which its value is taken for that of the second one. -/
def ReadsEntry (fields : List FieldReader) (e w : String × Json) : Prop :=
  w.1 = e.1 ∧ ∃ f, fields.find? (·.name == e.1) = some f ∧ Reads f.read e.2 w.2

theorem ReadsEntry.cons {depth : Nat} {fields : List (String × Shape)} {e w : String × Json}
    (h : ReadsEntry (fieldReaders depth fields) e w) {name : String} {shape : Shape}
    (hne : name ≠ e.1) : ReadsEntry (fieldReaders depth ((name, shape) :: fields)) e w := by
  obtain ⟨hkey, f, hf, hread⟩ := h
  refine ⟨hkey, f, ?_, hread⟩
  rw [fieldReaders, List.find?_cons_of_neg (by simpa [fieldReader] using hne), hf]

/-- An entry as it is printed, without the comma before it. -/
def renderEntry (e : String × Json) : List Char := renderText e.1 ++ ':' :: e.2.render

theorem renderEntries_cons (e : String × Json) (es : List (String × Json)) :
    renderEntries (e :: es) = renderEntry e ++ renderMoreEntries es := by
  simp [renderEntries, renderEntry]

theorem renderMoreEntries_cons (e : String × Json) (es : List (String × Json)) :
    renderMoreEntries (e :: es) = ',' :: (renderEntry e ++ renderMoreEntries es) := by
  simp [renderMoreEntries, renderEntry]

theorem render_object_append (es : List (String × Json)) (s : List Char) :
    Json.render (.object es) ++ s = '{' :: (renderEntries es ++ '}' :: s) := by
  simp [render]

theorem length_le_renderMoreEntries (es : List (String × Json)) :
    es.length ≤ (renderMoreEntries es).length := by
  induction es with
  | nil => exact Nat.le_refl _
  | cons e es ih =>
    rw [renderMoreEntries_cons]
    simp only [List.length_cons, List.length_append]
    omega

theorem length_le_renderEntries (es : List (String × Json)) :
    es.length ≤ (renderEntries es).length := by
  cases es with
  | nil => exact Nat.le_refl _
  | cons e es =>
    have hmore := length_le_renderMoreEntries es
    have hentry : 1 ≤ (renderEntry e).length := by simp [renderEntry, renderText]
    rw [renderEntries_cons, List.length_cons, List.length_append]
    omega

theorem ends_renderMoreEntries (es : List (String × Json)) (s : List Char) :
    Ends (renderMoreEntries es ++ '}' :: s) := by
  cases es with
  | nil => exact ends_cons (.inr (.inr rfl)) s
  | cons e es =>
    rw [renderMoreEntries_cons]
    exact ends_cons (.inl rfl) _

/-- With distinct keys, an entry is the one that is found under its key. -/
theorem lookup_of_mem {e : String × Json} {es : List (String × Json)} (h : e ∈ es)
    (hd : (es.map (·.1)).Nodup) : lookup e.1 es = some e.2 := by
  induction es with
  | nil => cases h
  | cons e' es ih =>
    obtain ⟨hnot, hd⟩ := List.nodup_cons.1 hd
    by_cases hk : e'.1 = e.1
    · rcases List.mem_cons.1 h with rfl | h
      · simp [lookup]
      · exact absurd (List.mem_map.2 ⟨e, h, hk.symm⟩) hnot
    · rcases List.mem_cons.1 h with rfl | h
      · exact absurd rfl hk
      · have hrest := ih h hd
        simpa [lookup, hk] using hrest

theorem lookup_eq_none {key : String} {seen : List (String × Json)}
    (h : key ∉ seen.map (·.1)) : lookup key seen = none := by
  rw [lookup, Option.map_eq_none_iff, List.find?_eq_none]
  intro e he hk
  exact h (List.mem_map.2 ⟨e, he, by simpa using hk⟩)

theorem colon_cons (s : List Char) : colon (':' :: s) = .ok s := by
  rw [colon, skipGaps_cons (by decide)]
  rfl

/-- One entry that stands at the front, after a comma or without one. -/
theorem entries_of_member {fields : List FieldReader} {e w : String × Json}
    (h : ReadsEntry fields e w) {seen : List (String × Json)} (hseen : e.1 ∉ seen.map (·.1))
    {s t : List Char} (ht : Ends t) {first : Bool}
    (hnext : nextEntry first s =
      .ok (.member (e.1.toList.flatMap escapeChar ++ '"' :: ':' :: (e.2.render ++ t))))
    (fuel : Nat) :
    entries fields (fuel + 1) first seen s = entries fields fuel false (seen ++ [w]) t := by
  obtain ⟨hkey, f, hf, hread⟩ := h
  have hw : (e.1, w.2) = w := by rw [← hkey]
  rw [entries, hnext]
  simp only [bind, Except.bind, readText_renderText, hf, lookup_eq_none hseen, colon_cons,
    hread t ht, Option.isSome_none, Bool.false_eq_true, if_false, hw]

theorem nextEntry_renderEntry (e : String × Json) (t : List Char) :
    nextEntry true (renderEntry e ++ t) =
        .ok (.member (e.1.toList.flatMap escapeChar ++ '"' :: ':' :: (e.2.render ++ t))) ∧
      nextEntry false (',' :: (renderEntry e ++ t)) =
        .ok (.member (e.1.toList.flatMap escapeChar ++ '"' :: ':' :: (e.2.render ++ t))) := by
  have hentry : renderEntry e ++ t =
      '"' :: (e.1.toList.flatMap escapeChar ++ '"' :: ':' :: (e.2.render ++ t)) := by
    rw [renderEntry, List.append_assoc, renderText_append, List.cons_append]
  rw [hentry]
  constructor
  · rw [nextEntry, skipGaps_cons (by decide)]
    rfl
  · rw [nextEntry, skipGaps_cons (by decide)]
    simp [skipGaps_cons (c := '"') (by decide)]

theorem entries_of_end (fields : List FieldReader) (fuel : Nat) (first : Bool)
    (seen : List (String × Json)) (s : List Char) :
    entries fields (fuel + 1) first seen ('}' :: s) = .ok (seen, s) := by
  have hnext : nextEntry first ('}' :: s) = .ok (.done s) := by
    rw [nextEntry, skipGaps_cons (by decide)]
    rfl
  rw [entries, hnext]
  rfl

/-- Entries that follow another one, up to the end of their object. -/
theorem entries_renderMoreEntries {fields : List FieldReader} {es ws : List (String × Json)}
    (h : List.Forall₂ (ReadsEntry fields) es ws) {seen : List (String × Json)}
    (hd : ((seen ++ es).map (·.1)).Nodup) {fuel : Nat} (hf : es.length < fuel) (s : List Char) :
    entries fields fuel false seen (renderMoreEntries es ++ '}' :: s) = .ok (seen ++ ws, s) := by
  induction h generalizing seen fuel with
  | nil =>
    obtain ⟨fuel, rfl⟩ := Nat.exists_eq_succ_of_ne_zero (Nat.ne_of_gt hf)
    rw [List.append_nil]
    exact entries_of_end fields fuel false seen s
  | @cons e w es ws he _ ih =>
    obtain ⟨fuel, rfl⟩ := Nat.exists_eq_succ_of_ne_zero (Nat.ne_of_gt (Nat.zero_lt_of_lt hf))
    have hkeys : ((seen ++ [w] ++ es).map (·.1)).Nodup := by
      simpa [he.1] using hd
    have hseen : e.1 ∉ seen.map (·.1) := by
      rw [List.map_append, List.nodup_append] at hd
      exact fun hm => hd.2.2 _ hm _ List.mem_cons_self rfl
    rw [renderMoreEntries_cons, List.cons_append, List.append_assoc,
      entries_of_member he hseen (ends_renderMoreEntries es s) (nextEntry_renderEntry e _).2,
      ih hkeys (Nat.lt_of_succ_lt_succ hf), List.append_assoc, List.singleton_append]

/-- All entries of an object, behind its opening brace. -/
theorem entries_renderEntries {fields : List FieldReader} {es ws : List (String × Json)}
    (h : List.Forall₂ (ReadsEntry fields) es ws) (hd : (es.map (·.1)).Nodup) {fuel : Nat}
    (hf : es.length < fuel) (s : List Char) :
    entries fields fuel true [] (renderEntries es ++ '}' :: s) = .ok (ws, s) := by
  obtain ⟨fuel, rfl⟩ := Nat.exists_eq_succ_of_ne_zero (Nat.ne_of_gt (Nat.zero_lt_of_lt hf))
  cases h with
  | nil => exact entries_of_end fields fuel true [] s
  | @cons e w es ws he hes =>
    have hkeys : (([w] ++ es).map (·.1)).Nodup := by simpa [he.1] using hd
    rw [renderEntries_cons, List.append_assoc,
      entries_of_member he List.not_mem_nil (ends_renderMoreEntries es s)
        (nextEntry_renderEntry e _).1,
      List.nil_append, entries_renderMoreEntries hes hkeys (Nat.lt_of_succ_lt_succ hf),
      List.singleton_append]

/-! ### Sorted entries -/

theorem insertEntry_perm {key : String} {es : List (String × Json)} (h : key ∉ es.map (·.1))
    (v : Json) : (insertEntry key v es).Perm ((key, v) :: es) := by
  induction es with
  | nil => exact .refl _
  | cons e es ih =>
    obtain ⟨hne, hrest⟩ : key ≠ e.1 ∧ key ∉ es.map (·.1) := by simpa using h
    rw [insertEntry, if_neg hne]
    split
    · exact .refl _
    · exact ((ih hrest).cons e).trans (.swap _ _ _)

theorem foldl_insertEntry_perm {es acc : List (String × Json)}
    (hd : ((acc ++ es).map (·.1)).Nodup) :
    (es.foldl (fun acc e => insertEntry e.1 e.2 acc) acc).Perm (acc ++ es) := by
  induction es generalizing acc with
  | nil => rw [List.append_nil]; exact .refl _
  | cons e es ih =>
    have hkey : e.1 ∉ acc.map (·.1) := by
      rw [List.map_append, List.nodup_append] at hd
      exact fun hm => hd.2.2 _ hm _ List.mem_cons_self rfl
    -- the entry goes to its place among the earlier ones
    have hinsert : (insertEntry e.1 e.2 acc ++ es).Perm (acc ++ e :: es) :=
      ((insertEntry_perm hkey e.2).append_right es).trans List.perm_middle.symm
    exact (ih ((hinsert.map (·.1)).nodup_iff.2 hd)).trans hinsert

/-- Sorting the entries of an object with distinct keys only changes their order. -/
theorem exists_sortEntries {es : List (String × Json)} (hd : (es.map (·.1)).Nodup) :
    ∃ sorted, sorted.Perm es ∧ (Json.object es).sortEntries = .object sorted := by
  refine ⟨_, ?_, rfl⟩
  show List.Perm _ ([] ++ es)
  exact foldl_insertEntry_perm hd

/-! ### Records and whole texts -/

/-- The entry of a field, given those that were read: the one under its name, or `null` if there is
none and there need not be one. -/
def Holds {ρ : Type} (seen : List (String × Json)) (f : Field ρ) (r : String × Json) : Prop :=
  f.name = r.1 ∧ (lookup r.1 seen = some r.2 ∨
    lookup r.1 seen = none ∧ f.optional = true ∧ r.2 = .null)

theorem collect_of_holds {ρ : Type} {seen rs : List (String × Json)} {fields : List (Field ρ)}
    (h : List.Forall₂ (Holds seen) fields rs) : collect seen fields = .ok rs := by
  induction h with
  | nil => rfl
  | @cons f r fields rs hf _ ih =>
    obtain ⟨hname, hfound | ⟨hnone, hoptional, hnull⟩⟩ := hf
    · rw [collect, hname, hfound]
      simp only [ih, Except.map]
    · rw [collect, hname, hnone]
      simp only [hoptional, if_true, ih, Except.map, ← hnull]

theorem holds_of_collect {ρ : Type} {seen rs : List (String × Json)} {fields : List (Field ρ)}
    (h : collect seen fields = .ok rs) : List.Forall₂ (Holds seen) fields rs := by
  induction fields generalizing rs with
  | nil =>
    cases h
    exact .nil
  | cons f fields ih =>
    rw [collect] at h
    split at h
    · next v hv =>
      obtain ⟨rest, hrest, rfl⟩ := exists_of_map_eq_ok h
      exact .cons ⟨rfl, .inl hv⟩ (ih hrest)
    · next hnone =>
      split at h
      · next hoptional =>
        obtain ⟨rest, hrest, rfl⟩ := exists_of_map_eq_ok h
        exact .cons ⟨rfl, .inr ⟨hnone, hoptional, rfl⟩⟩ (ih hrest)
      · cases h

/-- A record is taken for its fields in their order. -/
theorem reads_record {depth : Nat} (hdepth : depth ≠ 0) {name wanted : String}
    {fields : List FieldReader} {es ws rs : List (String × Json)}
    (h : List.Forall₂ (ReadsEntry fields) es ws) (hd : (es.map (·.1)).Nodup)
    (hc : collect ws fields = .ok rs) :
    Reads (readRecord depth name wanted fields) (.object es) (.object rs) := by
  intro s _
  have hfuel : es.length < (renderEntries es ++ '}' :: s).length + 1 := by
    have := length_le_renderEntries es
    rw [List.length_append]
    omega
  have hentries := entries_renderEntries h hd hfuel s
  rw [readRecord, render_object_append, skipGaps_cons (by decide)]
  simp only [if_neg hdepth, hentries, bind, Except.bind, hc]
  rfl

/-- How the fields of a record are written and read.  A field stands in the object with a value
that is taken for another one, or it is left out and taken for `null`. -/
inductive ReadsFields (depth : Nat) :
    List (String × Shape) → List (String × Json) → List (String × Json) → Prop
  | nil : ReadsFields depth [] [] []
  | present {name : String} {shape : Shape} {v w : Json} {fields : List (String × Shape)}
      {es rs : List (String × Json)} (h : Reads (shape.read depth) v w)
      (hs : ReadsFields depth fields es rs) :
      ReadsFields depth ((name, shape) :: fields) ((name, v) :: es) ((name, w) :: rs)
  | absent {name : String} {shape : Shape} {fields : List (String × Shape)}
      {es rs : List (String × Json)} (h : shape.isOptional = true)
      (hs : ReadsFields depth fields es rs) :
      ReadsFields depth ((name, shape) :: fields) es ((name, .null) :: rs)

namespace ReadsFields

variable {depth : Nat} {fields : List (String × Shape)} {es rs : List (String × Json)}

theorem map_fst (h : ReadsFields depth fields es rs) : rs.map (·.1) = fields.map (·.1) := by
  induction h with
  | nil => rfl
  | present _ _ ih => exact congrArg (_ :: ·) ih
  | absent _ _ ih => exact congrArg (_ :: ·) ih

theorem sublist (h : ReadsFields depth fields es rs) :
    (es.map (·.1)).Sublist (fields.map (·.1)) := by
  induction h with
  | nil => exact .slnil
  | present _ _ ih => exact ih.cons_cons _
  | absent _ _ ih => exact ih.cons _

theorem ne_of_mem (h : ReadsFields depth fields es rs) {name : String}
    (hname : name ∉ fields.map (·.1)) {e : String × Json} (he : e ∈ es) : name ≠ e.1 :=
  fun heq => hname (heq ▸ h.sublist.subset (List.mem_map_of_mem he))

/-- Each entry that is written is read by the field of its key. -/
theorem readsEntry (h : ReadsFields depth fields es rs) (hd : (fields.map (·.1)).Nodup) :
    ∀ e ∈ es, ∃ w, w ∈ rs ∧ ReadsEntry (fieldReaders depth fields) e w := by
  induction h with
  | nil => exact fun e he => absurd he List.not_mem_nil
  | present hread hs ih =>
    obtain ⟨hname, hd⟩ := List.nodup_cons.1 hd
    intro e he
    rcases List.mem_cons.1 he with rfl | he
    · exact ⟨_, List.mem_cons_self, rfl, _, List.find?_cons_of_pos (by simp [fieldReader]), hread⟩
    · obtain ⟨w, hw, hread⟩ := ih hd e he
      exact ⟨w, List.mem_cons_of_mem _ hw, hread.cons (hs.ne_of_mem hname he)⟩
  | absent _ hs ih =>
    obtain ⟨hname, hd⟩ := List.nodup_cons.1 hd
    intro e he
    obtain ⟨w, hw, hread⟩ := ih hd e he
    exact ⟨w, List.mem_cons_of_mem _ hw, hread.cons (hs.ne_of_mem hname he)⟩

/-- Only a field that may be left out has no entry. -/
theorem optional_of_not_mem (h : ReadsFields depth fields es rs) :
    List.Forall₂ (fun f r => f.name = r.1 ∧ r ∈ rs ∧
      (r.1 ∉ es.map (·.1) → f.optional = true ∧ r.2 = .null)) (fieldReaders depth fields) rs := by
  induction h with
  | nil => exact .nil
  | present _ _ ih =>
    refine .cons ⟨rfl, List.mem_cons_self, fun hnot => absurd List.mem_cons_self hnot⟩
      (ih.imp fun f r hr => ⟨hr.1, List.mem_cons_of_mem _ hr.2.1, fun hnot => ?_⟩)
    exact hr.2.2 fun hmem => hnot (List.mem_cons_of_mem _ hmem)
  | absent hoptional _ ih =>
    exact .cons ⟨rfl, List.mem_cons_self, fun _ => ⟨hoptional, rfl⟩⟩
      (ih.imp fun f r hr => ⟨hr.1, List.mem_cons_of_mem _ hr.2.1, hr.2.2⟩)

/-- A record is read from its entries in whatever order they stand. -/
theorem reads_of_perm (h : ReadsFields depth fields es rs) (hd : (fields.map (·.1)).Nodup)
    {es' : List (String × Json)} (hp : es'.Perm es) (name : String) :
    Reads ((Shape.record name fields).read (depth + 1)) (.object es') (.object rs) := by
  have hrs : (rs.map (·.1)).Nodup := h.map_fst ▸ hd
  have hkeys : (es'.map (·.1)).Nodup :=
    (hp.map (·.1)).nodup_iff.2 (h.sublist.nodup hd)
  choose! taken hmem hread using fun e he => h.readsEntry hd e (hp.mem_iff.1 he)
  have hentries : List.Forall₂ (ReadsEntry (fieldReaders depth fields)) es' (es'.map taken) :=
    List.forall₂_map_right_iff.2 (List.forall₂_same.2 hread)
  have htaken : (es'.map taken).map (·.1) = es'.map (·.1) := by
    rw [List.map_map]
    exact List.map_congr_left fun e he => (hread e he).1
  refine reads_record (Nat.succ_ne_zero _) hentries hkeys (collect_of_holds ?_)
  refine h.optional_of_not_mem.imp fun f r hr => ⟨hr.1, ?_⟩
  by_cases hkey : r.1 ∈ es.map (·.1)
  · obtain ⟨e, he, hname⟩ := List.mem_map.1 ((hp.map (·.1)).mem_iff.2 hkey)
    have hfound := lookup_of_mem (List.mem_map_of_mem he) (htaken ▸ hkeys)
    have hvalue : some (taken e).2 = some r.2 := by
      rw [← lookup_of_mem (hmem e he) hrs, ← lookup_of_mem hr.2.1 hrs, (hread e he).1, hname]
    rw [(hread e he).1, hname, hvalue] at hfound
    exact .inl hfound
  · refine .inr ⟨lookup_eq_none ?_, hr.2.2 hkey⟩
    rwa [htaken, (hp.map (·.1)).mem_iff]

end ReadsFields

/-- The compact text of a value as a whole. -/
theorem parse_compact {shape : Shape} {v w : Json} (h : Reads (shape.read maxDepth) v w) :
    parse shape v.compact = .ok w := by
  have hread := h [] ends_nil
  rw [List.append_nil] at hread
  rw [parse, compact, String.toList_ofList, hread]
  rfl

end JudgeClient.Json
