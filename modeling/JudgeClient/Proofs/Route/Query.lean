import JudgeClient.Proofs.Query.Reader
import JudgeClient.Proofs.Route.Location
import JudgeClient.Proofs.Route.Params

/-!
# Queries of locations

A search travels in a location as a query: its fields under their names, without those that are not
set.  The query begins at the first question mark, so a path without one is told from what is
written behind it, and every field that is written with a distinct name can be read again.  A field
that is not set has no text, which is not the same as an empty text.

* `Query.Flat` : a JSON value whose query string is a list of fields;
* `RouteTable.resolve_withQuery` : what is written behind a path does not change its row;
* `Location.lookup_query_withQuery` : the query of a location gives the texts of its fields;
* `Location.get?_query_withQuery` : a field of a lawful type is read as it was set.
-/

namespace JudgeClient

namespace Query

/-! ### Fields -/

/-- The name of a field, and its text if it is set. -/
abbrev Field : Type := String × Option String

/-- The field of a member that may be absent. -/
def field {α : Type} [ParamValue α] (key : String) (a : Option α) : Field :=
  (key, a.map ParamValue.write)

/-- The texts of the fields that are set. -/
def present : List Field → List (String × String)
  | [] => []
  | (key, text) :: fields => (text.map fun text => (key, text)).toList ++ present fields

theorem sublist_map_present (fields : List Field) :
    ((present fields).map (·.1)).Sublist (fields.map (·.1)) := by
  induction fields with
  | nil => exact .slnil
  | cons f fields ih =>
    obtain ⟨key, text⟩ := f
    cases text with
    | none => exact ih.cons key
    | some text => exact ih.cons_cons key

theorem lookupEntry_present_cons (k key : String) (text : Option String) (fields : List Field) :
    Params.lookupEntry k (present ((key, text) :: fields)) =
      if key = k then text.or (Params.lookupEntry k (present fields))
      else Params.lookupEntry k (present fields) := by
  cases text with
  | none => simp [present]
  | some text => exact Params.lookupEntry_cons k key text (present fields)

theorem lookupEntry_present {fields : List Field} (hdistinct : (fields.map (·.1)).Nodup)
    {f : Field} (hf : f ∈ fields) : Params.lookupEntry f.1 (present fields) = f.2 := by
  induction fields with
  | nil => cases hf
  | cons g fields ih =>
    obtain ⟨hfresh, hrest⟩ := List.nodup_cons.1 hdistinct
    rw [lookupEntry_present_cons]
    rcases List.mem_cons.1 hf with rfl | hmem
    · have hnone : Params.lookupEntry f.1 (present fields) = none :=
        Params.lookupEntry_eq_none_of_not_mem fun h =>
          hfresh ((sublist_map_present fields).subset h)
      rw [if_pos rfl, hnone, Option.or_none]
    · have hkey : g.1 ≠ f.1 := fun heq => hfresh (List.mem_map.2 ⟨f, hmem, heq.symm⟩)
      rw [if_neg hkey, ih hrest hmem]

/-! ### Flat values -/

/-- The query string of the value is that of some fields, which have distinct names, and none has an
empty name. -/
structure Flat (v : Json) (fields : List Field) : Prop where
  pairs : ∃ entries, v = .object entries ∧ entryPairs none entries = (present fields).map writeEntry
  distinct : (fields.map (·.1)).Nodup
  named : ∀ f ∈ fields, f.1 ≠ ""

/-- A type whose members have the same text in JSON, once written as a pair, and in parameters. -/
class Scalar (α : Type) [Payload α] [ParamValue α] : Prop where
  pairs_toJson : ∀ (key : List Char) (a : α),
    Query.pairs key (Payload.toJson a) = [writePair key (ParamValue.write a)]

instance : Scalar Int64 := ⟨fun _ _ => rfl⟩
instance : Scalar String := ⟨fun _ _ => rfl⟩
instance : Scalar JobState := ⟨fun _ _ => rfl⟩
instance : Scalar JobResult := ⟨fun _ _ => rfl⟩
instance : Scalar ScoringRule := ⟨fun _ _ => rfl⟩
instance : Scalar TieBreaker := ⟨fun _ _ => rfl⟩

/-- An entry that may be left out is written as its field. -/
theorem entryPairs_optionalEntry {α : Type} [Payload α] [ParamValue α] [Scalar α] (key : String)
    (a : Option α) : entryPairs none (Payload.optionalEntry key a) =
      (present [field key a]).map writeEntry := by
  cases a with
  | none => rfl
  | some a => exact (List.append_nil _).trans (Scalar.pairs_toJson (writeComponent key.toList) a)

/-- The query of a flat value stands behind a question mark, if any of its fields is set. -/
theorem Flat.toList_withQuery {v : Json} {fields : List Field} (h : Flat v fields) (path : String) :
    (withQuery path v).toList = path.toList ++
      if present fields = [] then [] else '?' :: ['&'].intercalate ((present fields).map writeEntry)
      := by
  obtain ⟨entries, rfl, hpairs⟩ := h.pairs
  simp only [toList_withQuery_object, hpairs, List.map_eq_nil_iff]

end Query

/-! ### Locations -/

theorem Params.ofQuery_writeEntry {entries : List (String × String)}
    (hdistinct : (entries.map (·.1)).Nodup) (hne : ∀ e ∈ entries, e.1 ≠ "") :
    ofQuery (['&'].intercalate (entries.map Query.writeEntry)) = .ok (ofList entries) := by
  unfold ofQuery
  split
  · next heq => exact absurd heq (Query.intercalate_writeEntry_ne_cons hne _)
  · simp only [Query.parse_writeEntry hdistinct hne, ofList_entries]

/-- The query string of a flat value holds the fields that are set, and nothing else. -/
theorem Params.ofQuery_present {v : Json} {fields : List Query.Field} (h : Query.Flat v fields) :
    ofQuery (['&'].intercalate ((Query.present fields).map Query.writeEntry)) =
      .ok (ofList (Query.present fields)) := by
  have hdistinct := h.distinct.sublist (Query.sublist_map_present fields)
  have hnamed : ∀ e ∈ Query.present fields, e.1 ≠ "" := fun e he => by
    obtain ⟨f, hf, heq⟩ := List.mem_map.1
      ((Query.sublist_map_present fields).subset (List.mem_map.2 ⟨e, he, rfl⟩))
    exact heq ▸ h.named f hf
  exact ofQuery_writeEntry hdistinct hnamed

namespace Location

/-- The parameters behind the first question mark of a location or a URL. -/
def query (location : String) : Params :=
  RouteTable.queryParams (RouteTable.splitLocation location).2

/-- The first question mark stands behind the path. -/
theorem splitLocation_withQuery {path : String} (hpath : '?' ∉ path.toList) (hne : path ≠ "")
    (entries : List (String × Json)) :
    RouteTable.splitLocation (Query.withQuery path (.object entries)) =
      (path.toList, ['&'].intercalate (Query.entryPairs none entries)) := by
  have hsplit : IsSplit (Query.withQuery path (.object entries)) path.toList
      (['&'].intercalate (Query.entryPairs none entries)) := by
    refine ⟨hpath, ?_⟩
    rw [Query.toList_withQuery_object]
    split
    · next hq => exact .inr ⟨by simp, by rw [hq]; rfl⟩
    · exact .inl rfl
  have hnil : path.toList ≠ [] := by simpa using hne
  rw [RouteTable.splitLocation_of_isSplit hsplit, if_neg hnil]

/-- A location with a query is kept as it is, if its path has its leading slash. -/
theorem normalize_withQuery {path : String} {rest : List Char} (hpath : path.toList = '/' :: rest)
    {v : Json} {fields : List Query.Field} (hv : Query.Flat v fields) :
    normalize (Query.withQuery path v) = Query.withQuery path v :=
  normalize_of_slash (by rw [hv.toList_withQuery, hpath, List.cons_append])

variable {path : String} (hpath : '?' ∉ path.toList) (hne : path ≠ "") {v : Json}
  {fields : List Query.Field} (hv : Query.Flat v fields)

include hpath hne hv

/-- The query of a location has the fields that were written behind its path. -/
theorem query_withQuery :
    query (Query.withQuery path v) = Params.ofList (Query.present fields) := by
  have hread := Params.ofQuery_present hv
  obtain ⟨entries, rfl, hpairs⟩ := hv.pairs
  rw [query, splitLocation_withQuery hpath hne, hpairs, RouteTable.queryParams, hread]

/-- The query of a location gives the texts of its fields. -/
theorem lookup_query_withQuery {f : Query.Field} (hf : f ∈ fields) :
    (query (Query.withQuery path v)).lookup f.1 = f.2 := by
  rw [query_withQuery hpath hne hv,
    Params.lookup_ofList (hv.distinct.sublist (Query.sublist_map_present fields)),
    Query.lookupEntry_present hv.distinct hf]

/-- A field of a lawful type is read as it was set. -/
theorem get?_query_withQuery {α : Type} [ParamValue α] [LawfulParamValue α] {key : String}
    {a : Option α} (hf : Query.field key a ∈ fields) :
    (query (Query.withQuery path v)).get? key = a := by
  have hl : (query (Query.withQuery path v)).lookup key = a.map ParamValue.write :=
    lookup_query_withQuery hpath hne hv hf
  rw [Params.get?, hl]
  cases a with
  | none => rfl
  | some a => exact LawfulParamValue.read?_write a

end Location

/-- Whatever is written behind a path, a location stands for the row that the path stands for. -/
theorem RouteTable.resolve_withQuery {t : RouteTable} {path : String} (hpath : '?' ∉ path.toList)
    (hne : path ≠ "") {entry : RouteEntry} {captures : Params}
    (hfind : find? path.toList t.entries = some (entry, captures)) {v : Json}
    {fields : List Query.Field} (hv : Query.Flat v fields) :
    t.resolve (Query.withQuery path v) = .found ⟨entry.page, entry.name, captures,
      Location.query (Query.withQuery path v), entry.forwardsParams⟩ := by
  obtain ⟨entries, rfl, -⟩ := hv.pairs
  rw [Location.query, resolve, Location.splitLocation_withQuery hpath hne]
  simp only [hfind]

end JudgeClient
