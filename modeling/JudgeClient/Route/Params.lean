import JudgeClient.Error
import JudgeClient.Numeral
import JudgeClient.Payload.Search
import JudgeClient.Query.Reader

/-!
# Parameters

What a location carries beside its page: named texts, captured from its path or read from its
query.  A text is looked at through a type: `Params.get?` reads it, `Params.set` writes it.

`Params.lookup_insert` says what an insertion changes, and `Params.eq_of_lookup_eq` that two
parameter maps with the same texts are equal.
-/

namespace JudgeClient

/-! ### Typed texts -/

/-- A type whose members are written as texts in parameters. -/
class ParamValue (α : Type) where
  read? : String → Option α
  write : α → String

namespace ParamValue

instance : ParamValue Int64 where
  read? s := (Numeral.readSigned? s.toList).map Int64.ofInt
  write i := toString i.toInt

instance : ParamValue UInt64 where
  read? s := (Numeral.readUnsigned? (UInt64.size - 1) s.toList).map UInt64.ofNat
  write n := toString n.toNat

instance : ParamValue UInt8 where
  read? s := (Numeral.readUnsigned? (UInt8.size - 1) s.toList).map UInt8.ofNat
  write n := toString n.toNat

instance : ParamValue Bool where
  read? s := if s = "true" then some true else if s = "false" then some false else none
  write b := if b then "true" else "false"

instance : ParamValue String where
  read? s := some s
  write s := s

/-- An enumeration is written as its spelling. -/
abbrev ofSpelled (α : Type) [Spelled α] : ParamValue α where
  read? := Spelled.ofSpelling?
  write := Spelled.spelling

instance : ParamValue JobState := ofSpelled JobState
instance : ParamValue JobResult := ofSpelled JobResult
instance : ParamValue ScoringRule := ofSpelled ScoringRule
instance : ParamValue TieBreaker := ofSpelled TieBreaker

end ParamValue

/-! ### Parameter maps -/

/-- The entries stand in the order of their names, and no name stands twice. -/
def Params.IsSorted (entries : List (String × String)) : Prop :=
  entries.Pairwise fun a b => a.1 < b.1

/-- Named texts, in the order of their names. -/
structure Params where
  entries : List (String × String)
  sorted : Params.IsSorted entries
deriving DecidableEq, Repr

namespace Params

/-- No parameters. -/
def empty : Params := ⟨[], .nil⟩

/-! ### Insertion -/

/-- Sorted entries with one more, which replaces one of the same name. -/
def insertEntry (key value : String) : List (String × String) → List (String × String)
  | [] => [(key, value)]
  | (k, v) :: rest =>
    if key = k then (key, value) :: rest
    else if key < k then (key, value) :: (k, v) :: rest
    else (k, v) :: insertEntry key value rest

theorem name_of_mem_insertEntry {key value : String} {e : String × String} :
    ∀ {l : List (String × String)}, e ∈ insertEntry key value l → e.1 = key ∨ e ∈ l
  | [], h => by simp_all [insertEntry]
  | (k, v) :: rest, h => by
    unfold insertEntry at h
    split at h
    · rcases List.mem_cons.1 h with h | h
      · exact .inl (by rw [h])
      · exact .inr (List.mem_cons_of_mem _ h)
    · split at h
      · rcases List.mem_cons.1 h with h | h
        · exact .inl (by rw [h])
        · exact .inr h
      · rcases List.mem_cons.1 h with h | h
        · exact .inr (by rw [h]; exact List.mem_cons_self)
        · rcases name_of_mem_insertEntry h with h | h
          · exact .inl h
          · exact .inr (List.mem_cons_of_mem _ h)

theorem isSorted_insertEntry {key value : String} {l : List (String × String)} (h : IsSorted l) :
    IsSorted (insertEntry key value l) := by
  induction l with
  | nil => simp [IsSorted, insertEntry]
  | cons e rest ih =>
    obtain ⟨k, v⟩ := e
    obtain ⟨hk, hrest⟩ := List.pairwise_cons.1 h
    unfold insertEntry
    split
    · next heq => exact List.pairwise_cons.2 ⟨by rw [heq]; exact hk, hrest⟩
    · split
      · next hlt =>
        refine List.pairwise_cons.2 ⟨fun e he => ?_, h⟩
        rcases List.mem_cons.1 he with rfl | he
        · exact hlt
        · exact String.lt_trans hlt (hk e he)
      · next hne hnlt =>
        refine List.pairwise_cons.2 ⟨fun e he => ?_, ih hrest⟩
        rcases name_of_mem_insertEntry he with he | he
        · rw [he]
          exact Std.lt_of_le_of_ne (Std.not_lt.1 hnlt) (Ne.symm hne)
        · exact hk e he

/-- The parameters with one text set. -/
def insert (p : Params) (key value : String) : Params :=
  ⟨insertEntry key value p.entries, isSorted_insertEntry p.sorted⟩

/-- The parameters with one text removed. -/
def erase (p : Params) (key : String) : Params :=
  ⟨p.entries.filter (·.1 != key), List.Pairwise.filter _ p.sorted⟩

/-- The parameters with the given entries; the last of equal names wins. -/
def ofList (entries : List (String × String)) : Params :=
  entries.foldl (fun p e => p.insert e.1 e.2) empty

/-! ### Looking up -/

/-- The text that stands under a name. -/
def lookupEntry (key : String) (entries : List (String × String)) : Option String :=
  (entries.find? (·.1 == key)).map (·.2)

/-- The text with the given name. -/
def lookup (p : Params) (key : String) : Option String := lookupEntry key p.entries

@[simp] theorem lookup_empty (key : String) : empty.lookup key = none := rfl

theorem lookupEntry_cons (k key value : String) (l : List (String × String)) :
    lookupEntry k ((key, value) :: l) = if key = k then some value else lookupEntry k l := by
  by_cases h : key = k <;> simp [lookupEntry, h]

theorem lookupEntry_eq_none {key : String} {l : List (String × String)}
    (h : ∀ e ∈ l, key < e.1) : lookupEntry key l = none := by
  simp only [lookupEntry, Option.map_eq_none_iff, List.find?_eq_none, beq_iff_eq]
  intro e he heq
  exact String.lt_irrefl key (by simpa [heq] using h e he)

theorem lookup_insert (p : Params) (key value k : String) :
    (p.insert key value).lookup k = if k = key then some value else p.lookup k := by
  obtain ⟨entries, hs⟩ := p
  simp only [lookup, insert]
  clear hs
  induction entries with
  | nil => simp [insertEntry, lookupEntry_cons, eq_comm]
  | cons e rest ih =>
    obtain ⟨a, b⟩ := e
    unfold insertEntry
    split
    · next h => subst h; by_cases hk : key = k <;> simp [lookupEntry_cons, hk, eq_comm]
    · next h =>
      split
      · by_cases hk : key = k <;> simp [lookupEntry_cons, hk, eq_comm]
      · rw [lookupEntry_cons, ih, lookupEntry_cons]
        by_cases hk : k = key
        · subst hk; simp [Ne.symm h]
        · simp [hk]

theorem lookup_erase (p : Params) (key k : String) :
    (p.erase key).lookup k = if k = key then none else p.lookup k := by
  obtain ⟨entries, hs⟩ := p
  simp only [lookup, erase]
  clear hs
  induction entries with
  | nil => simp [lookupEntry]
  | cons e rest ih =>
    obtain ⟨a, b⟩ := e
    by_cases ha : a = key
    · subst ha
      by_cases hk : k = a
      · subst hk; simpa using ih
      · simpa [lookupEntry_cons, hk, Ne.symm hk] using ih
    · by_cases hk : a = k
      · subst hk; simp [ha, lookupEntry_cons]
      · simpa [ha, hk, lookupEntry_cons] using ih

/-- Parameters that hold the same texts are the same. -/
theorem eq_of_lookup_eq {p q : Params} (h : ∀ key, p.lookup key = q.lookup key) : p = q := by
  obtain ⟨l, hl⟩ := p
  obtain ⟨m, hm⟩ := q
  suffices l = m by subst this; rfl
  simp only [lookup] at h
  induction l generalizing m with
  | nil =>
    cases m with
    | nil => rfl
    | cons e m => simpa [lookupEntry] using h e.1
  | cons e l ih =>
    obtain ⟨a, x⟩ := e
    cases m with
    | nil => simpa [lookupEntry] using h a
    | cons e m =>
      obtain ⟨b, y⟩ := e
      obtain ⟨hal, hl'⟩ := List.pairwise_cons.1 hl
      obtain ⟨hbm, hm'⟩ := List.pairwise_cons.1 hm
      have hna : lookupEntry a l = none := lookupEntry_eq_none hal
      have hnb : lookupEntry b m = none := lookupEntry_eq_none hbm
      have hab : a = b := by
        apply Classical.byContradiction
        intro hne
        by_cases hlt : a < b
        · have := h a
          rw [lookupEntry_cons, lookupEntry_cons, if_pos rfl, if_neg (Ne.symm hne),
            lookupEntry_eq_none fun e he => String.lt_trans hlt (hbm e he)] at this
          cases this
        · have hgt : b < a := Std.lt_of_le_of_ne (Std.not_lt.1 hlt) (Ne.symm hne)
          have := h b
          rw [lookupEntry_cons, lookupEntry_cons, if_pos rfl, if_neg hne,
            lookupEntry_eq_none fun e he => String.lt_trans hgt (hal e he)] at this
          cases this
      subst hab
      have hxy : x = y := by simpa [lookupEntry_cons] using h a
      subst hxy
      rw [ih hl' m hm' fun key => ?_]
      by_cases hk : a = key
      · subst hk; rw [hna, hnb]
      · simpa [lookupEntry_cons, hk] using h key

/-! ### Typed access -/

variable {α : Type} [ParamValue α]

/-- The member that the text with the given name stands for. -/
def get? (p : Params) (key : String) : Option α := (p.lookup key).bind ParamValue.read?

/-- The member that the text with the given name stands for; without one the location is
malformed. -/
def require (p : Params) (key : String) : Except Error α :=
  match p.lookup key with
  | none => .error ⟨.malformedUrl, "missing `" ++ key ++ "`"⟩
  | some raw =>
    match ParamValue.read? raw with
    | some a => .ok a
    | none => .error ⟨.malformedUrl, "`" ++ key ++ "` has unexpected value `" ++ raw ++ "`"⟩

/-- The parameters with one member set, or with its name removed. -/
def set (p : Params) (key : String) (value : Option α) : Params :=
  match value with
  | some a => p.insert key (ParamValue.write a)
  | none => p.erase key

/-! ### Queries -/

/-- The error of a query string that holds no parameters. -/
def queryError (f : Query.Fault) : Error :=
  Error.addContext ⟨.malformedUrl, f.message⟩ "parse query string"

/-- The parameters of a query string, which may have its question mark before it. -/
def ofQuery (query : List Char) : Except Error Params :=
  let query := match query with
    | '?' :: rest => rest
    | query => query
  match Query.parse query with
  | .ok entries => .ok (ofList entries)
  | .error f => .error (queryError f)

end Params

end JudgeClient
