import JudgeClient.Proofs.Text.Blank
import JudgeClient.Proofs.Toml.Rest
import JudgeClient.Proofs.Toml.Value
import Mathlib.Data.List.DropRight

/-!
# Documents of assignments

Most configurations have no tables: each line assigns a value to a key, or holds nothing but a
comment.  Keys may be quoted, values may be of any kind, spaces may stand anywhere between them, and
the assignments may come in any order.

* `Grammar.Assigns` : the lines of such a document, and what they assign;
* `Grammar.IsDocument` : no key is assigned twice, and a byte order mark may stand before the lines;
* `parse_of_isDocument` : the document is read as the assignments, in their order.
-/

namespace JudgeClient.Toml

namespace Grammar

/-- A key of one part. -/
inductive Key : List Char → String → List Char → Prop
  | bare {name t : List Char} (hne : name ≠ []) (hname : ∀ c ∈ name, isBareChar c = true)
      (ht : ∀ c ∈ t.head?, isBareChar c = false) : Key (name ++ t) (String.ofList name) t
  | basic {s v t : List Char} (h : Basic s v t) : Key ('"' :: s) (String.ofList v) t
  | literal {s v t : List Char} (h : Literal s v t) : Key ('\'' :: s) (String.ofList v) t

/-- The rest of a document without tables, and what it assigns. -/
inductive Assigns : List Char → Entries → Prop
  | done {s : List Char} (hs : skipSpaces s = []) : Assigns s []
  | blank {s t : List Char} {es : Entries} (hs : skipSpaces s ≠ []) (ht : endLine? s = some t)
      (h : Assigns t es) : Assigns s es
  | entry {s t u v w : List Char} {key : String} {node : Node} {es : Entries}
      (hkey : Key (skipSpaces s) key t) (ht : skipSpaces t = '=' :: u)
      (hnode : Value (skipSpaces u) node v) (hv : endLine? v = some w)
      (h : Assigns w es) : Assigns s ((key, node) :: es)

/-- The text is a document that assigns values to distinct keys. -/
structure IsDocument (text : String) (es : Entries) : Prop where
  lines : ∃ s, Assigns s es ∧ (text = String.ofList s ∨ text = String.ofList ('\uFEFF' :: s))
  distinct : (es.map (·.1)).Nodup

end Grammar

/-! ### Keys -/

/-- A key starts with a quote or a character of a bare key. -/
theorem Grammar.Key.exists_cons {s t : List Char} {key : String} (h : Grammar.Key s key t) :
    ∃ c rest, s = c :: rest ∧ (c = '"' ∨ c = '\'' ∨ isBareChar c = true) := by
  cases h with
  | @bare name t hne hname =>
    cases name with
    | nil => exact absurd rfl hne
    | cons c name => exact ⟨c, name ++ t, rfl, .inr (.inr (hname c List.mem_cons_self))⟩
  | basic => exact ⟨_, _, rfl, .inl rfl⟩
  | literal => exact ⟨_, _, rfl, .inr (.inl rfl)⟩

theorem readKeyPart?_of_key {s t : List Char} {key : String} (h : Grammar.Key s key t) :
    readKeyPart? s = some (key, t) := by
  cases h with
  | @bare name t hne hname ht =>
    have htake : (name ++ t).takeWhile isBareChar = name := Text.takeWhile_append_of_head hname ht
    have hdrop : (name ++ t).dropWhile isBareChar = t := Text.dropWhile_append_of_head hname ht
    obtain ⟨c, rest, rfl⟩ := List.exists_cons_of_ne_nil hne
    have hc := hname c List.mem_cons_self
    unfold readKeyPart?
    split
    · next heq =>
      cases heq
      cases hc
    · next heq =>
      cases heq
      cases hc
    · rw [htake, hdrop]
      rfl
  | basic h => simp [readKeyPart?, Grammar.readBasic_of_basic h]
  | literal h => simp [readKeyPart?, Grammar.readLiteral_of_literal h]

theorem key?_of_key {s t u : List Char} {key : String} (h : Grammar.Key (skipSpaces s) key t)
    (ht : skipSpaces t = '=' :: u) : key? s = some ([], key, '=' :: u) := by
  rw [key?, maxDepth, readKey?, readKeyPart?_of_key h]
  simp [ht]

/-! ### Assignments -/

theorem put_of_not_mem {key : String} {node : Node} {entries : Entries}
    (h : key ∉ entries.map (·.1)) : Entries.put key node entries = entries ++ [(key, node)] := by
  induction entries with
  | nil => rfl
  | cons e entries ih =>
    obtain ⟨hne, hrest⟩ := List.ne_and_not_mem_of_not_mem_cons h
    rw [Entries.put, if_neg (Ne.symm hne), ih hrest]
    rfl

/-- A new key of the root is added behind the others. -/
theorem setIn_root {key : String} {node : Node} {root : Entries} (h : key ∉ root.map (·.1)) :
    root.setIn [] [] key node = some (root ++ [(key, node)]) := by
  have hnone : Entries.get? key root = none := by
    simp only [Entries.get?, Option.map_eq_none_iff, List.find?_eq_none, beq_iff_eq]
    exact fun e he heq => h (List.mem_map.2 ⟨e, he, heq⟩)
  rw [Entries.setIn, Entries.updateAt, Entries.setDotted, hnone, ← put_of_not_mem h]

/-! ### Lines -/

theorem skipSpaces_skipSpaces (s : List Char) : skipSpaces (skipSpaces s) = skipSpaces s :=
  List.dropWhile_idempotent _ _

section Line

variable {fuel : Nat} {table : List String} {root : Entries} {s : List Char}

theorem endLine?_skipSpaces (s : List Char) : endLine? (skipSpaces s) = endLine? s := by
  rw [endLine?, endLine?, skipSpaces_skipSpaces]

/-- What stands before the end of a line is a comment, or nothing. -/
theorem blank_of_endLine? {c : Char} {rest t : List Char} (hs : skipSpaces s = c :: rest)
    (ht : endLine? s = some t) : c = '#' ∨ (lineEnd? (c :: rest)).isSome = true := by
  by_cases hc : c = '#'
  · exact .inl hc
  · obtain ⟨u, hu, h⟩ := Option.bind_eq_some_iff.1 ht
    have hskip : skipComment? (c :: rest) = some (c :: rest) := by
      rw [skipComment?]
      rintro _ ⟨⟩
      exact hc rfl
    rw [hs, hskip] at hu
    cases hu
    exact .inr (Option.isSome_iff_exists.2 ⟨t, h⟩)

/-- A line that is no header holds nothing, or an assignment. -/
theorem readLines?_of_ne_bracket {c : Char} {rest : List Char} (hs : skipSpaces s = c :: rest)
    (hc : c ≠ '[') : readLines? (fuel + 1) table root s =
      if c = '#' ∨ (lineEnd? (c :: rest)).isSome then
        (endLine? (c :: rest)).bind (readLines? fuel table root)
      else (do
        let (path, key, rest) ← key? (c :: rest)
        let rest ← mark? '=' rest
        let (v, rest) ← readValue? maxDepth (skipSpaces rest)
        readLines? fuel table (← root.setIn table path key v) (← endLine? rest)) := by
  rw [readLines?, hs]
  split
  · next heq => cases heq
  · next heq =>
    cases heq
    exact absurd rfl hc
  · next heq =>
    cases heq
    exact absurd rfl hc
  · next heq =>
    cases heq
    rfl

theorem readLines?_blank {t : List Char} (hs : skipSpaces s ≠ []) (ht : endLine? s = some t) :
    readLines? (fuel + 1) table root s = readLines? fuel table root t := by
  obtain ⟨c, rest, hc⟩ := List.exists_cons_of_ne_nil hs
  have hblank := blank_of_endLine? hc ht
  have hend : endLine? (c :: rest) = some t := by rw [← hc, endLine?_skipSpaces, ht]
  have hbracket : c ≠ '[' := by
    rintro rfl
    rcases hblank with h | h <;> cases h
  rw [readLines?_of_ne_bracket hc hbracket, if_pos hblank, hend, Option.bind_some]

theorem readLines?_entry {t u v w : List Char} {key : String} {node : Node}
    (hkey : Grammar.Key (skipSpaces s) key t) (ht : skipSpaces t = '=' :: u)
    (hnode : Grammar.Value (skipSpaces u) node v) (hv : endLine? v = some w)
    (hfresh : key ∉ root.map (·.1)) :
    readLines? (fuel + 1) [] root s = readLines? fuel [] (root ++ [(key, node)]) w := by
  obtain ⟨c, rest, hc, hfirst⟩ := hkey.exists_cons
  have hne : c ≠ '[' ∧ c ≠ '#' ∧ c ≠ '\n' ∧ c ≠ '\r' := by
    refine ⟨?_, ?_, ?_, ?_⟩ <;> rintro rfl <;> rcases hfirst with h | h | h <;> cases h
  obtain ⟨hbracket, hsharp, hn, hr⟩ := hne
  have hline : lineEnd? (c :: rest) = none := Grammar.lineEnd?_cons hn hr rest
  have hread : key? (c :: rest) = some ([], key, '=' :: u) := by
    refine key?_of_key ?_ ht
    rwa [← hc, skipSpaces_skipSpaces]
  have hplain : ¬(c = '#' ∨ (lineEnd? (c :: rest)).isSome = true) := by simp [hsharp, hline]
  have hmark : mark? '=' ('=' :: u) = some u := rfl
  rw [readLines?_of_ne_bracket hc hbracket, if_neg hplain]
  simp only [hread, Option.bind_eq_bind, Option.bind_some, hmark, readValue?_of_value hnode, hv,
    setIn_root hfresh]

end Line

/-- A line leaves less than it is given, so there is fuel for all of them. -/
theorem length_lt_of_endLine? {s t : List Char} (hs : skipSpaces s ≠ [])
    (ht : endLine? s = some t) : t.length < s.length := by
  have hpos : 0 < (skipSpaces s).length := List.length_pos_iff.2 hs
  have hle : (skipSpaces s).length ≤ s.length := (skipSpaces_suffix s).length_le
  obtain ⟨u, hu, h⟩ := Option.bind_eq_some_iff.1 ht
  have hle' : u.length ≤ (skipSpaces s).length := (suffix_of_skipComment? hu).length_le
  split at h
  · cases h
    simp only [List.length_nil]
    omega
  · have hlt := Grammar.length_lt_of_lineEnd? h
    omega

theorem length_lt_of_entry {s t u v w : List Char} {key : String} {node : Node}
    (hkey : Grammar.Key (skipSpaces s) key t) (ht : skipSpaces t = '=' :: u)
    (hnode : Grammar.Value (skipSpaces u) node v) (hv : endLine? v = some w) :
    w.length < s.length := by
  have hw : w <:+ u := (suffix_of_endLine? hv).trans
    ((leavesRest_value _ _ _ _ (readValue?_of_value hnode)).trans (skipSpaces_suffix u))
  have hu : '=' :: u <:+ s := ht ▸ (skipSpaces_suffix t).trans
    ((leavesRest_keyPart _ _ _ (readKeyPart?_of_key hkey)).trans (skipSpaces_suffix s))
  exact Nat.lt_of_le_of_lt hw.length_le hu.length_le

theorem readLines?_of_assigns {s : List Char} {es : Entries} (h : Grammar.Assigns s es) :
    ∀ (root : Entries) (fuel : Nat), ((root ++ es).map (·.1)).Nodup → s.length < fuel →
      readLines? fuel [] root s = some (root ++ es) := by
  induction h with
  | done hs =>
    intro root fuel _ hfuel
    obtain ⟨fuel, rfl⟩ := Nat.exists_eq_succ_of_ne_zero (Nat.ne_zero_of_lt hfuel)
    rw [readLines?, hs, List.append_nil]
  | blank hs ht _ ih =>
    intro root fuel hdistinct hfuel
    obtain ⟨fuel, rfl⟩ := Nat.exists_eq_succ_of_ne_zero (Nat.ne_zero_of_lt hfuel)
    have hlt := length_lt_of_endLine? hs ht
    rw [readLines?_blank hs ht]
    exact ih root fuel hdistinct (by omega)
  | @entry s t u v w key node es hkey ht hnode hv _ ih =>
    intro root fuel hdistinct hfuel
    obtain ⟨fuel, rfl⟩ := Nat.exists_eq_succ_of_ne_zero (Nat.ne_zero_of_lt hfuel)
    have hlt := length_lt_of_entry hkey ht hnode hv
    -- what is read already and what is left to read are the same entries as before
    have hfresh : key ∉ root.map (·.1) := by
      intro hmem
      rw [List.map_append] at hdistinct
      exact (List.nodup_append.1 hdistinct).2.2 key hmem key List.mem_cons_self rfl
    rw [readLines?_entry hkey ht hnode hv hfresh, List.append_cons root _ es]
    exact ih (root ++ [(key, node)]) fuel (List.append_cons .. ▸ hdistinct) (by omega)

/-! ### Documents -/

/-- A byte order mark starts no line. -/
theorem Grammar.Assigns.ne_mark {s : List Char} {es : Entries} (h : Grammar.Assigns s es) :
    ∀ rest, s ≠ '\uFEFF' :: rest := by
  rintro rest rfl
  have hmark : skipSpaces ('\uFEFF' :: rest) = '\uFEFF' :: rest := rfl
  cases h with
  | done hs => cases hmark.symm.trans hs
  | blank _ ht => rcases blank_of_endLine? hmark ht with h | h <;> cases h
  | entry hkey =>
    obtain ⟨c, _, hc, hfirst⟩ := hkey.exists_cons
    cases hmark.symm.trans hc
    rcases hfirst with h | h | h <;> cases h

/-- **Documents of assignments.**  A document that assigns values to distinct keys is read as its
assignments, with or without a byte order mark. -/
theorem parse_of_isDocument {text : String} {es : Entries} (h : Grammar.IsDocument text es) :
    parse text = some es := by
  obtain ⟨s, hs, htext⟩ := h.lines
  have hread : readLines? (s.length + 1) [] [] s = some es :=
    readLines?_of_assigns hs [] (s.length + 1) h.distinct (Nat.lt_succ_self _)
  rcases htext with rfl | rfl
  · rw [parse, String.toList_ofList]
    split
    · -- a mark that belongs to the lines themselves
      next rest => exact absurd rfl (hs.ne_mark rest)
    · exact hread
  · rw [parse, String.toList_ofList]
    exact hread

end JudgeClient.Toml
