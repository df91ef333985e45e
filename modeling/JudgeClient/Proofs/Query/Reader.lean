import JudgeClient.Proofs.Query.Writer
import JudgeClient.Route.Params

/-!
# Flat query strings and back

A query string is flat if its keys have no brackets.  The writer puts none of its own into the keys
of texts, and brackets that belong to a key are written as octets, so what it writes for named texts
is flat.  Reading it gives a tree of texts: each pair adds one text to the tree, provided that its
name is new and not empty.  A pair without a name would lend its equals sign to the key.

* `pairPath_writeEntry` : a written pair leads to one text below the root;
* `addPairs_writeEntry` : adding pairs to a tree is inserting texts into parameters;
* `parse_writeEntry` : named texts survive their query string.
-/

namespace JudgeClient.Query

/-- The pair of a named text. -/
def writeEntry (e : String × String) : List Char := writePair (writeComponent e.1.toList) e.2

theorem isPair_writeEntry (e : String × String) : IsPair (writeEntry e) :=
  isPair_writePair (amp_not_mem_writeComponent _) _

/-! ### Pairs -/

theorem readName_writeComponent (key : String) :
    readName (writeComponent key.toList) = .ok (.key key) := by
  rw [readName, readComponent_writeComponent]

theorem readValue_writeComponent (text : String) :
    readValue (writeComponent text.toList) = .ok text := by
  rw [readValue, readComponent_writeComponent]

theorem writeComponent_ne_nil {key : String} (h : key ≠ "") : writeComponent key.toList ≠ [] := by
  intro hn
  have hread := readComponent_writeComponent key
  rw [hn] at hread
  exact h (Except.ok.inj hread).symm

/-- No character of a component ends a key, and none opens a bracket. -/
theorem ne_of_mem_writeComponent {s : List Char} {c : Char} (h : c ∈ writeComponent s) :
    c ≠ '=' ∧ c ≠ '[' ∧ c ≠ '?' := by
  have hc := isWritten_of_mem_writeComponent h
  refine ⟨?_, ?_, ?_⟩ <;>
  · rintro rfl
    exact absurd hc (by decide)

theorem afterStep_value (deeper : List Char → Path) (key text : String) :
    afterStep deeper (.ok (.key key)) ('=' :: writeComponent text.toList) =
      .last (.key key) (.ok text) := by
  rw [afterStep, readValue_writeComponent]

/-- A written pair leads to its text, one step below the root. -/
theorem pairPath_writeEntry {e : String × String} (h : e.1 ≠ "") (isLast : Bool) (depth : Nat) :
    pairPath isLast depth (writeEntry e) = .last (.key e.1) (.ok e.2) := by
  obtain ⟨c, rest, hk⟩ := List.exists_cons_of_ne_nil (writeComponent_ne_nil h)
  have hmem : ∀ d ∈ c :: rest, d ≠ '=' ∧ d ≠ '[' ∧ d ≠ '?' := fun d hd =>
    ne_of_mem_writeComponent (hk ▸ hd)
  have hstops : ∀ d ∈ rest, (!(d == '=' || d == '[')) = true := fun d hd => by
    have hd := hmem d (List.mem_cons_of_mem c hd)
    simp [hd.1, hd.2.1]
  rw [writeEntry, writePair, hk, List.cons_append]
  unfold pairPath
  split
  · next heq =>
    exact absurd (List.cons.inj heq).1 (hmem c List.mem_cons_self).2.1
  · next heq => cases heq
  · next heq =>
    obtain ⟨rfl, rfl⟩ := List.cons.inj heq
    simp only [List.takeWhile_append_of_pos hstops, List.dropWhile_append_of_pos hstops]
    rw [List.takeWhile_cons_of_neg (by decide), List.dropWhile_cons_of_neg (by decide),
      List.append_nil, ← hk, readName_writeComponent, afterStep_value]

/-! ### Trees of texts -/

/-- The tree of parameters. -/
def textTree (p : Params) : Tree := .map (p.entries.map fun e => (e.1, .text e.2))

theorem below?_map_text (key : String) (l : List (String × String)) :
    Tree.below? key (l.map fun e => (e.1, Tree.text e.2)) =
      (Params.lookupEntry key l).map .text := by
  -- the text of an entry does not matter to the search for its key
  have hkey : ((·.1 == key) ∘ fun e : String × String => (e.1, Tree.text e.2)) = (·.1 == key) := rfl
  rw [Tree.below?, Params.lookupEntry, List.find?_map, hkey]
  cases l.find? (·.1 == key) <;> rfl

theorem put_map_text (key text : String) (l : List (String × String)) :
    Tree.put key (.text text) (l.map fun e => (e.1, Tree.text e.2)) =
      (Params.insertEntry key text l).map fun e => (e.1, .text e.2) := by
  induction l with
  | nil => rfl
  | cons e l ih =>
    rw [List.map_cons, Tree.put, Params.insertEntry]
    split
    · rfl
    · split
      · rfl
      · rw [ih]
        rfl

/-- A pair with a new name adds its text. -/
theorem add_textTree {p : Params} {key : String} (h : p.lookup key = none) (text : String) :
    (textTree p).add (.last (.key key) (.ok text)) = .ok (textTree (p.insert key text)) := by
  have hb := below?_map_text key p.entries
  rw [← Params.lookup, h] at hb
  simp only [Tree.add, textTree, Tree.putText, hb, put_map_text]
  rfl

theorem addPairs_cons {pair : List Char} (h : pair ≠ []) (depth : Nat) (t : Tree)
    (rest : List (List Char)) : addPairs depth t (pair :: rest) =
      t.add (pairPath rest.isEmpty depth pair) >>= fun t => addPairs (depth + 1) t rest := by
  rw [addPairs]
  exact h

/-- Adding pairs to a tree is inserting texts into parameters. -/
theorem addPairs_writeEntry {entries : List (String × String)}
    (hdistinct : (entries.map (·.1)).Nodup) (hne : ∀ e ∈ entries, e.1 ≠ "") {p : Params}
    (hnew : ∀ e ∈ entries, p.lookup e.1 = none) (depth : Nat) :
    addPairs depth (textTree p) (entries.map writeEntry) =
      .ok (textTree (entries.foldl (fun p e => p.insert e.1 e.2) p)) := by
  induction entries generalizing p depth with
  | nil => rfl
  | cons e entries ih =>
    obtain ⟨hfresh, hdistinct⟩ := List.nodup_cons.1 hdistinct
    have hnew' : ∀ e' ∈ entries, (p.insert e.1 e.2).lookup e'.1 = none := fun e' he' => by
      have hne' : e'.1 ≠ e.1 := fun heq => hfresh (List.mem_map.2 ⟨e', he', heq⟩)
      rw [Params.lookup_insert, if_neg hne']
      exact hnew e' (List.mem_cons_of_mem e he')
    rw [List.map_cons, addPairs_cons (isPair_writeEntry e).1,
      pairPath_writeEntry (hne e List.mem_cons_self), add_textTree (hnew e List.mem_cons_self)]
    exact ih hdistinct (fun e' he' => hne e' (List.mem_cons_of_mem e he')) hnew' (depth + 1)

theorem asTexts_textTree (p : Params) : (textTree p).asTexts = .ok p.entries := by
  rw [textTree, Tree.asTexts]
  induction p.entries with
  | nil => rfl
  | cons e l ih =>
    rw [List.map_cons, List.mapM_cons, ih]
    rfl

/-! ### Query strings -/

/-- **Named texts survive their query string**, in the order of their names. -/
theorem parse_writeEntry {entries : List (String × String)}
    (hdistinct : (entries.map (·.1)).Nodup) (hne : ∀ e ∈ entries, e.1 ≠ "") :
    parse (['&'].intercalate (entries.map writeEntry)) = .ok (Params.ofList entries).entries := by
  have hadd := addPairs_writeEntry hdistinct hne (p := .empty) (fun _ _ => rfl) firstDepth
  -- without a pair there is still one empty text between the signs, which is passed over
  have hsplit : addPairs firstDepth (textTree .empty)
      ((['&'].intercalate (entries.map writeEntry)).splitOn '&') =
        addPairs firstDepth (textTree .empty) (entries.map writeEntry) := by
    cases entries with
    | nil => rfl
    | cons e entries =>
      rw [List.splitOn_intercalate '&' ?_ (by simp)]
      intro p hp
      obtain ⟨e', -, rfl⟩ := List.mem_map.1 hp
      exact (isPair_writeEntry e').2
  rw [parse]
  change addPairs firstDepth (textTree .empty) _ >>= _ = _
  rw [hsplit, hadd]
  exact asTexts_textTree _

/-- The question mark that may stand before a query string is no part of a written one. -/
theorem intercalate_writeEntry_ne_cons {entries : List (String × String)}
    (hne : ∀ e ∈ entries, e.1 ≠ "") (rest : List Char) :
    ['&'].intercalate (entries.map writeEntry) ≠ '?' :: rest := by
  intro h
  cases entries with
  | nil => cases h
  | cons e entries =>
    obtain ⟨c, key, hk⟩ :=
      List.exists_cons_of_ne_nil (writeComponent_ne_nil (hne e List.mem_cons_self))
    have hc : c = '?' := by
      cases entries <;> simp [List.intercalate, writeEntry, writePair, hk] at h <;> exact h.1
    exact (ne_of_mem_writeComponent (hk ▸ List.mem_cons_self)).2.2 hc

end JudgeClient.Query
