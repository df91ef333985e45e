import JudgeClient.Proofs.Toml.Text
import JudgeClient.Toml.Reader

/-!
# What readers of TOML leave

Every reader takes something from the front of a text and leaves the rest of it.  A document is
therefore read to its end: each line leaves less than it was given.

* `LeavesRest` : a reader leaves a rest of its text;
* `leavesRest_value` : the reader of values does, however deep they are nested.
-/

namespace JudgeClient.Toml

/-! ### Strings -/

namespace Grammar

theorem Escape.suffix {s u : List Char} {x : Char} (h : Escape s x u) : u <:+ s := by
  cases h with
  | letter => exact List.suffix_cons ..
  | short => exact (List.suffix_append ..).trans (List.suffix_cons ..)
  | long => exact (List.suffix_append ..).trans (List.suffix_cons ..)

theorem Basic.suffix {s v t : List Char} (h : Basic s v t) : t <:+ s := by
  induction h with
  | close => exact List.suffix_cons ..
  | plain _ _ _ _ ih => exact ih.trans (List.suffix_cons ..)
  | escape hx _ ih => exact ih.trans (hx.suffix.trans (List.suffix_cons ..))

theorem Literal.suffix {s v t : List Char} (h : Literal s v t) : t <:+ s := by
  induction h with
  | close => exact List.suffix_cons ..
  | plain _ _ _ ih => exact ih.trans (List.suffix_cons ..)

theorem Close.suffix {quote : Char} {s v t : List Char} (h : Close quote s v t) : t <:+ s := by
  cases h with
  | zero => exact ⟨[quote, quote, quote], rfl⟩
  | one => exact ⟨[quote, quote, quote, quote], rfl⟩
  | two => exact ⟨[quote, quote, quote, quote, quote], rfl⟩

end Grammar

theorem suffix_of_lineEnd? {s t : List Char} (h : lineEnd? s = some t) : t <:+ s := by
  rcases Grammar.eq_of_lineEnd? h with rfl | rfl
  · exact List.suffix_cons ..
  · exact ⟨['\r', '\n'], rfl⟩

theorem dropLineEnd_suffix (s : List Char) : dropLineEnd s <:+ s := by
  unfold dropLineEnd
  cases h : lineEnd? s with
  | none => exact List.suffix_refl s
  | some t => exact suffix_of_lineEnd? h

namespace Grammar

theorem Gap.suffix {s t : List Char} (h : Gap s t) : t <:+ s := by
  induction h with
  | stop => exact List.suffix_refl _
  | space _ _ ih => exact ih.trans (List.suffix_cons ..)
  | line hs _ ih => exact ih.trans (suffix_of_lineEnd? hs)

theorem LongBasic.suffix {s v t : List Char} (h : LongBasic s v t) : t <:+ s := by
  induction h with
  | close h => exact h.suffix
  | quote _ _ ih => exact ih.trans (List.suffix_cons ..)
  | plain _ _ _ _ ih => exact ih.trans (List.suffix_cons ..)
  | line hs _ ih => exact ih.trans (suffix_of_lineEnd? hs)
  | escape hx _ ih => exact ih.trans (hx.suffix.trans (List.suffix_cons ..))
  | continued _ hu _ ih => exact ih.trans (hu.suffix.trans (List.suffix_cons ..))

theorem LongLiteral.suffix {s v t : List Char} (h : LongLiteral s v t) : t <:+ s := by
  induction h with
  | close h => exact h.suffix
  | quote _ _ ih => exact ih.trans (List.suffix_cons ..)
  | plain _ _ _ ih => exact ih.trans (List.suffix_cons ..)
  | line hs _ ih => exact ih.trans (suffix_of_lineEnd? hs)

theorem Text.suffix {s v t : List Char} (h : Text s v t) : t <:+ s := by
  cases h with
  | basic _ h => exact h.suffix.trans (List.suffix_cons ..)
  | @longBasic s v t h =>
    exact (h.suffix.trans (dropLineEnd_suffix s)).trans ⟨['"', '"', '"'], rfl⟩
  | literal _ h => exact h.suffix.trans (List.suffix_cons ..)
  | @longLiteral s v t h =>
    exact (h.suffix.trans (dropLineEnd_suffix s)).trans ⟨['\'', '\'', '\''], rfl⟩

end Grammar

/-! ### Blanks and comments -/

theorem skipSpaces_suffix (s : List Char) : skipSpaces s <:+ s := List.dropWhile_suffix _

theorem suffix_of_skipComment? {s t : List Char} (h : skipComment? s = some t) : t <:+ s := by
  unfold skipComment? at h
  split at h
  · dsimp only at h
    split at h
    · cases h
      exact (List.dropWhile_suffix _).trans (List.suffix_cons ..)
    · cases h
  · cases h
    exact List.suffix_refl _

theorem suffix_of_endLine? {s t : List Char} (h : endLine? s = some t) : t <:+ s := by
  obtain ⟨u, hu, h⟩ := Option.bind_eq_some_iff.1 h
  have hrest : u <:+ s := (suffix_of_skipComment? hu).trans (skipSpaces_suffix s)
  split at h
  · cases h
    exact List.nil_suffix
  · exact (suffix_of_lineEnd? h).trans hrest

theorem suffix_of_skipLines? {fuel : Nat} {s t : List Char} (h : skipLines? fuel s = some t) :
    t <:+ s := by
  induction fuel generalizing s with
  | zero => cases h
  | succ fuel ih =>
    obtain ⟨u, hu, h⟩ := Option.bind_eq_some_iff.1 h
    have hrest : u <:+ s := (suffix_of_skipComment? hu).trans (skipSpaces_suffix s)
    split at h
    · next v hv => exact (ih h).trans ((suffix_of_lineEnd? hv).trans hrest)
    · cases h
      exact hrest

theorem suffix_of_mark? {c : Char} {s t : List Char} (h : mark? c s = some t) : t <:+ s := by
  cases s with
  | nil => cases h
  | cons d rest =>
    rw [mark?] at h
    split at h
    · cases h
      exact List.suffix_cons ..
    · cases h

/-! ### Keys and values -/

/-- What the reader leaves is a rest of what it is given. -/
def LeavesRest {α : Type} (read : List Char → Option (α × List Char)) : Prop :=
  ∀ s a t, read s = some (a, t) → t <:+ s

theorem LeavesRest.map {α β : Type} {read : List Char → Option (α × List Char)}
    (hread : LeavesRest read) {f : α → β} {s t : List Char} {b : β}
    (h : ((read s).map fun r => (f r.1, r.2)) = some (b, t)) : t <:+ s := by
  obtain ⟨⟨a, u⟩, ha, heq⟩ := Option.map_eq_some_iff.1 h
  cases heq
  exact hread s a u ha

theorem leavesRest_basic : LeavesRest readBasic := fun _ _ _ h =>
  (Grammar.basic_of_readBasic h).suffix

theorem leavesRest_literal : LeavesRest readLiteral := fun _ _ _ h =>
  (Grammar.literal_of_readLiteral h).suffix

theorem leavesRest_text : LeavesRest readText? := fun _ _ _ h => (Grammar.text_iff.1 h).suffix

theorem leavesRest_quoted :
    LeavesRest fun s => (readText? s).map fun r => (Node.text (String.ofList r.1), r.2) :=
  fun _ _ _ h => leavesRest_text.map (f := fun v => Node.text (String.ofList v)) h

theorem leavesRest_keyPart : LeavesRest readKeyPart? := by
  intro s a t h
  unfold readKeyPart? at h
  split at h
  · exact (leavesRest_basic.map h).trans (List.suffix_cons ..)
  · exact (leavesRest_literal.map h).trans (List.suffix_cons ..)
  · dsimp only at h
    split at h
    · cases h
    · cases h
      exact List.dropWhile_suffix _

theorem suffix_of_readKey? {fuel : Nat} {s t : List Char} {path : List String} {key : String}
    (h : readKey? fuel s = some (path, key, t)) : t <:+ s := by
  induction fuel generalizing s path with
  | zero => cases h
  | succ fuel ih =>
    obtain ⟨⟨part, u⟩, hpart, h⟩ := Option.bind_eq_some_iff.1 h
    have hrest : skipSpaces u <:+ s := (skipSpaces_suffix u).trans
      ((leavesRest_keyPart _ _ _ hpart).trans (skipSpaces_suffix s))
    dsimp only at h
    split at h
    · next v hv =>
      obtain ⟨⟨path, key, w⟩, hkey, heq⟩ := Option.bind_eq_some_iff.1 h
      cases heq
      exact (ih hkey).trans ((List.suffix_cons ..).trans (hv ▸ hrest))
    · cases h
      exact hrest

theorem leavesRest_word : LeavesRest readWord? := by
  intro s a t h
  unfold readWord? at h
  extract_lets word rest more at h
  split at h
  · split at h
    · cases h
      exact (List.drop_suffix ..).trans (List.dropWhile_suffix _)
    · cases h
  · obtain ⟨node, -, h⟩ := Option.bind_eq_some_iff.1 h
    simp only [Option.some.injEq, Prod.mk.injEq] at h
    exact h.2 ▸ List.dropWhile_suffix _

section Nested

variable {readValue : List Char → Option (Node × List Char)}

theorem leavesRest_items (hvalue : LeavesRest readValue) (fuel : Nat) :
    LeavesRest (readItems? readValue fuel) := by
  induction fuel with
  | zero => exact nofun
  | succ fuel ih =>
    intro s items t h
    obtain ⟨u, hu, h⟩ := Option.bind_eq_some_iff.1 h
    refine List.IsSuffix.trans ?_ (suffix_of_skipLines? hu)
    split at h
    · cases h
      exact List.suffix_cons ..
    · obtain ⟨⟨v, w⟩, hw, h⟩ := Option.bind_eq_some_iff.1 h
      obtain ⟨x, hx, h⟩ := Option.bind_eq_some_iff.1 h
      refine List.IsSuffix.trans ?_ ((suffix_of_skipLines? hx).trans (hvalue _ _ _ hw))
      split at h
      · cases h
        exact List.suffix_cons ..
      · obtain ⟨⟨vs, y⟩, hy, h⟩ := Option.bind_eq_some_iff.1 h
        cases h
        exact (ih _ _ _ hy).trans (List.suffix_cons ..)
      · cases h

theorem leavesRest_inline (hvalue : LeavesRest readValue) (fuel : Nat) (entries : Entries) :
    LeavesRest (readInline? readValue fuel entries) := by
  induction fuel generalizing entries with
  | zero => exact nofun
  | succ fuel ih =>
    intro s es t h
    obtain ⟨⟨path, key, u⟩, hu, h⟩ := Option.bind_eq_some_iff.1 h
    obtain ⟨v, hv, h⟩ := Option.bind_eq_some_iff.1 h
    obtain ⟨⟨node, w⟩, hw, h⟩ := Option.bind_eq_some_iff.1 h
    obtain ⟨added, -, h⟩ := Option.bind_eq_some_iff.1 h
    have hrest : skipSpaces w <:+ s :=
      (skipSpaces_suffix w).trans <| (hvalue _ _ _ hw).trans <| (skipSpaces_suffix v).trans <|
        (suffix_of_mark? hv).trans (suffix_of_readKey? hu)
    split at h
    · next x hx =>
      cases h
      exact (List.suffix_cons ..).trans (hx ▸ hrest)
    · next x hx => exact (ih _ _ _ _ h).trans ((List.suffix_cons ..).trans (hx ▸ hrest))
    · cases h

end Nested

theorem leavesRest_value (depth : Nat) : LeavesRest (readValue? depth) := by
  induction depth with
  | zero =>
    intro s node t h
    unfold readValue? at h
    split at h
    · exact leavesRest_quoted _ _ _ h
    · exact leavesRest_quoted _ _ _ h
    · cases h
    · cases h
    · exact leavesRest_word _ _ _ h
  | succ depth ih =>
    intro s node t h
    unfold readValue? at h
    split at h
    · exact leavesRest_quoted _ _ _ h
    · exact leavesRest_quoted _ _ _ h
    · exact ((leavesRest_items ih _).map h).trans (List.suffix_cons ..)
    · next rest =>
      refine List.IsSuffix.trans ?_ ((skipSpaces_suffix rest).trans (List.suffix_cons ..))
      dsimp only at h
      split at h
      · next u hu =>
        cases h
        exact hu ▸ List.suffix_cons ..
      · exact (leavesRest_inline ih _ _).map h
    · exact leavesRest_word _ _ _ h

end JudgeClient.Toml
