import JudgeClient.Proofs.Json.Value
import Mathlib.Data.List.Forall2

/-!
# Lists read back

The items of a list are printed one after the other with a comma between them.  A reader of items
takes them one by one until the closing bracket, which no item starts with.

* `items_renderItems` : the items of a list, behind its opening bracket;
* `reads_list` : lists, once their items can be read.
-/

namespace JudgeClient.Json

theorem renderItems_cons (v : Json) (vs : List Json) :
    renderItems (v :: vs) = v.render ++ renderMoreItems vs := by
  rw [renderItems]

theorem renderMoreItems_cons (v : Json) (vs : List Json) :
    renderMoreItems (v :: vs) = ',' :: (v.render ++ renderMoreItems vs) := by
  rw [renderMoreItems]

theorem render_array_append (vs : List Json) (s : List Char) :
    Json.render (.array vs) ++ s = '[' :: (renderItems vs ++ ']' :: s) := by
  simp [render]

theorem length_le_renderMoreItems (vs : List Json) : vs.length ≤ (renderMoreItems vs).length := by
  induction vs with
  | nil => exact Nat.zero_le _
  | cons v vs ih =>
    rw [renderMoreItems_cons]
    simp only [List.length_cons, List.length_append]
    omega

theorem length_le_renderItems (vs : List Json) : vs.length ≤ (renderItems vs).length := by
  cases vs with
  | nil => exact Nat.zero_le _
  | cons v vs =>
    obtain ⟨c, s, hs, -⟩ := exists_cons_render v
    have hmore := length_le_renderMoreItems vs
    rw [renderItems_cons, hs]
    simp only [List.length_cons, List.length_append]
    omega

theorem ends_renderMoreItems (vs : List Json) (s : List Char) :
    Ends (renderMoreItems vs ++ ']' :: s) := by
  cases vs with
  | nil => exact ends_cons (.inr (.inl rfl)) s
  | cons v vs =>
    rw [renderMoreItems_cons]
    exact ends_cons (.inl rfl) _

/-- One item that stands at the front, after a comma or without one. -/
theorem items_of_member {read : Reader Json} {v w : Json} (h : Reads read v w) {s t : List Char}
    (ht : Ends t) {first : Bool} (hnext : nextItem first s = .ok (.member (v.render ++ t)))
    (fuel : Nat) :
    items read (fuel + 1) first s = (items read fuel false t).map fun r => (w :: r.1, r.2) := by
  rw [items, hnext]
  simp only [bind, Except.bind, h t ht]
  cases items read fuel false t <;> rfl

theorem nextItem_render (v : Json) (t : List Char) :
    nextItem true (v.render ++ t) = .ok (.member (v.render ++ t)) ∧
      nextItem false (',' :: (v.render ++ t)) = .ok (.member (v.render ++ t)) := by
  have hskip := skipGaps_render v t
  obtain ⟨c, s, hs, hlead⟩ := exists_cons_render v
  have hc : c ≠ ']' := hlead.opens.2
  rw [hs, List.cons_append] at hskip ⊢
  constructor
  · rw [nextItem, hskip]
    simp
  · rw [nextItem, skipGaps_cons (by decide)]
    simp [hskip, hc]

theorem nextItem_close (first : Bool) (s : List Char) :
    nextItem first (']' :: s) = .ok (.done s) := by
  rw [nextItem, skipGaps_cons (by decide)]
  rfl

/-- The closing bracket ends the items. -/
theorem items_of_end (read : Reader Json) (fuel : Nat) (first : Bool) (s : List Char) :
    items read (fuel + 1) first (']' :: s) = .ok ([], s) := by
  rw [items, nextItem_close]
  rfl

/-- Items that follow another one, up to the end of their list. -/
theorem items_renderMoreItems {read : Reader Json} {vs ws : List Json}
    (h : List.Forall₂ (Reads read) vs ws) {fuel : Nat} (hf : vs.length < fuel) (s : List Char) :
    items read fuel false (renderMoreItems vs ++ ']' :: s) = .ok (ws, s) := by
  induction h generalizing fuel with
  | nil =>
    obtain ⟨fuel, rfl⟩ := Nat.exists_eq_succ_of_ne_zero (Nat.ne_of_gt hf)
    exact items_of_end read fuel false s
  | @cons v w vs ws hv _ ih =>
    obtain ⟨fuel, rfl⟩ := Nat.exists_eq_succ_of_ne_zero (Nat.ne_of_gt (Nat.zero_lt_of_lt hf))
    rw [renderMoreItems_cons, List.cons_append, List.append_assoc,
      items_of_member hv (ends_renderMoreItems vs s) (nextItem_render v _).2,
      ih (Nat.lt_of_succ_lt_succ hf)]
    rfl

/-- All items of a list, behind its opening bracket. -/
theorem items_renderItems {read : Reader Json} {vs ws : List Json}
    (h : List.Forall₂ (Reads read) vs ws) {fuel : Nat} (hf : vs.length < fuel) (s : List Char) :
    items read fuel true (renderItems vs ++ ']' :: s) = .ok (ws, s) := by
  obtain ⟨fuel, rfl⟩ := Nat.exists_eq_succ_of_ne_zero (Nat.ne_of_gt (Nat.zero_lt_of_lt hf))
  cases h with
  | nil => exact items_of_end read fuel true s
  | @cons v w vs ws hv hvs =>
    rw [renderItems_cons, List.append_assoc,
      items_of_member hv (ends_renderMoreItems vs s) (nextItem_render v _).1,
      items_renderMoreItems hvs (Nat.lt_of_succ_lt_succ hf)]
    rfl

/-- A list is taken for the list of what its items are taken for. -/
theorem reads_list {item : Shape} {depth : Nat} {vs ws : List Json}
    (h : List.Forall₂ (Reads (item.read depth)) vs ws) :
    Reads ((Shape.list item).read (depth + 1)) (.array vs) (.array ws) := by
  intro s _
  have hfuel : vs.length < (renderItems vs ++ ']' :: s).length + 1 := by
    have := length_le_renderItems vs
    rw [List.length_append]
    omega
  have hitems := items_renderItems h hfuel s
  rw [render_array_append, Shape.read]
  dsimp only
  rw [skipGaps_cons (by decide)]
  simp only [Nat.add_one_ne_zero, if_false, Nat.add_sub_cancel, readItems, hitems]
  rfl

end JudgeClient.Json
