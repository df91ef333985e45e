import JudgeClient.Proofs.Query.Percent
import JudgeClient.Query.Writer

/-!
# Query strings and their pairs

No component has the sign that stands between two pairs, so what is written for an object are texts
without that sign, and none of them is empty.  Hence an object with a pair has a query string, and a
question mark stands before it.

* `isPair_of_mem_entryPairs` : what is written for an object are pairs;
* `toList_withQuery_object` : an object without pairs leaves the path alone, and every other one is
  written behind a question mark.
-/

namespace JudgeClient.Query

/-! ### Pairs -/

/-- The text can stand between two `&` signs: it has none, and there is something of it. -/
def IsPair (p : List Char) : Prop := p ≠ [] ∧ '&' ∉ p

theorem isPair_writePair {key : List Char} (h : '&' ∉ key) (text : String) :
    IsPair (writePair key text) := by
  refine ⟨by simp [writePair], ?_⟩
  simp [writePair, h, amp_not_mem_writeComponent]

theorem amp_not_mem_memberKey {outer : Option (List Char)} {component : List Char}
    (ho : ∀ key ∈ outer, '&' ∉ key) (hc : '&' ∉ component) : '&' ∉ memberKey outer component := by
  cases outer with
  | none => exact hc
  | some key => simp [memberKey, ho key rfl, hc]

theorem amp_not_mem_toString_nat (n : Nat) : '&' ∉ (toString n).toList := fun h => by
  have hd : ('&' : Char).isDigit = true :=
    Nat.isDigit_of_mem_toDigits (b := 10) (n := n) (by decide) (by decide) (by simpa using h)
  cases hd

mutual

theorem isPair_of_mem_pairs {key : List Char} (hk : '&' ∉ key) :
    ∀ (v : Json), ∀ p ∈ pairs key v, IsPair p
  | .array items => by
    rw [pairs]
    exact isPair_of_mem_itemPairs (by simpa using hk) 0 items
  | .object entries => by
    rw [pairs]
    exact isPair_of_mem_entryPairs (by simpa using hk) entries
  | .null | .bool _ | .int _ | .float _ | .text _ => by
    intro p hp
    rw [pairs, List.mem_singleton] at hp
    exact hp ▸ isPair_writePair hk _

theorem isPair_of_mem_itemPairs {outer : Option (List Char)} (ho : ∀ key ∈ outer, '&' ∉ key)
    (index : Nat) : ∀ (items : List Json), ∀ p ∈ itemPairs outer index items, IsPair p
  | [] => by simp [itemPairs]
  | v :: rest => by
    intro p hp
    rw [itemPairs, List.mem_append] at hp
    rcases hp with hp | hp
    · exact isPair_of_mem_pairs (amp_not_mem_memberKey ho (amp_not_mem_toString_nat index)) v p hp
    · exact isPair_of_mem_itemPairs ho (index + 1) rest p hp

theorem isPair_of_mem_entryPairs {outer : Option (List Char)} (ho : ∀ key ∈ outer, '&' ∉ key) :
    ∀ (entries : List (String × Json)), ∀ p ∈ entryPairs outer entries, IsPair p
  | [] => by simp [entryPairs]
  | (key, v) :: rest => by
    intro p hp
    rw [entryPairs, List.mem_append] at hp
    rcases hp with hp | hp
    · exact isPair_of_mem_pairs
        (amp_not_mem_memberKey ho (amp_not_mem_writeComponent key.toList)) v p hp
    · exact isPair_of_mem_entryPairs ho rest p hp

end

theorem entryPairs_append (outer : Option (List Char)) (entries rest : List (String × Json)) :
    entryPairs outer (entries ++ rest) = entryPairs outer entries ++ entryPairs outer rest := by
  induction entries with
  | nil => simp [entryPairs]
  | cons e entries ih =>
    rw [List.cons_append, entryPairs, entryPairs, ih, List.append_assoc]

/-! ### Whole query strings -/

theorem eq_nil_of_intercalate_eq_nil {ps : List (List Char)} (h : ∀ p ∈ ps, IsPair p)
    (hn : ['&'].intercalate ps = []) : ps = [] := by
  cases ps with
  | nil => rfl
  | cons p ps =>
    have hp : p = [] := by
      cases ps with
      | nil => simpa using hn
      | cons q ps => simp [List.intercalate] at hn
    exact absurd hp (h p List.mem_cons_self).1

theorem toList_withQuery_object (path : String) (entries : List (String × Json)) :
    (withQuery path (.object entries)).toList = path.toList ++
      if entryPairs none entries = [] then []
      else '?' :: ['&'].intercalate (entryPairs none entries) := by
  have hp : ∀ p ∈ entryPairs none entries, IsPair p := isPair_of_mem_entryPairs (by simp) entries
  simp only [withQuery, write?]
  cases hq : ['&'].intercalate (entryPairs none entries) with
  | nil => simp [eq_nil_of_intercalate_eq_nil hp hq]
  | cons c q =>
    have hne : entryPairs none entries ≠ [] := by
      intro hn
      simp [hn] at hq
    simp [hne]

end JudgeClient.Query
