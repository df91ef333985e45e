import JudgeClient.Json.Reader
import JudgeClient.Proofs.Json.Grammar

/-!
# Readers take JSON only

Whatever a reader takes is a value of the grammar, be it the value that was asked for or one that
it passes over.  Inside a list or an object there is always a rest of it still to come, so the
loops over items and entries are related to that rest, and the walk over an ignored value to the
rests of all the brackets around its place.

* `Grammar.value_of_skipValue` : ignored values;
* `Grammar.sound_read` : readers of every shape;
* `Grammar.isText_of_parse` : whole texts.
-/

namespace JudgeClient.Json.Grammar

/-! ### Words and punctuation -/

theorem eq_append_of_word {w s t : List Char} (h : word w s = .ok t) : s = w ++ t := by
  induction w generalizing s with
  | nil =>
    cases h
    rfl
  | cons c w ih =>
    cases s with
    | nil => cases h
    | cons d s =>
      rw [word] at h
      split at h
      · next hc => rw [hc, ih h, List.cons_append]
      · cases h

theorem gaps_of_skipGaps {s t : List Char} (h : skipGaps s = t) : Gaps s t := h ▸ gaps_skipGaps s

theorem gaps_of_colon {s t : List Char} (h : colon s = .ok t) : Gaps s (':' :: t) := by
  unfold colon at h
  split at h
  · next hs =>
    cases h
    exact gaps_of_skipGaps hs
  · cases h
  · cases h

theorem gaps_of_closeList {s t : List Char} (h : closeList s = .ok t) : Gaps s (']' :: t) := by
  unfold closeList at h
  split at h
  · cases h
  · next hs =>
    cases h
    exact gaps_of_skipGaps hs
  · split at h <;> cases h
  · cases h

/-! ### What is left of a list or an object -/

/-- The members of a list or an object up to its end; there is at least one. -/
def Inside : Bracket → List Char → List Char → Prop
  | .list => Items
  | .object => Members

/-- What is left of a list or an object, behind its opening bracket or behind a member. -/
inductive Rest (b : Bracket) : Bool → List Char → List Char → Prop
  | done {opened : Bool} {s t : List Char} (h : Gaps s (b.close :: t)) : Rest b opened s t
  | first {s t : List Char} (h : Inside b s t) : Rest b true s t
  | more {s t u : List Char} (hs : Gaps s (',' :: t)) (h : Inside b t u) : Rest b false s u

theorem items_of_rest {s t u v : List Char} (hs : Gaps s t) (h : Value t u)
    (hrest : Rest .list false u v) : Items s v := by
  cases hrest with
  | done hu => exact .last hs h hu
  | more hu hmore => exact .more hs h hu hmore

theorem members_of_rest {s t u : List Char} (h : Member s t) (hrest : Rest .object false t u) :
    Members s u := by
  cases hrest with
  | done ht => exact .last h ht
  | more ht hmore => exact .more h ht hmore

theorem Rest.list {s t : List Char} (h : Rest .list true s t) : Value ('[' :: s) t := by
  cases h with
  | done h => exact .emptyList h
  | first h => exact .list h

theorem Rest.object {s t : List Char} (h : Rest .object true s t) : Value ('\x7b' :: s) t := by
  cases h with
  | done h => exact .emptyObject h
  | first h => exact .object h

/-! ### Values that nobody looks at -/

/-- What is left of all the brackets around a place, the innermost of which may have just been
opened. -/
def Closes (opened : Bool) : List Bracket → List Char → List Char → Prop
  | [], s, t => s = t
  | b :: outer, s, t => ∃ u, Rest b opened s u ∧ Closes false outer u t

/-- A value and what is left of all the brackets around it. -/
def Walks : Expect → List Bracket → List Char → List Char → Prop
  | .value, open_, s, t => ∃ u v, Gaps s u ∧ Value u v ∧ Closes false open_ v t
  | .member opened, open_, s, t => Closes opened open_ s t

theorem member_of_skipKey {s t u v : List Char} (h : skipKey s = .ok t) (ht : Gaps t u)
    (hu : Value u v) : Member s v := by
  unfold skipKey at h
  split at h
  · next hs =>
    obtain ⟨w, hkey, hcolon⟩ := exists_of_bind_eq_ok h
    exact .mk (gaps_of_skipGaps hs) (chars_of_skipText hkey) (gaps_of_colon hcolon) ht hu
  · cases h
  · cases h

/-- A member of a bracket starts where its value may start, and leaves the rest of the bracket. -/
theorem inside_of_startValue {b : Bracket} {s t u v w : List Char} (h : b.startValue s = .ok t)
    (ht : Gaps t u) (hu : Value u v) (hrest : Rest b false v w) : Inside b s w := by
  cases b with
  | list =>
    cases h
    exact items_of_rest ht hu hrest
  | object => exact members_of_rest (member_of_skipKey h ht hu) hrest

theorem Gaps.inside {b : Bracket} {s t u : List Char} (h : Gaps s t) (ht : Inside b t u) :
    Inside b s u := by
  cases b with
  | list =>
    cases ht with
    | last hs hv hu => exact .last (h.trans hs) hv hu
    | more hs hv hu hmore => exact .more (h.trans hs) hv hu hmore
  | object =>
    have hmember : ∀ {v}, Member t v → Member s v := fun hm => by
      cases hm with
      | mk hs hkey hu hv hvalue => exact .mk (h.trans hs) hkey hu hv hvalue
    cases ht with
    | last hm hu => exact .last (hmember hm) hu
    | more hm hu hmore => exact .more (hmember hm) hu hmore

theorem walks_of_skipFrom {fuel : Nat} {expect : Expect} {open_ : List Bracket}
    {s t : List Char} (h : skipFrom fuel expect open_ s = .ok t) : Walks expect open_ s t := by
  induction fuel generalizing expect open_ s with
  | zero => cases h
  | succ fuel ih =>
    cases expect with
    | value =>
      rw [skipFrom] at h
      split at h
      · cases h
      · next hs =>
        obtain ⟨rest, hword, hskip⟩ := exists_of_bind_eq_ok h
        rw [eq_append_of_word hword] at hs
        exact ⟨_, _, gaps_of_skipGaps hs, .null, ih hskip⟩
      · next hs =>
        obtain ⟨rest, hword, hskip⟩ := exists_of_bind_eq_ok h
        rw [eq_append_of_word hword] at hs
        exact ⟨_, _, gaps_of_skipGaps hs, .true, ih hskip⟩
      · next hs =>
        obtain ⟨rest, hword, hskip⟩ := exists_of_bind_eq_ok h
        rw [eq_append_of_word hword] at hs
        exact ⟨_, _, gaps_of_skipGaps hs, .false, ih hskip⟩
      · next hs =>
        obtain ⟨rest, htext, hskip⟩ := exists_of_bind_eq_ok h
        exact ⟨_, _, gaps_of_skipGaps hs, .text (chars_of_skipText htext), ih hskip⟩
      · next hs =>
        obtain ⟨u, hu, hout⟩ := ih h
        exact ⟨_, u, gaps_of_skipGaps hs, hu.list, hout⟩
      · next hs =>
        obtain ⟨u, hu, hout⟩ := ih h
        exact ⟨_, u, gaps_of_skipGaps hs, hu.object, hout⟩
      · next hs =>
        split at h
        · obtain ⟨rest, hnumber, hskip⟩ := exists_of_bind_eq_ok h
          exact ⟨_, _, gaps_of_skipGaps hs, .number (number_of_skipNumber hnumber), ih hskip⟩
        · cases h
    | member opened =>
      cases open_ with
      | nil =>
        cases h
        exact rfl
      | cons b outer =>
        rw [skipFrom] at h
        split at h
        · cases h
        · next c rest hs =>
          have hs := gaps_of_skipGaps hs
          split at h
          · next hc => exact ⟨rest, .done (hc ▸ hs), ih h⟩
          · split at h
            · next hopened =>
              obtain ⟨v, hstart, hskip⟩ := exists_of_bind_eq_ok h
              obtain ⟨u, v, hu, hv, w, hrest, hout⟩ := ih hskip
              subst hopened
              exact ⟨w, .first (hs.inside (inside_of_startValue hstart hu hv hrest)), hout⟩
            · next hopened =>
              split at h
              · next hc =>
                obtain ⟨v, hstart, hskip⟩ := exists_of_bind_eq_ok h
                obtain ⟨u, v, hu, hv, w, hrest, hout⟩ := ih hskip
                obtain rfl : opened = false := by simpa using hopened
                exact ⟨w, .more (hc ▸ hs) (inside_of_startValue hstart hu hv hrest), hout⟩
              · cases h

theorem value_of_skipValue {s t : List Char} (h : skipValue s = .ok t) :
    ∃ u, Gaps s u ∧ Value u t := by
  obtain ⟨u, v, hu, hv, rfl⟩ := walks_of_skipFrom h
  exact ⟨u, hu, hv⟩

/-! ### Single values -/

/-- The reader takes nothing but a value. -/
def Sound (read : Reader Json) : Prop :=
  ∀ {s : List Char} {r : Json × List Char}, read s = .ok r → ∃ t, Gaps s t ∧ Value t r.2

theorem sound_readInt (low high : Int) (wanted : String) : Sound (readInt low high wanted) := by
  intro s r h
  unfold readInt at h
  split at h
  · cases h
  · next hs =>
    split at h
    · obtain ⟨⟨n, rest⟩, hnumber, hr⟩ := exists_of_bind_eq_ok h
      have hvalue := Value.number (number_of_readNumber hnumber)
      cases n with
      | int i =>
        dsimp only at hr
        split at hr
        · cases hr
          exact ⟨_, gaps_of_skipGaps hs, hvalue⟩
        · cases hr
      | float x => cases hr
    · cases h

theorem sound_readFloat (wanted : String) : Sound (readFloat wanted) := by
  intro s r h
  unfold readFloat at h
  split at h
  · cases h
  · next hs =>
    split at h
    · obtain ⟨⟨n, rest⟩, hnumber, hr⟩ := exists_of_bind_eq_ok h
      have hvalue := Value.number (number_of_readNumber hnumber)
      cases n <;> cases hr <;> exact ⟨_, gaps_of_skipGaps hs, hvalue⟩
    · cases h

theorem sound_readString (wanted : String) : Sound (readString wanted) := by
  intro s r h
  unfold readString at h
  split at h
  · next hs =>
    obtain ⟨a, htext, rfl⟩ := exists_of_map_eq_ok h
    exact ⟨_, gaps_of_skipGaps hs, .text (chars_of_readText htext)⟩
  · cases h

theorem value_of_null {s t : List Char} (h : word "ull".toList s = .ok t) :
    Value ('n' :: s) t := by
  rw [eq_append_of_word h]
  exact .null

theorem sound_readUnit (wanted : String) : Sound (readUnit wanted) := by
  intro s r h
  unfold readUnit at h
  split at h
  · next hs =>
    obtain ⟨rest, hword, rfl⟩ := exists_of_map_eq_ok h
    exact ⟨_, gaps_of_skipGaps hs, value_of_null hword⟩
  · cases h

theorem sound_readOptional {inner : Reader Json} (hinner : Sound inner) :
    Sound (readOptional inner) := by
  intro s r h
  unfold readOptional at h
  split at h
  · next hs =>
    obtain ⟨rest, hword, rfl⟩ := exists_of_map_eq_ok h
    exact ⟨_, gaps_of_skipGaps hs, value_of_null hword⟩
  · obtain ⟨t, ht, hvalue⟩ := hinner h
    exact ⟨t, (gaps_skipGaps s).trans ht, hvalue⟩

/-! ### What follows in a list or an object -/

theorem gaps_of_nextItem_done {first : Bool} {s t : List Char}
    (h : nextItem first s = .ok (.done t)) : Gaps s (']' :: t) := by
  unfold nextItem at h
  split at h
  · cases h
  · next hs =>
    cases h
    exact gaps_of_skipGaps hs
  · repeat' split at h
    all_goals cases h

theorem inside_of_nextItem {first : Bool} {s t u : List Char}
    (h : nextItem first s = .ok (.member t)) (ht : Items t u) : Rest .list first s u := by
  unfold nextItem at h
  split at h
  · cases h
  · cases h
  · next hs =>
    split at h
    · next hfirst =>
      cases h
      exact hfirst ▸ .first ((gaps_of_skipGaps hs).inside (b := .list) ht)
    · next hfirst =>
      obtain rfl : first = false := by simpa using hfirst
      split at h
      · next hc =>
        split at h
        · cases h
        · cases h
        · cases h
          exact .more (hc ▸ gaps_of_skipGaps hs) ((gaps_skipGaps _).inside (b := .list) ht)
      · cases h

theorem gaps_of_nextEntry_done {first : Bool} {s t : List Char}
    (h : nextEntry first s = .ok (.done t)) : Gaps s ('\x7d' :: t) := by
  unfold nextEntry at h
  split at h
  · cases h
  · next hs =>
    cases h
    exact gaps_of_skipGaps hs
  · repeat' split at h
    all_goals cases h

/-- An entry whose key starts behind its opening mark. -/
theorem inside_of_nextEntry {first : Bool} {s t u v w x y : List Char}
    (h : nextEntry first s = .ok (.member t)) (hkey : Chars t u) (hcolon : colon u = .ok v)
    (hv : Gaps v w) (hvalue : Value w x) (hrest : Rest .object false x y) :
    Rest .object first s y := by
  have hmembers : ∀ {s'}, Gaps s' ('"' :: t) → Members s' y := fun hs' =>
    members_of_rest (.mk hs' hkey (gaps_of_colon hcolon) hv hvalue) hrest
  unfold nextEntry at h
  split at h
  · cases h
  · cases h
  · next hs =>
    split at h
    · next hfirst =>
      split at h
      · next hc =>
        cases h
        exact hfirst ▸ .first (hmembers (hc ▸ gaps_of_skipGaps hs))
      · cases h
    · next hfirst =>
      obtain rfl : first = false := by simpa using hfirst
      split at h
      · next hc =>
        split at h
        · cases h
        · next hs' =>
          cases h
          exact .more (hc ▸ gaps_of_skipGaps hs) (hmembers (gaps_of_skipGaps hs'))
        · cases h
        · cases h
      · cases h

/-! ### Lists and records -/

theorem rest_of_items {read : Reader Json} (hread : Sound read) {fuel : Nat} {first : Bool}
    {s : List Char} {r : List Json × List Char} (h : items read fuel first s = .ok r) :
    Rest .list first s r.2 := by
  induction fuel generalizing first s r with
  | zero => cases h
  | succ fuel ih =>
    rw [items] at h
    obtain ⟨next, hnext, h⟩ := exists_of_bind_eq_ok h
    cases next with
    | done rest =>
      cases h
      exact .done (gaps_of_nextItem_done hnext)
    | member t =>
      obtain ⟨⟨v, t'⟩, hv, h⟩ := exists_of_bind_eq_ok h
      obtain ⟨⟨vs, t''⟩, hvs, h⟩ := exists_of_bind_eq_ok h
      cases h
      obtain ⟨u, hu, hvalue⟩ := hread hv
      have hrest : Rest .list false t' t'' := ih hvs
      exact inside_of_nextItem hnext (items_of_rest hu hvalue hrest)

theorem value_of_readItems {read : Reader Json} (hread : Sound read) {s : List Char}
    {r : Json × List Char} (h : readItems read s = .ok r) : Value ('[' :: s) r.2 := by
  obtain ⟨a, ha, rfl⟩ := exists_of_map_eq_ok h
  exact (rest_of_items hread ha).list

theorem rest_of_entries {fields : List FieldReader} (hfields : ∀ f ∈ fields, Sound f.read)
    {fuel : Nat} {first : Bool} {seen : List (String × Json)} {s : List Char}
    {r : List (String × Json) × List Char} (h : entries fields fuel first seen s = .ok r) :
    Rest .object first s r.2 := by
  induction fuel generalizing first seen s r with
  | zero => cases h
  | succ fuel ih =>
    rw [entries] at h
    obtain ⟨next, hnext, h⟩ := exists_of_bind_eq_ok h
    cases next with
    | done rest =>
      cases h
      exact .done (gaps_of_nextEntry_done hnext)
    | member t =>
      obtain ⟨⟨key, t'⟩, hkey, h⟩ := exists_of_bind_eq_ok h
      have hkey := chars_of_readText hkey
      dsimp only at h
      split at h
      · next f hf =>
        split at h
        · cases h
        · obtain ⟨v, hcolon, h⟩ := exists_of_bind_eq_ok h
          obtain ⟨⟨w, t''⟩, hw, h⟩ := exists_of_bind_eq_ok h
          obtain ⟨u, hu, hvalue⟩ := hfields f (List.mem_of_find?_eq_some hf) hw
          exact inside_of_nextEntry hnext hkey hcolon hu hvalue (ih h)
      · obtain ⟨v, hcolon, h⟩ := exists_of_bind_eq_ok h
        obtain ⟨t'', hskip, h⟩ := exists_of_bind_eq_ok h
        obtain ⟨u, hu, hvalue⟩ := value_of_skipValue hskip
        exact inside_of_nextEntry hnext hkey hcolon hu hvalue (ih h)

theorem rest_of_elements {record : String} {count place : Nat} {fields : List FieldReader}
    (hfields : ∀ f ∈ fields, Sound f.read) {s : List Char}
    {r : List (String × Json) × List Char} (h : elements record count place fields s = .ok r) :
    Rest .list (place == 0) s r.2 := by
  induction fields generalizing place s r with
  | nil =>
    obtain ⟨t, ht, rfl⟩ := exists_of_map_eq_ok h
    exact .done (gaps_of_closeList ht)
  | cons f fields ih =>
    rw [elements] at h
    obtain ⟨next, hnext, h⟩ := exists_of_bind_eq_ok h
    cases next with
    | done rest => cases h
    | member t =>
      obtain ⟨⟨v, t'⟩, hv, h⟩ := exists_of_bind_eq_ok h
      obtain ⟨⟨vs, t''⟩, hvs, h⟩ := exists_of_bind_eq_ok h
      cases h
      obtain ⟨u, hu, hvalue⟩ := hfields f List.mem_cons_self hv
      have hrest : Rest .list false t' t'' :=
        ih (fun g hg => hfields g (List.mem_cons_of_mem _ hg)) hvs
      exact inside_of_nextItem hnext (items_of_rest hu hvalue hrest)

theorem sound_readRecord (depth : Nat) (name wanted : String) {fields : List FieldReader}
    (hfields : ∀ f ∈ fields, Sound f.read) : Sound (readRecord depth name wanted fields) := by
  intro s r h
  unfold readRecord at h
  split at h
  · next hs =>
    split at h
    · cases h
    · obtain ⟨⟨seen, t⟩, hentries, h⟩ := exists_of_bind_eq_ok h
      obtain ⟨rs, -, h⟩ := exists_of_bind_eq_ok h
      cases h
      have hrest : Rest .object true _ t := rest_of_entries hfields hentries
      exact ⟨_, gaps_of_skipGaps hs, hrest.object⟩
  · next hs =>
    split at h
    · cases h
    · obtain ⟨a, ha, rfl⟩ := exists_of_map_eq_ok h
      have hrest : Rest .list true _ a.2 := rest_of_elements hfields ha
      exact ⟨_, gaps_of_skipGaps hs, hrest.list⟩
  · cases h

theorem sound_readChoice (depth : Nat) (spellings : List String) :
    Sound (readChoice depth spellings) := by
  intro s r h
  unfold readChoice at h
  split at h
  · cases h
  · next hs =>
    obtain ⟨⟨t, rest⟩, htext, h⟩ := exists_of_bind_eq_ok h
    obtain ⟨-, -, h⟩ := exists_of_bind_eq_ok h
    cases h
    exact ⟨_, gaps_of_skipGaps hs, .text (chars_of_readText htext)⟩
  · next hs =>
    split at h
    · cases h
    · obtain ⟨next, hnext, h⟩ := exists_of_bind_eq_ok h
      cases next with
      | done rest => cases h
      | member t =>
        obtain ⟨⟨key, t'⟩, hkey, h⟩ := exists_of_bind_eq_ok h
        obtain ⟨-, -, h⟩ := exists_of_bind_eq_ok h
        obtain ⟨u, hcolon, h⟩ := exists_of_bind_eq_ok h
        obtain ⟨⟨v, t''⟩, hunit, h⟩ := exists_of_bind_eq_ok h
        obtain ⟨w, hw, hvalue⟩ := sound_readUnit _ hunit
        dsimp only at h
        split at h
        · next hend =>
          cases h
          have hrest := inside_of_nextEntry hnext (chars_of_readText hkey) hcolon hw hvalue
            (.done (gaps_of_skipGaps hend))
          exact ⟨_, gaps_of_skipGaps hs, hrest.object⟩
        · cases h
        · cases h
  · cases h

/-! ### Values of any kind -/

theorem rest_of_anyEntries {read : Reader Json} (hread : Sound read) {fuel : Nat} {first : Bool}
    {s : List Char} {r : List (String × Json) × List Char}
    (h : anyEntries read fuel first s = .ok r) : Rest .object first s r.2 := by
  induction fuel generalizing first s r with
  | zero => cases h
  | succ fuel ih =>
    rw [anyEntries] at h
    obtain ⟨next, hnext, h⟩ := exists_of_bind_eq_ok h
    cases next with
    | done rest =>
      cases h
      exact .done (gaps_of_nextEntry_done hnext)
    | member t =>
      obtain ⟨⟨key, t'⟩, hkey, h⟩ := exists_of_bind_eq_ok h
      obtain ⟨v, hcolon, h⟩ := exists_of_bind_eq_ok h
      obtain ⟨⟨w, u⟩, hw, h⟩ := exists_of_bind_eq_ok h
      obtain ⟨⟨vs, t''⟩, hvs, h⟩ := exists_of_bind_eq_ok h
      cases h
      obtain ⟨x, hx, hvalue⟩ := hread hw
      have hrest : Rest .object false u t'' := ih hvs
      exact inside_of_nextEntry hnext (chars_of_readText hkey) hcolon hx hvalue hrest

theorem sound_readAnyWith {inner : Option (Reader Json)}
    (hinner : ∀ read ∈ inner, Sound read) : Sound (readAnyWith inner) := by
  intro s r h
  unfold readAnyWith at h
  split at h
  · cases h
  · next hs =>
    obtain ⟨rest, hword, rfl⟩ := exists_of_map_eq_ok h
    exact ⟨_, gaps_of_skipGaps hs, value_of_null hword⟩
  · next hs =>
    obtain ⟨rest, hword, rfl⟩ := exists_of_map_eq_ok h
    rw [eq_append_of_word hword] at hs
    exact ⟨_, gaps_of_skipGaps hs, .true⟩
  · next hs =>
    obtain ⟨rest, hword, rfl⟩ := exists_of_map_eq_ok h
    rw [eq_append_of_word hword] at hs
    exact ⟨_, gaps_of_skipGaps hs, .false⟩
  · next hs =>
    obtain ⟨a, htext, rfl⟩ := exists_of_map_eq_ok h
    exact ⟨_, gaps_of_skipGaps hs, .text (chars_of_readText htext)⟩
  · next hs =>
    split at h
    · cases h
    · exact ⟨_, gaps_of_skipGaps hs, value_of_readItems (hinner _ rfl) h⟩
  · next hs =>
    split at h
    · cases h
    · obtain ⟨a, ha, rfl⟩ := exists_of_map_eq_ok h
      exact ⟨_, gaps_of_skipGaps hs, (rest_of_anyEntries (hinner _ rfl) ha).object⟩
  · next hs =>
    split at h
    · obtain ⟨⟨n, rest⟩, hnumber, hr⟩ := exists_of_bind_eq_ok h
      have hvalue := Value.number (number_of_readNumber hnumber)
      cases n <;> cases hr <;> exact ⟨_, gaps_of_skipGaps hs, hvalue⟩
    · cases h

theorem sound_readAny (depth : Nat) : Sound (readAny depth) := by
  induction depth with
  | zero => exact sound_readAnyWith fun read h => absurd h (Option.not_mem_none read)
  | succ depth ih =>
    refine sound_readAnyWith fun read h => ?_
    obtain rfl := Option.some.inj h
    exact ih

/-! ### Shapes -/

theorem sound_read_list {item : Shape} {depth : Nat} (hitem : Sound (item.read (depth - 1))) :
    Sound ((Shape.list item).read depth) := by
  intro s r h
  rw [Shape.read] at h
  dsimp only at h
  split at h
  · next hs =>
    split at h
    · cases h
    · exact ⟨_, gaps_of_skipGaps hs, value_of_readItems hitem h⟩
  · cases h

mutual

/-- A reader of a shape takes nothing but a value. -/
theorem sound_read (shape : Shape) (depth : Nat) : Sound (shape.read depth) :=
  match shape with
  | .int64 => sound_readInt _ _ _
  | .uint64 => sound_readInt _ _ _
  | .uint8 => sound_readInt _ _ _
  | .float => sound_readFloat _
  | .text => sound_readString _
  | .choice _ => sound_readChoice _ _
  | .optional inner => sound_readOptional (sound_read inner depth)
  | .list item => sound_read_list (sound_read item _)
  | .record _ fields => sound_readRecord _ _ _ (sound_fieldReaders fields _)
  | .unit => sound_readUnit _
  | .any => sound_readAny _
termination_by structural shape

theorem sound_fieldReaders (fields : List (String × Shape)) (depth : Nat) :
    ∀ f ∈ fieldReaders depth fields, Sound f.read :=
  match fields with
  | [] => fun f hf => absurd hf List.not_mem_nil
  | field :: fields => by
    intro f hf
    rcases List.mem_cons.1 hf with rfl | hf
    · exact sound_fieldReader field depth
    · exact sound_fieldReaders fields depth f hf
termination_by structural fields

theorem sound_fieldReader (field : String × Shape) (depth : Nat) :
    Sound (fieldReader depth field).read :=
  match field with
  | (_, shape) => sound_read shape depth
termination_by structural field

end

/-- Whatever is taken for a value of some shape is a JSON text. -/
theorem isText_of_parse {shape : Shape} {s : String} {v : Json} (h : parse shape s = .ok v) :
    IsText s.toList := by
  obtain ⟨⟨w, rest⟩, hread, h⟩ := exists_of_bind_eq_ok h
  obtain ⟨t, ht, hvalue⟩ := sound_read shape maxDepth hread
  dsimp only at h
  split at h
  · next hrest => exact ⟨t, rest, ht, hvalue, gaps_of_skipGaps hrest⟩
  · cases h

end JudgeClient.Json.Grammar
