import JudgeClient.Proofs.Json.List
import JudgeClient.Proofs.Json.Record

/-!
# What is taken from compact texts

A reader that takes something from the text of a value takes that value and nothing else: a value
of another kind is refused, wherever it stands, and a value under an unknown key is passed over as
a whole.  So a text that holds a value somewhere inside a record cannot be misread there, and what
is refused in one field is refused for the whole record.

None of this says that a reader succeeds.  A floating-point number that is not finite is printed as
a word, on most of which a reader fails, also where nobody looks at the value.

* `Takes` : a reader takes values of one kind only;
* `skips` : ignored values are passed over as a whole;
* `readRecord_object`, `readRecord_array` : what a record is read from.
-/

namespace JudgeClient.Json

/-- From the text of a value the reader takes that value, and only if it is of the kind. -/
def Takes (read : Reader Json) (kind : Json → Prop) : Prop :=
  ∀ {v w : Json} {s t : List Char}, Ends s → read (v.render ++ s) = .ok (w, t) →
    w = v ∧ t = s ∧ kind v

/-! ### Single values -/

theorem number_of_leads {v : Json} {c : Char} (h : Leads v c)
    (hc : (c == '-' || c.isDigit) = true) : (∃ i, v = .int i) ∨ ∃ x, v = .float x := by
  cases v with
  | int i => exact .inl ⟨i, rfl⟩
  | float x => exact .inr ⟨x, rfl⟩
  | bool b =>
    obtain rfl : c = if b then 't' else 'f' := h
    cases b <;> cases hc
  | null | text | array | object =>
    obtain rfl := h
    cases hc

theorem text_of_leads {v : Json} (h : Leads v '"') : ∃ t, v = .text t := by
  cases v with
  | text t => exact ⟨t, rfl⟩
  | bool b => cases b <;> exact absurd h (by decide)
  | null | int | float | array | object => exact absurd h (by simp [Leads])

theorem array_of_leads {v : Json} (h : Leads v '[') : ∃ vs, v = .array vs := by
  cases v with
  | array vs => exact ⟨vs, rfl⟩
  | bool b => cases b <;> exact absurd h (by decide)
  | null | int | float | text | object => exact absurd h (by simp [Leads])

theorem object_of_leads {v : Json} (h : Leads v '\x7b') : ∃ es, v = .object es := by
  cases v with
  | object es => exact ⟨es, rfl⟩
  | bool b => cases b <;> exact absurd h (by decide)
  | null | int | float | text | array => exact absurd h (by simp [Leads])

theorem takes_readInt (low high : Int) (wanted : String) :
    Takes (readInt low high wanted) fun v => ∃ i, v = .int i ∧ low ≤ i ∧ i ≤ high := by
  intro v w s t hs h
  obtain ⟨c, u, hu, hlead⟩ := exists_cons_render v
  rw [readInt, skipGaps_render, hu, List.cons_append] at h
  split at h
  · cases h
  · split at h
    · next hparts hc =>
      obtain ⟨rfl, rfl⟩ := List.cons.inj hparts
      obtain ⟨⟨n, r⟩, hnumber, hr⟩ := exists_of_bind_eq_ok h
      rw [← List.cons_append, ← hu] at hnumber
      rcases number_of_leads hlead hc with ⟨i, rfl⟩ | ⟨x, rfl⟩
      · cases n with
        | int j =>
          obtain ⟨rfl, rfl⟩ := eq_of_readNumber_toString hs hnumber
          dsimp only at hr
          split at hr
          · next hrange =>
            cases hr
            exact ⟨rfl, rfl, _, rfl, hrange⟩
          · cases hr
        | float x => cases hr
      · obtain ⟨y, rfl⟩ := isFloat_of_readNumber_renderFloat hs hnumber
        cases hr
    · cases h

theorem takes_readString (wanted : String) :
    Takes (readString wanted) fun v => ∃ t, v = .text t := by
  intro v w s t _ h
  obtain ⟨c, u, hu, hlead⟩ := exists_cons_render v
  rw [readString, skipGaps_render] at h
  split at h
  · next rest hparts =>
    rw [hu] at hparts
    obtain ⟨rfl, -⟩ := List.cons.inj hparts
    obtain ⟨x, rfl⟩ := text_of_leads hlead
    rw [← hu, render, renderText_append] at hparts
    obtain rfl := (List.cons.inj hparts).2
    rw [readText_renderText] at h
    cases h
    exact ⟨rfl, rfl, x, rfl⟩
  · cases h

/-! ### Values that nobody looks at -/

/-- The escapes of one character are passed over together. -/
theorem skipText_escapeChar (c : Char) (s : List Char) :
    skipText .plain (escapeChar c ++ s) = skipText .plain s := by
  unfold escapeChar
  split
  case h_8 hquote hback _ _ _ _ _ =>
    by_cases h : c.toNat < 32
    · have hhigh : hexValue? (hexDigit (c.toNat / 16)) = some (c.toNat / 16) :=
        hexValue?_hexDigit (by omega)
      have hlow : hexValue? (hexDigit (c.toNat % 16)) = some (c.toNat % 16) :=
        hexValue?_hexDigit (by omega)
      have hzero : hexValue? '0' = some 0 := by decide
      have hsize : ∀ n < 32, Utf8.size ['0', '0', hexDigit (n / 16), hexDigit (n % 16)] = 4 := by
        decide
      have hlacks := lacksUnit_append (hsize c.toNat h) rfl s
      simp only [List.cons_append, List.nil_append] at hlacks
      rw [if_pos h]
      simp [skipText, hlacks, hzero, hhigh, hlow]
    · rw [if_neg h, List.singleton_append, skipText, if_neg hquote, if_neg hback, if_neg h]
  all_goals rfl

theorem skipText_flatMap_escapeChar (cs s : List Char) :
    skipText .plain (cs.flatMap escapeChar ++ '"' :: s) = .ok s := by
  induction cs with
  | nil => simp [skipText]
  | cons c cs ih => rw [List.flatMap_cons, List.append_assoc, skipText_escapeChar, ih]

/-- A walk that passes over the value goes on behind it, if it does not fail. -/
def Skips (v : Json) : Prop :=
  ∀ {fuel : Nat} {open_ : List Bracket} {s t : List Char}, Ends s →
    skipFrom fuel .value open_ (v.render ++ s) = .ok t →
    ∃ fuel', skipFrom fuel' (.member false) open_ s = .ok t

theorem skipFrom_number {c : Char} (hc : (c == '-' || c.isDigit) = true) (fuel : Nat)
    (open_ : List Bracket) (s : List Char) : skipFrom (fuel + 1) .value open_ (c :: s) =
      skipNumber (c :: s) >>= skipFrom fuel (.member false) open_ := by
  rw [skipFrom, skipGaps_cons (opens_of_isNumber hc).1]
  split
  case h_8 heq =>
    obtain ⟨rfl, rfl⟩ := List.cons.inj heq
    exact if_pos hc
  case h_1 heq => cases heq
  all_goals
    next heq =>
      obtain ⟨rfl, -⟩ := List.cons.inj heq
      cases hc

theorem skips_int (i : Int) : Skips (.int i) := by
  intro fuel open_ s t hs h
  cases fuel with
  | zero => cases h
  | succ fuel =>
    obtain ⟨c, u, hu, hc⟩ := exists_cons_toString_int i
    rw [render, hu, List.cons_append, skipFrom_number hc, ← List.cons_append, ← hu] at h
    obtain ⟨r, hnumber, hr⟩ := exists_of_bind_eq_ok h
    exact ⟨fuel, eq_of_skipNumber_toString hs hnumber ▸ hr⟩

theorem skips_null : Skips .null := by
  intro fuel open_ s t hs h
  cases fuel with
  | zero => cases h
  | succ fuel =>
    obtain ⟨r, hword, hr⟩ := exists_of_bind_eq_ok (show _ >>= _ = _ from h)
    cases hword
    exact ⟨fuel, hr⟩

theorem skips_float (x : Float) : Skips (.float x) := by
  intro fuel open_ s t hs h
  cases fuel with
  | zero => cases h
  | succ fuel =>
    rcases exists_cons_or_mem_infiniteWords x with ⟨c, u, hu, hc⟩ | hword
    · rw [render, hu, List.cons_append, skipFrom_number hc, ← List.cons_append, ← hu] at h
      obtain ⟨r, hnumber, hr⟩ := exists_of_bind_eq_ok h
      exact ⟨fuel, eq_of_skipNumber_renderFloat hs hnumber ▸ hr⟩
    · rcases mem_infiniteWords.1 hword with hx | hx | hx | hx <;> rw [render, hx] at h
      · exact skips_null hs h
      all_goals cases h

theorem skips_text (u : String) : Skips (.text u) := by
  intro fuel open_ s t hs h
  cases fuel with
  | zero => cases h
  | succ fuel =>
    rw [render, renderText_append, skipFrom, skipGaps_cons (by decide)] at h
    obtain ⟨r, htext, hr⟩ := exists_of_bind_eq_ok h
    rw [skipText_flatMap_escapeChar] at htext
    exact ⟨fuel, Except.ok.inj htext ▸ hr⟩

theorem skips_bool (b : Bool) : Skips (.bool b) := by
  intro fuel open_ s t hs h
  cases fuel with
  | zero => cases h
  | succ fuel =>
    cases b <;>
    · obtain ⟨r, hword, hr⟩ := exists_of_bind_eq_ok (show _ >>= _ = _ from h)
      cases hword
      exact ⟨fuel, hr⟩

/-- A member of a list or an object, as it is printed, with its value. -/
structure IsMember (b : Bracket) (m : List Char) (v : Json) : Prop where
  startValue_append : ∀ s, b.startValue (m ++ s) = .ok (v.render ++ s)
  exists_cons : ∃ c u, m = c :: u ∧ isGap c = false ∧ c ≠ b.close
  skips : Skips v

theorem skipFrom_close {fuel : Nat} {opened : Bool} {b : Bracket} {open_ : List Bracket}
    {s t : List Char}
    (h : skipFrom fuel (.member opened) (b :: open_) (b.close :: s) = .ok t) :
    ∃ fuel', skipFrom fuel' (.member false) open_ s = .ok t := by
  cases fuel with
  | zero => cases h
  | succ fuel =>
    have hgap : isGap b.close = false := by cases b <;> decide
    rw [skipFrom, skipGaps_cons hgap] at h
    simp only [if_true] at h
    exact ⟨fuel, h⟩

/-- Members that follow another one, each behind a comma. -/
def moreMembers (ms : List (List Char)) : List Char := ms.flatMap (',' :: ·)

theorem moreMembers_cons_append (m : List Char) (ms : List (List Char)) (s : List Char) :
    moreMembers (m :: ms) ++ s = ',' :: (m ++ (moreMembers ms ++ s)) := by
  simp [moreMembers]

theorem ends_moreMembers (ms : List (List Char)) (b : Bracket) (s : List Char) :
    Ends (moreMembers ms ++ b.close :: s) := by
  cases ms with
  | nil => cases b <;> exact ends_cons (by decide) s
  | cons m ms => exact ends_cons (.inl rfl) _

theorem skipFrom_moreMembers {b : Bracket} {ms : List (List Char)} {vs : List Json}
    (hms : List.Forall₂ (IsMember b) ms vs) {fuel : Nat} {open_ : List Bracket} {s t : List Char}
    (h : skipFrom fuel (.member false) (b :: open_) (moreMembers ms ++ b.close :: s) = .ok t) :
    ∃ fuel', skipFrom fuel' (.member false) open_ s = .ok t := by
  induction hms generalizing fuel with
  | nil => exact skipFrom_close h
  | @cons m v ms vs hm _ ih =>
    cases fuel with
    | zero => cases h
    | succ fuel =>
      have hcomma : ',' ≠ b.close := by cases b <;> decide
      rw [moreMembers_cons_append, skipFrom, skipGaps_cons (by decide)] at h
      simp only [if_neg hcomma, Bool.false_eq_true, if_false, if_true, hm.startValue_append] at h
      obtain ⟨fuel', hfuel⟩ := hm.skips (ends_moreMembers ms b s) h
      exact ih hfuel

theorem skipFrom_members {b : Bracket} {m : List Char} {ms : List (List Char)} {v : Json}
    {vs : List Json} (hm : IsMember b m v) (hms : List.Forall₂ (IsMember b) ms vs) {fuel : Nat}
    {open_ : List Bracket} {s t : List Char}
    (h : skipFrom fuel (.member true) (b :: open_) (m ++ (moreMembers ms ++ b.close :: s)) =
      .ok t) :
    ∃ fuel', skipFrom fuel' (.member false) open_ s = .ok t := by
  cases fuel with
  | zero => cases h
  | succ fuel =>
    have hstart := hm.startValue_append (moreMembers ms ++ b.close :: s)
    obtain ⟨c, u, rfl, hgap, hclose⟩ := hm.exists_cons
    rw [List.cons_append] at h hstart
    rw [skipFrom, skipGaps_cons hgap] at h
    simp only [if_neg hclose, if_true, hstart] at h
    obtain ⟨fuel', hfuel⟩ := hm.skips (ends_moreMembers ms b s) h
    exact skipFrom_moreMembers hms hfuel

theorem isMember_item {v : Json} (h : Skips v) : IsMember .list v.render v where
  startValue_append _ := rfl
  exists_cons := by
    obtain ⟨c, u, hu, hlead⟩ := exists_cons_render v
    exact ⟨c, u, hu, hlead.opens⟩
  skips := h

theorem isMember_entry {e : String × Json} (h : Skips e.2) :
    IsMember .object (renderEntry e) e.2 where
  startValue_append s := by
    rw [renderEntry, List.append_assoc, renderText_append, Bracket.startValue, skipKey,
      skipGaps_cons (by decide)]
    simp only [List.cons_append, skipText_flatMap_escapeChar, bind, Except.bind, colon_cons]
  exists_cons := ⟨'"', _, rfl, by decide, by decide⟩
  skips := h

theorem renderMoreItems_eq (vs : List Json) :
    renderMoreItems vs = moreMembers (vs.map render) := by
  induction vs with
  | nil => rfl
  | cons v vs ih => simp [renderMoreItems, moreMembers, ih]

theorem renderMoreEntries_eq (es : List (String × Json)) :
    renderMoreEntries es = moreMembers (es.map renderEntry) := by
  induction es with
  | nil => rfl
  | cons e es ih => simp [renderMoreEntries_cons, moreMembers, ih]

theorem skips_array {vs : List Json} (hvs : ∀ v ∈ vs, Skips v) : Skips (.array vs) := by
  intro fuel open_ s t _ h
  have hmembers : List.Forall₂ (IsMember .list) (vs.map render) vs :=
    List.forall₂_map_left_iff.2 (List.forall₂_same.2 fun v hv => isMember_item (hvs v hv))
  cases fuel with
  | zero => cases h
  | succ fuel =>
    rw [render_array_append, skipFrom, skipGaps_cons (by decide)] at h
    cases vs with
    | nil => exact skipFrom_close h
    | cons v vs =>
      obtain ⟨hm, hms⟩ := List.forall₂_cons.1 hmembers
      rw [renderItems_cons, renderMoreItems_eq, List.append_assoc] at h
      exact skipFrom_members hm hms h

theorem skips_object {es : List (String × Json)} (hes : ∀ e ∈ es, Skips e.2) :
    Skips (.object es) := by
  intro fuel open_ s t _ h
  have hmembers : List.Forall₂ (IsMember .object) (es.map renderEntry) (es.map (·.2)) :=
    List.forall₂_map_left_iff.2 (List.forall₂_map_right_iff.2
      (List.forall₂_same.2 fun e he => isMember_entry (hes e he)))
  cases fuel with
  | zero => cases h
  | succ fuel =>
    rw [render_object_append, skipFrom, skipGaps_cons (by decide)] at h
    cases es with
    | nil => exact skipFrom_close h
    | cons e es =>
      obtain ⟨hm, hms⟩ := List.forall₂_cons.1 hmembers
      rw [renderEntries_cons, renderMoreEntries_eq, List.append_assoc] at h
      exact skipFrom_members hm hms h

mutual

/-- Every value is passed over as a whole. -/
theorem skips (v : Json) : Skips v :=
  match v with
  | .null => skips_null
  | .bool b => skips_bool b
  | .int i => skips_int i
  | .float x => skips_float x
  | .text t => skips_text t
  | .array vs => skips_array (skips_items vs)
  | .object es => skips_object (skips_entries es)
termination_by structural v

theorem skips_items (vs : List Json) : ∀ v ∈ vs, Skips v :=
  match vs with
  | [] => fun _ hv => absurd hv List.not_mem_nil
  | v :: vs => List.forall_mem_cons.2 ⟨skips v, skips_items vs⟩
termination_by structural vs

theorem skips_entries (es : List (String × Json)) : ∀ e ∈ es, Skips e.2 :=
  match es with
  | [] => fun _ he => absurd he List.not_mem_nil
  | e :: es => List.forall_mem_cons.2 ⟨skips_entry e, skips_entries es⟩
termination_by structural es

theorem skips_entry (e : String × Json) : Skips e.2 :=
  match e with
  | (_, v) => skips v
termination_by structural e

end

theorem eq_of_skipValue {v : Json} {s t : List Char} (hs : Ends s)
    (h : skipValue (v.render ++ s) = .ok t) : t = s := by
  obtain ⟨fuel, hfuel⟩ := skips v hs h
  cases fuel with
  | zero => cases hfuel
  | succ fuel =>
    cases hfuel
    rfl

/-! ### Records -/

/-- The key of the entry names one of the fields. -/
def isKnown (fields : List FieldReader) (e : String × Json) : Bool :=
  (fields.find? (·.name == e.1)).isSome

section Records

variable {fields : List FieldReader} {kind : String → Json → Prop}

/-- One entry that stands at the front is kept if its key is known, and passed over if not. -/
theorem entries_member (hfields : ∀ f ∈ fields, Takes f.read (kind f.name))
    {e : String × Json} {first : Bool} {seen : List (String × Json)} {s u : List Char}
    (hu : Ends u) (hnext : nextEntry first s =
      .ok (.member (e.1.toList.flatMap escapeChar ++ '"' :: ':' :: (e.2.render ++ u))))
    {fuel : Nat} {r : List (String × Json) × List Char}
    (h : entries fields (fuel + 1) first seen s = .ok r) :
    entries fields fuel false (seen ++ [e].filter (isKnown fields)) u = .ok r ∧
      (isKnown fields e = true → kind e.1 e.2) := by
  rw [entries, hnext] at h
  simp only [bind, Except.bind, readText_renderText, colon_cons] at h
  cases hf : fields.find? (·.name == e.1) with
  | none =>
    have hknown : isKnown fields e = false := by simp [isKnown, hf]
    rw [hf] at h
    dsimp only at h
    obtain ⟨t, hskip, hr⟩ := exists_of_bind_eq_ok (show _ >>= _ = _ from h)
    obtain rfl := eq_of_skipValue hu hskip
    exact ⟨by simpa [hknown] using hr, by simp [hknown]⟩
  | some f =>
    have hknown : isKnown fields e = true := by simp [isKnown, hf]
    have hname : f.name = e.1 := by simpa using List.find?_some hf
    rw [hf] at h
    dsimp only at h
    split at h
    · cases h
    · obtain ⟨⟨w, t⟩, hread, hr⟩ := exists_of_bind_eq_ok (show _ >>= _ = _ from h)
      obtain ⟨rfl, rfl, hkind⟩ := hfields f (List.mem_of_find?_eq_some hf) hu hread
      exact ⟨by simpa [hknown] using hr, fun _ => hname ▸ hkind⟩

theorem entries_moreEntries (hfields : ∀ f ∈ fields, Takes f.read (kind f.name))
    {es seen ws : List (String × Json)} {fuel : Nat} {s t : List Char}
    (h : entries fields fuel false seen (renderMoreEntries es ++ '\x7d' :: s) = .ok (ws, t)) :
    t = s ∧ ws = seen ++ es.filter (isKnown fields) ∧
      ∀ e ∈ es, isKnown fields e = true → kind e.1 e.2 := by
  induction es generalizing seen fuel with
  | nil =>
    cases fuel with
    | zero => cases h
    | succ fuel =>
      rw [show renderMoreEntries [] ++ '\x7d' :: s = '\x7d' :: s from rfl, entries_of_end] at h
      cases h
      exact ⟨rfl, by simp, by simp⟩
  | cons e es ih =>
    cases fuel with
    | zero => cases h
    | succ fuel =>
      rw [renderMoreEntries_cons, List.cons_append, List.append_assoc] at h
      obtain ⟨hrest, hkind⟩ := entries_member hfields (ends_renderMoreEntries es s)
        (nextEntry_renderEntry e _).2 h
      obtain ⟨rfl, hws, hkinds⟩ := ih hrest
      refine ⟨rfl, ?_, List.forall_mem_cons.2 ⟨hkind, hkinds⟩⟩
      rw [hws, List.append_assoc, ← List.filter_append, List.singleton_append]

/-- From the entries of an object those with known keys are kept, in their order. -/
theorem entries_object (hfields : ∀ f ∈ fields, Takes f.read (kind f.name))
    {es ws : List (String × Json)} {fuel : Nat} {s t : List Char}
    (h : entries fields fuel true [] (renderEntries es ++ '\x7d' :: s) = .ok (ws, t)) :
    t = s ∧ ws = es.filter (isKnown fields) ∧
      ∀ e ∈ es, isKnown fields e = true → kind e.1 e.2 := by
  cases fuel with
  | zero => cases h
  | succ fuel =>
    cases es with
    | nil =>
      rw [show renderEntries [] ++ '\x7d' :: s = '\x7d' :: s from rfl, entries_of_end] at h
      cases h
      exact ⟨rfl, rfl, by simp⟩
    | cons e es =>
      rw [renderEntries_cons, List.append_assoc] at h
      obtain ⟨hrest, hkind⟩ := entries_member hfields (ends_renderMoreEntries es s)
        (nextEntry_renderEntry e _).1 h
      obtain ⟨rfl, hws, hkinds⟩ := entries_moreEntries hfields hrest
      refine ⟨rfl, ?_, List.forall_mem_cons.2 ⟨hkind, hkinds⟩⟩
      rw [hws, List.nil_append, ← List.filter_append, List.singleton_append]

/-- What a field of a record holds that is read from an object. -/
def HoldsKind (kind : String → Json → Prop) (es : List (String × Json)) (f : FieldReader)
    (r : String × Json) : Prop :=
  f.name = r.1 ∧ (lookup r.1 es = some r.2 ∧ kind r.1 r.2 ∨
    lookup r.1 es = none ∧ f.optional = true ∧ r.2 = .null)

/-- A field that must be there holds a value of its kind. -/
theorem HoldsKind.of_required {es : List (String × Json)} {f : FieldReader} {r : String × Json}
    (h : HoldsKind kind es f r) (hf : f.optional = false) :
    ∃ v, r = (f.name, v) ∧ lookup f.name es = some v ∧ kind f.name v := by
  obtain ⟨hname, ⟨hfound, hkind⟩ | ⟨-, hoptional, -⟩⟩ := h
  · exact ⟨r.2, by rw [hname], hname ▸ hfound, hname ▸ hkind⟩
  · rw [hf] at hoptional
    cases hoptional

theorem lookup_filter_isKnown {f : FieldReader} (hf : f ∈ fields) (es : List (String × Json)) :
    lookup f.name (es.filter (isKnown fields)) = lookup f.name es := by
  have hknown : ∀ e : String × Json, (e.1 == f.name) = true → isKnown fields e = true := by
    intro e he
    rw [isKnown, List.find?_isSome]
    exact ⟨f, hf, by simpa using (beq_iff_eq.1 he).symm⟩
  rw [lookup, lookup, List.find?_filter]
  congr 2
  funext e
  cases he : e.1 == f.name with
  | false => simp
  | true => simp [hknown e he]

/-- A record that is read from an object holds what stands under the names of its fields. -/
theorem readRecord_object (hfields : ∀ f ∈ fields, Takes f.read (kind f.name)) {depth : Nat}
    {name wanted : String} {es : List (String × Json)} {w : Json} {s t : List Char}
    (h : readRecord depth name wanted fields (Json.render (.object es) ++ s) = .ok (w, t)) :
    t = s ∧ ∃ rs, w = .object rs ∧ List.Forall₂ (HoldsKind kind es) fields rs := by
  rw [render_object_append, readRecord, skipGaps_cons (by decide)] at h
  by_cases hdepth : depth = 0
  · simp only [if_pos hdepth] at h
    cases h
  · simp only [if_neg hdepth] at h
    obtain ⟨⟨ws, u⟩, hentries, h⟩ := exists_of_bind_eq_ok h
    obtain ⟨rs, hcollect, h⟩ := exists_of_bind_eq_ok h
    cases h
    obtain ⟨rfl, rfl, hkinds⟩ := entries_object hfields hentries
    refine ⟨rfl, rs, rfl, ?_⟩
    have hmem := (List.forall₂_and_left fields rs).2 ⟨fun f hf => hf, holds_of_collect hcollect⟩
    refine hmem.imp fun f r hr => ?_
    obtain ⟨hf, hname, hholds⟩ := hr
    refine ⟨hname, ?_⟩
    rw [← hname, lookup_filter_isKnown hf, hname] at hholds
    refine hholds.imp_left fun hfound => ⟨hfound, ?_⟩
    obtain ⟨e, hfind, hvalue⟩ := Option.map_eq_some_iff.1 hfound
    have hkey : e.1 = r.1 := by simpa using List.find?_some hfind
    have hknown : isKnown fields e = true := by
      rw [isKnown, List.find?_isSome]
      exact ⟨f, hf, by simp [hname, hkey]⟩
    exact hkey ▸ hvalue ▸ hkinds e (List.mem_of_find?_eq_some hfind) hknown

/-! ### Records that are written as arrays -/

theorem elements_member {f : FieldReader} (hf : Takes f.read (kind f.name)) {v : Json}
    {record : String} {count place : Nat} {s u : List Char}
    {r : List (String × Json) × List Char}
    (h : elements record count place (f :: fields) s = .ok r) (hu : Ends u)
    (hnext : nextItem (place == 0) s = .ok (.member (v.render ++ u))) :
    kind f.name v ∧ ∃ rs, elements record count (place + 1) fields u = .ok (rs, r.2) ∧
      r.1 = (f.name, v) :: rs := by
  rw [elements] at h
  obtain ⟨next, hmember, h⟩ := exists_of_bind_eq_ok h
  obtain rfl := Except.ok.inj (hnext.symm.trans hmember)
  obtain ⟨⟨w, t⟩, hread, h⟩ := exists_of_bind_eq_ok h
  obtain ⟨⟨rs, t'⟩, hrest, h⟩ := exists_of_bind_eq_ok h
  cases h
  obtain ⟨rfl, rfl, hkind⟩ := hf hu hread
  exact ⟨hkind, rs, hrest, rfl⟩

theorem elements_moreItems (hfields : ∀ f ∈ fields, Takes f.read (kind f.name)) {vs : List Json}
    {record : String} {count place : Nat} {s t : List Char} {rs : List (String × Json)}
    (h : elements record count (place + 1) fields (renderMoreItems vs ++ ']' :: s) = .ok (rs, t)) :
    t = s ∧ List.Forall₂ (fun f v => kind f.name v) fields vs ∧
      rs = List.zipWith (fun f v => (f.name, v)) fields vs := by
  induction fields generalizing vs place rs with
  | nil =>
    obtain ⟨u, hclose, hr⟩ := exists_of_map_eq_ok h
    cases hr
    cases vs with
    | nil =>
      have hend : closeList (']' :: s) = .ok s := by
        rw [closeList, skipGaps_cons (by decide)]
        rfl
      rw [show renderMoreItems [] ++ ']' :: s = ']' :: s from rfl, hend] at hclose
      cases hclose
      exact ⟨rfl, .nil, rfl⟩
    | cons v vs =>
      rw [renderMoreItems_cons, List.cons_append, closeList, skipGaps_cons (by decide)] at hclose
      split at hclose
      · cases hclose
      · next heq => exact absurd (List.cons.inj heq).1 (by decide)
      · split at hclose <;> cases hclose
      · cases hclose
  | cons f fields ih =>
    cases vs with
    | nil =>
      rw [elements, show renderMoreItems [] ++ ']' :: s = ']' :: s from rfl] at h
      obtain ⟨next, hdone, h⟩ := exists_of_bind_eq_ok h
      obtain rfl := Except.ok.inj ((nextItem_close _ s).symm.trans hdone)
      cases h
    | cons v vs =>
      rw [renderMoreItems_cons, List.cons_append, List.append_assoc] at h
      obtain ⟨hkind, rs', hrest, hr⟩ := elements_member (hfields f List.mem_cons_self) h
        (ends_renderMoreItems vs s) (nextItem_render v _).2
      obtain ⟨ht, hkinds, hrs⟩ := ih (fun g hg => hfields g (List.mem_cons_of_mem _ hg)) hrest
      exact ⟨ht, .cons hkind hkinds, by rw [List.zipWith_cons_cons, ← hrs]; exact hr⟩

/-- A record that is read from an array holds its items, one for each field. -/
theorem readRecord_array (hfields : ∀ f ∈ fields, Takes f.read (kind f.name)) (hne : fields ≠ [])
    {depth : Nat} {name wanted : String} {vs : List Json} {w : Json} {s t : List Char}
    (h : readRecord depth name wanted fields (Json.render (.array vs) ++ s) = .ok (w, t)) :
    t = s ∧ List.Forall₂ (fun f v => kind f.name v) fields vs ∧
      w = .object (List.zipWith (fun f v => (f.name, v)) fields vs) := by
  rw [render_array_append, readRecord, skipGaps_cons (by decide)] at h
  by_cases hdepth : depth = 0
  · simp only [if_pos hdepth] at h
    cases h
  · simp only [if_neg hdepth] at h
    obtain ⟨⟨rs, u⟩, helements, hr⟩ := exists_of_map_eq_ok h
    cases hr
    obtain ⟨f, fields, rfl⟩ := List.exists_cons_of_ne_nil hne
    cases vs with
    | nil =>
      rw [elements, show renderItems [] ++ ']' :: s = ']' :: s from rfl] at helements
      obtain ⟨next, hdone, h⟩ := exists_of_bind_eq_ok helements
      obtain rfl := Except.ok.inj ((nextItem_close _ s).symm.trans hdone)
      cases h
    | cons v vs =>
      rw [renderItems_cons, List.append_assoc] at helements
      obtain ⟨hkind, rs', hrest, hr⟩ := elements_member (hfields f List.mem_cons_self)
        helements (ends_renderMoreItems vs s) (nextItem_render v _).1
      obtain ⟨ht, hkinds, hrs⟩ :=
        elements_moreItems (fun g hg => hfields g (List.mem_cons_of_mem _ hg)) hrest
      refine ⟨ht, .cons hkind hkinds, ?_⟩
      rw [List.zipWith_cons_cons, ← hrs]
      exact congrArg Json.object hr

/-- Only objects and arrays are read as records. -/
theorem isRecord_of_readRecord {depth : Nat} {name wanted : String} {v w : Json}
    {s t : List Char} (h : readRecord depth name wanted fields (v.render ++ s) = .ok (w, t)) :
    (∃ es, v = .object es) ∨ ∃ vs, v = .array vs := by
  obtain ⟨c, u, hu, hlead⟩ := exists_cons_render v
  rw [readRecord, skipGaps_render, hu, List.cons_append] at h
  split at h
  · next heq =>
    obtain ⟨rfl, -⟩ := List.cons.inj heq
    exact .inl (object_of_leads hlead)
  · next heq =>
    obtain ⟨rfl, -⟩ := List.cons.inj heq
    exact .inr (array_of_leads hlead)
  · cases h

end Records

end JudgeClient.Json
