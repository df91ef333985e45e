import JudgeClient.Route.History
import Mathlib.Data.List.TakeDrop

/-!
# Past, present and future

A browser's history has three parts: the locations behind, the one that is shown, and the locations
ahead.  `Timeline` keeps them apart, each with the location nearest to the present first, so that
every move takes a location from the front of one part and puts it to the front of another one.  A
`History` is one list with an index into it.  Cutting the list at the index gives a timeline
(`History.timeline`), and a step of the history is that step of its timeline.

* `History.entries_timeline`, `History.length_past_timeline` : nothing is lost by cutting, so a
  history can be told from its timeline;
* `History.timeline_step?` : a step is possible iff it is possible on the timeline, and leads to the
  same place;
* `Timeline.step?_forward_of_back`, `Timeline.step?_back_of_forward` : going back and forward undo
  each other;
* `WatchedHistory.told_run` : what the listeners are told in a run;
* `History.refines_timeline` : all of this over whole runs.
-/

namespace JudgeClient

/-! ### Timelines -/

/-- A browser's history in three parts.  Behind and ahead, the location nearest to the present
stands first. -/
@[ext]
structure Timeline where
  past : List String
  present : String
  future : List String
deriving DecidableEq

namespace Timeline

/-- The timeline of a single location. -/
def start (location : String) : Timeline := ⟨[], location, []⟩

/-- The timeline after an event, if there is a location to go to. -/
def step? (t : Timeline) : History.Event → Option Timeline
  | .push location => some ⟨t.present :: t.past, location, []⟩
  | .replace location => some { t with present := location }
  | .back =>
    match t.past with
    | [] => none
    | location :: past => some ⟨past, location, t.present :: t.future⟩
  | .forward =>
    match t.future with
    | [] => none
    | location :: future => some ⟨t.present :: t.past, location, future⟩

/-- The timeline after some events.  An event that is not possible changes nothing. -/
def run (t : Timeline) (es : List History.Event) : Timeline :=
  es.foldl (fun t e => (t.step? e).getD t) t

/-- The presents that the possible ones of some events lead to. -/
def presents : Timeline → List History.Event → List String
  | _, [] => []
  | t, e :: es =>
    match t.step? e with
    | some t' => t'.present :: presents t' es
    | none => presents t es

variable {t t' : Timeline}

theorem isSome_step?_back : (t.step? .back).isSome = true ↔ t.past ≠ [] := by
  cases h : t.past <;> simp [step?, h]

theorem isSome_step?_forward : (t.step? .forward).isSome = true ↔ t.future ≠ [] := by
  cases h : t.future <;> simp [step?, h]

/-- After a step back there is a way forward, which leads to where the step began. -/
theorem step?_forward_of_back (h : t.step? .back = some t') : t'.step? .forward = some t := by
  obtain ⟨past, present, future⟩ := t
  cases past with
  | nil => cases h
  | cons location past =>
    obtain rfl : ⟨past, location, present :: future⟩ = t' := Option.some.inj h
    rfl

/-- After a step forward there is a way back, which leads to where the step began. -/
theorem step?_back_of_forward (h : t.step? .forward = some t') : t'.step? .back = some t := by
  obtain ⟨past, present, future⟩ := t
  cases future with
  | nil => cases h
  | cons location future =>
    obtain rfl : ⟨present :: past, location, future⟩ = t' := Option.some.inj h
    rfl

end Timeline

namespace History

/-! ### Current locations -/

theorem length_take_succ (h : History) :
    (h.entries.take (h.index + 1)).length = h.index + 1 :=
  List.length_take_of_le h.index_lt

@[simp] theorem current_push (h : History) (location : String) :
    (h.push location).current = location := by
  simp [current, push, List.getElem_append_right, h.length_take_succ]

@[simp] theorem current_replace (h : History) (location : String) :
    (h.replace location).current = location := by
  simp [current, replace]

/-! ### Cutting a history -/

/-- The history cut at its index. -/
def timeline (h : History) : Timeline where
  past := (h.entries.take h.index).reverse
  present := h.current
  future := h.entries.drop (h.index + 1)

theorem timeline_start (location : String) : (start location).timeline = .start location := rfl

/-- The locations of a history are those of its three parts, the oldest first. -/
theorem entries_timeline (h : History) :
    h.entries = h.timeline.past.reverse ++ [h.timeline.present] ++ h.timeline.future := by
  simp [timeline, current]

theorem length_past_timeline (h : History) : h.timeline.past.length = h.index := by
  rw [timeline, List.length_reverse, List.length_take_of_le (Nat.le_of_lt h.index_lt)]

theorem length_timeline (h : History) :
    h.length = h.timeline.past.length + 1 + h.timeline.future.length := by
  rw [length, h.entries_timeline]
  simp
  omega

/-- A history can be told from its timeline. -/
theorem timeline_injective {h h' : History} (ht : h.timeline = h'.timeline) : h = h' := by
  have hentries : h.entries = h'.entries := by
    rw [h.entries_timeline, h'.entries_timeline, ht]
  have hindex : h.index = h'.index := by
    rw [← h.length_past_timeline, ← h'.length_past_timeline, ht]
  cases h
  cases h'
  subst hentries hindex
  rfl

/-! ### Steps -/

/-- The part behind a location and the location itself are the part behind the next one. -/
theorem reverse_take_succ (h : History) :
    (h.entries.take (h.index + 1)).reverse = h.timeline.present :: h.timeline.past := by
  rw [List.take_succ_eq_append_getElem h.index_lt, List.reverse_append]
  rfl

theorem timeline_push (h : History) (location : String) : (h.push location).timeline =
    ⟨h.timeline.present :: h.timeline.past, location, []⟩ := by
  have hlen := h.length_take_succ
  refine Timeline.ext ?_ (current_push h location) ?_
  · show ((h.entries.take (h.index + 1) ++ [location]).take (h.index + 1)).reverse = _
    rw [List.take_left' hlen, reverse_take_succ]
  · show (h.entries.take (h.index + 1) ++ [location]).drop (h.index + 1 + 1) = []
    rw [List.drop_eq_nil_iff, List.length_append, hlen]
    exact Nat.le_refl _

theorem timeline_replace (h : History) (location : String) : (h.replace location).timeline =
    ⟨h.timeline.past, location, h.timeline.future⟩ := by
  refine Timeline.ext ?_ (current_replace h location) ?_
  · show ((h.entries.set h.index location).take h.index).reverse = _
    rw [List.take_set_of_le (Nat.le_refl _)]
    rfl
  · show (h.entries.set h.index location).drop (h.index + 1) = _
    rw [List.drop_set_of_lt (Nat.lt_succ_self _)]
    rfl

/-- Of two neighbours in one list, the earlier one is the first behind the later one, and the later
one is the first ahead of the earlier one. -/
theorem timeline_of_index_eq_succ (h h' : History) (hentries : h'.entries = h.entries)
    (hindex : h'.index = h.index + 1) :
    h'.timeline.past = h.timeline.present :: h.timeline.past ∧
      h.timeline.future = h'.timeline.present :: h'.timeline.future := by
  obtain ⟨entries, index, hlt⟩ := h'
  subst hentries hindex
  exact ⟨reverse_take_succ h, List.drop_eq_getElem_cons hlt⟩

theorem timeline_back? (h : History) : h.back?.map timeline = h.timeline.step? .back := by
  unfold back?
  split
  · next hpos =>
    let h' : History := { h with index := h.index - 1, index_lt := by have := h.index_lt; omega }
    have hsucc : h.index = h'.index + 1 := by
      show h.index = h.index - 1 + 1
      omega
    obtain ⟨hpast, hfuture⟩ := timeline_of_index_eq_succ h' h rfl hsucc
    rw [Timeline.step?, hpast, ← hfuture]
    rfl
  · next hzero =>
    have hpast : h.timeline.past = [] := by
      rw [← List.length_eq_zero_iff, length_past_timeline]
      omega
    rw [Timeline.step?, hpast]
    rfl

theorem timeline_forward? (h : History) :
    h.forward?.map timeline = h.timeline.step? .forward := by
  unfold forward?
  split
  · next hlt =>
    let h' : History := { h with index := h.index + 1, index_lt := hlt }
    obtain ⟨hpast, hfuture⟩ := timeline_of_index_eq_succ h h' rfl rfl
    rw [Timeline.step?, hfuture, ← hpast]
    rfl
  · next hlast =>
    have hfuture : h.timeline.future = [] := List.drop_eq_nil_iff.2 (by omega)
    rw [Timeline.step?, hfuture]
    rfl

/-- **A step of a history is that step of its timeline.** -/
theorem timeline_step? (h : History) (e : Event) :
    (h.step? e).map timeline = h.timeline.step? e := by
  cases e with
  | push location => exact congrArg some (timeline_push h location)
  | replace location => exact congrArg some (timeline_replace h location)
  | back => exact timeline_back? h
  | forward => exact timeline_forward? h

theorem timeline_step?_of_eq_some {h h' : History} {e : Event} (he : h.step? e = some h') :
    h.timeline.step? e = some h'.timeline := by
  rw [← timeline_step?, he, Option.map_some]

/-- A step that is possible on the timeline is possible. -/
theorem exists_step?_eq_some {h : History} {e : Event} {t : Timeline}
    (ht : h.timeline.step? e = some t) : ∃ h', h.step? e = some h' ∧ h'.timeline = t := by
  rw [← timeline_step?] at ht
  exact Option.map_eq_some_iff.1 ht

theorem step?_eq_none_iff {h : History} {e : Event} :
    h.step? e = none ↔ h.timeline.step? e = none := by
  rw [← timeline_step?, Option.map_eq_none_iff]

/-- After a step back there is a way forward, which leads to where the step began. -/
theorem step?_forward_of_back {h h' : History} (he : h.step? .back = some h') :
    h'.step? .forward = some h := by
  obtain ⟨h'', he', ht⟩ := exists_step?_eq_some
    (Timeline.step?_forward_of_back (timeline_step?_of_eq_some he))
  rw [he', timeline_injective ht]

/-- After a step forward there is a way back, which leads to where the step began. -/
theorem step?_back_of_forward {h h' : History} (he : h.step? .forward = some h') :
    h'.step? .back = some h := by
  obtain ⟨h'', he', ht⟩ := exists_step?_eq_some
    (Timeline.step?_back_of_forward (timeline_step?_of_eq_some he))
  rw [he', timeline_injective ht]

/-! ### Runs -/

/-- The history after some events. -/
def run (h : History) (es : List Event) : History := es.foldl (fun h e => (h.step e).1) h

theorem timeline_step (h : History) (e : Event) :
    (h.step e).1.timeline = (h.timeline.step? e).getD h.timeline := by
  rw [← timeline_step?, step]
  cases h.step? e <;> rfl

/-- **A run of a history is that run of its timeline.** -/
theorem timeline_run (h : History) (es : List Event) :
    (h.run es).timeline = h.timeline.run es := by
  induction es generalizing h with
  | nil => rfl
  | cons e es ih =>
    refine (ih (h.step e).1).trans ?_
    rw [timeline_step]
    rfl

end History

/-! ### Listeners -/

namespace WatchedHistory

/-- The history and its listeners after some events. -/
def run (w : WatchedHistory) (es : List History.Event) : WatchedHistory :=
  es.foldl (fun w e => (w.step e).1) w

variable {w : WatchedHistory} {e : History.Event}

/-- A step that is possible tells every listener the new present. -/
theorem step_of_eq_some {h : History} (he : w.history.step? e = some h) :
    w.step e = (⟨h, w.told.map (· ++ [h.current])⟩, true) := by
  simp only [step, History.step, he]
  rfl

/-- A step that is refused changes nothing, and nobody is told anything. -/
theorem step_of_eq_none (he : w.history.step? e = none) : w.step e = (w, false) := by
  simp [step, History.step, he]

theorem step_snd (w : WatchedHistory) (e : History.Event) :
    (w.step e).2 = (w.history.timeline.step? e).isSome := by
  rw [← History.timeline_step?, Option.isSome_map]
  cases he : w.history.step? e with
  | some h => rw [step_of_eq_some he]; rfl
  | none => rw [step_of_eq_none he]; rfl

/-- In a run every listener is told the presents that the events lead to, in their order. -/
theorem told_run (w : WatchedHistory) (es : List History.Event) :
    (w.run es).told = w.told.map (· ++ w.history.timeline.presents es) := by
  induction es generalizing w with
  | nil => simp [run, Timeline.presents]
  | cons e es ih =>
    refine (ih (w.step e).1).trans ?_
    cases he : w.history.step? e with
    | some h =>
      rw [step_of_eq_some he, Timeline.presents, History.timeline_step?_of_eq_some he,
        List.map_map]
      exact List.map_congr_left fun heard _ => List.append_assoc heard _ _
    | none =>
      rw [step_of_eq_none he, Timeline.presents, History.step?_eq_none_iff.1 he]

end WatchedHistory

namespace History

/-- **A history is a timeline.**  After any events its index is inside its list, and the list is
what is behind, the present and what is ahead.  A step leads to the next timeline, and every
listener is told the new present, once; a step back or forward with nothing behind or ahead is
refused, changes nothing, and nobody is told.  Steps back and forward undo each other.  In a run the
listeners hear the presents that the events lead to, and one that joins hears all that follow. -/
theorem refines_timeline (location : String) (before : List Event) :
    let h := (start location).run before
    let t := (Timeline.start location).run before
    (h.index < h.entries.length ∧ h.isEmpty = false) ∧
      (h.entries = t.past.reverse ++ [t.present] ++ t.future ∧ h.index = t.past.length ∧
        h.current = t.present ∧ h.length = t.past.length + 1 + t.future.length) ∧
      (∀ (told : List (List String)) (e : Event),
        let w : WatchedHistory := ⟨h, told⟩
        match t.step? e with
        | some t' => ∃ h' : History, w.step e = (⟨h', told.map (· ++ [t'.present])⟩, true) ∧
            h'.timeline = t'
        | none => w.step e = (w, false)) ∧
      (∀ told : List (List String),
        let w : WatchedHistory := ⟨h, told⟩
        ((w.step .back).2 = true ↔ t.past ≠ []) ∧ ((w.step .forward).2 = true ↔ t.future ≠ [])) ∧
      (∀ h' : History, (h.step? .back = some h' → h'.step? .forward = some h) ∧
        (h.step? .forward = some h' → h'.step? .back = some h)) ∧
      ∀ (told : List (List String)) (es : List Event),
        let w : WatchedHistory := ⟨h, told⟩
        (w.run es).told = told.map (· ++ t.presents es) ∧
          (w.listen.run es).told = told.map (· ++ t.presents es) ++ [t.presents es] := by
  intro h t
  have ht : h.timeline = t := by rw [timeline_run, timeline_start]
  refine ⟨⟨h.index_lt, h.not_isEmpty⟩, ⟨?_, ?_, ?_, ?_⟩, fun told e => ?_, fun told => ⟨?_, ?_⟩,
    fun h' => ⟨step?_forward_of_back, step?_back_of_forward⟩, fun told es => ⟨?_, ?_⟩⟩
  · exact ht ▸ h.entries_timeline
  · exact ht ▸ h.length_past_timeline.symm
  · exact ht ▸ rfl
  · exact ht ▸ h.length_timeline
  · intro w
    split
    · next t' he =>
      obtain ⟨h', hstep, rfl⟩ := exists_step?_eq_some (ht ▸ he)
      exact ⟨h', WatchedHistory.step_of_eq_some (w := w) hstep, rfl⟩
    · next he =>
      exact WatchedHistory.step_of_eq_none (w := w) (step?_eq_none_iff.2 (ht ▸ he))
  · rw [WatchedHistory.step_snd, ht, Timeline.isSome_step?_back]
  · rw [WatchedHistory.step_snd, ht, Timeline.isSome_step?_forward]
  · rw [WatchedHistory.told_run, ht]
  · rw [WatchedHistory.told_run]
    show (told ++ [[]]).map (· ++ h.timeline.presents es) = _
    rw [ht, List.map_append]
    rfl

/-- A location that was left is dropped, and the way back from the one that took its place can be
undone. -/
theorem refines_timeline_of_dropped_future :
    let h := (start "/").run [.push "/problems", .push "/problem/1", .back, .push "/contests"]
    let h' : History := ⟨["/", "/problems", "/contests"], 1, by decide⟩
    h.step? .back = some h' ∧ h'.step? .forward = some h := by
  intro h h'
  have hback : h.step? .back = some h' := rfl
  obtain ⟨-, -, -, -, hundo, -⟩ :=
    refines_timeline "/" [.push "/problems", .push "/problem/1", .back, .push "/contests"]
  exact ⟨hback, (hundo h').1 hback⟩

end History

end JudgeClient
