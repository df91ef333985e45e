import JudgeClient.Proofs.Route.History
import JudgeClient.Route.Router
import Mathlib.Tactic.SplitIfs

/-!
# The router follows its history

A router that hears of its history is told of its own moves twice: by the history, and by itself.
The second time it is there already, and being there already is no change.  So an event of a
connected router is one move of its history and one look at it, and observers run exactly when what
they observe changes.  A router that does not hear of its history looks at it only after its own
moves and when it is asked to.

* `Router.step_navigate`, `Router.step_replace` : own moves lead to the same place whether or not
  the router is connected;
* `Router.Follows.step_eq` : an event of a connected router is one move of its history and one look;
* `Router.Follows.run`, `Router.Follows.runs_run` : what a connected router keeps, and how often its
  observers run;
* `Router.follows_history` : all of this over whole runs.
-/

namespace JudgeClient

namespace Router

variable {α : Type} {r : Router}

/-! ### Looking at a location -/

@[simp] theorem location_setLocation (r : Router) (location : String) :
    (r.setLocation location).location = location := by
  unfold setLocation
  split_ifs with h
  · exact h
  · rfl

@[simp] theorem history_setLocation (r : Router) (location : String) :
    (r.setLocation location).history = r.history := by
  unfold setLocation
  split_ifs <;> rfl

@[simp] theorem table_setLocation (r : Router) (location : String) :
    (r.setLocation location).table = r.table := by
  unfold setLocation
  split_ifs <;> rfl

@[simp] theorem connected_setLocation (r : Router) (location : String) :
    (r.setLocation location).connected = r.connected := by
  unfold setLocation
  split_ifs <;> rfl

/-- Being there already is no change. -/
theorem setLocation_of_eq {location : String} (h : r.location = location) :
    r.setLocation location = r := if_pos h

@[simp] theorem setLocation_setLocation (r : Router) (location : String) :
    (r.setLocation location).setLocation location = r.setLocation location :=
  setLocation_of_eq (location_setLocation r location)

theorem resolution_setLocation (h : r.resolution = r.table.resolve r.location)
    (location : String) : (r.setLocation location).resolution = r.table.resolve location := by
  unfold setLocation
  split_ifs with hl
  · rw [h, hl]
  · rfl

/-! ### Observers -/

/-- How often an observer runs whose view is the one before a step or the other one after it. -/
def runsOf [DecidableEq α] (before after : α) : Nat := if after = before then 0 else 1

theorem locationRuns_setLocation (r : Router) (location : String) :
    (r.setLocation location).locationRuns = r.locationRuns + runsOf r.location location := by
  unfold setLocation runsOf
  split_ifs with h₁ h₂ h₂
  · rfl
  · exact absurd h₁.symm h₂
  · exact absurd h₂.symm h₁
  · rfl

theorem resolutionRuns_setLocation (r : Router) (location : String) :
    (r.setLocation location).resolutionRuns =
      r.resolutionRuns + runsOf r.resolution (r.setLocation location).resolution := by
  unfold setLocation runsOf
  split_ifs <;> simp_all

/-! ### Looking at a history -/

/-- The router looks at a history. -/
def lookAt (r : Router) (h : History) : Router :=
  ({ r with history := h } : Router).setLocation h.current

@[simp] theorem location_lookAt (r : Router) (h : History) :
    (r.lookAt h).location = h.current := location_setLocation _ _

@[simp] theorem history_lookAt (r : Router) (h : History) : (r.lookAt h).history = h :=
  history_setLocation _ _

@[simp] theorem table_lookAt (r : Router) (h : History) : (r.lookAt h).table = r.table :=
  table_setLocation _ _

@[simp] theorem connected_lookAt (r : Router) (h : History) :
    (r.lookAt h).connected = r.connected := connected_setLocation _ _

theorem resolution_lookAt (hr : r.resolution = r.table.resolve r.location) (h : History) :
    (r.lookAt h).resolution = r.table.resolve h.current :=
  resolution_setLocation (r := { r with history := h }) hr h.current

/-! ### Events -/

theorem moveHistory_of_eq_some {e : History.Event} {h : History} (he : r.history.step? e = some h) :
    r.moveHistory e = (if r.connected then r.lookAt h else { r with history := h },
      some h.current) := by
  simp only [moveHistory, History.step, he]
  rfl

theorem moveHistory_of_eq_none {e : History.Event} (he : r.history.step? e = none) :
    r.moveHistory e = (r, none) := by
  simp only [moveHistory, History.step, he]

/-- An own move of the router leads to the same place whether or not it is connected. -/
theorem setLocation_moveHistory {e : History.Event} {h : History}
    (he : r.history.step? e = some h) : (r.moveHistory e).1.setLocation h.current = r.lookAt h := by
  rw [moveHistory_of_eq_some he]
  split
  · exact setLocation_setLocation _ _
  · rfl

theorem step_navigate (r : Router) (location : String) : (r.step (.navigate location)).1 =
    r.lookAt (r.history.push (Location.normalize location)) := by
  have h := setLocation_moveHistory (r := r) (e := .push (Location.normalize location)) rfl
  rwa [History.current_push] at h

theorem step_replace (r : Router) (location : String) : (r.step (.replace location)).1 =
    r.lookAt (r.history.replace (Location.normalize location)) := by
  have h := setLocation_moveHistory (r := r) (e := .replace (Location.normalize location)) rfl
  rwa [History.current_replace] at h

theorem step_sync (r : Router) : (r.step .sync).1 = r.lookAt r.history := rfl

/-- The router looks at a move from outside if it hears of it, and a move that is refused is not
told of. -/
theorem step_outside (r : Router) (e : History.Event) : (r.step (.outside e)).1 =
    if r.connected = true ∧ (r.history.step? e).isSome = true then r.lookAt (r.history.step e).1
    else { r with history := (r.history.step e).1 } := by
  rw [step, History.step]
  cases he : r.history.step? e with
  | none => simp [moveHistory_of_eq_none he]
  | some h => cases hc : r.connected <;> simp [moveHistory_of_eq_some he, hc]

/-- A router that does not hear of its history stays where it is. -/
theorem location_step_outside (hc : r.connected = false) (e : History.Event) :
    (r.step (.outside e)).1.location = r.location := by
  rw [step_outside, if_neg (by simp [hc])]

/-- The history after an event. -/
def moved (h : History) : RouterEvent → History
  | .navigate location => h.push (Location.normalize location)
  | .replace location => h.replace (Location.normalize location)
  | .sync => h
  | .outside e => (h.step e).1

theorem history_step (r : Router) (e : RouterEvent) :
    (r.step e).1.history = moved r.history e := by
  cases e with
  | navigate location => rw [step_navigate, history_lookAt, moved]
  | replace location => rw [step_replace, history_lookAt, moved]
  | sync => rw [step_sync, history_lookAt, moved]
  | outside e =>
    rw [step_outside, moved]
    split
    · exact history_lookAt r _
    · rfl

theorem connected_step (r : Router) (e : RouterEvent) : (r.step e).1.connected = r.connected := by
  cases e with
  | navigate location => rw [step_navigate, connected_lookAt]
  | replace location => rw [step_replace, connected_lookAt]
  | sync => rw [step_sync, connected_lookAt]
  | outside e =>
    rw [step_outside]
    split
    · exact connected_lookAt r _
    · rfl

/-! ### Connected routers -/

/-- The router hears of its history, and shows what its history is at. -/
structure Follows (r : Router) : Prop where
  connected : r.connected = true
  current : r.location = r.history.current
  resolved : r.resolution = r.table.resolve r.location

theorem follows_start (table : RouteTable) (history : History) :
    (start table history true).Follows := ⟨rfl, rfl, rfl⟩

theorem Follows.lookAt (h : r.Follows) (history : History) : (r.lookAt history).Follows where
  connected := by rw [connected_lookAt, h.connected]
  current := by rw [location_lookAt, history_lookAt]
  resolved := by rw [resolution_lookAt h.resolved, table_lookAt, location_lookAt]

/-- An event is one move of the history and one look at it. -/
theorem Follows.step_eq (h : r.Follows) (e : RouterEvent) :
    (r.step e).1 = r.lookAt (moved r.history e) := by
  cases e with
  | navigate location => exact step_navigate r location
  | replace location => exact step_replace r location
  | sync => exact step_sync r
  | outside e =>
    rw [step_outside, moved]
    split
    · rfl
    · next hno =>
      -- the move was refused, so there is nothing new to look at
      have he : r.history.step? e = none := by simpa [h.connected] using hno
      rw [History.step, he]
      exact (setLocation_of_eq h.current).symm

theorem Follows.step (h : r.Follows) (e : RouterEvent) : (r.step e).1.Follows := by
  rw [h.step_eq]
  exact h.lookAt _

theorem Follows.runs_step (h : r.Follows) (e : RouterEvent) :
    (r.step e).1.locationRuns = r.locationRuns + runsOf r.location (r.step e).1.location ∧
      (r.step e).1.resolutionRuns =
        r.resolutionRuns + runsOf r.resolution (r.step e).1.resolution := by
  rw [h.step_eq, location_lookAt]
  exact ⟨locationRuns_setLocation _ _, resolutionRuns_setLocation _ _⟩

/-! ### Runs -/

/-- The router after some events. -/
def run (r : Router) (es : List RouterEvent) : Router := es.foldl (fun r e => (r.step e).1) r

/-- How many events of a run change what is seen of the router. -/
def changes [DecidableEq α] (view : Router → α) : Router → List RouterEvent → Nat
  | _, [] => 0
  | r, e :: es => runsOf (view r) (view (r.step e).1) + changes view (r.step e).1 es

theorem Follows.run (h : r.Follows) (es : List RouterEvent) : (r.run es).Follows := by
  induction es generalizing r with
  | nil => exact h
  | cons e es ih => exact ih (h.step e)

theorem connected_run (r : Router) (es : List RouterEvent) :
    (r.run es).connected = r.connected := by
  induction es generalizing r with
  | nil => rfl
  | cons e es ih => exact (ih _).trans (connected_step r e)

theorem history_run (r : Router) (es : List RouterEvent) :
    (r.run es).history = es.foldl moved r.history := by
  induction es generalizing r with
  | nil => rfl
  | cons e es ih => rw [List.foldl_cons, ← history_step, ← ih]; rfl

theorem Follows.table_run (h : r.Follows) (es : List RouterEvent) :
    (r.run es).table = r.table := by
  induction es generalizing r with
  | nil => rfl
  | cons e es ih =>
    refine (ih (h.step e)).trans ?_
    rw [h.step_eq, table_lookAt]

/-- Observers run once for every event that changes what they observe. -/
theorem Follows.runs_run (h : r.Follows) (es : List RouterEvent) :
    (r.run es).locationRuns = r.locationRuns + changes location r es ∧
      (r.run es).resolutionRuns = r.resolutionRuns + changes resolution r es := by
  induction es generalizing r with
  | nil => exact ⟨rfl, rfl⟩
  | cons e es ih =>
    obtain ⟨hl, hr⟩ := h.runs_step e
    obtain ⟨hls, hrs⟩ := ih (h.step e)
    rw [hl, Nat.add_assoc] at hls
    rw [hr, Nat.add_assoc] at hrs
    exact ⟨hls, hrs⟩

/-- An event is observed once, and not at all if it leads to where the router is. -/
theorem Follows.locationRuns_step (h : r.Follows) (e : RouterEvent) :
    (r.step e).1.locationRuns =
      r.locationRuns + if (moved r.history e).current = r.location then 0 else 1 := by
  rw [(h.runs_step e).1, h.step_eq, location_lookAt]
  rfl

/-! ### Links -/

/-- What a move stores is its link without the mark of a fragment. -/
theorem hash_append_normalize (location : String) :
    "#" ++ Location.normalize location = Location.href location := rfl

theorem step_navigate_href (r : Router) (location : String) :
    r.step (.navigate (Location.href location)) = r.step (.navigate location) := by
  simp only [step, Location.normalize_href]

theorem step_replace_href (r : Router) (location : String) :
    r.step (.replace (Location.href location)) = r.step (.replace location) := by
  simp only [step, Location.normalize_href]

/-- **The router follows its history.**  A connected router is where its history is and shows what
is there, and its observers have run once and then once for every event that changed what they
observe; a move to a location is observed once, and not at all if the router is there already.  A
router that is not connected is where its history is after its own moves and after looking, and
stays where it is when its history is moved from outside.  Either way an event moves the history as
it says: a move stores the location that its link leads to, so moving to a link is moving to its
location. -/
theorem follows_history :
    (∀ (table : RouteTable) (history : History) (es : List RouterEvent),
      let first := start table history true
      let r := first.run es
      r.location = r.history.current ∧
        r.resolution = table.resolve r.location ∧
        r.locationRuns = 1 + changes location first es ∧
        r.resolutionRuns = 1 + changes resolution first es ∧
        ∀ target,
          (r.step (.navigate target)).1.locationRuns =
            r.locationRuns + (if Location.normalize target = r.location then 0 else 1) ∧
          (r.step (.replace target)).1.locationRuns =
            r.locationRuns + (if Location.normalize target = r.location then 0 else 1)) ∧
    (∀ (table : RouteTable) (history : History) (es : List RouterEvent),
      let r := (start table history false).run es
      (∀ target,
        let r' := (r.step (.navigate target)).1
        let r'' := (r.step (.replace target)).1
        r'.location = r'.history.current ∧ r''.location = r''.history.current) ∧
      (r.step .sync).1.location = r.history.current ∧
      ∀ e, (r.step (.outside e)).1.location = r.location) ∧
    (∀ (r : Router) (e : RouterEvent), (r.step e).1.history = moved r.history e) ∧
    ∀ (r : Router) (target : String),
      ("#" ++ (r.step (.navigate target)).1.history.current = Location.href target ∧
        "#" ++ (r.step (.replace target)).1.history.current = Location.href target) ∧
      r.step (.navigate (Location.href target)) = r.step (.navigate target) ∧
      r.step (.replace (Location.href target)) = r.step (.replace target) := by
  refine ⟨fun table history es => ?_, fun table history es => ?_, history_step,
    fun r target => ?_⟩
  · intro first r
    have hfirst : first.Follows := follows_start table history
    have hr : r.Follows := hfirst.run es
    have htable : r.table = table := hfirst.table_run es
    obtain ⟨hl, hres⟩ := hfirst.runs_run es
    refine ⟨hr.current, htable ▸ hr.resolved, hl, hres, fun target => ⟨?_, ?_⟩⟩
    · rw [hr.locationRuns_step, moved, History.current_push]
    · rw [hr.locationRuns_step, moved, History.current_replace]
  · intro r
    have hc : r.connected = false := connected_run _ es
    refine ⟨fun target => ⟨?_, ?_⟩, ?_, location_step_outside hc⟩
    · rw [step_navigate, location_lookAt, history_lookAt]
    · rw [step_replace, location_lookAt, history_lookAt]
    · rw [step_sync, location_lookAt]
  · rw [step_navigate, step_replace, history_lookAt, history_lookAt, History.current_push,
      History.current_replace, hash_append_normalize]
    exact ⟨⟨rfl, rfl⟩, step_navigate_href r target, step_replace_href r target⟩

/-- Two moves to one place, and one back: only the first one is a change. -/
example : ((start .app (.start "/") true).run
    [.navigate "problems", .navigate "#/problems", .outside .back]).locationRuns = 2 := by
  decide

end Router

end JudgeClient
