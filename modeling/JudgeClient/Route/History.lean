/-!
# Browsing history

The locations that were visited, and the one that is shown.  Going to a new location forgets the
locations ahead; going back and forward only moves along the list.  The current place always
exists, which `index_lt` keeps.

A step tells its listeners the location that is current after it, or nothing if it was refused.
-/

namespace JudgeClient

/-- The visited locations and the place of the current one. -/
structure History where
  entries : List String
  index : Nat
  index_lt : index < entries.length
deriving DecidableEq

namespace History

/-- The history of a single location. -/
def start (location : String) : History := ⟨[location], 0, by simp⟩

/-- The location that is shown. -/
def current (h : History) : String := h.entries.get ⟨h.index, h.index_lt⟩

/-- How many locations are remembered. -/
def length (h : History) : Nat := h.entries.length

/-- Nothing is remembered; this is never so. -/
def isEmpty (h : History) : Bool := h.entries.isEmpty

/-! ### Steps -/

/-- Goes to a new location and forgets the locations ahead. -/
def push (h : History) (location : String) : History where
  entries := h.entries.take (h.index + 1) ++ [location]
  index := h.index + 1
  index_lt := by
    have := h.index_lt
    simp only [List.length_append, List.length_take, List.length_cons, List.length_nil]
    omega

/-- Puts a location in the place of the current one. -/
def replace (h : History) (location : String) : History where
  entries := h.entries.set h.index location
  index := h.index
  index_lt := by simpa using h.index_lt

/-- Goes one location back, unless this is the first one. -/
def back? (h : History) : Option History :=
  if 0 < h.index then
    some { h with
      index := h.index - 1
      index_lt := by have := h.index_lt; omega }
  else none

/-- Goes one location forward, unless this is the last one. -/
def forward? (h : History) : Option History :=
  if hlt : h.index + 1 < h.entries.length then some { h with index := h.index + 1, index_lt := hlt }
  else none

/-- What may happen to a history. -/
inductive Event
  | push (location : String)
  | replace (location : String)
  | back
  | forward

/-- The history after an event, if the event is possible. -/
def step? (h : History) : Event → Option History
  | .push location => some (h.push location)
  | .replace location => some (h.replace location)
  | .back => h.back?
  | .forward => h.forward?

/-- The history after an event, and what its listeners are told. -/
def step (h : History) (e : Event) : History × Option String :=
  match h.step? e with
  | some h => (h, some h.current)
  | none => (h, none)

theorem not_isEmpty (h : History) : h.isEmpty = false := by
  have := h.index_lt
  simp only [isEmpty, List.isEmpty_eq_false_iff]
  intro he
  simp [he] at this

end History

/-! ### Listeners -/

/-- A history with its listeners, in the order in which they joined.  A listener is known by what it
has been told so far. -/
structure WatchedHistory where
  history : History
  told : List (List String)

namespace WatchedHistory

/-- One more listener, which has been told nothing yet. -/
def listen (w : WatchedHistory) : WatchedHistory := { w with told := w.told ++ [[]] }

/-- The history after an event, and whether the event was possible.  If it was, every listener is
told where it leads. -/
def step (w : WatchedHistory) (e : History.Event) : WatchedHistory × Bool :=
  let (history, notice) := w.history.step e
  (⟨history, w.told.map (· ++ notice.toList)⟩, notice.isSome)

end WatchedHistory

end JudgeClient
