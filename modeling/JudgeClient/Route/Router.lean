import JudgeClient.Route.History
import JudgeClient.Route.Location
import JudgeClient.Route.Table

/-!
# The router

The router shows the page of the current location.  It moves through its history and hears of
moves that were made outside, unless it is not connected to the history; then it finds out about
them when it is asked to look.  Observers of the location run when its text changes, observers of
the resolution when the resolution changes.
-/

namespace JudgeClient

/-- The router and its history, with counts of how often observers have run. -/
structure Router where
  table : RouteTable
  history : History
  /-- The router hears of moves of the history. -/
  connected : Bool
  location : String
  resolution : Resolution
  locationRuns : Nat
  resolutionRuns : Nat

/-- What may happen to a router and its history. -/
inductive RouterEvent
  | navigate (location : String)
  | replace (location : String)
  /-- The router looks at the history. -/
  | sync
  /-- The history moves without the router's doing. -/
  | outside (e : History.Event)

namespace Router

/-- A router at the current location of a history.  Every observer has run once. -/
def start (table : RouteTable) (history : History) (connected : Bool) : Router where
  table := table
  history := history
  connected := connected
  location := history.current
  resolution := table.resolve history.current
  locationRuns := 1
  resolutionRuns := 1

/-- The router at a location.  Being there already is no change. -/
def setLocation (r : Router) (location : String) : Router :=
  if r.location = location then r
  else
    let resolution := r.table.resolve location
    { r with
      location := location
      resolution := resolution
      locationRuns := r.locationRuns + 1
      resolutionRuns := if resolution = r.resolution then r.resolutionRuns
        else r.resolutionRuns + 1 }

/-- Moves the history.  A connected router follows. -/
def moveHistory (r : Router) (e : History.Event) : Router × Option String :=
  let (history, notice) := r.history.step e
  let r := { r with history := history }
  match notice with
  | some location => (if r.connected then r.setLocation location else r, notice)
  | none => (r, none)

/-- The router after an event, and what the listeners of the history are told. -/
def step (r : Router) : RouterEvent → Router × Option String
  | .navigate target =>
    let location := Location.normalize target
    let (r, notice) := r.moveHistory (.push location)
    (r.setLocation location, notice)
  | .replace target =>
    let location := Location.normalize target
    let (r, notice) := r.moveHistory (.replace location)
    (r.setLocation location, notice)
  | .sync => (r.setLocation r.history.current, none)
  | .outside e => r.moveHistory e

/-- Goes to a location. -/
def navigate (r : Router) (location : String) : Router := (r.step (.navigate location)).1

end Router

end JudgeClient
