import JudgeClient.Config
import JudgeClient.Fetch.Decoding
import JudgeClient.Fetch.Tickets

/-!
# Resources

A resource is something that the API has under some path, and what is shown of it.  It asks for it
when it is made, when its path or body changes, and when it is told to; which of these is up to its
settings.  Any number of requests may be waiting, and they may be answered in any order: only the
answer to the latest one changes what is shown.

An event makes a list of changes, which happen one after the other; whoever watches the resource
sees the state after each of them.  A resource whose refresh met no response keeps its data, as
long as the data came from the URL that was asked for.
-/

namespace JudgeClient

/-! ### Settings -/

/-- How a resource asks. -/
structure FetchSettings where
  method : Method := .get
  headers : List (String × String) := []
  /-- The resource asks when it is made. -/
  immediate : Bool := true
  /-- The resource asks again when its path or its body changes. -/
  refetch : Bool := true
deriving DecidableEq, Repr

/-- The body that a resource sends along. -/
inductive RequestBody
  | absent
  | fixed (value : Json)
  /-- A body that may change. -/
  | live (value : Json)

namespace RequestBody

/-- The value that is sent, if one is sent. -/
def value? : RequestBody → Option Json
  | .absent => none
  | .fixed v => some v
  | .live v => some v

/-- The body with another value, if it may change. -/
def set (b : RequestBody) (v : Json) : RequestBody :=
  match b with
  | .live _ => .live v
  | b => b

/-- The body may change. -/
def isLive : RequestBody → Bool
  | .live _ => true
  | _ => false

end RequestBody

/-! ### State -/

/-- What is shown of a resource. -/
structure Shown (α : Type) where
  data : Option α := none
  /-- The URL that the data came from. -/
  dataUrl : Option String := none
  error : Option Error := none
  isLoading : Bool := false
  /-- The HTTP status of the last answer that was not superseded.  It is absent if no response came
  then, even while older data is still shown. -/
  status : Option Nat := none

/-- A request that has not been answered. -/
structure Waiting where
  ticket : Nat
  request : Request

/-- A resource: where it is, the requests that are waiting, and what is shown. -/
structure Resource (α : Type) extends Shown α where
  settings : FetchSettings
  path : String
  body : RequestBody
  tickets : Tickets := {}
  /-- Oldest first. -/
  waiting : List Waiting := []

/-- What may happen to a resource. -/
inductive Resource.Event
  | setPath (path : String)
  | setBody (body : Json)
  /-- Both change, and the resource asks once. -/
  | setBoth (path : String) (body : Json)
  /-- The resource asks again. -/
  | execute
  /-- The waiting request with the ticket is answered. -/
  | answer (ticket : Nat) (outcome : Outcome)

/-- One change of a resource. -/
inductive Resource.Change (α : Type)
  | pathSet (path : String)
  | bodySet (body : Json)
  | issued (request : Request)
  | answered (ticket : Nat)
  | statusSet (status : Option Nat)
  | dataSet (url : String) (data : α)
  | dataCleared
  | errorSet (error : Option Error)
  /-- Nothing is awaited any more. -/
  | finished

namespace Resource

variable {α : Type}

/-- Where the resource is. -/
def url (r : Resource α) : String := Config.apiUrl r.path

/-- The request that the resource would issue now. -/
def request (r : Resource α) : Request where
  method := r.settings.method
  url := r.url
  headers := r.settings.headers
  body := r.body.value?.map Json.compact

/-- The waiting requests, oldest first. -/
def requests (r : Resource α) : List Request := r.waiting.map (·.request)

/-- The ticket of a waiting request, counted from the oldest. -/
def ticketAt? (r : Resource α) (index : Nat) : Option Nat := (r.waiting[index]?).map (·.ticket)

/-- The request with a ticket, if it is waiting. -/
def waitingRequest? (r : Resource α) (ticket : Nat) : Option Request :=
  (r.waiting.find? (·.ticket == ticket)).map (·.request)

/-! ### Changes -/

/-- The resource after a change. -/
def apply (r : Resource α) : Change α → Resource α
  | .pathSet path => { r with path := path }
  | .bodySet body => { r with body := r.body.set body }
  | .issued request =>
    let tickets := r.tickets.issue
    { r with
      tickets := tickets
      waiting := r.waiting ++ [⟨tickets.latest, request⟩]
      isLoading := true }
  | .answered ticket => { r with waiting := r.waiting.filter (·.ticket != ticket) }
  | .statusSet status => { r with status := status }
  | .dataSet url data => { r with data := some data, dataUrl := some url }
  | .dataCleared => { r with data := none, dataUrl := none }
  | .errorSet error => { r with error := error }
  | .finished => { r with isLoading := false }

/-- The resource after some changes. -/
def applyAll (r : Resource α) (cs : List (Change α)) : Resource α := cs.foldl apply r

/-- What asking again changes, if the resource asks again by itself. -/
def refetch (r : Resource α) : List (Change α) :=
  if r.settings.refetch then [.issued r.request] else []

/-- The data outlives an error: the connection failed while the data was being refreshed. -/
def keepsData (r : Resource α) (url : String) (e : Error) : Bool :=
  e.kind == .network && r.dataUrl == some url

/-- What the answer to the latest request changes. -/
def completion [Payload α] (r : Resource α) (url : String) (outcome : Outcome) :
    List (Change α) :=
  let shown : List (Change α) :=
    match outcome.decode α with
    | .ok data => [.dataSet url data, .errorSet none]
    | .error e =>
      if r.keepsData url e then [.errorSet (some e)] else [.dataCleared, .errorSet (some e)]
  .statusSet outcome.status? :: shown ++ [.finished]

/-- What an event changes. -/
def changes [Payload α] (r : Resource α) : Event → List (Change α)
  | .setPath path => .pathSet path :: (r.apply (.pathSet path)).refetch
  | .setBody body =>
    if r.body.isLive then .bodySet body :: (r.apply (.bodySet body)).refetch else []
  | .setBoth path body =>
    .pathSet path :: .bodySet body :: (r.applyAll [.pathSet path, .bodySet body]).refetch
  | .execute => [.issued r.request]
  | .answer ticket outcome =>
    match r.waitingRequest? ticket with
    | none => []
    | some request =>
      .answered ticket ::
        if r.tickets.isCurrent ticket then r.completion request.url outcome else []

/-- The resource after an event. -/
def step [Payload α] (r : Resource α) (e : Event) : Resource α := r.applyAll (r.changes e)

/-- The resource after some events. -/
def run [Payload α] (r : Resource α) (es : List Event) : Resource α := es.foldl step r

/-- A new resource, which has asked if its settings say so. -/
def start (settings : FetchSettings) (path : String) (body : RequestBody) : Resource α :=
  let r : Resource α := { settings := settings, path := path, body := body }
  if settings.immediate then r.apply (.issued r.request) else r

/-- A resource that asks by itself and sends no body. -/
def atPath (path : String) : Resource α := start {} path .absent

/-- The resource after an answer to a waiting request, counted from the oldest. -/
def answerAt? [Payload α] (r : Resource α) (index : Nat) (outcome : Outcome) :
    Option (Resource α) :=
  (r.ticketAt? index).map fun ticket => r.step (.answer ticket outcome)

/-! ### The small laws of changes -/

@[simp] theorem applyAll_nil (r : Resource α) : r.applyAll [] = r := rfl

@[simp] theorem applyAll_cons (r : Resource α) (c : Change α) (cs : List (Change α)) :
    r.applyAll (c :: cs) = (r.apply c).applyAll cs := rfl

@[simp] theorem settings_apply (r : Resource α) (c : Change α) :
    (r.apply c).settings = r.settings := by
  cases c <;> rfl

end Resource

end JudgeClient
