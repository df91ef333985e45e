import JudgeClient.Fetch.Resource

/-!
# Exchanges

A transport that keeps requests until they are answered by URL, and keeps the answers until the
sender asks for them.  Closing it leaves what was not answered without a response.

`Deferred` is a resource behind an exchange: an answer reaches the resource only when it runs.
-/

namespace JudgeClient

/-! ### Exchanges -/

namespace Exchange

/-- How far a request has come. -/
inductive Progress
  | waiting
  | answered (outcome : Outcome)
  /-- The sender has got the outcome. -/
  | taken

/-- A request that was sent. -/
structure Call where
  request : Request
  progress : Progress := .waiting

/-- What a sender learns when it asks for the outcome of a request. -/
inductive Reading
  /-- No request has this number. -/
  | unknown
  | pending
  | ready (outcome : Outcome)
  | taken

/-- The call is waiting. -/
def Call.isWaiting (c : Call) : Bool :=
  match c.progress with
  | .waiting => true
  | _ => false

/-- The call with an outcome, unless it has one. -/
def Call.settle (c : Call) (outcome : Outcome) : Call :=
  match c.progress with
  | .waiting => { c with progress := .answered outcome }
  | _ => c

/-- The calls with the first one answered that waits for the URL, if there is one. -/
def answerFirst? (url : String) (outcome : Outcome) : List Call → Option (List Call)
  | [] => none
  | c :: rest =>
    if c.isWaiting && c.request.url == url then some (c.settle outcome :: rest)
    else (answerFirst? url outcome rest).map (c :: ·)

/-- The outcome of a request that was never answered. -/
def droppedOutcome : Outcome := .error ⟨.network, "request dropped"⟩

/-- Why an answer was refused: nothing waits for its URL. -/
def refusal (url : String) : String := "no pending request for " ++ url

end Exchange

/-- A transport that keeps requests until they are answered.  Requests are numbered from zero. -/
structure Exchange where
  calls : List Exchange.Call := []
  isOpen : Bool := true

namespace Exchange

/-- The requests that are waiting, oldest first. -/
def requests (x : Exchange) : List Request := (x.calls.filter Call.isWaiting).map (·.request)

/-- The exchange with one more request, whose number is the number of requests before it. -/
def send (x : Exchange) (request : Request) : Exchange :=
  { x with calls := x.calls ++ [⟨request, .waiting⟩] }

/-- The exchange with the oldest request answered that waits for the URL, if there is one. -/
def answer? (x : Exchange) (url : String) (outcome : Outcome) : Option Exchange :=
  (answerFirst? url outcome x.calls).map fun calls => { x with calls := calls }

/-- The exchange is closed; requests that are waiting get no response. -/
def close (x : Exchange) : Exchange where
  calls := x.calls.map (·.settle droppedOutcome)
  isOpen := false

/-- Asks for the outcome of a request, which can be had once. -/
def poll (x : Exchange) (number : Nat) : Reading × Exchange :=
  match x.calls[number]? with
  | none => (.unknown, x)
  | some c =>
    match c.progress with
    | .waiting => (.pending, x)
    | .answered outcome =>
      (.ready outcome, { x with calls := x.calls.set number { c with progress := .taken } })
    | .taken => (.taken, x)

end Exchange

/-! ### Resources behind an exchange -/

/-- A resource whose requests go to an exchange. -/
structure Deferred (α : Type) where
  resource : Resource α
  exchange : Exchange

namespace Deferred

variable {α : Type} [Payload α]

/-- The request that a change sends, if it sends one. -/
def sentBy? : Resource.Change α → Option Request
  | .issued request => some request
  | _ => none

/-- A new resource, with its first request in the exchange. -/
def start (settings : FetchSettings) (path : String) : Deferred α :=
  let r : Resource α := .start settings path .absent
  ⟨r, r.requests.foldl Exchange.send {}⟩

/-- The resource after an event; its new requests are in the exchange. -/
def step (d : Deferred α) (e : Resource.Event) : Deferred α :=
  let cs := d.resource.changes e
  ⟨d.resource.applyAll cs, (cs.filterMap sentBy?).foldl Exchange.send d.exchange⟩

/-- Puts an answer into the exchange, if a request waits for its URL. -/
def answer? (d : Deferred α) (url : String) (outcome : Outcome) : Option (Deferred α) :=
  (d.exchange.answer? url outcome).map fun x => { d with exchange := x }

/-- Passes the outcome of one request on to the resource, if there is one.  The tickets of a
resource start at one, the numbers of an exchange at zero. -/
def deliver (d : Deferred α) (number : Nat) : Deferred α :=
  let (reading, x) := d.exchange.poll number
  match reading with
  | .ready outcome => ⟨d.resource.step (.answer (number + 1) outcome), x⟩
  | _ => d

/-- Passes all outcomes on to the resource. -/
def run (d : Deferred α) : Deferred α :=
  (List.range d.exchange.calls.length).foldl deliver d

end Deferred

end JudgeClient
