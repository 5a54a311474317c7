/-
# Switchboard.Client -- the whole state of a client

A client joins its options, its subscriptions, the state of its link and the
calls that wait.  Handlers and observers are values of a type `κ`; what they do
is given once as a `Behaviour`, which may change the whole client, and may panic.
A panic ends the callback it happens in and nothing else (`Client.notify`).  The
component `desk` belongs to the callbacks alone; the library never looks at it.

* `Client.notify_of_run`: the client after a callback is what the callback left;
* `Client.new_isAlive`: a new client is not alive.
-/
import Switchboard.CallTable
import Switchboard.Connectivity
import Switchboard.Link
import Switchboard.Options
import Switchboard.Subscriptions

namespace Switchboard

set_option autoImplicit false

/-- A call whose caller still waits for it. -/
structure Awaited where
  /-- The number of its registration. -/
  ticket : Nat
  id : CorrelationId
  /-- How long the caller waits, if not for ever. -/
  limit : Option Span

/-- A call that was made, and what its request says. -/
structure Issued where
  call : PendingCall
  data : Json
  token : Option Json

/-- The request of a call. -/
def Issued.request (issued : Issued) : Outbound :=
  .request issued.call.id issued.call.path issued.data issued.token

/-- The whole state of a client. -/
structure Client (κ ω : Type) where
  options : Options
  token : Option Json := none
  subscriptions : Subscriptions κ := {}
  connectivity : Connectivity κ := {}
  calls : CallTable
  link : Link
  /-- The calls that were registered for a caller, oldest first. -/
  issued : List Issued := []
  /-- The calls whose callers still wait, oldest first. -/
  awaited : List Awaited := []
  /-- The calls whose callers wait no longer, latest first: what they were told, or nothing if
  they went away. -/
  departed : List (Nat × Option Outcome) := []
  handlesDrawn : Nat := 0
  /-- The candidates for the identifiers of calls. -/
  candidate : Nat → CorrelationId := CorrelationId.drawn
  /-- How many calls have been admitted: candidates are tried from this one on. -/
  idsDrawn : Nat := 0
  /-- What belongs to the callbacks. -/
  desk : ω

/-- What a callback is told. -/
inductive Signal where
  | push (topic : Topic) (data : Json)
  | alive (bit : Bool)

/-- How a callback ends. -/
inductive Ending where
  | returned
  /-- It panics; what it did before stands. -/
  | panicked
deriving DecidableEq

/-- What the callbacks of a client do when they are told something. -/
abbrev Behaviour (κ ω : Type) := κ → Signal → Client κ ω → Client κ ω × Ending

namespace Client

variable {κ ω : Type}

/-- A client that has done nothing yet. -/
def new (options : Options) (token : Option Json) (desk : ω) : Client κ ω where
  options := options
  token := token
  calls := { capacity := options.maxPendingCalls }
  link := { backoff := Backoff.start options.reconnectInterval options.maxReconnectInterval }
  desk := desk

/-- A client, if the options are in order. -/
def build (options : Options) (token : Option Json) (desk : ω) :
    Except ClientError (Client κ ω) :=
  match options.validate with
  | .error error => .error error
  | .ok () => .ok (new options token desk)

/-- Whether the link is up. -/
def isAlive (client : Client κ ω) : Bool := client.connectivity.isAlive

/-- The state of the link. -/
def state (client : Client κ ω) : LinkState := client.connectivity.state

/-- The client on one line. -/
def summary (client : Client κ ω) : String :=
  "Client \x7b state: " ++ client.state.name ++
    ", topics: " ++ toString client.subscriptions.topicCount ++
    ", pending_calls: " ++ toString client.calls.size ++ ", .. \x7d"

/-- The client after one callback was told something; a panic ends that callback alone. -/
def notify (behave : Behaviour κ ω) (callback : κ) (signal : Signal) (client : Client κ ω) :
    Client κ ω :=
  (behave callback signal client).1

/-- The client after a list of callbacks was told something, one after the other. -/
def notifyAll (behave : Behaviour κ ω) (signal : Signal) (client : Client κ ω)
    (entries : List (HandleId × κ)) : Client κ ω :=
  entries.foldl (fun client entry => notify behave entry.2 signal client) client

/-- The next handle, and the client that has drawn it. -/
def drawHandle (client : Client κ ω) : Client κ ω × HandleId :=
  ({ client with handlesDrawn := client.handlesDrawn + 1 }, HandleId.nth client.handlesDrawn)

/-- The candidates for the identifier of the next call: one more than calls wait, so that
distinct ones include one that no waiting call has. -/
def candidates (client : Client κ ω) : List CorrelationId :=
  (List.range (client.calls.size + 1)).map (fun offset => client.candidate (client.idsDrawn + offset))

theorem notify_of_run (behave : Behaviour κ ω) (callback : κ) (signal : Signal)
    (client left : Client κ ω) (ending : Ending)
    (run : behave callback signal client = (left, ending)) :
    notify behave callback signal client = left := by
  simp [notify, run]

theorem new_isAlive (options : Options) (token : Option Json) (desk : ω) :
    (new options token desk : Client κ ω).isAlive = false := rfl

end Client

end Switchboard
