/-
# Switchboard.Client.Session -- the life of the link

`Client.connect` starts a driver; what happens to it afterwards are the steps
below.  An attempt fails (`attemptFailed`), or a socket opens (`opened`) and
settles (`settled`).  Then the observers are told, every topic is announced in
ascending order, the requests in the backlog whose calls still wait are written in
their order (`proceed`, one frame at a time); what the channel holds follows
(`emit`, likewise).  Received messages are acted upon, and pings answered, in
between (`hear`).
A session ends when the link is lost or a write fails (`lose`), or when the
driver is told to stop (`stop`), which it looks at once the prologue is over: the
channel is taken away, requests left in it are held if they may be, the observers
are told, and under the failing policy a lost link fails every waiting call.

Where nothing comes in between, a session is taken as far as it goes at once:
`finish` completes the prologue, `drain` empties the channel.

* `Client.connect_malformed`: a malformed address is reported and changes nothing;
* `Client.proceed_complete`: once the prologue is over there is nothing left of it;
* `Client.route_ping`: a ping is answered with its identifier and nothing else happens.
-/
import Switchboard.Client.Delivery
import Switchboard.Client.Sending
import Switchboard.Inbound

namespace Switchboard.Client

set_option autoImplicit false

variable {κ ω : Type}

/-! ## Starting -/

/-- The failure of connecting over a scheme that is none for message sockets. -/
def unsupportedScheme (scheme : String) : ClientError :=
  .config ("Unsupported scheme '" ++ scheme ++ "', expected ws or wss")

/-- The failure of connecting where no driver can run. -/
def noRuntime : ClientError := .config "connect must be called from within a Tokio runtime"

/-- The client with a driver started for an address; `runtime` tells whether one can run. -/
def connect (runtime : Bool) (address : String) (client : Client κ ω) :
    Client κ ω × Except ClientError Unit :=
  match Endpoint.parse address with
  | .error reason => (client, .error (.url reason))
  | .ok endpoint =>
      if !endpoint.isSocket then (client, .error (unsupportedScheme endpoint.scheme))
      else if !runtime then (client, .error noRuntime)
      else if client.link.isRunning then (client, .error .alreadyConnected)
      else
        ({ client with
            link := { client.link with
              phase := .starting
              endpoint := some endpoint
              backoff := client.link.backoff.reset } },
         .ok ())

/-- The client in another phase. -/
def enter (phase : Phase) (client : Client κ ω) : Client κ ω :=
  { client with link := { client.link with phase } }

/-- The client whose driver makes an attempt. -/
def attempt (behave : Behaviour κ ω) (client : Client κ ω) : Client κ ω :=
  ((client.transition behave .connecting).1).enter .attempting

/-- The client whose driver waits before the next attempt. -/
def awaitRetry (client : Client κ ω) : Client κ ω :=
  let (delay, backoff) := client.link.backoff.next
  { client with link := { client.link with phase := .waiting, delay, backoff } }

/-! ## The end of an attempt or a session -/

/-- Why a session or an attempt ended. -/
inductive SessionEnd where
  /-- The link was lost, or never made. -/
  | dropped
  /-- The driver was told to stop. -/
  | stopped
deriving DecidableEq

/-- The client with every waiting call failed. -/
def rejectAll (error : ClientError) (client : Client κ ω) : Client κ ω × Nat :=
  let (calls, count) := client.calls.rejectAll error
  ({ client with calls }, count)

/-- The client after its link went down: the observers are told if it was up, and then the
policy decides about the waiting calls. -/
def wentDown (behave : Behaviour κ ω) (why : SessionEnd) (client : Client κ ω) : Client κ ω :=
  match client.transition behave .disconnected with
  | (client, false) => client
  | (client, true) =>
      if why = .dropped ∧ client.options.pendingPolicy = .fail then
        (client.rejectAll .connectionClosed).1
      else client

/-- The client without a channel; requests that were left in it are held if they may be. -/
def detach (client : Client κ ω) : Client κ ω :=
  let left := client.link.channel.getD []
  left.foldl (fun client frame => (client.hold frame).1)
    { client with
      link := { client.link with channel := none, room := none, prologue := .complete } }

/-- The client after its session ended. -/
def endSession (behave : Behaviour κ ω) (why : SessionEnd) (client : Client κ ω) : Client κ ω :=
  let client := client.detach.wentDown behave why
  match why with
  | .dropped => client.awaitRetry
  | .stopped => client.enter .idle

/-- The client after its attempt failed. -/
def attemptFailed (behave : Behaviour κ ω) (client : Client κ ω) : Client κ ω :=
  (client.wentDown behave .dropped).awaitRetry

/-- The client whose socket is open; the waits start from their beginning. -/
def opened (client : Client κ ω) : Client κ ω :=
  { client with
    link := { client.link with phase := .settling, backoff := client.link.backoff.reset } }

/-! ## A session -/

/-- The client after an attempt to write a frame; a write that fails ends the session. -/
def write (behave : Behaviour κ ω) (frame : Outbound) (client : Client κ ω) : Client κ ω :=
  match client.link.write frame with
  | (link, true) => { client with link }
  | (_, false) => client.endSession behave .dropped

/-- The client whose session has so much of its prologue left. -/
def setPrologue (prologue : Prologue) (client : Client κ ω) : Client κ ω :=
  { client with link := { client.link with prologue } }

/-- The client whose session runs, before anybody is told.  `room` is how many writes the socket
takes, if there is a limit. -/
def openSession (room : Option Nat) (client : Client κ ω) : Client κ ω :=
  { client with
    link := { client.link with
      phase := .live
      prologue := .unread
      channel := some []
      room
      sessions := client.link.sessions + 1 } }

/-- The client whose socket has settled: the session runs, and the observers have been told. -/
def settled (behave : Behaviour κ ω) (room : Option Nat) (client : Client κ ω) : Client κ ω :=
  ((client.openSession room).transition behave .connected).1

/-- The client whose backlog has been taken over into the prologue, as far as its calls wait. -/
def unload (client : Client κ ω) : Client κ ω :=
  { client with
    link := { client.link with
      prologue := .flushing (client.link.backlog.filter client.isLive)
      backlog := [] } }

/-- The client after the next step of its session's prologue: reading the topics, announcing
one, taking over the backlog once all are announced, writing a request, or ending it. -/
def proceed (behave : Behaviour κ ω) (client : Client κ ω) : Client κ ω :=
  match client.link.prologue with
  | .unread => client.setPrologue (.announcing client.subscriptions.topics)
  | .announcing (topic :: left) =>
      (client.setPrologue (.announcing left)).write behave (.subscribe topic)
  | .announcing [] => client.unload
  | .flushing (frame :: left) => (client.setPrologue (.flushing left)).write behave frame
  | .flushing [] => client.setPrologue .complete
  | .complete => client

/-- The client after so many steps of the prologue. -/
def proceedFor (behave : Behaviour κ ω) : Nat → Client κ ω → Client κ ω
  | 0, client => client
  | steps + 1, client => proceedFor behave steps (client.proceed behave)

/-- How many steps of the prologue are left at most. -/
def prologueSteps (client : Client κ ω) : Nat :=
  match client.link.prologue with
  | .unread => client.subscriptions.topicCount + client.link.backlog.length + 3
  | .announcing left => left.length + client.link.backlog.length + 2
  | .flushing left => left.length + 1
  | .complete => 0

/-- The client whose prologue is over, or whose session has ended at a failed write. -/
def finish (behave : Behaviour κ ω) (client : Client κ ω) : Client κ ω :=
  client.proceedFor behave client.prologueSteps

/-- The client whose socket has settled, with the prologue behind it. -/
def goLive (behave : Behaviour κ ω) (room : Option Nat) (client : Client κ ω) : Client κ ω :=
  (client.settled behave room).finish behave

/-- The client after writing the next frame of its channel, if the prologue is over. -/
def emit (behave : Behaviour κ ω) (client : Client κ ω) : Client κ ω :=
  match client.link.prologue, client.link.channel with
  | .complete, some (frame :: queue) =>
      ({ client with link := { client.link with channel := some queue } } : Client κ ω).write
        behave frame
  | _, _ => client

/-- The client after writing so many frames of its channel. -/
def emitFor (behave : Behaviour κ ω) : Nat → Client κ ω → Client κ ω
  | 0, client => client
  | frames + 1, client => emitFor behave frames (client.emit behave)

/-- The client after writing what its channel holds; a write that fails ends the session. -/
def drain (behave : Behaviour κ ω) (client : Client κ ω) : Client κ ω :=
  client.emitFor behave (client.link.channel.getD []).length

/-- The client after a received message was acted upon, and the answer to write, if any. -/
def route (behave : Behaviour κ ω) (text : String) (client : Client κ ω) :
    Client κ ω × Option Outbound :=
  match Inbound.decode text with
  | .error _ => (client, none)
  | .ok (.reply id outcome) => ({ client with calls := (client.calls.settle id outcome).1 }, none)
  | .ok (.push topic data) => ((client.dispatch behave topic data).1, none)
  | .ok (.ping id) => (client, some (.pong id))

/-- The client after its session received a message; the answer, if any, is written at once. -/
def hear (behave : Behaviour κ ω) (text : String) (client : Client κ ω) : Client κ ω :=
  match client.route behave text with
  | (client, none) => client
  | (client, some answer) => client.write behave answer

/-- The client after its session received a message and wrote what its channel holds. -/
def receive (behave : Behaviour κ ω) (text : String) (client : Client κ ω) : Client κ ω :=
  (client.hear behave text).drain behave

/-- The client after its link was lost. -/
def lose (behave : Behaviour κ ω) (client : Client κ ω) : Client κ ω :=
  client.endSession behave .dropped

/-! ## Stopping -/

/-- The client without a driver, which has been stopped wherever it was; only the prologue of a
session is completed first. -/
def stop (behave : Behaviour κ ω) (client : Client κ ω) : Client κ ω :=
  let client := client.finish behave
  match client.link.phase with
  | .idle => client
  | .live => client.endSession behave .stopped
  | _ => (client.wentDown behave .stopped).enter .idle

/-- The client after it was closed: no driver, no backlog, no waiting call. -/
def close (behave : Behaviour κ ω) (client : Client κ ω) : Client κ ω :=
  let client := client.stop behave
  let client := { client with link := { client.link with backlog := [] } }
  ((client.transition behave .disconnected).1.rejectAll .connectionClosed).1

/-! ## Laws -/

theorem connect_malformed (runtime : Bool) (address : String) (client : Client κ ω)
    (reason : Endpoint.Malformed) (bad : Endpoint.parse address = .error reason) :
    client.connect runtime address = (client, .error (.url reason)) := by
  simp [connect, bad]

theorem proceed_complete (behave : Behaviour κ ω) (client : Client κ ω)
    (complete : client.link.prologue = .complete) : client.proceed behave = client := by
  simp [proceed, complete]

theorem route_ping (behave : Behaviour κ ω) (text id : String) (client : Client κ ω)
    (ping : Inbound.decode text = .ok (.ping id)) :
    client.route behave text = (client, some (.pong id)) := by
  simp [route, ping]

end Switchboard.Client
