/-
# Switchboard.Bench -- a client's parts, tried one by one

On a bench the parts of a client share one state, and nothing drives the link: a
script registers handlers and calls, hands in received texts, moves the link
between its states, and looks at everything in between.  A call's outcome stays
with its receiver until it is taken.

* `Bench.perform_panic`: the act that panics leaves the bench as it was;
* `Bench.runSteps_length`: every step has one answer.
-/
import Switchboard.Client.Calling
import Switchboard.Client.Session
import Switchboard.Client.Subscribing
import Switchboard.Json.Reader
import Switchboard.Script.Stage

namespace Switchboard.Bench

set_option autoImplicit false

open Script

/-- A frame whose payloads are still texts. -/
inductive Draft where
  | subscribe (topic : Topic)
  | unsubscribe (topic : Topic)
  | pong (replyTo : String)
  | request (call : CallRef) (path : Topic) (data : String) (token : Option String)

/-- Why a call is ended from outside. -/
inductive Rejection where
  | connectionClosed
  | cancelled
  | requestTimeout (millis : Nat)
  | protocol (text : String)

/-- The error that a call is ended with. -/
def Rejection.error (id : CorrelationId) : Rejection → ClientError
  | .connectionClosed => .connectionClosed
  | .cancelled => .cancelled id
  | .requestTimeout millis => .requestTimeout id millis
  | .protocol text => .protocol text

/-- A step on the bench. -/
inductive Step where
  | subscribe (label : String) (topic : Topic) (acts : List Step)
  | unsubscribe (handle : HandleRef)
  | dispatch (topic : Topic) (data : String)
  | topics
  | containsHandle (handle : HandleRef)
  | topicOf (handle : HandleRef)
  | counts
  | register (name : String) (path : Topic)
  | settle (call : CallRef) (reply : Except String String)
  | reject (call : CallRef) (why : Rejection)
  | rejectAll (error : ClientError)
  | remove (call : CallRef)
  | containsCall (call : CallRef)
  | pending
  | receive (name : String)
  | dropReceiver (name : String)
  | raw (text : String)
  | observe (label : String) (acts : List Step) (onlyWhen : Option Bool)
  | unobserve (handle : HandleRef)
  | transition (next : LinkState)
  | state
  | watch (label : String)
  | pollWatch (label : String)
  | send (draft : Draft)
  | discard (call : CallRef)
  | connect (address : String)
  | shutdown
  | close
  | panic

/-- The word for a step. -/
def Step.word : Step → String
  | .subscribe _ _ _ => "subscribe"
  | .unsubscribe _ => "unsubscribe"
  | .dispatch _ _ => "dispatch"
  | .topics => "topics"
  | .containsHandle _ => "contains_handle"
  | .topicOf _ => "topic_of"
  | .counts => "counts"
  | .register _ _ => "register"
  | .settle _ _ => "settle"
  | .reject _ _ => "reject"
  | .rejectAll _ => "reject_all"
  | .remove _ => "remove"
  | .containsCall _ => "contains_call"
  | .pending => "pending"
  | .receive _ => "recv"
  | .dropReceiver _ => "drop_receiver"
  | .raw _ => "raw"
  | .observe _ _ _ => "observe"
  | .unobserve _ => "unobserve"
  | .transition _ => "transition"
  | .state => "state"
  | .watch _ => "watch"
  | .pollWatch _ => "poll_watch"
  | .send _ => "send"
  | .discard _ => "discard"
  | .connect _ => "connect"
  | .shutdown => "shutdown"
  | .close => "close"
  | .panic => "panic"

/-- What a bench keeps beside its client. -/
structure Fittings where
  receivers : List String := []
  taken : List String := []
  /-- How many changes of state each watcher has seen, latest watcher first. -/
  watchers : List (String × Nat) := []

/-- A client on a bench. -/
abbrev State := World Step Fittings

/-- A bench that nothing has happened on. -/
def start (options : Options) : State := Client.new options none { extra := {} }

/-! ## References -/

/-- Carries on with the handle of a reference, if it means one. -/
def withHandle (handle : HandleRef) (bench : State)
    (go : HandleId → State × Option Reply) : State × Option Reply :=
  match (World.names bench).handle? handle with
  | none => (bench, some .unbound)
  | some handle => go handle

/-- Carries on with the identifier of a reference, if it means one. -/
def withId (call : CallRef) (bench : State)
    (go : CorrelationId → State × Option Reply) : State × Option Reply :=
  match (World.names bench).id? call with
  | none => (bench, some .unbound)
  | some id => go id

/-- Carries on with the payload of a text, if it is one. -/
def withPayload (text : String) (bench : State) (go : Json → State × Option Reply) :
    State × Option Reply :=
  match Json.read text with
  | .error fault => (bench, some (World.fail (.json fault) bench))
  | .ok data => go data

/-- Carries on with the frame of a draft, if its call and its payloads are there. -/
def withFrame (draft : Draft) (bench : State) (go : Outbound → State × Option Reply) :
    State × Option Reply :=
  match draft with
  | .subscribe topic => go (.subscribe topic)
  | .unsubscribe topic => go (.unsubscribe topic)
  | .pong replyTo => go (.pong replyTo)
  | .request call path data token =>
      withId call bench fun id =>
        withPayload data bench fun data =>
          match token with
          | none => go (.request id path data none)
          | some token =>
              withPayload token bench fun token => go (.request id path data (some token))

/-! ## Receivers and watchers -/

/-- The bench after a look at the receiver of a call, and what it holds. -/
def receive (name : String) (bench : State) : State × Reply :=
  if name ∉ bench.desk.extra.receivers then (bench, .unbound)
  else
    match (World.names bench).call? name with
    | none => (bench, .unbound)
    | some call =>
        match bench.calls.ending? call.ticket with
        | none => (bench, .word "empty")
        | some .closed => (bench, .word "closed")
        | some (.resolved outcome) =>
            if name ∈ bench.desk.extra.taken then (bench, .word "closed")
            else
              (World.keep (fun kept => { kept with taken := name :: kept.taken }) bench,
               match outcome with
               | .ok data => .received data
               | .error error => World.fail error bench)

/-- The bench without the receiver of a call, and whether there was one. -/
def dropReceiver (name : String) (bench : State) : State × Reply :=
  if name ∈ bench.desk.extra.receivers then
    (World.keep (fun kept => { kept with receivers := kept.receivers.filter (· ≠ name) }) bench,
     .flag true)
  else (bench, .flag false)

/-- The bench with a watcher that has seen the current state. -/
def watch (label : String) (bench : State) : State :=
  World.keep (fun kept =>
    { kept with watchers := (label, bench.connectivity.changes) :: kept.watchers }) bench

/-- The bench after a watcher has looked, and what it saw. -/
def pollWatch (label : String) (bench : State) : State × Reply :=
  match bench.desk.extra.watchers.find? (fun entry => entry.1 = label) with
  | none => (bench, .unbound)
  | some (_, seen) =>
      (watch label bench, .watched (seen != bench.connectivity.changes) bench.state)

/-! ## Steps -/

/-- How much there is of everything. -/
def counts (bench : State) : Counts where
  topics := bench.subscriptions.topicCount
  handlers := bench.subscriptions.handlerCount
  pending := bench.calls.size
  capacity := bench.calls.capacity
  observers := bench.connectivity.observers.length
  backlog := bench.link.backlog.length

/-- The bench with one more call, and what became of it. -/
def register (name : String) (path : Topic) (bench : State) : State × Reply :=
  match bench.enroll path with
  | (bench, .admitted call) =>
      let name := (World.names bench).fresh name
      let bench :=
        World.rename (fun names => (names.use name).learn ⟨name, call.id, call.ticket⟩) bench
      (World.keep (fun kept => { kept with receivers := name :: kept.receivers }) bench,
       .word name)
  | (bench, .refused pending capacity) =>
      (bench, World.fail (.tooManyPending pending capacity) bench)
  | (bench, .exhausted) => (bench, .word "exhausted")

/-- The reply that tells what releasing a handle did. -/
def removalReply : Removal → Reply
  | .unknown => .word "unknown"
  | .removed => .word "removed"
  | .lastForTopic topic => .lastForTopic topic

/-- The bench with another table of calls, and a reply. -/
def withCalls (bench : State) (result : CallTable × Bool) : State × Option Reply :=
  ({ bench with calls := result.1 }, some (.flag result.2))

/-- The bench after a step, and its reply unless it panicked. -/
def perform (conduct : Conduct Step Fittings) (step : Step) (bench : State) :
    State × Option Reply :=
  match step with
  | .subscribe label topic acts =>
      let (bench, handle, first) := bench.register topic { label, acts }
      (World.rename (·.bind label handle) bench, some (.registered handle (some first)))
  | .unsubscribe handle =>
      withHandle handle bench fun handle =>
        let (bench, removal) := bench.release handle
        (bench, some (removalReply removal))
  | .dispatch topic data =>
      withPayload data bench fun data =>
        let (bench, count) := bench.dispatch conduct topic data
        (bench, some (.number count))
  | .topics => (bench, some (.topics bench.subscriptions.topics))
  | .containsHandle handle =>
      withHandle handle bench fun handle =>
        (bench, some (.flag (bench.subscriptions.contains handle)))
  | .topicOf handle =>
      withHandle handle bench fun handle =>
        (bench, some (.topicOf (bench.subscriptions.topicOf handle)))
  | .counts => (bench, some (.counts (counts bench)))
  | .register name path =>
      let (bench, reply) := register name path bench
      (bench, some reply)
  | .settle call (.ok data) =>
      withId call bench fun id =>
        withPayload data bench fun data => withCalls bench (bench.calls.settle id (.ok data))
  | .settle call (.error message) =>
      withId call bench fun id => withCalls bench (bench.calls.settle id (.error message))
  | .reject call why =>
      withId call bench fun id => withCalls bench (bench.calls.reject id (why.error id))
  | .rejectAll error =>
      let (bench, count) := bench.rejectAll error
      (bench, some (.number count))
  | .remove call => withId call bench fun id => withCalls bench (bench.calls.remove id)
  | .containsCall call =>
      withId call bench fun id => (bench, some (.flag (bench.calls.contains id)))
  | .pending => (bench, some (.pending (World.pending bench)))
  | .receive name =>
      let (bench, reply) := receive name bench
      (bench, some reply)
  | .dropReceiver name =>
      let (bench, reply) := dropReceiver name bench
      (bench, some reply)
  | .raw text =>
      let (bench, answer) := bench.route conduct ((World.names bench).expand text)
      (bench, some (.answer (answer.map (fun frame => World.frameText frame bench))))
  | .observe label acts onlyWhen =>
      let (bench, handle) := bench.observe conduct { label, acts, onlyWhen }
      (World.rename (·.bind label handle) bench, some (.registered handle none))
  | .unobserve handle =>
      withHandle handle bench fun handle =>
        let (bench, found) := bench.unobserve handle
        (bench, some (.flag found))
  | .transition next =>
      let (bench, flipped) := bench.transition conduct next
      (bench, some (.flag flipped))
  | .state =>
      (bench, some (.linkState bench.state bench.isAlive bench.link.isRunning
        (bench.state = .disconnected)))
  | .watch label => (watch label bench, some (.word bench.state.word))
  | .pollWatch label =>
      let (bench, reply) := pollWatch label bench
      (bench, some reply)
  | .send draft =>
      withFrame draft bench fun frame =>
        let (bench, sent) := bench.send frame
        (bench, some (.flag sent))
  | .discard call =>
      withId call bench fun id =>
        let (bench, found) := bench.discard id
        (bench, some (.flag found))
  | .connect address =>
      match bench.connect false address with
      | (bench, .ok ()) => (bench, some .ok)
      | (bench, .error error) => (bench, some (World.fail error bench))
  | .shutdown => (bench.stop conduct, some .nothing)
  | .close => (bench.close conduct, some .nothing)
  | .panic => (bench, none)

/-- The steps as acts of callbacks. -/
def language : Language Step Fittings := ⟨Step.word, perform⟩

/-- What one step of the script comes to. -/
structure Answer where
  reply : Reply
  log : List Line

/-- The bench after a step of the script itself, and what that comes to. -/
def step (bench : State) (step : Step) : State × Answer :=
  let (bench, reply) := perform language.conduct step bench
  let (bench, log) := World.takeLog bench
  (bench, ⟨reply.getD .nothing, log⟩)

/-- The answers to the steps of a script. -/
def runSteps (bench : State) : List Step → List Answer
  | [] => []
  | next :: steps =>
      let (bench, answer) := step bench next
      answer :: runSteps bench steps

/-- The answers to a script on a new bench. -/
def run (options : Options) (steps : List Step) : List Answer := runSteps (start options) steps

theorem perform_panic (conduct : Conduct Step Fittings) (bench : State) :
    perform conduct .panic bench = (bench, none) := rfl

theorem runSteps_length (bench : State) (steps : List Step) :
    (runSteps bench steps).length = steps.length := by
  induction steps generalizing bench with
  | nil => rfl
  | cons next steps hypothesis => simp [runSteps, hypothesis]

end Switchboard.Bench
