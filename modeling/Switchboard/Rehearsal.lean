/-
# Switchboard.Rehearsal -- a client against a scripted server

A rehearsal plays both sides of a session: the application (`Rehearsal.Act`) and
the network.  Every step is taken to rest: the driver goes as far as it can
without a long wait, what was sent is received, and what has ended is told.  Time
passes only where a step waits for it, and then only up to `Rehearsal.patience`:
shorter spans pass, longer ones never do.

The script's own server may be out of reach (`Server.silent`): then attempts to
connect to it neither succeed nor fail by themselves, and a step that waits for
one waits in vain.  A rehearsal in which a step waits in vain has no answers
(`Rehearsal.run?`).

* `Rehearsal.runSteps?_length`: every step has one answer;
* `Rehearsal.accept?_silent`: nothing reaches a server that is out of reach;
* `Rehearsal.runSteps?_of_silent`: a script that waits for no server comes to the same with any.
-/
import Switchboard.Builder
import Switchboard.Rehearsal.Act

namespace Switchboard.Rehearsal

set_option autoImplicit false

open Script

/-! ## The network side -/

/-- Whether the script's own server can be reached. -/
inductive Server where
  /-- Attempts arrive there, and the script decides about them. -/
  | answering
  /-- Nothing arrives there. -/
  | silent
deriving DecidableEq

/-- What the server does once an attempt has arrived. -/
inductive Acceptance where
  /-- It opens the socket, which settles. -/
  | settled
  /-- It opens the socket, and the client waits for it to settle. -/
  | settling
  /-- It opens the socket and resets it while it settles. -/
  | reset
deriving DecidableEq

/-- What the server sends. -/
inductive Delivery where
  /-- A message of text, with placeholders. -/
  | text (text : String)
  /-- A message of these bytes, which are a text only if they are well-formed. -/
  | bytes (bytes : ByteArray)
  /-- The socket's own ping. -/
  | socketPing (text : String)

/-- A step of a rehearsal. -/
inductive Step where
  /-- The application acts; after a call it may wait until that has ended. -/
  | act (deed : Act) (waits : Bool)
  /-- The application connects, to the script's own server unless an address is given; the
  driver may be left unstarted. -/
  | connect (address : Option String) (rests : Bool)
  | accept (how : Acceptance)
  | refuse
  | deliver (items : List Delivery)
  | lose
  | waitState (target : LinkState)
  | close
  | abort (name : String)

/-- Whether a step needs the client itself. -/
def Step.needsClient : Step → Bool
  | .act deed _ => deed.needsClient
  | .deliver _ | .abort _ => false
  | _ => true

/-- What a step comes to. -/
structure Answer where
  reply : Reply
  log : List Line
  /-- The calls that ended during it. -/
  done : List (String × Shown)
  /-- What the server received during it. -/
  received : List Received
  /-- Whether the client closed its socket during it. -/
  closed : Bool

/-- Where the script's own server is. -/
def ownAddress : String := "ws://localhost/"

/-- How long a step waits at most. -/
def patience : Span := Span.ofMillis 1000

/-! ## Coming to rest -/

/-- The rehearsal after the server received what has been written. -/
def notice (state : State) : State :=
  let fresh := state.link.written.drop state.desk.extra.noticed
  let frames := fresh.map (fun sent => Received.frame (World.frameText sent.frame state))
  World.keep (fun props =>
    { props with
      received := frames.reverse ++ props.received
      noticed := state.link.written.length }) state

/-- Whether nobody holds the client: not the application, no scope, no waiting caller. -/
def isReleased (state : State) : Bool :=
  !state.desk.extra.held && state.desk.extra.scopes.isEmpty && state.awaited.isEmpty

/-- The rehearsal after the driver's next step, if that needs no long wait. -/
def advance? (state : State) : Option State :=
  match state.link.phase with
  | .starting => some (state.attempt conduct)
  | .attempting =>
      if state.desk.extra.ownServer then none else some (state.attemptFailed conduct)
  | .waiting => if state.link.delay < patience then some (state.attempt conduct) else none
  | .idle | .settling | .live => none

/-- The rehearsal after at most so many steps of the driver. -/
def advance : Nat → State → State
  | 0, state => state
  | steps + 1, state =>
      match advance? state with
      | none => state
      | some state => advance steps state

/-- How many steps the driver takes at most before an attempt is made again. -/
def stepsToAttempt : Nat := 3

/-- The rehearsal with everything written, told and received. -/
def settle (state : State) : State := notice (collect (state.drain conduct))

/-- The rehearsal at rest; `drives` tells whether the driver may run. -/
def rest (drives : Bool) (state : State) : State :=
  let state := settle state
  if isReleased state then settle (state.stop conduct)
  else if drives then settle (advance stepsToAttempt state)
  else state

/-! ## Waiting -/

/-- The rehearsal after the driver's next step, or after the current attempt took too long. -/
def elapse? (state : State) : Option State :=
  match advance? state with
  | some state => some state
  | none =>
      if state.link.phase = .attempting ∧ state.options.connectTimeout < patience then
        some (state.attemptFailed conduct)
      else none

/-- The rehearsal once the link is in a state, within so many steps of the driver. -/
def waitFor? (target : LinkState) : Nat → State → Option State
  | 0, state => if state.state = target then some state else none
  | steps + 1, state =>
      if state.state = target then some state else (elapse? state).bind (waitFor? target steps)

/-- The rehearsal after the deadline of a call that still waits has passed. -/
def expire? (state : State) (awaited : Awaited) : Option State :=
  match awaited.limit with
  | none => none
  | some limit =>
      if limit < patience then
        match state.expire awaited.ticket with
        | (state, some outcome) => some (finishTicket awaited.ticket outcome state)
        | (state, none) => some state
      else none

/-- The rehearsal once the calls registered from `first` on have ended. -/
def awaitCalls? (first : Nat) (state : State) : Option State :=
  (state.awaited.filter (fun awaited => first ≤ awaited.ticket)).foldlM expire? state

/-! ## Steps -/

/-- The rehearsal once an attempt has arrived at the server. -/
def arrive? (server : Server) (state : State) : Option State :=
  let state := advance stepsToAttempt state
  if server = .answering ∧ state.link.phase = .attempting ∧ state.desk.extra.ownServer then
    some state
  else none

/-- The rehearsal after the server accepted an attempt, unless that waits in vain. -/
def accept? (server : Server) (how : Acceptance) (state : State) : Option State :=
  match arrive? server state with
  | none => none
  | some state =>
      let state : State := state.opened
      if patience ≤ state.options.settleDelay then
        if how = .settling then some state else none
      else if how = .reset then
        let state : State := state.goLive conduct (some 0)
        if state.link.phase = .live then some (state.lose conduct) else some state
      else some (state.goLive conduct none)

/-- The rehearsal after the server refused an attempt, unless that waits in vain. -/
def refuse? (server : Server) (state : State) : Option State :=
  (arrive? server state).map (fun state => state.attemptFailed conduct)

/-- The rehearsal after the client received one item. -/
def deliver (state : State) : Delivery → State
  | .text text => settle (state.receive conduct ((World.names state).expand text))
  | .bytes bytes =>
      match String.fromUTF8? bytes with
      | some text => settle (state.receive conduct text)
      | none => state
  | .socketPing text =>
      World.keep (fun props => { props with received := .socketPong text :: props.received })
        (notice state)

/-- The rehearsal after the application connected, and the reply. -/
def connect (address : Option String) (state : State) : State × Reply :=
  match state.connect true (address.getD ownAddress) with
  | (state, .ok ()) =>
      (World.keep (fun props => { props with ownServer := address.isNone }) state, .ok)
  | (state, .error error) => (state, World.fail error state)

/-- The rehearsal after a caller went away, and the reply. -/
def abort (name : String) (state : State) : State × Reply :=
  match (World.names state).call? name with
  | none => (state, .unbound)
  | some call =>
      match state.abandon call.ticket with
      | (state, true) => (state, .flag true)
      | (state, false) => (state, .unbound)

/-- The rehearsal after a step before it comes to rest, and the reply, unless the step waits in
vain. -/
def perform? (server : Server) (step : Step) (state : State) : Option (State × Reply) :=
  if step.needsClient && !state.desk.extra.held then some (state, .word "no client")
  else
    match step with
    | .act deed waits =>
        let first := state.calls.registrations
        let (state, reply) := Rehearsal.perform conduct deed state
        if waits then (awaitCalls? first (settle state)).map (fun state => (state, reply))
        else some (state, reply)
    | .connect address _ => some (connect address state)
    | .accept how => (accept? server how state).map (fun state => (state, .ok))
    | .refuse => (refuse? server state).map (fun state => (state, .ok))
    | .deliver items =>
        if state.link.phase = .live then some (items.foldl deliver state, .ok)
        else some (state, .word "no link")
    | .lose =>
        if state.link.phase = .live then some (state.lose conduct, .ok)
        else some (state, .word "no link")
    | .waitState target =>
        (waitFor? target (stepsToAttempt + 1) state).map (fun state => (state, .word target.word))
    | .close => some (state.close conduct, .nothing)
    | .abort name => some (abort name state)

/-- Whether the driver may run at the end of a step. -/
def Step.drives : Step → Bool
  | .connect _ rests => rests
  | _ => true

/-- The rehearsal with nothing left to show, and what there was. -/
def present (reply : Reply) (closed : Bool) (state : State) : State × Answer :=
  let (state, log) := World.takeLog state
  (World.keep (fun props => { props with done := [], received := [] }) state,
   { reply, log, closed
     done := state.desk.extra.done.reverse
     received := state.desk.extra.received.reverse })

/-- The rehearsal after a step, and what that comes to, unless the step waits in vain. -/
def step? (server : Server) (step : Step) (state : State) : Option (State × Answer) :=
  (perform? server step state).map (fun (after, reply) =>
    let after := rest step.drives after
    present reply (state.link.phase = .live ∧ after.link.phase = .idle) after)

/-- The answers to the steps of a script, unless one waits in vain. -/
def runSteps? (server : Server) (state : State) : List Step → Option (List Answer)
  | [] => some []
  | step :: steps =>
      match step? server step state with
      | none => none
      | some (state, answer) => (runSteps? server state steps).map (answer :: ·)

/-- The options that a rehearsal starts from: the driver hardly waits. -/
def quickOptions : Options :=
  { reconnectInterval := Span.ofMillis 1
    maxReconnectInterval := Span.ofMillis 1
    settleDelay := Span.zero }

/-- The answers to a script with a new client, or why there is no client; none if a step waits
in vain. -/
def run? (server : Server) (preparation : List Builder.Step) (script : List Step) :
    Except ClientError (Option (List Answer)) :=
  match (({ options := quickOptions } : Builder).run preparation).build { extra := {} } with
  | .error error => .error error
  | .ok state => .ok (runSteps? server state script)

theorem accept?_silent (how : Acceptance) (state : State) : accept? .silent how state = none := by
  simp [accept?, arrive?]

theorem refuse?_silent (state : State) : refuse? .silent state = none := by
  simp [refuse?, arrive?]

theorem runSteps?_length (server : Server) (state : State) (steps : List Step)
    (answers : List Answer) (ends : runSteps? server state steps = some answers) :
    answers.length = steps.length := by
  induction steps generalizing state answers with
  | nil => simp_all [runSteps?]
  | cons step steps hypothesis =>
      rw [runSteps?] at ends
      split at ends
      · exact absurd ends (by simp)
      · rename_i state answer _
        obtain ⟨others, rest, rfl⟩ := Option.map_eq_some_iff.1 ends
        simp [hypothesis state others rest]

/-- A step that comes to its end without a server comes to the same with one. -/
theorem step?_of_silent (server : Server) {step : Step} {state after : State} {answer : Answer}
    (ends : step? .silent step state = some (after, answer)) :
    step? server step state = some (after, answer) := by
  have same : perform? server step state = perform? .silent step state := by
    cases step with
    | accept how =>
        cases held : state.desk.extra.held with
        | true => simp [step?, perform?, held, accept?_silent] at ends
        | false => simp [perform?, Step.needsClient, held]
    | refuse =>
        cases held : state.desk.extra.held with
        | true => simp [step?, perform?, held, refuse?_silent] at ends
        | false => simp [perform?, Step.needsClient, held]
    | _ => rfl
  rw [step?, same]
  exact ends

/-- **What a script comes to that never waits for a server does not depend on the server.** -/
theorem runSteps?_of_silent (server : Server) {steps : List Step} {state : State}
    {answers : List Answer} (ends : runSteps? .silent state steps = some answers) :
    runSteps? server state steps = some answers := by
  induction steps generalizing state answers with
  | nil => exact ends
  | cons step steps ih =>
      rw [runSteps?] at ends ⊢
      cases found : step? .silent step state with
      | none => simp [found] at ends
      | some reached =>
          obtain ⟨after, answer⟩ := reached
          rw [found] at ends
          obtain ⟨others, rest, rfl⟩ := Option.map_eq_some_iff.1 ends
          simp [step?_of_silent server found, ih rest]

/- A request that was queued follows the announcement of a topic. -/
set_option maxRecDepth 2048 in
example : run? .answering [.set .queueCalls] [
      .act (.subscribe "seen" ⟨["arena", "state"]⟩ none [] none) false,
      .act (.call "a" ⟨["arena", "state"]⟩ (some "null") .any none) false, .connect none true,
      .accept .settled] =
    .ok (some [⟨.registered (.ofNat 1) none, [], [], [], false⟩, ⟨.word "a", [], [], [], false⟩,
      ⟨.ok, [], [], [], false⟩,
      ⟨.ok, [], [],
        [.frame
            "\x7b\"message_id\":\"<fresh>\",\"path\":\"subscribe\",\"data\":\"arena/state\"\x7d",
          .frame "\x7b\"message_id\":\"<a>\",\"path\":\"arena/state\",\"data\":null\x7d"],
        false⟩]) := by cbv

/- A call outlives the loss of its link, and is answered in the next session. -/
set_option maxRecDepth 2048 in
example : run? .answering [] [.connect none true, .accept .settled,
      .act (.call "a" ⟨["arena", "state"]⟩ (some "null") .any none) false, .lose,
      .act .pending false, .accept .settled,
      .deliver [.text "\x7b\"replying_to\":\"$\x7ba\x7d\",\"data\":true\x7d"], .close] =
    .ok (some [⟨.ok, [], [], [], false⟩, ⟨.ok, [], [], [], false⟩,
      ⟨.word "a", [], [],
        [.frame "\x7b\"message_id\":\"<a>\",\"path\":\"arena/state\",\"data\":null\x7d"], false⟩,
      ⟨.ok, [], [], [], false⟩, ⟨.outstanding 1 [("a", ⟨["arena", "state"]⟩)], [], [], [], false⟩,
      ⟨.ok, [], [], [], false⟩, ⟨.ok, [], [("a", .ok (.bool true))], [], false⟩,
      ⟨.nothing, [], [], [], true⟩]) := by cbv

end Switchboard.Rehearsal
