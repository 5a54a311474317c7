/-
# Switchboard.Rehearsal.Act -- what an application does with its client

In a rehearsal a script plays the application: it subscribes and observes, alone
or within scopes, makes calls, and lets go of the client in the end.  Callbacks
may do all of this as well.  A call shows up under its name with its outcome once
it has one; a reply that is not of the expected shape is a failure of its own.
Once the client has been let go, only scopes can still be looked at and released.

* `Rehearsal.perform_released`: without a client an act that needs one does nothing;
* `Rehearsal.conformed_ok`: an outcome of any shape stays as it is.
-/
import Switchboard.Client.Calling
import Switchboard.Client.Session
import Switchboard.Json.Reader
import Switchboard.Scope
import Switchboard.Script.Stage

namespace Switchboard.Rehearsal

set_option autoImplicit false

open Script

/-- What an application does. -/
inductive Act where
  | idle
  | panic
  | subscribe (label : String) (topic : Topic) (shape : Option Shape) (acts : List Act)
      (scope : Option String)
  | observe (label : String) (acts : List Act) (onlyWhen : Option Bool) (scope : Option String)
  | unsubscribe (handle : HandleRef)
  | unsubscribeAll (handles : List HandleRef)
  | topics
  | scope (name : String)
  | adopt (scope : String) (handle : HandleRef)
  | scopeSize (scope : String)
  | scopeDispose (scope : String)
  | scopeDrop (scope : String)
  | call (name : String) (path : Topic) (data : Option String) (shape : Shape)
      (limit : Option Span)
  | cancel (call : CallRef)
  | pending
  | setToken (token : String)
  | clearToken
  | alive
  | state
  | dropClient

namespace Act

/-- The word for an act. -/
def word : Act → String
  | .idle => "idle"
  | .panic => "panic"
  | .subscribe _ _ _ _ _ => "subscribe"
  | .observe _ _ _ _ => "observe"
  | .unsubscribe _ => "unsubscribe"
  | .unsubscribeAll _ => "unsubscribe_all"
  | .topics => "topics"
  | .scope _ => "scope"
  | .adopt _ _ => "adopt"
  | .scopeSize _ => "scope_len"
  | .scopeDispose _ => "scope_dispose"
  | .scopeDrop _ => "scope_drop"
  | .call _ _ _ _ _ => "call"
  | .cancel _ => "cancel"
  | .pending => "pending"
  | .setToken _ => "set_token"
  | .clearToken => "clear_token"
  | .alive => "alive"
  | .state => "state"
  | .dropClient => "drop_client"

/-- Whether an act needs the client itself. -/
def needsClient : Act → Bool
  | .scopeSize _ | .scopeDispose _ | .scopeDrop _ => false
  | _ => true

end Act

/-- What a call came to, as a script shows it. -/
abbrev Shown := Except Failure Json

/-- What the server received. -/
inductive Received where
  | frame (text : String)
  /-- The socket's own answer to its own ping. -/
  | socketPong (text : String)

/-- What a rehearsal keeps beside its client. -/
structure Props where
  held : Bool := true
  /-- Its scopes by name, latest first. -/
  scopes : List (String × Scope) := []
  /-- The shapes of the replies that calls expect, by registration. -/
  shapes : List (Nat × Shape) := []
  /-- The calls that have ended and not been shown, latest first. -/
  done : List (String × Shown) := []
  /-- What the server received and has not been shown, latest first. -/
  received : List Received := []
  /-- How many of the written frames have been noticed. -/
  noticed : Nat := 0
  /-- Whether the link goes to the script's own server. -/
  ownServer : Bool := true

/-- A client in rehearsal. -/
abbrev State := World Act Props

/-! ## Outcomes -/

/-- A failed call, as the script shows it. -/
def failed (error : ClientError) (state : State) : Shown := .error (World.failure error state)

/-- An outcome in the expected shape. -/
def conformed (shape : Shape) (outcome : Outcome) (state : State) : Shown :=
  match outcome with
  | .error error => failed error state
  | .ok data =>
      match shape.conform data with
      | some data => .ok data
      | none => failed (.json .mismatched) state

/-- The rehearsal in which a call has ended. -/
def finish (name : String) (shown : Shown) (state : State) : State :=
  World.keep (fun props => { props with done := (name, shown) :: props.done }) state

/-- The shape that the call of a registration expects. -/
def shapeOf (state : State) (ticket : Nat) : Shape :=
  ((state.desk.extra.shapes.find? (fun entry => entry.1 = ticket)).map (·.2)).getD .any

/-- The rehearsal in which the call of a registration has ended. -/
def finishTicket (ticket : Nat) (outcome : Outcome) (state : State) : State :=
  match (World.names state).nameOfTicket? ticket with
  | none => state
  | some name => finish name (conformed (shapeOf state ticket) outcome state) state

/-- The rehearsal after every caller whose call has ended was told so. -/
def collect (state : State) : State :=
  let (state, outcomes) := state.collect
  outcomes.foldl (fun state entry => finishTicket entry.1 entry.2 state) state

/-! ## Scopes -/

/-- The scope of a name. -/
def scope? (name : String) (state : State) : Option Scope :=
  (state.desk.extra.scopes.find? (fun entry => entry.1 = name)).map (·.2)

/-- The rehearsal without a scope of a name. -/
def forgetScope (name : String) (state : State) : State :=
  World.keep
    (fun props => { props with scopes := props.scopes.filter (fun entry => entry.1 ≠ name) }) state

/-- The rehearsal with a scope under a name. -/
def setScope (name : String) (scope : Scope) (state : State) : State :=
  World.keep (fun props => { props with scopes := (name, scope) :: props.scopes })
    (forgetScope name state)

/-- The rehearsal in which the scope of a name, if there is one, has released its handles. -/
def disposeScope (name : String) (state : State) : State × Option Nat :=
  match scope? name state with
  | none => (state, none)
  | some scope =>
      let (scope, state, count) := scope.dispose state
      (setScope name scope state, some count)

/-- The rehearsal after a registration within a scope, if one is named. -/
def adoptInto (scope : Option String) (handle : HandleId) (state : State) : State :=
  match scope with
  | none => state
  | some name =>
      match scope? name state with
      | none => state
      | some scope => setScope name (scope.adopt handle) state

/-- Whether a scope is named that does not exist. -/
def lacksScope (scope : Option String) (state : State) : Bool :=
  scope.any (fun name => (scope? name state).isNone)

/-! ## Acts -/

/-- The rehearsal after a handler was registered, and the reply. -/
def subscribe (label : String) (topic : Topic) (callback : Callback Act) (scope : Option String)
    (state : State) : State × Reply :=
  if lacksScope scope state then (state, .unbound)
  else
    match state.subscribe topic callback with
    | (state, .error error) => (state, World.fail error state)
    | (state, .ok handle) =>
        (World.rename (·.bind label handle) (adoptInto scope handle state),
         .registered handle none)

/-- The rehearsal after an observer was registered, and the reply. -/
def observe (conduct : Conduct Act Props) (label : String) (callback : Callback Act)
    (scope : Option String) (state : State) : State × Reply :=
  if lacksScope scope state then (state, .unbound)
  else
    let (state, handle) := state.observe conduct callback
    (World.rename (·.bind label handle) (adoptInto scope handle state), .registered handle none)

/-- The rehearsal after a call with a payload was started, and the reply. -/
def startCall (name : String) (path : Topic) (data : Json) (shape : Shape) (limit : Option Span)
    (state : State) : State × Reply :=
  let name := (World.names state).fresh name
  let state := World.rename (·.use name) state
  match state.call path data (limit <|> state.options.callTimeout) with
  | (state, .failed error) => (finish name (failed error state) state, .word name)
  | (state, .exhausted) => (state, .word name)
  | (state, .waiting awaited) =>
      let state := World.rename (·.learn ⟨name, awaited.id, awaited.ticket⟩) state
      (World.keep (fun props => { props with shapes := (awaited.ticket, shape) :: props.shapes })
        state, .word name)

/-- The rehearsal after a call was started, and the reply.  A call without a payload text
stands for one whose payload has no text, which fails before anything else. -/
def startCallOf (name : String) (path : Topic) (data : Option String) (shape : Shape)
    (limit : Option Span) (state : State) : State × Reply :=
  match data with
  | none =>
      let name := (World.names state).fresh name
      let state := World.rename (·.use name) state
      (finish name (failed (.json .malformed) state) state, .word name)
  | some text =>
      match Json.read text with
      | .error fault => (state, World.fail (.json fault) state)
      | .ok data => startCall name path data shape limit state

/-- The rehearsal after an act that returns, and its reply. -/
def perform (conduct : Conduct Act Props) (act : Act) (state : State) : State × Reply :=
  if act.needsClient && !state.desk.extra.held then (state, .word "no client")
  else
    match act with
    | .idle | .panic => (state, .nothing)
    | .subscribe label topic shape acts scope =>
        subscribe label topic { label, shape, acts } scope state
    | .observe label acts onlyWhen scope =>
        observe conduct label { label, acts, onlyWhen } scope state
    | .unsubscribe handle =>
        match (World.names state).handle? handle with
        | none => (state, .unbound)
        | some handle =>
            let (state, found) := state.unsubscribe handle
            (state, .flag found)
    | .unsubscribeAll handles =>
        let (state, count) := state.unsubscribeAll (handles.filterMap (World.names state).handle?)
        (state, .number count)
    | .topics => (state, .topics state.subscriptions.topics)
    | .scope name => (setScope name {} (disposeScope name state).1, .nothing)
    | .adopt name handle =>
        match scope? name state, (World.names state).handle? handle with
        | some scope, some handle =>
            (setScope name (scope.adopt handle) state, .number handle.toNat)
        | _, _ => (state, .unbound)
    | .scopeSize name =>
        match scope? name state with
        | none => (state, .unbound)
        | some scope => (state, .scope scope.size scope.isEmpty scope.summary)
    | .scopeDispose name =>
        match disposeScope name state with
        | (state, none) => (state, .unbound)
        | (state, some count) => (state, .number count)
    | .scopeDrop name =>
        match disposeScope name state with
        | (state, none) => (state, .unbound)
        | (state, some _) => (forgetScope name state, .nothing)
    | .call name path data shape limit => startCallOf name path data shape limit state
    | .cancel call =>
        match (World.names state).id? call with
        | none => (state, .unbound)
        | some id =>
            let (state, found) := state.cancel id
            (state, .flag found)
    | .pending => (state, .outstanding state.calls.size (World.pending state))
    | .setToken token =>
        match Json.read token with
        | .error fault => (state, World.fail (.json fault) state)
        | .ok token => (state.setToken (some token), .nothing)
    | .clearToken => (state.setToken none, .nothing)
    | .alive => (state, .flag state.isAlive)
    | .state => (state, .clientState state.state state.isAlive state.summary)
    | .dropClient => (World.keep (fun props => { props with held := false }) state, .nothing)

/-- The rehearsal after an act, and its reply unless it panicked; without the client there is
nothing to panic over. -/
def carryOut (conduct : Conduct Act Props) (act : Act) (state : State) : State × Option Reply :=
  match act, state.desk.extra.held with
  | .panic, true => (state, none)
  | act, _ =>
      let (state, reply) := perform conduct act state
      (state, some reply)

/-- The acts of callbacks. -/
def language : Language Act Props := ⟨Act.word, carryOut⟩

/-- What callbacks do when a step of the script itself tells them something. -/
def conduct : Conduct Act Props := language.conduct

theorem perform_released (conduct : Conduct Act Props) (act : Act) (state : State)
    (needs : act.needsClient = true) (released : state.desk.extra.held = false) :
    perform conduct act state = (state, .word "no client") := by
  simp [perform, needs, released]

theorem conformed_ok (data : Json) (state : State) : conformed .any (.ok data) state = .ok data := by
  simp [conformed, Shape.conform_any]

end Switchboard.Rehearsal
