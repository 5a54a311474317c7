/-
# Switchboard.Client.Run -- everything that can happen to a client, in any order

A run is a list of events, each taken as one step (`Client.run`).  The application
acts, alone or through a scope; tasks learn how their calls ended; the driver takes
its next step, at the points at which it waits for the network or a timer.  An
event that cannot happen at the moment changes nothing, so every list is a run.

Callbacks act as well, while they are told something.  They may do whatever an
application can do in one go (`Client.Act`), as often as they like, but they do not
connect or close: `Behaviour.Within` says that what they do is a list of acts.

* `Client.run_append`: a run goes on where it stopped;
* `Client.performAll_append`: so does a list of acts.
-/
import Switchboard.Client.Calling
import Switchboard.Client.Session
import Switchboard.Scope

namespace Switchboard

set_option autoImplicit false

namespace Client

variable {κ ω : Type}

/-! ## Acts -/

/-- What an application or a callback does with a client in one go. -/
inductive Act (κ ω : Type) where
  | subscribe (topic : Topic) (callback : κ)
  | unsubscribe (handle : HandleId)
  /-- Registers an observer; what it does when it is told the alive bit follows as acts. -/
  | enlist (callback : κ)
  | call (path : Topic) (data : Json) (limit : Option Span)
  | cancel (id : CorrelationId)
  /-- Learns how a call ended. -/
  | conclude (ticket : Nat)
  /-- Sees the deadline of a call pass. -/
  | expire (ticket : Nat)
  /-- Stops waiting for a call. -/
  | abandon (ticket : Nat)
  | setToken (token : Option Json)
  /-- Changes what belongs to the callbacks. -/
  | note (desk : ω)

/-- The client after an act. -/
def Act.perform (act : Act κ ω) (client : Client κ ω) : Client κ ω :=
  match act with
  | .subscribe topic callback => (client.subscribe topic callback).1
  | .unsubscribe handle => (client.unsubscribe handle).1
  | .enlist callback => (client.enlist callback).1
  | .call path data limit => (client.call path data limit).1
  | .cancel id => (client.cancel id).1
  | .conclude ticket => (client.conclude ticket).1
  | .expire ticket => (client.expire ticket).1
  | .abandon ticket => (client.abandon ticket).1
  | .setToken token => client.setToken token
  | .note desk => { client with desk }

/-- The client after a list of acts. -/
def performAll (acts : List (Act κ ω)) (client : Client κ ω) : Client κ ω :=
  acts.foldl (fun client act => act.perform client) client

/-! ## Events -/

/-- What happens to a client in one step. -/
inductive Event (κ ω : Type) where
  /-- The application, or a task of it, acts. -/
  | act (act : Act κ ω)
  /-- The application registers an observer, which is told the alive bit at once. -/
  | observe (callback : κ)
  | unsubscribeAll (handles : List HandleId)
  | dispose (scope : Scope)
  /-- Every task whose call has ended learns so. -/
  | collect
  | connect (runtime : Bool) (address : String)
  | close
  /-- Nobody holds the client any more, and the driver stops. -/
  | shutdown
  | attempt
  /-- The attempt fails, or takes too long. -/
  | attemptFailed
  | opened
  /-- The socket has settled; it takes so many writes, if there is a limit. -/
  | settled (room : Option Nat)
  /-- The driver takes the next step of the session's prologue. -/
  | proceed
  /-- The driver writes the next frame of the channel. -/
  | emit
  | hear (text : String)
  | lose

/-- Whether a session runs and its prologue is over: then the driver waits for messages, for
frames to write and for the signal to stop. -/
def isPumping (client : Client κ ω) : Bool :=
  match client.link.phase, client.link.prologue with
  | .live, .complete => true
  | _, _ => false

/-- The client after an event. -/
def Event.step (behave : Behaviour κ ω) (event : Event κ ω) (client : Client κ ω) :
    Client κ ω :=
  match event with
  | .act deed => deed.perform client
  | .observe callback => (client.observe behave callback).1
  | .unsubscribeAll handles => (client.unsubscribeAll handles).1
  | .dispose scope => (scope.dispose client).2.1
  | .collect => client.collect.1
  | .connect runtime address => (client.connect runtime address).1
  | .close => client.close behave
  | .shutdown => client.stop behave
  | .attempt =>
      if client.link.phase = .starting ∨ client.link.phase = .waiting then client.attempt behave
      else client
  | .attemptFailed =>
      if client.link.phase = .attempting then client.attemptFailed behave else client
  | .opened => if client.link.phase = .attempting then client.opened else client
  | .settled room =>
      if client.link.phase = .settling then client.settled behave room else client
  | .proceed => client.proceed behave
  | .emit => client.emit behave
  | .hear text => if client.isPumping then client.hear behave text else client
  | .lose => if client.isPumping then client.lose behave else client

/-- The client after a list of events. -/
def run (behave : Behaviour κ ω) (events : List (Event κ ω)) (client : Client κ ω) :
    Client κ ω :=
  events.foldl (fun client event => event.step behave client) client

/-- A client that has done nothing yet, whose calls get their identifiers from `candidate`. -/
def start (options : Options) (token : Option Json) (candidate : Nat → CorrelationId) (desk : ω) :
    Client κ ω :=
  { new options token desk with candidate }

/-! ## What may happen -/

/-- What may happen in a run. -/
structure Licence (κ ω : Type) where
  /-- The acts of the application, of its tasks and of callbacks. -/
  act : Act κ ω → Prop
  /-- How many writes a socket takes. -/
  room : Option Nat → Prop

/-- Anything may happen. -/
def Licence.free : Licence κ ω := ⟨fun _ => True, fun _ => True⟩

/-- Whether an event is allowed. -/
def Event.Within (licence : Licence κ ω) : Event κ ω → Prop
  | .act deed => licence.act deed
  | .observe callback => licence.act (.enlist callback)
  | .unsubscribeAll handles => ∀ handle ∈ handles, licence.act (.unsubscribe handle)
  | .dispose scope => ∀ handle ∈ scope.handles, licence.act (.unsubscribe handle)
  | .collect => ∀ ticket, licence.act (.conclude ticket)
  | .settled room => licence.room room
  | _ => True

end Client

/-- Whether callbacks do nothing but allowed acts, whatever they are told. -/
def Behaviour.Within {κ ω : Type} (allowed : Client.Act κ ω → Prop) (behave : Behaviour κ ω) :
    Prop :=
  ∀ callback signal client, ∃ acts : List (Client.Act κ ω),
    (∀ act ∈ acts, allowed act) ∧ (behave callback signal client).1 = client.performAll acts

namespace Client

variable {κ ω : Type}

theorem performAll_append (first second : List (Act κ ω)) (client : Client κ ω) :
    client.performAll (first ++ second) = (client.performAll first).performAll second :=
  List.foldl_append

theorem run_append (behave : Behaviour κ ω) (first second : List (Event κ ω))
    (client : Client κ ω) :
    client.run behave (first ++ second) = (client.run behave first).run behave second :=
  List.foldl_append

end Client

end Switchboard
