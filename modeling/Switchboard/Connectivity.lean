/-
# Switchboard.Connectivity -- whether the link is up, and who wants to know

The link is down, being made, or up.  Observers are told the alive bit, which is
set exactly while the link is up: once at their registration, then at each flip,
in the order of registration.  Watchers compare the number of changes of state.

* `Connectivity.isAlive_moveTo`: after a move the bit is that of the new state;
* `Connectivity.moveTo_same`: moving to the current state is no change.
-/
import Switchboard.HandleId

namespace Switchboard

set_option autoImplicit false

/-- The state of the link. -/
inductive LinkState where
  /-- There is no link, and no attempt is being made. -/
  | disconnected
  | connecting
  | connected
deriving DecidableEq

/-- Whether the link is up in a state. -/
def LinkState.isConnected : LinkState → Bool
  | .connected => true
  | _ => false

/-- The word for a state. -/
def LinkState.word : LinkState → String
  | .disconnected => "disconnected"
  | .connecting => "connecting"
  | .connected => "connected"

/-- The capitalized word for a state. -/
def LinkState.name : LinkState → String
  | .disconnected => "Disconnected"
  | .connecting => "Connecting"
  | .connected => "Connected"

/-- Whether the link is up, and who wants to know; `κ` is what an observer does. -/
structure Connectivity (κ : Type) where
  state : LinkState := .disconnected
  changes : Nat := 0
  /-- The observers, in the order of registration. -/
  observers : List (HandleId × κ) := []

namespace Connectivity

variable {κ : Type}

/-- Whether the link is up. -/
def isAlive (connectivity : Connectivity κ) : Bool := connectivity.state.isConnected

/-- The connectivity in another state; the current one is no change. -/
def moveTo (connectivity : Connectivity κ) (next : LinkState) : Connectivity κ :=
  if connectivity.state = next then connectivity
  else { connectivity with state := next, changes := connectivity.changes + 1 }

/-- The connectivity with one more observer. -/
def addObserver (connectivity : Connectivity κ) (handle : HandleId) (callback : κ) :
    Connectivity κ :=
  { connectivity with observers := connectivity.observers ++ [(handle, callback)] }

/-- The connectivity without an observer, and whether there was one of the handle. -/
def remove (connectivity : Connectivity κ) (handle : HandleId) : Connectivity κ × Bool :=
  let observers := connectivity.observers.filter (fun entry => entry.1 ≠ handle)
  ({ connectivity with observers }, observers.length != connectivity.observers.length)

theorem state_moveTo (connectivity : Connectivity κ) (next : LinkState) :
    (connectivity.moveTo next).state = next := by
  unfold moveTo
  split
  · assumption
  · rfl

@[simp]
theorem observers_moveTo (connectivity : Connectivity κ) (next : LinkState) :
    (connectivity.moveTo next).observers = connectivity.observers := by
  unfold moveTo
  split <;> rfl

theorem isAlive_moveTo (connectivity : Connectivity κ) (next : LinkState) :
    (connectivity.moveTo next).isAlive = next.isConnected := by
  rw [isAlive, state_moveTo]

theorem moveTo_same (connectivity : Connectivity κ) :
    connectivity.moveTo connectivity.state = connectivity := by
  simp [moveTo]

end Connectivity

end Switchboard
