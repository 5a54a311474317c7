/-
# Switchboard.Client.Delivery -- telling handlers and observers

Both kinds of delivery work on a snapshot: whoever was registered when it began
is told, in the order of registration, whatever the callbacks do meanwhile.

* `Client.dispatch` tells the handlers that match a pushed topic, and counts them;
* `Client.transition` moves the link to a state, and tells the observers if the
  alive bit flipped;
* `Client.observe` registers an observer and tells it the current bit at once.

Statements: `Client.dispatch_count`, `Client.transition_still` (no flip, nobody is
told).
-/
import Switchboard.Client

namespace Switchboard.Client

set_option autoImplicit false

variable {κ ω : Type}

/-- The client after a push was delivered, and to how many handlers. -/
def dispatch (behave : Behaviour κ ω) (topic : Topic) (data : Json) (client : Client κ ω) :
    Client κ ω × Nat :=
  let matched := client.subscriptions.matching topic
  (notifyAll behave (.push topic data) client matched, matched.length)

/-- The client whose link is in another state, before anybody is told. -/
def moveTo (next : LinkState) (client : Client κ ω) : Client κ ω :=
  { client with connectivity := client.connectivity.moveTo next }

/-- The client after its link moved to a state, and whether the alive bit flipped. -/
def transition (behave : Behaviour κ ω) (next : LinkState) (client : Client κ ω) :
    Client κ ω × Bool :=
  if client.isAlive = next.isConnected then (client.moveTo next, false)
  else
    (notifyAll behave (.alive next.isConnected) (client.moveTo next)
      client.connectivity.observers, true)

/-- The client with one more observer, which has not been told anything, and its handle. -/
def enlist (callback : κ) (client : Client κ ω) : Client κ ω × HandleId :=
  let (client, handle) := client.drawHandle
  ({ client with connectivity := client.connectivity.addObserver handle callback }, handle)

/-- The client with one more observer, which has been told the alive bit, and its handle. -/
def observe (behave : Behaviour κ ω) (callback : κ) (client : Client κ ω) :
    Client κ ω × HandleId :=
  let (client, handle) := client.enlist callback
  (notify behave callback (.alive client.isAlive) client, handle)

theorem dispatch_count (behave : Behaviour κ ω) (topic : Topic) (data : Json)
    (client : Client κ ω) :
    (client.dispatch behave topic data).2 = (client.subscriptions.matching topic).length := rfl

theorem transition_still (behave : Behaviour κ ω) (next : LinkState) (client : Client κ ω)
    (still : client.isAlive = next.isConnected) :
    client.transition behave next = (client.moveTo next, false) := by
  simp [transition, still]

end Switchboard.Client
