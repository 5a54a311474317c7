/-
# Switchboard.Client.Subscribing -- registering and releasing handles

The first handler of a topic announces it to the server while the link is up;
when it is down, the next session announces all topics anyway.  The last handler
to leave withdraws the topic, if the options say so and the link is up.  Handlers
and observers are released alike, by their handle.

* `Client.subscribe_empty`: an empty topic is refused and draws no handle;
* `Client.unsubscribeAll_nil`: releasing nothing releases nothing.
-/
import Switchboard.Client.Sending

namespace Switchboard.Client

set_option autoImplicit false

variable {κ ω : Type}

/-- The failure of a subscription to an empty topic. -/
def emptyTopic : ClientError := .invalidTopic "subscription topic must not be empty"

/-- The client with one more handler, its handle, and whether it is the first of its topic;
nothing is announced. -/
def register (topic : Topic) (callback : κ) (client : Client κ ω) :
    Client κ ω × HandleId × Bool :=
  let (client, handle) := client.drawHandle
  let (subscriptions, first) := client.subscriptions.subscribe handle topic callback
  ({ client with subscriptions }, handle, first)

/-- The client after the first handler of a topic was registered. -/
def announce (topic : Topic) (client : Client κ ω) : Client κ ω :=
  if client.isAlive then (client.send (.subscribe topic)).1 else client

/-- The client with one more handler, and its handle. -/
def subscribe (topic : Topic) (callback : κ) (client : Client κ ω) :
    Client κ ω × Except ClientError HandleId :=
  if topic.isEmpty then (client, .error emptyTopic)
  else
    let (client, handle, first) := client.register topic callback
    (if first then client.announce topic else client, .ok handle)

/-- The client without a handler, and what that did; nothing is withdrawn. -/
def release (handle : HandleId) (client : Client κ ω) : Client κ ω × Removal :=
  let (subscriptions, removal) := client.subscriptions.unsubscribe handle
  ({ client with subscriptions }, removal)

/-- The client without an observer, and whether there was one of the handle. -/
def unobserve (handle : HandleId) (client : Client κ ω) : Client κ ω × Bool :=
  let (connectivity, found) := client.connectivity.remove handle
  ({ client with connectivity }, found)

/-- The client after the last handler of a topic was released. -/
def withdraw (topic : Topic) (client : Client κ ω) : Client κ ω :=
  if client.options.notifyUnsubscribe && client.isAlive then
    (client.send (.unsubscribe topic)).1
  else client

/-- The client without a handle of either kind, and whether it was registered. -/
def unsubscribe (handle : HandleId) (client : Client κ ω) : Client κ ω × Bool :=
  match client.unobserve handle with
  | (client, true) => (client, true)
  | (client, false) =>
      match client.release handle with
      | (client, .unknown) => (client, false)
      | (client, .removed) => (client, true)
      | (client, .lastForTopic topic) => (client.withdraw topic, true)

/-- The client without any of the handles, and how many were registered. -/
def unsubscribeAll (client : Client κ ω) : List HandleId → Client κ ω × Nat
  | [] => (client, 0)
  | handle :: handles =>
      let (client, found) := client.unsubscribe handle
      let (client, count) := client.unsubscribeAll handles
      (client, if found then count + 1 else count)

theorem subscribe_empty (topic : Topic) (callback : κ) (client : Client κ ω)
    (empty : topic.isEmpty = true) :
    client.subscribe topic callback = (client, .error emptyTopic) := by
  simp [subscribe, empty]

theorem unsubscribeAll_nil (client : Client κ ω) : client.unsubscribeAll [] = (client, 0) := rfl

end Switchboard.Client
