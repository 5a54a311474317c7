/-
# Switchboard.Client.Sending -- handing frames to the link

A frame goes to the channel of the running session while the link is up.
Otherwise only the request of a waiting call may be held, and only if the options
say so; requests whose calls no longer wait leave the backlog on the way.

* `Client.hold_refused`: without queueing nothing is held;
* `Client.send_live`: while the link is up a frame goes to the end of the channel.
-/
import Switchboard.Client

namespace Switchboard.Client

set_option autoImplicit false

variable {κ ω : Type}

/-- Whether a frame is the request of a waiting call. -/
def isLive (client : Client κ ω) (frame : Outbound) : Bool :=
  frame.requestId.any client.calls.contains

/-- The client with a request added to the backlog, and whether it was. -/
def hold (client : Client κ ω) (frame : Outbound) : Client κ ω × Bool :=
  if client.options.queueCalls && client.isLive frame then
    ({ client with
        link := { client.link with
          backlog := client.link.backlog.filter client.isLive ++ [frame] } },
     true)
  else (client, false)

/-- The client after a frame was handed to its link, and whether it was sent or held. -/
def send (client : Client κ ω) (frame : Outbound) : Client κ ω × Bool :=
  match client.link.channel with
  | some queue =>
      if client.isAlive then
        ({ client with link := { client.link with channel := some (queue ++ [frame]) } }, true)
      else client.hold frame
  | none => client.hold frame

/-- The client without the queued requests of a call, and whether there were any. -/
def discard (client : Client κ ω) (id : CorrelationId) : Client κ ω × Bool :=
  let (link, found) := client.link.discard id
  ({ client with link }, found)

theorem hold_refused (client : Client κ ω) (frame : Outbound)
    (off : client.options.queueCalls = false) : client.hold frame = (client, false) := by
  simp [hold, off]

theorem send_live (client : Client κ ω) (frame : Outbound) (queue : List Outbound)
    (session : client.link.channel = some queue) (up : client.isAlive = true) :
    (client.send frame).1.link.channel = some (queue ++ [frame]) := by
  simp [send, session, up]

end Switchboard.Client
