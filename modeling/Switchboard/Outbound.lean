/-
# Switchboard.Outbound -- what a client sends

A client announces topics it listens to, withdraws them, requests a call, and
answers pings.  Every frame has its message (`Outbound.envelope`).  A request's
message carries the call's identifier; the others carry a fresh one.

* `Outbound.requestId_eq_some`: exactly requests name a call;
* `Outbound.envelope_request_id`: a request's message is identified by its call.
-/
import Switchboard.CorrelationId
import Switchboard.Envelope
import Switchboard.Topic

namespace Switchboard

set_option autoImplicit false

/-- What a client sends. -/
inductive Outbound where
  | subscribe (topic : Topic)
  | unsubscribe (topic : Topic)
  | request (id : CorrelationId) (path : Topic) (data : Json) (token : Option Json)
  | pong (replyTo : String)

namespace Outbound

/-- The word for the kind of frame. -/
def kind : Outbound → String
  | .subscribe _ => "subscribe"
  | .unsubscribe _ => "unsubscribe"
  | .request _ _ _ _ => "request"
  | .pong _ => "pong"

/-- The call that a request names. -/
def requestId : Outbound → Option CorrelationId
  | .request id _ _ _ => some id
  | _ => none

/-- Whether the frame is a request. -/
def isRequest (frame : Outbound) : Bool := frame.requestId.isSome

/-- The frame's message, identified by `messageId`. -/
def envelopeAs (messageId : String) : Outbound → Envelope
  | .subscribe topic =>
      { messageId, path := "subscribe", data := some (.string topic.wire) }
  | .unsubscribe topic =>
      { messageId, path := "unsubscribe", data := some (.string topic.wire) }
  | .request _ path data token =>
      { messageId, path := path.wire, data := some data, token }
  | .pong replyTo =>
      { messageId, replyingTo := some replyTo, path := "pong" }

/-- The frame's message; a frame that is no request takes the fresh identifier. -/
def envelope (fresh : CorrelationId) (frame : Outbound) : Envelope :=
  frame.envelopeAs (frame.requestId.getD fresh).text

/-- The frame's text. -/
def encode (fresh : CorrelationId) (frame : Outbound) : String := (frame.envelope fresh).encode

theorem requestId_eq_some (frame : Outbound) (id : CorrelationId) :
    frame.requestId = some id ↔ ∃ path data token, frame = .request id path data token := by
  cases frame <;> simp [requestId]

theorem envelope_request_id (fresh id : CorrelationId) (path : Topic) (data : Json)
    (token : Option Json) :
    ((Outbound.request id path data token).envelope fresh).messageId = id.text := rfl

end Outbound

end Switchboard
