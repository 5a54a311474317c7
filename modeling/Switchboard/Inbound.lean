/-
# Switchboard.Inbound -- what a received message is

A message that replies to something settles a call: with the error it carries,
else with its data, absent data being null.  Otherwise its path decides: the
reserved path `ping` asks for a pong, any other non-empty path is a push to that
topic, and a message with neither is a breach of the protocol.

* `Inbound.classify_ping`: a ping carries the identifier to answer;
* `Inbound.classify_unaddressed`: a message without reply and path is refused.
-/
import Switchboard.ClientError
import Switchboard.Envelope.Reader
import Switchboard.Text.Quoted
import Switchboard.Topic

namespace Switchboard

set_option autoImplicit false

/-- What a received message is. -/
inductive Inbound where
  /-- The outcome of a call: a payload, or the server's refusal. -/
  | reply (id : CorrelationId) (outcome : Except String Json)
  /-- A payload for everyone who listens to the topic. -/
  | push (topic : Topic) (data : Json)
  /-- A question whether the link is up, to be answered with its identifier. -/
  | ping (id : String)

namespace Inbound

/-- The reserved path of a ping. -/
def pingPath : String := "ping"

/-- The failure of a reply whose identifier names no call. -/
def malformedReply (id : String) (reason : CorrelationId.Malformed) : ClientError :=
  .protocol ("reply to malformed id " ++ Text.quoted id ++ ": " ++ reason.message)

/-- The failure of a message that says neither what it replies to nor where it goes. -/
def unaddressed : ClientError := .protocol "message has neither replying_to nor path"

/-- The outcome that a reply carries. -/
def outcomeOf (envelope : Envelope) : Except String Json :=
  match envelope.error with
  | some message => .error message
  | none => .ok (envelope.data.getD .null)

/-- What a message is. -/
def classify (envelope : Envelope) : Except ClientError Inbound :=
  match envelope.replyingTo with
  | some text =>
      match CorrelationId.parse text with
      | .ok id => .ok (.reply id (outcomeOf envelope))
      | .error reason => .error (malformedReply text reason)
  | none =>
      if envelope.path = pingPath then .ok (.ping envelope.messageId)
      else
        let topic := Topic.parse envelope.path
        if topic.isEmpty then .error unaddressed
        else .ok (.push topic (envelope.data.getD .null))

/-- What a received text is. -/
def decode (text : String) : Except ClientError Inbound :=
  match Envelope.read text with
  | .ok envelope => classify envelope
  | .error fault => .error (.json fault)

theorem classify_ping (envelope : Envelope) (asks : envelope.replyingTo = none)
    (path : envelope.path = pingPath) : classify envelope = .ok (.ping envelope.messageId) := by
  simp [classify, asks, path]

theorem classify_unaddressed (id : String) : classify { messageId := id } = .error unaddressed := by
  simp [classify, pingPath, Topic.parse, Topic.isEmpty, List.splitOn_nil]

end Inbound

end Switchboard
