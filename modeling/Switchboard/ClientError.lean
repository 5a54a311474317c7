/-
# Switchboard.ClientError -- what can go wrong

Every failure the library reports is one of these causes, each with what it is
about; `ClientError.message` puts it into words.  Callers can ask whether trying
again may help (`isRecoverable`), whether the connection is at fault
(`isConnectionError`), whether the deadline passed (`isTimeout`) and whether the
server itself refused (`isRemote`).

* `ClientError.remoteMessage_isSome`: exactly the server's refusals carry its words.
-/
import Switchboard.CorrelationId
import Switchboard.Endpoint
import Switchboard.Json.Literal

namespace Switchboard

set_option autoImplicit false

/-- How a message socket fails. -/
inductive SocketFault where
  | closed
  | alreadyClosed
deriving DecidableEq

/-- The failure in words. -/
def SocketFault.message : SocketFault → String
  | .closed => "Connection closed normally"
  | .alreadyClosed => "Trying to work with closed connection"

/-- What can go wrong. -/
inductive ClientError where
  /-- The options or the way the client is used are at fault. -/
  | config (text : String)
  /-- A topic or path may not be used like this. -/
  | invalidTopic (text : String)
  | url (reason : Endpoint.Malformed)
  /-- The connection is closed, or was lost under the failing policy. -/
  | connectionClosed
  | alreadyConnected
  | protocol (text : String)
  /-- The server refused a call to a path. -/
  | remote (path message : String)
  | requestTimeout (id : CorrelationId) (millis : Nat)
  | cancelled (id : CorrelationId)
  | tooManyPending (pending capacity : Nat)
  /-- A JSON text or value does not fit. -/
  | json (fault : Json.Fault)
  | webSocket (fault : SocketFault)
  /-- The other end of an inner channel is gone. -/
  | channelClosed
deriving DecidableEq

namespace ClientError

/-- The failure in words; what is wrong with a JSON text is not put into words. -/
def message : ClientError → String
  | .config text => "Configuration error: " ++ text
  | .invalidTopic text => "Invalid topic: " ++ text
  | .url reason => "Invalid URL: " ++ reason.message
  | .connectionClosed => "Connection closed"
  | .alreadyConnected => "Client is already connected or connecting"
  | .protocol text => "Protocol error: " ++ text
  | .remote path message => "Call to " ++ path ++ " failed: " ++ message
  | .requestTimeout id millis =>
      "Request " ++ id.text ++ " timed out after " ++ toString millis ++ "ms"
  | .cancelled id => "Request " ++ id.text ++ " was cancelled"
  | .tooManyPending pending capacity =>
      "Too many pending requests: " ++ toString pending ++ "/" ++ toString capacity
  | .json _ => "JSON error: "
  | .webSocket fault => "WebSocket error: " ++ fault.message
  | .channelClosed => "Channel closed"

/-- Whether a deadline passed. -/
def isTimeout : ClientError → Bool
  | .requestTimeout _ _ => true
  | _ => false

/-- Whether the connection is at fault. -/
def isConnectionError : ClientError → Bool
  | .connectionClosed | .alreadyConnected | .webSocket _ => true
  | _ => false

/-- Whether the server refused. -/
def isRemote : ClientError → Bool
  | .remote _ _ => true
  | _ => false

/-- The server's words. -/
def remoteMessage : ClientError → Option String
  | .remote _ message => some message
  | _ => none

/-- Whether trying again may help. -/
def isRecoverable : ClientError → Bool
  | .connectionClosed | .requestTimeout _ _ | .tooManyPending _ _ => true
  | _ => false

theorem remoteMessage_isSome (error : ClientError) :
    error.remoteMessage.isSome = error.isRemote := by
  cases error <;> rfl

end ClientError

end Switchboard
