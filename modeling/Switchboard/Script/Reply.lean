/-
# Switchboard.Script.Reply -- what the steps of a script answer

Each step of a script has one reply: a value of the kind that the operation gives,
or the failure it reports.  A failure keeps its cause beside its text, in which the
identifiers of known calls have given way to their names.
-/
import Switchboard.ClientError
import Switchboard.Connectivity
import Switchboard.Json.Value
import Switchboard.Topic

namespace Switchboard.Script

set_option autoImplicit false

/-- A failure, as a script shows it. -/
structure Failure where
  error : ClientError
  /-- The cause in words, with the names of known calls. -/
  text : String

/-- How much there is of everything. -/
structure Counts where
  topics : Nat
  handlers : Nat
  pending : Nat
  /-- How many calls may wait. -/
  capacity : Nat
  observers : Nat
  backlog : Nat

/-- What a step answers. -/
inductive Reply where
  | nothing
  | flag (value : Bool)
  | number (value : Nat)
  /-- A word: the name of a call or a state, or how something went. -/
  | word (text : String)
  | failed (failure : Failure)
  /-- The payload that a call was answered with. -/
  | received (data : Json)
  /-- A text to write back, if there is one. -/
  | answer (text : Option String)
  /-- The topic of a handle, if it has one. -/
  | topicOf (topic : Option Topic)
  | topics (topics : List Topic)
  /-- A new handle, and whether it is the first of its topic where that is told. -/
  | registered (handle : HandleId) (first : Option Bool)
  /-- A handle was released, the last of this topic. -/
  | lastForTopic (topic : Topic)
  /-- How much there is of everything. -/
  | counts (counts : Counts)
  | pending (calls : List (String × Topic))
  /-- How many calls wait, and which, oldest first. -/
  | outstanding (count : Nat) (calls : List (String × Topic))
  /-- The state of the link: whether it is up, whether something drives it, and whether it is
  the one a client starts with. -/
  | linkState (state : LinkState) (alive running initial : Bool)
  /-- Whether a watched state has changed since the last look, and what it is. -/
  | watched (changed : Bool) (state : LinkState)
  /-- The state of a client, and the client on one line. -/
  | clientState (state : LinkState) (alive : Bool) (summary : String)
  /-- How many handles a scope holds, and the scope on one line. -/
  | scope (size : Nat) (empty : Bool) (summary : String)

namespace Reply

/-- The reply where a name is not bound. -/
def unbound : Reply := .word "unbound"

/-- The reply where something went well and has nothing to tell. -/
def ok : Reply := .word "ok"

end Reply

end Switchboard.Script
