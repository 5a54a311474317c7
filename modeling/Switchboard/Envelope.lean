/-
# Switchboard.Envelope -- the one message format of both directions

Every message is a JSON object of six known fields.  Its identifier and its path
are always written; what it replies to, its data, error and token only if they
are present.  Data and token may be present and null: they are then written, but
a null that is read means absence.

* `Envelope.encode_empty`: the empty message has just its two constant fields;
* `Envelope.encode_path_only`: a path is written after the identifier.
-/
import Switchboard.Json.Printer

namespace Switchboard

set_option autoImplicit false

/-- A message. -/
structure Envelope where
  messageId : String := ""
  replyingTo : Option String := none
  path : String := ""
  data : Option Json := none
  error : Option String := none
  token : Option Json := none

namespace Envelope

open Json (printText printChars)

/-- A field that is always written. -/
def requiredField (name value : String) : List Char := printText name ++ ':' :: printText value

/-- A text field that is written if it is present, after a comma. -/
def textField (name : String) : Option String → List Char
  | none => []
  | some value => ',' :: (printText name ++ ':' :: printText value)

/-- A payload field that is written if it is present, after a comma. -/
def payloadField (name : String) : Option Json → List Char
  | none => []
  | some value => ',' :: (printText name ++ ':' :: printChars value)

/-- The characters of a message. -/
def encodeChars (envelope : Envelope) : List Char :=
  '\x7b' :: (requiredField "message_id" envelope.messageId ++
    textField "replying_to" envelope.replyingTo ++ ',' :: requiredField "path" envelope.path ++
    payloadField "data" envelope.data ++ textField "error" envelope.error ++
    payloadField "token" envelope.token ++ ['\x7d'])

/-- The text of a message. -/
def encode (envelope : Envelope) : String := String.ofList envelope.encodeChars

/-- Whether a message has nothing set. -/
def isEmpty (envelope : Envelope) : Bool :=
  envelope.messageId = "" && envelope.replyingTo.isNone && envelope.path = "" &&
    envelope.data.isNone && envelope.error.isNone && envelope.token.isNone

theorem encode_empty :
    ({} : Envelope).encode = "\x7b\"message_id\":\"\",\"path\":\"\"\x7d" := by
  decide +kernel

theorem encode_path_only :
    ({ path := "a" } : Envelope).encode = "\x7b\"message_id\":\"\",\"path\":\"a\"\x7d" := by
  decide +kernel

end Envelope

end Switchboard
