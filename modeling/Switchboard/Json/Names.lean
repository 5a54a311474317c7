/-
# Switchboard.Json.Names -- topics, calls and handles as JSON

A topic is written as the string of its wire form, and read from such a string
or from a list of segments, which are taken as they are.  A call's identifier is
a string, a handle an unsigned number of 64 bits.

* `Topic.toJson_injective`: topics written alike have one wire form.
-/
import Switchboard.CorrelationId
import Switchboard.HandleId
import Switchboard.Json.Reader
import Switchboard.Topic

namespace Switchboard

set_option autoImplicit false

open Json (Fault skipBlank readText refuseValue finish)

namespace Topic

/-- The JSON of a topic. -/
def toJson (topic : Topic) : Json := .string topic.wire

/-- One segment of a topic given as a list, put in front of those before it. -/
def readSegment (segments : List String) (characters : List Char) :
    Except Fault (List String × List Char) :=
  (Json.readString characters).map (fun found => (found.1 :: segments, found.2))

/-- A topic and what follows it. -/
def readChars (characters : List Char) : Except Fault (Topic × List Char) :=
  match skipBlank characters with
  | '"' :: rest => (readText [] rest).map (fun found => (parse found.1, found.2))
  | '[' :: rest =>
      (Json.elements readSegment [] rest).map (fun found => (⟨found.1.reverse⟩, found.2))
  | other => .error (refuseValue other)

/-- The topic of a JSON text. -/
def readJson (text : String) : Except Fault Topic :=
  match readChars text.toList with
  | .error fault => .error fault
  | .ok found => finish found

theorem toJson_injective (left right : Topic) (same : left.toJson = right.toJson) :
    left.wire = right.wire := by
  simpa [toJson] using same

end Topic

namespace CorrelationId

/-- The JSON of a call's identifier. -/
def toJson (id : CorrelationId) : Json := .string id.text

/-- The call's identifier of a JSON text. -/
def readJson (text : String) : Except Fault CorrelationId :=
  match Json.readString text.toList with
  | .error fault => .error fault
  | .ok (found, rest) =>
      match parse found with
      | .error _ => .error .mismatched
      | .ok id => finish (id, rest)

end CorrelationId

namespace HandleId

/-- The JSON of a handle. -/
def toJson (handle : HandleId) : Json := .ofNat handle.toNat

/-- The handle that a number is. -/
def ofNumber? : Json.Number → Option HandleId
  | .integer value => if 0 ≤ value ∧ value < UInt64.size then some (ofNat value.toNat) else none
  | .real _ => none

/-- A handle and what follows it. -/
def readChars (characters : List Char) : Except Fault (HandleId × List Char) :=
  match Json.readValue 0 (skipBlank characters) with
  | .ok (.number number, rest) =>
      match ofNumber? number with
      | some handle => .ok (handle, rest)
      | none => .error .mismatched
  | _ => .error (refuseValue (skipBlank characters))

/-- The handle of a JSON text. -/
def readJson (text : String) : Except Fault HandleId :=
  match readChars text.toList with
  | .error fault => .error fault
  | .ok found => finish found

end HandleId

end Switchboard
