/-
# Switchboard.Envelope.Reader -- reading a message

A message is an object of the six known fields in any order, each at most once;
other fields are skipped, may repeat, and may nest to any depth.  A list of up to
six values in the order identifier, reply, path, data, error, token is accepted
too.  The first problem from left to right decides, and a second occurrence of a
known field is noticed at its name.

* `Envelope.Draft.complete_fresh`: reading no field gives the empty message;
* `Envelope.fieldOf_none`: a name that is no field's is skipped.
-/
import Switchboard.Envelope
import Switchboard.Json.Reader

namespace Switchboard.Envelope

set_option autoImplicit false

open Json (Fault readString readOptionalString readOptionalValue expectColon skipBlank)

/-- The known fields. -/
inductive Field where
  | messageId
  | replyingTo
  | path
  | data
  | error
  | token
deriving DecidableEq

/-- The known field of a name. -/
def fieldOf (name : String) : Option Field :=
  if name = "message_id" then some .messageId
  else if name = "replying_to" then some .replyingTo
  else if name = "path" then some .path
  else if name = "data" then some .data
  else if name = "error" then some .error
  else if name = "token" then some .token
  else none

/-- The fields read so far; a field that was read as absent counts as read. -/
structure Draft where
  messageId : Option String := none
  replyingTo : Option (Option String) := none
  path : Option String := none
  data : Option (Option Json) := none
  error : Option (Option String) := none
  token : Option (Option Json) := none

namespace Draft

/-- Whether a field has been read. -/
def has (draft : Draft) : Field → Bool
  | .messageId => draft.messageId.isSome
  | .replyingTo => draft.replyingTo.isSome
  | .path => draft.path.isSome
  | .data => draft.data.isSome
  | .error => draft.error.isSome
  | .token => draft.token.isSome

/-- The message of the fields read; the others are empty or absent. -/
def complete (draft : Draft) : Envelope where
  messageId := draft.messageId.getD ""
  replyingTo := draft.replyingTo.getD none
  path := draft.path.getD ""
  data := draft.data.getD none
  error := draft.error.getD none
  token := draft.token.getD none

theorem complete_fresh : ({} : Draft).complete = {} := rfl

end Draft

/-- How many containers may be open inside a message. -/
def innerDepth : Nat := Json.depthLimit - 1

/-- The draft with the value of one field read. -/
def readField (draft : Draft) (field : Field) (characters : List Char) :
    Except Fault (Draft × List Char) :=
  match field with
  | .messageId =>
      (readString characters).map
        (fun found => ({ draft with messageId := some found.1 }, found.2))
  | .replyingTo =>
      (readOptionalString characters).map
        (fun found => ({ draft with replyingTo := some found.1 }, found.2))
  | .path =>
      (readString characters).map (fun found => ({ draft with path := some found.1 }, found.2))
  | .data =>
      (readOptionalValue innerDepth characters).map
        (fun found => ({ draft with data := some found.1 }, found.2))
  | .error =>
      (readOptionalString characters).map
        (fun found => ({ draft with error := some found.1 }, found.2))
  | .token =>
      (readOptionalValue innerDepth characters).map
        (fun found => ({ draft with token := some found.1 }, found.2))

/-- The draft after one member of the object, whose name has been read. -/
def readMember (draft : Draft) (name : String) (characters : List Char) :
    Except Fault (Draft × List Char) :=
  match fieldOf name with
  | some field =>
      if draft.has field then .error .mismatched
      else
        match expectColon characters with
        | .error fault => .error fault
        | .ok rest => readField draft field rest
  | none =>
      match expectColon characters with
      | .error fault => .error fault
      | .ok rest => (Json.skipValue rest).map (fun rest => (draft, rest))

/-- The end of a list all of whose values have been read. -/
def expectListEnd (characters : List Char) : Except Fault (List Char) :=
  match skipBlank characters with
  | ']' :: rest => .ok rest
  | [] => .error .truncated
  | _ :: _ => .error .malformed

/-- The draft after the remaining values of a list; `first` tells whether none has been read. -/
def readPositions (draft : Draft) (first : Bool) : List Field → List Char →
    Except Fault (Draft × List Char)
  | [], characters => (expectListEnd characters).map (fun rest => (draft, rest))
  | field :: fields, characters =>
      match skipBlank characters with
      | [] => .error .truncated
      | ']' :: rest => .ok (draft, rest)
      | next =>
          let value : Except Fault (List Char) :=
            if first then .ok next
            else
              match next with
              | ',' :: rest =>
                  match skipBlank rest with
                  | [] => .error .truncated
                  | ']' :: _ => .error .malformed
                  | value => .ok value
              | _ => .error .malformed
          match value with
          | .error fault => .error fault
          | .ok value =>
              match readField draft field value with
              | .error fault => .error fault
              | .ok (draft, rest) => readPositions draft false fields rest

/-- The order of the fields in a list. -/
def order : List Field := [.messageId, .replyingTo, .path, .data, .error, .token]

/-- A message and what follows it. -/
def readChars (characters : List Char) : Except Fault (Envelope × List Char) :=
  match skipBlank characters with
  | '\x7b' :: rest => (Json.members readMember {} rest).map (fun found => (found.1.complete, found.2))
  | '[' :: rest => (readPositions {} true order rest).map (fun found => (found.1.complete, found.2))
  | [] => .error .truncated
  | other => .error (Json.refuseValue other)

/-- The message of a whole text. -/
def read (text : String) : Except Fault Envelope :=
  match readChars text.toList with
  | .error fault => .error fault
  | .ok found => Json.finish found

theorem fieldOf_none (name : String)
    (unknown : name ∉ ["message_id", "replying_to", "path", "data", "error", "token"]) :
    fieldOf name = none := by
  simp only [List.mem_cons, List.not_mem_nil, or_false, not_or] at unknown
  simp [fieldOf, unknown]

end Switchboard.Envelope
