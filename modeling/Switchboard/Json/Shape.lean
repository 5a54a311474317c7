/-
# Switchboard.Json.Shape -- what a payload is expected to be

A typed subscription or call names the shape of the payload it takes.
`Shape.conform` gives a payload back in the shape's own form, or nothing if it
does not fit: numbers must be integers of the right size, a list of teams keeps
the number of each team and nothing else.

* `Shape.conform_any`: any payload fits the shape `any`, unchanged;
* `Shape.conform_optional_null`: an optional number may be null.
-/
import Switchboard.Json.Value

namespace Switchboard

set_option autoImplicit false

/-- What a payload is expected to be. -/
inductive Shape where
  | any
  /-- An integer below `2 ^ 32`. -/
  | u32
  | text
  | bool
  | unit
  /-- An integer below `2 ^ 32`, or null. -/
  | optionalU32
  /-- A list of teams, each an object with a member `number`, or a list of one number. -/
  | teams
deriving DecidableEq

namespace Shape

/-- The integer below `2 ^ 32` that a value is. -/
def u32? : Json → Option Json
  | .number (.integer value) =>
      if 0 ≤ value ∧ value < UInt32.size then some (.number (.integer value)) else none
  | _ => none

/-- A team with its number alone. -/
def team? : Json → Option Json
  | .object members =>
      match Json.get? "number" members with
      | some number => (u32? number).map (fun number => .object [("number", number)])
      | none => none
  | .array [number] => (u32? number).map (fun number => .object [("number", number)])
  | _ => none

/-- A payload in the shape's own form, or nothing if it does not fit. -/
def conform (shape : Shape) (payload : Json) : Option Json :=
  match shape, payload with
  | .any, payload => some payload
  | .u32, payload => u32? payload
  | .text, .string value => some (.string value)
  | .bool, .bool value => some (.bool value)
  | .unit, .null => some .null
  | .optionalU32, .null => some .null
  | .optionalU32, payload => u32? payload
  | .teams, .array items => (items.mapM team?).map .array
  | _, _ => none

theorem conform_any (payload : Json) : conform .any payload = some payload := by
  cases payload <;> rfl

theorem conform_optional_null : conform .optionalU32 .null = some .null := rfl

end Shape

end Switchboard
