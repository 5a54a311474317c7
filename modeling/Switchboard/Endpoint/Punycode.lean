/-
# Switchboard.Endpoint.Punycode -- names written in ASCII

A label that starts with `xn--` stands for another one, which holds characters
beyond ASCII.  The rest of the label lists the ASCII characters, then a hyphen,
and then digits of base 36 which say where the others go: each is a number of
varying length, the distance from the insertion before it.  The length of a number
adapts to those already read (`Punycode.adapt`).

* `Punycode.threshold_pos`, `Punycode.threshold_le`: a digit that ends a number is
  below 26, and zero always does;
* `Punycode.decode_hyphen`: a text that lists ASCII alone stands for itself.
-/
namespace Switchboard.Punycode

set_option autoImplicit false

/-- The value of a digit. -/
def digit? (character : Char) : Option Nat :=
  if 'a' ≤ character ∧ character ≤ 'z' then some (character.toNat - 'a'.toNat)
  else if 'A' ≤ character ∧ character ≤ 'Z' then some (character.toNat - 'A'.toNat)
  else if '0' ≤ character ∧ character ≤ '9' then some (character.toNat - '0'.toNat + 26)
  else none

/-- Digits below the threshold end a number. -/
def threshold (place bias : Nat) : Nat :=
  if place ≤ bias then 1 else min (place - bias) 26

/-- How often a number is divided by 35 before it is small, and what is left of it. -/
def shrink (distance : Nat) : Nat × Nat :=
  if 455 < distance then ((shrink (distance / 35)).1 + 1, (shrink (distance / 35)).2)
  else (0, distance)
termination_by distance
decreasing_by all_goals exact Nat.div_lt_self (by omega) (by omega)

/-- The bias for the next number after one of so much, with so many characters in place. -/
def adapt (distance count : Nat) (first : Bool) : Nat :=
  let damped := if first then distance / 700 else distance / 2
  let (steps, left) := shrink (damped + damped / count)
  36 * steps + 36 * left / (left + 38)

/-- Numbers stay below this, and so do the weights of their digits. -/
def bound : Nat := UInt32.size

/-- A number added to `total`, and the digits after it. -/
def number? (place weight total bias : Nat) : List Char → Option (Nat × List Char)
  | [] => none
  | character :: rest =>
      match digit? character with
      | none => none
      | some digit =>
          let total := total + digit * weight
          let limit := threshold place bias
          if bound ≤ total then none
          else if digit < limit then some (total, rest)
          else if bound ≤ weight * (36 - limit) then none
          else number? (place + 36) (weight * (36 - limit)) total bias rest

/-- The characters after all insertions; each turn reads one number. -/
def insertAll : Nat → List Char → Nat → Nat → Nat → List Char → Option (List Char)
  | _, output, _, _, _, [] => some output
  | 0, _, _, _, _, _ :: _ => none
  | turns + 1, output, code, position, bias, digits =>
      match number? 36 1 position bias digits with
      | none => none
      | some (total, rest) =>
          let count := output.length + 1
          let code := code + total / count
          let place := total % count
          if Nat.isValidChar code then
            insertAll turns (output.take place ++ Char.ofNat code :: output.drop place) code
              (place + 1) (adapt (total - position) count (position = 0)) rest
          else none

/-- What a text stands for, if it stands for anything. -/
def decode (text : List Char) : Option (List Char) :=
  let digits := (text.reverse.takeWhile (· ≠ '-')).reverse
  let listed := text.take (text.length - digits.length - 1)
  if listed.isEmpty then insertAll (text.length + 1) [] 128 0 72 text
  else insertAll (text.length + 1) listed 128 0 72 digits

theorem threshold_pos (place bias : Nat) : 1 ≤ threshold place bias := by
  unfold threshold
  split <;> omega

theorem threshold_le (place bias : Nat) : threshold place bias ≤ 26 := by
  unfold threshold
  split <;> omega

theorem decode_hyphen (listed : List Char) (nonempty : listed ≠ []) :
    decode (listed ++ ['-']) = some listed := by
  simp [decode, nonempty, insertAll]

end Switchboard.Punycode
