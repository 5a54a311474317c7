/-
# Switchboard.Endpoint.Domain.Direction -- names that run in two directions

Hebrew and Arabic letters run to the left, most others to the right, and digits and
signs adapt.  A name that mixes them could be shown in more than one order, so a
name with a character that runs to the left is in order only if each of its labels
runs in one direction (`Direction.isOrdered`):

* a label starts with a letter, which gives the direction, and ends, marks aside,
  with a letter of that direction or a digit;
* one that runs to the right holds no letter that runs to the left and no Arabic
  digit; one that runs to the left holds no letter that runs to the right, and not
  digits of both sets.

The tables list characters that may stand in a name, folded; every other one is
passed as running to the right.

* `Direction.isOrdered_of_rightward`: a name with nothing that runs to the left is
  in order;
* `Direction.isLabel_singleton`: a letter alone is in order.
-/
import Switchboard.Text.Marks

namespace Switchboard

set_option autoImplicit false

open Text

/-- How a character behaves where directions meet. -/
inductive Direction where
  | rightward
  | leftward
  /-- A digit as in European numbers. -/
  | european
  /-- A digit as in Arabic numbers. -/
  | arabic
  /-- A mark, which goes with the character before it. -/
  | mark
  /-- A character that adapts. -/
  | neutral
deriving DecidableEq

namespace Direction

/-- The letters that run to the left. -/
def leftwardTable : Table := Table.ofText
  "5be-5f4 608 60b 60d 61b-64a 66d-6d5 6e5-6e6 6ee-6ef 6fa-7f5 7fa-8c9 fbb2-fbc2 fe73 10800-1091b
   10920-10b35 10b40-10d23 10d4a-10d4f 10d6f-10d8f 10e80-10ec7 10f00-10ff6 1e800-1ed3d"

/-- The Arabic digits and the characters that go with them. -/
def arabicTable : Table := Table.ofText
  "660-669 66b-66c 10d30-10d49 10e60-10e7e"

/-- The digits of other sets that behave as the European ones do. -/
def europeanTable : Table := Table.ofText
  "6f0-6f9 102e1-102fb"

/-- The characters that take their direction from those around them. -/
def neutralTable : Table := Table.ofText
  "a1-d7 f7 2b9-2ba 2c2-2cf 2d2-2ed 2ef-2ff 375 3f6 58a-58f 606-607 609-60a 60c 60e-60f 66a 6de
   6e9 7f6-7f9 9f2-9f3 9fb af1 bf3-bfa c78-c7e e3f f3a-f3d 1390-1399 1400 169b-169c 17db 17f0-180a
   1940-1945 19de-19ff 200c-214d 218a-2335 237b-2394 2396-26ab 26ad-27ff 2900-2bff 2ce5-2cea
   2cf9-2cff 2e00-3004 3008-3020 3030 3037 303d-303f 30a0 30fb 31c0-31e5 4dc0-4dff a490-a4c6
   a60d-a60f a673-a67f a700-a721 a788 a828-a82b a838-a839 a874-a877 ab6a-ab6b fbc3-fe46 10101
   10140-1018c 10190-101a0 1091f 10b39-10b3f 10d6e 10ed0-10ed8 11052-11065 11660-1166c 11fd5-11ff1
   16fe2 1cc00-1cef0 1d1e9-1d245 1d300-1d356 1e2ff 1eef0-1f12f 1f16d-1f16f 1f1ad 1f260-1fbfa"

/-- The marks that run to the right as their letters do. -/
def rightwardMarks : Table := Table.ofText
  "cbf cc6 11a07-11a08 11c3f"

/-- The direction of an ASCII character. -/
def ofAscii (character : Char) : Direction :=
  if character.isAlpha then .rightward
  else if character.isDigit then .european
  else .neutral

/-- The direction of a character. -/
def ofChar (character : Char) : Direction :=
  if character.toNat < 128 then ofAscii character
  else if isNonspacing character then
    if rightwardMarks.holds character then .rightward else .mark
  else if leftwardTable.holds character then .leftward
  else if arabicTable.holds character then .arabic
  else if europeanTable.holds character then .european
  else if neutralTable.holds character then .neutral
  else .rightward

/-- The code point of the first character that can run to the left. -/
def firstLeftward : Nat := 0x590

/-- Whether a character makes its name run in two directions. -/
def turns (character : Char) : Bool :=
  if character.toNat < firstLeftward then false
  else ofChar character = .leftward || ofChar character = .arabic

/-- A label without the marks at its end. -/
def withoutMarks (label : List Direction) : List Direction :=
  (label.reverse.dropWhile (· = .mark)).reverse

/-- Whether what follows the first letter of a label may follow one that runs to the right. -/
def continuesRightward (rest : List Direction) : Bool :=
  rest.all (fun direction => direction ≠ .leftward && direction ≠ .arabic) &&
    rest.getLast?.all (fun last => last = .rightward || last = .european)

/-- Whether what follows the first letter of a label may follow one that runs to the left. -/
def continuesLeftward (rest : List Direction) : Bool :=
  rest.all (· ≠ .rightward) &&
    rest.getLast?.all (fun last => last = .leftward || last = .european || last = .arabic) &&
    !(rest.contains .european && rest.contains .arabic)

/-- Whether a label runs in one direction. -/
def isLabel (label : List Direction) : Bool :=
  match label with
  | [] => true
  | .rightward :: rest => continuesRightward (withoutMarks rest)
  | .leftward :: rest => continuesLeftward (withoutMarks rest)
  | _ :: _ => false

/-- Whether the labels of a name are in order. -/
def isOrdered (labels : List (List Char)) : Bool :=
  if labels.any (·.any turns) then labels.all (fun label => isLabel (label.map ofChar)) else true

theorem isOrdered_of_rightward (labels : List (List Char))
    (straight : ∀ label ∈ labels, ∀ character ∈ label, turns character = false) :
    isOrdered labels = true := by
  have calm : labels.any (·.any turns) = false := by
    simp only [List.any_eq_false]
    intro label mem found
    obtain ⟨character, inside, turning⟩ := List.any_eq_true.mp found
    simp [straight label mem character inside] at turning
  simp [isOrdered, calm]

theorem isLabel_singleton (direction : Direction) :
    isLabel [direction] = true ↔ direction = .rightward ∨ direction = .leftward := by
  cases direction <;> decide

end Direction

end Switchboard
