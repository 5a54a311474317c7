/-
# Switchboard.Json.Printer -- the compact text of a JSON value

No blanks, members in their order, strings with only the necessary escapes
(`Json.escapeChar`), integers in plain decimal digits.  A binary number is
written with its shortest digits (`Magnitude.shortest`): positionally, with at
least one digit after the point, when the exponent of its leading digit is from
`positionalFrom` to `positionalTo`, and otherwise with one digit before the point
and a signed exponent.

* `Json.escapeChar_of_plain`: a character that needs no escape is written as it is;
* `Json.length_printText`: a string is written between two quotes.
-/
import Switchboard.Json.Value
import Switchboard.Number.Shortest
import Switchboard.Text.Hex

namespace Switchboard

set_option autoImplicit false

open Text

namespace Json

/-! ## Numbers -/

/-- The least exponent of a leading digit that is written positionally. -/
def positionalFrom : Int := -5

/-- The greatest exponent of a leading digit that is written positionally. -/
def positionalTo : Int := 15

/-- The decimal digits of a natural number. -/
def printNat (value : Nat) : List Char := Nat.toDigits 10 value

/-- The decimal digits of an integer after its sign. -/
def printInt (value : Int) : List Char :=
  if value < 0 then '-' :: printNat value.natAbs else printNat value.natAbs

/-- Digits with the point after as many as `whole` of them, zeros filling the gaps. -/
def printPositional (digits : List Char) (whole : Int) : List Char :=
  if whole ≤ 0 then '0' :: '.' :: (List.replicate (-whole).toNat '0' ++ digits)
  else
    let count := whole.toNat
    let front := digits.take count ++ List.replicate (count - digits.length) '0'
    let back := digits.drop count
    front ++ '.' :: (if back.isEmpty then ['0'] else back)

/-- Digits with the point after the first, and the exponent of that first digit. -/
def printScientific (digits : List Char) (leading : Int) : List Char :=
  let back := digits.drop 1
  digits.take 1 ++ (if back.isEmpty then [] else '.' :: back) ++
    'e' :: (if leading < 0 then '-' else '+') :: printNat leading.natAbs

/-- A binary number. -/
def printReal (value : Binary64) : List Char :=
  let decimal := value.magnitude.shortest
  let digits := printNat decimal.coefficient
  let leading := decimal.exponent + digits.length - 1
  let unsigned :=
    if positionalFrom ≤ leading ∧ leading ≤ positionalTo then printPositional digits (leading + 1)
    else printScientific digits leading
  if value.negative then '-' :: unsigned else unsigned

/-- A number. -/
def printNumber : Number → List Char
  | .integer value => printInt value
  | .real value => printReal value

/-! ## Strings -/

/-- How one character stands in a string. -/
def escapeChar (character : Char) : List Char :=
  if character = '"' then ['\\', '"']
  else if character = '\\' then ['\\', '\\']
  else if character.toNat = 8 then ['\\', 'b']
  else if character.toNat = 12 then ['\\', 'f']
  else if character = '\n' then ['\\', 'n']
  else if character = '\r' then ['\\', 'r']
  else if character = '\t' then ['\\', 't']
  else if character.toNat < 32 then ['\\', 'u'] ++ Hex.fixed 4 character.toNat
  else [character]

/-- A string between quotes. -/
def printText (text : String) : List Char := '"' :: (text.toList.flatMap escapeChar ++ ['"'])

/-! ## Values -/

mutual

/-- The characters of a value. -/
def printChars : Json → List Char
  | .null => ['n', 'u', 'l', 'l']
  | .bool true => ['t', 'r', 'u', 'e']
  | .bool false => ['f', 'a', 'l', 's', 'e']
  | .number value => printNumber value
  | .string value => printText value
  | .array [] => ['[', ']']
  | .array (item :: items) => '[' :: (printChars item ++ printItems items)
  | .object [] => ['\x7b', '\x7d']
  | .object ((name, value) :: members) =>
      '\x7b' :: (printText name ++ ':' :: (printChars value ++ printMembers members))

/-- The items after the first, and the closing bracket. -/
def printItems : List Json → List Char
  | [] => [']']
  | item :: items => ',' :: (printChars item ++ printItems items)

/-- The members after the first, and the closing brace. -/
def printMembers : List (String × Json) → List Char
  | [] => ['\x7d']
  | (name, value) :: members =>
      ',' :: (printText name ++ ':' :: (printChars value ++ printMembers members))

end

/-- The compact text of a value. -/
def print (value : Json) : String := String.ofList (printChars value)

theorem escapeChar_of_plain (character : Char) (visible : 32 ≤ character.toNat)
    (notQuote : character ≠ '"') (notBackslash : character ≠ '\\') :
    escapeChar character = [character] := by
  have notFeed : character ≠ '\n' := by rintro rfl; exact absurd visible (by decide)
  have notReturn : character ≠ '\r' := by rintro rfl; exact absurd visible (by decide)
  have notTab : character ≠ '\t' := by rintro rfl; exact absurd visible (by decide)
  simp only [escapeChar, notQuote, notBackslash, notFeed, notReturn, notTab, if_false]
  rw [if_neg (by omega), if_neg (by omega), if_neg (by omega)]

theorem length_printText (text : String) : 2 ≤ (printText text).length := by
  simp [printText]

end Json

end Switchboard
