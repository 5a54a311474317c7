/-
# Switchboard.Json.Literal -- the text of a JSON number

A number literal is an optional minus sign, digits without a needless leading
zero, an optional fraction and an optional exponent (`Literal.scan`).  Scanning
only checks the form; the value is found afterwards (`Literal.number`):

* an integer that fits in 64 bits is that integer, but minus zero is not;
* otherwise the leading digits that fit in 64 bits are taken as a whole number,
  further whole digits only counted, further fraction digits dropped, and the
  result is that number scaled by the remaining power of ten
  (`Magnitude.scale`); a number too large to be finite has no value.

Statement: `Literal.scanDigits_append`, nothing is lost in scanning digits.
-/
import Switchboard.Json.Value

namespace Switchboard.Json

set_option autoImplicit false

/-- Why a JSON text is not what it should be. -/
inductive Fault where
  | malformed
  /-- The text ends early. -/
  | truncated
  /-- The text is JSON so far, but not of the expected kind. -/
  | mismatched
deriving DecidableEq

/-- A number as it is written. -/
structure Literal where
  negative : Bool
  /-- The digits before the point. -/
  whole : List Char
  /-- The digits after the point, if there is one. -/
  fraction : Option (List Char)
  /-- Whether the exponent is negative, and its digits, if there is one. -/
  exponent : Option (Bool × List Char)

namespace Literal

/-- Whether a character is a decimal digit. -/
def isDigit (character : Char) : Bool := '0' ≤ character && character ≤ '9'

/-- The digits at the front, and the rest. -/
def scanDigits (characters : List Char) : List Char × List Char :=
  (characters.takeWhile isDigit, characters.dropWhile isDigit)

/-- At least one digit and the rest; `atEnd` is what the end of the text means. -/
def scanSomeDigits (atEnd : Fault) (characters : List Char) :
    Except Fault (List Char × List Char) :=
  match scanDigits characters with
  | ([], []) => .error atEnd
  | ([], _ :: _) => .error .malformed
  | found => .ok found

/-- The digits before the point: a leading zero stands alone. -/
def scanWhole (atEnd : Fault) : List Char → Except Fault (List Char × List Char)
  | '0' :: rest =>
      match rest with
      | next :: _ => if isDigit next then .error .malformed else .ok (['0'], rest)
      | [] => .ok (['0'], [])
  | characters => scanSomeDigits atEnd characters

/-- The fraction, if there is one. -/
def scanFraction (atEnd : Fault) : List Char → Except Fault (Option (List Char) × List Char)
  | '.' :: rest => (scanSomeDigits atEnd rest).map (fun found => (some found.1, found.2))
  | characters => .ok (none, characters)

/-- The digits of an exponent whose sign has been read. -/
def scanExponentDigits (atEnd : Fault) (negative : Bool) (characters : List Char) :
    Except Fault (Option (Bool × List Char) × List Char) :=
  (scanSomeDigits atEnd characters).map (fun found => (some (negative, found.1), found.2))

/-- What follows the exponent mark. -/
def scanExponentBody (atEnd : Fault) :
    List Char → Except Fault (Option (Bool × List Char) × List Char)
  | '+' :: rest => scanExponentDigits atEnd false rest
  | '-' :: rest => scanExponentDigits atEnd true rest
  | characters => scanExponentDigits atEnd false characters

/-- The exponent, if there is one. -/
def scanExponent (atEnd : Fault) :
    List Char → Except Fault (Option (Bool × List Char) × List Char)
  | 'e' :: rest => scanExponentBody atEnd rest
  | 'E' :: rest => scanExponentBody atEnd rest
  | characters => .ok (none, characters)

/-- A literal without its sign. -/
def scanUnsigned (atEnd : Fault) (negative : Bool) (characters : List Char) :
    Except Fault (Literal × List Char) := do
  let (whole, afterWhole) ← scanWhole atEnd characters
  let (fraction, afterFraction) ← scanFraction atEnd afterWhole
  let (exponent, rest) ← scanExponent atEnd afterFraction
  return (⟨negative, whole, fraction, exponent⟩, rest)

/-- The literal at the front of a text, and the rest; `atEnd` is what the end of the text
means inside a literal. -/
def scan (atEnd : Fault) : List Char → Except Fault (Literal × List Char)
  | '-' :: rest => scanUnsigned atEnd true rest
  | characters => scanUnsigned atEnd false characters

/-! ## The value -/

/-- The value of a decimal digit. -/
def digitValue (character : Char) : Nat := character.toNat - '0'.toNat

/-- The leading digits as a number below `2 ^ 64`, and how many digits were left out. -/
def leadingWhole : Nat → List Char → Nat × Nat
  | taken, [] => (taken, 0)
  | taken, digit :: rest =>
      let longer := taken * 10 + digitValue digit
      if longer < UInt64.size then leadingWhole longer rest else (taken, rest.length + 1)

/-- The number continued by the fraction digits that still fit below `2 ^ 64`, and how many
of them were taken. -/
def leadingFraction : Nat → List Char → Nat × Nat
  | taken, [] => (taken, 0)
  | taken, digit :: rest =>
      let longer := taken * 10 + digitValue digit
      if longer < UInt64.size then
        let further := leadingFraction longer rest
        (further.1, further.2 + 1)
      else (taken, 0)

/-- The greatest exponent that is taken at its word. -/
def greatestExponent : Nat := (1 <<< 31) - 1

/-- A signed magnitude as a number. -/
def real (negative : Bool) (magnitude : Option Magnitude) : Except Fault Number :=
  match magnitude with
  | some magnitude => .ok (.real ⟨negative, magnitude⟩)
  | none => .error .malformed

/-- The value of an integer literal that fits below `2 ^ 64` without its sign. -/
def integer (negative : Bool) (value : Nat) : Number :=
  if negative then
    if value = 0 ∨ 1 <<< 63 < value then .real ⟨true, Magnitude.nearest value 1⟩
    else .integer (-(value : Int))
  else .integer value

/-- The value of a literal; a number too large to be finite is malformed. -/
def number (literal : Literal) : Except Fault Number :=
  let (wholeTaken, wholeLeft) := leadingWhole 0 literal.whole
  match literal.fraction, literal.exponent with
  | none, none =>
      if wholeLeft = 0 then .ok (integer literal.negative wholeTaken)
      else real literal.negative ((Magnitude.nearest wholeTaken 1).scale wholeLeft)
  | fraction, exponent =>
      let (taken, fractionTaken) := leadingFraction wholeTaken (fraction.getD [])
      let shift : Int := (wholeLeft : Int) - fractionTaken
      let significand := Magnitude.nearest taken 1
      match exponent with
      | none => real literal.negative (significand.scale shift)
      | some (lowers, digits) =>
          let power := Nat.ofDigitChars 10 digits 0
          if greatestExponent < power then
            if taken ≠ 0 ∧ !lowers then .error .malformed
            else real literal.negative (some Magnitude.zero)
          else
            real literal.negative
              (significand.scale (if lowers then shift - power else shift + power))

theorem scanDigits_append (characters : List Char) :
    (scanDigits characters).1 ++ (scanDigits characters).2 = characters :=
  List.takeWhile_append_dropWhile

end Literal

end Switchboard.Json
