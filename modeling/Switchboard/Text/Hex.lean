/-
# Switchboard.Text.Hex -- hexadecimal digits

Numbers are written in lower case, either in a fixed width (`Hex.fixed`) or with
no needless digit (`Hex.plain`); digits are read in either case (`Hex.value?`).

* `Hex.length_fixed`: a fixed width is kept;
* `Hex.number?_fixed`: what is written in a sufficient width reads back.
-/
namespace Switchboard.Text.Hex

set_option autoImplicit false

/-- The lower-case digit of a number below sixteen. -/
def digit (value : Nat) : Char :=
  if value < 10 then Char.ofNat (48 + value) else Char.ofNat (87 + value)

/-- The value of a digit in either case. -/
def value? (character : Char) : Option Nat :=
  let code := character.toNat
  if 48 ≤ code ∧ code ≤ 57 then some (code - 48)
  else if 97 ≤ code ∧ code ≤ 102 then some (code - 87)
  else if 65 ≤ code ∧ code ≤ 70 then some (code - 55)
  else none

/-- Whether a character is a digit in either case. -/
def isDigit (character : Char) : Bool := (value? character).isSome

/-- The last `width` digits of a number, most significant first. -/
def fixed : Nat → Nat → List Char
  | 0, _ => []
  | width + 1, number => fixed width (number / 16) ++ [digit (number % 16)]

/-- A number without leading zeros. -/
def plain (number : Nat) : List Char := Nat.toDigits 16 number

/-- The number that digits denote, read on from `number`; fails at any other character. -/
def numberFrom? : Nat → List Char → Option Nat
  | number, [] => some number
  | number, character :: rest =>
      match value? character with
      | some value => numberFrom? (number * 16 + value) rest
      | none => none

/-- The number that a list of digits denotes. -/
def number? (digits : List Char) : Option Nat := numberFrom? 0 digits

theorem value?_digit (value : Nat) (small : value < 16) : value? (digit value) = some value := by
  revert value; decide

theorem length_fixed (width number : Nat) : (fixed width number).length = width := by
  induction width generalizing number with
  | zero => rfl
  | succ width ih => simp [fixed, ih]

theorem numberFrom?_append (number : Nat) (front back : List Char) :
    numberFrom? number (front ++ back) =
      (numberFrom? number front).bind (fun upper => numberFrom? upper back) := by
  induction front generalizing number with
  | nil => rfl
  | cons character front ih =>
      simp only [List.cons_append, numberFrom?]
      cases value? character with
      | none => rfl
      | some value => exact ih _

theorem number?_fixed (width number : Nat) (fits : number < Nat.pow 16 width) :
    number? (fixed width number) = some number := by
  induction width generalizing number with
  | zero => simp_all [fixed, number?, numberFrom?]
  | succ width ih =>
      have upper : number / 16 < Nat.pow 16 width := Nat.div_lt_of_lt_mul (Nat.mul_comm .. ▸ fits)
      have split := ih (number / 16) upper
      unfold number? at split ⊢
      rw [fixed, numberFrom?_append, split]
      simp only [Option.bind_some, numberFrom?, value?_digit _ (Nat.mod_lt number (by decide)),
        Option.some.injEq]
      omega

end Switchboard.Text.Hex
