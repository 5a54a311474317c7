/-
# Switchboard.Number.Binary64 -- finite numbers of 53 significant bits

A finite binary number is a sign, a mantissa below `2 ^ 53` and an exponent of two
between -1074 and 971; mantissas below `2 ^ 52` occur at the least exponent only.
Quotients of natural numbers are rounded to the nearest such number, a tie to the
even mantissa (`Magnitude.nearest`).  Scaling by a power of ten rounds the power
first and the product or quotient once more (`Magnitude.scale`), in steps of
`10 ^ 308` where the power itself is out of range.

* `Magnitude.roundHalfEven_zero`: nothing rounds to nothing;
* `Magnitude.nearest_zero`: zero is itself;
* `Magnitude.scale_zero`: scaling zero by nothing changes nothing.
-/
namespace Switchboard

set_option autoImplicit false

/-- A number `mantissa * 2 ^ exponent` without a sign. -/
structure Magnitude where
  /-- The significant bits. -/
  mantissa : Nat
  /-- The exponent of two. -/
  exponent : Int
deriving DecidableEq

/-- A finite binary number. -/
structure Binary64 where
  /-- Whether the number carries a minus sign; zero may. -/
  negative : Bool
  /-- The number without its sign. -/
  magnitude : Magnitude
deriving DecidableEq

namespace Magnitude

/-- The least exponent. -/
def leastExponent : Int := -1074

/-- The greatest exponent of a finite number. -/
def greatestExponent : Int := 971

/-- No magnitude at all. -/
def zero : Magnitude := ⟨0, leastExponent⟩

/-- Whether the number is zero. -/
def isZero (magnitude : Magnitude) : Bool := magnitude.mantissa == 0

/-- Whether the number is too large to be finite. -/
def isInfinite (magnitude : Magnitude) : Bool := greatestExponent < magnitude.exponent

/-- The quotient rounded to a whole number, a half to the even one. -/
def roundHalfEven (numerator denominator : Nat) : Nat :=
  let quotient := numerator / denominator
  let twiceRest := 2 * (numerator % denominator)
  if twiceRest < denominator then quotient
  else if denominator < twiceRest then quotient + 1
  else if quotient % 2 = 0 then quotient
  else quotient + 1

/-- Numerator and denominator of a quotient measured in units of `2 ^ exponent`. -/
def inUnits (numerator denominator : Nat) (exponent : Int) : Nat × Nat :=
  if 0 ≤ exponent then (numerator, denominator <<< exponent.toNat)
  else (numerator <<< (-exponent).toNat, denominator)

/-- The exponent at which a positive quotient has 53 significant bits. -/
def naturalExponent (numerator denominator : Nat) : Int :=
  let guess : Int := (numerator.log2 : Int) - denominator.log2 - 52
  let scaled := inUnits numerator denominator guess
  if scaled.2 <<< 52 ≤ scaled.1 then guess else guess - 1

/-- The number nearest to a quotient; its exponent may be too great to be finite. -/
def nearest (numerator denominator : Nat) : Magnitude :=
  if numerator = 0 then zero
  else
    let exponent := max (naturalExponent numerator denominator) leastExponent
    let scaled := inUnits numerator denominator exponent
    let rounded := roundHalfEven scaled.1 scaled.2
    if rounded = 1 <<< 53 then ⟨1 <<< 52, exponent + 1⟩ else ⟨rounded, exponent⟩

/-- The number as a quotient of natural numbers. -/
def quotient (magnitude : Magnitude) : Nat × Nat :=
  if 0 ≤ magnitude.exponent then (magnitude.mantissa <<< magnitude.exponent.toNat, 1)
  else (magnitude.mantissa, 1 <<< (-magnitude.exponent).toNat)

/-- The number nearest to a power of ten. -/
def powerOfTen (power : Nat) : Magnitude := nearest (Nat.pow 10 power) 1

/-- The rounded product. -/
def times (left right : Magnitude) : Magnitude :=
  nearest (left.quotient.1 * right.quotient.1) (left.quotient.2 * right.quotient.2)

/-- The rounded quotient. -/
def dividedBy (left right : Magnitude) : Magnitude :=
  nearest (left.quotient.1 * right.quotient.2) (left.quotient.2 * right.quotient.1)

/-- The greatest power of ten that is finite. -/
def greatestPower : Nat := 308

/-- The number divided by `10 ^ power`, by the greatest power at a time; `steps` bounds how
often, and a number that has come down to zero stays zero. -/
def divideByTens : Nat → Magnitude → Nat → Magnitude
  | 0, magnitude, _ => magnitude
  | steps + 1, magnitude, power =>
      if power ≤ greatestPower then magnitude.dividedBy (powerOfTen power)
      else if magnitude.isZero then magnitude
      else divideByTens steps (magnitude.dividedBy (powerOfTen greatestPower)) (power - greatestPower)

/-- The number times `10 ^ power`, rounded; `none` if it is too large. -/
def scale (magnitude : Magnitude) (power : Int) : Option Magnitude :=
  if power < 0 then some (divideByTens ((-power).toNat + 1) magnitude (-power).toNat)
  else if power.toNat ≤ greatestPower then
    let product := magnitude.times (powerOfTen power.toNat)
    if product.isInfinite then none else some product
  else if magnitude.isZero then some magnitude
  else none

theorem roundHalfEven_zero (denominator : Nat) (positive : 0 < denominator) :
    roundHalfEven 0 denominator = 0 := by
  simp [roundHalfEven, positive]

theorem nearest_zero (denominator : Nat) : nearest 0 denominator = zero := rfl

theorem scale_zero : zero.scale 0 = some zero := by decide

end Magnitude

namespace Binary64

/-- The number nearest to a natural number. -/
def ofNat (number : Nat) : Binary64 := ⟨false, Magnitude.nearest number 1⟩

/-- The number with the other sign. -/
def negate (number : Binary64) : Binary64 := { number with negative := !number.negative }

end Binary64

end Switchboard
