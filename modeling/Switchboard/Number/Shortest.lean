/-
# Switchboard.Number.Shortest -- the fewest digits that read back

Every finite binary number is the nearest one to an interval of reals around it,
the ends included iff its mantissa is even.  Among the decimal numbers in that
interval those with the fewest significant digits are taken, and of them the
nearest (`Magnitude.shortest`).  If some point of a decimal grid lies in the
interval, one of the number's two neighbours on the grid does, so only these are
tried, on ever finer grids; seventeen digits always suffice.

* `Decimal.strip_self`: digits without a trailing zero are left alone.
-/
import Switchboard.Number.Binary64

namespace Switchboard

set_option autoImplicit false

/-- The number `coefficient * 10 ^ exponent`. -/
structure Decimal where
  /-- The significant digits, read as a natural number. -/
  coefficient : Nat
  /-- The exponent of ten. -/
  exponent : Int
deriving DecidableEq

namespace Decimal

/-- The same number without trailing zeros in its coefficient; `steps` bounds their number. -/
def strip : Nat → Decimal → Decimal
  | 0, decimal => decimal
  | steps + 1, decimal =>
      if decimal.coefficient ≠ 0 ∧ decimal.coefficient % 10 = 0 then
        strip steps ⟨decimal.coefficient / 10, decimal.exponent + 1⟩
      else decimal

theorem strip_self (steps : Nat) (decimal : Decimal) (odd : decimal.coefficient % 10 ≠ 0) :
    strip steps decimal = decimal := by
  cases steps <;> simp [strip, odd]

end Decimal

namespace Magnitude

/-- The exponent of the leading decimal digit of a positive quotient below one: `steps`
bounds the search, and `power` is the exponent tried. -/
def leadingBelowOne : Nat → Nat → Nat → Nat → Nat
  | 0, _, _, power => power
  | steps + 1, numerator, denominator, power =>
      if denominator ≤ numerator * Nat.pow 10 power then power
      else leadingBelowOne steps numerator denominator (power + 1)

/-- The exponent of the leading decimal digit of a positive quotient. -/
def leadingPower (numerator denominator : Nat) : Int :=
  if denominator ≤ numerator then ((Nat.toDigits 10 (numerator / denominator)).length : Int) - 1
  else -(leadingBelowOne 400 numerator denominator 1 : Int)

/-- A quotient in units of `10 ^ power`. -/
def inTens (numerator denominator : Nat) (power : Int) : Nat × Nat :=
  if 0 ≤ power then (numerator, denominator * Nat.pow 10 power.toNat)
  else (numerator * Nat.pow 10 (-power).toNat, denominator)

/-- Whether `candidate * denominator` lies between the two ends. -/
def between (closed : Bool) (low high : Nat) (value : Nat) : Bool :=
  if closed then low ≤ value && value ≤ high else low < value && value < high

/-- The point of the grid `10 ^ power` that rounds to the number, if there is one: the nearer
neighbour of the two, and of two equally near the even one. -/
def onGrid? (magnitude : Magnitude) (power : Int) : Option Nat :=
  let fourfold : Magnitude := ⟨4 * magnitude.mantissa, magnitude.exponent - 2⟩
  let below : Nat :=
    if magnitude.mantissa = 1 <<< 52 ∧ leastExponent < magnitude.exponent then 1 else 2
  let unit := (⟨1, fourfold.exponent⟩ : Magnitude).quotient
  let scaled := inTens unit.1 unit.2 power
  let low := (fourfold.mantissa - below) * scaled.1
  let value := fourfold.mantissa * scaled.1
  let high := (fourfold.mantissa + 2) * scaled.1
  let closed := magnitude.mantissa % 2 = 0
  let floor := value / scaled.2
  let downHit := between closed low high (floor * scaled.2)
  let upHit := between closed low high ((floor + 1) * scaled.2)
  let downGap := value - floor * scaled.2
  let upGap := (floor + 1) * scaled.2 - value
  if downHit && (!upHit || downGap < upGap || (downGap == upGap && floor % 2 == 0)) then some floor
  else if upHit then some (floor + 1)
  else none

/-- The first grid with a point that rounds to the number, from `power` towards finer ones. -/
def shortestFrom : Nat → Magnitude → Int → Decimal
  | 0, _, power => ⟨0, power⟩
  | steps + 1, magnitude, power =>
      match onGrid? magnitude power with
      | some coefficient => ⟨coefficient, power⟩
      | none => shortestFrom steps magnitude (power - 1)

/-- The fewest digits that read back as the number, and of them the nearest. -/
def shortest (magnitude : Magnitude) : Decimal :=
  if magnitude.isZero then ⟨0, 0⟩
  else
    let ratio := magnitude.quotient
    (shortestFrom 20 magnitude (leadingPower ratio.1 ratio.2)).strip 20

end Magnitude

end Switchboard
