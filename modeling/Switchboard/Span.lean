/-
# Switchboard.Span -- a length of time

A `Span` is a whole number of nanoseconds.  It is bounded: the longest span has
`2 ^ 64 - 1` whole seconds and all but one nanosecond of the next.  Doubling
(`Span.twice`) stops at that bound instead of leaving it.

* `Span.nanos_twice`: below the bound, doubling is doubling;
* `Span.twice_longest`: at the bound, it stays.
-/
namespace Switchboard

set_option autoImplicit false

/-- The number of nanoseconds in the longest span. -/
def Span.limit : Nat := UInt64.size * 1000000000 - 1

/-- A length of time in whole nanoseconds. -/
structure Span where
  nanos : Nat
  /-- No span exceeds the longest one. -/
  nanos_le : nanos ≤ Span.limit
deriving DecidableEq

namespace Span

/-- The span of `nanos` nanoseconds, or the longest span if there are too many. -/
def ofNanos (nanos : Nat) : Span := ⟨min nanos limit, Nat.min_le_right _ _⟩

/-- The span of `millis` milliseconds, or the longest span if there are too many. -/
def ofMillis (millis : Nat) : Span := ofNanos (millis * 1000000)

/-- No time at all. -/
def zero : Span := ofNanos 0

/-- The longest span. -/
def longest : Span := ofNanos limit

instance : LE Span := ⟨fun left right => left.nanos ≤ right.nanos⟩

instance (left right : Span) : Decidable (left ≤ right) :=
  inferInstanceAs (Decidable (left.nanos ≤ right.nanos))

instance : LT Span := ⟨fun left right => left.nanos < right.nanos⟩

instance (left right : Span) : Decidable (left < right) :=
  inferInstanceAs (Decidable (left.nanos < right.nanos))

instance : Min Span := ⟨fun left right => if left ≤ right then left else right⟩

instance : Max Span := ⟨fun left right => if left ≤ right then right else left⟩

/-- Whether no time passes. -/
def isZero (span : Span) : Bool := span.nanos == 0

/-- Twice the span, or the longest span if that is too long. -/
def twice (span : Span) : Span := ofNanos (2 * span.nanos)

/-- Whole milliseconds, counted in 64 bits: a count that needs more starts again at zero. -/
def millis (span : Span) : Nat := span.nanos / 1000000 % UInt64.size

@[ext] theorem ext {left right : Span} (same : left.nanos = right.nanos) : left = right := by
  cases left; cases right; simp_all

theorem isZero_eq_false_iff (span : Span) : span.isZero = false ↔ 0 < span.nanos := by
  simp [isZero, Nat.pos_iff_ne_zero]

theorem nanos_ofNanos (nanos : Nat) : (ofNanos nanos).nanos = min nanos limit := rfl

theorem nanos_twice (span : Span) (fits : 2 * span.nanos ≤ limit) :
    span.twice.nanos = 2 * span.nanos := by
  simp [twice, nanos_ofNanos, Nat.min_eq_left fits]

theorem twice_longest : longest.twice = longest := by
  apply ext
  simp only [twice, longest, nanos_ofNanos]
  omega

theorem nanos_min (left right : Span) : (min left right).nanos = min left.nanos right.nanos := by
  show (if left ≤ right then left else right).nanos = _
  by_cases order : left.nanos ≤ right.nanos
  · rw [if_pos (show left ≤ right from order), Nat.min_eq_left order]
  · rw [if_neg (show ¬ left ≤ right from order)]; omega

theorem nanos_max (left right : Span) : (max left right).nanos = max left.nanos right.nanos := by
  show (if left ≤ right then right else left).nanos = _
  by_cases order : left.nanos ≤ right.nanos
  · rw [if_pos (show left ≤ right from order), Nat.max_eq_right order]
  · rw [if_neg (show ¬ left ≤ right from order)]; omega

theorem le_max_left (left right : Span) : left ≤ max left right := by
  show left.nanos ≤ (max left right).nanos
  rw [nanos_max]
  exact Nat.le_max_left _ _

end Span

end Switchboard
