/-
# Switchboard.Backoff -- how long to wait before the next attempt

The first wait is `initial`; each following one is twice the last, never above
`cap`.  A link that opens starts the schedule again (`Backoff.reset`).  A cap
below the first wait is raised to it, so the first wait is always given in full.

* `Backoff.next_delay`: a wait is the current one;
* `Backoff.reset_next`: after a reset the schedule forgets how often it was asked.
-/
import Switchboard.Span

namespace Switchboard

set_option autoImplicit false

/-- A schedule of growing waits. -/
structure Backoff where
  initial : Span
  cap : Span
  /-- The wait given next. -/
  current : Span
deriving DecidableEq

namespace Backoff

/-- A fresh schedule; a cap below the first wait is raised to it. -/
def start (initial cap : Span) : Backoff := ⟨initial, max cap initial, initial⟩

/-- The wait due now, and the schedule after it. -/
def next (backoff : Backoff) : Span × Backoff :=
  (backoff.current, { backoff with current := min backoff.current.twice backoff.cap })

/-- The schedule from its beginning. -/
def reset (backoff : Backoff) : Backoff := { backoff with current := backoff.initial }

/-- Whether every wait is the same. -/
def isFixed (backoff : Backoff) : Bool := backoff.cap == backoff.initial

/-- The schedule after `count` waits. -/
def after : Nat → Backoff → Backoff
  | 0, backoff => backoff
  | count + 1, backoff => after count backoff.next.2

@[simp] theorem next_delay (backoff : Backoff) : backoff.next.1 = backoff.current := rfl

@[simp] theorem next_initial (backoff : Backoff) : backoff.next.2.initial = backoff.initial := rfl

@[simp] theorem next_cap (backoff : Backoff) : backoff.next.2.cap = backoff.cap := rfl

theorem reset_next (backoff : Backoff) : backoff.next.2.reset = backoff.reset := rfl

end Backoff

end Switchboard
