/-
# Switchboard.HandleId -- the name of one registration

Subscriptions and connectivity observers are registered under handles drawn from
one counter, so a handle names at most one registration of either kind.  Handles
count from one in 64 bits.

* `HandleId.nth_injective`: distinct draws below the width give distinct handles;
* `HandleId.eq_of_toNat`: a handle is known by its number.
-/
namespace Switchboard

set_option autoImplicit false

/-- The name of one registration. -/
structure HandleId where
  value : UInt64
deriving DecidableEq

namespace HandleId

/-- The handle of a number, which starts again at zero beyond 64 bits. -/
def ofNat (number : Nat) : HandleId := ⟨UInt64.ofNat number⟩

/-- The handle drawn after `drawn` others. -/
def nth (drawn : Nat) : HandleId := ofNat (drawn + 1)

/-- The handle's number. -/
def toNat (handle : HandleId) : Nat := handle.value.toNat

/-- The handle as people read it. -/
def display (handle : HandleId) : String := "h" ++ toString handle.toNat

/-- Whether the first handle was not drawn after the second. -/
def le (left right : HandleId) : Bool := left.toNat ≤ right.toNat

theorem toNat_ofNat (number : Nat) (fits : number < UInt64.size) :
    (ofNat number).toNat = number := by
  simp [toNat, ofNat]
  omega

theorem nth_injective (left right : Nat) (leftFits : left + 1 < UInt64.size)
    (rightFits : right + 1 < UInt64.size) (same : nth left = nth right) : left = right := by
  have numbers := congrArg toNat same
  rw [nth, nth, toNat_ofNat _ leftFits, toNat_ofNat _ rightFits] at numbers
  omega

theorem eq_of_toNat {left right : HandleId} (same : left.toNat = right.toNat) : left = right := by
  cases left
  cases right
  exact congrArg HandleId.mk (UInt64.toNat_inj.1 same)

end HandleId

end Switchboard
