/-
# Switchboard.Scope -- handles that are released together

A scope holds handles in the order in which it took them, of either kind, even
repeated or long released.  Disposing of it releases all that are still
registered and leaves it empty.

* `Scope.dispose_empty`: after disposal nothing is held;
* `Scope.dispose_again`: a second disposal releases nothing.
-/
import Switchboard.Client.Subscribing

namespace Switchboard

set_option autoImplicit false

/-- Handles that are released together. -/
structure Scope where
  /-- The handles, in the order in which they were taken. -/
  handles : List HandleId := []

namespace Scope

variable {κ ω : Type}

/-- The scope with one more handle. -/
def adopt (scope : Scope) (handle : HandleId) : Scope := ⟨scope.handles ++ [handle]⟩

/-- How many handles it holds. -/
def size (scope : Scope) : Nat := scope.handles.length

/-- Whether it holds none. -/
def isEmpty (scope : Scope) : Bool := scope.handles.isEmpty

/-- The scope on one line. -/
def summary (scope : Scope) : String :=
  "HandleScope \x7b handles: " ++ toString scope.size ++ ", .. \x7d"

/-- The empty scope, the client without its handles, and how many were registered. -/
def dispose (scope : Scope) (client : Client κ ω) : Scope × Client κ ω × Nat :=
  let (client, count) := client.unsubscribeAll scope.handles
  ({}, client, count)

theorem dispose_empty (scope : Scope) (client : Client κ ω) :
    (scope.dispose client).1.isEmpty = true := rfl

theorem dispose_again (scope : Scope) (client other : Client κ ω) :
    ((scope.dispose client).1.dispose other).2 = (other, 0) := rfl

end Scope

end Switchboard
