/-
# Switchboard.Options -- how a client behaves

A plain record with defaults and one setting function a field.  Setting the
reconnect interval raises the cap to it if need be; setting the cap does not
touch the interval, so an interval set after the cap is always in order, and a
cap set last may be refused.  `Options.validate` names the first field that is
out of order.

* `Options.refusal?_eq_none_iff`: which options are in order;
* `Options.validate_default`: the defaults are;
* `Options.cap_setReconnectInterval`: after setting the interval the cap is not below it.
-/
import Switchboard.ClientError
import Switchboard.Span

namespace Switchboard

set_option autoImplicit false

/-- What happens to outstanding calls when the link is lost. -/
inductive PendingPolicy where
  /-- They stay, and may be answered over a later link. -/
  | keep
  | fail
deriving DecidableEq

/-- How a client behaves. -/
structure Options where
  /-- The wait before the first attempt to reconnect. -/
  reconnectInterval : Span := Span.ofMillis 250
  /-- The longest wait before an attempt to reconnect. -/
  maxReconnectInterval : Span := Span.ofMillis 250
  /-- How long an open link is left alone before it counts as up. -/
  settleDelay : Span := Span.ofMillis 100
  /-- How long an attempt to connect may take. -/
  connectTimeout : Span := Span.ofMillis 10000
  /-- How long a call may take, unless it says otherwise. -/
  callTimeout : Option Span := none
  /-- How many calls may be outstanding. -/
  maxPendingCalls : Nat := 100
  pendingPolicy : PendingPolicy := .keep
  /-- Whether requests made while the link is down wait for it. -/
  queueCalls : Bool := false
  /-- Whether the server is told that the last handler of a topic has gone. -/
  notifyUnsubscribe : Bool := false

namespace Options

/-- Sets the interval, and raises the cap to it if need be. -/
def setReconnectInterval (interval : Span) (options : Options) : Options :=
  { options with
    reconnectInterval := interval
    maxReconnectInterval :=
      if options.maxReconnectInterval < interval then interval else options.maxReconnectInterval }

/-- Sets the cap alone. -/
def setMaxReconnectInterval (cap : Span) (options : Options) : Options :=
  { options with maxReconnectInterval := cap }

/-- Why options are refused. -/
inductive Refusal where
  /-- The reconnect interval is zero. -/
  | zeroReconnectInterval
  /-- The cap is below the interval. -/
  | capBelowInterval
  /-- An attempt may take no time. -/
  | zeroConnectTimeout
  /-- No call may be outstanding. -/
  | zeroMaxPendingCalls
deriving DecidableEq

/-- The reason in words. -/
def Refusal.message : Refusal → String
  | .zeroReconnectInterval => "reconnect_interval must be greater than zero"
  | .capBelowInterval => "max_reconnect_interval must not be below reconnect_interval"
  | .zeroConnectTimeout => "connect_timeout must be greater than zero"
  | .zeroMaxPendingCalls => "max_pending_calls must be greater than zero"

/-- The first reason why the options are refused. -/
def refusal? (options : Options) : Option Refusal :=
  if options.reconnectInterval.isZero then some .zeroReconnectInterval
  else if options.maxReconnectInterval < options.reconnectInterval then some .capBelowInterval
  else if options.connectTimeout.isZero then some .zeroConnectTimeout
  else if options.maxPendingCalls = 0 then some .zeroMaxPendingCalls
  else none

/-- Whether the options are in order, or what is wrong with them. -/
def validate (options : Options) : Except ClientError Unit :=
  match options.refusal? with
  | none => .ok ()
  | some refusal => .error (.config refusal.message)

theorem validate_eq_ok_iff (options : Options) :
    options.validate = .ok () ↔ options.refusal? = none := by
  rw [validate]
  split <;> simp [*]

/-- Options are in order exactly if nothing is zero that must not be, and the cap is not below the
interval. -/
theorem refusal?_eq_none_iff (options : Options) :
    options.refusal? = none ↔
      options.reconnectInterval.isZero = false ∧
        options.reconnectInterval ≤ options.maxReconnectInterval ∧
        options.connectTimeout.isZero = false ∧ options.maxPendingCalls ≠ 0 := by
  have order : options.maxReconnectInterval < options.reconnectInterval ↔
      ¬ options.reconnectInterval ≤ options.maxReconnectInterval := Nat.not_le.symm
  unfold refusal?
  repeat' split
  all_goals simp_all

theorem refusal?_default : ({} : Options).refusal? = none := by decide

theorem validate_default : ({} : Options).validate = .ok () := by
  rw [validate, refusal?_default]

theorem cap_setReconnectInterval (interval : Span) (options : Options) :
    interval ≤ (options.setReconnectInterval interval).maxReconnectInterval := by
  simp only [setReconnectInterval]
  split
  · exact Nat.le_refl _
  · rename_i order
    exact Nat.le_of_not_lt order

end Options

end Switchboard
