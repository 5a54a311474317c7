/-
# Switchboard.Builder -- preparing a client step by step

Both ways to configure a client are sequences of settings: on plain options, and
on a builder, which also carries a token and can take over options as a whole.
A setting means the same in both (`Setting.apply`), so a builder's options are
those of the plain sequence (`Builder.options_run_settings`).  The builder is
done with when it builds its client (`Builder.build`).
-/
import Switchboard.Client

namespace Switchboard

set_option autoImplicit false

/-- One setting of one option. -/
inductive Setting where
  | reconnectInterval (interval : Span)
  | maxReconnectInterval (cap : Span)
  | settleDelay (delay : Span)
  | connectTimeout (limit : Span)
  | callTimeout (limit : Span)
  | maxPendingCalls (count : Nat)
  | pendingPolicy (policy : PendingPolicy)
  | queueCalls
  | notifyUnsubscribe

namespace Setting

/-- The options after one setting. -/
def apply (options : Options) : Setting → Options
  | .reconnectInterval interval => options.setReconnectInterval interval
  | .maxReconnectInterval cap => options.setMaxReconnectInterval cap
  | .settleDelay delay => { options with settleDelay := delay }
  | .connectTimeout limit => { options with connectTimeout := limit }
  | .callTimeout limit => { options with callTimeout := some limit }
  | .maxPendingCalls count => { options with maxPendingCalls := count }
  | .pendingPolicy policy => { options with pendingPolicy := policy }
  | .queueCalls => { options with queueCalls := true }
  | .notifyUnsubscribe => { options with notifyUnsubscribe := true }

/-- The options after a sequence of settings. -/
def applyAll (options : Options) (settings : List Setting) : Options :=
  settings.foldl apply options

end Setting

/-- A client in preparation. -/
structure Builder where
  options : Options := {}
  token : Option Json := none

namespace Builder

/-- One step of preparation. -/
inductive Step where
  | set (setting : Setting)
  | take (options : Options)
  | authToken (token : Json)

/-- The builder after one step. -/
def step (builder : Builder) : Step → Builder
  | .set setting => { builder with options := setting.apply builder.options }
  | .take options => { builder with options }
  | .authToken token => { builder with token := some token }

/-- The builder after a sequence of steps. -/
def run (builder : Builder) (steps : List Step) : Builder := steps.foldl step builder

/-- The client as prepared, if its options are in order. -/
def build {κ ω : Type} (builder : Builder) (desk : ω) : Except ClientError (Client κ ω) :=
  Client.build builder.options builder.token desk

theorem options_run_settings (builder : Builder) (settings : List Setting) :
    (builder.run (settings.map .set)).options = Setting.applyAll builder.options settings := by
  induction settings generalizing builder with
  | nil => rfl
  | cons setting settings ih =>
      simpa [run, Setting.applyAll, step] using ih (builder.step (.set setting))

theorem build_eq_ok_iff {κ ω : Type} (builder : Builder) (desk : ω) (client : Client κ ω) :
    builder.build desk = .ok client ↔
      builder.options.validate = .ok () ∧ client = .new builder.options builder.token desk := by
  rw [build, Client.build]
  split <;> rename_i valid <;> simp [valid, eq_comm]

theorem build_eq_error_iff {κ ω : Type} (builder : Builder) (desk : ω) (error : ClientError) :
    builder.build (κ := κ) desk = .error error ↔ builder.options.validate = .error error := by
  rw [build, Client.build]
  split <;> rename_i valid <;> simp [valid]

end Builder

end Switchboard
