/-
# Switchboard.Proofs.Preparation -- what a prepared client is

A builder collects settings, and may take options as a whole and be given a token at any
point.  What becomes of it depends on the whole sequence of its steps, and is said here by
looking back over that: the options taken last, or the defaults, with the settings made
since (`Builder.plainOptions`), and the token given last (`Builder.lastToken?`).

The settings of the reconnect interval and of its cap do not commute: the first raises the
cap if need be, the second never lowers the interval.  So it depends on which of them came
last whether the cap is below the interval in the end (`Setting.Undercuts`).

* `Builder.options_run`, `Builder.token_run`: what a builder has collected;
* `Setting.cap_lt_interval_iff`: when settings leave the cap below the interval;
* `Builder.build_agrees_with_plain_options`: a builder builds the client of its plain options,
  exactly if these are in order.
-/
import Mathlib.Data.List.DropRight
import Switchboard.Builder

namespace Switchboard

set_option autoImplicit false

/-! ## Interval and cap -/

namespace Setting

variable {base : Options} {setting : Setting}

/-- Whether it is a setting of the reconnect interval or of its cap. -/
def isPace : Setting → Bool
  | .reconnectInterval _ => true
  | .maxReconnectInterval _ => true
  | _ => false

/-- Whether the last setting of interval or cap, in a sequence that starts from `base`, is a cap
below the interval in force at that moment. -/
def Undercuts (base : Options) (settings : List Setting) : Prop :=
  ∃ before cap after, settings = before ++ .maxReconnectInterval cap :: after ∧
    (∀ later ∈ after, later.isPace = false) ∧ cap < (applyAll base before).reconnectInterval

theorem applyAll_concat (base : Options) (settings : List Setting) (setting : Setting) :
    applyAll base (settings ++ [setting]) = setting.apply (applyAll base settings) := by
  simp [applyAll]

theorem not_undercuts_nil : ¬ Undercuts base [] := by
  rintro ⟨before, cap, after, none, -⟩
  simp at none

/-- One more setting: a cap decides anew, an interval mends the order, and any other is of no
effect. -/
theorem undercuts_concat (base : Options) (settings : List Setting) (setting : Setting) :
    Undercuts base (settings ++ [setting]) ↔
      (∃ cap, setting = .maxReconnectInterval cap ∧
          cap < (applyAll base settings).reconnectInterval) ∨
        (setting.isPace = false ∧ Undercuts base settings) := by
  constructor
  · rintro ⟨before, cap, after, same, quiet, below⟩
    rcases List.eq_nil_or_concat' after with rfl | ⟨front, final, rfl⟩
    · obtain ⟨rfl, last⟩ := List.append_inj' same rfl
      exact .inl ⟨cap, List.singleton_inj.1 last, below⟩
    · -- the cap came earlier, and what follows it ends in the new setting
      rw [← List.cons_append, ← List.append_assoc] at same
      obtain ⟨rfl, last⟩ := List.append_inj' same rfl
      obtain rfl := List.singleton_inj.1 last
      have quietBefore : ∀ later ∈ front, later.isPace = false := fun later member =>
        quiet later (List.mem_append_left _ member)
      exact .inr ⟨quiet setting (by simp), before, cap, front, rfl, quietBefore, below⟩
  · rintro (⟨cap, rfl, below⟩ | ⟨silent, before, cap, after, rfl, quiet, below⟩)
    · exact ⟨settings, cap, [], rfl, by simp, below⟩
    · refine ⟨before, cap, after ++ [setting], by simp, fun later member => ?_, below⟩
      rcases List.mem_append.1 member with earlier | last
      · exact quiet later earlier
      · obtain rfl := List.mem_singleton.1 last
        exact silent

/-- A setting of something else touches neither interval nor cap. -/
theorem pace_apply (other : setting.isPace = false) (options : Options) :
    (setting.apply options).reconnectInterval = options.reconnectInterval ∧
      (setting.apply options).maxReconnectInterval = options.maxReconnectInterval := by
  cases setting <;> first | exact ⟨rfl, rfl⟩ | simp [isPace] at other

/-- **Settings leave the cap below the interval exactly if they undercut it**, when they start from
options in order. -/
theorem cap_lt_interval_iff (order : base.reconnectInterval ≤ base.maxReconnectInterval)
    (settings : List Setting) :
    (applyAll base settings).maxReconnectInterval < (applyAll base settings).reconnectInterval ↔
      Undercuts base settings := by
  induction settings using List.reverseRecOn with
  | nil => exact iff_of_false (Nat.not_lt_of_le order) not_undercuts_nil
  | append_singleton settings setting ih =>
      rw [applyAll_concat, undercuts_concat]
      cases pace : setting.isPace with
      | false =>
          have notCap : ∀ cap, setting ≠ .maxReconnectInterval cap := by
            rintro cap rfl
            simp [isPace] at pace
          obtain ⟨interval, cap⟩ := pace_apply pace (applyAll base settings)
          simpa [interval, cap, notCap] using ih
      | true =>
          cases setting with
          | reconnectInterval interval =>
              have mended := Options.cap_setReconnectInterval interval (applyAll base settings)
              exact iff_of_false (Nat.not_lt_of_le mended) (by simp)
          | maxReconnectInterval cap => simp [apply, Options.setMaxReconnectInterval]
          | _ => simp [isPace] at pace

end Setting

/-! ## The builder -/

namespace Builder

variable {κ ω : Type}

/-- The options that a step takes as a whole. -/
def Step.taken? : Step → Option Options
  | .take options => some options
  | _ => none

/-- The setting that a step makes. -/
def Step.setting? : Step → Option Setting
  | .set setting => some setting
  | _ => none

/-- The token that a step gives. -/
def Step.token? : Step → Option Json
  | .authToken token => some token
  | _ => none

/-- The steps after the last one that takes options as a whole. -/
def sinceTaken (steps : List Step) : List Step :=
  steps.rtakeWhile fun step => step.taken?.isNone

/-- The plain options that correspond to a sequence of steps: those taken last, or the defaults,
after the settings made since. -/
def plainOptions (steps : List Step) : Options :=
  Setting.applyAll ((steps.filterMap Step.taken?).getLast?.getD {})
    ((sinceTaken steps).filterMap Step.setting?)

/-- The token that is given last. -/
def lastToken? (steps : List Step) : Option Json := (steps.filterMap Step.token?).getLast?

theorem run_concat (builder : Builder) (steps : List Step) (step : Step) :
    builder.run (steps ++ [step]) = (builder.run steps).step step := by
  simp [run]

/-- A builder has the plain options of its steps. -/
theorem options_run (steps : List Step) :
    (({} : Builder).run steps).options = plainOptions steps := by
  induction steps using List.reverseRecOn with
  | nil => rfl
  | append_singleton steps step ih =>
      rw [run_concat]
      cases step with
      | set setting =>
          simp [Builder.step, ih, plainOptions, sinceTaken, Step.taken?, Step.setting?,
            Setting.applyAll_concat]
      | take options =>
          simp [Builder.step, plainOptions, sinceTaken, Step.taken?, Setting.applyAll]
      | authToken token =>
          simp [Builder.step, ih, plainOptions, sinceTaken, Step.taken?, Step.setting?,
            List.filterMap_cons]

/-- A builder has the token it was given last. -/
theorem token_run (steps : List Step) : (({} : Builder).run steps).token = lastToken? steps := by
  induction steps using List.reverseRecOn with
  | nil => rfl
  | append_singleton steps step ih =>
      rw [run_concat]
      cases step <;> simp [Builder.step, ih, lastToken?, Step.token?]

/-- **A builder builds the client of its plain options, and exactly if these are in order.**

* After any sequence of steps, the builder builds a client exactly if the plain options of the
  sequence are in order.  The client has these options, and the token given last.
* It is refused exactly as the plain options are.
* Settings that start from the defaults leave the cap below the interval exactly if the last setting
  of the two is a cap below the interval in force at that moment. -/
theorem build_agrees_with_plain_options :
    (∀ (steps : List Step) (desk : ω),
      ((∃ client : Client κ ω, (({} : Builder).run steps).build desk = .ok client) ↔
          (plainOptions steps).validate = .ok ()) ∧
        (∀ client : Client κ ω, (({} : Builder).run steps).build desk = .ok client →
          client.options = plainOptions steps ∧ client.token = lastToken? steps) ∧
        ∀ error, (({} : Builder).run steps).build (κ := κ) desk = .error error ↔
          (plainOptions steps).validate = .error error) ∧
      ∀ settings : List Setting,
        (Setting.applyAll {} settings).maxReconnectInterval <
            (Setting.applyAll {} settings).reconnectInterval ↔
          Setting.Undercuts {} settings := by
  refine ⟨fun steps desk => ⟨?_, ?_, ?_⟩, Setting.cap_lt_interval_iff (Nat.le_refl _)⟩
  · simp only [build_eq_ok_iff, options_run, exists_and_left, exists_eq, and_true]
  · intro client built
    obtain ⟨-, rfl⟩ := (build_eq_ok_iff _ desk client).1 built
    exact ⟨options_run steps, token_run steps⟩
  · intro error
    rw [build_eq_error_iff, options_run]

/-- An interval mends a cap that was set too low, and options taken as a whole replace what was set
before them; a cap set too low last is refused, whatever else is set after it. -/
theorem build_agrees_with_plain_options_mended :
    (∃ client : Client Unit Unit,
        (({} : Builder).run [.authToken (.string "old"), .set .queueCalls, .take {},
          .set (.maxReconnectInterval (.ofMillis 10)), .set (.reconnectInterval (.ofMillis 1000)),
          .authToken (.string "1234")]).build () = .ok client ∧
        client.options =
          { reconnectInterval := .ofMillis 1000, maxReconnectInterval := .ofMillis 1000 } ∧
        client.token = some (.string "1234")) ∧
      Setting.Undercuts {} [.reconnectInterval (.ofMillis 1000),
        .maxReconnectInterval (.ofMillis 10), .queueCalls] ∧
      (({} : Builder).run [.set (.reconnectInterval (.ofMillis 1000)),
        .set (.maxReconnectInterval (.ofMillis 10)), .set .queueCalls]).build (κ := Unit) () =
          .error (.config Options.Refusal.capBelowInterval.message) := by
  obtain ⟨builds, undercuts⟩ := build_agrees_with_plain_options (κ := Unit) (ω := Unit)
  obtain ⟨accepted, exact, -⟩ := builds [.authToken (.string "old"), .set .queueCalls, .take {},
    .set (.maxReconnectInterval (.ofMillis 10)), .set (.reconnectInterval (.ofMillis 1000)),
    .authToken (.string "1234")] ()
  obtain ⟨client, built⟩ := accepted.2 rfl
  obtain ⟨-, -, refused⟩ := builds [.set (.reconnectInterval (.ofMillis 1000)),
    .set (.maxReconnectInterval (.ofMillis 10)), .set .queueCalls] ()
  exact ⟨⟨client, built, exact client built⟩, (undercuts _).1 (by decide), (refused _).2 rfl⟩

end Builder

end Switchboard
