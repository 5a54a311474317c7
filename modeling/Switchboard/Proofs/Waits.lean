/-
# Switchboard.Proofs.Waits -- how long a driver waits

A schedule is asked for waits and reset, in any order.  Each step doubles the wait and cuts it off,
at the longest span and at the cap; that comes to doubling it as often as it was asked and cutting
it off once (`Backoff.nanos_after`).  A reset forgets what came before it (`Backoff.useAll_start`).

A driver asks its schedule when a wait begins and resets it when a socket has opened, and nothing
else that happens to a client touches it (`Client.paces_step`).  So the schedule is always the one
it started with, after as many waits as have begun since (`Link.Paced`).

* `waits_double_up_to_cap`: every wait of a schedule, and every wait of a driver.
-/
import Mathlib
import Switchboard.Proofs.Prologue
import Switchboard.Proofs.Teardown

namespace Switchboard

set_option autoImplicit false

/-! ## The schedule -/

namespace Backoff

/-- What is done with a schedule. -/
inductive Use where
  /-- It is asked for a wait. -/
  | next
  | reset
deriving DecidableEq

/-- The schedule after one use. -/
def use (backoff : Backoff) : Use → Backoff
  | .next => backoff.next.2
  | .reset => backoff.reset

/-- The schedule after a sequence of uses. -/
def useAll (uses : List Use) (backoff : Backoff) : Backoff := uses.foldl use backoff

/-- How many waits were asked for since the last reset, or since the beginning. -/
def sinceReset (uses : List Use) : Nat := (uses.rtakeWhile (· = .next)).length

variable {backoff : Backoff} {initial cap : Span}

@[simp] theorem reset_after (count : Nat) : (after count backoff).reset = backoff.reset := by
  induction count generalizing backoff with
  | zero => rfl
  | succ count ih => rw [after, ih, reset_next]

@[simp] theorem cap_after (count : Nat) : (after count backoff).cap = backoff.cap := by
  induction count generalizing backoff with
  | zero => rfl
  | succ count ih => rw [after, ih, next_cap]

/-- One wait more comes last. -/
theorem after_succ (count : Nat) : after (count + 1) backoff = (after count backoff).next.2 := by
  induction count generalizing backoff with
  | zero => rfl
  | succ count ih => rw [after, ih, after]

theorem after_add (count more : Nat) :
    after (count + more) backoff = after more (after count backoff) := by
  induction more with
  | zero => rfl
  | succ more ih => rw [← Nat.add_assoc, after_succ, after_succ, ih]

/-- **The waits of a schedule double up to its cap.**  A wait that was cut off stays cut off when it
is doubled, and no cap is above the longest span. -/
theorem nanos_after (initial cap : Span) (count : Nat) :
    (after count (start initial cap)).current.nanos =
      min (initial.nanos * 2 ^ count) (max initial cap).nanos := by
  have bound := (max initial cap).nanos_le
  have capped : (start initial cap).cap.nanos = (max initial cap).nanos := by
    rw [start, Span.nanos_max, Span.nanos_max, Nat.max_comm]
  induction count with
  | zero =>
      have below : initial.nanos ≤ (max initial cap).nanos := Span.le_max_left initial cap
      simpa [after, start] using below
  | succ count ih =>
      have doubled : (after (count + 1) (start initial cap)).current =
          min (after count (start initial cap)).current.twice (start initial cap).cap := by
        rw [after_succ, next, cap_after]
      rw [doubled, Span.nanos_min, capped, Span.twice, Span.nanos_ofNanos, ih, Nat.pow_succ,
        ← Nat.mul_assoc]
      omega

theorem useAll_append (uses later : List Use) :
    backoff.useAll (uses ++ later) = (backoff.useAll uses).useAll later :=
  List.foldl_append

theorem useAll_replicate (count : Nat) :
    backoff.useAll (List.replicate count .next) = after count backoff := by
  induction count generalizing backoff with
  | zero => rfl
  | succ count ih => exact ih

/-- A reset forgets what came before it, so a schedule is where its last waits have brought it. -/
theorem useAll_start (uses : List Use) :
    (start initial cap).useAll uses = after (sinceReset uses) (start initial cap) := by
  induction uses using List.reverseRecOn with
  | nil => rfl
  | append_singleton uses use ih =>
      rw [useAll_append, ih]
      cases use with
      | next =>
          have more : sinceReset (uses ++ [.next]) = sinceReset uses + 1 := by
            simp [sinceReset]
          rw [more, after_succ]
          rfl
      | reset =>
          have none : sinceReset (uses ++ [.reset]) = 0 := by
            simp [sinceReset]
          rw [none]
          exact reset_after _

/-- No wait is shorter than the first one, or longer than the cap. -/
theorem start_le_after (initial cap : Span) (count : Nat) :
    initial ≤ (after count (start initial cap)).current ∧
      (after count (start initial cap)).current ≤ max initial cap := by
  have first : initial.nanos ≤ initial.nanos * 2 ^ count :=
    Nat.le_mul_of_pos_right _ (Nat.two_pow_pos count)
  constructor
  · show initial.nanos ≤ _
    rw [nanos_after]
    exact Nat.le_min.2 ⟨first, Span.le_max_left initial cap⟩
  · show _ ≤ (max initial cap).nanos
    rw [nanos_after]
    exact Nat.min_le_right _ _

/-- A later wait is not shorter. -/
theorem after_le_after (initial cap : Span) (count more : Nat) :
    (after count (start initial cap)).current ≤
      (after (count + more) (start initial cap)).current := by
  have longer : initial.nanos * 2 ^ count ≤ initial.nanos * 2 ^ (count + more) :=
    Nat.mul_le_mul_left _ (Nat.pow_le_pow_right Nat.two_pos (Nat.le_add_right _ _))
  show Span.nanos _ ≤ Span.nanos _
  rw [nanos_after, nanos_after]
  omega

end Backoff

/-! ## The driver -/

/-- What one step of a run does to the schedule of a driver. -/
inductive Link.Paces (before after : Link) : Prop where
  /-- Nothing; an attempt or a session may have begun. -/
  | keeps (backoff : after.backoff = before.backoff) (delay : after.delay = before.delay)
      (phase : after.phase = before.phase ∨
        before.phase ≠ .idle ∧ (after.phase = .attempting ∨ after.phase = .live))
  /-- It starts again: a driver has been started, or a socket has opened. -/
  | restarts (backoff : after.backoff = before.backoff.reset)
      (phase : after.phase = .starting ∨ after.phase = .settling)
  /-- It is asked for a wait, which begins. -/
  | waits (running : before.phase ≠ .idle ∧ before.phase ≠ .waiting)
      (delay : after.delay = before.backoff.next.1)
      (backoff : after.backoff = before.backoff.next.2) (phase : after.phase = .waiting)
  /-- The driver has stopped. -/
  | stops (reset : after.backoff.reset = before.backoff.reset) (phase : after.phase = .idle)

namespace Link.Paces

variable {before after : Link}

theorem reset (paces : before.Paces after) : after.backoff.reset = before.backoff.reset := by
  cases paces with
  | keeps backoff => rw [backoff]
  | restarts backoff => rw [backoff]; rfl
  | waits _ _ backoff => rw [backoff, Backoff.reset_next]
  | stops reset => exact reset

/-- Only the schedule, the wait and the phase matter. -/
theorem congr {first : Link} (paces : before.Paces after)
    (backoff : before.backoff = first.backoff) (delay : before.delay = first.delay)
    (phase : before.phase = first.phase) : first.Paces after := by
  cases paces with
  | keeps backoff' delay' phase' =>
      exact .keeps (backoff'.trans backoff) (delay'.trans delay) (phase ▸ phase')
  | restarts backoff' phase' => exact .restarts (backoff ▸ backoff') phase'
  | waits running delay' backoff' phase' =>
      exact .waits (phase ▸ running) (backoff ▸ delay') (backoff ▸ backoff') phase'
  | stops reset phase' => exact .stops (backoff ▸ reset) phase'

end Link.Paces

namespace Client

variable {κ ω : Type} {behave : Behaviour κ ω} {client after : Client κ ω}

theorem Calm.backoff (calm : client.Calm after) :
    after.link.backoff = client.link.backoff := by
  obtain ⟨_, _, link, _⟩ := calm.link
  rw [link]

theorem Calm.delay (calm : client.Calm after) : after.link.delay = client.link.delay := by
  obtain ⟨_, _, link, _⟩ := calm.link
  rw [link]

theorem Calm.paces (calm : client.Calm after) : client.link.Paces after.link :=
  .keeps calm.backoff calm.delay (.inl calm.phase)

/-- Telling observers, and failing calls, is no matter of the schedule. -/
theorem transition_backoff (calm : behave.Calm) (next : LinkState) (client : Client κ ω) :
    (client.transition behave next).1.link.backoff = client.link.backoff ∧
      (client.transition behave next).1.link.phase = client.link.phase := by
  unfold transition
  split
  · exact ⟨rfl, rfl⟩
  · have told := notifyAll_calm calm (.alive next.isConnected) (client.moveTo next)
      client.connectivity.observers
    exact ⟨told.backoff, told.phase⟩

theorem wentDown_backoff (calm : behave.Calm) (why : SessionEnd) (client : Client κ ω) :
    (client.wentDown behave why).link.backoff = client.link.backoff := by
  have moved := (transition_backoff calm .disconnected client).1
  unfold wentDown
  split <;> rename_i result <;> rw [result] at moved
  · exact moved
  · split <;> exact moved

theorem detach_backoff (client : Client κ ω) :
    client.detach.link.backoff = client.link.backoff := by
  obtain ⟨backlog, detached⟩ := client.detach_link
  rw [detached]
  rfl

/-- A wait begins when a session has ended for want of a link. -/
theorem paces_dropped (calm : behave.Calm) (live : client.link.phase = .live) :
    client.link.Paces (client.endSession behave .dropped).link := by
  have backoff : (client.detach.wentDown behave .dropped).link.backoff = client.link.backoff :=
    (wentDown_backoff calm .dropped client.detach).trans client.detach_backoff
  refine .waits (by simp [live]) ?_ ?_ rfl
  · exact congrArg (fun backoff => backoff.next.1) backoff
  · exact congrArg (fun backoff => backoff.next.2) backoff

theorem paces_write (calm : behave.Calm) (frame : Outbound) (live : client.link.phase = .live) :
    client.link.Paces (client.write behave frame).link := by
  rcases client.write_cases behave frame with ⟨-, wrote⟩ | ⟨-, ended⟩
  · exact wrote ▸ .keeps rfl rfl (.inl rfl)
  · exact ended ▸ paces_dropped calm live

/-- A session that has begun is live. -/
theorem Poised.live_of_begun (poised : client.Poised)
    (begun : client.link.prologue ≠ .complete) : client.link.phase = .live :=
  poised.live (poised.up.symm.trans (poised.begun begun))

theorem paces_proceed (calm : behave.Calm) (poised : client.Poised) :
    client.link.Paces (client.proceed behave).link := by
  have writes : ∀ prologue frame, client.link.prologue ≠ .complete →
      client.link.Paces ((client.setPrologue prologue).write behave frame).link := by
    intro prologue frame begun
    have live : (client.setPrologue prologue).link.phase = .live := poised.live_of_begun begun
    exact (paces_write calm frame live).congr rfl rfl rfl
  unfold proceed
  split
  · exact .keeps rfl rfl (.inl rfl)
  · rename_i begun
    exact writes _ _ (by simp [begun])
  · exact .keeps rfl rfl (.inl rfl)
  · rename_i begun
    exact writes _ _ (by simp [begun])
  · exact .keeps rfl rfl (.inl rfl)
  · exact .keeps rfl rfl (.inl rfl)

/-- Whatever a prologue writes, and whether it comes to its end, leaves the schedule's beginning. -/
theorem reset_finish (within : behave.Within fun _ => True) (poised : client.Poised) :
    (client.finish behave).link.backoff.reset = client.link.backoff.reset := by
  unfold finish
  generalize client.prologueSteps = steps
  induction steps generalizing client with
  | zero => rfl
  | succ steps ih =>
      have arrives := proceed_arrives within.free poised
      exact (ih (arrives.poised poised)).trans (paces_proceed within.calm poised).reset

theorem paces_stop (within : behave.Within fun _ => True) (poised : client.Poised) :
    client.link.Paces (client.stop behave).link := by
  have stopped := (stop_arrives within.free poised).2
  have finished := reset_finish within poised
  refine .stops ?_ stopped
  unfold stop
  dsimp only
  split
  · exact finished
  · show ((client.finish behave).detach.wentDown behave .stopped).link.backoff.reset = _
    rw [wentDown_backoff within.calm, detach_backoff, finished]
  · show ((client.finish behave).wentDown behave .stopped).link.backoff.reset = _
    rw [wentDown_backoff within.calm, finished]

theorem paces_close (within : behave.Within fun _ => True) (poised : client.Poised) :
    client.link.Paces (client.close behave).link := by
  have stopped := paces_stop within poised
  have idle := (stop_arrives within.free poised).2
  have moved := transition_backoff within.calm .disconnected
    { client.stop behave with link := { (client.stop behave).link with backlog := [] } }
  refine .stops ?_ (moved.2.trans idle)
  exact (congrArg Backoff.reset moved.1).trans stopped.reset

/-- **What a step does to the schedule.** -/
theorem paces_step (within : behave.Within fun _ => True) (poised : client.Poised)
    (event : Event κ ω) : client.link.Paces (event.step behave client).link := by
  have calm := within.calm
  have still : client.link.Paces client.link := .keeps rfl rfl (.inl rfl)
  -- an event that cannot happen at the moment changes nothing
  have provided : ∀ {condition : Prop} [Decidable condition] {after : Client κ ω},
      (condition → client.link.Paces after.link) →
        client.link.Paces (if condition then after else client).link := by
    intro condition _ after paces
    split
    · exact paces ‹_›
    · exact still
  have acts : ∀ acts : List (Act κ ω), client.link.Paces (client.performAll acts).link := by
    intro acts
    have acted : Acted .free client (client.performAll acts) :=
      performAll_acted (fun _ _ => trivial) client
    exact acted.calm.paces
  cases event with
  | act deed => exact (perform_calm deed client).paces
  | observe callback =>
      exact ((perform_calm (.enlist callback) client).trans (calm callback _ _)).paces
  | unsubscribeAll handles =>
      rw [Event.step, unsubscribeAll_eq]
      exact acts _
  | dispose scope =>
      show client.link.Paces (client.unsubscribeAll scope.handles).1.link
      rw [unsubscribeAll_eq]
      exact acts _
  | collect =>
      rw [Event.step, collect, concludeAll_eq]
      exact acts _
  | connect runtime address =>
      rw [Event.step, connect]
      split
      · exact still
      · repeat' split
        · exact still
        · exact still
        · exact still
        · exact .restarts rfl (.inl rfl)
  | close => exact paces_close within poised
  | shutdown => exact paces_stop within poised
  | attempt =>
      refine provided fun ready => ?_
      rw [attempt_eq behave poised ready]
      exact .keeps rfl rfl (.inr ⟨by rcases ready with phase | phase <;> simp [phase], .inl rfl⟩)
  | attemptFailed =>
      refine provided fun attempting => ?_
      have backoff := wentDown_backoff calm .dropped client
      exact .waits (by simp [attempting]) (congrArg (fun backoff => backoff.next.1) backoff)
        (congrArg (fun backoff => backoff.next.2) backoff) rfl
  | opened => exact provided fun _ => .restarts rfl (.inr rfl)
  | settled room =>
      refine provided fun settling => ?_
      rw [settled_eq behave poised settling]
      have told := notifyAll_calm calm (.alive true)
        ((client.openSession room).moveTo .connected) client.connectivity.observers
      exact .keeps told.backoff told.delay (.inr ⟨by simp [settling], .inr told.phase⟩)
  | proceed => exact paces_proceed calm poised
  | emit =>
      show client.link.Paces (client.emit behave).link
      unfold emit
      split
      · rename_i frame queue complete channel
        have live : (client.setChannel queue).link.phase = .live :=
          poised.live (by simp [channel])
        exact (paces_write calm frame live).congr rfl rfl rfl
      · exact still
  | hear text =>
      refine provided fun pumping => ?_
      have live := (client.isPumping_iff.1 pumping).1
      unfold hear route
      cases Inbound.decode text with
      | error reason => exact still
      | ok inbound =>
          cases inbound with
          | reply id outcome => exact still
          | push topic data => exact (notifyAll_calm calm _ _ _).paces
          | ping id => exact paces_write calm (.pong id) live
  | lose => exact provided fun pumping => paces_dropped calm (client.isPumping_iff.1 pumping).1

/-! ## Counting waits -/

end Client

/-- How many waits have begun since a driver was started or a socket opened, if there were `count`
before a step. -/
def Phase.count (before after : Phase) (count : Nat) : Nat :=
  match after with
  | .starting | .settling => 0
  | .waiting => if before = .waiting then count else count + 1
  | .idle | .attempting | .live => count

/-- The schedule of a link is a fresh one after so many waits, the last of which is the one that its
driver may be in. -/
structure Link.Paced (fresh : Backoff) (count : Nat) (link : Link) : Prop where
  reset : link.backoff.reset = fresh
  running : link.phase ≠ .idle → link.backoff = fresh.after count
  unused : link.phase = .starting ∨ link.phase = .settling → count = 0
  waiting : link.phase = .waiting →
    ∃ earlier, count = earlier + 1 ∧ link.delay = (fresh.after earlier).current

namespace Link.Paced

variable {fresh : Backoff} {count : Nat} {before after : Link}

/-- Where nothing drives a link, only what its schedule begins with matters. -/
theorem of_idle (idle : before.phase = .idle) (begins : before.backoff.reset = fresh) :
    before.Paced fresh count where
  reset := begins
  running runs := absurd idle runs
  unused ready := by simp [idle] at ready
  waiting waits := by simp [idle] at waits

/-- Every step keeps the schedule, and counts the wait that it begins. -/
theorem step (paced : before.Paced fresh count) (paces : before.Paces after) :
    after.Paced fresh (before.phase.count after.phase count) := by
  have begins := paces.reset.trans paced.reset
  cases paces with
  | keeps backoff delay phase =>
      rcases phase with same | ⟨running, attempting | live⟩
      · have counted : before.phase.count after.phase count = count := by
          rw [same]
          cases was : before.phase with
          | starting => exact (paced.unused (.inl was)).symm
          | settling => exact (paced.unused (.inr was)).symm
          | _ => simp [Phase.count]
        rw [counted]
        exact ⟨begins, fun runs => backoff.trans (paced.running (same ▸ runs)),
          fun ready => paced.unused (same ▸ ready),
          fun waits => delay ▸ paced.waiting (same ▸ waits)⟩
      all_goals
        refine ⟨begins, fun _ => ?_, by simp [*], by simp [*]⟩
        simp only [Phase.count, *]
        exact paced.running running
  | restarts backoff phase =>
      have unused : before.phase.count after.phase count = 0 := by
        rcases phase with phase | phase <;> simp [Phase.count, phase]
      rw [unused]
      refine ⟨begins, fun _ => backoff.trans paced.reset, fun _ => rfl, fun waits => ?_⟩
      rcases phase with phase | phase <;> simp [phase] at waits
  | waits running delay backoff phase =>
      have counted : before.phase.count after.phase count = count + 1 := by
        simp [Phase.count, phase, running.2]
      have asked := paced.running running.1
      rw [counted]
      refine ⟨begins, fun _ => ?_, by simp [phase], fun _ => ⟨count, rfl, ?_⟩⟩
      · rw [backoff, asked, Backoff.after_succ]
      · rw [delay, asked]
        rfl
  | stops reset phase => exact .of_idle phase begins

end Link.Paced

namespace Client

variable {κ ω : Type} {behave : Behaviour κ ω} {client : Client κ ω}

/-- How many waits have begun since a driver was started or a socket opened, if there had been
`count` before these events. -/
def waited (behave : Behaviour κ ω) : List (Event κ ω) → Client κ ω → Nat → Nat
  | [], _, count => count
  | event :: events, client, count =>
      let after := event.step behave client
      waited behave events after (client.link.phase.count after.link.phase count)

theorem paced_run (within : behave.Within fun _ => True) (poised : client.Poised)
    {fresh : Backoff} {count : Nat} (paced : client.link.Paced fresh count)
    (events : List (Event κ ω)) :
    (client.run behave events).link.Paced fresh (client.waited behave events count) := by
  induction events generalizing client count with
  | nil => exact paced
  | cons event events ih =>
      exact ih (poised_step within poised event) (paced.step (paces_step within poised event))

/-- **Waits double up to the cap.**

* Whatever is done with a schedule, it gives its first wait next, doubled as often as it was asked
  since it was last reset and cut off at the cap, or at the first wait if that is longer.  So no
  wait is shorter than the first one or longer than the cap, and without a reset none is shorter
  than one before it.
* Take options that are in order, and any run of a client with them.  While its driver waits, the
  wait is the reconnect interval, doubled for each wait that has begun before it since the driver
  was started or a socket last opened, and cut off at the cap.  So it is never zero, and lies
  between the interval and the cap. -/
theorem waits_double_up_to_cap :
    (∀ (initial cap : Span) (uses : List Backoff.Use),
      let schedule := (Backoff.start initial cap).useAll uses
      schedule.next.1.nanos =
          min (initial.nanos * 2 ^ Backoff.sinceReset uses) (max initial.nanos cap.nanos) ∧
        initial ≤ schedule.next.1 ∧ schedule.next.1 ≤ max initial cap ∧
        ∀ more, schedule.next.1 ≤ (schedule.useAll (List.replicate more .next)).next.1) ∧
      ∀ {behave : Behaviour κ ω}, behave.Within (fun _ => True) →
        ∀ options : Options, options.validate = .ok () →
        ∀ (token : Option Json) (candidate : Nat → CorrelationId) (desk : ω)
          (events : List (Event κ ω)),
        let begins := start options token candidate desk
        let link := (begins.run behave events).link
        link.phase = .waiting →
          ∃ earlier, begins.waited behave events 0 = earlier + 1 ∧
            link.delay.nanos = min (options.reconnectInterval.nanos * 2 ^ earlier)
              options.maxReconnectInterval.nanos ∧
            link.delay.isZero = false ∧ options.reconnectInterval ≤ link.delay ∧
            link.delay ≤ options.maxReconnectInterval := by
  constructor
  · intro initial cap uses schedule
    have reached : schedule = (Backoff.start initial cap).after (Backoff.sinceReset uses) :=
      Backoff.useAll_start uses
    obtain ⟨above, below⟩ := Backoff.start_le_after initial cap (Backoff.sinceReset uses)
    rw [reached]
    refine ⟨?_, above, below, fun more => ?_⟩
    · rw [Backoff.next_delay, Backoff.nanos_after, Span.nanos_max]
    · rw [Backoff.useAll_replicate, ← Backoff.after_add]
      exact Backoff.after_le_after initial cap _ more
  · intro behave within options valid token candidate desk events begins link waits
    obtain ⟨nonzero, ordered, -⟩ :=
      options.refusal?_eq_none_iff.1 (options.validate_eq_ok_iff.1 valid)
    have fresh : begins.link.Paced
        (.start options.reconnectInterval options.maxReconnectInterval) 0 := .of_idle rfl rfl
    have paced := paced_run within (start_poised options token candidate desk) fresh events
    obtain ⟨earlier, counted, delay⟩ := paced.waiting waits
    have cap : max options.reconnectInterval options.maxReconnectInterval =
        options.maxReconnectInterval := if_pos ordered
    obtain ⟨above, below⟩ :=
      Backoff.start_le_after options.reconnectInterval options.maxReconnectInterval earlier
    have nanos := Backoff.nanos_after options.reconnectInterval options.maxReconnectInterval earlier
    rw [cap] at below nanos
    rw [← delay] at above below nanos
    refine ⟨earlier, counted, nanos, ?_, above, below⟩
    rw [Span.isZero_eq_false_iff] at nonzero ⊢
    exact Nat.lt_of_lt_of_le nonzero above

/-- Two attempts that fail, a session that is lost, and another attempt that fails. -/
def flaky : List (Event Unit Unit) :=
  [.connect true "ws://host/", .attempt, .attemptFailed, .attempt, .attemptFailed, .attempt,
    .opened, .settled none, .proceed, .proceed, .proceed, .proceed, .lose, .attempt,
    .attemptFailed]

/-- At the top of the range the wait is cut off.  A driver that has lost a session and then failed to
connect waits for the second time, whatever it waited before the session. -/
theorem waits_double_up_to_cap_flaky :
    let options : Options := { maxReconnectInterval := Span.ofMillis 400 }
    let begins : Client Unit Unit := start options none CorrelationId.drawn ()
    let link := (begins.run silent flaky).link
    ((Backoff.start (Span.ofNanos (UInt64.size * 500000000)) .longest).useAll
        [.next, .next, .reset, .next]).next.1.nanos = Span.limit ∧
      silent.Within (fun _ => True) ∧ options.validate = .ok () ∧ link.phase = .waiting ∧
      begins.waited silent flaky 0 = 2 ∧ link.delay.nanos = 400000000 := by
  dsimp only
  obtain ⟨schedules, drivers⟩ := waits_double_up_to_cap (κ := Unit) (ω := Unit)
  have valid : ({ maxReconnectInterval := Span.ofMillis 400 } : Options).validate = .ok () :=
    (Options.validate_eq_ok_iff _).2 (by decide)
  have seen : (fun client : Client Unit Unit =>
      ((client.run silent flaky).link.phase, client.waited silent flaky 0))
      (start { maxReconnectInterval := Span.ofMillis 400 } none CorrelationId.drawn ()) =
        (.waiting, 2) := by cbv
  obtain ⟨waits, counted⟩ := Prod.mk.inj seen
  obtain ⟨earlier, also, delay, -⟩ := drivers (silent_within _) _ valid none
    CorrelationId.drawn () flaky waits
  obtain rfl : earlier = 1 := by omega
  refine ⟨?_, silent_within _, valid, waits, counted, delay.trans (by decide)⟩
  rw [(schedules _ _ _).1]
  decide

end Client

end Switchboard
