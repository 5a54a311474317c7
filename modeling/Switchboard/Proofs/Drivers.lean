/-
# Switchboard.Proofs.Drivers -- a task that drives the link, step by step

A driver takes one step from one stage to the next (`Driver.take`).  Here nothing is
told anybody: whoever is to learn of a flip acts after the step that made it, and so
do the handlers of a push.

A stage says whether there is a channel (`Stage.Shows`) and which state the link is in
if nobody else has changed it (`Stage.state`).  A step leads from what its stage shows to
what the next one shows (`Driver.shows_take`), and from the state of the one to the state
of the other, by one edge at most (`Driver.state_take`).  What callers and callbacks do
touches none of this (`Client.Steadfast`).  Where a step of a driver and what follows from
it are one thing for the client, the client after it is `Client.goOn` of the step
(`Client.proceed_eq`, `Client.emit_eq`, `Client.hear_eq`).
-/
import Switchboard.Proofs.Moves

namespace Switchboard

set_option autoImplicit false

/-! ## Stages -/

/-- How far a driver has come. -/
inductive Stage where
  /-- It looks whether it is to stop, and then makes an attempt. -/
  | starting
  | attempting
  | settling
  /-- Its session has a channel, and the link is about to be raised. -/
  | installed
  | live
  /-- Its attempt or session is over, and the link is about to be lowered; `ran` tells whether there
  was a session. -/
  | ending (why : Client.SessionEnd) (ran : Bool)
  /-- The link is down; `told` tells whether it was up. -/
  | lowered (why : Client.SessionEnd) (told : Bool)
  | waiting
  /-- It will make no attempt any more. -/
  | leaving
  | finished
deriving DecidableEq

namespace Stage

/-- The state that a driver has brought the link to when it is at a stage. -/
def state : Stage → LinkState
  | .attempting | .settling | .installed | .ending _ false => .connecting
  | .live | .ending _ true => .connected
  | .starting | .lowered _ _ | .waiting | .leaving | .finished => .disconnected

/-- Whether there is a channel while the driver is at a stage. -/
def isPlugged : Stage → Bool
  | .installed | .live => true
  | _ => false

/-- Whether a driver at the stage has something left to do. -/
def isRunning : Stage → Bool
  | .finished => false
  | _ => true

/-- Whether a driver at the stage waits for something to happen, be it to be run; at the others it
is in the middle of raising or lowering the link.  A driver that stops waits for its socket to close
before it lowers the link; one whose session or attempt was lost lowers it at once. -/
def isResting : Stage → Bool
  | .starting | .attempting | .settling | .live | .ending .stopped _ | .waiting | .finished => true
  | .installed | .ending .dropped _ | .lowered _ _ | .leaving => false

/-- The stages that follow one another, by whether the driver has been told to stop. -/
inductive Next (signalled : Bool) : Stage → Stage → Prop where
  | dial (goes : signalled = false) : Next signalled .starting .attempting
  | refrain (stops : signalled = true) : Next signalled .starting .leaving
  | opened : Next signalled .attempting .settling
  | failed (why : Client.SessionEnd) (noticed : why = .stopped → signalled = true) :
      Next signalled .attempting (.ending why false)
  | settled : Next signalled .settling .installed
  | unsettled (stops : signalled = true) : Next signalled .settling (.ending .stopped false)
  | raise : Next signalled .installed .live
  | lost (why : Client.SessionEnd) (noticed : why = .stopped → signalled = true) :
      Next signalled .live (.ending why true)
  | lower {why : Client.SessionEnd} {ran told : Bool} :
      Next signalled (.ending why ran) (.lowered why told)
  | quit {why : Client.SessionEnd} {told : Bool} : Next signalled (.lowered why told) .leaving
  | retry {why : Client.SessionEnd} {told : Bool} (goes : signalled = false) :
      Next signalled (.lowered why told) .waiting
  | wake : Next signalled .waiting .starting
  | cutShort (stops : signalled = true) : Next signalled .waiting .leaving
  | leave : Next signalled .leaving .finished

end Stage

/-- The ways the state of a link may change. -/
inductive LinkState.Edge : LinkState → LinkState → Prop where
  | dial : Edge .disconnected .connecting
  | raise : Edge .connecting .connected
  | give : Edge .connecting .disconnected
  | lower : Edge .connected .disconnected

/-- The state is as before, or has changed along an edge. -/
def LinkState.Moves (before after : LinkState) : Prop := after = before ∨ before.Edge after

theorem LinkState.Moves.along {before after first second : LinkState} (edge : first.Edge second)
    (begins : before = first) (ends : after = second) : before.Moves after :=
  begins ▸ ends ▸ .inr edge

namespace Client

variable {κ ω : Type} {client after : Client κ ω}

/-! ## The steps of a session -/

/-- The client after an attempt to write a frame, and whether the session goes on. -/
def tryWrite (frame : Outbound) (client : Client κ ω) : Client κ ω × Bool :=
  match client.link.write frame with
  | (link, true) => ({ client with link }, true)
  | (_, false) => (client, false)

/-- The next step of a prologue, and whether the session goes on. -/
def tryProceed (client : Client κ ω) : Client κ ω × Bool :=
  match client.link.prologue with
  | .unread => (client.setPrologue (.announcing client.subscriptions.topics), true)
  | .announcing (topic :: left) =>
      (client.setPrologue (.announcing left)).tryWrite (.subscribe topic)
  | .announcing [] => (client.unload, true)
  | .flushing (frame :: left) => (client.setPrologue (.flushing left)).tryWrite frame
  | .flushing [] => (client.setPrologue .complete, true)
  | .complete => (client, true)

/-- Writing the next frame of the channel, and whether the session goes on. -/
def tryEmit (client : Client κ ω) : Client κ ω × Bool :=
  match client.link.prologue, client.link.channel with
  | .complete, some (frame :: queue) => (client.setChannel queue).tryWrite frame
  | _, _ => (client, true)

/-- Hearing a message, and whether the session goes on; handlers of a push act in turns of their
own. -/
def tryHear (text : String) (client : Client κ ω) : Client κ ω × Bool :=
  match Inbound.decode text with
  | .ok (.reply id outcome) => ({ client with calls := (client.calls.settle id outcome).1 }, true)
  | .ok (.ping id) => client.tryWrite (.pong id)
  | .ok (.push _ _) | .error _ => (client, true)

/-- The session goes on, or ends. -/
def goOn (behave : Behaviour κ ω) : Client κ ω × Bool → Client κ ω
  | (client, true) => client
  | (client, false) => client.endSession behave .dropped

theorem write_eq (behave : Behaviour κ ω) (frame : Outbound) (client : Client κ ω) :
    client.write behave frame = goOn behave (client.tryWrite frame) := by
  unfold write tryWrite
  rcases client.link.write frame with ⟨link, _ | _⟩ <;> rfl

theorem proceed_eq (behave : Behaviour κ ω) (client : Client κ ω) :
    client.proceed behave = goOn behave client.tryProceed := by
  unfold proceed tryProceed
  rcases client.link.prologue with _ | (_ | ⟨topic, left⟩) | (_ | ⟨frame, left⟩) | _
  · rfl
  · rfl
  · exact write_eq ..
  · rfl
  · exact write_eq ..
  · rfl

theorem emit_eq (behave : Behaviour κ ω) (client : Client κ ω) :
    client.emit behave = goOn behave client.tryEmit := by
  unfold emit tryEmit
  rcases client.link.prologue with _ | _ | _ | _ <;>
    rcases client.link.channel with _ | _ | ⟨frame, queue⟩ <;> try rfl
  exact write_eq ..

theorem hear_eq (behave : Behaviour κ ω) {text : String} (client : Client κ ω)
    (noPush : ∀ topic data, Inbound.decode text ≠ .ok (.push topic data)) :
    client.hear behave text = goOn behave (client.tryHear text) := by
  unfold hear route tryHear
  cases decoded : Inbound.decode text with
  | error reason => rfl
  | ok inbound =>
      cases inbound with
      | reply id outcome => rfl
      | push topic data => exact absurd decoded (noPush topic data)
      | ping id => exact write_eq ..

/-- The client whose link is down; if it was up and was lost, the policy may fail every waiting
call. -/
def failLost (why : SessionEnd) (told : Bool) (client : Client κ ω) : Client κ ω :=
  if told = true ∧ why = .dropped ∧ client.options.pendingPolicy = .fail then
    (client.rejectAll .connectionClosed).1
  else client

/-! ## What leaves the link's life alone -/

/-- Neither the state changed, nor whether there is a channel, nor the phase. -/
structure Steadfast (before after : Client κ ω) : Prop where
  state : after.state = before.state
  channel : after.link.channel.isSome = before.link.channel.isSome
  phase : after.link.phase = before.link.phase

namespace Steadfast

theorem trans {middle : Client κ ω} (first : client.Steadfast middle)
    (second : middle.Steadfast after) : client.Steadfast after :=
  ⟨second.state.trans first.state, second.channel.trans first.channel,
    second.phase.trans first.phase⟩

theorem perform (act : Act κ ω) (client : Client κ ω) : client.Steadfast (act.perform client) :=
  have calm := perform_calm act client
  ⟨calm.state, calm.channel_isSome, calm.phase⟩

theorem performAll (acts : List (Act κ ω)) (client : Client κ ω) :
    client.Steadfast (client.performAll acts) := by
  induction acts generalizing client with
  | nil => exact ⟨rfl, rfl, rfl⟩
  | cons act acts ih => exact (perform act client).trans (ih _)

theorem tryWrite (frame : Outbound) (client : Client κ ω) :
    client.Steadfast (client.tryWrite frame).1 := by
  unfold Client.tryWrite Link.write
  split
  · rename_i wrote
    split at wrote
    · cases wrote
    · obtain ⟨rfl, -⟩ := Prod.mk.inj wrote
      exact ⟨rfl, rfl, rfl⟩
  · exact ⟨rfl, rfl, rfl⟩

theorem tryProceed (client : Client κ ω) : client.Steadfast client.tryProceed.1 := by
  have begun : ∀ prologue, client.Steadfast (client.setPrologue prologue) :=
    fun _ => ⟨rfl, rfl, rfl⟩
  unfold Client.tryProceed
  split
  · exact begun _
  · exact (begun _).trans (.tryWrite _ _)
  · exact ⟨rfl, rfl, rfl⟩
  · exact (begun _).trans (.tryWrite _ _)
  · exact begun _
  · exact ⟨rfl, rfl, rfl⟩

theorem tryEmit (client : Client κ ω) : client.Steadfast client.tryEmit.1 := by
  unfold Client.tryEmit
  split
  · rename_i frame queue complete channel
    have taken : client.Steadfast (client.setChannel queue) := ⟨rfl, by simp [setChannel, channel], rfl⟩
    exact taken.trans (.tryWrite frame _)
  · exact ⟨rfl, rfl, rfl⟩

theorem tryHear (text : String) (client : Client κ ω) :
    client.Steadfast (client.tryHear text).1 := by
  unfold Client.tryHear
  split
  · exact ⟨rfl, rfl, rfl⟩
  · exact .tryWrite _ _
  · exact ⟨rfl, rfl, rfl⟩
  · exact ⟨rfl, rfl, rfl⟩

theorem failLost (why : SessionEnd) (told : Bool) (client : Client κ ω) :
    client.Steadfast (client.failLost why told) := by
  unfold Client.failLost
  split <;> exact ⟨rfl, rfl, rfl⟩

end Steadfast

theorem prologueSteps_tryWrite (frame : Outbound) (client : Client κ ω) :
    (client.tryWrite frame).1.prologueSteps = client.prologueSteps := by
  unfold tryWrite Link.write
  split
  · rename_i wrote
    split at wrote
    · cases wrote
    · obtain ⟨rfl, -⟩ := Prod.mk.inj wrote
      rfl
  · rfl

/-- Every step of a prologue brings its end nearer. -/
theorem prologueSteps_tryProceed (client : Client κ ω) (begun : client.link.prologue ≠ .complete) :
    client.tryProceed.1.prologueSteps < client.prologueSteps := by
  unfold tryProceed
  cases prologue : client.link.prologue with
  | unread =>
      have topics : client.subscriptions.topics.length = client.subscriptions.topicCount := by
        simp [Subscriptions.topics, Subscriptions.topicCount, Topic.sort]
      simp [prologue, prologueSteps, setPrologue, topics]
  | announcing left =>
      cases left with
      | nil =>
          have fewer := List.length_filter_le client.isLive client.link.backlog
          simp only [prologue, prologueSteps, unload, List.length_nil]
          omega
      | cons topic left =>
          simp only [prologueSteps_tryWrite]
          simp [prologueSteps, prologue, setPrologue]
  | flushing left =>
      cases left with
      | nil => simp [prologue, prologueSteps, setPrologue]
      | cons frame left =>
          simp only [prologueSteps_tryWrite]
          simp [prologueSteps, prologue, setPrologue]
  | complete => exact absurd prologue begun

theorem state_detach (client : Client κ ω) : client.detach.state = client.state := by
  obtain ⟨backlog, detached⟩ := client.detach_link
  rw [detached]
  rfl

theorem state_moveTo (client : Client κ ω) (next : LinkState) :
    (client.moveTo next).state = next :=
  client.connectivity.state_moveTo next

end Client

/-! ## Drivers -/

/-- A task that drives the link. -/
structure Driver where
  stage : Stage := .starting
  /-- Whether it has been told to stop. -/
  signalled : Bool := false

namespace Driver

variable {κ ω : Type}

/-- What a driver does next. -/
inductive Step where
  /-- Makes an attempt, unless it is to stop. -/
  | dial
  | opened
  /-- The attempt fails, or takes too long. -/
  | failed
  | settled (room : Option Nat)
  /-- Raises the link. -/
  | raise
  | proceed
  | emit
  | hear (text : String)
  /-- The session is lost. -/
  | lose
  /-- Notices that it is to stop. -/
  | stop
  /-- Lowers the link. -/
  | lower
  /-- Fails the waiting calls if the policy says so, and sees whether it goes on. -/
  | judge
  /-- The wait is over. -/
  | wake
  | leave

/-- The stage after a step of a session, and the client: if it does not go on, its channel goes. -/
def onwards : Client κ ω × Bool → Stage × Client κ ω
  | (client, true) => (.live, client)
  | (client, false) => (.ending .dropped true, client.detach)

/-- The stage and the client after a driver has taken a step; a step that is none of its stage
changes nothing. -/
def take (step : Step) (driver : Driver) (client : Client κ ω) : Stage × Client κ ω :=
  match driver.stage, step with
  | .starting, .dial =>
      if driver.signalled then (.leaving, client)
      else (.attempting, (client.moveTo .connecting).enter .attempting)
  | .attempting, .opened => (.settling, client.opened)
  | .attempting, .failed => (.ending .dropped false, client)
  | .attempting, .stop =>
      (if driver.signalled then .ending .stopped false else .attempting, client)
  | .settling, .settled room => (.installed, client.openSession room)
  | .settling, .stop =>
      (if driver.signalled then .ending .stopped false else .settling, client)
  | .installed, .raise => (.live, client.moveTo .connected)
  | .live, .proceed => onwards client.tryProceed
  | .live, .emit => onwards client.tryEmit
  | .live, .hear text => if client.isPumping then onwards (client.tryHear text) else (.live, client)
  | .live, .lose =>
      if client.isPumping then (.ending .dropped true, client.detach) else (.live, client)
  | .live, .stop =>
      if client.isPumping && driver.signalled then (.ending .stopped true, client.detach)
      else (.live, client)
  | .ending why _, .lower => (.lowered why client.isAlive, client.moveTo .disconnected)
  | .lowered why told, .judge =>
      let client := client.failLost why told
      if why = .stopped ∨ driver.signalled = true then (.leaving, client)
      else (.waiting, client.awaitRetry)
  | .waiting, .wake => (.starting, client)
  | .waiting, .stop => (if driver.signalled then .leaving else .waiting, client)
  | .leaving, .leave => (.finished, (client.moveTo .disconnected).enter .idle)
  | stage, _ => (stage, client)

end Driver

/-- What the link of a client is like while its driver is at a stage, or once it has finished, apart
from its state. -/
structure Stage.Shows {κ ω : Type} (stage : Stage) (client : Client κ ω) : Prop where
  channel : client.link.channel.isSome = stage.isPlugged
  running : client.link.isRunning = stage.isRunning
  live : stage.isPlugged = true → client.link.phase = .live

namespace Stage.Shows

variable {κ ω : Type} {client after : Client κ ω} {stage : Stage}

theorem steadfast (shown : stage.Shows client) (steadfast : client.Steadfast after) :
    stage.Shows after where
  channel := steadfast.channel.trans shown.channel
  running := by rw [← shown.running, Link.isRunning, Link.isRunning, steadfast.phase]
  live plugged := steadfast.phase.trans (shown.live plugged)

/-- A running session loses its channel before the link is lowered. -/
theorem detach (shown : Stage.live.Shows client) (why : Client.SessionEnd) :
    (Stage.ending why true).Shows client.detach := by
  obtain ⟨backlog, detached⟩ := client.detach_link
  rw [detached]
  exact ⟨rfl, shown.running, fun plugged => by cases plugged⟩

/-- A step of a session keeps it, or leaves it without a channel. -/
theorem onwards (shown : Stage.live.Shows client) {result : Client κ ω × Bool}
    (steadfast : client.Steadfast result.1) :
    (Driver.onwards result).1.Shows (Driver.onwards result).2 := by
  obtain ⟨after, goes⟩ := result
  have kept := shown.steadfast steadfast
  cases goes with
  | true => exact kept
  | false => exact kept.detach .dropped

end Stage.Shows

namespace Driver

variable {κ ω : Type} {client : Client κ ω} {driver : Driver}

/-- A driver that has finished does nothing. -/
theorem take_finished (finished : driver.stage = .finished) (step : Step) (client : Client κ ω) :
    driver.take step client = (.finished, client) := by
  obtain ⟨stage, signalled⟩ := driver
  cases finished
  cases step <;> rfl

/-- **A driver's step leads from what its stage shows to what the next one shows.** -/
theorem shows_take (shown : driver.stage.Shows client) (step : Step) :
    (driver.take step client).1.Shows (driver.take step client).2 := by
  obtain ⟨stage, signalled⟩ := driver
  obtain ⟨channel, running, live⟩ : stage.Shows client := shown
  -- a step that is none of the stage
  have idle : stage.Shows client := ⟨channel, running, live⟩
  -- one that changes the stage alone
  have notices : ∀ {next : Stage}, next.isPlugged = stage.isPlugged →
      next.isRunning = stage.isRunning → next.Shows client := fun plugged runs =>
    ⟨channel.trans plugged.symm, running.trans runs.symm, fun now => live (plugged ▸ now)⟩
  cases stage with
  | starting =>
      cases step with
      | dial =>
          simp only [take]
          split
          · exact notices rfl rfl
          · exact ⟨channel, rfl, fun plugged => by cases plugged⟩
      | _ => exact idle
  | attempting =>
      cases step with
      | opened => exact ⟨channel, rfl, fun plugged => by cases plugged⟩
      | failed => exact notices rfl rfl
      | stop => cases signalled <;> exact notices rfl rfl
      | _ => exact idle
  | settling =>
      cases step with
      | settled room => exact ⟨rfl, rfl, fun _ => rfl⟩
      | stop => cases signalled <;> exact notices rfl rfl
      | _ => exact idle
  | installed =>
      cases step with
      | raise => exact ⟨channel, running, live⟩
      | _ => exact idle
  | live =>
      cases step with
      | proceed => exact idle.onwards (.tryProceed client)
      | emit => exact idle.onwards (.tryEmit client)
      | hear text =>
          simp only [take]
          split
          · exact idle.onwards (.tryHear text client)
          · exact idle
      | lose =>
          simp only [take]
          split
          · exact idle.detach .dropped
          · exact idle
      | stop =>
          simp only [take]
          split
          · exact idle.detach .stopped
          · exact idle
      | _ => exact idle
  | ending why ran =>
      cases step with
      | lower => exact ⟨channel, running, fun plugged => by cases plugged⟩
      | _ => exact idle
  | lowered why told =>
      cases step with
      | judge =>
          have kept := idle.steadfast (Client.Steadfast.failLost why told client)
          simp only [take]
          split
          · exact ⟨kept.channel, kept.running, fun plugged => by cases plugged⟩
          · exact ⟨kept.channel, rfl, fun plugged => by cases plugged⟩
      | _ => exact idle
  | waiting =>
      cases step with
      | wake => exact notices rfl rfl
      | stop => cases signalled <;> exact notices rfl rfl
      | _ => exact idle
  | leaving =>
      cases step with
      | leave => exact ⟨channel, rfl, fun plugged => by cases plugged⟩
      | _ => exact idle
  | finished => cases step <;> exact idle

theorem onwards_state (result : Client κ ω × Bool) :
    (onwards result).2.state = result.1.state ∧ (onwards result).1.state = .connected := by
  obtain ⟨after, goes⟩ := result
  cases goes with
  | true => exact ⟨rfl, rfl⟩
  | false =>
      exact ⟨after.state_detach, rfl⟩

/-- **A driver's step leads from the state of its stage to the state of the next**, along an edge if
at all. -/
theorem state_take (level : client.state = driver.stage.state) (step : Step) :
    (driver.take step client).2.state = (driver.take step client).1.state ∧
      client.state.Moves (driver.take step client).2.state := by
  obtain ⟨stage, signalled⟩ := driver
  have level : client.state = stage.state := level
  -- steps after which the client's state is as before
  have same : ∀ {next : Stage} {after : Client κ ω}, after.state = client.state →
      next.state = stage.state →
        after.state = next.state ∧ client.state.Moves after.state := fun kept agree =>
    ⟨kept.trans (level.trans agree.symm), .inl kept⟩
  -- steps that move the link
  have moves : ∀ {next : Stage} {state : LinkState} {after : Client κ ω}, after.state = state →
      next.state = state → stage.state.Edge state →
        after.state = next.state ∧ client.state.Moves after.state := fun there agree edge =>
    ⟨there.trans agree.symm, .along edge level there⟩
  have goes : ∀ {result : Client κ ω × Bool}, client.Steadfast result.1 →
      stage.state = .connected →
        (onwards result).2.state = (onwards result).1.state ∧
          client.state.Moves (onwards result).2.state := fun {result} steadfast live =>
    same ((onwards_state result).1.trans steadfast.state)
      ((onwards_state result).2.trans live.symm)
  have detached := client.state_detach
  cases stage with
  | starting =>
      cases step with
      | dial =>
          simp only [take]
          split
          · exact same rfl rfl
          · exact moves (client.state_moveTo .connecting) rfl .dial
      | _ => exact same rfl rfl
  | attempting =>
      cases step with
      | stop => cases signalled <;> exact same rfl rfl
      | _ => exact same rfl rfl
  | settling =>
      cases step with
      | stop => cases signalled <;> exact same rfl rfl
      | _ => exact same rfl rfl
  | installed =>
      cases step with
      | raise => exact moves (client.state_moveTo .connected) rfl .raise
      | _ => exact same rfl rfl
  | live =>
      cases step with
      | proceed => exact goes (.tryProceed client) rfl
      | emit => exact goes (.tryEmit client) rfl
      | hear text =>
          simp only [take]
          split
          · exact goes (.tryHear text client) rfl
          · exact same rfl rfl
      | lose =>
          simp only [take]
          split
          · exact same detached rfl
          · exact same rfl rfl
      | stop =>
          simp only [take]
          split
          · exact same detached rfl
          · exact same rfl rfl
      | _ => exact same rfl rfl
  | ending why ran =>
      cases step with
      | lower =>
          have lowered := client.state_moveTo .disconnected
          cases ran with
          | false => exact moves lowered rfl .give
          | true => exact moves lowered rfl .lower
      | _ => exact same rfl rfl
  | lowered why told =>
      cases step with
      | judge =>
          have fails := (Client.Steadfast.failLost why told client).state
          simp only [take]
          split
          · exact same fails rfl
          · exact same fails rfl
      | _ => exact same rfl rfl
  | waiting =>
      cases step with
      | stop => cases signalled <;> exact same rfl rfl
      | _ => exact same rfl rfl
  | leaving =>
      cases step with
      | leave => exact same ((client.state_moveTo .disconnected).trans level.symm) rfl
      | _ => exact same rfl rfl
  | finished => cases step <;> exact same rfl rfl

/-- **A driver stays where it is, or comes to a next stage.** -/
theorem next_take (driver : Driver) (step : Step) (client : Client κ ω) :
    (driver.take step client).1 = driver.stage ∨
      driver.stage.Next driver.signalled (driver.take step client).1 := by
  obtain ⟨stage, signalled⟩ := driver
  have goes : ∀ result : Client κ ω × Bool, (onwards result).1 = .live ∨
      Stage.live.Next signalled (onwards result).1 := fun result => by
    obtain ⟨after, _ | _⟩ := result
    · exact .inr (.lost .dropped fun stops => by cases stops)
    · exact .inl rfl
  cases stage with
  | starting =>
      cases step with
      | dial =>
          cases signalled with
          | true => exact .inr (.refrain rfl)
          | false => exact .inr (.dial rfl)
      | _ => exact .inl rfl
  | attempting =>
      cases step with
      | opened => exact .inr .opened
      | failed => exact .inr (.failed .dropped fun stops => by cases stops)
      | stop =>
          cases signalled with
          | true => exact .inr (.failed .stopped fun _ => rfl)
          | false => exact .inl rfl
      | _ => exact .inl rfl
  | settling =>
      cases step with
      | settled room => exact .inr .settled
      | stop =>
          cases signalled with
          | true => exact .inr (.unsettled rfl)
          | false => exact .inl rfl
      | _ => exact .inl rfl
  | installed =>
      cases step with
      | raise => exact .inr .raise
      | _ => exact .inl rfl
  | live =>
      cases step with
      | proceed => exact goes _
      | emit => exact goes _
      | hear text =>
          simp only [take]
          split
          · exact goes _
          · exact .inl rfl
      | lose =>
          simp only [take]
          split
          · exact .inr (.lost .dropped fun stops => by cases stops)
          · exact .inl rfl
      | stop =>
          simp only [take]
          split
          · rename_i stops
            have both : client.isPumping = true ∧ signalled = true := by simpa using stops
            exact .inr (.lost .stopped fun _ => both.2)
          · exact .inl rfl
      | _ => exact .inl rfl
  | ending why ran =>
      cases step with
      | lower => exact .inr .lower
      | _ => exact .inl rfl
  | lowered why told =>
      cases step with
      | judge =>
          simp only [take]
          split
          · exact .inr .quit
          · rename_i goesOn
            exact .inr (.retry (by simpa using fun stops => goesOn (.inr stops)))
      | _ => exact .inl rfl
  | waiting =>
      cases step with
      | wake => exact .inr .wake
      | stop =>
          cases signalled with
          | true => exact .inr (.cutShort rfl)
          | false => exact .inl rfl
      | _ => exact .inl rfl
  | leaving =>
      cases step with
      | leave => exact .inr .leave
      | _ => exact .inl rfl
  | finished => cases step <;> exact .inl rfl

/-- A driver that finishes leaves the link down. -/
theorem down_of_finishes {step : Step} (running : driver.stage ≠ .finished)
    (finishes : (driver.take step client).1 = .finished) :
    (driver.take step client).2.state = .disconnected := by
  have leaving : driver.stage = .leaving := by
    rcases driver.next_take step client with same | next
    · exact absurd (same.symm.trans finishes) running
    · rw [finishes] at next
      generalize driver.stage = stage at next
      cases next
      rfl
  obtain ⟨stage, signalled⟩ := driver
  cases leaving
  cases step with
  | leave => exact client.state_moveTo .disconnected
  | _ => cases finishes

end Driver

end Switchboard
