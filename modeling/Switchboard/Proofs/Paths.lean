/-
# Switchboard.Proofs.Paths -- every run is a path

The events of a run are taken apart into moves, one kind of event after the other.
Callbacks act whenever they are told something, and each of their acts is a move
(`notifyAll_acted`).  Between two events a live session has its channel
(`Client.Poised`); inside an event it need not, since a session that ends loses its
channel first and its phase last.

* `step_arrives`: what one event does is done by moves, and leaves a poised client;
* `run_path`: so is what a run does.
-/
import Switchboard.Proofs.Drivers

namespace Switchboard.Client

set_option autoImplicit false

variable {κ ω : Type} {licence : Licence κ ω} {behave : Behaviour κ ω}

/-! ## Acts -/

theorem perform_reaches {act : Act κ ω} (allowed : licence.act act) (client : Client κ ω) :
    Reaches licence client (act.perform client) := by
  have departs : ∀ {after : Client κ ω}, client.Parts after → Reaches licence client after := by
    rintro after (same | ⟨awaited, member, farewell, fits, departed⟩)
    · exact .of_eq same
    · exact .of_move (.depart awaited farewell) ⟨member, fits⟩ departed
  cases act with
  | call path data limit =>
      rcases client.call_cases path data limit with
        same | ⟨issued, rfl, rfl, books, ⟨handed, goes⟩ | ⟨failed, policy, unsent⟩⟩
      · exact .of_eq same
      · exact .of_move (.call issued limit) ⟨⟨allowed, goes⟩, books⟩ handed
      · exact .of_move (.unsent issued) ⟨books, policy, unsent⟩ failed
  | cancel id => exact .of_move (.cancel id) allowed rfl
  | conclude ticket => exact departs (client.conclude_parts ticket)
  | expire ticket => exact departs (client.expire_parts ticket)
  | abandon ticket => exact departs (client.abandon_parts ticket)
  | subscribe | unsubscribe | enlist | setToken | note =>
      exact .of_move (.aside _) ⟨allowed, rfl⟩ rfl

/-- What acts lead to, one after the other. -/
structure Acted (licence : Licence κ ω) (before after : Client κ ω) : Prop where
  reaches : Reaches licence before after
  calm : before.Calm after

theorem Acted.refl (client : Client κ ω) : Acted licence client client :=
  ⟨.refl client, .refl client⟩

theorem Acted.trans {before middle after : Client κ ω} (first : Acted licence before middle)
    (second : Acted licence middle after) : Acted licence before after :=
  ⟨first.reaches.trans second.reaches, first.calm.trans second.calm⟩

theorem performAll_acted {acts : List (Act κ ω)} (allowed : ∀ act ∈ acts, licence.act act)
    (client : Client κ ω) : Acted licence client (client.performAll acts) := by
  induction acts generalizing client with
  | nil => exact .refl client
  | cons act acts ih =>
      have first : Acted licence client (act.perform client) :=
        ⟨perform_reaches (allowed act List.mem_cons_self) client, perform_calm act client⟩
      exact first.trans (ih (fun other member => allowed other (List.mem_cons_of_mem _ member)) _)

theorem notify_acted (within : behave.Within licence.act) (callback : κ) (signal : Signal)
    (client : Client κ ω) : Acted licence client (notify behave callback signal client) := by
  obtain ⟨acts, allowed, does⟩ := within callback signal client
  rw [notify, does]
  exact performAll_acted allowed client

theorem notifyAll_acted (within : behave.Within licence.act) (signal : Signal)
    (client : Client κ ω) (entries : List (HandleId × κ)) :
    Acted licence client (notifyAll behave signal client entries) := by
  induction entries generalizing client with
  | nil => exact .refl client
  | cons entry entries ih => exact (notify_acted within entry.2 signal client).trans (ih _)

theorem unsubscribeAll_eq (client : Client κ ω) (handles : List HandleId) :
    (client.unsubscribeAll handles).1 = client.performAll (handles.map .unsubscribe) := by
  induction handles generalizing client with
  | nil => rfl
  | cons handle handles ih => exact ih _

theorem concludeAll_eq (client : Client κ ω) (tickets : List Nat) :
    (client.concludeAll tickets).1 = client.performAll (tickets.map .conclude) := by
  induction tickets generalizing client with
  | nil => rfl
  | cons ticket tickets ih => exact ih _

/-! ## Without a session -/

namespace Coherent

variable {client : Client κ ω}

theorem down (coherent : client.Coherent) (none : client.link.channel = none) :
    client.isAlive = false := by
  rw [coherent.up, none]
  rfl

theorem channel_none (coherent : client.Coherent) (phase : client.link.phase ≠ .live) :
    client.link.channel = none := by
  by_contra some
  exact phase (coherent.live (Option.isSome_iff_ne_none.2 some))

/-- The driver goes on without a session. -/
theorem steer (coherent : client.Coherent) (none : client.link.channel = none) (phase : Phase)
    (endpoint : Option Endpoint) (backoff : Backoff) (delay : Span) :
    Reaches licence client
      { client with link := { client.link with phase, endpoint, backoff, delay } } := by
  refine .of_move (.steer phase client.state endpoint backoff delay) ⟨none, coherent.down none⟩ ?_
  simp [Move.apply, moveTo, state, Connectivity.moveTo_same]

end Coherent

/-- The driver goes on without a session, and the link is in another state. -/
theorem steer_to {client : Client κ ω} (none : client.link.channel = none) (phase : Phase)
    {state : LinkState} (down : state.isConnected = false) :
    Reaches licence client ((client.moveTo state).enter phase) :=
  .of_move (.steer phase state client.link.endpoint client.link.backoff client.link.delay)
    ⟨none, down⟩ rfl

/-- A driver that stays down tells nobody. -/
theorem wentDown_still (why : SessionEnd) {client : Client κ ω} (down : client.isAlive = false) :
    client.wentDown behave why = client.moveTo .disconnected := by
  simp [wentDown, transition, down, LinkState.isConnected]

/-- A driver that goes down tells everybody, and then the policy decides about the waiting calls. -/
theorem wentDown_told (behave : Behaviour κ ω) (why : SessionEnd) {client : Client κ ω}
    (up : client.isAlive = true) :
    let told := notifyAll behave (.alive false) (client.moveTo .disconnected)
      client.connectivity.observers
    client.wentDown behave why =
      if why = .dropped ∧ told.options.pendingPolicy = .fail then
        (told.rejectAll .connectionClosed).1
      else told := by
  simp [wentDown, transition, up, LinkState.isConnected]

/-! ## Between events -/

/-- A live session has its channel, as it has between events. -/
structure Poised (client : Client κ ω) : Prop extends Coherent client where
  held : client.link.phase = .live → client.link.channel.isSome = true

/-- What a step of a run leads to. -/
structure Arrives (licence : Licence κ ω) (before after : Client κ ω) : Prop where
  reaches : Reaches licence before after
  held : after.link.phase = .live → after.link.channel.isSome = true

variable {client : Client κ ω}

theorem Arrives.refl (poised : client.Poised) : Arrives licence client client :=
  ⟨.refl client, poised.held⟩

theorem Arrives.poised {after : Client κ ω} (arrives : Arrives licence client after)
    (poised : client.Poised) : after.Poised :=
  ⟨arrives.reaches.coherent poised.toCoherent, arrives.held⟩

theorem Arrives.trans {middle after : Client κ ω} (first : Arrives licence client middle)
    (second : Arrives licence middle after) : Arrives licence client after :=
  ⟨first.reaches.trans second.reaches, second.held⟩

theorem Acted.arrives {after : Client κ ω} (acted : Acted licence client after)
    (poised : client.Poised) : Arrives licence client after :=
  ⟨acted.reaches, fun live => by
    rw [acted.calm.channel_isSome]
    exact poised.held (acted.calm.phase.symm.trans live)⟩

/-! ## Sessions -/

/-- A session ends: the channel goes, the observers are told and may act, and then the policy and
the driver do their part.  `other` is the client with what was left of its channel and prologue. -/
theorem endSession_arrives (within : behave.Within licence.act) (coherent : client.Coherent)
    {other : Client κ ω} (queue : List Outbound) (fits : (Move.detach queue).Fits licence client)
    (left : other.detach = (client.setChannel queue).detach) (why : SessionEnd) :
    Arrives licence client (other.endSession behave why) := by
  have some : client.link.channel.isSome = true := by
    rcases fits with ⟨-, channel⟩ | ⟨-, lost, channel⟩ <;> simp [channel]
  obtain ⟨backlog, detached⟩ := (client.setChannel queue).detach_link
  -- the observers are told, since the link was up
  have up : other.detach.isAlive = true := by
    rw [left, detached, ← some, ← coherent.up]
    rfl
  have first : Reaches licence client (other.detach.moveTo .disconnected) :=
    .of_move (.detach queue) fits (by rw [left]; rfl)
  have told := notifyAll_acted within (.alive false) (other.detach.moveTo .disconnected)
    other.detach.connectivity.observers
  have wentDown := wentDown_told behave why up
  obtain ⟨after, notified⟩ : ∃ after, after = notifyAll behave (.alive false)
    (other.detach.moveTo .disconnected) other.detach.connectivity.observers := ⟨_, rfl⟩
  simp only [← notified] at told wentDown
  have reached : Reaches licence client after := first.trans told.reaches
  have none : after.link.channel = none := by
    have same := told.calm.channel_isSome
    rw [left, detached] at same
    simpa [moveTo, unplugged] using same
  -- the policy fails the waiting calls of a lost link
  have wentDown : Reaches licence client (other.detach.wentDown behave why) ∧
      (other.detach.wentDown behave why).link.channel = Option.none := by
    rw [wentDown]
    split
    · rename_i fails
      exact ⟨reached.trans (.of_move .failAll ⟨fails.2, none⟩ rfl), none⟩
    · exact ⟨reached, none⟩
  obtain ⟨reached, none⟩ := wentDown
  have coherent := reached.coherent coherent
  unfold endSession
  cases why with
  | dropped => exact ⟨reached.trans (coherent.steer none _ _ _ _), by simp [awaitRetry]⟩
  | stopped => exact ⟨reached.trans (coherent.steer none _ _ _ _), by simp [enter]⟩

/-- A write puts a frame on the socket, or ends the session. -/
theorem write_cases (behave : Behaviour κ ω) (frame : Outbound) (client : Client κ ω) :
    client.link.room ≠ some 0 ∧ client.write behave frame = client.wrote frame ∨
      client.link.room = some 0 ∧
        client.write behave frame = client.endSession behave .dropped := by
  unfold write Link.write
  by_cases full : client.link.room = some 0
  · exact .inr ⟨full, by simp [full]⟩
  · exact .inl ⟨full, by simp [full, wrote]⟩

/-- A socket without limit takes every write. -/
theorem write_free (frame : Outbound) (room : client.link.room = none) :
    client.write behave frame = client.wrote frame := by
  rcases client.write_cases behave frame with ⟨-, wrote⟩ | ⟨full, -⟩
  · exact wrote
  · simp [room] at full

theorem proceed_arrives (within : behave.Within licence.act) (poised : client.Poised) :
    Arrives licence client (client.proceed behave) := by
  -- a frame that cannot be written is lost, and the session ends
  have fails : ∀ prologue, client.link.prologue ≠ .complete → client.link.room = some 0 →
      Arrives licence client ((client.setPrologue prologue).endSession behave .dropped) := by
    intro prologue begun full
    obtain ⟨queue, channel⟩ : ∃ queue, client.link.channel = some queue :=
      Option.ne_none_iff_exists'.1 fun none => begun (poised.complete none)
    refine endSession_arrives within poised.toCoherent _ (.inr ⟨full, none, channel⟩) ?_ .dropped
    simp [detach, setPrologue, setChannel, channel]
  unfold proceed
  split
  · rename_i begun
    exact ⟨.of_move .read begun rfl, poised.held⟩
  · rename_i topic left begun
    rcases write_cases behave (.subscribe topic)
      (client.setPrologue (.announcing left)) with ⟨room, wrote⟩ | ⟨full, ended⟩
    · exact wrote ▸ ⟨.of_move (.announce topic left) ⟨begun, room⟩ rfl, poised.held⟩
    · exact ended ▸ fails _ (by simp [begun]) full
  · rename_i begun
    exact ⟨.of_move .unload begun rfl, poised.held⟩
  · rename_i frame left begun
    rcases write_cases behave frame
      (client.setPrologue (.flushing left)) with ⟨room, wrote⟩ | ⟨full, ended⟩
    · exact wrote ▸ ⟨.of_move (.flush frame left) ⟨begun, room⟩ rfl, poised.held⟩
    · exact ended ▸ fails _ (by simp [begun]) full
  · rename_i begun
    exact ⟨.of_move .finish begun rfl, poised.held⟩
  · exact .refl poised

theorem finish_arrives (within : behave.Within licence.act) (poised : client.Poised) :
    Arrives licence client (client.finish behave) := by
  unfold finish
  generalize client.prologueSteps = steps
  induction steps generalizing client with
  | zero => exact .refl poised
  | succ steps ih =>
      have first := proceed_arrives within poised
      exact first.trans (ih (first.poised poised))

/-- A session that has ended has no prologue. -/
theorem complete_of_ended {after : Client κ ω} (arrives : Arrives licence client after)
    (coherent : client.Coherent) (phase : after.link.phase ≠ .live) :
    after.link.prologue = .complete := by
  have coherent := arrives.reaches.coherent coherent
  exact coherent.complete (coherent.channel_none phase)

theorem prologueSteps_eq_zero (complete : client.link.prologue = .complete) :
    client.prologueSteps = 0 := by
  simp [prologueSteps, complete]

/-- Every step of the prologue brings its end nearer. -/
theorem prologueSteps_proceed (within : behave.Within licence.act) (poised : client.Poised)
    (begun : client.link.prologue ≠ .complete) :
    (client.proceed behave).prologueSteps < client.prologueSteps := by
  have fewer := client.prologueSteps_tryProceed begun
  have arrives := proceed_arrives within poised
  rw [proceed_eq] at arrives ⊢
  generalize client.tryProceed = result at *
  obtain ⟨next, _ | _⟩ := result
  · -- a write that fails ends the session, and its prologue
    have phase : (next.endSession behave .dropped).link.phase ≠ .live := by
      simp [endSession, awaitRetry]
    have none := prologueSteps_eq_zero (complete_of_ended arrives poised.toCoherent phase)
    exact none.trans_lt (Nat.zero_lt_of_lt fewer)
  · exact fewer

/-- `prologueSteps` are enough: then the prologue is over. -/
theorem finish_complete (within : behave.Within licence.act) (poised : client.Poised) :
    (client.finish behave).link.prologue = .complete := by
  have enough : ∀ (steps : Nat) (client : Client κ ω), client.Poised →
      client.prologueSteps ≤ steps →
        (client.proceedFor behave steps).link.prologue = .complete := by
    intro steps
    induction steps with
    | zero =>
        intro client poised none
        unfold prologueSteps at none
        split at none
        · omega
        · omega
        · omega
        · assumption
    | succ steps ih =>
        intro client poised bound
        refine ih _ ((proceed_arrives within poised).poised poised) ?_
        by_cases complete : client.link.prologue = .complete
        · rw [proceed_complete behave client complete, prologueSteps_eq_zero complete]
          exact Nat.zero_le _
        · have nearer := prologueSteps_proceed within poised complete
          omega
  exact enough _ _ poised (Nat.le_refl _)

theorem emit_arrives (within : behave.Within licence.act) (poised : client.Poised) :
    Arrives licence client (client.emit behave) := by
  unfold emit
  split
  · rename_i frame queue complete channel
    rcases write_cases behave frame (client.setChannel queue) with
      ⟨room, wrote⟩ | ⟨room, ended⟩
    · exact wrote ▸ ⟨.of_move (.emit frame queue) ⟨complete, channel, room⟩ rfl, fun _ => rfl⟩
    · exact ended ▸ endSession_arrives within poised.toCoherent queue
        (.inr ⟨room, some frame, channel⟩) rfl .dropped
  · exact .refl poised

theorem isPumping_iff (client : Client κ ω) :
    client.isPumping = true ↔ client.link.phase = .live ∧ client.link.prologue = .complete := by
  unfold isPumping
  split
  · simp [*]
  · rename_i other
    simpa using other

theorem lose_arrives (within : behave.Within licence.act) (poised : client.Poised)
    (pumping : client.isPumping = true) : Arrives licence client (client.lose behave) := by
  obtain ⟨live, complete⟩ := client.isPumping_iff.1 pumping
  obtain ⟨queue, channel⟩ := Option.isSome_iff_exists.1 (poised.held live)
  refine endSession_arrives within poised.toCoherent _ (.inl ⟨complete, channel⟩) ?_ .dropped
  simp [detach, setChannel, channel]

theorem hear_arrives (within : behave.Within licence.act) (poised : client.Poised)
    (pumping : client.isPumping = true) (text : String) :
    Arrives licence client (client.hear behave text) := by
  have some := poised.held (client.isPumping_iff.1 pumping).1
  unfold hear route
  cases Inbound.decode text with
  | error reason => exact .refl poised
  | ok inbound =>
      cases inbound with
      | reply id outcome => exact ⟨.of_move (.settle id outcome) some rfl, poised.held⟩
      | push topic data => exact (notifyAll_acted within _ _ _).arrives poised
      | ping id =>
          show Arrives licence client (client.write behave (.pong id))
          rcases write_cases behave (.pong id) client with ⟨room, wrote⟩ | ⟨-, ended⟩
          · exact wrote ▸ ⟨.of_move (.answer id) ⟨some, room⟩ rfl, poised.held⟩
          · have lost := lose_arrives within poised pumping
            exact ended ▸ lost

/-- A socket that has settled makes a session: the link is raised, and the observers are told. -/
theorem settled_eq (behave : Behaviour κ ω) (poised : client.Poised)
    (settling : client.link.phase = .settling) (room : Option Nat) :
    client.settled behave room = notifyAll behave (.alive true)
      ((client.openSession room).moveTo .connected) client.connectivity.observers := by
  have none := poised.channel_none (by simp [settling])
  have down : (client.openSession room).isAlive = false := poised.down none
  simp only [settled, transition, down, LinkState.isConnected]
  rfl

/-- A session begins: there is a channel, and the observers are told and may act. -/
theorem settled_arrives (within : behave.Within licence.act) (poised : client.Poised)
    (settling : client.link.phase = .settling) {room : Option Nat} (allowed : licence.room room) :
    Arrives licence client (client.settled behave room) := by
  have none := poised.channel_none (by simp [settling])
  have told := notifyAll_acted within (.alive true) ((client.openSession room).moveTo .connected)
    client.connectivity.observers
  rw [settled_eq behave poised settling]
  refine ⟨(Reaches.of_move (.install room) ⟨allowed, none⟩ rfl).trans told.reaches, fun _ => ?_⟩
  rw [told.calm.channel_isSome]
  rfl

/-! ## Attempts, and the end of the driver -/

theorem connect_arrives (poised : client.Poised) (runtime : Bool) (address : String) :
    Arrives licence client (client.connect runtime address).1 := by
  unfold connect
  split
  · exact .refl poised
  split
  · exact .refl poised
  split
  · exact .refl poised
  split
  · exact .refl poised
  · rename_i idle
    have none := poised.channel_none (by
      have idle : client.link.phase = .idle := by simpa [Link.isRunning] using idle
      simp [idle])
    exact ⟨poised.steer none .starting _ _ _, by simp⟩

/-- A driver that is about to make an attempt has nobody to tell. -/
theorem attempt_eq (behave : Behaviour κ ω) (poised : client.Poised)
    (ready : client.link.phase = .starting ∨ client.link.phase = .waiting) :
    client.attempt behave = (client.moveTo .connecting).enter .attempting := by
  have none := poised.channel_none (by rcases ready with phase | phase <;> simp [phase])
  have still : client.isAlive = LinkState.connecting.isConnected := poised.down none
  rw [attempt, transition_still behave .connecting client still]

theorem attempt_arrives (poised : client.Poised)
    (ready : client.link.phase = .starting ∨ client.link.phase = .waiting) :
    Arrives licence client (client.attempt behave) := by
  have none := poised.channel_none (by rcases ready with phase | phase <;> simp [phase])
  rw [attempt_eq behave poised ready]
  exact ⟨steer_to none .attempting rfl, by simp [enter]⟩

theorem attemptFailed_arrives (poised : client.Poised)
    (attempting : client.link.phase = .attempting) :
    Arrives licence client (client.attemptFailed behave) := by
  have none := poised.channel_none (by simp [attempting])
  rw [attemptFailed, wentDown_still .dropped (poised.down none)]
  exact ⟨.of_move (.steer .waiting .disconnected client.link.endpoint client.link.backoff.next.2
    client.link.backoff.next.1) ⟨none, rfl⟩ rfl, by simp [awaitRetry]⟩

theorem stop_arrives (within : behave.Within licence.act) (poised : client.Poised) :
    Arrives licence client (client.stop behave) ∧
      (client.stop behave).link.phase = .idle := by
  have finished := finish_arrives within poised
  have complete := finish_complete within poised
  have poised := finished.poised poised
  unfold stop
  dsimp only
  split
  · rename_i idle
    exact ⟨finished, idle⟩
  · rename_i live
    obtain ⟨queue, channel⟩ := Option.isSome_iff_exists.1 (finished.held live)
    refine ⟨finished.trans ?_, by simp [endSession, enter]⟩
    refine endSession_arrives within poised.toCoherent _ (.inl ⟨complete, channel⟩) ?_ .stopped
    simp [detach, setChannel, channel]
  · rename_i notLive
    have none := poised.channel_none notLive
    rw [wentDown_still .stopped (poised.down none)]
    exact ⟨finished.trans ⟨steer_to none .idle rfl, by simp [enter]⟩, rfl⟩

/-- Once the driver has stopped, there is nobody left to tell. -/
theorem close_eq (behave : Behaviour κ ω) (stopped : (client.stop behave).Poised)
    (idle : (client.stop behave).link.phase = .idle) :
    client.close behave =
      ((({ client.stop behave with
          link := { (client.stop behave).link with backlog := [] } } : Client κ ω).moveTo
        .disconnected).rejectAll .connectionClosed).1 := by
  have none := stopped.channel_none (by simp [idle])
  have still : ({ client.stop behave with
      link := { (client.stop behave).link with backlog := [] } } : Client κ ω).isAlive =
        LinkState.disconnected.isConnected := stopped.down none
  simp only [close, transition_still behave .disconnected _ still]

theorem close_arrives (within : behave.Within licence.act) (poised : client.Poised) :
    Arrives licence client (client.close behave) := by
  obtain ⟨stopped, idle⟩ := stop_arrives within poised
  have poised := stopped.poised poised
  have none := poised.channel_none (by simp [idle])
  have down : Reaches licence (client.stop behave)
      (((client.stop behave).moveTo .disconnected).enter .idle) := steer_to none .idle rfl
  have cleared : client.close behave =
      (Move.clear : Move κ ω).apply (((client.stop behave).moveTo .disconnected).enter .idle) := by
    rw [close_eq behave poised idle]
    simp [Move.apply, enter, moveTo, idle]
  rw [cleared]
  refine stopped.trans ⟨down.trans (.of_move .clear ⟨rfl, none⟩ rfl), ?_⟩
  simp [Move.apply, rejectAll, enter]

/-! ## Runs -/

/-- Every event is allowed where everything is. -/
theorem within_free (event : Event κ ω) : event.Within .free := by
  cases event <;> simp [Event.Within, Licence.free]

/-- What one event does is done by moves, and leaves a poised client. -/
theorem step_arrives (within : behave.Within licence.act) (poised : client.Poised)
    {event : Event κ ω} (allowed : event.Within licence) :
    Arrives licence client (event.step behave client) := by
  -- an event that cannot happen at the moment changes nothing
  have provided : ∀ {condition : Prop} [Decidable condition] {after : Client κ ω},
      (condition → Arrives licence client after) →
        Arrives licence client (if condition then after else client) := by
    intro condition _ after arrives
    split
    · exact arrives ‹_›
    · exact .refl poised
  have releases : ∀ handles : List HandleId,
      (∀ handle ∈ handles, licence.act (.unsubscribe handle)) →
      Arrives licence client (client.unsubscribeAll handles).1 := by
    intro handles each
    have released : Acted licence client (client.unsubscribeAll handles).1 :=
      client.unsubscribeAll_eq handles ▸ performAll_acted (by simpa using each) client
    exact released.arrives poised
  cases event with
  | act deed =>
      exact Acted.arrives ⟨perform_reaches allowed client, perform_calm deed client⟩ poised
  | observe callback =>
      have enlisted : Acted licence client (client.enlist callback).1 :=
        ⟨perform_reaches allowed client, perform_calm (.enlist callback) client⟩
      exact (enlisted.trans (notify_acted within _ _ _)).arrives poised
  | unsubscribeAll handles => exact releases handles allowed
  | dispose scope => exact releases scope.handles allowed
  | collect =>
      have each : ∀ act ∈ (client.awaited.map (·.ticket)).map Act.conclude, licence.act act := by
        intro act member
        obtain ⟨ticket, -, rfl⟩ := List.mem_map.1 member
        exact allowed ticket
      have concluded : Acted licence client client.collect.1 :=
        client.concludeAll_eq (client.awaited.map (·.ticket)) ▸ performAll_acted each client
      exact concluded.arrives poised
  | connect runtime address => exact connect_arrives poised runtime address
  | close => exact close_arrives within poised
  | shutdown => exact (stop_arrives within poised).1
  | attempt => exact provided (attempt_arrives poised)
  | attemptFailed => exact provided (attemptFailed_arrives poised)
  | opened =>
      refine provided fun attempting => ?_
      have none := poised.channel_none (by simp [attempting])
      exact ⟨poised.steer none .settling _ _ _, by simp [opened]⟩
  | settled room => exact provided fun settling => settled_arrives within poised settling allowed
  | proceed => exact proceed_arrives within poised
  | emit => exact emit_arrives within poised
  | hear text => exact provided fun pumping => hear_arrives within poised pumping text
  | lose => exact provided (lose_arrives within poised)

theorem start_poised (options : Options) (token : Option Json) (candidate : Nat → CorrelationId)
    (desk : ω) : (start options token candidate desk : Client κ ω).Poised where
  up := rfl
  live none := by simp [start, new] at none
  complete _ := rfl
  held live := by simp [start, new] at live

theorem run_arrives (within : behave.Within licence.act) (poised : client.Poised)
    {events : List (Event κ ω)} (allowed : ∀ event ∈ events, event.Within licence) :
    Arrives licence client (client.run behave events) := by
  induction events generalizing client with
  | nil => exact .refl poised
  | cons event events ih =>
      have first := step_arrives within poised (allowed event List.mem_cons_self)
      exact first.trans (ih (first.poised poised)
        (fun other member => allowed other (List.mem_cons_of_mem _ member)))

/-- **Every run is a path.** -/
theorem run_path (within : behave.Within licence.act) {events : List (Event κ ω)}
    (allowed : ∀ event ∈ events, event.Within licence) (options : Options) (token : Option Json)
    (candidate : Nat → CorrelationId) (desk : ω) :
    ∃ moves, (start options token candidate desk).Path licence moves
      (run behave events (start options token candidate desk)) :=
  (run_arrives within (start_poised options token candidate desk) allowed).reaches

end Switchboard.Client
