/-
# Switchboard.Proofs.Teardown -- what is left when a link goes down

However a link that was up goes down, the same things happen in the same order.  The
channel goes and the link is lowered, and nothing else of the client changes
(`Client.Muted`).  Then the observers are told, once (`Client.toldDown`).  A lost link
then leaves it to the policy what becomes of the calls, and the driver waits before
its next attempt (`Client.IsLost`); a driver that stops just goes.

* `exists_loss`: every step by which a link goes down, other than those that stop the
  driver, is such a loss;
* `close_form`: what closing a client comes to, wherever its driver is.

Callbacks are only asked to leave the driver's work alone (`Behaviour.Calm`), as they do
if they do nothing but acts.
-/
import Switchboard.Proofs.Drivers
import Switchboard.Proofs.Paths

namespace Switchboard

set_option autoImplicit false

/-- No call has ended, or every call that waited has failed with its connection. -/
def CallTable.Together (before after : CallTable) : Prop :=
  after = before ∨ after = (before.rejectAll .connectionClosed).1

namespace CallTable.Together

variable {before after : CallTable} (together : before.Together after)
include together

/-- Calls that have failed with their connection cannot fail so again. -/
theorem rejectAll :
    (after.rejectAll .connectionClosed).1 = (before.rejectAll .connectionClosed).1 := by
  rcases together with rfl | rfl <;> rfl

theorem pending_nil (none : before.pending = []) : after.pending = [] := by
  rcases together with rfl | rfl
  · exact none
  · rfl

end CallTable.Together

/-- Callbacks that leave the driver's work alone. -/
def Behaviour.Calm {κ ω : Type} (behave : Behaviour κ ω) : Prop :=
  ∀ callback signal (client : Client κ ω), client.Calm (behave callback signal client).1

theorem Behaviour.Within.calm {κ ω : Type} {behave : Behaviour κ ω}
    {allowed : Client.Act κ ω → Prop} (within : behave.Within allowed) : behave.Calm := by
  intro callback signal client
  obtain ⟨acts, -, does⟩ := within callback signal client
  rw [does]
  have acted : Client.Acted .free client (client.performAll acts) :=
    Client.performAll_acted (fun _ _ => trivial) client
  exact acted.calm

namespace Client

variable {κ ω : Type} {behave : Behaviour κ ω} {client quiet after : Client κ ω}

theorem notifyAll_calm (calm : behave.Calm) (signal : Signal) (client : Client κ ω)
    (entries : List (HandleId × κ)) : client.Calm (notifyAll behave signal client entries) := by
  induction entries generalizing client with
  | nil => exact .refl client
  | cons entry entries ih => exact (calm entry.2 signal client).trans (ih _)

theorem Calm.isAlive (calm : client.Calm after) : after.isAlive = client.isAlive :=
  congrArg LinkState.isConnected calm.state

theorem connectivity_moveTo_of_state {next : LinkState} (there : client.state = next) :
    client.connectivity.moveTo next = client.connectivity :=
  if_pos there

/-! ## Going down -/

/-- The channel of the link and whatever belonged to its session is gone, and the link is down;
nothing else changed. -/
structure Muted (client quiet : Client κ ω) : Prop where
  same : quiet = { client with
    connectivity := client.connectivity.moveTo .disconnected
    link := quiet.link }
  channel : quiet.link.channel = none
  complete : quiet.link.prologue = .complete

/-- The client after each of its observers has been told that the link is down. -/
def toldDown (behave : Behaviour κ ω) (quiet : Client κ ω) : Client κ ω :=
  notifyAll behave (.alive false) quiet quiet.connectivity.observers

/-- The link was up and has been lost: it went down, the observers were told, the policy decided
about the calls, and the driver waits. -/
def IsLost (behave : Behaviour κ ω) (client after : Client κ ω) : Prop :=
  client.isAlive = true ∧ ∃ quiet, client.Muted quiet ∧
    after = ((quiet.toldDown behave).failLost .dropped true).awaitRetry

namespace Muted

theorem of_link {link : Link} (muted : ({ client with link } : Client κ ω).Muted quiet) :
    client.Muted quiet :=
  ⟨muted.same, muted.channel, muted.complete⟩

theorem state (muted : client.Muted quiet) : quiet.state = .disconnected := by
  rw [muted.same]
  exact state_moveTo client .disconnected

theorem observers (muted : client.Muted quiet) :
    quiet.connectivity.observers = client.connectivity.observers := by
  rw [muted.same]
  exact client.connectivity.observers_moveTo .disconnected

theorem calls (muted : client.Muted quiet) : quiet.calls = client.calls := by rw [muted.same]

theorem options (muted : client.Muted quiet) : quiet.options = client.options := by
  rw [muted.same]

end Muted

theorem toldDown_calm (calm : behave.Calm) (quiet : Client κ ω) :
    quiet.Calm (quiet.toldDown behave) :=
  notifyAll_calm calm _ _ _

/-- What a session leaves of itself before anybody is told. -/
theorem muted_detach (client : Client κ ω) :
    client.Muted (client.detach.moveTo .disconnected) := by
  obtain ⟨backlog, detached⟩ := client.detach_link
  rw [detached]
  exact ⟨rfl, rfl, rfl⟩

theorem isAlive_detach (client : Client κ ω) : client.detach.isAlive = client.isAlive := by
  obtain ⟨backlog, detached⟩ := client.detach_link
  rw [detached]
  rfl

/-- A session that ends lowers the link and tells everybody. -/
theorem wentDown_detach (behave : Behaviour κ ω) (why : SessionEnd)
    (up : client.isAlive = true) :
    client.detach.wentDown behave why =
      ((client.detach.moveTo .disconnected).toldDown behave).failLost why true := by
  have observers : (client.detach.moveTo .disconnected).connectivity.observers =
      client.detach.connectivity.observers := client.detach.connectivity.observers_moveTo _
  rw [wentDown_told behave why (client.isAlive_detach.trans up), toldDown, observers, failLost]
  simp

/-- A session that is dropped is a lost link. -/
theorem isLost_endSession (up : client.isAlive = true) :
    client.IsLost behave (client.endSession behave .dropped) := by
  refine ⟨up, _, client.muted_detach, ?_⟩
  show (client.detach.wentDown behave .dropped).awaitRetry = _
  rw [wentDown_detach behave .dropped up]

/-- What a session that is stopped leaves. -/
theorem endSession_stopped (up : client.isAlive = true) :
    client.endSession behave .stopped =
      ((client.detach.moveTo .disconnected).toldDown behave).enter .idle := by
  show (client.detach.wentDown behave .stopped).enter .idle = _
  rw [wentDown_detach behave .stopped up, failLost, if_neg (by simp)]

theorem IsLost.of_link {link : Link}
    (lost : ({ client with link } : Client κ ω).IsLost behave after) :
    client.IsLost behave after := by
  obtain ⟨up, quiet, muted, lost⟩ := lost
  exact ⟨up, quiet, muted.of_link, lost⟩

/-- After a loss the driver waits, and the link is down. -/
theorem IsLost.waits (calm : behave.Calm) (lost : client.IsLost behave after) :
    after.link.phase = .waiting ∧ after.link.channel = none ∧
      after.link.prologue = .complete ∧ after.state = .disconnected := by
  obtain ⟨-, quiet, muted, rfl⟩ := lost
  have told := toldDown_calm calm quiet
  have steady := Steadfast.failLost .dropped true (quiet.toldDown behave)
  have link : ((quiet.toldDown behave).failLost .dropped true).link =
      (quiet.toldDown behave).link := by
    unfold failLost
    split <;> rfl
  refine ⟨rfl, ?_, ?_, ?_⟩
  · show ((quiet.toldDown behave).failLost .dropped true).link.channel = none
    rw [link, ← Option.not_isSome_iff_eq_none, told.channel_isSome, muted.channel]
    simp
  · show ((quiet.toldDown behave).failLost .dropped true).link.prologue = .complete
    rw [link, told.prologue, muted.complete]
  · exact steady.state.trans (told.state.trans muted.state)

/-! ## Steps of a session -/

/-- Nothing changed but the link, and it is as far as it was. -/
def GoesOn (client after : Client κ ω) : Prop :=
  ∃ link, after = { client with link } ∧ link.phase = client.link.phase ∧
    link.channel.isSome = client.link.channel.isSome

theorem GoesOn.refl (client : Client κ ω) : client.GoesOn client := ⟨client.link, rfl, rfl, rfl⟩

theorem GoesOn.trans {middle : Client κ ω} (first : client.GoesOn middle)
    (second : middle.GoesOn after) : client.GoesOn after := by
  obtain ⟨link, rfl, phase, channel⟩ := first
  obtain ⟨next, rfl, phase', channel'⟩ := second
  exact ⟨next, rfl, phase'.trans phase, channel'.trans channel⟩

theorem GoesOn.isAlive (goesOn : client.GoesOn after) : after.isAlive = client.isAlive := by
  obtain ⟨link, rfl, -, -⟩ := goesOn
  rfl

theorem GoesOn.isLost {middle : Client κ ω} (goesOn : client.GoesOn middle)
    (lost : middle.IsLost behave after) : client.IsLost behave after := by
  obtain ⟨link, rfl, -, -⟩ := goesOn
  exact lost.of_link

/-- A write of a session that is up goes through, or the link is lost. -/
theorem write_goes (behave : Behaviour κ ω) (frame : Outbound) (up : client.isAlive = true) :
    client.GoesOn (client.write behave frame) ∨
      client.IsLost behave (client.write behave frame) := by
  rcases client.write_cases behave frame with ⟨-, wrote⟩ | ⟨-, ended⟩
  · exact .inl (wrote ▸ ⟨_, rfl, rfl, rfl⟩)
  · exact .inr (ended ▸ isLost_endSession up)

theorem proceed_goes (behave : Behaviour κ ω)
    (begun : client.link.prologue ≠ .complete → client.isAlive = true) :
    client.GoesOn (client.proceed behave) ∨ client.IsLost behave (client.proceed behave) := by
  have writes : ∀ prologue frame, client.link.prologue ≠ .complete →
      client.GoesOn ((client.setPrologue prologue).write behave frame) ∨
        client.IsLost behave ((client.setPrologue prologue).write behave frame) := by
    intro prologue frame unfinished
    have set : client.GoesOn (client.setPrologue prologue) := ⟨_, rfl, rfl, rfl⟩
    exact (write_goes behave frame (set.isAlive.trans (begun unfinished))).imp set.trans set.isLost
  unfold proceed
  split
  · exact .inl ⟨_, rfl, rfl, rfl⟩
  · rename_i prologue
    exact writes _ _ (by simp [prologue])
  · exact .inl ⟨_, rfl, rfl, rfl⟩
  · rename_i prologue
    exact writes _ _ (by simp [prologue])
  · exact .inl ⟨_, rfl, rfl, rfl⟩
  · exact .inl (.refl client)

theorem emit_goes (behave : Behaviour κ ω) (up : client.isAlive = true) :
    client.GoesOn (client.emit behave) ∨ client.IsLost behave (client.emit behave) := by
  unfold emit
  split
  · rename_i frame queue complete channel
    have taken : client.GoesOn (client.setChannel queue) :=
      ⟨_, rfl, rfl, by simp [channel]⟩
    exact (write_goes behave frame (taken.isAlive.trans up)).imp taken.trans taken.isLost
  · exact .inl (.refl client)

/-- A message that a session hears leaves the link up, or the link is lost with the answer. -/
theorem hear_goes (calm : behave.Calm) (up : client.isAlive = true) (text : String) :
    (client.hear behave text).isAlive = client.isAlive ∨
      client.IsLost behave (client.hear behave text) := by
  unfold hear route
  cases Inbound.decode text with
  | error reason => exact .inl rfl
  | ok inbound =>
      cases inbound with
      | reply id outcome => exact .inl rfl
      | push topic data => exact .inl (notifyAll_calm calm _ _ _).isAlive
      | ping id => exact (write_goes behave (.pong id) up).imp_left GoesOn.isAlive

/-- Once a prologue is over there are no steps of it. -/
theorem proceedFor_complete (behave : Behaviour κ ω) (steps : Nat) {client : Client κ ω}
    (complete : client.link.prologue = .complete) : client.proceedFor behave steps = client := by
  induction steps with
  | zero => rfl
  | succ steps ih => rw [proceedFor, proceed_complete behave client complete, ih]

/-- The prologue of a session is completed, or the link is lost on the way. -/
theorem finish_goes (calm : behave.Calm)
    (begun : client.link.prologue ≠ .complete → client.isAlive = true) :
    client.GoesOn (client.finish behave) ∨ client.IsLost behave (client.finish behave) := by
  unfold finish
  generalize client.prologueSteps = steps
  induction steps generalizing client with
  | zero => exact .inl (.refl client)
  | succ steps ih =>
      by_cases complete : client.link.prologue = .complete
      · rw [proceedFor_complete behave _ complete]
        exact .inl (.refl client)
      · have up := begun complete
        rcases proceed_goes behave begun with goesOn | lost
        · exact (ih fun _ => goesOn.isAlive.trans up).imp goesOn.trans goesOn.isLost
        · -- once the link is lost there is no prologue any more
          rw [proceedFor, proceedFor_complete behave _ (lost.waits calm).2.2.1]
          exact .inr lost

/-! ## A link that goes down -/

theorem Poised.begun (poised : client.Poised) (unfinished : client.link.prologue ≠ .complete) :
    client.isAlive = true := by
  rw [poised.up]
  by_contra none
  exact unfinished (poised.complete (by simpa using none))

theorem isAlive_iff (client : Client κ ω) : client.isAlive = true ↔ client.state = .connected := by
  unfold isAlive Connectivity.isAlive state
  cases client.connectivity.state <;> simp [LinkState.isConnected]

/-- **A link that goes down has been lost**, unless the driver is stopped: there is no other way. -/
theorem exists_loss (calm : behave.Calm) (poised : client.Poised) (up : client.isAlive = true)
    {event : Event κ ω} (notClose : event ≠ .close) (notShutdown : event ≠ .shutdown)
    (down : (event.step behave client).isAlive = false) :
    client.IsLost behave (event.step behave client) := by
  have live : client.link.phase = .live := poised.live (poised.up.symm.trans up)
  -- an event after which the link is up is none of these
  have still : (event.step behave client).isAlive = client.isAlive →
      client.IsLost behave (event.step behave client) := fun same => by
    rw [same, up] at down
    cases down
  have goes : client.GoesOn (event.step behave client) ∨
      client.IsLost behave (event.step behave client) →
        client.IsLost behave (event.step behave client) := fun either =>
    either.elim (fun goesOn => still goesOn.isAlive) id
  cases event with
  | act deed => exact still (perform_calm deed client).isAlive
  | observe callback =>
      exact still (((perform_calm (.enlist callback) client).trans
        (calm callback _ _)).isAlive)
  | unsubscribeAll handles =>
      refine still ?_
      have acted : Acted .free client (client.performAll (handles.map .unsubscribe)) :=
        performAll_acted (fun _ _ => trivial) client
      rw [Event.step, unsubscribeAll_eq]
      exact acted.calm.isAlive
  | dispose scope =>
      refine still ?_
      have acted : Acted .free client (client.performAll (scope.handles.map .unsubscribe)) :=
        performAll_acted (fun _ _ => trivial) client
      show ((client.unsubscribeAll scope.handles).1).isAlive = client.isAlive
      rw [unsubscribeAll_eq]
      exact acted.calm.isAlive
  | collect =>
      refine still ?_
      have acted : Acted .free client
          (client.performAll ((client.awaited.map (·.ticket)).map .conclude)) :=
        performAll_acted (fun _ _ => trivial) client
      rw [Event.step, collect, concludeAll_eq]
      exact acted.calm.isAlive
  | connect runtime address =>
      refine still ?_
      rw [Event.step, connect]
      split
      · rfl
      · repeat' split
        all_goals rfl
  | close => exact absurd rfl notClose
  | shutdown => exact absurd rfl notShutdown
  | attempt | attemptFailed | opened | settled =>
      exact still (by simp [Event.step, live])
  | proceed => exact goes (proceed_goes behave poised.begun)
  | emit => exact goes (emit_goes behave up)
  | hear text =>
      by_cases pumping : client.isPumping = true
      · have heard : (Event.hear text).step behave client = client.hear behave text :=
          if_pos pumping
        rw [heard] at still ⊢
        exact (hear_goes calm up text).elim still id
      · exact still (by simp [Event.step, pumping])
  | lose =>
      by_cases pumping : client.isPumping = true
      · have lost : Event.lose.step behave client = client.lose behave := if_pos pumping
        exact lost ▸ isLost_endSession up
      · exact still (by simp [Event.step, pumping])

/-! ## Closing -/

/-- The client whose observers have been told that the link is down, if it was up. -/
def informed (behave : Behaviour κ ω) (client quiet : Client κ ω) : Client κ ω :=
  if client.isAlive then quiet.toldDown behave else quiet

theorem informed_calm (calm : behave.Calm) (client quiet : Client κ ω) :
    quiet.Calm (client.informed behave quiet) := by
  unfold informed
  split
  · exact toldDown_calm calm quiet
  · exact .refl quiet

theorem failLost_link (why : SessionEnd) (told : Bool) (client : Client κ ω) :
    ∃ calls, client.failLost why told = { client with calls } ∧ client.calls.Together calls := by
  unfold failLost
  split
  · exact ⟨_, rfl, .inr rfl⟩
  · exact ⟨_, rfl, .inl rfl⟩

/-- A close is complete as soon as the driver has stopped and the link is down. -/
theorem close_of_stop (down : (client.stop behave).isAlive = false) :
    client.close behave = { client.stop behave with
      connectivity := (client.stop behave).connectivity.moveTo .disconnected
      link := { (client.stop behave).link with backlog := [] }
      calls := ((client.stop behave).calls.rejectAll .connectionClosed).1 } := by
  have still : ({ client.stop behave with
      link := { (client.stop behave).link with backlog := [] } } : Client κ ω).isAlive =
        LinkState.disconnected.isConnected := down
  simp only [close, transition_still behave .disconnected _ still]
  rfl

/-- A driver without a session stops and tells nobody. -/
theorem stop_still (behave : Behaviour κ ω) (poised : client.Poised)
    (notLive : client.link.phase ≠ .live) :
    ∃ connectivity, client.stop behave =
        ({ client with connectivity } : Client κ ω).enter .idle ∧
      connectivity.isAlive = false ∧
      connectivity.moveTo .disconnected = client.connectivity.moveTo .disconnected := by
  have none := poised.channel_none notLive
  have down := poised.down none
  have finished : client.finish behave = client := by
    rw [finish, prologueSteps_eq_zero (poised.complete none)]
    rfl
  unfold stop
  rw [finished]
  dsimp only
  split
  · rename_i idle
    exact ⟨client.connectivity, by rw [enter, ← idle], down, rfl⟩
  · exact absurd ‹_› notLive
  · have moved := client.connectivity.state_moveTo .disconnected
    refine ⟨client.connectivity.moveTo .disconnected, by rw [wentDown_still .stopped down]; rfl,
      ?_, ?_⟩
    · exact congrArg LinkState.isConnected moved
    · rw [Connectivity.moveTo, if_pos moved]

/-- A driver with a session stops once its prologue is over, or is lost before, and in both cases
the link goes down and everybody is told. -/
theorem stop_live (calm : behave.Calm) (poised : client.Poised)
    (live : client.link.phase = .live) :
    ∃ quiet calls link, client.Muted quiet ∧
      client.stop behave = { quiet.toldDown behave with calls, link } ∧
      link.phase = .idle ∧ link.channel = none ∧ link.prologue = .complete ∧
      (quiet.toldDown behave).calls.Together calls := by
  have up : client.isAlive = true := by rw [poised.up]; exact poised.held live
  rcases finish_goes calm poised.begun with goesOn | lost
  · have upThen := goesOn.isAlive.trans up
    obtain ⟨link, finished, phase, -⟩ := goesOn
    have muted := (client.finish behave).muted_detach
    have told := toldDown_calm calm ((client.finish behave).detach.moveTo .disconnected)
    have stopped : client.stop behave =
        (((client.finish behave).detach.moveTo .disconnected).toldDown behave).enter .idle := by
      have liveThen : (client.finish behave).link.phase = .live := by
        rw [finished]
        exact phase.trans live
      unfold stop
      simp only [liveThen]
      exact endSession_stopped upThen
    refine ⟨_, _, _, ?_, stopped, rfl, ?_, ?_, .inl rfl⟩
    · rw [finished] at muted ⊢
      exact muted.of_link
    · show (toldDown behave _).link.channel = none
      rw [← Option.not_isSome_iff_eq_none, told.channel_isSome, muted.channel]
      simp
    · exact told.prologue.trans muted.complete
  · obtain ⟨phase, channel, complete, state⟩ := lost.waits calm
    obtain ⟨-, quiet, muted, result⟩ := lost
    have down : (client.finish behave).isAlive = false := congrArg LinkState.isConnected state
    have stopped : client.stop behave =
        ((client.finish behave).moveTo .disconnected).enter .idle := by
      unfold stop
      simp only [phase]
      rw [wentDown_still .stopped down]
    have same : (client.finish behave).moveTo .disconnected = client.finish behave := by
      show { client.finish behave with
        connectivity := (client.finish behave).connectivity.moveTo .disconnected } = _
      rw [connectivity_moveTo_of_state state]
    obtain ⟨calls, failed, together⟩ := failLost_link .dropped true (quiet.toldDown behave)
    rw [same] at stopped
    refine ⟨quiet, calls, (client.stop behave).link, muted, ?_, ?_, ?_, ?_, together⟩
    · rw [stopped, result, failed]
      rfl
    all_goals rw [stopped]
    · rfl
    · exact channel
    · exact complete

/-- **What closing a client comes to**, wherever its driver is: the link goes down, the observers are
told if it was up, and only then every call that waits fails; nothing else changes. -/
theorem close_form (calm : behave.Calm) (poised : client.Poised) :
    ∃ quiet link, client.Muted quiet ∧
      link.phase = .idle ∧ link.channel = none ∧ link.backlog = [] ∧ link.prologue = .complete ∧
      client.close behave = { client.informed behave quiet with
        link
        calls := ((client.informed behave quiet).calls.rejectAll .connectionClosed).1 } := by
  by_cases live : client.link.phase = .live
  · have up : client.isAlive = true := by rw [poised.up]; exact poised.held live
    obtain ⟨quiet, calls, link, muted, stopped, phase, channel, complete, together⟩ :=
      stop_live calm poised live
    have state := (toldDown_calm calm quiet).state.trans muted.state
    have down : (client.stop behave).isAlive = false := by
      rw [stopped]
      exact congrArg LinkState.isConnected state
    refine ⟨quiet, { link with backlog := [] }, muted, phase, channel, rfl, complete, ?_⟩
    have same := connectivity_moveTo_of_state state
    rw [close_of_stop down, stopped, informed, if_pos up]
    simp only [same, together.rejectAll]
  · have none := poised.channel_none live
    obtain ⟨connectivity, stopped, down, moved⟩ := stop_still behave poised live
    have isDown : (client.stop behave).isAlive = false := by
      rw [stopped]
      exact down
    refine ⟨client.moveTo .disconnected, { client.link with phase := .idle, backlog := [] },
      ⟨rfl, none, poised.complete none⟩, rfl, none, rfl, poised.complete none, ?_⟩
    rw [close_of_stop isDown, stopped, informed, if_neg (by simp [poised.down none])]
    show { client with connectivity := connectivity.moveTo .disconnected, link := _, calls := _ } = _
    rw [moved]
    rfl

end Client

end Switchboard
