/-
# Switchboard.Proofs.Lifecycle -- from connecting to closing, and again

What one event does to a client its tasks do in turns.  A driver takes steps, and
others act in between (`Driver.Leads`): so a session goes on or ends
(`Client.Drives.of_session`), an attempt fails, and a driver that has been told to
stop comes to its end (`Driver.Leads.halts`).  Turns of a rig are the same for the
driver in it (`Driver.Leads.run`).  Between events the driver of a rig is at the stage
of its client's phase (`Rig.Stands`).

* `Rig.Stands.step`: what one event does, turns do;
* `lifecycle_invariant`: however turns are taken, the tasks of a client are in order
  (`Rig.Orderly`), and while no close begins during another, its link is in step with
  its driver (`Rig.InStep`); and every run of a client is made of turns;
* `link_out_of_step`: what is excepted there does happen.
-/
import Mathlib
import Switchboard.Proofs.Paths
import Switchboard.Proofs.Rigs

namespace Switchboard

set_option autoImplicit false

variable {κ ω : Type} {behave : Behaviour κ ω}

/-! ## Acts -/

namespace Client

variable {client after : Client κ ω}

/-- Whether acts lead from a client to another. -/
def ActsTo (before after : Client κ ω) : Prop := ∃ acts, after = before.performAll acts

namespace ActsTo

theorem refl (client : Client κ ω) : client.ActsTo client := ⟨[], rfl⟩

theorem trans {middle : Client κ ω} (first : client.ActsTo middle) (second : middle.ActsTo after) :
    client.ActsTo after := by
  obtain ⟨acts, rfl⟩ := first
  obtain ⟨more, rfl⟩ := second
  exact ⟨acts ++ more, (performAll_append acts more client).symm⟩

theorem calm (acts : client.ActsTo after) : client.Calm after := by
  obtain ⟨acts, rfl⟩ := acts
  have acted : Acted .free client (client.performAll acts) :=
    performAll_acted (fun _ _ => trivial) client
  exact acted.calm

end ActsTo

theorem notifyAll_actsTo (within : behave.Within fun _ => True) (signal : Signal)
    (client : Client κ ω) (entries : List (HandleId × κ)) :
    client.ActsTo (notifyAll behave signal client entries) := by
  induction entries generalizing client with
  | nil => exact .refl client
  | cons entry entries ih =>
      obtain ⟨acts, -, does⟩ := within entry.2 signal client
      exact ActsTo.trans ⟨acts, does⟩ (ih _)

end Client

/-! ## What a driver does, while others act -/

namespace Driver

/-- From a stage and a client to others, by steps of a driver and acts of anybody. -/
inductive Leads (signalled : Bool) (stage : Stage) (client : Client κ ω) :
    Stage → Client κ ω → Prop where
  | still : Leads signalled stage client stage client
  | act {next : Stage} {after : Client κ ω} (leads : Leads signalled stage client next after)
      (act : Client.Act κ ω) : Leads signalled stage client next (act.perform after)
  | step {next last : Stage} {after final : Client κ ω}
      (leads : Leads signalled stage client next after) (step : Step)
      (taken : (⟨next, signalled⟩ : Driver).take step after = (last, final)) :
      Leads signalled stage client last final

namespace Leads

variable {signalled : Bool} {stage next last : Stage} {client after final : Client κ ω}

theorem trans (first : Leads signalled stage client next after)
    (second : Leads signalled next after last final) : Leads signalled stage client last final := by
  induction second with
  | still => exact first
  | act _ act ih => exact ih.act act
  | step _ step taken ih => exact ih.step step taken

theorem acts (leads : Leads signalled stage client next after) (acts : after.ActsTo final) :
    Leads signalled stage client next final := by
  obtain ⟨acts, rfl⟩ := acts
  induction acts generalizing after with
  | nil => exact leads
  | cons act acts ih => exact ih (leads.act act)

/-! ### The link goes down -/

/-- The link is lowered, and whoever is told of it acts; then the policy decides. -/
theorem lowers (within : behave.Within fun _ => True) (why : Client.SessionEnd) (ran : Bool)
    (client : Client κ ω) :
    ∃ told : Client κ ω,
      Leads signalled (.ending why ran) client (.lowered why client.isAlive) told ∧
        told.state = .disconnected ∧
          told.failLost why client.isAlive = client.wentDown behave why := by
  have lowered : Leads signalled (.ending why ran) client (.lowered why client.isAlive)
      (client.moveTo .disconnected) := Leads.still.step .lower rfl
  have down := client.state_moveTo .disconnected
  cases alive : client.isAlive with
  | false =>
      refine ⟨_, alive ▸ lowered, down, ?_⟩
      rw [Client.wentDown_still why alive]
      simp [Client.failLost]
  | true =>
      have told := Client.notifyAll_actsTo within (.alive false) (client.moveTo .disconnected)
        client.connectivity.observers
      refine ⟨_, alive ▸ lowered.acts told, told.calm.state.trans down, ?_⟩
      rw [Client.wentDown_told behave why alive]
      simp [Client.failLost]

/-- A driver whose link was lost waits before its next attempt. -/
theorem retries (within : behave.Within fun _ => True) (ran : Bool) (client : Client κ ω) :
    Leads false (.ending .dropped ran) client .waiting
      (client.wentDown behave .dropped).awaitRetry := by
  obtain ⟨told, lowered, -, fails⟩ := lowers within .dropped ran client
  refine lowered.step .judge ?_
  rw [← fails]
  simp [take]

/-- A driver that is leaving finishes, and leaves the link down. -/
theorem finishes (leads : Leads signalled stage client .leaving after)
    (down : after.state = .disconnected) :
    Leads signalled stage client .finished (after.enter .idle) := by
  have same : after.moveTo .disconnected = after := by
    rw [← down, Client.moveTo, Client.state, Connectivity.moveTo_same]
  exact leads.step .leave (congrArg (fun client => (Stage.finished, client.enter .idle)) same)

/-- A driver that stops lowers the link, and finishes. -/
theorem leaves (within : behave.Within fun _ => True) (ran : Bool) (client : Client κ ω) :
    Leads true (.ending .stopped ran) client .finished
      ((client.wentDown behave .stopped).enter .idle) := by
  obtain ⟨told, lowered, down, fails⟩ := lowers within .stopped ran client
  rw [← fails]
  refine (lowered.step .judge ?_).finishes
    ((Client.Steadfast.failLost .stopped client.isAlive told).state.trans down)
  simp [take]

end Leads

end Driver

/-! ## What the events of a driver do -/

/-- The stage that a driver has come to in a phase. -/
def Phase.stage : Phase → Stage
  | .idle => .finished
  | .starting => .starting
  | .attempting => .attempting
  | .settling => .settling
  | .live => .live
  | .waiting => .waiting

theorem Phase.stage_isResting (phase : Phase) : phase.stage.isResting = true := by
  cases phase <;> rfl

namespace Client

variable {client after : Client κ ω}

/-- Whether a driver that has not been told to stop leads from a client to another, from the stage
of the one's phase to that of the other's. -/
def Drives (before after : Client κ ω) : Prop :=
  Driver.Leads false before.link.phase.stage before after.link.phase.stage after

theorem Drives.trans {middle : Client κ ω} (first : client.Drives middle)
    (second : middle.Drives after) : client.Drives after :=
  Driver.Leads.trans first second

/-- A step of a session, after which it goes on or has ended. -/
theorem Drives.of_session (within : behave.Within fun _ => True)
    (live : client.link.phase = .live) {step : Driver.Step} {result : Client κ ω × Bool}
    (taken : (⟨.live, false⟩ : Driver).take step client = Driver.onwards result)
    (steadfast : client.Steadfast result.1) : client.Drives (goOn behave result) := by
  obtain ⟨next, goes⟩ := result
  have first := Driver.Leads.still.step step taken
  unfold Drives
  cases goes with
  | true =>
      rw [goOn, steadfast.phase, live]
      exact first
  | false =>
      rw [live]
      exact first.trans (.retries within true next.detach)

theorem proceed_drives (within : behave.Within fun _ => True) (live : client.link.phase = .live) :
    client.Drives (client.proceed behave) := by
  have taken : (⟨.live, false⟩ : Driver).take .proceed client =
      Driver.onwards client.tryProceed := rfl
  exact proceed_eq behave client ▸ .of_session within live taken (.tryProceed client)

theorem emit_drives (within : behave.Within fun _ => True) (live : client.link.phase = .live) :
    client.Drives (client.emit behave) := by
  have taken : (⟨.live, false⟩ : Driver).take .emit client =
      Driver.onwards client.tryEmit := rfl
  exact emit_eq behave client ▸ .of_session within live taken (.tryEmit client)

theorem attempt_drives (poised : client.Poised)
    (ready : client.link.phase = .starting ∨ client.link.phase = .waiting) :
    client.Drives (client.attempt behave) := by
  rw [attempt_eq behave poised ready]
  have dials : Driver.Leads false .starting client .attempting
      ((client.moveTo .connecting).enter .attempting) := Driver.Leads.still.step .dial rfl
  unfold Drives
  rcases ready with phase | phase
  · rw [phase]
    exact dials
  · rw [phase]
    exact (Driver.Leads.still.step .wake rfl).trans dials

theorem attemptFailed_drives (within : behave.Within fun _ => True)
    (attempting : client.link.phase = .attempting) : client.Drives (client.attemptFailed behave) := by
  unfold Drives
  rw [attempting]
  exact (Driver.Leads.still.step .failed rfl).trans (.retries within false client)

theorem opened_drives (attempting : client.link.phase = .attempting) :
    client.Drives client.opened := by
  unfold Drives
  rw [attempting]
  exact Driver.Leads.still.step .opened rfl

theorem settled_drives (within : behave.Within fun _ => True) (poised : client.Poised)
    (settling : client.link.phase = .settling) (room : Option Nat) :
    client.Drives (client.settled behave room) := by
  have told := notifyAll_actsTo within (.alive true)
    ((client.openSession room).moveTo .connected) client.connectivity.observers
  have raised : Driver.Leads false .settling client .live
      ((client.openSession room).moveTo .connected) :=
    (Driver.Leads.still.step (.settled room) rfl).step .raise rfl
  unfold Drives
  rw [settled_eq behave poised settling, told.calm.phase, settling]
  exact raised.acts told

theorem hear_drives (within : behave.Within fun _ => True) (pumping : client.isPumping = true)
    (text : String) : client.Drives (client.hear behave text) := by
  have live := (client.isPumping_iff.1 pumping).1
  have taken : (⟨.live, false⟩ : Driver).take (.hear text) client =
      Driver.onwards (client.tryHear text) := if_pos pumping
  by_cases push : ∃ topic data, Inbound.decode text = .ok (.push topic data)
  · obtain ⟨topic, data, decoded⟩ := push
    have told : client.ActsTo (client.hear behave text) := by
      simp only [hear, route, decoded]
      exact notifyAll_actsTo within _ client _
    have heard : Driver.Leads false .live client .live client :=
      Driver.Leads.still.step (.hear text) (by simp [taken, tryHear, decoded, Driver.onwards])
    unfold Drives
    rw [told.calm.phase, live]
    exact heard.acts told
  · rw [hear_eq behave client fun topic data decoded => push ⟨topic, data, decoded⟩]
    exact .of_session within live taken (.tryHear text client)

theorem lose_drives (within : behave.Within fun _ => True) (pumping : client.isPumping = true) :
    client.Drives (client.lose behave) := by
  have live := (client.isPumping_iff.1 pumping).1
  have lost : Driver.Leads false .live client (.ending .dropped true) client.detach :=
    Driver.Leads.still.step .lose (if_pos pumping)
  unfold Drives
  rw [live]
  exact lost.trans (.retries within true client.detach)

/-- What an event does that neither connects nor stops the driver is done by acts, or by the driver
that there is. -/
theorem step_does (within : behave.Within fun _ => True) (poised : client.Poised)
    (event : Event κ ω) (noShutdown : event ≠ .shutdown) (noClose : event ≠ .close)
    (noConnect : ∀ runtime address, event ≠ .connect runtime address) :
    client.ActsTo (event.step behave client) ∨
      client.link.phase ≠ .idle ∧ client.Drives (event.step behave client) := by
  -- an event that cannot happen at the moment changes nothing
  have provided : ∀ {condition : Prop} [Decidable condition] {after : Client κ ω},
      (condition → client.link.phase ≠ .idle ∧ client.Drives after) →
        client.ActsTo (if condition then after else client) ∨
          client.link.phase ≠ .idle ∧ client.Drives (if condition then after else client) := by
    intro condition _ after drives
    split
    · exact .inr (drives ‹_›)
    · exact .inl (.refl client)
  cases event with
  | act deed => exact .inl ⟨[deed], rfl⟩
  | observe callback =>
      obtain ⟨acts, -, does⟩ := within callback (.alive (client.enlist callback).1.isAlive)
        (client.enlist callback).1
      exact .inl ⟨.enlist callback :: acts, does⟩
  | unsubscribeAll handles => exact .inl ⟨_, client.unsubscribeAll_eq handles⟩
  | dispose scope => exact .inl ⟨_, client.unsubscribeAll_eq scope.handles⟩
  | collect => exact .inl ⟨_, client.concludeAll_eq _⟩
  | connect runtime address => exact absurd rfl (noConnect runtime address)
  | close => exact absurd rfl noClose
  | shutdown => exact absurd rfl noShutdown
  | attempt =>
      refine provided fun ready => ⟨?_, attempt_drives poised ready⟩
      rcases ready with phase | phase <;> simp [phase]
  | attemptFailed =>
      exact provided fun attempting => ⟨by simp [attempting], attemptFailed_drives within attempting⟩
  | opened => exact provided fun attempting => ⟨by simp [attempting], opened_drives attempting⟩
  | settled room =>
      exact provided fun settling => ⟨by simp [settling], settled_drives within poised settling room⟩
  | proceed =>
      by_cases live : client.link.phase = .live
      · exact .inr ⟨by simp [live], proceed_drives within live⟩
      · have complete := poised.complete (poised.channel_none live)
        exact .inl ⟨[], proceed_complete behave client complete⟩
  | emit =>
      by_cases live : client.link.phase = .live
      · exact .inr ⟨by simp [live], emit_drives within live⟩
      · have none := poised.channel_none live
        exact .inl ⟨[], by simp [Event.step, emit, none, performAll]⟩
  | hear text =>
      exact provided fun pumping =>
        ⟨by simp [(client.isPumping_iff.1 pumping).1], hear_drives within pumping text⟩
  | lose =>
      exact provided fun pumping =>
        ⟨by simp [(client.isPumping_iff.1 pumping).1], lose_drives within pumping⟩

/-! ## Stopping -/

/-- Once the prologue is over, the client is poised. -/
theorem finish_poised (within : behave.Within fun _ => True) (poised : client.Poised) :
    (client.finish behave).Poised ∧ (client.finish behave).link.prologue = .complete := by
  have free : behave.Within Licence.free.act := within
  exact ⟨(finish_arrives free poised).poised poised, finish_complete free poised⟩

theorem finish_drives (within : behave.Within fun _ => True) (poised : client.Poised) :
    client.Drives (client.finish behave) := by
  unfold finish
  generalize client.prologueSteps = steps
  induction steps generalizing client with
  | zero => exact Driver.Leads.still
  | succ steps ih =>
      have next : Arrives .free client (client.proceed behave) := proceed_arrives within poised
      refine Drives.trans ?_ (ih (next.poised poised))
      by_cases live : client.link.phase = .live
      · exact proceed_drives within live
      · rw [proceed_complete behave client (poised.complete (poised.channel_none live))]
        exact Driver.Leads.still

/-- The client whose driver has been stopped where it is. -/
def halt (behave : Behaviour κ ω) (client : Client κ ω) : Client κ ω :=
  match client.link.phase with
  | .idle => client
  | .live => client.endSession behave .stopped
  | _ => (client.wentDown behave .stopped).enter .idle

theorem halt_phase (behave : Behaviour κ ω) (client : Client κ ω) :
    (client.halt behave).link.phase = .idle := by
  unfold halt
  split
  · assumption
  · rfl
  · rfl

/-- A close stops the driver where it is once the prologue is over, and settles the rest. -/
theorem close_settles (within : behave.Within fun _ => True) (poised : client.Poised) :
    client.close behave = Rig.settle [] ((client.finish behave).halt behave) := by
  obtain ⟨stopped, idle⟩ : Arrives .free client (client.stop behave) ∧
      (client.stop behave).link.phase = .idle := stop_arrives within poised
  rw [close_eq behave (stopped.poised poised) idle, Rig.settle]
  exact (congrArg (fun lowered => (rejectAll .connectionClosed lowered).1) (ite_self _)).symm

end Client

/-- A driver that has been told to stop comes to its end. -/
theorem Driver.Leads.halts {client : Client κ ω} (within : behave.Within fun _ => True)
    (poised : client.Poised) (complete : client.link.prologue = .complete) :
    Driver.Leads true client.link.phase.stage client .finished (client.halt behave) := by
  -- a driver without a session has nobody to tell
  have quietly : client.link.phase ≠ .live →
      Driver.Leads true .leaving client .finished
        ((client.wentDown behave .stopped).enter .idle) := by
    intro phase
    rw [Client.wentDown_still .stopped (poised.down (poised.channel_none phase))]
    exact Driver.Leads.still.step .leave rfl
  unfold Client.halt
  cases phase : client.link.phase with
  | idle => exact .still
  | starting =>
      have leaves : Driver.Leads true .starting client .leaving client :=
        Driver.Leads.still.step .dial rfl
      exact leaves.trans (quietly (by simp [phase]))
  | attempting =>
      exact (Driver.Leads.still.step .stop rfl).trans (.leaves within false client)
  | settling =>
      exact (Driver.Leads.still.step .stop rfl).trans (.leaves within false client)
  | live =>
      have stopped : Driver.Leads true .live client (.ending .stopped true) client.detach :=
        Driver.Leads.still.step .stop
          (if_pos (by simp [client.isPumping_iff.2 ⟨phase, complete⟩]))
      exact stopped.trans (.leaves within true client.detach)
  | waiting =>
      have leaves : Driver.Leads true .waiting client .leaving client :=
        Driver.Leads.still.step .stop rfl
      exact leaves.trans (quietly (by simp [phase]))

/-! ## Turns -/

namespace Rig

variable {rig : Rig κ ω} {client after : Client κ ω}

theorem run_acts (acts : List (Client.Act κ ω)) (rig : Rig κ ω) :
    rig.run (acts.map .act) = { rig with client := rig.client.performAll acts } := by
  induction acts generalizing rig with
  | nil => rfl
  | cons act acts ih => exact ih _

/-- What a driver leads to while others act, turns lead to. -/
theorem run_leads {signalled : Bool} {stage next : Stage}
    (leads : Driver.Leads signalled stage rig.client next after) {place : Nat}
    (found : rig.drivers[place]? = some ⟨stage, signalled⟩) :
    ∃ turns, (∀ turn ∈ turns, turn.manages = false) ∧ rig.run turns =
      { rig with client := after, drivers := rig.drivers.set place ⟨next, signalled⟩ } := by
  obtain ⟨less, here⟩ := List.getElem?_eq_some_iff.1 found
  have also : ∀ {turns : List (Turn κ ω)} {last : Turn κ ω},
      (∀ turn ∈ turns, turn.manages = false) → last.manages = false →
        ∀ turn ∈ turns ++ [last], turn.manages = false := by
    intro turns last others other turn member
    rcases List.mem_append.1 member with before | same
    · exact others turn before
    · exact List.mem_singleton.1 same ▸ other
  induction leads with
  | still => exact ⟨[], by simp, by simp [run, ← here]⟩
  | act _ act ih =>
      obtain ⟨turns, others, reached⟩ := ih
      exact ⟨turns ++ [.act act], also others rfl, by rw [run_append, reached]; rfl⟩
  | step _ step taken ih =>
      obtain ⟨turns, others, reached⟩ := ih
      refine ⟨turns ++ [.drive place step], also others rfl, ?_⟩
      rw [run_append, reached]
      simp [run, turn, drive, List.getElem?_set_self less, taken]

/-- Where nobody connects, nobody does so while a close is under way. -/
theorem isApart_of_manages {turns : List (Turn κ ω)}
    (others : ∀ turn ∈ turns, turn.manages = false) (rig : Rig κ ω) :
    rig.isApart Turn.connects turns = true :=
  isApart_of_none (fun turn member => Turn.connects_of_manages (others turn member)) rig

/-- Between two events no close is under way, and the driver, if there is one, is kept, has not been
told to stop, and is at the stage of the client's phase. -/
structure Stands (rig : Rig κ ω) (client : Client κ ω) : Prop where
  same : rig.client = client
  free : rig.closing = []
  driven : client.link.phase ≠ .idle → ∃ place, rig.slot = some place ∧
    rig.drivers[place]? = some ⟨client.link.phase.stage, false⟩

/-- Whether turns lead to where a client stands, along which nobody connects during a close. -/
def Comes (rig : Rig κ ω) (client : Client κ ω) : Prop :=
  ∃ turns, rig.isApart Turn.connects turns = true ∧ (rig.run turns).Stands client

theorem Comes.of_turns {turns : List (Turn κ ω)} (patient : rig.isApart Turn.connects turns = true)
    (comes : (rig.run turns).Comes client) : rig.Comes client := by
  obtain ⟨more, later, stands⟩ := comes
  exact ⟨turns ++ more, isApart_append.2 ⟨patient, later⟩, by rwa [run_append]⟩

namespace Stands

theorem start (options : Options) (token : Option Json) (candidate : Nat → CorrelationId)
    (desk : ω) : (Rig.start options token candidate desk : Rig κ ω).Stands
      (.start options token candidate desk) where
  same := rfl
  free := rfl
  driven running := absurd rfl running

theorem acts (stands : rig.Stands client) (acts : client.ActsTo after) : rig.Comes after := by
  have calm := acts.calm
  obtain ⟨acts, rfl⟩ := acts
  refine ⟨acts.map .act, isApart_of_none (fun turn member => ?_) rig, ?_⟩
  · obtain ⟨act, -, rfl⟩ := List.mem_map.1 member
    rfl
  rw [run_acts, stands.same]
  refine ⟨rfl, stands.free, fun running => ?_⟩
  rw [calm.phase] at running ⊢
  exact stands.driven running

theorem drives (stands : rig.Stands client) (running : client.link.phase ≠ .idle)
    (drives : client.Drives after) : rig.Comes after := by
  obtain ⟨rfl, free, driven⟩ := stands
  obtain ⟨place, kept, found⟩ := driven running
  obtain ⟨turns, others, reached⟩ := run_leads drives found
  refine ⟨turns, isApart_of_manages others rig, ?_⟩
  rw [reached]
  exact ⟨rfl, free, fun _ =>
    ⟨place, kept, List.getElem?_set_self (List.getElem?_eq_some_iff.1 found).1⟩⟩

theorem connect (stands : rig.Stands client) (sound : rig.Sound) (runtime : Bool)
    (address : String) : rig.Comes (client.connect runtime address).1 := by
  obtain ⟨rfl, free, driven⟩ := stands
  have same := congrArg Prod.fst (sound.connect_eq free runtime address)
  refine ⟨[.connect runtime address], isApart_cons.2 ⟨fun _ => free, rfl⟩, ?_⟩
  show (rig.connect runtime address).1.Stands _
  rw [← same]
  rcases rig.connect_cases runtime address with ⟨error, refused⟩ | ⟨-, endpoint, launches⟩
  · rw [refused]
    exact ⟨rfl, free, driven⟩
  · rw [launches]
    exact ⟨rfl, free, fun _ => ⟨_, rfl, List.getElem?_concat_length⟩⟩

/-- The driver finishes the prologue of its session, if there is one. -/
theorem finish (stands : rig.Stands client) (within : behave.Within fun _ => True)
    (poised : client.Poised) : rig.Comes (client.finish behave) := by
  by_cases idle : client.link.phase = .idle
  · have complete := poised.complete (poised.channel_none (by simp [idle]))
    refine ⟨[], rfl, ?_⟩
    rw [Client.finish, Client.prologueSteps_eq_zero complete]
    exact stands
  · exact stands.drives idle (Client.finish_drives within poised)

/-- The driver is told to stop, comes to its end, and the close goes through. -/
theorem halt (stands : rig.Stands client) (sound : rig.Sound)
    (within : behave.Within fun _ => True) (poised : client.Poised)
    (complete : client.link.prologue = .complete) :
    rig.Comes (settle [] (client.halt behave)) := by
  obtain ⟨rfl, free, driven⟩ := stands
  have closes : rig.run [.close] = rig.close := rfl
  have begun : rig.close.closing = [rig.slot] := by simp [close, free]
  -- the driver comes to its end
  obtain ⟨turns, others, last, reached, client, closing, ended⟩ :
      ∃ turns : List (Turn κ ω), (∀ turn ∈ turns, turn.manages = false) ∧
        ∃ last, rig.close.run turns = last ∧ last.client = rig.client.halt behave ∧
          last.closing = [rig.slot] ∧ rig.slot.any last.runsAt = false := by
    by_cases idle : rig.client.link.phase = .idle
    · refine ⟨[], by simp, rig.close, rfl, by simp [Client.halt, idle, close], begun, ?_⟩
      rw [funext rig.runsAt_close, sound.any_slot free]
      simp [Link.isRunning, idle]
    · obtain ⟨place, kept, found⟩ := driven idle
      have told : rig.close.drivers[place]? = some ⟨rig.client.link.phase.stage, true⟩ := by
        simp [close, kept, found]
      have halts : Driver.Leads true rig.client.link.phase.stage rig.close.client .finished
          (rig.client.halt behave) := .halts within poised complete
      obtain ⟨turns, others, reached⟩ := run_leads halts told
      refine ⟨turns, others, _, reached, rfl, begun, ?_⟩
      have less := (List.getElem?_eq_some_iff.1 told).1
      simp [kept, runsAt, stageAt, List.getElem?_set_self less, Stage.isRunning]
  refine Comes.of_turns (rfl : rig.isApart Turn.connects [.close] = true)
    (Comes.of_turns (isApart_of_manages others _) ⟨[.closed 0 []], rfl, ?_⟩)
  rw [closes, reached]
  have closed : last.run [.closed 0 []] =
      { last with client := settle [] last.client, closing := [] } := by
    simp [run, turn, closing, ended]
  rw [closed, client]
  have phase := (settle_link [] (rig.client.halt behave)).2.trans (rig.client.halt_phase behave)
  exact ⟨rfl, rfl, fun running => absurd phase running⟩

/-- What one event does, turns do. -/
theorem step (stands : rig.Stands client) (sound : rig.Sound)
    (within : behave.Within fun _ => True) (poised : client.Poised)
    {event : Client.Event κ ω} (noShutdown : event ≠ .shutdown) :
    rig.Comes (event.step behave client) := by
  by_cases closes : event = .close
  · subst closes
    obtain ⟨turns, patient, finished⟩ := stands.finish within poised
    obtain ⟨poised', complete⟩ := Client.finish_poised within poised
    rw [Client.Event.step, Client.close_settles within poised]
    exact Comes.of_turns patient (finished.halt (sound.run patient) within poised' complete)
  by_cases connects : ∃ runtime address, event = .connect runtime address
  · obtain ⟨runtime, address, rfl⟩ := connects
    exact stands.connect sound runtime address
  · rcases Client.step_does within poised event noShutdown closes
      fun runtime address same => connects ⟨runtime, address, same⟩ with acts | ⟨running, drives⟩
    · exact stands.acts acts
    · exact stands.drives running drives

/-- What a run does, turns do. -/
theorem run (stands : rig.Stands client) (sound : rig.Sound)
    (within : behave.Within fun _ => True) (poised : client.Poised)
    {events : List (Client.Event κ ω)} (noShutdown : .shutdown ∉ events) :
    rig.Comes (client.run behave events) := by
  induction events generalizing rig client with
  | nil => exact ⟨[], rfl, stands⟩
  | cons event events ih =>
      rw [List.mem_cons, not_or] at noShutdown
      obtain ⟨turns, patient, stepped⟩ := stands.step sound within poised (Ne.symm noShutdown.1)
      have arrives : Client.Arrives .free client (event.step behave client) :=
        Client.step_arrives within poised (Client.within_free event)
      exact Comes.of_turns patient
        (ih stepped (sound.run patient) (arrives.poised poised) noShutdown.2)

/-- A rig that stands is at rest, and no driver is about to stop. -/
theorem stage_eq (stands : rig.Stands client) (sound : rig.Sound) (place : Nat) :
    rig.stageAt place = .finished ∨ rig.stageAt place = client.link.phase.stage := by
  by_cases runs : rig.runsAt place = true
  · right
    have running : client.link.phase ≠ .idle := by
      have some := sound.isRunning_iff.2 ⟨place, runs⟩
      rw [stands.same] at some
      simpa [Link.isRunning] using some
    obtain ⟨kept, slot, found⟩ := stands.driven running
    have here : kept = place := by
      simpa [slot] using sound.slot_of_runs stands.free runs
    exact stageAt_of_getElem? (here ▸ found)
  · left
    revert runs
    rw [runsAt]
    cases rig.stageAt place <;> simp [Stage.isRunning]

theorem isResting (stands : rig.Stands client) (sound : rig.Sound) (place : Nat) :
    (rig.stageAt place).isResting = true := by
  rcases stands.stage_eq sound place with ended | there
  · rw [ended]
    rfl
  · rw [there]
    exact client.link.phase.stage_isResting

/-- Between events the link is up exactly if there is a channel. -/
theorem plugged (stands : rig.Stands client) (sound : rig.Sound) :
    client.state = .connected ↔ client.link.channel.isSome = true := by
  have nobodyStops : ¬ ∃ place, rig.stageAt place = .ending .stopped true := by
    rintro ⟨place, stops⟩
    rcases stands.stage_eq sound place with ended | there
    · rw [ended] at stops
      cases stops
    · rw [there] at stops
      revert stops
      cases client.link.phase <;> simp [Phase.stage]
  have level := (sound.level stands.free).plugged sound (stands.isResting sound)
  rwa [stands.same, or_iff_left nobodyStops] at level

end Stands

/-! ## The lifecycle -/

/-- What holds of the tasks about a link at any time. -/
structure Orderly (rig : Rig κ ω) : Prop where
  /-- At most one driver runs. -/
  sole : ∀ first second, rig.runsAt first = true → rig.runsAt second = true → first = second
  /-- While one runs, connecting once more is refused and changes nothing.  A close has come to its
  end before anybody connects. -/
  refused : ∀ place runtime address endpoint, rig.runsAt place = true → rig.closing = [] →
    Endpoint.parse address = .ok endpoint → endpoint.isSocket = true →
      rig.connect runtime address =
        (rig, .error (if runtime then .alreadyConnected else Client.noRuntime))
  /-- Without a driver the link is down, and there is no channel. -/
  down : (∀ place, rig.runsAt place = false) →
    rig.client.state = .disconnected ∧ rig.client.link.channel = none

/-- What holds of a link that no close has lowered while its driver ran. -/
structure InStep (rig : Rig κ ω) : Prop where
  /-- At rest the link is up if there is a channel, and while a driver that has been told to stop
  waits for its socket to close, and not otherwise. -/
  plugged : (∀ place, (rig.stageAt place).isResting = true) →
    (rig.client.state = .connected ↔ rig.client.link.channel.isSome = true ∨
      ∃ place, rig.stageAt place = .ending .stopped true)
  /-- Whatever happens next, the state is as before or changes along an edge. -/
  edge : ∀ turn, rig.client.state.Moves (rig.turn turn).client.state

theorem Sound.orderly (sound : rig.Sound) : rig.Orderly where
  sole := sound.sole
  refused _ runtime _ _ runs free good socket := sound.connect_refused free runs runtime good socket
  down nobody := sound.down fun place => Bool.eq_false_iff.1 (nobody place)

/-- **A link stays in step with its driver** while no close begins during another, and is so again
once none is under way. -/
theorem Sound.inStep (sound : rig.Sound) (free : rig.closing = []) {turns : List (Turn κ ω)}
    (patient : rig.isApart Turn.connects turns = true)
    (apart : (rig.run turns).closing = [] ∨ rig.isApart Turn.closes turns = true) :
    (rig.run turns).InStep := by
  have later : (rig.run turns).Sound := sound.run patient
  have none : rig.closing.length ≤ 1 := by simp [free]
  obtain ⟨level, one⟩ : (rig.run turns).Level ∧ (rig.run turns).closing.length ≤ 1 := by
    rcases apart with again | apart
    · exact ⟨later.level again, by simp [again]⟩
    · exact ⟨(sound.level free).run sound none patient apart, length_closing_run rig none apart⟩
  exact ⟨level.plugged later, level.edge later one⟩

/-- **The lifecycle.**  However drivers, callers and callbacks take turns, and whoever connects and
closes, the tasks about the link are in order, provided that nobody connects while a close is under
way.  The link is in step with its driver, unless a close has begun while another was under way, and
one still is.  Every run of a client is made of such turns, and after each of its events they are at
rest: so the same holds of the client. -/
theorem lifecycle_invariant (options : Options) (token : Option Json)
    (candidate : Nat → CorrelationId) (desk : ω) :
    let begins : Rig κ ω := .start options token candidate desk
    (∀ turns, begins.isApart Turn.connects turns = true →
      (begins.run turns).Orderly ∧
        ((begins.run turns).closing = [] ∨ begins.isApart Turn.closes turns = true →
          (begins.run turns).InStep)) ∧
      ∀ (behave : Behaviour κ ω) (events : List (Client.Event κ ω)),
        (behave.Within fun _ => True) → .shutdown ∉ events →
          let client := begins.client.run behave events
          (∃ turns, begins.isApart Turn.connects turns = true ∧
            (begins.run turns).client = client ∧ (begins.run turns).closing = [] ∧
            (∀ place, ((begins.run turns).stageAt place).isResting = true) ∧
              (client.link.isRunning = true ↔ ∃ place, (begins.run turns).runsAt place = true)) ∧
          (client.link.isRunning = false →
            client.state = .disconnected ∧ client.link.channel = none) ∧
          (client.state = .connected ↔ client.link.channel.isSome = true) ∧
          ∀ runtime address endpoint, client.link.isRunning = true →
            Endpoint.parse address = .ok endpoint → endpoint.isSocket = true →
              client.connect runtime address =
                (client, .error (if runtime then .alreadyConnected else Client.noRuntime)) := by
  intro begins
  have starts : begins.Sound := .start options token candidate desk
  refine ⟨fun turns patient => ⟨(starts.run patient).orderly, starts.inStep rfl patient⟩,
    fun behave events within noShutdown => ?_⟩
  intro client
  have poised : begins.client.Poised := Client.start_poised options token candidate desk
  obtain ⟨turns, patient, stands⟩ := (Stands.start options token candidate desk).run starts within
    poised noShutdown
  have sound : (begins.run turns).Sound := starts.run patient
  have same : (begins.run turns).client = client := stands.same
  have running := sound.isRunning_iff
  rw [same] at running
  refine ⟨⟨turns, patient, same, stands.free, stands.isResting sound, running⟩, fun idle => ?_,
    stands.plugged sound, fun runtime address endpoint runs good socket => ?_⟩
  · exact same ▸ sound.down fun place runs => by simp [running.2 ⟨place, runs⟩] at idle
  · obtain ⟨place, runs⟩ := running.1 runs
    rw [← same, ← sound.connect_eq stands.free,
      sound.connect_refused stands.free runs runtime good socket]

/-- A session, and the close that ends it. -/
def once : List (Turn Unit Unit) :=
  [.connect true "ws://host/", .drive 0 .dial, .drive 0 .opened, .drive 0 (.settled none),
    .drive 0 .raise, .act (.subscribe ⟨["orders"]⟩ ()), .drive 0 .proceed, .drive 0 .proceed,
    .drive 0 .proceed, .drive 0 .proceed, .close, .drive 0 .stop, .drive 0 .lower, .drive 0 .judge,
    .drive 0 .leave, .closed 0 []]

/-- Another session after it. -/
def twice : List (Turn Unit Unit) :=
  once ++ [.connect true "ws://host/", .drive 1 .dial, .drive 1 .opened,
    .drive 1 (.settled none), .drive 1 .raise]

/-- Whoever is told something subscribes to a topic. -/
def eager : Behaviour Unit Unit := fun _ _ client =>
  ((client.subscribe ⟨["orders"]⟩ ()).1, .returned)

theorem eager_within : eager.Within fun _ => True := fun _ _ _ =>
  ⟨[.subscribe ⟨["orders"]⟩ ()], fun _ _ => trivial, rfl⟩

/-- An attempt that fails, and a session, while an eager observer looks on. -/
def tried : List (Client.Event Unit Unit) :=
  [.observe (), .connect true "ws://host/", .attempt, .attemptFailed, .attempt, .opened,
    .settled none, .proceed]

theorem lifecycle_invariant_twice :
    let begins : Rig Unit Unit := .start {} none CorrelationId.drawn ()
    let rig := begins.run twice
    let client := begins.client.run eager tried
    begins.isApart Turn.connects twice = true ∧ (begins.run once).client.state = .disconnected ∧
      rig.drivers.length = 2 ∧ rig.runsAt 1 = true ∧
      rig.connect true "ws://host/" = (rig, .error .alreadyConnected) ∧
      rig.client.link.channel.isSome = true ∧ rig.client.state = .connected ∧
      .shutdown ∉ tried ∧ client.link.isRunning = true ∧
      client.link.channel.isSome = true ∧ client.state = .connected ∧
      client.connect true "ws://host/" = (client, .error .alreadyConnected) := by
  dsimp only
  obtain ⟨orderly, runs⟩ := lifecycle_invariant {} none CorrelationId.drawn ()
  have good : Endpoint.parse "ws://host/" = .ok ⟨"ws", "//host/"⟩ := by cbv
  have patient : (Rig.start {} none CorrelationId.drawn () : Rig Unit Unit).isApart Turn.connects
      twice = true := by cbv
  have patientOnce := (isApart_append.1 patient).1
  -- the first driver has finished, and no other was started
  have ended : ((Rig.start {} none CorrelationId.drawn ()).run once).drivers.map (·.stage) =
      [.finished] := by cbv
  have nobody : ∀ place,
      ((Rig.start {} none CorrelationId.drawn ()).run once).runsAt place = false := by
    intro place
    rw [runsAt, stageAt_eq, ended]
    cases place <;> rfl
  have again : (fun rig : Rig Unit Unit =>
      (rig.drivers.map (·.stage), rig.closing, rig.client.link.channel.isSome))
      ((Rig.start {} none CorrelationId.drawn ()).run twice) =
        ([.finished, .live], [], true) := by cbv
  have seen : (fun client : Client Unit Unit => (client.link.isRunning,
      client.link.channel.isSome))
      ((Rig.start {} none CorrelationId.drawn ()).client.run eager tried) = (true, true) := by cbv
  have tries : Client.Event.shutdown ∉ tried := by simp [tried]
  have tidy := orderly twice patient
  obtain ⟨-, -, plugged, refused⟩ := runs eager tried eager_within tries
  refine ⟨patient, ((orderly once patientOnce).1.down nobody).1, ?_⟩
  clear orderly runs ended nobody patient patientOnce
  generalize (Rig.start {} none CorrelationId.drawn ()).run twice = rig at *
  generalize (Rig.start {} none CorrelationId.drawn ()).client.run eager tried = client at *
  simp only [Prod.mk.injEq] at again seen
  obtain ⟨stages, free, channel⟩ := again
  have count : rig.drivers.length = 2 := by simpa using congrArg List.length stages
  have second : rig.runsAt 1 = true := by
    rw [runsAt, stageAt_eq, stages]
    rfl
  have rests : ∀ place, (rig.stageAt place).isResting = true := by
    intro place
    rw [stageAt_eq, stages]
    rcases place with _ | _ | place <;> rfl
  have up := ((tidy.2 (.inl free)).plugged rests).2 (.inl channel)
  exact ⟨count, second, tidy.1.refused 1 true _ _ second free good rfl, channel, up, tries,
    seen.1, seen.2, plugged.2 seen.2, refused true _ _ seen.1 good rfl⟩

/-- A session whose driver notices that it is to stop. -/
def hangingUp : List (Turn Unit Unit) :=
  [.connect true "ws://host/", .drive 0 .dial, .drive 0 .opened, .drive 0 (.settled none),
    .drive 0 .raise, .drive 0 .proceed, .drive 0 .proceed, .drive 0 .proceed, .close,
    .drive 0 .stop]

/-- A close during another: it awaits nobody, and lowers the link of a session that goes on. -/
def overlapping : List (Turn Unit Unit) :=
  [.connect true "ws://host/", .drive 0 .dial, .drive 0 .opened, .drive 0 (.settled none),
    .drive 0 .raise, .close, .close, .closed 1 []]

/-- The same while the socket settles: the driver is about to raise the link that was lowered. -/
def overlappingSooner : List (Turn Unit Unit) :=
  [.connect true "ws://host/", .drive 0 .dial, .drive 0 .opened, .close, .close, .closed 1 [],
    .drive 0 (.settled none)]

/-- **A link may be out of step with its driver.**  While a driver that stops waits for its socket
to close, the link is up without a channel.  After a close during another it may be down with a
channel, and the driver may raise it from where no edge leads up. -/
theorem link_out_of_step :
    let begins : Rig Unit Unit := .start {} none CorrelationId.drawn ()
    let stopping := begins.run hangingUp
    let unawares := begins.run overlapping
    let lowered := begins.run overlappingSooner
    let raised := lowered.turn (.drive 0 .raise)
    (∀ turns ∈ [hangingUp, overlapping, overlappingSooner],
        begins.isApart Turn.connects turns = true) ∧
      ((∀ place, (stopping.stageAt place).isResting = true) ∧ stopping.closing = [some 0] ∧
        stopping.client.state = .connected ∧ stopping.client.link.channel = none) ∧
      ((∀ place, (unawares.stageAt place).isResting = true) ∧ unawares.closing = [some 0] ∧
        unawares.client.state = .disconnected ∧ unawares.client.link.channel.isSome = true) ∧
      lowered.client.state = .disconnected ∧ raised.client.state = .connected ∧
        ¬ lowered.client.state.Moves raised.client.state := by
  dsimp only
  have rests : ∀ {rig : Rig Unit Unit} {stage : Stage}, rig.drivers.map (·.stage) = [stage] →
      stage.isResting = true → ∀ place, (rig.stageAt place).isResting = true := by
    intro rig stage stages resting place
    rw [stageAt_eq, stages]
    cases place with
    | zero => exact resting
    | succ place => rfl
  have patient : ∀ turns ∈ [hangingUp, overlapping, overlappingSooner],
      (Rig.start {} none CorrelationId.drawn () : Rig Unit Unit).isApart Turn.connects turns =
        true := by
    simp only [List.forall_mem_cons]
    exact ⟨by cbv, by cbv, by cbv, by simp⟩
  have waits : (fun rig : Rig Unit Unit => (rig.drivers.map (·.stage), rig.closing,
      rig.client.state, rig.client.link.channel))
      ((Rig.start {} none CorrelationId.drawn ()).run hangingUp) =
        ([.ending .stopped true], [some 0], .connected, none) := by cbv
  have goesOn : (fun rig : Rig Unit Unit => (rig.drivers.map (·.stage), rig.closing,
      rig.client.state, rig.client.link.channel.isSome))
      ((Rig.start {} none CorrelationId.drawn ()).run overlapping) =
        ([.live], [some 0], .disconnected, true) := by cbv
  have low : ((Rig.start {} none CorrelationId.drawn ()).run overlappingSooner).client.state =
      .disconnected := by cbv
  have high : (((Rig.start {} none CorrelationId.drawn ()).run overlappingSooner).turn
      (.drive 0 .raise)).client.state = .connected := by cbv
  generalize (Rig.start {} none CorrelationId.drawn ()).run hangingUp = stopping at *
  generalize (Rig.start {} none CorrelationId.drawn ()).run overlapping = unawares at *
  generalize ((Rig.start {} none CorrelationId.drawn ()).run overlappingSooner).turn
    (.drive 0 .raise) = raised at *
  generalize (Rig.start {} none CorrelationId.drawn ()).run overlappingSooner = lowered at *
  simp only [Prod.mk.injEq] at waits goesOn
  refine ⟨patient, ⟨rests waits.1 rfl, waits.2⟩, ⟨rests goesOn.1 rfl, goesOn.2⟩, low, high, ?_⟩
  rw [low, high]
  rintro (equal | edge)
  · cases equal
  · cases edge

end Rig

end Switchboard
