/-
# Switchboard.Proofs.Stopping -- while a close is under way

A close begins, and goes through once the driver has finished; in between the driver,
callers and callbacks take turns.  The driver changes the link and its state, and fails
calls or settles one (`Driver.take_changes`).  What turns do to calls is no more than a
table allows: a call that waits waits on or ends, and an ending stays
(`CallTable.Develops`).  A turn that neither acts on calls nor hears a reply ends them all
with their connection or none (`Rig.together_turn`).

A driver that has been told to stop may always come to its end (`Driver.ends`).  It only
goes forward (`Stage.tide_next`): its link may still come up, goes down once at most, and
never comes up after that.  So the turns of a close tell one story (`Rig.flips`), however
they are taken.

* `Rig.ends_once`: how a call ends that waited when the close began;
* `Rig.Stopping.flips`: what the observers are told meanwhile;
* `Rig.Stopping.exists_end`: the close may yet go through.
-/
import Switchboard.Proofs.Endings
import Switchboard.Proofs.Lifecycle

namespace Switchboard

set_option autoImplicit false

/-! ## What a driver leaves alone -/

namespace Client

variable {κ ω : Type} {client after : Client κ ω}

/-- Neither the registry has changed, nor who observes, nor the token. -/
structure Spared (before after : Client κ ω) : Prop where
  subscriptions : after.subscriptions = before.subscriptions
  observers : after.connectivity.observers = before.connectivity.observers
  token : after.token = before.token

/-- Nothing has changed but the link. -/
def Relinked (before after : Client κ ω) : Prop := ∃ link, after = { before with link }

namespace Spared

theorem refl (client : Client κ ω) : client.Spared client := ⟨rfl, rfl, rfl⟩

theorem trans {middle : Client κ ω} (first : client.Spared middle)
    (second : middle.Spared after) : client.Spared after :=
  ⟨second.subscriptions.trans first.subscriptions, second.observers.trans first.observers,
    second.token.trans first.token⟩

theorem link (spared : client.Spared after) (link : Link) : client.Spared { after with link } :=
  ⟨spared.subscriptions, spared.observers, spared.token⟩

theorem moveTo (client : Client κ ω) (next : LinkState) : client.Spared (client.moveTo next) :=
  ⟨rfl, client.connectivity.observers_moveTo next, rfl⟩

end Spared

namespace Relinked

theorem refl (client : Client κ ω) : client.Relinked client := ⟨client.link, rfl⟩

theorem trans {middle : Client κ ω} (first : client.Relinked middle)
    (second : middle.Relinked after) : client.Relinked after := by
  obtain ⟨_, rfl⟩ := first
  obtain ⟨link, rfl⟩ := second
  exact ⟨link, rfl⟩

theorem calls (relinked : client.Relinked after) : after.calls = client.calls := by
  obtain ⟨_, rfl⟩ := relinked
  rfl

theorem spared (relinked : client.Relinked after) : client.Spared after := by
  obtain ⟨link, rfl⟩ := relinked
  exact (Spared.refl client).link link

theorem detach (client : Client κ ω) : client.Relinked client.detach := by
  obtain ⟨backlog, detached⟩ := client.detach_link
  exact ⟨_, detached⟩

theorem tryWrite (frame : Outbound) (client : Client κ ω) :
    client.Relinked (client.tryWrite frame).1 := by
  unfold Client.tryWrite
  split
  · exact ⟨_, rfl⟩
  · exact refl client

theorem tryProceed (client : Client κ ω) : client.Relinked client.tryProceed.1 := by
  have set : ∀ prologue, client.Relinked (client.setPrologue prologue) := fun _ => ⟨_, rfl⟩
  unfold Client.tryProceed
  split
  · exact set _
  · exact (set _).trans (tryWrite _ _)
  · exact ⟨_, rfl⟩
  · exact (set _).trans (tryWrite _ _)
  · exact set _
  · exact refl client

theorem tryEmit (client : Client κ ω) : client.Relinked client.tryEmit.1 := by
  have set : ∀ queue, client.Relinked (client.setChannel queue) := fun _ => ⟨_, rfl⟩
  unfold Client.tryEmit
  split
  · exact (set _).trans (tryWrite _ _)
  · exact refl client

theorem onwards (result : Client κ ω × Bool) : result.1.Relinked (Driver.onwards result).2 := by
  obtain ⟨after, goes⟩ := result
  cases goes with
  | true => exact refl after
  | false => exact detach after

end Relinked

end Client

namespace Driver

variable {κ ω : Type} {client : Client κ ω}

/-- Whether a step hears a reply. -/
def Step.HearsReply (step : Step) : Prop :=
  ∃ text id reply, step = .hear text ∧ Inbound.decode text = .ok (.reply id reply)

/-- A message changes nothing but the link, or it is a reply, which settles its call. -/
theorem hear_cases (text : String) (client : Client κ ω) :
    client.Relinked (client.tryHear text).1 ∨
      ∃ id reply, Inbound.decode text = .ok (.reply id reply) ∧
        (client.tryHear text).1 = { client with calls := (client.calls.settle id reply).1 } := by
  unfold Client.tryHear
  split
  · rename_i id reply decodes
    exact .inr ⟨id, reply, decodes, rfl⟩
  · exact .inl (.tryWrite _ client)
  · exact .inl (.refl client)
  · exact .inl (.refl client)

/-- **What a driver's step changes**: the link and its state; and of the calls it fails all with
their connection, or does what a reply says that it hears. -/
theorem take_changes (driver : Driver) (step : Step) (client : Client κ ω) :
    client.Spared (driver.take step client).2 ∧
      (client.calls.Together (driver.take step client).2.calls ∨
        step.HearsReply ∧
          ∃ id reply, (driver.take step client).2.calls = (client.calls.settle id reply).1) := by
  obtain ⟨stage, signalled⟩ := driver
  have relinks : ∀ {after : Client κ ω}, client.Relinked after →
      client.Spared after ∧ (client.calls.Together after.calls ∨ step.HearsReply ∧
        ∃ id reply, after.calls = (client.calls.settle id reply).1) := fun relinked =>
    ⟨relinked.spared, .inl (.inl relinked.calls)⟩
  have moves : ∀ next link, client.Spared { client.moveTo next with link } ∧
      (client.calls.Together { client.moveTo next with link }.calls ∨ step.HearsReply ∧
        ∃ id reply, { client.moveTo next with link }.calls =
          (client.calls.settle id reply).1) := fun next link =>
    ⟨(Client.Spared.moveTo client next).link link, .inl (.inl rfl)⟩
  have same := relinks (.refl client)
  cases stage with
  | starting =>
      cases step with
      | dial =>
          simp only [take]
          split
          · exact same
          · exact moves _ _
      | _ => exact same
  | attempting =>
      cases step with
      | opened => exact relinks ⟨_, rfl⟩
      | _ => exact same
  | settling =>
      cases step with
      | settled => exact relinks ⟨_, rfl⟩
      | _ => exact same
  | installed =>
      cases step with
      | raise => exact moves .connected client.link
      | _ => exact same
  | live =>
      cases step with
      | proceed => exact relinks ((Client.Relinked.tryProceed client).trans (.onwards _))
      | emit => exact relinks ((Client.Relinked.tryEmit client).trans (.onwards _))
      | hear text =>
          simp only [take]
          split
          · have kept := Client.Relinked.onwards (client.tryHear text)
            rcases hear_cases text client with relinked | ⟨id, reply, decodes, heard⟩
            · exact relinks (relinked.trans kept)
            · have settles := congrArg Client.calls heard
              have spared : client.Spared (client.tryHear text).1 := by
                rw [heard]
                exact ⟨rfl, rfl, rfl⟩
              exact ⟨spared.trans kept.spared,
                .inr ⟨⟨text, id, reply, rfl, decodes⟩, id, reply, kept.calls.trans settles⟩⟩
          · exact same
      | lose =>
          simp only [take]
          split
          · exact relinks (.detach client)
          · exact same
      | stop =>
          simp only [take]
          split
          · exact relinks (.detach client)
          · exact same
      | _ => exact same
  | ending =>
      cases step with
      | lower => exact moves .disconnected client.link
      | _ => exact same
  | lowered why told =>
      cases step with
      | judge =>
          have fails : client.Spared (client.failLost why told) ∧
              client.calls.Together (client.failLost why told).calls := by
            unfold Client.failLost
            split
            · exact ⟨⟨rfl, rfl, rfl⟩, .inr rfl⟩
            · exact ⟨.refl client, .inl rfl⟩
          simp only [take]
          split
          · exact ⟨fails.1, .inl fails.2⟩
          · exact ⟨fails.1.link _, .inl fails.2⟩
      | _ => exact same
  | waiting => cases step <;> exact same
  | leaving =>
      cases step with
      | leave => exact moves _ _
      | _ => exact same
  | finished => cases step <;> exact same

end Driver

/-- Where nobody acts, connects or closes, drivers take all turns. -/
theorem Rig.spared_run {κ ω : Type} {rig : Rig κ ω} {turns : List (Rig.Turn κ ω)}
    (others : ∀ turn ∈ turns, turn.manages = false) (still : ∀ act, .act act ∉ turns) :
    rig.client.Spared (rig.run turns).client := by
  induction turns generalizing rig with
  | nil => exact .refl _
  | cons turn turns ih =>
      have rest : (rig.turn turn).client.Spared ((rig.turn turn).run turns).client := ih
        (fun other member => others other (List.mem_cons_of_mem _ member))
        fun act member => still act (List.mem_cons_of_mem _ member)
      refine Client.Spared.trans ?_ rest
      have other := others turn List.mem_cons_self
      cases turn with
      | act act => exact absurd List.mem_cons_self (still act)
      | connect | close | closed => cases other
      | drive place step =>
          simp only [Rig.turn]
          cases found : rig.drivers[place]? with
          | none =>
              simp only [Rig.drive, found]
              exact .refl _
          | some driver =>
              rw [Rig.client_drive found]
              exact (driver.take_changes step rig.client).1

/-! ## Calls -/

/-- What may become of a table: a call that waits waits on or ends, and endings stay. -/
structure CallTable.Develops (before after : CallTable) : Prop where
  sound : after.Sound
  endings : before.endings ⊆ after.endings
  waits : ∀ call ∈ before.pending,
    call ∈ after.pending ∨ ∃ ending, (call.ticket, ending) ∈ after.endings

namespace CallTable.Develops

variable {before middle after : CallTable}

theorem refl (sound : before.Sound) : before.Develops before :=
  ⟨sound, List.Subset.refl _, fun _ waits => .inl waits⟩

theorem trans (first : before.Develops middle) (second : middle.Develops after) :
    before.Develops after where
  sound := second.sound
  endings := List.Subset.trans first.endings second.endings
  waits call waits := by
    rcases first.waits call waits with still | ⟨ending, ended⟩
    · exact second.waits call still
    · exact .inr ⟨ending, second.endings ended⟩

theorem finish (sound : before.Sound) (id : CorrelationId) (ending : PendingCall → CallEnd) :
    before.Develops (before.finish id ending).1 where
  sound := sound.finish id ending
  endings := endings_finish before id ending
  waits call waits := by
    have stands : before.Stands call none := waits
    have after := stands_finish sound stands id ending
    split at after
    · exact .inr ⟨_, after⟩
    · exact .inl after

theorem rejectAll (sound : before.Sound) (error : ClientError) :
    before.Develops (before.rejectAll error).1 where
  sound := sound.rejectAll error
  endings := List.subset_append_right _ _
  waits call waits := .inr ⟨_, List.mem_append_left _ (List.mem_map.2 ⟨call, waits, rfl⟩)⟩

end CallTable.Develops

theorem CallTable.Together.trans {before middle after : CallTable}
    (first : before.Together middle) (second : middle.Together after) : before.Together after := by
  rcases second with rfl | rfl
  · exact first
  · exact .inr first.rejectAll

namespace Client

variable {κ ω : Type} {client : Client κ ω}

theorem develops_perform (sound : client.calls.Sound) (act : Act κ ω) :
    client.calls.Develops (act.perform client).calls := by
  obtain ⟨moves, path⟩ : Reaches .free client (act.perform client) :=
    perform_reaches trivial client
  exact ⟨path.calls_sound sound, path.endings_subset,
    fun _ waits => path.waits_or_ended sound waits⟩

theorem develops_performAll (sound : client.calls.Sound) (acts : List (Act κ ω)) :
    client.calls.Develops (client.performAll acts).calls := by
  induction acts generalizing client with
  | nil => exact .refl sound
  | cons act acts ih =>
      have first := develops_perform sound act
      exact first.trans (ih first.sound)

end Client

namespace Rig

variable {κ ω : Type} {rig begun : Rig κ ω}

/-- Whether a turn may decide about a call: an act that is about one, a reply that is heard, or a
close that goes through. -/
def Turn.Decides : Turn κ ω → Prop
  | .act deed => deed.isAside = false
  | .closed _ _ => True
  | .drive _ step => step.HearsReply
  | .connect _ _ | .close => False

theorem calls_connect (runtime : Bool) (address : String) (rig : Rig κ ω) :
    (rig.turn (.connect runtime address)).client.calls = rig.client.calls := by
  simp only [turn]
  rcases rig.connect_cases runtime address with ⟨error, refused⟩ | ⟨-, endpoint, launches⟩
  · rw [refused]
  · rw [launches]
    rfl

theorem develops_settle {client : Client κ ω} (sound : client.calls.Sound)
    (acts : List (Client.Act κ ω)) : client.calls.Develops (settle acts client).calls := by
  let lowered := ({ client with link := { client.link with backlog := [] } } : Client κ ω).moveTo
    .disconnected
  have still : lowered.calls.Sound := sound
  unfold settle
  split
  · have told : client.calls.Develops (lowered.performAll acts).calls :=
      Client.develops_performAll still acts
    exact told.trans (.rejectAll told.sound _)
  · exact .rejectAll sound _

/-- **What a turn does to calls** is what may become of a table. -/
theorem develops_turn (sound : rig.client.calls.Sound) (turn : Turn κ ω) :
    rig.client.calls.Develops (rig.turn turn).client.calls := by
  cases turn with
  | act act => exact Client.develops_perform sound act
  | connect runtime address =>
      rw [calls_connect]
      exact .refl sound
  | close => exact .refl sound
  | closed which acts =>
      rcases rig.closed_cases which acts with same | ⟨awaited, -, -, goes⟩
      · rw [same]
        exact .refl sound
      · rw [goes]
        exact develops_settle sound acts
  | drive place step =>
      simp only [Rig.turn]
      cases found : rig.drivers[place]? with
      | none =>
          simp only [drive, found]
          exact .refl sound
      | some driver =>
          rw [client_drive found]
          rcases (driver.take_changes step rig.client).2 with
            (same | fails) | ⟨-, id, reply, settles⟩
          · rw [same]
            exact .refl sound
          · rw [fails]
            exact .rejectAll sound _
          · rw [settles]
            exact .finish sound id _

theorem develops_run (sound : rig.client.calls.Sound) (turns : List (Turn κ ω)) :
    rig.client.calls.Develops (rig.run turns).client.calls := by
  induction turns generalizing rig with
  | nil => exact .refl sound
  | cons turn turns ih =>
      have first := develops_turn sound turn
      exact first.trans (ih first.sound)

/-- A turn that decides about no call ends none, or all of them with their connection. -/
theorem together_turn {turn : Turn κ ω} (indifferent : ¬ turn.Decides) :
    rig.client.calls.Together (rig.turn turn).client.calls := by
  cases turn with
  | act act =>
      have aside : act.isAside = true := by simpa [Turn.Decides] using indifferent
      exact .inl (Client.perform_bystander aside rig.client).calls
  | connect runtime address => exact .inl (rig.calls_connect runtime address)
  | close => exact .inl rfl
  | closed which acts => exact absurd trivial indifferent
  | drive place step =>
      simp only [Rig.turn]
      cases found : rig.drivers[place]? with
      | none => exact .inl (by simp only [drive, found])
      | some driver =>
          rw [client_drive found]
          rcases (driver.take_changes step rig.client).2 with together | ⟨hears, -⟩
          · exact together
          · exact absurd hears indifferent

theorem together_run {turns : List (Turn κ ω)} (indifferent : ∀ turn ∈ turns, ¬ turn.Decides) :
    rig.client.calls.Together (rig.run turns).client.calls := by
  induction turns generalizing rig with
  | nil => exact .inl rfl
  | cons turn turns ih =>
      exact (together_turn (indifferent turn List.mem_cons_self)).trans
        (ih fun other member => indifferent other (List.mem_cons_of_mem _ member))

/-- **A call that waits when a close begins ends once**: its connection was closed, unless a turn in
between has decided about it. -/
theorem ends_once (sound : begun.client.calls.Sound) (between : List (Turn κ ω))
    {after : Rig κ ω}
    (fails : after.client.calls =
      ((begun.run between).client.calls.rejectAll .connectionClosed).1)
    {call : PendingCall} (waits : call ∈ begun.client.calls.pending) :
    ∃ ending,
      (∀ later, (after.run later).client.calls.endings.filter
        (fun other => other.1 = call.ticket) = [(call.ticket, ending)]) ∧
      (ending = .resolved (.error .connectionClosed) ∨
        (call.ticket, ending) ∈ (begun.run between).client.calls.endings ∧
          ∃ turn ∈ between, turn.Decides) := by
  have meanwhile := develops_run sound between
  have last : (begun.run between).client.calls.Develops after.client.calls :=
    fails ▸ .rejectAll meanwhile.sound _
  have always : ∀ {ending}, (call.ticket, ending) ∈ after.client.calls.endings →
      ∀ later, (after.run later).client.calls.endings.filter
        (fun other => other.1 = call.ticket) = [(call.ticket, ending)] := by
    intro ending ended later
    have development := develops_run last.sound later
    exact development.sound.endings_of (development.endings ended)
  have failed : ∀ {table : CallTable}, call ∈ table.pending →
      (call.ticket, CallEnd.resolved (.error .connectionClosed)) ∈
        (table.rejectAll .connectionClosed).1.endings := fun waits =>
    List.mem_append_left _ (List.mem_map.2 ⟨call, waits, rfl⟩)
  by_cases decided : ∃ turn ∈ between, turn.Decides
  · rcases meanwhile.waits call waits with still | ⟨ending, ended⟩
    · exact ⟨_, always (fails ▸ failed still), .inl rfl⟩
    · exact ⟨ending, always (last.endings ended), .inr ⟨ended, decided⟩⟩
  · -- it has failed already, or fails in the end
    have together : begun.client.calls.Together (begun.run between).client.calls :=
      together_run fun turn member decides => decided ⟨turn, member, decides⟩
    rw [together.rejectAll] at fails
    exact ⟨_, always (fails ▸ failed waits), .inl rfl⟩

end Rig

/-! ## The driver comes to its end -/

namespace Driver

variable {κ ω : Type} {stage : Stage} {client : Client κ ω}

/-- Whether a driver that has been told to stop may come to its end. -/
def Ends (stage : Stage) (client : Client κ ω) : Prop :=
  ∃ after, Leads true stage client .finished after

theorem Ends.of_step (step : Step)
    (next : Ends ((⟨stage, true⟩ : Driver).take step client).1
      ((⟨stage, true⟩ : Driver).take step client).2) : Ends stage client :=
  next.imp fun _ rest => (Leads.still.step step rfl).trans rest

theorem ends_leaving : Ends .leaving client := ⟨_, Leads.still.step .leave rfl⟩

theorem ends_lowered (why : Client.SessionEnd) (told : Bool) : Ends (.lowered why told) client := by
  refine .of_step .judge ?_
  simp only [take]
  rw [if_pos (.inr trivial)]
  exact ends_leaving

theorem ends_ending (why : Client.SessionEnd) (ran : Bool) : Ends (.ending why ran) client :=
  .of_step .lower (ends_lowered why _)

/-- A session ends once its prologue is over, and every step brings that nearer. -/
theorem ends_live (live : client.link.phase = .live) : Ends .live client := by
  induction steps : client.prologueSteps using Nat.strong_induction_on generalizing client with
  | _ _ ih =>
      by_cases complete : client.link.prologue = .complete
      · refine .of_step .stop ?_
        simp only [take, client.isPumping_iff.2 ⟨live, complete⟩, Bool.and_self, if_true]
        exact ends_ending _ _
      · refine .of_step .proceed ?_
        have fewer := client.prologueSteps_tryProceed complete
        have phase := (Client.Steadfast.tryProceed client).phase.trans live
        simp only [take]
        generalize client.tryProceed = result at *
        obtain ⟨next, _ | _⟩ := result
        · exact ends_ending _ _
        · exact ih _ (steps ▸ fewer) phase rfl

/-- **A driver that has been told to stop may always come to its end.** -/
theorem ends (shown : stage.Shows client) : Ends stage client := by
  cases stage with
  | starting => exact .of_step .dial ends_leaving
  | attempting => exact .of_step .stop (ends_ending _ _)
  | settling => exact .of_step .stop (ends_ending _ _)
  | installed => exact .of_step .raise (ends_live (shown.live rfl))
  | live => exact ends_live (shown.live rfl)
  | ending why ran => exact ends_ending why ran
  | lowered why told => exact ends_lowered why told
  | waiting => exact .of_step .stop ends_leaving
  | leaving => exact ends_leaving
  | finished => exact ⟨client, .still⟩

end Driver

/-! ## What observers are told -/

/-- How far a driver has come with its link: it has not raised it, it has, or it has lowered it
again or will not raise it. -/
def Stage.tide : Stage → Nat
  | .starting | .attempting | .settling | .installed | .ending _ false | .waiting => 0
  | .live | .ending _ true => 1
  | .lowered _ _ | .leaving | .finished => 2

theorem Stage.tide_le (stage : Stage) : stage.tide ≤ 2 := by
  rcases stage with _ | _ | _ | _ | _ | ⟨_, _ | _⟩ | _ | _ | _ | _ <;> simp [tide]

theorem Stage.tide_eq_one_iff (stage : Stage) : stage.tide = 1 ↔ stage.state = .connected := by
  rcases stage with _ | _ | _ | _ | _ | ⟨_, _ | _⟩ | _ | _ | _ | _ <;> simp [tide, state]

/-- **A driver that has been told to stop only goes forward.** -/
theorem Stage.tide_next {stage next : Stage} (follows : stage.Next true next) :
    stage.tide ≤ next.tide := by
  cases follows with
  | dial goes | retry goes => cases goes
  | lower =>
      rename_i ran _
      cases ran <;> simp [tide]
  | _ => simp [tide]

namespace Rig

variable {κ ω : Type} {rig : Rig κ ω}

/-- What the observers are told in the course of turns: whether the link is up, whenever that
changes. -/
def flips (rig : Rig κ ω) : List (Turn κ ω) → List Bool
  | [] => []
  | turn :: turns =>
      (if (rig.turn turn).client.isAlive = rig.client.isAlive then []
        else [(rig.turn turn).client.isAlive]) ++ (rig.turn turn).flips turns

/-- One close is under way, which awaits a driver, and nobody runs who has not been told to stop. -/
structure Stopping (rig : Rig κ ω) (awaited : Option Nat) : Prop where
  sound : rig.Sound
  level : rig.Level
  closing : rig.closing = [awaited]
  told : ∀ place driver, awaited = some place → rig.drivers[place]? = some driver →
    driver.signalled = true

/-- A close that begins when none is under way tells the driver to stop. -/
theorem Sound.stopping (sound : rig.Sound) (free : rig.closing = []) :
    rig.close.Stopping rig.slot where
  sound := sound.close
  level := (sound.level free).turn sound (by simp [free]) .close fun _ => free
  closing := by simp [Rig.close, free]
  told place driver kept found := by
    have signalled : (rig.drivers.modify place fun driver =>
        { driver with signalled := true })[place]? = some driver := by
      simpa [Rig.close, kept] using found
    rw [List.getElem?_modify] at signalled
    obtain ⟨before, -, rfl⟩ := Option.map_eq_some_iff.1 signalled
    simp

namespace Stopping

variable {awaited : Option Nat} (stopping : rig.Stopping awaited)
include stopping

/-- Whoever runs is awaited. -/
theorem runs {place : Nat} (runs : rig.runsAt place = true) : awaited = some place := by
  rcases stopping.sound.kept place runs with kept | waits
  · rw [stopping.sound.taken (by simp [stopping.closing])] at kept
    cases kept
  · simpa [stopping.closing, eq_comm] using waits

/-- The link is up while the tide of the driver that is awaited is. -/
theorem isAlive_iff :
    rig.client.isAlive = true ↔ (awaited.elim Stage.finished rig.stageAt).tide = 1 := by
  rw [Client.isAlive_iff, Stage.tide_eq_one_iff]
  by_cases somebody : ∃ place, rig.runsAt place = true
  · obtain ⟨place, runs⟩ := somebody
    rw [stopping.runs runs, stopping.level place runs]
    rfl
  · have nobody : ∀ place, ¬ rig.runsAt place = true := fun place runs => somebody ⟨place, runs⟩
    have ended : (awaited.elim Stage.finished rig.stageAt).state = .disconnected := by
      cases awaited with
      | none => rfl
      | some place =>
          have still := nobody place
          rw [runsAt] at still
          revert still
          dsimp only [Option.elim_some]
          cases rig.stageAt place <;> simp [Stage.isRunning, Stage.state]
    rw [(stopping.sound.down nobody).1, ended]

/-- The driver that is awaited goes on, and the close stays under way. -/
theorem turn {turn : Turn κ ω} (other : turn.manages = false) :
    (rig.turn turn).Stopping awaited ∧
      (awaited.elim Stage.finished rig.stageAt).tide ≤
        (awaited.elim Stage.finished (rig.turn turn).stageAt).tide := by
  have one : rig.closing.length ≤ 1 := by simp [stopping.closing]
  have patient : turn.connects = true → rig.closing = [] := fun connects => by
    simp [Turn.connects_of_manages other] at connects
  have sound := stopping.sound.turn turn patient
  have level := stopping.level.turn stopping.sound one turn patient
  cases turn with
  | act act => exact ⟨⟨sound, level, stopping.closing, stopping.told⟩, le_rfl⟩
  | connect | close | closed => cases other
  | drive place step =>
      simp only [Rig.turn] at sound level ⊢
      have closing := (rig.closing_drive place step).1.trans stopping.closing
      cases found : rig.drivers[place]? with
      | none =>
          have same : rig.drive place step = rig := by simp only [drive, found]
          rw [same]
          exact ⟨stopping, le_rfl⟩
      | some driver =>
          obtain ⟨less, -⟩ := List.getElem?_eq_some_iff.1 found
          refine ⟨⟨sound, level, closing, fun there after same taken => ?_⟩, ?_⟩
          · simp only [drive, found] at taken
            by_cases here : there = place
            · subst here
              rw [List.getElem?_set_self less] at taken
              cases taken
              exact stopping.told there driver same found
            · rw [List.getElem?_set_ne (Ne.symm here)] at taken
              exact stopping.told there after same taken
          · cases awaited with
            | none => exact le_rfl
            | some there =>
                dsimp only [Option.elim_some]
                rw [stageAt_drive found]
                split
                · rename_i here
                  subst here
                  rw [stageAt_of_getElem? found]
                  have signalled := stopping.told there driver rfl found
                  rcases driver.next_take step rig.client with same | next
                  · rw [same]
                  · exact Stage.tide_next (signalled ▸ next)
                · exact le_rfl

theorem run {turns : List (Turn κ ω)} (others : ∀ turn ∈ turns, turn.manages = false) :
    (rig.run turns).Stopping awaited := by
  induction turns generalizing rig with
  | nil => exact stopping
  | cons turn turns ih =>
      exact ih (stopping.turn (others turn List.mem_cons_self)).1
        fun other member => others other (List.mem_cons_of_mem _ member)

/-- What is told depends on how far the driver has come and comes. -/
theorem flips_of_tide {turns : List (Turn κ ω)} (others : ∀ turn ∈ turns, turn.manages = false)
    (spent : (awaited.elim Stage.finished (rig.run turns).stageAt).tide = 2) :
    ((awaited.elim Stage.finished rig.stageAt).tide = 2 → rig.flips turns = []) ∧
      ((awaited.elim Stage.finished rig.stageAt).tide = 1 → rig.flips turns = [false]) ∧
      ((awaited.elim Stage.finished rig.stageAt).tide = 0 →
        rig.flips turns = [] ∨ rig.flips turns = [true, false]) := by
  induction turns generalizing rig with
  | nil =>
      have now : (awaited.elim Stage.finished rig.stageAt).tide = 2 := spent
      exact ⟨fun _ => rfl, fun rising => by omega, fun low => by omega⟩
  | cons turn turns ih =>
      obtain ⟨next, forward⟩ := stopping.turn (others turn List.mem_cons_self)
      obtain ⟨high, falling, low⟩ := ih next
        (fun other member => others other (List.mem_cons_of_mem _ member)) spent
      have bound := (awaited.elim Stage.finished (rig.turn turn).stageAt).tide_le
      have now := stopping.isAlive_iff
      have later := next.isAlive_iff
      -- whether the link flips is whether the tide comes to, or leaves, its middle
      have cons : rig.flips (turn :: turns) =
          (if (rig.turn turn).client.isAlive = rig.client.isAlive then []
            else [(rig.turn turn).client.isAlive]) ++ (rig.turn turn).flips turns := rfl
      generalize (awaited.elim Stage.finished rig.stageAt).tide = tide at *
      generalize (awaited.elim Stage.finished (rig.turn turn).stageAt).tide = after at *
      rw [cons]
      refine ⟨fun same => ?_, fun same => ?_, fun same => ?_⟩ <;> subst same
      · obtain rfl : after = 2 := by omega
        simp_all
      · obtain rfl | rfl : after = 1 ∨ after = 2 := by omega
        · simp_all
        · simp_all
      · obtain rfl | rfl | rfl : after = 0 ∨ after = 1 ∨ after = 2 := by omega
        · simp_all
        · simp_all
        · simp_all

/-- **The story of a close.**  Once the driver has finished, the observers have been told that the
link is down, if it was up when the close began.  If it was not, they have been told nothing, or
that it came up and then that it is down. -/
theorem flips {between : List (Turn κ ω)} (others : ∀ turn ∈ between, turn.manages = false)
    (ended : awaited.any (rig.run between).runsAt = false) :
    if rig.client.isAlive then rig.flips between = [false]
    else rig.flips between = [] ∨ rig.flips between = [true, false] := by
  have spent : (awaited.elim Stage.finished (rig.run between).stageAt).tide = 2 := by
    cases awaited with
    | none => rfl
    | some place =>
        have finished : (rig.run between).runsAt place = false := by simpa using ended
        dsimp only [Option.elim_some]
        rw [runsAt] at finished
        revert finished
        cases (rig.run between).stageAt place <;> simp [Stage.isRunning, Stage.tide]
  obtain ⟨high, falling, low⟩ := stopping.flips_of_tide others spent
  have bound := (awaited.elim Stage.finished rig.stageAt).tide_le
  have now := stopping.isAlive_iff
  split
  · rename_i up
    exact falling (now.1 up)
  · rename_i down
    have other : (awaited.elim Stage.finished rig.stageAt).tide ≠ 1 := mt now.2 down
    rcases (by omega : (awaited.elim Stage.finished rig.stageAt).tide = 0 ∨
      (awaited.elim Stage.finished rig.stageAt).tide = 2) with flat | ebb
    · exact low flat
    · exact .inl (high ebb)

/-- **A close may always go through**: whatever has happened since it began, the driver may yet come
to its end. -/
theorem exists_end : ∃ more : List (Turn κ ω),
    (∀ turn ∈ more, turn.manages = false) ∧ awaited.any (rig.run more).runsAt = false := by
  cases awaited with
  | none => exact ⟨[], by simp, rfl⟩
  | some place =>
      by_cases runs : rig.runsAt place = true
      · obtain ⟨driver, found⟩ : ∃ driver, rig.drivers[place]? = some driver := by
          cases found : rig.drivers[place]? with
          | none => simp [runsAt, stageAt, found, Stage.isRunning] at runs
          | some driver => exact ⟨driver, rfl⟩
        obtain ⟨stage, signalled⟩ := driver
        obtain rfl : signalled = true := stopping.told place _ rfl found
        have shown := stopping.sound.shows place runs
        rw [stageAt_of_getElem? found] at shown
        obtain ⟨after, leads⟩ := Driver.ends shown
        obtain ⟨more, others, reached⟩ := run_leads leads found
        have less := (List.getElem?_eq_some_iff.1 found).1
        refine ⟨more, others, ?_⟩
        simp [reached, runsAt, stageAt, List.getElem?_set_self less, Stage.isRunning]
      · exact ⟨[], by simp, Bool.eq_false_iff.2 runs⟩

end Stopping

end Rig

end Switchboard
