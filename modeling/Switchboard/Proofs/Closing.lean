/-
# Switchboard.Proofs.Closing -- a close is complete

Wherever the driver is when the client is closed, in the end nothing of it is left
(`Client.Shut`), and what happened on the way is known exactly (`Client.Closes`): the link
went down, which the observers were told if it was up, and then every call that waited
failed.  What the observers did in between is all that changed of the rest.  Who was told
shows if callbacks keep a journal, which changes nothing else (`Client.Journalled`).

A client that is shut stays as it is when it is closed again (`Shut.close_again`).  It has
no driver until somebody connects (`idle_run`), so connecting is accepted
(`connect_idle`); and the session that follows announces what is registered when it
begins (`Announces`).

* `close_complete`: the whole of it, over every run, and however tasks take turns;
* `close_incomplete`: a call that waited ends otherwise, if an observer ends it; a close that
  begins while another is under way leaves a driver and a channel; and so it leaves a driver
  if somebody connects meanwhile.
-/
import Switchboard.Proofs.Prologue
import Switchboard.Proofs.ServerView
import Switchboard.Proofs.Snapshot
import Switchboard.Proofs.Stopping

namespace Switchboard

set_option autoImplicit false

namespace Client

variable {κ ω : Type} {behave : Behaviour κ ω} {client told closed : Client κ ω}

/-! ## What a close comes to -/

/-- Nothing of a link is left: it is down, nobody drives it, there is no channel, no request is
queued, and no call waits. -/
structure Shut (client : Client κ ω) : Prop where
  state : client.state = .disconnected
  driver : client.link.isRunning = false
  channel : client.link.channel = none
  backlog : client.link.backlog = []
  pending : client.calls.pending = []

/-- What closing a client does; `told` is the client after its observers were told. -/
structure Closes (behave : Behaviour κ ω) (client told closed : Client κ ω) : Prop where
  /-- Before the observers are told, nothing changes but the link; they are told once if it was up,
  and else not at all. -/
  tells : client.Tells behave told
  /-- After that every call that waits fails, and nothing else changes but the link. -/
  fails : ∃ link, closed = { told with
    link, calls := (told.calls.rejectAll .connectionClosed).1 }
  shut : closed.Shut

/-- What a close does is what `Closes` says. -/
theorem exists_closes (calm : behave.Calm) (poised : client.Poised) :
    ∃ told, client.Closes behave told (client.close behave) := by
  obtain ⟨quiet, link, muted, phase, channel, backlog, -, result⟩ := close_form calm poised
  refine ⟨client.informed behave quiet, ⟨quiet, muted, rfl⟩, ⟨link, result⟩, ?_⟩
  have state := (informed_calm calm client quiet).state.trans muted.state
  rw [result]
  exact ⟨state, by simp [Link.isRunning, phase], channel, backlog, rfl⟩

/-- After a close the calls are those that were told, and all have failed that waited. -/
theorem Closes.calls (closes : client.Closes behave told closed) :
    closed.calls = (told.calls.rejectAll .connectionClosed).1 := by
  obtain ⟨link, rfl⟩ := closes.fails
  rfl

/-! ## Who is told -/

/-- The one client is the other, and its callbacks have kept a journal. -/
def Journalled (observed : Client κ (ω × List (Visit κ ω))) (client : Client κ ω) : Prop :=
  ∃ visits, observed = client.withDesk (client.desk, visits)

namespace Journalled

variable (behave) (account : Account κ ω) {observed : Client κ (ω × List (Visit κ ω))}
  (kept : observed.Journalled client)
include kept

theorem notifyAll (signal : Signal) (entries : List (HandleId × κ)) :
    (notifyAll (behave.journalled account) signal observed entries).Journalled
      (notifyAll behave signal client entries) := by
  obtain ⟨visits, rfl⟩ := kept
  obtain ⟨more, journalled, -⟩ := notifyAll_journalled behave account signal entries client visits
  exact ⟨visits ++ more, journalled⟩

theorem transition (next : LinkState) :
    (observed.transition (behave.journalled account) next).1.Journalled
        (client.transition behave next).1 ∧
      (observed.transition (behave.journalled account) next).2 =
        (client.transition behave next).2 := by
  have moved : (observed.moveTo next).Journalled (client.moveTo next) := by
    obtain ⟨visits, rfl⟩ := kept
    exact ⟨visits, rfl⟩
  obtain ⟨alive, observers⟩ : observed.isAlive = client.isAlive ∧
      observed.connectivity = client.connectivity := by
    obtain ⟨visits, rfl⟩ := kept
    exact ⟨rfl, rfl⟩
  unfold Client.transition
  rw [alive, observers]
  split
  · exact ⟨moved, rfl⟩
  · exact ⟨moved.notifyAll behave account _ _, rfl⟩

theorem hold (frame : Outbound) : (observed.hold frame).1.Journalled (client.hold frame).1 := by
  obtain ⟨visits, rfl⟩ := kept
  have live : (client.withDesk (client.desk, visits)).isLive frame = client.isLive frame := rfl
  unfold Client.hold
  rw [live]
  show Journalled (Prod.fst (if client.options.queueCalls && client.isLive frame then _ else _)) _
  split
  · exact ⟨visits, rfl⟩
  · exact ⟨visits, rfl⟩

theorem detach : observed.detach.Journalled client.detach := by
  have channel : observed.link.channel = client.link.channel := by
    obtain ⟨visits, rfl⟩ := kept
    rfl
  have holds : ∀ (left : List Outbound) {observed : Client κ (ω × List (Visit κ ω))}
      {client : Client κ ω}, observed.Journalled client →
        (left.foldl (fun client frame => (client.hold frame).1) observed).Journalled
          (left.foldl (fun client frame => (client.hold frame).1) client) := by
    intro left
    induction left with
    | nil => exact fun kept => kept
    | cons frame left ih => exact fun kept => ih (kept.hold frame)
  unfold Client.detach
  rw [channel]
  refine holds _ ?_
  obtain ⟨visits, rfl⟩ := kept
  exact ⟨visits, rfl⟩

theorem wentDown (why : SessionEnd) :
    (observed.wentDown (behave.journalled account) why).Journalled (client.wentDown behave why) := by
  have moved := kept.transition behave account .disconnected
  unfold Client.wentDown
  revert moved
  rcases observed.transition (behave.journalled account) .disconnected with ⟨left, flipped⟩
  rcases client.transition behave .disconnected with ⟨right, flipped'⟩
  rintro ⟨⟨visits, same⟩, flips⟩
  cases same
  cases flips
  cases flipped with
  | false => exact ⟨visits, rfl⟩
  | true =>
      dsimp only
      split
      · exact ⟨visits, rfl⟩
      · exact ⟨visits, rfl⟩

theorem endSession (why : SessionEnd) :
    (observed.endSession (behave.journalled account) why).Journalled
      (client.endSession behave why) := by
  obtain ⟨visits, down⟩ := kept.detach.wentDown behave account why
  unfold Client.endSession
  rw [down]
  cases why with
  | dropped => exact ⟨visits, rfl⟩
  | stopped => exact ⟨visits, rfl⟩

theorem write (frame : Outbound) :
    (observed.write (behave.journalled account) frame).Journalled (client.write behave frame) := by
  have same : observed.link = client.link := by
    obtain ⟨visits, rfl⟩ := kept
    rfl
  unfold Client.write
  rw [same]
  rcases client.link.write frame with ⟨link, _ | _⟩
  · exact kept.endSession behave account .dropped
  · obtain ⟨visits, rfl⟩ := kept
    exact ⟨visits, rfl⟩

theorem proceed :
    (observed.proceed (behave.journalled account)).Journalled (client.proceed behave) := by
  have set : ∀ prologue, (observed.setPrologue prologue).Journalled
      (client.setPrologue prologue) := by
    intro prologue
    obtain ⟨visits, rfl⟩ := kept
    exact ⟨visits, rfl⟩
  have same : observed.link = client.link ∧ observed.subscriptions = client.subscriptions := by
    obtain ⟨visits, rfl⟩ := kept
    exact ⟨rfl, rfl⟩
  unfold Client.proceed
  rw [same.1, same.2]
  rcases client.link.prologue with _ | (_ | ⟨topic, left⟩) | (_ | ⟨frame, left⟩) | _
  · exact set _
  · obtain ⟨visits, rfl⟩ := kept
    exact ⟨visits, rfl⟩
  · exact (set _).write behave account _
  · exact set _
  · exact (set _).write behave account _
  · exact kept

theorem finish :
    (observed.finish (behave.journalled account)).Journalled (client.finish behave) := by
  have steps : observed.prologueSteps = client.prologueSteps := by
    obtain ⟨visits, rfl⟩ := kept
    rfl
  unfold Client.finish
  rw [steps]
  clear steps
  generalize client.prologueSteps = steps
  induction steps generalizing observed client with
  | zero => exact kept
  | succ steps ih => exact ih (kept.proceed behave account)

/-- **That callbacks keep a journal changes nothing else of a close.** -/
theorem close : (observed.close (behave.journalled account)).Journalled (client.close behave) := by
  have stopped : (observed.stop (behave.journalled account)).Journalled (client.stop behave) := by
    have finished := kept.finish behave account
    have phase : (observed.finish (behave.journalled account)).link.phase =
        (client.finish behave).link.phase := by
      obtain ⟨visits, same⟩ := finished
      rw [same]
      rfl
    obtain ⟨visits, down⟩ := finished.wentDown behave account .stopped
    unfold stop
    dsimp only
    rw [phase]
    cases (client.finish behave).link.phase with
    | idle => exact finished
    | live => exact finished.endSession behave account .stopped
    | starting | attempting | settling | waiting =>
        rw [down]
        exact ⟨visits, rfl⟩
  have emptied : Journalled { observed.stop (behave.journalled account) with
      link := { (observed.stop (behave.journalled account)).link with backlog := [] } }
      { client.stop behave with link := { (client.stop behave).link with backlog := [] } } := by
    obtain ⟨visits, same⟩ := stopped
    rw [same]
    exact ⟨visits, rfl⟩
  obtain ⟨visits, moved⟩ := (emptied.transition behave account
    .disconnected).1
  unfold Client.close
  dsimp only
  rw [moved]
  exact ⟨visits, rfl⟩

end Journalled

/-- **Of a close each observer is told once, if the link was up**, and nobody else is told
anything. -/
theorem close_journalled (within : behave.Within fun _ => True) (poised : client.Poised)
    (account : Account κ ω) :
    ∃ visits : List (Visit κ ω),
      (client.withDesk (client.desk, [])).close (behave.journalled account) =
          (client.close behave).withDesk ((client.close behave).desk, visits) ∧
        visits.map (·.callback) =
          (if client.isAlive then client.connectivity.observers.map (·.2) else []) ∧
        ∀ visit ∈ visits, visit.signal = .alive false := by
  have calm : (behave.journalled account).Calm := by
    intro callback signal observed
    have found := within.calm callback signal (observed.withDesk observed.desk.1)
    exact ⟨found.options, found.candidate, found.state, found.link⟩
  have observedPoised : (client.withDesk (client.desk, ([] : List (Visit κ ω)))).Poised :=
    ⟨⟨poised.up, poised.live, poised.complete⟩, poised.held⟩
  obtain ⟨written, same⟩ := Journalled.close behave account
    (⟨[], rfl⟩ : (client.withDesk (client.desk, [])).Journalled client)
  refine ⟨written, same, ?_⟩
  obtain ⟨quiet, link, muted, -, -, -, -, result⟩ := close_form calm observedPoised
  -- before anybody is told, the journal is empty
  let lowered : Client κ ω := { client with
    connectivity := client.connectivity.moveTo .disconnected
    link := quiet.link }
  have isLowered : quiet = lowered.withDesk (lowered.desk, []) := muted.same
  have journal : written =
      ((client.withDesk (client.desk, [])).informed (behave.journalled account) quiet).desk.2 := by
    have desks := congrArg (fun state => state.desk.2) (same.symm.trans result)
    exact desks
  have alive : (client.withDesk (client.desk, ([] : List (Visit κ ω)))).isAlive =
      client.isAlive := rfl
  rw [journal, informed, alive]
  split
  · obtain ⟨visits, told, callbacks, signals, -⟩ := notifyAll_journalled behave account
      (.alive false) quiet.connectivity.observers lowered []
    have desks := congrArg (fun state => state.desk.2) told
    rw [← isLowered] at desks
    have read : (quiet.toldDown (behave.journalled account)).desk.2 = visits := desks
    rw [read, callbacks, muted.observers]
    exact ⟨rfl, signals⟩
  · rw [isLowered]
    exact ⟨rfl, fun visit member => absurd member (List.not_mem_nil)⟩

/-! ## Once more, and afterwards -/

/-- A client that is shut may be closed again, which changes nothing. -/
theorem Shut.close_again (shut : client.Shut) (coherent : client.Coherent)
    (behave : Behaviour κ ω) : client.close behave = client := by
  have finished : client.finish behave = client := by
    rw [finish, prologueSteps_eq_zero (coherent.complete shut.channel)]
    rfl
  have idle : client.link.phase = .idle := by simpa [Link.isRunning] using shut.driver
  have stopped : client.stop behave = client := by
    unfold stop
    simp only [finished, idle]
  have down : (client.stop behave).isAlive = false := by
    rw [stopped]
    exact coherent.down shut.channel
  have calls : (client.calls.rejectAll .connectionClosed).1 = client.calls := by
    unfold CallTable.rejectAll
    simp only [shut.pending, List.map_nil, List.nil_append]
    rw [← shut.pending]
  have link : { client.link with backlog := [] } = client.link := by rw [← shut.backlog]
  rw [close_of_stop down, stopped, calls, link, connectivity_moveTo_of_state shut.state]

/-- Without a driver there is none until somebody connects. -/
theorem idle_run (within : behave.Within fun _ => True) (poised : client.Poised)
    (idle : client.link.phase = .idle) {events : List (Event κ ω)}
    (noConnect : ∀ runtime address, .connect runtime address ∉ events) :
    (client.run behave events).link.phase = .idle := by
  induction events generalizing client with
  | nil => exact idle
  | cons event events ih =>
      refine ih (poised_step within poised event) ?_ fun runtime address member =>
        noConnect runtime address (List.mem_cons_of_mem _ member)
      by_cases closes : event = .close
      · subst closes
        obtain ⟨told, closes⟩ := exists_closes within.calm poised
        have idle : (client.close behave).link.phase = .idle := by
          simpa [Link.isRunning] using closes.shut.driver
        exact idle
      by_cases stops : event = .shutdown
      · subst stops
        have stopped : Arrives .free client (client.stop behave) ∧
            (client.stop behave).link.phase = .idle := stop_arrives within poised
        exact stopped.2
      rcases step_does within poised event stops closes fun runtime address same =>
        noConnect runtime address (same ▸ List.mem_cons_self) with acts | ⟨running, -⟩
      · exact acts.calm.phase.trans idle
      · exact absurd idle running

section Connect

variable {address : String} {endpoint : Endpoint} (good : Endpoint.parse address = .ok endpoint)
  (socket : endpoint.isSocket = true) (idle : client.link.phase = .idle)
include good socket idle

/-- Without a driver connecting is accepted, and starts one. -/
theorem connect_idle : client.connect true address = (Rig.launched endpoint client, .ok ()) := by
  have none : client.link.isRunning = false := by simp [Link.isRunning, idle]
  simp only [connect, good, socket, none]
  rfl

/-- The driver that is started comes to an open socket, if the server takes it. -/
theorem settling_of_connect (behave : Behaviour κ ω) :
    (client.run behave [.connect true address, .attempt, .opened]).link.phase = .settling := by
  have connected : (Event.connect true address).step behave client =
      Rig.launched endpoint client := congrArg Prod.fst (connect_idle good socket idle)
  simp only [run, List.foldl_cons, List.foldl_nil, connected]
  rfl

end Connect

/-- The session that begins now announces the topics that are registered when it reads them, each
once, and it does get there: whatever happens, some steps of the driver more and its prologue is
over; and when it is over, what it has written beside requests are these announcements. -/
def Announces (behave : Behaviour κ ω) (opened : Client κ ω) : Prop :=
  ∀ later,
    (∃ steps, ((opened.run behave later).run behave
      (.replicate steps .proceed)).link.prologue = .complete) ∧
    ((opened.run behave later).link.prologue = .complete → ∃ before opening,
      let reading := opened.run behave before
      let written := opened.run behave opening
      before <+: opening ∧ opening <+: opened.spellOut behave later ∧
        reading.link.prologue = .unread ∧ written.link.prologue = .complete ∧
        (written.framesOf opened.link.sessions).filter (fun frame => !frame.isRequest) =
          reading.subscriptions.topics.map .subscribe ∧
        reading.subscriptions.topics.Pairwise (fun left right => left.compare right = .lt))

/-- The links and topics of a client stay in order. -/
theorem Orderly.run (orderly : client.Orderly) (within : behave.Within fun _ => True)
    (poised : client.Poised) (events : List (Event κ ω)) : (client.run behave events).Orderly := by
  obtain ⟨moves, path⟩ := (run_arrives within.free poised
    fun event (_ : event ∈ events) => within_free event).reaches
  exact path.preserves (fun _ _ _ orderly fits => Orderly.move orderly fits) poised.toCoherent
    orderly

/-- **A session announces what is registered when it begins**, and each topic once. -/
theorem announces_settled (within : behave.Within fun _ => True) (poised : client.Poised)
    (orderly : client.Orderly) (settling : client.link.phase = .settling) :
    (client.settled behave none).Announces behave := by
  have step : (Event.settled none).step behave client = client.settled behave none :=
    if_pos settling
  have opened : (client.settled behave none).Poised := step ▸ poised_step within poised _
  have inOrder : (client.settled behave none).Orderly :=
    step ▸ orderly.run within poised [.settled none]
  have unread := unread_settled within poised orderly settling
  rw [← unread.2.session] at unread
  intro later
  constructor
  · refine ⟨((client.settled behave none).run behave later).prologueSteps, ?_⟩
    rw [run_proceed]
    exact finish_complete within.free (poised_run within opened later)
  · intro complete
    rw [← run_spellOut within opened later] at complete
    obtain ⟨between, during, meanwhile, final, reading, emptied, written, spelled, -, rfl, -,
      rfl, atUnread, -, ended, frames, -⟩ := opening_of_complete within opened
        (spelled_spellOut within opened later) unread complete
    refine ⟨between, _, ?_, spelled ▸ List.prefix_append _ _, atUnread, ended, ?_, ?_⟩
    · simp only [List.append_assoc, List.cons_append]
      exact List.prefix_append _ _
    · -- what is written besides the announcements are requests
      rw [frames, List.filter_append]
      have announced : ∀ topics : List Topic,
          (topics.map Outbound.subscribe).filter (fun frame => !frame.isRequest) =
            topics.map .subscribe := fun topics => List.filter_eq_self.2 fun frame member => by
        obtain ⟨topic, -, rfl⟩ := List.mem_map.1 member
        rfl
      have requests : (emptied.link.backlog.filter emptied.isLive).filter
          (fun frame => !frame.isRequest) = [] := List.filter_eq_nil_iff.2 fun frame member => by
        simp [isRequest_of_isLive (List.mem_filter.1 member).2]
      rw [announced, requests, List.append_nil]
    · exact Topic.sort_ascending (inOrder.run within opened between).held

end Client

/-! ## Turns -/

namespace Rig

variable {κ ω : Type} {rig : Rig κ ω}

/-- What a close comes to that began at the one rig, when none was under way, and goes through at
the other; `between` are the turns taken meanwhile. -/
structure ClosesTo (begun : Rig κ ω) (between : List (Turn κ ω)) (rig after : Rig κ ω) :
    Prop where
  /-- Every call that waits fails; nothing else changes but the backlog. -/
  client : after.client = { rig.client with
    link := { rig.client.link with backlog := [] }
    calls := (rig.client.calls.rejectAll .connectionClosed).1 }
  shut : after.client.Shut
  nobody : ∀ place, after.runsAt place = false
  free : after.closing = [] ∧ after.slot = none
  /-- Every call that waited when the close began ends, once in all that follows: its connection was
  closed, unless a turn meanwhile has decided about it. -/
  calls : ∀ call ∈ begun.client.calls.pending, ∃ ending,
    (∀ later, (after.run later).client.calls.endings.filter
      (fun other => other.1 = call.ticket) = [(call.ticket, ending)]) ∧
    (ending = .resolved (.error .connectionClosed) ∨
      (call.ticket, ending) ∈ rig.client.calls.endings ∧ ∃ turn ∈ between, turn.Decides)
  /-- The observers are told once that the link is down, if it was up, or came up before the driver
  took notice; and else they are told nothing. -/
  told : if begun.client.isAlive then begun.close.flips between = [false]
    else begun.close.flips between = [] ∨ begun.close.flips between = [true, false]
  /-- If nobody acts meanwhile, the registry, the observers and the token are as before. -/
  spared : (∀ act, .act act ∉ between) → begun.client.Spared after.client
  /-- When the close goes through they are told no more. -/
  quiet : after.client.isAlive = rig.client.isAlive
  /-- A second close changes nothing. -/
  again : ∀ acts, (after.turn .close).turn (.closed 0 acts) = after
  /-- Connecting is accepted. -/
  connect : ∀ address endpoint, Endpoint.parse address = .ok endpoint → endpoint.isSocket = true →
    (after.connect true address).2 = .ok ()

/-- **A close goes through once the driver that it awaits has finished**, and comes to that. -/
theorem Sound.closesTo {begun : Rig κ ω} (sound : begun.Sound) (calls : begun.client.calls.Sound)
    (free : begun.closing = []) {between : List (Turn κ ω)}
    (others : ∀ turn ∈ between, turn.manages = false)
    (ended : begun.slot.any (begun.close.run between).runsAt = false)
    (acts : List (Client.Act κ ω)) :
    begun.ClosesTo between (begun.close.run between)
      ((begun.close.run between).turn (.closed 0 acts)) := by
  have stopping := (sound.stopping free).run others
  have told := (sound.stopping free).flips others ended
  have still : begun.close.client.calls.Sound := calls
  have ends := @ends_once _ _ _ still between
  have spared : (∀ act, .act act ∉ between) →
      begun.client.Spared (begun.close.run between).client := fun unacted =>
    @spared_run _ _ begun.close _ others unacted
  generalize begun.close.run between = rig at *
  have nobody := stopping.sound.nobody_of_ended stopping.closing ended
  have down := stopping.sound.down nobody
  have slot : rig.slot = none := stopping.sound.taken (by simp [stopping.closing])
  have goes : rig.turn (.closed 0 acts) =
      { rig with client := settle acts rig.client, closing := [] } := by
    simp [Rig.turn, stopping.closing, ended]
  have settled := settle_of_down down.1 acts
  have shut : (settle acts rig.client).Shut := by
    rw [settled]
    exact ⟨down.1, (stopping.sound.idle nobody).1.running, down.2, rfl, rfl⟩
  rw [goes]
  exact {
    client := settled
    shut
    nobody := fun place => Bool.eq_false_iff.2 (nobody place)
    free := ⟨rfl, slot⟩
    calls := fun call waits => ends (by rw [settled]) waits
    told
    spared := fun still => by
      rw [settled]
      exact ⟨(spared still).subscriptions, (spared still).observers, (spared still).token⟩
    quiet := by rw [settled]; rfl
    again := fun more => by
      have same : settle more (settle acts rig.client) = settle acts rig.client := by
        rw [settle_of_down shut.state, settled]
        rfl
      simp [Rig.turn, Rig.close, slot, same]
    connect := fun address endpoint good socket => by
      simp [Rig.connect, good, socket, slot] }

/-- A session with one call. -/
def calling : List (Turn Unit Unit) :=
  [.connect true "ws://host/", .drive 0 .dial, .drive 0 .opened, .drive 0 (.settled none),
    .drive 0 .raise, .act (.call ⟨["orders", "add"]⟩ .null none)]

/-- What its driver does when a close has begun. -/
def ringingOff : List (Turn Unit Unit) :=
  [.drive 0 .proceed, .drive 0 .proceed, .drive 0 .proceed, .drive 0 .stop, .drive 0 .lower,
    .drive 0 .judge, .drive 0 .leave]

/-- Somebody connects during a close, which goes through and leaves another driver. -/
def meeting : List (Turn Unit Unit) :=
  [.connect true "ws://host/", .close, .connect true "ws://host/", .drive 0 .dial, .drive 0 .leave,
    .closed 0 []]

end Rig

namespace Client

variable {κ ω : Type} {behave : Behaviour κ ω}

/-- **A close is complete.**  Take any run, whatever was connected, called, registered and lost in
it, and callbacks that do whatever they like but connect and close.  When the client is closed, then:

* the observers are told that the link is down, each once, if it was up, and else nobody is told
  anything, as a journal shows that changes nothing else; apart from what they do nothing changes
  but the link and the calls, and in the end nothing of the link is left (`Closes`);
* every call that waits ends, once in all that follows: its connection was closed, unless an
  observer ended it when it was told;
* closing again changes nothing, and tells nobody, whoever listens then;
* until somebody connects there is no driver, and so connecting is accepted; and the session that
  follows announces what is then registered (`Announces`).

However the driver, callers and callbacks take turns, a close that begins when no other is under
way, and during which nobody connects, may always go through in the end, and does as soon as its
driver has finished; and it leaves the same (`Rig.ClosesTo`).  What happens meanwhile may end calls,
and the driver may raise the link once before it takes notice. -/
theorem close_complete (within : behave.Within fun _ => True) (options : Options)
    (token : Option Json) (candidate : Nat → CorrelationId) (desk : ω) :
    (∀ events : List (Event κ ω),
      let client := run behave events (start options token candidate desk)
      let closed := client.close behave
      (∃ told, client.Closes behave told closed ∧
        ∀ call ∈ client.calls.pending, ∃ ending,
          (∀ later, (closed.run behave later).calls.endings.filter
            (fun other => other.1 = call.ticket) = [(call.ticket, ending)]) ∧
          (ending = .resolved (.error .connectionClosed) ∨
            (call.ticket, ending) ∈ told.calls.endings ∧ client.isAlive = true ∧
              ¬ behave.Within fun act => act.isAside = true)) ∧
      (∀ account : Account κ ω, ∃ visits : List (Visit κ ω),
        (client.withDesk (client.desk, [])).close (behave.journalled account) =
            closed.withDesk (closed.desk, visits) ∧
          visits.map (·.callback) =
            (if client.isAlive then client.connectivity.observers.map (·.2) else []) ∧
          ∀ visit ∈ visits, visit.signal = .alive false) ∧
      (∀ (υ : Type) (desk : υ) (others : Behaviour κ υ),
        (closed.withDesk desk).close others = closed.withDesk desk) ∧
      (∀ between, (∀ runtime address, .connect runtime address ∉ between) →
        ∀ address endpoint, Endpoint.parse address = .ok endpoint → endpoint.isSocket = true →
          let idle := closed.run behave between
          idle.connect true address = (Rig.launched endpoint idle, .ok ()) ∧
            (idle.run behave [.connect true address, .attempt, .opened]).link.phase = .settling) ∧
      ∀ earlier, (closed.run behave earlier).link.phase = .settling →
        ((closed.run behave earlier).settled behave none).Announces behave) ∧
    ∀ turns : List (Rig.Turn κ ω),
      let begins : Rig κ ω := .start options token candidate desk
      let begun := begins.run turns
      begins.isApart Rig.Turn.connects turns = true → begun.closing = [] →
      ∀ between, (∀ turn ∈ between, turn.manages = false) →
        (∃ more, (∀ turn ∈ more, turn.manages = false) ∧
          begun.slot.any (begun.close.run (between ++ more)).runsAt = false) ∧
        (begun.slot.any (begun.close.run between).runsAt = false → ∀ acts,
          begun.ClosesTo between (begun.close.run between)
            ((begun.close.run between).turn (.closed 0 acts))) := by
  refine ⟨fun events => ?_, fun turns => ?_⟩
  · intro client closed
    have poised : client.Poised := poised_run within (start_poised options token candidate desk) events
    have step : closed = Event.close.step behave client := rfl
    have closedPoised : closed.Poised := poised_step within poised .close
    have whole : ∀ later, closed.run behave later =
        run behave (events ++ .close :: later) (start options token candidate desk) :=
      fun later => (run_append behave events (.close :: later) _).symm
    have sound : client.calls.Sound := calls_sound_run within options token candidate desk events
    have closedSound : closed.calls.Sound := by
      have sound := calls_sound_run within options token candidate desk (events ++ [.close])
      rwa [← whole []] at sound
    obtain ⟨told, closes⟩ := exists_closes within.calm poised
    have shut : closed.Shut := closes.shut
    refine ⟨⟨told, closes, fun call waits => closes.tells.ends_once within sound closedPoised
      closedSound closes.calls waits⟩, close_journalled within poised, ?_, ?_, ?_⟩
    · intro υ desk others
      have coherent : (closed.withDesk desk).Coherent :=
        ⟨closedPoised.up, closedPoised.live, closedPoised.complete⟩
      have shut : (closed.withDesk desk).Shut :=
        ⟨shut.state, shut.driver, shut.channel, shut.backlog, shut.pending⟩
      exact shut.close_again coherent others
    · intro between noConnect address endpoint good socket idle
      have none : closed.link.phase = .idle := by simpa [Link.isRunning] using shut.driver
      have stays : idle.link.phase = .idle := idle_run within closedPoised none noConnect
      exact ⟨connect_idle good socket stays, settling_of_connect good socket stays behave⟩
    · intro earlier settling
      have orderly : (closed.run behave earlier).Orderly := by
        rw [whole]
        exact orderly_run within options token candidate desk _
      exact announces_settled within (poised_run within closedPoised earlier) orderly settling
  · intro begins begun patient free between others
    have sound : begun.Sound := (Rig.Sound.start options token candidate desk).run patient
    have calls : begun.client.calls.Sound :=
      (Rig.develops_run (CallTable.sound_empty _) turns).sound
    refine ⟨?_, fun ended acts => sound.closesTo calls free others ended acts⟩
    obtain ⟨more, still, ended⟩ := ((sound.stopping free).run others).exists_end
    exact ⟨more, still, by rwa [Rig.run_append]⟩

/-- A session whose prologue is under way, with one request in the backlog, one taken over from it,
and one in the channel. -/
def busy : List (Event Unit Unit) :=
  offline ++ [.settled none, .proceed, .proceed, .act (.call ⟨["orders", "add"]⟩ .null none)]

/-- The observer cancels the second of three calls when it is told; the others fail.  Turn by turn a
session comes to its end, and so does its call. -/
theorem close_complete_busy :
    (let behave := retracting (CorrelationId.drawn 1)
      let client := run behave busy (start { queueCalls := true } none CorrelationId.drawn ())
      let closed := client.close behave
      behave.Within (fun _ => True) ∧ client.isAlive = true ∧
        client.calls.pending.map (·.ticket) = [0, 1, 2] ∧
        client.link.channel.map (·.length) = some 1 ∧ client.link.backlog.length = 2 ∧
        closed.Shut ∧
        (∀ ticket ∈ [0, 1, 2], ∀ later,
          (closed.run behave later).calls.endings.filter (fun other => other.1 = ticket) =
            [(ticket, .resolved (.error
              (if ticket = 1 then .cancelled (CorrelationId.drawn 1) else .connectionClosed)))]) ∧
        ((client.withDesk (client.desk, [])).close
          (behave.journalled fun _ _ _ => [])).desk.2.length = 1) ∧
      let begun := (Rig.start {} none CorrelationId.drawn ()).run Rig.calling
      let after := (begun.close.run Rig.ringingOff).turn (.closed 0 [])
      (Rig.start {} none CorrelationId.drawn ()).isApart Rig.Turn.connects Rig.calling = true ∧
        begun.closing = [] ∧ begun.slot = some 0 ∧ begun.runsAt 0 = true ∧
        begun.client.calls.pending.map (·.ticket) = [0] ∧
        (begun.close.run Rig.ringingOff).runsAt 0 = false ∧ after.client.Shut ∧
        begun.close.flips Rig.ringingOff = [false] ∧
        ∀ later, (after.run later).client.calls.endings.filter (fun other => other.1 = 0) =
          [(0, .resolved (.error .connectionClosed))] := by
  constructor
  · dsimp only
    have within : (retracting (CorrelationId.drawn 1)).Within fun _ => True := retracting_within _
    have seen : (fun client : Client Unit Unit => (client.isAlive,
        client.calls.pending.map (·.ticket), client.link.channel.map (·.length),
        client.link.backlog.length, client.connectivity.observers.length))
        (run (retracting (CorrelationId.drawn 1)) busy
          (start { queueCalls := true } none CorrelationId.drawn ())) =
          (true, [0, 1, 2], some 1, 2, 1) := by cbv
    have endings : (fun client : Client Unit Unit => client.calls.endings)
        ((run (retracting (CorrelationId.drawn 1)) busy
          (start { queueCalls := true } none CorrelationId.drawn ())).close
            (retracting (CorrelationId.drawn 1))) =
          [(0, .resolved (.error .connectionClosed)), (2, .resolved (.error .connectionClosed)),
            (1, .resolved (.error (.cancelled (CorrelationId.drawn 1))))] := by cbv
    simp only [Prod.mk.injEq] at seen endings
    obtain ⟨alive, tickets, channel, backlog, observers⟩ := seen
    obtain ⟨⟨told, closes, ends⟩, journals, -⟩ :=
      (close_complete within { queueCalls := true } none CorrelationId.drawn ()).1 busy
    refine ⟨within, alive, tickets, channel, backlog, closes.shut, ?_, ?_⟩
    · -- how a call ends shows as soon as the client is closed
      intro ticket member
      obtain ⟨call, waits, named⟩ := List.mem_map.1 (tickets ▸ member)
      obtain ⟨ending, always, -⟩ := ends call waits
      rw [named] at always
      have now :=
        (congrArg (List.filter fun other => other.1 = ticket) endings).symm.trans (always [])
      have same : ending = .resolved (.error
          (if ticket = 1 then .cancelled (CorrelationId.drawn 1) else .connectionClosed)) := by
        simp only [List.mem_cons, List.not_mem_nil, or_false] at member
        rcases member with rfl | rfl | rfl <;> simpa using now.symm
      exact same ▸ always
    · obtain ⟨visits, same, callbacks, -⟩ := journals fun _ _ _ => []
      rw [same]
      have count := congrArg List.length callbacks
      rw [if_pos alive, List.length_map, List.length_map] at count
      exact count.trans observers
  · dsimp only
    have within : (retracting (CorrelationId.drawn 0)).Within fun _ => True := retracting_within _
    have seen : (fun rig : Rig Unit Unit => (rig.closing, rig.slot, rig.runsAt 0,
        rig.client.calls.pending.map (·.ticket), rig.client.isAlive))
        ((Rig.start {} none CorrelationId.drawn ()).run Rig.calling) =
          ([], some 0, true, [0], true) := by cbv
    have halted : (((Rig.start {} none CorrelationId.drawn ()).run Rig.calling).close.run
        Rig.ringingOff).runsAt 0 = false := by cbv
    have patient : (Rig.start {} none CorrelationId.drawn ()).isApart Rig.Turn.connects
        Rig.calling = true := by cbv
    have closes := (close_complete within {} none CorrelationId.drawn ()).2 Rig.calling patient
    generalize (Rig.start {} none CorrelationId.drawn ()).run Rig.calling = begun at *
    simp only [Prod.mk.injEq] at seen
    obtain ⟨free, slot, runs, tickets, alive⟩ := seen
    have others : ∀ turn ∈ Rig.ringingOff, turn.manages = false := by
      simp [Rig.ringingOff, Rig.Turn.manages]
    have closed := (closes free Rig.ringingOff others).2 (by simpa [slot] using halted) []
    refine ⟨patient, free, slot, runs, tickets, halted, closed.shut, ?_, ?_⟩
    · have told := closed.told
      rwa [if_pos alive] at told
    · obtain ⟨call, waits, named⟩ := List.mem_map.1 (tickets ▸ List.mem_cons_self)
      obtain ⟨ending, always, otherwise⟩ := closed.calls call waits
      rw [named] at always otherwise
      rcases otherwise with rfl | ⟨-, turn, member, decides⟩
      · exact always
      · simp only [Rig.ringingOff, List.mem_cons, List.not_mem_nil, or_false] at member
        rcases member with rfl | rfl | rfl | rfl | rfl | rfl | rfl <;>
          (obtain ⟨text, id, reply, hears, -⟩ := decides; cases hears)

/-- **What a close does not see to.**  A call that waits ends otherwise, if an observer cancels it
that is told.  A close that begins while another is under way goes through while the driver still
runs, and leaves it its channel.  And a driver runs that was started during a close. -/
theorem close_incomplete :
    (let behave := retracting (CorrelationId.drawn 1)
      let client := run behave busy (start { queueCalls := true } none CorrelationId.drawn ())
      behave.Within (fun _ => True) ∧ 1 ∈ client.calls.pending.map (·.ticket) ∧
        (client.close behave).calls.endings.filter (fun other => other.1 = 1) =
          [(1, .resolved (.error (.cancelled (CorrelationId.drawn 1))))]) ∧
      let begins : Rig Unit Unit := .start {} none CorrelationId.drawn ()
      let before := begins.run Rig.overlapping.dropLast
      let after := begins.run Rig.overlapping
      let connected := begins.run Rig.meeting
      (before.closing = [some 0, none] ∧ after.closing = [some 0] ∧ after.runsAt 0 = true ∧
        after.client.state = .disconnected ∧ after.client.link.channel.isSome = true) ∧
        connected.closing = [] ∧ connected.runsAt 1 = true := by
  constructor
  · dsimp only
    have waits : (run (retracting (CorrelationId.drawn 1)) busy
        (start { queueCalls := true } none CorrelationId.drawn ())).calls.pending.map (·.ticket) =
          [0, 1, 2] := by cbv
    have ends : ((run (retracting (CorrelationId.drawn 1)) busy
        (start { queueCalls := true } none CorrelationId.drawn ())).close
          (retracting (CorrelationId.drawn 1))).calls.endings.filter (fun other => other.1 = 1) =
          [(1, .resolved (.error (.cancelled (CorrelationId.drawn 1))))] := by cbv
    refine ⟨retracting_within _, ?_, ends⟩
    rw [waits]
    decide
  · dsimp only
    have before : ((Rig.start {} none CorrelationId.drawn ()).run
        Rig.overlapping.dropLast).closing = [some 0, none] := by cbv
    have after : (fun rig : Rig Unit Unit => (rig.closing, rig.runsAt 0, rig.client.state,
        rig.client.link.channel.isSome))
        ((Rig.start {} none CorrelationId.drawn ()).run Rig.overlapping) =
          ([some 0], true, .disconnected, true) := by cbv
    have connected : (fun rig : Rig Unit Unit => (rig.closing, rig.runsAt 1))
        ((Rig.start {} none CorrelationId.drawn ()).run Rig.meeting) =
          ([], true) := by cbv
    simp only [Prod.mk.injEq] at after connected
    exact ⟨⟨before, after⟩, connected⟩

end Client

end Switchboard
