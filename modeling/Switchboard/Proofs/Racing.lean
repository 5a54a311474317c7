/-
# Switchboard.Proofs.Racing -- subscribing while a session opens

A subscription takes three steps, and between them anything may happen: its handler is
registered; if it was the first of its topic, the link is looked at; and if that was up,
the announcement is sent.  The driver meanwhile opens a session step by step: it installs
the channel, raises the link, reads the topics, announces them one at a time, takes over
the backlog, and then writes what the channel holds (`Race.drive`).  Handlers leave as
well.  A schedule is a list of turns, each of one party (`Race.run`).

A subscription that sees the link down drops its announcement.  That does no harm because
the driver raises the link before it reads the topics: whoever saw it down had registered
before.  So once the topics are read, every registered topic is accounted for
(`Race.Covers`): it is still to be announced, or its announcement is in the channel, or
it has been written in this session, or a subscription to it is under way.

* `Race.During.turn`: every turn keeps it so, whoever takes it;
* `Race.no_topic_missed`: when nothing is under way any more, every topic has been
  announced;
* `Race.subscribe_uninterrupted`, `Race.settled_uninterrupted`: in one go, the steps are
  a subscription and the begin of a session as the client takes them.
-/
import Switchboard.Proofs.Paths
import Switchboard.Proofs.Registry
import Switchboard.Proofs.Requests
import Switchboard.Proofs.ServerView

namespace Switchboard

set_option autoImplicit false

/-! ## What is under way -/

theorem eraseIdx_last {α : Type} (before : List α) (last : α) :
    (before ++ [last]).eraseIdx before.length = before := by
  simp [List.eraseIdx_append_of_length_le]

/-- When one of a list is over, what differs from it is still there. -/
theorem mem_eraseIdx_of_ne {α : Type} {all : List α} {place : Nat} {one other : α}
    (here : all[place]? = some one) (different : other ≠ one) :
    other ∈ all.eraseIdx place ↔ other ∈ all := by
  rw [List.mem_eraseIdx_iff_getElem?]
  constructor
  · rintro ⟨index, -, found⟩
    exact List.mem_of_getElem? found
  · intro member
    obtain ⟨index, found⟩ := List.mem_iff_getElem?.1 member
    refine ⟨index, fun same => different ?_, found⟩
    rw [same, here] at found
    exact (Option.some.inj found).symm

/-- The topics that a prologue is still to announce, once it has read them. -/
def Prologue.topicsLeft : Prologue → List Topic
  | .announcing left => left
  | .unread | .flushing _ | .complete => []

/-- Whether a prologue has announced the topics that it read. -/
def Prologue.hasAnnounced (prologue : Prologue) : Prop :=
  prologue ≠ .unread ∧ prologue.topicsLeft = []

/-- How far a subscription has come whose handler is the first of its topic. -/
inductive Flight where
  /-- It is to look whether the link is up. -/
  | checking (topic : Topic)
  /-- It has seen that the link is up, and is to send its announcement. -/
  | sending (topic : Topic)

/-- The topic of a subscription under way. -/
def Flight.topic : Flight → Topic
  | .checking topic | .sending topic => topic

/-- A client, and the subscriptions to it that are under way. -/
structure Race (κ ω : Type) where
  client : Client κ ω
  flights : List Flight := []

/-- Whose turn it is. -/
inductive Turn (κ : Type) where
  /-- A subscription begins: its handler is registered. -/
  | register (topic : Topic) (callback : κ)
  /-- A subscription under way takes its next step. -/
  | advance (place : Nat)
  | unsubscribe (handle : HandleId)
  /-- The driver takes its next step. -/
  | drive

namespace Race

variable {κ ω : Type}

/-- A subscription begins, unless its topic is empty; it is over if its handler is not the first of
its topic. -/
def register (topic : Topic) (callback : κ) (race : Race κ ω) : Race κ ω :=
  if topic.isEmpty then race
  else
    let (client, _, first) := race.client.register topic callback
    { client, flights := if first then race.flights ++ [.checking topic] else race.flights }

/-- A subscription under way looks at the link, or sends its announcement and is over. -/
def advance (place : Nat) (race : Race κ ω) : Race κ ω :=
  match race.flights[place]? with
  | none => race
  | some (.checking topic) =>
      if race.client.isAlive then
        { race with flights := race.flights.set place (.sending topic) }
      else { race with flights := race.flights.eraseIdx place }
  | some (.sending topic) =>
      { client := (race.client.send (.subscribe topic)).1, flights := race.flights.eraseIdx place }

/-- A handler leaves. -/
def unsubscribe (handle : HandleId) (race : Race κ ω) : Race κ ω :=
  { race with client := (race.client.unsubscribe handle).1 }

/-- The driver's next step: once its socket has settled it installs a channel, raises the link, goes
through the prologue, and then writes what the channel holds.  No write fails.  The observers are
told when the link is raised; what they do then are turns like others. -/
def drive (behave : Behaviour κ ω) (race : Race κ ω) : Race κ ω :=
  match race.client.link.phase with
  | .settling => { race with client := race.client.openSession none }
  | .live =>
      if race.client.isAlive then
        match race.client.link.prologue with
        | .complete => { race with client := race.client.emit behave }
        | _ => { race with client := race.client.proceed behave }
      else { race with client := race.client.moveTo .connected }
  | _ => race

/-- The race after one turn. -/
def turn (behave : Behaviour κ ω) (turn : Turn κ) (race : Race κ ω) : Race κ ω :=
  match turn with
  | .register topic callback => race.register topic callback
  | .advance place => race.advance place
  | .unsubscribe handle => race.unsubscribe handle
  | .drive => race.drive behave

/-- The race after a list of turns. -/
def run (behave : Behaviour κ ω) (turns : List (Turn κ)) (race : Race κ ω) : Race κ ω :=
  turns.foldl (fun race turn => race.turn behave turn) race

/-! ## Without interruption -/

/-- A subscription that nothing comes between is one step of the client. -/
theorem subscribe_uninterrupted (behave : Behaviour κ ω) (topic : Topic) (callback : κ)
    (race : Race κ ω) :
    let last := race.flights.length
    race.run behave [.register topic callback, .advance last, .advance last] =
      { race with client := (race.client.subscribe topic callback).1 } := by
  intro last
  have absent : race.flights[last]? = none := by simp [last]
  show ((race.register topic callback).advance last).advance last = _
  by_cases empty : topic.isEmpty = true
  · simp [Race.register, advance, Client.subscribe, empty, absent]
  obtain ⟨client, handle, first, registered⟩ : ∃ client handle first,
      race.client.register topic callback = (client, handle, first) := ⟨_, _, _, rfl⟩
  cases first with
  | false => simp [Race.register, advance, Client.subscribe, empty, registered, absent]
  | true =>
      cases up : client.isAlive <;>
        simp [Race.register, advance, Client.subscribe, Client.announce, empty, registered, last,
          up, eraseIdx_last]

/-- Opening a session that nothing comes between, and that nobody observes, is one step of the
client. -/
theorem settled_uninterrupted (behave : Behaviour κ ω) (race : Race κ ω)
    (settling : race.client.link.phase = .settling) (down : race.client.isAlive = false)
    (unobserved : race.client.connectivity.observers = []) :
    race.run behave [.drive, .drive] =
      { race with client := race.client.settled behave none } := by
  have still : (race.client.openSession none).isAlive = false := down
  have nobody : (race.client.openSession none).connectivity.observers = [] := unobserved
  have installed : race.drive behave = { race with client := race.client.openSession none } := by
    simp [drive, settling]
  have raised : (race.client.openSession none).transition behave .connected =
      ((race.client.openSession none).moveTo .connected, true) := by
    simp [Client.transition, still, nobody, LinkState.isConnected, Client.notifyAll]
  have live : (race.client.openSession none).link.phase = .live := rfl
  show (race.drive behave).drive behave = _
  rw [installed, Client.settled, raised]
  simp [drive, live, still]

/-! ## What every turn keeps -/

/-- A registered topic is accounted for: it is still to be announced, its announcement is in the
channel, it has been written in this session, or a subscription to it is under way. -/
def Covers (race : Race κ ω) (topic : Topic) : Prop :=
  topic ∈ race.client.link.prologue.topicsLeft ∨
    .subscribe topic ∈ race.client.link.channel.getD [] ∨
    ⟨race.client.link.sessions, .subscribe topic⟩ ∈ race.client.link.written ∨
    topic ∈ race.flights.map (·.topic)

/-- A session is about to open, the one of the number. -/
structure Before (session : Nat) (race : Race κ ω) : Prop where
  quiet : race.client.options.notifyUnsubscribe = false
  settling : race.client.link.phase = .settling
  unplugged : race.client.link.channel = none
  number : race.client.link.sessions + 1 = session

/-- The session of the number is open.  Its topics have not been read, or else the link is up and
every registered topic is accounted for. -/
structure During (session : Nat) (race : Race κ ω) : Prop where
  quiet : race.client.options.notifyUnsubscribe = false
  live : race.client.link.phase = .live
  channel : race.client.link.channel.isSome = true
  room : race.client.link.room = none
  number : race.client.link.sessions = session
  covered : race.client.link.prologue = .unread ∨
    race.client.isAlive = true ∧ ∀ topic ∈ race.client.subscriptions.held, race.Covers topic

variable {session : Nat} {race after : Race κ ω}

/-- A turn that leaves the link alone leaves the session open. -/
theorem During.of_link (during : race.During session) (calm : race.client.Calm after.client)
    (link : after.client.link = race.client.link)
    (covers : (∀ topic ∈ race.client.subscriptions.held, race.Covers topic) →
      ∀ topic ∈ after.client.subscriptions.held, after.Covers topic) : after.During session where
  quiet := calm.options ▸ during.quiet
  live := link ▸ during.live
  channel := link ▸ during.channel
  room := link ▸ during.room
  number := link ▸ during.number
  covered := by
    have alive : after.client.isAlive = race.client.isAlive :=
      congrArg LinkState.isConnected calm.state
    rw [link, alive]
    exact during.covered.imp_right fun ⟨up, covered⟩ => ⟨up, covers covered⟩

/-- More subscriptions under way account for more. -/
theorem Covers.of_flights {topic : Topic} (covers : race.Covers topic)
    (link : after.client.link = race.client.link)
    (flights : topic ∈ race.flights.map (·.topic) → topic ∈ after.flights.map (·.topic)) :
    after.Covers topic := by
  unfold Covers
  rw [link]
  exact covers.imp_right (.imp_right (.imp_right flights))

/-- What the begin of a subscription does: nothing, or its topic is registered, and then it is under
way, unless the topic has been registered before. -/
theorem register_cases (topic : Topic) (callback : κ) (race : Race κ ω) :
    race.register topic callback = race ∨
      ∃ client : Client κ ω, race.client.Calm client ∧ client.link = race.client.link ∧
        (∀ other, other ∈ client.subscriptions.held ↔
          other = topic ∨ other ∈ race.client.subscriptions.held) ∧
        (race.register topic callback = ⟨client, race.flights ++ [.checking topic]⟩ ∨
          race.register topic callback = ⟨client, race.flights⟩ ∧
            topic ∈ race.client.subscriptions.held) := by
  unfold Race.register
  split
  · exact .inl rfl
  obtain ⟨client, handle, first, result⟩ : ∃ client handle first,
      race.client.register topic callback = (client, handle, first) := ⟨_, _, _, rfl⟩
  obtain ⟨calm, link, held, notFirst⟩ := Client.register_spec result
  refine .inr ⟨client, calm, link, held, ?_⟩
  cases first with
  | true => exact .inl (by simp [result])
  | false => exact .inr ⟨by simp [result], notFirst rfl⟩

/-- A subscription that begins accounts for its topic, or finds it accounted for. -/
theorem During.register (during : race.During session) (topic : Topic) (callback : κ) :
    (race.register topic callback).During session := by
  rcases race.register_cases topic callback with
    same | ⟨client, calm, link, held, begun | ⟨ended, before⟩⟩
  · rw [same]
    exact during
  · rw [begun]
    refine during.of_link calm link fun covered other inHeld => ?_
    rcases (held other).1 inHeld with rfl | already
    · exact .inr (.inr (.inr (by simp [Flight.topic])))
    · exact (covered other already).of_flights link fun under => by
        rw [List.map_append]
        exact List.mem_append_left _ under
  · rw [ended]
    refine during.of_link calm link fun covered other inHeld => ?_
    rcases (held other).1 inHeld with rfl | already
    · exact (covered other before).of_flights link id
    · exact (covered other already).of_flights link id

/-- What releasing a handle does if nothing is withdrawn: no more than that a topic may go. -/
theorem unsubscribe_quiet {client : Client κ ω} (quiet : client.options.notifyUnsubscribe = false)
    (handle : HandleId) :
    (client.unsubscribe handle).1.link = client.link ∧
      ∀ topic ∈ (client.unsubscribe handle).1.subscriptions.held,
        topic ∈ client.subscriptions.held := by
  have unobserved : (client.unobserve handle).1.subscriptions = client.subscriptions := rfl
  have released : ((client.unobserve handle).1.release handle).1.subscriptions =
      (client.subscriptions.unsubscribe handle).1 := rfl
  rcases client.unsubscribe_cases handle with same | ⟨same, notLast⟩ | ⟨topic, last, same⟩
  · rw [same]
    exact ⟨rfl, fun _ held => held⟩
  · rw [same, released, Subscriptions.held_unsubscribe_not_last notLast]
    exact ⟨rfl, fun _ held => held⟩
  · have still : ((client.unobserve handle).1.release handle).1.withdraw topic =
        ((client.unobserve handle).1.release handle).1 := by
      have off : ((client.unobserve handle).1.release handle).1.options.notifyUnsubscribe =
        false := quiet
      simp [Client.withdraw, off]
    rw [same, still, released]
    exact ⟨rfl, fun other held => ((Subscriptions.held_unsubscribe_last last).2 other).1 held |>.1⟩

theorem During.unsubscribe (during : race.During session) (handle : HandleId) :
    (race.unsubscribe handle).During session := by
  obtain ⟨link, fewer⟩ := unsubscribe_quiet during.quiet handle
  exact during.of_link (race.client.unsubscribe_calm handle) link fun covered topic held =>
    (covered topic (fewer topic held)).of_flights link id

/-- A subscription that is over accounted for no topic but its own. -/
theorem mem_eraseIdx {flights : List Flight} {place : Nat} {flight : Flight}
    (here : flights[place]? = some flight) {topic : Topic}
    (under : topic ∈ flights.map (·.topic)) :
    topic = flight.topic ∨ topic ∈ (flights.eraseIdx place).map (·.topic) := by
  obtain ⟨other, member, rfl⟩ := List.mem_map.1 under
  by_cases same : other = flight
  · exact .inl (congrArg Flight.topic same)
  · exact .inr (List.mem_map_of_mem ((mem_eraseIdx_of_ne here same).2 member))

/-- An announcement is dropped while the link is down, or without a channel. -/
theorem announcement_dropped {client : Client κ ω} {topic : Topic}
    (down : client.isAlive = false ∨ client.link.channel = none) :
    (client.send (.subscribe topic)).1 = client := by
  have held := client.hold_aside (.subscribe topic) rfl
  unfold Client.send
  split
  · rename_i queue channel
    have dead := down.resolve_right (by simp [channel])
    simpa [dead] using held
  · exact held

/-- A subscription under way drops its announcement only while the topics have not been read. -/
theorem During.advance (during : race.During session) (place : Nat) :
    (race.advance place).During session := by
  unfold Race.advance
  split
  · exact during
  · rename_i topic here
    split
    · -- it goes on accounting for its topic
      have topics : (race.flights.set place (.sending topic)).map (·.topic) =
          race.flights.map (·.topic) := by
        refine List.ext_getElem? fun index => ?_
        rw [List.map_set, List.getElem?_set, List.getElem?_map]
        split
        · rename_i same
          obtain ⟨inside, found⟩ := List.getElem?_eq_some_iff.1 here
          simp [← same, inside, found, Flight.topic]
        · rfl
      exact during.of_link (.refl _) rfl fun covered other held =>
        (covered other held).of_flights rfl fun under => topics ▸ under
    · rename_i down
      have unread : race.client.link.prologue = .unread :=
        during.covered.resolve_right fun ⟨up, _⟩ => down up
      exact ⟨during.quiet, during.live, during.channel, during.room, during.number, .inl unread⟩
  · rename_i topic here
    obtain ⟨queue, channel⟩ := Option.isSome_iff_exists.1 during.channel
    cases up : race.client.isAlive with
    | true =>
        have sent : (race.client.send (.subscribe topic)).1 = race.client.setChannel
            (queue ++ [.subscribe topic]) := by
          simp [Client.send, channel, up, Client.setChannel]
        rw [sent]
        refine ⟨during.quiet, during.live, rfl, during.room, during.number,
          during.covered.imp_right ?_⟩
        rintro ⟨-, covered⟩
        refine ⟨up, fun other held => ?_⟩
        rcases covered other held with left | queued | written | under
        · exact .inl left
        · rw [channel] at queued
          exact .inr (.inl (List.mem_append_left _ queued))
        · exact .inr (.inr (.inl written))
        · rcases mem_eraseIdx here under with rfl | rest
          · exact .inr (.inl (List.mem_append_right _ List.mem_cons_self))
          · exact .inr (.inr (.inr rest))
    | false =>
        have unread : race.client.link.prologue = .unread :=
          during.covered.resolve_right fun ⟨alive, _⟩ => by simp [up] at alive
        rw [announcement_dropped (.inl up)]
        exact ⟨during.quiet, during.live, during.channel, during.room, during.number, .inl unread⟩

/-- The prologue goes on without a write. -/
theorem During.onwards (during : race.During session)
    (read : race.client.link.prologue ≠ .unread) {client : Client κ ω} {prologue : Prologue}
    {backlog : List Outbound}
    (link : client.link = { race.client.link with prologue, backlog })
    (left : prologue.topicsLeft = race.client.link.prologue.topicsLeft)
    (options : client.options = race.client.options) (alive : client.isAlive = race.client.isAlive)
    (subscriptions : client.subscriptions = race.client.subscriptions) :
    ({ race with client } : Race κ ω).During session := by
  obtain ⟨up, covered⟩ := during.covered.resolve_left read
  refine ⟨options ▸ during.quiet, link ▸ during.live, link ▸ during.channel, link ▸ during.room,
    link ▸ during.number, .inr ⟨alive.trans up, fun topic held => ?_⟩⟩
  unfold Covers
  rw [link, left]
  exact covered topic (subscriptions ▸ held)

/-- Whatever a written frame was before, if it was an announcement it is one now that was made. -/
theorem During.wrote (during : race.During session)
    (read : race.client.link.prologue ≠ .unread) {client : Client κ ω} {prologue : Prologue}
    {channel : Option (List Outbound)} {frame : Outbound}
    (link : client.link = Link.put frame { race.client.link with prologue, channel })
    (some : channel.isSome = true) (options : client.options = race.client.options)
    (alive : client.isAlive = race.client.isAlive)
    (subscriptions : client.subscriptions = race.client.subscriptions)
    (moved : ∀ topic, topic ∈ race.client.link.prologue.topicsLeft ∨
        .subscribe topic ∈ race.client.link.channel.getD [] →
      topic ∈ prologue.topicsLeft ∨ .subscribe topic ∈ channel.getD [] ∨
        .subscribe topic = frame) :
    ({ race with client } : Race κ ω).During session := by
  obtain ⟨up, covered⟩ := during.covered.resolve_left read
  refine ⟨options ▸ during.quiet, ?_, ?_, ?_, ?_, .inr ⟨alive.trans up, fun topic held => ?_⟩⟩
  · rw [link]
    exact during.live
  · rw [link]
    exact some
  · rw [link]
    simp [Link.put, during.room]
  · rw [link]
    exact during.number
  · simp only [Covers, link, Link.put, List.mem_append, List.mem_singleton, Sent.mk.injEq,
      true_and]
    have before := covered topic (subscriptions ▸ held)
    have follows := moved topic
    unfold Covers at before
    tauto

theorem During.emit (during : race.During session)
    (complete : race.client.link.prologue = .complete) (behave : Behaviour κ ω) :
    ({ race with client := race.client.emit behave } : Race κ ω).During session := by
  obtain ⟨queue, channel⟩ := Option.isSome_iff_exists.1 during.channel
  cases queue with
  | nil =>
      have still : race.client.emit behave = race.client := by
        simp [Client.emit, complete, channel]
      rw [still]
      exact during
  | cons frame queue =>
      have written : (race.client.setChannel queue).write behave frame =
          (race.client.setChannel queue).wrote frame := Client.write_free frame during.room
      have emitted : race.client.emit behave = (race.client.setChannel queue).wrote frame := by
        rw [← written]
        simp [Client.emit, complete, channel, Client.setChannel]
      rw [emitted]
      refine during.wrote (by simp [complete]) rfl rfl rfl rfl rfl fun topic before => ?_
      rw [channel] at before
      rcases before with left | queued
      · exact .inl left
      · rcases List.mem_cons.1 queued with now | later
        · exact .inr (.inr now)
        · exact .inr (.inl later)

/-- The topics are read while the link is up, and what has been read is announced. -/
theorem During.proceed (during : race.During session) (up : race.client.isAlive = true)
    (behave : Behaviour κ ω) :
    ({ race with client := race.client.proceed behave } : Race κ ω).During session := by
  have writes : ∀ (prologue : Prologue) (frame : Outbound),
      (race.client.setPrologue prologue).write behave frame =
        (race.client.setPrologue prologue).wrote frame :=
    fun prologue frame => Client.write_free frame during.room
  cases begun : race.client.link.prologue with
  | unread =>
      have read : race.client.proceed behave =
          race.client.setPrologue (.announcing race.client.subscriptions.topics) := by
        simp [Client.proceed, begun]
      rw [read]
      refine ⟨during.quiet, during.live, during.channel, during.room, during.number,
        .inr ⟨up, ?_⟩⟩
      exact fun topic held => .inl ((race.client.subscriptions.mem_topics topic).2 held)
  | announcing left =>
      cases left with
      | nil =>
          have unloaded : race.client.proceed behave = race.client.unload := by
            simp [Client.proceed, begun]
          rw [unloaded]
          exact during.onwards (by simp [begun]) rfl (by rw [begun]; rfl) rfl rfl rfl
      | cons topic left =>
          have announced : race.client.proceed behave =
              (race.client.setPrologue (.announcing left)).wrote (.subscribe topic) := by
            rw [← writes]
            simp [Client.proceed, begun]
          rw [announced]
          refine during.wrote (by simp [begun]) rfl during.channel rfl rfl rfl
            fun other before => ?_
          rw [begun] at before
          rcases before with here | queued
          · rcases List.mem_cons.1 here with rfl | later
            · exact .inr (.inr rfl)
            · exact .inl later
          · exact .inr (.inl queued)
  | flushing left =>
      cases left with
      | nil =>
          have finished : race.client.proceed behave = race.client.setPrologue .complete := by
            simp [Client.proceed, begun]
          rw [finished]
          exact during.onwards (by simp [begun]) rfl (by rw [begun]; rfl) rfl rfl rfl
      | cons frame left =>
          have flushed : race.client.proceed behave =
              (race.client.setPrologue (.flushing left)).wrote frame := by
            rw [← writes]
            simp [Client.proceed, begun]
          rw [flushed]
          refine during.wrote (by simp [begun]) rfl during.channel rfl rfl rfl
            fun other before => ?_
          rw [begun] at before
          exact before.imp_right .inl
  | complete =>
      rw [Client.proceed_complete behave race.client begun]
      exact during

/-- The driver reads the topics only when the link is up. -/
theorem During.drive (during : race.During session) (behave : Behaviour κ ω) :
    (race.drive behave).During session := by
  unfold Race.drive
  rw [during.live]
  dsimp only
  split
  · rename_i up
    split
    · rename_i complete
      exact during.emit complete behave
    · exact during.proceed up behave
  · rename_i down
    have unread : race.client.link.prologue = .unread :=
      during.covered.resolve_right fun ⟨up, _⟩ => down up
    exact ⟨during.quiet, during.live, during.channel, during.room, during.number, .inl unread⟩

/-- **Every turn keeps the topics accounted for**, whoever takes it. -/
theorem During.turn (during : race.During session) (behave : Behaviour κ ω) (turn : Turn κ) :
    (race.turn behave turn).During session := by
  cases turn with
  | register topic callback => exact during.register topic callback
  | advance place => exact during.advance place
  | unsubscribe handle => exact during.unsubscribe handle
  | drive => exact during.drive behave

/-- Before the session opens, subscriptions come and go, and the driver opens it. -/
theorem Before.turn (before : race.Before session) (behave : Behaviour κ ω) (turn : Turn κ) :
    (race.turn behave turn).Before session ∨ (race.turn behave turn).During session := by
  have stays : ∀ after : Race κ ω, race.client.Calm after.client →
      after.client.link = race.client.link → after.Before session := fun after calm link =>
    ⟨calm.options ▸ before.quiet, link ▸ before.settling, link ▸ before.unplugged,
      link ▸ before.number⟩
  cases turn with
  | register topic callback =>
      left
      show (race.register topic callback).Before session
      rcases race.register_cases topic callback with
        same | ⟨client, calm, link, -, begun | ⟨ended, -⟩⟩
      · rw [same]
        exact before
      · rw [begun]
        exact stays _ calm link
      · rw [ended]
        exact stays _ calm link
  | advance place =>
      left
      show (race.advance place).Before session
      unfold Race.advance
      split
      · exact before
      · split
        · exact stays _ (.refl _) rfl
        · exact stays _ (.refl _) rfl
      · rw [announcement_dropped (.inr before.unplugged)]
        exact stays _ (.refl _) rfl
  | unsubscribe handle =>
      exact .inl (stays _ (race.client.unsubscribe_calm handle)
        (unsubscribe_quiet before.quiet handle).1)
  | drive =>
      right
      have opened : race.drive behave = { race with client := race.client.openSession none } := by
        simp [Race.drive, before.settling]
      show (race.drive behave).During session
      rw [opened]
      exact ⟨before.quiet, rfl, rfl, rfl, before.number, .inl rfl⟩

/-- What every turn keeps, a schedule keeps. -/
theorem run_keeps (behave : Behaviour κ ω) (turns : List (Turn κ))
    (kept : race.Before session ∨ race.During session) :
    (race.run behave turns).Before session ∨ (race.run behave turns).During session := by
  induction turns generalizing race with
  | nil => exact kept
  | cons turn turns ih =>
      refine ih ?_
      rcases kept with before | during
      · exact before.turn behave turn
      · exact .inr (during.turn behave turn)

/-! ## When nothing is under way any more -/

/-- **No topic is missed, however subscribing and the opening of a session interleave.**  Take a
client whose socket has settled and whose session is about to open, with any registry and any
subscriptions under way, and any schedule of turns: subscriptions that begin or take their next
step, handlers that leave without notice to the server, and the driver that opens the session, in
which no write fails.  Suppose that in the end no subscription is under way, the topics that were
read have been announced, and the channel is empty.  Then every registered topic has been announced
in this session. -/
theorem no_topic_missed {race : Race κ ω} (settling : race.client.link.phase = .settling)
    (unplugged : race.client.link.channel = none)
    (quiet : race.client.options.notifyUnsubscribe = false) (behave : Behaviour κ ω)
    (turns : List (Turn κ)) :
    let after := race.run behave turns
    after.flights = [] → after.client.link.prologue.hasAnnounced →
      after.client.link.channel = some [] →
        ∀ topic ∈ after.client.subscriptions.topics,
          ⟨race.client.link.sessions + 1, .subscribe topic⟩ ∈ after.client.link.written := by
  intro after ended announced empty topic member
  have start : race.Before (race.client.link.sessions + 1) := ⟨quiet, settling, unplugged, rfl⟩
  rcases run_keeps behave turns (.inl start) with before | during
  · have none : after.client.link.channel = none := before.unplugged
    simp [none] at empty
  · obtain ⟨-, covered⟩ := during.covered.resolve_left announced.1
    have held := (after.client.subscriptions.mem_topics topic).1 member
    rcases covered topic held with left | queued | written | under
    · exact absurd (announced.2 ▸ left) List.not_mem_nil
    · exact absurd (empty ▸ queued) List.not_mem_nil
    · exact during.number ▸ written
    · exact absurd (ended ▸ under) List.not_mem_nil

/-- A client whose socket has settled. -/
def settledClient : Client Unit Unit :=
  Client.run Client.silent [.connect true "ws://a", .attempt, .opened]
    (Client.start {} none CorrelationId.drawn ())

/-- Three subscriptions: one sees the link down, one sends after its topic was read, and one begins
after the topics were read. -/
def contested : List (Turn Unit) :=
  [.register ⟨["a"]⟩ (), .drive, .advance 0, .drive, .register ⟨["b"]⟩ (), .drive,
    .register ⟨["c"]⟩ (), .advance 0, .advance 1, .advance 1, .drive,
    .unsubscribe (HandleId.nth 0), .advance 0, .drive, .drive, .drive, .drive, .drive]

theorem no_topic_missed_contested :
    let after := run Client.silent contested { client := settledClient }
    settledClient.link.phase = .settling ∧ settledClient.link.channel = none ∧
      settledClient.options.notifyUnsubscribe = false ∧ after.flights = [] ∧
      after.client.link.prologue.hasAnnounced ∧ after.client.link.channel = some [] ∧
      after.client.subscriptions.topics = [⟨["b"]⟩, ⟨["c"]⟩] ∧
      after.client.link.written.length = 4 ∧
      ∀ topic ∈ after.client.subscriptions.topics,
        ⟨settledClient.link.sessions + 1, .subscribe topic⟩ ∈ after.client.link.written := by
  intro after
  have begins : (fun client : Client Unit Unit =>
      (client.link.phase, client.link.channel, client.options.notifyUnsubscribe)) settledClient =
        (.settling, none, false) := by cbv
  have ends : (fun race : Race Unit Unit =>
      (race.flights, race.client.link.prologue, race.client.link.channel,
        race.client.subscriptions.topics, race.client.link.written.length))
      (run Client.silent contested { client := settledClient }) =
        ([], .complete, some [], [⟨["b"]⟩, ⟨["c"]⟩], 4) := by cbv
  simp only [Prod.mk.injEq] at begins ends
  obtain ⟨settling, unplugged, quiet⟩ := begins
  obtain ⟨ended, complete, empty, topics, written⟩ := ends
  have announced : after.client.link.prologue.hasAnnounced := complete ▸ ⟨by simp, rfl⟩
  refine ⟨settling, unplugged, quiet, ended, announced, empty, topics, written, ?_⟩
  exact no_topic_missed settling unplugged quiet Client.silent contested ended announced empty

end Race

end Switchboard
