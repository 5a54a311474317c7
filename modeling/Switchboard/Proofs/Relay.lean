/-
# Switchboard.Proofs.Relay -- operations that take two steps

Subscribing and releasing take two steps each: one at the registry, which is locked for
that step only, and if it was the first or the last handler of a topic another one
that hands the frame to the session.  Between the two others take their steps: other
operations, and the driver that writes the prologue and the channel (`Relay.turn`).  An
operation that nothing comes between does what the client does in one step
(`subscribe_uninterrupted`, `unsubscribe_uninterrupted`).

A session whose socket takes every write stays up through all of this
(`Client.InSession`).  What the server will know once all that the session has is
written (`Client.foretold`) changes only where a frame is handed over, and there at its
own topic only.
-/
import Mathlib
import Switchboard.Proofs.Racing
import Switchboard.Proofs.ServerView
import Switchboard.Proofs.Withdrawals

namespace Switchboard

set_option autoImplicit false

/-! ## Operations in two steps -/

/-- What an operation has still to hand over. -/
inductive Errand where
  | announce (topic : Topic)
  | withdraw (topic : Topic)
deriving DecidableEq

/-- The topic that an errand is about. -/
def Errand.topic : Errand → Topic
  | .announce topic | .withdraw topic => topic

/-- The client after an errand was run. -/
def Errand.handOver {κ ω : Type} (errand : Errand) (client : Client κ ω) : Client κ ω :=
  match errand with
  | .announce topic => client.announce topic
  | .withdraw topic => client.withdraw topic

/-- What a release has still to hand over. -/
def Removal.errands : Removal → List Errand
  | .lastForTopic topic => [.withdraw topic]
  | .unknown | .removed => []

/-- The client after its driver's next step in a session: it goes through the prologue, and then
writes what the channel holds. -/
def Client.driven {κ ω : Type} (behave : Behaviour κ ω) (client : Client κ ω) : Client κ ω :=
  match client.link.prologue with
  | .complete => client.emit behave
  | _ => client.proceed behave

/-- A client, and what the operations between their steps have still to hand over. -/
structure Relay (κ ω : Type) where
  client : Client κ ω
  errands : List Errand := []

namespace Relay

variable {κ ω : Type}

/-- Whose turn it is. -/
inductive Turn (κ : Type) where
  /-- A subscription takes its step at the registry. -/
  | register (topic : Topic) (callback : κ)
  /-- A release takes its step at the registry. -/
  | release (handle : HandleId)
  /-- An operation hands its frame over, and is over. -/
  | deliver (place : Nat)
  /-- The driver takes its next step. -/
  | drive

/-- Whether a turn registers canonical topics only. -/
def Turn.Canonical : Turn κ → Prop
  | .register topic _ => topic.Canonical
  | _ => True

/-- A handler is registered, unless its topic is empty; if it is the first of its topic, that is to
be announced. -/
def register (topic : Topic) (callback : κ) (relay : Relay κ ω) : Relay κ ω :=
  if topic.isEmpty then relay
  else
    let (client, _, first) := relay.client.register topic callback
    { client, errands := if first then relay.errands ++ [.announce topic] else relay.errands }

/-- A handle is released; if it was the last of its topic, that is to be withdrawn. -/
def release (handle : HandleId) (relay : Relay κ ω) : Relay κ ω :=
  let (unobserved, found) := relay.client.unobserve handle
  if found then { relay with client := unobserved }
  else
    let (client, removal) := unobserved.release handle
    { client, errands := relay.errands ++ removal.errands }

/-- An errand is run. -/
def deliver (place : Nat) (relay : Relay κ ω) : Relay κ ω :=
  match relay.errands[place]? with
  | none => relay
  | some errand =>
      { client := errand.handOver relay.client, errands := relay.errands.eraseIdx place }

/-- The relay after one turn. -/
def turn (behave : Behaviour κ ω) (turn : Turn κ) (relay : Relay κ ω) : Relay κ ω :=
  match turn with
  | .register topic callback => relay.register topic callback
  | .release handle => relay.release handle
  | .deliver place => relay.deliver place
  | .drive => { relay with client := relay.client.driven behave }

/-- The relay after a list of turns. -/
def run (behave : Behaviour κ ω) (turns : List (Turn κ)) (relay : Relay κ ω) : Relay κ ω :=
  turns.foldl (fun relay turn => relay.turn behave turn) relay

theorem run_append (behave : Behaviour κ ω) (first second : List (Turn κ)) (relay : Relay κ ω) :
    relay.run behave (first ++ second) = (relay.run behave first).run behave second :=
  List.foldl_append

/-! ## Without interruption -/

/-- A subscription that nothing comes between is one step of the client. -/
theorem subscribe_uninterrupted (behave : Behaviour κ ω) (topic : Topic) (callback : κ)
    (relay : Relay κ ω) :
    relay.run behave [.register topic callback, .deliver relay.errands.length] =
      { relay with client := (relay.client.subscribe topic callback).1 } := by
  show (relay.register topic callback).deliver relay.errands.length = _
  by_cases empty : topic.isEmpty = true
  · simp [Relay.register, deliver, Client.subscribe, empty]
  obtain ⟨client, handle, first, registered⟩ : ∃ client handle first,
      relay.client.register topic callback = (client, handle, first) := ⟨_, _, _, rfl⟩
  cases first with
  | false => simp [Relay.register, deliver, Client.subscribe, empty, registered]
  | true =>
      simp [Relay.register, deliver, Client.subscribe, empty, registered, eraseIdx_last,
        Errand.handOver]

/-- A release that nothing comes between is one step of the client. -/
theorem unsubscribe_uninterrupted (behave : Behaviour κ ω) (handle : HandleId)
    (relay : Relay κ ω) :
    relay.run behave [.release handle, .deliver relay.errands.length] =
      { relay with client := (relay.client.unsubscribe handle).1 } := by
  show (relay.release handle).deliver relay.errands.length = _
  unfold Relay.release Client.unsubscribe
  obtain ⟨client, found, unobserved⟩ : ∃ client found,
      relay.client.unobserve handle = (client, found) := ⟨_, _, rfl⟩
  obtain ⟨left, removal, released⟩ : ∃ left removal,
      client.release handle = (left, removal) := ⟨_, _, rfl⟩
  cases found with
  | true => simp [unobserved, deliver]
  | false =>
      cases removal with
      | unknown | removed => simp [unobserved, released, deliver, Removal.errands]
      | lastForTopic topic =>
          simp [unobserved, released, deliver, Removal.errands, eraseIdx_last, Errand.handOver]

end Relay

/-! ## A session that stays up -/

namespace Client

variable {κ ω : Type} {behave : Behaviour κ ω} {client after : Client κ ω}

/-- What the server will know once all that the session has is written. -/
def foretold (client : Client κ ω) : Finset String :=
  client.promised (client.link.channel.getD [])

/-- A session is up whose socket takes every write, withdrawals are announced, and all topics are
canonical. -/
structure InSession (client : Client κ ω) : Prop where
  coherent : client.Coherent
  session : client.link.channel.isSome = true
  room : client.link.room = none
  notify : client.options.notifyUnsubscribe = true
  occupied : client.subscriptions.Occupied
  canonical : ∀ topic ∈ client.subscriptions.held, topic.Canonical
  unread : client.link.prologue = .unread → client.serverView = ∅
  backlog : ∀ frame ∈ client.link.backlog, frame.isRequest = true
  flushing : ∀ left, client.link.prologue = .flushing left → ∀ frame ∈ left, frame.isRequest = true

/-- A step of the driver: the session goes on, and what the server will know stays the same. -/
structure Onwards (client after : Client κ ω) : Prop where
  inSession : after.InSession
  subscriptions : after.subscriptions = client.subscriptions
  number : after.link.sessions = client.link.sessions
  foretold : after.foretold = client.foretold

/-- A step at the registry does not matter to a topic that is registered before and after it. -/
theorem mem_foretold_registry (calm : client.Calm after) (link : after.link = client.link)
    {topic : Topic} (before : topic ∈ client.subscriptions.held)
    (still : topic ∈ after.subscriptions.held) :
    topic.wire ∈ after.foretold ↔ topic.wire ∈ client.foretold := by
  have wires : topic.wire ∈ after.wires ↔ topic.wire ∈ client.wires :=
    iff_of_true ((mem_wires ..).2 ⟨topic, still, rfl⟩) ((mem_wires ..).2 ⟨topic, before, rfl⟩)
  rw [foretold, foretold, link]
  exact mem_foldl_hears_congr _ (mem_announced_calm calm wires)

theorem foretold_of_announced (channel : after.link.channel = client.link.channel)
    (announced : after.announced = client.announced) : after.foretold = client.foretold := by
  rw [foretold, foretold, promised, promised, channel, announced]

namespace InSession

variable (inSession : client.InSession)
include inSession

theorem exists_queue : ∃ queue, client.link.channel = some queue :=
  Option.isSome_iff_exists.1 inSession.session

/-- A step at the registry leaves the session up. -/
theorem of_registry (calm : client.Calm after) (link : after.link = client.link)
    (occupied : after.subscriptions.Occupied)
    (canonical : ∀ topic ∈ after.subscriptions.held, topic.Canonical) : after.InSession where
  coherent := inSession.coherent.calm calm
  session := link ▸ inSession.session
  room := link ▸ inSession.room
  notify := calm.options ▸ inSession.notify
  occupied := occupied
  canonical := canonical
  unread begun := (serverView_calm calm).trans (inSession.unread (link ▸ begun))
  backlog := link ▸ inSession.backlog
  flushing := link ▸ inSession.flushing

theorem setChannel (queue : List Outbound) : (client.setChannel queue).InSession where
  coherent := inSession.coherent.of_session inSession.session rfl rfl rfl
  session := rfl
  room := inSession.room
  notify := inSession.notify
  occupied := inSession.occupied
  canonical := inSession.canonical
  unread := inSession.unread
  backlog := inSession.backlog
  flushing := inSession.flushing

/-- A frame that is handed over goes to the end of the channel. -/
theorem send_eq {queue : List Outbound} (channel : client.link.channel = some queue)
    (frame : Outbound) : (client.send frame).1 = client.setChannel (queue ++ [frame]) := by
  rcases inSession.coherent.send_cases frame with ⟨before, same, sent⟩ | ⟨none, -⟩
  · obtain rfl : before = queue := Option.some.inj (same.symm.trans channel)
    rw [sent]
    rfl
  · simp [channel] at none

theorem isAlive : client.isAlive = true := inSession.coherent.up.trans inSession.session

/-- What running an errand does: its frame goes to the end of the channel. -/
theorem handOver_eq {queue : List Outbound} (channel : client.link.channel = some queue)
    (errand : Errand) : errand.handOver client = client.setChannel (queue ++ [match errand with
      | .announce topic => .subscribe topic
      | .withdraw topic => .unsubscribe topic]) := by
  cases errand with
  | announce topic =>
      rw [Errand.handOver, announce, if_pos inSession.isAlive]
      exact inSession.send_eq channel _
  | withdraw topic =>
      rw [Errand.handOver, withdraw, inSession.notify, inSession.isAlive]
      exact inSession.send_eq channel _

/-- What the server will know of a topic after an errand was run. -/
theorem mem_foretold_handOver (errand : Errand) (wire : String) :
    wire ∈ (errand.handOver client).foretold ↔ match errand with
      | .announce topic => wire = topic.wire ∨ wire ∈ client.foretold
      | .withdraw topic => wire ≠ topic.wire ∧ wire ∈ client.foretold := by
  obtain ⟨queue, channel⟩ := inSession.exists_queue
  have before : client.foretold = queue.foldl Outbound.hears client.announced := by
    rw [foretold, channel]
    rfl
  have after : ∀ frame, (client.setChannel (queue ++ [frame])).foretold =
      frame.hears (queue.foldl Outbound.hears client.announced) := by
    intro frame
    have longer : (client.setChannel (queue ++ [frame])).foretold =
        (queue ++ [frame]).foldl Outbound.hears client.announced := rfl
    rw [longer, List.foldl_append]
    rfl
  rw [inSession.handOver_eq channel errand, after, ← before]
  cases errand with
  | announce topic => exact Finset.mem_insert
  | withdraw topic => exact Finset.mem_erase

theorem handOver (errand : Errand) : (errand.handOver client).InSession ∧
    (errand.handOver client).subscriptions = client.subscriptions ∧
    (errand.handOver client).link.sessions = client.link.sessions := by
  obtain ⟨queue, channel⟩ := inSession.exists_queue
  rw [inSession.handOver_eq channel errand]
  exact ⟨inSession.setChannel _, rfl, rfl⟩

/-! ### The driver -/

theorem onwards_refl : client.Onwards client := ⟨inSession, rfl, rfl, rfl⟩

theorem proceed : client.Onwards (client.proceed behave) := by
  have room := inSession.room
  have takes : client.link.room ≠ some 0 := by simp [room]
  have writes : ∀ prologue frame, (client.setPrologue prologue).write behave frame =
      (client.setPrologue prologue).wrote frame := fun prologue frame => write_free frame room
  unfold Client.proceed
  split
  · rename_i begun
    have fits : (Move.read : Move κ ω).Fits .free client := begun
    refine ⟨⟨inSession.coherent.move fits, inSession.session, room, inSession.notify,
      inSession.occupied, inSession.canonical, ?_, inSession.backlog, ?_⟩, rfl, rfl,
      foretold_of_announced rfl (announced_read begun (inSession.unread begun))⟩
    · simp [setPrologue]
    · simp [setPrologue]
  · rename_i topic left begun
    rw [writes]
    have fits : (Move.announce topic left : Move κ ω).Fits .free client := ⟨begun, takes⟩
    refine ⟨⟨inSession.coherent.move fits, inSession.session, ?_, inSession.notify,
      inSession.occupied, inSession.canonical, ?_, inSession.backlog, ?_⟩, rfl, rfl,
      foretold_of_announced rfl (announced_announce begun)⟩
    · simp [wrote, Link.put, setPrologue, room]
    · simp [wrote, Link.put, setPrologue]
    · simp [wrote, Link.put, setPrologue]
  · rename_i begun
    have fits : (Move.unload : Move κ ω).Fits .free client := begun
    refine ⟨⟨inSession.coherent.move fits, inSession.session, room, inSession.notify,
      inSession.occupied, inSession.canonical, ?_, ?_, fun left flushing => ?_⟩, rfl, rfl,
      foretold_of_announced rfl (announced_unload begun)⟩
    · simp [unload]
    · simp [unload]
    · obtain rfl : client.link.backlog.filter client.isLive = left := by
        simpa [unload] using flushing
      exact fun frame member => inSession.backlog frame (List.mem_filter.1 member).1
  · rename_i frame left begun
    rw [writes]
    have requests := inSession.flushing _ begun
    have fits : (Move.flush frame left : Move κ ω).Fits .free client := ⟨begun, takes⟩
    refine ⟨⟨inSession.coherent.move fits, inSession.session, ?_, inSession.notify,
      inSession.occupied, inSession.canonical, ?_, inSession.backlog, fun other flushing => ?_⟩,
      rfl, rfl, foretold_of_announced rfl
        (announced_flush begun (requests frame List.mem_cons_self))⟩
    · simp [wrote, Link.put, setPrologue, room]
    · simp [wrote, Link.put, setPrologue]
    · obtain rfl : left = other := by simpa [wrote, Link.put, setPrologue] using flushing
      exact fun other member => requests other (List.mem_cons_of_mem _ member)
  · rename_i begun
    have fits : (Move.finish : Move κ ω).Fits .free client := begun
    refine ⟨⟨inSession.coherent.move fits, inSession.session, room, inSession.notify,
      inSession.occupied, inSession.canonical, ?_, inSession.backlog, ?_⟩, rfl, rfl,
      foretold_of_announced rfl (announced_finish begun)⟩
    · simp [setPrologue]
    · simp [setPrologue]
  · exact inSession.onwards_refl

theorem emit : client.Onwards (client.emit behave) := by
  have room := inSession.room
  unfold Client.emit
  split
  · rename_i frame queue complete channel
    have wrote : (client.setChannel queue).write behave frame =
        (client.setChannel queue).wrote frame := write_free frame room
    have fits : (Move.emit frame queue : Move κ ω).Fits .free client :=
      ⟨complete, channel, by simp [room]⟩
    show client.Onwards ((client.setChannel queue).write behave frame)
    rw [wrote]
    refine ⟨⟨inSession.coherent.move fits, rfl, ?_, inSession.notify, inSession.occupied,
      inSession.canonical, ?_, inSession.backlog, inSession.flushing⟩, rfl, rfl, ?_⟩
    · simp [Client.wrote, Link.put, Client.setChannel, room]
    · simp [Client.wrote, Link.put, Client.setChannel, complete]
    · have before : client.foretold = client.promised (frame :: queue) := by
        rw [foretold, channel]
        rfl
      rw [before]
      exact promised_emit complete queue
  · exact inSession.onwards_refl

theorem driven : client.Onwards (client.driven behave) := by
  unfold Client.driven
  split
  · exact inSession.emit
  · exact inSession.proceed

end InSession

end Client

end Switchboard
