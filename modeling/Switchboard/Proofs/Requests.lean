/-
# Switchboard.Proofs.Requests -- where the request of a call is

The request of a call is handed to the channel or held in the backlog; it moves from
the channel to the socket, from a channel whose session ended to the backlog, and
from the backlog through the prologue of the next session to the socket
(`Client.places`).  Each of these moves has its own idea of which requests to leave
out.  What holds all the time is that a request is nowhere twice, and that it is
somewhere as long as its call waits, if calls are queued (`Client.Delivered`).

A move carries the requests from place to place (`Client.Carries`): none is doubled,
none is made up, and none is lost whose call waits.  Only a new call adds one.

* `requests_delivered`: where the requests are in every run.
-/
import Mathlib
import Switchboard.Proofs.Ledger
import Switchboard.Proofs.Paths

namespace Switchboard

set_option autoImplicit false

/-- The requests that a prologue has taken over from the backlog and not written yet. -/
def Prologue.unwritten : Prologue → List Outbound
  | .flushing left => left
  | .unread | .announcing _ | .complete => []

/-- How many of the frames are requests of an identifier. -/
def Outbound.copies (id : CorrelationId) (frames : List Outbound) : Nat :=
  frames.countP (fun frame => frame.requestId = some id)

namespace Outbound

variable {id : CorrelationId}

@[simp]
theorem copies_nil : copies id [] = 0 := rfl

@[simp]
theorem copies_append (first second : List Outbound) :
    copies id (first ++ second) = copies id first + copies id second :=
  List.countP_append

theorem copies_cons (frame : Outbound) (frames : List Outbound) :
    copies id (frame :: frames) = copies id [frame] + copies id frames :=
  copies_append [frame] frames

theorem copies_aside {frames : List Outbound} (aside : ∀ frame ∈ frames, frame.requestId = none) :
    copies id frames = 0 := by
  refine List.countP_eq_zero.2 fun frame member => ?_
  simp [aside frame member]

theorem copies_filter_le (id : CorrelationId) (keep : Outbound → Bool) (frames : List Outbound) :
    copies id (frames.filter keep) ≤ copies id frames :=
  List.filter_sublist.countP_le

/-- A filter that keeps the requests of an identifier keeps their number. -/
theorem copies_filter {keep : Outbound → Bool} {frames : List Outbound}
    (kept : ∀ frame ∈ frames, frame.requestId = some id → keep frame = true) :
    copies id (frames.filter keep) = copies id frames := by
  unfold copies
  rw [List.countP_filter]
  refine List.countP_congr fun frame member => ?_
  simp only [Bool.and_eq_true, decide_eq_true_eq]
  exact ⟨And.left, fun named => ⟨named, kept frame member named⟩⟩

end Outbound

namespace Client

variable {κ ω : Type} {licence : Licence κ ω}

/-- The frames that have been written, and those that wait to be. -/
def places (client : Client κ ω) : List Outbound :=
  client.link.written.map (·.frame) ++ client.link.prologue.unwritten ++
    client.link.channel.getD [] ++ client.link.backlog

/-- How many requests of an identifier there are. -/
def copies (id : CorrelationId) (client : Client κ ω) : Nat := Outbound.copies id client.places

/-- What a move may do with requests, when it adds some: it doubles none, makes none up, and loses
none whose call waits, if calls are queued and no write fails. -/
structure Carries (before : Client κ ω) (added : List Outbound) (after : Client κ ω) : Prop where
  fewer : ∀ id, after.copies id ≤ before.copies id + Outbound.copies id added
  origin : ∀ frame ∈ after.places, frame.isRequest = true → frame ∈ before.places ∨ frame ∈ added
  kept : before.options.queueCalls = true → before.link.room = none → ∀ id,
    after.calls.contains id = true → before.copies id + Outbound.copies id added ≤ after.copies id

variable {client after : Client κ ω}

theorem copies_eq (id : CorrelationId) (client : Client κ ω) :
    client.copies id = Outbound.copies id (client.link.written.map (·.frame)) +
      Outbound.copies id client.link.prologue.unwritten +
      Outbound.copies id (client.link.channel.getD []) +
      Outbound.copies id client.link.backlog := by
  simp only [copies, places, Outbound.copies_append]

theorem Carries.of_perm {added : List Outbound}
    (same : after.places.Perm (client.places ++ added)) : client.Carries added after := by
  have copies : ∀ id, after.copies id = client.copies id + Outbound.copies id added :=
    fun id => (same.countP_eq _).trans (Outbound.copies_append _ _)
  refine ⟨fun id => (copies id).le, fun frame member _ => ?_, fun _ _ id _ => (copies id).ge⟩
  exact List.mem_append.1 (same.subset member)

/-- Where no frame moves, nothing is to be carried. -/
theorem Carries.of_eq (same : after.places = client.places) : client.Carries [] after :=
  .of_perm (.of_eq (by simp [same]))

/-- A frame that is no request may be written or handed over. -/
theorem Carries.of_aside (frames : List Outbound)
    (aside : ∀ frame ∈ frames, frame.requestId = none)
    (more : after.places.Perm (client.places ++ frames)) : client.Carries [] after := by
  obtain ⟨fewer, origin, kept⟩ := Carries.of_perm more
  have none : ∀ id, Outbound.copies id frames = 0 := fun id => Outbound.copies_aside aside
  simp only [none] at fewer kept
  refine ⟨fewer, fun frame member request => ?_, kept⟩
  rcases origin frame member request with before | added
  · exact .inl before
  · simp [Outbound.isRequest, aside frame added] at request

/-- Requests may be left out of the backlog, except those whose calls wait. -/
theorem Carries.of_filter (keep : Outbound → Bool)
    (written : after.link.written = client.link.written)
    (prologue : after.link.prologue = client.link.prologue)
    (channel : after.link.channel = client.link.channel)
    (backlog : after.link.backlog = client.link.backlog.filter keep)
    (keeps : ∀ id, after.calls.contains id = true →
      ∀ frame ∈ client.link.backlog, frame.requestId = some id → keep frame = true) :
    client.Carries [] after where
  fewer id := by
    have fewer := Outbound.copies_filter_le id keep client.link.backlog
    rw [copies_eq, copies_eq, written, prologue, channel, backlog, Outbound.copies_nil]
    omega
  origin frame member _ := by
    simp only [places, written, prologue, channel, backlog, List.mem_append] at member ⊢
    exact .inl (member.imp_right fun kept => (List.mem_filter.1 kept).1)
  kept _ _ id waits := by
    rw [copies_eq, copies_eq, written, prologue, channel, backlog,
      Outbound.copies_filter (keeps id waits), Outbound.copies_nil]
    exact Nat.le_refl _

/-! ## Moves that carry -/

theorem isLive_of_named {id : CorrelationId} (waits : client.calls.contains id = true)
    {frame : Outbound} (named : frame.requestId = some id) : client.isLive frame = true := by
  simpa [isLive, named] using waits

theorem places_wrote (frame : Outbound) (client : Client κ ω) :
    (client.wrote frame).places.Perm (client.places ++ [frame]) := by
  have swapped : ([frame] ++ (client.link.prologue.unwritten ++ client.link.channel.getD [] ++
      client.link.backlog)).Perm (client.link.prologue.unwritten ++
        client.link.channel.getD [] ++ client.link.backlog ++ [frame]) := List.perm_append_comm
  simpa [places, wrote, Link.put] using swapped.append_left (client.link.written.map (·.frame))

theorem Carries.bystander (calm : client.Calm after) (bystander : client.Bystander after) :
    client.Carries [] after := by
  obtain ⟨frames, aside, channel⟩ := bystander.channel
  cases session : client.link.channel with
  | none =>
      refine .of_eq ?_
      simp [places, calm.written, calm.prologue, bystander.backlog, channel, session]
  | some queue =>
      refine .of_aside frames aside ?_
      have swapped : (frames ++ client.link.backlog).Perm (client.link.backlog ++ frames) :=
        List.perm_append_comm
      simpa [places, calm.written, calm.prologue, bystander.backlog, channel, session] using
        ((swapped.append_left queue).append_left client.link.prologue.unwritten).append_left
          (client.link.written.map (·.frame))

/-- The call of an identifier is over, and with it the requests that wait for it. -/
theorem Carries.discard {id : CorrelationId} (written : after.link.written = client.link.written)
    (prologue : after.link.prologue = client.link.prologue)
    (channel : after.link.channel = client.link.channel)
    (backlog : after.link.backlog =
      client.link.backlog.filter (fun frame => frame.requestId ≠ some id))
    (pending : after.calls.pending = client.calls.pending.filter (fun call => call.id ≠ id)) :
    client.Carries [] after := by
  refine .of_filter _ written prologue channel backlog fun other waits frame _ named => ?_
  obtain ⟨call, member, rfl⟩ := (CallTable.contains_iff _ _).1 waits
  rw [pending] at member
  have different := (List.mem_filter.1 member).2
  simpa [named] using different

theorem Carries.unload (begun : client.link.prologue = .announcing []) :
    client.Carries [] client.unload where
  fewer id := by
    have fewer := Outbound.copies_filter_le id client.isLive client.link.backlog
    rw [copies_eq, copies_eq, begun]
    simp only [Client.unload, Prologue.unwritten, Outbound.copies_nil]
    omega
  origin frame member _ := by
    simp only [places, Client.unload, Prologue.unwritten, begun, List.mem_append,
      List.mem_filter, List.not_mem_nil, or_false] at member ⊢
    tauto
  kept _ _ id waits := by
    have same : Outbound.copies id (client.link.backlog.filter client.isLive) =
        Outbound.copies id client.link.backlog :=
      Outbound.copies_filter fun frame _ named => isLive_of_named waits named
    rw [copies_eq, copies_eq, begun]
    simp only [Client.unload, Prologue.unwritten, Outbound.copies_nil, same]
    omega

/-- What holding one frame does to the requests of an identifier. -/
theorem hold_copies (id : CorrelationId) (frame : Outbound) (client : Client κ ω) :
    Outbound.copies id (client.hold frame).1.link.backlog ≤
        Outbound.copies id client.link.backlog + Outbound.copies id [frame] ∧
      (client.options.queueCalls = true → client.calls.contains id = true →
        Outbound.copies id client.link.backlog + Outbound.copies id [frame] ≤
          Outbound.copies id (client.hold frame).1.link.backlog) := by
  rcases client.hold_cases frame with ⟨refused, dead⟩ | ⟨-, held⟩
  · rw [refused]
    refine ⟨Nat.le_add_right _ _, fun queues waits => ?_⟩
    have other : frame.requestId ≠ some id := fun named => by
      have live := isLive_of_named waits named
      simp [dead queues] at live
    simp [Outbound.copies, other]
  · have fewer := Outbound.copies_filter_le id client.isLive client.link.backlog
    rw [held]
    refine ⟨?_, fun _ waits => ?_⟩
    · rw [Outbound.copies_append]
      omega
    · rw [Outbound.copies_append,
        Outbound.copies_filter fun frame _ named => isLive_of_named waits named]

/-- What holding frames, one after the other, does to the requests of an identifier. -/
theorem holdAll_copies (id : CorrelationId) (left : List Outbound) (client : Client κ ω) :
    Outbound.copies id (client.holdAll left).link.backlog ≤
        Outbound.copies id client.link.backlog + Outbound.copies id left ∧
      (client.options.queueCalls = true → client.calls.contains id = true →
        Outbound.copies id client.link.backlog + Outbound.copies id left ≤
          Outbound.copies id (client.holdAll left).link.backlog) := by
  induction left generalizing client with
  | nil => exact ⟨Nat.le_refl _, fun _ _ => Nat.le_refl _⟩
  | cons frame left ih =>
      obtain ⟨fewer, kept⟩ := hold_copies id frame client
      obtain ⟨backlog, held⟩ := client.hold_link frame
      obtain ⟨fewerThen, keptThen⟩ := ih (client.hold frame).1
      rw [Outbound.copies_cons frame left, holdAll_cons]
      refine ⟨by omega, fun queues waits => ?_⟩
      have now := kept queues waits
      have next := keptThen (by rw [held]; exact queues) (by rw [held]; exact waits)
      omega

/-- What is left of the channel is a part of it. -/
theorem Move.Fits.channel {queue : List Outbound} (fits : (Move.detach queue).Fits licence client) :
    ∃ lost, client.link.channel = some (lost ++ queue) := by
  rcases fits with ⟨-, channel⟩ | ⟨-, lost, channel⟩
  · exact ⟨[], channel⟩
  · exact ⟨lost.toList, channel⟩

/-- A session that ends leaves its channel to the backlog.  It loses what its prologue has taken
over only if the socket takes no more writes. -/
theorem Carries.detach {queue : List Outbound} (fits : (Move.detach queue).Fits licence client) :
    client.Carries [] ((Move.detach queue).apply client) := by
  obtain ⟨lost, channel⟩ := fits.channel
  have held := fun id => holdAll_copies id queue client.unplugged
  have after : ∀ id, ((Move.detach queue).apply client).copies id =
      Outbound.copies id (client.link.written.map (·.frame)) +
        Outbound.copies id (client.unplugged.holdAll queue).link.backlog := by
    intro id
    rw [apply_detach, copies_eq]
    rfl
  refine ⟨fun id => ?_, fun frame member _ => ?_, fun queues room id waits => ?_⟩
  · have fewer : Outbound.copies id (client.unplugged.holdAll queue).link.backlog ≤
        Outbound.copies id client.link.backlog + Outbound.copies id queue := (held id).1
    rw [after, copies_eq, channel]
    simp only [Outbound.copies_append, Option.getD_some, Outbound.copies_nil]
    omega
  · rw [apply_detach] at member
    simp only [places, unplugged, channel, Prologue.unwritten, Option.getD_some, Option.getD_none,
      List.append_nil, List.mem_append] at member ⊢
    rcases member with inWritten | inBacklog
    · exact .inl (.inl (.inl (.inl inWritten)))
    · rcases holdAll_origin inBacklog with already | ⟨left, -⟩
      · exact .inl (.inr already)
      · exact .inl (.inl (.inr (.inr left)))
  · rw [apply_detach] at waits
    have kept : Outbound.copies id client.link.backlog + Outbound.copies id queue ≤
        Outbound.copies id (client.unplugged.holdAll queue).link.backlog :=
      (held id).2 queues waits
    rcases fits with ⟨complete, channel⟩ | ⟨full, -⟩
    · rw [after, copies_eq, channel, complete]
      simp only [Prologue.unwritten, Option.getD_some, Outbound.copies_nil]
      omega
    · simp [room] at full

/-- The request of a new call goes to the channel or to the backlog; it goes nowhere only if calls
are not queued. -/
theorem Carries.handOver (coherent : client.Coherent) {issued : Issued}
    (books : client.Books issued) (limit : Option Span) :
    client.Carries [issued.request] (client.handOver issued limit) := by
  rcases coherent.handOver_cases books limit with
    ⟨queue, channel, sent⟩ | ⟨channel, ⟨-, held⟩ | ⟨off, lost⟩⟩
  · rw [sent]
    refine .of_perm ?_
    have swapped : ([issued.request] ++ client.link.backlog).Perm
        (client.link.backlog ++ [issued.request]) := List.perm_append_comm
    simpa [places, channel] using
      ((swapped.append_left queue).append_left client.link.prologue.unwritten).append_left
        (client.link.written.map (·.frame))
  · rw [held]
    have before : ∀ id, client.copies id =
        Outbound.copies id (client.link.written.map (·.frame)) +
          Outbound.copies id client.link.prologue.unwritten +
          Outbound.copies id client.link.backlog := by
      intro id
      rw [copies_eq, channel]
      simp
    refine ⟨fun id => ?_, fun frame member _ => ?_, fun _ _ id waits => ?_⟩
    · have fewer := Outbound.copies_filter_le id (client.book issued).isLive client.link.backlog
      rw [copies_eq, before]
      simp only [channel, Option.getD_none, Outbound.copies_append, Outbound.copies_nil]
      omega
    · simp only [places, channel, Option.getD_none, List.append_nil, List.mem_append,
        List.mem_filter] at member ⊢
      tauto
    · have kept : Outbound.copies id (client.link.backlog.filter (client.book issued).isLive) =
          Outbound.copies id client.link.backlog :=
        Outbound.copies_filter fun frame _ named => isLive_of_named waits named
      rw [before, copies_eq]
      simp only [channel, Option.getD_none, Outbound.copies_append, Outbound.copies_nil, kept]
      omega
  · rw [lost]
    refine ⟨fun id => Nat.le_add_right _ _, fun frame member _ => .inl member, fun queues => ?_⟩
    simp [off] at queues

/-- The requests that a move adds. -/
def Move.added : Move κ ω → List Outbound
  | .call issued _ => [issued.request]
  | _ => []

/-- **Every move carries the requests.** -/
theorem Carries.move (coherent : client.Coherent) {move : Move κ ω}
    (fits : move.Fits licence client) : client.Carries move.added (move.apply client) := by
  cases move with
  | aside act => exact .bystander (perform_calm act client) (perform_bystander fits.2 client)
  | call issued limit => exact .handOver coherent fits.2 limit
  | unsent issued =>
      have carries : (client.book issued).Carries [] (client.failUnsent issued) :=
        .discard rfl rfl rfl rfl (CallTable.pending_finish _ issued.call.id _)
      exact ⟨carries.fewer, carries.origin, carries.kept⟩
  | cancel id => exact .discard rfl rfl rfl rfl (CallTable.pending_finish _ id _)
  | depart awaited farewell =>
      exact .discard rfl rfl rfl rfl (CallTable.pending_finish _ awaited.id _)
  | steer phase state endpoint backoff delay => exact .of_eq rfl
  | install room =>
      refine .of_eq ?_
      simp [places, Move.apply, moveTo, openSession, coherent.complete fits.2, fits.2,
        Prologue.unwritten]
  | read =>
      have begun : client.link.prologue = .unread := fits
      refine .of_eq ?_
      simp [places, Move.apply, setPrologue, begun, Prologue.unwritten]
  | announce topic left =>
      refine .of_aside [.subscribe topic] (by simp [Outbound.requestId]) ?_
      have same : (client.setPrologue (.announcing left)).places = client.places := by
        simp [places, setPrologue, fits.1, Prologue.unwritten]
      exact same ▸ places_wrote (.subscribe topic) _
  | unload => exact .unload fits
  | flush frame left =>
      refine .of_eq ?_
      simp [places, Move.apply, setPrologue, wrote, Link.put, fits.1, Prologue.unwritten]
  | finish =>
      have begun : client.link.prologue = .flushing [] := fits
      refine .of_eq ?_
      simp [places, Move.apply, setPrologue, begun, Prologue.unwritten]
  | emit frame queue =>
      refine .of_eq ?_
      simp [places, Move.apply, setChannel, wrote, Link.put, fits.1, fits.2.1, Prologue.unwritten]
  | answer id =>
      exact .of_aside [.pong id] (by simp [Outbound.requestId]) (places_wrote (.pong id) client)
  | settle id reply => exact .of_eq rfl
  | detach queue => exact .detach fits
  | failAll => exact .of_eq rfl
  | clear =>
      refine .of_filter (fun _ => false) rfl rfl rfl ?_ fun id waits => ?_
      · simp [Move.apply, Client.rejectAll]
      · simp [Move.apply, Client.rejectAll, CallTable.rejectAll, CallTable.contains,
          CallTable.find?] at waits

/-! ## The invariant -/

/-- A request is that of a call that was registered, and is nowhere twice. -/
structure Traced (client : Client κ ω) : Prop where
  origin : ∀ frame ∈ client.places, frame.isRequest = true →
    ∃ issued ∈ client.issued, frame = issued.request
  once : ∀ id, client.copies id ≤ 1

/-- Where the requests are, if no write fails. -/
structure Delivered (client : Client κ ω) : Prop extends Traced client where
  kept : client.options.queueCalls = true → ∀ call ∈ client.calls.pending,
    1 ≤ client.copies call.id
  off : client.options.queueCalls = false →
    client.link.backlog = [] ∧ client.link.prologue.unwritten = []
  room : client.link.room = none

theorem copies_request (issued : Issued) :
    Outbound.copies issued.call.id [issued.request] = 1 := by
  simp [Outbound.copies, Issued.request, Outbound.requestId]

theorem exists_of_copies {id : CorrelationId} {frames : List Outbound}
    (some : 0 < Outbound.copies id frames) : ∃ frame ∈ frames, frame.requestId = .some id := by
  simpa [Outbound.copies] using some

/-- What waits after a move has waited before it, or its request was added. -/
theorem pending_move {move : Move κ ω} (fits : move.Fits licence client) {call : PendingCall}
    (waits : call ∈ (move.apply client).calls.pending) :
    call ∈ client.calls.pending ∨ 1 ≤ Outbound.copies call.id move.added := by
  have finished : ∀ {id ending}, call ∈ (client.calls.finish id ending).1.pending →
      call ∈ client.calls.pending := by
    intro id ending member
    rw [CallTable.pending_finish] at member
    exact (List.mem_filter.1 member).1
  cases move with
  | aside act => exact .inl ((perform_bystander fits.2 client).calls ▸ waits)
  | call issued limit =>
      rw [Move.apply, handOver_calls, fits.2.pending] at waits
      rcases List.mem_append.1 waits with before | now
      · exact .inl before
      · exact .inr (List.mem_singleton.1 now ▸ (copies_request issued).ge)
  | unsent issued =>
      have kept : call ∈ (client.book issued).calls.pending.filter
          (fun other => other.id ≠ issued.call.id) :=
        CallTable.pending_finish (client.book issued).calls issued.call.id
          (fun _ => .closed) ▸ waits
      obtain ⟨member, different⟩ := List.mem_filter.1 kept
      rw [fits.1.pending] at member
      rcases List.mem_append.1 member with before | now
      · exact .inl before
      · simp [List.mem_singleton.1 now] at different
  | cancel id => exact .inl (finished waits)
  | depart awaited farewell => exact .inl (finished waits)
  | settle id reply => exact .inl (finished waits)
  | failAll | clear => simp [Move.apply, Client.rejectAll, CallTable.rejectAll] at waits
  | detach queue =>
      rw [apply_detach] at waits
      exact .inl waits
  | _ => exact .inl waits

theorem issued_move {move : Move κ ω} (fits : move.Fits licence client) {issued : Issued}
    (member : issued ∈ client.issued) : issued ∈ (move.apply client).issued := by
  cases move with
  | aside act => exact (perform_bystander fits.2 client).issued.symm ▸ member
  | call other limit =>
      rw [Move.apply, handOver_issued]
      exact List.mem_append_left _ member
  | unsent other => exact List.mem_append_left _ member
  | detach queue =>
      rw [apply_detach]
      exact member
  | _ => exact member

theorem issued_added {move : Move κ ω} {frame : Outbound} (added : frame ∈ move.added) :
    ∃ issued ∈ (move.apply client).issued, frame = issued.request := by
  cases move with
  | call issued limit =>
      refine ⟨issued, ?_, by simpa [Move.added] using added⟩
      rw [Move.apply, handOver_issued]
      exact List.mem_append_right _ List.mem_cons_self
  | _ => simp [Move.added] at added

theorem holdAll_off (client : Client κ ω) (off : client.options.queueCalls = false)
    (left : List Outbound) : client.holdAll left = client := by
  induction left with
  | nil => rfl
  | cons frame left ih => rw [holdAll_cons, hold_refused client frame off, ih]

/-- Without queueing nothing is ever held. -/
theorem off_move (coherent : client.Coherent) {move : Move κ ω} (fits : move.Fits licence client)
    (off : client.options.queueCalls = false)
    (empty : client.link.backlog = [] ∧ client.link.prologue.unwritten = []) :
    (move.apply client).link.backlog = [] ∧ (move.apply client).link.prologue.unwritten = [] := by
  obtain ⟨backlog, unwritten⟩ := empty
  cases move with
  | aside act =>
      rw [Move.apply, (perform_bystander fits.2 client).backlog, (perform_calm act client).prologue]
      exact ⟨backlog, unwritten⟩
  | call issued limit =>
      rcases coherent.handOver_cases fits.2 limit with
        ⟨queue, channel, sent⟩ | ⟨channel, ⟨queues, -⟩ | ⟨-, lost⟩⟩
      · rw [Move.apply, sent]
        exact ⟨backlog, unwritten⟩
      · simp [off] at queues
      · rw [Move.apply, lost]
        exact ⟨backlog, unwritten⟩
  | unsent issued | cancel id | depart awaited farewell =>
      exact ⟨List.filter_eq_nil_iff.2 (by simp [backlog, book]), unwritten⟩
  | install room => exact ⟨backlog, rfl⟩
  | read => exact ⟨backlog, rfl⟩
  | announce topic left => exact ⟨backlog, rfl⟩
  | unload => exact ⟨rfl, by simp [Move.apply, Client.unload, Prologue.unwritten, backlog]⟩
  | flush frame left => simp [fits.1, Prologue.unwritten] at unwritten
  | finish => exact ⟨backlog, rfl⟩
  | detach queue =>
      have nothing : client.unplugged.holdAll queue = client.unplugged :=
        holdAll_off client.unplugged off queue
      rw [apply_detach, nothing]
      exact ⟨backlog, rfl⟩
  | clear => exact ⟨rfl, unwritten⟩
  | steer | emit | answer | settle | failAll => exact ⟨backlog, unwritten⟩

/-- Anything may happen but a write that fails. -/
def Licence.reliable : Licence κ ω := ⟨fun _ => True, (· = none)⟩

theorem room_move {move : Move κ ω} (fits : move.Fits .reliable client)
    (room : client.link.room = none) : (move.apply client).link.room = none := by
  cases move with
  | aside act => exact (perform_calm act client).room.trans room
  | call issued limit => exact (client.handOver_calm issued limit).room.trans room
  | install room => exact fits.1
  | announce | flush | emit | answer =>
      simp [Move.apply, wrote, Link.put, setPrologue, setChannel, room]
  | detach queue =>
      rw [apply_detach]
      rfl
  | _ => exact room

/-- No frame yet bears the identifier of a call that is registered now. -/
theorem Traced.fresh (traced : client.Traced) (ledger : client.Ledger) {issued : Issued}
    (books : client.Books issued) (distinct : (client.book issued).DistinctDraws) :
    client.copies issued.call.id = 0 := by
  by_contra some
  obtain ⟨frame, member, named⟩ := exists_of_copies (Nat.pos_of_ne_zero some)
  obtain ⟨other, otherMember, rfl⟩ :=
    traced.origin frame member (by simp [Outbound.isRequest, named])
  have sameId : other.call.id = issued.call.id := by
    simpa [Issued.request, Outbound.requestId] using named
  -- the call registered now would be one of those registered before
  have ledgerThen := ledger.enter books distinct none client.link
  have same := ledgerThen.issued_unique_id distinct
    (List.mem_append_left _ otherMember) (List.mem_append_right _ List.mem_cons_self) sameId
  have less := ledger.ticket_lt otherMember
  rw [same, books.ticket, ledger.drawn] at less
  exact Nat.lt_irrefl _ less

theorem Traced.move (traced : client.Traced) (coherent : client.Coherent) (ledger : client.Ledger)
    {move : Move κ ω} (fits : move.Fits licence client)
    (distinct : (move.apply client).DistinctDraws) : (move.apply client).Traced := by
  have carries := Carries.move coherent fits
  constructor
  · intro frame member request
    rcases carries.origin frame member request with before | added
    · obtain ⟨issued, issuedMember, same⟩ := traced.origin frame before request
      exact ⟨issued, issued_move fits issuedMember, same⟩
    · exact issued_added added
  · intro id
    have fewer := carries.fewer id
    have before := traced.once id
    cases move with
    | call issued limit =>
        by_cases same : id = issued.call.id
        · have none := traced.fresh ledger fits.2 (distinctDraws_of_handOver distinct)
          have one := copies_request issued
          rw [same] at fewer ⊢
          simp only [Move.added] at fewer
          omega
        · have none : Outbound.copies id [issued.request] = 0 := by
            simpa [Outbound.copies, Issued.request, Outbound.requestId] using Ne.symm same
          simp only [Move.added, none] at fewer
          omega
    | _ => exact fewer.trans before

/-- **Every move keeps the invariant**, as long as identifiers are drawn distinct and no write
fails. -/
theorem Delivered.move (delivered : client.Delivered) (coherent : client.Coherent)
    (ledger : client.Ledger) {move : Move κ ω} (fits : move.Fits .reliable client)
    (distinct : (move.apply client).DistinctDraws) : (move.apply client).Delivered := by
  have options := (move.apply_constant client).1
  refine ⟨delivered.toTraced.move coherent ledger fits distinct, ?_, ?_, ?_⟩
  · intro queues call waits
    rw [options] at queues
    have contained : (move.apply client).calls.contains call.id = true :=
      (CallTable.contains_iff _ _).2 ⟨call, waits, rfl⟩
    have kept := (Carries.move coherent fits).kept queues delivered.room call.id contained
    rcases pending_move fits waits with before | added
    · have somewhere := delivered.kept queues call before
      omega
    · omega
  · intro off
    rw [options] at off
    exact off_move coherent fits off (delivered.off off)
  · exact room_move fits delivered.room

theorem start_traced (options : Options) (token : Option Json) (candidate : Nat → CorrelationId)
    (desk : ω) : (start options token candidate desk : Client κ ω).Traced where
  origin := by simp [start, new, places, Prologue.unwritten]
  once _ := Nat.zero_le _

theorem start_delivered (options : Options) (token : Option Json) (candidate : Nat → CorrelationId)
    (desk : ω) : (start options token candidate desk : Client κ ω).Delivered where
  toTraced := start_traced options token candidate desk
  kept := by simp [start, new]
  off _ := ⟨rfl, rfl⟩
  room := rfl

/-! ## Runs -/

/-- The frames that were written, that wait in the channel, and that wait in the backlog. -/
def requestsOf (id : CorrelationId) (client : Client κ ω) : List Outbound :=
  (client.link.written.map (·.frame) ++ client.link.channel.getD [] ++ client.link.backlog).filter
    (fun frame => frame.requestId = some id)

theorem filter_eq_singleton {id : CorrelationId} {frames : List Outbound} {frame : Outbound}
    (one : Outbound.copies id frames = 1)
    (only : ∀ other ∈ frames, other.requestId = some id → other = frame) :
    frames.filter (fun frame => frame.requestId = some id) = [frame] := by
  rw [Outbound.copies, List.countP_eq_length_filter] at one
  obtain ⟨other, same⟩ := List.length_eq_one_iff.1 one
  have member : other ∈ frames.filter (fun frame => frame.requestId = some id) := by
    rw [same]
    exact List.mem_cons_self
  obtain ⟨inFrames, named⟩ := List.mem_filter.1 member
  rw [same, only other inFrames (by simpa using named)]

/-- **No request is lost, and none is doubled.**  In every run in which no write fails and
identifiers are drawn distinct:

* if calls are queued, and no prologue is under way, then every call that waits was registered
  with a request, and of all frames written in any session, waiting in the channel or waiting in
  the backlog exactly one bears its identifier, once: that request;
* if calls are not queued, nothing is ever in the backlog;
* no identifier is ever written twice. -/
theorem requests_delivered {behave : Behaviour κ ω} (within : behave.Within fun _ => True)
    {events : List (Event κ ω)} (reliable : ∀ event ∈ events, event.Within .reliable)
    (options : Options) (token : Option Json) (candidate : Nat → CorrelationId) (desk : ω)
    (distinct : (run behave events (start options token candidate desk)).DistinctDraws) :
    let client := run behave events (start options token candidate desk)
    (options.queueCalls = true → client.link.prologue = .complete → ∀ call ∈ client.calls.pending,
        ∃ issued ∈ client.issued, issued.call = call ∧
          client.requestsOf call.id = [issued.request]) ∧
      (options.queueCalls = false → client.link.backlog = []) ∧
      ∀ id,
        (client.link.written.filter (fun sent => sent.frame.requestId = some id)).length ≤ 1 := by
  intro client
  obtain ⟨moves, path⟩ := run_path within reliable options token candidate desk
  have ledger : client.Ledger := path.ledger (start_ledger _ _ _ _) distinct
  have delivered : client.Delivered :=
    path.preserves_of_distinct
      (fun _ _ coherent ledger delivered fits distinct =>
        delivered.move coherent ledger fits distinct)
      (start_poised options token candidate desk).toCoherent (start_ledger _ _ _ _)
      (start_delivered _ _ _ _) distinct
  have constant : client.options = options := path.options
  refine ⟨fun queues complete call waits => ?_, fun off => ?_, fun id => ?_⟩
  · obtain ⟨issued, member, rfl⟩ := ledger.issued_of_pending waits
    refine ⟨issued, member, rfl, ?_⟩
    have places : client.places = client.link.written.map (·.frame) ++
        client.link.channel.getD [] ++ client.link.backlog := by
      simp [Client.places, complete, Prologue.unwritten]
    have one : client.copies issued.call.id = 1 :=
      Nat.le_antisymm (delivered.once _) (delivered.kept (constant ▸ queues) issued.call waits)
    rw [requestsOf, ← places]
    refine filter_eq_singleton one fun other otherMember named => ?_
    obtain ⟨source, sourceMember, rfl⟩ :=
      delivered.origin other otherMember (by simp [Outbound.isRequest, named])
    have sameId : source.call.id = issued.call.id := by
      simpa [Issued.request, Outbound.requestId] using named
    rw [ledger.issued_unique_id distinct sourceMember member sameId]
  · exact (delivered.off (constant ▸ off)).1
  · have once := delivered.once id
    rw [copies_eq, Outbound.copies, List.countP_map, List.countP_eq_length_filter] at once
    have same : (client.link.written.filter (fun sent => sent.frame.requestId = some id)).length =
        (client.link.written.filter ((fun frame : Outbound => decide (frame.requestId = some id)) ∘
          (·.frame))).length := rfl
    omega

/-- A call made before there is a link, one made during the first session, and the link is lost. -/
def twoCalls : List (Event Unit Unit) :=
  [.act (.call ⟨["orders", "list"]⟩ .null none), .connect true "ws://a", .attempt, .opened,
    .settled none, .proceed, .proceed, .proceed, .proceed,
    .act (.call ⟨["orders", "add"]⟩ .null none), .lose]

/-- A behaviour without callbacks that do anything. -/
def silent : Behaviour Unit Unit := fun _ _ client => (client, .returned)

theorem silent_within (allowed : Act Unit Unit → Prop) : silent.Within allowed :=
  fun _ _ _ => ⟨[], by simp, rfl⟩

/-- In a run that draws distinct identifiers they are drawn distinct. -/
theorem distinctDraws_run {licence : Licence κ ω} {behave : Behaviour κ ω}
    (within : behave.Within licence.act) {events : List (Event κ ω)}
    (allowed : ∀ event ∈ events, event.Within licence) {options : Options} {token : Option Json}
    {candidate : Nat → CorrelationId} {desk : ω} {drawn : Nat}
    (count : (run behave events (start options token candidate desk)).idsDrawn = drawn)
    (distinct : ∀ first < drawn, ∀ second < drawn,
      candidate first = candidate second → first = second) :
    (run behave events (start options token candidate desk)).DistinctDraws := by
  obtain ⟨moves, path⟩ := run_path within allowed options token candidate desk
  have same : (run behave events (start options token candidate desk)).candidate = candidate :=
    path.candidate
  rw [DistinctDraws, count, same]
  exact distinct

theorem requests_twoCalls :
    let client := run silent twoCalls
      (start { queueCalls := true } none CorrelationId.drawn ())
    client.calls.pending.length = 2 ∧ client.link.written.length = 1 ∧
      client.link.backlog.length = 1 ∧
      ∀ call ∈ client.calls.pending, ∃ issued ∈ client.issued, issued.call = call ∧
        client.requestsOf call.id = [issued.request] := by
  intro client
  have reliable : ∀ event ∈ twoCalls, event.Within .reliable := by
    simp [twoCalls, Event.Within, Licence.reliable]
  have seen : (fun client : Client Unit Unit =>
      (client.calls.pending.length, client.link.written.length, client.link.backlog.length,
        client.idsDrawn, client.link.prologue))
      (run silent twoCalls (start { queueCalls := true } none CorrelationId.drawn ())) =
        (2, 1, 1, 2, .complete) := by cbv
  simp only [Prod.mk.injEq] at seen
  obtain ⟨pending, written, backlog, drawn, complete⟩ := seen
  have distinct := distinctDraws_run (silent_within _) reliable drawn (by decide)
  refine ⟨pending, written, backlog, ?_⟩
  exact (requests_delivered (silent_within _) reliable { queueCalls := true } none
    CorrelationId.drawn () distinct).1 rfl complete

end Client

end Switchboard
