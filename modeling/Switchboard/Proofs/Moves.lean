/-
# Switchboard.Proofs.Moves -- a run, taken apart

An event of a run may do several things one after the other, with callbacks acting
in between.  Here each of them is a move of its own (`Client.Move`), which is made
from a client it fits (`Move.Fits`) and of which nothing interrupts the other.  A
path is a sequence of moves, each made from where the one before it ended
(`Client.Path`).

* `Path.preserves`: what each move keeps, a path keeps;
* `run_path`: every run is a path, if callbacks do nothing but allowed acts.

So what is to be shown about all runs is shown for one move at a time.  Paths keep
that the link is up exactly if there is a channel (`Path.coherent`); between the
events of a run a live session also has its channel (`Client.Poised`).
-/
import Switchboard.Proofs.Acts

namespace Switchboard.Client

set_option autoImplicit false

variable {κ ω : Type}

/-! ## Moves -/

/-- What happens to a client at once. -/
inductive Move (κ ω : Type) where
  /-- An act that is about no call. -/
  | aside (act : Act κ ω)
  /-- A call is registered, and its caller waits. -/
  | call (issued : Issued) (limit : Option Span)
  /-- A call is registered, and fails at once. -/
  | unsent (issued : Issued)
  | cancel (id : CorrelationId)
  /-- A caller is told something, or goes away. -/
  | depart (awaited : Awaited) (farewell : Farewell)
  /-- The driver goes on without a session. -/
  | steer (phase : Phase) (state : LinkState) (endpoint : Option Endpoint) (backoff : Backoff)
      (delay : Span)
  | install (room : Option Nat)
  | read
  | announce (topic : Topic) (left : List Topic)
  /-- The prologue takes over the backlog. -/
  | unload
  /-- The prologue writes a request. -/
  | flush (frame : Outbound) (left : List Outbound)
  | finish
  /-- A frame of the channel is written. -/
  | emit (frame : Outbound) (queue : List Outbound)
  | answer (id : String)
  | settle (id : CorrelationId) (reply : Except String Json)
  /-- The session ends, and this is left in its channel. -/
  | detach (queue : List Outbound)
  /-- A lost link fails every waiting call. -/
  | failAll
  | clear

/-- The client whose session has written a frame. -/
def wrote (frame : Outbound) (client : Client κ ω) : Client κ ω :=
  { client with link := client.link.put frame }

/-- The client whose channel holds these frames. -/
def setChannel (queue : List Outbound) (client : Client κ ω) : Client κ ω :=
  { client with link := { client.link with channel := some queue } }

/-- The client after a move. -/
def Move.apply (move : Move κ ω) (client : Client κ ω) : Client κ ω :=
  match move with
  | .aside deed => deed.perform client
  | .call issued limit => client.handOver issued limit
  | .unsent issued => client.failUnsent issued
  | .cancel id => (client.cancel id).1
  | .depart awaited farewell =>
      client.depart awaited.ticket awaited.id (farewell.told awaited)
  | .steer phase state endpoint backoff delay =>
      ({ client with link := { client.link with phase, endpoint, backoff, delay } } :
        Client κ ω).moveTo state
  | .install room => (client.openSession room).moveTo .connected
  | .read => client.setPrologue (.announcing client.subscriptions.topics)
  | .announce topic left => (client.setPrologue (.announcing left)).wrote (.subscribe topic)
  | .unload => client.unload
  | .flush frame left => (client.setPrologue (.flushing left)).wrote frame
  | .finish => client.setPrologue .complete
  | .emit frame queue => (client.setChannel queue).wrote frame
  | .answer id => client.wrote (.pong id)
  | .settle id reply => { client with calls := (client.calls.settle id reply).1 }
  | .detach queue => (client.setChannel queue).detach.moveTo .disconnected
  | .failAll => (client.rejectAll .connectionClosed).1
  | .clear =>
      (({ client with link := { client.link with backlog := [] } } : Client κ ω).rejectAll
        .connectionClosed).1

/-- Whether a move can be made. -/
def Move.Fits (licence : Licence κ ω) (client : Client κ ω) : Move κ ω → Prop
  | .aside act => licence.act act ∧ act.isAside = true
  | .call issued limit =>
      (licence.act (.call issued.call.path issued.data limit) ∧
        (client.options.pendingPolicy = .fail →
          ((client.book issued).send issued.request).2 = true)) ∧ client.Books issued
  | .unsent issued =>
      client.Books issued ∧ client.options.pendingPolicy = .fail ∧
        ((client.book issued).send issued.request).2 = false
  | .cancel id => licence.act (.cancel id)
  | .depart awaited farewell => awaited ∈ client.awaited ∧ farewell.Fits client awaited
  | .steer _ state _ _ _ => client.link.channel = none ∧ state.isConnected = false
  | .install room => licence.room room ∧ client.link.channel = none
  | .read => client.link.prologue = .unread
  | .announce topic left =>
      client.link.prologue = .announcing (topic :: left) ∧ client.link.room ≠ some 0
  | .unload => client.link.prologue = .announcing []
  | .flush frame left =>
      client.link.prologue = .flushing (frame :: left) ∧ client.link.room ≠ some 0
  | .finish => client.link.prologue = .flushing []
  | .emit frame queue =>
      client.link.prologue = .complete ∧ client.link.channel = some (frame :: queue) ∧
        client.link.room ≠ some 0
  | .answer _ => client.link.channel.isSome = true ∧ client.link.room ≠ some 0
  | .settle _ _ => client.link.channel.isSome = true
  | .detach queue =>
      client.link.prologue = .complete ∧ client.link.channel = some queue ∨
        client.link.room = some 0 ∧ ∃ lost : Option Outbound,
          client.link.channel = some (lost.toList ++ queue)
  | .failAll => client.options.pendingPolicy = .fail ∧ client.link.channel = none
  | .clear => client.link.phase = .idle ∧ client.link.channel = none

/-! ## Paths -/

/-- What has become of a client after moves, each made from where the one before it ended. -/
inductive Path (licence : Licence κ ω) (first : Client κ ω) :
    List (Move κ ω) → Client κ ω → Prop where
  | still : Path licence first [] first
  | move {moves : List (Move κ ω)} {client : Client κ ω} (path : Path licence first moves client)
      (move : Move κ ω) (fits : move.Fits licence client) :
      Path licence first (moves ++ [move]) (move.apply client)

/-- Whether some moves lead from one client to another. -/
def Reaches (licence : Licence κ ω) (before after : Client κ ω) : Prop :=
  ∃ moves, before.Path licence moves after

variable {licence : Licence κ ω}

theorem Path.trans {first middle last : Client κ ω} {moves later : List (Move κ ω)}
    (path : first.Path licence moves middle) (rest : middle.Path licence later last) :
    first.Path licence (moves ++ later) last := by
  induction rest with
  | still => simpa using path
  | move _ move fits ih => exact List.append_assoc .. ▸ ih.move move fits

theorem Path.eq_of_nil {first last : Client κ ω} (path : first.Path licence [] last) :
    last = first := by
  generalize none : ([] : List (Move κ ω)) = moves at path
  cases path with
  | still => rfl
  | move => simp at none

/-- A path begins with its first move. -/
theorem Path.of_cons {first last : Client κ ω} {move : Move κ ω} {later : List (Move κ ω)}
    (path : first.Path licence (move :: later) last) :
    move.Fits licence first ∧ (move.apply first).Path licence later last := by
  generalize whole : move :: later = moves at path
  induction path generalizing later with
  | still => simp at whole
  | @move moves client path other fits ih =>
      cases moves with
      | nil =>
          obtain ⟨rfl, rfl⟩ : move = other ∧ later = [] := by simpa using whole
          obtain rfl := path.eq_of_nil
          exact ⟨fits, .still⟩
      | cons first rest =>
          obtain ⟨rfl, rfl⟩ : move = first ∧ later = rest ++ [other] := by simpa using whole
          obtain ⟨firstFits, middle⟩ := ih rfl
          exact ⟨firstFits, middle.move other fits⟩

/-- A path may be cut anywhere. -/
theorem Path.split {first last : Client κ ω} {before later : List (Move κ ω)}
    (path : first.Path licence (before ++ later) last) :
    ∃ middle, first.Path licence before middle ∧ middle.Path licence later last := by
  induction before generalizing first with
  | nil => exact ⟨first, .still, path⟩
  | cons move before ih =>
      obtain ⟨fits, rest⟩ := path.of_cons
      obtain ⟨middle, left, right⟩ := ih rest
      exact ⟨middle, (Path.still.move move fits).trans left, right⟩

namespace Reaches

variable {before middle after : Client κ ω}

theorem refl (client : Client κ ω) : Reaches licence client client := ⟨[], .still⟩

theorem of_eq (same : after = before) : Reaches licence before after :=
  same ▸ refl after

theorem of_move (move : Move κ ω) (fits : move.Fits licence before)
    (applied : after = move.apply before) : Reaches licence before after :=
  ⟨[move], applied ▸ Path.still.move move fits⟩

theorem trans (first : Reaches licence before middle) (second : Reaches licence middle after) :
    Reaches licence before after := by
  obtain ⟨moves, path⟩ := first
  obtain ⟨later, rest⟩ := second
  exact ⟨moves ++ later, path.trans rest⟩

end Reaches

/-! ## What moves keep -/

theorem isAlive_moveTo (state : LinkState) (client : Client κ ω) :
    (client.moveTo state).isAlive = state.isConnected :=
  client.connectivity.isAlive_moveTo state

/-- A step of a running session keeps the client coherent. -/
theorem Coherent.of_session {client after : Client κ ω} (coherent : client.Coherent)
    (before : client.link.channel.isSome = true) (still : after.link.channel.isSome = true)
    (state : after.state = client.state) (phase : after.link.phase = client.link.phase) :
    after.Coherent where
  up := by
    rw [still, ← before, ← coherent.up]
    exact congrArg LinkState.isConnected state
  live _ := phase.trans (coherent.live before)
  complete none := by simp [none] at still

/-- What changes neither state nor link keeps the client coherent. -/
theorem Coherent.of_same {client after : Client κ ω} (coherent : client.Coherent)
    (state : after.state = client.state)
    (link : ∃ backlog, after.link = { client.link with backlog }) :
    after.Coherent := by
  obtain ⟨backlog, link⟩ := link
  refine ⟨?_, ?_, ?_⟩
  · rw [link, ← coherent.up]
    exact congrArg LinkState.isConnected state
  · rw [link]
    exact coherent.live
  · rw [link]
    exact coherent.complete

/-- The client that was to hold these frames, one after the other. -/
def holdAll (left : List Outbound) (client : Client κ ω) : Client κ ω :=
  left.foldl (fun client frame => (client.hold frame).1) client

theorem holdAll_cons (frame : Outbound) (left : List Outbound) (client : Client κ ω) :
    client.holdAll (frame :: left) = (client.hold frame).1.holdAll left := rfl

theorem holdAll_link (left : List Outbound) (client : Client κ ω) :
    ∃ backlog, client.holdAll left = { client with link := { client.link with backlog } } := by
  induction left generalizing client with
  | nil => exact ⟨_, rfl⟩
  | cons frame left ih =>
      obtain ⟨backlog, held⟩ := client.hold_link frame
      rw [holdAll_cons, held]
      exact ih _

/-- What is held after one frame more was held before, or is that frame, whose call waits. -/
theorem hold_origin {client : Client κ ω} {frame other : Outbound}
    (member : other ∈ (client.hold frame).1.link.backlog) :
    other ∈ client.link.backlog ∨ other = frame ∧ client.isLive frame = true := by
  rcases client.hold_cases frame with ⟨refused, -⟩ | ⟨live, held⟩
  · exact .inl (refused ▸ member)
  · rw [held] at member
    rcases List.mem_append.1 member with before | now
    · exact .inl (List.mem_filter.1 before).1
    · exact .inr ⟨by simpa using now, live⟩

/-- What is held after these frames was held before, or is one of them, whose call waits. -/
theorem holdAll_origin {client : Client κ ω} {left : List Outbound} {other : Outbound}
    (member : other ∈ (client.holdAll left).link.backlog) :
    other ∈ client.link.backlog ∨ other ∈ left ∧ client.isLive other = true := by
  induction left generalizing client with
  | nil => exact .inl member
  | cons frame left ih =>
      obtain ⟨backlog, held⟩ := client.hold_link frame
      rw [holdAll_cons] at member
      rcases ih member with before | ⟨later, live⟩
      · rcases hold_origin before with already | ⟨rfl, live⟩
        · exact .inl already
        · exact .inr ⟨List.mem_cons_self, live⟩
      · rw [held] at live
        exact .inr ⟨List.mem_cons_of_mem _ later, live⟩

/-- The client without anything of its session but the backlog. -/
def unplugged (client : Client κ ω) : Client κ ω :=
  { client with link := { client.link with channel := none, room := none, prologue := .complete } }

/-- A session that ends leaves nothing of itself but what is held of its channel. -/
theorem apply_detach (queue : List Outbound) (client : Client κ ω) :
    (Move.detach queue : Move κ ω).apply client =
      { client.unplugged.moveTo .disconnected with
        link := { client.unplugged.link with
          backlog := (client.unplugged.holdAll queue).link.backlog } } := by
  have holds : (Move.detach queue : Move κ ω).apply client =
      (client.unplugged.holdAll queue).moveTo .disconnected := rfl
  obtain ⟨backlog, held⟩ := client.unplugged.holdAll_link queue
  rw [holds, held]
  rfl

theorem detach_link (client : Client κ ω) :
    ∃ backlog, client.detach = { client.unplugged with
      link := { client.unplugged.link with backlog } } :=
  client.unplugged.holdAll_link (client.link.channel.getD [])

theorem Coherent.move {client : Client κ ω} (coherent : client.Coherent) {move : Move κ ω}
    (fits : move.Fits licence client) : (move.apply client).Coherent := by
  -- a prologue has begun only where there is a channel
  have session : client.link.prologue ≠ .complete → client.link.channel.isSome = true := by
    intro begun
    by_contra none
    exact begun (coherent.complete (by simpa using none))
  cases move with
  | aside act => exact coherent.calm (perform_calm act client)
  | call issued limit => exact coherent.calm (client.handOver_calm issued limit)
  | unsent issued => exact coherent.calm (client.failUnsent_calm issued)
  | cancel id => exact coherent.calm (client.cancel_calm id)
  | depart awaited farewell => exact coherent.calm (depart_calm _ _ _ _)
  | steer phase state endpoint backoff delay =>
      obtain ⟨none, down⟩ := fits
      refine ⟨?_, ?_, fun _ => coherent.complete none⟩
      · rw [Move.apply, isAlive_moveTo, down]
        simp [moveTo, none]
      · simp [Move.apply, moveTo, none]
  | install room =>
      refine ⟨?_, fun _ => rfl, fun none => ?_⟩
      · rw [Move.apply, isAlive_moveTo]
        rfl
      · simp [Move.apply, moveTo, openSession] at none
  | read =>
      have begun : client.link.prologue = .unread := fits
      have some := session (by simp [begun])
      exact coherent.of_session some some rfl rfl
  | announce topic left =>
      obtain ⟨begun, -⟩ := fits
      have some := session (by simp [begun])
      exact coherent.of_session some some rfl rfl
  | unload =>
      have begun : client.link.prologue = .announcing [] := fits
      have some := session (by simp [begun])
      exact coherent.of_session some some rfl rfl
  | flush frame left =>
      obtain ⟨begun, -⟩ := fits
      have some := session (by simp [begun])
      exact coherent.of_session some some rfl rfl
  | finish =>
      have begun : client.link.prologue = .flushing [] := fits
      have some := session (by simp [begun])
      exact coherent.of_session some some rfl rfl
  | emit frame queue =>
      obtain ⟨-, some, -⟩ := fits
      exact coherent.of_session (by simp [some]) rfl rfl rfl
  | answer id =>
      obtain ⟨some, -⟩ := fits
      exact coherent.of_session some some rfl rfl
  | settle id reply => exact coherent.of_same rfl ⟨_, rfl⟩
  | detach queue =>
      rw [apply_detach]
      refine ⟨isAlive_moveTo .disconnected client.unplugged, ?_, fun _ => rfl⟩
      simp [unplugged]
  | failAll => exact coherent.of_same rfl ⟨_, rfl⟩
  | clear => exact coherent.of_same rfl ⟨_, rfl⟩

/-- No move changes the options, or where identifiers come from. -/
theorem Move.apply_constant (move : Move κ ω) (client : Client κ ω) :
    (move.apply client).options = client.options ∧
      (move.apply client).candidate = client.candidate := by
  cases move with
  | aside act => exact ⟨(perform_calm act client).options, (perform_calm act client).candidate⟩
  | call issued limit =>
      exact ⟨(client.handOver_calm issued limit).options,
        (client.handOver_calm issued limit).candidate⟩
  | detach queue =>
      rw [apply_detach]
      exact ⟨rfl, rfl⟩
  | _ => exact ⟨rfl, rfl⟩

namespace Path

variable {first last : Client κ ω} {moves : List (Move κ ω)}

theorem coherent (path : first.Path licence moves last) (start : first.Coherent) :
    last.Coherent := by
  induction path with
  | still => exact start
  | move _ _ fits ih => exact ih.move fits

/-- **What each move keeps, a path keeps.** -/
theorem preserves {holds : Client κ ω → Prop}
    (kept : ∀ (client : Client κ ω) (move : Move κ ω), client.Coherent → holds client →
      move.Fits licence client → holds (move.apply client))
    (path : first.Path licence moves last) (start : first.Coherent) (begins : holds first) :
    holds last := by
  induction path with
  | still => exact begins
  | move path move fits ih => exact kept _ move (path.coherent start) ih fits

theorem options (path : first.Path licence moves last) : last.options = first.options := by
  induction path with
  | still => rfl
  | move _ move _ ih => exact (move.apply_constant _).1.trans ih

theorem candidate (path : first.Path licence moves last) : last.candidate = first.candidate := by
  induction path with
  | still => rfl
  | move _ move _ ih => exact (move.apply_constant _).2.trans ih

end Path

theorem Reaches.coherent {before after : Client κ ω} (reaches : Reaches licence before after)
    (start : before.Coherent) : after.Coherent := by
  obtain ⟨moves, path⟩ := reaches
  exact path.coherent start

end Switchboard.Client
