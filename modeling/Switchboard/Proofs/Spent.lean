/-
# Switchboard.Proofs.Spent -- what stays as it is

What a run has written it has written for ever (`Path.written_prefix`), and no frame
is of a session that has not begun yet (`Orderly.sessions`).  The registry has one
bucket a topic, whatever handlers come and go (`Orderly.held`).

A request is underway once it has been handed to the channel, or taken over into the
prologue, or written (`Client.underway`).  From the backlog it gets there only while
its call waits.  So a call that is over, and whose request is not underway, is spent
(`Client.Spent`): its request will not be written any more (`Path.spent`).
-/
import Switchboard.Proofs.Requests
import Switchboard.Proofs.Roll
import Switchboard.Proofs.ServerView

namespace Switchboard

set_option autoImplicit false

namespace Subscriptions

variable {κ : Type}

/-- Registering a handler leaves one bucket a topic. -/
theorem nodup_held_subscribe {subscriptions : Subscriptions κ} (nodup : subscriptions.held.Nodup)
    (handle : HandleId) (topic : Topic) (callback : κ) :
    (subscriptions.subscribe handle topic callback).1.held.Nodup :=
  nodup_addHandler topic subscriptions.buckets _ nodup

/-- So does releasing one. -/
theorem nodup_held_unsubscribe {subscriptions : Subscriptions κ}
    (nodup : subscriptions.held.Nodup) (handle : HandleId) :
    (subscriptions.unsubscribe handle).1.held.Nodup := by
  unfold unsubscribe
  split
  · exact nodup
  · rename_i topic _
    have dropped : ((dropHandler topic handle subscriptions.buckets).map (·.1)).Nodup := by
      rw [map_dropHandler]
      exact nodup
    dsimp only
    split
    · exact dropped.sublist (List.filter_sublist.map _)
    · exact dropped

end Subscriptions

namespace Client

variable {κ ω : Type} {licence : Licence κ ω} {client : Client κ ω}

/-! ## What has been written -/

/-- A move writes after what has been written. -/
theorem written_move {move : Move κ ω} :
    client.link.written <+: (move.apply client).link.written := by
  cases move with
  | aside act => rw [Move.apply, (perform_calm act client).written]
  | call issued limit => rw [Move.apply, (client.handOver_calm issued limit).written]
  | announce | flush | emit | answer => exact List.prefix_append _ _
  | detach queue =>
      rw [apply_detach]
      exact List.prefix_refl _
  | _ => exact List.prefix_refl _

theorem Path.written_prefix {first last : Client κ ω} {moves : List (Move κ ω)}
    (path : first.Path licence moves last) : first.link.written <+: last.link.written := by
  induction path with
  | still => exact List.prefix_refl _
  | move _ _ _ ih => exact ih.trans written_move

/-! ## Sessions and topics -/

/-- No frame is of a later session, and no topic has two buckets. -/
structure Orderly (client : Client κ ω) : Prop where
  sessions : ∀ sent ∈ client.link.written, sent.session ≤ client.link.sessions
  held : client.subscriptions.held.Nodup

/-- Handing a frame to the link leaves the subscriptions alone. -/
theorem send_subscriptions (client : Client κ ω) (frame : Outbound) :
    (client.send frame).1.subscriptions = client.subscriptions := by
  obtain ⟨channel, backlog, sent, -⟩ := client.send_link frame
  rw [sent]

theorem handOver_subscriptions (issued : Issued) (limit : Option Span) (client : Client κ ω) :
    (client.handOver issued limit).subscriptions = client.subscriptions := by
  obtain ⟨channel, backlog, handed⟩ := client.handOver_link issued limit
  rw [handed]
  rfl

/-- An act leaves one bucket a topic. -/
theorem nodup_held_perform (nodup : client.subscriptions.held.Nodup) {act : Act κ ω}
    (aside : act.isAside = true) : (act.perform client).subscriptions.held.Nodup := by
  cases act with
  | subscribe topic callback =>
      have registered : (client.register topic callback).1.subscriptions.held.Nodup :=
        Subscriptions.nodup_held_subscribe nodup (HandleId.nth client.handlesDrawn) topic callback
      show (client.subscribe topic callback).1.subscriptions.held.Nodup
      unfold Client.subscribe announce
      split
      · exact nodup
      · dsimp only
        split
        · split
          · rw [send_subscriptions]
            exact registered
          · exact registered
        · exact registered
  | unsubscribe handle =>
      have released : ((client.unobserve handle).1.release handle).1.subscriptions.held.Nodup :=
        Subscriptions.nodup_held_unsubscribe nodup handle
      show (client.unsubscribe handle).1.subscriptions.held.Nodup
      rcases client.unsubscribe_cases handle with after | ⟨after, -⟩ | ⟨topic, -, after⟩
      · rw [after]
        exact nodup
      · rw [after]
        exact released
      · rw [after]
        unfold withdraw
        split
        · rw [send_subscriptions]
          exact released
        · exact released
  | enlist | setToken | note => exact nodup
  | call | cancel | conclude | expire | abandon => simp [Act.isAside] at aside

theorem Orderly.move (orderly : client.Orderly) {move : Move κ ω}
    (fits : move.Fits licence client) : (move.apply client).Orderly := by
  obtain ⟨sessions, held⟩ := orderly
  cases move with
  | aside act =>
      refine ⟨?_, nodup_held_perform held fits.2⟩
      rw [Move.apply, (perform_calm act client).written, (perform_calm act client).sessions]
      exact sessions
  | call issued limit =>
      have calm := client.handOver_calm issued limit
      constructor
      · rw [Move.apply, calm.written, calm.sessions]
        exact sessions
      · rw [Move.apply, handOver_subscriptions]
        exact held
  | install room => exact ⟨fun sent member => Nat.le_succ_of_le (sessions sent member), held⟩
  | announce | flush | emit | answer => exact ⟨sessions_put sessions, held⟩
  | detach queue =>
      rw [apply_detach]
      exact ⟨sessions, held⟩
  | _ => exact ⟨sessions, held⟩

theorem start_orderly (options : Options) (token : Option Json) (candidate : Nat → CorrelationId)
    (desk : ω) : (start options token candidate desk : Client κ ω).Orderly where
  sessions := by simp [start, new]
  held := List.nodup_nil

/-! ## Calls that are over -/

/-- The frames that have left the backlog, or never were in it: what was written, what the
prologue has taken over, and what the channel holds. -/
def underway (client : Client κ ω) : List Outbound :=
  client.link.written.map (·.frame) ++ client.link.prologue.unwritten ++
    client.link.channel.getD []

/-- A registered call that is over, and whose request is not underway. -/
structure Spent (client : Client κ ω) (id : CorrelationId) : Prop where
  registered : ∃ issued ∈ client.issued, issued.call.id = id
  ended : client.calls.contains id = false
  absent : Outbound.copies id client.underway = 0

variable {id : CorrelationId}

theorem absent_iff {frames : List Outbound} :
    Outbound.copies id frames = 0 ↔ ∀ frame ∈ frames, frame.requestId ≠ some id := by
  simp [Outbound.copies, List.countP_eq_zero]

/-- What is neither registered anew nor handed over stays spent. -/
theorem Spent.of_same {after : Client κ ω} (spent : client.Spent id)
    (issued : ∃ more, after.issued = client.issued ++ more)
    (ended : after.calls.contains id = false)
    (absent : Outbound.copies id after.underway = Outbound.copies id client.underway) :
    after.Spent id := by
  obtain ⟨call, member, same⟩ := spent.registered
  obtain ⟨more, grown⟩ := issued
  exact ⟨⟨call, grown ▸ List.mem_append_left _ member, same⟩, ended, absent.trans spent.absent⟩

theorem contains_eq_false_iff (calls : CallTable) (id : CorrelationId) :
    calls.contains id = false ↔ ∀ call ∈ calls.pending, call.id ≠ id := by
  rw [← Bool.not_eq_true, CallTable.contains_iff]
  simp

/-- A call that is over does not come back because another one ends. -/
theorem contains_finish {calls : CallTable} (ended : calls.contains id = false)
    (other : CorrelationId) (ending : PendingCall → CallEnd) :
    (calls.finish other ending).1.contains id = false := by
  rw [contains_eq_false_iff] at ended ⊢
  intro call member
  rw [CallTable.pending_finish] at member
  exact ended call (List.mem_filter.1 member).1

/-- A call registered later has another identifier. -/
theorem Spent.id_ne (spent : client.Spent id) (ledger : client.Ledger) {issued : Issued}
    (books : client.Books issued) (distinct : (client.book issued).DistinctDraws) :
    issued.call.id ≠ id := by
  rintro rfl
  obtain ⟨other, member, same⟩ := spent.registered
  have ledgerThen := ledger.enter books distinct none client.link
  have unique := ledgerThen.issued_unique_id distinct
    (List.mem_append_left _ member) (List.mem_append_right _ List.mem_cons_self) same
  have less := ledger.ticket_lt member
  rw [unique, books.ticket, ledger.drawn] at less
  exact Nat.lt_irrefl _ less

/-- A call registered later does not wait under the identifier either. -/
theorem Spent.contains_book (spent : client.Spent id) {issued : Issued}
    (books : client.Books issued) (other : issued.call.id ≠ id) :
    (client.book issued).calls.contains id = false := by
  have ended := (contains_eq_false_iff _ _).1 spent.ended
  rw [contains_eq_false_iff, books.pending]
  intro call member
  rcases List.mem_append.1 member with before | now
  · exact ended call before
  · exact List.mem_singleton.1 now ▸ other

/-- A frame that was written is underway as it was before, if it was the next one to be. -/
theorem copies_underway_wrote (frame : Outbound) (client : Client κ ω) :
    Outbound.copies id (client.wrote frame).underway =
      Outbound.copies id client.underway + Outbound.copies id [frame] := by
  simp only [underway, wrote, Link.put, List.map_append, List.map_cons, List.map_nil,
    Outbound.copies_append]
  omega

/-- **A spent call stays spent**, as long as identifiers are drawn distinct. -/
theorem Spent.move (spent : client.Spent id) (coherent : client.Coherent) (ledger : client.Ledger)
    {move : Move κ ω} (fits : move.Fits licence client)
    (distinct : (move.apply client).DistinctDraws) : (move.apply client).Spent id := by
  have nothing : ∃ more : List Issued, client.issued = client.issued ++ more := ⟨[], by simp⟩
  cases move with
  | aside act =>
      have calm := perform_calm act client
      have bystander := perform_bystander fits.2 client
      obtain ⟨frames, aside, channel⟩ := bystander.channel
      refine spent.of_same ⟨[], by simp [Move.apply, bystander.issued]⟩ ?_ ?_
      · rw [Move.apply, bystander.calls]
        exact spent.ended
      · have none : Outbound.copies id frames = 0 := Outbound.copies_aside aside
        cases session : client.link.channel with
        | none => simp [underway, Move.apply, calm.written, calm.prologue, channel, session]
        | some queue =>
            simp [underway, Move.apply, calm.written, calm.prologue, channel, session, none]
  | call issued limit =>
      have other := spent.id_ne ledger fits.2 (distinctDraws_of_handOver distinct)
      refine spent.of_same ⟨[issued], by rw [Move.apply, handOver_issued]⟩ ?_ ?_
      · rw [Move.apply, handOver_calls]
        exact spent.contains_book fits.2 other
      · have none : Outbound.copies id [issued.request] = 0 := by
          simpa [Outbound.copies, Issued.request, Outbound.requestId] using other
        rcases coherent.handOver_cases fits.2 limit with
          ⟨queue, channel, sent⟩ | ⟨channel, ⟨-, held⟩ | ⟨-, lost⟩⟩
        · rw [Move.apply, sent]
          simp [underway, channel, none]
        · rw [Move.apply, held]
          rfl
        · rw [Move.apply, lost]
          rfl
  | unsent issued =>
      have other := spent.id_ne ledger fits.1 distinct
      exact spent.of_same ⟨[issued], rfl⟩
        (contains_finish (spent.contains_book fits.1 other) _ _) rfl
  | cancel other => exact spent.of_same nothing (contains_finish spent.ended _ _) rfl
  | depart awaited farewell => exact spent.of_same nothing (contains_finish spent.ended _ _) rfl
  | settle other reply => exact spent.of_same nothing (contains_finish spent.ended _ _) rfl
  | failAll | clear => exact spent.of_same nothing rfl rfl
  | steer phase state endpoint backoff delay => exact spent.of_same nothing spent.ended rfl
  | install room =>
      refine spent.of_same nothing spent.ended ?_
      simp [underway, Move.apply, moveTo, openSession, coherent.complete fits.2, fits.2,
        Prologue.unwritten]
  | read =>
      have begun : client.link.prologue = .unread := fits
      refine spent.of_same nothing spent.ended ?_
      simp [underway, Move.apply, setPrologue, begun, Prologue.unwritten]
  | announce topic left =>
      refine spent.of_same nothing spent.ended ((copies_underway_wrote _ _).trans ?_)
      simp [underway, setPrologue, fits.1, Prologue.unwritten, Outbound.copies,
        Outbound.requestId]
  | unload =>
      have begun : client.link.prologue = .announcing [] := fits
      -- the request of a call that is over is left behind
      have none : Outbound.copies id (client.link.backlog.filter client.isLive) = 0 := by
        refine absent_iff.2 fun frame member named => ?_
        have live := (List.mem_filter.1 member).2
        simp [isLive, named, spent.ended] at live
      refine spent.of_same nothing spent.ended ?_
      simp [underway, Move.apply, Client.unload, begun, Prologue.unwritten, none]
  | flush frame left =>
      refine spent.of_same nothing spent.ended ((copies_underway_wrote _ _).trans ?_)
      simp only [underway, setPrologue, fits.1, Prologue.unwritten, Outbound.copies_append]
      rw [Outbound.copies_cons frame left]
      omega
  | finish =>
      have begun : client.link.prologue = .flushing [] := fits
      refine spent.of_same nothing spent.ended ?_
      simp [underway, Move.apply, setPrologue, begun, Prologue.unwritten]
  | emit frame queue =>
      refine spent.of_same nothing spent.ended ((copies_underway_wrote _ _).trans ?_)
      simp only [underway, setChannel, fits.1, fits.2.1, Prologue.unwritten,
        Outbound.copies_append, Option.getD_some]
      rw [Outbound.copies_cons frame queue]
      omega
  | answer reply =>
      refine spent.of_same nothing spent.ended ((copies_underway_wrote _ _).trans ?_)
      simp [Outbound.copies, Outbound.requestId]
  | detach queue =>
      rw [apply_detach]
      obtain ⟨registered, ended, absent⟩ := spent
      refine ⟨registered, ended, ?_⟩
      simp only [underway, Outbound.copies_append] at absent
      simp only [underway, unplugged, Prologue.unwritten, Option.getD_none,
        Outbound.copies_append, Outbound.copies_nil]
      omega

/-- **What is spent is never written.** -/
theorem Path.spent {first last : Client κ ω} {moves : List (Move κ ω)}
    (path : first.Path licence moves last) (coherent : first.Coherent) (ledger : first.Ledger)
    (spent : first.Spent id) (distinct : last.DistinctDraws) : last.Spent id :=
  path.preserves_of_distinct
    (fun (client : Client κ ω) _ coherent ledger (spent : client.Spent id) fits distinct =>
      spent.move coherent ledger fits distinct)
    coherent ledger spent distinct

/-- A request that waits in the backlog is not underway. -/
theorem Traced.absent_of_queued (traced : client.Traced) {frame : Outbound}
    (queued : frame ∈ client.link.backlog) (named : frame.requestId = some id) :
    Outbound.copies id client.underway = 0 := by
  have once := traced.once id
  have here : 0 < Outbound.copies id client.link.backlog :=
    List.countP_pos_iff.2 ⟨frame, queued, by simp [named]⟩
  have whole : client.copies id =
      Outbound.copies id client.underway + Outbound.copies id client.link.backlog :=
    Outbound.copies_append _ _
  omega

end Client

end Switchboard
