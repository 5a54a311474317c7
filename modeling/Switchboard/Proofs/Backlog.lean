/-
# Switchboard.Proofs.Backlog -- what the backlog holds

The backlog holds requests of calls with callers only, and never more than may wait
(`Client.Queued`).  A caller that departs takes its request along; a request that is
held drops those before it whose calls wait no longer.  Why the backlog stays within
bounds is not that it is measured, since nothing measures it: its requests are of
distinct waiting calls once something was added.

* `Queued.move`: every move keeps it so.
-/
import Switchboard.Proofs.Requests

namespace Switchboard.Client

set_option autoImplicit false

variable {κ ω : Type} {licence : Licence κ ω} {client after : Client κ ω}

/-- The backlog holds requests of calls with callers, and no more than may wait. -/
structure Queued (client : Client κ ω) : Prop where
  callers : ∀ frame ∈ client.link.backlog,
    ∃ awaited ∈ client.awaited, frame.requestId = some awaited.id
  length : client.link.backlog.length ≤ client.calls.capacity

/-- Requests that are nowhere twice have distinct identifiers. -/
theorem nodup_requestIds {frames : List Outbound} (once : ∀ id, Outbound.copies id frames ≤ 1)
    (named : ∀ frame ∈ frames, ∃ id, frame.requestId = some id) :
    (frames.map (·.requestId)).Nodup := by
  rw [List.nodup_iff_count_le_one]
  intro name
  cases name with
  | none =>
      refine (List.count_eq_zero.2 fun member => ?_).le.trans (Nat.zero_le _)
      obtain ⟨frame, inFrames, none⟩ := List.mem_map.1 member
      obtain ⟨id, some⟩ := named frame inFrames
      simp [none] at some
  | some id =>
      have counted : (frames.map (·.requestId)).count (some id) = Outbound.copies id frames := by
        rw [List.count, List.countP_map]
        exact List.countP_congr fun frame _ => by simp
      exact counted ▸ once id

/-- Requests of waiting calls, each once, are no more than calls wait. -/
theorem length_le_of_isLive {frames : List Outbound} (once : ∀ id, Outbound.copies id frames ≤ 1)
    (live : ∀ frame ∈ frames, client.isLive frame = true) :
    frames.length ≤ client.calls.size := by
  have named : ∀ frame ∈ frames, ∃ call ∈ client.calls.pending,
      frame.requestId = some call.id :=
    fun frame member => (client.isLive_iff frame).1 (live frame member)
  have nodup : (frames.map (·.requestId)).Nodup :=
    nodup_requestIds once fun frame member => by
      obtain ⟨call, -, name⟩ := named frame member
      exact ⟨call.id, name⟩
  have subset : frames.map (·.requestId) ⊆ client.calls.pending.map (fun call => some call.id) := by
    intro name member
    obtain ⟨frame, inFrames, rfl⟩ := List.mem_map.1 member
    obtain ⟨call, waits, same⟩ := named frame inFrames
    exact List.mem_map.2 ⟨call, waits, same.symm⟩
  simpa [CallTable.size] using (List.subperm_of_subset nodup subset).length_le

/-- A caller's ticket tells its identifier. -/
theorem Ledger.awaited_unique (ledger : client.Ledger) {first second : Awaited}
    (firstMember : first ∈ client.awaited) (secondMember : second ∈ client.awaited)
    (same : first.ticket = second.ticket) : first.id = second.id := by
  obtain ⟨one, oneMember, oneTicket, oneId⟩ := ledger.awaited first firstMember
  obtain ⟨two, twoMember, twoTicket, twoId⟩ := ledger.awaited second secondMember
  have unique := ledger.issued_unique oneMember twoMember
    (oneTicket.trans (same.trans twoTicket.symm))
  rw [← oneId, ← twoId, unique]

/-- A request that may be held is that of a call with a caller. -/
theorem Ledger.caller_of_isLive (ledger : client.Ledger) {frame : Outbound}
    (live : client.isLive frame = true) :
    ∃ awaited ∈ client.awaited, frame.requestId = some awaited.id := by
  obtain ⟨call, waits, named⟩ := (client.isLive_iff frame).1 live
  obtain ⟨awaited, member, sameTicket⟩ := List.mem_map.1 (ledger.waiting call waits)
  obtain ⟨issued, issuedMember, ofTicket, ofId⟩ := ledger.awaited awaited member
  obtain ⟨other, otherMember, rfl⟩ := ledger.issued_of_pending waits
  have same := ledger.issued_unique issuedMember otherMember (ofTicket.trans sameTicket)
  exact ⟨awaited, member, by rw [named, ← ofId, same]⟩

/-- However many requests are held, no more are kept than calls may wait. -/
theorem length_holdAll (left : List Outbound) (client : Client κ ω)
    (once : ∀ id, Outbound.copies id client.link.backlog + Outbound.copies id left ≤ 1)
    (size : client.calls.size ≤ client.calls.capacity)
    (length : client.link.backlog.length ≤ client.calls.capacity) :
    (client.holdAll left).link.backlog.length ≤ client.calls.capacity := by
  induction left generalizing client with
  | nil => exact length
  | cons frame left ih =>
      obtain ⟨backlog, held⟩ := client.hold_link frame
      have calls : (client.hold frame).1.calls = client.calls := by rw [held]
      have onceNow : ∀ id, Outbound.copies id (client.hold frame).1.link.backlog +
          Outbound.copies id left ≤ 1 := by
        intro id
        have before := once id
        have fewer := (hold_copies id frame client).1
        rw [Outbound.copies_cons] at before
        omega
      rw [holdAll_cons, ← calls]
      refine ih _ onceNow (by rw [calls]; exact size) ?_
      rcases client.hold_cases frame with ⟨refused, -⟩ | ⟨live, holds⟩
      · rw [refused]
        exact length
      · rw [calls]
        refine (length_le_of_isLive (fun id => ?_) fun other member => ?_).trans size
        · exact (Nat.le_add_right _ _).trans (onceNow id)
        · rw [holds] at member
          rcases List.mem_append.1 member with kept | now
          · exact (List.mem_filter.1 kept).2
          · obtain rfl : other = frame := by simpa using now
            exact live

theorem capacity_move {move : Move κ ω} (fits : move.Fits licence client) :
    (move.apply client).calls.capacity = client.calls.capacity := by
  cases move with
  | aside act => rw [Move.apply, (perform_bystander fits.2 client).calls]
  | call issued limit =>
      rw [Move.apply, handOver_calls]
      exact fits.2.capacity
  | unsent issued =>
      exact (CallTable.capacity_finish _ issued.call.id _).trans fits.1.capacity
  | cancel id | settle id reply => exact CallTable.capacity_finish _ id _
  | depart awaited farewell => exact CallTable.capacity_finish _ awaited.id _
  | detach queue =>
      rw [apply_detach]
      rfl
  | _ => rfl

namespace Queued

theorem of_same (queued : client.Queued) (backlog : after.link.backlog = client.link.backlog)
    (awaited : ∀ caller ∈ client.awaited, caller ∈ after.awaited)
    (capacity : after.calls.capacity = client.calls.capacity) : after.Queued where
  callers := by
    rw [backlog]
    intro frame member
    obtain ⟨caller, callerMember, named⟩ := queued.callers frame member
    exact ⟨caller, awaited caller callerMember, named⟩
  length := by
    rw [backlog, capacity]
    exact queued.length

theorem of_empty (empty : after.link.backlog = []) : after.Queued where
  callers := by simp [empty]
  length := by simp [empty]

theorem handOver (queued : client.Queued) (coherent : client.Coherent) (ledger : client.Ledger)
    (traced : client.Traced) {issued : Issued} (books : client.Books issued) (limit : Option Span)
    (distinct : (client.book issued).DistinctDraws) : (client.handOver issued limit).Queued := by
  have capacity := books.capacity
  rcases coherent.handOver_cases books limit with
    ⟨queue, -, sent⟩ | ⟨channel, ⟨-, held⟩ | ⟨-, lost⟩⟩
  · rw [sent]
    exact queued.of_same rfl (fun caller member => List.mem_append_left _ member) capacity
  · have entered := ledger.enter books distinct limit (client.handOver issued limit).link
    have room : (client.book issued).calls.size ≤ client.calls.capacity := capacity ▸ entered.room
    rw [held]
    constructor
    · intro frame member
      rcases List.mem_append.1 member with kept | now
      · obtain ⟨caller, callerMember, named⟩ :=
          queued.callers frame (List.mem_filter.1 kept).1
        exact ⟨caller, List.mem_append_left _ callerMember, named⟩
      · obtain rfl : frame = issued.request := by simpa using now
        exact ⟨_, List.mem_append_right _ List.mem_cons_self, rfl⟩
    · have live : ∀ frame ∈ client.link.backlog.filter (client.book issued).isLive ++
          [issued.request], (client.book issued).isLive frame = true := by
        intro frame member
        rcases List.mem_append.1 member with kept | now
        · exact (List.mem_filter.1 kept).2
        · obtain rfl : frame = issued.request := by simpa using now
          exact books.isLive
      have once : ∀ id, Outbound.copies id (client.link.backlog.filter
          (client.book issued).isLive ++ [issued.request]) ≤ 1 := by
        intro id
        have fewer := Outbound.copies_filter_le id (client.book issued).isLive client.link.backlog
        have total := traced.once id
        rw [copies_eq] at total
        rw [Outbound.copies_append]
        by_cases same : id = issued.call.id
        · have fresh := traced.fresh ledger books distinct
          have one := copies_request issued
          rw [copies_eq] at fresh
          rw [same] at fewer ⊢
          omega
        · have none : Outbound.copies id [issued.request] = 0 := by
            simpa [Outbound.copies, Issued.request, Outbound.requestId] using Ne.symm same
          omega
      exact (length_le_of_isLive once live).trans (room.trans capacity.ge)
  · rw [lost]
    exact queued.of_same rfl (fun caller member => List.mem_append_left _ member) capacity

theorem depart (queued : client.Queued) (ledger : client.Ledger) {awaited : Awaited}
    (member : awaited ∈ client.awaited) (told : Option Outcome) :
    (client.depart awaited.ticket awaited.id told).Queued := by
  have capacity := CallTable.capacity_finish client.calls awaited.id (fun _ => .closed)
  constructor
  · intro frame inBacklog
    obtain ⟨before, other⟩ := List.mem_filter.1 inBacklog
    obtain ⟨caller, callerMember, named⟩ := queued.callers frame before
    refine ⟨caller, List.mem_filter.2 ⟨callerMember, decide_eq_true fun same => ?_⟩, named⟩
    -- the request of that caller would bear the identifier that is discarded
    rw [named, ledger.awaited_unique callerMember member same] at other
    simp at other
  · exact ((List.length_filter_le _ _).trans queued.length).trans capacity.ge

theorem failUnsent (queued : client.Queued) (ledger : client.Ledger) {issued : Issued}
    (books : client.Books issued) (distinct : (client.book issued).DistinctDraws) :
    (client.failUnsent issued).Queued := by
  have entered := ledger.enter books distinct none client.link
  have waiting : ({ client.book issued with
      awaited := client.awaited ++ [⟨issued.call.ticket, issued.call.id, none⟩]
      link := client.link } : Client κ ω).Queued :=
    queued.of_same rfl (fun caller member => List.mem_append_left _ member)
      books.capacity
  have departed := waiting.depart entered (List.mem_append_right _ List.mem_cons_self)
    (some (.error .connectionClosed))
  refine departed.of_same rfl (fun caller member => ?_) rfl
  obtain ⟨before, different⟩ := List.mem_filter.1 member
  rcases List.mem_append.1 before with already | now
  · exact List.mem_filter.2 ⟨already, different⟩
  · obtain rfl : caller = ⟨issued.call.ticket, issued.call.id, none⟩ := by simpa using now
    simp at different

theorem detach (queued : client.Queued) (ledger : client.Ledger) (traced : client.Traced)
    {queue : List Outbound} (fits : (Move.detach queue).Fits licence client) :
    ((Move.detach queue).apply client).Queued := by
  obtain ⟨lost, channel⟩ := fits.channel
  rw [apply_detach]
  constructor
  · intro frame member
    rcases holdAll_origin member with before | ⟨-, live⟩
    · exact queued.callers frame before
    · exact ledger.caller_of_isLive live
  · refine length_holdAll queue client.unplugged (fun id => ?_) ledger.room queued.length
    have total := traced.once id
    rw [copies_eq, channel] at total
    simp only [Option.getD_some, Outbound.copies_append] at total
    simp only [unplugged]
    omega

theorem move (queued : client.Queued) (coherent : client.Coherent) (ledger : client.Ledger)
    (traced : client.Traced) {move : Move κ ω} (fits : move.Fits licence client)
    (distinct : (move.apply client).DistinctDraws) : (move.apply client).Queued := by
  have capacity := capacity_move fits
  cases move with
  | aside act =>
      have bystander := perform_bystander fits.2 client
      exact queued.of_same bystander.backlog (fun _ member => bystander.awaited.symm ▸ member)
        capacity
  | call issued limit =>
      exact queued.handOver coherent ledger traced fits.2 limit
        (distinctDraws_of_handOver distinct)
  | unsent issued => exact queued.failUnsent ledger fits.1 distinct
  | cancel id =>
      refine ⟨fun frame member => queued.callers frame (List.mem_filter.1 member).1, ?_⟩
      exact ((List.length_filter_le _ _).trans queued.length).trans capacity.ge
  | depart awaited farewell => exact queued.depart ledger fits.1 _
  | unload => exact .of_empty rfl
  | detach queue => exact queued.detach ledger traced fits
  | clear => exact .of_empty rfl
  | settle id reply => exact queued.of_same rfl (fun _ member => member) capacity
  | _ => exact queued.of_same rfl (fun _ member => member) rfl

end Queued

end Switchboard.Client
