/-
# Switchboard.Proofs.Ledger -- calls, entries and callers belong together

A call that a client registers has an entry in the table until it ends, and a caller
until that is told how, or goes away.  The two are kept in different places and need
not go at the same time.  What holds at every time is `Client.Ledger`: the calls are
numbered in the order of their registration; those that wait are some of them, in
that order; every call has either a caller or a departed one; and a call that waits
has a caller.

Identifiers are drawn from a generator that the client knows nothing about.  The
statements about calls suppose that the identifiers drawn so far are distinct
(`Client.DistinctDraws`); then a call keeps its identifier to itself for ever, and
what is done in its name cannot reach another call.

* `Ledger.move`: every move keeps the ledger.
-/
import Switchboard.Proofs.Moves

namespace Switchboard.Client

set_option autoImplicit false

variable {κ ω : Type} {licence : Licence κ ω}

/-- The identifiers of the calls registered so far were drawn distinct. -/
def DistinctDraws (client : Client κ ω) : Prop :=
  ∀ first < client.idsDrawn, ∀ second < client.idsDrawn,
    client.candidate first = client.candidate second → first = second

/-- How calls, entries and callers belong together. -/
structure Ledger (client : Client κ ω) : Prop where
  sound : client.calls.Sound
  drawn : client.calls.registrations = client.idsDrawn
  tickets : client.issued.map (·.call.ticket) = List.range client.idsDrawn
  ids : ∀ issued ∈ client.issued, issued.call.id = client.candidate issued.call.ticket
  pending : client.calls.pending.Sublist (client.issued.map (·.call))
  callers : (client.awaited.map (·.ticket) ++ client.departed.map (·.1)).Perm
    (List.range client.idsDrawn)
  awaited : ∀ awaited ∈ client.awaited, ∃ issued ∈ client.issued,
    issued.call.ticket = awaited.ticket ∧ issued.call.id = awaited.id
  waiting : ∀ call ∈ client.calls.pending, call.ticket ∈ client.awaited.map (·.ticket)
  room : client.calls.size ≤ client.calls.capacity

variable {client after : Client κ ω}

/-! ## What the ledger says -/

namespace Ledger

theorem ticket_lt (ledger : client.Ledger) {issued : Issued} (member : issued ∈ client.issued) :
    issued.call.ticket < client.idsDrawn := by
  have inRange : issued.call.ticket ∈ client.issued.map (·.call.ticket) :=
    List.mem_map_of_mem (f := fun issued : Issued => issued.call.ticket) member
  rw [ledger.tickets] at inRange
  exact List.mem_range.1 inRange

/-- A ticket belongs to one call. -/
theorem issued_unique (ledger : client.Ledger) {first second : Issued}
    (firstMember : first ∈ client.issued) (secondMember : second ∈ client.issued)
    (same : first.call.ticket = second.call.ticket) : first = second := by
  have nodup : (client.issued.map (·.call.ticket)).Nodup :=
    ledger.tickets ▸ List.nodup_range
  exact List.inj_on_of_nodup_map nodup firstMember secondMember same

/-- With distinct draws, so does an identifier. -/
theorem issued_unique_id (ledger : client.Ledger) (distinct : client.DistinctDraws)
    {first second : Issued} (firstMember : first ∈ client.issued)
    (secondMember : second ∈ client.issued) (same : first.call.id = second.call.id) :
    first = second := by
  refine ledger.issued_unique firstMember secondMember ?_
  refine distinct _ (ledger.ticket_lt firstMember) _ (ledger.ticket_lt secondMember) ?_
  rw [← ledger.ids first firstMember, ← ledger.ids second secondMember, same]

theorem issued_of_pending (ledger : client.Ledger) {call : PendingCall}
    (waits : call ∈ client.calls.pending) : ∃ issued ∈ client.issued, issued.call = call :=
  List.mem_map.1 (ledger.pending.subset waits)

theorem nodup_callers (ledger : client.Ledger) :
    (client.awaited.map (·.ticket) ++ client.departed.map (·.1)).Nodup :=
  ledger.callers.nodup_iff.2 List.nodup_range

/-- With distinct draws the first candidate for an identifier is free, and is taken. -/
theorem minted (ledger : client.Ledger)
    (distinct : ∀ first < client.idsDrawn,
      client.candidate first ≠ client.candidate client.idsDrawn)
    {path : Topic} {call : PendingCall}
    (admitted : (client.calls.register client.candidates path).2 = .admitted call) :
    call.id = client.candidate client.idsDrawn := by
  have free : client.calls.contains (client.candidate client.idsDrawn) = false := by
    by_contra taken
    obtain ⟨other, waits, same⟩ := (CallTable.contains_iff _ _).1 (by simpa using taken)
    obtain ⟨issued, member, rfl⟩ := ledger.issued_of_pending waits
    rw [ledger.ids issued member] at same
    exact distinct _ (ledger.ticket_lt member) same
  have minted : client.calls.mint? client.candidates = some (client.candidate client.idsDrawn) := by
    simp [CallTable.mint?, candidates, List.range_succ_eq_map, free]
  unfold CallTable.register at admitted
  rw [minted] at admitted
  split at admitted
  · simp at admitted
  · obtain rfl : _ = call := by simpa using admitted
    rfl

/-! ## What moves do to it -/

/-- What is not about calls keeps the ledger. -/
theorem of_same (ledger : client.Ledger) (calls : after.calls = client.calls)
    (issued : after.issued = client.issued) (awaited : after.awaited = client.awaited)
    (departed : after.departed = client.departed) (idsDrawn : after.idsDrawn = client.idsDrawn)
    (candidate : after.candidate = client.candidate) : after.Ledger := by
  obtain ⟨sound, drawn, tickets, ids, pending, callers, callersOf, waiting, room⟩ := ledger
  rw [← calls] at sound drawn pending waiting room
  rw [← issued] at tickets ids pending callersOf
  rw [← awaited] at callers callersOf waiting
  rw [← departed] at callers
  rw [← idsDrawn] at drawn tickets callers
  rw [← candidate] at ids
  exact ⟨sound, drawn, tickets, ids, pending, callers, callersOf, waiting, room⟩

/-- Calls may end while their callers still wait. -/
theorem of_fewer (ledger : client.Ledger) {calls : CallTable} (sound : calls.Sound)
    (registrations : calls.registrations = client.calls.registrations)
    (pending : calls.pending.Sublist client.calls.pending)
    (capacity : calls.capacity = client.calls.capacity) (link : Link) :
    ({ client with calls, link } : Client κ ω).Ledger where
  sound := sound
  drawn := registrations.trans ledger.drawn
  tickets := ledger.tickets
  ids := ledger.ids
  pending := pending.trans ledger.pending
  callers := ledger.callers
  awaited := ledger.awaited
  waiting call waits := ledger.waiting call (pending.subset waits)
  room := capacity.symm ▸ pending.length_le.trans ledger.room

/-- The call of an identifier may end while its caller still waits. -/
theorem finish (ledger : client.Ledger) (id : CorrelationId) (ending : PendingCall → CallEnd)
    (link : Link) :
    ({ client with calls := (client.calls.finish id ending).1, link } : Client κ ω).Ledger :=
  ledger.of_fewer (ledger.sound.finish id ending) (CallTable.registrations_finish _ id ending)
    (CallTable.pending_finish _ id ending ▸ List.filter_sublist)
    (CallTable.capacity_finish _ id ending) link

/-- All calls may end while their callers still wait. -/
theorem rejectAll (ledger : client.Ledger) (error : ClientError) (link : Link) :
    ({ client with calls := (client.calls.rejectAll error).1, link } : Client κ ω).Ledger :=
  ledger.of_fewer (ledger.sound.rejectAll error) rfl (List.nil_sublist _) rfl link

/-- A call is registered, and its caller waits. -/
theorem enter (ledger : client.Ledger) {issued : Issued} (books : client.Books issued)
    (distinct : (client.book issued).DistinctDraws) (limit : Option Span) (link : Link) :
    ({ client.book issued with
        awaited := client.awaited ++ [⟨issued.call.ticket, issued.call.id, limit⟩]
        link } : Client κ ω).Ledger := by
  have ticket := books.ticket
  have id : issued.call.id = client.candidate client.idsDrawn := by
    refine ledger.minted (fun first less same => ?_) books.admitted
    exact Nat.ne_of_lt less
      (distinct first (Nat.lt_succ_of_lt less) client.idsDrawn (Nat.lt_succ_self _) same)
  rw [ledger.drawn] at ticket
  constructor
  · exact ledger.sound.register client.candidates issued.call.path
  · show (client.book issued).calls.registrations = client.idsDrawn + 1
    rw [books.calls, ledger.drawn]
  · simp [book, ledger.tickets, List.range_succ, ticket]
  · intro other member
    rcases List.mem_append.1 member with before | now
    · exact ledger.ids other before
    · obtain rfl : other = issued := by simpa using now
      rw [id, ticket]
      rfl
  · show (client.book issued).calls.pending.Sublist ((client.issued ++ [issued]).map (·.call))
    rw [books.pending, List.map_append]
    exact ledger.pending.append (List.Sublist.refl [issued.call])
  · have swapped : ([issued.call.ticket] ++ client.departed.map (·.1)).Perm
        (client.departed.map (·.1) ++ [issued.call.ticket]) := List.perm_append_comm
    have all := (swapped.append_left (client.awaited.map (·.ticket))).trans
      (List.append_assoc .. ▸ ledger.callers.append_right [issued.call.ticket])
    rw [ticket, ← List.range_succ] at all
    simpa [book, ticket] using all
  · intro caller member
    rcases List.mem_append.1 member with before | now
    · obtain ⟨other, issuedBefore, same⟩ := ledger.awaited caller before
      exact ⟨other, List.mem_append_left _ issuedBefore, same⟩
    · obtain rfl : caller = ⟨issued.call.ticket, issued.call.id, limit⟩ := by simpa using now
      exact ⟨issued, List.mem_append_right _ List.mem_cons_self, rfl, rfl⟩
  · intro call waits
    have waits : call ∈ client.calls.pending ++ [issued.call] := books.pending ▸ waits
    rw [List.map_append]
    rcases List.mem_append.1 waits with before | now
    · exact List.mem_append_left _ (ledger.waiting call before)
    · exact List.mem_append_right _ (by simp [List.mem_singleton.1 now])
  · show (client.book issued).calls.size ≤ (client.book issued).calls.capacity
    rw [CallTable.size, books.pending, books.capacity, List.length_append]
    exact books.space

/-- A caller is told something, or goes away; its call waits no longer. -/
theorem depart (ledger : client.Ledger) {awaited : Awaited} (member : awaited ∈ client.awaited)
    (told : Option Outcome) : (client.depart awaited.ticket awaited.id told).Ledger := by
  have nodup := ledger.nodup_callers
  have tickets : (client.awaited.map (·.ticket)).Nodup := (List.nodup_append.1 nodup).1
  have entry : (client.awaited.map (·.ticket)).Perm (awaited.ticket ::
      (client.awaited.filter (fun other => other.ticket ≠ awaited.ticket)).map (·.ticket)) :=
    (CallTable.perm_cons_filter (·.ticket) tickets member).map (·.ticket)
  constructor
  · exact ledger.sound.finish awaited.id _
  · exact (CallTable.registrations_finish _ awaited.id _).trans ledger.drawn
  · exact ledger.tickets
  · exact ledger.ids
  · exact (CallTable.pending_finish client.calls awaited.id (fun _ => .closed) ▸
      List.filter_sublist.trans ledger.pending)
  · refine List.Perm.trans ?_ ledger.callers
    exact List.perm_middle.trans (entry.symm.append_right _)
  · intro other otherMember
    exact ledger.awaited other (List.mem_filter.1 otherMember).1
  · intro call waits
    have kept : call ∈ client.calls.pending.filter (fun other => other.id ≠ awaited.id) :=
      CallTable.pending_finish client.calls awaited.id (fun _ => .closed) ▸ waits
    obtain ⟨waited, different⟩ := List.mem_filter.1 kept
    obtain ⟨caller, callerMember, same⟩ := List.mem_map.1 (ledger.waiting call waited)
    refine List.mem_map.2 ⟨caller, List.mem_filter.2 ⟨callerMember, ?_⟩, same⟩
    -- a caller's ticket and identifier are those of one call
    rw [decide_eq_true_eq]
    intro sameTicket
    obtain ⟨issued, issuedMember, ofTicket, ofId⟩ := ledger.awaited awaited member
    obtain ⟨other, otherMember, rfl⟩ := ledger.issued_of_pending waited
    have ofCall : other.call.ticket = issued.call.ticket := by
      rw [← same, sameTicket, ofTicket]
    rw [ledger.issued_unique otherMember issuedMember ofCall, ofId] at different
    simp at different
  · have fewer : (client.calls.finish awaited.id (fun _ => .closed)).1.size ≤
        client.calls.size := by
      rw [CallTable.size, CallTable.pending_finish]
      exact List.length_filter_le _ _
    have capacity := CallTable.capacity_finish client.calls awaited.id (fun _ => .closed)
    exact capacity.symm ▸ fewer.trans ledger.room

/-- A call that fails at once comes and goes. -/
theorem failUnsent (ledger : client.Ledger) {issued : Issued} (books : client.Books issued)
    (distinct : (client.book issued).DistinctDraws) : (client.failUnsent issued).Ledger := by
  have entered := (ledger.enter books distinct none client.link).depart
    (List.mem_append_right _ List.mem_cons_self) (some (.error .connectionClosed))
  refine entered.of_same rfl rfl ?_ rfl rfl rfl
  simp [Client.failUnsent, Client.depart, releaseCall, discard]
  rfl

end Ledger

/-! ## Moves -/

/-- Moves draw identifiers, and never put one back. -/
theorem idsDrawn_move {move : Move κ ω} (fits : move.Fits licence client) :
    client.idsDrawn ≤ (move.apply client).idsDrawn := by
  cases move with
  | aside act => exact (perform_bystander fits.2 client).idsDrawn.ge
  | call issued limit =>
      rw [Move.apply, handOver_idsDrawn]
      exact Nat.le_succ _
  | unsent issued => exact Nat.le_succ _
  | detach queue =>
      rw [apply_detach]
      exact Nat.le_refl _
  | _ => exact Nat.le_refl _

theorem distinctDraws_of_move {move : Move κ ω} (fits : move.Fits licence client)
    (distinct : (move.apply client).DistinctDraws) : client.DistinctDraws := by
  have more := idsDrawn_move fits
  have same := (move.apply_constant client).2
  intro first firstLess second secondLess equal
  exact distinct first (firstLess.trans_le more) second (secondLess.trans_le more)
    (by rw [same]; exact equal)

theorem distinctDraws_of_path {first last : Client κ ω} {moves : List (Move κ ω)}
    (path : first.Path licence moves last) (distinct : last.DistinctDraws) :
    first.DistinctDraws := by
  induction path with
  | still => exact distinct
  | move _ _ fits ih => exact ih (distinctDraws_of_move fits distinct)

theorem distinctDraws_of_handOver {issued : Issued} {limit : Option Span}
    (distinct : (client.handOver issued limit).DistinctDraws) :
    (client.book issued).DistinctDraws := by
  have same := (client.handOver_calm issued limit).candidate
  rw [DistinctDraws, handOver_idsDrawn, same] at distinct
  exact distinct

/-- **Every move keeps the ledger**, as long as the identifiers are drawn distinct. -/
theorem Ledger.move (ledger : client.Ledger) {move : Move κ ω}
    (fits : move.Fits licence client) (distinct : (move.apply client).DistinctDraws) :
    (move.apply client).Ledger := by
  cases move with
  | aside act =>
      have bystander := perform_bystander fits.2 client
      exact ledger.of_same bystander.calls bystander.issued bystander.awaited bystander.departed
        bystander.idsDrawn (perform_calm act client).candidate
  | call issued limit =>
      obtain ⟨channel, backlog, handed⟩ := client.handOver_link issued limit
      rw [Move.apply, handed] at distinct ⊢
      exact ledger.enter fits.2 distinct limit _
  | unsent issued => exact ledger.failUnsent fits.1 distinct
  | cancel id => exact ledger.finish id _ _
  | depart awaited farewell => exact ledger.depart fits.1 _
  | settle id reply => exact ledger.finish id _ client.link
  | failAll => exact ledger.rejectAll _ client.link
  | clear => exact ledger.rejectAll _ _
  | detach queue =>
      rw [apply_detach]
      exact ledger.of_same rfl rfl rfl rfl rfl rfl
  | _ => exact ledger.of_same rfl rfl rfl rfl rfl rfl

theorem start_ledger (options : Options) (token : Option Json) (candidate : Nat → CorrelationId)
    (desk : ω) : (start options token candidate desk : Client κ ω).Ledger where
  sound := CallTable.sound_empty _
  drawn := rfl
  tickets := rfl
  ids := by simp [start, new]
  pending := List.Sublist.refl _
  callers := List.Perm.refl _
  awaited := by simp [start, new]
  waiting := by simp [start, new]
  room := Nat.zero_le _

/-- A path keeps the ledger, if the identifiers it drew are distinct in the end. -/
theorem Path.ledger {first last : Client κ ω} {moves : List (Move κ ω)}
    (path : first.Path licence moves last) (ledger : first.Ledger)
    (distinct : last.DistinctDraws) : last.Ledger := by
  induction path with
  | still => exact ledger
  | move path move fits ih =>
      have before := distinctDraws_of_move fits distinct
      exact (ih before).move fits distinct

/-- What each move keeps, with the ledger at hand, a path keeps. -/
theorem Path.preserves_of_distinct {first last : Client κ ω} {moves : List (Move κ ω)}
    {holds : Client κ ω → Prop}
    (kept : ∀ (client : Client κ ω) (move : Move κ ω), client.Coherent → client.Ledger →
      holds client → move.Fits licence client → (move.apply client).DistinctDraws →
        holds (move.apply client))
    (path : first.Path licence moves last) (coherent : first.Coherent) (ledger : first.Ledger)
    (begins : holds first) (distinct : last.DistinctDraws) : holds last := by
  induction path with
  | still => exact begins
  | move path move fits ih =>
      have before := distinctDraws_of_move fits distinct
      exact kept _ move (path.coherent coherent) (path.ledger ledger before) (ih before) fits
        distinct

end Switchboard.Client
