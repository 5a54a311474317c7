/-
# Switchboard.Proofs.CallLifecycle -- every way out of a call

Nothing is left behind by a call that is over.  Once every caller of an ended call
has been told, the table holds exactly the calls whose callers wait
(`Ledger.pending_eq`), and the backlog at most their requests.  A snapshot shows the
waiting calls in the order of their registration, if the clock went on in between
(`Ledger.snapshot_eq`).  What has become of a call is what its history says
(`Client.Follows`), and each of the events that may end a call reaches it
(`Client.Reached`).

* `call_lifecycle`: the whole of it, over every run.
-/
import Switchboard.Proofs.Backlog
import Switchboard.Proofs.CallVerdicts
import Switchboard.Proofs.Enduring
import Switchboard.Proofs.Replies

namespace Switchboard

set_option autoImplicit false

/-- Calls that were registered at later and later instants are shown as they were registered. -/
theorem CallTable.snapshot_eq {table : CallTable} {clock : Clock}
    {visit : List PendingCall → List PendingCall} (all : ∀ calls, (visit calls).Perm calls)
    (later : table.pending.Pairwise (fun first second => clock first.ticket < clock second.ticket)) :
    table.snapshot clock visit = table.pending.map (PendingCall.info clock) := by
  have shown := table.snapshot_perm clock all
  have ascending : (table.pending.map (PendingCall.info clock)).Pairwise
      (fun first second => first.created < second.created) := List.pairwise_map.2 later
  -- no two calls are shown with one instant
  have instants : ((table.pending.map (PendingCall.info clock)).map (·.created)).Nodup :=
    List.pairwise_map.2 (ascending.imp Nat.ne_of_lt)
  refine shown.eq_of_pairwise (fun first second member other upTo back => ?_)
    (table.snapshot_ascending clock) (ascending.imp Nat.le_of_lt)
  exact List.inj_on_of_nodup_map instants (shown.mem_iff.1 member) other (Nat.le_antisymm upTo back)

namespace Client

variable {κ ω : Type} {licence : Licence κ ω} {client after : Client κ ω}

/-! ## Rest -/

/-- Every caller whose call has ended has been told. -/
def AtRest (client : Client κ ω) : Prop :=
  ∀ awaited ∈ client.awaited, client.calls.ending? awaited.ticket = none

/-- The calls that were registered and whose callers have neither been told anything nor gone away,
oldest first. -/
def standing (client : Client κ ω) : List PendingCall :=
  (client.issued.map (·.call)).filter (fun call => call.ticket ∉ client.departed.map (·.1))

namespace Ledger

/-- At rest, a call waits if its caller does. -/
theorem pending_of_awaited (ledger : client.Ledger) (rest : client.AtRest) {issued : Issued}
    (member : issued ∈ client.issued)
    (awaited : issued.call.ticket ∈ client.awaited.map (·.ticket)) :
    issued.call ∈ client.calls.pending := by
  obtain ⟨caller, callerMember, same⟩ := List.mem_map.1 awaited
  have open' := (CallTable.ending?_eq_none_iff _ _).1 (rest caller callerMember)
  have registered : issued.call.ticket ∈
      client.calls.pending.map (·.ticket) ++ client.calls.endings.map (·.1) := by
    rw [ledger.sound.tickets.mem_iff, List.mem_range, ledger.drawn]
    exact ledger.ticket_lt member
  rcases List.mem_append.1 registered with waits | ended
  · obtain ⟨call, callMember, sameTicket⟩ := List.mem_map.1 waits
    obtain ⟨other, otherMember, rfl⟩ := ledger.issued_of_pending callMember
    rw [← ledger.issued_unique otherMember member sameTicket]
    exact callMember
  · exact absurd (same ▸ ended) open'

/-- A call that waits has a caller, which has not departed. -/
theorem not_departed (ledger : client.Ledger) {ticket : Nat}
    (awaited : ticket ∈ client.awaited.map (·.ticket)) :
    ticket ∉ client.departed.map (·.1) := fun departed =>
  (List.nodup_append.1 ledger.nodup_callers).2.2 ticket awaited ticket departed rfl

/-- **At rest the table holds exactly the calls whose callers wait**, in their order. -/
theorem pending_eq (ledger : client.Ledger) (rest : client.AtRest) :
    client.calls.pending = client.standing := by
  have tickets : (client.issued.map (·.call)).map (·.ticket) = List.range client.idsDrawn := by
    rw [List.map_map]
    exact ledger.tickets
  have nodup : client.standing.Nodup :=
    (List.Nodup.of_map (·.ticket) (tickets ▸ List.nodup_range)).filter _
  have some : ∀ call ∈ client.calls.pending,
      decide (call.ticket ∉ client.departed.map (·.1)) = true := fun call waits =>
    decide_eq_true (ledger.not_departed (ledger.waiting call waits))
  have sublist : client.calls.pending.Sublist client.standing := by
    have filtered := ledger.pending.filter
      (fun call => decide (call.ticket ∉ client.departed.map (·.1)))
    rwa [List.filter_eq_self.2 some] at filtered
  have all : client.standing ⊆ client.calls.pending := by
    intro call member
    obtain ⟨registered, stays⟩ := List.mem_filter.1 member
    obtain ⟨issued, issuedMember, rfl⟩ := List.mem_map.1 registered
    have caller : issued.call.ticket ∈
        client.awaited.map (·.ticket) ++ client.departed.map (·.1) := by
      rw [ledger.callers.mem_iff, List.mem_range]
      exact ledger.ticket_lt issuedMember
    rcases List.mem_append.1 caller with awaited | departed
    · exact ledger.pending_of_awaited rest issuedMember awaited
    · exact absurd departed (of_decide_eq_true stays)
  exact sublist.eq_of_length_le (List.subperm_of_subset nodup all).length_le

/-- **A snapshot shows the waiting calls in the order of their registration**, if registrations read
later and later instants. -/
theorem snapshot_eq (ledger : client.Ledger) {clock : Clock}
    {visit : List PendingCall → List PendingCall}
    (ticks : ∀ first second, first < second → second < client.calls.registrations →
      clock first < clock second)
    (all : ∀ calls, (visit calls).Perm calls) :
    client.calls.snapshot clock visit = client.calls.pending.map (PendingCall.info clock) := by
  have numbers : ((client.issued.map (·.call)).map (·.ticket)).Pairwise
      (fun first second => first < second ∧ second < client.calls.registrations) := by
    rw [List.map_map, ledger.drawn]
    show (client.issued.map (fun issued => issued.call.ticket)).Pairwise _
    rw [ledger.tickets]
    refine List.pairwise_lt_range.imp_of_mem fun _ member before => ?_
    exact ⟨before, List.mem_range.1 member⟩
  have waiting := List.pairwise_map.1 (numbers.sublist (ledger.pending.map _))
  exact CallTable.snapshot_eq all (waiting.imp fun order => ticks _ _ order.1 order.2)

end Ledger

/-! ## Events -/

variable {behave : Behaviour κ ω} {call : PendingCall}

/-- A reply reaches the call it names. -/
theorem stands_hear (ledger : client.Ledger) (waits : call ∈ client.calls.pending) {text : String}
    {reply : Except String Json} (pumping : client.isPumping = true)
    (decodes : Inbound.decode text = .ok (.reply call.id reply)) :
    ((Event.hear text).step behave client).Stands call
      (some (some (CallTable.replyOutcome reply call))) := by
  have settled : (Event.hear text).step behave client =
      { client with calls := (client.calls.settle call.id reply).1 } := by
    simp [Event.step, pumping, hear, route, decodes]
  have stands := stands_finish ledger waits call.id (CallTable.replyOutcome reply) client.link
  rw [if_pos rfl] at stands
  exact settled ▸ stands

/-- A cancellation reaches the call it names. -/
theorem stands_cancel (ledger : client.Ledger) (waits : call ∈ client.calls.pending) :
    ((Event.act (.cancel call.id)).step behave client).Stands call
      (some (some (.error (.cancelled call.id)))) := by
  have stands := stands_finish ledger waits call.id (fun _ => .error (.cancelled call.id))
    ((client.cancel call.id).1.link)
  rw [if_pos rfl] at stands
  exact stands

/-- A deadline reaches the call of its caller. -/
theorem stands_expire (ledger : client.Ledger) (waits : call ∈ client.calls.pending)
    {awaited : Awaited} {limit : Span} (caller : client.awaited? call.ticket = some awaited)
    (limited : awaited.limit = some limit) :
    ((Event.act (.expire call.ticket)).step behave client).Stands call
      (some (some (.error (deadlineError call.id limit)))) := by
  obtain ⟨member, ticket⟩ := mem_of_awaited? caller
  have open' : client.calls.ending? call.ticket = none := by
    rw [CallTable.ending?_eq_none_iff]
    intro ended
    exact (List.nodup_append.1 ledger.sound.nodup_tickets).2.2 _
      (List.mem_map_of_mem waits) _ ended rfl
  have named : awaited.id = call.id := by
    obtain ⟨issued, issuedMember, ofTicket, ofId⟩ := ledger.awaited awaited member
    obtain ⟨other, otherMember, rfl⟩ := ledger.issued_of_pending waits
    rw [← ofId, ledger.issued_unique issuedMember otherMember (ofTicket.trans ticket)]
  have expired : (Event.act (.expire call.ticket)).step behave client =
      client.depart call.ticket awaited.id (some (.error (deadlineError call.id limit))) := by
    simp [Event.step, Act.perform, expire, caller, open', deadlineOutcome, limited, named]
  rw [expired]
  exact .inr (.inl List.mem_cons_self)

/-- A link that is lost under the failing policy leaves no call waiting. -/
theorem pending_lose (within : behave.Within fun _ => True) (poised : client.Poised)
    (pumping : client.isPumping = true) (policy : client.options.pendingPolicy = .fail) :
    (Event.lose.step behave client).calls.pending = [] := by
  have up : client.detach.isAlive = true := by
    obtain ⟨backlog, detached⟩ := client.detach_link
    rw [detached, ← poised.held (client.isPumping_iff.1 pumping).1, ← poised.up]
    rfl
  have constant : client.detach.options = client.options := by
    obtain ⟨backlog, detached⟩ := client.detach_link
    rw [detached]
    rfl
  have told : Acted .free (client.detach.moveTo .disconnected)
      (notifyAll behave (.alive false) (client.detach.moveTo .disconnected)
        client.detach.connectivity.observers) := notifyAll_acted within _ _ _
  have fails := told.calm.options.trans constant
  have lost : Event.lose.step behave client =
      (client.detach.wentDown behave .dropped).awaitRetry := by
    simp [Event.step, pumping, lose, endSession]
  rw [lost, wentDown_told behave .dropped up, if_pos ⟨rfl, by rw [fails]; exact policy⟩]
  rfl

/-- Whether cancelling a call finds it is whether the call waits. -/
theorem cancel_iff (ledger : client.Ledger) (distinct : client.DistinctDraws) {issued : Issued}
    (member : issued ∈ client.issued) :
    (client.cancel issued.call.id).2 = true ↔ issued.call ∈ client.calls.pending := by
  have found : (client.cancel issued.call.id).2 = client.calls.contains issued.call.id :=
    CallTable.finish_found client.calls issued.call.id _
  rw [found, CallTable.contains_iff]
  constructor
  · rintro ⟨call, waits, same⟩
    obtain ⟨other, otherMember, rfl⟩ := ledger.issued_of_pending waits
    exact ledger.issued_unique_id distinct otherMember member same ▸ waits
  · exact fun waits => ⟨issued.call, waits, rfl⟩

/-! ## The end of the client and of the link -/

/-- No call ended, or every call that waited did, with its connection. -/
structure AllOrNone (before after : Client κ ω) : Prop where
  calls : after.calls = before.calls ∨
    after.calls = (before.calls.rejectAll .connectionClosed).1
  awaited : after.awaited = before.awaited
  departed : after.departed = before.departed

namespace AllOrNone

theorem of_same (calls : after.calls = client.calls) (awaited : after.awaited = client.awaited)
    (departed : after.departed = client.departed) : client.AllOrNone after :=
  ⟨.inl calls, awaited, departed⟩

theorem trans {middle : Client κ ω} (first : client.AllOrNone middle)
    (second : middle.AllOrNone after) : client.AllOrNone after := by
  refine ⟨?_, second.awaited.trans first.awaited, second.departed.trans first.departed⟩
  rcases first.calls with same | failed
  · exact same ▸ second.calls
  · -- calls that have failed cannot fail again
    right
    rcases second.calls with kept | again
    · exact kept.trans failed
    · rw [again, failed]
      rfl

theorem rejectAll (client : Client κ ω) (link : Link) :
    client.AllOrNone
      { client with calls := (client.calls.rejectAll .connectionClosed).1, link } :=
  ⟨.inr rfl, rfl, rfl⟩

theorem performAll {acts : List (Act κ ω)} (aside : ∀ act ∈ acts, act.isAside = true)
    (client : Client κ ω) : client.AllOrNone (client.performAll acts) := by
  induction acts generalizing client with
  | nil => exact .of_same rfl rfl rfl
  | cons act acts ih =>
      have bystander := perform_bystander (aside act List.mem_cons_self) client
      have first : client.AllOrNone (act.perform client) :=
        .of_same bystander.calls bystander.awaited bystander.departed
      exact first.trans (ih (fun other member => aside other (List.mem_cons_of_mem _ member)) _)

/-- Callbacks that are about no call leave it at that. -/
theorem endures (leaves : behave.Within fun act => act.isAside = true) :
    Endures behave AllOrNone where
  refl _ := .of_same rfl rfl rfl
  trans first second := first.trans second
  callback callback signal client := by
    obtain ⟨acts, aside, does⟩ := leaves callback signal client
    exact does ▸ performAll aside client
  moveTo _ _ := .of_same rfl rfl rfl
  link _ _ _ _ := .of_same rfl rfl rfl
  taken _ := .of_same rfl rfl rfl
  unplugged _ := .of_same rfl rfl rfl
  hold frame client := by
    obtain ⟨backlog, held⟩ := client.hold_link frame
    exact held ▸ .of_same rfl rfl rfl
  failAll client := rejectAll client client.link

/-- If no call waits any longer, every call ended with its connection. -/
theorem stands (ended : client.AllOrNone after) (ledger : client.Ledger)
    (waits : call ∈ client.calls.pending) (none : after.calls.pending = []) :
    after.Stands call (some (some (.error .connectionClosed))) := by
  rcases ended.calls with same | failed
  · rw [← same, none] at waits
    simp at waits
  · refine .inl ⟨.error .connectionClosed, rfl, ?_, ?_⟩
    · rw [failed]
      exact List.mem_append_left _ (List.mem_map.2 ⟨call, waits, rfl⟩)
    · exact ended.awaited ▸ ledger.waiting call waits

end AllOrNone

/-! ## Runs -/

/-- A history registers a call, and the call stands as its registration says, or else as the first
later move says that reaches it. -/
def Follows (client : Client κ ω) (moves : List (Move κ ω)) (issued : Issued) : Prop :=
  ∃ before move after decided,
    moves = before ++ move :: after ∧ move.Begins issued decided ∧
      client.Stands issued.call (decided.or (after.findSome? (Move.verdict issued.call)))

/-- What the events say that reach a waiting call; the last two, if callbacks leave calls alone. -/
structure Reached (behave : Behaviour κ ω) (client : Client κ ω) (call : PendingCall) : Prop where
  granted : ∀ text data, client.isPumping = true →
    Inbound.decode text = .ok (.reply call.id (.ok data)) →
      ((Event.hear text).step behave client).Stands call (some (some (.ok data)))
  refused : ∀ text message, client.isPumping = true →
    Inbound.decode text = .ok (.reply call.id (.error message)) →
      ((Event.hear text).step behave client).Stands call
        (some (some (.error (.remote call.path.wire message))))
  cancel : ((Event.act (.cancel call.id)).step behave client).Stands call
    (some (some (.error (.cancelled call.id))))
  deadline : ∀ awaited limit, client.awaited? call.ticket = some awaited →
    awaited.limit = some limit →
      ((Event.act (.expire call.ticket)).step behave client).Stands call
        (some (some (.error (.requestTimeout call.id limit.millis))))
  close : (behave.Within fun act => act.isAside = true) →
    (Event.close.step behave client).Stands call (some (some (.error .connectionClosed)))
  lose : (behave.Within fun act => act.isAside = true) → client.isPumping = true →
    client.options.pendingPolicy = .fail →
      (Event.lose.step behave client).Stands call (some (some (.error .connectionClosed)))

theorem reached (within : behave.Within fun _ => True) (poised : client.Poised)
    (ledger : client.Ledger) (waits : call ∈ client.calls.pending) :
    client.Reached behave call where
  granted _ _ pumping decodes := stands_hear ledger waits pumping decodes
  refused _ _ pumping decodes := stands_hear ledger waits pumping decodes
  cancel := stands_cancel ledger waits
  deadline _ _ caller limited := stands_expire ledger waits caller limited
  close leaves := ((AllOrNone.endures leaves).close client).stands ledger waits rfl
  lose leaves pumping policy := by
    have lost : Event.lose.step behave client = client.endSession behave .dropped := by
      simp [Event.step, pumping, Client.lose]
    have none := pending_lose within poised pumping policy
    rw [lost] at none ⊢
    exact ((AllOrNone.endures leaves).endSession .dropped client).stands ledger waits none

/-- What the ledger, the traces and the backlog say together once nobody has anything to learn. -/
theorem Queued.of_rest (queued : client.Queued) (ledger : client.Ledger) (traced : client.Traced)
    (rest : client.AtRest) :
    (client.link.backlog.map (·.requestId)).Nodup ∧
      ∀ frame ∈ client.link.backlog, ∃ call ∈ client.calls.pending,
        frame.requestId = some call.id := by
  constructor
  · refine nodup_requestIds (fun id => ?_) fun frame member => ?_
    · have total := traced.once id
      rw [copies_eq] at total
      omega
    · obtain ⟨caller, -, named⟩ := queued.callers frame member
      exact ⟨caller.id, named⟩
  · intro frame member
    obtain ⟨caller, callerMember, named⟩ := queued.callers frame member
    obtain ⟨issued, issuedMember, ofTicket, ofId⟩ := ledger.awaited caller callerMember
    refine ⟨issued.call, ledger.pending_of_awaited rest issuedMember ?_, ofId ▸ named⟩
    exact List.mem_map.2 ⟨caller, callerMember, ofTicket.symm⟩

theorem capacity_path {first last : Client κ ω} {moves : List (Move κ ω)}
    (path : first.Path licence moves last) : last.calls.capacity = first.calls.capacity := by
  induction path with
  | still => rfl
  | move _ _ fits ih => exact (capacity_move fits).trans ih

/-- **A call ends once, in one way, and leaves nothing behind.**  In every run in which identifiers
are drawn distinct:

* never more calls wait, and never more requests are in the backlog, than may;
* at rest the calls that wait are those that were registered and whose callers have neither been
  told anything nor gone away, under distinct identifiers; a snapshot shows each of them once, under
  its own path, and the oldest first, if registrations read later and later instants; and the
  requests in the backlog are, each once, requests of such calls;
* no caller departs twice;
* the run has a history; and along every history each registered call stands as the first move
  says that reaches it while it waits -- a reply, its deadline, its cancellation, its caller
  going away, a lost link under the failing policy, the end of the client -- or as its
  registration says, if under the failing policy its request was neither sent nor held;
* cancelling a registered call finds it exactly if it waits;
* a reply, a cancellation and a deadline reach the call they are about; when the client is closed,
  or the link is lost under the failing policy, no call is left waiting. -/
theorem call_lifecycle {behave : Behaviour κ ω} (within : behave.Within fun _ => True)
    (events : List (Event κ ω)) (options : Options) (token : Option Json)
    (candidate : Nat → CorrelationId) (desk : ω)
    (distinct : (run behave events (start options token candidate desk)).DistinctDraws) :
    let first := start options token candidate desk
    let client := run behave events first
    (client.calls.size ≤ options.maxPendingCalls ∧
        client.link.backlog.length ≤ options.maxPendingCalls) ∧
      (client.AtRest →
        client.calls.pending = client.standing ∧ (client.calls.pending.map (·.id)).Nodup ∧
          (∀ (clock : Clock) (visit : List PendingCall → List PendingCall),
            (∀ first second, first < second → second < client.calls.registrations →
              clock first < clock second) →
            (∀ calls, (visit calls).Perm calls) →
              client.calls.snapshot clock visit =
                client.standing.map (fun call => ⟨call.id, call.path, clock call.ticket⟩)) ∧
          (client.link.backlog.map (·.requestId)).Nodup ∧
          ∀ frame ∈ client.link.backlog, ∃ call ∈ client.calls.pending,
            frame.requestId = some call.id) ∧
      (client.departed.map (·.1)).Nodup ∧
      (∃ moves, first.Path .free moves client) ∧
      (∀ moves, first.Path .free moves client →
        ∀ issued ∈ client.issued, client.Follows moves issued) ∧
      (∀ issued ∈ client.issued,
        (client.cancel issued.call.id).2 = true ↔ issued.call ∈ client.calls.pending) ∧
      (∀ call ∈ client.calls.pending, client.Reached behave call) ∧
      (Event.close.step behave client).calls.pending = [] ∧
      (client.isPumping = true → options.pendingPolicy = .fail →
        (Event.lose.step behave client).calls.pending = []) := by
  intro first client
  have poised : first.Poised := start_poised options token candidate desk
  have startLedger : first.Ledger := start_ledger options token candidate desk
  have arrives : Arrives .free first client :=
    run_arrives within poised fun event _ => within_free event
  obtain ⟨moves, path⟩ := arrives.reaches
  have ledger : client.Ledger := path.ledger startLedger distinct
  have kept : ∀ (client : Client κ ω) (move : Move κ ω), client.Coherent → client.Ledger →
      client.Traced ∧ client.Queued → move.Fits .free client →
        (move.apply client).DistinctDraws →
          (move.apply client).Traced ∧ (move.apply client).Queued :=
    fun _ _ coherent ledger before fits distinct =>
      ⟨before.1.move coherent ledger fits distinct,
        before.2.move coherent ledger before.1 fits distinct⟩
  have begins : first.Traced ∧ first.Queued :=
    ⟨start_traced options token candidate desk, .of_empty rfl⟩
  obtain ⟨traced, queued⟩ :=
    path.preserves_of_distinct kept poised.toCoherent startLedger begins distinct
  have capacity : client.calls.capacity = options.maxPendingCalls := capacity_path path
  have constant : client.options = options := path.options
  refine ⟨⟨capacity ▸ ledger.room, capacity ▸ queued.length⟩, fun rest => ?_, ?_, ⟨moves, path⟩,
    fun moves path issued member => ?_, fun issued member => cancel_iff ledger distinct member,
    fun call waits => ?_, rfl, fun pumping policy => ?_⟩
  · have same := ledger.pending_eq rest
    refine ⟨same, ledger.sound.ids, fun clock visit ticks all => ?_,
      queued.of_rest ledger traced rest⟩
    rw [ledger.snapshot_eq ticks all, same]
    rfl
  · exact (List.nodup_append.1 ledger.nodup_callers).2.1
  · rcases exists_begins path member with before | ⟨before, move, later, decided, split, begins⟩
    · simp [first, start, new] at before
    · refine ⟨before, move, later, decided, split, begins, ?_⟩
      subst split
      obtain ⟨middle, left, right⟩ := path.split
      obtain ⟨fits, rest⟩ := right.of_cons
      have distinctThen : (move.apply middle).DistinctDraws := distinctDraws_of_path rest distinct
      have ledgerThen := ((left.move move fits).ledger startLedger distinctThen)
      exact stands_path rest ledgerThen distinct (stands_of_begins fits begins)
  · exact reached within (arrives.poised poised) ledger waits
  · exact pending_lose within (arrives.poised poised) pumping (constant ▸ policy)

/-- Four calls of a session: one is cancelled and learns so, one passes its deadline, and two wait
on. -/
def fourCalls : List (Event Unit Unit) :=
  [.connect true "ws://a", .attempt, .opened, .settled none, .proceed, .proceed, .proceed,
    .act (.call ⟨["orders", "list"]⟩ .null none),
    .act (.call ⟨["orders", "add"]⟩ .null (some (Span.ofMillis 5000))),
    .act (.call ⟨["orders", "drop"]⟩ .null none), .act (.call ⟨["stock"]⟩ .null none),
    .act (.cancel (CorrelationId.drawn 0)), .act (.conclude 0), .act (.expire 1)]

/-- A reply to the third of them. -/
def answer (error : Option String) : Envelope where
  messageId := "m"
  replyingTo := some (CorrelationId.drawn 2).text
  data := some (.bool true)
  error := error

theorem lifecycle_fourCalls :
    let client := run silent fourCalls (start {} none CorrelationId.drawn ())
    let call : PendingCall := ⟨2, CorrelationId.drawn 2, ⟨["orders", "drop"]⟩⟩
    client.departed = [(1, some (.error (.requestTimeout (CorrelationId.drawn 1) 5000))),
        (0, some (.error (.cancelled (CorrelationId.drawn 0))))] ∧
      client.calls.pending = client.standing ∧ client.standing.length = 2 ∧
      client.calls.snapshot (fun ticket => 7 * ticket) List.reverse =
        client.standing.map (fun call => ⟨call.id, call.path, 7 * call.ticket⟩) ∧
      ((Event.hear (answer none).encode).step silent client).Stands call
        (some (some (.ok (.bool true)))) ∧
      ((Event.hear (answer (some "sold")).encode).step silent client).Stands call
        (some (some (.error (.remote "orders/drop" "sold")))) := by
  intro client call
  have seen : (fun client : Client Unit Unit =>
      (client.departed, client.standing.length, client.idsDrawn, client.isPumping,
        client.calls.pending.head?,
        client.awaited.map (fun awaited => client.calls.ending? awaited.ticket)))
      (run silent fourCalls (start {} none CorrelationId.drawn ())) =
        ([(1, some (.error (.requestTimeout (CorrelationId.drawn 1) 5000))),
          (0, some (.error (.cancelled (CorrelationId.drawn 0))))], 2, 4, true,
          some ⟨2, CorrelationId.drawn 2, ⟨["orders", "drop"]⟩⟩, [none, none]) := by cbv
  simp only [Prod.mk.injEq] at seen
  obtain ⟨departed, standing, drawn, pumping, first, endings⟩ := seen
  have rest : client.AtRest := by
    intro awaited member
    have inEndings := List.mem_map_of_mem (f := fun awaited : Awaited =>
      client.calls.ending? awaited.ticket) member
    rw [endings] at inEndings
    simpa using inEndings
  have distinct := distinctDraws_run (silent_within _) (fun event _ => within_free event) drawn
    (by decide)
  have waits : call ∈ client.calls.pending := List.mem_of_head? first
  have plain : ∀ error, (answer error).Plain := by
    intro error
    have payloads : (answer error).payloads = [.bool true] := rfl
    exact ⟨payloads ▸ by decide, payloads ▸ by decide, payloads ▸ by decide⟩
  have decodes := fun error => Inbound.decode_reply (plain error) rfl
    (CorrelationId.drawn 2).spelling_text
  obtain ⟨-, atRest, -, -, -, -, reached, -⟩ := call_lifecycle (silent_within _) fourCalls {} none
    CorrelationId.drawn () distinct
  obtain ⟨same, -, snapshot, -⟩ := atRest rest
  refine ⟨departed, same, standing, ?_, (reached call waits).granted _ _ pumping (decodes none),
    (reached call waits).refused _ _ pumping (decodes (some "sold"))⟩
  exact snapshot (fun ticket => 7 * ticket) List.reverse
    (fun _ _ less _ => Nat.mul_lt_mul_of_pos_left less (by decide)) List.reverse_perm

end Client

end Switchboard
