/-
# Switchboard.Proofs.Refusals -- an operation that fails leaves the client as it was

Most refusals come before anything is done: a bad address, a driver that runs already,
an empty topic, a path that may not be called, a full table, a handle that nobody has.
Two come later.  A call whose request can neither be sent nor held has been registered
by then, and has to go again; it goes without a trace because its identifier was no
waiting call's, and because without queueing nothing is held.  A cancellation looks for
a queued request whether or not it finds the call; at rest it finds none, since every
queued request is that of a caller (`Client.Vouched`), whose call waits then.

Only histories tell of a failed call: `Client.Untouched` says that everything else is
the same.

* `Vouched.move`: every move keeps queued requests with their callers;
* `failure_leaves_no_trace`: every operation that fails, in every state at rest.
-/
import Switchboard.Proofs.CallLifecycle
import Switchboard.Proofs.Handles

namespace Switchboard.Client

set_option autoImplicit false

variable {κ ω : Type} {licence : Licence κ ω} {client after : Client κ ω}

/-! ## Callers and their requests -/

/-- Callers have tickets of their own.  A waiting call has a caller of its ticket and identifier, and
a queued request is that of a caller. -/
structure Vouched (client : Client κ ω) : Prop where
  sound : client.calls.Sound
  tickets : (client.awaited.map (·.ticket)).Nodup
  earlier : ∀ awaited ∈ client.awaited, awaited.ticket < client.calls.registrations
  waiting : ∀ call ∈ client.calls.pending,
    ∃ awaited ∈ client.awaited, awaited.ticket = call.ticket ∧ awaited.id = call.id
  queued : ∀ frame ∈ client.link.backlog,
    ∃ awaited ∈ client.awaited, frame.requestId = some awaited.id

namespace Vouched

/-- Calls may end, and requests go, while their callers still wait. -/
theorem of_fewer (vouched : client.Vouched) (sound : after.calls.Sound)
    (registrations : after.calls.registrations = client.calls.registrations)
    (pending : after.calls.pending ⊆ client.calls.pending)
    (awaited : after.awaited = client.awaited)
    (backlog : after.link.backlog ⊆ client.link.backlog) : after.Vouched where
  sound := sound
  tickets := awaited ▸ vouched.tickets
  earlier := by
    rw [awaited, registrations]
    exact vouched.earlier
  waiting call waits := awaited ▸ vouched.waiting call (pending waits)
  queued frame member := awaited ▸ vouched.queued frame (backlog member)

theorem of_same (vouched : client.Vouched) (calls : after.calls = client.calls)
    (awaited : after.awaited = client.awaited)
    (backlog : after.link.backlog ⊆ client.link.backlog) : after.Vouched :=
  vouched.of_fewer (calls ▸ vouched.sound) (by rw [calls]) (by rw [calls]; exact fun _ => id)
    awaited backlog

/-- The call of an identifier may end. -/
theorem finish (vouched : client.Vouched) (id : CorrelationId) (ending : PendingCall → CallEnd)
    {link : Link} (backlog : link.backlog ⊆ client.link.backlog) :
    ({ client with calls := (client.calls.finish id ending).1, link } : Client κ ω).Vouched :=
  vouched.of_fewer (vouched.sound.finish id ending) (CallTable.registrations_finish _ id ending)
    (CallTable.pending_finish _ id ending ▸ List.filter_sublist.subset) rfl backlog

/-- A frame that may be held is the request of a caller. -/
theorem caller_of_isLive (vouched : client.Vouched) {frame : Outbound}
    (live : client.isLive frame = true) :
    ∃ awaited ∈ client.awaited, frame.requestId = some awaited.id := by
  obtain ⟨call, waits, named⟩ := (client.isLive_iff frame).1 live
  obtain ⟨awaited, member, -, same⟩ := vouched.waiting call waits
  exact ⟨awaited, member, by rw [named, same]⟩

/-- A call is registered, and its caller waits; its request may be queued. -/
theorem enter (vouched : client.Vouched) {issued : Issued} (books : client.Books issued)
    (limit : Option Span) {link : Link}
    (backlog : ∀ frame ∈ link.backlog, frame ∈ client.link.backlog ∨ frame = issued.request) :
    ({ client.book issued with
        awaited := client.awaited ++ [⟨issued.call.ticket, issued.call.id, limit⟩]
        link } : Client κ ω).Vouched where
  sound := vouched.sound.register client.candidates issued.call.path
  tickets := by
    rw [List.map_append, List.nodup_append]
    refine ⟨vouched.tickets, List.nodup_singleton _, fun ticket member new now => ?_⟩
    obtain ⟨awaited, inAwaited, rfl⟩ := List.mem_map.1 member
    have less := vouched.earlier awaited inAwaited
    obtain rfl : new = issued.call.ticket := by simpa using now
    rw [books.ticket]
    exact Nat.ne_of_lt less
  earlier awaited member := by
    show awaited.ticket < (client.book issued).calls.registrations
    rw [books.calls]
    rcases List.mem_append.1 member with before | now
    · exact Nat.lt_succ_of_lt (vouched.earlier awaited before)
    · obtain rfl : awaited = ⟨issued.call.ticket, issued.call.id, limit⟩ := by simpa using now
      exact Nat.lt_succ_of_le (Nat.le_of_eq books.ticket)
  waiting call waits := by
    have waits : call ∈ client.calls.pending ++ [issued.call] := books.pending ▸ waits
    rcases List.mem_append.1 waits with before | now
    · obtain ⟨awaited, member, same⟩ := vouched.waiting call before
      exact ⟨awaited, List.mem_append_left _ member, same⟩
    · obtain rfl := List.mem_singleton.1 now
      exact ⟨_, List.mem_append_right _ List.mem_cons_self, rfl, rfl⟩
  queued frame member := by
    rcases backlog frame member with before | rfl
    · obtain ⟨awaited, inAwaited, named⟩ := vouched.queued frame before
      exact ⟨awaited, List.mem_append_left _ inAwaited, named⟩
    · exact ⟨_, List.mem_append_right _ List.mem_cons_self, rfl⟩

/-- A caller departs, and so do its call and its request. -/
theorem depart (vouched : client.Vouched) {awaited : Awaited} (member : awaited ∈ client.awaited)
    (told : Option Outcome) : (client.depart awaited.ticket awaited.id told).Vouched := by
  -- whoever has another identifier is another caller, and stays
  have stays : ∀ {other : Awaited}, other ∈ client.awaited → other.id ≠ awaited.id →
      other ∈ client.awaited.filter (fun other => other.ticket ≠ awaited.ticket) := by
    intro other otherMember different
    refine List.mem_filter.2 ⟨otherMember, decide_eq_true fun same => different ?_⟩
    exact congrArg Awaited.id (List.inj_on_of_nodup_map vouched.tickets otherMember member same)
  constructor
  · exact vouched.sound.finish awaited.id _
  · exact vouched.tickets.sublist (List.filter_sublist.map _)
  · intro other otherMember
    have less := vouched.earlier other (List.mem_filter.1 otherMember).1
    exact (CallTable.registrations_finish client.calls awaited.id _).symm ▸ less
  · intro call waits
    have kept : call ∈ client.calls.pending.filter (fun other => other.id ≠ awaited.id) :=
      CallTable.pending_finish client.calls awaited.id (fun _ => .closed) ▸ waits
    obtain ⟨waited, different⟩ := List.mem_filter.1 kept
    obtain ⟨caller, callerMember, ticket, id⟩ := vouched.waiting call waited
    exact ⟨caller, stays callerMember (by simpa [id] using different), ticket, id⟩
  · intro frame inBacklog
    obtain ⟨before, different⟩ := List.mem_filter.1 inBacklog
    obtain ⟨caller, callerMember, named⟩ := vouched.queued frame before
    exact ⟨caller, stays callerMember (by simpa [named] using different), named⟩

theorem failUnsent (vouched : client.Vouched) {issued : Issued} (books : client.Books issued) :
    (client.failUnsent issued).Vouched := by
  have entered := vouched.enter books none
    fun frame (member : frame ∈ client.link.backlog) => .inl member
  have departed := entered.depart (List.mem_append_right _ List.mem_cons_self)
    (some (.error .connectionClosed))
  refine departed.of_same rfl ?_ fun _ => id
  simp [Client.failUnsent, Client.depart, releaseCall, discard]
  rfl

/-- **Every move keeps queued requests with their callers.** -/
theorem move (vouched : client.Vouched) (coherent : client.Coherent) {move : Move κ ω}
    (fits : move.Fits licence client) : (move.apply client).Vouched := by
  cases move with
  | aside act =>
      have bystander := perform_bystander fits.2 client
      exact vouched.of_same bystander.calls bystander.awaited (by
        rw [Move.apply, bystander.backlog]; exact fun _ => id)
  | call issued limit =>
      rcases coherent.handOver_cases fits.2 limit with
        ⟨queue, -, sent⟩ | ⟨-, ⟨-, held⟩ | ⟨-, lost⟩⟩
      · rw [Move.apply, sent]
        exact vouched.enter fits.2 limit fun _ member => .inl member
      · rw [Move.apply, held]
        refine vouched.enter fits.2 limit fun frame member => ?_
        rcases List.mem_append.1 member with kept | now
        · exact .inl (List.mem_filter.1 kept).1
        · exact .inr (List.mem_singleton.1 now)
      · rw [Move.apply, lost]
        exact vouched.enter fits.2 limit fun _ member => .inl member
  | unsent issued => exact vouched.failUnsent fits.1
  | cancel id => exact vouched.finish id _ List.filter_sublist.subset
  | depart awaited farewell => exact vouched.depart fits.1 _
  | settle id reply => exact vouched.finish id _ fun _ member => member
  | detach queue =>
      rw [apply_detach]
      refine ⟨vouched.sound, vouched.tickets, vouched.earlier, vouched.waiting, fun frame member => ?_⟩
      rcases holdAll_origin member with before | ⟨-, live⟩
      · exact vouched.queued frame before
      · exact vouched.caller_of_isLive live
  | failAll =>
      exact vouched.of_fewer (vouched.sound.rejectAll _) rfl (List.nil_subset _) rfl fun _ => id
  | clear =>
      exact vouched.of_fewer (vouched.sound.rejectAll _) rfl (List.nil_subset _) rfl
        (List.nil_subset _)
  | unload => exact vouched.of_same rfl rfl (List.nil_subset _)
  | _ => exact vouched.of_same rfl rfl fun _ => id

/-- At rest the call of every caller waits. -/
theorem waits_of_awaited (vouched : client.Vouched) (rest : client.AtRest) {awaited : Awaited}
    (member : awaited ∈ client.awaited) : client.calls.contains awaited.id = true := by
  have open' := (CallTable.ending?_eq_none_iff _ _).1 (rest awaited member)
  have registered : awaited.ticket ∈
      client.calls.pending.map (·.ticket) ++ client.calls.endings.map (·.1) := by
    rw [vouched.sound.tickets.mem_iff, List.mem_range]
    exact vouched.earlier awaited member
  rcases List.mem_append.1 registered with waits | ended
  · obtain ⟨call, callMember, sameTicket⟩ := List.mem_map.1 waits
    obtain ⟨other, otherMember, ticket, id⟩ := vouched.waiting call callMember
    obtain rfl := List.inj_on_of_nodup_map vouched.tickets otherMember member
      (ticket.trans sameTicket)
    exact (CallTable.contains_iff _ _).2 ⟨call, callMember, id.symm⟩
  · exact absurd ended open'

end Vouched

theorem start_vouched (options : Options) (token : Option Json) (candidate : Nat → CorrelationId)
    (desk : ω) : (start options token candidate desk : Client κ ω).Vouched where
  sound := CallTable.sound_empty _
  tickets := List.nodup_nil
  earlier := by simp [start, new]
  waiting := by simp [start, new]
  queued := by simp [start, new]

/-! ## What a failure leaves alone -/

/-- Nothing changed but histories that no operation looks at. -/
structure Untouched (before after : Client κ ω) : Prop where
  options : after.options = before.options
  token : after.token = before.token
  subscriptions : after.subscriptions = before.subscriptions
  /-- The observers and the state of the link. -/
  connectivity : after.connectivity = before.connectivity
  pending : after.calls.pending = before.calls.pending
  capacity : after.calls.capacity = before.calls.capacity
  /-- The driver, the channel, the backlog and what has been written. -/
  link : after.link = before.link
  awaited : after.awaited = before.awaited
  handlesDrawn : after.handlesDrawn = before.handlesDrawn
  desk : after.desk = before.desk

theorem Untouched.of_eq (same : after = client) : client.Untouched after :=
  same ▸ ⟨rfl, rfl, rfl, rfl, rfl, rfl, rfl, rfl, rfl, rfl⟩

/-- A failure to connect comes before anything is done. -/
theorem connect_failed {runtime : Bool} {address : String} {error : ClientError}
    (failed : (client.connect runtime address).2 = .error error) :
    (client.connect runtime address).1 = client := by
  unfold connect at failed ⊢
  split
  · rfl
  · rename_i endpoint good
    rw [good] at failed
    dsimp only at failed
    split_ifs at failed ⊢ <;> rfl

/-- A handle that is not registered is released in vain. -/
theorem unsubscribe_unregistered {handle : HandleId} (absent : ¬client.Holds handle) :
    client.unsubscribe handle = (client, false) := by
  obtain ⟨noObserver, noHandler⟩ := not_or.1 absent
  have kept : client.connectivity.observers.filter (fun entry => entry.1 ≠ handle) =
      client.connectivity.observers :=
    List.filter_eq_self.2 fun entry member =>
      decide_eq_true fun same => noObserver (List.mem_map.2 ⟨entry, member, same⟩)
  have unobserved : client.unobserve handle = (client, false) := by
    simp only [unobserve, Connectivity.remove, kept, bne_self_eq_false]
  have unknown : client.subscriptions.topicOf handle = none := by
    simpa [Subscriptions.contains] using noHandler
  simp only [unsubscribe, unobserved, release,
    client.subscriptions.unsubscribe_unknown handle unknown]

/-- A call that does not wait is cancelled in vain, if no request of it is queued. -/
theorem cancel_absent {id : CorrelationId} (ended : client.calls.contains id = false)
    (unqueued : ∀ frame ∈ client.link.backlog, frame.requestId ≠ some id) :
    client.cancel id = (client, false) := by
  have rejected : client.calls.reject id (.cancelled id) = (client.calls, false) :=
    CallTable.finish_unknown _ _ _ ended
  have kept : client.link.backlog.filter (fun frame => frame.requestId ≠ some id) =
      client.link.backlog :=
    List.filter_eq_self.2 fun frame member => decide_eq_true (unqueued frame member)
  simp only [cancel, rejected, discard, Link.discard, kept]

/-- A call that is registered and fails at once leaves no trace where nothing is queued. -/
theorem failUnsent_untouched {issued : Issued} (books : client.Books issued)
    (awaited : ∀ caller ∈ client.awaited, caller.ticket ≠ issued.call.ticket)
    (empty : client.link.backlog = []) : client.Untouched (client.failUnsent issued) := by
  have backlog : client.link.backlog.filter
      (fun frame => frame.requestId ≠ some issued.call.id) = client.link.backlog := by
    rw [empty]
    rfl
  refine ⟨rfl, rfl, rfl, rfl, ?_, ?_, ?_, ?_, rfl, rfl⟩
  · show ((client.book issued).calls.finish issued.call.id _).1.pending = _
    rw [CallTable.pending_finish, books.pending, List.filter_append, List.filter_eq_self.2]
    · simp
    · exact fun call waits => decide_eq_true (books.id_ne waits)
  · exact (CallTable.capacity_finish _ _ _).trans books.capacity
  · show ({ client.link with backlog := client.link.backlog.filter _ } : Link) = client.link
    rw [backlog]
  · exact List.filter_eq_self.2 fun caller member => decide_eq_true (awaited caller member)

theorem enroll_awaited (path : Topic) (client : Client κ ω) :
    (client.enroll path).1.awaited = client.awaited := by
  rcases registered : client.calls.register client.candidates path with ⟨calls, admission⟩
  cases admission <;> simp [enroll, registered]

/-- A call that fails adds no caller. -/
theorem awaited_call_failed {path : Topic} {data : Json} {limit : Option Span}
    {error : ClientError} (failed : (client.call path data limit).2 = .failed error) :
    (client.call path data limit).1.awaited ⊆ client.awaited := by
  have same := client.enroll_awaited path
  rcases enrolled : client.enroll path with ⟨entered, admission⟩
  rw [enrolled] at same
  simp only [call, enrolled] at failed ⊢
  by_cases empty : path.isEmpty = true
  · simp [empty]
  by_cases wild : path.hasWildcard = true
  · simp [empty, wild]
  rw [if_neg empty, if_neg wild] at failed ⊢
  cases admission with
  | refused pending capacity => exact same ▸ fun _ member => member
  | exhausted => exact same ▸ fun _ member => member
  | admitted entry =>
      obtain ⟨channel, backlog, sent, -⟩ := send_link
        ({ entered with issued := entered.issued ++ [⟨entry, data, entered.token⟩] } : Client κ ω)
        (Issued.request ⟨entry, data, entered.token⟩)
      dsimp only at failed ⊢
      split at failed
      · rename_i unsent
        rw [if_pos unsent, sent]
        exact same ▸ List.filter_sublist.subset
      · cases failed

/-- The request of a waiting call is neither sent nor held only where nothing is held. -/
theorem queueCalls_of_unsent {frame : Outbound} (live : client.isLive frame = true)
    (unsent : (client.send frame).2 = false) : client.options.queueCalls = false := by
  have refused : (client.hold frame).2 = false := by
    unfold send at unsent
    split at unsent
    · split at unsent
      · cases unsent
      · exact unsent
    · exact unsent
  by_contra queues
  rw [Bool.not_eq_false] at queues
  simp [hold, queues, live] at refused

/-- **A call that fails leaves the client as it was**, where nothing is queued if calls are not. -/
theorem call_failed_untouched (vouched : client.Vouched)
    (off : client.options.queueCalls = false → client.link.backlog = []) {path : Topic}
    {data : Json} {limit : Option Span} {error : ClientError}
    (failed : (client.call path data limit).2 = .failed error) :
    client.Untouched (client.call path data limit).1 := by
  rcases client.call_cases path data limit with
    same | ⟨issued, -, -, books, ⟨handed, -⟩ | ⟨refused, -, unsent⟩⟩
  · exact .of_eq same
  · -- a caller that waits would be a new one
    have callers := awaited_call_failed failed
    rw [handed, handOver_awaited] at callers
    have earlier := vouched.earlier _ (callers (List.mem_append_right _ List.mem_cons_self))
    exact absurd (books.ticket ▸ earlier) (Nat.lt_irrefl _)
  · rw [refused]
    have fresh : ∀ caller ∈ client.awaited, caller.ticket ≠ issued.call.ticket := by
      intro caller member
      rw [books.ticket]
      exact Nat.ne_of_lt (vouched.earlier caller member)
    have queueless : (client.book issued).options.queueCalls = false :=
      queueCalls_of_unsent books.isLive unsent
    exact failUnsent_untouched books fresh (off queueless)

/-! ## What a failure reports -/

theorem call_full {path : Topic} (nonempty : path.isEmpty = false)
    (tame : path.hasWildcard = false) (data : Json) (limit : Option Span)
    (full : client.calls.capacity ≤ client.calls.size) :
    (client.call path data limit).2 =
      .failed (.tooManyPending client.calls.size client.calls.capacity) := by
  simp [call, nonempty, tame, enroll, CallTable.register, full]

/-- A frame is neither sent nor held while the link is down and nothing is held. -/
theorem send_refused {client : Client κ ω} (down : client.connectivity.isAlive = false)
    (queueless : client.options.queueCalls = false) (frame : Outbound) :
    client.send frame = (client, false) := by
  have refused := client.hold_refused frame queueless
  unfold send
  split
  · rw [if_neg (by simp [isAlive, down]), refused]
  · exact refused

/-- Under the failing policy a call fails at once if its request is neither sent nor held. -/
theorem call_unsent {path : Topic} (nonempty : path.isEmpty = false)
    (tame : path.hasWildcard = false) (data : Json) (limit : Option Span)
    (space : client.calls.size < client.calls.capacity) {id : CorrelationId}
    (drawn : client.calls.mint? client.candidates = some id)
    (policy : client.options.pendingPolicy = .fail) (down : client.connectivity.isAlive = false)
    (queueless : client.options.queueCalls = false) :
    (client.call path data limit).2 = .failed .connectionClosed := by
  simp [call, nonempty, tame, enroll, CallTable.register, Nat.not_le.2 space, drawn, send_refused,
    down, queueless, policy]

/-! ## Every failure -/

/-- An operation gave an answer and changed nothing. -/
def Refuses {α : Type} (client : Client κ ω) (outcome : Client κ ω × α) (answer : α) : Prop :=
  outcome.2 = answer ∧ client.Untouched outcome.1

theorem Refuses.of_eq {α : Type} {outcome : Client κ ω × α} {answer : α}
    (same : outcome = (client, answer)) : client.Refuses outcome answer :=
  same ▸ ⟨rfl, .of_eq rfl⟩

/-- In every run queued requests have callers, and none is queued if calls are not. -/
theorem vouched_run {behave : Behaviour κ ω} (within : behave.Within fun _ => True)
    (events : List (Event κ ω)) (options : Options) (token : Option Json)
    (candidate : Nat → CorrelationId) (desk : ω) :
    let client := run behave events (start options token candidate desk)
    client.Vouched ∧ client.options = options ∧
      client.calls.capacity = options.maxPendingCalls ∧
      (options.queueCalls = false → client.link.backlog = []) := by
  intro client
  have coherent := (start_poised (κ := κ) options token candidate desk).toCoherent
  obtain ⟨moves, path⟩ : ∃ moves, (start options token candidate desk).Path .free moves client :=
    run_path within (fun event _ => within_free event) options token candidate desk
  refine ⟨path.preserves (fun _ _ coherent vouched fits => vouched.move coherent fits) coherent
    (start_vouched options token candidate desk), path.options, capacity_path path, fun off => ?_⟩
  have kept : ∀ (client : Client κ ω) (move : Move κ ω), client.Coherent →
      (client.options = options ∧
        client.link.backlog = [] ∧ client.link.prologue.unwritten = []) →
      move.Fits .free client → (move.apply client).options = options ∧
        (move.apply client).link.backlog = [] ∧
          (move.apply client).link.prologue.unwritten = [] :=
    fun client move coherent empty fits => ⟨(move.apply_constant client).1.trans empty.1,
      off_move coherent fits (empty.1.symm ▸ off) empty.2⟩
  exact (path.preserves kept coherent ⟨rfl, rfl, rfl⟩).2.1

/-- **An operation that fails changes nothing.**  In every state of every run in which every caller
of an ended call has been told, each of these is refused with its own answer and leaves no trace:

* connecting to a malformed address, over another scheme, or while a driver runs; indeed every
  failure to connect;
* subscribing to an empty topic;
* a call with an empty path or a wildcard in it, with a full table, or, under the failing policy,
  with a request that can neither be sent nor held; indeed every call that fails at once;
* releasing a handle that is not registered;
* cancelling a call that does not wait. -/
theorem failure_leaves_no_trace {behave : Behaviour κ ω} (within : behave.Within fun _ => True)
    (events : List (Event κ ω)) (options : Options) (token : Option Json)
    (candidate : Nat → CorrelationId) (desk : ω)
    (rest : (run behave events (start options token candidate desk)).AtRest) :
    let client := run behave events (start options token candidate desk)
    (∀ runtime address reason, Endpoint.parse address = .error reason →
        client.Refuses (client.connect runtime address) (.error (.url reason))) ∧
      (∀ runtime address endpoint, Endpoint.parse address = .ok endpoint →
        endpoint.isSocket = false →
          client.Refuses (client.connect runtime address)
            (.error (unsupportedScheme endpoint.scheme))) ∧
      (∀ address endpoint, Endpoint.parse address = .ok endpoint → endpoint.isSocket = true →
        client.link.isRunning = true →
          client.Refuses (client.connect true address) (.error .alreadyConnected)) ∧
      (∀ runtime address error, (client.connect runtime address).2 = .error error →
        client.Untouched (client.connect runtime address).1) ∧
      (∀ topic callback, topic.isEmpty = true →
        client.Refuses (client.subscribe topic callback) (.error emptyTopic)) ∧
      (∀ path data limit, path.isEmpty = true →
        client.Refuses (client.call path data limit) (.failed emptyPath)) ∧
      (∀ path data limit, path.isEmpty = false → path.hasWildcard = true →
        client.Refuses (client.call path data limit) (.failed (wildcardPath path))) ∧
      (∀ path data limit, path.isEmpty = false → path.hasWildcard = false →
        options.maxPendingCalls ≤ client.calls.size →
          client.Refuses (client.call path data limit)
            (.failed (.tooManyPending client.calls.size options.maxPendingCalls))) ∧
      (∀ path data limit id, path.isEmpty = false → path.hasWildcard = false →
        client.calls.size < options.maxPendingCalls →
        client.calls.mint? client.candidates = some id →
        options.pendingPolicy = .fail → client.isAlive = false → options.queueCalls = false →
          client.Refuses (client.call path data limit) (.failed .connectionClosed)) ∧
      (∀ path data limit error, (client.call path data limit).2 = .failed error →
        client.Untouched (client.call path data limit).1) ∧
      (∀ handle, ¬client.Holds handle → client.Refuses (client.unsubscribe handle) false) ∧
      ∀ id, client.calls.contains id = false → client.Refuses (client.cancel id) false := by
  intro client
  obtain ⟨vouched, constant, capacity, off⟩ : client.Vouched ∧ _ :=
    vouched_run within events options token candidate desk
  have untouched : ∀ path data limit error, (client.call path data limit).2 = .failed error →
      client.Untouched (client.call path data limit).1 := fun path data limit error failed =>
    call_failed_untouched vouched (constant.symm ▸ off) failed
  have refused : ∀ {path data limit error}, (client.call path data limit).2 = .failed error →
      client.Refuses (client.call path data limit) (.failed error) :=
    fun failed => ⟨failed, untouched _ _ _ _ failed⟩
  refine ⟨fun runtime address reason bad => ?malformed,
    fun runtime address endpoint good other => ?scheme,
    fun address endpoint good socket running => ?running,
    fun runtime address error failed => .of_eq (connect_failed failed),
    fun topic callback empty => ?topic,
    fun path data limit empty => ?path, fun path data limit nonempty wild => ?wild,
    fun path data limit nonempty tame full => ?full,
    fun path data limit id nonempty tame space drawn policy down queueless => ?unsent,
    untouched, fun handle absent => .of_eq (unsubscribe_unregistered absent),
    fun id ended => ?cancel⟩
  case malformed => exact .of_eq (client.connect_malformed runtime address reason bad)
  case scheme => exact .of_eq (by simp [connect, good, other])
  case running => exact .of_eq (by simp [connect, good, socket, running])
  case topic => exact .of_eq (client.subscribe_empty topic callback empty)
  case path => exact .of_eq (by simp [call, empty])
  case wild => exact .of_eq (client.call_wildcard path data limit nonempty wild)
  case full =>
    rw [← capacity] at full ⊢
    exact refused (call_full nonempty tame data limit full)
  case unsent =>
    rw [← capacity] at space
    rw [← constant] at policy queueless
    exact refused (call_unsent nonempty tame data limit space drawn policy down queueless)
  case cancel =>
    -- a queued request of that call would be one of a caller, whose call would wait
    refine .of_eq (cancel_absent ended fun frame queued named => ?_)
    obtain ⟨caller, member, ofCaller⟩ := vouched.queued frame queued
    have waits := vouched.waits_of_awaited rest member
    rw [← Option.some.inj (named.symm.trans ofCaller), ended] at waits
    cases waits

/-- A table for one call, which is taken while a session runs, and a handler and an observer. -/
def engaged : List (Event Unit Unit) :=
  [.act (.subscribe ⟨["orders"]⟩ ()), .observe (), .connect true "ws://host/", .attempt, .opened,
    .settled none, .proceed, .proceed, .act (.call ⟨["orders", "list"]⟩ .null none)]

/-- Options under which no call waits for a session. -/
def impatient : Options := { maxPendingCalls := 1, queueCalls := false, pendingPolicy := .fail }

theorem failure_leaves_no_trace_engaged :
    let client := run silent engaged (start impatient none CorrelationId.drawn ())
    client.AtRest ∧
      client.Refuses (client.connect true "ws://host/") (.error .alreadyConnected) ∧
      client.Refuses (client.call ⟨["orders", "add"]⟩ .null none) (.failed (.tooManyPending 1 1)) ∧
      client.Refuses (client.unsubscribe (HandleId.nth 2)) false ∧
      client.Refuses (client.cancel (CorrelationId.drawn 1)) false := by
  intro client
  have seen : (fun client : Client Unit Unit =>
      (client.awaited.all (fun awaited => (client.calls.ending? awaited.ticket).isNone),
        client.link.isRunning, client.calls.size, decide (client.Holds (HandleId.nth 2)),
        client.calls.contains (CorrelationId.drawn 1)))
      (run silent engaged (start impatient none CorrelationId.drawn ())) =
        (true, true, 1, false, false) := by cbv
  simp only [Prod.mk.injEq, List.all_eq_true, Option.isNone_iff_eq_none] at seen
  obtain ⟨rest, running, size, unregistered, ended⟩ := seen
  have good : Endpoint.parse "ws://host/" = .ok ⟨"ws", "//host/"⟩ := by cbv
  obtain ⟨-, -, again, -, -, -, -, full, -, -, handle, cancel⟩ :=
    failure_leaves_no_trace (silent_within _) engaged impatient none CorrelationId.drawn () rest
  rw [size] at full
  exact ⟨rest, again _ _ good rfl running,
    full ⟨["orders", "add"]⟩ .null none rfl rfl (Nat.le_refl 1),
    handle _ (of_decide_eq_false unregistered), cancel _ ended⟩

end Switchboard.Client
