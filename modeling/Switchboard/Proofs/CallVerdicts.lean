/-
# Switchboard.Proofs.CallVerdicts -- what decides how a call ends

A call ends in the table, and its caller learns so later; or the caller leaves
first, because its deadline passes or it goes away, and takes the entry along.  A
call is reached, while it waits, by a reply, its deadline, its cancellation, the end
of the client or of the link, or the departure of its caller (`Move.verdict`).  The
first of these decides: from then on the call is over, and nothing but what that
said can be told to its caller (`Client.Stands`).

* `stands_move`: the first move that reaches a call decides;
* `stands_path`: so it stays for ever.
-/
import Switchboard.Proofs.Ledger

namespace Switchboard.Client

set_option autoImplicit false

variable {κ ω : Type} {licence : Licence κ ω} {client after : Client κ ω}

/-! ## How a call stands -/

/-- What a move decides about a call that waits: what its caller is to be told, or that it is told
nothing because it went away.  A refusal is told with the path of the call, and a passed deadline
with its length. -/
def Move.verdict (call : PendingCall) : Move κ ω → Option (Option Outcome)
  | .settle id (.ok data) => if id = call.id then some (some (.ok data)) else none
  | .settle id (.error message) =>
      if id = call.id then some (some (.error (.remote call.path.wire message))) else none
  | .cancel id => if id = call.id then some (some (.error (.cancelled id))) else none
  | .depart awaited (.late limit) =>
      if awaited.ticket = call.ticket then
        some (some (.error (.requestTimeout awaited.id limit.millis)))
      else none
  | .depart awaited .gone => if awaited.ticket = call.ticket then some none else none
  | .failAll | .clear => some (some (.error .connectionClosed))
  | _ => none

/-- A reply decides about its call what it means to it. -/
theorem Move.verdict_settle (call : PendingCall) (id : CorrelationId)
    (reply : Except String Json) :
    (Move.settle id reply : Move κ ω).verdict call =
      if id = call.id then some (some (CallTable.replyOutcome reply call)) else none := by
  cases reply <;> rfl

/-- How a call stands: it waits, or what its caller is told has been decided.  Then the caller still
has to be told so, or has been, or went away. -/
def Stands (client : Client κ ω) (call : PendingCall) : Option (Option Outcome) → Prop
  | none => call ∈ client.calls.pending
  | some told =>
      (∃ outcome, told = some outcome ∧ (call.ticket, .resolved outcome) ∈ client.calls.endings ∧
          call.ticket ∈ client.awaited.map (·.ticket)) ∨
        (call.ticket, told) ∈ client.departed ∨ (call.ticket, none) ∈ client.departed

theorem endings_move {move : Move κ ω} (fits : move.Fits licence client) :
    client.calls.endings ⊆ (move.apply client).calls.endings := by
  cases move with
  | aside act => rw [Move.apply, (perform_bystander fits.2 client).calls]; exact List.Subset.refl _
  | call issued limit =>
      rw [Move.apply, handOver_calls, fits.2.endings]
      exact List.Subset.refl _
  | unsent issued =>
      have kept := CallTable.endings_finish (client.book issued).calls issued.call.id
        (fun _ => .closed)
      rw [fits.1.endings] at kept
      exact kept
  | cancel id | settle id reply => exact CallTable.endings_finish _ id _
  | depart awaited farewell => exact CallTable.endings_finish _ awaited.id _
  | failAll | clear => exact List.subset_append_right _ _
  | detach queue =>
      rw [apply_detach]
      exact List.Subset.refl _
  | _ => exact List.Subset.refl _

/-- What a move adds to the departed callers. -/
theorem departed_move {move : Move κ ω} (fits : move.Fits licence client) :
    client.departed ⊆ (move.apply client).departed := by
  cases move with
  | aside act =>
      rw [Move.apply, (perform_bystander fits.2 client).departed]
      exact List.Subset.refl _
  | call issued limit =>
      rw [Move.apply, handOver_departed]
      exact List.Subset.refl _
  | unsent issued => exact List.subset_cons_self _ _
  | depart awaited farewell => exact List.subset_cons_self _ _
  | detach queue =>
      rw [apply_detach]
      exact List.Subset.refl _
  | _ => exact List.Subset.refl _

/-- A caller keeps waiting until it departs. -/
theorem awaited_move {move : Move κ ω} (fits : move.Fits licence client) {caller : Awaited}
    (member : caller ∈ client.awaited)
    (stays : ∀ awaited farewell, move = .depart awaited farewell →
      caller.ticket ≠ awaited.ticket)
    (old : caller.ticket < client.calls.registrations) :
    caller ∈ (move.apply client).awaited := by
  cases move with
  | aside act => exact (perform_bystander fits.2 client).awaited.symm ▸ member
  | call issued limit =>
      rw [Move.apply, handOver_awaited]
      exact List.mem_append_left _ member
  | unsent issued =>
      have ticket := fits.1.ticket
      exact List.mem_filter.2 ⟨member, decide_eq_true (ticket ▸ Nat.ne_of_lt old)⟩
  | depart awaited farewell =>
      exact List.mem_filter.2 ⟨member, decide_eq_true (stays awaited farewell rfl)⟩
  | detach queue =>
      rw [apply_detach]
      exact member
  | _ => exact member

/-- What was decided stays decided. -/
theorem stands_of_decided (ledger : client.Ledger) {move : Move κ ω}
    (fits : move.Fits licence client) {call : PendingCall} {told : Option Outcome}
    (stands : client.Stands call (some told)) : (move.apply client).Stands call (some told) := by
  rcases stands with ⟨outcome, rfl, ended, awaited⟩ | departed | gone
  · obtain ⟨caller, member, ticket⟩ := List.mem_map.1 awaited
    have old : caller.ticket < client.calls.registrations := by
      obtain ⟨issued, issuedMember, same, -⟩ := ledger.awaited caller member
      rw [← same, ledger.drawn]
      exact ledger.ticket_lt issuedMember
    by_cases departs : ∃ other farewell, move = .depart other farewell ∧
        caller.ticket = other.ticket
    · obtain ⟨other, farewell, rfl, same⟩ := departs
      have ofCall : other.ticket = call.ticket := same.symm.trans ticket
      cases farewell with
      | learned ending =>
          have found : (call.ticket, ending) ∈ client.calls.endings :=
            ofCall ▸ CallTable.mem_endings_of_ending? fits.2
          have unique : some ending = some (.resolved outcome) :=
            @CallTable.Stands.unique client.calls call ledger.sound (some ending) _ found ended
          obtain rfl : ending = .resolved outcome := Option.some.inj unique
          exact .inr (.inl (ofCall ▸ List.mem_cons_self))
      | late limit =>
          have open' := (CallTable.ending?_eq_none_iff _ _).1 fits.2.1
          exact absurd (ofCall ▸ List.mem_map_of_mem (f := Prod.fst) ended) open'
      | gone => exact .inr (.inr (ofCall ▸ List.mem_cons_self))
    · refine .inl ⟨outcome, rfl, endings_move fits ended, List.mem_map.2 ⟨caller, ?_, ticket⟩⟩
      exact awaited_move fits member
        (fun other farewell same sameTicket => departs ⟨other, farewell, same, sameTicket⟩) old
  · exact .inr (.inl (departed_move fits departed))
  · exact .inr (.inr (departed_move fits gone))

/-- The end of an identifier's call reaches that call and no other. -/
theorem stands_finish (ledger : client.Ledger) {call : PendingCall}
    (waits : call ∈ client.calls.pending) (id : CorrelationId) (outcome : PendingCall → Outcome)
    (link : Link) :
    ({ client with
        calls := (client.calls.finish id (fun call => .resolved (outcome call))).1, link } :
      Client κ ω).Stands call (if id = call.id then some (some (outcome call)) else none) := by
  have stands := CallTable.stands_finish ledger.sound waits id
    (fun call => .resolved (outcome call))
  by_cases same : id = call.id
  · rw [if_pos same] at stands ⊢
    exact .inl ⟨outcome call, rfl, stands, ledger.waiting call waits⟩
  · rw [if_neg same] at stands ⊢
    exact stands

/-- The end of all calls reaches every call that waits. -/
theorem stands_rejectAll (ledger : client.Ledger) {call : PendingCall}
    (waits : call ∈ client.calls.pending) (error : ClientError) (link : Link) :
    ({ client with calls := (client.calls.rejectAll error).1, link } : Client κ ω).Stands call
      (some (some (.error error))) :=
  .inl ⟨.error error, rfl,
    List.mem_append_left _ (List.mem_map.2 ⟨call, waits, rfl⟩), ledger.waiting call waits⟩

/-- A caller that departs takes its own call along, and no other. -/
theorem stands_depart (ledger : client.Ledger) (distinct : client.DistinctDraws)
    {call : PendingCall} (waits : call ∈ client.calls.pending) {awaited : Awaited}
    (member : awaited ∈ client.awaited) (told : Option Outcome) :
    (client.depart awaited.ticket awaited.id told).Stands call
      (if awaited.ticket = call.ticket then some told else none) := by
  by_cases same : awaited.ticket = call.ticket
  · rw [if_pos same]
    exact .inr (.inl (same ▸ List.mem_cons_self))
  · rw [if_neg same]
    obtain ⟨issued, issuedMember, ofTicket, ofId⟩ := ledger.awaited awaited member
    obtain ⟨other, otherMember, rfl⟩ := ledger.issued_of_pending waits
    have different : other.call.id ≠ awaited.id := fun sameId =>
      same (by rw [← ofTicket, ledger.issued_unique_id distinct issuedMember otherMember
        (ofId.trans sameId.symm)])
    have kept : other.call ∈
        (client.calls.finish awaited.id (fun _ => .closed)).1.pending := by
      rw [CallTable.pending_finish]
      exact List.mem_filter.2 ⟨waits, decide_eq_true different⟩
    exact kept

/-- **The first move that reaches a call decides**, and no later one matters. -/
theorem stands_move (ledger : client.Ledger) (distinct : client.DistinctDraws) {move : Move κ ω}
    (fits : move.Fits licence client) {call : PendingCall} {decided : Option (Option Outcome)}
    (stands : client.Stands call decided) :
    (move.apply client).Stands call (decided.or (move.verdict call)) := by
  cases decided with
  | some told => exact stands_of_decided ledger fits stands
  | none =>
      have waits : call ∈ client.calls.pending := stands
      cases move with
      | aside act =>
          have same := (perform_bystander fits.2 client).calls
          have still : call ∈ (act.perform client).calls.pending := same.symm ▸ waits
          exact still
      | call issued limit =>
          show call ∈ (client.handOver issued limit).calls.pending
          rw [handOver_calls, fits.2.pending]
          exact List.mem_append_left _ waits
      | unsent issued =>
          have still : call ∈ ((client.book issued).calls.finish issued.call.id
              (fun _ => .closed)).1.pending := by
            rw [CallTable.pending_finish, fits.1.pending]
            exact List.mem_filter.2
              ⟨List.mem_append_left _ waits, decide_eq_true (fits.1.id_ne waits)⟩
          exact still
      | cancel id => exact stands_finish ledger waits id (fun _ => .error (.cancelled id)) _
      | depart awaited farewell =>
          obtain ⟨member, fits⟩ := fits
          have departs := stands_depart ledger distinct waits member (farewell.told awaited)
          cases farewell with
          | learned ending =>
              -- a call that waits has not ended, so its caller has nothing to learn
              have other : awaited.ticket ≠ call.ticket := fun same => by
                have found : (call.ticket, ending) ∈ client.calls.endings :=
                  same ▸ CallTable.mem_endings_of_ending? fits
                have unique := @CallTable.Stands.unique client.calls call ledger.sound none
                  (some ending) waits found
                simp at unique
              rw [if_neg other] at departs
              exact departs
          | late limit => exact departs
          | gone => exact departs
      | settle id reply =>
          rw [Option.none_or, Move.verdict_settle]
          exact stands_finish ledger waits id (CallTable.replyOutcome reply) client.link
      | failAll => exact stands_rejectAll ledger waits .connectionClosed client.link
      | clear => exact stands_rejectAll ledger waits .connectionClosed _
      | detach queue =>
          rw [apply_detach]
          exact waits
      | _ => exact waits

/-! ## Histories -/

theorem stands_path {first last : Client κ ω} {moves : List (Move κ ω)}
    (path : first.Path licence moves last) (ledger : first.Ledger) (distinct : last.DistinctDraws)
    {call : PendingCall} {decided : Option (Option Outcome)} (stands : first.Stands call decided) :
    last.Stands call (decided.or (moves.findSome? (Move.verdict call))) := by
  induction path with
  | still => simpa using stands
  | move path move fits ih =>
      have before := distinctDraws_of_move fits distinct
      have next := stands_move (path.ledger ledger before) before fits (ih before)
      rw [List.findSome?_append, ← Option.or_assoc]
      simpa using next

/-- How a registration leaves its call: waiting, or failed at once. -/
def Move.Begins (issued : Issued) (decided : Option (Option Outcome)) : Move κ ω → Prop
  | .call other _ => other = issued ∧ decided = none
  | .unsent other => other = issued ∧ decided = some (some (.error .connectionClosed))
  | _ => False

theorem stands_of_begins {move : Move κ ω} (fits : move.Fits licence client) {issued : Issued}
    {decided : Option (Option Outcome)} (begins : move.Begins issued decided) :
    (move.apply client).Stands issued.call decided := by
  cases move with
  | call other limit =>
      obtain ⟨rfl, rfl⟩ := begins
      show other.call ∈ (client.handOver other limit).calls.pending
      rw [handOver_calls, fits.2.pending]
      exact List.mem_append_right _ List.mem_cons_self
  | unsent other =>
      obtain ⟨rfl, rfl⟩ := begins
      exact .inr (.inl List.mem_cons_self)
  | _ => exact begins.elim

/-- Every call that was registered begins with a move. -/
theorem exists_begins {first last : Client κ ω} {moves : List (Move κ ω)}
    (path : first.Path licence moves last) {issued : Issued} (member : issued ∈ last.issued) :
    issued ∈ first.issued ∨ ∃ before move after decided,
      moves = before ++ move :: after ∧ move.Begins issued decided := by
  induction path with
  | still => exact .inl member
  | @move moves client path move fits ih =>
      have now : issued ∈ client.issued ∨ ∃ decided, move.Begins issued decided := by
        cases move with
        | aside act => exact .inl ((perform_bystander fits.2 client).issued ▸ member)
        | call other limit =>
            rw [Move.apply, handOver_issued] at member
            rcases List.mem_append.1 member with before | now
            · exact .inl before
            · exact .inr ⟨none, by simpa using Eq.symm (List.mem_singleton.1 now), rfl⟩
        | unsent other =>
            rcases List.mem_append.1 member with before | now
            · exact .inl before
            · exact .inr ⟨_, Eq.symm (List.mem_singleton.1 now), rfl⟩
        | detach queue =>
            rw [apply_detach] at member
            exact .inl member
        | _ => exact .inl member
      rcases now with before | ⟨decided, begins⟩
      · rcases ih before with already | ⟨earlier, other, later, decided, split, begins⟩
        · exact .inl already
        · exact .inr ⟨earlier, other, later ++ [move], decided, by simp [split], begins⟩
      · exact .inr ⟨moves, move, [], decided, rfl, begins⟩

end Switchboard.Client
