/-
# Switchboard.Proofs.Acts -- what an act can change

An act never does the driver's work: the options, the state of the link and all of
the link but its channel and its backlog stay as they are, and a channel is neither
opened nor closed (`Client.Calm`, `perform_calm`).

Beyond that an act either leaves the calls alone, and hands at most frames to the
channel that are no requests (`Client.Bystander`); or it is about one call, which is
registered (`call_cases`), is cancelled, or loses its caller (`Client.Parts`).

While the link is up exactly if there is a channel (`Client.Coherent`), a frame that
is handed to the link goes to the end of the channel or, without one, may be held.
-/
import Switchboard.Client.Run
import Switchboard.Proofs.Settlement

namespace Switchboard.Client

set_option autoImplicit false

variable {κ ω : Type}

/-! ## The driver's work -/

/-- Nothing changed that only the driver changes. -/
structure Calm (before after : Client κ ω) : Prop where
  options : after.options = before.options
  candidate : after.candidate = before.candidate
  state : after.state = before.state
  link : ∃ channel backlog, after.link = { before.link with channel, backlog } ∧
    channel.isSome = before.link.channel.isSome

namespace Calm

variable {before middle after : Client κ ω}

theorem refl (client : Client κ ω) : client.Calm client := ⟨rfl, rfl, rfl, _, _, rfl, rfl⟩

theorem of_link (options : after.options = before.options)
    (candidate : after.candidate = before.candidate) (state : after.state = before.state)
    (link : after.link = before.link) : before.Calm after :=
  ⟨options, candidate, state, _, _, link, rfl⟩

theorem trans (first : before.Calm middle) (second : middle.Calm after) : before.Calm after := by
  obtain ⟨channel, backlog, firstLink, firstSome⟩ := first.link
  obtain ⟨channel', backlog', secondLink, secondSome⟩ := second.link
  refine ⟨second.options.trans first.options, second.candidate.trans first.candidate,
    second.state.trans first.state, channel', backlog', ?_, ?_⟩
  · rw [secondLink, firstLink]
  · rw [secondSome, firstLink, firstSome]

theorem phase (calm : before.Calm after) : after.link.phase = before.link.phase := by
  obtain ⟨_, _, link, _⟩ := calm.link
  rw [link]

theorem prologue (calm : before.Calm after) : after.link.prologue = before.link.prologue := by
  obtain ⟨_, _, link, _⟩ := calm.link
  rw [link]

theorem room (calm : before.Calm after) : after.link.room = before.link.room := by
  obtain ⟨_, _, link, _⟩ := calm.link
  rw [link]

theorem sessions (calm : before.Calm after) : after.link.sessions = before.link.sessions := by
  obtain ⟨_, _, link, _⟩ := calm.link
  rw [link]

theorem written (calm : before.Calm after) : after.link.written = before.link.written := by
  obtain ⟨_, _, link, _⟩ := calm.link
  rw [link]

theorem channel_isSome (calm : before.Calm after) :
    after.link.channel.isSome = before.link.channel.isSome := by
  obtain ⟨_, _, link, same⟩ := calm.link
  rw [link, same]

end Calm

/-- A frame may be held exactly if it is the request of a waiting call. -/
theorem isLive_iff (client : Client κ ω) (frame : Outbound) :
    client.isLive frame = true ↔
      ∃ call ∈ client.calls.pending, frame.requestId = some call.id := by
  unfold isLive
  cases frame.requestId with
  | none => simp
  | some id =>
      rw [Option.any_some, CallTable.contains_iff]
      simp only [Option.some.injEq, eq_comm]

theorem isRequest_of_isLive {client : Client κ ω} {frame : Outbound}
    (live : client.isLive frame = true) : frame.isRequest = true := by
  obtain ⟨call, -, named⟩ := (client.isLive_iff frame).1 live
  simp [Outbound.isRequest, named]

/-- What holding a frame does: nothing, or it comes after the requests whose calls wait. -/
theorem hold_cases (client : Client κ ω) (frame : Outbound) :
    (client.hold frame).1 = client ∧
        (client.options.queueCalls = true → client.isLive frame = false) ∨
      client.isLive frame = true ∧
        (client.hold frame).1 = { client with
          link := { client.link with
            backlog := client.link.backlog.filter client.isLive ++ [frame] } } := by
  unfold hold
  cases queues : client.options.queueCalls <;> cases live : client.isLive frame <;> simp

theorem hold_link (client : Client κ ω) (frame : Outbound) :
    ∃ backlog, (client.hold frame).1 = { client with link := { client.link with backlog } } := by
  rcases client.hold_cases frame with ⟨refused, -⟩ | ⟨-, held⟩
  · exact ⟨_, refused⟩
  · exact ⟨_, held⟩

/-- Handing a frame to the link changes its channel or its backlog. -/
theorem send_link (client : Client κ ω) (frame : Outbound) :
    ∃ channel backlog,
      (client.send frame).1 = { client with link := { client.link with channel, backlog } } ∧
        channel.isSome = client.link.channel.isSome := by
  obtain ⟨backlog, held⟩ := client.hold_link frame
  unfold send
  split
  · rename_i queue session
    split
    · exact ⟨some (queue ++ [frame]), _, rfl, by simp [session]⟩
    · exact ⟨some queue, backlog, session ▸ held, by simp [session]⟩
  · exact ⟨_, backlog, held, rfl⟩

theorem send_calm (client : Client κ ω) (frame : Outbound) :
    client.Calm (client.send frame).1 := by
  obtain ⟨channel, backlog, sent, same⟩ := client.send_link frame
  rw [sent]
  exact ⟨rfl, rfl, rfl, channel, backlog, rfl, same⟩

theorem depart_calm (ticket : Nat) (id : CorrelationId) (told : Option Outcome)
    (client : Client κ ω) : client.Calm (client.depart ticket id told) :=
  ⟨rfl, rfl, rfl, _, _, rfl, rfl⟩

theorem register_calm (topic : Topic) (callback : κ) (client : Client κ ω) :
    client.Calm (client.register topic callback).1 :=
  .of_link rfl rfl rfl rfl

theorem subscribe_calm (topic : Topic) (callback : κ) (client : Client κ ω) :
    client.Calm (client.subscribe topic callback).1 := by
  have registered := client.register_calm topic callback
  unfold subscribe announce
  split
  · exact .refl client
  · dsimp only
    split
    · split
      · exact registered.trans (send_calm _ _)
      · exact registered
    · exact registered

theorem unobserve_calm (handle : HandleId) (client : Client κ ω) :
    client.Calm (client.unobserve handle).1 :=
  .of_link rfl rfl rfl rfl

theorem release_calm (handle : HandleId) (client : Client κ ω) :
    client.Calm (client.release handle).1 :=
  .of_link rfl rfl rfl rfl

theorem withdraw_calm (topic : Topic) (client : Client κ ω) :
    client.Calm (client.withdraw topic) := by
  unfold withdraw
  split
  · exact send_calm _ _
  · exact .refl client

theorem unsubscribe_calm (handle : HandleId) (client : Client κ ω) :
    client.Calm (client.unsubscribe handle).1 := by
  have unobserved := client.unobserve_calm handle
  unfold unsubscribe
  split
  · rename_i found
    rw [found] at unobserved
    exact unobserved
  · rename_i other found
    rw [found] at unobserved
    have released := unobserved.trans (release_calm handle other)
    split <;> rename_i result <;> rw [result] at released
    · exact released
    · exact released
    · exact released.trans (withdraw_calm _ _)

/-! ## Calls -/

/-- A call that the client would register now, with the token it has now. -/
structure Books (client : Client κ ω) (issued : Issued) : Prop where
  admitted : (client.calls.register client.candidates issued.call.path).2 = .admitted issued.call
  token : issued.token = client.token

/-- The client with one more registered call, before its request is handed to the link. -/
def book (issued : Issued) (client : Client κ ω) : Client κ ω :=
  { client with
    calls := (client.calls.register client.candidates issued.call.path).1
    idsDrawn := client.idsDrawn + 1
    issued := client.issued ++ [issued] }

/-- The client whose call was registered and its request handed to the link; its caller waits. -/
def handOver (issued : Issued) (limit : Option Span) (client : Client κ ω) : Client κ ω :=
  let client := ((client.book issued).send issued.request).1
  { client with awaited := client.awaited ++ [⟨issued.call.ticket, issued.call.id, limit⟩] }

/-- The client whose call was registered and failed at once. -/
def failUnsent (issued : Issued) (client : Client κ ω) : Client κ ω :=
  (client.book issued).depart issued.call.ticket issued.call.id
    (some (.error .connectionClosed))

namespace Books

variable {client : Client κ ω} {issued : Issued} (books : client.Books issued)
include books

theorem ticket : issued.call.ticket = client.calls.registrations :=
  (CallTable.register_admitted (Prod.ext rfl books.admitted)).2.2.2.1

/-- No waiting call has the identifier of the new one. -/
theorem absent : client.calls.contains issued.call.id = false :=
  (CallTable.register_admitted (Prod.ext rfl books.admitted)).2.2.2.2.1

theorem space : client.calls.size < client.calls.capacity :=
  (CallTable.register_admitted (Prod.ext rfl books.admitted)).1

theorem calls : (client.book issued).calls = { client.calls with
    pending := client.calls.pending ++ [issued.call]
    registrations := client.calls.registrations + 1 } :=
  (CallTable.register_admitted (Prod.ext rfl books.admitted)).2.2.2.2.2

theorem pending : (client.book issued).calls.pending = client.calls.pending ++ [issued.call] := by
  rw [books.calls]

theorem endings : (client.book issued).calls.endings = client.calls.endings := by
  rw [books.calls]

theorem capacity : (client.book issued).calls.capacity = client.calls.capacity := by
  rw [books.calls]

/-- The request of a call that was just registered names a waiting call. -/
theorem isLive : (client.book issued).isLive issued.request = true := by
  simp [Client.isLive, Issued.request, Outbound.requestId, books.pending, CallTable.contains_iff]

/-- A call that waits already has another identifier than the new one. -/
theorem id_ne {call : PendingCall} (waits : call ∈ client.calls.pending) :
    call.id ≠ issued.call.id := by
  intro same
  have present := (CallTable.contains_iff _ _).2 ⟨call, waits, same⟩
  simp [books.absent] at present

end Books

/-- A frame that is neither sent nor held leaves no trace. -/
theorem send_unsent (client : Client κ ω) (frame : Outbound)
    (unsent : (client.send frame).2 = false) : (client.send frame).1 = client := by
  have holds : (client.hold frame).2 = false → (client.hold frame).1 = client := by
    unfold hold
    split
    · simp
    · exact fun _ => rfl
  unfold send at unsent ⊢
  split
  · rename_i queue session
    rw [session] at unsent
    split
    · rename_i alive
      simp [alive] at unsent
    · rename_i dead
      exact holds (by simpa [dead] using unsent)
  · rename_i session
    exact holds (by simpa [session] using unsent)

/-- What a call does: nothing, or it is registered, and then its caller waits unless the policy
fails it at once because its request was neither sent nor held. -/
theorem call_cases (path : Topic) (data : Json) (limit : Option Span) (client : Client κ ω) :
    (client.call path data limit).1 = client ∨
      ∃ issued, issued.call.path = path ∧ issued.data = data ∧ client.Books issued ∧
        ((client.call path data limit).1 = client.handOver issued limit ∧
            (client.options.pendingPolicy = .fail →
              ((client.book issued).send issued.request).2 = true) ∨
          (client.call path data limit).1 = client.failUnsent issued ∧
            client.options.pendingPolicy = .fail ∧
            ((client.book issued).send issued.request).2 = false) := by
  unfold call
  split
  · exact .inl rfl
  split
  · exact .inl rfl
  cases admission : (client.calls.register client.candidates path).2 with
  | refused pending capacity =>
      left
      have same : (client.calls.register client.candidates path).1 = client.calls :=
        CallTable.register_not_admitted (by simp [admission])
      simp [enroll, admission, same]
  | exhausted =>
      left
      have same : (client.calls.register client.candidates path).1 = client.calls :=
        CallTable.register_not_admitted (by simp [admission])
      simp [enroll, admission, same]
  | admitted call =>
      right
      have samePath : call.path = path :=
        (CallTable.register_admitted (Prod.ext rfl admission)).2.2.1
      refine ⟨⟨call, data, client.token⟩, samePath, rfl, ⟨samePath.symm ▸ admission, rfl⟩, ?_⟩
      have enrolled : client.enroll path =
          ({ client with
              calls := (client.calls.register client.candidates path).1
              idsDrawn := client.idsDrawn + 1 }, .admitted call) := by
        simp [enroll, admission]
      have booked : client.book ⟨call, data, client.token⟩ =
          { client with
            calls := (client.calls.register client.candidates path).1
            idsDrawn := client.idsDrawn + 1
            issued := client.issued ++ [⟨call, data, client.token⟩] } := by
        simp [book, samePath]
      simp only [enrolled, handOver, failUnsent, booked]
      split
      · rename_i unsent
        simp only [Bool.and_eq_true, Bool.not_eq_true', decide_eq_true_eq] at unsent
        refine .inr ⟨?_, ?_, unsent.1⟩
        · rw [send_unsent _ _ unsent.1]
        · have policy := unsent.2
          rw [send_unsent _ _ unsent.1] at policy
          exact policy
      · rename_i goes
        simp only [Bool.and_eq_true, Bool.not_eq_true', decide_eq_true_eq, not_and] at goes
        refine .inl ⟨rfl, fun policy => ?_⟩
        by_contra unsent
        have lost := Bool.eq_false_iff.2 unsent
        exact goes lost ((send_unsent _ _ lost).symm ▸ policy)

theorem book_calm (issued : Issued) (client : Client κ ω) : client.Calm (client.book issued) :=
  .of_link rfl rfl rfl rfl

/-- What a registered call changes beside the table: a caller waits, and its request may be
somewhere. -/
theorem handOver_link (issued : Issued) (limit : Option Span) (client : Client κ ω) :
    ∃ channel backlog, client.handOver issued limit = { client.book issued with
      awaited := client.awaited ++ [⟨issued.call.ticket, issued.call.id, limit⟩]
      link := { client.link with channel, backlog } } := by
  obtain ⟨channel, backlog, sent, -⟩ := (client.book issued).send_link issued.request
  rw [handOver, sent]
  exact ⟨channel, backlog, rfl⟩

section

variable (issued : Issued) (limit : Option Span) (client : Client κ ω)

@[simp]
theorem handOver_calls : (client.handOver issued limit).calls = (client.book issued).calls := by
  obtain ⟨channel, backlog, handed⟩ := client.handOver_link issued limit
  rw [handed]

@[simp]
theorem handOver_issued : (client.handOver issued limit).issued = client.issued ++ [issued] := by
  obtain ⟨channel, backlog, handed⟩ := client.handOver_link issued limit
  rw [handed]
  rfl

@[simp]
theorem handOver_awaited : (client.handOver issued limit).awaited =
    client.awaited ++ [⟨issued.call.ticket, issued.call.id, limit⟩] := by
  obtain ⟨channel, backlog, handed⟩ := client.handOver_link issued limit
  rw [handed]

@[simp]
theorem handOver_departed : (client.handOver issued limit).departed = client.departed := by
  obtain ⟨channel, backlog, handed⟩ := client.handOver_link issued limit
  rw [handed]
  rfl

@[simp]
theorem handOver_idsDrawn : (client.handOver issued limit).idsDrawn = client.idsDrawn + 1 := by
  obtain ⟨channel, backlog, handed⟩ := client.handOver_link issued limit
  rw [handed]
  rfl

end

theorem handOver_calm (issued : Issued) (limit : Option Span) (client : Client κ ω) :
    client.Calm (client.handOver issued limit) :=
  ((client.book_calm issued).trans (send_calm _ _)).trans (.of_link rfl rfl rfl rfl)

theorem failUnsent_calm (issued : Issued) (client : Client κ ω) :
    client.Calm (client.failUnsent issued) :=
  (client.book_calm issued).trans (depart_calm _ _ _ _)

theorem call_calm (path : Topic) (data : Json) (limit : Option Span) (client : Client κ ω) :
    client.Calm (client.call path data limit).1 := by
  rcases client.call_cases path data limit with same | ⟨issued, -, -, -, ⟨handed, -⟩ | ⟨failed, -⟩⟩
  · exact same.symm ▸ .refl client
  · exact handed.symm ▸ client.handOver_calm issued limit
  · exact failed.symm ▸ client.failUnsent_calm issued

theorem cancel_calm (id : CorrelationId) (client : Client κ ω) :
    client.Calm (client.cancel id).1 :=
  ⟨rfl, rfl, rfl, _, _, rfl, rfl⟩

/-- Why a caller waits no longer. -/
inductive Farewell where
  /-- Its call has ended. -/
  | learned (ending : CallEnd)
  /-- Its deadline has passed. -/
  | late (limit : Span)
  /-- It went away. -/
  | gone

/-- What a caller is told when it waits no longer. -/
def Farewell.told (awaited : Awaited) : Farewell → Option Outcome
  | .learned ending => some (outcomeOf ending)
  | .late limit => some (.error (deadlineError awaited.id limit))
  | .gone => none

/-- Whether a caller may depart so: it learns how its call ended, or its deadline passes before
that, or it goes away. -/
def Farewell.Fits (client : Client κ ω) (awaited : Awaited) : Farewell → Prop
  | .learned ending => client.calls.ending? awaited.ticket = some ending
  | .late limit =>
      client.calls.ending? awaited.ticket = none ∧ awaited.limit = some limit
  | .gone => True

/-- Nothing happened, or a caller departed. -/
def Parts (client after : Client κ ω) : Prop :=
  after = client ∨ ∃ awaited ∈ client.awaited, ∃ farewell : Farewell,
    farewell.Fits client awaited ∧
      after = client.depart awaited.ticket awaited.id (farewell.told awaited)

theorem mem_of_awaited? {client : Client κ ω} {ticket : Nat} {awaited : Awaited}
    (found : client.awaited? ticket = some awaited) :
    awaited ∈ client.awaited ∧ awaited.ticket = ticket :=
  ⟨List.mem_of_find?_eq_some found, by simpa using List.find?_some found⟩

theorem conclude_parts (ticket : Nat) (client : Client κ ω) :
    client.Parts (client.conclude ticket).1 := by
  unfold conclude
  split
  · rename_i awaited ending found ended
    obtain ⟨member, rfl⟩ := mem_of_awaited? found
    exact .inr ⟨awaited, member, .learned ending, ended, rfl⟩
  · exact .inl rfl

theorem expire_parts (ticket : Nat) (client : Client κ ω) :
    client.Parts (client.expire ticket).1 := by
  unfold expire
  split
  · rename_i awaited found waits
    obtain ⟨member, rfl⟩ := mem_of_awaited? found
    split
    · rename_i outcome deadline
      obtain ⟨limit, limited, rfl⟩ := Option.map_eq_some_iff.1 deadline
      exact .inr ⟨awaited, member, .late limit, ⟨waits, limited⟩, rfl⟩
    · exact .inl rfl
  · exact .inl rfl

theorem abandon_parts (ticket : Nat) (client : Client κ ω) :
    client.Parts (client.abandon ticket).1 := by
  unfold abandon
  split
  · rename_i awaited found
    obtain ⟨member, rfl⟩ := mem_of_awaited? found
    exact .inr ⟨awaited, member, .gone, trivial, rfl⟩
  · exact .inl rfl

theorem Parts.calm {client after : Client κ ω} (parts : client.Parts after) :
    client.Calm after := by
  rcases parts with same | ⟨awaited, -, farewell, -, departed⟩
  · exact same.symm ▸ .refl client
  · exact departed.symm ▸ depart_calm _ _ _ _

/-! ## The driver's work is left alone -/

/-- **An act does none of the driver's work.** -/
theorem perform_calm (act : Act κ ω) (client : Client κ ω) : client.Calm (act.perform client) := by
  cases act with
  | subscribe topic callback => exact client.subscribe_calm topic callback
  | unsubscribe handle => exact client.unsubscribe_calm handle
  | enlist callback => exact .of_link rfl rfl rfl rfl
  | call path data limit => exact client.call_calm path data limit
  | cancel id => exact client.cancel_calm id
  | conclude ticket => exact (client.conclude_parts ticket).calm
  | expire ticket => exact (client.expire_parts ticket).calm
  | abandon ticket => exact (client.abandon_parts ticket).calm
  | setToken token => exact .of_link rfl rfl rfl rfl
  | note desk => exact .of_link rfl rfl rfl rfl

/-! ## The calls are left alone -/

/-- An act that is about no call. -/
def Act.isAside : Act κ ω → Bool
  | .subscribe _ _ | .unsubscribe _ | .enlist _ | .setToken _ | .note _ => true
  | .call _ _ _ | .cancel _ | .conclude _ | .expire _ | .abandon _ => false

/-- Nothing changed about the calls, and what was handed to the channel are no requests. -/
structure Bystander (before after : Client κ ω) : Prop where
  calls : after.calls = before.calls
  issued : after.issued = before.issued
  awaited : after.awaited = before.awaited
  departed : after.departed = before.departed
  idsDrawn : after.idsDrawn = before.idsDrawn
  backlog : after.link.backlog = before.link.backlog
  channel : ∃ frames, (∀ frame ∈ frames, frame.requestId = none) ∧
    after.link.channel = before.link.channel.map (· ++ frames)

theorem Bystander.of_link {before after : Client κ ω} (calls : after.calls = before.calls)
    (issued : after.issued = before.issued) (awaited : after.awaited = before.awaited)
    (departed : after.departed = before.departed) (idsDrawn : after.idsDrawn = before.idsDrawn)
    (link : after.link = before.link) : before.Bystander after :=
  ⟨calls, issued, awaited, departed, idsDrawn, by rw [link], [], by simp, by simp [link]⟩

/-- A frame that is no request is never held. -/
theorem hold_aside (client : Client κ ω) (frame : Outbound) (aside : frame.requestId = none) :
    (client.hold frame).1 = client := by
  simp [hold, isLive, aside]

theorem send_bystander {before : Client κ ω} (client : Client κ ω) (frame : Outbound)
    (aside : frame.requestId = none) (calls : client.calls = before.calls)
    (issued : client.issued = before.issued) (awaited : client.awaited = before.awaited)
    (departed : client.departed = before.departed) (idsDrawn : client.idsDrawn = before.idsDrawn)
    (link : client.link = before.link) : before.Bystander (client.send frame).1 := by
  have same : before.Bystander client := .of_link calls issued awaited departed idsDrawn link
  unfold send
  split
  · rename_i queue session
    split
    · refine ⟨calls, issued, awaited, departed, idsDrawn, by rw [link], [frame], by simpa, ?_⟩
      simp [← link, session]
    · exact (hold_aside client frame aside).symm ▸ same
  · exact (hold_aside client frame aside).symm ▸ same

theorem subscribe_bystander (topic : Topic) (callback : κ) (client : Client κ ω) :
    client.Bystander (client.subscribe topic callback).1 := by
  unfold subscribe announce
  split
  · exact .of_link rfl rfl rfl rfl rfl rfl
  · dsimp only
    split
    · split
      · exact send_bystander _ _ rfl rfl rfl rfl rfl rfl rfl
      · exact .of_link rfl rfl rfl rfl rfl rfl
    · exact .of_link rfl rfl rfl rfl rfl rfl

/-- What releasing a handle does: an observer goes, or a handler, and with the last handler of a
topic the topic is withdrawn. -/
theorem unsubscribe_cases (handle : HandleId) (client : Client κ ω) :
    (client.unsubscribe handle).1 = (client.unobserve handle).1 ∨
      (client.unsubscribe handle).1 = ((client.unobserve handle).1.release handle).1 ∧
        (∀ topic, (client.subscriptions.unsubscribe handle).2 ≠ .lastForTopic topic) ∨
      ∃ topic, (client.subscriptions.unsubscribe handle).2 = .lastForTopic topic ∧
        (client.unsubscribe handle).1 =
          ((client.unobserve handle).1.release handle).1.withdraw topic := by
  obtain ⟨other, found⟩ | ⟨other, found⟩ : (∃ other, client.unobserve handle = (other, true)) ∨
      ∃ other, client.unobserve handle = (other, false) := by
    cases found : (client.unobserve handle).2
    · exact .inr ⟨_, Prod.ext rfl found⟩
    · exact .inl ⟨_, Prod.ext rfl found⟩
  · simp [unsubscribe, found]
  · right
    have same : other.subscriptions = client.subscriptions := by
      rw [show other = (client.unobserve handle).1 by rw [found]]
      rfl
    have removal : (other.release handle).2 = (client.subscriptions.unsubscribe handle).2 := by
      rw [← same]
      rfl
    unfold unsubscribe
    simp only [found, ← removal]
    split <;> rename_i result <;> simp [result]

theorem unsubscribe_bystander (handle : HandleId) (client : Client κ ω) :
    client.Bystander (client.unsubscribe handle).1 := by
  rcases client.unsubscribe_cases handle with same | ⟨same, -⟩ | ⟨topic, -, same⟩ <;> rw [same]
  · exact .of_link rfl rfl rfl rfl rfl rfl
  · exact .of_link rfl rfl rfl rfl rfl rfl
  · unfold withdraw
    split
    · exact send_bystander _ _ rfl rfl rfl rfl rfl rfl rfl
    · exact .of_link rfl rfl rfl rfl rfl rfl

/-- **An act that is about no call leaves all calls alone.** -/
theorem perform_bystander {act : Act κ ω} (aside : act.isAside = true) (client : Client κ ω) :
    client.Bystander (act.perform client) := by
  cases act with
  | subscribe topic callback => exact client.subscribe_bystander topic callback
  | unsubscribe handle => exact client.unsubscribe_bystander handle
  | enlist callback => exact .of_link rfl rfl rfl rfl rfl rfl
  | setToken token => exact .of_link rfl rfl rfl rfl rfl rfl
  | note desk => exact .of_link rfl rfl rfl rfl rfl rfl
  | call | cancel | conclude | expire | abandon => simp [Act.isAside] at aside

/-! ## A link that is up has a channel -/

/-- The link is up exactly if there is a channel; only a live session has one, and only a session
has a prologue. -/
structure Coherent (client : Client κ ω) : Prop where
  up : client.isAlive = client.link.channel.isSome
  live : client.link.channel.isSome → client.link.phase = .live
  complete : client.link.channel = none → client.link.prologue = .complete

namespace Coherent

variable {client : Client κ ω}

theorem calm (coherent : client.Coherent) {after : Client κ ω} (calm : client.Calm after) :
    after.Coherent where
  up := by
    rw [isAlive, Connectivity.isAlive, show after.connectivity.state = after.state from rfl,
      calm.state, calm.channel_isSome]
    exact coherent.up
  live some := by
    rw [calm.channel_isSome] at some
    exact calm.phase.trans (coherent.live some)
  complete none := by
    rw [← Option.not_isSome_iff_eq_none, calm.channel_isSome,
      Option.not_isSome_iff_eq_none] at none
    exact calm.prologue.trans (coherent.complete none)

/-- A frame goes to the channel, and without one it may be held. -/
theorem send_cases (coherent : client.Coherent) (frame : Outbound) :
    (∃ queue, client.link.channel = some queue ∧
      client.send frame =
        ({ client with link := { client.link with channel := some (queue ++ [frame]) } }, true)) ∨
      client.link.channel = none ∧ client.send frame = client.hold frame := by
  have up := coherent.up
  cases session : client.link.channel with
  | none => exact .inr ⟨rfl, by simp [send, session]⟩
  | some queue =>
      rw [session] at up
      exact .inl ⟨queue, rfl, by simp [send, session, up]⟩

/-- Where the request of a registered call goes: to the channel, or without one to the backlog if
calls are queued, or nowhere. -/
theorem handOver_cases (coherent : client.Coherent) {issued : Issued} (books : client.Books issued)
    (limit : Option Span) :
    let awaited := client.awaited ++ [⟨issued.call.ticket, issued.call.id, limit⟩]
    (∃ queue, client.link.channel = some queue ∧
      client.handOver issued limit = { client.book issued with
        awaited, link := { client.link with channel := some (queue ++ [issued.request]) } }) ∨
      client.link.channel = none ∧
        (client.options.queueCalls = true ∧
            client.handOver issued limit = { client.book issued with
              awaited
              link := { client.link with
                backlog := client.link.backlog.filter (client.book issued).isLive ++
                  [issued.request] } } ∨
          client.options.queueCalls = false ∧
            client.handOver issued limit = { client.book issued with awaited }) := by
  intro awaited
  rcases (coherent.calm (client.book_calm issued)).send_cases issued.request with
    ⟨queue, channel, sent⟩ | ⟨channel, sent⟩
  · refine .inl ⟨queue, channel, ?_⟩
    rw [handOver, sent]
    rfl
  · refine .inr ⟨channel, ?_⟩
    have options : (client.book issued).options.queueCalls = client.options.queueCalls := rfl
    rw [handOver, sent, hold, books.isLive, Bool.and_true, options]
    cases client.options.queueCalls with
    | true => exact .inl ⟨rfl, rfl⟩
    | false => exact .inr ⟨rfl, rfl⟩

end Coherent

end Switchboard.Client
