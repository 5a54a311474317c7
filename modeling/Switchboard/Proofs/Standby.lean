/-
# Switchboard.Proofs.Standby -- what waits while there is no session

Without a session a frame that is handed to the link is held or lost.  Which of the two, and what
becomes of the frames that were held before, is up to the table of calls; and that changes between
one frame and the next in every way in which a call can end.  So what is known of the backlog at all
times is little: it holds requests, and those only if the options say so.  What is known right after
a frame was taken is everything.

Whoever holds a part of a client may handle it (`Client.Handling`), between what the application and
the driver do and in the middle of it; callbacks may do the same whenever they are told something
(`Client.Tended`).  None of that puts anything but requests into the backlog, and none but a session
that begins makes a channel (`Client.Stows`).

* `Tended.run_within`: a run is a case of it;
* `Tended.stows`: what holds of each thing that is done holds of all of them, however they nest;
* `standby_backlog`: what the backlog holds without a session, and what handing over a frame and
  discarding the requests of a call do to it and answer.
-/
import Mathlib
import Switchboard.Proofs.Enduring

namespace Switchboard

set_option autoImplicit false

/-- The frame is the request of a call that waits. -/
def CallTable.Expects (calls : CallTable) (frame : Outbound) : Prop :=
  ∃ call ∈ calls.pending, frame.requestId = some call.id

instance (calls : CallTable) : DecidablePred calls.Expects := fun frame =>
  inferInstanceAs (Decidable (∃ call ∈ calls.pending, frame.requestId = some call.id))

namespace Client

variable {κ ω : Type} {licence : Licence κ ω} {behave : Behaviour κ ω}
  {first client before middle after : Client κ ω}

/-! ## Whoever holds a part -/

/-- What is done to one part of a client, by whoever holds it. -/
inductive Handling where
  /-- A frame is handed to the link. -/
  | send (frame : Outbound)
  | discard (id : CorrelationId)
  /-- A call is registered, or calls are settled, rejected or removed. -/
  | calls (op : CallTable.Op)
  /-- The link is in another state, and nobody has been told yet, as in the middle of a move. -/
  | moveTo (state : LinkState)
  /-- What is queued goes, as in the middle of closing. -/
  | clear

/-- The client with another backlog. -/
def setBacklog (backlog : List Outbound) (client : Client κ ω) : Client κ ω :=
  { client with link := { client.link with backlog } }

/-- The client one of whose parts was handled. -/
def Handling.perform (handling : Handling) (client : Client κ ω) : Client κ ω :=
  match handling with
  | .send frame => (client.send frame).1
  | .discard id => (client.discard id).1
  | .calls op => { client with calls := (op.perform client.calls).1 }
  | .moveTo state => client.moveTo state
  | .clear => client.setBacklog []

/-- What becomes of a client: its parts are handled, its link is moved to any state and the observers
are told, and the events of a run happen, closing among them.  What callbacks do when they are told
something is again of this kind, so they may meddle to any depth. -/
inductive Tended (licence : Licence κ ω) : Client κ ω → Client κ ω → Prop where
  | still (client : Client κ ω) : Tended licence client client
  | handled {first client : Client κ ω} (tended : Tended licence first client)
      (handling : Handling) : Tended licence first (handling.perform client)
  | transition {first client : Client κ ω} (tended : Tended licence first client)
      {behave : Behaviour κ ω}
      (meddles : ∀ callback signal found,
        Tended licence found (behave callback signal found).1)
      (next : LinkState) : Tended licence first (client.transition behave next).1
  | event {first client : Client κ ω} (tended : Tended licence first client)
      {behave : Behaviour κ ω}
      (meddles : ∀ callback signal found,
        Tended licence found (behave callback signal found).1)
      {event : Event κ ω} (allowed : event.Within licence) :
      Tended licence first (event.step behave client)

/-- Anything may happen, but no session begins. -/
def Licence.standby : Licence κ ω := ⟨fun _ => True, fun _ => False⟩

namespace Tended

/-- What is done in the middle of something, as by an observer that is being told, is done to a client
that was tended as well. -/
theorem trans (earlier : before.Tended licence middle) (later : middle.Tended licence after) :
    before.Tended licence after := by
  induction later with
  | still => exact earlier
  | handled _ handling ih => exact (ih earlier).handled handling
  | transition _ meddles next ih => exact (ih earlier).transition meddles next
  | event _ meddles allowed ih => exact (ih earlier).event meddles allowed

theorem act (tended : first.Tended licence client) {act : Act κ ω} (allowed : licence.act act) :
    first.Tended licence (act.perform client) := by
  have idle : ∀ callback signal (found : Client κ ω), found.Tended licence
      ((fun _ _ client => (client, .returned) : Behaviour κ ω) callback signal found).1 :=
    fun _ _ found => .still found
  exact tended.event idle (show (Event.act act).Within licence from allowed)

theorem performAll {acts : List (Act κ ω)} (allowed : ∀ act ∈ acts, licence.act act)
    (client : Client κ ω) : client.Tended licence (client.performAll acts) := by
  induction acts generalizing client with
  | nil => exact .still client
  | cons act acts ih =>
      have once := (still client).act (allowed act List.mem_cons_self)
      exact once.trans (ih (fun other member => allowed other (List.mem_cons_of_mem _ member)) _)

theorem run (meddles : ∀ callback signal found,
      Tended licence found (behave callback signal found).1)
    {events : List (Event κ ω)} (allowed : ∀ event ∈ events, event.Within licence)
    (client : Client κ ω) : client.Tended licence (client.run behave events) := by
  induction events generalizing client with
  | nil => exact .still client
  | cons event events ih =>
      have once := (still client).event meddles (allowed event List.mem_cons_self)
      exact once.trans (ih (fun other member => allowed other (List.mem_cons_of_mem _ member)) _)

/-- A run is tending, if callbacks do nothing but allowed acts. -/
theorem run_within (within : behave.Within licence.act) {events : List (Event κ ω)}
    (allowed : ∀ event ∈ events, event.Within licence) (client : Client κ ω) :
    client.Tended licence (client.run behave events) := by
  refine run (fun callback signal found => ?_) allowed client
  obtain ⟨acts, each, does⟩ := within callback signal found
  exact does ▸ performAll each found

end Tended

/-! ## What fills the backlog -/

/-- Only requests have come into the backlog, and only where they are queued; and a channel has come
up only if a session may have begun. -/
structure Stows (licence : Licence κ ω) (before after : Client κ ω) : Prop where
  options : after.options = before.options
  origin : ∀ frame ∈ after.link.backlog, frame ∈ before.link.backlog ∨
    before.options.queueCalls = true ∧ frame.isRequest = true
  channel : before.link.channel = none → after.link.channel = none ∨ ∃ room, licence.room room

namespace Stows

theorem trans (earlier : Stows licence before middle) (later : Stows licence middle after) :
    Stows licence before after where
  options := later.options.trans earlier.options
  origin frame member := by
    rcases later.origin frame member with held | ⟨queues, request⟩
    · exact earlier.origin frame held
    · exact .inr ⟨earlier.options ▸ queues, request⟩
  channel none := by
    rcases earlier.channel none with still | begins
    · exact later.channel still
    · exact .inr begins

/-- What was queued stays or goes. -/
theorem of_fewer (options : after.options = before.options)
    (fewer : after.link.backlog ⊆ before.link.backlog)
    (channel : after.link.channel.isSome = before.link.channel.isSome) :
    Stows licence before after where
  options := options
  origin _ member := .inl (fewer member)
  channel none := by
    rw [none] at channel
    exact .inl (by simpa using channel)

/-- The backlog and the channel are left alone. -/
theorem of_link (options : after.options = before.options)
    (backlog : after.link.backlog = before.link.backlog)
    (channel : after.link.channel = before.link.channel) : Stows licence before after :=
  .of_fewer options (backlog ▸ List.Subset.refl _) (by rw [channel])

theorem refl (client : Client κ ω) : Stows licence client client := .of_link rfl rfl rfl

/-- Where sessions may begin, nothing is said about the channel. -/
theorem free (stows : Stows licence before after) : Stows .free before after :=
  ⟨stows.options, stows.origin, fun _ => .inr ⟨none, trivial⟩⟩

/-- A frame that is held is the request of a waiting call. -/
theorem hold (client : Client κ ω) (frame : Outbound) :
    Stows licence client (client.hold frame).1 := by
  unfold Client.hold
  split
  · rename_i holds
    obtain ⟨queues, live⟩ := Bool.and_eq_true_iff.1 holds
    refine ⟨rfl, fun other member => ?_, .inl⟩
    rcases List.mem_append.1 member with kept | now
    · exact .inl (List.mem_filter.1 kept).1
    · obtain rfl := List.mem_singleton.1 now
      exact .inr ⟨queues, isRequest_of_isLive live⟩
  · exact .refl client

theorem send (client : Client κ ω) (frame : Outbound) :
    Stows licence client (client.send frame).1 := by
  unfold Client.send
  split
  · rename_i queue session
    split
    · exact .of_fewer rfl (List.Subset.refl _) (by simp [session])
    · exact .hold client frame
  · exact .hold client frame

theorem of_parts (parts : client.Parts after) : Stows licence client after := by
  rcases parts with same | ⟨awaited, -, farewell, -, departed⟩
  · exact same.symm ▸ .refl client
  · exact departed.symm ▸ .of_fewer rfl List.filter_sublist.subset rfl

theorem perform (act : Act κ ω) (client : Client κ ω) :
    Stows licence client (act.perform client) := by
  have aside : act.isAside = true → Stows licence client (act.perform client) := by
    intro aside
    have calm := perform_calm act client
    have bystander := perform_bystander aside client
    exact .of_fewer calm.options (bystander.backlog ▸ List.Subset.refl _) calm.channel_isSome
  cases act with
  | call path data limit =>
      show Stows licence client (client.call path data limit).1
      rcases client.call_cases path data limit with
        same | ⟨issued, -, -, -, ⟨handed, -⟩ | ⟨failed, -⟩⟩
      · exact same.symm ▸ .refl client
      · have booked : Stows licence client (client.book issued) := .of_link rfl rfl rfl
        rw [handed]
        exact booked.trans ((Stows.send _ issued.request).trans (.of_link rfl rfl rfl))
      · rw [failed]
        exact .of_fewer rfl List.filter_sublist.subset rfl
  | cancel id => exact .of_fewer rfl List.filter_sublist.subset rfl
  | conclude ticket => exact .of_parts (client.conclude_parts ticket)
  | expire ticket => exact .of_parts (client.expire_parts ticket)
  | abandon ticket => exact .of_parts (client.abandon_parts ticket)
  | subscribe | unsubscribe | enlist | setToken | note => exact aside rfl

theorem performAll (acts : List (Act κ ω)) (client : Client κ ω) :
    Stows licence client (client.performAll acts) := by
  induction acts generalizing client with
  | nil => exact .refl client
  | cons act acts ih => exact (Stows.perform act client).trans (ih _)

theorem handling (handling : Handling) (client : Client κ ω) :
    Stows licence client (handling.perform client) := by
  cases handling with
  | send frame => exact .send client frame
  | discard id => exact .of_fewer rfl List.filter_sublist.subset rfl
  | calls op => exact .of_link rfl rfl rfl
  | moveTo state => exact .of_link rfl rfl rfl
  | clear => exact .of_fewer rfl (List.nil_subset _) rfl

/-! ## The driver -/

/-- What the driver does without beginning a session. -/
theorem endures (meddles : ∀ callback signal found,
    Stows licence found (behave callback signal found).1) : Endures behave (Stows licence) where
  refl := .refl
  trans earlier later := earlier.trans later
  callback := meddles
  moveTo _ _ := .of_link rfl rfl rfl
  link _ _ channel kept := by
    rcases kept with same | empty
    · exact .of_link rfl same channel
    · exact .of_fewer rfl (by simp [empty]) (congrArg Option.isSome channel)
  taken channel := .of_fewer rfl (List.Subset.refl _) (by simp [setChannel, channel])
  unplugged _ := ⟨rfl, fun _ member => .inl member, fun _ => .inl rfl⟩
  hold frame client := .hold client frame
  failAll _ := .of_link rfl rfl rfl

theorem connect (runtime : Bool) (address : String) (client : Client κ ω) :
    Stows licence client (client.connect runtime address).1 := by
  unfold Client.connect
  split
  · exact .refl client
  · repeat' split
    all_goals exact .of_link rfl rfl rfl

/-- **Every event fills the backlog with requests only**, if callbacks do. -/
theorem step (meddles : ∀ callback signal found,
      Stows licence found (behave callback signal found).1)
    {event : Event κ ω} (allowed : event.Within licence) (client : Client κ ω) :
    Stows licence client (event.step behave client) := by
  have endures := Stows.endures meddles
  -- an event that cannot happen at the moment changes nothing
  have provided : ∀ {condition : Prop} [Decidable condition] {after : Client κ ω},
      Stows licence client after →
        Stows licence client (if condition then after else client) := by
    intro condition _ after stows
    split
    · exact stows
    · exact .refl client
  cases event with
  | act deed => exact .perform deed client
  | observe callback =>
      exact (Stows.perform (.enlist callback) client).trans (meddles callback _ _)
  | unsubscribeAll handles =>
      rw [Event.step, unsubscribeAll_eq]
      exact .performAll _ client
  | dispose scope =>
      show Stows licence client (client.unsubscribeAll scope.handles).1
      rw [unsubscribeAll_eq]
      exact .performAll _ client
  | collect =>
      rw [Event.step, collect, concludeAll_eq]
      exact .performAll _ client
  | connect runtime address => exact .connect runtime address client
  | close => exact endures.close client
  | shutdown => exact endures.stop client
  | attempt => exact provided ((endures.transition .connecting client).trans (endures.enter _ _))
  | attemptFailed => exact provided (endures.attemptFailed client)
  | opened => exact provided (.of_link rfl rfl rfl)
  | settled room =>
      have opened : Stows licence client (client.openSession room) :=
        ⟨rfl, fun _ member => .inl member, fun _ => .inr ⟨room, allowed⟩⟩
      exact provided (opened.trans (endures.transition .connected _))
  | proceed => exact endures.proceed client
  | emit => exact endures.emit client
  | hear text =>
      refine provided ?_
      unfold hear route
      cases Inbound.decode text with
      | error reason => exact .refl client
      | ok inbound =>
          cases inbound with
          | reply id outcome => exact .of_link rfl rfl rfl
          | push topic data => exact endures.notifyAll _ _ _
          | ping id => exact endures.write _ _
  | lose => exact provided (endures.endSession .dropped client)

end Stows

/-- **Whatever is done to a client fills its backlog with requests only.** -/
theorem Tended.stows (tended : first.Tended licence client) : Stows licence first client := by
  induction tended with
  | still client => exact .refl client
  | handled _ handling ih => exact ih.trans (.handling handling _)
  | transition _ _ next ih meddle => exact ih.trans ((Stows.endures meddle).transition next _)
  | event _ _ allowed ih meddle => exact ih.trans (.step meddle allowed _)

/-! ## Without a session -/

theorem isLive_eq (client : Client κ ω) :
    client.isLive = fun frame => decide (client.calls.Expects frame) := by
  funext frame
  rw [Bool.eq_iff_iff, decide_eq_true_iff]
  exact client.isLive_iff frame

/-- What handing over a frame does: it waits behind the requests whose calls wait, or is lost. -/
theorem send_standby (none : client.link.channel = none) (frame : Outbound) :
    (client.options.queueCalls = true ∧ client.calls.Expects frame) ∧
        client.send frame =
          (client.setBacklog (client.link.backlog.filter client.calls.Expects ++ [frame]), true) ∨
      ¬ (client.options.queueCalls = true ∧ client.calls.Expects frame) ∧
        client.send frame = (client, false) := by
  have holds : client.send frame = client.hold frame := by simp [send, none]
  by_cases accepted : client.options.queueCalls = true ∧ client.calls.Expects frame
  · exact .inl ⟨accepted, by simp [holds, hold, isLive_eq, accepted, setBacklog]⟩
  · exact .inr ⟨accepted, by simpa [holds, hold, isLive_eq] using accepted⟩

/-- Discarding finds a call if any of its requests is queued. -/
theorem discard_found_iff (client : Client κ ω) (id : CorrelationId) :
    (client.discard id).2 = true ↔ ∃ frame ∈ client.link.backlog, frame.requestId = some id := by
  simp [discard, Link.discard, List.length_filter_eq_length_iff]

/-- **What waits while there is no session.**  Take a client whose backlog was empty at first,
whatever has been done to it since, at a time when it has no session.  From then on let anything be
done to it but that a session begins, in any order and by anyone: frames are handed over, repeatedly,
and discarded, calls are registered and end, the link is moved to any state, the client is closed, and
callbacks do the same.  Then it still has no session, and:

* the backlog holds requests only, and nothing unless requests are queued;
* a frame that is handed over is taken exactly if requests are queued and it is that of a waiting
  call.  It then comes last in the backlog, behind those before it whose calls wait, in their order;
  so all that is queued is of waiting calls.  A frame that is not taken leaves the client as it was;
* discarding takes out the requests of the call and nothing else, and tells whether there were any. -/
theorem standby_backlog (fresh : first.link.backlog = []) (reached : first.Tended .free middle)
    (noSession : middle.link.channel = none) (tended : middle.Tended .standby client) :
    client.link.channel = none ∧
      (∀ frame ∈ client.link.backlog, frame.isRequest = true) ∧
      (first.options.queueCalls = false → client.link.backlog = []) ∧
      (∀ frame,
        ((client.send frame).2 = true ↔
          first.options.queueCalls = true ∧ client.calls.Expects frame) ∧
        ((client.send frame).2 = true →
          (client.send frame).1 =
              client.setBacklog (client.link.backlog.filter client.calls.Expects ++ [frame]) ∧
            ∀ queued ∈ (client.send frame).1.link.backlog,
              (client.send frame).1.calls.Expects queued) ∧
        ((client.send frame).2 = false → (client.send frame).1 = client)) ∧
      ∀ id,
        (client.discard id).1 =
            client.setBacklog
              (client.link.backlog.filter (fun frame => frame.requestId ≠ some id)) ∧
          ((client.discard id).2 = true ↔
            ∃ frame ∈ client.link.backlog, frame.requestId = some id) := by
  have whole : Stows .free first client := reached.stows.trans tended.stows.free
  have requests : ∀ frame ∈ client.link.backlog,
      first.options.queueCalls = true ∧ frame.isRequest = true := by
    intro frame member
    exact (whole.origin frame member).resolve_left (by simp [fresh])
  have none : client.link.channel = none :=
    (tended.stows.channel noSession).resolve_right fun ⟨_, begins⟩ => begins
  refine ⟨none, fun frame member => (requests frame member).2, fun off => ?_, fun frame => ?_,
    fun id => ⟨rfl, client.discard_found_iff id⟩⟩
  · refine List.eq_nil_iff_forall_not_mem.2 fun frame member => ?_
    have queues := (requests frame member).1
    simp [off] at queues
  · rw [← whole.options]
    rcases client.send_standby none frame with ⟨accepted, sent⟩ | ⟨refused, sent⟩
    · refine ⟨by simp [sent, accepted], fun _ => ⟨by rw [sent], fun queued member => ?_⟩, ?_⟩
      · rw [sent] at member ⊢
        rcases List.mem_append.1 member with kept | now
        · exact of_decide_eq_true (List.mem_filter.1 kept).2
        · exact List.mem_singleton.1 now ▸ accepted.2
      · simp [sent]
    · exact ⟨by simp [sent, refused], by simp [sent], fun _ => by rw [sent]⟩

/-- The request of a first call, and that of a second. -/
def stopRequest : Outbound := .request (CorrelationId.drawn 0) ⟨["arena", "stop"]⟩ .null none

def goRequest : Outbound := .request (CorrelationId.drawn 1) ⟨["arena", "go"]⟩ .null none

/-- An observer that hands over the first request whenever the link is up. -/
def insisting : Behaviour Unit Unit := fun _ signal client =>
  match signal with
  | .alive true => ((client.send stopRequest).1, .returned)
  | _ => (client, .returned)

theorem insisting_meddles (licence : Licence Unit Unit) (callback : Unit) (signal : Signal)
    (found : Client Unit Unit) : found.Tended licence (insisting callback signal found).1 := by
  unfold insisting
  split
  · exact (Tended.still found).handled (.send stopRequest)
  · exact .still found

/-- A session that is lost, with the insisting observer. -/
def interrupted : List (Event Unit Unit) :=
  [.observe (), .connect true "ws://a", .attempt, .opened, .settled none, .proceed, .proceed,
    .proceed, .proceed, .lose]

/-- The client when the session is lost. -/
def cutOff : Client Unit Unit := run insisting interrupted (new { queueCalls := true } none ())

/-- Two calls are registered, and the request of the first is handed over; the link is said to be up,
though there is no session; and the first call is settled. -/
def insisted : Client Unit Unit :=
  let called := Handling.perform (.send stopRequest) <|
    Handling.perform (.calls (.register [CorrelationId.drawn 1] ⟨["arena", "go"]⟩)) <|
    Handling.perform (.calls (.register [CorrelationId.drawn 0] ⟨["arena", "stop"]⟩)) cutOff
  Handling.perform (.calls (.settle (CorrelationId.drawn 0) (.ok .null)))
    (called.transition insisting .connected).1

theorem insisted_tended : cutOff.Tended .standby insisted := by
  have begun : cutOff.Tended .standby cutOff := .still cutOff
  have registered := (begun.handled
    (.calls (.register [CorrelationId.drawn 0] ⟨["arena", "stop"]⟩))).handled
    (.calls (.register [CorrelationId.drawn 1] ⟨["arena", "go"]⟩))
  have raised := (registered.handled (.send stopRequest)).transition
    (insisting_meddles .standby) .connected
  exact raised.handled (.calls (.settle (CorrelationId.drawn 0) (.ok .null)))

/-- The first request is queued twice, and its call has ended; the second drives both out. -/
theorem standby_insisted :
    (new { queueCalls := true } none () : Client Unit Unit).link.backlog = [] ∧
      (new { queueCalls := true } none () : Client Unit Unit).Tended .free cutOff ∧
      cutOff.link.channel = none ∧ cutOff.Tended .standby insisted ∧
      insisted.isAlive = true ∧ insisted.link.channel = none ∧
      insisted.link.backlog.length = 2 ∧
      (insisted.send stopRequest).2 = false ∧ (insisted.send goRequest).2 = true ∧
      (insisted.send goRequest).1.link.backlog = [goRequest] ∧
      (insisted.discard (CorrelationId.drawn 0)).2 = true := by
  have reached : (new { queueCalls := true } none () : Client Unit Unit).Tended .free cutOff :=
    .run (insisting_meddles .free) (fun event _ => within_free event) _
  have cut : cutOff.link.channel.isNone = true := by cbv
  have seen : (fun client : Client Unit Unit => (client.isAlive, client.link.backlog.length,
      client.link.backlog.map (·.requestId), client.calls.pending.map (·.id)))
      insisted = (true, 2, [some (CorrelationId.drawn 0), some (CorrelationId.drawn 0)],
        [CorrelationId.drawn 1]) := by cbv
  simp only [Prod.mk.injEq] at seen
  obtain ⟨alive, length, queued, waiting⟩ := seen
  have noSession := Option.isNone_iff_eq_none.1 cut
  obtain ⟨none, -, -, sends, discards⟩ :=
    standby_backlog rfl reached noSession insisted_tended
  have expects : ∀ frame, insisted.calls.Expects frame ↔
      frame.requestId = some (CorrelationId.drawn 1) := by
    intro frame
    have named : insisted.calls.Expects frame ↔
        ∃ id ∈ insisted.calls.pending.map (·.id), frame.requestId = some id := by
      simp [CallTable.Expects]
    simp [named, waiting]
  have different : CorrelationId.drawn 0 ≠ CorrelationId.drawn 1 := by decide
  have settled : ¬ insisted.calls.Expects stopRequest := by
    rw [expects]
    exact fun same => different (Option.some.inj same)
  have first : ∀ frame ∈ insisted.link.backlog,
      frame.requestId = some (CorrelationId.drawn 0) := by
    intro frame member
    have inQueued := List.mem_map_of_mem (f := fun frame : Outbound => frame.requestId) member
    rw [queued] at inQueued
    simpa using inQueued
  have pruned : insisted.link.backlog.filter insisted.calls.Expects = [] := by
    refine List.filter_eq_nil_iff.2 fun frame member expected => ?_
    rw [decide_eq_true_iff, expects, first frame member] at expected
    exact different (Option.some.inj expected)
  obtain ⟨stopTaken, -, -⟩ := sends stopRequest
  obtain ⟨goTaken, goQueued, -⟩ := sends goRequest
  have taken : (insisted.send goRequest).2 = true := goTaken.2 ⟨rfl, (expects _).2 rfl⟩
  obtain ⟨frame, inBacklog⟩ := List.exists_mem_of_length_pos (length ▸ Nat.two_pos)
  refine ⟨rfl, reached, noSession, insisted_tended, alive, none, length, ?_, taken, ?_, ?_⟩
  · exact Bool.eq_false_iff.2 fun stops => settled (stopTaken.1 stops).2
  · rw [(goQueued taken).1, pruned]
    rfl
  · exact (discards _).2.2 ⟨frame, inBacklog, first frame inBacklog⟩

end Client

end Switchboard
