/-
# Switchboard.Proofs.ServerView -- what the server knows of the topics

In each session the server learns of topics from the frames that it receives: an
announcement adds the topic's wire form, a withdrawal takes it out
(`Client.serverView`).  Frames come from the prologue and, through the channel, from
handlers that are registered and released in the meantime, also while the observers
are told of the new session and before the prologue has read the topics.

What holds all the time is about what the server will know once the prologue and the
channel are written (`Client.promised`): the topics that are registered now, and
perhaps more if withdrawals are not announced (`Client.Informed`).  A registration or
a release changes both sides at its own topic only.

* `serverView_agrees`: with the prologue over and the channel empty, the server knows
  the registered topics.
-/
import Mathlib
import Switchboard.Proofs.Paths
import Switchboard.Proofs.Registry
import Switchboard.Proofs.WireForm

namespace Switchboard

set_option autoImplicit false

/-- What a server knows of topics once it has received one more frame. -/
def Outbound.hears (view : Finset String) : Outbound → Finset String
  | .subscribe topic => insert topic.wire view
  | .unsubscribe topic => view.erase topic.wire
  | .request _ _ _ _ | .pong _ => view

/-- What a server knows of topics from the frames that were written in a session. -/
def Sent.view (session : Nat) (written : List Sent) : Finset String :=
  ((written.filter (fun sent => sent.session = session)).map (·.frame)).foldl Outbound.hears ∅

theorem Sent.view_put (session : Nat) (written : List Sent) (frame : Outbound) :
    view session (written ++ [⟨session, frame⟩]) = frame.hears (view session written) := by
  simp [view]

/-- Nothing is known of topics in a session that has written nothing. -/
theorem Sent.view_of_earlier {session : Nat} {written : List Sent}
    (earlier : ∀ sent ∈ written, sent.session ≠ session) : view session written = ∅ := by
  have none : written.filter (fun sent => sent.session = session) = [] := by
    simpa [List.filter_eq_nil_iff] using earlier
  rw [view, none]
  rfl

namespace Client

variable {κ ω : Type}

/-- What the server knows of topics from the frames of the current session. -/
def serverView (client : Client κ ω) : Finset String :=
  Sent.view client.link.sessions client.link.written

/-- The wire forms of the registered topics. -/
def wires (client : Client κ ω) : Finset String :=
  (client.subscriptions.topics.map Topic.wire).toFinset

/-- What the server will know once the prologue is over. -/
def announced (client : Client κ ω) : Finset String :=
  match client.link.prologue with
  | .unread => client.wires
  | .announcing left => client.serverView ∪ (left.map Topic.wire).toFinset
  | .flushing _ | .complete => client.serverView

/-- What the server will know once these frames of the channel are written as well. -/
def promised (client : Client κ ω) (queue : List Outbound) : Finset String :=
  queue.foldl Outbound.hears client.announced

/-! ## Hearing frames -/

theorem mem_hears_congr {wire : String} {left right : Finset String}
    (same : wire ∈ left ↔ wire ∈ right) (frame : Outbound) :
    wire ∈ frame.hears left ↔ wire ∈ frame.hears right := by
  cases frame with
  | subscribe topic => simp [Outbound.hears, same]
  | unsubscribe topic => simp [Outbound.hears, same]
  | request | pong => exact same

/-- Whether a wire form is known in the end depends on whether that one was known at first. -/
theorem mem_foldl_hears_congr {wire : String} (frames : List Outbound) {left right : Finset String}
    (same : wire ∈ left ↔ wire ∈ right) :
    wire ∈ frames.foldl Outbound.hears left ↔ wire ∈ frames.foldl Outbound.hears right := by
  induction frames generalizing left right with
  | nil => exact same
  | cons frame frames ih => exact ih (mem_hears_congr same frame)

theorem hears_request {frame : Outbound} (request : frame.isRequest = true)
    (view : Finset String) : frame.hears view = view := by
  cases frame with
  | request => rfl
  | subscribe | unsubscribe | pong => simp [Outbound.isRequest, Outbound.requestId] at request

theorem foldl_hears_requests {frames : List Outbound}
    (requests : ∀ frame ∈ frames, frame.isRequest = true) (view : Finset String) :
    frames.foldl Outbound.hears view = view := by
  induction frames with
  | nil => rfl
  | cons frame frames ih =>
      rw [List.foldl_cons, hears_request (requests frame List.mem_cons_self)]
      exact ih fun other member => requests other (List.mem_cons_of_mem _ member)

theorem mem_wires (client : Client κ ω) (wire : String) :
    wire ∈ client.wires ↔ ∃ topic ∈ client.subscriptions.held, topic.wire = wire := by
  simp [wires, Subscriptions.mem_topics]

/-- A frame that is written now is heard now. -/
theorem serverView_wrote (client : Client κ ω) (frame : Outbound) :
    (client.wrote frame).serverView = frame.hears client.serverView :=
  Sent.view_put _ _ frame

/-- An act that subscribes to canonical topics only. -/
def Act.Canonical : Act κ ω → Prop
  | .subscribe topic _ => topic.Canonical
  | _ => True

/-! ## The invariant -/

/-- The server will know what is registered: exactly that if withdrawals are announced, and at least
that otherwise. -/
def Agrees (client : Client κ ω) : Prop :=
  ∀ queue, client.link.channel = some queue → ∀ wire,
    (client.options.notifyUnsubscribe = true →
      (wire ∈ client.promised queue ↔ wire ∈ client.wires)) ∧
      (wire ∈ client.wires → wire ∈ client.promised queue)

/-- What every move keeps of a client whose topics are canonical. -/
structure Informed (client : Client κ ω) : Prop where
  canonical : ∀ topic ∈ client.subscriptions.held, topic.Canonical
  sessions : ∀ sent ∈ client.link.written, sent.session ≤ client.link.sessions
  unread : client.link.prologue = .unread → client.serverView = ∅
  backlog : ∀ frame ∈ client.link.backlog, frame.isRequest = true
  flushing : ∀ left, client.link.prologue = .flushing left → ∀ frame ∈ left, frame.isRequest = true
  agrees : client.Agrees

variable {client after : Client κ ω}

theorem serverView_calm (calm : client.Calm after) : after.serverView = client.serverView := by
  simp [serverView, calm.written, calm.sessions]

theorem mem_announced_calm (calm : client.Calm after) {wire : String}
    (same : wire ∈ after.wires ↔ wire ∈ client.wires) :
    wire ∈ after.announced ↔ wire ∈ client.announced := by
  unfold announced
  rw [calm.prologue, serverView_calm calm]
  split
  · exact same
  · rfl
  · rfl
  · rfl

/-- An act keeps the invariant if it keeps what it can change of it. -/
theorem Informed.calm (informed : client.Informed) (calm : client.Calm after)
    (canonical : ∀ topic ∈ after.subscriptions.held, topic.Canonical)
    (backlog : ∀ frame ∈ after.link.backlog, frame.isRequest = true) (agrees : after.Agrees) :
    after.Informed where
  canonical := canonical
  sessions := by
    rw [calm.written, calm.sessions]
    exact informed.sessions
  unread begun := (serverView_calm calm).trans (informed.unread (calm.prologue.symm.trans begun))
  backlog := backlog
  flushing left begun := informed.flushing left (calm.prologue.symm.trans begun)
  agrees := agrees

/-! ## The backlog holds requests -/

theorem holdAll_requests (left : List Outbound)
    (requests : ∀ other ∈ client.link.backlog, other.isRequest = true) :
    ∀ other ∈ (client.holdAll left).link.backlog, other.isRequest = true := by
  intro other member
  rcases holdAll_origin member with before | ⟨-, live⟩
  · exact requests other before
  · exact isRequest_of_isLive live

/-! ## Acts -/

/-- Frames that say nothing of topics do not matter while the registered topics stay the same. -/
theorem Agrees.silent (agrees : client.Agrees) (calm : client.Calm after)
    (wires : ∀ wire, wire ∈ after.wires ↔ wire ∈ client.wires) (frames : List Outbound)
    (silent : ∀ view, frames.foldl Outbound.hears view = view)
    (channel : after.link.channel = client.link.channel.map (· ++ frames)) : after.Agrees := by
  intro queue open' wire
  rw [channel, Option.map_eq_some_iff] at open'
  obtain ⟨before, open', rfl⟩ := open'
  have same : wire ∈ after.promised (before ++ frames) ↔ wire ∈ client.promised before := by
    rw [promised, List.foldl_append, silent]
    exact mem_foldl_hears_congr before (mem_announced_calm calm (wires wire))
  rw [same, wires wire, calm.options]
  exact agrees before open' wire

/-- A registration or a release changes what is registered, and what will be known, at its own wire
form only. -/
theorem Agrees.at_wire (agrees : client.Agrees) (calm : client.Calm after) (here : String)
    (others : ∀ wire, wire ≠ here → (wire ∈ after.wires ↔ wire ∈ client.wires))
    {frames : List Outbound}
    (elsewhere : ∀ view wire, wire ≠ here →
      (wire ∈ frames.foldl Outbound.hears view ↔ wire ∈ view))
    (told : ∀ view, (client.options.notifyUnsubscribe = true →
        (here ∈ frames.foldl Outbound.hears view ↔ here ∈ after.wires)) ∧
      (here ∈ after.wires → here ∈ frames.foldl Outbound.hears view))
    (channel : after.link.channel = client.link.channel.map (· ++ frames)) : after.Agrees := by
  intro queue open' wire
  rw [channel, Option.map_eq_some_iff] at open'
  obtain ⟨before, open', rfl⟩ := open'
  rw [promised, List.foldl_append, calm.options]
  by_cases same : wire = here
  · exact same ▸ told _
  · have known : wire ∈ before.foldl Outbound.hears after.announced ↔
        wire ∈ client.promised before :=
      mem_foldl_hears_congr before (mem_announced_calm calm (others wire same))
    rw [elsewhere _ wire same, known, others wire same]
    exact agrees before open' wire

/-- What is about calls at most leaves the topics alone. -/
theorem Informed.requests (informed : client.Informed) (calm : client.Calm after)
    (subscriptions : after.subscriptions = client.subscriptions)
    (backlog : ∀ frame ∈ after.link.backlog, frame.isRequest = true) (frames : List Outbound)
    (requests : ∀ frame ∈ frames, frame.isRequest = true)
    (channel : after.link.channel = client.link.channel.map (· ++ frames)) : after.Informed := by
  refine informed.calm calm (subscriptions ▸ informed.canonical) backlog ?_
  refine informed.agrees.silent calm (fun wire => ?_) frames (foldl_hears_requests requests) channel
  simp [mem_wires, subscriptions]

/-- What changes neither topics nor link keeps the invariant. -/
theorem Informed.of_link (informed : client.Informed) (calm : client.Calm after)
    (subscriptions : after.subscriptions = client.subscriptions)
    (link : after.link = client.link) : after.Informed :=
  informed.requests calm subscriptions (link ▸ informed.backlog) [] (by simp) (by simp [link])

theorem announce_channel (coherent : client.Coherent) (topic : Topic) :
    (client.announce topic).subscriptions = client.subscriptions ∧
      (client.announce topic).link.channel =
        client.link.channel.map (· ++ [.subscribe topic]) := by
  unfold announce
  rw [coherent.up]
  rcases coherent.send_cases (.subscribe topic) with ⟨queue, channel, sent⟩ | ⟨channel, -⟩
  · simp [channel, sent]
  · simp [channel]

theorem withdraw_channel (coherent : client.Coherent) (topic : Topic) :
    (client.withdraw topic).subscriptions = client.subscriptions ∧
      (client.withdraw topic).link.channel = client.link.channel.map
        (· ++ if client.options.notifyUnsubscribe then [.unsubscribe topic] else []) := by
  unfold withdraw
  rw [coherent.up]
  rcases coherent.send_cases (.unsubscribe topic) with ⟨queue, channel, sent⟩ | ⟨channel, -⟩
  · cases client.options.notifyUnsubscribe <;> simp [channel, sent]
  · simp [channel]

/-- What registering a handler does before anything is announced. -/
theorem register_spec {registered : Client κ ω} {topic : Topic} {callback : κ} {handle : HandleId}
    {first : Bool} (result : client.register topic callback = (registered, handle, first)) :
    client.Calm registered ∧ registered.link = client.link ∧
      (∀ other, other ∈ registered.subscriptions.held ↔
        other = topic ∨ other ∈ client.subscriptions.held) ∧
      (first = false → topic ∈ client.subscriptions.held) := by
  have calm := client.register_calm topic callback
  simp only [register, drawHandle, Prod.mk.injEq] at result
  obtain ⟨rfl, rfl, rfl⟩ := result
  exact ⟨calm, rfl, client.subscriptions.mem_held_subscribe _ topic callback,
    Subscriptions.held_of_not_first⟩

theorem Informed.subscribe (informed : client.Informed) (coherent : client.Coherent) {topic : Topic}
    (canonical : topic.Canonical) (callback : κ) :
    (client.subscribe topic callback).1.Informed := by
  have calm := client.subscribe_calm topic callback
  have backlog : ∀ frame ∈ (client.subscribe topic callback).1.link.backlog,
      frame.isRequest = true :=
    (client.subscribe_bystander topic callback).backlog ▸ informed.backlog
  by_cases empty : topic.isEmpty = true
  · simpa [Client.subscribe, empty] using informed
  obtain ⟨registered, handle, first, result⟩ : ∃ registered handle first,
      client.register topic callback = (registered, handle, first) := ⟨_, _, _, rfl⟩
  obtain ⟨registeredCalm, link, held, notFirst⟩ := register_spec result
  cases first with
  | false =>
      have after : (client.subscribe topic callback).1 = registered := by
        simp [Client.subscribe, empty, result]
      rw [after] at calm backlog ⊢
      have same : ∀ other, other ∈ registered.subscriptions.held ↔
          other ∈ client.subscriptions.held := by
        intro other
        rw [held, or_iff_right_iff_imp]
        rintro rfl
        exact notFirst rfl
      refine informed.calm calm (fun other member => ?_) backlog ?_
      · exact informed.canonical other ((same other).1 member)
      · refine informed.agrees.silent calm (fun wire => ?_) [] (fun _ => rfl) ?_
        · simp [mem_wires, same]
        · simp [link]
  | true =>
      have after : (client.subscribe topic callback).1 = registered.announce topic := by
        simp [Client.subscribe, empty, result]
      rw [after] at calm backlog ⊢
      obtain ⟨subscriptions, channel⟩ := announce_channel (coherent.calm registeredCalm) topic
      rw [link] at channel
      refine informed.calm calm (fun other member => ?_) backlog ?_
      · rw [subscriptions, held] at member
        rcases member with same | before
        · exact same ▸ canonical
        · exact informed.canonical other before
      · have wires : ∀ wire, wire ∈ (registered.announce topic).wires ↔
            wire = topic.wire ∨ wire ∈ client.wires := by
          intro wire
          simp only [mem_wires, subscriptions, held]
          constructor
          · rintro ⟨other, same | before, rfl⟩
            · exact .inl (congrArg Topic.wire same)
            · exact .inr ⟨other, before, rfl⟩
          · rintro (rfl | ⟨other, before, rfl⟩)
            · exact ⟨topic, .inl rfl, rfl⟩
            · exact ⟨other, .inr before, rfl⟩
        refine informed.agrees.at_wire calm topic.wire (fun wire different => ?_)
          (fun view wire different => ?_) (fun view => ?_) channel
        · simp [wires, different]
        · simp [Outbound.hears, different]
        · simp [Outbound.hears, wires]

/-- What releasing a handle does to the topics: nothing, or a topic goes with its last handler, and
its withdrawal goes to the channel if the options say so. -/
theorem unsubscribe_topics (coherent : client.Coherent) (handle : HandleId) :
    ((client.unsubscribe handle).1.subscriptions.held = client.subscriptions.held ∧
        (client.unsubscribe handle).1.link.channel = client.link.channel) ∨
      ∃ topic ∈ client.subscriptions.held,
        (∀ other, other ∈ (client.unsubscribe handle).1.subscriptions.held ↔
          other ∈ client.subscriptions.held ∧ other ≠ topic) ∧
        (client.unsubscribe handle).1.link.channel = client.link.channel.map
          (· ++ if client.options.notifyUnsubscribe then [.unsubscribe topic] else []) := by
  rcases client.unsubscribe_cases handle with after | ⟨after, notLast⟩ | ⟨topic, last, after⟩
  · rw [after]
    exact .inl ⟨rfl, rfl⟩
  · rw [after]
    exact .inl ⟨Subscriptions.held_unsubscribe_not_last notLast, rfl⟩
  · obtain ⟨released, isReleased⟩ : ∃ released,
      released = ((client.unobserve handle).1.release handle).1 := ⟨_, rfl⟩
    have calm : client.Calm released :=
      isReleased ▸ (client.unobserve_calm handle).trans (release_calm handle _)
    have link : released.link = client.link := isReleased ▸ rfl
    obtain ⟨member, held⟩ : topic ∈ client.subscriptions.held ∧ ∀ other,
        other ∈ released.subscriptions.held ↔ other ∈ client.subscriptions.held ∧ other ≠ topic :=
      isReleased ▸ Subscriptions.held_unsubscribe_last last
    obtain ⟨subscriptions, channel⟩ := withdraw_channel (coherent.calm calm) topic
    rw [after, ← isReleased]
    rw [link, calm.options] at channel
    exact .inr ⟨topic, member, fun other => subscriptions ▸ held other, channel⟩

theorem Informed.unsubscribe (informed : client.Informed) (coherent : client.Coherent)
    (handle : HandleId) : (client.unsubscribe handle).1.Informed := by
  have calm := client.unsubscribe_calm handle
  have backlog : ∀ frame ∈ (client.unsubscribe handle).1.link.backlog, frame.isRequest = true :=
    (client.unsubscribe_bystander handle).backlog ▸ informed.backlog
  rcases unsubscribe_topics coherent handle with ⟨same, channel⟩ | ⟨topic, member, held, channel⟩
  · refine informed.calm calm (same ▸ informed.canonical) backlog ?_
    refine informed.agrees.silent calm (fun wire => ?_) [] (fun _ => rfl) (by simp [channel])
    simp [mem_wires, same]
  · refine informed.calm calm (fun other stays => ?_) backlog ?_
    · exact informed.canonical other ((held other).1 stays).1
    -- canonical topics have different wire forms
    · have wires : ∀ wire, wire ∈ (client.unsubscribe handle).1.wires ↔
          wire ∈ client.wires ∧ wire ≠ topic.wire := by
        intro wire
        simp only [mem_wires, held]
        constructor
        · rintro ⟨other, ⟨before, different⟩, rfl⟩
          refine ⟨⟨other, before, rfl⟩, fun same => different ?_⟩
          exact Topic.wire_injective (informed.canonical other before)
            (informed.canonical topic member) same
        · rintro ⟨⟨other, before, rfl⟩, different⟩
          exact ⟨other, ⟨before, fun same => different (congrArg Topic.wire same)⟩, rfl⟩
      refine informed.agrees.at_wire calm topic.wire (fun wire different => ?_)
        (fun view wire different => ?_) (fun view => ?_) channel
      · simp [wires, different]
      · split <;> simp [Outbound.hears, different]
      · cases client.options.notifyUnsubscribe <;> simp [Outbound.hears, wires]

theorem Informed.aside (informed : client.Informed) (coherent : client.Coherent) {act : Act κ ω}
    (canonical : act.Canonical) (aside : act.isAside = true) : (act.perform client).Informed := by
  cases act with
  | subscribe topic callback => exact informed.subscribe coherent canonical callback
  | unsubscribe handle => exact informed.unsubscribe coherent handle
  | enlist callback => exact informed.of_link (perform_calm (.enlist callback) client) rfl rfl
  | setToken token => exact informed.of_link (perform_calm (.setToken token) client) rfl rfl
  | note desk => exact informed.of_link (perform_calm (.note desk) client) rfl rfl
  | call | cancel | conclude | expire | abandon => simp [Act.isAside] at aside

/-! ## Calls -/

theorem Informed.handOver (informed : client.Informed) (coherent : client.Coherent)
    {issued : Issued} (books : client.Books issued) (limit : Option Span) :
    (client.handOver issued limit).Informed := by
  have calm := client.handOver_calm issued limit
  have request : issued.request.isRequest = true := rfl
  rcases coherent.handOver_cases books limit with
    ⟨queue, channel, sent⟩ | ⟨channel, ⟨-, held⟩ | ⟨-, lost⟩⟩
  · rw [sent] at calm ⊢
    exact informed.requests calm rfl informed.backlog [issued.request]
      (by simpa using request) (by simp [channel])
  · rw [held] at calm ⊢
    refine informed.requests calm rfl (fun frame member => ?_) [] (by simp) (by simp)
    rcases List.mem_append.1 member with kept | added
    · exact informed.backlog frame (List.mem_filter.1 kept).1
    · obtain rfl : frame = issued.request := by simpa using added
      exact request
  · rw [lost] at calm ⊢
    exact informed.requests calm rfl informed.backlog [] (by simp) (by simp [book])

theorem Informed.depart (informed : client.Informed) (ticket : Nat) (id : CorrelationId)
    (told : Option Outcome) : (client.depart ticket id told).Informed :=
  informed.requests (depart_calm ticket id told client) rfl
    (fun frame member => informed.backlog frame (List.mem_filter.1 member).1) []
    (by simp) (by simp [Client.depart, releaseCall, discard, Link.discard])

theorem Informed.cancel (informed : client.Informed) (id : CorrelationId) :
    (client.cancel id).1.Informed :=
  informed.requests (client.cancel_calm id) rfl
    (fun frame member => informed.backlog frame (List.mem_filter.1 member).1) []
    (by simp) (by simp [Client.cancel, discard, Link.discard])

theorem Informed.failUnsent (informed : client.Informed) (issued : Issued) :
    (client.failUnsent issued).Informed := by
  have booked : (client.book issued).Informed := informed.of_link (client.book_calm issued) rfl rfl
  exact booked.depart _ _ _

/-! ## The driver -/

/-- A step of the driver that leaves channel and topics alone keeps the promise if it keeps what the
server will know after the prologue. -/
theorem Agrees.of_announced (agrees : client.Agrees)
    (channel : after.link.channel = client.link.channel) (options : after.options = client.options)
    (subscriptions : after.subscriptions = client.subscriptions)
    (announced : after.announced = client.announced) : after.Agrees := by
  intro queue session wire
  rw [channel] at session
  have wires : after.wires = client.wires := by rw [wires, wires, subscriptions]
  rw [promised, announced, wires, options]
  exact agrees queue session wire

/-- Without a channel there is nothing to agree on. -/
theorem Agrees.of_none (none : after.link.channel = none) : after.Agrees := by
  intro queue session
  simp [none] at session

theorem sessions_put {frame : Outbound}
    (sessions : ∀ sent ∈ client.link.written, sent.session ≤ client.link.sessions) :
    ∀ sent ∈ client.link.written ++ [⟨client.link.sessions, frame⟩],
      sent.session ≤ client.link.sessions := by
  intro sent member
  rcases List.mem_append.1 member with before | now
  · exact sessions sent before
  · obtain rfl : sent = ⟨client.link.sessions, frame⟩ := by simpa using now
    exact Nat.le_refl _

/-- A session begins in which nothing has been written. -/
theorem Informed.install (informed : client.Informed) (room : Option Nat) :
    ((client.openSession room).moveTo .connected).Informed := by
  have earlier : ∀ sent ∈ client.link.written, sent.session ≠ client.link.sessions + 1 :=
    fun sent member => Nat.ne_of_lt (Nat.lt_succ_of_le (informed.sessions sent member))
  refine ⟨informed.canonical, fun sent member => ?_, fun _ => ?_, informed.backlog, ?_, ?_⟩
  · exact Nat.le_succ_of_le (informed.sessions sent member)
  · exact Sent.view_of_earlier earlier
  · intro left begun
    simp [moveTo, openSession] at begun
  · intro queue session wire
    obtain rfl : [] = queue := by simpa [moveTo, openSession] using session
    have promised : ((client.openSession room).moveTo .connected).promised [] =
        ((client.openSession room).moveTo .connected).wires := rfl
    simp [promised]

/-! ### What the server will know stays the same -/

/-- The prologue announces exactly the topics that are registered when it reads them. -/
theorem announced_read (unread : client.link.prologue = .unread)
    (nothing : client.serverView = ∅) :
    (client.setPrologue (.announcing client.subscriptions.topics)).announced =
      client.announced := by
  have nothing : (client.setPrologue (.announcing client.subscriptions.topics)).serverView = ∅ :=
    nothing
  rw [announced, announced, unread]
  simp only [setPrologue] at nothing ⊢
  rw [nothing, Finset.empty_union]
  rfl

theorem announced_announce {topic : Topic} {left : List Topic}
    (begun : client.link.prologue = .announcing (topic :: left)) :
    ((client.setPrologue (.announcing left)).wrote (.subscribe topic)).announced =
      client.announced := by
  have heard : ((client.setPrologue (.announcing left)).wrote (.subscribe topic)).serverView =
      insert topic.wire client.serverView :=
    (client.setPrologue (.announcing left)).serverView_wrote (.subscribe topic)
  have before : client.announced =
      client.serverView ∪ ((topic :: left).map Topic.wire).toFinset := by
    rw [announced, begun]
  rw [before, List.map_cons, List.toFinset_cons, Finset.union_insert, ← Finset.insert_union,
    ← heard]
  rfl

theorem announced_unload (begun : client.link.prologue = .announcing []) :
    client.unload.announced = client.announced := by
  have before : client.announced = client.serverView ∪ ∅ := by
    rw [announced, begun]
    rfl
  rw [before, Finset.union_empty]
  rfl

theorem serverView_flush {frame : Outbound} (request : frame.isRequest = true)
    (left : List Outbound) :
    ((client.setPrologue (.flushing left)).wrote frame).serverView = client.serverView :=
  ((client.setPrologue (.flushing left)).serverView_wrote frame).trans (hears_request request _)

theorem announced_flush {frame : Outbound} {left : List Outbound}
    (begun : client.link.prologue = .flushing (frame :: left)) (request : frame.isRequest = true) :
    ((client.setPrologue (.flushing left)).wrote frame).announced = client.announced := by
  have before : client.announced = client.serverView := by rw [announced, begun]
  rw [before, ← serverView_flush request left]
  rfl

theorem announced_finish (begun : client.link.prologue = .flushing []) :
    (client.setPrologue .complete).announced = client.announced := by
  have before : client.announced = client.serverView := by rw [announced, begun]
  rw [before]
  rfl

/-- What is written from the channel is known now instead of later. -/
theorem promised_emit {frame : Outbound} (complete : client.link.prologue = .complete)
    (queue : List Outbound) :
    ((client.setChannel queue).wrote frame).promised queue = client.promised (frame :: queue) := by
  have heard : ((client.setChannel queue).wrote frame).serverView =
      frame.hears client.serverView := (client.setChannel queue).serverView_wrote frame
  have still : ((client.setChannel queue).wrote frame).link.prologue = .complete := complete
  rw [promised, promised, announced, announced, still, complete, heard]
  rfl

/-! ### The driver keeps the invariant -/

theorem Informed.read (informed : client.Informed) (unread : client.link.prologue = .unread) :
    (client.setPrologue (.announcing client.subscriptions.topics)).Informed := by
  refine ⟨informed.canonical, informed.sessions, ?_, informed.backlog, ?_, ?_⟩
  · simp [setPrologue]
  · simp [setPrologue]
  · exact informed.agrees.of_announced rfl rfl rfl
      (announced_read unread (informed.unread unread))

theorem Informed.announce (informed : client.Informed) {topic : Topic} {left : List Topic}
    (begun : client.link.prologue = .announcing (topic :: left)) :
    ((client.setPrologue (.announcing left)).wrote (.subscribe topic)).Informed := by
  refine ⟨informed.canonical, sessions_put informed.sessions, ?_, informed.backlog, ?_, ?_⟩
  · simp [wrote, Link.put, setPrologue]
  · simp [wrote, Link.put, setPrologue]
  · exact informed.agrees.of_announced rfl rfl rfl (announced_announce begun)

theorem Informed.unload (informed : client.Informed)
    (begun : client.link.prologue = .announcing []) : client.unload.Informed := by
  refine ⟨informed.canonical, informed.sessions, ?_, ?_, fun left flushing => ?_, ?_⟩
  · simp [Client.unload]
  · simp [Client.unload]
  · obtain rfl : client.link.backlog.filter client.isLive = left := by
      simpa [Client.unload] using flushing
    exact fun frame member => informed.backlog frame (List.mem_filter.1 member).1
  · exact informed.agrees.of_announced rfl rfl rfl (announced_unload begun)

theorem Informed.flush (informed : client.Informed) {frame : Outbound} {left : List Outbound}
    (begun : client.link.prologue = .flushing (frame :: left)) :
    ((client.setPrologue (.flushing left)).wrote frame).Informed := by
  have requests := informed.flushing _ begun
  refine ⟨informed.canonical, sessions_put informed.sessions, ?_, informed.backlog, ?_, ?_⟩
  · simp [wrote, Link.put, setPrologue]
  · intro other flushing
    obtain rfl : left = other := by simpa [wrote, Link.put, setPrologue] using flushing
    exact fun other member => requests other (List.mem_cons_of_mem _ member)
  · exact informed.agrees.of_announced rfl rfl rfl
      (announced_flush begun (requests frame List.mem_cons_self))

theorem Informed.finish (informed : client.Informed)
    (begun : client.link.prologue = .flushing []) : (client.setPrologue .complete).Informed := by
  refine ⟨informed.canonical, informed.sessions, ?_, informed.backlog, ?_, ?_⟩
  · simp [setPrologue]
  · simp [setPrologue]
  · exact informed.agrees.of_announced rfl rfl rfl (announced_finish begun)

theorem Informed.emit (informed : client.Informed) {frame : Outbound} {queue : List Outbound}
    (complete : client.link.prologue = .complete)
    (session : client.link.channel = some (frame :: queue)) :
    ((client.setChannel queue).wrote frame).Informed := by
  have still : ((client.setChannel queue).wrote frame).link.prologue = .complete := complete
  refine ⟨informed.canonical, sessions_put informed.sessions, ?_, informed.backlog, ?_, ?_⟩
  · simp [still]
  · simp [still]
  · intro left session' wire
    obtain rfl : queue = left := by simpa [wrote, Link.put, setChannel] using session'
    rw [promised_emit complete]
    exact informed.agrees (frame :: queue) session wire

theorem Informed.answer (informed : client.Informed) (id : String) :
    (client.wrote (.pong id)).Informed := by
  have heard : (client.wrote (.pong id)).serverView = client.serverView :=
    client.serverView_wrote (.pong id)
  refine ⟨informed.canonical, sessions_put informed.sessions, fun unread => ?_, informed.backlog,
    informed.flushing, ?_⟩
  · exact heard.trans (informed.unread unread)
  · refine informed.agrees.of_announced rfl rfl rfl ?_
    rw [announced, announced, heard]
    rfl

theorem Informed.detach (informed : client.Informed) (queue : List Outbound) :
    ((Move.detach queue).apply client).Informed := by
  have requests : ∀ other ∈ (client.unplugged.holdAll queue).link.backlog,
      other.isRequest = true := holdAll_requests queue informed.backlog
  rw [apply_detach]
  refine ⟨informed.canonical, informed.sessions, ?_, requests, ?_, .of_none rfl⟩
  · simp [unplugged]
  · simp [unplugged]

/-- **Every move keeps the invariant**, as long as topics are canonical. -/
theorem Informed.move (informed : client.Informed) (coherent : client.Coherent) {move : Move κ ω}
    (fits : move.Fits ⟨Act.Canonical, fun _ => True⟩ client) : (move.apply client).Informed := by
  cases move with
  | aside act => exact informed.aside coherent fits.1 fits.2
  | call issued limit => exact informed.handOver coherent fits.2 limit
  | unsent issued => exact informed.failUnsent issued
  | cancel id => exact informed.cancel id
  | depart awaited farewell => exact informed.depart _ _ _
  | steer phase state endpoint backoff delay =>
      exact ⟨informed.canonical, informed.sessions, informed.unread, informed.backlog,
        informed.flushing, .of_none fits.1⟩
  | install room => exact informed.install room
  | read => exact informed.read fits
  | announce topic left => exact informed.announce fits.1
  | unload => exact informed.unload fits
  | flush frame left => exact informed.flush fits.1
  | finish => exact informed.finish fits
  | emit frame queue => exact informed.emit fits.1 fits.2.1
  | answer id => exact informed.answer id
  | settle id reply =>
      exact ⟨informed.canonical, informed.sessions, informed.unread, informed.backlog,
        informed.flushing, informed.agrees⟩
  | detach queue => exact informed.detach queue
  | failAll =>
      exact ⟨informed.canonical, informed.sessions, informed.unread, informed.backlog,
        informed.flushing, informed.agrees⟩
  | clear =>
      exact ⟨informed.canonical, informed.sessions, informed.unread,
        by simp [Move.apply, rejectAll], informed.flushing, .of_none fits.2⟩

theorem start_informed (options : Options) (token : Option Json) (candidate : Nat → CorrelationId)
    (desk : ω) : (start options token candidate desk : Client κ ω).Informed where
  canonical := by simp [start, new, Subscriptions.held]
  sessions := by simp [start, new]
  unread _ := rfl
  backlog := by simp [start, new]
  flushing := by simp [start, new]
  agrees := .of_none rfl

/-! ## Runs -/

/-- **While a session has nothing left to write, its server knows the registered topics.**  In every
run with canonical topics, whatever callbacks do when they are told something: if the link is up,
the prologue over and the channel empty, then what the server knows from the frames of this
session are at least the registered topics, and exactly these if withdrawals are announced.  A
write that fails ends its session, so nothing has to be said about writes. -/
theorem serverView_agrees {behave : Behaviour κ ω} (within : behave.Within Act.Canonical)
    {events : List (Event κ ω)}
    (canonical : ∀ event ∈ events, event.Within ⟨Act.Canonical, fun _ => True⟩)
    (options : Options) (token : Option Json) (candidate : Nat → CorrelationId) (desk : ω) :
    let client := run behave events (start options token candidate desk)
    client.state = .connected → client.link.prologue = .complete → client.link.channel = some [] →
      (options.notifyUnsubscribe = true → client.serverView = client.wires) ∧
        client.wires ⊆ client.serverView := by
  intro client _ complete drained
  obtain ⟨moves, path⟩ := run_path within canonical options token candidate desk
  have coherent := (start_poised (κ := κ) options token candidate desk).toCoherent
  have informed : client.Informed :=
    path.preserves (fun _ _ coherent informed fits => informed.move coherent fits) coherent
      (start_informed options token candidate desk)
  have constant : client.options = options := path.options
  have view : client.promised [] = client.serverView := by
    rw [promised, announced, complete]
    rfl
  have agrees := informed.agrees [] drained
  rw [view, constant] at agrees
  exact ⟨fun notify => Finset.ext fun wire => (agrees wire).1 notify, fun wire => (agrees wire).2⟩

/-- An observer that listens to one more topic whenever the link comes up. -/
def joining (topic : Topic) : Behaviour Unit Unit := fun callback signal client =>
  match signal with
  | .alive true => ((client.subscribe topic callback).1, .returned)
  | _ => (client, .returned)

theorem joining_within {topic : Topic} (canonical : topic.Canonical) :
    (joining topic).Within Act.Canonical := by
  intro callback signal client
  unfold joining
  split
  · exact ⟨[.subscribe topic callback], by simpa [Act.Canonical] using canonical, rfl⟩
  · exact ⟨[], by simp, rfl⟩

/-- A first session, which announces the topic of the observer twice. -/
def firstSession : List (Event Unit Unit) :=
  [.observe (), .act (.subscribe ⟨["news"]⟩ ()), .connect true "ws://a", .attempt, .opened,
    .settled none, .proceed, .proceed, .proceed, .proceed, .proceed, .emit]

theorem serverView_firstSession :
    let client := run (joining ⟨["chat"]⟩) firstSession
      (start { notifyUnsubscribe := true } none CorrelationId.drawn ())
    client.subscriptions.topics.map Topic.wire = ["chat", "news"] ∧
      client.link.written.map (·.frame.kind) = ["subscribe", "subscribe", "subscribe"] ∧
      client.serverView = client.wires := by
  intro client
  have within : (joining ⟨["chat"]⟩).Within Act.Canonical :=
    joining_within (by simp [Topic.Canonical])
  have canonical : ∀ event ∈ firstSession, event.Within ⟨Act.Canonical, fun _ => True⟩ := by
    simp [firstSession, Event.Within, Act.Canonical, Topic.Canonical]
  have seen : (fun client : Client Unit Unit =>
      (client.subscriptions.topics.map Topic.wire, client.link.written.map (·.frame.kind),
        client.state, client.link.prologue, client.link.channel))
      (run (joining ⟨["chat"]⟩) firstSession
        (start { notifyUnsubscribe := true } none CorrelationId.drawn ())) =
        (["chat", "news"], ["subscribe", "subscribe", "subscribe"], .connected, .complete,
          some []) := by cbv
  simp only [Prod.mk.injEq] at seen
  obtain ⟨topics, kinds, up, complete, drained⟩ := seen
  refine ⟨topics, kinds, ?_⟩
  exact (serverView_agrees within canonical { notifyUnsubscribe := true } none
    CorrelationId.drawn () up complete drained).1 rfl

end Client

end Switchboard
