/-
# Switchboard.Proofs.Pings -- every ping is echoed, in order

A ping is a message that replies to nothing and goes to the reserved path.  What else
it says does not matter, and no client does more about it than to answer: no handler
is called, and no part of the client changes (`route_ping?`).  The answer carries the
ping's identifier, whatever text that is, and reads back as it was meant
(`Outbound.read_pong`).

Answers are written at once and never wait anywhere (`Client.Prompt`, which every move
keeps).  So one event adds to the answers of a session exactly those to the pings
among the texts it makes the client act upon, or that session is over afterwards
(`step_echoes`); and a session that is over stays so (`Over.run`).

* `every_ping_is_echoed`: one ping, and all the pings of a session in order.
-/
import Switchboard.Proofs.EnvelopeText
import Switchboard.Proofs.Prologue
import Switchboard.Proofs.Requests
import Switchboard.Proofs.ServerView
import Switchboard.Proofs.Teardown
import Switchboard.Proofs.Traffic

namespace Switchboard

set_option autoImplicit false

/-! ## Pings and pongs -/

namespace Inbound

theorem ping?_eq_some_iff (text id : String) :
    ping? text = some id ↔ ∃ envelope, Envelope.read text = .ok envelope ∧
      envelope.replyingTo = none ∧ envelope.path = pingPath ∧ envelope.messageId = id := by
  constructor
  · intro asks
    unfold ping? decode at asks
    cases read : Envelope.read text with
    | error fault => simp [read] at asks
    | ok envelope =>
        refine ⟨envelope, rfl, ?_⟩
        simp only [read] at asks
        unfold classify at asks
        split at asks
        · rename_i replying
          split at replying
          · split at replying <;> cases replying
          · rename_i nothing
            split at replying
            · rename_i path
              cases replying
              exact ⟨nothing, path, Option.some.inj asks⟩
            · dsimp only at replying
              split at replying <;> cases replying
        · cases asks
  · rintro ⟨envelope, read, nothing, path, rfl⟩
    simp [ping?, decode, read, classify_ping envelope nothing path]

theorem decode_of_ping? {text id : String} (asks : ping? text = some id) :
    decode text = .ok (.ping id) := by
  unfold ping? at asks
  split at asks
  · rename_i decoded
    rw [decoded, Option.some.inj asks]
  · cases asks

/-- Any text is the identifier of a ping. -/
theorem ping?_encode (id : String) :
    ping? ({ messageId := id, path := pingPath } : Envelope).encode = some id := by
  refine (ping?_eq_some_iff _ _).2 ⟨{ messageId := id, path := pingPath }, ?_, rfl, rfl, rfl⟩
  rw [Envelope.read_encode ⟨by simp [Envelope.payloads], by simp [Envelope.payloads],
    by simp [Envelope.payloads]⟩]
  rfl

end Inbound

namespace Outbound

/-- Whether a frame answers a ping. -/
def isPong : Outbound → Bool
  | .pong _ => true
  | .subscribe _ | .unsubscribe _ | .request _ _ _ _ => false

/-- **A pong reads back**: it replies to the ping, and carries nothing else. -/
theorem read_pong (id : String) (fresh : CorrelationId) :
    Envelope.read ((Outbound.pong id).encode fresh) =
      .ok { messageId := fresh.text, replyingTo := some id, path := "pong" } := by
  have plain : ((Outbound.pong id).envelope fresh).Plain := by
    constructor <;> simp [envelope, envelopeAs, Envelope.payloads]
  rw [encode, Envelope.read_encode plain]
  rfl

theorem not_isPong_of_isRequest {frame : Outbound} (request : frame.isRequest = true) :
    frame.isPong = false := by
  cases frame with
  | request => rfl
  | subscribe | unsubscribe | pong => simp [isRequest, requestId] at request

end Outbound

/-- The answers to pings that have been written, in order. -/
def Link.pongs (link : Link) : List Sent := link.written.filter (·.frame.isPong)

namespace Client

open Inbound (ping?)

variable {κ ω : Type} {behave : Behaviour κ ω} {client after : Client κ ω}

/-- A ping is answered, and nothing else happens. -/
theorem route_ping? (behave : Behaviour κ ω) {text id : String} (asks : ping? text = some id)
    (client : Client κ ω) : client.route behave text = (client, some (.pong id)) :=
  client.route_ping behave text id (Inbound.decode_of_ping? asks)

/-- No callback is told of a ping. -/
theorem told_ping? (behave : Behaviour κ ω) {text id : String} (asks : ping? text = some id)
    (client : Client κ ω) : client.told behave [text] = [] := by
  simp only [told, routeAll, route_ping? _ asks]
  rfl

/-! ## Answers do not wait -/

/-- None of the frames that are still to be written, in this session or a later one, answers a
ping. -/
structure Prompt (client : Client κ ω) : Prop where
  flushing : ∀ frame ∈ client.link.prologue.unwritten, frame.isPong = false
  channel : ∀ queue, client.link.channel = some queue → ∀ frame ∈ queue, frame.isPong = false
  backlog : ∀ frame ∈ client.link.backlog, frame.isPong = false

namespace Prompt

theorem of_link (prompt : client.Prompt) (link : after.link = client.link) : after.Prompt :=
  ⟨link ▸ prompt.flushing, link ▸ prompt.channel, link ▸ prompt.backlog⟩

theorem hold (prompt : client.Prompt) (frame : Outbound) : (client.hold frame).1.Prompt := by
  rcases client.hold_cases frame with ⟨refused, -⟩ | ⟨live, held⟩
  · exact refused.symm ▸ prompt
  · rw [held]
    refine ⟨prompt.flushing, prompt.channel, fun other member => ?_⟩
    rcases List.mem_append.1 member with kept | last
    · exact prompt.backlog other (List.mem_filter.1 kept).1
    · obtain rfl : other = frame := by simpa using last
      exact Outbound.not_isPong_of_isRequest (isRequest_of_isLive live)

theorem holdAll (prompt : client.Prompt) (left : List Outbound) :
    (client.holdAll left).Prompt := by
  induction left generalizing client with
  | nil => exact prompt
  | cons frame left ih => exact ih (prompt.hold frame)

theorem send (prompt : client.Prompt) {frame : Outbound} (other : frame.isPong = false) :
    (client.send frame).1.Prompt := by
  unfold Client.send
  split
  · rename_i queue session
    split
    · refine ⟨prompt.flushing, fun longer same left member => ?_, prompt.backlog⟩
      obtain rfl : queue ++ [frame] = longer := Option.some.inj same
      rcases List.mem_append.1 member with before | last
      · exact prompt.channel queue session left before
      · obtain rfl : left = frame := by simpa using last
        exact other
    · exact prompt.hold frame
  · exact prompt.hold frame

theorem of_discard (prompt : client.Prompt) {id : CorrelationId}
    (link : after.link = (client.link.discard id).1) : after.Prompt := by
  refine ⟨link ▸ prompt.flushing, link ▸ prompt.channel, fun frame member => ?_⟩
  rw [link] at member
  exact prompt.backlog frame (List.mem_filter.1 member).1

theorem subscribe (prompt : client.Prompt) (topic : Topic) (callback : κ) :
    (client.subscribe topic callback).1.Prompt := by
  have registered : (client.register topic callback).1.Prompt := prompt.of_link rfl
  unfold Client.subscribe announce
  split
  · exact prompt
  · dsimp only
    split
    · split
      · exact registered.send rfl
      · exact registered
    · exact registered

theorem unsubscribe (prompt : client.Prompt) (handle : HandleId) :
    (client.unsubscribe handle).1.Prompt := by
  have released : ((client.unobserve handle).1.release handle).1.Prompt := prompt.of_link rfl
  rcases client.unsubscribe_cases handle with gone | ⟨gone, -⟩ | ⟨topic, -, gone⟩
  · exact gone ▸ prompt.of_link rfl
  · exact gone ▸ released
  · rw [gone, withdraw]
    split
    · exact released.send rfl
    · exact released

theorem aside (prompt : client.Prompt) {act : Act κ ω} (noCall : act.isAside = true) :
    (act.perform client).Prompt := by
  cases act with
  | subscribe topic callback => exact prompt.subscribe topic callback
  | unsubscribe handle => exact prompt.unsubscribe handle
  | enlist | setToken | note => exact prompt.of_link rfl
  | call | cancel | conclude | expire | abandon => simp [Act.isAside] at noCall

/-- **Every move lets no answer wait.** -/
theorem move {licence : Licence κ ω} (prompt : client.Prompt) {move : Move κ ω}
    (fits : move.Fits licence client) : (move.apply client).Prompt := by
  have booked : ∀ issued : Issued, (client.book issued).Prompt := fun _ => prompt.of_link rfl
  have nothing : ∀ frame ∈ ([] : List Outbound), frame.isPong = false := by simp
  cases move with
  | aside act => exact prompt.aside fits.2
  | call issued limit =>
      have sent : ((client.book issued).send issued.request).1.Prompt := (booked issued).send rfl
      exact sent.of_link rfl
  | unsent issued => exact (booked issued).of_discard rfl
  | cancel | depart => exact prompt.of_discard rfl
  | install room =>
      refine ⟨nothing, fun queue opened => ?_, prompt.backlog⟩
      obtain rfl : [] = queue := Option.some.inj opened
      exact nothing
  | read | announce | finish => exact ⟨nothing, prompt.channel, prompt.backlog⟩
  | unload =>
      exact ⟨fun frame member => prompt.backlog frame (List.mem_filter.1 member).1,
        prompt.channel, nothing⟩
  | flush frame left =>
      have flushing := prompt.flushing
      rw [fits.1] at flushing
      exact ⟨fun other member => flushing other (List.mem_cons_of_mem _ member), prompt.channel,
        prompt.backlog⟩
  | emit frame queue =>
      refine ⟨prompt.flushing, fun left session => ?_, prompt.backlog⟩
      obtain rfl : queue = left := Option.some.inj session
      exact fun other member => prompt.channel _ fits.2.1 other (List.mem_cons_of_mem _ member)
  | detach queue =>
      have unplugged : client.unplugged.Prompt :=
        ⟨nothing, by simp [Client.unplugged], prompt.backlog⟩
      exact (unplugged.holdAll queue).of_link rfl
  | clear => exact ⟨prompt.flushing, prompt.channel, nothing⟩
  | steer | answer | settle | failAll => exact ⟨prompt.flushing, prompt.channel, prompt.backlog⟩

theorem start (options : Options) (token : Option Json) (candidate : Nat → CorrelationId)
    (desk : ω) : (start options token candidate desk : Client κ ω).Prompt where
  flushing := by simp [Client.start, new, Prologue.unwritten]
  channel := by simp [Client.start, new]
  backlog := by simp [Client.start, new]

end Prompt

/-! ## Sessions come to an end -/

/-- Sessions are numbered upwards, and a channel is opened with a new one. -/
theorem sessions_move {licence : Licence κ ω} {move : Move κ ω} (fits : move.Fits licence client) :
    client.link.sessions ≤ (move.apply client).link.sessions ∧
      ((move.apply client).link.channel.isSome = true →
        client.link.channel.isSome = true ∨
          client.link.sessions < (move.apply client).link.sessions) := by
  have calm : ∀ {after : Client κ ω}, client.Calm after →
      client.link.sessions ≤ after.link.sessions ∧ (after.link.channel.isSome = true →
        client.link.channel.isSome = true ∨ client.link.sessions < after.link.sessions) :=
    fun calm => ⟨calm.sessions.ge, fun some => .inl (calm.channel_isSome ▸ some)⟩
  cases move with
  | aside act => exact calm (perform_calm act client)
  | call issued limit => exact calm (client.handOver_calm issued limit)
  | unsent issued => exact calm (client.failUnsent_calm issued)
  | cancel id => exact calm (client.cancel_calm id)
  | depart awaited farewell => exact calm (depart_calm _ _ _ _)
  | install room => exact ⟨Nat.le_succ _, fun _ => .inr (Nat.lt_succ_self _)⟩
  | emit frame queue => exact ⟨le_rfl, fun _ => .inl (by simp [fits.2.1])⟩
  | detach queue =>
      rw [apply_detach]
      exact ⟨le_rfl, fun some => by cases some⟩
  | steer | read | announce | unload | flush | finish | answer | settle | failAll | clear =>
      exact ⟨le_rfl, .inl⟩

/-- A session is over: if there is one, it is a later one. -/
def Over (session : Nat) (client : Client κ ω) : Prop :=
  session ≤ client.link.sessions ∧
    (client.link.channel.isSome = true → session < client.link.sessions)

theorem Over.move {session : Nat} (isOver : client.Over session) {licence : Licence κ ω}
    {move : Move κ ω} (fits : move.Fits licence client) : (move.apply client).Over session := by
  obtain ⟨upwards, opens⟩ := sessions_move fits
  refine ⟨isOver.1.trans upwards, fun some => ?_⟩
  rcases opens some with before | later
  · exact (isOver.2 before).trans_le upwards
  · exact isOver.1.trans_lt later

/-- What each move keeps, a run keeps. -/
theorem run_preserves (holds : Client κ ω → Prop)
    (kept : ∀ (client : Client κ ω) (move : Move κ ω), holds client → move.Fits .free client →
      holds (move.apply client))
    (within : behave.Within fun _ => True) (poised : client.Poised) (events : List (Event κ ω))
    (begins : holds client) : holds (client.run behave events) := by
  obtain ⟨moves, path⟩ := (run_arrives within.free poised
    fun event (_ : event ∈ events) => within_free event).reaches
  exact path.preserves (fun client move _ => kept client move) poised.toCoherent begins

section Runs

variable (within : behave.Within fun _ => True) (poised : client.Poised)
include within poised

theorem sessions_le_step (event : Event κ ω) :
    client.link.sessions ≤ (event.step behave client).link.sessions :=
  run_preserves (fun after => client.link.sessions ≤ after.link.sessions)
    (fun _ _ upwards fits => upwards.trans (sessions_move fits).1) within poised [event] le_rfl

theorem Over.run {session : Nat} (isOver : client.Over session) (events : List (Event κ ω)) :
    (client.run behave events).Over session :=
  run_preserves (·.Over session) (fun _ _ isOver fits => isOver.move fits) within poised events
    isOver

theorem Prompt.run (prompt : client.Prompt) (events : List (Event κ ω)) :
    (client.run behave events).Prompt :=
  run_preserves Prompt (fun _ _ prompt fits => prompt.move fits) within poised events prompt

end Runs

/-! ## The answers of a session -/

/-- The text that an event makes a client act upon, if it does. -/
def Event.handled (client : Client κ ω) : Event κ ω → List String
  | .hear text => if client.isPumping then [text] else []
  | _ => []

/-- The texts that a client acts upon in the course of events, in order. -/
def handled (behave : Behaviour κ ω) : List (Event κ ω) → Client κ ω → List String
  | [], _ => []
  | event :: events, client =>
      event.handled client ++ handled behave events (event.step behave client)

/-- Whether an event ends a session, whatever the socket takes. -/
def Event.isFinal : Event κ ω → Bool
  | .close | .shutdown | .lose => true
  | _ => false

/-- The session goes on, and in the meantime it has answered these pings. -/
structure Echoes (client : Client κ ω) (pings : List String) (after : Client κ ω) : Prop where
  up : after.link.channel.isSome = true
  session : after.link.sessions = client.link.sessions
  pongs : after.link.pongs =
    client.link.pongs ++ pings.map (fun id => ⟨client.link.sessions, .pong id⟩)
  free : client.link.room = none → after.link.room = none

namespace Echoes

theorem of_link (up : after.link.channel.isSome = true)
    (session : after.link.sessions = client.link.sessions)
    (written : after.link.written = client.link.written)
    (room : after.link.room = client.link.room) : client.Echoes [] after :=
  ⟨up, session, by simp [Link.pongs, written], room.trans⟩

theorem calm (calm : client.Calm after) (up : client.link.channel.isSome = true) :
    client.Echoes [] after :=
  .of_link (calm.channel_isSome.trans up) calm.sessions calm.written calm.room

theorem trans {middle : Client κ ω} {first second : List String}
    (begins : client.Echoes first middle) (goesOn : middle.Echoes second after) :
    client.Echoes (first ++ second) after where
  up := goesOn.up
  session := goesOn.session.trans begins.session
  pongs := by
    rw [goesOn.pongs, begins.pongs, begins.session, List.append_assoc, List.map_append]
  free room := goesOn.free (begins.free room)

/-- One more frame is written. -/
theorem put {prologue : Prologue} {channel : Option (List Outbound)} {frame : Outbound}
    {pings : List String} (up : channel.isSome = true)
    (link : after.link = ({ client.link with prologue, channel } : Link).put frame)
    (answers : [frame].filter Outbound.isPong = pings.map .pong) : client.Echoes pings after where
  up := by rw [link]; exact up
  session := by rw [link]; rfl
  pongs := by
    have last : [(⟨client.link.sessions, frame⟩ : Sent)].filter (·.frame.isPong) =
        ([frame].filter Outbound.isPong).map (fun frame => ⟨client.link.sessions, frame⟩) := by
      cases isPong : frame.isPong <;> simp [isPong]
    rw [link, Link.pongs]
    simp only [Link.put, List.filter_append, last, answers, List.map_map]
    rfl
  free room := by simp [link, Link.put, room]

end Echoes

/-- The session has ended, at a frame that its socket did not take. -/
def CutOff (client after : Client κ ω) : Prop :=
  after.link.channel = none ∧ client.link.room ≠ none

/-- On a socket that takes every write a message is no reason to start over. -/
theorem hear_prologue (calm : behave.Calm) (room : client.link.room = none) (text : String) :
    (client.hear behave text).link.prologue = client.link.prologue := by
  unfold hear route
  cases Inbound.decode text with
  | error error => rfl
  | ok message =>
      cases message with
      | reply id outcome => rfl
      | push topic data => exact (notifyAll_calm calm _ _ _).prologue
      | ping id =>
          show (client.write behave (.pong id)).link.prologue = client.link.prologue
          rw [write_free (.pong id) room]
          rfl

section Steps

variable (calm : behave.Calm) (up : client.isAlive = true) (prompt : client.Prompt)
include calm up

/-- A frame is written, or the socket takes no more and the session ends. -/
theorem write_or_over (frame : Outbound) :
    client.write behave frame = client.wrote frame ∨
      client.CutOff (client.write behave frame) := by
  rcases write_cases behave frame client with ⟨-, wrote⟩ | ⟨full, ended⟩
  · exact .inl wrote
  · have lost : client.IsLost behave (client.endSession behave .dropped) := isLost_endSession up
    exact .inr ⟨ended ▸ (lost.waits calm).2.1, by simp [full]⟩

theorem hear_echoes (session : client.link.channel.isSome = true) (text : String) :
    client.Echoes (ping? text).toList (client.hear behave text) ∨
      client.CutOff (client.hear behave text) := by
  unfold hear route
  cases decoded : Inbound.decode text with
  | error error =>
      rw [(Inbound.kinds_of_error decoded).2.2]
      exact .inl (.of_link session rfl rfl rfl)
  | ok message =>
      cases message with
      | reply id outcome =>
          rw [(Inbound.kinds_of_reply decoded).2.2]
          exact .inl (.of_link session rfl rfl rfl)
      | push topic data =>
          rw [(Inbound.kinds_of_push decoded).2.2]
          exact .inl (.calm (notifyAll_calm calm _ _ _) session)
      | ping id =>
          rw [(Inbound.kinds_of_ping decoded).2.2]
          show client.Echoes [id] (client.write behave (.pong id)) ∨
            client.CutOff (client.write behave (.pong id))
          refine (write_or_over calm up (.pong id)).imp_left fun wrote => ?_
          exact wrote ▸ .put session rfl rfl

include prompt

theorem proceed_echoes (session : client.link.channel.isSome = true) :
    client.Echoes [] (client.proceed behave) ∨ client.CutOff (client.proceed behave) := by
  have writes : ∀ prologue frame, frame.isPong = false →
      client.Echoes [] ((client.setPrologue prologue).write behave frame) ∨
        client.CutOff ((client.setPrologue prologue).write behave frame) := by
    intro prologue frame other
    have set : (client.setPrologue prologue).isAlive = true := up
    refine (write_or_over calm set frame).imp_left fun wrote => ?_
    exact wrote ▸ .put session rfl (by simp [other])
  unfold proceed
  split
  · exact .inl (.of_link session rfl rfl rfl)
  · exact writes _ _ rfl
  · exact .inl (.of_link session rfl rfl rfl)
  · rename_i frame left begun
    have flushing := prompt.flushing
    rw [begun] at flushing
    exact writes _ _ (flushing frame List.mem_cons_self)
  · exact .inl (.of_link session rfl rfl rfl)
  · exact .inl (.of_link session rfl rfl rfl)

theorem emit_echoes (session : client.link.channel.isSome = true) :
    client.Echoes [] (client.emit behave) ∨ client.CutOff (client.emit behave) := by
  unfold emit
  split
  · rename_i frame queue complete channel
    have set : (client.setChannel queue).isAlive = true := up
    have other := prompt.channel _ channel frame List.mem_cons_self
    refine (write_or_over calm set frame).imp_left fun wrote => ?_
    exact wrote ▸ .put rfl rfl (by simp [other])
  · exact .inl (.of_link session rfl rfl rfl)

end Steps

/-- **One event**: the session has answered the ping that the event makes the client act upon, if
any, and goes on, or it is over.  It is over only if the socket takes only so many writes, or if the
event ends it. -/
theorem step_echoes (within : behave.Within fun _ => True) (poised : client.Poised)
    (prompt : client.Prompt) (session : client.link.channel.isSome = true) (event : Event κ ω) :
    client.Echoes ((event.handled client).filterMap ping?) (event.step behave client) ∨
      (event.step behave client).link.channel = none ∧
        (client.link.room ≠ none ∨ event.isFinal = true) := by
  have calm : behave.Calm := within.calm
  have live : client.link.phase = .live := poised.live session
  have up : client.isAlive = true := poised.up.trans session
  have still : ∀ {after : Client κ ω}, client.Calm after → client.Echoes [] after :=
    fun calm => .calm calm session
  have all : ∀ {after : Client κ ω} (acts : List (Act κ ω)), after = client.performAll acts →
      client.Calm after := by
    rintro after acts rfl
    have acted : Acted .free client (client.performAll acts) :=
      performAll_acted (fun _ _ => trivial) client
    exact acted.calm
  have ended : event.isFinal = true → (event.step behave client).link.phase ≠ .live →
      (event.step behave client).link.channel = none ∧
        (client.link.room ≠ none ∨ event.isFinal = true) := fun final notLive =>
    ⟨(poised_step within poised event).channel_none notLive, .inr final⟩
  have writes : ∀ {pings : List String} {after : Client κ ω},
      client.Echoes pings after ∨ client.CutOff after →
        client.Echoes pings after ∨
          after.link.channel = none ∧ (client.link.room ≠ none ∨ event.isFinal = true) :=
    fun either => either.imp_right fun cut => ⟨cut.1, .inl cut.2⟩
  cases event with
  | act deed => exact .inl (still (perform_calm deed client))
  | observe callback =>
      exact .inl (still ((perform_calm (.enlist callback) client).trans (calm callback _ _)))
  | unsubscribeAll handles => exact .inl (still (all _ (client.unsubscribeAll_eq handles)))
  | dispose scope => exact .inl (still (all _ (client.unsubscribeAll_eq scope.handles)))
  | collect => exact .inl (still (all _ (client.concludeAll_eq _)))
  | connect runtime address =>
      have runs : client.link.isRunning = true := by simp [Link.isRunning, live]
      have same : (client.connect runtime address).1 = client := by
        unfold connect
        repeat' split
        all_goals rfl
      exact .inl (same.symm ▸ still (.refl client) : client.Echoes [] (client.connect _ _).1)
  | close =>
      refine .inr (ended rfl ?_)
      obtain ⟨quiet, link, -, idle, -, -, -, closed⟩ := close_form calm poised
      rw [Event.step, closed]
      simp [idle]
  | shutdown =>
      refine .inr (ended rfl ?_)
      have idle := (stop_arrives within.free poised).2
      simp [Event.step, idle]
  | attempt | attemptFailed | opened | settled =>
      refine .inl (still ?_)
      simpa [Event.step, live] using .refl client
  | proceed => exact writes (proceed_echoes calm up prompt session)
  | emit => exact writes (emit_echoes calm up prompt session)
  | hear text =>
      by_cases pumping : client.isPumping = true
      · have heard := writes (hear_echoes calm up session text)
        have one : [text].filterMap ping? = (ping? text).toList := by
          cases asks : ping? text <;> simp [asks]
        simpa only [Event.step, Event.handled, pumping, if_true, one] using heard
      · refine .inl ?_
        simpa [Event.step, Event.handled, pumping] using still (.refl client)
  | lose =>
      by_cases pumping : client.isPumping = true
      · have lost : client.IsLost behave (client.lose behave) := isLost_endSession up
        refine .inr ⟨?_, .inr rfl⟩
        simpa [Event.step, pumping] using (lost.waits calm).2.1
      · exact .inl (by simpa [Event.step, Event.handled, pumping] using still (.refl client))

/-! ## Runs -/

section Runs

variable (within : behave.Within fun _ => True) (poised : client.Poised) (prompt : client.Prompt)
  (session : client.link.channel.isSome = true)
include within poised prompt session

/-- **The pings of a session are answered in order**, as long as it lasts. -/
theorem run_echoes (events : List (Event κ ω))
    (lasts : ¬ (client.run behave events).Over client.link.sessions) :
    client.Echoes ((client.handled behave events).filterMap ping?) (client.run behave events) := by
  induction events generalizing client with
  | nil => exact .of_link session rfl rfl rfl
  | cons event events ih =>
      have middle := poised_step within poised event
      rcases step_echoes within poised prompt session event with echoes | ⟨ended, -⟩
      · have rest := ih middle (prompt.run within poised [event]) echoes.up
          (echoes.session.symm ▸ lasts)
        rw [handled, List.filterMap_append]
        exact echoes.trans rest
      · -- what is over does not come back
        have isOver : (event.step behave client).Over client.link.sessions :=
          ⟨sessions_le_step within poised event, by simp [ended]⟩
        exact absurd (isOver.run within middle events) lasts

/-- A session whose socket takes every write lasts until it is ended. -/
theorem run_free (room : client.link.room = none) (events : List (Event κ ω))
    (none : ∀ event ∈ events, event.isFinal = false) :
    client.Echoes ((client.handled behave events).filterMap ping?) (client.run behave events) := by
  induction events generalizing client with
  | nil => exact .of_link session rfl rfl rfl
  | cons event events ih =>
      rcases step_echoes within poised prompt session event with echoes | ⟨-, reason⟩
      · have rest := ih (poised_step within poised event) (prompt.run within poised [event])
          echoes.up (echoes.free room) fun other member => none other (List.mem_cons_of_mem _ member)
        rw [handled, List.filterMap_append]
        exact echoes.trans rest
      · simp [room, none event List.mem_cons_self] at reason

/-- A session whose prologue is over acts upon every text, in order. -/
theorem handled_hears (room : client.link.room = none) (pumping : client.isPumping = true)
    (texts : List String) : client.handled behave (texts.map .hear) = texts := by
  induction texts generalizing client with
  | nil => rfl
  | cons text texts ih =>
      have echoes := run_free within poised prompt session room [.hear text] (by simp [Event.isFinal])
      have middle := poised_step within poised (.hear text)
      have complete : ((Event.hear text).step behave client).link.prologue = .complete := by
        rw [Event.step, if_pos pumping, hear_prologue within.calm room]
        exact ((isPumping_iff _).1 pumping).2
      have still : ((Event.hear text).step behave client).isPumping = true :=
        (isPumping_iff _).2 ⟨middle.live echoes.up, complete⟩
      rw [List.map_cons, handled, ih middle (prompt.run within poised [.hear text]) echoes.up
        (echoes.free room) still, Event.handled, if_pos pumping]
      rfl

end Runs

/-- **Every ping is echoed.**  Pings are the messages that reply to nothing and go to the reserved
path, and any text may be the identifier of one.  Whatever state a client is in and whatever its
callbacks would do, all it does about a ping is to answer: it stays as it is, no callback is told
anything, and the answer, whatever fresh identifier it gets, reads back as a reply to the ping that
carries nothing else.

So it is in a session, at any time of any run: as long as the session lasts, the answers that it
writes are one for each ping among the texts that are acted upon, in their order, whatever else
happens in between.  It does last if its socket takes every write and nobody ends it; and once its
prologue is over every text is acted upon. -/
theorem every_ping_is_echoed (within : behave.Within fun _ => True) (earlier : List (Event κ ω))
    (options : Options) (token : Option Json) (candidate : Nat → CorrelationId) (desk : ω) :
    ((∀ text id, ping? text = some id ↔ ∃ envelope, Envelope.read text = .ok envelope ∧
        envelope.replyingTo = none ∧ envelope.path = "ping" ∧ envelope.messageId = id) ∧
      ∀ id, ∃ text, ping? text = some id) ∧
    (∀ text id, ping? text = some id → ∀ (any : Behaviour κ ω) (client : Client κ ω),
      client.route any text = (client, some (.pong id)) ∧ client.told any [text] = [] ∧
        ∀ fresh, Envelope.read ((Outbound.pong id).encode fresh) =
          .ok { messageId := fresh.text, replyingTo := some id, path := "pong" }) ∧
    let client := run behave earlier (start options token candidate desk)
    client.isAlive = true →
      (∀ later, let after := client.run behave later
        (after.isAlive = true → after.link.sessions = client.link.sessions →
          after.link.pongs = client.link.pongs ++
            ((client.handled behave later).filterMap ping?).map
              (fun id => ⟨client.link.sessions, .pong id⟩)) ∧
        (client.link.room = none → (∀ event ∈ later, event.isFinal = false) →
          after.isAlive = true ∧ after.link.sessions = client.link.sessions)) ∧
      (client.link.room = none → client.isPumping = true →
        ∀ texts : List String, client.handled behave (texts.map .hear) = texts) := by
  refine ⟨⟨Inbound.ping?_eq_some_iff, fun id => ⟨_, Inbound.ping?_encode id⟩⟩,
    fun text id asks any client => ⟨route_ping? any asks client, told_ping? any asks client,
      Outbound.read_pong id⟩, ?_⟩
  intro client up
  have begins := start_poised (κ := κ) options token candidate desk
  have poised : client.Poised := poised_run within begins earlier
  have prompt : client.Prompt :=
    (Prompt.start options token candidate desk).run within begins earlier
  have session : client.link.channel.isSome = true := poised.up.symm.trans up
  refine ⟨fun later => ?_, fun room pumping =>
    handled_hears within poised prompt session room pumping⟩
  intro after
  refine ⟨fun lasts same => ?_, fun room none => ?_⟩
  · have channel : after.link.channel.isSome = true :=
      (poised_run within poised later).up.symm.trans lasts
    refine (run_echoes within poised prompt session later fun isOver => ?_).pongs
    exact Nat.lt_irrefl _ (same ▸ isOver.2 channel)
  · have echoes := run_free within poised prompt session room later none
    exact ⟨(poised_run within poised later).up.trans echoes.up, echoes.session⟩

/-- A session whose prologue is over. -/
def opening : List (Event Unit Unit) :=
  [.connect true "ws://a", .attempt, .opened, .settled none, .proceed, .proceed, .proceed]

/-- Two pings, the first one with an identifier that has to be escaped, around what is no
message. -/
@[irreducible]
def pinged : List String :=
  [({ messageId := "\"\\\n☃", path := "ping" } : Envelope).encode, "no message",
    ({ messageId := "2", path := "ping" } : Envelope).encode]

theorem every_ping_is_echoed_pinged :
    let client := run silent opening (start {} none CorrelationId.drawn ())
    (client.run silent (pinged.map .hear)).link.pongs =
      [⟨1, .pong "\"\\\n☃"⟩, ⟨1, .pong "2"⟩] := by
  intro client
  have seen : (fun client : Client Unit Unit =>
      (client.isAlive, client.link.room, client.isPumping, client.link.sessions,
        client.link.pongs))
      (run silent opening (start {} none CorrelationId.drawn ())) =
        (true, none, true, 1, []) := by cbv
  simp only [Prod.mk.injEq] at seen
  obtain ⟨up, room, pumping, number, nothing⟩ := seen
  obtain ⟨-, -, goesOn⟩ := every_ping_is_echoed (silent_within _) opening {} none
    CorrelationId.drawn ()
  obtain ⟨session, all⟩ := goesOn up
  obtain ⟨answers, lasts⟩ := session (pinged.map .hear)
  obtain ⟨still, same⟩ := lasts room (by simp [Event.isFinal])
  have noMessage : ping? "no message" = none := by decide +kernel
  have asks : pinged.filterMap ping? = ["\"\\\n☃", "2"] := by
    have first := Inbound.ping?_encode "\"\\\n☃"
    have second := Inbound.ping?_encode "2"
    simp only [Inbound.pingPath] at first second
    simp [pinged, first, second, noMessage]
  have written := answers still same
  rw [all room pumping pinged, asks, nothing, number] at written
  exact written

end Client

end Switchboard
