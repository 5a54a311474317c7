/-
# Switchboard.Proofs.Prologue -- how a session begins

When a socket has settled its session begins: the observers are told, the topics are
read and announced, the backlog is taken over and written, and only then is the
channel looked at.  The driver does this in steps (`Client.proceed`), and anything may
happen between two of them.  A driver that is told to stop completes the prologue
first; `spellOut` puts these steps into the run, so that every step is an event.

In each of its three parts the prologue has written some frames and has others left
(`Client.Amid`).  Acts change neither, they hand more frames to the channel; a step
writes the next frame, or leaves the part (`Stage.leaves`).

* `session_prologue`: what a session writes before it looks at its channel, in every run.
-/
import Switchboard.Proofs.CallLifecycle
import Switchboard.Proofs.Spent

namespace Switchboard

set_option autoImplicit false

/-- Callbacks that do nothing but acts are free to do them. -/
theorem Behaviour.Within.free {κ ω : Type} {behave : Behaviour κ ω}
    (within : behave.Within fun _ => True) :
    behave.Within (Client.Licence.free : Client.Licence κ ω).act := within

namespace Client

variable {κ ω : Type} {behave : Behaviour κ ω} {client after : Client κ ω}

/-! ## Runs in which every step is an event -/

/-- Whether an event makes the driver stop. -/
def Event.isStop : Event κ ω → Bool
  | .close | .shutdown => true
  | _ => false

/-- The events of a run, with the steps by which a driver completes its prologue before it stops. -/
def spellOut (behave : Behaviour κ ω) (client : Client κ ω) : List (Event κ ω) → List (Event κ ω)
  | [] => []
  | event :: events =>
      (if event.isStop then List.replicate client.prologueSteps .proceed else []) ++
        event :: spellOut behave (event.step behave client) events

/-- Whether the driver stops only where there is no prologue to complete. -/
def Spelled (behave : Behaviour κ ω) (client : Client κ ω) : List (Event κ ω) → Prop
  | [] => True
  | event :: events =>
      (event.isStop = true → client.link.prologue = .complete) ∧
        Spelled behave (event.step behave client) events

theorem run_proceed (steps : Nat) (client : Client κ ω) :
    client.run behave (List.replicate steps .proceed) = client.proceedFor behave steps := by
  induction steps generalizing client with
  | zero => rfl
  | succ steps ih => exact ih _

theorem spelled_append_proceed {steps : Nat} {events : List (Event κ ω)}
    (spelled : Spelled behave (client.proceedFor behave steps) events) :
    Spelled behave client (List.replicate steps .proceed ++ events) := by
  induction steps generalizing client with
  | zero => exact spelled
  | succ steps ih => exact ⟨by simp [Event.isStop], ih spelled⟩

theorem poised_step (within : behave.Within fun _ => True) (poised : client.Poised)
    (event : Event κ ω) : (event.step behave client).Poised :=
  (step_arrives within.free poised (within_free event)).poised poised

theorem poised_run (within : behave.Within fun _ => True) (poised : client.Poised)
    (events : List (Event κ ω)) : (client.run behave events).Poised :=
  (run_arrives within.free poised fun event _ => within_free event).poised poised

/-- A driver that stops does what it does once its prologue is over. -/
theorem step_finish (within : behave.Within fun _ => True) (poised : client.Poised)
    {event : Event κ ω} (stops : event.isStop = true) :
    event.step behave (client.finish behave) = event.step behave client := by
  have complete := finish_complete within.free poised
  have again : (client.finish behave).finish behave = client.finish behave := by
    have none := prologueSteps_eq_zero complete
    rw [finish, none]
    rfl
  cases event with
  | close => simp [Event.step, close, stop, again]
  | shutdown => simp [Event.step, stop, again]
  | _ => simp [Event.isStop] at stops

/-- **Spelling a run out does not change it.** -/
theorem run_spellOut (within : behave.Within fun _ => True) (poised : client.Poised)
    (events : List (Event κ ω)) :
    client.run behave (client.spellOut behave events) = client.run behave events := by
  induction events generalizing client with
  | nil => rfl
  | cons event events ih =>
      have rest := ih (poised_step within poised event)
      rw [spellOut, run_append]
      split
      · rename_i stops
        rw [run_proceed]
        show ((event.step behave (client.finish behave)).run behave _) = _
        rw [step_finish within poised stops]
        exact rest
      · exact rest

theorem spelled_spellOut (within : behave.Within fun _ => True) (poised : client.Poised)
    (events : List (Event κ ω)) : Spelled behave client (client.spellOut behave events) := by
  induction events generalizing client with
  | nil => trivial
  | cons event events ih =>
      have rest := ih (poised_step within poised event)
      rw [spellOut]
      split
      · rename_i stops
        refine spelled_append_proceed ⟨fun _ => finish_complete within.free poised, ?_⟩
        show Spelled behave (event.step behave (client.finish behave)) _
        rw [step_finish within poised stops]
        exact rest
      · rename_i goesOn
        exact ⟨fun stops => absurd stops goesOn, rest⟩

/-! ## What comes between two steps of a prologue -/

/-- While a prologue is under way, all that happens beside its steps are acts. -/
theorem step_begun (within : behave.Within fun _ => True) (poised : client.Poised)
    (begun : client.link.prologue ≠ .complete) (event : Event κ ω) :
    event = .proceed ∨ event.isStop = true ∨
      ∃ acts : List (Act κ ω), event.step behave client = client.performAll acts := by
  have some : client.link.channel.isSome = true := by
    by_contra none
    exact begun (poised.complete (by simpa using none))
  have live := poised.live some
  have busy : client.isPumping = false := by
    rw [Bool.eq_false_iff, ne_eq, isPumping_iff]
    exact fun pumping => begun pumping.2
  have nothing : ∃ acts : List (Act κ ω), client = client.performAll acts := ⟨[], rfl⟩
  cases event with
  | proceed => exact .inl rfl
  | close | shutdown => exact .inr (.inl rfl)
  | act deed => exact .inr (.inr ⟨[deed], rfl⟩)
  | observe callback =>
      obtain ⟨acts, -, does⟩ := within callback (.alive (client.enlist callback).1.isAlive)
        (client.enlist callback).1
      exact .inr (.inr ⟨.enlist callback :: acts, does⟩)
  | unsubscribeAll handles => exact .inr (.inr ⟨_, client.unsubscribeAll_eq handles⟩)
  | dispose scope => exact .inr (.inr ⟨_, client.unsubscribeAll_eq scope.handles⟩)
  | collect => exact .inr (.inr ⟨_, client.concludeAll_eq _⟩)
  | connect runtime address =>
      have running : client.link.isRunning = true := by simp [Link.isRunning, live]
      have refused : (client.connect runtime address).1 = client := by
        unfold connect
        split
        · rfl
        · simp only [running, if_true]
          split
          · rfl
          split <;> rfl
      exact .inr (.inr (by rw [Event.step, refused]; exact nothing))
  | attempt | attemptFailed | opened | settled room =>
      exact .inr (.inr (by simpa [Event.step, live] using nothing))
  | emit =>
      have still : client.emit behave = client := by
        unfold emit
        split
        · rename_i complete _
          exact absurd complete begun
        · rfl
      exact .inr (.inr (by rw [Event.step, still]; exact nothing))
  | hear text | lose => exact .inr (.inr (by simpa [Event.step, busy] using nothing))

/-- From one client of a session to another frames were added to the channel, and none to the
backlog. -/
structure HandsOver (queue : List Outbound) (client after : Client κ ω) : Prop where
  channel : ∃ frames, after.link.channel = some (queue ++ frames)
  backlog : after.link.backlog.Sublist client.link.backlog

section HandsOver

variable {queue : List Outbound} (session : client.link.channel = some queue)
include session

theorem handsOver_self : HandsOver queue client client := ⟨⟨[], by simp [session]⟩, .refl _⟩

/-- Forgetting a request only takes it from the backlog. -/
theorem handsOver_discard {id : CorrelationId}
    (discarded : after.link = (client.link.discard id).1) : HandsOver queue client after := by
  rw [Link.discard] at discarded
  exact ⟨⟨[], by simp [discarded, session]⟩, discarded ▸ List.filter_sublist⟩

theorem handsOver_parts (parts : client.Parts after) : HandsOver queue client after := by
  obtain rfl | ⟨awaited, -, farewell, -, rfl⟩ := parts
  · exact handsOver_self session
  · exact handsOver_discard session rfl

/-- A new call is put behind all others. -/
theorem handsOver_call (coherent : client.Coherent) (path : Topic) (data : Json)
    (limit : Option Span) : HandsOver queue client (client.call path data limit).1 := by
  rcases client.call_cases path data limit with
    called | ⟨issued, -, -, books, ⟨handed, -⟩ | ⟨failed, -⟩⟩
  · rw [called]
    exact handsOver_self session
  · rw [handed]
    rcases coherent.handOver_cases books limit with ⟨queue', channel, sent⟩ | ⟨none, -⟩
    · obtain rfl : queue' = queue := by simpa [channel] using session
      rw [sent]
      exact ⟨⟨[issued.request], rfl⟩, .refl _⟩
    · simp [none] at session
  · rw [failed]
    exact handsOver_discard session rfl

/-- **During a session an act may add frames to the channel**, and adds nothing to the backlog. -/
theorem handsOver_perform (coherent : client.Coherent) (act : Act κ ω) :
    HandsOver queue client (act.perform client) := by
  have aside : act.isAside = true → HandsOver queue client (act.perform client) := by
    intro aside
    have bystander := perform_bystander aside client
    obtain ⟨frames, -, channel⟩ := bystander.channel
    exact ⟨⟨frames, by simp [channel, session]⟩, by rw [bystander.backlog]⟩
  cases act with
  | call path data limit => exact handsOver_call session coherent path data limit
  | cancel id => exact handsOver_discard session rfl
  | conclude ticket => exact handsOver_parts session (client.conclude_parts ticket)
  | expire ticket => exact handsOver_parts session (client.expire_parts ticket)
  | abandon ticket => exact handsOver_parts session (client.abandon_parts ticket)
  | subscribe | unsubscribe | enlist | setToken | note => exact aside rfl

end HandsOver

/-! ## A step of the prologue -/

/-- A step of the prologue leaves the channel alone, if the socket takes what it writes. -/
theorem proceed_channel (room : client.link.room = none) :
    (client.proceed behave).link.channel = client.link.channel := by
  unfold proceed
  split
  · rfl
  · rw [write_free _ (by exact room)]
    rfl
  · rfl
  · rw [write_free _ (by exact room)]
    rfl
  · rfl
  · rfl

/-! ## Parts of a prologue -/

/-- Something that holds of a client during one part of its prologue, whatever acts come. -/
structure Stage (holds : Client κ ω → Prop) : Prop where
  begun : ∀ {client : Client κ ω}, holds client → client.link.prologue ≠ .complete
  room : ∀ {client : Client κ ω}, holds client → client.link.room = none
  act : ∀ {client : Client κ ω} (act : Act κ ω), client.Coherent → holds client →
    holds (act.perform client)

/-- At every point of a run the channel holds no more than at its end, and that in front. -/
def Hands (behave : Behaviour κ ω) (client : Client κ ω) (events : List (Event κ ω)) : Prop :=
  ∀ past todo, events = past ++ todo →
    (client.run behave past).link.channel.getD [] <+:
      (client.run behave events).link.channel.getD []

theorem Hands.cons {event : Event κ ω} {events : List (Event κ ω)}
    (first : client.link.channel.getD [] <+: (event.step behave client).link.channel.getD [])
    (rest : Hands behave (event.step behave client) events) :
    Hands behave client (event :: events) := by
  intro past todo cut
  cases past with
  | nil => exact first.trans (rest [] events rfl)
  | cons other past =>
      obtain ⟨rfl, rfl⟩ : event = other ∧ events = past ++ todo := by simpa using cut
      exact rest past todo rfl

theorem Hands.append {first second : List (Event κ ω)} (begins : Hands behave client first)
    (goesOn : Hands behave (client.run behave first) second) :
    Hands behave client (first ++ second) := by
  intro past todo cut
  rw [run_append]
  rcases List.append_eq_append_iff.1 cut with ⟨more, rfl, rfl⟩ | ⟨more, rfl, rfl⟩
  · rw [run_append]
    exact goesOn more todo rfl
  · exact (begins past more rfl).trans (goesOn [] second rfl)

namespace Stage

variable {holds : Client κ ω → Prop} (stage : Stage holds)
include stage

theorem session (poised : client.Poised) (begins : holds client) :
    ∃ queue, client.link.channel = some queue :=
  Option.ne_none_iff_exists'.1 fun none => stage.begun begins (poised.complete none)

/-- Acts keep what holds, and what the channel holds stays in front. -/
theorem performAll (poised : client.Poised) (begins : holds client) (acts : List (Act κ ω)) :
    holds (client.performAll acts) ∧
      client.link.channel.getD [] <+: (client.performAll acts).link.channel.getD [] := by
  induction acts generalizing client with
  | nil => exact ⟨begins, List.prefix_refl _⟩
  | cons act acts ih =>
      obtain ⟨queue, session⟩ := stage.session poised begins
      obtain ⟨frames, channel⟩ := (handsOver_perform session poised.toCoherent act).channel
      have free : ∀ other ∈ [act], Licence.free.act other := fun _ _ => trivial
      have acted : Acted .free client (act.perform client) := performAll_acted free client
      obtain ⟨kept, more⟩ := ih ((acted.arrives poised).poised poised)
        (stage.act act poised.toCoherent begins)
      refine ⟨kept, List.IsPrefix.trans ?_ more⟩
      simp [session, channel]

/-- **A run that ends outside a part of the prologue has left it with a step of the prologue.** -/
theorem leaves (within : behave.Within fun _ => True) {events : List (Event κ ω)}
    (poised : client.Poised) (spelled : Spelled behave client events) (begins : holds client)
    (ends : ¬ holds (client.run behave events)) :
    ∃ before later, events = before ++ .proceed :: later ∧
      (client.run behave before).Poised ∧ holds (client.run behave before) ∧
      ¬ holds ((client.run behave before).proceed behave) ∧
      Spelled behave ((client.run behave before).proceed behave) later ∧
      Hands behave client (before ++ [.proceed]) := by
  induction events generalizing client with
  | nil => exact absurd begins ends
  | cons event events ih =>
      obtain ⟨stops, spelled⟩ := spelled
      have still := poised_step within poised event
      have longer : client.link.channel.getD [] <+:
          (Event.step behave .proceed client).link.channel.getD [] := by
        show _ <+: (client.proceed behave).link.channel.getD []
        rw [proceed_channel (stage.room begins)]
      rcases step_begun within poised (stage.begun begins) event with rfl | stop | ⟨acts, does⟩
      · by_cases stays : holds (client.proceed behave)
        · obtain ⟨before, later, rfl, rest⟩ := ih still spelled stays ends
          obtain ⟨last, kept, left, spelled, hands⟩ := rest
          exact ⟨.proceed :: before, later, rfl, last, kept, left, spelled, hands.cons longer⟩
        · refine ⟨[], events, rfl, poised, begins, stays, spelled, ?_⟩
          exact Hands.cons longer fun past todo cut => by
            obtain ⟨rfl, rfl⟩ : past = [] ∧ todo = [] := by simpa using cut.symm
            exact List.prefix_refl _
      · exact absurd (stops stop) (stage.begun begins)
      · obtain ⟨stays, more⟩ := stage.performAll poised begins acts
        rw [← does] at stays more
        obtain ⟨before, later, rfl, rest⟩ := ih still spelled stays ends
        obtain ⟨last, kept, left, spelled, hands⟩ := rest
        exact ⟨event :: before, later, rfl, last, kept, left, spelled, hands.cons more⟩

end Stage

/-! ## What has been written of a prologue -/

/-- The frames written in a session, in order. -/
def framesOf (session : Nat) (client : Client κ ω) : List Outbound :=
  (client.link.written.filter (fun sent => sent.session = session)).map (·.frame)

/-- Of these frames the current session has these left to write, and has written the others; its
socket takes any number of writes. -/
structure Amid (session : Nat) (whole left : List Outbound) (client : Client κ ω) : Prop where
  written : client.framesOf session ++ left = whole
  session : client.link.sessions = session
  room : client.link.room = none

variable {session : Nat} {whole left : List Outbound}

theorem Amid.calm (amid : client.Amid session whole left) (calm : client.Calm after) :
    after.Amid session whole left where
  written := by
    rw [framesOf, calm.written]
    exact amid.written
  session := calm.sessions.trans amid.session
  room := calm.room.trans amid.room

theorem Amid.wrote {frame : Outbound} (amid : client.Amid session whole (frame :: left))
    (prologue : Prologue) :
    ((client.setPrologue prologue).wrote frame).Amid session whole left where
  written := by
    have put : ((client.setPrologue prologue).wrote frame).framesOf session =
        client.framesOf session ++ [frame] := by
      simp [framesOf, Client.wrote, setPrologue, Link.put, amid.session]
    rw [put, List.append_assoc]
    exact amid.written
  session := amid.session
  room := by simp [Client.wrote, setPrologue, Link.put, amid.room]

/-- The topics have not been read, and nothing has been written. -/
def AtUnread (session : Nat) (client : Client κ ω) : Prop :=
  client.link.prologue = .unread ∧ client.Amid session [] []

/-- Some of these topics have been announced. -/
def AtTopics (session : Nat) (topics : List Topic) (client : Client κ ω) : Prop :=
  ∃ left, client.link.prologue = .announcing left ∧
    client.Amid session (topics.map .subscribe) (left.map .subscribe)

/-- Some of the requests that were taken over have been written. -/
def AtBacklog (session : Nat) (whole : List Outbound) (client : Client κ ω) : Prop :=
  ∃ left, client.link.prologue = .flushing left ∧ client.Amid session whole left ∧
    client.link.backlog = []

theorem stage_unread (session : Nat) : Stage (AtUnread session : Client κ ω → Prop) where
  begun := by
    rintro client ⟨begun, -⟩
    simp [begun]
  room held := held.2.room
  act act _ held :=
    ⟨(perform_calm act _).prologue.trans held.1, held.2.calm (perform_calm act _)⟩

theorem stage_topics (session : Nat) (topics : List Topic) :
    Stage (AtTopics session topics : Client κ ω → Prop) where
  begun := by
    rintro client ⟨left, begun, -⟩
    simp [begun]
  room := fun ⟨_, _, amid⟩ => amid.room
  act act _ held := by
    obtain ⟨left, begun, amid⟩ := held
    exact ⟨left, (perform_calm act _).prologue.trans begun, amid.calm (perform_calm act _)⟩

theorem stage_backlog (session : Nat) (whole : List Outbound) :
    Stage (AtBacklog session whole : Client κ ω → Prop) where
  begun := by
    rintro client ⟨left, begun, -⟩
    simp [begun]
  room := fun ⟨_, _, amid, _⟩ => amid.room
  act {client} act coherent held := by
    obtain ⟨left, begun, amid, empty⟩ := held
    obtain ⟨queue, channel⟩ : ∃ queue, client.link.channel = some queue :=
      Option.ne_none_iff_exists'.1 fun none => by simp [coherent.complete none] at begun
    have fewer := (handsOver_perform channel coherent act).backlog
    rw [empty, List.sublist_nil] at fewer
    exact ⟨left, (perform_calm act _).prologue.trans begun, amid.calm (perform_calm act _), fewer⟩

/-- The topics are read at once. -/
theorem leaves_unread (held : client.AtUnread session) :
    (client.proceed behave).AtTopics session client.subscriptions.topics := by
  obtain ⟨begun, amid⟩ := held
  have read : client.proceed behave =
      client.setPrologue (.announcing client.subscriptions.topics) := by
    simp [proceed, begun]
  rw [read]
  refine ⟨client.subscriptions.topics, rfl, ?_, amid.session, amid.room⟩
  have nothing : client.framesOf session = [] := by simpa using amid.written
  show client.framesOf session ++ _ = _
  rw [nothing, List.nil_append]

/-- The topics are left when all of them have been announced. -/
theorem leaves_topics {topics : List Topic} (held : client.AtTopics session topics)
    (left : ¬ (client.proceed behave).AtTopics session topics) :
    client.link.prologue = .announcing [] ∧
      client.framesOf session = topics.map .subscribe := by
  obtain ⟨toTell, begun, amid⟩ := held
  cases toTell with
  | nil => exact ⟨begun, by simpa using amid.written⟩
  | cons topic toTell =>
      have told : client.proceed behave =
          (client.setPrologue (.announcing toTell)).wrote (.subscribe topic) := by
        simp only [proceed, begun]
        exact write_free _ amid.room
      exact absurd ⟨toTell, told ▸ rfl, told ▸ amid.wrote _⟩ left

/-- The backlog is taken over at once. -/
theorem leaves_for_backlog {topics : List Topic} (begun : client.link.prologue = .announcing [])
    (held : client.AtTopics session topics)
    (told : client.framesOf session = topics.map .subscribe) :
    (client.proceed behave).AtBacklog session
      (topics.map .subscribe ++ client.link.backlog.filter client.isLive) := by
  obtain ⟨_, _, amid⟩ := held
  have unloaded : client.proceed behave = client.unload := by simp [proceed, begun]
  rw [unloaded]
  refine ⟨_, rfl, ⟨?_, amid.session, amid.room⟩, rfl⟩
  show client.framesOf session ++ _ = _
  rw [told]

/-- The requests are left when all of them have been written. -/
theorem leaves_backlog (held : client.AtBacklog session whole)
    (left : ¬ (client.proceed behave).AtBacklog session whole) :
    client.link.prologue = .flushing [] ∧ client.framesOf session = whole ∧
      client.link.backlog = [] := by
  obtain ⟨toWrite, begun, amid, empty⟩ := held
  cases toWrite with
  | nil => exact ⟨begun, by simpa using amid.written, empty⟩
  | cons frame toWrite =>
      have wrote : client.proceed behave =
          (client.setPrologue (.flushing toWrite)).wrote frame := by
        simp only [proceed, begun]
        exact write_free _ amid.room
      exact absurd ⟨toWrite, wrote ▸ rfl, wrote ▸ amid.wrote _, wrote ▸ empty⟩ left

/-- A session begins with nothing read, and nothing written. -/
theorem unread_settled (within : behave.Within fun _ => True) (poised : client.Poised)
    (orderly : client.Orderly) (settling : client.link.phase = .settling) :
    (client.settled behave none).AtUnread (client.link.sessions + 1) := by
  have down : (client.openSession none).isAlive = false :=
    poised.down (poised.channel_none (by simp [settling]))
  have told : Acted .free ((client.openSession none).moveTo .connected)
      (client.settled behave none) := by
    simp only [settled, transition, down, LinkState.isConnected]
    exact notifyAll_acted within _ _ _
  have earlier : client.framesOf (client.link.sessions + 1) = [] := by
    rw [framesOf, List.map_eq_nil_iff, List.filter_eq_nil_iff]
    intro sent member
    have before := orderly.sessions sent member
    simp only [decide_eq_true_eq]
    omega
  have amid : ((client.openSession none).moveTo .connected).Amid
      (client.link.sessions + 1) [] [] :=
    ⟨by simpa [framesOf, moveTo, openSession] using earlier, rfl, rfl⟩
  exact ⟨told.calm.prologue, amid.calm told.calm⟩

/-- A run that completes a prologue reads the topics, announces them, and takes over the backlog. -/
theorem atBacklog_of_complete (within : behave.Within fun _ => True) (poised : client.Poised)
    {events : List (Event κ ω)} (spelled : Spelled behave client events)
    (unread : client.AtUnread session)
    (complete : (client.run behave events).link.prologue = .complete) :
    ∃ between during later : List (Event κ ω), ∃ reading emptied : Client κ ω,
      events = between ++ [Event.proceed] ++ (during ++ [Event.proceed]) ++ later ∧
        reading = client.run behave between ∧
        emptied = (reading.proceed behave).run behave during ∧
        client.run behave (between ++ [Event.proceed] ++ (during ++ [Event.proceed])) =
          emptied.proceed behave ∧
        reading.link.prologue = .unread ∧
        emptied.link.prologue = .announcing [] ∧
        (emptied.proceed behave).Poised ∧
        (emptied.proceed behave).AtBacklog session
          (reading.subscriptions.topics.map .subscribe ++
            emptied.link.backlog.filter emptied.isLive) ∧
        Spelled behave (emptied.proceed behave) later ∧
        Hands behave client (between ++ [Event.proceed] ++ (during ++ [Event.proceed])) := by
  have ended : ∀ {stage : Client κ ω → Prop}, Stage stage → ¬ stage (client.run behave events) :=
    fun stage holds => stage.begun holds complete
  -- the topics are read
  obtain ⟨between, afterRead, rfl, readingPoised, atUnread, -, spelledRead, handsRead⟩ :=
    (stage_unread session).leaves within poised spelled unread (ended (stage_unread session))
  have runs : client.run behave (between ++ Event.proceed :: afterRead) =
      ((client.run behave between).proceed behave).run behave afterRead := run_append ..
  rw [runs] at ended
  generalize isReading : client.run behave between = reading at *
  have atTopics : (reading.proceed behave).AtTopics session reading.subscriptions.topics :=
    leaves_unread atUnread
  have poisedRead : (reading.proceed behave).Poised := poised_step within readingPoised .proceed
  -- they are announced
  obtain ⟨during, afterTold, rfl, emptiedPoised, allTold, left, spelledTold, handsTold⟩ :=
    (stage_topics session reading.subscriptions.topics).leaves within poisedRead spelledRead
      atTopics (ended (stage_topics session _))
  generalize isEmptied : (reading.proceed behave).run behave during = emptied at *
  obtain ⟨announced, told⟩ := leaves_topics allTold left
  have reached : client.run behave (between ++ [Event.proceed] ++ (during ++ [Event.proceed])) =
      emptied.proceed behave := by
    rw [← isEmptied, ← isReading]
    simp only [run_append]
    rfl
  refine ⟨between, during, afterTold, reading, emptied, by simp, isReading.symm, isEmptied.symm,
    reached, atUnread.1, announced, poised_step within emptiedPoised .proceed,
    leaves_for_backlog announced allTold told, spelledTold, handsRead.append ?_⟩
  rw [run_append, isReading]
  exact handsTold

/-- **A run that completes a prologue takes it through its three parts.** -/
theorem opening_of_complete (within : behave.Within fun _ => True) (poised : client.Poised)
    {events : List (Event κ ω)} (spelled : Spelled behave client events)
    (unread : client.AtUnread session)
    (complete : (client.run behave events).link.prologue = .complete) :
    ∃ between during meanwhile final : List (Event κ ω), ∃ reading emptied written : Client κ ω,
      let opening :=
        between ++ Event.proceed :: during ++ Event.proceed :: meanwhile ++ [Event.proceed]
      events = opening ++ final ∧ Hands behave client opening ∧
        reading = client.run behave between ∧
        emptied = (reading.proceed behave).run behave during ∧
        written = client.run behave opening ∧
        reading.link.prologue = .unread ∧
        emptied.link.prologue = .announcing [] ∧
        written.link.prologue = .complete ∧
        written.framesOf session = reading.subscriptions.topics.map .subscribe ++
          emptied.link.backlog.filter emptied.isLive ∧
        written.link.backlog = [] := by
  obtain ⟨between, during, later, reading, emptied, rfl, isReading, isEmptied, reached, atUnread,
    announced, poisedTold, atBacklog, spelledTold, handsTold⟩ :=
      atBacklog_of_complete within poised spelled unread complete
  rw [run_append, reached] at complete
  obtain ⟨meanwhile, final, rfl, -, allWritten, left, -, handsWritten⟩ :=
    (stage_backlog session _).leaves within poisedTold spelledTold atBacklog
      fun holds => (stage_backlog session _).begun holds complete
  generalize isFlushed : (emptied.proceed behave).run behave meanwhile = flushed at *
  obtain ⟨begun, frames, empty⟩ := leaves_backlog allWritten left
  have opening :
      between ++ Event.proceed :: during ++ Event.proceed :: meanwhile ++ [Event.proceed] =
        between ++ [Event.proceed] ++ (during ++ [Event.proceed]) ++
          (meanwhile ++ [Event.proceed]) := by
    simp
  have written : client.run behave
      (between ++ Event.proceed :: during ++ Event.proceed :: meanwhile ++ [Event.proceed]) =
        flushed.setPrologue .complete := by
    rw [opening, run_append, reached, run_append, isFlushed]
    show flushed.proceed behave = _
    simp [proceed, begun]
  refine ⟨between, during, meanwhile, final, reading, emptied, flushed.setPrologue .complete,
    by simp, opening ▸ handsTold.append ?_, isReading, isEmptied, written.symm, atUnread,
    announced, rfl, frames, empty⟩
  rw [reached]
  exact handsWritten

/-! ## Runs -/

theorem framesOf_prefix (within : behave.Within fun _ => True) (poised : client.Poised)
    (events : List (Event κ ω)) (session : Nat) :
    client.framesOf session <+: (client.run behave events).framesOf session := by
  obtain ⟨moves, path⟩ := (run_arrives within.free poised
    fun event (_ : event ∈ events) => within_free event).reaches
  exact (path.written_prefix.filter _).map _

/-- A socket that has settled begins a session, and the run goes on. -/
theorem run_settled {earlier : List (Event κ ω)}
    (settling : (client.run behave earlier).link.phase = .settling) (room : Option Nat)
    (later : List (Event κ ω)) :
    client.run behave (earlier ++ .settled room :: later) =
      ((client.run behave earlier).settled behave room).run behave later := by
  have step : (Event.settled room).step behave (client.run behave earlier) =
      (client.run behave earlier).settled behave room := if_pos settling
  rw [run_append, ← step]
  rfl

theorem orderly_run (within : behave.Within fun _ => True) (options : Options)
    (token : Option Json) (candidate : Nat → CorrelationId) (desk : ω) (events : List (Event κ ω)) :
    (run behave events (start options token candidate desk)).Orderly := by
  obtain ⟨moves, path⟩ := run_path within.free
    (fun event (_ : event ∈ events) => within_free event) options token candidate desk
  exact path.preserves (fun _ _ _ orderly fits => Orderly.move orderly fits)
    (start_poised options token candidate desk).toCoherent (start_orderly _ _ _ _)

/-- What is known of the frames at a moment of a run whose identifiers are drawn distinct. -/
theorem traced_run (within : behave.Within fun _ => True) (options : Options)
    (token : Option Json) (candidate : Nat → CorrelationId) (desk : ω) (events : List (Event κ ω))
    (distinct : (run behave events (start options token candidate desk)).DistinctDraws) :
    (run behave events (start options token candidate desk)).Ledger ∧
      (run behave events (start options token candidate desk)).Traced := by
  have started : (start options token candidate desk : Client κ ω).Poised :=
    start_poised options token candidate desk
  obtain ⟨moves, path⟩ := run_path within.free
    (fun event (_ : event ∈ events) => within_free event) options token candidate desk
  exact ⟨path.ledger (start_ledger _ _ _ _) distinct, path.preserves_of_distinct
    (fun _ _ coherent ledger traced fits distinct =>
      Traced.move traced coherent ledger fits distinct)
    started.toCoherent (start_ledger _ _ _ _) (start_traced _ _ _ _) distinct⟩

/-- **The request of a call that is over is not written any more**, unless it is underway. -/
theorem not_written_run (within : behave.Within fun _ => True) (poised : client.Poised)
    (ledger : client.Ledger) (events : List (Event κ ω))
    (distinct : (client.run behave events).DistinctDraws) {id : CorrelationId}
    (registered : ∃ issued ∈ client.issued, issued.call.id = id)
    (ended : client.calls.contains id = false)
    (absent : ∀ frame ∈ client.underway, frame.requestId ≠ some id) :
    ∀ sent ∈ (client.run behave events).link.written, sent.frame.requestId ≠ some id := by
  obtain ⟨moves, path⟩ := (run_arrives within.free poised
    fun event (_ : event ∈ events) => within_free event).reaches
  have spent := path.spent poised.toCoherent ledger ⟨registered, ended, absent_iff.2 absent⟩
    distinct
  intro sent member
  refine absent_iff.1 spent.absent sent.frame ?_
  exact List.mem_append_left _ (List.mem_append_left _ (List.mem_map_of_mem member))

/-- **How a session begins.**  In every run in which a socket has settled, and takes whatever is
written to it, and however the run goes on:

* some steps of the driver more, and the prologue of the session is at its end;
* where it is at its end the driver has read the topics, has taken over the backlog, and has ended
  the prologue, at three moments with anything in between.  What the session had written by then
  are one announcement for each topic that was registered when the topics were read, in strictly
  ascending order, and then the requests that were in the backlog when it was taken over and whose
  calls waited then, in their order; and the backlog is empty.  What had been handed to the
  channel at any time until then, also while the observers were told, is still to be written, and
  whatever the session writes later comes after all this;
* if identifiers are drawn distinct, a request that waits in the backlog is not underway, and the
  request of a registered call that is over by any moment and not underway is not written any more.

Where the driver is told to stop, the steps by which it completes the prologue are put in. -/
theorem session_prologue (within : behave.Within fun _ => True) (options : Options)
    (token : Option Json) (candidate : Nat → CorrelationId) (desk : ω)
    (earlier : List (Event κ ω))
    (settling : (run behave earlier (start options token candidate desk)).link.phase = .settling)
    (later : List (Event κ ω)) :
    let first := start options token candidate desk
    let opened := (first.run behave earlier).settled behave none
    let session := opened.link.sessions
    let last := opened.run behave later
    let events := opened.spellOut behave later
    opened.run behave events = last ∧
      (∃ steps, (last.run behave (.replicate steps .proceed)).link.prologue = .complete) ∧
      (last.link.prologue = .complete → ∃ between during meanwhile final,
        let opening := between ++ .proceed :: during ++ .proceed :: meanwhile ++ [.proceed]
        let reading := opened.run behave between
        let emptied := (reading.proceed behave).run behave during
        let written := opened.run behave opening
        events = opening ++ final ∧
          reading.link.prologue = .unread ∧
          emptied.link.prologue = .announcing [] ∧
          written.link.prologue = .complete ∧
          written.framesOf session =
            reading.subscriptions.topics.map .subscribe ++
              emptied.link.backlog.filter emptied.isLive ∧
          reading.subscriptions.topics.Pairwise (fun left right => left.compare right = .lt) ∧
          written.link.backlog = [] ∧
          (∀ past todo, opening = past ++ todo →
            (opened.run behave past).link.channel.getD [] <+: written.link.channel.getD []) ∧
          written.framesOf session <+: last.framesOf session) ∧
      (last.DistinctDraws → ∀ past todo, earlier ++ .settled none :: later = past ++ todo →
        let moment := first.run behave past
        ∀ id,
          ((∃ frame ∈ moment.link.backlog, frame.requestId = some id) →
            ∀ frame ∈ moment.underway, frame.requestId ≠ some id) ∧
          ((∃ issued ∈ moment.issued, issued.call.id = id) → moment.calls.contains id = false →
            (∀ frame ∈ moment.underway, frame.requestId ≠ some id) →
              ∀ sent ∈ last.link.written, sent.frame.requestId ≠ some id)) := by
  intro first opened session last events
  have started : first.Poised := start_poised options token candidate desk
  have settlingPoised : (first.run behave earlier).Poised := poised_run within started earlier
  have step : opened = (Event.settled none).step behave (first.run behave earlier) :=
    (if_pos settling).symm
  have poised : opened.Poised := step ▸ poised_step within settlingPoised (.settled none)
  have whole : ∀ past, first.run behave (earlier ++ .settled none :: past) =
      opened.run behave past := run_settled settling none
  refine ⟨run_spellOut within poised later, ?_, fun complete => ?_, fun distinct => ?_⟩
  · refine ⟨last.prologueSteps, ?_⟩
    rw [run_proceed]
    exact finish_complete within.free (poised_run within poised later)
  · have unread := unread_settled within settlingPoised
      (orderly_run within options token candidate desk earlier) settling
    rw [← unread.2.session] at unread
    have runs : opened.run behave events = last := run_spellOut within poised later
    obtain ⟨between, during, meanwhile, final, reading, emptied, written, spelled, hands, rfl, rfl,
      rfl, rest⟩ := opening_of_complete within poised (spelled_spellOut within poised later) unread
        (by rw [show opened.run behave (opened.spellOut behave later) = last from runs]
            exact complete)
    obtain ⟨atUnread, announced, complete, frames, empty⟩ := rest
    refine ⟨between, during, meanwhile, final, spelled, atUnread, announced, complete, frames, ?_,
      empty, hands, ?_⟩
    · have registered := orderly_run within options token candidate desk
        (earlier ++ .settled none :: between)
      rw [whole] at registered
      exact Topic.sort_ascending registered.held
    · have goesOn := runs
      rw [show events = _ from spelled, run_append _ _ final] at goesOn
      rw [← goesOn]
      exact framesOf_prefix within (poised_run within poised _) final session
  · intro past todo cut moment id
    have ends : moment.run behave todo = last := by
      rw [← run_append, ← cut, whole]
    have atMoment : moment.Poised := poised_run within started past
    obtain ⟨moves, goesOn⟩ := (run_arrives within.free atMoment
      fun event (_ : event ∈ todo) => within_free event).reaches
    rw [← ends] at distinct ⊢
    obtain ⟨ledger, traced⟩ := traced_run within options token candidate desk past
      (distinctDraws_of_path goesOn distinct)
    constructor
    · rintro ⟨frame, queued, named⟩
      exact absent_iff.1 (traced.absent_of_queued queued named)
    · exact not_written_run within atMoment ledger todo distinct

/-- Two calls are made while there is no link. -/
def offline : List (Event Unit Unit) :=
  [.observe (), .act (.subscribe ⟨["news"]⟩ ()), .act (.call ⟨["orders", "stop"]⟩ .null none),
    .act (.call ⟨["orders", "list"]⟩ .null none), .connect true "ws://a", .attempt, .opened]

/-- The first of them is cancelled before the backlog is taken over. -/
def resumed : List (Event Unit Unit) :=
  [.proceed, .proceed, .act (.subscribe ⟨["late"]⟩ ()), .proceed,
    .act (.cancel (CorrelationId.drawn 0)), .proceed, .proceed, .proceed, .emit, .emit]

/-- The observer listens to one more topic when it is told, and so that topic is announced twice. -/
theorem prologue_resumed :
    let behave := joining ⟨["chat"]⟩
    let first : Client Unit Unit := start { queueCalls := true } none CorrelationId.drawn ()
    let last := ((first.run behave offline).settled behave none).run behave resumed
    behave.Within (fun _ => True) ∧
      (first.run behave offline).link.phase = .settling ∧
      last.link.prologue = .complete ∧
      last.DistinctDraws ∧
      last.link.written.map (·.frame.kind) =
        ["subscribe", "subscribe", "request", "subscribe", "subscribe"] ∧
      ∀ sent ∈ last.link.written, sent.frame.requestId ≠ some (CorrelationId.drawn 0) := by
  dsimp only
  have within : (joining ⟨["chat"]⟩).Within (fun _ => True) := fun callback signal client => by
    have canonical : (⟨["chat"]⟩ : Topic).Canonical := by simp [Topic.Canonical]
    obtain ⟨acts, -, does⟩ := joining_within canonical callback signal client
    exact ⟨acts, fun _ _ => trivial, does⟩
  have settling : (run (joining ⟨["chat"]⟩) offline
      (start { queueCalls := true } none CorrelationId.drawn ())).link.phase = .settling := by cbv
  have seen : (fun client : Client Unit Unit =>
      (client.link.prologue, client.idsDrawn, client.link.written.map (·.frame.kind)))
      (run (joining ⟨["chat"]⟩) (offline ++ .settled none :: resumed)
        (start { queueCalls := true } none CorrelationId.drawn ())) =
        (.complete, 2, ["subscribe", "subscribe", "request", "subscribe", "subscribe"]) := by cbv
  simp only [Prod.mk.injEq] at seen
  obtain ⟨complete, drawn, kinds⟩ := seen
  have distinct := distinctDraws_run within.free (fun event _ => within_free event)
    drawn (by decide)
  rw [run_settled settling] at complete kinds distinct
  refine ⟨within, settling, complete, distinct, kinds, ?_⟩
  -- when it has been cancelled it is over, and not underway
  have seen : (fun client : Client Unit Unit =>
      (client.issued.any (fun issued => issued.call.id = CorrelationId.drawn 0),
        client.calls.contains (CorrelationId.drawn 0), client.underway.map (·.isRequest)))
      (run (joining ⟨["chat"]⟩) (offline ++ .settled none :: resumed.take 5)
        (start { queueCalls := true } none CorrelationId.drawn ())) =
        (true, false, [false, false, false, false]) := by cbv
  simp only [Prod.mk.injEq, List.any_eq_true, decide_eq_true_eq] at seen
  obtain ⟨registered, ended, requests⟩ := seen
  obtain ⟨-, -, -, spent⟩ := session_prologue within { queueCalls := true } none
    CorrelationId.drawn () offline settling resumed
  refine (spent distinct (offline ++ .settled none :: resumed.take 5) (resumed.drop 5)
    (by simp [resumed]) _).2 registered ended fun frame member named => ?_
  have none := List.mem_map_of_mem (f := Outbound.isRequest) member
  rw [requests] at none
  simp [Outbound.isRequest, named] at none

end Client

end Switchboard
