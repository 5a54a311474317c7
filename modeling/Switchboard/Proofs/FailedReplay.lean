/-
# Switchboard.Proofs.FailedReplay -- what is left of a replay that fails

A session begins with a replay: it announces every topic and writes the backlog, which it
takes over at once when the topics are through.  Where the socket takes only so many
writes, the replay stops at the first that it does not take, and the link is lost
(`WroteOn`, `announces_until`, `writes_until`).

So it depends on where it stops what becomes of the requests that it has not tried to
write.  While topics are announced they are still in the backlog, and what was left in
the channel is put behind them.  Once the backlog has been taken over they are gone, and
only what was left in the channel is there (`failed_replay`); their calls still wait.

* `failed_replay`: what was written, and what is in the backlog then;
* `untried_lost`: two calls, of which the second is never tried.
-/
import Mathlib
import Switchboard.Proofs.Endings
import Switchboard.Proofs.Prologue
import Switchboard.Proofs.ServerView

namespace Switchboard.Client

set_option autoImplicit false

variable {κ ω : Type} {behave : Behaviour κ ω} {client after : Client κ ω}

/-! ## Holding what is left -/

/-- Of what a client is to hold it holds the requests of waiting calls, behind those it held. -/
theorem filter_holdAll (queues : client.options.queueCalls = true) (left : List Outbound) :
    (client.holdAll left).link.backlog.filter client.isLive =
      client.link.backlog.filter client.isLive ++ left.filter client.isLive := by
  induction left generalizing client with
  | nil => simp [holdAll]
  | cons frame left ih =>
      obtain ⟨backlog, held⟩ := client.hold_link frame
      have lives : (client.hold frame).1.isLive = client.isLive := by
        rw [held]
        rfl
      have later := @ih (client.hold frame).1 (by rw [held]; exact queues)
      rw [holdAll_cons, ← lives, later, lives]
      rcases client.hold_cases frame with ⟨refused, dead⟩ | ⟨live, holds⟩
      · rw [refused, List.filter_cons_of_neg (by simp [dead queues])]
      · rw [holds, List.filter_cons_of_pos live]
        simp [live]

/-! ## How far a replay writes -/

/-- Nothing changed but that the session has written these frames. -/
structure WroteOn (client : Client κ ω) (frames : List Outbound) (after : Client κ ω) : Prop where
  same : after = { client with link := after.link }
  phase : after.link.phase = client.link.phase
  channel : after.link.channel = client.link.channel
  sessions : after.link.sessions = client.link.sessions
  written : after.link.written =
    client.link.written ++ frames.map (fun frame => ⟨client.link.sessions, frame⟩)

theorem WroteOn.trans {middle : Client κ ω} {first second : List Outbound}
    (begins : client.WroteOn first middle) (goesOn : middle.WroteOn second after) :
    client.WroteOn (first ++ second) after where
  same := by rw [goesOn.same, begins.same]
  phase := goesOn.phase.trans begins.phase
  channel := goesOn.channel.trans begins.channel
  sessions := goesOn.sessions.trans begins.sessions
  written := by
    rw [goesOn.written, begins.written, begins.sessions, List.append_assoc, List.map_append]

theorem WroteOn.nil (prologue : Prologue) : client.WroteOn [] (client.setPrologue prologue) :=
  ⟨rfl, rfl, rfl, rfl, (List.append_nil _).symm⟩

theorem WroteOn.one (prologue : Prologue) (frame : Outbound) :
    client.WroteOn [frame] ((client.setPrologue prologue).wrote frame) :=
  ⟨rfl, rfl, rfl, rfl, rfl⟩

theorem WroteOn.isLive {frames : List Outbound} (wrote : client.WroteOn frames after) :
    after.isLive = client.isLive := by
  rw [wrote.same]
  rfl

theorem WroteOn.isAlive {frames : List Outbound} (wrote : client.WroteOn frames after) :
    after.isAlive = client.isAlive := by
  rw [wrote.same]
  rfl

/-- After a step of a prologue it is completed as before. -/
theorem finish_proceed (within : behave.Within fun _ => True) (poised : client.Poised) :
    (client.proceed behave).finish behave = client.finish behave := by
  have ended : ∀ {steps : Nat} {client : Client κ ω}, client.Poised →
      client.prologueSteps ≤ steps → client.proceedFor behave steps = client.finish behave := by
    intro steps client poised enough
    obtain ⟨more, rfl⟩ := Nat.exists_eq_add_of_le enough
    have added : ∀ (first second : Nat) (client : Client κ ω),
        client.proceedFor behave (first + second) =
          (client.proceedFor behave first).proceedFor behave second := by
      intro first second client
      rw [← run_proceed, ← run_proceed, ← run_proceed, List.replicate_add, run_append]
    rw [added]
    exact proceedFor_complete behave more (finish_complete within.free poised)
  by_cases complete : client.link.prologue = .complete
  · rw [proceed_complete behave client complete]
  · have nearer := prologueSteps_proceed within.free poised complete
    obtain ⟨steps, rest⟩ := Nat.exists_eq_succ_of_ne_zero (Nat.ne_of_gt (Nat.zero_lt_of_lt nearer))
    have poised' : (client.proceed behave).Poised := poised_step within poised .proceed
    calc (client.proceed behave).finish behave
        = (client.proceed behave).proceedFor behave steps := (ended poised' (by omega)).symm
      _ = client.proceedFor behave (steps + 1) := rfl
      _ = client.finish behave := by rw [finish, rest]

/-- **A part of a prologue writes as many of its frames as the socket takes.**  If that is all of
them, the prologue goes on; and else the session ends. -/
theorem writes_until {α : Type} (within : behave.Within fun _ => True) (part : List α → Prologue)
    (frame : α → Outbound)
    (writes : ∀ (client : Client κ ω) first left, client.link.prologue = part (first :: left) →
      client.proceed behave = (client.setPrologue (part left)).write behave (frame first))
    {left : List α} {room : Nat} (poised : client.Poised) (begun : client.link.prologue = part left)
    (limit : client.link.room = some room) :
    ∃ last, client.WroteOn ((left.map frame).take room) last ∧
      last.link.backlog = client.link.backlog ∧
      (room < left.length ∧ client.finish behave = last.endSession behave .dropped ∨
        left.length ≤ room ∧ last.link.prologue = part [] ∧
          last.link.room = some (room - left.length) ∧ last.Poised ∧
          client.finish behave = last.finish behave) := by
  induction left generalizing client room with
  | nil =>
      have none : client.WroteOn [] client := ⟨rfl, rfl, rfl, rfl, (List.append_nil _).symm⟩
      exact ⟨client, by simpa using none, rfl, .inr ⟨Nat.zero_le _, begun, limit, poised, rfl⟩⟩
  | cons first left ih =>
      have next := writes client first left begun
      rcases write_cases behave (frame first) (client.setPrologue (part left)) with
        ⟨open', wrote⟩ | ⟨full, ended⟩
      · obtain ⟨room, rfl⟩ : ∃ less, room = less + 1 :=
          Nat.exists_eq_succ_of_ne_zero fun zero => open' (by rw [← zero]; exact limit)
        have poised' := poised_step within poised .proceed
        rw [Event.step, next, wrote] at poised'
        obtain ⟨last, written, backlog, either⟩ := ih poised' rfl
          (show (client.link.room.map (· - 1)) = some room by rw [limit]; rfl)
        have onwards : client.finish behave =
            ((client.setPrologue (part left)).wrote (frame first)).finish behave := by
          rw [← finish_proceed within poised, next, wrote]
        refine ⟨last, (WroteOn.one (part left) (frame first)).trans written, backlog, ?_⟩
        rw [onwards, List.length_cons, Nat.add_sub_add_right]
        rcases either with ⟨less, ended⟩ | ⟨more, rest⟩
        · exact .inl ⟨Nat.succ_lt_succ less, ended⟩
        · exact .inr ⟨Nat.succ_le_succ more, rest⟩
      · obtain rfl : room = 0 := by
          have same : client.link.room = some 0 := full
          simpa [limit] using same
        have complete : ((client.setPrologue (part left)).endSession behave
            .dropped).link.prologue = .complete := by
          have poised' := poised_step within poised .proceed
          rw [Event.step, next, ended] at poised'
          exact poised'.complete (poised'.channel_none (by simp [endSession, awaitRetry]))
        refine ⟨client.setPrologue (part left), by simpa using WroteOn.nil (part left), rfl,
          .inl ⟨Nat.succ_pos _, ?_⟩⟩
        rw [← finish_proceed within poised, next, ended, finish, prologueSteps_eq_zero complete]
        rfl

/-! ## What is left -/

/-- What a replay writes if its socket takes it: an announcement of each topic, and the requests in
the backlog whose calls wait. -/
def replay (client : Client κ ω) : List Outbound :=
  client.subscriptions.topics.map .subscribe ++ client.link.backlog.filter client.isLive

/-- The requests that a replay does not try to write if its socket takes so many frames only. -/
def untried (client : Client κ ω) (room : Nat) : List Outbound :=
  (client.replay.drop (room + 1)).filter (·.isRequest)

/-- A session that ends while its prologue is under way leaves what it has written, and holds what
is left in its channel; then the observers are told. -/
theorem endSession_wroteOn {frames queue : List Outbound} (wrote : client.WroteOn frames after)
    (up : client.isAlive = true) (session : client.link.channel = some queue)
    (keeps : client.options.pendingPolicy = .keep) (calm : behave.Calm) :
    ∃ quiet, client.Muted quiet ∧
      after.endSession behave .dropped = (quiet.toldDown behave).awaitRetry ∧
      quiet.link.written =
        client.link.written ++ frames.map (fun frame => ⟨client.link.sessions, frame⟩) ∧
      quiet.link.backlog = (after.unplugged.holdAll queue).link.backlog := by
  have channel : after.link.channel = some queue := wrote.channel.trans session
  have muted : client.Muted (after.detach.moveTo .disconnected) := by
    have muted := after.muted_detach
    rw [wrote.same] at muted ⊢
    exact muted.of_link
  have detached : after.detach = after.unplugged.holdAll queue := by
    show after.unplugged.holdAll (after.link.channel.getD []) = _
    rw [channel]
    rfl
  refine ⟨_, muted, ?_, ?_, ?_⟩
  · have told := toldDown_calm calm (after.detach.moveTo .disconnected)
    have kept : ((after.detach.moveTo .disconnected).toldDown behave).failLost .dropped true =
        (after.detach.moveTo .disconnected).toldDown behave := by
      refine if_neg ?_
      rw [told.options, muted.options, keeps]
      simp
    show (after.detach.wentDown behave .dropped).awaitRetry = _
    rw [wentDown_detach behave .dropped (wrote.isAlive.trans up), kept]
  · obtain ⟨backlog, held⟩ := after.unplugged.holdAll_link queue
    rw [detached, held]
    exact wrote.written
  · rw [detached]
    rfl

/-- The requests that are not tried are those behind the first that is not taken. -/
theorem untried_eq (client : Client κ ω) (room : Nat) :
    client.untried room = (client.link.backlog.filter client.isLive).drop
      (room + 1 - client.subscriptions.topics.length) := by
  have announcements : ∀ topics : List Topic,
      (topics.map Outbound.subscribe).filter (·.isRequest) = [] := fun topics =>
    List.filter_eq_nil_iff.2 fun frame member => by
      obtain ⟨topic, -, rfl⟩ := List.mem_map.1 member
      simp [Outbound.isRequest, Outbound.requestId]
  have requests : ∀ frame ∈ (client.link.backlog.filter client.isLive).drop
      (room + 1 - client.subscriptions.topics.length), frame.isRequest = true := fun frame member =>
    isRequest_of_isLive (List.mem_filter.1 (List.mem_of_mem_drop member)).2
  rw [untried, replay, List.drop_append, List.filter_append, ← List.map_drop, announcements,
    List.nil_append, List.length_map, List.filter_eq_self.2 requests]

/-- **Where a replay ends**: at a topic, at a request, or not at all. -/
theorem finish_unread (within : behave.Within fun _ => True) (poised : client.Poised)
    (unread : client.link.prologue = .unread) {room : Nat} (limit : client.link.room = some room) :
    ∃ last, client.WroteOn (client.replay.take room) last ∧
      (room < client.subscriptions.topics.length ∧ last.link.backlog = client.link.backlog ∧
          client.finish behave = last.endSession behave .dropped ∨
        client.subscriptions.topics.length ≤ room ∧ room < client.replay.length ∧
          last.link.backlog = [] ∧ client.finish behave = last.endSession behave .dropped ∨
        client.replay.length ≤ room ∧ last.link.backlog = [] ∧ last.link.prologue = .complete ∧
          client.finish behave = last) := by
  have steps : ∀ {client next : Client κ ω}, client.Poised → client.proceed behave = next →
      next.Poised ∧ next.finish behave = client.finish behave := by
    rintro client next poised rfl
    exact ⟨poised_step within poised .proceed, finish_proceed within poised⟩
  -- the topics are read
  obtain ⟨poisedRead, finishRead⟩ := steps poised
    (show client.proceed behave = client.setPrologue (.announcing client.subscriptions.topics) by
      simp [proceed, unread])
  obtain ⟨told, announced, backlog, ⟨less, ended⟩ | ⟨more, through, left, poisedTold, onwards⟩⟩ :=
    writes_until within .announcing .subscribe (fun _ _ _ begun => by simp [proceed, begun])
      poisedRead rfl limit
  · refine ⟨told, ?_, .inl ⟨less, backlog, finishRead.symm.trans ended⟩⟩
    rw [replay, List.take_append_of_le_length (by simpa using less.le)]
    exact (WroteOn.nil _).trans announced
  -- the backlog is taken over
  have announced : client.WroteOn (client.subscriptions.topics.map .subscribe) told := by
    rw [List.take_of_length_le (by simpa using more)] at announced
    exact (WroteOn.nil _).trans announced
  obtain ⟨poisedUnloaded, finishUnloaded⟩ := steps poisedTold
    (show told.proceed behave = told.unload by simp [proceed, through])
  have unloaded : client.WroteOn (client.subscriptions.topics.map .subscribe) told.unload := by
    have nothing : told.WroteOn [] told.unload := ⟨rfl, rfl, rfl, rfl, (List.append_nil _).symm⟩
    simpa using announced.trans nothing
  have flushing : told.unload.link.prologue =
      .flushing (client.link.backlog.filter client.isLive) := by
    show Prologue.flushing (told.link.backlog.filter told.isLive) = _
    rw [backlog, announced.isLive]
    rfl
  obtain ⟨last, flushed, empty, either⟩ := writes_until within .flushing id
    (fun _ _ _ begun => by simp [proceed, begun]) poisedUnloaded flushing left
  have written : client.WroteOn (client.replay.take room) last := by
    have both := unloaded.trans flushed
    rw [List.map_id] at both
    have split : client.replay.take room = client.subscriptions.topics.map .subscribe ++
        (client.link.backlog.filter client.isLive).take
          (room - client.subscriptions.topics.length) := by
      rw [replay, List.take_append, List.length_map,
        List.take_of_length_le (by simpa using more)]
    exact split ▸ both
  have length : client.replay.length = client.subscriptions.topics.length +
      (client.link.backlog.filter client.isLive).length := by
    rw [replay, List.length_append, List.length_map]
  have finished : client.finish behave = told.unload.finish behave := by
    rw [← finishRead, onwards, ← finishUnloaded]
  rcases either with ⟨less, ended⟩ | ⟨enough, done', -, poisedLast, rest⟩
  · exact ⟨last, written, .inr (.inl ⟨more, by omega, empty, finished.trans ended⟩)⟩
  · obtain ⟨-, completed⟩ := steps poisedLast
      (show last.proceed behave = last.setPrologue .complete by simp [proceed, done'])
    have none : (last.setPrologue .complete).finish behave = last.setPrologue .complete := by
      rw [finish, prologueSteps_eq_zero rfl]
      rfl
    refine ⟨last.setPrologue .complete, by simpa using written.trans (WroteOn.nil .complete),
      .inr (.inr ⟨by omega, empty, rfl, ?_⟩)⟩
    rw [finished, rest, ← completed, none]

/-- A list of which each entry passes a test is part of another if it is part of what passes there. -/
theorem sublist_filter_iff {α : Type} {test : α → Bool} {part whole : List α}
    (passes : ∀ entry ∈ part, test entry = true) :
    part.Sublist (whole.filter test) ↔ part.Sublist whole := by
  constructor
  · exact fun sublist => sublist.trans List.filter_sublist
  · intro sublist
    have filtered := sublist.filter test
    rwa [List.filter_eq_self.2 passes] at filtered

/-- What has not been tried is still in a backlog of which this is what waits exactly if the replay
ended at a topic or at its last request. -/
theorem untried_sublist_iff {room : Nat} {queue backlog : List Outbound}
    (fails : room < client.replay.length)
    (left : backlog.filter client.isLive =
      (if room < client.subscriptions.topics.length then client.link.backlog.filter client.isLive
        else []) ++ queue.filter client.isLive) :
    (client.untried room ++ queue.filter client.isLive).Sublist backlog ↔
      room < client.subscriptions.topics.length ∨ room + 1 = client.replay.length := by
  have replayed : client.replay.length = client.subscriptions.topics.length +
      (client.link.backlog.filter client.isLive).length := by
    rw [replay, List.length_append, List.length_map]
  have live : ∀ frame ∈ client.untried room ++ queue.filter client.isLive,
      client.isLive frame = true := by
    intro frame member
    rw [untried_eq] at member
    rcases List.mem_append.1 member with untried | left
    · exact (List.mem_filter.1 (List.mem_of_mem_drop untried)).2
    · exact (List.mem_filter.1 left).2
  rw [← sublist_filter_iff live, left, untried_eq]
  by_cases less : room < client.subscriptions.topics.length
  · have all : room + 1 - client.subscriptions.topics.length = 0 := Nat.sub_eq_zero_of_le less
    rw [if_pos less, all, List.drop_zero]
    exact ⟨fun _ => .inl less, fun _ => List.Sublist.refl _⟩
  · rw [if_neg less, List.nil_append]
    constructor
    · intro sublist
      have short := sublist.length_le
      rw [List.length_append, List.length_drop] at short
      exact .inr (by omega)
    · rintro (now | last)
      · exact absurd now less
      · rw [List.drop_of_length_le (by omega), List.nil_append]

/-- **What is left of a replay.**  Let a session begin whose socket takes so many writes, where
requests are queued and calls kept, whatever is registered, in the backlog and in the channel.

* If the socket takes all of the replay, that is what the session has written, and the backlog is
  empty.
* If it does not, the session has written as much of it as the socket takes, and has ended.  As
  long as not all topics had been announced, what waited in the backlog waits there still; after
  that nothing of it does.  What was left in the channel comes behind it.
* So all that it has not tried to write is in the backlog still, and in order, exactly if it ended
  at a topic or at the last request.  That is before the observers are told; if these leave calls
  alone, no call has ended then, and nothing else has left the backlog. -/
theorem failed_replay (within : behave.Within fun _ => True) (poised : client.Poised)
    (unread : client.link.prologue = .unread) {queue : List Outbound}
    (session : client.link.channel = some queue) {room : Nat}
    (limit : client.link.room = some room) (queues : client.options.queueCalls = true)
    (keeps : client.options.pendingPolicy = .keep) :
    let topics := client.subscriptions.topics
    let final := client.finish behave
    (client.replay.length ≤ room →
      client.WroteOn client.replay final ∧ final.link.prologue = .complete ∧
        final.link.backlog = []) ∧
      (room < client.replay.length → ∃ quiet, client.Muted quiet ∧
        final = (quiet.toldDown behave).awaitRetry ∧
        quiet.link.written = client.link.written ++
          (client.replay.take room).map (fun frame => ⟨client.link.sessions, frame⟩) ∧
        quiet.link.backlog.filter client.isLive =
          (if room < topics.length then client.link.backlog.filter client.isLive else []) ++
            queue.filter client.isLive ∧
        ((client.untried room ++ queue.filter client.isLive).Sublist quiet.link.backlog ↔
          room < topics.length ∨ room + 1 = client.replay.length) ∧
        ((behave.Within fun act => act.isAside = true) →
          final.calls = client.calls ∧ final.link.backlog = quiet.link.backlog)) := by
  intro topics final
  have up : client.isAlive = true := by rw [poised.up, session]; rfl
  have named : topics.length = client.subscriptions.topics.length := rfl
  have replayed : client.replay.length =
      topics.length + (client.link.backlog.filter client.isLive).length := by
    rw [replay, List.length_append, List.length_map]
  obtain ⟨last, wrote, ends⟩ := finish_unread within poised unread limit
  have holds : (last.unplugged.holdAll queue).link.backlog.filter client.isLive =
      last.link.backlog.filter client.isLive ++ queue.filter client.isLive := by
    have held := last.unplugged.filter_holdAll (by
      show last.options.queueCalls = true
      rw [wrote.same]
      exact queues) queue
    rw [show last.unplugged.isLive = last.isLive from rfl, wrote.isLive] at held
    exact held
  constructor
  · intro enough
    rcases ends with ⟨less, -⟩ | ⟨-, less, -⟩ | ⟨-, empty, complete, ended⟩
    · omega
    · omega
    · rw [List.take_of_length_le enough] at wrote
      have same : final = last := ended
      exact same ▸ ⟨wrote, complete, empty⟩
  · intro fails
    obtain ⟨quiet, muted, result, written, backlog⟩ :=
      endSession_wroteOn wrote up session keeps within.calm
    obtain ⟨ended, kept⟩ : final = last.endSession behave .dropped ∧
        last.link.backlog.filter client.isLive =
          if room < topics.length then client.link.backlog.filter client.isLive else [] := by
      rcases ends with ⟨less, same, ended⟩ | ⟨more, -, empty, ended⟩ | ⟨enough, -⟩
      · exact ⟨ended, by rw [same, if_pos less]⟩
      · exact ⟨ended, by rw [empty, if_neg (by omega)]; rfl⟩
      · omega
    have left : quiet.link.backlog.filter client.isLive =
        (if room < topics.length then client.link.backlog.filter client.isLive else []) ++
          queue.filter client.isLive := by
      rw [backlog, holds, kept]
    refine ⟨quiet, muted, ended.trans result, written, left, untried_sublist_iff fails left,
      fun leaves => ?_⟩
    obtain ⟨calls, same⟩ := notifyAll_aside leaves (.alive false) quiet
      quiet.connectivity.observers
    rw [ended.trans result]
    exact ⟨calls.trans muted.calls, same⟩

/-- A session whose socket takes one frame, with a topic and three requests to replay and a fourth
in its channel. -/
def shortOfRoom : List (Event Unit Unit) :=
  [.act (.subscribe ⟨["news"]⟩ ()), .act (.call ⟨["orders", "stop"]⟩ .null none),
    .act (.call ⟨["orders", "list"]⟩ .null none), .act (.call ⟨["orders", "add"]⟩ .null none),
    .connect true "ws://a", .attempt, .opened, .settled (some 1),
    .act (.call ⟨["orders", "drop"]⟩ .null none)]

/-- The first request is not taken, and those behind it are not tried: of four calls that wait, only
the one whose request was in the channel has it in the backlog. -/
theorem failed_replay_shortOfRoom :
    let client := run silent shortOfRoom
      (start { queueCalls := true } none CorrelationId.drawn ())
    let final := client.finish silent
    client.Poised ∧ client.link.prologue = .unread ∧ client.link.channel.isSome = true ∧
      client.link.room = some 1 ∧ client.options.queueCalls = true ∧
      client.options.pendingPolicy = .keep ∧ client.replay.length = 4 ∧
      (client.untried 1).length = 2 ∧ client.calls.pending.length = 4 ∧
      final.calls = client.calls ∧
      (final.link.backlog.filter client.isLive).map (·.requestId) =
        [some (CorrelationId.drawn 3)] := by
  dsimp only
  have seen : (fun client : Client Unit Unit => (client.link.prologue,
      client.link.channel.isSome, client.link.room, client.options.queueCalls,
      client.options.pendingPolicy, client.replay.length, (client.untried 1).length,
      client.calls.pending.length, client.subscriptions.topics.length,
      ((client.link.channel.getD []).filter client.isLive).map (·.requestId)))
      (run silent shortOfRoom (start { queueCalls := true } none CorrelationId.drawn ())) =
        (.unread, true, some 1, true, .keep, 4, 2, 4, 1, [some (CorrelationId.drawn 3)]) := by
    cbv
  simp only [Prod.mk.injEq] at seen
  obtain ⟨unread, some, limit, queues, keeps, length, untried, waiting, topics, left⟩ := seen
  have poised : (run silent shortOfRoom
      (start { queueCalls := true } none CorrelationId.drawn ())).Poised :=
    poised_run (silent_within _) (start_poised ..) shortOfRoom
  obtain ⟨queue, session⟩ := Option.isSome_iff_exists.1 some
  obtain ⟨quiet, -, -, -, backlog, -, aside⟩ :=
    (failed_replay (silent_within _) poised unread session limit queues keeps).2 (by omega)
  obtain ⟨calls, same⟩ := aside (silent_within _)
  refine ⟨poised, unread, some, limit, queues, keeps, length, untried, waiting, calls, ?_⟩
  rw [session] at left
  rw [same, backlog, if_neg (by omega)]
  exact left

/-- **A request that a replay has not tried to write may be lost**, while its call waits: here the
first of two is not taken, and neither is in the backlog then. -/
theorem untried_lost :
    let client := run silent
      [.act (.call ⟨["arena", "stop"]⟩ .null none), .act (.call ⟨["arena", "go"]⟩ .null none),
        .connect true "ws://a", .attempt, .opened, .settled (some 0)]
      (start { queueCalls := true } none CorrelationId.drawn ())
    let final := client.finish silent
    client.Poised ∧ client.link.prologue = .unread ∧ client.link.channel.isSome = true ∧
      client.link.room = some 0 ∧ client.options.queueCalls = true ∧
      client.options.pendingPolicy = .keep ∧ 0 < client.replay.length ∧
      (client.untried 0).map (·.requestId) = [some (CorrelationId.drawn 1)] ∧
      final.calls.contains (CorrelationId.drawn 1) = true ∧ final.link.phase = .waiting ∧
      ¬ (client.untried 0).Sublist final.link.backlog := by
  dsimp only
  have seen : (fun client : Client Unit Unit => (client.link.prologue,
      client.link.channel.isSome, client.link.room, client.options.queueCalls,
      client.options.pendingPolicy, client.replay.length,
      (client.untried 0).map (·.requestId),
      (client.finish silent).calls.contains (CorrelationId.drawn 1),
      (client.finish silent).link.phase, (client.finish silent).link.backlog.length))
      (run silent
        [.act (.call ⟨["arena", "stop"]⟩ .null none), .act (.call ⟨["arena", "go"]⟩ .null none),
          .connect true "ws://a", .attempt, .opened, .settled (some 0)]
        (start { queueCalls := true } none CorrelationId.drawn ())) =
        (.unread, true, some 0, true, .keep, 2, [some (CorrelationId.drawn 1)], true, .waiting,
          0) := by cbv
  simp only [Prod.mk.injEq] at seen
  obtain ⟨unread, some, limit, queues, keeps, length, untried, waits, phase, empty⟩ := seen
  refine ⟨poised_run (silent_within _) (start_poised ..) _, unread, some, limit, queues, keeps,
    by omega, untried, waits, phase, fun sublist => ?_⟩
  have count := congrArg List.length untried
  have short := sublist.length_le
  rw [List.length_map] at count
  rw [empty, count] at short
  simp at short

end Switchboard.Client
