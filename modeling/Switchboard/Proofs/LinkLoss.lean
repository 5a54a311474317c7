/-
# Switchboard.Proofs.LinkLoss -- what becomes of calls when the link is lost

The policy decides only when a link that was up goes down, and after the observers have
been told (`Client.Loses`).  Where calls are kept nothing else happens to them: each may
be answered in whatever session comes (`Client.MaySettle`).  Where they fail, all of them
fail, and once their callers know nothing is left of them (`gone_at_rest`).  An attempt
that fails tells nobody and decides nothing (`attemptFailed_step`).

Under the failing policy and without queueing, a call that is made without a session fails
at once (`Cut.perform`).  So without a link no call waits (`pending_step`, `pending_run`):
unless the client is dropped, which nobody does while a call of it waits.

* `link_loss_policy`: all of it, over every run;
* `link_loss_meddled`: an observer that cancels a call when it is told.
-/
import Mathlib
import Switchboard.Proofs.Endings
import Switchboard.Proofs.Lifecycle
import Switchboard.Proofs.Prologue
import Switchboard.Proofs.RequestOrder
import Switchboard.Proofs.Snapshot

namespace Switchboard.Client

set_option autoImplicit false

variable {κ ω : Type} {behave : Behaviour κ ω} {client told after : Client κ ω}

/-! ## What a loss comes to -/

/-- What losing the link does; `told` is the client after its observers were told. -/
structure Loses (behave : Behaviour κ ω) (client told after : Client κ ω) : Prop where
  up : client.isAlive = true
  /-- Before the observers are told, nothing changes but the link; they are told once. -/
  tells : client.Tells behave told
  /-- Where calls are kept, nothing else changes but the link. -/
  keeps : client.options.pendingPolicy = .keep → ∃ link, after = { told with link }
  /-- Where they fail, every call that waits fails, and nothing else changes but the link. -/
  fails : client.options.pendingPolicy = .fail → ∃ link, after = { told with
    link, calls := (told.calls.rejectAll .connectionClosed).1 }
  /-- The driver goes on. -/
  waits : after.state = .disconnected ∧ after.link.phase = .waiting

theorem Loses.calls_keep (loses : client.Loses behave told after)
    (keeps : client.options.pendingPolicy = .keep) : after.calls = told.calls := by
  obtain ⟨link, kept⟩ := loses.keeps keeps
  rw [kept]

theorem Loses.calls_fail (loses : client.Loses behave told after)
    (fails : client.options.pendingPolicy = .fail) :
    after.calls = (told.calls.rejectAll .connectionClosed).1 := by
  obtain ⟨link, failed⟩ := loses.fails fails
  rw [failed]

theorem IsLost.loses (calm : behave.Calm) (lost : client.IsLost behave after) :
    ∃ told, client.Loses behave told after := by
  have waits := lost.waits calm
  obtain ⟨up, quiet, muted, rfl⟩ := lost
  have options : (quiet.toldDown behave).options = client.options :=
    (toldDown_calm calm quiet).options.trans muted.options
  refine ⟨quiet.toldDown behave, up, ⟨quiet, muted, by rw [informed, if_pos up]⟩,
    fun keeps => ?_, fun fails => ?_, waits.2.2.2, waits.1⟩
  · have same : (quiet.toldDown behave).failLost .dropped true = quiet.toldDown behave :=
      if_neg (by simp [options, keeps])
    rw [same]
    exact ⟨_, rfl⟩
  · have failed : (quiet.toldDown behave).failLost .dropped true =
        ((quiet.toldDown behave).rejectAll .connectionClosed).1 :=
      if_pos ⟨rfl, rfl, options ▸ fails⟩
    rw [failed]
    exact ⟨_, rfl⟩

/-- What is in store for a call that waits: it may be settled by a reply whenever a session hears
one, with what it grants or with its refusal, and until then it waits, unless something else decides
about it.  A lost link does not. -/
structure MaySettle (behave : Behaviour κ ω) (client : Client κ ω) (call : PendingCall) :
    Prop where
  granted : ∀ later text data further, let now := client.run behave later
    call ∈ now.calls.pending → now.isPumping = true →
      Inbound.decode text = .ok (.reply call.id (.ok data)) →
        (((Event.hear text).step behave now).run behave further).calls.endings.filter
            (fun other => other.1 = call.ticket) =
          [(call.ticket, .resolved (.ok data))]
  refused : ∀ later text message further, let now := client.run behave later
    call ∈ now.calls.pending → now.isPumping = true →
      Inbound.decode text = .ok (.reply call.id (.error message)) →
        (((Event.hear text).step behave now).run behave further).calls.endings.filter
            (fun other => other.1 = call.ticket) =
          [(call.ticket, .resolved (.error (.remote call.path.wire message)))]
  history : ∀ later, (client.run behave later).DistinctDraws →
    ∃ moves, client.Path .free moves (client.run behave later) ∧ .failAll ∉ moves ∧
      (client.run behave later).Stands call (moves.findSome? (Move.verdict call))

/-- Where calls are kept, no move fails them all but the end of the client. -/
theorem failAll_not_mem {licence : Licence κ ω} {moves : List (Move κ ω)}
    (path : client.Path licence moves after) (keeps : client.options.pendingPolicy = .keep) :
    .failAll ∉ moves := by
  induction path with
  | still => simp
  | move path move fits ih =>
      intro member
      rcases List.mem_append.1 member with before | now
      · exact ih before
      · obtain rfl : .failAll = move := List.mem_singleton.1 now
        have policy := fits.1
        rw [path.options, keeps] at policy
        cases policy

/-- A reply that a session hears settles the call that it names, once and for all. -/
theorem ended_hear (within : behave.Within fun _ => True) (poised : client.Poised)
    (sound : client.calls.Sound) {call : PendingCall} (waits : call ∈ client.calls.pending)
    (pumping : client.isPumping = true) {text : String} {reply : Except String Json}
    (decodes : Inbound.decode text = .ok (.reply call.id reply)) (further : List (Event κ ω)) :
    (((Event.hear text).step behave client).run behave further).calls.endings.filter
        (fun other => other.1 = call.ticket) =
      [(call.ticket, .resolved (CallTable.replyOutcome reply call))] := by
  have settled : (Event.hear text).step behave client =
      { client with calls := (client.calls.settle call.id reply).1 } := by
    simp [Event.step, pumping, hear, route, decodes]
  have heard : ((Event.hear text).step behave client).calls =
      (client.calls.settle call.id reply).1 := congrArg Client.calls settled
  refine ended_run within (poised_step within poised _) ?_ ?_ further
  · rw [heard]
    exact sound.finish call.id _
  · rw [heard, CallTable.settle, sound.finish_waiting waits]
    exact List.mem_cons_self

theorem calls_sound_later (within : behave.Within fun _ => True) (poised : client.Poised)
    (sound : client.calls.Sound) (later : List (Event κ ω)) :
    (client.run behave later).calls.Sound := by
  obtain ⟨moves, path⟩ := (run_arrives within.free poised
    fun event (_ : event ∈ later) => within_free event).reaches
  exact path.calls_sound sound

theorem maySettle (within : behave.Within fun _ => True) (poised : client.Poised)
    (sound : client.calls.Sound) (ledger : client.Ledger)
    (keeps : client.options.pendingPolicy = .keep) {call : PendingCall}
    (waits : call ∈ client.calls.pending) : client.MaySettle behave call where
  granted later _ _ further still pumping decodes :=
    ended_hear within (poised_run within poised later)
      (calls_sound_later within poised sound later) still pumping decodes further
  refused later _ _ further still pumping decodes :=
    ended_hear within (poised_run within poised later)
      (calls_sound_later within poised sound later) still pumping decodes further
  history later distinct := by
    obtain ⟨moves, path⟩ := (run_arrives within.free poised
      fun event (_ : event ∈ later) => within_free event).reaches
    have stands : client.Stands call none := waits
    have later := stands_path path ledger distinct stands
    rw [Option.none_or] at later
    exact ⟨moves, path, failAll_not_mem path keeps, later⟩

/-! ## At rest -/

/-- The backlog of a run whose identifiers are drawn distinct holds requests of calls with
callers. -/
theorem queued_run (within : behave.Within fun _ => True) (options : Options)
    (token : Option Json) (candidate : Nat → CorrelationId) (desk : ω) (events : List (Event κ ω))
    (distinct : (run behave events (start options token candidate desk)).DistinctDraws) :
    (run behave events (start options token candidate desk)).Queued := by
  have started : (start options token candidate desk : Client κ ω).Poised := start_poised ..
  obtain ⟨moves, path⟩ := run_path within.free
    (fun event (_ : event ∈ events) => within_free event) options token candidate desk
  have kept : ∀ (client : Client κ ω) (move : Move κ ω), client.Coherent → client.Ledger →
      client.Traced ∧ client.Queued → move.Fits .free client →
        (move.apply client).DistinctDraws →
          (move.apply client).Traced ∧ (move.apply client).Queued :=
    fun _ _ coherent ledger before fits distinct =>
      ⟨before.1.move coherent ledger fits distinct,
        before.2.move coherent ledger before.1 fits distinct⟩
  have begins : (start options token candidate desk : Client κ ω).Traced ∧
      (start options token candidate desk : Client κ ω).Queued :=
    ⟨start_traced options token candidate desk, .of_empty rfl⟩
  exact (path.preserves_of_distinct kept started.toCoherent (start_ledger _ _ _ _) begins
    distinct).2

/-- **At rest nothing is left of a call that has ended**, neither in the table nor in the backlog. -/
theorem gone_at_rest (ledger : client.Ledger) (traced : client.Traced) (queued : client.Queued)
    (distinct : client.DistinctDraws) (rest : client.AtRest) {issued : Issued}
    (member : issued ∈ client.issued) {ending : CallEnd}
    (ended : (issued.call.ticket, ending) ∈ client.calls.endings) :
    client.calls.contains issued.call.id = false ∧
      ∀ frame ∈ client.link.backlog, frame.requestId ≠ some issued.call.id := by
  -- a call of the same identifier is that call, which waits no longer
  have none : ∀ call ∈ client.calls.pending, call.id ≠ issued.call.id := by
    intro call waits same
    obtain ⟨other, otherMember, rfl⟩ := ledger.issued_of_pending waits
    obtain rfl := ledger.issued_unique_id distinct otherMember member same
    exact List.disjoint_of_nodup_append ledger.sound.nodup_tickets
      (List.mem_map_of_mem (f := (·.ticket)) waits) (List.mem_map_of_mem (f := (·.1)) ended)
  constructor
  · rw [Bool.eq_false_iff, ne_eq, CallTable.contains_iff]
    rintro ⟨call, waits, same⟩
    exact none call waits same
  · intro frame inBacklog named
    obtain ⟨call, waits, name⟩ := (queued.of_rest ledger traced rest).2 frame inBacklog
    exact none call waits (Option.some.inj (name.symm.trans named))

/-- So it is in every run, of a call that waited once and has ended since. -/
theorem gone_run (within : behave.Within fun _ => True) (options : Options)
    (token : Option Json) (candidate : Nat → CorrelationId) (desk : ω)
    (past later : List (Event κ ω)) :
    let before := run behave past (start options token candidate desk)
    let now := before.run behave later
    ∀ call ∈ before.calls.pending, ∀ ending, (call.ticket, ending) ∈ now.calls.endings →
      now.DistinctDraws → now.AtRest →
        now.calls.contains call.id = false ∧
          ∀ frame ∈ now.link.backlog, frame.requestId ≠ some call.id := by
  intro before now call waits ending ended distinct rest
  have poised : before.Poised := poised_run within (start_poised options token candidate desk) past
  have whole : now = run behave (past ++ later) (start options token candidate desk) :=
    (run_append behave past later _).symm
  obtain ⟨moves, path⟩ : Reaches .free before now :=
    (run_arrives within.free poised fun event (_ : event ∈ later) => within_free event).reaches
  obtain ⟨ledgerBefore, -⟩ := traced_run within options token candidate desk past
    (distinctDraws_of_path path distinct)
  obtain ⟨issued, made, rfl⟩ := ledgerBefore.issued_of_pending waits
  have member := path.issued_prefix.subset made
  rw [whole] at distinct rest ended member ⊢
  obtain ⟨ledger, traced⟩ := traced_run within options token candidate desk _ distinct
  exact gone_at_rest ledger traced (queued_run within options token candidate desk _ distinct)
    distinct rest member ended

/-! ## Attempts that fail -/

/-- An attempt that fails is one more wait: whoever listens, no call, no queued request and no
callback learns of it. -/
theorem attemptFailed_step (poised : client.Poised) (attempting : client.link.phase = .attempting)
    (behave : Behaviour κ ω) :
    Event.attemptFailed.step behave client = { client with
      connectivity := client.connectivity.moveTo .disconnected
      link := { client.link with
        phase := .waiting
        delay := client.link.backoff.next.1
        backoff := client.link.backoff.next.2 } } := by
  have down := poised.down (poised.channel_none (by simp [attempting]))
  have failed : Event.attemptFailed.step behave client = client.attemptFailed behave :=
    if_pos attempting
  rw [failed, attemptFailed, wentDown_still .dropped down]
  rfl

/-! ## Without a link, where calls fail and are not queued -/

/-- There is no session, no request may wait for one, and no call waits. -/
structure Cut (client : Client κ ω) : Prop where
  channel : client.link.channel = none
  policy : client.options.pendingPolicy = .fail
  unqueued : client.options.queueCalls = false
  pending : client.calls.pending = []

namespace Cut

theorem of_calm (cut : client.Cut) (calm : client.Calm after)
    (pending : after.calls.pending = []) : after.Cut where
  channel := by
    rw [← Option.not_isSome_iff_eq_none, calm.channel_isSome, cut.channel]
    simp
  policy := by rw [calm.options, cut.policy]
  unqueued := by rw [calm.options, cut.unqueued]
  pending := pending

/-- A call that is made fails at once. -/
theorem pending_call (cut : client.Cut) (path : Topic) (data : Json) (limit : Option Span) :
    (client.call path data limit).1.calls.pending = [] := by
  rcases client.call_cases path data limit with
    same | ⟨issued, -, -, books, ⟨-, goes⟩ | ⟨failed, -⟩⟩
  · rw [same, cut.pending]
  · -- its request is neither sent nor held
    have none : (client.book issued).link.channel = none := cut.channel
    have off : (client.book issued).options.queueCalls = false := cut.unqueued
    have refused := goes cut.policy
    rw [send, none] at refused
    simp [hold_refused _ _ off] at refused
  · rw [failed]
    show ((client.book issued).calls.finish issued.call.id fun _ => .closed).1.pending = []
    rw [CallTable.pending_finish, books.pending, cut.pending]
    simp

/-- No act makes a call wait. -/
theorem perform (cut : client.Cut) (act : Act κ ω) : (act.perform client).Cut := by
  refine cut.of_calm (perform_calm act client) ?_
  have finishes : ∀ (id : CorrelationId) ending,
      (client.calls.finish id ending).1.pending = [] := by
    intro id ending
    rw [CallTable.pending_finish, cut.pending]
    rfl
  have parts : ∀ {after : Client κ ω}, client.Parts after → after.calls.pending = [] := by
    rintro after (rfl | ⟨awaited, -, farewell, -, rfl⟩)
    · exact cut.pending
    · exact finishes awaited.id _
  cases act with
  | call path data limit => exact cut.pending_call path data limit
  | cancel id => exact finishes id _
  | conclude ticket => exact parts (client.conclude_parts ticket)
  | expire ticket => exact parts (client.expire_parts ticket)
  | abandon ticket => exact parts (client.abandon_parts ticket)
  | subscribe | unsubscribe | enlist | setToken | note =>
      rw [(perform_bystander rfl client).calls, cut.pending]

theorem performAll (cut : client.Cut) (acts : List (Act κ ω)) : (client.performAll acts).Cut := by
  induction acts generalizing client with
  | nil => exact cut
  | cons act acts ih => exact ih (cut.perform act)

theorem notifyAll (within : behave.Within fun _ => True) (cut : client.Cut) (signal : Signal)
    (entries : List (HandleId × κ)) : (notifyAll behave signal client entries).Cut := by
  obtain ⟨acts, does⟩ := notifyAll_actsTo within signal client entries
  exact does ▸ cut.performAll acts

/-- Where the link is down, whatever does not bring it up leaves no call waiting. -/
theorem step (within : behave.Within fun _ => True) (poised : client.Poised) (cut : client.Cut)
    (event : Event κ ω) (down : (event.step behave client).state ≠ .connected) :
    (event.step behave client).calls.pending = [] := by
  have notLive : client.link.phase ≠ .live := fun live => by
    have held := poised.held live
    simp [cut.channel] at held
  have idle : client.isPumping = false := by simp [isPumping, notLive]
  have acts : ∀ {after : Client κ ω}, client.ActsTo after → after.calls.pending = [] := by
    rintro after ⟨acts, rfl⟩
    exact (cut.performAll acts).pending
  -- an event that changes nothing but the link
  have same : (event.step behave client).calls = client.calls →
      (event.step behave client).calls.pending = [] := fun calls => by rw [calls, cut.pending]
  cases event with
  | act deed => exact (cut.perform deed).pending
  | observe callback =>
      obtain ⟨deeds, -, does⟩ := within callback (.alive (client.enlist callback).1.isAlive)
        (client.enlist callback).1
      exact acts ⟨.enlist callback :: deeds, does⟩
  | unsubscribeAll handles => exact acts ⟨_, client.unsubscribeAll_eq handles⟩
  | dispose scope => exact acts ⟨_, client.unsubscribeAll_eq scope.handles⟩
  | collect => exact acts ⟨_, client.concludeAll_eq _⟩
  | connect runtime address =>
      refine same ?_
      rw [Event.step, connect]
      split
      · rfl
      · repeat' split
        all_goals rfl
  | close => rfl
  | shutdown =>
      refine same ?_
      obtain ⟨connectivity, stopped, -⟩ := stop_still behave poised notLive
      rw [Event.step, stopped]
      rfl
  | attempt =>
      by_cases ready : client.link.phase = .starting ∨ client.link.phase = .waiting
      · exact same (by simp [Event.step, ready, attempt_eq behave poised ready, moveTo, enter])
      · exact same (by simp [Event.step, ready])
  | attemptFailed =>
      by_cases attempting : client.link.phase = .attempting
      · exact same (by rw [attemptFailed_step poised attempting])
      · exact same (by simp [Event.step, attempting])
  | opened => exact same (by rw [Event.step]; split <;> rfl)
  | settled room =>
      by_cases settling : client.link.phase = .settling
      · -- the link is up then
        have told := notifyAll_calm within.calm (.alive true)
          ((client.openSession room).moveTo .connected) client.connectivity.observers
        have up := told.state.trans ((client.openSession room).state_moveTo .connected)
        rw [← settled_eq behave poised settling] at up
        simp [Event.step, settling, up] at down
      · exact same (by simp [Event.step, settling])
  | proceed => exact same (by rw [Event.step, proceed_complete _ _ (poised.complete cut.channel)])
  | emit => exact same (by simp [Event.step, emit, cut.channel])
  | hear | lose => exact same (by simp [Event.step, idle])

end Cut

/-- **Where calls fail and are not queued, no call waits while the link is down**, if none does when
the last holder of the client lets go of it: one step. -/
theorem pending_step (within : behave.Within fun _ => True) (poised : client.Poised)
    (policy : client.options.pendingPolicy = .fail) (unqueued : client.options.queueCalls = false)
    (rest : client.state ≠ .connected → client.calls.pending = []) {event : Event κ ω}
    (dropped : event = .shutdown → client.calls.pending = [])
    (down : (event.step behave client).state ≠ .connected) :
    (event.step behave client).calls.pending = [] := by
  by_cases up : client.isAlive = true
  · by_cases closes : event = .close
    · subst closes
      rfl
    by_cases stops : event = .shutdown
    · subst stops
      have live : client.link.phase = .live := poised.live (poised.up.symm.trans up)
      obtain ⟨quiet, calls, link, muted, stopped, -, -, -, together⟩ :=
        stop_live within.calm poised live
      have cut : quiet.Cut := ⟨muted.channel, by rw [muted.options, policy],
        by rw [muted.options, unqueued], by rw [muted.calls, dropped rfl]⟩
      rw [Event.step, stopped]
      exact together.pending_nil (cut.notifyAll within _ _).pending
    · have lowered : (event.step behave client).isAlive = false := by
        rw [Bool.eq_false_iff, ne_eq, isAlive_iff]
        exact down
      obtain ⟨told, loses⟩ :=
        (exists_loss within.calm poised up closes stops lowered).loses within.calm
      obtain ⟨link, failed⟩ := loses.fails policy
      rw [failed]
      rfl
  · have none : client.link.channel = none := by
      rw [poised.up] at up
      simpa using up
    have cut : client.Cut := ⟨none, policy, unqueued, rest fun connected =>
      up ((isAlive_iff client).2 connected)⟩
    exact cut.step within poised event down

/-- So it is in every run. -/
theorem pending_run (within : behave.Within fun _ => True) (poised : client.Poised)
    (policy : client.options.pendingPolicy = .fail) (unqueued : client.options.queueCalls = false)
    (rest : client.state ≠ .connected → client.calls.pending = []) (events : List (Event κ ω))
    (dropped : ∀ past todo, events = past ++ .shutdown :: todo →
      (client.run behave past).calls.pending = [])
    (down : (client.run behave events).state ≠ .connected) :
    (client.run behave events).calls.pending = [] := by
  induction events generalizing client with
  | nil => exact rest down
  | cons event events ih =>
      have options : (event.step behave client).options = client.options := by
        obtain ⟨moves, path⟩ := (step_arrives within.free poised (within_free event)).reaches
        exact path.options
      refine ih (poised_step within poised event) (options ▸ policy) (options ▸ unqueued)
        (fun lowered => ?_) (fun past todo cut => ?_) down
      · refine pending_step within poised policy unqueued rest (fun stops => ?_) lowered
        exact dropped [] events (by rw [stops]; rfl)
      · exact dropped (event :: past) todo (by rw [cut]; rfl)

/-- **What becomes of calls when the link is lost.**  Take any run, and callbacks that do whatever
they like but connect and close.

* Whenever the link goes down, and the driver is not stopped, the observers are told, once, and
  then the policy decides (`Loses`); a call that waited waits until then, unless an observer ended
  it.  If calls are kept, each that waits may still be settled in whatever session comes, and
  waits until something else decides about it (`MaySettle`).  If they fail, none waits any longer,
  each ends once in all that follows, and once all callers know, neither the table nor the
  backlog has anything of these calls.
* An attempt that fails is one more wait, whoever listens.
* If calls fail and are not queued, none waits while the link is down, provided that none waits
  when nobody holds the client any more. -/
theorem link_loss_policy (within : behave.Within fun _ => True) (options : Options)
    (token : Option Json) (candidate : Nat → CorrelationId) (desk : ω)
    (events : List (Event κ ω)) :
    let first := start options token candidate desk
    let client := first.run behave events
    (∀ event : Event κ ω, event ≠ .close → event ≠ .shutdown →
      client.state = .connected → (event.step behave client).state ≠ .connected →
        let after := event.step behave client
        ∃ told, client.Loses behave told after ∧
          ((behave.Within fun act => act.isAside = true) → told.calls = client.calls) ∧
          (∀ call ∈ client.calls.pending, call ∈ told.calls.pending ∨
            ∃ ending, (call.ticket, ending) ∈ told.calls.endings ∧
              ¬ behave.Within fun act => act.isAside = true) ∧
          (options.pendingPolicy = .keep → after.DistinctDraws →
            ∀ call ∈ told.calls.pending, call ∈ after.calls.pending ∧ after.MaySettle behave call) ∧
          (options.pendingPolicy = .fail → after.calls.pending = [] ∧
            ∀ call ∈ client.calls.pending,
              (∃ ending,
                (∀ later, (after.run behave later).calls.endings.filter
                  (fun other => other.1 = call.ticket) = [(call.ticket, ending)]) ∧
                (ending = .resolved (.error .connectionClosed) ∨
                  (call.ticket, ending) ∈ told.calls.endings ∧ client.isAlive = true ∧
                    ¬ behave.Within fun act => act.isAside = true)) ∧
              ∀ later, (after.run behave later).DistinctDraws → (after.run behave later).AtRest →
                (after.run behave later).calls.contains call.id = false ∧
                  ∀ frame ∈ (after.run behave later).link.backlog,
                    frame.requestId ≠ some call.id)) ∧
      (client.link.phase = .attempting → ∀ (υ : Type) (desk : υ) (others : Behaviour κ υ),
        Event.attemptFailed.step others (client.withDesk desk) = { client.withDesk desk with
          connectivity := client.connectivity.moveTo .disconnected
          link := { client.link with
            phase := .waiting
            delay := client.link.backoff.next.1
            backoff := client.link.backoff.next.2 } }) ∧
      (options.pendingPolicy = .fail → options.queueCalls = false →
        (∀ past todo, events = past ++ .shutdown :: todo →
          (first.run behave past).calls.pending = []) →
        client.state ≠ .connected → client.calls.pending = []) := by
  intro first client
  have poised : client.Poised := poised_run within (start_poised options token candidate desk) events
  have sound : client.calls.Sound := calls_sound_run within options token candidate desk events
  have constant : client.options = options := by
    obtain ⟨moves, path⟩ := run_path within.free
      (fun event (_ : event ∈ events) => within_free event) options token candidate desk
    exact path.options
  refine ⟨fun event notClose notShutdown up down => ?_, fun attempting υ desk others => ?_,
    fun policy unqueued dropped down => ?_⟩
  · intro after
    have lowered : after.isAlive = false := by
      rw [Bool.eq_false_iff, ne_eq, isAlive_iff]
      exact down
    obtain ⟨moves, path⟩ : Reaches .free client after :=
      (step_arrives within.free poised (within_free event)).reaches
    have afterPoised : after.Poised := poised_step within poised event
    have afterSound : after.calls.Sound := path.calls_sound sound
    obtain ⟨told, loses⟩ := (exists_loss within.calm poised ((isAlive_iff client).2 up) notClose
      notShutdown lowered).loses within.calm
    refine ⟨told, loses, fun leaves => loses.tells.calls (.inr leaves), fun call waits => ?_,
      fun keeps distinct call waits => ?_, fun fails => ?_⟩
    · refine (loses.tells.waits_or_ended within sound waits).imp_right ?_
      rintro ⟨ending, ended⟩
      exact ⟨ending, ended, (loses.tells.of_ended sound waits ended).2⟩
    · have still : call ∈ after.calls.pending := by
        rw [loses.calls_keep (constant.symm ▸ keeps)]
        exact waits
      have reached : after = first.run behave (events ++ [event]) :=
        (run_append behave events [event] first).symm
      have ledger : after.Ledger :=
        reached ▸ (traced_run within options token candidate desk _ (reached ▸ distinct)).1
      exact ⟨still, maySettle within afterPoised afterSound ledger
        ((path.options.trans constant).symm ▸ keeps) still⟩
    · have calls : after.calls = (told.calls.rejectAll .connectionClosed).1 :=
        loses.calls_fail (constant.symm ▸ fails)
      refine ⟨congrArg CallTable.pending calls, fun call waits => ?_⟩
      obtain ⟨ending, once, either⟩ :=
        loses.tells.ends_once within sound afterPoised afterSound calls waits
      refine ⟨⟨ending, once, either⟩, fun later distinct rest => ?_⟩
      have ended : (call.ticket, ending) ∈ (after.run behave later).calls.endings := by
        have member : (call.ticket, ending) ∈ (after.run behave later).calls.endings.filter
            (fun other => other.1 = call.ticket) := by
          rw [once later]
          exact List.mem_cons_self
        exact (List.mem_filter.1 member).1
      exact gone_run within options token candidate desk events (event :: later) call waits ending
        ended distinct rest
  · have observed : (client.withDesk desk).Poised :=
      ⟨⟨poised.up, poised.live, poised.complete⟩, poised.held⟩
    exact attemptFailed_step observed attempting others
  · exact pending_run within (start_poised options token candidate desk) policy unqueued
      (fun _ => rfl) events dropped down

theorem joining_aside (topic : Topic) :
    (joining topic).Within fun act => act.isAside = true := by
  intro callback signal client
  unfold joining
  split
  · exact ⟨[.subscribe topic callback], by simp [Act.isAside], rfl⟩
  · exact ⟨[], by simp, rfl⟩

/-- A session that has written the request of one call, and has that of another in its channel. -/
def twoUnderway : List (Event Unit Unit) :=
  [.observe (), .act (.call ⟨["orders", "stop"]⟩ .null none), .connect true "ws://a", .attempt,
    .opened, .settled none, .proceed, .proceed, .proceed, .proceed, .proceed, .proceed,
    .act (.call ⟨["orders", "list"]⟩ .null none)]

/-- When its link is lost, both calls are kept, or both fail. -/
theorem link_loss_twoUnderway :
    let behave := joining ⟨["chat"]⟩
    let kept := run behave twoUnderway (start { queueCalls := true } none CorrelationId.drawn ())
    let failed := run behave twoUnderway
      (start { queueCalls := true, pendingPolicy := .fail } none CorrelationId.drawn ())
    behave.Within (fun _ => True) ∧
      (kept.state = .connected ∧ kept.link.written.length = 2 ∧
        kept.link.channel.map (·.length) = some 2 ∧
        (Event.lose.step behave kept).state ≠ .connected ∧
        (Event.lose.step behave kept).calls.pending.map (·.ticket) = [0, 1]) ∧
      failed.state = .connected ∧
        (Event.lose.step behave failed).state ≠ .connected ∧
        (Event.lose.step behave failed).calls.pending = [] ∧
        ∀ ticket ∈ [0, 1], ∀ later,
          ((Event.lose.step behave failed).run behave later).calls.endings.filter
            (fun other => other.1 = ticket) = [(ticket, .resolved (.error .connectionClosed))] := by
  dsimp only
  have aside := joining_aside ⟨["chat"]⟩
  have within : (joining ⟨["chat"]⟩).Within (fun _ => True) := fun callback signal client => by
    obtain ⟨acts, -, does⟩ := aside callback signal client
    exact ⟨acts, fun _ _ => trivial, does⟩
  have seen : (fun client : Client Unit Unit => (client.state, client.link.written.length,
      client.link.channel.map (·.length), client.calls.pending.map (·.ticket),
      client.options.pendingPolicy, (Event.lose.step (joining ⟨["chat"]⟩) client).state))
      (run (joining ⟨["chat"]⟩) twoUnderway
        (start { queueCalls := true } none CorrelationId.drawn ())) =
        (.connected, 2, some 2, [0, 1], .keep, .disconnected) := by cbv
  have seen' : (fun client : Client Unit Unit => (client.state,
      client.calls.pending.map (·.ticket), (Event.lose.step (joining ⟨["chat"]⟩) client).state))
      (run (joining ⟨["chat"]⟩) twoUnderway
        (start { queueCalls := true, pendingPolicy := .fail } none CorrelationId.drawn ())) =
        (.connected, [0, 1], .disconnected) := by cbv
  simp only [Prod.mk.injEq] at seen seen'
  obtain ⟨up, written, channel, tickets, policy, lost⟩ := seen
  obtain ⟨up', tickets', lost'⟩ := seen'
  have down : (LinkState.disconnected) ≠ .connected := by simp
  refine ⟨within, ⟨up, written, channel, lost ▸ down, ?_⟩, up', lost' ▸ down, ?_⟩
  · obtain ⟨told, loses, same, -⟩ := (link_loss_policy within { queueCalls := true } none
      CorrelationId.drawn () twoUnderway).1 .lose (by simp) (by simp) up (lost ▸ down)
    rw [loses.calls_keep policy, same aside]
    exact tickets
  · obtain ⟨told, -, same, -, -, fails⟩ := (link_loss_policy within
      { queueCalls := true, pendingPolicy := .fail } none CorrelationId.drawn () twoUnderway).1 .lose
      (by simp) (by simp) up' (lost' ▸ down)
    obtain ⟨none, ends⟩ := fails rfl
    refine ⟨none, fun ticket member later => ?_⟩
    obtain ⟨call, waits, rfl⟩ := List.mem_map.1 (tickets' ▸ member)
    obtain ⟨⟨ending, once, rfl | ⟨-, -, other⟩⟩, -⟩ := ends call waits
    · exact once later
    · exact absurd aside other

/-- **An observer comes before the policy.**  When it is told of the loss it may cancel a call: then
one that is kept is not, and one of those that fail ends otherwise. -/
theorem link_loss_meddled :
    let behave := retracting (CorrelationId.drawn 0)
    let kept := run behave twoUnderway (start { queueCalls := true } none CorrelationId.drawn ())
    let failed := run behave twoUnderway
      (start { queueCalls := true, pendingPolicy := .fail } none CorrelationId.drawn ())
    behave.Within (fun _ => True) ∧
      (kept.state = .connected ∧ kept.calls.pending.map (·.ticket) = [0, 1] ∧
        (Event.lose.step behave kept).state = .disconnected ∧
        (Event.lose.step behave kept).calls.pending.map (·.ticket) = [1]) ∧
      failed.state = .connected ∧ failed.calls.pending.map (·.ticket) = [0, 1] ∧
        (Event.lose.step behave failed).state = .disconnected ∧
        (Event.lose.step behave failed).calls.endings.filter (fun other => other.1 = 0) =
          [(0, .resolved (.error (.cancelled (CorrelationId.drawn 0))))] := by
  dsimp only
  have keeps : (fun client : Client Unit Unit => (client.state,
      client.calls.pending.map (·.ticket),
      (Event.lose.step (retracting (CorrelationId.drawn 0)) client).state,
      (Event.lose.step (retracting (CorrelationId.drawn 0)) client).calls.pending.map (·.ticket)))
      (run (retracting (CorrelationId.drawn 0)) twoUnderway
        (start { queueCalls := true } none CorrelationId.drawn ())) =
        (.connected, [0, 1], .disconnected, [1]) := by cbv
  have fails : (fun client : Client Unit Unit => (client.state,
      client.calls.pending.map (·.ticket),
      (Event.lose.step (retracting (CorrelationId.drawn 0)) client).state,
      (Event.lose.step (retracting (CorrelationId.drawn 0)) client).calls.endings.filter
        (fun other => other.1 = 0)))
      (run (retracting (CorrelationId.drawn 0)) twoUnderway
        (start { queueCalls := true, pendingPolicy := .fail } none CorrelationId.drawn ())) =
        (.connected, [0, 1], .disconnected,
          [(0, .resolved (.error (.cancelled (CorrelationId.drawn 0))))]) := by cbv
  simp only [Prod.mk.injEq] at keeps fails
  exact ⟨retracting_within _, keeps, fails⟩

end Switchboard.Client
