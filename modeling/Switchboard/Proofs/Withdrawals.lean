/-
# Switchboard.Proofs.Withdrawals -- whom a withdrawal may still concern

The registry keeps its handlers by topic, segment by segment; the server knows of a
topic only what it is called in writing.  A topic that is given as a text is
canonical, and there the two agree.  A topic that is given segment by segment need not
be: `⟨["a/b"]⟩` and `⟨["a", "b"]⟩` are two topics to the registry and one to the server.

When a topic loses its last handler its withdrawal is handed over, and then no handler
of that topic is left (`Subscriptions.Occupied` relates the topics of a registry to
their handlers).  Whether a handler is left that the server knows by the same name is
another matter: one is exactly if another registered topic is written alike.

* `withdrawal_spares_iff`: what a withdrawal leaves behind, at any point of any run;
* `withdrawn_in_use`: two topics written alike, one of which is withdrawn.
-/
import Mathlib
import Switchboard.Proofs.Spent
import Switchboard.Proofs.Teardown

namespace Switchboard

set_option autoImplicit false

/-! ## Topics and their handlers -/

namespace Subscriptions

variable {κ : Type} {subscriptions : Subscriptions κ}

/-- Every topic has one bucket, and a handler in it. -/
structure Occupied (subscriptions : Subscriptions κ) : Prop where
  held : subscriptions.held.Nodup
  handlers : ∀ topic ∈ subscriptions.held, handlersOf topic subscriptions.buckets ≠ []

theorem occupied_empty : ({} : Subscriptions κ).Occupied := ⟨List.nodup_nil, by simp [held]⟩

namespace Occupied

variable (occupied : subscriptions.Occupied)
include occupied

/-- The topics of a registry are those that have a handler. -/
theorem mem_held_iff (topic : Topic) :
    topic ∈ subscriptions.held ↔ handlersOf topic subscriptions.buckets ≠ [] :=
  ⟨occupied.handlers topic, fun some => mem_of_handlersOf (by simpa using some)⟩

theorem first_iff (handle : HandleId) (topic : Topic) (callback : κ) :
    (subscriptions.subscribe handle topic callback).2 = true ↔ topic ∉ subscriptions.held := by
  rw [occupied.mem_held_iff, not_not]
  exact List.isEmpty_iff

theorem subscribe (handle : HandleId) (topic : Topic) (callback : κ) :
    (subscriptions.subscribe handle topic callback).1.Occupied := by
  refine ⟨nodup_held_subscribe occupied.held handle topic callback, fun other member => ?_⟩
  rw [Subscriptions.subscribe, handlersOf_addHandler]
  split
  · simp
  · rename_i different
    rw [mem_held_subscribe] at member
    exact occupied.handlers other (member.resolve_left different)

theorem unsubscribe (handle : HandleId) : (subscriptions.unsubscribe handle).1.Occupied := by
  refine ⟨nodup_held_unsubscribe occupied.held handle, fun other member => ?_⟩
  unfold Subscriptions.unsubscribe at member ⊢
  split at member
  · exact occupied.handlers other member
  rename_i topic found
  have kept : (dropHandler topic handle subscriptions.buckets).map (·.1) = subscriptions.held :=
    map_dropHandler topic handle subscriptions.buckets
  dsimp only at member ⊢
  split at member
  · rename_i vacant
    rw [if_pos vacant, handlersOf_dropTopic, handlersOf_dropHandler]
    obtain ⟨bucket, inBuckets, rfl⟩ := List.mem_map.1 member
    obtain ⟨inDropped, different⟩ := List.mem_filter.1 inBuckets
    have different : bucket.1 ≠ topic := by simpa using different
    rw [if_neg different, if_neg different]
    exact occupied.handlers _ (kept ▸ List.mem_map_of_mem inDropped)
  · rename_i taken
    rw [if_neg taken]
    have inHeld : other ∈ (dropHandler topic handle subscriptions.buckets).map (·.1) := member
    by_cases same : other = topic
    · -- a topic that is not vacant has a handler left
      subst same
      have present : (dropHandler other handle subscriptions.buckets).any
          (fun bucket => bucket.1 = other) = true := by
        obtain ⟨bucket, inBuckets, same⟩ := List.mem_map.1 inHeld
        exact List.any_eq_true.2 ⟨bucket, inBuckets, by simpa using same⟩
      simpa [isVacant, present] using taken
    · rw [handlersOf_dropHandler, if_neg same]
      exact occupied.handlers other (kept ▸ inHeld)

end Occupied

end Subscriptions

namespace Client

variable {κ ω : Type} {licence : Licence κ ω} {client : Client κ ω}

theorem announce_subscriptions (topic : Topic) (client : Client κ ω) :
    (client.announce topic).subscriptions = client.subscriptions := by
  unfold announce
  split
  · exact send_subscriptions _ _
  · rfl

theorem withdraw_subscriptions (topic : Topic) (client : Client κ ω) :
    (client.withdraw topic).subscriptions = client.subscriptions := by
  unfold withdraw
  split
  · exact send_subscriptions _ _
  · rfl

/-- What an act that is about no call does to the registry: nothing, or a handler is registered or
released. -/
theorem perform_registry {act : Act κ ω} (aside : act.isAside = true) (client : Client κ ω) :
    (act.perform client).subscriptions = client.subscriptions ∨
      (∃ handle topic callback, (act.perform client).subscriptions =
        (client.subscriptions.subscribe handle topic callback).1) ∨
      ∃ handle, (act.perform client).subscriptions =
        (client.subscriptions.unsubscribe handle).1 := by
  cases act with
  | subscribe topic callback =>
      rw [Act.perform, Client.subscribe]
      split
      · exact .inl rfl
      · refine .inr (.inl ⟨HandleId.nth client.handlesDrawn, topic, callback, ?_⟩)
        dsimp only
        split
        · exact announce_subscriptions topic (client.register topic callback).1
        · rfl
  | unsubscribe handle =>
      rw [Act.perform]
      rcases client.unsubscribe_cases handle with after | ⟨after, -⟩ | ⟨topic, -, after⟩
      · exact .inl (after ▸ rfl)
      · exact .inr (.inr ⟨handle, after ▸ rfl⟩)
      · exact .inr (.inr ⟨handle, after ▸ withdraw_subscriptions topic _⟩)
  | enlist | setToken | note => exact .inl rfl
  | call | cancel | conclude | expire | abandon => simp [Act.isAside] at aside

theorem occupied_perform (occupied : client.subscriptions.Occupied) {act : Act κ ω}
    (aside : act.isAside = true) : (act.perform client).subscriptions.Occupied := by
  rcases perform_registry aside client with same | ⟨handle, topic, callback, more⟩ | ⟨handle, fewer⟩
  · exact same.symm ▸ occupied
  · exact more.symm ▸ occupied.subscribe handle topic callback
  · exact fewer.symm ▸ occupied.unsubscribe handle

theorem occupied_move (occupied : client.subscriptions.Occupied) {move : Move κ ω}
    (fits : move.Fits licence client) : (move.apply client).subscriptions.Occupied := by
  cases move with
  | aside act => exact occupied_perform occupied fits.2
  | call issued limit => exact (handOver_subscriptions issued limit client).symm ▸ occupied
  | detach queue =>
      rw [apply_detach]
      exact occupied
  | _ => exact occupied

theorem Path.occupied {first : Client κ ω} {moves : List (Move κ ω)}
    (path : first.Path licence moves client) (begins : first.subscriptions.Occupied) :
    client.subscriptions.Occupied := by
  induction path with
  | still => exact begins
  | move _ _ fits ih => exact occupied_move ih fits

/-! ## Withdrawing -/

/-- A handler is registered whose topic is written so. -/
def Listens (wire : String) (client : Client κ ω) : Prop :=
  ∃ topic : Topic, topic.wire = wire ∧
    Subscriptions.handlersOf topic client.subscriptions.buckets ≠ []

theorem unsubscribeAll_acted (client : Client κ ω) (handles : List HandleId) :
    Acted .free client (client.unsubscribeAll handles).1 := by
  rw [unsubscribeAll_eq]
  exact performAll_acted (fun _ _ => trivial) client

theorem unsubscribeAll_append (client : Client κ ω) (first second : List HandleId) :
    (client.unsubscribeAll (first ++ second)).1 =
      ((client.unsubscribeAll first).1.unsubscribeAll second).1 := by
  rw [unsubscribeAll_eq, unsubscribeAll_eq, unsubscribeAll_eq, List.map_append, performAll_append]

/-- **Releasing a handle hands nothing over, or the withdrawal of a topic that is gone.** -/
theorem unsubscribe_leaves (coherent : client.Coherent) (occupied : client.subscriptions.Occupied)
    (up : client.isAlive = true) (notify : client.options.notifyUnsubscribe = true)
    (handle : HandleId) :
    let after := (client.unsubscribe handle).1
    ∃ queue, client.link.channel = some queue ∧
      (after.link.channel = some queue ∨ ∃ topic,
        after.link.channel = some (queue ++ [.unsubscribe topic]) ∧
        topic ∈ client.subscriptions.topics ∧ topic ∉ after.subscriptions.topics ∧
        (after.Listens topic.wire ↔
          ∃ other ∈ client.subscriptions.topics, other ≠ topic ∧ other.wire = topic.wire)) := by
  intro after
  obtain ⟨queue, channel⟩ := Option.isSome_iff_exists.1 (coherent.up.symm.trans up)
  refine ⟨queue, channel, ?_⟩
  have aside : (Act.unsubscribe handle : Act κ ω).isAside = true := rfl
  have left : after.subscriptions.Occupied := occupied_perform occupied aside
  rcases unsubscribe_topics coherent handle with ⟨-, same⟩ | ⟨topic, member, held, withdrawn⟩
  · exact .inl (same.trans channel)
  · rw [channel, notify] at withdrawn
    refine .inr ⟨topic, withdrawn, (Subscriptions.mem_topics ..).2 member, ?_, ?_⟩
    · rw [Subscriptions.mem_topics, held]
      exact fun still => still.2 rfl
    · simp only [Listens, ← left.mem_held_iff, after, held, Subscriptions.mem_topics]
      constructor
      · rintro ⟨other, same, stays, different⟩
        exact ⟨other, stays, different, same⟩
      · rintro ⟨other, stays, different, same⟩
        exact ⟨other, same, stays, different⟩

/-- **What a withdrawal leaves behind.**  Take any point of any run, in the middle of what callbacks
do as well, with the link up and withdrawals announced, and release handles one after the other, as
disposing of a scope does.  With each of them nothing is handed to the channel, or one frame: the
withdrawal of a topic that had a handler and has none any more.  Then a handler is left whose topic
is written like the withdrawn one exactly if a handler of another topic that is written alike was
there.  No handler is left so if all registered topics are canonical, as are those that are given
as texts. -/
theorem withdrawal_spares_iff {behave : Behaviour κ ω} (within : behave.Within fun _ => True)
    (events : List (Event κ ω)) (options : Options) (token : Option Json)
    (candidate : Nat → CorrelationId) (desk : ω) :
    let first := start options token candidate desk
    (∃ moves, first.Path .free moves (run behave events first)) ∧
      ∀ moves client, first.Path .free moves client → client.isAlive = true →
        client.options.notifyUnsubscribe = true →
        (∀ scope : Scope, (scope.dispose client).2.1 = (client.unsubscribeAll scope.handles).1) ∧
        ∀ before handle rest,
          let middle := (client.unsubscribeAll before).1
          let after := (middle.unsubscribe handle).1
          (client.unsubscribeAll (before ++ handle :: rest)).1 = (after.unsubscribeAll rest).1 ∧
          ∃ queue, middle.link.channel = some queue ∧
            (after.link.channel = some queue ∨ ∃ topic,
              after.link.channel = some (queue ++ [.unsubscribe topic]) ∧
              (∀ fresh, ((Outbound.unsubscribe topic).envelope fresh).data =
                some (.string topic.wire)) ∧
              topic ∈ middle.subscriptions.topics ∧ topic ∉ after.subscriptions.topics ∧
              (after.Listens topic.wire ↔ ∃ other ∈ middle.subscriptions.topics,
                other ≠ topic ∧ other.wire = topic.wire) ∧
              ((∀ other ∈ middle.subscriptions.topics, other.Canonical) →
                ¬ after.Listens topic.wire)) := by
  intro first
  refine ⟨run_path within (fun event _ => within_free event) options token candidate desk,
    fun moves client path up notify => ⟨fun _ => rfl, fun before handle rest => ?_⟩⟩
  intro middle after
  have released : Acted .free client middle := unsubscribeAll_acted client before
  obtain ⟨later, rest'⟩ := released.reaches
  have path := path.trans rest'
  have coherent : middle.Coherent :=
    path.coherent (start_poised options token candidate desk).toCoherent
  have occupied : middle.subscriptions.Occupied := path.occupied Subscriptions.occupied_empty
  refine ⟨unsubscribeAll_append client before (handle :: rest), ?_⟩
  obtain ⟨queue, channel, same | ⟨topic, withdrawn, member, gone, left⟩⟩ :=
    unsubscribe_leaves coherent occupied (released.calm.isAlive.trans up)
      ((congrArg _ released.calm.options).trans notify) handle
  · exact ⟨queue, channel, .inl same⟩
  · refine ⟨queue, channel, .inr ⟨topic, withdrawn, fun _ => rfl, member, gone, left,
      fun canonical listens => ?_⟩⟩
    obtain ⟨other, stays, different, same⟩ := left.1 listens
    exact different (Topic.wire_injective (canonical other stays) (canonical topic member) same)

/-- A topic given segment by segment, and the one that its wire form reads back as. -/
def twoSpellings : List (Event Unit Unit) :=
  [.act (.subscribe ⟨["a/b"]⟩ ()), .act (.subscribe (Topic.parse "a/b") ()),
    .connect true "ws://host/", .attempt, .opened, .settled none, .proceed, .proceed, .proceed,
    .proceed, .proceed]

theorem withdrawal_spares_iff_twoSpellings :
    let client := run silent twoSpellings
      (start { notifyUnsubscribe := true } none CorrelationId.drawn ())
    let one := (client.unsubscribe (HandleId.nth 1)).1
    let none := (client.unsubscribeAll [HandleId.nth 1, HandleId.nth 0]).1
    one.link.channel = some [.unsubscribe ⟨["a", "b"]⟩] ∧ one.Listens "a/b" ∧
      none.link.channel = some [.unsubscribe ⟨["a", "b"]⟩, .unsubscribe ⟨["a/b"]⟩] ∧
      ¬ none.Listens "a/b" := by
  intro client one none
  have seen : (fun client : Client Unit Unit => (client.isAlive,
      client.options.notifyUnsubscribe, client.subscriptions.topics, client.link.channel,
      (client.unsubscribe (HandleId.nth 1)).1.link.channel,
      (client.unsubscribe (HandleId.nth 1)).1.subscriptions.topics,
      (client.unsubscribeAll [HandleId.nth 1, HandleId.nth 0]).1.link.channel))
      (run silent twoSpellings (start { notifyUnsubscribe := true } .none CorrelationId.drawn ())) =
        (true, true, [⟨["a", "b"]⟩, ⟨["a/b"]⟩], some [], some [.unsubscribe ⟨["a", "b"]⟩],
          [⟨["a/b"]⟩], some [.unsubscribe ⟨["a", "b"]⟩, .unsubscribe ⟨["a/b"]⟩]) := by cbv
  rw [show run silent twoSpellings _ = client from rfl] at seen
  simp only [Prod.mk.injEq] at seen
  obtain ⟨up, notify, topics, idle, first, left, second⟩ := seen
  obtain ⟨⟨moves, path⟩, facts⟩ := withdrawal_spares_iff (silent_within _) twoSpellings
    { notifyUnsubscribe := true } .none CorrelationId.drawn ()
  obtain ⟨-, releases⟩ := facts moves client path up notify
  refine ⟨first, ?_, second, ?_⟩
  · -- the topic that is written alike is still there
    obtain ⟨-, queue, session, same | ⟨topic, withdrawn, -, -, -, left, -⟩⟩ :=
      releases [] (HandleId.nth 1) []
    all_goals obtain rfl : queue = [] := Option.some.inj (session.symm.trans idle)
    · simpa using same.symm.trans first
    · obtain rfl : topic = ⟨["a", "b"]⟩ := by simpa using withdrawn.symm.trans first
      exact left.2 ⟨⟨["a/b"]⟩, by simp [Client.unsubscribeAll, topics], by decide, by decide⟩
  · obtain ⟨-, queue, session, same | ⟨topic, withdrawn, -, -, -, left', -⟩⟩ :=
      releases [HandleId.nth 1] (HandleId.nth 0) []
    all_goals
      obtain rfl : queue = [.unsubscribe ⟨["a", "b"]⟩] :=
        Option.some.inj (session.symm.trans first)
    · simpa using same.symm.trans second
    · obtain rfl : topic = ⟨["a/b"]⟩ := by simpa using withdrawn.symm.trans second
      intro listens
      obtain ⟨other, member, different, -⟩ := left'.1 listens
      have only : other ∈ [(⟨["a/b"]⟩ : Topic)] := left ▸ member
      exact different (List.mem_singleton.1 only)

/-- **A topic may be withdrawn while the server still has it in use**: two handlers listen to topics
that are written alike, one of them is released, and `a/b` is withdrawn, to which the other one
still listens. -/
theorem withdrawn_in_use :
    let client := run silent twoSpellings
      (start { notifyUnsubscribe := true } none CorrelationId.drawn ())
    let after := (client.unsubscribe (HandleId.nth 0)).1
    client.isAlive = true ∧ client.link.channel = some [] ∧
      after.link.channel = some [.unsubscribe ⟨["a/b"]⟩] ∧
      (⟨["a/b"]⟩ : Topic).wire = "a/b" ∧
      after.subscriptions.topicOf (HandleId.nth 1) = some (Topic.parse "a/b") ∧
      after.Listens "a/b" := by
  intro client after
  have seen : (fun client : Client Unit Unit => (client.isAlive, client.link.channel,
      (client.unsubscribe (HandleId.nth 0)).1.link.channel,
      (client.unsubscribe (HandleId.nth 0)).1.subscriptions.topicOf (HandleId.nth 1),
      Subscriptions.handlersOf ⟨["a", "b"]⟩
        (client.unsubscribe (HandleId.nth 0)).1.subscriptions.buckets))
      (run silent twoSpellings (start { notifyUnsubscribe := true } none CorrelationId.drawn ())) =
        (true, some [], some [.unsubscribe ⟨["a/b"]⟩], some ⟨["a", "b"]⟩,
          [(HandleId.nth 1, ())]) := by cbv
  simp only [Prod.mk.injEq] at seen
  obtain ⟨up, idle, withdrawn, registered, handlers⟩ := seen
  have parsed : Topic.parse "a/b" = ⟨["a", "b"]⟩ := by decide +kernel
  have listens : Subscriptions.handlersOf ⟨["a", "b"]⟩ after.subscriptions.buckets ≠ [] :=
    fun none => List.cons_ne_nil _ _ (handlers.symm.trans none)
  exact ⟨up, idle, withdrawn, by decide, parsed ▸ registered, ⟨["a", "b"]⟩, by decide, listens⟩

end Client

end Switchboard
