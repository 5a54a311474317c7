/-
# Switchboard.Proofs.Overtaking -- which topics a server may miss

The registry is locked for its own step only, so the frames of one topic may be handed
over in another order than the registry changed.

A registered topic is accounted for if the server will know of it once all that the
session has is written, or if its announcement is still to be handed over
(`Relay.Accounts`).  Only one step takes that away from a topic that stays registered:
a withdrawal of it that is handed over while no announcement of it is to come
(`Relay.Late`).  Nothing gives it back, since a topic that is registered is not
announced again before it has been released (`Relay.Live.accounts_turn`).  So a topic is
missing in the end exactly if the last thing that happened to it is such a withdrawal
(`Relay.Overtaken`).

* `not_overtaken_of_front`: none is if operations hand over in the order in which they
  began;
* `missing_iff_overtaken`: what the server does not know when everything has been done;
* `withdrawal_overtakes`: two operations, after which it does not know a topic.
-/
import Mathlib
import Switchboard.Proofs.Relay

namespace Switchboard

set_option autoImplicit false

namespace Relay

variable {κ ω : Type} {behave : Behaviour κ ω} {relay : Relay κ ω} {topic : Topic}

/-! ## What is accounted for -/

/-- The session is up, and what is still to be handed over is about canonical topics. -/
structure Live (relay : Relay κ ω) : Prop where
  client : relay.client.InSession
  errands : ∀ errand ∈ relay.errands, errand.topic.Canonical

/-- The server will know the topic, or its announcement is still to be handed over. -/
def Accounts (topic : Topic) (relay : Relay κ ω) : Prop :=
  topic.wire ∈ relay.client.foretold ∨ .announce topic ∈ relay.errands

/-- The turn withdraws a topic that is registered and of which no announcement is to come. -/
def Late (topic : Topic) (turn : Turn κ) (relay : Relay κ ω) : Prop :=
  ∃ place, turn = .deliver place ∧ relay.errands[place]? = some (.withdraw topic) ∧
    topic ∈ relay.client.subscriptions.held ∧ .announce topic ∉ relay.errands

/-- What the begin of a subscription does: nothing, or its topic is registered, and it is to be
announced unless it has been registered before. -/
theorem register_cases (live : relay.Live) (topic : Topic) (callback : κ) :
    relay.register topic callback = relay ∨
      ∃ client : Client κ ω, relay.client.Calm client ∧ client.link = relay.client.link ∧
        client.subscriptions.Occupied ∧
        (∀ other, other ∈ client.subscriptions.held ↔
          other = topic ∨ other ∈ relay.client.subscriptions.held) ∧
        (topic ∉ relay.client.subscriptions.held ∧
            relay.register topic callback = ⟨client, relay.errands ++ [.announce topic]⟩ ∨
          topic ∈ relay.client.subscriptions.held ∧
            relay.register topic callback = ⟨client, relay.errands⟩) := by
  by_cases empty : topic.isEmpty = true
  · exact .inl (if_pos empty)
  have begun : relay.register topic callback = ⟨(relay.client.register topic callback).1,
      if (relay.client.register topic callback).2.2 then relay.errands ++ [.announce topic]
      else relay.errands⟩ := if_neg empty
  have first : (relay.client.register topic callback).2.2 = true ↔
      topic ∉ relay.client.subscriptions.held :=
    live.client.occupied.first_iff (HandleId.nth relay.client.handlesDrawn) topic callback
  have result : relay.client.register topic callback =
      ((relay.client.register topic callback).1, (relay.client.register topic callback).2.1,
        (relay.client.register topic callback).2.2) := rfl
  obtain ⟨calm, link, held, -⟩ := Client.register_spec result
  refine .inr ⟨(relay.client.register topic callback).1, calm, link,
    live.client.occupied.subscribe (HandleId.nth relay.client.handlesDrawn) topic callback, held,
    ?_⟩
  by_cases registered : topic ∈ relay.client.subscriptions.held
  · exact .inr ⟨registered, by rw [begun, if_neg (mt first.1 (not_not.2 registered))]⟩
  · exact .inl ⟨registered, by rw [begun, if_pos (first.2 registered)]⟩

/-- What the begin of a release does: at most a topic goes, which is then to be withdrawn. -/
theorem release_cases (live : relay.Live) (handle : HandleId) :
    ∃ (client : Client κ ω) (errands : List Errand), relay.release handle = ⟨client, errands⟩ ∧
      relay.client.Calm client ∧ client.link = relay.client.link ∧
      client.subscriptions.Occupied ∧
      (∀ other ∈ client.subscriptions.held, other ∈ relay.client.subscriptions.held) ∧
      (errands = relay.errands ∨ ∃ topic ∈ relay.client.subscriptions.held,
        topic ∉ client.subscriptions.held ∧ errands = relay.errands ++ [.withdraw topic]) := by
  have occupied := live.client.occupied
  have unobserved := relay.client.unobserve_calm handle
  cases found : (relay.client.unobserve handle).2 with
  | true =>
      have begun : relay.release handle = ⟨(relay.client.unobserve handle).1, relay.errands⟩ :=
        if_pos found
      exact ⟨_, _, begun, unobserved, rfl, occupied, fun _ member => member, .inl rfl⟩
  | false =>
      have begun : relay.release handle = ⟨((relay.client.unobserve handle).1.release handle).1,
          relay.errands ++ (relay.client.subscriptions.unsubscribe handle).2.errands⟩ :=
        if_neg (Bool.eq_false_iff.1 found)
      refine ⟨_, _, begun, unobserved.trans (Client.release_calm handle _), rfl,
        occupied.unsubscribe handle, ?_⟩
      show (∀ other ∈ (relay.client.subscriptions.unsubscribe handle).1.held, _) ∧
        (_ ∨ ∃ topic ∈ _, topic ∉ (relay.client.subscriptions.unsubscribe handle).1.held ∧ _)
      rcases relay.client.subscriptions.unsubscribe_cases handle with
        result | ⟨topic, after, ⟨result, same⟩ | ⟨result, registered, left⟩⟩
      all_goals rw [result]
      · exact ⟨fun _ member => member, .inl (List.append_nil _)⟩
      · exact ⟨fun _ member => same ▸ member, .inl (List.append_nil _)⟩
      · exact ⟨fun other member => ((left other).1 member).1,
          .inr ⟨topic, registered, fun still => ((left topic).1 still).2 rfl, rfl⟩⟩

theorem deliver_some {place : Nat} {errand : Errand}
    (here : relay.errands[place]? = some errand) :
    relay.deliver place = ⟨errand.handOver relay.client, relay.errands.eraseIdx place⟩ := by
  rw [deliver, here]

theorem deliver_none {place : Nat} (nothing : relay.errands[place]? = none) :
    relay.deliver place = relay := by
  rw [deliver, nothing]

theorem accounts_congr {after : Relay κ ω} {turn : Turn κ}
    (foretold : topic.wire ∈ after.client.foretold ↔ topic.wire ∈ relay.client.foretold)
    (errands : .announce topic ∈ after.errands ↔ .announce topic ∈ relay.errands)
    (onTime : ¬ relay.Late topic turn) :
    after.Accounts topic ↔ relay.Accounts topic ∧ ¬ relay.Late topic turn := by
  rw [and_iff_left onTime, Accounts, Accounts, foretold, errands]

/-- Only a delivery withdraws. -/
theorem onTime {turn : Turn κ} (other : ∀ place, turn ≠ .deliver place) :
    ¬ relay.Late topic turn :=
  fun ⟨place, same, _⟩ => other place same

namespace Live

variable (live : relay.Live)
include live

/-- Every turn leaves the session up. -/
theorem turn {turn : Turn κ} (canonical : turn.Canonical) :
    (relay.turn behave turn).Live ∧
      (relay.turn behave turn).client.link.sessions = relay.client.link.sessions := by
  cases turn with
  | register topic callback =>
      have isCanonical : topic.Canonical := canonical
      rcases register_cases live topic callback with
        same | ⟨client, calm, link, occupied, held, both⟩
      · rw [Relay.turn, same]
        exact ⟨live, rfl⟩
      have inSession : client.InSession := by
        refine live.client.of_registry calm link occupied fun other member => ?_
        rcases (held other).1 member with rfl | before
        · exact isCanonical
        · exact live.client.canonical other before
      rcases both with ⟨-, begun⟩ | ⟨-, begun⟩
      all_goals
        rw [Relay.turn, begun]
        refine ⟨⟨inSession, fun errand member => ?_⟩, by rw [link]⟩
      · rcases List.mem_append.1 member with before | last
        · exact live.errands errand before
        · obtain rfl : errand = .announce topic := by simpa using last
          exact isCanonical
      · exact live.errands errand member
  | release handle =>
      obtain ⟨client, errands, begun, calm, link, occupied, fewer, toDo⟩ :=
        release_cases live handle
      rw [Relay.turn, begun]
      refine ⟨⟨live.client.of_registry calm link occupied fun other member =>
        live.client.canonical other (fewer other member), fun errand member => ?_⟩, by rw [link]⟩
      rcases toDo with rfl | ⟨topic, registered, -, rfl⟩
      · exact live.errands errand member
      · rcases List.mem_append.1 member with before | last
        · exact live.errands errand before
        · obtain rfl : errand = .withdraw topic := by simpa using last
          exact live.client.canonical topic registered
  | deliver place =>
      rw [Relay.turn]
      cases here : relay.errands[place]? with
      | none =>
          rw [deliver_none here]
          exact ⟨live, rfl⟩
      | some errand =>
          obtain ⟨inSession, -, number⟩ := live.client.handOver errand
          rw [deliver_some here]
          exact ⟨⟨inSession, fun other member => live.errands other (List.mem_of_mem_eraseIdx
            member)⟩, number⟩
  | drive =>
      have onwards : relay.client.Onwards (relay.client.driven behave) := live.client.driven
      exact ⟨⟨onwards.inSession, live.errands⟩, onwards.number⟩

/-- An errand about another topic does not matter to one that is registered. -/
theorem wire_ne {errand : Errand} (member : errand ∈ relay.errands)
    (registered : topic ∈ relay.client.subscriptions.held) (different : topic ≠ errand.topic) :
    topic.wire ≠ errand.topic.wire :=
  fun same => different (Topic.wire_injective (live.client.canonical topic registered)
    (live.errands errand member) same)

theorem accounts_deliver {place : Nat} (registered : topic ∈ relay.client.subscriptions.held) :
    (relay.deliver place).Accounts topic ↔
      relay.Accounts topic ∧ ¬ relay.Late topic (.deliver place) := by
  cases here : relay.errands[place]? with
  | none =>
      rw [deliver_none here]
      refine accounts_congr .rfl .rfl ?_
      rintro ⟨_, ⟨⟩, found, -⟩
      simp [here] at found
  | some errand =>
      have member := List.mem_of_getElem? here
      have foretold := live.client.mem_foretold_handOver errand topic.wire
      rw [deliver_some here]
      have late : relay.Late topic (.deliver place) ↔
          errand = .withdraw topic ∧ .announce topic ∉ relay.errands := by
        simp [Late, here, registered]
      by_cases same : topic = errand.topic
      · cases errand with
        | announce named =>
            obtain rfl : topic = named := same
            have announced := foretold.2 (.inl rfl)
            exact iff_of_true (.inl announced) ⟨.inr member, by simp [late]⟩
        | withdraw named =>
            obtain rfl : topic = named := same
            -- now only an announcement that is still to come accounts for the topic
            have kept : .announce topic ∈ relay.errands.eraseIdx place ↔
                .announce topic ∈ relay.errands := mem_eraseIdx_of_ne here (by simp)
            constructor
            · rintro (known | coming)
              · exact absurd rfl (foretold.1 known).1
              · have coming := kept.1 coming
                exact ⟨.inr coming, fun isLate => (late.1 isLate).2 coming⟩
            · rintro ⟨-, onTime⟩
              have coming : .announce topic ∈ relay.errands :=
                by_contra fun none => onTime (late.2 ⟨rfl, none⟩)
              exact .inr (kept.2 coming)
      · have wires := live.wire_ne member registered same
        have kept : .announce topic ∈ relay.errands.eraseIdx place ↔
            .announce topic ∈ relay.errands :=
          mem_eraseIdx_of_ne here fun its => same (congrArg Errand.topic its)
        refine accounts_congr (foretold.trans ?_) kept fun isLate => same ?_
        · cases errand with
          | announce named => exact or_iff_right wires
          | withdraw named => exact and_iff_right wires
        · exact (congrArg Errand.topic (late.1 isLate).1).symm

/-- A topic that stays registered is accounted for after a turn exactly if it was before, and the
turn did not withdraw it late. -/
theorem accounts_turn {turn : Turn κ} (before : topic ∈ relay.client.subscriptions.held)
    (still : topic ∈ (relay.turn behave turn).client.subscriptions.held) :
    (relay.turn behave turn).Accounts topic ↔
      relay.Accounts topic ∧ ¬ relay.Late topic turn := by
  cases turn with
  | register added callback =>
      have onTime : ¬ relay.Late topic (.register added callback) := onTime (by simp)
      rw [Relay.turn] at still ⊢
      rcases register_cases live added callback with
        same | ⟨client, calm, link, -, held, ⟨new, begun⟩ | ⟨-, begun⟩⟩
      · rw [same]
        exact accounts_congr .rfl .rfl onTime
      · rw [begun] at still ⊢
        have different : topic ≠ added := fun same => new (same ▸ before)
        exact accounts_congr (Client.mem_foretold_registry calm link before still)
          (by simp [different]) onTime
      · rw [begun] at still ⊢
        exact accounts_congr (Client.mem_foretold_registry calm link before still) .rfl onTime
  | release handle =>
      obtain ⟨client, errands, begun, calm, link, -, -, toDo⟩ := release_cases live handle
      rw [Relay.turn, begun] at still ⊢
      refine accounts_congr (Client.mem_foretold_registry calm link before still) ?_
        (onTime (by simp))
      rcases toDo with rfl | ⟨gone, -, -, rfl⟩ <;> simp
  | deliver place => exact live.accounts_deliver before
  | drive =>
      have onwards : relay.client.Onwards (relay.client.driven behave) := live.client.driven
      exact accounts_congr (by rw [Relay.turn, onwards.foretold]) .rfl (onTime (by simp))

/-- A topic that becomes registered is to be announced. -/
theorem accounts_new {turn : Turn κ} (new : topic ∉ relay.client.subscriptions.held)
    (registered : topic ∈ (relay.turn behave turn).client.subscriptions.held) :
    (relay.turn behave turn).Accounts topic := by
  cases turn with
  | register added callback =>
      rw [Relay.turn] at registered ⊢
      rcases register_cases live added callback with
        same | ⟨client, -, -, -, held, ⟨-, begun⟩ | ⟨known, begun⟩⟩
      · exact absurd (same ▸ registered) new
      all_goals
        rw [begun] at registered ⊢
        obtain rfl : topic = added := ((held topic).1 registered).resolve_right new
      · exact .inr (List.mem_append_right _ List.mem_cons_self)
      · exact absurd known new
  | release handle =>
      obtain ⟨client, errands, begun, -, -, -, fewer, -⟩ := release_cases live handle
      rw [Relay.turn, begun] at registered
      exact absurd (fewer topic registered) new
  | deliver place =>
      rw [Relay.turn] at registered
      cases here : relay.errands[place]? with
      | none => exact absurd (deliver_none here ▸ registered) new
      | some errand =>
          rw [deliver_some here, (live.client.handOver errand).2.1] at registered
          exact absurd registered new
  | drive =>
      have onwards : relay.client.Onwards (relay.client.driven behave) := live.client.driven
      exact absurd (onwards.subscriptions ▸ registered) new

end Live

/-! ## Runs -/

/-- A late withdrawal of the topic, which has stayed registered since. -/
def Overtaken (behave : Behaviour κ ω) (topic : Topic) (turns : List (Turn κ))
    (relay : Relay κ ω) : Prop :=
  ∃ before turn rest, turns = before ++ turn :: rest ∧
    (relay.run behave before).Late topic turn ∧
    ∀ later, later <+: rest →
      topic ∈ (relay.run behave (before ++ turn :: later)).client.subscriptions.held

theorem not_overtaken_nil : ¬ relay.Overtaken behave topic [] := by
  rintro ⟨before, turn, rest, none, -⟩
  simp at none

theorem Overtaken.registered {turns : List (Turn κ)}
    (overtaken : relay.Overtaken behave topic turns) :
    topic ∈ (relay.run behave turns).client.subscriptions.held := by
  obtain ⟨before, turn, rest, rfl, -, stays⟩ := overtaken
  exact stays rest List.prefix_rfl

theorem run_snoc (turns : List (Turn κ)) (turn : Turn κ) :
    relay.run behave (turns ++ [turn]) = (relay.run behave turns).turn behave turn :=
  run_append behave turns [turn] relay

/-- With one more turn a topic is overtaken if it is still registered, and it was overtaken before or
is so now. -/
theorem overtaken_snoc {turns : List (Turn κ)} {turn : Turn κ} :
    relay.Overtaken behave topic (turns ++ [turn]) ↔
      topic ∈ (relay.run behave (turns ++ [turn])).client.subscriptions.held ∧
        (relay.Overtaken behave topic turns ∨ (relay.run behave turns).Late topic turn) := by
  constructor
  · intro overtaken
    refine ⟨overtaken.registered, ?_⟩
    obtain ⟨before, late, rest, split, isLate, stays⟩ := overtaken
    rcases List.eq_nil_or_concat' rest with rfl | ⟨rest, last, rfl⟩
    · obtain ⟨rfl, same⟩ := List.append_inj' split rfl
      obtain rfl : turn = late := by simpa using same
      exact .inr isLate
    · have longer : turns ++ [turn] = (before ++ late :: rest) ++ [last] := by simpa using split
      obtain ⟨rfl, -⟩ := List.append_inj' longer rfl
      exact .inl ⟨before, late, rest, rfl, isLate, fun later shorter =>
        stays later (shorter.trans (List.prefix_append rest [last]))⟩
  · rintro ⟨registered, ⟨before, late, rest, rfl, isLate, stays⟩ | isLate⟩
    · refine ⟨before, late, rest ++ [turn], by simp, isLate, fun later shorter => ?_⟩
      rcases List.prefix_concat_iff.1 shorter with rfl | within
      · simpa using registered
      · exact stays later within
    · refine ⟨turns, turn, [], rfl, isLate, fun later shorter => ?_⟩
      obtain rfl := List.prefix_nil.1 shorter
      exact registered

namespace Live

theorem run (live : relay.Live) {turns : List (Turn κ)}
    (canonical : ∀ turn ∈ turns, turn.Canonical) :
    (relay.run behave turns).Live ∧
      (relay.run behave turns).client.link.sessions = relay.client.link.sessions := by
  induction turns using List.reverseRecOn with
  | nil => exact ⟨live, rfl⟩
  | append_singleton turns turn ih =>
      obtain ⟨before, number⟩ := ih fun other member =>
        canonical other (List.mem_append_left _ member)
      rw [run_snoc]
      exact (before.turn (canonical turn (by simp))).imp_right fun same => same.trans number

/-- **A registered topic is accounted for unless it was overtaken**, if it was so at first. -/
theorem accounts_run (live : relay.Live)
    (first : topic ∈ relay.client.subscriptions.held → relay.Accounts topic)
    {turns : List (Turn κ)} (canonical : ∀ turn ∈ turns, turn.Canonical)
    (registered : topic ∈ (relay.run behave turns).client.subscriptions.held) :
    (relay.run behave turns).Accounts topic ↔ ¬ relay.Overtaken behave topic turns := by
  induction turns using List.reverseRecOn with
  | nil => exact iff_of_true (first registered) not_overtaken_nil
  | append_singleton turns turn ih =>
      have canonical : ∀ turn ∈ turns, turn.Canonical := fun other member =>
        canonical other (List.mem_append_left _ member)
      have before : (relay.run behave turns).Live := (live.run canonical).1
      rw [overtaken_snoc, and_iff_right registered, not_or]
      rw [run_snoc] at registered ⊢
      by_cases earlier : topic ∈ (relay.run behave turns).client.subscriptions.held
      · rw [before.accounts_turn earlier registered, ih canonical earlier]
      · -- the topic is registered by this turn, and nothing has happened to it since
        have notBefore : ¬ relay.Overtaken behave topic turns :=
          fun overtaken => earlier overtaken.registered
        have onTime : ¬ (relay.run behave turns).Late topic turn :=
          fun ⟨_, _, _, known, _⟩ => earlier known
        exact iff_of_true (before.accounts_new earlier registered) ⟨notBefore, onTime⟩

end Live

/-! ## In order -/

/-- A withdrawal that is still to be handed over is of a topic that is no longer registered, or that
is to be announced after it. -/
def InOrder (relay : Relay κ ω) : Prop :=
  ∀ early topic late, relay.errands = early ++ .withdraw topic :: late →
    topic ∈ relay.client.subscriptions.held → .announce topic ∈ late

namespace InOrder

variable (inOrder : relay.InOrder)
include inOrder

/-- Topics that go, or errands that are run from the front, keep the order. -/
theorem of_suffix {after : Relay κ ω} (run : List Errand)
    (errands : relay.errands = run ++ after.errands)
    (fewer : ∀ other ∈ after.client.subscriptions.held, other ∈ relay.client.subscriptions.held) :
    after.InOrder := by
  intro early topic late split registered
  refine inOrder (run ++ early) topic late ?_ (fewer topic registered)
  rw [errands, split, List.append_assoc]

/-- So does an errand that comes last, and is the only one that the change at the registry can
matter to. -/
theorem of_snoc {client : Client κ ω} {errand : Errand}
    (others : ∀ other ∈ client.subscriptions.held,
      other ∈ relay.client.subscriptions.held ∨ errand = .announce other)
    (gone : ∀ other, errand = .withdraw other → other ∉ client.subscriptions.held) :
    InOrder ⟨client, relay.errands ++ [errand]⟩ := by
  intro early topic late split registered
  rcases List.eq_nil_or_concat' late with rfl | ⟨late, last, rfl⟩
  · obtain ⟨-, same⟩ := List.append_inj' split rfl
    exact absurd registered (gone topic (by simpa using same))
  · have longer : relay.errands ++ [errand] = (early ++ .withdraw topic :: late) ++ [last] := by
      simpa using split
    obtain ⟨before, same⟩ := List.append_inj' longer rfl
    obtain rfl : errand = last := by simpa using same
    rcases others topic registered with known | rfl
    · exact List.mem_append_left _ (inOrder early topic late before known)
    · exact List.mem_append_right _ List.mem_cons_self

theorem turn (live : relay.Live) {turn : Turn κ}
    (front : ∀ place, turn = .deliver place → place = 0) :
    (relay.turn behave turn).InOrder := by
  cases turn with
  | register topic callback =>
      rw [Relay.turn]
      rcases register_cases live topic callback with
        same | ⟨client, -, -, -, held, ⟨-, begun⟩ | ⟨known, begun⟩⟩
      · rw [same]
        exact inOrder
      · rw [begun]
        refine inOrder.of_snoc (fun other member => ?_) (by simp)
        rcases (held other).1 member with rfl | before
        · exact .inr rfl
        · exact .inl before
      · rw [begun]
        refine inOrder.of_suffix [] rfl fun other member => ?_
        rcases (held other).1 member with rfl | before
        · exact known
        · exact before
  | release handle =>
      obtain ⟨client, errands, begun, -, -, -, fewer, toDo⟩ := release_cases live handle
      rw [Relay.turn, begun]
      rcases toDo with rfl | ⟨topic, -, gone, rfl⟩
      · exact inOrder.of_suffix [] rfl fewer
      · refine inOrder.of_snoc (fun other member => .inl (fewer other member)) ?_
        rintro other ⟨⟩
        exact gone
  | deliver place =>
      obtain rfl := front place rfl
      rw [Relay.turn]
      cases begins : relay.errands with
      | nil =>
          rw [deliver_none (by simp [begins])]
          exact inOrder
      | cons errand errands =>
          have handedOver := live.client.handOver errand
          have here : relay.errands[0]? = some errand := by simp [begins]
          rw [deliver_some here]
          refine inOrder.of_suffix [errand] (by simp [begins]) fun other member => ?_
          exact handedOver.2.1 ▸ member
  | drive =>
      have onwards : relay.client.Onwards (relay.client.driven behave) := live.client.driven
      exact inOrder.of_suffix [] rfl fun other member => onwards.subscriptions ▸ member

theorem run (live : relay.Live) {turns : List (Turn κ)}
    (canonical : ∀ turn ∈ turns, turn.Canonical)
    (front : ∀ place, .deliver place ∈ turns → place = 0) :
    (relay.run behave turns).InOrder := by
  induction turns using List.reverseRecOn with
  | nil => exact inOrder
  | append_singleton turns turn ih =>
      have canonical : ∀ turn ∈ turns, turn.Canonical := fun other member =>
        canonical other (List.mem_append_left _ member)
      have before : (relay.run behave turns).InOrder := ih canonical fun place member =>
        front place (List.mem_append_left _ member)
      rw [run_snoc]
      exact before.turn (live.run canonical).1 fun place same => front place (by simp [same])

/-- A withdrawal from the front is not late. -/
theorem onTime : ¬ relay.Late topic (.deliver 0) := by
  rintro ⟨_, ⟨⟩, here, registered, none⟩
  cases begins : relay.errands with
  | nil => simp [begins] at here
  | cons errand errands =>
      obtain rfl : errand = .withdraw topic := by simpa [begins] using here
      exact none (begins ▸ List.mem_cons_of_mem _ (inOrder [] topic errands begins registered))

end InOrder

/-- **No topic is overtaken if what is begun first is handed over first.** -/
theorem not_overtaken_of_front (live : relay.Live) (inOrder : relay.InOrder)
    {turns : List (Turn κ)} (canonical : ∀ turn ∈ turns, turn.Canonical)
    (front : ∀ place, .deliver place ∈ turns → place = 0) (topic : Topic) :
    ¬ relay.Overtaken behave topic turns := by
  rintro ⟨before, turn, rest, rfl, isLate, -⟩
  obtain ⟨place, rfl, -⟩ := id isLate
  obtain rfl := front place (by simp)
  have earlier : (relay.run behave before).InOrder :=
    inOrder.run live (fun other member => canonical other (List.mem_append_left _ member))
      fun place member => front place (List.mem_append_left _ member)
  exact earlier.onTime isLate

/-! ## Every interleaving -/

/-- A client between two operations, as a run leaves it. -/
theorem live_of_run {client : Client κ ω} (coherent : client.Coherent) (informed : client.Informed)
    (occupied : client.subscriptions.Occupied) (up : client.isAlive = true)
    (room : client.link.room = none) (notify : client.options.notifyUnsubscribe = true) :
    Live ⟨client, []⟩ where
  client := ⟨coherent, coherent.up.symm.trans up, room, notify, occupied, informed.canonical,
    informed.unread, informed.backlog, informed.flushing⟩
  errands := by simp

/-- At first the server will know all registered topics. -/
theorem accounts_of_informed {client : Client κ ω} (informed : client.Informed)
    (session : client.link.channel.isSome = true) (registered : topic ∈ client.subscriptions.held) :
    Accounts topic ⟨client, []⟩ := by
  obtain ⟨queue, channel⟩ := Option.isSome_iff_exists.1 session
  have foretold : client.foretold = client.promised queue := by
    rw [Client.foretold, channel]
    rfl
  refine .inl ?_
  rw [foretold]
  exact (informed.agrees queue channel topic.wire).2
    ((Client.mem_wires ..).2 ⟨topic, registered, rfl⟩)

/-- In the end what is accounted for is what the server knows. -/
theorem accounts_iff_known (done : relay.errands = [])
    (complete : relay.client.link.prologue = .complete)
    (drained : relay.client.link.channel = some []) :
    relay.Accounts topic ↔ topic.wire ∈ relay.client.serverView := by
  rw [Accounts, done, Client.foretold, drained, Client.promised, Client.announced, complete]
  simp

/-- **What a server misses in the end, after every interleaving of subscriptions and releases.**
Begin with a client whose link is up, at any point of any run with canonical topics, withdrawals
being announced and the socket taking every write, and let operations take their steps in any
order, the prologue and the channel as well.  Then the session stays up.  Once all operations are
over and everything is written, a registered topic is unknown to the server exactly if it was
overtaken: a withdrawal of it was handed over while it was registered and no announcement of it was
to come, and it has stayed registered since.  None is if operations hand their frames over in
the order in which they were begun. -/
theorem missing_iff_overtaken (within : behave.Within Client.Act.Canonical)
    {events : List (Client.Event κ ω)}
    (canonical : ∀ event ∈ events, event.Within ⟨Client.Act.Canonical, fun _ => True⟩)
    (options : Options) (token : Option Json) (candidate : Nat → CorrelationId) (desk : ω) :
    let client := Client.run behave events (Client.start options token candidate desk)
    client.isAlive = true → client.link.room = none → options.notifyUnsubscribe = true →
      ∀ turns : List (Turn κ), (∀ turn ∈ turns, turn.Canonical) →
        let relay := Relay.run behave turns ⟨client, []⟩
        relay.client.isAlive = true ∧ relay.client.link.sessions = client.link.sessions ∧
          (relay.errands = [] → relay.client.link.prologue = .complete →
            relay.client.link.channel = some [] →
            ∀ topic ∈ relay.client.subscriptions.topics,
              topic.wire ∉ relay.client.serverView ↔
                Overtaken behave topic turns ⟨client, []⟩) ∧
          ((∀ place, .deliver place ∈ turns → place = 0) →
            ∀ topic, ¬ Overtaken behave topic turns ⟨client, []⟩) := by
  intro client up room notify turns allCanonical relay
  obtain ⟨moves, path⟩ := Client.run_path within canonical options token candidate desk
  have start := (Client.start_poised (κ := κ) options token candidate desk).toCoherent
  have coherent : client.Coherent := path.coherent start
  have informed : client.Informed :=
    path.preserves (fun _ _ coherent informed fits => informed.move coherent fits) start
      (Client.start_informed options token candidate desk)
  have constant : client.options = options := path.options
  have occupied : client.subscriptions.Occupied :=
    path.occupied Subscriptions.occupied_empty
  have first : Live ⟨client, []⟩ :=
    live_of_run coherent informed occupied up room (constant ▸ notify)
  obtain ⟨last, number⟩ : relay.Live ∧ relay.client.link.sessions = client.link.sessions :=
    first.run allCanonical
  refine ⟨last.client.isAlive, number, fun done complete drained topic registered => ?_, ?_⟩
  · have accounts := first.accounts_run
      (accounts_of_informed informed first.client.session) allCanonical
      ((Subscriptions.mem_topics ..).1 registered)
    rw [← accounts_iff_known done complete drained, accounts, not_not]
  · have inOrder : InOrder ⟨client, []⟩ := by
      intro early topic late none
      simp at none
    exact not_overtaken_of_front first inOrder allCanonical

/-- A session with one topic, which is announced. -/
def oneTopic : List (Client.Event Unit Unit) :=
  [.act (.subscribe ⟨["a", "b"]⟩ ()), .connect true "ws://host/", .attempt, .opened,
    .settled none, .proceed, .proceed, .proceed, .proceed]

/-- The only handler of the topic is released, and another one is registered before anything was
handed over; then the operations go on, the one at the given place first. -/
def exchange (first : Nat) : List (Turn Unit) :=
  [.release (HandleId.nth 0), .register ⟨["a", "b"]⟩ (), .deliver first, .deliver 0, .drive, .drive]

theorem missing_iff_overtaken_exchange :
    let client := Client.run Client.silent oneTopic
      (Client.start { notifyUnsubscribe := true } none CorrelationId.drawn ())
    let relay := Relay.run Client.silent (exchange 0) ⟨client, []⟩
    relay.client.subscriptions.topics = [⟨["a", "b"]⟩] ∧ "a/b" ∈ relay.client.serverView := by
  intro client relay
  have canonical : ∀ event ∈ oneTopic, event.Within ⟨Client.Act.Canonical, fun _ => True⟩ := by
    simp [oneTopic, Client.Event.Within, Client.Act.Canonical, Topic.Canonical]
  have allCanonical : ∀ turn ∈ exchange 0, turn.Canonical := by
    simp [exchange, Turn.Canonical, Topic.Canonical]
  have front : ∀ place, .deliver place ∈ exchange 0 → place = 0 := by simp [exchange]
  have begun : (fun client : Client Unit Unit => (client.isAlive, client.link.room))
      (Client.run Client.silent oneTopic
        (Client.start { notifyUnsubscribe := true } none CorrelationId.drawn ())) =
        (true, none) := by cbv
  have ended : (fun relay : Relay Unit Unit => (relay.errands, relay.client.link.prologue,
      relay.client.link.channel, relay.client.subscriptions.topics))
      (Relay.run Client.silent (exchange 0) ⟨Client.run Client.silent oneTopic
        (Client.start { notifyUnsubscribe := true } none CorrelationId.drawn ()), []⟩) =
        ([], .complete, some [], [⟨["a", "b"]⟩]) := by cbv
  simp only [Prod.mk.injEq] at begun ended
  obtain ⟨up, room⟩ := begun
  obtain ⟨done, complete, drained, topics⟩ := ended
  obtain ⟨-, -, missing, inTime⟩ := missing_iff_overtaken (Client.silent_within _) canonical
    { notifyUnsubscribe := true } none CorrelationId.drawn () up room rfl (exchange 0) allCanonical
  have registered : (⟨["a", "b"]⟩ : Topic) ∈ relay.client.subscriptions.topics :=
    topics ▸ List.mem_singleton_self _
  have known := mt (missing done complete drained _ registered).1 (inTime front _)
  exact ⟨topics, not_not.1 known⟩

/-- **A server may miss a topic that is registered**: a handler is released and another one
registered, the announcement is handed over first, and the server is left with the withdrawal. -/
theorem withdrawal_overtakes :
    let client := Client.run Client.silent oneTopic
      (Client.start { notifyUnsubscribe := true } none CorrelationId.drawn ())
    let relay := Relay.run Client.silent (exchange 1) ⟨client, []⟩
    relay.client.isAlive = true ∧ relay.client.link.sessions = client.link.sessions ∧
      relay.errands = [] ∧ relay.client.link.prologue = .complete ∧
      relay.client.link.channel = some [] ∧
      relay.client.link.written.map (·.frame) = [.subscribe ⟨["a", "b"]⟩,
        .subscribe ⟨["a", "b"]⟩, .unsubscribe ⟨["a", "b"]⟩] ∧
      relay.client.subscriptions.topics = [⟨["a", "b"]⟩] ∧ relay.client.serverView = ∅ := by
  intro client relay
  have ended : (fun relay : Relay Unit Unit => (relay.client.isAlive, relay.client.link.sessions,
      relay.errands, relay.client.link.prologue, relay.client.link.channel,
      relay.client.link.written, relay.client.subscriptions.topics))
      (Relay.run Client.silent (exchange 1) ⟨Client.run Client.silent oneTopic
        (Client.start { notifyUnsubscribe := true } none CorrelationId.drawn ()), []⟩) =
        (true, 1, [], .complete, some [], [⟨1, .subscribe ⟨["a", "b"]⟩⟩,
          ⟨1, .subscribe ⟨["a", "b"]⟩⟩, ⟨1, .unsubscribe ⟨["a", "b"]⟩⟩], [⟨["a", "b"]⟩]) := by
    cbv
  have number : (fun client : Client Unit Unit => client.link.sessions)
      (Client.run Client.silent oneTopic
        (Client.start { notifyUnsubscribe := true } none CorrelationId.drawn ())) = 1 := by cbv
  simp only [Prod.mk.injEq] at ended
  obtain ⟨up, sessions, done, complete, drained, written, topics⟩ := ended
  have view : relay.client.serverView = Sent.view 1 [⟨1, .subscribe ⟨["a", "b"]⟩⟩,
      ⟨1, .subscribe ⟨["a", "b"]⟩⟩, ⟨1, .unsubscribe ⟨["a", "b"]⟩⟩] :=
    congrArg₂ Sent.view sessions written
  refine ⟨up, sessions.trans number.symm, done, complete, drained,
    congrArg (List.map (·.frame)) written, topics, ?_⟩
  rw [view]
  simp [Sent.view, Outbound.hears]

end Relay

end Switchboard
