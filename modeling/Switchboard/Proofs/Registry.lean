/-
# Switchboard.Proofs.Registry -- which topics are registered

The topics that have a bucket (`Subscriptions.held`) are the ones a client listens to.
Registering a handler adds its topic; releasing one takes its topic out exactly if
the answer is that it was the last of it.
-/
import Mathlib.Data.List.Basic
import Switchboard.Subscriptions

namespace Switchboard.Subscriptions

set_option autoImplicit false

variable {κ : Type}

/-- The topics that have a bucket, in the order of their first registration. -/
def held (subscriptions : Subscriptions κ) : List Topic := subscriptions.buckets.map (·.1)

theorem topics_perm (subscriptions : Subscriptions κ) :
    subscriptions.topics.Perm subscriptions.held :=
  List.mergeSort_perm _ _

theorem mem_topics (subscriptions : Subscriptions κ) (topic : Topic) :
    topic ∈ subscriptions.topics ↔ topic ∈ subscriptions.held :=
  subscriptions.topics_perm.mem_iff

theorem mem_map_addHandler (topic : Topic) (entry : HandleId × κ)
    (buckets : List (Topic × List (HandleId × κ))) (other : Topic) :
    other ∈ (addHandler topic entry buckets).map (·.1) ↔
      other = topic ∨ other ∈ buckets.map (·.1) := by
  induction buckets with
  | nil => simp [addHandler]
  | cons bucket rest ih =>
      obtain ⟨here, handlers⟩ := bucket
      by_cases same : here = topic
      · simp [addHandler, same]
      · rw [addHandler, if_neg same, List.map_cons, List.mem_cons, ih, List.map_cons,
          List.mem_cons, or_left_comm]

theorem map_dropHandler (topic : Topic) (handle : HandleId)
    (buckets : List (Topic × List (HandleId × κ))) :
    (dropHandler topic handle buckets).map (·.1) = buckets.map (·.1) := by
  induction buckets with
  | nil => rfl
  | cons bucket rest ih =>
      obtain ⟨here, handlers⟩ := bucket
      by_cases same : here = topic
      · simp [dropHandler, same]
      · simp [dropHandler, same, ih]

/-- A topic with handlers has a bucket. -/
theorem mem_of_handlersOf {topic : Topic} {buckets : List (Topic × List (HandleId × κ))}
    (handlers : (handlersOf topic buckets).isEmpty = false) : topic ∈ buckets.map (·.1) := by
  induction buckets with
  | nil => simp [handlersOf] at handlers
  | cons bucket rest ih =>
      obtain ⟨here, inBucket⟩ := bucket
      by_cases same : here = topic
      · simp [same]
      · rw [handlersOf, if_neg same] at handlers
        exact List.mem_cons_of_mem _ (ih handlers)

/-- Registering a handler adds its topic. -/
theorem mem_held_subscribe (subscriptions : Subscriptions κ) (handle : HandleId) (topic : Topic)
    (callback : κ) (other : Topic) :
    other ∈ (subscriptions.subscribe handle topic callback).1.held ↔
      other = topic ∨ other ∈ subscriptions.held :=
  mem_map_addHandler topic _ _ other

/-- A handler that is not the first of its topic finds its topic registered. -/
theorem held_of_not_first {subscriptions : Subscriptions κ} {handle : HandleId} {topic : Topic}
    {callback : κ} (notFirst : (subscriptions.subscribe handle topic callback).2 = false) :
    topic ∈ subscriptions.held :=
  mem_of_handlersOf notFirst

/-- What releasing a handle does: nothing, or a handler goes, and with the last of a topic the
topic. -/
theorem unsubscribe_cases (subscriptions : Subscriptions κ) (handle : HandleId) :
    subscriptions.unsubscribe handle = (subscriptions, .unknown) ∨
      ∃ topic after, (subscriptions.unsubscribe handle = (after, .removed) ∧
          after.held = subscriptions.held) ∨
        subscriptions.unsubscribe handle = (after, .lastForTopic topic) ∧
          topic ∈ subscriptions.held ∧
          ∀ other, other ∈ after.held ↔ other ∈ subscriptions.held ∧ other ≠ topic := by
  cases found : subscriptions.topicOf handle with
  | none => exact .inl (subscriptions.unsubscribe_unknown handle found)
  | some topic =>
      right
      have kept := map_dropHandler topic handle subscriptions.buckets
      by_cases vacant : isVacant topic (dropHandler topic handle subscriptions.buckets) = true
      · have result : subscriptions.unsubscribe handle =
            ({ buckets := dropTopic topic (dropHandler topic handle subscriptions.buckets)
               index := subscriptions.index.filter (fun entry => entry.1 ≠ handle) },
             .lastForTopic topic) := by
          simp [unsubscribe, found, vacant]
        refine ⟨topic, _, .inr ⟨result, ?_, fun other => ?_⟩⟩
        · have bucket : topic ∈ (dropHandler topic handle subscriptions.buckets).map (·.1) := by
            simp only [isVacant, Bool.and_eq_true, List.any_eq_true, decide_eq_true_eq] at vacant
            obtain ⟨⟨bucket, member, same⟩, -⟩ := vacant
            exact List.mem_map.2 ⟨bucket, member, same⟩
          rw [kept] at bucket
          exact bucket
        · have filtered : (dropTopic topic (dropHandler topic handle subscriptions.buckets)).map
              (·.1) = subscriptions.held.filter (· ≠ topic) := by
            rw [held, ← kept, List.filter_map]
            rfl
          rw [held, filtered, List.mem_filter, decide_eq_true_iff]
      · have result : subscriptions.unsubscribe handle =
            ({ buckets := dropHandler topic handle subscriptions.buckets
               index := subscriptions.index.filter (fun entry => entry.1 ≠ handle) },
             .removed) := by
          simp [unsubscribe, found, vacant]
        exact ⟨topic, _, .inl ⟨result, kept⟩⟩

/-- Releasing the last handler of a topic takes the topic out. -/
theorem held_unsubscribe_last {subscriptions : Subscriptions κ} {handle : HandleId} {topic : Topic}
    (last : (subscriptions.unsubscribe handle).2 = .lastForTopic topic) :
    topic ∈ subscriptions.held ∧ ∀ other,
      other ∈ (subscriptions.unsubscribe handle).1.held ↔
        other ∈ subscriptions.held ∧ other ≠ topic := by
  rcases subscriptions.unsubscribe_cases handle with
    result | ⟨_, after, ⟨result, -⟩ | ⟨result, member, others⟩⟩
  · simp [result] at last
  · simp [result] at last
  · obtain rfl : _ = topic := by simpa [result] using last
    exact ⟨member, result ▸ others⟩

/-- Any other release leaves the topics as they are. -/
theorem held_unsubscribe_not_last {subscriptions : Subscriptions κ} {handle : HandleId}
    (notLast : ∀ topic, (subscriptions.unsubscribe handle).2 ≠ .lastForTopic topic) :
    (subscriptions.unsubscribe handle).1.held = subscriptions.held := by
  rcases subscriptions.unsubscribe_cases handle with
    result | ⟨topic, after, ⟨result, same⟩ | ⟨result, -⟩⟩
  · rw [result]
  · rw [result, same]
  · exact absurd (congrArg Prod.snd result) (notLast topic)

end Switchboard.Subscriptions
