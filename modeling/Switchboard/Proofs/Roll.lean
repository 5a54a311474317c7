/-
# Switchboard.Proofs.Roll -- the registry as one list

The registry keeps its handlers by topic, and an index from handles to topics.  Both
are views of one list, the registrations in the order in which they were made
(`Subscriptions.Lists`): the index is that list backwards, the handlers of a topic are
its entries at that topic, and a topic has a bucket exactly if it has an entry.

* `Lists.subscribe`: registering a handler appends an entry;
* `Lists.unsubscribe`: releasing a handle takes its entry out;
* `Lists.points_iff`: the index and the handlers tell the same;
* `Lists.first_iff`, `Lists.removal_unknown_iff`, `Lists.removal_last_iff`: what
  the two answer is what the list says;
* `Lists.topicCount_eq`, `Lists.topics_ascending`: so is what the registry tells of
  its topics;
* `Lists.flatMap_perm`: the handlers of some topics are those of their entries.
-/
import Mathlib.Data.List.Basic
import Mathlib.Data.List.Dedup
import Switchboard.Proofs.Registry
import Switchboard.Proofs.TopicOrder

namespace Switchboard

set_option autoImplicit false

/-- One registration of a handler. -/
structure Registration (κ : Type) where
  handle : HandleId
  topic : Topic
  callback : κ

namespace Subscriptions

variable {κ : Type}

/-! ## Buckets -/

section Buckets

variable (topic : Topic) (buckets : List (Topic × List (HandleId × κ)))

theorem handlersOf_addHandler (entry : HandleId × κ) (other : Topic) :
    handlersOf other (addHandler topic entry buckets) =
      if other = topic then handlersOf topic buckets ++ [entry] else handlersOf other buckets := by
  induction buckets with
  | nil =>
      by_cases same : other = topic
      · simp [addHandler, handlersOf, same]
      · simp [addHandler, handlersOf, same, Ne.symm same]
  | cons bucket rest ih =>
      obtain ⟨here, handlers⟩ := bucket
      by_cases mine : here = topic <;> by_cases same : other = topic <;>
        by_cases found : here = other <;> simp_all [addHandler, handlersOf]

theorem handlersOf_dropHandler (handle : HandleId) (other : Topic) :
    handlersOf other (dropHandler topic handle buckets) =
      if other = topic then (handlersOf topic buckets).filter (fun entry => entry.1 ≠ handle)
      else handlersOf other buckets := by
  induction buckets with
  | nil => simp [dropHandler, handlersOf]
  | cons bucket rest ih =>
      obtain ⟨here, handlers⟩ := bucket
      by_cases mine : here = topic <;> by_cases same : other = topic <;>
        by_cases found : here = other <;> simp_all [dropHandler, handlersOf]

theorem handlersOf_dropTopic (other : Topic) :
    handlersOf other (dropTopic topic buckets) =
      if other = topic then [] else handlersOf other buckets := by
  induction buckets with
  | nil => simp [dropTopic, handlersOf]
  | cons bucket rest ih =>
      obtain ⟨here, handlers⟩ := bucket
      rw [dropTopic] at ih
      by_cases mine : here = topic <;> by_cases same : other = topic <;>
        by_cases found : here = other <;> simp_all [dropTopic, handlersOf]

/-- Every topic has at most one bucket, before a handler is added and after. -/
theorem nodup_addHandler (entry : HandleId × κ) (nodup : (buckets.map (·.1)).Nodup) :
    ((addHandler topic entry buckets).map (·.1)).Nodup := by
  induction buckets with
  | nil => simp [addHandler]
  | cons bucket rest ih =>
      obtain ⟨here, handlers⟩ := bucket
      obtain ⟨absent, rest'⟩ := List.nodup_cons.1 nodup
      by_cases same : here = topic
      · simpa [addHandler, same] using nodup
      · rw [addHandler, if_neg same, List.map_cons, List.nodup_cons]
        refine ⟨fun member => ?_, ih rest'⟩
        rcases (mem_map_addHandler topic entry rest here).1 member with new | old
        · exact same new
        · exact absent old

variable {topic buckets}

/-- The bucket of a topic holds its handlers. -/
theorem handlersOf_of_mem {handlers : List (HandleId × κ)} (nodup : (buckets.map (·.1)).Nodup)
    (member : (topic, handlers) ∈ buckets) : handlersOf topic buckets = handlers := by
  induction buckets with
  | nil => simp at member
  | cons bucket rest ih =>
      obtain ⟨here, first⟩ := bucket
      obtain ⟨absent, rest'⟩ := List.nodup_cons.1 nodup
      rcases List.mem_cons.1 member with now | later
      · obtain ⟨rfl, rfl⟩ : topic = here ∧ handlers = first := by simpa using now
        simp [handlersOf]
      · have other : here ≠ topic := by
          rintro rfl
          exact absent (List.mem_map_of_mem (f := (·.1)) later)
        rw [handlersOf, if_neg other, ih rest' later]

theorem mem_addHandler_ne_nil {entry : HandleId × κ}
    (occupied : ∀ bucket ∈ buckets, bucket.2 ≠ []) :
    ∀ bucket ∈ addHandler topic entry buckets, bucket.2 ≠ [] := by
  induction buckets with
  | nil => simp [addHandler]
  | cons bucket rest ih =>
      obtain ⟨here, handlers⟩ := bucket
      have later := ih fun other member => occupied other (List.mem_cons_of_mem _ member)
      rw [addHandler]
      split <;> intro other member <;> rcases List.mem_cons.1 member with rfl | after
      · simp
      · exact occupied other (List.mem_cons_of_mem _ after)
      · exact occupied _ List.mem_cons_self
      · exact later other after

end Buckets

/-! ## The list -/

/-- The registry holds exactly these registrations. -/
structure Lists (subscriptions : Subscriptions κ) (roll : List (Registration κ)) : Prop where
  index : subscriptions.index = (roll.map (fun entry => (entry.handle, entry.topic))).reverse
  handlers : ∀ topic, handlersOf topic subscriptions.buckets =
    (roll.filter (fun entry => entry.topic = topic)).map (fun entry => (entry.handle, entry.callback))
  held : subscriptions.held.Nodup
  occupied : ∀ bucket ∈ subscriptions.buckets, bucket.2 ≠ []
  handles : (roll.map (·.handle)).Nodup

theorem lists_empty : ({} : Subscriptions κ).Lists [] where
  index := rfl
  handlers _ := rfl
  held := List.nodup_nil
  occupied := by simp
  handles := List.nodup_nil

namespace Lists

variable {subscriptions : Subscriptions κ} {roll : List (Registration κ)}
  (lists : subscriptions.Lists roll)
include lists

/-! ### Looking -/

theorem unique {first second : Registration κ} (firstMember : first ∈ roll)
    (secondMember : second ∈ roll) (same : first.handle = second.handle) : first = second :=
  List.inj_on_of_nodup_map lists.handles firstMember secondMember same

theorem topicOf_eq_some_iff (handle : HandleId) (topic : Topic) :
    subscriptions.topicOf handle = some topic ↔
      ∃ entry ∈ roll, entry.handle = handle ∧ entry.topic = topic := by
  have member : ∀ pair, pair ∈ subscriptions.index ↔
      ∃ entry ∈ roll, (entry.handle, entry.topic) = pair := by
    intro pair
    simp [lists.index]
  constructor
  · intro found
    obtain ⟨pair, looked, rfl⟩ := Option.map_eq_some_iff.1 found
    obtain ⟨entry, inRoll, rfl⟩ := (member pair).1 (List.mem_of_find?_eq_some looked)
    exact ⟨entry, inRoll, by simpa using List.find?_some looked, rfl⟩
  · rintro ⟨entry, inRoll, rfl, rfl⟩
    rw [topicOf]
    cases looked : subscriptions.index.find? (fun pair => pair.1 = entry.handle) with
    | none =>
        have missing := List.find?_eq_none.1 looked _ ((member _).2 ⟨entry, inRoll, rfl⟩)
        simp at missing
    | some pair =>
        obtain ⟨other, otherInRoll, rfl⟩ := (member pair).1 (List.mem_of_find?_eq_some looked)
        have same : other = entry :=
          lists.unique otherInRoll inRoll (by simpa using List.find?_some looked)
        simp [same]

theorem topicOf_eq_none_iff (handle : HandleId) :
    subscriptions.topicOf handle = none ↔ ∀ entry ∈ roll, entry.handle ≠ handle := by
  rw [Option.eq_none_iff_forall_ne_some]
  constructor
  · rintro none entry member rfl
    exact none entry.topic ((lists.topicOf_eq_some_iff _ _).2 ⟨entry, member, rfl, rfl⟩)
  · intro absent topic found
    obtain ⟨entry, member, same, -⟩ := (lists.topicOf_eq_some_iff _ _).1 found
    exact absent entry member same

theorem contains_iff (handle : HandleId) :
    subscriptions.contains handle = true ↔ ∃ entry ∈ roll, entry.handle = handle := by
  rw [contains, Option.isSome_iff_ne_none, ne_eq, lists.topicOf_eq_none_iff]
  simp

theorem handlerCount_eq : subscriptions.handlerCount = roll.length := by
  simp [handlerCount, lists.index]

theorem mem_held_iff (topic : Topic) :
    topic ∈ subscriptions.held ↔ ∃ entry ∈ roll, entry.topic = topic := by
  constructor
  · intro member
    obtain ⟨⟨here, handlers⟩, inBuckets, rfl⟩ := List.mem_map.1 member
    have some := lists.occupied _ inBuckets
    rw [← handlersOf_of_mem lists.held inBuckets, lists.handlers] at some
    obtain ⟨entry, inRoll⟩ := List.exists_mem_of_ne_nil _ (mt List.map_eq_nil_iff.2 some)
    obtain ⟨inRoll, same⟩ := List.mem_filter.1 inRoll
    exact ⟨entry, inRoll, by simpa using same⟩
  · rintro ⟨entry, member, rfl⟩
    refine mem_of_handlersOf (Bool.eq_false_iff.2 fun empty => ?_)
    rw [List.isEmpty_iff, lists.handlers, List.map_eq_nil_iff, List.filter_eq_nil_iff] at empty
    simpa using empty entry member

theorem mem_handlersOf_iff (topic : Topic) (pair : HandleId × κ) :
    pair ∈ handlersOf topic subscriptions.buckets ↔
      ∃ entry ∈ roll, entry.topic = topic ∧ (entry.handle, entry.callback) = pair := by
  rw [lists.handlers, List.mem_map]
  simp [and_assoc]

/-- A handle points to a topic exactly if it is among the topic's handlers. -/
theorem points_iff (handle : HandleId) (topic : Topic) :
    subscriptions.topicOf handle = some topic ↔
      handle ∈ (handlersOf topic subscriptions.buckets).map (·.1) := by
  rw [lists.topicOf_eq_some_iff, List.mem_map]
  constructor
  · rintro ⟨entry, member, rfl, rfl⟩
    exact ⟨_, (lists.mem_handlersOf_iff entry.topic _).2 ⟨entry, member, rfl, rfl⟩, rfl⟩
  · rintro ⟨pair, inHandlers, rfl⟩
    obtain ⟨entry, member, here, rfl⟩ := (lists.mem_handlersOf_iff topic pair).1 inHandlers
    exact ⟨entry, member, rfl, here⟩

theorem mem_bucket_iff {bucket : Topic × List (HandleId × κ)}
    (inBuckets : bucket ∈ subscriptions.buckets) (pair : HandleId × κ) :
    pair ∈ bucket.2 ↔
      ∃ entry ∈ roll, entry.topic = bucket.1 ∧ (entry.handle, entry.callback) = pair := by
  rw [← handlersOf_of_mem lists.held inBuckets]
  exact lists.mem_handlersOf_iff _ pair

/-- The handlers of some topics, bucket by bucket, are those of their entries. -/
theorem flatMap_perm (wanted : Topic → Bool) :
    ((subscriptions.buckets.filter (fun bucket => wanted bucket.1)).flatMap (·.2)).Perm
      ((roll.filter (fun entry => wanted entry.topic)).map
        (fun entry => (entry.handle, entry.callback))) := by
  have handles : (roll.map (fun entry => (entry.handle, entry.callback))).Nodup := by
    refine List.Nodup.of_map (·.1) ?_
    rw [List.map_map]
    exact lists.handles
  have nodup : ((subscriptions.buckets.filter (fun bucket => wanted bucket.1)).flatMap
      (·.2)).Nodup := by
    rw [List.nodup_flatMap]
    constructor
    · intro bucket member
      obtain ⟨inBuckets, -⟩ := List.mem_filter.1 member
      rw [← handlersOf_of_mem lists.held inBuckets, lists.handlers]
      exact handles.sublist (List.filter_sublist.map _)
    · have apart : subscriptions.buckets.Pairwise (fun left right => left.1 ≠ right.1) :=
        List.pairwise_map.1 lists.held
      refine (apart.imp_of_mem ?_).sublist List.filter_sublist
      intro left right leftMember rightMember different pair inLeft inRight
      obtain ⟨entry, member, here, same⟩ := (lists.mem_bucket_iff leftMember pair).1 inLeft
      obtain ⟨other, otherMember, there, rfl⟩ := (lists.mem_bucket_iff rightMember pair).1 inRight
      have sameEntry := lists.unique member otherMember (congrArg Prod.fst same)
      exact different (here.symm.trans (sameEntry ▸ there))
  rw [List.perm_ext_iff_of_nodup nodup (handles.sublist (List.filter_sublist.map _))]
  intro pair
  simp only [List.mem_flatMap, List.mem_filter, List.mem_map]
  constructor
  · rintro ⟨bucket, ⟨inBuckets, isWanted⟩, inBucket⟩
    obtain ⟨entry, member, here, same⟩ := (lists.mem_bucket_iff inBuckets pair).1 inBucket
    exact ⟨entry, ⟨member, here ▸ isWanted⟩, same⟩
  · rintro ⟨entry, ⟨member, isWanted⟩, same⟩
    obtain ⟨bucket, inBuckets, here⟩ :=
      List.mem_map.1 ((lists.mem_held_iff entry.topic).2 ⟨entry, member, rfl⟩)
    exact ⟨bucket, ⟨inBuckets, here ▸ isWanted⟩,
      (lists.mem_bucket_iff inBuckets pair).2 ⟨entry, member, here.symm, same⟩⟩

/-- A topic counts once, however many handlers it has. -/
theorem topicCount_eq : subscriptions.topicCount = (roll.map (·.topic)).dedup.length := by
  have same : subscriptions.held.Perm (roll.map (·.topic)).dedup := by
    rw [List.perm_ext_iff_of_nodup lists.held (List.nodup_dedup _)]
    intro topic
    simp [lists.mem_held_iff]
  rw [← same.length_eq]
  simp [topicCount, Subscriptions.held]

theorem topics_ascending :
    subscriptions.topics.Pairwise (fun left right => Topic.compare left right = .lt) :=
  Topic.sort_ascending lists.held

/-! ### Registering -/

theorem first_iff (handle : HandleId) (topic : Topic) (callback : κ) :
    (subscriptions.subscribe handle topic callback).2 = true ↔
      ∀ entry ∈ roll, entry.topic ≠ topic := by
  rw [Subscriptions.subscribe, List.isEmpty_iff, lists.handlers, List.map_eq_nil_iff,
    List.filter_eq_nil_iff]
  simp

/-- **Registering a handler appends an entry.** -/
theorem subscribe {handle : HandleId} (fresh : ∀ entry ∈ roll, entry.handle ≠ handle)
    (topic : Topic) (callback : κ) :
    (subscriptions.subscribe handle topic callback).1.Lists
      (roll ++ [⟨handle, topic, callback⟩]) where
  index := by
    have kept : subscriptions.index.filter (fun pair => pair.1 ≠ handle) = subscriptions.index := by
      refine List.filter_eq_self.2 fun pair member => ?_
      rw [lists.index, List.mem_reverse, List.mem_map] at member
      obtain ⟨entry, inRoll, rfl⟩ := member
      simpa using fresh entry inRoll
    rw [Subscriptions.subscribe, kept, lists.index]
    simp
  handlers other := by
    rw [Subscriptions.subscribe, handlersOf_addHandler, lists.handlers, lists.handlers]
    by_cases same : other = topic
    · simp [same]
    · simp [same, Ne.symm same]
  held := nodup_addHandler topic _ _ lists.held
  occupied := mem_addHandler_ne_nil lists.occupied
  handles := by
    rw [List.map_append, List.nodup_append]
    refine ⟨lists.handles, by simp, fun one member other now => ?_⟩
    obtain ⟨entry, inRoll, rfl⟩ := List.mem_map.1 member
    obtain rfl : other = handle := by simpa using now
    exact fresh entry inRoll

/-! ### Releasing -/

/-- The handlers that are left of an entry's topic are those of the other entries. -/
theorem handlersOf_dropped {entry : Registration κ} (member : entry ∈ roll) (topic : Topic) :
    handlersOf topic (dropHandler entry.topic entry.handle subscriptions.buckets) =
      ((roll.filter (fun other => other.handle ≠ entry.handle)).filter
        (fun other => other.topic = topic)).map (fun other => (other.handle, other.callback)) := by
  rw [handlersOf_dropHandler, lists.handlers, lists.handlers, List.filter_map, List.filter_filter,
    List.filter_filter]
  split
  · rename_i same
    subst same
    exact congrArg _ (List.filter_congr fun other _ => Bool.and_comm _ _)
  · rename_i elsewhere
    refine congrArg _ (List.filter_congr fun other otherMember => ?_)
    by_cases same : other.topic = topic
    · have different : other.handle ≠ entry.handle := by
        intro sameHandle
        exact elsewhere (lists.unique otherMember member sameHandle ▸ same).symm
      simp [same, different]
    · simp [same]

/-- No handler is left of an entry's topic exactly if that was its only entry. -/
theorem dropped_eq_nil_iff {entry : Registration κ} (member : entry ∈ roll) :
    handlersOf entry.topic (dropHandler entry.topic entry.handle subscriptions.buckets) = [] ↔
      roll.filter (fun other => other.topic = entry.topic) = [entry] := by
  rw [lists.handlersOf_dropped member, List.map_eq_nil_iff, List.filter_filter,
    List.filter_eq_nil_iff]
  constructor
  · intro nobody
    have only : ∀ other ∈ roll.filter (fun other => other.topic = entry.topic), other = entry := by
      intro other otherMember
      obtain ⟨inRoll, same⟩ := List.mem_filter.1 otherMember
      by_contra different
      refine nobody other inRoll ?_
      have handles : other.handle ≠ entry.handle :=
        fun sameHandle => different (lists.unique inRoll member sameHandle)
      simpa [handles] using same
    have nodup : (roll.filter (fun other => other.topic = entry.topic)).Nodup :=
      (List.Nodup.of_map _ lists.handles).filter _
    have inFilter : entry ∈ roll.filter (fun other => other.topic = entry.topic) :=
      List.mem_filter.2 ⟨member, by simp⟩
    have same := (List.perm_ext_iff_of_nodup nodup (List.nodup_singleton entry)).2 fun other => by
      rw [List.mem_singleton]
      exact ⟨only other, fun same => same ▸ inFilter⟩
    exact List.perm_singleton.1 same
  · intro only other inRoll
    by_cases same : other.topic = entry.topic
    · have inOnly : other ∈ roll.filter (fun other => other.topic = entry.topic) :=
        List.mem_filter.2 ⟨inRoll, by simpa using same⟩
      rw [only, List.mem_singleton] at inOnly
      simp [inOnly]
    · simp [same]

/-- Only the bucket of a released handler may be left empty, and only if it held nothing else. -/
theorem dropped_ne_nil {entry : Registration κ} (member : entry ∈ roll)
    {bucket : Topic × List (HandleId × κ)}
    (inBuckets : bucket ∈ dropHandler entry.topic entry.handle subscriptions.buckets)
    (others : bucket.1 = entry.topic →
      roll.filter (fun other => other.topic = entry.topic) ≠ [entry]) : bucket.2 ≠ [] := by
  obtain ⟨topic, handlers⟩ := bucket
  have kept := map_dropHandler entry.topic entry.handle subscriptions.buckets
  have nodup : ((dropHandler entry.topic entry.handle subscriptions.buckets).map (·.1)).Nodup := by
    rw [kept]
    exact lists.held
  have held : topic ∈ subscriptions.held := by
    rw [Subscriptions.held, ← kept]
    exact List.mem_map_of_mem (f := (·.1)) inBuckets
  rw [← handlersOf_of_mem nodup inBuckets]
  by_cases same : topic = entry.topic
  · rw [same, ne_eq, lists.dropped_eq_nil_iff member]
    exact others same
  · obtain ⟨other, otherMember, rfl⟩ := (lists.mem_held_iff topic).1 held
    rw [handlersOf_dropHandler, if_neg same, lists.handlers, ne_eq, List.map_eq_nil_iff,
      List.filter_eq_nil_iff]
    exact fun none => none other otherMember (by simp)

/-- A topic is vacant once its only entry is gone. -/
theorem isVacant_iff {entry : Registration κ} (member : entry ∈ roll) :
    isVacant entry.topic (dropHandler entry.topic entry.handle subscriptions.buckets) = true ↔
      roll.filter (fun other => other.topic = entry.topic) = [entry] := by
  have bucket : entry.topic ∈
      (dropHandler entry.topic entry.handle subscriptions.buckets).map (·.1) := by
    rw [map_dropHandler]
    exact (lists.mem_held_iff _).2 ⟨entry, member, rfl⟩
  have present : (dropHandler entry.topic entry.handle subscriptions.buckets).any
      (fun bucket => bucket.1 = entry.topic) = true := by
    obtain ⟨found, inBuckets, same⟩ := List.mem_map.1 bucket
    exact List.any_eq_true.2 ⟨found, inBuckets, by simpa using same⟩
  rw [isVacant, present, Bool.true_and, List.isEmpty_iff, lists.dropped_eq_nil_iff member]

/-- What releasing a handle does to the registry and what it answers: nothing if it has no entry;
otherwise its handler goes, and if that was the only one of its topic the topic as well. -/
theorem unsubscribe_cases (handle : HandleId) :
    (∀ entry ∈ roll, entry.handle ≠ handle) ∧
        subscriptions.unsubscribe handle = (subscriptions, .unknown) ∨
      ∃ entry ∈ roll, entry.handle = handle ∧
        let dropped := dropHandler entry.topic handle subscriptions.buckets
        let index := subscriptions.index.filter (fun pair => pair.1 ≠ handle)
        (roll.filter (fun other => other.topic = entry.topic) = [entry] ∧
            subscriptions.unsubscribe handle =
              ({ buckets := dropTopic entry.topic dropped, index }, .lastForTopic entry.topic) ∨
          roll.filter (fun other => other.topic = entry.topic) ≠ [entry] ∧
            subscriptions.unsubscribe handle = ({ buckets := dropped, index }, .removed)) := by
  cases found : subscriptions.topicOf handle with
  | none =>
      exact .inl ⟨(lists.topicOf_eq_none_iff handle).1 found,
        subscriptions.unsubscribe_unknown handle found⟩
  | some topic =>
      obtain ⟨entry, member, rfl, rfl⟩ := (lists.topicOf_eq_some_iff _ _).1 found
      refine .inr ⟨entry, member, rfl, ?_⟩
      have vacant := lists.isVacant_iff member
      by_cases only : roll.filter (fun other => other.topic = entry.topic) = [entry]
      · exact .inl ⟨only, by simp [Subscriptions.unsubscribe, found, vacant.2 only]⟩
      · refine .inr ⟨only, ?_⟩
        have taken := mt vacant.1 only
        simp [Subscriptions.unsubscribe, found, taken]

theorem removal_unknown_iff (handle : HandleId) :
    (subscriptions.unsubscribe handle).2 = .unknown ↔ ∀ entry ∈ roll, entry.handle ≠ handle := by
  rcases lists.unsubscribe_cases handle with
    ⟨absent, result⟩ | ⟨entry, member, rfl, ⟨-, result⟩ | ⟨-, result⟩⟩
  · simpa [result] using absent
  all_goals
    rw [result]
    simp only [reduceCtorEq, false_iff, not_forall]
    exact ⟨entry, member, fun differs => differs rfl⟩

theorem removal_last_iff (handle : HandleId) (topic : Topic) :
    (subscriptions.unsubscribe handle).2 = .lastForTopic topic ↔
      ∃ entry ∈ roll, entry.handle = handle ∧ entry.topic = topic ∧
        roll.filter (fun other => other.topic = topic) = [entry] := by
  rcases lists.unsubscribe_cases handle with
    ⟨absent, result⟩ | ⟨entry, member, rfl, ⟨only, result⟩ | ⟨others, result⟩⟩
  · rw [result]
    simp only [reduceCtorEq, false_iff]
    rintro ⟨entry, member, same, -⟩
    exact absent entry member same
  · rw [result]
    simp only [Removal.lastForTopic.injEq]
    constructor
    · rintro rfl
      exact ⟨entry, member, rfl, rfl, only⟩
    · rintro ⟨other, otherMember, same, rfl, -⟩
      rw [lists.unique otherMember member same]
  · rw [result]
    simp only [reduceCtorEq, false_iff]
    rintro ⟨other, otherMember, same, rfl, only⟩
    obtain rfl := lists.unique otherMember member same
    exact others only

theorem removal_removed_iff (handle : HandleId) :
    (subscriptions.unsubscribe handle).2 = .removed ↔
      ∃ entry ∈ roll, entry.handle = handle ∧
        roll.filter (fun other => other.topic = entry.topic) ≠ [entry] := by
  rcases lists.unsubscribe_cases handle with
    ⟨absent, result⟩ | ⟨entry, member, rfl, ⟨only, result⟩ | ⟨others, result⟩⟩
  · rw [result]
    simp only [reduceCtorEq, false_iff]
    rintro ⟨entry, member, same, -⟩
    exact absent entry member same
  · rw [result]
    simp only [reduceCtorEq, false_iff]
    rintro ⟨other, otherMember, same, others⟩
    obtain rfl := lists.unique otherMember member same
    exact others only
  · rw [result]
    simp only [true_iff]
    exact ⟨entry, member, rfl, others⟩

/-- An unknown handle changes nothing. -/
theorem unsubscribe_of_unknown {handle : HandleId}
    (unknown : (subscriptions.unsubscribe handle).2 = .unknown) :
    (subscriptions.unsubscribe handle).1 = subscriptions := by
  have absent := (lists.removal_unknown_iff handle).1 unknown
  rw [subscriptions.unsubscribe_unknown handle ((lists.topicOf_eq_none_iff handle).2 absent)]

/-- **Releasing a handle takes its entry out.** -/
theorem unsubscribe (handle : HandleId) :
    (subscriptions.unsubscribe handle).1.Lists
      (roll.filter (fun entry => entry.handle ≠ handle)) := by
  have index : subscriptions.index.filter (fun pair => pair.1 ≠ handle) =
      ((roll.filter (fun entry => entry.handle ≠ handle)).map
        (fun entry => (entry.handle, entry.topic))).reverse := by
    rw [lists.index, List.filter_reverse, List.filter_map]
    rfl
  have handles : ((roll.filter (fun entry => entry.handle ≠ handle)).map (·.handle)).Nodup :=
    lists.handles.sublist (List.filter_sublist.map _)
  rcases lists.unsubscribe_cases handle with
    ⟨absent, result⟩ | ⟨entry, member, rfl, ⟨only, result⟩ | ⟨others, result⟩⟩
  · have kept : roll.filter (fun entry => entry.handle ≠ handle) = roll :=
      List.filter_eq_self.2 fun entry member => by simpa using absent entry member
    rw [result, kept]
    exact lists
  all_goals
    rw [result]
    have remaining := lists.handlersOf_dropped member
    have still : ((dropHandler entry.topic entry.handle subscriptions.buckets).map
        (·.1)).Nodup := by
      rw [map_dropHandler]
      exact lists.held
  · refine ⟨index, fun topic => ?_, ?_, fun bucket inBuckets => ?_, handles⟩
    · rw [handlersOf_dropTopic]
      split
      · rename_i same
        subst same
        rw [← remaining, (lists.dropped_eq_nil_iff member).2 only]
      · exact remaining topic
    · exact still.sublist (List.filter_sublist.map _)
    · obtain ⟨inDropped, elsewhere⟩ := List.mem_filter.1 inBuckets
      exact lists.dropped_ne_nil member inDropped fun same => by simp [same] at elsewhere
  · exact ⟨index, remaining, still, fun bucket inBuckets =>
      lists.dropped_ne_nil member inBuckets fun _ => others, handles⟩

end Lists

end Subscriptions

end Switchboard
