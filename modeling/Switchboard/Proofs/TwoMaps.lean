/-
# Switchboard.Proofs.TwoMaps -- the registry's maps fit together

A registry maps topics to their handlers and handles back to their topics, and changes the two
separately.  Nothing but the way in which this is done keeps them together: that they are maps
at all, that no topic is left without handlers, and that each tells of the other
(`Subscriptions.Consistent`).

Both are views of the list of registrations (`Client.Enrolled`), so what holds of every list
whose handles were drawn in its order holds of them.

* `Enrolled.consistent`: a registry that holds such a list is consistent;
* `maps_consistent`: it is so after any course, and a release never misses a topic.
-/
import Mathlib
import Switchboard.Proofs.Deeds

namespace Switchboard

set_option autoImplicit false

/-- The two maps of a registry fit together. -/
structure Subscriptions.Consistent {κ : Type} (subscriptions : Subscriptions κ) : Prop where
  /-- A topic is held once. -/
  topics : subscriptions.held.Nodup
  /-- A handle is indexed once. -/
  handles : (subscriptions.index.map (·.1)).Nodup
  /-- No topic is held without handlers. -/
  occupied : ∀ bucket ∈ subscriptions.buckets, bucket.2 ≠ []
  /-- A handle is indexed under a topic exactly if it is among the topic's handlers. -/
  indexed : ∀ handle topic, subscriptions.topicOf handle = some topic ↔
    handle ∈ (handlersOf topic subscriptions.buckets).map (·.1)
  /-- It is then among them once. -/
  once : ∀ handle topic, subscriptions.topicOf handle = some topic →
    ((handlersOf topic subscriptions.buckets).map (·.1)).count handle = 1
  /-- It is then not among those of any other topic. -/
  nowhereElse : ∀ handle topic, subscriptions.topicOf handle = some topic →
    ∀ other, other ≠ topic → handle ∉ (handlersOf other subscriptions.buckets).map (·.1)
  /-- The handlers of a topic are in the order of their handles. -/
  ascending : ∀ topic, (handlersOf topic subscriptions.buckets).Pairwise
    (fun earlier later => earlier.1.toNat < later.1.toNat)
  /-- The index is as large as the lists of handlers together. -/
  size : subscriptions.index.length =
    (subscriptions.buckets.map (fun bucket => bucket.2.length)).sum

/-- The topic under which a handle is indexed has handlers. -/
theorem Subscriptions.Consistent.mem_held {κ : Type} {subscriptions : Subscriptions κ}
    (consistent : subscriptions.Consistent) {handle : HandleId} {topic : Topic}
    (points : subscriptions.topicOf handle = some topic) : topic ∈ subscriptions.held := by
  have member := (consistent.indexed handle topic).1 points
  refine mem_of_handlersOf (Bool.eq_false_iff.2 fun empty => ?_)
  rw [List.isEmpty_iff.1 empty] at member
  simp at member

namespace Client

variable {κ ω : Type} {first client : Client κ ω} {deeds : List (Deed κ ω)}

/-- The handlers of a topic are in the order of their handles, as their entries are. -/
theorem Enrolled.handlersOf_ascending {roll : List (Registration κ)}
    (enrolled : client.Enrolled roll) (topic : Topic) :
    (Subscriptions.handlersOf topic client.subscriptions.buckets).Pairwise
      (fun earlier later => earlier.1.toNat < later.1.toNat) := by
  rw [enrolled.lists.handlers, List.pairwise_map]
  exact enrolled.ascending.filter _

/-- **The maps of an enrolled registry fit together.** -/
theorem Enrolled.consistent {roll : List (Registration κ)} (enrolled : client.Enrolled roll) :
    client.subscriptions.Consistent := by
  have lists := enrolled.lists
  refine
    { topics := lists.held
      handles := ?_
      occupied := lists.occupied
      indexed := lists.points_iff
      once := fun handle topic points => ?_
      nowhereElse := fun handle topic points other different member => ?_
      ascending := enrolled.handlersOf_ascending
      size := ?_ }
  · rw [lists.index, List.map_reverse, List.nodup_reverse, List.map_map]
    exact lists.handles
  · have nodup : ((Subscriptions.handlersOf topic client.subscriptions.buckets).map (·.1)).Nodup :=
      List.pairwise_map.2 <| (enrolled.handlersOf_ascending topic).imp fun less same =>
        absurd (congrArg HandleId.toNat same) (Nat.ne_of_lt less)
    exact List.count_eq_one_of_mem nodup ((lists.points_iff handle topic).1 points)
  · have pointsThere := (lists.points_iff handle other).2 member
    rw [points] at pointsThere
    exact different (Option.some.inj pointsThere).symm
  · have all := (lists.flatMap_perm fun _ => true).length_eq
    simpa [lists.index, List.length_flatMap] using all.symm

/-- **The two maps of a registry always fit together.**  Take any course of registrations and
releases that starts with an empty registry, made by anyone, handlers in nested dispatches included;
its end may be anywhere in the middle of a longer one.  Then the maps are consistent: no topic is
without handlers, the index and the lists of handlers tell the same, each handle once, the lists are
in the order of the handles, and the index is as large as they are together.

So a handle that is released is either not indexed, or the list it is to be taken from is there. -/
theorem maps_consistent (course : first.Course deeds client) (fresh : first.subscriptions = {})
    (few : client.handlesDrawn < UInt64.size) :
    client.subscriptions.Consistent ∧
      ∀ handle topic, client.subscriptions.topicOf handle = some topic →
        topic ∈ client.subscriptions.held := by
  have consistent := (course.enrolled fresh few).consistent
  exact ⟨consistent, fun handle topic => consistent.mem_held⟩

/-- A handler has released another and registered a third, in the middle of a dispatch. -/
theorem maps_consistent_stirred :
    (new {} none () : Client Bool Unit).Course (pair ++ stir true) stirred ∧
      (new {} none () : Client Bool Unit).subscriptions = {} ∧
      stirred.handlesDrawn < UInt64.size ∧
      stirred.subscriptions.Consistent ∧
      stirred.subscriptions.topicOf (HandleId.nth 1) = none ∧
      ⟨["b"]⟩ ∈ stirred.subscriptions.held := by
  have reached := stirred_course.carryOut
  have few : stirred.handlesDrawn < UInt64.size := by
    rw [reached]
    decide
  have released : stirred.subscriptions.topicOf (HandleId.nth 1) = none := by
    rw [reached]
    decide
  have registered : stirred.subscriptions.topicOf (HandleId.nth 2) = some ⟨["b"]⟩ := by
    rw [reached]
    decide
  obtain ⟨consistent, found⟩ := maps_consistent stirred_course rfl few
  exact ⟨stirred_course, rfl, few, consistent, released, found _ _ registered⟩

end Client

end Switchboard
