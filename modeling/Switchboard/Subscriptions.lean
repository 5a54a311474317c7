/-
# Switchboard.Subscriptions -- who listens to what

Handlers are kept per topic, in the order of registration, and every handle
points back to its topic.  A topic is kept only while it has handlers, so the
first handler of a topic (`Subscriptions.subscribe` says whether it is one) and
the last (`Removal.lastForTopic`) are the moments at which the server has to be
told.  A push goes to the handlers of all patterns that cover its topic, in the
order of registration across patterns (`Subscriptions.matching`).

* `Subscriptions.topicOf_subscribe`: a new handle points to its topic;
* `Subscriptions.unsubscribe_unknown`: a handle that points nowhere changes nothing;
* `Subscriptions.contains_unsubscribe`: a removed handle points nowhere.
-/
import Switchboard.HandleId
import Switchboard.Topic

namespace Switchboard

set_option autoImplicit false

/-- What removing a handle did. -/
inductive Removal where
  /-- The handle was not registered. -/
  | unknown
  /-- The handler is gone; its topic has others. -/
  | removed
  /-- The handler is gone, and it was the last of its topic. -/
  | lastForTopic (topic : Topic)
deriving DecidableEq

/-- Who listens to what; `κ` is what a handler does. -/
structure Subscriptions (κ : Type) where
  /-- The handlers of each topic, in the order of registration. -/
  buckets : List (Topic × List (HandleId × κ)) := []
  /-- The topic of each handle. -/
  index : List (HandleId × Topic) := []

namespace Subscriptions

variable {κ : Type}

/-! ## Looking -/

/-- The handlers of one topic. -/
def handlersOf (topic : Topic) : List (Topic × List (HandleId × κ)) → List (HandleId × κ)
  | [] => []
  | (held, handlers) :: rest => if held = topic then handlers else handlersOf topic rest

/-- The topic of a handle. -/
def topicOf (subscriptions : Subscriptions κ) (handle : HandleId) : Option Topic :=
  (subscriptions.index.find? (fun entry => entry.1 = handle)).map (·.2)

/-- Whether a handle is registered. -/
def contains (subscriptions : Subscriptions κ) (handle : HandleId) : Bool :=
  (subscriptions.topicOf handle).isSome

/-- All topics with handlers, in ascending order. -/
def topics (subscriptions : Subscriptions κ) : List Topic :=
  Topic.sort (subscriptions.buckets.map (·.1))

/-- How many topics have handlers. -/
def topicCount (subscriptions : Subscriptions κ) : Nat := subscriptions.buckets.length

/-- How many handlers there are. -/
def handlerCount (subscriptions : Subscriptions κ) : Nat := subscriptions.index.length

/-- The handlers that a push to the topic goes to, in the order of registration. -/
def matching (subscriptions : Subscriptions κ) (topic : Topic) : List (HandleId × κ) :=
  ((subscriptions.buckets.filter (fun bucket => bucket.1.covers topic)).flatMap (·.2)).mergeSort
    (fun left right => HandleId.le left.1 right.1)

/-! ## Registering -/

/-- The buckets with a handler at the end of its topic's. -/
def addHandler (topic : Topic) (entry : HandleId × κ) :
    List (Topic × List (HandleId × κ)) → List (Topic × List (HandleId × κ))
  | [] => [(topic, [entry])]
  | (held, handlers) :: rest =>
      if held = topic then (held, handlers ++ [entry]) :: rest
      else (held, handlers) :: addHandler topic entry rest

/-- The subscriptions with one more handler, and whether it is the first of its topic. -/
def subscribe (subscriptions : Subscriptions κ) (handle : HandleId) (topic : Topic)
    (callback : κ) : Subscriptions κ × Bool :=
  ({ buckets := addHandler topic (handle, callback) subscriptions.buckets
     index := (handle, topic) :: subscriptions.index.filter (fun entry => entry.1 ≠ handle) },
   (handlersOf topic subscriptions.buckets).isEmpty)

/-- The buckets without a handler of a topic. -/
def dropHandler (topic : Topic) (handle : HandleId) :
    List (Topic × List (HandleId × κ)) → List (Topic × List (HandleId × κ))
  | [] => []
  | (held, handlers) :: rest =>
      if held = topic then (held, handlers.filter (fun entry => entry.1 ≠ handle)) :: rest
      else (held, handlers) :: dropHandler topic handle rest

/-- The buckets without a topic. -/
def dropTopic (topic : Topic) (buckets : List (Topic × List (HandleId × κ))) :
    List (Topic × List (HandleId × κ)) :=
  buckets.filter (fun bucket => bucket.1 ≠ topic)

/-- Whether a topic has a bucket, and no handler in it. -/
def isVacant (topic : Topic) (buckets : List (Topic × List (HandleId × κ))) : Bool :=
  buckets.any (fun bucket => bucket.1 = topic) && (handlersOf topic buckets).isEmpty

/-- The subscriptions without a handle, and what that did. -/
def unsubscribe (subscriptions : Subscriptions κ) (handle : HandleId) :
    Subscriptions κ × Removal :=
  match subscriptions.topicOf handle with
  | none => (subscriptions, .unknown)
  | some topic =>
      let index := subscriptions.index.filter (fun entry => entry.1 ≠ handle)
      let buckets := dropHandler topic handle subscriptions.buckets
      if isVacant topic buckets then ({ buckets := dropTopic topic buckets, index }, .lastForTopic topic)
      else ({ buckets, index }, .removed)

/-! ## Laws -/

theorem topicOf_subscribe (subscriptions : Subscriptions κ) (handle : HandleId) (topic : Topic)
    (callback : κ) :
    (subscriptions.subscribe handle topic callback).1.topicOf handle = some topic := by
  simp [subscribe, topicOf]

theorem unsubscribe_unknown (subscriptions : Subscriptions κ) (handle : HandleId)
    (absent : subscriptions.topicOf handle = none) :
    subscriptions.unsubscribe handle = (subscriptions, .unknown) := by
  simp [unsubscribe, absent]

theorem topicOf_of_index_filter (subscriptions : Subscriptions κ) (handle : HandleId)
    (same : subscriptions.index = subscriptions.index.filter (fun entry => entry.1 ≠ handle)) :
    subscriptions.topicOf handle = none := by
  rw [topicOf, Option.map_eq_none_iff, List.find?_eq_none]
  intro entry member
  rw [same] at member
  simpa using (List.mem_filter.mp member).2

theorem contains_unsubscribe (subscriptions : Subscriptions κ) (handle : HandleId) :
    (subscriptions.unsubscribe handle).1.contains handle = false := by
  unfold unsubscribe contains
  split
  · rename_i absent
    simp [absent]
  · rename_i topic _
    rw [topicOf_of_index_filter]
    · rfl
    · dsimp only
      split <;> simp [List.filter_filter]

end Subscriptions

end Switchboard
