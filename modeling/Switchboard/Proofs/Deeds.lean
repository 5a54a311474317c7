/-
# Switchboard.Proofs.Deeds -- what is done to the registry, and by whom

Handlers are registered and released by whoever holds the registry: an application,
or a handler in the middle of a dispatch, which may well dispatch again.  Each
registration or release is one deed (`Client.Deed`); a course is a sequence of deeds
in the order in which they are done, whoever does them (`Client.Course`).  Dispatches
nest to any finite depth in a course, since a handler's own course is part of it.

Who does a deed does not matter: a course leads where its deeds lead one by one
(`Course.carryOut`).  So the list of registrations can be kept beside the registry
(`Client.rollAfter`), and the registry holds exactly that list (`Course.enrolled`),
as long as handles are not drawn twice.

* `registry_refines_list`: whatever the registry answers, the list says the same.
-/
import Mathlib
import Switchboard.Client.Delivery
import Switchboard.Client.Subscribing
import Switchboard.Proofs.Roll

namespace Switchboard.Client

set_option autoImplicit false

variable {κ ω : Type}

/-! ## Deeds -/

/-- What is done to a registry at once. -/
inductive Deed (κ ω : Type) where
  | subscribe (topic : Topic) (callback : κ)
  | unsubscribe (handle : HandleId)
  /-- A handle is drawn for something else. -/
  | draw
  /-- What belongs to the callbacks changes. -/
  | note (desk : ω)

/-- The client after a deed. -/
def Deed.perform (deed : Deed κ ω) (client : Client κ ω) : Client κ ω :=
  match deed with
  | .subscribe topic callback => (client.register topic callback).1
  | .unsubscribe handle => (client.release handle).1
  | .draw => client.drawHandle.1
  | .note desk => { client with desk }

/-- The client after these deeds, one after the other. -/
def carryOut (deeds : List (Deed κ ω)) (client : Client κ ω) : Client κ ω :=
  deeds.foldl (fun client deed => deed.perform client) client

/-- The registrations after a deed: a new one comes last, a released one goes. -/
def Deed.enter (deed : Deed κ ω) (client : Client κ ω) (roll : List (Registration κ)) :
    List (Registration κ) :=
  match deed with
  | .subscribe topic callback => roll ++ [⟨(client.register topic callback).2.1, topic, callback⟩]
  | .unsubscribe handle => roll.filter (fun entry => entry.handle ≠ handle)
  | .draw | .note _ => roll

/-- The registrations after these deeds, if there were none before. -/
def rollAfter (deeds : List (Deed κ ω)) (client : Client κ ω) : List (Registration κ) :=
  (deeds.foldl (fun state deed => (deed.perform state.1, deed.enter state.1 state.2))
    (client, [])).2

/-- What callbacks do, in deeds: those of each, when it is told something, in their order. -/
abbrev Account (κ ω : Type) := κ → Signal → Client κ ω → List (Deed κ ω)

/-- What callbacks do that are told something one after the other. -/
def Account.ofAll (account : Account κ ω) (behave : Behaviour κ ω) (signal : Signal) :
    List (HandleId × κ) → Client κ ω → List (Deed κ ω)
  | [], _ => []
  | entry :: entries, client =>
      account entry.2 signal client ++
        account.ofAll behave signal entries (notify behave entry.2 signal client)

/-! ## Courses -/

/-- These deeds, in this order, lead from one client to another; some may be done by handlers in
the middle of a dispatch, and by handlers that these tell something in turn. -/
inductive Course : Client κ ω → List (Deed κ ω) → Client κ ω → Prop where
  | still (client : Client κ ω) : Course client [] client
  | deed {first client : Client κ ω} {deeds : List (Deed κ ω)} (course : Course first deeds client)
      (deed : Deed κ ω) : Course first (deeds ++ [deed]) (deed.perform client)
  /-- A push is delivered, to handlers whose own courses are as accounted for. -/
  | dispatch {first client : Client κ ω} {deeds : List (Deed κ ω)}
      (course : Course first deeds client) {behave : Behaviour κ ω} {account : Account κ ω}
      (does : ∀ callback signal found,
        Course found (account callback signal found) (behave callback signal found).1)
      (topic : Topic) (data : Json) :
      Course first
        (deeds ++ account.ofAll behave (.push topic data)
          (client.subscriptions.matching topic) client)
        (client.dispatch behave topic data).1

end Client

/-- Callbacks do what an account says, and nothing else. -/
def Behaviour.Does {κ ω : Type} (behave : Behaviour κ ω) (account : Client.Account κ ω) : Prop :=
  ∀ callback signal found,
    Client.Course found (account callback signal found) (behave callback signal found).1

namespace Client

variable {κ ω : Type} {first client : Client κ ω} {deeds : List (Deed κ ω)}

theorem carryOut_append (deeds later : List (Deed κ ω)) (client : Client κ ω) :
    client.carryOut (deeds ++ later) = (client.carryOut deeds).carryOut later :=
  List.foldl_append

/-- Callbacks that are told something do their deeds one after the other. -/
theorem notifyAll_carryOut {behave : Behaviour κ ω} {account : Account κ ω}
    (does : ∀ callback signal found,
      (behave callback signal found).1 = found.carryOut (account callback signal found))
    (signal : Signal) (entries : List (HandleId × κ)) (client : Client κ ω) :
    notifyAll behave signal client entries =
      client.carryOut (account.ofAll behave signal entries client) := by
  induction entries generalizing client with
  | nil => rfl
  | cons entry entries ih =>
      have told : notify behave entry.2 signal client =
          client.carryOut (account entry.2 signal client) := does _ _ _
      rw [Account.ofAll, carryOut_append, ← told]
      exact ih _

/-- **A course leads where its deeds lead**, whoever does them. -/
theorem Course.carryOut (course : first.Course deeds client) : client = first.carryOut deeds := by
  induction course with
  | still => rfl
  | deed _ deed ih => rw [carryOut_append, ← ih]; rfl
  | dispatch _ _ topic data ih each =>
      rw [carryOut_append, ← ih]
      exact notifyAll_carryOut each _ _ _

/-- So the deeds of an unfinished dispatch are a course as well: any deeds are. -/
theorem course_carryOut (deeds : List (Deed κ ω)) (first : Client κ ω) :
    first.Course deeds (first.carryOut deeds) := by
  induction deeds using List.reverseRecOn with
  | nil => exact .still first
  | append_singleton deeds deed ih =>
      rw [carryOut_append]
      exact ih.deed deed

theorem rollAfter_append_singleton (deeds : List (Deed κ ω)) (deed : Deed κ ω)
    (client : Client κ ω) :
    client.rollAfter (deeds ++ [deed]) =
      deed.enter (client.carryOut deeds) (client.rollAfter deeds) := by
  have reached : ∀ roll, (deeds.foldl
      (fun state deed => (deed.perform state.1, deed.enter state.1 state.2)) (client, roll)).1 =
        client.carryOut deeds := by
    induction deeds generalizing client with
    | nil => exact fun _ => rfl
    | cons deed deeds ih => exact fun _ => ih _ _
  simp [rollAfter, reached]

theorem Course.deliver {behave : Behaviour κ ω} {account : Account κ ω}
    (course : first.Course deeds client) (does : behave.Does account) (topic : Topic)
    (data : Json) :
    first.Course
      (deeds ++ account.ofAll behave (.push topic data) (client.subscriptions.matching topic)
        client)
      (client.dispatch behave topic data).1 :=
  .dispatch course does topic data

/-! ## The registry is the list -/

/-- The registry holds exactly these registrations, and their handles were drawn in this order. -/
structure Enrolled (client : Client κ ω) (roll : List (Registration κ)) : Prop where
  lists : client.subscriptions.Lists roll
  ascending : roll.Pairwise (fun earlier later => earlier.handle.toNat < later.handle.toNat)
  drawn : ∀ entry ∈ roll, entry.handle.toNat ≤ client.handlesDrawn

theorem Deed.drawn_le (deed : Deed κ ω) (client : Client κ ω) :
    client.handlesDrawn ≤ (deed.perform client).handlesDrawn := by
  cases deed with
  | subscribe topic callback => exact Nat.le_succ _
  | draw => exact Nat.le_succ _
  | unsubscribe handle => exact Nat.le_refl _
  | note desk => exact Nat.le_refl _

theorem Enrolled.perform {roll : List (Registration κ)} (enrolled : client.Enrolled roll)
    (deed : Deed κ ω) (few : (deed.perform client).handlesDrawn < UInt64.size) :
    (deed.perform client).Enrolled (deed.enter client roll) := by
  cases deed with
  | subscribe topic callback =>
      have few : client.handlesDrawn + 1 < UInt64.size := few
      have number : (HandleId.nth client.handlesDrawn).toNat = client.handlesDrawn + 1 :=
        HandleId.toNat_ofNat _ few
      have later : ∀ entry ∈ roll,
          entry.handle.toNat < (HandleId.nth client.handlesDrawn).toNat := by
        intro entry member
        rw [number]
        exact Nat.lt_succ_of_le (enrolled.drawn entry member)
      constructor
      · refine enrolled.lists.subscribe (fun entry member same => ?_) topic callback
        exact Nat.lt_irrefl _ (same ▸ later entry member)
      · rw [Deed.enter, List.pairwise_append]
        refine ⟨enrolled.ascending, List.pairwise_singleton _ _, fun entry member new now => ?_⟩
        rw [List.mem_singleton.1 now]
        exact later entry member
      · intro entry member
        rcases List.mem_append.1 member with before | now
        · exact Nat.le_succ_of_le (enrolled.drawn entry before)
        · rw [List.mem_singleton.1 now]
          exact Nat.le_of_eq number
  | unsubscribe handle =>
      exact ⟨enrolled.lists.unsubscribe handle, enrolled.ascending.filter _,
        fun entry member => enrolled.drawn entry (List.mem_filter.1 member).1⟩
  | draw =>
      exact ⟨enrolled.lists, enrolled.ascending,
        fun entry member => Nat.le_succ_of_le (enrolled.drawn entry member)⟩
  | note desk => exact ⟨enrolled.lists, enrolled.ascending, enrolled.drawn⟩

/-- **After any course the registry holds the list that was kept beside it**, if fewer handles
were drawn than there are. -/
theorem Course.enrolled (course : first.Course deeds client) (fresh : first.subscriptions = {})
    (few : client.handlesDrawn < UInt64.size) : client.Enrolled (first.rollAfter deeds) := by
  rw [course.carryOut] at few ⊢
  clear course
  induction deeds using List.reverseRecOn with
  | nil => exact ⟨fresh ▸ Subscriptions.lists_empty, .nil, by simp [rollAfter]⟩
  | append_singleton deeds deed ih =>
      rw [rollAfter_append_singleton]
      rw [carryOut_append] at few ⊢
      exact (ih (Nat.lt_of_le_of_lt (deed.drawn_le _) few)).perform deed few

/-- **The registry is a list of registrations.**  Take any course of registrations and releases
that starts with an empty registry, made by anyone, handlers in nested dispatches included, and
the list to which each registration was appended and from which each released handle's entry was
deleted.  Then at the end of the course, which may be anywhere in the middle of a longer one:

* a handler registered now is the first of its topic exactly if the list has no entry there;
* a handle released now is unknown exactly if it is not in the list, and then nothing changes; it
  is the last of a topic exactly if its entry is the only one there; otherwise it is just removed;
* whether a handle is registered, and for which topic, and how many handlers and topics there are,
  is what the list says;
* the topics are those of the list, in strictly ascending order. -/
theorem registry_refines_list (course : first.Course deeds client)
    (fresh : first.subscriptions = {}) (few : client.handlesDrawn < UInt64.size) :
    let roll := first.rollAfter deeds
    let registry := client.subscriptions
    (∀ topic callback, (client.register topic callback).2.2 = true ↔
        ∀ entry ∈ roll, entry.topic ≠ topic) ∧
      (∀ handle,
        ((client.release handle).2 = .unknown ↔ ∀ entry ∈ roll, entry.handle ≠ handle) ∧
        ((client.release handle).2 = .unknown → (client.release handle).1 = client) ∧
        (∀ topic, (client.release handle).2 = .lastForTopic topic ↔
          ∃ entry ∈ roll, entry.handle = handle ∧ entry.topic = topic ∧
            roll.filter (fun other => other.topic = topic) = [entry]) ∧
        ((client.release handle).2 = .removed ↔
          ∃ entry ∈ roll, entry.handle = handle ∧
            roll.filter (fun other => other.topic = entry.topic) ≠ [entry])) ∧
      (∀ handle, registry.contains handle = true ↔ ∃ entry ∈ roll, entry.handle = handle) ∧
      (∀ handle topic, registry.topicOf handle = some topic ↔
        ∃ entry ∈ roll, entry.handle = handle ∧ entry.topic = topic) ∧
      registry.handlerCount = roll.length ∧
      registry.topicCount = (roll.map (·.topic)).dedup.length ∧
      registry.topics.Pairwise (fun left right => Topic.compare left right = .lt) ∧
      ∀ topic, topic ∈ registry.topics ↔ ∃ entry ∈ roll, entry.topic = topic := by
  intro roll registry
  have lists := (course.enrolled fresh few).lists
  refine ⟨fun topic callback => lists.first_iff (HandleId.nth client.handlesDrawn) topic callback,
    fun handle => ⟨?_, ?_, ?_, ?_⟩,
    lists.contains_iff, lists.topicOf_eq_some_iff, lists.handlerCount_eq, lists.topicCount_eq,
    lists.topics_ascending, fun topic => ?_⟩
  · exact lists.removal_unknown_iff handle
  · intro unknown
    have same := lists.unsubscribe_of_unknown unknown
    simp [release, same]
  · exact lists.removal_last_iff handle
  · exact lists.removal_removed_iff handle
  · rw [Subscriptions.mem_topics, lists.mem_held_iff]

/-- Callbacks that do nothing. -/
def resting : Behaviour Bool Unit := fun _ _ client => (client, .returned)

theorem resting_does : resting.Does fun _ _ _ => [] := fun _ _ found => .still found

/-- A callback that releases the second handle, registers a handler for another topic, delivers a
push there, and panics; others rest. -/
def stirring : Behaviour Bool Unit := fun callback _ client =>
  match callback with
  | true =>
      ((((client.release (HandleId.nth 1)).1.register ⟨["b"]⟩ false).1.dispatch resting ⟨["b"]⟩
        .null).1, .panicked)
  | false => (client, .returned)

/-- What the stirring callback does. -/
def stir (callback : Bool) : List (Deed Bool Unit) :=
  if callback then [.unsubscribe (HandleId.nth 1), .subscribe ⟨["b"]⟩ false] else []

theorem stirring_does : stirring.Does fun callback _ _ => stir callback := by
  have nothing : ∀ signal entries (client : Client Bool Unit),
      Account.ofAll (fun _ _ _ => []) resting signal entries client = [] := by
    intro signal entries client
    induction entries generalizing client with
    | nil => rfl
    | cons entry entries ih => exact ih _
  intro callback signal found
  cases callback with
  | false => exact .still found
  | true =>
      have course := (((Course.still found).deed (.unsubscribe (HandleId.nth 1))).deed
        (.subscribe ⟨["b"]⟩ false)).deliver resting_does ⟨["b"]⟩ .null
      rw [nothing] at course
      exact course

/-- Two handlers of one topic, the first of which stirs. -/
def pair : List (Deed Bool Unit) := [.subscribe ⟨["a"]⟩ true, .subscribe ⟨["a"]⟩ false]

/-- The two are told of a push. -/
def stirred : Client Bool Unit :=
  (((new {} none () : Client Bool Unit).carryOut pair).dispatch stirring ⟨["a"]⟩ .null).1

theorem stirred_course :
    (new {} none () : Client Bool Unit).Course (pair ++ stir true) stirred := by
  have matched : ((new {} none () : Client Bool Unit).carryOut pair).subscriptions.matching
      ⟨["a"]⟩ = [(HandleId.nth 0, true), (HandleId.nth 1, false)] := by cbv
  have course := (course_carryOut pair (new {} none ())).deliver stirring_does ⟨["a"]⟩ .null
  rw [matched] at course
  exact course

theorem registry_stirred :
    (new {} none () : Client Bool Unit).Course (pair ++ stir true) stirred ∧
      (new {} none () : Client Bool Unit).subscriptions = {} ∧
      stirred.handlesDrawn < UInt64.size ∧
      (stirred.release (HandleId.nth 1)).2 = .unknown ∧
      (stirred.release (HandleId.nth 0)).2 = .lastForTopic ⟨["a"]⟩ ∧
      stirred.subscriptions.handlerCount = 2 := by
  have few : stirred.handlesDrawn < UInt64.size := by
    rw [stirred_course.carryOut]
    decide
  have roll : (new {} none () : Client Bool Unit).rollAfter (pair ++ stir true) =
      [⟨HandleId.nth 0, ⟨["a"]⟩, true⟩, ⟨HandleId.nth 2, ⟨["b"]⟩, false⟩] := by cbv
  obtain ⟨-, releases, -, -, count, -⟩ := registry_refines_list stirred_course rfl few
  rw [roll] at releases count
  obtain ⟨unknown, -⟩ := releases (HandleId.nth 1)
  obtain ⟨-, -, last, -⟩ := releases (HandleId.nth 0)
  refine ⟨stirred_course, rfl, few, unknown.2 (by decide), (last ⟨["a"]⟩).2 ?_, count⟩
  exact ⟨_, List.mem_cons_self, rfl, rfl, rfl⟩

end Client

end Switchboard
