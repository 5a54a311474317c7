/-
# Switchboard.Proofs.Snapshot -- who is told of a push

A dispatch first reads who is to be told, and then tells them one after the other,
whatever they do meanwhile.  Who that is depends on the list of registrations alone
(`Enrolled.matching`): those whose topic covers the pushed one, in the order of their
registration, although the registry keeps them topic by topic.

What a dispatch does to handlers shows in what they see.  Handlers that keep a journal
of their visits (`Behaviour.journalled`) behave as before otherwise, and the journal
tells who was told what, what each then did, and how it ended.

* `dispatch_snapshot`: the journal of a dispatch is that of the list when it began.
-/
import Switchboard.Proofs.Deeds

namespace Switchboard

set_option autoImplicit false

namespace Client

variable {κ ω : Type}

/-! ## Who is to be told -/

/-- Those whom a push goes to come in the order of their handles. -/
theorem matching_ascending (subscriptions : Subscriptions κ) (topic : Topic) :
    (subscriptions.matching topic).Pairwise
      (fun left right => HandleId.le left.1 right.1 = true) := by
  refine List.pairwise_mergeSort (fun first second third up later => ?_)
    (fun left right => ?_) _
  · simp only [HandleId.le, decide_eq_true_eq] at up later ⊢
    exact Nat.le_trans up later
  · simp only [HandleId.le, Bool.or_eq_true, decide_eq_true_eq]
    exact Nat.le_total _ _

theorem matching_perm {subscriptions : Subscriptions κ} {roll : List (Registration κ)}
    (lists : subscriptions.Lists roll) (topic : Topic) :
    (subscriptions.matching topic).Perm
      ((roll.filter (fun entry => entry.topic.covers topic)).map
        (fun entry => (entry.handle, entry.callback))) :=
  (List.mergeSort_perm _ _).trans (lists.flatMap_perm fun pattern => pattern.covers topic)

/-- A push goes to whom it should, in the one order that their handles allow. -/
theorem matching_eq {subscriptions : Subscriptions κ} {roll : List (Registration κ)}
    (lists : subscriptions.Lists roll) {topic : Topic} {entries : List (HandleId × κ)}
    (ascending : entries.Pairwise (fun left right => HandleId.le left.1 right.1 = true))
    (perm : entries.Perm ((roll.filter (fun entry => entry.topic.covers topic)).map
      (fun entry => (entry.handle, entry.callback)))) :
    subscriptions.matching topic = entries := by
  have same := (matching_perm lists topic).trans perm.symm
  refine List.Perm.eq_of_pairwise ?_ (matching_ascending subscriptions topic) ascending same
  intro left right leftMember rightMember up down
  obtain ⟨entry, member, rfl⟩ :=
    List.mem_map.1 ((matching_perm lists topic).subset leftMember)
  obtain ⟨other, otherMember, rfl⟩ := List.mem_map.1 (perm.subset rightMember)
  have same : entry.handle = other.handle := by
    simp only [HandleId.le, decide_eq_true_eq] at up down
    exact HandleId.eq_of_toNat (Nat.le_antisymm up down)
  rw [lists.unique (List.mem_filter.1 member).1 (List.mem_filter.1 otherMember).1 same]

/-- **A push goes to the entries that cover its topic, in the order of the list.** -/
theorem Enrolled.matching {client : Client κ ω} {roll : List (Registration κ)}
    (enrolled : client.Enrolled roll) (topic : Topic) :
    client.subscriptions.matching topic =
      (roll.filter (fun entry => entry.topic.covers topic)).map
        (fun entry => (entry.handle, entry.callback)) := by
  refine matching_eq enrolled.lists ?_ (.refl _)
  rw [List.pairwise_map]
  refine (enrolled.ascending.filter _).imp fun less => ?_
  simpa [HandleId.le] using Nat.le_of_lt less

/-! ## Who is told -/

/-- One callback was told something, did something, and ended somehow. -/
structure Visit (κ ω : Type) where
  callback : κ
  signal : Signal
  deeds : List (Deed κ ω)
  ending : Ending

/-- The client with something else that belongs to the callbacks. -/
def withDesk {υ : Type} (desk : υ) (client : Client κ ω) : Client κ υ := { client with desk }

end Client

/-- Callbacks that also write down each of their visits, those that end in a panic included. -/
def Behaviour.journalled {κ ω : Type} (behave : Behaviour κ ω) (account : Client.Account κ ω) :
    Behaviour κ (ω × List (Client.Visit κ ω)) :=
  fun callback signal client =>
    let found := client.withDesk client.desk.1
    let (after, ending) := behave callback signal found
    let visit := ⟨callback, signal, account callback signal found, ending⟩
    (after.withDesk (after.desk, client.desk.2 ++ [visit]), ending)

namespace Client

variable {κ ω : Type}

/-- The journal changes nothing else, and holds one visit for each callback, in their order. -/
theorem notifyAll_journalled (behave : Behaviour κ ω) (account : Account κ ω) (signal : Signal)
    (entries : List (HandleId × κ)) (client : Client κ ω) (journal : List (Visit κ ω)) :
    ∃ visits : List (Visit κ ω),
      notifyAll (behave.journalled account) signal (client.withDesk (client.desk, journal))
          entries =
          (notifyAll behave signal client entries).withDesk
            ((notifyAll behave signal client entries).desk, journal ++ visits) ∧
        visits.map (·.callback) = entries.map (·.2) ∧
        (∀ visit ∈ visits, visit.signal = signal) ∧
        visits.flatMap (·.deeds) = account.ofAll behave signal entries client := by
  induction entries generalizing client journal with
  | nil => exact ⟨[], by simp [notifyAll], rfl, by simp, rfl⟩
  | cons entry entries ih =>
      let visit : Visit κ ω := ⟨entry.2, signal, account entry.2 signal client,
        (behave entry.2 signal client).2⟩
      obtain ⟨visits, journalled, callbacks, told, deeds⟩ :=
        ih (notify behave entry.2 signal client) (journal ++ [visit])
      refine ⟨visit :: visits, ?_, by simp [visit, callbacks], ?_,
        by simp [visit, deeds, Account.ofAll]⟩
      · rw [List.append_assoc] at journalled
        exact journalled
      · rintro other (_ | ⟨_, member⟩)
        · rfl
        · exact told other member

/-- Visits of these entries' callbacks, all told the same, are these calls. -/
theorem calls_of_visits {visits : List (Visit κ ω)} {entries : List (HandleId × κ)}
    {signal : Signal} (callbacks : visits.map (·.callback) = entries.map (·.2))
    (signals : ∀ visit ∈ visits, visit.signal = signal) :
    visits.map (fun visit => (visit.callback, visit.signal)) =
      entries.map (fun entry => (entry.2, signal)) := by
  have told : visits.map (fun visit => (visit.callback, visit.signal)) =
      (visits.map (·.callback)).map (fun callback => (callback, signal)) := by
    rw [List.map_map]
    exact List.map_congr_left fun visit member => by simp [signals visit member]
  rw [told, callbacks, List.map_map]
  rfl

/-- **A dispatch tells a snapshot.**  Take any course of registrations and releases that starts with
an empty registry, and deliver a push at its end, to handlers that do whatever they do: register
and release handlers, also themselves and those still to be told, deliver pushes in turn to any
depth, and panic.  Then:

* the journal shows the callbacks of exactly the registrations of that moment whose topic covers
  the pushed one, each once and in the order of registration, whatever those before them did and
  however they ended, and each was told that push;
* the answer is their number;
* the client is left as their deeds leave it, in the order in which they did them; and these
  continue the course. -/
theorem dispatch_snapshot {first client : Client κ ω} {deeds : List (Deed κ ω)}
    (course : first.Course deeds client) (fresh : first.subscriptions = {})
    (few : client.handlesDrawn < UInt64.size) {behave : Behaviour κ ω} {account : Account κ ω}
    (does : behave.Does account) (topic : Topic) (data : Json) :
    let snapshot := (first.rollAfter deeds).filter (fun entry => entry.topic.covers topic)
    let result := client.dispatch behave topic data
    let observed := (client.withDesk (client.desk, [])).dispatch (behave.journalled account)
      topic data
    let visits := observed.1.desk.2
    observed = (result.1.withDesk (result.1.desk, visits), result.2) ∧
      visits.map (·.callback) = snapshot.map (·.callback) ∧
      snapshot.Pairwise (fun earlier later => earlier.handle.toNat < later.handle.toNat) ∧
      (∀ visit ∈ visits, visit.signal = .push topic data) ∧
      result.2 = snapshot.length ∧
      result.1 = client.carryOut (visits.flatMap (·.deeds)) ∧
      first.Course (deeds ++ visits.flatMap (·.deeds)) result.1 := by
  intro snapshot result observed visits
  have enrolled := course.enrolled fresh few
  have matched := enrolled.matching topic
  obtain ⟨written, journalled, callbacks, told, accounted⟩ :=
    notifyAll_journalled behave account (.push topic data) (client.subscriptions.matching topic)
      client []
  have same : observed = (result.1.withDesk (result.1.desk, written), result.2) :=
    Prod.ext journalled rfl
  have visited : visits = written := congrArg (fun state => state.1.desk.2) same
  have course := course.deliver does topic data
  rw [← accounted, ← visited] at course
  refine ⟨visited ▸ same, ?_, enrolled.ascending.filter _, visited ▸ told, ?_, ?_, course⟩
  · rw [visited, callbacks, matched, List.map_map]
    rfl
  · rw [show result.2 = (client.subscriptions.matching topic).length from rfl, matched,
      List.length_map]
  · have leads := ((Course.still client).deliver does topic data).carryOut
    rw [List.nil_append, ← accounted, ← visited] at leads
    exact leads

/-- The first of two handlers releases the second and panics; the second is told all the same. -/
theorem dispatch_stirring :
    let first : Client Bool Unit := new {} none ()
    let visited : Client Bool (Unit × List (Visit Bool Unit)) :=
      (new {} none ((), [])).carryOut
        [.subscribe ⟨["a"]⟩ true, .subscribe ⟨["a"]⟩ false]
    first.Course pair (first.carryOut pair) ∧
      first.subscriptions = {} ∧
      (first.carryOut pair).handlesDrawn < UInt64.size ∧
      stirring.Does (fun callback _ _ => stir callback) ∧
      ((first.carryOut pair).dispatch stirring ⟨["a"]⟩ .null).2 = 2 ∧
      (visited.dispatch (stirring.journalled fun callback _ _ => stir callback)
        ⟨["a"]⟩ .null).1.desk.2.map (·.callback) = [true, false] := by
  intro first visited
  have few : (first.carryOut pair).handlesDrawn < UInt64.size := by decide
  have roll : (first.rollAfter pair).filter (fun entry => entry.topic.covers ⟨["a"]⟩) =
      [⟨HandleId.nth 0, ⟨["a"]⟩, true⟩, ⟨HandleId.nth 1, ⟨["a"]⟩, false⟩] := by cbv
  obtain ⟨-, callbacks, -, -, count, -⟩ :=
    dispatch_snapshot (course_carryOut pair first) rfl few stirring_does ⟨["a"]⟩ .null
  rw [roll] at callbacks count
  exact ⟨course_carryOut pair first, rfl, few, stirring_does, count, callbacks⟩

end Client

end Switchboard
