/-
# Switchboard.Proofs.Audience -- who can be told anything

A handler is told of a push if it is registered under a pattern that covers the pushed
topic, and nobody else is (`mem_toldOf`).  Pushes arrive as texts, and the topic of such a
push was read from a path, so it is canonical, and whatever covers it is canonical as well.
Conversely every canonical pattern is the topic of some push (`push?_addressed`): its wire
form after a slash, which is never the reserved path.

So a handler can be told something exactly if its pattern is canonical, and of two
handlers the one is told all that the other one is exactly if its pattern covers the
other's.

* `canonical_patterns_heard`: which handlers some text reaches;
* `covering_is_inclusion`: patterns are ordered by the pushes that they stand for.
-/
import Switchboard.Proofs.CanonicalTopics
import Switchboard.Proofs.Coverage
import Switchboard.Proofs.Handles
import Switchboard.Proofs.Traffic

namespace Switchboard

set_option autoImplicit false

/-! ## Patterns of handlers -/

namespace Subscriptions

variable {κ : Type} {subscriptions : Subscriptions κ}

/-- The handlers, each by its pattern and its callback. -/
def roster (buckets : List (Topic × List (HandleId × κ))) : List (Topic × κ) :=
  buckets.flatMap (fun bucket => bucket.2.map (fun entry => (bucket.1, entry.2)))

/-- A callback is that of a handler of this pattern. -/
def Registered (subscriptions : Subscriptions κ) (pattern : Topic) (callback : κ) : Prop :=
  (pattern, callback) ∈ roster subscriptions.buckets

/-- A callback is that of a handler of this pattern, and of no other. -/
def OnlyUnder (subscriptions : Subscriptions κ) (pattern : Topic) (callback : κ) : Prop :=
  ∀ other, subscriptions.Registered other callback ↔ other = pattern

/-- A push goes to the handlers of the patterns that cover its topic. -/
theorem mem_matching (topic : Topic) (callback : κ) :
    callback ∈ (subscriptions.matching topic).map (·.2) ↔
      ∃ pattern, subscriptions.Registered pattern callback ∧ pattern.covers topic = true := by
  simp only [matching, Registered, roster, List.mem_map, List.mem_mergeSort, List.mem_flatMap,
    List.mem_filter]
  constructor
  · rintro ⟨entry, ⟨bucket, ⟨inBuckets, covers⟩, member⟩, rfl⟩
    exact ⟨bucket.1, ⟨bucket, inBuckets, entry, member, rfl⟩, covers⟩
  · rintro ⟨pattern, ⟨bucket, inBuckets, entry, member, same⟩, covers⟩
    obtain ⟨rfl, rfl⟩ := Prod.mk.inj same
    exact ⟨entry, ⟨bucket, ⟨inBuckets, covers⟩, member⟩, rfl⟩

theorem mem_roster_addHandler (topic : Topic) (entry : HandleId × κ)
    (buckets : List (Topic × List (HandleId × κ))) (item : Topic × κ) :
    item ∈ roster (addHandler topic entry buckets) ↔
      item = (topic, entry.2) ∨ item ∈ roster buckets := by
  induction buckets with
  | nil => simp [addHandler, roster]
  | cons bucket rest ih =>
      obtain ⟨here, handlers⟩ := bucket
      rw [roster, roster] at ih
      by_cases same : here = topic
      · simp only [addHandler, same, if_true, roster, List.flatMap_cons, List.map_append,
          List.map_singleton, List.mem_append, List.mem_singleton]
        rw [or_comm (b := item = _), or_assoc]
      · simp only [addHandler, same, if_false, roster, List.flatMap_cons, List.mem_append, ih]
        rw [or_left_comm]

/-- Registering a handler puts its callback under its pattern. -/
theorem registered_subscribe (handle : HandleId) (pattern : Topic) (callback : κ) (other : Topic)
    (found : κ) :
    (subscriptions.subscribe handle pattern callback).1.Registered other found ↔
      (other = pattern ∧ found = callback) ∨ subscriptions.Registered other found := by
  rw [Registered, subscribe, mem_roster_addHandler, Prod.mk.injEq]
  rfl

end Subscriptions

/-! ## Pushes -/

namespace Inbound

/-- A push that arrives as a text is to a canonical topic with a segment. -/
theorem topic_of_push? {text : String} {topic : Topic} {data : Json}
    (pushes : push? text = some (topic, data)) :
    topic.Canonical ∧ topic.isEmpty = false := by
  obtain ⟨envelope, classified⟩ :
      ∃ envelope, classify envelope = .ok (.push topic data) := by
    unfold push? decode at pushes
    split at pushes
    · rename_i decoded
      obtain ⟨rfl, rfl⟩ := Prod.mk.inj (Option.some.inj pushes)
      split at decoded
      · exact ⟨_, decoded⟩
      · simp at decoded
    · simp at pushes
  obtain ⟨-, -, rfl, nonempty, -⟩ := (classify_push_iff envelope topic data).1 classified
  exact ⟨Topic.parse_canonical envelope.path, nonempty⟩

/-- A message to a topic.  Its path starts with a slash, so it is never the reserved one. -/
def addressedTo (topic : Topic) : Envelope := { path := "/" ++ topic.wire }

/-- **Every canonical topic with a segment is pushed to by some text**, that of the reserved path
included. -/
theorem push?_addressed {topic : Topic} (canonical : topic.Canonical)
    (nonempty : topic.isEmpty = false) :
    push? (addressedTo topic).encode = some (topic, .null) := by
  have read : Envelope.read (addressedTo topic).encode = .ok (addressedTo topic) :=
    Envelope.read_encode
      ⟨by simp [Envelope.payloads, addressedTo], by simp [Envelope.payloads, addressedTo],
        by simp [Envelope.payloads, addressedTo]⟩
  have unreserved : "/" ++ topic.wire ≠ pingPath := by
    intro same
    have letters := congrArg String.toList same
    simp [pingPath] at letters
  have names : Topic.parse ("/" ++ topic.wire) = topic := by
    rw [Topic.parse_slash, Topic.parse_wire canonical]
  have classified : classify (addressedTo topic) = .ok (.push topic .null) :=
    (classify_push_iff _ _ _).2 ⟨rfl, unreserved, names, nonempty, rfl⟩
  simp [push?, decode, read, classified]

end Inbound

namespace Client

open Inbound (push?)

variable {κ ω : Type}

/-! ## Who is told -/

/-- Which callbacks are called, and with what, when a push is delivered: its callbacks write it
down, which changes nothing else (`notifyAll_journalled`). -/
def toldOf (behave : Behaviour κ ω) (topic : Topic) (data : Json) (client : Client κ ω) :
    List (κ × Signal) :=
  let observed := (client.withDesk (client.desk, [])).dispatch
    (behave.journalled fun _ _ _ => []) topic data
  observed.1.desk.2.map (fun visit => (visit.callback, visit.signal))

theorem toldOf_eq (behave : Behaviour κ ω) (topic : Topic) (data : Json) (client : Client κ ω) :
    client.toldOf behave topic data = callsFor client.subscriptions (topic, data) := by
  obtain ⟨visits, journalled, callbacks, signals, -⟩ :=
    notifyAll_journalled behave (fun _ _ _ => []) (.push topic data)
      (client.subscriptions.matching topic) client []
  have written : ((client.withDesk (client.desk, [])).dispatch
      (behave.journalled fun _ _ _ => []) topic data).1.desk.2 = visits :=
    congrArg (fun left => left.desk.2) journalled
  rw [toldOf, written]
  exact calls_of_visits callbacks signals

/-- A push is told to the handlers whose pattern covers its topic, and to nobody else. -/
theorem mem_toldOf (behave : Behaviour κ ω) (topic : Topic) (data : Json) (client : Client κ ω)
    (callback : κ) (signal : Signal) :
    (callback, signal) ∈ client.toldOf behave topic data ↔
      signal = .push topic data ∧ ∃ pattern,
        client.subscriptions.Registered pattern callback ∧ pattern.covers topic = true := by
  rw [toldOf_eq, ← Subscriptions.mem_matching, callsFor, List.mem_map, List.mem_map]
  constructor
  · rintro ⟨entry, member, same⟩
    obtain ⟨rfl, rfl⟩ := Prod.mk.inj same
    exact ⟨rfl, entry, member, rfl⟩
  · rintro ⟨rfl, entry, member, rfl⟩
    exact ⟨entry, member, rfl⟩

/-- A text tells what the push that it is does, and nothing if it is none. -/
theorem told_text (behave : Behaviour κ ω) (text : String) (client : Client κ ω) :
    client.told behave [text] =
      (push? text).toList.flatMap (fun push => client.toldOf behave push.1 push.2) := by
  obtain ⟨visits, journalled, calls⟩ :=
    route_journalled behave (fun _ _ _ => []) text client []
  have same : (fun push : Topic × Json => client.toldOf behave push.1 push.2) =
      callsFor client.subscriptions := funext fun push => toldOf_eq behave push.1 push.2 client
  rw [same, ← calls, told, routeAll, journalled]
  rfl

theorem mem_told_text (behave : Behaviour κ ω) (text : String) (client : Client κ ω)
    (callback : κ) (signal : Signal) :
    (callback, signal) ∈ client.told behave [text] ↔ ∃ topic data,
      push? text = some (topic, data) ∧
        (callback, signal) ∈ client.toldOf behave topic data := by
  simp [told_text]

/-- Only handlers of canonical patterns are told of texts. -/
theorem canonical_of_told {behave : Behaviour κ ω} {text : String} {client : Client κ ω}
    {callback : κ} {signal : Signal} (told : (callback, signal) ∈ client.told behave [text]) :
    ∃ pattern, client.subscriptions.Registered pattern callback ∧ pattern.isEmpty = false ∧
      pattern.Canonical := by
  obtain ⟨topic, data, pushes, told⟩ := (mem_told_text ..).1 told
  obtain ⟨-, pattern, registered, covers⟩ := (mem_toldOf ..).1 told
  obtain ⟨canonical, nonempty⟩ := Inbound.topic_of_push? pushes
  exact ⟨pattern, registered, (Topic.isEmpty_of_covers covers).trans nonempty,
    Topic.canonical_of_covers covers canonical⟩

/-- Some text is told to exactly the handlers whose patterns cover a canonical topic. -/
theorem mem_told_addressed (behave : Behaviour κ ω) {topic : Topic} (canonical : topic.Canonical)
    (nonempty : topic.isEmpty = false) (client : Client κ ω) (callback : κ) (signal : Signal) :
    (callback, signal) ∈ client.told behave [(Inbound.addressedTo topic).encode] ↔
      (callback, signal) ∈ client.toldOf behave topic .null := by
  simp [mem_told_text, Inbound.push?_addressed canonical nonempty]

/-- A handler that is registered under a pattern is told of a push to that very topic. -/
theorem told_of_registered (behave : Behaviour κ ω) {client : Client κ ω} {pattern : Topic}
    {callback : κ} (registered : client.subscriptions.Registered pattern callback) (data : Json) :
    (callback, .push pattern data) ∈ client.toldOf behave pattern data :=
  (mem_toldOf ..).2 ⟨rfl, pattern, registered, pattern.covers_self⟩

/-- **Only canonical patterns are ever heard, and all of them can be.**  Take a client in any state
at all.

* A pattern with a segment is accepted, whatever its segments are; a callback that was that of no
  handler is then that of a handler of this pattern, and of no other.
* Some text makes the client call a callback exactly if a handler of that callback is registered
  under a canonical pattern with a segment.
* So some text reaches the handler of a pattern exactly if all segments of the pattern are non-empty
  and free of slashes; the reserved path of a ping is no exception. -/
theorem canonical_patterns_heard (client : Client κ ω) :
    (∀ pattern callback, pattern.isEmpty = false →
      (∃ handle, (client.subscribe pattern callback).2 = .ok handle) ∧
        ((∀ other, ¬client.subscriptions.Registered other callback) →
          (client.subscribe pattern callback).1.subscriptions.OnlyUnder pattern callback)) ∧
      ∀ behave : Behaviour κ ω,
        (∀ callback, (∃ text signal, (callback, signal) ∈ client.told behave [text]) ↔
          ∃ pattern, client.subscriptions.Registered pattern callback ∧
            pattern.isEmpty = false ∧ pattern.Canonical) ∧
        ∀ pattern callback, pattern.isEmpty = false →
          client.subscriptions.OnlyUnder pattern callback →
            ((∃ text signal, (callback, signal) ∈ client.told behave [text]) ↔
              pattern.Canonical) := by
  have heard : ∀ (behave : Behaviour κ ω) callback,
      (∃ text signal, (callback, signal) ∈ client.told behave [text]) ↔
        ∃ pattern, client.subscriptions.Registered pattern callback ∧
          pattern.isEmpty = false ∧ pattern.Canonical := by
    intro behave callback
    constructor
    · rintro ⟨text, signal, told⟩
      exact canonical_of_told told
    · rintro ⟨pattern, registered, nonempty, canonical⟩
      exact ⟨_, _, (mem_told_addressed behave canonical nonempty client callback _).2
        (told_of_registered behave registered .null)⟩
  refine ⟨fun pattern callback nonempty => ?accepted, fun behave => ⟨heard behave,
    fun pattern callback nonempty only => ?reached⟩⟩
  case accepted =>
    rcases client.subscribe_cases pattern callback with refused | ⟨answer, steady⟩
    · simp [subscribe, nonempty] at refused
    · refine ⟨⟨_, answer⟩, fun unheard other => ?_⟩
      have registered : (client.register pattern callback).1.subscriptions.Registered other
          callback ↔ _ :=
        Subscriptions.registered_subscribe (HandleId.nth client.handlesDrawn) pattern callback
          other callback
      rw [steady.subscriptions, registered, or_iff_left (unheard other)]
      exact and_iff_left rfl
  case reached =>
    rw [heard behave]
    constructor
    · rintro ⟨other, registered, -, canonical⟩
      exact (only other).1 registered ▸ canonical
    · exact fun canonical => ⟨pattern, (only pattern).2 rfl, nonempty, canonical⟩

/-- A client that listens to the reserved path, to a topic with an empty segment, to a pattern and
to one topic of it. -/
def listening : Client Nat Unit :=
  [(Topic.ping, 0), (⟨["", "state"]⟩, 1), (⟨["arena", "*"]⟩, 2), (⟨["arena", "state"]⟩, 3)].foldl
    (fun client handler => (client.subscribe handler.1 handler.2).1) (new {} none ())

theorem roster_listening : Subscriptions.roster listening.subscriptions.buckets =
    [(Topic.ping, 0), (⟨["", "state"]⟩, 1), (⟨["arena", "*"]⟩, 2), (⟨["arena", "state"]⟩, 3)] := by
  cbv

/-- Each of the four has its own handler. -/
theorem listening_only {pattern : Topic} {callback : Nat}
    (registered : (pattern, callback) ∈ Subscriptions.roster listening.subscriptions.buckets) :
    listening.subscriptions.OnlyUnder pattern callback := by
  intro other
  rw [Subscriptions.Registered]
  rw [roster_listening] at registered ⊢
  simp only [List.mem_cons, Prod.mk.injEq, List.not_mem_nil, or_false] at registered ⊢
  rcases registered with ⟨rfl, rfl⟩ | ⟨rfl, rfl⟩ | ⟨rfl, rfl⟩ | ⟨rfl, rfl⟩ <;> simp

/-- The handler of the reserved path can be reached, that of the empty segment cannot; a pattern with
a slash in a segment is accepted as well. -/
theorem canonical_patterns_heard_ping :
    let behave : Behaviour Nat Unit := fun _ _ client => (client, .returned)
    let slashed : Topic := ⟨["arena/state"]⟩
    (listening.subscriptions.OnlyUnder Topic.ping 0 ∧
        ∃ text signal, (0, signal) ∈ listening.told behave [text]) ∧
      (listening.subscriptions.OnlyUnder ⟨["", "state"]⟩ 1 ∧
        ¬∃ text signal, (1, signal) ∈ listening.told behave [text]) ∧
      (∀ other, ¬listening.subscriptions.Registered other 4) ∧
        (listening.subscribe slashed 4).1.subscriptions.OnlyUnder slashed 4 := by
  intro behave slashed
  obtain ⟨accepted, heard⟩ := canonical_patterns_heard listening
  obtain ⟨-, reached⟩ := heard behave
  have ping : listening.subscriptions.OnlyUnder Topic.ping 0 :=
    listening_only (by simp [roster_listening])
  have blank : listening.subscriptions.OnlyUnder ⟨["", "state"]⟩ 1 :=
    listening_only (by simp [roster_listening])
  have unheard : ∀ other, ¬listening.subscriptions.Registered other 4 := by
    simp [Subscriptions.Registered, roster_listening]
  refine ⟨⟨ping, (reached Topic.ping 0 rfl ping).2 Topic.ping_canonical⟩,
    ⟨blank, fun told => ?_⟩, unheard, (accepted slashed 4 rfl).2 unheard⟩
  have canonical := (reached ⟨["", "state"]⟩ 1 rfl blank).1 told
  exact (canonical "" List.mem_cons_self).1 rfl

/-- **Patterns are ordered by the pushes that they stand for.**

* A pattern covers another one exactly if it covers every wildcard-free topic that the other one
  covers.
* Every pattern covers itself; what is covered by a pattern that is covered is covered; two patterns
  that cover each other are the same.
* A pattern without wildcard covers itself and nothing else.
* In any client, the handler of a pattern is told of every push that the handler of another one is
  told of exactly if the pattern covers the other one.  If that one is canonical and has a segment,
  so that texts reach it, the pushes that arrive as texts are enough to tell. -/
theorem covering_is_inclusion :
    (∀ pattern other : Topic, pattern.covers other = true ↔ ∀ topic : Topic,
        topic.hasWildcard = false → other.covers topic = true → pattern.covers topic = true) ∧
      (∀ pattern : Topic, pattern.covers pattern = true) ∧
      (∀ first second third : Topic, first.covers second = true → second.covers third = true →
        first.covers third = true) ∧
      (∀ first second : Topic, first.covers second = true → second.covers first = true →
        first = second) ∧
      (∀ pattern : Topic, pattern.hasWildcard = false →
        ∀ topic, pattern.covers topic = true ↔ topic = pattern) ∧
      ∀ (behave : Behaviour κ ω) (client : Client κ ω) (pattern other : Topic) (mine theirs : κ),
        client.subscriptions.OnlyUnder pattern mine →
        client.subscriptions.OnlyUnder other theirs →
          ((∀ topic data signal, (theirs, signal) ∈ client.toldOf behave topic data →
              (mine, signal) ∈ client.toldOf behave topic data) ↔
            pattern.covers other = true) ∧
          (other.isEmpty = false → other.Canonical →
            ((∀ text signal, (theirs, signal) ∈ client.told behave [text] →
                (mine, signal) ∈ client.told behave [text]) ↔
              pattern.covers other = true)) := by
  refine ⟨Topic.covers_iff_inclusion, Topic.covers_self, fun _ _ _ => Topic.covers_trans,
    fun _ _ => Topic.covers_antisymm, fun _ => Topic.covers_iff_eq,
    fun behave client pattern other mine theirs onlyMine onlyTheirs => ?_⟩
  have heard : ∀ {topic data signal}, pattern.covers other = true →
      (theirs, signal) ∈ client.toldOf behave topic data →
        (mine, signal) ∈ client.toldOf behave topic data := by
    intro topic data signal covers told
    obtain ⟨same, found, registered, inner⟩ := (mem_toldOf ..).1 told
    obtain rfl := (onlyTheirs found).1 registered
    exact (mem_toldOf ..).2
      ⟨same, pattern, (onlyMine pattern).2 rfl, Topic.covers_trans covers inner⟩
  have covers : ∀ {data signal}, (mine, signal) ∈ client.toldOf behave other data →
      pattern.covers other = true := by
    intro data signal told
    obtain ⟨-, found, registered, covers⟩ := (mem_toldOf ..).1 told
    exact (onlyMine found).1 registered ▸ covers
  -- a push to the other pattern itself, as a topic, is told to its handler
  have own := fun data => told_of_registered behave ((onlyTheirs other).2 rfl) data
  refine ⟨⟨fun included => covers (included _ _ _ (own .null)),
    fun covers topic data signal => heard covers⟩,
    fun nonempty canonical => ⟨fun included => ?_, fun covers text signal told => ?_⟩⟩
  · have reaches := mem_told_addressed behave canonical nonempty client
    exact covers ((reaches _ _).1 (included _ _ ((reaches _ _).2 (own .null))))
  · obtain ⟨topic, data, pushes, told⟩ := (mem_told_text ..).1 told
    exact (mem_told_text ..).2 ⟨topic, data, pushes, heard covers told⟩

/-- The handler of a pattern is told all that the handler of a topic of it is told of, and more. -/
theorem covering_is_inclusion_arena :
    let behave : Behaviour Nat Unit := fun _ _ client => (client, .returned)
    let pattern : Topic := ⟨["arena", "*"]⟩
    let topic : Topic := ⟨["arena", "state"]⟩
    (topic.hasWildcard = false ∧ pattern.covers topic = true ∧ topic.covers pattern = false) ∧
      listening.subscriptions.OnlyUnder pattern 2 ∧ listening.subscriptions.OnlyUnder topic 3 ∧
        (∀ push data signal, (3, signal) ∈ listening.toldOf behave push data →
          (2, signal) ∈ listening.toldOf behave push data) ∧
        pattern.isEmpty = false ∧ pattern.Canonical ∧
        ¬∀ text signal, (2, signal) ∈ listening.told behave [text] →
          (3, signal) ∈ listening.told behave [text] := by
  intro behave pattern topic
  have covers : pattern.covers topic = true := by decide
  have narrower : topic.covers pattern = false := by decide
  have canonical : pattern.Canonical := by simp [pattern, Topic.Canonical]
  have wide : listening.subscriptions.OnlyUnder pattern 2 :=
    listening_only (by simp [roster_listening, pattern])
  have narrow : listening.subscriptions.OnlyUnder topic 3 :=
    listening_only (by simp [roster_listening, topic])
  obtain ⟨-, -, -, -, -, audience⟩ := covering_is_inclusion (κ := Nat) (ω := Unit)
  obtain ⟨all, -⟩ := audience behave listening pattern topic 2 3 wide narrow
  obtain ⟨-, texts⟩ := audience behave listening topic pattern 3 2 narrow wide
  refine ⟨⟨by decide, covers, narrower⟩, wide, narrow, all.2 covers, rfl, canonical,
    fun included => ?_⟩
  have wrong := (texts rfl canonical).1 included
  simp [narrower] at wrong

end Client

end Switchboard
