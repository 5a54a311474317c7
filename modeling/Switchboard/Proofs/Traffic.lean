/-
# Switchboard.Proofs.Traffic -- the kinds of received messages keep apart

A client acts upon received texts one after the other (`Client.routeAll`).  A text is a
reply, a push or a ping, or it is nothing; and each kind touches its own part of the
client only, as long as the handlers do nothing to the client themselves
(`Behaviour.Aloof`):

* replies settle calls, in the table and nowhere else;
* pushes are told to the handlers that match, and these are the same throughout;
* pings are answered, and that is all.

So what any texts do is what each kind does by itself (`routeAll_eq`,
`routeAll_journalled`, put together in `traffic_kept_apart`).  The table, in turn, is
taken apart by identifier: how a call ends is what the first reply to it says
(`CallTable.stands_settled`), wherever in between the replies to other calls come.
-/
import Switchboard.Client.Session
import Switchboard.Proofs.Replies
import Switchboard.Proofs.Settlement
import Switchboard.Proofs.Snapshot

namespace Switchboard

set_option autoImplicit false

namespace Inbound

/-! ## The kinds of texts -/

/-- The reply that a text is, if it is one: to whom, and with what. -/
def reply? (text : String) : Option (CorrelationId × Except String Json) :=
  match decode text with
  | .ok (.reply id outcome) => some (id, outcome)
  | _ => none

/-- The push that a text is, if it is one. -/
def push? (text : String) : Option (Topic × Json) :=
  match decode text with
  | .ok (.push topic data) => some (topic, data)
  | _ => none

/-- The identifier of the ping that a text is, if it is one. -/
def ping? (text : String) : Option String :=
  match decode text with
  | .ok (.ping id) => some id
  | _ => none

section Kinds

variable {text : String}

theorem kinds_of_error {error : ClientError} (decoded : decode text = .error error) :
    reply? text = none ∧ push? text = none ∧ ping? text = none := by
  simp [reply?, push?, ping?, decoded]

theorem kinds_of_reply {id : CorrelationId} {outcome : Except String Json}
    (decoded : decode text = .ok (.reply id outcome)) :
    reply? text = some (id, outcome) ∧ push? text = none ∧ ping? text = none := by
  simp [reply?, push?, ping?, decoded]

theorem kinds_of_push {topic : Topic} {data : Json}
    (decoded : decode text = .ok (.push topic data)) :
    reply? text = none ∧ push? text = some (topic, data) ∧ ping? text = none := by
  simp [reply?, push?, ping?, decoded]

theorem kinds_of_ping {id : String} (decoded : decode text = .ok (.ping id)) :
    reply? text = none ∧ push? text = none ∧ ping? text = some id := by
  simp [reply?, push?, ping?, decoded]

end Kinds

/-- The outcomes that texts carry for one identifier, in order. -/
def repliesTo (id : CorrelationId) (texts : List String) : List (Except String Json) :=
  (texts.filterMap reply?).filterMap (fun reply => if reply.1 = id then some reply.2 else none)

/-- What texts do to a table of calls. -/
def settlements (texts : List String) : List CallTable.Op :=
  (texts.filterMap reply?).map (fun reply => .settle reply.1 reply.2)

theorem settlements_cons (text : String) (texts : List String) :
    settlements (text :: texts) = settlements [text] ++ settlements texts := by
  simp only [settlements]
  rw [← List.map_append, ← List.filterMap_append, List.singleton_append]

end Inbound

/-! ## The table under replies -/

namespace CallTable

open Inbound (repliesTo settlements)

/-- How a call stands is how it ended. -/
theorem Stands.ending?_eq {table : CallTable} (sound : table.Sound) {call : PendingCall}
    {condition : Option CallEnd} (stands : table.Stands call condition) :
    table.ending? call.ticket = condition := by
  cases found : table.ending? call.ticket with
  | some ending => exact Stands.unique sound (mem_endings_of_ending? found) stands
  | none =>
      cases condition with
      | none => rfl
      | some ending =>
          have absent := (ending?_eq_none_iff table call.ticket).1 found
          exact absurd (List.mem_map_of_mem stands) absent

/-- The first reply to a call is the verdict on it. -/
theorem verdict_settlements (call : PendingCall) (texts : List String) :
    (settlements texts).findSome? (Op.verdict call) =
      (repliesTo call.id texts).head?.map (fun reply => .resolved (replyOutcome reply call)) := by
  simp only [settlements, repliesTo]
  induction texts.filterMap Inbound.reply? with
  | nil => rfl
  | cons reply replies ih =>
      by_cases same : reply.1 = call.id
      · simp [Op.verdict_settle, same]
      · simpa [Op.verdict_settle, same] using ih

/-- **A waiting call ends as the first reply to it says**, and waits on if there is none. -/
theorem stands_settled {table : CallTable} (sound : table.Sound) {call : PendingCall}
    (waits : call ∈ table.pending) (texts : List String) :
    (table.run (settlements texts)).Stands call
      ((repliesTo call.id texts).head?.map
        (fun reply => .resolved (replyOutcome reply call))) := by
  have stands : table.Stands call none := waits
  rw [← verdict_settlements]
  exact stands_run sound stands (settlements texts)

/-- The calls that still wait are those that nothing was replied to. -/
theorem pending_settled (table : CallTable) (texts : List String) :
    (table.run (settlements texts)).pending =
      table.pending.filter (fun call => (repliesTo call.id texts).isEmpty) := by
  simp only [settlements, repliesTo]
  induction texts.filterMap Inbound.reply? generalizing table with
  | nil => simp [run]
  | cons reply replies ih =>
      have first : ((Op.settle reply.1 reply.2).perform table).1.pending =
          table.pending.filter (fun call => call.id ≠ reply.1) := pending_finish table reply.1 _
      rw [List.map_cons, run, List.foldl_cons, ← run, ih, first, List.filter_filter]
      refine List.filter_congr fun call _ => ?_
      by_cases same : reply.1 = call.id
      · simp [same]
      · simp [same, Ne.symm same]

/-- Settling registers nothing. -/
theorem admissions_settlements (table : CallTable) (texts : List String) :
    table.admissions (settlements texts) = [] := by
  simp only [settlements]
  induction texts.filterMap Inbound.reply? generalizing table with
  | nil => rfl
  | cons reply replies ih => simpa [admissions, Op.admitted?, Op.perform] using ih _

/-- Every number below the count of registrations is that of a call that stands somehow. -/
theorem Sound.exists_stands_of_lt {table : CallTable} (sound : table.Sound) {ticket : Nat}
    (registered : ticket < table.registrations) :
    (∃ call ∈ table.pending, call.ticket = ticket) ∨
      ∃ ending, (ticket, ending) ∈ table.endings := by
  have member := sound.tickets.mem_iff.2 (List.mem_range.2 registered)
  rcases List.mem_append.1 member with waits | ended
  · obtain ⟨call, inPending, same⟩ := List.mem_map.1 waits
    exact .inl ⟨call, inPending, same⟩
  · obtain ⟨entry, inEndings, rfl⟩ := List.mem_map.1 ended
    exact .inr ⟨entry.2, inEndings⟩

/-- **Replies to different calls do not see each other**: texts that carry the same replies to each
waiting call leave the same calls waiting and end the others alike, in whatever order the replies
to different calls come and whatever else is among the texts. -/
theorem settled_congr {table : CallTable} (sound : table.Sound) {texts others : List String}
    (same : ∀ call ∈ table.pending, repliesTo call.id texts = repliesTo call.id others) :
    (table.run (settlements texts)).pending = (table.run (settlements others)).pending ∧
      ∀ ticket, (table.run (settlements texts)).ending? ticket =
        (table.run (settlements others)).ending? ticket := by
  refine ⟨?_, fun ticket => ?_⟩
  · rw [pending_settled, pending_settled]
    exact List.filter_congr fun call waits => by rw [same call waits]
  have soundly : ∀ list, (table.run (settlements list)).Sound := fun list => sound.run _
  by_cases registered : ticket < table.registrations
  · rcases sound.exists_stands_of_lt registered with ⟨call, waits, rfl⟩ | ⟨ending, ended⟩
    · rw [(stands_settled sound waits texts).ending?_eq (soundly texts),
        (stands_settled sound waits others).ending?_eq (soundly others), same call waits]
    · -- a call that has ended is known by its number alone
      have stands : table.Stands ⟨ticket, .drawn 0, ⟨[]⟩⟩ (some ending) := ended
      have stays : ∀ list, (table.run (settlements list)).ending? ticket = some ending :=
        fun list => (stands_run sound stands (settlements list)).ending?_eq (soundly list)
      rw [stays, stays]
  · have unknown : ∀ list, (table.run (settlements list)).ending? ticket = none := by
      intro list
      rw [ending?_eq_none_iff]
      intro ended
      have member := (soundly list).tickets.subset (List.mem_append_right _ ended)
      rw [registrations_run, admissions_settlements] at member
      exact registered (List.mem_range.1 member)
    rw [unknown, unknown]

end CallTable

/-- Callbacks that leave the client alone, but for what belongs to them. -/
def Behaviour.Aloof {κ ω : Type} (behave : Behaviour κ ω) : Prop :=
  ∀ callback signal client, ∃ desk, (behave callback signal client).1 = { client with desk }

namespace Client

open Inbound (reply? push? ping? repliesTo settlements)

variable {κ ω : Type}

/-- The client after it acted upon texts, the first one first, and its answers. -/
def routeAll (behave : Behaviour κ ω) : List String → Client κ ω → Client κ ω × List Outbound
  | [], client => (client, [])
  | text :: texts, client =>
      let (next, answer) := client.route behave text
      let (last, answers) := routeAll behave texts next
      (last, answer.toList ++ answers)

/-- The calls of handlers that a push brings about. -/
def callsFor (subscriptions : Subscriptions κ) (push : Topic × Json) : List (κ × Signal) :=
  (subscriptions.matching push.1).map (fun entry => (entry.2, .push push.1 push.2))

/-- Which callbacks were called, and with what, when a client acted upon texts: its callbacks write
it down, which changes nothing else (`routeAll_journalled`). -/
def told (behave : Behaviour κ ω) (texts : List String) (client : Client κ ω) :
    List (κ × Signal) :=
  let observed := (client.withDesk (client.desk, [])).routeAll
    (behave.journalled fun _ _ _ => []) texts
  observed.1.desk.2.map (fun visit => (visit.callback, visit.signal))

/-! ## What one text does -/

/-- What is no message, and a reply to a call that does not wait, changes nothing. -/
theorem route_idle (behave : Behaviour κ ω) {client : Client κ ω} {text : String}
    (idle : (∃ error, Inbound.decode text = .error error) ∨
      ∃ id outcome, Inbound.decode text = .ok (.reply id outcome) ∧
        client.calls.contains id = false) :
    client.route behave text = (client, none) := by
  rcases idle with ⟨error, broken⟩ | ⟨id, outcome, replies, absent⟩
  · simp [route, broken]
  · simp [route, replies, CallTable.settle, CallTable.finish_unknown _ _ _ absent]

theorem notifyAll_aloof {behave : Behaviour κ ω} (aloof : behave.Aloof) (signal : Signal)
    (entries : List (HandleId × κ)) (client : Client κ ω) :
    ∃ desk, notifyAll behave signal client entries = { client with desk } := by
  induction entries generalizing client with
  | nil => exact ⟨client.desk, rfl⟩
  | cons entry entries ih =>
      obtain ⟨desk, first⟩ := aloof entry.2 signal client
      obtain ⟨last, rest⟩ := ih { client with desk }
      refine ⟨last, ?_⟩
      rw [notifyAll, List.foldl_cons, notify, first]
      exact rest

/-- A text settles what it replies to, and is answered if it asks; nothing else happens. -/
theorem route_aloof {behave : Behaviour κ ω} (aloof : behave.Aloof) (text : String)
    (client : Client κ ω) :
    ∃ desk, client.route behave text =
      ({ client with calls := client.calls.run (settlements [text]), desk },
       (ping? text).map .pong) := by
  unfold route
  cases decoded : Inbound.decode text with
  | error error =>
      obtain ⟨replies, -, asks⟩ := Inbound.kinds_of_error decoded
      exact ⟨client.desk, by simp [settlements, replies, asks, CallTable.run]⟩
  | ok message =>
      cases message with
      | reply id outcome =>
          obtain ⟨replies, -, asks⟩ := Inbound.kinds_of_reply decoded
          refine ⟨client.desk, ?_⟩
          simp [settlements, replies, asks, CallTable.run, CallTable.Op.perform]
      | push topic data =>
          obtain ⟨replies, -, asks⟩ := Inbound.kinds_of_push decoded
          obtain ⟨desk, left⟩ := notifyAll_aloof aloof (.push topic data)
            (client.subscriptions.matching topic) client
          refine ⟨desk, ?_⟩
          simp [settlements, replies, asks, CallTable.run, dispatch, left]
      | ping id =>
          obtain ⟨replies, -, asks⟩ := Inbound.kinds_of_ping decoded
          exact ⟨client.desk, by simp [settlements, replies, asks, CallTable.run]⟩

/-- Writing down the visits of the handlers changes nothing else, and the visits of one text are
those that its push brings about. -/
theorem route_journalled (behave : Behaviour κ ω) (account : Account κ ω) (text : String)
    (client : Client κ ω) (journal : List (Visit κ ω)) :
    ∃ visits : List (Visit κ ω),
      (client.withDesk (client.desk, journal)).route (behave.journalled account) text =
          ((client.route behave text).1.withDesk
              ((client.route behave text).1.desk, journal ++ visits),
            (client.route behave text).2) ∧
        visits.map (fun visit => (visit.callback, visit.signal)) =
          (push? text).toList.flatMap (callsFor client.subscriptions) := by
  unfold route
  cases decoded : Inbound.decode text with
  | error error => exact ⟨[], by simp, by simp [Inbound.kinds_of_error decoded]⟩
  | ok message =>
      cases message with
      | reply id outcome =>
          exact ⟨[], by simp [withDesk], by simp [Inbound.kinds_of_reply decoded]⟩
      | push topic data =>
          obtain ⟨visits, journalled, callbacks, signals, -⟩ :=
            notifyAll_journalled behave account (.push topic data)
              (client.subscriptions.matching topic) client journal
          refine ⟨visits, Prod.ext journalled rfl, ?_⟩
          rw [calls_of_visits callbacks signals]
          simp [Inbound.kinds_of_push decoded, callsFor]
      | ping id => exact ⟨[], by simp, by simp [Inbound.kinds_of_ping decoded]⟩

/-! ## What texts do -/

/-- **What texts do to a client**: they settle the calls that they reply to, and every ping among
them is answered. -/
theorem routeAll_eq {behave : Behaviour κ ω} (aloof : behave.Aloof) (texts : List String)
    (client : Client κ ω) :
    ∃ desk, client.routeAll behave texts =
      ({ client with calls := client.calls.run (settlements texts), desk },
       (texts.filterMap ping?).map .pong) := by
  induction texts generalizing client with
  | nil => exact ⟨client.desk, rfl⟩
  | cons text texts ih =>
      obtain ⟨desk, first⟩ := route_aloof aloof text client
      obtain ⟨last, rest⟩ := ih { client with
        calls := client.calls.run (settlements [text]), desk }
      refine ⟨last, ?_⟩
      rw [routeAll, first]
      simp only [rest, Inbound.settlements_cons text texts, CallTable.run_append]
      cases asks : ping? text <;> simp [asks]

/-- **Whom texts call**: writing it down changes nothing else, and it is what the pushes among them
bring about, each by itself. -/
theorem routeAll_journalled {behave : Behaviour κ ω} (aloof : behave.Aloof)
    (account : Account κ ω) (texts : List String) (client : Client κ ω)
    (journal : List (Visit κ ω)) :
    ∃ visits : List (Visit κ ω),
      (client.withDesk (client.desk, journal)).routeAll (behave.journalled account) texts =
          ((client.routeAll behave texts).1.withDesk
              ((client.routeAll behave texts).1.desk, journal ++ visits),
            (client.routeAll behave texts).2) ∧
        visits.map (fun visit => (visit.callback, visit.signal)) =
          (texts.filterMap push?).flatMap (callsFor client.subscriptions) := by
  induction texts generalizing client journal with
  | nil => exact ⟨[], by simp [routeAll], rfl⟩
  | cons text texts ih =>
      obtain ⟨first, routed, called⟩ := route_journalled behave account text client journal
      obtain ⟨rest, after, calledLater⟩ := ih (client.route behave text).1 (journal ++ first)
      have kept : (client.route behave text).1.subscriptions = client.subscriptions := by
        obtain ⟨desk, left⟩ := route_aloof aloof text client
        rw [left]
      refine ⟨first ++ rest, ?_, ?_⟩
      · rw [routeAll, routed]
        simp only [after, List.append_assoc]
        rfl
      · rw [List.map_append, called, calledLater, kept, ← List.flatMap_append]
        cases pushes : push? text <;> simp [pushes]

theorem told_eq {behave : Behaviour κ ω} (aloof : behave.Aloof) (texts : List String)
    (client : Client κ ω) :
    client.told behave texts =
      (texts.filterMap push?).flatMap (callsFor client.subscriptions) := by
  obtain ⟨visits, observed, called⟩ :=
    routeAll_journalled aloof (fun _ _ _ => []) texts client []
  rw [told, observed]
  exact called

/-- Texts of one kind alone are read as they are among others. -/
theorem filterMap_filter_isSome {α β : Type} (read : α → Option β) (entries : List α) :
    (entries.filter (fun entry => (read entry).isSome)).filterMap read =
      entries.filterMap read := by
  rw [List.filterMap_filter]
  refine List.filterMap_congr fun entry _ => ?_
  cases read entry <;> rfl

/-- **The kinds of received messages keep apart.**  Take any client, any texts that it receives, in
order, and handlers that leave the client alone.  Then:

* the handlers are called as they are by the pushes among the texts alone;
* the table of calls, with how each call ended, is left as the replies alone leave it;
* the answers are one pong for each ping, in order, with its identifier;
* a text that is no message, and a reply to a call that does not wait, changes nothing and is not
  answered, whatever the handlers do.

Suppose further that operations led to the table of calls.  Then every waiting call ends as the
first reply to it says, and waits on if there is none.  So the calls all end alike for other texts
that carry the same replies to each of them, in whatever order the replies to different calls come,
and whatever other texts are added, left out or moved. -/
theorem traffic_kept_apart {behave : Behaviour κ ω} (aloof : behave.Aloof) (client : Client κ ω)
    (texts : List String) :
    client.told behave texts =
        client.told behave (texts.filter (fun text => (push? text).isSome)) ∧
      (client.routeAll behave texts).1.calls =
        (client.routeAll behave (texts.filter (fun text => (reply? text).isSome))).1.calls ∧
      (client.routeAll behave texts).2 = (texts.filterMap ping?).map .pong ∧
      (∀ (other : Behaviour κ ω) (text : String),
        ((∃ error, Inbound.decode text = .error error) ∨
          ∃ id outcome, Inbound.decode text = .ok (.reply id outcome) ∧
            client.calls.contains id = false) →
        client.route other text = (client, none)) ∧
      ∀ (capacity : Nat) (ops : List CallTable.Op),
        client.calls = CallTable.run ops { capacity } →
          (∀ call ∈ client.calls.pending,
            (client.routeAll behave texts).1.calls.Stands call
              ((repliesTo call.id texts).head?.map
                (fun reply => .resolved (CallTable.replyOutcome reply call)))) ∧
          ∀ others : List String,
            (∀ call ∈ client.calls.pending,
              repliesTo call.id texts = repliesTo call.id others) →
            (client.routeAll behave texts).1.calls.pending =
                (client.routeAll behave others).1.calls.pending ∧
              ∀ ticket, (client.routeAll behave texts).1.calls.ending? ticket =
                (client.routeAll behave others).1.calls.ending? ticket := by
  have table : ∀ list, (client.routeAll behave list).1.calls =
      client.calls.run (settlements list) := by
    intro list
    obtain ⟨desk, left⟩ := routeAll_eq aloof list client
    rw [left]
  refine ⟨?_, ?_, ?_, fun other text => route_idle other, fun capacity ops reached => ?_⟩
  · rw [told_eq aloof, told_eq aloof, filterMap_filter_isSome]
  · rw [table, table, settlements, settlements, filterMap_filter_isSome]
  · obtain ⟨desk, left⟩ := routeAll_eq aloof texts client
    rw [left]
  · have sound : client.calls.Sound := reached ▸ (CallTable.sound_empty capacity).run ops
    refine ⟨fun call waits => ?_, fun others same => ?_⟩
    · rw [table]
      exact CallTable.stands_settled sound waits texts
    · rw [table, table]
      exact CallTable.settled_congr sound same

/-- A client that listens to one topic, and two calls of which wait. -/
def tuned : Client Bool Nat :=
  { (new {} none 0 : Client Bool Nat) with
    subscriptions := (({} : Subscriptions Bool).subscribe (HandleId.nth 0) ⟨["news"]⟩ true).1
    calls := CallTable.run twoWait { capacity := 2 } }

/-- Handlers that count how often they are called. -/
def counting : Behaviour Bool Nat :=
  fun _ _ client => ({ client with desk := client.desk + 1 }, .returned)

/-- A push. -/
def news : Envelope := { messageId := "1", path := "news" }

/-- A ping. -/
def ping : Envelope := { messageId := "2", path := "ping" }

/-- A refusal of the first call. -/
def refused : Envelope where
  messageId := "3"
  replyingTo := some "8dde6e5f-d29f-4057-b39c-c0605cedc835"
  error := some "no"

/-- A reply to the second call. -/
def granted : Envelope :=
  { messageId := "4", replyingTo := some "1bbcdcbf-a53e-40af-a739-80c0b9db906a" }

/-- Both replies, among a push, a ping and what is no message. -/
@[irreducible]
def mixed : List String :=
  ["no message", granted.encode, news.encode, ping.encode, refused.encode]

theorem traffic_kept_apart_mixed :
    let first : PendingCall := ⟨0, CorrelationId.drawn 0, ⟨["orders", "list"]⟩⟩
    let after := (tuned.routeAll counting mixed).1.calls
    counting.Aloof ∧ tuned.calls = CallTable.run twoWait { capacity := 2 } ∧
      tuned.told counting mixed = tuned.told counting [news.encode] ∧
      (tuned.routeAll counting mixed).2 = [.pong "2"] ∧
      tuned.route counting "no message" = (tuned, none) ∧
      after.Stands first (some (.resolved (.error (.remote "orders/list" "no")))) ∧
      ∀ ticket, after.ending? ticket =
        (tuned.routeAll counting [refused.encode, granted.encode]).1.calls.ending? ticket := by
  intro first after
  have aloof : counting.Aloof := fun _ _ client => ⟨client.desk + 1, rfl⟩
  have reached : tuned.calls = CallTable.run twoWait { capacity := 2 } := rfl
  have waiting : tuned.calls.pending = [first, ⟨1, CorrelationId.drawn 1, ⟨["robot"]⟩⟩] := by
    decide +kernel
  have apart : CorrelationId.drawn 0 ≠ CorrelationId.drawn 1 := by decide +kernel
  -- what the texts are
  have pushed : Inbound.decode news.encode = .ok (.push ⟨["news"]⟩ .null) := by
    rw [Inbound.decode, Envelope.read_encode ⟨by decide, by decide, by decide⟩]
    rfl
  have asked : Inbound.decode ping.encode = .ok (.ping "2") := by
    rw [Inbound.decode, Envelope.read_encode ⟨by decide, by decide, by decide⟩]
    rfl
  have denied :
      Inbound.decode refused.encode = .ok (.reply (CorrelationId.drawn 0) (.error "no")) :=
    Inbound.decode_reply ⟨by decide, by decide, by decide⟩ rfl
      ((CorrelationId.parse_eq_ok_iff _ _).1 (by decide +kernel))
  have answered :
      Inbound.decode granted.encode = .ok (.reply (CorrelationId.drawn 1) (.ok .null)) :=
    Inbound.decode_reply ⟨by decide, by decide, by decide⟩ rfl
      ((CorrelationId.parse_eq_ok_iff _ _).1 (by decide +kernel))
  have broken : ∃ error, Inbound.decode "no message" = .error error := by
    cases decoded : Inbound.decode "no message" with
    | error error => exact ⟨error, rfl⟩
    | ok message =>
        have unread : (Inbound.decode "no message").isOk = false := by decide +kernel
        simp [decoded, Except.isOk, Except.toBool] at unread
  obtain ⟨called, -, answers, idle, ended⟩ := traffic_kept_apart aloof tuned mixed
  obtain ⟨stands, alike⟩ := ended 2 twoWait reached
  have idleText := idle counting "no message" (.inl broken)
  obtain ⟨error, broken⟩ := broken
  have none := Inbound.kinds_of_error broken
  have push := Inbound.kinds_of_push pushed
  have asks := Inbound.kinds_of_ping asked
  have denies := Inbound.kinds_of_reply denied
  have answering := Inbound.kinds_of_reply answered
  have pushes : mixed.filter (fun text => (push? text).isSome) = [news.encode] := by
    simp [mixed, none, push, asks, denies, answering]
  have answer : (tuned.routeAll counting mixed).2 = [.pong "2"] := by
    rw [answers]
    simp [mixed, none, push, asks, denies, answering]
  have refusal : repliesTo (CorrelationId.drawn 0) mixed = [.error "no"] := by
    simp [mixed, repliesTo, none, push, asks, denies, answering, apart.symm]
  have decided : (repliesTo first.id mixed).head?.map
      (fun reply => CallEnd.resolved (CallTable.replyOutcome reply first)) =
        some (.resolved (.error (.remote "orders/list" "no"))) := by
    rw [refusal]
    rfl
  have waits : first ∈ tuned.calls.pending := by simp [waiting]
  have replied := stands first waits
  rw [decided] at replied
  have swapped := alike [refused.encode, granted.encode] fun call waits => by
    rw [waiting, List.mem_pair] at waits
    rcases waits with rfl | rfl <;>
      simp [first, mixed, repliesTo, none, push, asks, denies, answering, apart, apart.symm]
  rw [pushes] at called
  exact ⟨aloof, reached, called, answer, idleText, replied, swapped.2⟩

end Client

end Switchboard
