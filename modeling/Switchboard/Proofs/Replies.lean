/-
# Switchboard.Proofs.Replies -- a reply reaches its call

A reply says in words which call it answers.  Between the words and the call stand the
text of a message, the spelling of an identifier, the kinds of messages and the table of
calls; none of them loses anything that matters:

* a message of well-formed payloads is read as it was written, but that a payload that is
  null is absent, and an absent payload answers as null does (`Inbound.decode_reply`);
* it is a reply because it names what it answers, whatever else it holds, and exactly the
  spellings of an identifier name it;
* an identifier belongs to one waiting call, and ending that call leaves the table as it
  was otherwise.

So the reply settles its call, and nothing else happens (`reply_reaches_its_call`).  The
identifier that a request carries can be read off its text, whatever its payloads are
(`messageId_of_read_encode`).
-/
import Switchboard.Client.Session
import Switchboard.Proofs.EnvelopeText
import Switchboard.Proofs.Settlement
import Switchboard.Proofs.Spelling

namespace Switchboard

set_option autoImplicit false

namespace Json

/-- What the first member brings about and the others keep holds in the end. -/
theorem membersFrom_establishes {σ : Type} {member : σ → String → List Char →
      Except Fault (σ × List Char)} (holds : σ → Prop)
    (keeps : ∀ state name characters next rest, holds state →
      member state name characters = .ok (next, rest) → holds next)
    {turns : Nat} {state final : σ} {characters rest : List Char}
    (first : ∀ name after next rest, readText [] characters = .ok (name, after) →
      member state name after = .ok (next, rest) → holds next)
    (reads : membersFrom member turns state characters = .ok (final, rest)) : holds final := by
  cases turns with
  | zero => simp [membersFrom] at reads
  | succ turns =>
      rw [membersFrom] at reads
      split at reads
      · simp at reads
      rename_i name after named
      split at reads
      · simp at reads
      rename_i next afterMember found
      have begun := first name after next afterMember named found
      split at reads
      · simp at reads
      · obtain ⟨rfl, -⟩ : next = final ∧ _ := by simpa using reads
        exact begun
      · split at reads
        · simp at reads
        · exact membersFrom_keeps holds keeps begun reads
        · simp at reads
      · simp at reads

end Json

namespace Envelope

open Json (printText printEntries readText_printed escapeChar skipBlank_of_not_blank
  exists_of_map_ok)

/-! ## The identifier of a message -/

/-- Once the identifier of a message has been read, it stays. -/
theorem readMember_keeps_messageId {draft next : Draft} {name messageId : String}
    {characters rest : List Char} (known : draft.messageId = some messageId)
    (reads : readMember draft name characters = .ok (next, rest)) :
    next.messageId = some messageId := by
  unfold readMember at reads
  split at reads
  · rename_i field _
    split at reads
    · simp at reads
    rename_i unread
    split at reads
    · simp at reads
    · cases field with
      | messageId => simp [Draft.has, known] at unread
      | replyingTo | path | data | error | token =>
          obtain ⟨found, -, same⟩ := exists_of_map_ok reads
          obtain rfl := congrArg Prod.fst same
          exact known
  · split at reads
    · simp at reads
    · obtain ⟨_, -, same⟩ := exists_of_map_ok reads
      obtain rfl := congrArg Prod.fst same
      exact known

/-- **The identifier of a message can be read off its text**, whatever its payloads are, if the
text can be read at all. -/
theorem messageId_of_read_encode {envelope sent : Envelope}
    (reads : read envelope.encode = .ok sent) : sent.messageId = envelope.messageId := by
  have entry : encodeChars envelope = '\x7b' :: '"' :: ("message_id".toList.flatMap escapeChar ++
      '"' :: ':' :: (printText envelope.messageId ++ printEntries envelope.entries)) := by
    simp [encodeChars_eq, printText]
  obtain ⟨found, chars, finished⟩ : ∃ found, readChars envelope.encodeChars = .ok found ∧
      Json.finish found = .ok sent := by
    rw [read, encode, String.toList_ofList] at reads
    split at reads
    · simp at reads
    · exact ⟨_, ‹_›, reads⟩
  obtain rfl : found.1 = sent := by
    unfold Json.finish at finished
    split at finished
    · simpa using finished
    · simp at finished
  rw [entry, readChars, skipBlank_of_not_blank '\x7b' _ rfl] at chars
  obtain ⟨drafted, loop, rfl⟩ := exists_of_map_ok chars
  -- the identifier comes first, and what follows leaves it alone
  have known : drafted.1.messageId = some envelope.messageId := by
    rw [Json.members, skipBlank_of_not_blank '"' _ rfl] at loop
    refine Json.membersFrom_establishes (fun draft => draft.messageId = some envelope.messageId)
      (fun _ _ _ _ _ => readMember_keeps_messageId) ?_ loop
    intro name after next rest named taken
    rw [readText_printed] at named
    obtain ⟨rfl, rfl⟩ : "message_id" = name ∧ _ = after := by simpa using named
    have value : readMember {} "message_id"
        (':' :: (printText envelope.messageId ++ printEntries envelope.entries)) =
          .ok ({ messageId := some envelope.messageId }, printEntries envelope.entries) := by
      show readField {} .messageId _ = _
      rw [readField, readString_printText]
      rfl
    rw [value] at taken
    obtain rfl := (Prod.mk.inj (Except.ok.inj taken)).1
    rfl
  simp [Draft.complete, known]

end Envelope

namespace Inbound

/-! ## Replies -/

/-- A payload that is null answers as an absent one does. -/
theorem outcomeOf_collapsed (envelope : Envelope) :
    outcomeOf envelope.collapsed = outcomeOf envelope := by
  obtain ⟨messageId, replyingTo, path, data, error, token⟩ := envelope
  cases error with
  | some message => rfl
  | none =>
      cases data with
      | none => rfl
      | some payload => cases payload <;> rfl

/-- A message that names what it answers is a reply to that, whatever else it holds. -/
theorem decode_reply {envelope : Envelope} (plain : envelope.Plain) {text : String}
    (answers : envelope.replyingTo = some text) {id : CorrelationId}
    (names : id.Spelling text.toList) :
    decode envelope.encode = .ok (.reply id (outcomeOf envelope)) := by
  have named : envelope.collapsed.replyingTo = some text := answers
  have spelt := (CorrelationId.parse_eq_ok_iff text id).2 names
  rw [decode, Envelope.read_encode plain]
  simp only [classify, named, spelt, outcomeOf_collapsed]

end Inbound

namespace CallTable

/-- Ending a waiting call takes out its entry alone. -/
theorem Sound.finish_eq {table : CallTable} (sound : table.Sound) {call : PendingCall}
    (waits : call ∈ table.pending) (ending : PendingCall → CallEnd) :
    table.finish call.id ending =
      ({ table with
          pending := table.pending.filter (fun other => other ≠ call)
          endings := (call.ticket, ending call) :: table.endings },
       true) := by
  have same : table.pending.filter (fun other => other.id ≠ call.id) =
      table.pending.filter (fun other => other ≠ call) := by
    refine List.filter_congr fun other member => ?_
    simp only [ne_eq, decide_not, Bool.not_eq_eq_eq_not, Bool.not_not, decide_eq_decide]
    constructor
    · intro sameId
      exact List.inj_on_of_nodup_map sound.ids member waits sameId
    · rintro rfl
      rfl
  rw [sound.finish_waiting waits, same]

end CallTable

namespace Client

variable {κ ω : Type}

/-- **A reply reaches its call, and only its call.**  Take a client whose table any operations have
led to, with any registry, and a call that waits.  Then:

* the texts that are read as the identifier of the call are its spellings: the hyphenated groups,
  the 32 digits, the groups in braces and those after `urn:uuid:`, each in any letter case;
* the text of any message that names one of them as what it answers, and whose payloads are
  well-formed, hold no binary number and are no more than 126 containers deep, settles the call:
  with the error it carries, under the call's own path, or else with its data, absent data being
  null.  Nothing is to be written, no handler is told, and nothing else changes: not the registry,
  not another waiting call, and not how any other call ended;
* the identifier found in the text of a request of the call is such a spelling, and it is found if
  the payloads are as said. -/
theorem reply_reaches_its_call {client : Client κ ω} {capacity : Nat} {ops : List CallTable.Op}
    (reached : client.calls = CallTable.run ops { capacity }) {call : PendingCall}
    (waits : call ∈ client.calls.pending) (behave : Behaviour κ ω) :
    (∀ text, CorrelationId.parse text = .ok call.id ↔ call.id.Spelling text.toList) ∧
      (∀ (envelope : Envelope) (text : String), envelope.Plain →
        envelope.replyingTo = some text → call.id.Spelling text.toList →
          let outcome : Outcome :=
            match envelope.error with
            | some message => .error (.remote call.path.wire message)
            | none => .ok (envelope.data.getD .null)
          client.route behave envelope.encode =
            ({ client with
                calls := { client.calls with
                  pending := client.calls.pending.filter (fun other => other ≠ call)
                  endings := (call.ticket, .resolved outcome) :: client.calls.endings } },
             none)) ∧
      ∀ (fresh : CorrelationId) (data : Json) (token : Option Json),
        let request := (Outbound.request call.id call.path data token).envelope fresh
        (∀ sent, Envelope.read request.encode = .ok sent →
          call.id.Spelling sent.messageId.toList) ∧
        (request.Plain → ∃ sent, Envelope.read request.encode = .ok sent) := by
  have sound : client.calls.Sound := reached ▸ (CallTable.sound_empty capacity).run ops
  refine ⟨fun text => CorrelationId.parse_eq_ok_iff text call.id,
    fun envelope text plain answers names => ?_, fun fresh data token => ⟨fun sent reads => ?_,
      fun plain => ⟨_, Envelope.read_encode plain⟩⟩⟩
  · intro outcome
    have meant : CallTable.replyOutcome (Inbound.outcomeOf envelope) call = outcome := by
      simp only [outcome, Inbound.outcomeOf]
      cases envelope.error <;> rfl
    simp only [route, Inbound.decode_reply plain answers names, CallTable.settle,
      sound.finish_eq waits, meant]
  · rw [Envelope.messageId_of_read_encode reads]
    exact call.id.spelling_text

/-- Two calls wait. -/
def twoWait : List CallTable.Op :=
  [.register [CorrelationId.drawn 0] ⟨["orders", "list"]⟩,
    .register [CorrelationId.drawn 1] ⟨["robot"]⟩]

/-- A client of which nothing is known but its calls. -/
def waitingFor (ops : List CallTable.Op) : Client Unit Unit :=
  { new {} none () with calls := CallTable.run ops { capacity := 2 } }

/-- A refusal of the second call, with its identifier in braces and in capitals, that looks like a
ping besides. -/
def refusal : Envelope where
  messageId := "m"
  replyingTo := some "\x7b1BBCDCBF-A53E-40AF-A739-80C0B9DB906A\x7d"
  path := "ping"
  data := some (.array [.null])
  error := some "no robot"

theorem reply_reaches_refused :
    let call : PendingCall := ⟨1, CorrelationId.drawn 1, ⟨["robot"]⟩⟩
    let behave : Behaviour Unit Unit := fun _ _ client => (client, .panicked)
    (waitingFor twoWait).calls = CallTable.run twoWait { capacity := 2 } ∧
      call ∈ (waitingFor twoWait).calls.pending ∧ refusal.Plain ∧
      call.id.Spelling "\x7b1BBCDCBF-A53E-40AF-A739-80C0B9DB906A\x7d".toList ∧
      ((waitingFor twoWait).route behave refusal.encode).2.isNone = true ∧
      ((waitingFor twoWait).route behave refusal.encode).1.calls.pending.map (·.path) =
        [⟨["orders", "list"]⟩] ∧
      ((waitingFor twoWait).route behave refusal.encode).1.calls.Stands call
        (some (.resolved (.error (.remote "robot" "no robot")))) := by
  intro call behave
  have reached : (waitingFor twoWait).calls = CallTable.run twoWait { capacity := 2 } := rfl
  have waits : call ∈ (waitingFor twoWait).calls.pending := by decide +kernel
  have plain : refusal.Plain := ⟨by decide, by decide, by decide⟩
  have named :
      CorrelationId.parse "\x7b1BBCDCBF-A53E-40AF-A739-80C0B9DB906A\x7d" = .ok call.id := by
    decide +kernel
  obtain ⟨spellings, settles, -⟩ := reply_reaches_its_call reached waits behave
  have spelt := (spellings _).1 named
  have settled := settles refusal _ plain rfl spelt
  refine ⟨reached, waits, plain, spelt, ?_, ?_, ?_⟩
  · rw [settled]
    rfl
  · rw [settled]
    decide +kernel
  · rw [settled]
    exact List.mem_cons_self

end Client

end Switchboard
