/-
# Switchboard.Proofs.EnvelopeText -- messages read back

A message is written as an object of the entries it has (`Envelope.entries`), each of
which its reader takes into the draft (`follows_entries`).  A payload that is present
and null is written as such and read as absent (`Envelope.collapsed`); nothing else is
lost.

* `read_encode`: every message whose payloads are well-formed, without binary numbers
  and not too deep reads back, but for that;
* `payloads_of_read`: the payloads of a message that was read are well-formed, not too
  deep and not null;
* `round_trip`: so writing and reading is the identity on what was read, and writing
  what was read gives the same text.
-/
import Mathlib.Data.List.DropRight
import Switchboard.Envelope.Reader
import Switchboard.Proofs.ValueText

namespace Switchboard

set_option autoImplicit false

open Json (Fault printText printChars printEntries readString readOptionalString
  readOptionalValue expectColon skipBlank readText readText_printed escapeChar
  skipBlank_of_not_blank Follows exists_of_map_ok)
open Json.Literal (Stops)

/-- Whether a value is null. -/
def Json.isNull : Json → Bool
  | .null => true
  | _ => false

/-- A payload as it is read: null means absence. -/
def Json.presence (payload : Json) : Option Json := if payload.isNull then none else some payload

namespace Envelope

/-- The message without the payloads that are null. -/
def collapsed (envelope : Envelope) : Envelope :=
  { envelope with
    data := envelope.data.bind Json.presence
    token := envelope.token.bind Json.presence }

/-- The payloads of a message. -/
def payloads (envelope : Envelope) : List Json := envelope.data.toList ++ envelope.token.toList

/-! ## Entries -/

/-- The entries of a message after its identifier. -/
def entries (envelope : Envelope) : List (String × List Char) :=
  envelope.replyingTo.toList.map (fun text => ("replying_to", printText text)) ++
    [("path", printText envelope.path)] ++
    envelope.data.toList.map (fun payload => ("data", printChars payload)) ++
    envelope.error.toList.map (fun text => ("error", printText text)) ++
    envelope.token.toList.map (fun payload => ("token", printChars payload))

theorem textField_append (name : String) (text : Option String)
    (others : List (String × List Char)) :
    textField name text ++ printEntries others =
      printEntries (text.toList.map (fun text => (name, printText text)) ++ others) := by
  cases text <;> simp [textField, printEntries]

theorem payloadField_append (name : String) (payload : Option Json)
    (others : List (String × List Char)) :
    payloadField name payload ++ printEntries others =
      printEntries (payload.toList.map (fun payload => (name, printChars payload)) ++ others) := by
  cases payload <;> simp [payloadField, printEntries]

theorem requiredField_append (name value : String) (others : List (String × List Char)) :
    ',' :: (requiredField name value ++ printEntries others) =
      printEntries ((name, printText value) :: others) := by
  simp [requiredField, printEntries]

/-- A message is written as an object of its entries. -/
theorem encodeChars_eq (envelope : Envelope) :
    envelope.encodeChars = '\x7b' :: (printText "message_id" ++
      ':' :: (printText envelope.messageId ++ printEntries envelope.entries)) := by
  have closing : ['\x7d'] = printEntries [] := rfl
  simp only [encodeChars, List.append_assoc, List.cons_append]
  rw [closing, payloadField_append, textField_append, payloadField_append, requiredField_append,
    textField_append]
  simp [entries, requiredField]

/-! ## Fields -/

section Fields

variable {rest : List Char}

theorem readString_printText (text : String) :
    readString (printText text ++ rest) = .ok (text, rest) := by
  have shape : printText text ++ rest =
      '"' :: (text.toList.flatMap escapeChar ++ '"' :: rest) := by simp [printText]
  rw [shape, readString, skipBlank_of_not_blank '"' _ rfl]
  exact readText_printed text rest

theorem readOptionalString_printText (text : String) :
    readOptionalString (printText text ++ rest) = .ok (some text, rest) := by
  have shape : printText text ++ rest =
      '"' :: (text.toList.flatMap escapeChar ++ '"' :: rest) := by simp [printText]
  rw [shape, readOptionalString, skipBlank_of_not_blank '"' _ rfl]
  show (readText [] _).map _ = _
  rw [readText_printed]
  rfl

/-- A payload is read as it is, and as absent if it is null. -/
theorem readOptionalValue_printChars {payload : Json} {bound : Nat}
    (whole : payload.isWhole = true) (formed : payload.isFormed = true)
    (shallow : payload.depth ≤ bound) (stops : Stops rest) :
    readOptionalValue bound (printChars payload ++ rest) = .ok (payload.presence, rest) := by
  have read := Json.readValue_printChars whole formed shallow rest stops
  obtain ⟨first, others, printed, solid, -, null⟩ := Json.printChars_head whole
  by_cases begins : first = 'n'
  · obtain rfl := null begins
    rfl
  · have present : payload.presence = some payload := by
      cases payload with
      | null => exact absurd (List.cons.inj printed).1.symm begins
      | _ => rfl
    rw [readOptionalValue, printed, List.cons_append, skipBlank_of_not_blank first _ solid]
    rw [printed, List.cons_append] at read
    split
    · rename_i begun
      exact absurd (List.cons.inj begun).1 begins
    · rw [read, present]
      rfl

end Fields

/-- A field that has not been read yet is taken into the draft. -/
theorem follows_field {draft next : Draft} {name : String} (field : Field) {text : List Char}
    (known : fieldOf name = some field) (unread : draft.has field = false)
    (reads : ∀ rest, Stops rest → readField draft field (text ++ rest) = .ok (next, rest)) :
    Follows readMember draft [(name, text)] next := by
  refine .cons (fun rest stops => ?_) (.nil next)
  simp [readMember, known, unread, expectColon, skipBlank_of_not_blank ':' _ rfl,
    reads rest stops]

/-- So is one that is written only if it is present. -/
theorem follows_optional {α : Type} {draft : Draft} {name : String} (field : Field)
    {text : α → List Char} (store : Option α → Draft) (known : fieldOf name = some field)
    (unread : draft.has field = false) (absent : store none = draft) {value : Option α}
    (reads : ∀ found, value = some found → ∀ rest, Stops rest →
      readField draft field (text found ++ rest) = .ok (store (some found), rest)) :
    Follows readMember draft (value.toList.map fun found => (name, text found)) (store value) := by
  cases value with
  | none => exact absent ▸ .nil _
  | some found => exact follows_field field known unread (reads found rfl)

/-- The draft of a message all of whose entries have been read. -/
def draft (envelope : Envelope) : Draft where
  messageId := some envelope.messageId
  replyingTo := envelope.replyingTo.map some
  path := some envelope.path
  data := envelope.data.map Json.presence
  error := envelope.error.map some
  token := envelope.token.map Json.presence

/-- What a message must be like so that its payloads read back. -/
structure Plain (envelope : Envelope) : Prop where
  whole : ∀ payload ∈ envelope.payloads, payload.isWhole = true
  formed : ∀ payload ∈ envelope.payloads, payload.isFormed = true
  shallow : ∀ payload ∈ envelope.payloads, payload.depth ≤ 126

/-- **The entries of a message are read one after the other.** -/
theorem follows_entries {envelope : Envelope} (plain : envelope.Plain) :
    Follows readMember {} (("message_id", printText envelope.messageId) :: envelope.entries)
      envelope.draft := by
  obtain ⟨whole, formed, shallow⟩ := plain
  obtain ⟨messageId, replyingTo, path, data, error, token⟩ := envelope
  have readsPayload : ∀ payload ∈ (data.toList ++ token.toList), ∀ rest, Stops rest →
      readOptionalValue innerDepth (printChars payload ++ rest) = .ok (payload.presence, rest) :=
    fun payload member rest stops => readOptionalValue_printChars (whole payload member)
      (formed payload member) (shallow payload member) stops
  let named : Draft := { messageId := some messageId }
  let answering : Draft := { named with replyingTo := replyingTo.map some }
  let addressed : Draft := { answering with path := some path }
  let loaded : Draft := { addressed with data := data.map Json.presence }
  let failed : Draft := { loaded with error := error.map some }
  have first : Follows readMember {} [("message_id", printText messageId)] named :=
    follows_field .messageId (by decide) rfl fun rest _ => by
      rw [readField, readString_printText]
      rfl
  have reply : Follows readMember named
      (replyingTo.toList.map fun text => ("replying_to", printText text)) answering :=
    follows_optional .replyingTo (fun text => { named with replyingTo := text.map some })
      (by decide) rfl rfl fun text _ rest _ => by
        rw [readField, readOptionalString_printText]
        rfl
  have address : Follows readMember answering [("path", printText path)] addressed :=
    follows_field .path (by decide) rfl fun rest _ => by
      rw [readField, readString_printText]
      rfl
  have payload : Follows readMember addressed
      (data.toList.map fun payload => ("data", printChars payload)) loaded :=
    follows_optional .data (fun payload => { addressed with data := payload.map Json.presence })
      (by decide) rfl rfl fun payload stored rest stops => by
        rw [readField, readsPayload payload (by simp [stored]) rest stops]
        rfl
  have failure : Follows readMember loaded
      (error.toList.map fun text => ("error", printText text)) failed :=
    follows_optional .error (fun text => { loaded with error := text.map some })
      (by decide) rfl rfl fun text _ rest _ => by
        rw [readField, readOptionalString_printText]
        rfl
  have credential : Follows readMember failed
      (token.toList.map fun payload => ("token", printChars payload))
      (draft ⟨messageId, replyingTo, path, data, error, token⟩) :=
    follows_optional .token (fun payload => { failed with token := payload.map Json.presence })
      (by decide) rfl rfl fun payload stored rest stops => by
        rw [readField, readsPayload payload (by simp [stored]) rest stops]
        rfl
  exact first.append ((((reply.append address).append payload).append failure).append credential)

theorem complete_draft (envelope : Envelope) : envelope.draft.complete = envelope.collapsed := by
  obtain ⟨messageId, replyingTo, path, data, error, token⟩ := envelope
  cases replyingTo <;> cases data <;> cases error <;> cases token <;> rfl

/-- **A message reads back**, but for payloads that are null. -/
theorem read_encode {envelope : Envelope} (plain : envelope.Plain) :
    read envelope.encode = .ok envelope.collapsed := by
  have loop := Json.members_entries (follows_entries plain) []
  rw [List.append_nil] at loop
  have chars : readChars envelope.encodeChars = .ok (envelope.draft.complete, []) := by
    rw [encodeChars_eq, readChars, skipBlank_of_not_blank '\x7b' _ rfl]
    show (Json.members readMember {} _).map _ = _
    rw [loop]
    rfl
  rw [read, encode, String.toList_ofList, chars, complete_draft]
  rfl

/-! ## What is read -/

/-- Payloads of a draft that are well-formed, not too deep and not null. -/
def Draft.Sound (draft : Draft) : Prop :=
  ∀ payload, draft.data = some (some payload) ∨ draft.token = some (some payload) →
    payload.Fine innerDepth ∧ payload ≠ .null

/-- A payload that is read and present is well-formed, not too deep and not null. -/
theorem readOptionalValue_fine {bound : Nat} {characters rest : List Char} {payload : Json}
    (reads : readOptionalValue bound characters = .ok (some payload, rest)) :
    payload.Fine bound ∧ payload ≠ .null := by
  unfold readOptionalValue at reads
  split at reads
  · obtain ⟨_, -, same⟩ := exists_of_map_ok reads
    simp at same
  · rename_i other
    obtain ⟨found, result, same⟩ := exists_of_map_ok reads
    obtain rfl : found.1 = payload := by simpa using congrArg Prod.fst same
    obtain ⟨fine, null⟩ := Json.readValue_fine result
    refine ⟨fine, fun isNull => ?_⟩
    have begins := null isNull
    have again : skipBlank (skipBlank characters) = skipBlank characters :=
      List.dropWhile_idempotent _ _
    rw [again] at begins
    obtain ⟨others, shape⟩ : ∃ others, skipBlank characters = 'n' :: others := by
      cases shape : skipBlank characters with
      | nil => simp [shape] at begins
      | cons first others => exact ⟨others, by simpa [shape] using begins⟩
    exact other others shape

theorem readField_sound {draft next : Draft} {field : Field} {characters rest : List Char}
    (sound : draft.Sound) (reads : readField draft field characters = .ok (next, rest)) :
    next.Sound := by
  cases field with
  | messageId | replyingTo | path | error =>
      obtain ⟨found, -, same⟩ := exists_of_map_ok reads
      obtain rfl := congrArg Prod.fst same
      exact sound
  | data =>
      obtain ⟨⟨found, after⟩, result, same⟩ := exists_of_map_ok reads
      obtain rfl := congrArg Prod.fst same
      rintro payload (now | token)
      · obtain rfl : found = some payload := by simpa using now
        exact readOptionalValue_fine result
      · exact sound payload (.inr token)
  | token =>
      obtain ⟨⟨found, after⟩, result, same⟩ := exists_of_map_ok reads
      obtain rfl := congrArg Prod.fst same
      rintro payload (data | now)
      · exact sound payload (.inl data)
      · obtain rfl : found = some payload := by simpa using now
        exact readOptionalValue_fine result

theorem readMember_sound {draft next : Draft} {name : String} {characters rest : List Char}
    (sound : draft.Sound) (reads : readMember draft name characters = .ok (next, rest)) :
    next.Sound := by
  unfold readMember at reads
  split at reads
  · split at reads
    · simp at reads
    split at reads
    · simp at reads
    · exact readField_sound sound reads
  · split at reads
    · simp at reads
    · obtain ⟨_, -, same⟩ := exists_of_map_ok reads
      obtain rfl := congrArg Prod.fst same
      exact sound

theorem readPositions_sound {draft next : Draft} {first : Bool} {fields : List Field}
    {characters rest : List Char} (sound : draft.Sound)
    (reads : readPositions draft first fields characters = .ok (next, rest)) : next.Sound := by
  induction fields generalizing draft first characters with
  | nil =>
      obtain ⟨_, -, same⟩ := exists_of_map_ok reads
      obtain rfl := congrArg Prod.fst same
      exact sound
  | cons field fields ih =>
      unfold readPositions at reads
      split at reads
      · simp at reads
      · obtain ⟨rfl, -⟩ : draft = next ∧ _ := by simpa using reads
        exact sound
      · dsimp only at reads
        split at reads
        · simp at reads
        split at reads
        · simp at reads
        · rename_i found
          exact ih (readField_sound sound found) reads

/-- **The payloads of a message that was read** are well-formed, not too deep and not null. -/
theorem payloads_of_read {text : String} {envelope : Envelope}
    (reads : read text = .ok envelope) :
    ∀ payload ∈ envelope.payloads, payload.Fine innerDepth ∧ payload ≠ .null := by
  have fresh : ({} : Draft).Sound := by rintro payload (data | token) <;> simp at *
  have complete : ∀ {draft : Draft}, draft.Sound →
      ∀ payload ∈ draft.complete.payloads, payload.Fine innerDepth ∧ payload ≠ .null := by
    intro draft sound payload member
    refine sound payload ?_
    simp only [payloads, Draft.complete, List.mem_append, Option.mem_toList] at member
    refine member.imp (fun data => ?_) (fun token => ?_)
    · cases stored : draft.data <;> simp_all
    · cases stored : draft.token <;> simp_all
  unfold read at reads
  split at reads
  · simp at reads
  · rename_i found result
    obtain rfl : found.1 = envelope := by
      unfold Json.finish at reads
      split at reads
      · simpa using reads
      · simp at reads
    unfold readChars at result
    split at result
    · obtain ⟨drafted, loop, rfl⟩ := exists_of_map_ok result
      exact complete (Json.members_keeps Draft.Sound (fun _ _ _ _ _ => readMember_sound) fresh loop)
    · obtain ⟨drafted, loop, rfl⟩ := exists_of_map_ok result
      exact complete (readPositions_sound fresh loop)
    · simp at result
    · simp at result

/-! ## There and back -/

/-- Without payloads that are null there is nothing to collapse. -/
theorem collapsed_eq {envelope : Envelope}
    (present : ∀ payload ∈ envelope.payloads, payload ≠ .null) : envelope.collapsed = envelope := by
  have kept : ∀ payload : Json, payload ≠ .null → payload.presence = some payload := by
    intro payload notNull
    cases payload <;> first | rfl | exact absurd rfl notNull
  obtain ⟨messageId, replyingTo, path, data, error, token⟩ := envelope
  have data' : data.bind Json.presence = data := by
    cases data with
    | none => rfl
    | some payload => exact kept payload (present payload (by simp [payloads]))
  have token' : token.bind Json.presence = token := by
    cases token with
    | none => rfl
    | some payload => exact kept payload (present payload (by simp [payloads]))
  simp only [collapsed, data', token']

/-- **Messages survive their text.**  Strings may be anything.

* A message whose payloads hold no binary number, but integers of 64 bits and objects whose
  members are in their order, and are no more than 126 containers deep, is written as a text that
  reads back as the same message, but that a payload that is null is absent.
* So a message that was read, and holds no binary number, is written as a text that reads back as
  the very same.
* And what such a text reads back as is written as the same text again, if no payload is null. -/
theorem round_trip :
    (∀ envelope : Envelope, envelope.Plain → read envelope.encode = .ok envelope.collapsed) ∧
      (∀ text envelope, read text = .ok envelope →
        (∀ payload ∈ envelope.payloads, payload.isWhole = true) →
          read envelope.encode = .ok envelope) ∧
      (∀ envelope : Envelope, envelope.Plain →
        (∀ payload ∈ envelope.payloads, payload ≠ .null) →
          (read envelope.encode).map encode = .ok envelope.encode) := by
  refine ⟨fun envelope plain => read_encode plain, fun text envelope reads whole => ?_,
    fun envelope plain present => ?_⟩
  · have payloads := payloads_of_read reads
    have plain : envelope.Plain := ⟨whole, fun payload member => (payloads payload member).1.formed,
      fun payload member => (payloads payload member).1.shallow⟩
    rw [read_encode plain, collapsed_eq fun payload member => (payloads payload member).2]
  · rw [read_encode plain, collapsed_eq present]
    rfl

/-- A message with control characters, quotes, a backslash that looks like an escape, the extreme
integers, and a token that is null. -/
def knotty : Envelope where
  messageId := "\x00\t\"\\/\x1f\x7f"
  replyingTo := some "n\u00fcll 😀"
  data := some (.object [
    ("", .array [.null, .array [], .number (.integer 18446744073709551615)]),
    ("\"", .number (.integer (-9223372036854775808))),
    ("a\n", .object [("\u00e9", .string "\\u0041")])])
  error := some ""
  token := some .null

/-- A text with blanks, unknown fields, escapes and members out of order. -/
def scrambled : String :=
  " \x7b \"data\" : [1, \x7b\"b\": -7, \"a\": \"\\ud83d\\ude00\"\x7d], " ++
    "\"old\": [1.5], \"path\" : \"a\\u0062\" \x7d"

/-- The same message as it is written. -/
def unscrambled : String :=
  "\x7b\"message_id\":\"\",\"path\":\"ab\",\"data\":[1,\x7b\"a\":\"😀\",\"b\":-7\x7d]\x7d"

theorem plain_knotty : knotty.Plain :=
  ⟨by decide +kernel, by decide +kernel, by decide +kernel⟩

theorem round_trip_knotty :
    (knotty.Plain ∧ read knotty.encode = .ok knotty.collapsed ∧
        knotty.token = some .null ∧ knotty.collapsed.token = none) ∧
      (∃ letter, read scrambled = .ok letter ∧
        (∀ payload ∈ letter.payloads, payload.isWhole = true) ∧
        letter.encode = unscrambled ∧
        read letter.encode = .ok letter) ∧
      (knotty.collapsed.Plain ∧ (∀ payload ∈ knotty.collapsed.payloads, payload ≠ .null) ∧
        (read knotty.collapsed.encode).map encode = .ok knotty.collapsed.encode) := by
  refine ⟨⟨plain_knotty, round_trip.1 knotty plain_knotty, rfl, rfl⟩, ?_, ?_⟩
  · have written : (read scrambled).toOption.map encode = some unscrambled := by
      decide +kernel
    have tame : (read scrambled).toOption.all (fun letter => letter.payloads.all Json.isWhole) =
        true := by decide +kernel
    cases reads : read scrambled with
    | error fault => simp [reads, Except.toOption] at written
    | ok letter =>
        have whole : ∀ payload ∈ letter.payloads, payload.isWhole = true := by
          simpa [reads, Except.toOption] using tame
        rw [reads] at written
        have text : letter.encode = unscrambled := Option.some.inj written
        exact ⟨letter, rfl, whole, text, round_trip.2.1 scrambled letter reads whole⟩
  · have plain : knotty.collapsed.Plain :=
      ⟨by decide +kernel, by decide +kernel, by decide +kernel⟩
    have present : ∀ payload ∈ knotty.collapsed.payloads, payload ≠ .null := by
      simp [payloads, collapsed, knotty, Json.presence, Json.isNull]
    exact ⟨plain, present, round_trip.2.2 knotty.collapsed plain present⟩

end Envelope

end Switchboard
