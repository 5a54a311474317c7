/-
# Switchboard.Proofs.EnvelopeForms -- every layout of a message is read as it

A message may be written as an object that lists its fields in any order, between other
members of any name and any well-formed value, or as the list of its six values; blanks
may stand anywhere (`Json.Enclosed`).  What has been read of it on the way is determined
by which fields have been taken (`Envelope.draftOf`), so both readers carry just the list
of these.

A field that occurs twice is noticed at its second name.  That the reader comes there at
all, or fails before, needs that every member before it is read or skipped to its end,
also where its value is not of the kind that its field admits (`readField_ends`).

* `readField_of_denotes`: a field is taken from every text of its value;
* `members_of_lists`, `readPositions_of_laid`, `members_of_twice`: what the two readers make of
  such an object, of such a list, and of an object with a field that occurs twice;
* `any_layout`: so every such object and every such list is read as the message, and no
  object in which a known field occurs twice is read.
-/
import Switchboard.Proofs.EnvelopeText
import Switchboard.Proofs.LaidOut

namespace Switchboard

set_option autoImplicit false

open Json (Blank Spells Quotable WellFormed Denotes Entry Laid Tail Ends Passes readValue
  readString readOptionalString readOptionalValue readNamed skipBlank skipBlank_append
  skipBlank_append_solid readText_of_spells readNamed_of_spells readNamed_ends
  wellFormed_of_denotes wellFormed_head members_ends exists_of_map_ok passes_of_wellFormed)
open Json.Literal (Stops)

/-- A text whose parts stand between two marks, with blanks around it. -/
def Json.Enclosed (opening closing : Char) (parts : List (List Char)) (text : String) : Prop :=
  ∃ lead inner trail, Blank lead ∧ Laid closing parts inner ∧ Blank trail ∧
    text.toList = lead ++ opening :: (inner ++ trail)

/-- Nothing but blanks may follow a value. -/
theorem Json.finish_blank {α : Type} {value : α} {trail : List Char} (blank : Blank trail) :
    Json.finish (value, trail) = .ok value := by
  have none : skipBlank (trail ++ []) = [] := skipBlank_append blank []
  rw [List.append_nil] at none
  rw [Json.finish, none]

namespace Envelope

/-! ## Fields and their values -/

/-- The name of a field. -/
def Field.name : Field → String
  | .messageId => "message_id"
  | .replyingTo => "replying_to"
  | .path => "path"
  | .data => "data"
  | .error => "error"
  | .token => "token"

theorem fieldOf_name (field : Field) : fieldOf field.name = some field := by
  cases field <;> decide

theorem fieldOf_of_ne {name : String} (unknown : ∀ field : Field, name ≠ field.name) :
    fieldOf name = none := by
  refine fieldOf_none name ?_
  simp only [List.mem_cons, List.not_mem_nil, or_false, not_or]
  exact ⟨unknown .messageId, unknown .replyingTo, unknown .path, unknown .data, unknown .error,
    unknown .token⟩

/-- What a field of a message is written as; null if it is absent. -/
def valueOf (envelope : Envelope) : Field → Json
  | .messageId => .string envelope.messageId
  | .replyingTo => (envelope.replyingTo.map .string).getD .null
  | .path => .string envelope.path
  | .data => envelope.data.getD .null
  | .error => (envelope.error.map .string).getD .null
  | .token => envelope.token.getD .null

/-- What a field is that is not written. -/
def Field.unset : Field → Json
  | .messageId => .string ""
  | .path => .string ""
  | _ => .null

/-- Whether a member has the name of a field, however it is spelt. -/
def Names (field : Field) (entry : Entry) : Prop := Spells field.name.toList entry.name

/-- A member that a message may be listed with: a field of it, or one of any other name. -/
def Admits (envelope : Envelope) (entry : Entry) : Prop :=
  (∃ field, Names field entry ∧ Denotes (envelope.valueOf field) entry.value) ∨
    ∃ name : String, (∀ field : Field, name ≠ field.name) ∧ Spells name.toList entry.name ∧
      WellFormed entry.value

/-- The members of an object that lists a message: its fields, each at most once, and any others.
A field may be missing if it is as it would be without. -/
structure Lists (envelope : Envelope) (entries : List Entry) : Prop where
  each : ∀ entry ∈ entries, envelope.Admits entry
  once : entries.Pairwise fun first second => ∀ field, ¬ (Names field first ∧ Names field second)
  omitted : ∀ field, (∀ entry ∈ entries, ¬ Names field entry) →
    envelope.valueOf field = field.unset

/-! ## What has been taken -/

/-- The draft of a message of which these fields have been read. -/
def draftOf (envelope : Envelope) (taken : List Field) : Draft where
  messageId := if .messageId ∈ taken then some envelope.messageId else none
  replyingTo := if .replyingTo ∈ taken then some envelope.replyingTo else none
  path := if .path ∈ taken then some envelope.path else none
  data := if .data ∈ taken then some envelope.data else none
  error := if .error ∈ taken then some envelope.error else none
  token := if .token ∈ taken then some envelope.token else none

theorem has_draftOf (envelope : Envelope) (taken : List Field) (field : Field) :
    (envelope.draftOf taken).has field = decide (field ∈ taken) := by
  cases field <;> simp only [Draft.has, draftOf] <;> split <;> simp_all

/-- A message whose payloads are kept as they are: well-formed, not too deep and not null. -/
structure Regular (envelope : Envelope) : Prop extends envelope.Plain where
  present : ∀ payload ∈ envelope.payloads, payload ≠ .null

/-- What has been taken is there, and what has not may be left out. -/
theorem getD_ite {α : Type} {taken : Prop} [Decidable taken] {value unset : α}
    (same : ¬ taken → value = unset) : (if taken then some value else none).getD unset = value := by
  split
  · rfl
  · rename_i missing
    exact (same missing).symm

theorem eq_none_of_text {value : Option String} (null : (value.map Json.string).getD .null = .null) :
    value = none := by
  cases value with
  | none => rfl
  | some text => simp at null

theorem eq_none_of_payload {value : Option Json} (present : ∀ payload ∈ value.toList, payload ≠ .null)
    (null : value.getD .null = .null) : value = none := by
  cases value with
  | none => rfl
  | some payload => exact absurd null (present payload (by simp))

/-- The fields taken make up the message if the others need not be written. -/
theorem complete_draftOf {envelope : Envelope} (regular : envelope.Regular) {taken : List Field}
    (others : ∀ field, field ∉ taken → envelope.valueOf field = field.unset) :
    (envelope.draftOf taken).complete = envelope := by
  obtain ⟨messageId, replyingTo, path, data, error, token⟩ := envelope
  have dataPresent : ∀ payload ∈ data.toList, payload ≠ .null :=
    fun payload member => regular.present payload (List.mem_append_left _ member)
  have tokenPresent : ∀ payload ∈ token.toList, payload ≠ .null :=
    fun payload member => regular.present payload (List.mem_append_right _ member)
  rw [Draft.complete, Envelope.mk.injEq]
  refine ⟨getD_ite fun missing => ?_, getD_ite fun missing => ?_, getD_ite fun missing => ?_,
    getD_ite fun missing => ?_, getD_ite fun missing => ?_, getD_ite fun missing => ?_⟩
  · exact Json.string.inj (others .messageId missing)
  · exact eq_none_of_text (others .replyingTo missing)
  · exact Json.string.inj (others .path missing)
  · exact eq_none_of_payload dataPresent (others .data missing)
  · exact eq_none_of_text (others .error missing)
  · exact eq_none_of_payload tokenPresent (others .token missing)

/-! ## Reading a field -/

section Reading

variable {lead rest : List Char}

theorem readString_of_denotes {value : String} {text : List Char} (blank : Blank lead)
    (denotes : Denotes (.string value) text) :
    readString (lead ++ (text ++ rest)) = .ok (value, rest) := by
  cases denotes with
  | string spells =>
      rw [readString, List.cons_append, skipBlank_append_solid blank rfl, List.append_assoc,
        List.singleton_append]
      simp [readText_of_spells spells]

theorem readOptionalString_of_denotes {value : Option String} {text : List Char}
    (blank : Blank lead) (denotes : Denotes ((value.map Json.string).getD .null) text) :
    readOptionalString (lead ++ (text ++ rest)) = .ok (value, rest) := by
  cases value with
  | none =>
      cases denotes with
      | null =>
          rw [readOptionalString, List.cons_append, skipBlank_append_solid blank rfl]
          rfl
  | some value =>
      cases denotes with
      | string spells =>
          rw [readOptionalString, List.cons_append, skipBlank_append_solid blank rfl,
            List.append_assoc, List.singleton_append]
          simp [readText_of_spells spells, Except.map]

/-- Only null begins with an `n`. -/
theorem eq_null_of_head {value : Json} {others : List Char} (denotes : Denotes value ('n' :: others)) :
    value = .null := by
  generalize shape : 'n' :: others = text at denotes
  cases denotes with
  | null => rfl
  | integer value =>
      obtain ⟨first, digits, printed, numeral⟩ := Json.printInt_head value
      rw [printed] at shape
      obtain rfl := (List.cons.inj shape).1
      simp [Json.Literal.isDigit] at numeral
  | _ => simp at shape

theorem readOptionalValue_of_denotes {value : Option Json} {text : List Char} {bound : Nat}
    (blank : Blank lead) (denotes : Denotes (value.getD .null) text)
    (good : ∀ payload ∈ value.toList,
      payload.isFormed = true ∧ payload.depth ≤ bound ∧ payload ≠ .null)
    (stops : Stops rest) : readOptionalValue bound (lead ++ (text ++ rest)) = .ok (value, rest) := by
  obtain ⟨first, others, rfl, solid, -⟩ := wellFormed_head (wellFormed_of_denotes denotes)
  rw [readOptionalValue, List.cons_append, skipBlank_append_solid blank solid]
  cases value with
  | none =>
      cases denotes with
      | null => rfl
  | some payload =>
      obtain ⟨formed, shallow, present⟩ := good payload (by simp)
      have read := Json.readValue_of_denotes denotes formed shallow rest stops
      split
      · rename_i begins
        obtain ⟨rfl, -⟩ := List.cons.inj begins
        exact absurd (eq_null_of_head denotes) present
      · rw [List.cons_append] at read
        simp only [Option.getD_some] at read
        rw [read]
        rfl

/-- **A field of a message is taken**, whatever its layout. -/
theorem readField_of_denotes {envelope : Envelope} (regular : envelope.Regular) (field : Field)
    {text : List Char} (taken : List Field) (blank : Blank lead)
    (denotes : Denotes (envelope.valueOf field) text) (stops : Stops rest) :
    readField (envelope.draftOf taken) field (lead ++ (text ++ rest)) =
      .ok (envelope.draftOf (field :: taken), rest) := by
  have good : ∀ payload ∈ envelope.payloads,
      payload.isFormed = true ∧ payload.depth ≤ innerDepth ∧ payload ≠ .null :=
    fun payload member =>
      ⟨regular.formed payload member, regular.shallow payload member, regular.present payload member⟩
  cases field with
  | messageId | path =>
      rw [readField, readString_of_denotes blank denotes]
      simp [Except.map, draftOf]
  | replyingTo | error =>
      rw [readField, readOptionalString_of_denotes blank denotes]
      simp [Except.map, draftOf]
  | data =>
      rw [readField, readOptionalValue_of_denotes blank denotes
        (fun payload member => good payload (List.mem_append_left _ member)) stops]
      simp [Except.map, draftOf]
  | token =>
      rw [readField, readOptionalValue_of_denotes blank denotes
        (fun payload member => good payload (List.mem_append_right _ member)) stops]
      simp [Except.map, draftOf]

end Reading

/-! ## Objects and lists -/

section Layouts

variable {rest : List Char}

theorem readMember_of_names {draft : Draft} (field : Field) (entry : Entry)
    (unread : draft.has field = false) :
    readMember draft field.name (entry.afterName rest) =
      readField draft field (entry.lead ++ (entry.value ++ rest)) := by
  rw [readMember, fieldOf_name, entry.expectColon_afterName]
  simp [unread]

theorem readMember_of_unknown {draft : Draft} {name : String} (unknown : fieldOf name = none)
    (entry : Entry) (wellFormed : WellFormed entry.value) (stops : Stops rest) :
    readMember draft name (entry.afterName rest) = .ok (draft, rest) := by
  rw [readMember, unknown, entry.expectColon_afterName]
  simp only [Json.skipValue_of_wellFormed entry.leadBlank wellFormed stops]
  rfl

/-- No text names two fields, or a field and something else. -/
theorem name_eq_of_names {field : Field} {name : String} {entry : Entry} (names : Names field entry)
    (spells : Spells name.toList entry.name) : field.name = name := by
  have first := readText_of_spells names [] []
  have second := readText_of_spells spells [] []
  rw [first] at second
  simpa using second

/-- The members still to come when these fields have been taken: none of these, each other at most
once, and none missing that must be written. -/
structure Continues (envelope : Envelope) (taken : List Field) (entries : List Entry) : Prop where
  each : ∀ entry ∈ entries, envelope.Admits entry
  once : entries.Pairwise fun first second => ∀ field, ¬ (Names field first ∧ Names field second)
  gone : ∀ field ∈ taken, ∀ entry ∈ entries, ¬ Names field entry
  omitted : ∀ field, field ∉ taken → (∀ entry ∈ entries, ¬ Names field entry) →
    envelope.valueOf field = field.unset

section Continues

variable {envelope : Envelope} {taken : List Field} {entry : Entry} {entries : List Entry}

theorem Lists.continues (lists : envelope.Lists entries) : envelope.Continues [] entries :=
  ⟨lists.each, lists.once, by simp, fun field _ => lists.omitted field⟩

/-- A field that comes is taken, and does not come again. -/
theorem Continues.take (continues : envelope.Continues taken (entry :: entries)) {field : Field}
    (names : Names field entry) : envelope.Continues (field :: taken) entries := by
  obtain ⟨each, once, gone, omitted⟩ := continues
  obtain ⟨alone, once⟩ := List.pairwise_cons.1 once
  refine ⟨fun other inside => each other (List.mem_cons_of_mem _ inside), once, ?_, ?_⟩
  · intro other member next inside
    rcases List.mem_cons.1 member with rfl | before
    · exact fun again => alone next inside other ⟨names, again⟩
    · exact gone other before next (List.mem_cons_of_mem _ inside)
  · intro other absent none
    simp only [List.mem_cons, not_or] at absent
    refine omitted other absent.2 fun next inside again => ?_
    rcases List.mem_cons.1 inside with rfl | after
    · have same := fieldOf_name other
      rw [← name_eq_of_names names again, fieldOf_name, Option.some.injEq] at same
      exact absent.1 same.symm
    · exact none next after again

/-- What is no field changes nothing. -/
theorem Continues.skip (continues : envelope.Continues taken (entry :: entries))
    (other : ∀ field, ¬ Names field entry) : envelope.Continues taken entries := by
  obtain ⟨each, once, gone, omitted⟩ := continues
  refine ⟨fun next inside => each next (List.mem_cons_of_mem _ inside), once.of_cons, ?_, ?_⟩
  · exact fun field member next inside => gone field member next (List.mem_cons_of_mem _ inside)
  · intro field absent none
    refine omitted field absent fun next inside names => ?_
    rcases List.mem_cons.1 inside with rfl | after
    · exact other field names
    · exact none next after names

/-- **One member of an object that lists a message** is taken or skipped. -/
theorem Continues.step (continues : envelope.Continues taken (entry :: entries))
    (regular : envelope.Regular) (stops : Stops rest) :
    ∃ after, envelope.Continues after entries ∧
      readNamed readMember (envelope.draftOf taken) (entry.inner ++ rest) =
        .ok (envelope.draftOf after, rest) := by
  rcases continues.each entry List.mem_cons_self with
    ⟨field, names, denotes⟩ | ⟨name, unknown, spells, wellFormed⟩
  · have fresh : field ∉ taken :=
      fun member => continues.gone field member entry List.mem_cons_self names
    have unread : (envelope.draftOf taken).has field = false := by
      rw [has_draftOf]
      simpa using fresh
    refine ⟨field :: taken, continues.take names, ?_⟩
    rw [readNamed_of_spells names, readMember_of_names field entry unread]
    exact readField_of_denotes regular field taken entry.leadBlank denotes stops
  · have other : ∀ field, ¬ Names field entry :=
      fun field names => unknown field (name_eq_of_names names spells).symm
    refine ⟨taken, continues.skip other, ?_⟩
    rw [readNamed_of_spells spells]
    exact readMember_of_unknown (fieldOf_of_ne unknown) entry wellFormed stops

/-- **An object that lists a message is read as it.** -/
theorem members_of_lists (regular : envelope.Regular) (lists : envelope.Lists entries)
    {text : List Char} (laid : Laid '\x7d' (entries.map Entry.text) text) (rest : List Char) :
    ∃ draft, draft.complete = envelope ∧
      Json.members readMember {} (text ++ rest) = .ok (draft, rest) := by
  let holds : List Entry → Draft → Prop := fun others draft =>
    ∃ taken, draft = envelope.draftOf taken ∧ envelope.Continues taken others
  have step : ∀ entry others draft, holds (entry :: others) draft → ∀ rest, Stops rest →
      Ends False (holds others) rest (readNamed readMember draft (entry.inner ++ rest)) := by
    rintro entry others draft ⟨taken, rfl, continues⟩ rest stops
    obtain ⟨after, remains, read⟩ := continues.step regular stops
    exact .of_ok (envelope.draftOf after) ⟨after, rfl, remains⟩ read
  have begins : holds entries {} := ⟨[], rfl, lists.continues⟩
  obtain ⟨draft, ⟨taken, rfl, finished⟩, loop⟩ :=
    (members_ends step laid {} begins rest).exists_ok
  refine ⟨envelope.draftOf taken, complete_draftOf regular fun field absent => ?_, loop⟩
  exact finished.omitted field absent (by simp)

end Continues

theorem readPositions_comma {draft : Draft} {field : Field} {fields : List Field}
    {gap lead : List Char} {first : Char} (before : Blank gap) (after : Blank lead)
    (solid : Json.isBlank first = false) (notClosing : first ≠ ']') :
    readPositions draft false (field :: fields) (gap ++ ',' :: (lead ++ first :: rest)) =
      (readField draft field (first :: rest)).bind
        fun found => readPositions found.1 false fields found.2 := by
  rw [readPositions, skipBlank_append_solid before rfl]
  split
  · simp_all
  · simp_all
  · simp only [Bool.false_eq_true, if_false, skipBlank_append_solid after solid]
    have opens : ∀ {others : List Char}, first :: rest ≠ ']' :: others :=
      fun same => notClosing (List.cons.inj same).1
    split
    · rename_i refused
      split at refused <;> simp_all
    · rename_i value found
      have same : value = first :: rest := by
        split at found <;> simp_all
      rw [same]
      cases readField draft field (first :: rest) <;> rfl

theorem readPositions_first {draft : Draft} {field : Field} {fields : List Field}
    {lead : List Char} {first : Char} (blank : Blank lead) (solid : Json.isBlank first = false)
    (notClosing : first ≠ ']') :
    readPositions draft true (field :: fields) (lead ++ first :: rest) =
      (readField draft field (first :: rest)).bind
        fun found => readPositions found.1 false fields found.2 := by
  rw [readPositions, skipBlank_append_solid blank solid]
  split
  · simp_all
  · rename_i closing
    exact absurd (List.cons.inj closing).1 notClosing
  · simp only [if_true]
    cases readField draft field (first :: rest) <;> rfl

section Positions

variable {envelope : Envelope} {fields : List Field} {parts : List (List Char)} {text : List Char}

/-- The values of a list after the first are taken in their order. -/
theorem readPositions_of_tail (regular : envelope.Regular) (tail : Tail ']' parts text)
    (each : List.Forall₂ (fun field part => Denotes (envelope.valueOf field) part) fields parts)
    (taken : List Field) (rest : List Char) :
    readPositions (envelope.draftOf taken) false fields (text ++ rest) =
      .ok (envelope.draftOf (fields.reverse ++ taken), rest) := by
  induction tail generalizing fields taken with
  | close blank =>
      cases each with
      | nil =>
          rw [readPositions, expectListEnd, List.append_assoc, List.singleton_append,
            skipBlank_append_solid blank rfl]
          rfl
  | next before after others ih =>
      cases each with
      | @cons field _ fields _ denotes each =>
          obtain ⟨first, more, rfl, solid, notClosing⟩ :=
            wellFormed_head (wellFormed_of_denotes denotes)
          have stops := others.stops (by decide) rest
          have read := readField_of_denotes regular field taken Json.blank_nil denotes stops
          simp only [List.append_assoc, List.cons_append, List.nil_append] at read ⊢
          rw [readPositions_comma before after solid notClosing, read, Except.bind, ih each]
          simp

/-- **The list of a message's values is read as it.** -/
theorem readPositions_of_laid (regular : envelope.Regular) (laid : Laid ']' parts text)
    (each : List.Forall₂ (fun field part => Denotes (envelope.valueOf field) part) order parts)
    (rest : List Char) :
    ∃ draft, draft.complete = envelope ∧
      readPositions {} true order (text ++ rest) = .ok (draft, rest) := by
  cases laid with
  | empty => cases each
  | filled blank tail =>
      cases each with
      | cons denotes each =>
          obtain ⟨first, more, rfl, solid, notClosing⟩ :=
            wellFormed_head (wellFormed_of_denotes denotes)
          have stops := tail.stops (by decide) rest
          have read := readField_of_denotes regular .messageId [] Json.blank_nil denotes stops
          have others := readPositions_of_tail regular tail each [.messageId] rest
          simp only [List.append_assoc, List.cons_append, List.nil_append] at read ⊢
          let all : List Field := [.token, .error, .data, .path, .replyingTo, .messageId]
          refine ⟨envelope.draftOf all, complete_draftOf regular ?_, ?_⟩
          · intro field absent
            cases field <;> simp [all] at absent
          · rw [order, readPositions_first blank solid notClosing]
            show ((readField (envelope.draftOf []) _ _).bind _) = _
            rw [read]
            exact others

end Positions

end Layouts

/-! ## A field that occurs twice -/

section Twice

variable {lead rest : List Char} {draft next : Draft} {field : Field}

/-- A string that is read where one is expected is a value that is read. -/
theorem readValue_of_readString {bound : Nat} {characters : List Char} {text : String}
    (reads : readString characters = .ok (text, rest)) :
    readValue bound characters = .ok (.string text, rest) := by
  rw [readString] at reads
  split at reads
  · rename_i inner shape
    cases bound <;> rw [readValue, shape] <;> simp [Json.readScalar, reads, Except.map]
  · simp at reads

theorem exists_readValue_of_readOptionalString {bound : Nat} {characters : List Char}
    {text : Option String} (reads : readOptionalString characters = .ok (text, rest)) :
    ∃ value, readValue bound characters = .ok (value, rest) := by
  rw [readOptionalString] at reads
  split at reads
  · rename_i inner shape
    obtain ⟨after, word, same⟩ := exists_of_map_ok reads
    obtain rfl := congrArg Prod.snd same
    refine ⟨.null, ?_⟩
    cases bound <;> rw [readValue, shape] <;> simp [Json.readScalar, word, Except.map]
  · rename_i inner shape
    obtain ⟨found, read, same⟩ := exists_of_map_ok reads
    obtain rfl := congrArg Prod.snd same
    refine ⟨.string found.1, ?_⟩
    cases bound <;> rw [readValue, shape] <;> simp [Json.readScalar, read, Except.map]
  · simp at reads

theorem exists_readValue_of_readOptionalValue {bound : Nat} {characters : List Char}
    {payload : Option Json} (reads : readOptionalValue bound characters = .ok (payload, rest)) :
    ∃ value, readValue bound characters = .ok (value, rest) := by
  have again : skipBlank (skipBlank characters) = skipBlank characters :=
    List.dropWhile_idempotent _ _
  rw [readOptionalValue] at reads
  split at reads
  · rename_i inner shape
    obtain ⟨after, word, same⟩ := exists_of_map_ok reads
    obtain rfl := congrArg Prod.snd same
    refine ⟨.null, ?_⟩
    cases bound <;> rw [readValue, shape] <;> simp [Json.readScalar, word, Except.map]
  · obtain ⟨found, read, same⟩ := exists_of_map_ok reads
    obtain rfl := congrArg Prod.snd same
    refine ⟨found.1, ?_⟩
    cases bound <;> rw [readValue, again, ← readValue] at read <;> exact read

/-- What a field is read from is a value that is read, and the field counts as read then. -/
theorem exists_readValue_of_readField {characters : List Char}
    (reads : readField draft field characters = .ok (next, rest)) :
    (∃ value, readValue innerDepth characters = .ok (value, rest)) ∧
      ∀ other, next.has other = (draft.has other || decide (other = field)) := by
  cases field with
  | messageId | path =>
      obtain ⟨found, read, same⟩ := exists_of_map_ok reads
      obtain ⟨rfl, rfl⟩ := Prod.mk.inj same
      exact ⟨⟨_, readValue_of_readString read⟩, by intro other; cases other <;> simp [Draft.has]⟩
  | replyingTo | error =>
      obtain ⟨found, read, same⟩ := exists_of_map_ok reads
      obtain ⟨rfl, rfl⟩ := Prod.mk.inj same
      exact ⟨exists_readValue_of_readOptionalString read,
        by intro other; cases other <;> simp [Draft.has]⟩
  | data | token =>
      obtain ⟨found, read, same⟩ := exists_of_map_ok reads
      obtain ⟨rfl, rfl⟩ := Prod.mk.inj same
      exact ⟨exists_readValue_of_readOptionalValue read,
        by intro other; cases other <;> simp [Draft.has]⟩

/-- A field is read to the end of its value, or fails. -/
theorem readField_ends {text : List Char} (blank : Blank lead) (wellFormed : WellFormed text)
    (stops : Stops rest) :
    Ends True (fun next => ∀ other, next.has other = (draft.has other || decide (other = field)))
      rest (readField draft field (lead ++ (text ++ rest))) := by
  cases read : readField draft field (lead ++ (text ++ rest)) with
  | error fault => exact trivial
  | ok found =>
      obtain ⟨⟨value, reads⟩, has⟩ := exists_readValue_of_readField read
      rw [Json.readValue_append blank] at reads
      have passes : Passes innerDepth text := passes_of_wellFormed wellFormed
      have ends := passes rest stops
      rw [reads] at ends
      exact ⟨has, ends.2⟩

/-- A member is read to its end, or fails; what has been read stays so. -/
theorem readMember_ends (field : Field) {entry : Entry} (wellFormed : WellFormed entry.value)
    (name : String) (stops : Stops rest) :
    Ends True (fun next => (draft.has field = true → next.has field = true) ∧
        (name = field.name → next.has field = true)) rest
      (readMember draft name (entry.afterName rest)) := by
  rw [readMember, entry.expectColon_afterName]
  cases known : fieldOf name with
  | none =>
      simp only [Json.skipValue_of_wellFormed entry.leadBlank wellFormed stops]
      refine ⟨⟨id, ?_⟩, rfl⟩
      rintro rfl
      simp [fieldOf_name] at known
  | some found =>
      dsimp only
      split
      · exact trivial
      · refine (readField_ends entry.leadBlank wellFormed stops).mono fun next has => ?_
        rw [has field]
        refine ⟨fun read => by simp [read], ?_⟩
        rintro rfl
        rw [fieldOf_name, Option.some.injEq] at known
        simp [known]

/-- A field that has been read is not read again. -/
theorem readNamed_again {entry : Entry} (names : Names field entry) (read : draft.has field = true) :
    readNamed readMember draft (entry.inner ++ rest) = .error .mismatched := by
  rw [readNamed_of_spells names, readMember, fieldOf_name]
  simp [read]

/-- **An object in which a field occurs twice is not read**, whatever else it holds. -/
theorem members_of_twice {entries : List Entry}
    (wellFormed : ∀ entry ∈ entries, Quotable entry.name ∧ WellFormed entry.value)
    {first second : Entry} (twice : [first, second].Sublist entries) (firstNames : Names field first)
    (secondNames : Names field second) {text : List Char}
    (laid : Laid '\x7d' (entries.map Entry.text) text) (rest : List Char) :
    ∃ fault, Json.members readMember {} (text ++ rest) = .error fault := by
  -- either the field has been read and comes again, or it comes twice
  let holds : List Entry → Draft → Prop := fun others draft =>
    others ⊆ entries ∧ (draft.has field = true ∧ second ∈ others ∨ [first, second].Sublist others)
  have step : ∀ entry others draft, holds (entry :: others) draft → ∀ rest, Stops rest →
      Ends True (holds others) rest (readNamed readMember draft (entry.inner ++ rest)) := by
    rintro entry others draft ⟨inside, comes⟩ rest stops
    have here := wellFormed entry (inside List.mem_cons_self)
    have remains : others ⊆ entries := fun _ later => inside (List.mem_cons_of_mem _ later)
    rcases comes with ⟨read, member⟩ | sublist
    · rcases List.mem_cons.1 member with rfl | later
      · rw [readNamed_again secondNames read]
        exact trivial
      · refine readNamed_ends here.1 rest fun name => ?_
        refine (readMember_ends field here.2 name stops).mono fun next has => ?_
        exact ⟨remains, .inl ⟨has.1 read, later⟩⟩
    · cases sublist with
      | cons _ later =>
          refine readNamed_ends here.1 rest fun name => ?_
          refine (readMember_ends field here.2 name stops).mono fun next _ => ?_
          exact ⟨remains, .inr later⟩
      | cons_cons _ later =>
          rw [readNamed_of_spells firstNames]
          refine (readMember_ends field here.2 field.name stops).mono fun next has => ?_
          exact ⟨remains, .inl ⟨has.2 rfl, later.subset List.mem_cons_self⟩⟩
  have begins : holds entries {} := ⟨List.Subset.refl _, .inr twice⟩
  have ends := members_ends step laid {} begins rest
  cases result : Json.members readMember {} (text ++ rest) with
  | error fault => exact ⟨fault, rfl⟩
  | ok found =>
      rw [result] at ends
      obtain ⟨⟨-, comes⟩, -⟩ := ends
      simp at comes

end Twice

/-! ## Whole texts -/

/-- **Every layout of a message is read as it**: as an object that lists its fields in any order,
with blanks anywhere and other members in between, and as the list of its values.  No object in
which a field occurs twice is read. -/
theorem any_layout :
    (∀ envelope : Envelope, envelope.Regular →
      (∀ entries text, envelope.Lists entries →
        Json.Enclosed '\x7b' '\x7d' (entries.map Entry.text) text → read text = .ok envelope) ∧
      (∀ parts text,
        List.Forall₂ (fun field part => Denotes (envelope.valueOf field) part)
          [.messageId, .replyingTo, .path, .data, .error, .token] parts →
        Json.Enclosed '[' ']' parts text → read text = .ok envelope)) ∧
    (∀ entries text field first second,
      (∀ entry ∈ entries, Quotable entry.name ∧ WellFormed entry.value) →
      [first, second].Sublist entries → Names field first → Names field second →
      Json.Enclosed '\x7b' '\x7d' (entries.map Entry.text) text →
      ∃ fault, read text = .error fault) := by
  refine ⟨fun envelope regular => ⟨?_, ?_⟩, ?_⟩
  · rintro entries text lists ⟨lead, inner, trail, before, laid, after, shape⟩
    obtain ⟨draft, complete, loop⟩ := members_of_lists regular lists laid trail
    have chars : readChars text.toList = .ok (envelope, trail) := by
      rw [readChars, shape, skipBlank_append_solid before rfl]
      simp [loop, complete, Except.map]
    rw [read, chars]
    exact Json.finish_blank after
  · rintro parts text each ⟨lead, inner, trail, before, laid, after, shape⟩
    obtain ⟨draft, complete, loop⟩ := readPositions_of_laid regular laid each trail
    have chars : readChars text.toList = .ok (envelope, trail) := by
      rw [readChars, shape, skipBlank_append_solid before rfl]
      simp [loop, complete, Except.map]
    rw [read, chars]
    exact Json.finish_blank after
  · rintro entries text field first second wellFormed twice firstNames secondNames
      ⟨lead, inner, trail, before, laid, after, shape⟩
    obtain ⟨fault, loop⟩ := members_of_twice wellFormed twice firstNames secondNames laid trail
    have chars : readChars text.toList = .error fault := by
      rw [readChars, shape, skipBlank_append_solid before rfl]
      simp [loop, Except.map]
    exact ⟨fault, by rw [read, chars]⟩

/-- A message with an identifier and an object as its data. -/
def laden : Envelope where
  messageId := "é"
  data := some (.object [("a", .array [.number (.integer 1), .null]), ("b", .bool true)])

theorem laden_regular : laden.Regular :=
  ⟨⟨by decide, by decide, by decide⟩, by simp [laden, payloads]⟩

/-- The members of its data, the other way round. -/
def ladenMembers : List ((String × Json) × Entry) :=
  [(("b", .bool true), ⟨['b'], [], [], ['t', 'r', 'u', 'e'], by decide, by decide⟩),
    (("a", .array [.number (.integer 1), .null]),
      ⟨['a'], [], [' '], ['[', '1', ' ', ',', 'n', 'u', 'l', 'l', ']'], by decide, by decide⟩)]

/-- Members that list it, its data before its identifier, between others that no reader keeps. -/
def ladenEntries : List Entry :=
  [⟨['x'], [' '], [' '], ['[', '[', '1', 'e', '9', '9', '9', ']', ']'], by decide, by decide⟩,
    ⟨['d', 'a', 't', '\\', 'u', '0', '0', '6', '1'], [], ['\n'],
      '\x7b' :: (((ladenMembers.map fun member => member.2.text).intersperse [',']).flatten ++ ['\x7d']),
      by decide, by decide⟩,
    ⟨['e', 'r', 'r', 'o', 'r'], [], [], ['n', 'u', 'l', 'l'], by decide, by decide⟩,
    ⟨['x'], [], [], ['"', '\\', 'u', 'D', '8', '0', '0', '"'], by decide, by decide⟩,
    ⟨['m', 'e', 's', 's', 'a', 'g', 'e', '_', 'i', 'd'], ['\t'], [],
      ['"', '\\', 'u', '0', '0', 'E', '9', '"'], by decide, by decide⟩]

theorem laden_data :
    Denotes (laden.valueOf .data) ('\x7b' ::
      (((ladenMembers.map fun member => member.2.text).intersperse [',']).flatten ++ ['\x7d'])) := by
  have items : Denotes (.array [.number (.integer 1), .null])
      ['[', '1', ' ', ',', 'n', 'u', 'l', 'l', ']'] := by
    have space : Blank [' '] := by decide
    let items : List (Json × List Char) := [(.number (.integer 1), ['1']), (.null, ['n', 'u', 'l', 'l'])]
    have laid : Laid ']' (items.map Prod.snd) _ :=
      .filled Json.blank_nil (.next space Json.blank_nil (.close Json.blank_nil))
    have each : ∀ item ∈ items, Denotes item.1 item.2 := by
      simp only [items, List.forall_mem_cons, List.not_mem_nil, false_imp_iff, implies_true, and_true]
      exact ⟨.integer 1, .null⟩
    exact .array laid each
  have laid : Laid '\x7d' (ladenMembers.map fun member => member.2.text) _ :=
    .filled Json.blank_nil (.next Json.blank_nil Json.blank_nil (.close Json.blank_nil))
  refine .object laid ?_ ?_ (.swap _ _ _)
  · simp only [ladenMembers, List.forall_mem_cons, List.not_mem_nil, false_imp_iff, implies_true,
      and_true]
    exact ⟨Json.spells_of_plain (by decide), Json.spells_of_plain (by decide)⟩
  · simp only [ladenMembers, List.forall_mem_cons, List.not_mem_nil, false_imp_iff, implies_true,
      and_true]
    exact ⟨.true, items⟩

/-- The field that a member's name is read as. -/
def fieldNamed (entry : Entry) : Option Field :=
  match Json.readText [] (entry.name ++ ['"']) with
  | .error _ => none
  | .ok found => fieldOf found.1

theorem fieldNamed_of_names {field : Field} {entry : Entry} (names : Names field entry) :
    fieldNamed entry = some field := by
  rw [fieldNamed, readText_of_spells names]
  simp [fieldOf_name]

/-- A list in a list, with a number that has no value. -/
theorem wellFormed_overflow : WellFormed ['[', '[', '1', 'e', '9', '9', '9', ']', ']'] := by
  have sign : ([] : List Char) ∈ [[], ['-']] := by decide
  have one : Json.Whole ['1'] := .digits ⟨by simp, by simp [Json.Literal.isDigit]⟩ (by simp)
  have power : Json.Exponent ('e' :: ([] ++ ['9', '9', '9'])) :=
    .digits (by simp) (by simp) ⟨by simp, by simp [Json.Literal.isDigit]⟩
  have number : WellFormed ['1', 'e', '9', '9', '9'] := .number (.parts sign one .none power)
  have inner : Laid ']' [['1', 'e', '9', '9', '9']] _ :=
    .filled Json.blank_nil (.close Json.blank_nil)
  have list : WellFormed ['[', '1', 'e', '9', '9', '9', ']'] :=
    .array inner (by simpa using number)
  have outer : Laid ']' [['[', '1', 'e', '9', '9', '9', ']']] _ :=
    .filled Json.blank_nil (.close Json.blank_nil)
  exact .array outer (by simpa using list)

/-- A string with a surrogate that has no partner. -/
theorem wellFormed_lone : WellFormed ['"', '\\', 'u', 'D', '8', '0', '0', '"'] := by
  have digits : Json.Digits 0xD800 ['D', '8', '0', '0'] := by
    show ['D', '8', '0', '0'].map Char.toLower = Text.Hex.fixed 4 0xD800
    decide
  exact .string (.unit (by decide) digits .nil)

theorem writes_letter {character : Char} (member : character ∈ ['a', 'd', 'h', 'p', 't']) :
    Json.Writes character [character] := by
  simp only [List.mem_cons, List.not_mem_nil, or_false] at member
  rcases member with rfl | rfl | rfl | rfl | rfl <;>
    exact .plain (by decide) (by decide) (by decide)

theorem writes_escaped : Json.Writes 'a' ['\\', 'u', '0', '0', '6', '1'] := by
  have digits : Json.Digits 'a'.toNat ['0', '0', '6', '1'] := by
    show ['0', '0', '6', '1'].map Char.toLower = Text.Hex.fixed 4 'a'.toNat
    decide
  exact .unit (by decide) digits

/-- The name of the data, with one letter escaped. -/
theorem spells_data : Spells "data".toList ['d', 'a', 't', '\\', 'u', '0', '0', '6', '1'] :=
  .cons (writes_letter (by decide)) (.cons (writes_letter (by decide))
    (.cons (writes_letter (by decide)) (.cons writes_escaped .nil)))

/-- The name of the path, with one letter escaped. -/
theorem spells_path : Spells "path".toList ['p', '\\', 'u', '0', '0', '6', '1', 't', 'h'] :=
  .cons (writes_letter (by decide)) (.cons writes_escaped
    (.cons (writes_letter (by decide)) (.cons (writes_letter (by decide)) .nil)))

theorem laden_identifier :
    Denotes (laden.valueOf .messageId) ['"', '\\', 'u', '0', '0', 'E', '9', '"'] := by
  have digits : Json.Digits 'é'.toNat ['0', '0', 'E', '9'] := by
    show ['0', '0', 'E', '9'].map Char.toLower = Text.Hex.fixed 4 'é'.toNat
    decide
  have body : Spells "é".toList (['\\', 'u', '0', '0', 'E', '9'] ++ []) :=
    .cons (.unit (by decide) digits) .nil
  exact .string body

theorem laden_lists : laden.Lists ladenEntries := by
  have x : Spells "x".toList ['x'] := Json.spells_of_plain (by decide)
  have data : Names .data ladenEntries[1] := spells_data
  have error : Names .error ladenEntries[2] := Json.spells_of_plain (by decide)
  have identifier : Names .messageId ladenEntries[4] := Json.spells_of_plain (by decide)
  have unknown : ∀ field : Field, "x" ≠ field.name := by
    intro field
    cases field <;> decide
  refine ⟨?_, ?_, ?_⟩
  · simp only [ladenEntries, List.forall_mem_cons, List.not_mem_nil, false_imp_iff, implies_true,
      and_true]
    exact ⟨.inr ⟨"x", unknown, x, wellFormed_overflow⟩, .inl ⟨.data, data, laden_data⟩,
      .inl ⟨.error, error, .null⟩, .inr ⟨"x", unknown, x, wellFormed_lone⟩,
      .inl ⟨.messageId, identifier, laden_identifier⟩⟩
  · have distinct : ladenEntries.Pairwise fun first second =>
        fieldNamed first = none ∨ fieldNamed first ≠ fieldNamed second := by
      decide +kernel
    refine distinct.imp fun {first second} differ field both => ?_
    rw [fieldNamed_of_names both.1, fieldNamed_of_names both.2] at differ
    simp at differ
  · intro field missing
    cases field with
    | messageId => exact absurd identifier (missing _ (by simp))
    | data => exact absurd data (missing _ (by simp))
    | error => exact absurd error (missing _ (by simp))
    | replyingTo | path | token => rfl

/-- The values of the message in their order. -/
def ladenParts : List (List Char) :=
  [['"', '\\', 'u', '0', '0', 'E', '9', '"'], ['n', 'u', 'l', 'l'], ['"', '"'],
    '\x7b' :: (((ladenMembers.map fun member => member.2.text).intersperse [',']).flatten ++ ['\x7d']),
    ['n', 'u', 'l', 'l'], ['n', 'u', 'l', 'l']]

/-- Members in which the path occurs twice, once with a letter escaped. -/
def twicePathed : List Entry :=
  [⟨['p', 'a', 't', 'h'], [], [], ['[', '[', '1', 'e', '9', '9', '9', ']', ']'], by decide, by decide⟩,
    ⟨['p', '\\', 'u', '0', '0', '6', '1', 't', 'h'], [], [], ['"', '"'], by decide, by decide⟩]

theorem any_layout_laden :
    read (" \x7b\"x\" : [[1e999]],\"dat\\u0061\":\n\x7b\"b\":true,\"a\": [1 ,null]\x7d," ++
      "\"error\":null , \"x\":\"\\uD800\",\"message_id\"\t:\"\\u00E9\"\x7d ") = .ok laden ∧
    read "[\"\\u00E9\", null,\"\",\x7b\"b\":true,\"a\": [1 ,null]\x7d,null,null]" = .ok laden ∧
    ∃ fault, read "\x7b\"path\":[[1e999]],\"p\\u0061th\":\"\"\x7d" = .error fault := by
  have space : Blank [' '] := by decide
  have nothing : Spells "".toList [] := .nil
  obtain ⟨object, list⟩ := any_layout.1 laden laden_regular
  refine ⟨object ladenEntries _ laden_lists ?_, list ladenParts _ ?_ ?_, ?_⟩
  · have laid : Laid '\x7d' (ladenEntries.map Entry.text) _ :=
      .filled Json.blank_nil (.next Json.blank_nil Json.blank_nil (.next Json.blank_nil
        Json.blank_nil (.next space space (.next Json.blank_nil Json.blank_nil
          (.close Json.blank_nil)))))
    exact ⟨[' '], _, [' '], space, laid, space, by decide +kernel⟩
  · exact .cons laden_identifier (.cons .null (.cons (.string nothing) (.cons laden_data
      (.cons .null (.cons .null .nil)))))
  · have laid : Laid ']' ladenParts _ :=
      .filled Json.blank_nil (.next Json.blank_nil space (.next Json.blank_nil Json.blank_nil
        (.next Json.blank_nil Json.blank_nil (.next Json.blank_nil Json.blank_nil
          (.next Json.blank_nil Json.blank_nil (.close Json.blank_nil))))))
    exact ⟨[], _, [], Json.blank_nil, laid, Json.blank_nil, by decide +kernel⟩
  · have laid : Laid '\x7d' (twicePathed.map Entry.text) _ :=
      .filled Json.blank_nil (.next Json.blank_nil Json.blank_nil (.close Json.blank_nil))
    have first : Names .path twicePathed[0] := Json.spells_of_plain (by decide)
    have second : Names .path twicePathed[1] := spells_path
    have wellFormed : ∀ entry ∈ twicePathed, Quotable entry.name ∧ WellFormed entry.value := by
      simp only [twicePathed, List.forall_mem_cons, List.not_mem_nil, false_imp_iff, implies_true,
        and_true]
      exact ⟨⟨Json.quotable_of_spells first, wellFormed_overflow⟩,
        Json.quotable_of_spells second, .string .nil⟩
    exact any_layout.2 twicePathed _ .path _ _ wellFormed (.refl _) first second
      ⟨[], _, [], Json.blank_nil, laid, Json.blank_nil, by decide +kernel⟩

end Envelope

end Switchboard
