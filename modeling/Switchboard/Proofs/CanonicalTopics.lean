/-
# Switchboard.Proofs.CanonicalTopics -- which topics survive their wire form

A topic is announced by the text of its wire form, and a push names its topic by such a
text.  Both ends mean the same topic exactly if it is canonical: reading never gives any
other (`Topic.parse_canonical`), and gives these back (`Topic.parse_wire`).

* `Topic.readJson_print`: the JSON of a topic is read as what its wire form reads back as;
* `Inbound.classify_push_iff`: which messages are pushes, and to which topic;
* `Topic.wire_keeps_canonical`: what the wire form keeps, and whom a push can be for.
-/
import Mathlib
import Switchboard.Inbound
import Switchboard.Json.Names
import Switchboard.Outbound
import Switchboard.Proofs.WireForm

namespace Switchboard

set_option autoImplicit false

namespace Topic

/-! ## As JSON -/

/-- A topic is read back from its JSON as from its wire form, whatever follows. -/
theorem readChars_print (topic : Topic) (rest : List Char) :
    readChars (topic.toJson.printChars ++ rest) = .ok (parse topic.wire, rest) := by
  have printed : topic.toJson.printChars ++ rest =
      '"' :: (topic.wire.toList.flatMap Json.escapeChar ++ '"' :: rest) := by
    simp [toJson, Json.printChars, Json.printText]
  rw [printed, readChars, Json.skipBlank_of_not_blank '"' _ rfl]
  show (Json.readText [] _).map _ = _
  rw [Json.readText_printed]
  rfl

theorem readJson_print (topic : Topic) :
    readJson topic.toJson.print = .ok (parse topic.wire) := by
  have read := topic.readChars_print []
  rw [List.append_nil] at read
  rw [readJson, Json.print, String.toList_ofList, read]
  rfl

end Topic

/-! ## As the path of a message -/

/-- A message is a push if it replies to nothing and its path names a topic and is not the reserved
one. -/
theorem Inbound.classify_push_iff (envelope : Envelope) (topic : Topic) (data : Json) :
    classify envelope = .ok (.push topic data) ↔
      envelope.replyingTo = none ∧ envelope.path ≠ pingPath ∧
        Topic.parse envelope.path = topic ∧ topic.isEmpty = false ∧
          data = envelope.data.getD .null := by
  rw [classify]
  cases envelope.replyingTo with
  | some text =>
      dsimp only
      split <;> simp
  | none =>
      by_cases reserved : envelope.path = pingPath
      · simp [reserved]
      by_cases nothing : (Topic.parse envelope.path).isEmpty = true
      · simp only [reserved, nothing, if_false, if_true, reduceCtorEq, false_iff]
        rintro ⟨-, -, rfl, nonempty, -⟩
        simp [nothing] at nonempty
      · simp only [reserved, nothing, if_false]
        constructor
        · intro same
          obtain ⟨rfl, rfl⟩ := push.inj (Except.ok.inj same)
          exact ⟨trivial, reserved, rfl, by simpa using nothing, rfl⟩
        · rintro ⟨-, -, rfl, -, rfl⟩
          rfl

namespace Topic

/-- The topic whose wire form is the reserved path. -/
def ping : Topic := ⟨[Inbound.pingPath]⟩

theorem ping_canonical : ping.Canonical := by
  simp [Canonical, ping, Inbound.pingPath]

theorem wire_eq_pingPath_iff {topic : Topic} (canonical : topic.Canonical) :
    topic.wire = Inbound.pingPath ↔ topic = ping :=
  wire_eq_word_iff (by decide) (by decide) canonical

/-- **Wire forms keep canonical topics, and no others.**

* A topic is what its wire form reads back as exactly if all its segments are non-empty and free of
  slashes.
* What is read from a text is always such a topic; so it reads back, and two of them with one wire
  form are the same.
* The JSON of a topic is read as what its wire form reads back as.
* Take a topic with a segment, and a message that replies to nothing and whose path is the wire
  form, by which the topic is announced.  It is a push to that very topic exactly if the topic is
  canonical and is not the one of the reserved path; its payload is then that of the message, or
  null. -/
theorem wire_keeps_canonical :
    (∀ topic : Topic, parse topic.wire = topic ↔ topic.Canonical) ∧
      (∀ text : String, (parse text).Canonical ∧ parse (parse text).wire = parse text) ∧
      (∀ text other : String, (parse text).wire = (parse other).wire →
        parse text = parse other) ∧
      (∀ topic : Topic, readJson topic.toJson.print = .ok (parse topic.wire)) ∧
      ∀ topic : Topic, topic.isEmpty = false →
        (∀ fresh, ((Outbound.subscribe topic).envelope fresh).data = some (.string topic.wire)) ∧
          ∀ envelope : Envelope, envelope.replyingTo = none → envelope.path = topic.wire →
            ∀ data, Inbound.classify envelope = .ok (.push topic data) ↔
              topic.Canonical ∧ topic ≠ ping ∧ data = envelope.data.getD .null := by
  refine ⟨parse_wire_iff, fun text => ⟨parse_canonical text, parse_wire (parse_canonical text)⟩,
    fun text other => wire_injective (parse_canonical text) (parse_canonical other),
    readJson_print, fun topic nonempty =>
      ⟨fun _ => rfl, fun envelope unsolicited path data => ?_⟩⟩
  rw [Inbound.classify_push_iff, path, parse_wire_iff]
  constructor
  · rintro ⟨-, reserved, canonical, -, payload⟩
    exact ⟨canonical, mt (wire_eq_pingPath_iff canonical).2 reserved, payload⟩
  · rintro ⟨canonical, other, payload⟩
    exact ⟨unsolicited, mt (wire_eq_pingPath_iff canonical).1 other, canonical, nonempty, payload⟩

/-- Doubled slashes are lost; an empty segment in front makes a push to another topic, and the
reserved path makes none. -/
theorem wire_keeps_canonical_doubled :
    ((parse "/team//teams/").wire = (parse "team/teams").wire ∧
        parse "/team//teams/" = parse "team/teams") ∧
      (let topic : Topic := ⟨["team", "teams"]⟩
       let push : Envelope := { path := "team/teams", data := some (.bool true) }
       topic.isEmpty = false ∧ push.replyingTo = none ∧ push.path = topic.wire ∧
         Inbound.classify push = .ok (.push topic (.bool true))) ∧
      (let topic : Topic := ⟨["", "teams"]⟩
       let push : Envelope := { path := "/teams" }
       topic.isEmpty = false ∧ push.replyingTo = none ∧ push.path = topic.wire ∧
         ∀ data, Inbound.classify push ≠ .ok (.push topic data)) ∧
      ping.isEmpty = false ∧
        ∀ data, Inbound.classify { path := Inbound.pingPath } ≠ .ok (.push ping data) := by
  obtain ⟨-, -, apart, -, pushed⟩ := wire_keeps_canonical
  have same : (parse "/team//teams/").wire = (parse "team/teams").wire := by decide +kernel
  have path : "team/teams" = (⟨["team", "teams"]⟩ : Topic).wire := by decide +kernel
  have leading : "/teams" = (⟨["", "teams"]⟩ : Topic).wire := by decide +kernel
  have reserved : Inbound.pingPath = ping.wire := by decide +kernel
  refine ⟨⟨same, apart _ _ same⟩, ⟨rfl, rfl, path, ?_⟩, ⟨rfl, rfl, leading, fun data is => ?_⟩, rfl,
    fun data is => ?_⟩
  · refine ((pushed ⟨["team", "teams"]⟩ rfl).2 _ rfl path _).2 ⟨?_, by decide, rfl⟩
    simp [Canonical]
  · obtain ⟨canonical, -⟩ := ((pushed ⟨["", "teams"]⟩ rfl).2 _ rfl leading data).1 is
    exact (canonical "" List.mem_cons_self).1 rfl
  · obtain ⟨-, other, -⟩ := ((pushed ping rfl).2 _ rfl reserved data).1 is
    exact other rfl

end Topic

end Switchboard
