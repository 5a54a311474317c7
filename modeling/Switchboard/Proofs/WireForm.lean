/-
# Switchboard.Proofs.WireForm -- reading a wire form back

A topic whose segments are non-empty and free of slashes is what its wire form
reads back as (`Topic.parse_wire`), so such topics are told apart by their wire
forms (`Topic.wire_injective`); a word without a slash is the wire form of its own
segment only (`Topic.wire_eq_word_iff`).  No other topic is read from any text
(`Topic.parse_canonical`), so no other one reads back (`Topic.parse_wire_iff`).
-/
import Switchboard.Topic

namespace Switchboard.Topic

set_option autoImplicit false

variable {topic other : Topic}

theorem toList_wire (topic : Topic) :
    topic.wire.toList = ['/'].intercalate (topic.segments.map String.toList) := by
  simp [wire]

/-- Splitting the wire form of a topic at its slashes gives the segments back. -/
theorem splitOn_wire (canonical : topic.Canonical) (segments : topic.segments ≠ []) :
    topic.wire.toList.splitOn '/' = topic.segments.map String.toList := by
  rw [toList_wire]
  refine List.splitOn_intercalate '/' ?_ (by simpa using segments)
  intro piece member
  obtain ⟨segment, inTopic, rfl⟩ := List.mem_map.1 member
  exact (canonical segment inTopic).2

/-- **A wire form reads back as its topic**, if that is canonical. -/
theorem parse_wire (canonical : topic.Canonical) : parse topic.wire = topic := by
  by_cases segments : topic.segments = []
  · obtain ⟨segments⟩ := topic
    subst segments
    simp [parse, wire]
  · have kept : (topic.segments.map String.toList).filter (fun piece => !piece.isEmpty) =
        topic.segments.map String.toList := by
      refine List.filter_eq_self.2 fun piece member => ?_
      obtain ⟨segment, inTopic, rfl⟩ := List.mem_map.1 member
      simpa using (canonical segment inTopic).1
    have back : String.ofList ∘ String.toList = id := by
      funext segment
      simp
    rw [parse, splitOn_wire canonical segments, kept, List.map_map, back, List.map_id]

theorem wire_injective (canonical : topic.Canonical) (otherCanonical : other.Canonical)
    (same : topic.wire = other.wire) : topic = other := by
  rw [← parse_wire canonical, same, parse_wire otherCanonical]

@[simp]
theorem wire_singleton (word : String) : (⟨[word]⟩ : Topic).wire = word := by simp [wire]

/-- A word is the wire form of the topic of that one segment, and of no other canonical one. -/
theorem wire_eq_word_iff {word : String} (solid : word ≠ "") (whole : '/' ∉ word.toList)
    (canonical : topic.Canonical) : topic.wire = word ↔ topic = ⟨[word]⟩ := by
  have single : (⟨[word]⟩ : Topic).Canonical := by simp [Canonical, solid, whole]
  constructor
  · intro same
    exact wire_injective canonical single (same.trans (wire_singleton word).symm)
  · rintro rfl
    exact wire_singleton word

/-- No piece of a text that was split at a character holds it. -/
theorem not_mem_of_mem_splitOn {separator : Char} {text piece : List Char}
    (member : piece ∈ text.splitOn separator) : separator ∉ piece := by
  induction text generalizing piece with
  | nil =>
      obtain rfl : piece = [] := by simpa using member
      simp
  | cons first text ih =>
      rw [List.splitOn_cons_eq_if_modifyHead] at member
      split at member
      · rcases List.mem_cons.1 member with rfl | later
        · simp
        · exact ih later
      · -- the character goes on the first piece of the rest
        rename_i different
        obtain ⟨head, rest, pieces⟩ :=
          List.exists_cons_of_ne_nil (List.splitOn_ne_nil separator text)
        rw [pieces, List.modifyHead_cons] at member
        rcases List.mem_cons.1 member with rfl | later
        · have apart := ih (pieces ▸ List.mem_cons_self)
          rw [List.mem_cons, not_or]
          exact ⟨fun same => different (by simp [same]), apart⟩
        · exact ih (pieces ▸ List.mem_cons_of_mem _ later)

/-- **Every topic that is read is canonical.** -/
theorem parse_canonical (text : String) : (parse text).Canonical := by
  intro segment member
  obtain ⟨piece, kept, rfl⟩ := List.mem_map.1 member
  obtain ⟨inText, solid⟩ := List.mem_filter.1 kept
  refine ⟨fun empty => ?_, ?_⟩
  · have nothing : piece = [] := by simpa using congrArg String.toList empty
    simp [nothing] at solid
  · rw [String.toList_ofList]
    exact not_mem_of_mem_splitOn inText

/-- A topic is what its wire form reads back as exactly if it is canonical. -/
theorem parse_wire_iff (topic : Topic) : parse topic.wire = topic ↔ topic.Canonical :=
  ⟨fun back => back ▸ parse_canonical topic.wire, parse_wire⟩

/-- A slash in front of a text makes no difference. -/
theorem parse_slash (text : String) : parse ("/" ++ text) = parse text := by
  have front : ("/" ++ text).toList.splitOn '/' = [] :: text.toList.splitOn '/' := by
    rw [String.toList_append]
    exact List.splitOn_cons_eq_if_modifyHead '/' text.toList
  rw [parse, front]
  simp [parse]

end Switchboard.Topic
