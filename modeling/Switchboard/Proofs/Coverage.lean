/-
# Switchboard.Proofs.Coverage -- patterns ordered by what they stand for

A pattern covers a topic segment by segment (`Topic.covers_iff`), so covering is an order
on patterns (`covers_self`, `covers_trans`, `covers_antisymm`), and a pattern without
wildcard covers itself alone (`covers_iff_eq`).

The order is inclusion: of the wildcard-free topics that two patterns cover
(`covers_iff_inclusion`).  What carries the converse is a specimen of the smaller pattern
(`Topic.specimen`), whose wildcards have become a segment that the larger one does not
mention; where the larger one covers the specimen, it has a wildcard or the same segment.
-/
import Mathlib
import Switchboard.Topic

namespace Switchboard.Topic

set_option autoImplicit false

variable {pattern other topic first second third : Topic}

/-! ## Segment by segment -/

/-- Whether one segment of a pattern stands for one of a topic. -/
def Stands (mask segment : String) : Prop := mask = wildcard ∨ mask = segment

theorem coversSegments_iff (masks segments : List String) :
    coversSegments masks segments = true ↔ List.Forall₂ Stands masks segments := by
  induction masks generalizing segments with
  | nil => cases segments <;> simp [coversSegments]
  | cons mask masks ih =>
      cases segments with
      | nil => simp [coversSegments]
      | cons segment segments => simp [coversSegments, Stands, ih]

theorem covers_iff (pattern topic : Topic) :
    pattern.covers topic = true ↔ List.Forall₂ Stands pattern.segments topic.segments :=
  coversSegments_iff _ _

theorem isEmpty_of_covers (covers : pattern.covers topic = true) :
    pattern.isEmpty = topic.isEmpty := by
  have length := ((covers_iff _ _).1 covers).length_eq
  rw [isEmpty, isEmpty, Bool.eq_iff_iff, List.isEmpty_iff_length_eq_zero,
    List.isEmpty_iff_length_eq_zero, length]

/-- A pattern that covers a canonical topic is canonical. -/
theorem canonical_of_covers (covers : pattern.covers topic = true) (canonical : topic.Canonical) :
    pattern.Canonical := by
  intro mask member
  obtain ⟨⟨position, bound⟩, rfl⟩ := List.mem_iff_get.1 member
  obtain ⟨length, stands⟩ := List.forall₂_iff_get.1 ((covers_iff _ _).1 covers)
  rcases stands position bound (length ▸ bound) with star | same
  · rw [star]
    simp [wildcard]
  · rw [same]
    exact canonical _ (List.get_mem _ _)

/-! ## An order -/

theorem covers_trans (outer : first.covers second = true) (inner : second.covers third = true) :
    first.covers third = true := by
  rw [covers_iff, List.forall₂_iff_get] at *
  obtain ⟨outerLength, outer⟩ := outer
  obtain ⟨innerLength, inner⟩ := inner
  refine ⟨outerLength.trans innerLength, fun position bound _ => ?_⟩
  rcases outer position bound (outerLength ▸ bound) with star | same
  · exact .inl star
  · rw [same]
    exact inner position (outerLength ▸ bound) _

theorem covers_antisymm (outer : first.covers second = true) (inner : second.covers first = true) :
    first = second := by
  rw [covers_iff, List.forall₂_iff_get] at *
  obtain ⟨length, outer⟩ := outer
  obtain ⟨-, inner⟩ := inner
  obtain ⟨masks⟩ := first
  obtain ⟨segments⟩ := second
  refine congrArg Topic.mk (List.ext_get length fun position bound otherBound => ?_)
  rcases outer position bound otherBound with star | same
  · rcases inner position otherBound bound with otherStar | same
    · exact star.trans otherStar.symm
    · exact same.symm
  · exact same

/-- A pattern without wildcard covers itself and nothing else. -/
theorem covers_iff_eq (tame : pattern.hasWildcard = false) (topic : Topic) :
    pattern.covers topic = true ↔ topic = pattern := by
  constructor
  · intro covers
    have literal := (wildcardFree_iff pattern).1 tame
    obtain ⟨length, stands⟩ := List.forall₂_iff_get.1 ((covers_iff _ _).1 covers)
    obtain ⟨masks⟩ := pattern
    obtain ⟨segments⟩ := topic
    refine congrArg Topic.mk (List.ext_get length.symm fun position bound maskBound => ?_)
    exact ((stands position maskBound bound).resolve_left
      (literal _ (List.get_mem _ _))).symm
  · rintro rfl
    exact covers_self topic

/-! ## Specimens -/

/-- A segment that is longer than all of these, and of one letter. -/
def freshSegment (avoided : List String) : String :=
  String.ofList (List.replicate ((avoided.map String.length).sum + 1) 'x')

theorem freshSegment_not_mem (avoided : List String) : freshSegment avoided ∉ avoided := by
  intro member
  have shorter : (freshSegment avoided).length ≤ (avoided.map String.length).sum :=
    List.single_le_sum (by simp) _ (List.mem_map_of_mem member)
  have own : (freshSegment avoided).length = (avoided.map String.length).sum + 1 := by
    simp [freshSegment]
  omega

theorem freshSegment_ne_wildcard (avoided : List String) : freshSegment avoided ≠ wildcard := by
  intro same
  have letters := congrArg String.toList same
  simp [freshSegment, wildcard, List.replicate_succ] at letters

/-- The topic whose wildcards have become a segment that is none of these. -/
def specimen (avoided : List String) (topic : Topic) : Topic :=
  ⟨topic.segments.map (fun segment =>
    if segment = wildcard then freshSegment avoided else segment)⟩

theorem specimen_wildcardFree (avoided : List String) (topic : Topic) :
    (topic.specimen avoided).hasWildcard = false := by
  rw [wildcardFree_iff]
  intro segment member
  obtain ⟨original, -, rfl⟩ := List.mem_map.1 member
  split
  · exact freshSegment_ne_wildcard avoided
  · assumption

theorem covers_specimen (avoided : List String) (topic : Topic) :
    topic.covers (topic.specimen avoided) = true := by
  rw [covers_iff, specimen, List.forall₂_map_right_iff, List.forall₂_same]
  intro segment _
  split
  · exact .inl ‹_›
  · exact .inr rfl

/-- A pattern that covers a specimen without a segment of the pattern's covers the whole. -/
theorem covers_of_specimen (covers : pattern.covers (other.specimen pattern.segments) = true) :
    pattern.covers other = true := by
  rw [covers_iff, specimen, List.forall₂_map_right_iff, List.forall₂_iff_get] at covers
  obtain ⟨length, stands⟩ := covers
  rw [covers_iff, List.forall₂_iff_get]
  refine ⟨length, fun position bound otherBound => ?_⟩
  rcases stands position bound otherBound with star | same
  · exact .inl star
  · split at same
    · -- the pattern would mention the segment it does not mention
      exact absurd (same ▸ List.get_mem _ _) (freshSegment_not_mem pattern.segments)
    · exact .inr same

/-- **A pattern covers another one exactly if it covers every wildcard-free topic that the other
one does.** -/
theorem covers_iff_inclusion (pattern other : Topic) :
    pattern.covers other = true ↔ ∀ topic : Topic, topic.hasWildcard = false →
      other.covers topic = true → pattern.covers topic = true := by
  constructor
  · exact fun covers topic _ inner => covers_trans covers inner
  · intro included
    exact covers_of_specimen (included _ (other.specimen_wildcardFree _) (other.covers_specimen _))

end Switchboard.Topic
