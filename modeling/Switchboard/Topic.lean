/-
# Switchboard.Topic -- hierarchical names, and patterns over them

A topic is a list of segments.  Its wire form joins them with slashes
(`Topic.wire`); reading a wire form splits at slashes and drops empty segments
(`Topic.parse`).  A segment that is exactly `*` is a wildcard: as a pattern it
stands for any one segment (`Topic.covers`).

* `Topic.wildcardFree_iff`: a topic is wildcard-free iff no segment is the wildcard;
* `Topic.covers_self`: every pattern covers itself;
* `Topic.compare_self`: the order of segment lists is reflexive.
-/
namespace Switchboard

set_option autoImplicit false

/-- A name of things to hear about or to call, from the general to the particular. -/
structure Topic where
  /-- The segments, outermost first. -/
  segments : List String
deriving DecidableEq, Inhabited

namespace Topic

/-- The segment that stands for any one segment. -/
def wildcard : String := "*"

/-- Whether there is no segment at all. -/
def isEmpty (topic : Topic) : Bool := topic.segments.isEmpty

/-- How many segments there are. -/
def length (topic : Topic) : Nat := topic.segments.length

/-- Whether some segment is exactly the wildcard. -/
def hasWildcard (topic : Topic) : Bool := topic.segments.contains wildcard

/-- The segments joined by slashes. -/
def wire (topic : Topic) : String := "/".intercalate topic.segments

/-- The topic a wire form names: split at slashes, empty segments dropped. -/
def parse (text : String) : Topic :=
  ⟨((text.toList.splitOn '/').filter (fun piece => !piece.isEmpty)).map String.ofList⟩

/-- Whether a list of pattern segments stands for a list of segments. -/
def coversSegments : List String → List String → Bool
  | [], [] => true
  | mask :: masks, segment :: segments =>
      (mask == wildcard || mask == segment) && coversSegments masks segments
  | _, _ => false

/-- Whether the pattern stands for the topic: the same length, and every segment of the
pattern is the wildcard or the topic's own. -/
def covers (pattern topic : Topic) : Bool := coversSegments pattern.segments topic.segments

/-- Lists of segments in lexicographic order, segments by their characters. -/
def compareSegments : List String → List String → Ordering
  | [], [] => .eq
  | [], _ :: _ => .lt
  | _ :: _, [] => .gt
  | left :: lefts, right :: rights => (compare left right).then (compareSegments lefts rights)

/-- Topics in the order of their segment lists. -/
def compare (left right : Topic) : Ordering := compareSegments left.segments right.segments

/-- Whether the first topic does not come after the second. -/
def le (left right : Topic) : Bool := (compare left right).isLE

/-- The topics in ascending order. -/
def sort (topics : List Topic) : List Topic := topics.mergeSort le

/-- A list without the topics that equal the one before them. -/
def dropRepeats : List Topic → List Topic
  | first :: second :: rest =>
      if first = second then dropRepeats (second :: rest)
      else first :: dropRepeats (second :: rest)
  | rest => rest

/-- Whether every segment is non-empty and free of slashes, so that the wire form
keeps the segments apart. -/
def Canonical (topic : Topic) : Prop :=
  ∀ segment ∈ topic.segments, segment ≠ "" ∧ '/' ∉ segment.toList

theorem wildcardFree_iff (topic : Topic) :
    topic.hasWildcard = false ↔ ∀ segment ∈ topic.segments, segment ≠ wildcard := by
  simp only [hasWildcard, ← Bool.not_eq_true, List.contains_iff_mem]
  constructor
  · rintro absent segment member rfl
    exact absent member
  · intro distinct member
    exact distinct _ member rfl

theorem coversSegments_self (segments : List String) : coversSegments segments segments = true := by
  induction segments with
  | nil => rfl
  | cons segment segments ih => simp [coversSegments, ih]

theorem covers_self (topic : Topic) : topic.covers topic = true := coversSegments_self _

theorem compareSegments_self (segments : List String) :
    compareSegments segments segments = .eq := by
  induction segments with
  | nil => rfl
  | cons segment segments ih => simp [compareSegments, ih, Ordering.then]

theorem compare_self (topic : Topic) : compare topic topic = .eq := compareSegments_self _

end Topic

end Switchboard
