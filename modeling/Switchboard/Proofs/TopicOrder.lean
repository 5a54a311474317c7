/-
# Switchboard.Proofs.TopicOrder -- sorting topics

Topics are ordered as the lists of their segments are.  The order is total, and tells
any two topics apart, so topics of which none occurs twice are sorted into strictly
ascending order (`Topic.sort_ascending`).
-/
import Mathlib.Data.List.Basic
import Mathlib.Data.List.Nodup
import Switchboard.Topic

namespace Switchboard.Topic

set_option autoImplicit false

theorem compareSegments_eq (left right : List String) :
    compareSegments left right = Ord.compare left right := by
  induction left generalizing right with
  | nil => cases right <;> rfl
  | cons first left ih =>
      cases right with
      | nil => rfl
      | cons second right =>
          rw [compareSegments, ih, List.compare_eq_compareLex, List.compareLex_cons_cons]

theorem le_iff (left right : Topic) :
    left.le right = true ↔ (Ord.compare left.segments right.segments).isLE = true := by
  rw [le, compare, compareSegments_eq]

theorem le_trans {first second third : Topic} (left : first.le second = true)
    (right : second.le third = true) : first.le third = true := by
  rw [le_iff] at *
  exact Std.TransCmp.isLE_trans left right

theorem le_total (left right : Topic) : (left.le right || right.le left) = true := by
  rw [Bool.or_eq_true, le_iff, le_iff]
  have swapped : Ord.compare right.segments left.segments =
      (Ord.compare left.segments right.segments).swap := Std.OrientedCmp.eq_swap
  rw [swapped]
  cases Ord.compare left.segments right.segments <;> simp

/-- A topic that does not come after another one comes before it, or is the same. -/
theorem compare_eq_lt {left right : Topic} (ordered : left.le right = true)
    (different : left ≠ right) : compare left right = .lt := by
  have unequal : compare left right ≠ .eq := by
    rw [compare, compareSegments_eq]
    intro same
    obtain ⟨segments⟩ := left
    obtain ⟨others⟩ := right
    exact different (congrArg Topic.mk (Std.LawfulEqCmp.eq_of_compare same))
  unfold le at ordered
  cases result : compare left right with
  | lt => rfl
  | eq => exact absurd result unequal
  | gt => simp [result] at ordered

/-- **Sorting gives a strictly ascending list**, if no topic occurs twice. -/
theorem sort_ascending {topics : List Topic} (nodup : topics.Nodup) :
    (sort topics).Pairwise (fun left right => compare left right = .lt) := by
  have sorted : (topics.mergeSort le).Pairwise (fun left right => left.le right = true) :=
    List.pairwise_mergeSort (fun first second third => @le_trans first second third) le_total topics
  have distinct : (sort topics).Nodup := (List.mergeSort_perm topics le).nodup_iff.2 nodup
  exact (sorted.and distinct).imp fun both => compare_eq_lt both.1 both.2

end Switchboard.Topic
