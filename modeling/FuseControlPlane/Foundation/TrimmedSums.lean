/-
Sums of integers without one least and one greatest of them.

* `trimmedTotal`, `trimmedCount`: of five values or more, one least and one greatest are left out.
* `sum_middle`: the middle of the sorted values has this sum.
* `trimmedTotal_between`: **one value among five or more moves the sum only between what the least and the
  greatest of the others would make of it**.
-/

import Mathlib.Algebra.BigOperators.Group.List.Basic
import Mathlib.Algebra.Order.Ring.Int
import Mathlib.Data.List.Sort

namespace Foundation

/-- The sum of the values, without one least and one greatest when there are five or more. -/
def trimmedTotal (values : List ℤ) : ℤ :=
  if 5 ≤ values.length then values.sum - values.min?.getD 0 - values.max?.getD 0 else values.sum

/-- How many values there are in that sum. -/
def trimmedCount (values : List ℤ) : ℕ :=
  if 5 ≤ values.length then values.length - 2 else values.length

variable {values others : List ℤ} {low high : ℤ}

/-- The least and the greatest of the values. -/
structure Extremes (values : List ℤ) (low high : ℤ) : Prop where
  low_mem : low ∈ values
  high_mem : high ∈ values
  low_le : ∀ value ∈ values, low ≤ value
  le_high : ∀ value ∈ values, value ≤ high

theorem Extremes.min? (extremes : Extremes values low high) : values.min? = some low :=
  List.min?_eq_some_iff.mpr ⟨extremes.low_mem, extremes.low_le⟩

theorem Extremes.max? (extremes : Extremes values low high) : values.max? = some high :=
  List.max?_eq_some_iff.mpr ⟨extremes.high_mem, extremes.le_high⟩

/-- Values have extremes. -/
theorem exists_extremes (some : values ≠ []) : ∃ low high, Extremes values low high := by
  obtain ⟨low, least⟩ := Option.isSome_iff_exists.mp (List.isSome_min?_of_ne_nil some)
  obtain ⟨high, greatest⟩ := Option.isSome_iff_exists.mp (List.isSome_max?_of_ne_nil some)
  obtain ⟨lowMem, lowLe⟩ := List.min?_eq_some_iff.mp least
  obtain ⟨highMem, leHigh⟩ := List.max?_eq_some_iff.mp greatest
  exact ⟨low, high, lowMem, highMem, lowLe, leHigh⟩

theorem Extremes.perm (extremes : Extremes values low high) (perm : others.Perm values) :
    Extremes others low high :=
  ⟨perm.mem_iff.mpr extremes.low_mem, perm.mem_iff.mpr extremes.high_mem,
    fun value member => extremes.low_le value (perm.mem_iff.mp member),
    fun value member => extremes.le_high value (perm.mem_iff.mp member)⟩

/-- The extremes of values with one more. -/
theorem Extremes.cons (extremes : Extremes values low high) (value : ℤ) :
    Extremes (value :: values) (min value low) (max value high) := by
  refine ⟨?_, ?_, ?_, ?_⟩
  · rcases min_choice value low with same | same
    · rw [same]
      exact List.mem_cons_self
    · rw [same]
      exact List.mem_cons_of_mem _ extremes.low_mem
  · rcases max_choice value high with same | same
    · rw [same]
      exact List.mem_cons_self
    · rw [same]
      exact List.mem_cons_of_mem _ extremes.high_mem
  · intro other member
    rcases List.mem_cons.mp member with rfl | member
    · exact min_le_left _ _
    · exact (min_le_right _ _).trans (extremes.low_le other member)
  · intro other member
    rcases List.mem_cons.mp member with rfl | member
    · exact le_max_left _ _
    · exact (extremes.le_high other member).trans (le_max_right _ _)

theorem trimmedTotal_eq (extremes : Extremes values low high) (many : 5 ≤ values.length) :
    trimmedTotal values = values.sum - low - high := by
  unfold trimmedTotal
  rw [if_pos many, extremes.min?, extremes.max?]
  rfl

/-- The order of the values does not matter. -/
theorem trimmedTotal_perm (perm : others.Perm values) : trimmedTotal others = trimmedTotal values := by
  by_cases many : 5 ≤ values.length
  · have some : values ≠ [] := by
      rintro rfl
      cases many
    obtain ⟨low, high, extremes⟩ := exists_extremes some
    rw [trimmedTotal_eq extremes many, trimmedTotal_eq (extremes.perm perm) (perm.length_eq ▸ many),
      perm.sum_eq]
  · unfold trimmedTotal
    rw [perm.length_eq, if_neg many, if_neg many, perm.sum_eq]

/-- **One value moves the sum only between what the least and the greatest of the others make of it.** -/
theorem trimmedTotal_between (extremes : Extremes others low high) (many : 4 ≤ others.length) (value : ℤ) :
    trimmedTotal (low :: others) ≤ trimmedTotal (value :: others) ∧
      trimmedTotal (value :: others) ≤ trimmedTotal (high :: others) := by
  have five (value : ℤ) : 5 ≤ (value :: others).length := Nat.succ_le_succ many
  have inOrder := extremes.low_le high extremes.high_mem
  rw [trimmedTotal_eq (extremes.cons low) (five low), trimmedTotal_eq (extremes.cons value) (five value),
    trimmedTotal_eq (extremes.cons high) (five high), List.sum_cons, List.sum_cons, List.sum_cons]
  omega

/-! ### Sorted values -/

/-- The middle of five sorted values or more. -/
theorem sum_middle (sorted : values.Pairwise (· ≤ ·)) (many : 5 ≤ values.length) :
    ((values.drop 1).dropLast).sum = trimmedTotal values ∧
      ((values.drop 1).dropLast).length = trimmedCount values := by
  cases values with
  | nil => cases many
  | cons low rest =>
    rcases List.eq_nil_or_concat' rest with rfl | ⟨middle, high, rfl⟩
    · cases many with
      | step many => cases many
    rw [List.pairwise_cons, List.pairwise_append] at sorted
    obtain ⟨least, _, _, greatest⟩ := sorted
    have extremes : Extremes (low :: (middle ++ [high])) low high := by
      refine ⟨List.mem_cons_self, by simp, fun value member => ?_, fun value member => ?_⟩
      · rcases List.mem_cons.mp member with rfl | member
        · exact le_refl _
        · exact least value member
      · rcases List.mem_cons.mp member with rfl | member
        · exact least high (by simp)
        · rcases List.mem_append.mp member with inside | last
          · exact greatest value inside high (List.mem_singleton_self _)
          · exact (List.mem_singleton.mp last).le
    rw [trimmedTotal_eq extremes many]
    unfold trimmedCount
    rw [if_pos many]
    simp only [List.drop_succ_cons, List.drop_zero, List.dropLast_concat, List.sum_cons, List.sum_append,
      List.sum_nil, List.length_cons, List.length_append, List.length_nil]
    omega

end Foundation
