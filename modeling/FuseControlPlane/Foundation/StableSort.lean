/-
Stable sorting by a total preorder.

* `tied`: two elements of which each may stand before the other.
* `filter_insertionSort`: **sorting keeps the order of tied elements**.
* `insertionSort_eq_iff`: **two lists sort to the same list exactly if elements that are tied with each other
  are the same ones in the same order**; without ties, if they have the same elements
  (`insertionSort_eq_iff_perm`).
-/

import Mathlib.Data.List.Sort
import Mathlib.Tactic.Common

namespace Foundation

/-- Each may stand before the other. -/
def tied {α : Type} (before : α → α → Bool) (first second : α) : Bool :=
  before first second && before second first

/-- `before` is total and transitive. -/
structure IsPreorder {α : Type} (before : α → α → Bool) : Prop where
  total : ∀ first second, before first second = true ∨ before second first = true
  trans : ∀ {first second third}, before first second = true → before second third = true →
    before first third = true

section Sorting

variable {α : Type} {before : α → α → Bool}

theorem IsPreorder.refl (preorder : IsPreorder before) (element : α) : before element element = true :=
  (preorder.total element element).elim id id

theorem IsPreorder.tied_self (preorder : IsPreorder before) (element : α) : tied before element element = true := by
  rw [tied, preorder.refl, Bool.true_and]

theorem tied_eq_true {first second : α} :
    tied before first second = true ↔ before first second = true ∧ before second first = true :=
  Bool.and_eq_true_iff

/-- A preorder of the values of a function. -/
theorem IsPreorder.comap {β : Type} (preorder : IsPreorder before) (value : β → α) :
    IsPreorder fun first second => before (value first) (value second) :=
  ⟨fun first second => preorder.total (value first) (value second), fun one other => preorder.trans one other⟩

/-- An inserted element comes before those it is tied with. -/
theorem filter_orderedInsert (preorder : IsPreorder before) (pivot element : α) (elements : List α) :
    (elements.orderedInsert (before · ·) element).filter (tied before pivot) =
      (element :: elements).filter (tied before pivot) := by
  induction elements with
  | nil => rfl
  | cons other rest ih =>
    rw [List.orderedInsert_cons]
    split
    · rfl
    · next later =>
      rw [List.filter_cons, ih, List.filter_cons, List.filter_cons, List.filter_cons]
      cases here : tied before pivot element with
      | false => rfl
      | true =>
        -- were the other one tied too, the element would have come before it
        have apart : tied before pivot other = false := by
          by_contra both
          rw [Bool.not_eq_false] at both
          exact later (preorder.trans (tied_eq_true.mp here).2 (tied_eq_true.mp both).1)
        rw [apart]
        rfl

/-- **Sorting keeps the order of tied elements.** -/
theorem filter_insertionSort (preorder : IsPreorder before) (pivot : α) (elements : List α) :
    (elements.insertionSort (before · ·)).filter (tied before pivot) = elements.filter (tied before pivot) := by
  induction elements with
  | nil => rfl
  | cons element rest ih =>
    rw [List.insertionSort_cons, filter_orderedInsert preorder, List.filter_cons, ih, List.filter_cons]

theorem pairwise_sorted (preorder : IsPreorder before) (elements : List α) :
    (elements.insertionSort (before · ·)).Pairwise (before · ·) := by
  have : Std.Total (fun first second => before first second = true) := ⟨preorder.total⟩
  have : IsTrans α (fun first second => before first second = true) := ⟨fun _ _ _ => preorder.trans⟩
  exact List.pairwise_insertionSort _ _

/-- Sorted lists with the same tied elements are the same. -/
theorem eq_of_filter_tied (preorder : IsPreorder before) {first second : List α}
    (sorted : first.Pairwise (before · ·)) (alsoSorted : second.Pairwise (before · ·))
    (same : ∀ pivot, first.filter (tied before pivot) = second.filter (tied before pivot)) :
    first = second := by
  have listed {one other : List α}
      (same : ∀ pivot, one.filter (tied before pivot) = other.filter (tied before pivot)) :
      ∀ element ∈ one, element ∈ other := fun element member => by
    have inside : element ∈ one.filter (tied before element) :=
      List.mem_filter.mpr ⟨member, preorder.tied_self element⟩
    rw [same] at inside
    exact (List.mem_filter.mp inside).1
  have front {element : α} {rest : List α} (sorted : (element :: rest).Pairwise (before · ·)) {other : α}
      (member : other ∈ element :: rest) : before element other = true := by
    rcases List.mem_cons.mp member with rfl | later
    · exact preorder.refl other
    · exact (List.pairwise_cons.mp sorted).1 other later
  induction first generalizing second with
  | nil =>
    refine (List.eq_nil_iff_forall_not_mem.mpr fun element member => ?_).symm
    exact absurd (listed (fun pivot => (same pivot).symm) element member) List.not_mem_nil
  | cons element rest ih =>
    cases second with
    | nil => exact absurd (listed same element List.mem_cons_self) List.not_mem_nil
    | cons other others =>
      have below := front alsoSorted (listed same element List.mem_cons_self)
      have above := front sorted (listed (fun pivot => (same pivot).symm) other List.mem_cons_self)
      have heads := same element
      rw [List.filter_cons_of_pos (preorder.tied_self element),
        List.filter_cons_of_pos (tied_eq_true.mpr ⟨above, below⟩)] at heads
      obtain ⟨rfl, _⟩ := List.cons.inj heads
      refine congrArg (List.cons element) (ih (List.pairwise_cons.mp sorted).2
        (List.pairwise_cons.mp alsoSorted).2 fun pivot => ?_)
      have tails := same pivot
      rw [List.filter_cons, List.filter_cons] at tails
      split at tails
      · exact (List.cons.inj tails).2
      · exact tails

/-- **Lists sort to the same list exactly if their tied elements are the same in the same order.** -/
theorem insertionSort_eq_iff (preorder : IsPreorder before) {first second : List α} :
    first.insertionSort (before · ·) = second.insertionSort (before · ·) ↔
      ∀ pivot, first.filter (tied before pivot) = second.filter (tied before pivot) := by
  constructor
  · intro same pivot
    rw [← filter_insertionSort preorder pivot first, same, filter_insertionSort preorder]
  · intro same
    refine eq_of_filter_tied preorder (pairwise_sorted preorder first) (pairwise_sorted preorder second)
      fun pivot => ?_
    rw [filter_insertionSort preorder, filter_insertionSort preorder, same]

/-- Without ties, lists sort to the same list exactly if they have the same elements. -/
theorem insertionSort_eq_iff_perm (preorder : IsPreorder before)
    (antisymm : ∀ {one other : α}, tied before one other = true → one = other) {first second : List α} :
    first.insertionSort (before · ·) = second.insertionSort (before · ·) ↔ first.Perm second := by
  have own (elements : List α) := List.perm_insertionSort (fun one other => before one other = true) elements
  constructor
  · intro same
    refine (own first).symm.trans ?_
    rw [same]
    exact own second
  · intro perm
    refine List.Perm.eq_of_pairwise (fun one other _ _ below above => antisymm (tied_eq_true.mpr ⟨below, above⟩))
      (pairwise_sorted preorder first) (pairwise_sorted preorder second) ?_
    exact (own first).trans (perm.trans (own second).symm)

end Sorting

end Foundation
