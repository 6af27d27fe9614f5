/-
Pages of sorted rows, each after the last row of the page before it.

* `insertionSort_filter`: rows may be sorted before or after some of them are chosen.
* `filter_after`: in rows that are strictly sorted, **what comes after the last row of a page** is what the page leaves.
* `strict_of_sorted`: sorted rows without ties are strictly sorted.
-/

import FuseControlPlane.Foundation.StableSort

set_option linter.unusedSectionVars false

namespace Foundation

section Pages

variable {α : Type} {before : α → α → Bool}

theorem insertionSort_filter (preorder : IsPreorder before) (keep : α → Bool) (rows : List α) :
    (rows.filter keep).insertionSort (before · ·) = (rows.insertionSort (before · ·)).filter keep := by
  refine eq_of_filter_tied preorder (pairwise_sorted preorder _) ((pairwise_sorted preorder rows).filter keep)
    fun pivot => ?_
  rw [filter_insertionSort preorder, List.filter_filter, List.filter_filter]
  have commuted : ∀ list : List α, list.filter (fun row => tied before pivot row && keep row) =
      (list.filter (tied before pivot)).filter keep := fun list => by
    rw [List.filter_filter]
    exact List.filter_congr fun row _ => Bool.and_comm ..
  rw [commuted, commuted, filter_insertionSort preorder]

/-- One row comes before another one, and is not tied with it. -/
def isBefore (before : α → α → Bool) (first second : α) : Bool := !before second first

theorem strict_of_sorted {rows : List α} (sorted : rows.Pairwise (before · ·))
    (apart : rows.Pairwise fun first second => tied before first second = false) :
    rows.Pairwise fun first second => isBefore before first second = true := by
  refine (sorted.and apart).imp fun {first second} both => ?_
  obtain ⟨below, apart⟩ := both
  unfold tied at apart
  rw [below, Bool.true_and] at apart
  unfold isBefore
  rw [apart]
  rfl

theorem isBefore_trans (preorder : IsPreorder before) {first second third : α}
    (one : isBefore before first second = true) (other : isBefore before second third = true) :
    isBefore before first third = true := by
  unfold isBefore at one other ⊢
  rw [Bool.not_eq_true'] at one other ⊢
  by_contra back
  rw [Bool.not_eq_false] at back
  rcases preorder.total second third with below | above
  · rw [preorder.trans below back] at one
    cases one
  · rw [above] at other
    cases other

theorem isBefore_self (preorder : IsPreorder before) (row : α) : isBefore before row row = false := by
  unfold isBefore
  rw [preorder.refl]
  rfl

/-- **What comes after the last row of a page** is what the page leaves. -/
theorem filter_after (preorder : IsPreorder before) {rows : List α} {limit : ℕ} {last : α}
    (strict : rows.Pairwise fun first second => isBefore before first second = true)
    (shown : (rows.take limit).getLast? = some last) : rows.filter (isBefore before last) = rows.drop limit := by
  obtain ⟨front, page⟩ := List.getLast?_eq_some_iff.mp shown
  have split : rows = front ++ last :: rows.drop limit := by
    have whole := List.take_append_drop limit rows
    rw [page, List.append_assoc] at whole
    exact whole.symm
  rw [split] at strict
  obtain ⟨_, later, apart⟩ := List.pairwise_append.mp strict
  have earlier : front.filter (isBefore before last) = [] := by
    refine List.filter_eq_nil_iff.mpr fun row member back => ?_
    have forth := apart row member last List.mem_cons_self
    have loop := isBefore_trans preorder forth back
    rw [isBefore_self preorder] at loop
    cases loop
  have after : (rows.drop limit).filter (isBefore before last) = rows.drop limit :=
    List.filter_eq_self.mpr fun row member => (List.pairwise_cons.mp later).1 row member
  calc rows.filter (isBefore before last)
      = (front ++ last :: rows.drop limit).filter (isBefore before last) := by rw [← split]
    _ = rows.drop limit := by
      rw [List.filter_append, earlier, List.filter_cons_of_neg (by rw [isBefore_self preorder]; decide), after]
      rfl

/-- What comes after a row that itself comes after another one. -/
theorem filter_after_after (preorder : IsPreorder before) {rows : List α} {first second : α}
    (order : isBefore before first second = true) :
    (rows.filter (isBefore before first)).filter (isBefore before second) = rows.filter (isBefore before second) := by
  rw [List.filter_filter]
  refine List.filter_congr fun row _ => ?_
  cases after : isBefore before second row with
  | false => rfl
  | true => rw [isBefore_trans preorder order after, Bool.true_and]

end Pages

end Foundation
