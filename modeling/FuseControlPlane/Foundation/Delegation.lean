/-
Budgets delegated down a forest.

Every node has a limit, a spend of its own and possibly a parent. If at every node the own spend plus
the limits handed to the direct children stays within the node's limit, then the spend of the whole
subtree under a node stays within that node's limit (`subtree_le`). The forest is any finite set of
nodes on which some rank grows from parent to child, so there are no cycles; the proof goes up from
the leaves, by induction on how far a node's rank is from the top rank.
-/

import Mathlib.Algebra.BigOperators.Group.Finset.Basic
import Mathlib.Algebra.BigOperators.Group.Finset.Piecewise
import Mathlib.Algebra.Order.BigOperators.Group.Finset
import Mathlib.Algebra.Order.Ring.Nat
import Mathlib.Data.Finset.Lattice.Fold

namespace Foundation

variable {ν : Type}

/-- `node` is `top` or lies below it. -/
inductive Below (parent : ν → Option ν) (top : ν) : ν → Prop
  | here : Below parent top top
  | child {node above : ν} (edge : parent node = some above) (higher : Below parent top above) :
      Below parent top node

namespace Below

variable {parent : ν → Option ν}

/-- A node strictly below `top` is below one of the children of `top`. -/
theorem through_child {top node : ν} (below : Below parent top node) :
    node = top ∨ ∃ child, parent child = some top ∧ Below parent child node := by
  induction below with
  | here => exact .inl rfl
  | @child node above edge _ ih =>
    rcases ih with rfl | ⟨child, first, rest⟩
    · exact .inr ⟨node, edge, .here⟩
    · exact .inr ⟨child, first, .child edge rest⟩

/-- A set of nodes closed under parents contains everything above its members. -/
theorem mem_of_closed {nodes : Finset ν}
    (closed : ∀ node ∈ nodes, ∀ above, parent node = some above → above ∈ nodes) {top node : ν}
    (below : Below parent top node) (member : node ∈ nodes) : top ∈ nodes := by
  induction below with
  | here => exact member
  | child edge _ ih => exact ih (closed _ member _ edge)

end Below

variable [DecidableEq ν]

open Classical in
/-- The spend of `top` and of every node below it. -/
noncomputable def subtreeSpend (nodes : Finset ν) (parent : ν → Option ν) (own : ν → ℕ) (top : ν) : ℕ :=
  ∑ node ∈ nodes with Below parent top node, own node

open Classical in
/-- A subtree's spend is at most the top's own spend plus the subtrees of its children. -/
theorem subtreeSpend_le {nodes : Finset ν} {parent : ν → Option ν}
    (closed : ∀ node ∈ nodes, ∀ above, parent node = some above → above ∈ nodes) (own : ν → ℕ)
    (top : ν) :
    subtreeSpend nodes parent own top ≤
      own top + ∑ child ∈ nodes with parent child = some top, subtreeSpend nodes parent own child := by
  have pointwise : ∀ node ∈ nodes.filter (Below parent top), own node ≤
      (if node = top then own top else 0) +
        ∑ child ∈ nodes with parent child = some top, if Below parent child node then own node else 0 := by
    intro node member
    obtain ⟨inside, below⟩ := Finset.mem_filter.mp member
    rcases below.through_child with rfl | ⟨child, edge, rest⟩
    · rw [if_pos rfl]
      exact Nat.le_add_right _ _
    · have listed : child ∈ nodes.filter fun child => parent child = some top :=
        Finset.mem_filter.mpr ⟨rest.mem_of_closed closed inside, edge⟩
      have picked := Finset.single_le_sum
        (f := fun child => if Below parent child node then own node else 0)
        (fun _ _ => Nat.zero_le _) listed
      rw [if_pos rest] at picked
      exact picked.trans (Nat.le_add_left _ _)
  have topOnce : ∑ node ∈ nodes with Below parent top node, (if node = top then own top else 0) ≤
      own top := by
    rw [Finset.sum_ite_eq']
    split
    · exact le_rfl
    · exact Nat.zero_le _
  have regroup : ∑ node ∈ nodes with Below parent top node,
      ∑ child ∈ nodes with parent child = some top, (if Below parent child node then own node else 0) ≤
        ∑ child ∈ nodes with parent child = some top, subtreeSpend nodes parent own child := by
    rw [Finset.sum_comm]
    refine Finset.sum_le_sum fun child _ => ?_
    rw [subtreeSpend, Finset.sum_filter (s := nodes) (p := Below parent child)]
    exact Finset.sum_le_sum_of_subset (Finset.filter_subset _ _)
  calc subtreeSpend nodes parent own top
      ≤ ∑ node ∈ nodes with Below parent top node, ((if node = top then own top else 0) +
          ∑ child ∈ nodes with parent child = some top,
            if Below parent child node then own node else 0) := Finset.sum_le_sum pointwise
    _ = _ := Finset.sum_add_distrib
    _ ≤ _ := Nat.add_le_add topOnce regroup

open Classical in
/-- If own spend and delegated limits fit in the limit of every node, then every subtree's spend
fits in the limit of its top. -/
theorem subtree_le {nodes : Finset ν} {parent : ν → Option ν} (rank : ν → ℕ)
    (rises : ∀ node ∈ nodes, ∀ above, parent node = some above → rank above < rank node)
    (closed : ∀ node ∈ nodes, ∀ above, parent node = some above → above ∈ nodes)
    {own limit : ν → ℕ}
    (within : ∀ node ∈ nodes, own node + ∑ child ∈ nodes with parent child = some node, limit child ≤
      limit node) : ∀ top ∈ nodes, subtreeSpend nodes parent own top ≤ limit top := by
  have bounded : ∀ node ∈ nodes, rank node ≤ nodes.sup rank := fun node => Finset.le_sup
  have downward : ∀ height, ∀ top ∈ nodes, nodes.sup rank - rank top = height →
      subtreeSpend nodes parent own top ≤ limit top := by
    intro height
    induction height using Nat.strong_induction_on with
    | _ height ih =>
      intro top member same
      refine (subtreeSpend_le closed own top).trans (le_trans ?_ (within top member))
      refine Nat.add_le_add_left (Finset.sum_le_sum fun child listed => ?_) _
      obtain ⟨inside, edge⟩ := Finset.mem_filter.mp listed
      have lower := rises child inside top edge
      have limited := bounded child inside
      exact ih _ (by omega) child inside rfl
  exact fun top member => downward _ top member rfl

end Foundation
