/-
Numbers drawn from a stream of 32-bit words by rejection.

* `draw`: a number of a range, from the first word that is below the largest multiple of how many there are.
* `draw_bounds`: it is in the range.
* `stepThrough`: a list made with a state; `stepThrough_forall₂`: **each element is made by one step**.
-/

import Mathlib.Data.List.Forall2
import Mathlib.Tactic.Common

namespace Foundation

/-- The words below it are accepted for a range of `count` numbers. -/
def acceptedBelow (count : ℕ) : ℕ := 0x100000000 / count * count

/-- The first accepted word from a place on, and the place after it. -/
def firstAccepted (words : ℕ → Option ℕ) (limit : ℕ) : ℕ → ℕ → Option (ℕ × ℕ)
  | 0, _ => none
  | fuel + 1, place =>
    (words place).bind fun word =>
      if limit ≤ word then firstAccepted words limit fuel (place + 1) else some (word, place + 1)

/-- A number from `low` to `high`, and the place after its word. -/
def draw (words : ℕ → Option ℕ) (fuel low high place : ℕ) : Option (ℕ × ℕ) :=
  let count := high - low + 1
  (firstAccepted words (acceptedBelow count) fuel place).map fun (word, next) => (low + word % count, next)

theorem draw_bounds {words : ℕ → Option ℕ} {fuel low high place value next : ℕ} (ordered : low ≤ high)
    (drawn : draw words fuel low high place = some (value, next)) : low ≤ value ∧ value ≤ high := by
  obtain ⟨⟨word, after⟩, _, made⟩ := Option.map_eq_some_iff.mp drawn
  cases made
  have below : word % (high - low + 1) < high - low + 1 := Nat.mod_lt _ (Nat.succ_pos _)
  omega

/-! ### Lists made with a state -/

/-- A list, each element made by a step that may throw. -/
def stepThrough {σ α β ε : Type} (step : σ → α → Except ε (β × σ)) : σ → List α → Except ε (List β × σ)
  | state, [] => .ok ([], state)
  | state, item :: items => do
    let (made, next) ← step state item
    let (others, last) ← stepThrough step next items
    return (made :: others, last)

theorem stepThrough_forall₂ {σ α β ε : Type} {step : σ → α → Except ε (β × σ)} {items : List α} {state last : σ}
    {made : List β} (accepted : stepThrough step state items = .ok (made, last)) :
    List.Forall₂ (fun item one => ∃ before after, step before item = .ok (one, after)) items made := by
  induction items generalizing state made with
  | nil =>
    cases accepted
    exact .nil
  | cons item items ih =>
    cases first : step state item with
    | error error =>
      rw [stepThrough, first] at accepted
      cases accepted
    | ok one =>
      cases rest : stepThrough step one.2 items with
      | error error =>
        simp only [stepThrough, first, bind, Except.bind, rest] at accepted
        cases accepted
      | ok others =>
        simp only [stepThrough, first, bind, Except.bind, rest, pure, Except.pure] at accepted
        cases accepted
        exact .cons ⟨state, one.2, first⟩ (ih rest)

section Made

variable {α β γ : Type} {made : α → β → Prop} {items : List α} {outs : List β}

/-- What every element has from its item, the list has from the items. -/
theorem map_eq_of_forall₂ {of : α → γ} {has : β → γ} (all : List.Forall₂ made items outs)
    (same : ∀ item one, made item one → has one = of item) : outs.map has = items.map of := by
  induction all with
  | nil => rfl
  | cons first _ ih => rw [List.map_cons, List.map_cons, same _ _ first, ih]

theorem exists_of_forall₂ (all : List.Forall₂ made items outs) {one : β} (member : one ∈ outs) :
    ∃ item ∈ items, made item one := by
  induction all with
  | nil => cases member
  | cons first _ ih =>
    rcases List.mem_cons.mp member with rfl | later
    · exact ⟨_, List.mem_cons_self, first⟩
    · obtain ⟨item, here, makes⟩ := ih later
      exact ⟨item, List.mem_cons_of_mem _ here, makes⟩

end Made

end Foundation
