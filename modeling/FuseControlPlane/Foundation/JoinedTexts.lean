/-
Texts joined by a separator.

* `joined`: two texts with a separator between them; `Straddles`: the first text of one pair goes on, after that of
  the other and a separator, into the second text of the other.
* `joined_eq_iff`: **two pairs are joined to the same text** exactly if they are the same or one straddles the other.
* `joined_front`, `joined_back`: they are the same if neither first text has a separator, or neither second text.
-/

import Mathlib.Data.String.Basic

set_option linter.unusedSectionVars false

namespace Foundation

variable {α : Type} {separator : α}

/-! ### Lists -/

/-- Two lists, each with a separator in it, that are the same. -/
theorem append_cons_eq_iff {first second rest others : List α} :
    first ++ separator :: rest = second ++ separator :: others ↔ (first = second ∧ rest = others) ∨
      (∃ middle, first = second ++ separator :: middle ∧ others = middle ++ separator :: rest) ∨
      ∃ middle, second = first ++ separator :: middle ∧ rest = middle ++ separator :: others := by
  rw [List.append_eq_append_iff]
  constructor
  · rintro (⟨between, rfl, back⟩ | ⟨between, rfl, back⟩)
    · cases between with
      | nil => exact .inl ⟨(List.append_nil first).symm, (List.cons.inj back).2⟩
      | cons head middle =>
        obtain ⟨rfl, rfl⟩ := List.cons.inj back
        exact .inr (.inr ⟨middle, rfl, rfl⟩)
    · cases between with
      | nil => exact .inl ⟨List.append_nil second, (List.cons.inj back).2.symm⟩
      | cons head middle =>
        obtain ⟨rfl, rfl⟩ := List.cons.inj back
        exact .inr (.inl ⟨middle, rfl, rfl⟩)
  · rintro (⟨rfl, rfl⟩ | ⟨middle, rfl, rfl⟩ | ⟨middle, rfl, rfl⟩)
    · exact .inl ⟨[], (List.append_nil first).symm, rfl⟩
    · exact .inr ⟨separator :: middle, rfl, rfl⟩
    · exact .inl ⟨separator :: middle, rfl, rfl⟩

/-- What is before the first separator, and what is after it. -/
theorem append_cons_front {first second rest others : List α} (plain : separator ∉ first) (alsoPlain : separator ∉ second)
    (same : first ++ separator :: rest = second ++ separator :: others) : first = second ∧ rest = others := by
  rcases append_cons_eq_iff.mp same with equal | ⟨middle, rfl, _⟩ | ⟨middle, rfl, _⟩
  · exact equal
  · exact absurd (List.mem_append_right _ List.mem_cons_self) plain
  · exact absurd (List.mem_append_right _ List.mem_cons_self) alsoPlain

/-- What is before the last separator, and what is after it. -/
theorem append_cons_back {first second rest others : List α} (plain : separator ∉ rest) (alsoPlain : separator ∉ others)
    (same : first ++ separator :: rest = second ++ separator :: others) : first = second ∧ rest = others := by
  rcases append_cons_eq_iff.mp same with equal | ⟨middle, _, rfl⟩ | ⟨middle, _, rfl⟩
  · exact equal
  · exact absurd (List.mem_append_right _ List.mem_cons_self) alsoPlain
  · exact absurd (List.mem_append_right _ List.mem_cons_self) plain

/-! ### Texts -/

/-- Two texts with a colon between them. -/
def joined (pair : String × String) : String := pair.1 ++ ":" ++ pair.2

/-- The first text of the first pair goes on into the second text of the other pair. -/
def Straddles (pair other : String × String) : Prop :=
  ∃ middle, pair.1 = other.1 ++ ":" ++ middle ∧ other.2 = middle ++ ":" ++ pair.2

theorem toList_joined (first second : String) : (first ++ ":" ++ second).toList = first.toList ++ ':' :: second.toList := by
  rw [String.toList_append, String.toList_append, List.append_assoc]
  rfl

theorem straddles_iff {pair other : String × String} : Straddles pair other ↔
    ∃ middle, pair.1.toList = other.1.toList ++ ':' :: middle ∧ other.2.toList = middle ++ ':' :: pair.2.toList := by
  constructor
  · rintro ⟨middle, front, back⟩
    exact ⟨middle.toList, by rw [front, toList_joined], by rw [back, toList_joined]⟩
  · rintro ⟨middle, front, back⟩
    refine ⟨String.ofList middle, String.toList_inj.mp ?_, String.toList_inj.mp ?_⟩
    · rw [front, toList_joined, String.toList_ofList]
    · rw [back, toList_joined, String.toList_ofList]

theorem Straddles.ne {pair other : String × String} (straddles : Straddles pair other) : pair ≠ other := by
  rintro rfl
  obtain ⟨middle, front, _⟩ := straddles_iff.mp straddles
  have lengths := congrArg List.length front
  rw [List.length_append, List.length_cons] at lengths
  omega

/-- **Two pairs are joined to the same text** exactly if they are the same or one of them straddles the other. -/
theorem joined_eq_iff {pair other : String × String} :
    joined pair = joined other ↔ pair = other ∨ Straddles pair other ∨ Straddles other pair := by
  unfold joined
  rw [← String.toList_inj, toList_joined, toList_joined, append_cons_eq_iff, straddles_iff, straddles_iff, Prod.ext_iff,
    String.toList_inj, String.toList_inj]

section Plain

variable {first second rest others : String}

/-- Pairs whose first texts have no colon. -/
theorem joined_front (plain : ':' ∉ first.toList) (alsoPlain : ':' ∉ second.toList)
    (same : joined (first, rest) = joined (second, others)) : first = second ∧ rest = others := by
  have lists := congrArg String.toList same
  unfold joined at lists
  rw [toList_joined, toList_joined] at lists
  obtain ⟨front, back⟩ := append_cons_front plain alsoPlain lists
  exact ⟨String.toList_inj.mp front, String.toList_inj.mp back⟩

/-- Pairs whose second texts have no colon. -/
theorem joined_back (plain : ':' ∉ rest.toList) (alsoPlain : ':' ∉ others.toList)
    (same : joined (first, rest) = joined (second, others)) : first = second ∧ rest = others := by
  have lists := congrArg String.toList same
  unfold joined at lists
  rw [toList_joined, toList_joined] at lists
  obtain ⟨front, back⟩ := append_cons_back plain alsoPlain lists
  exact ⟨String.toList_inj.mp front, String.toList_inj.mp back⟩

end Plain

end Foundation
