/-
Runs of a total step function, with a condition on the steps.

`run step state actions` performs the actions in order. `Along step ok state actions` says that every
action of the run meets `ok` in the state it is performed in. `Along.invariant` is the induction: what
every such step preserves, every such run preserves. `Along.exact` is the same for a condition that
says exactly which steps preserve it; `Along.iff_prefix` says a condition of the beginnings of a run.
`Along.spent_le` bounds what a run costs by a potential that every step pays from.
-/

import Mathlib.Algebra.Order.Monoid.Defs
import Mathlib.Data.List.Basic

namespace Foundation

variable {σ α : Type} (step : σ → α → σ)

/-- Perform actions in order. -/
def run (state : σ) (actions : List α) : σ := actions.foldl step state

@[simp] theorem run_nil (state : σ) : run step state [] = state := rfl

@[simp] theorem run_cons (state : σ) (action : α) (actions : List α) :
    run step state (action :: actions) = run step (step state action) actions := rfl

theorem run_append (state : σ) (first second : List α) :
    run step state (first ++ second) = run step (run step state first) second :=
  List.foldl_append

/-- Every action of the run meets `ok` in the state it is performed in. -/
def Along (ok : σ → α → Prop) : σ → List α → Prop
  | _, [] => True
  | state, action :: actions => ok state action ∧ Along ok (step state action) actions

instance decidableAlong (ok : σ → α → Prop) [∀ state action, Decidable (ok state action)] :
    (state : σ) → (actions : List α) → Decidable (Along step ok state actions)
  | _, [] => isTrue trivial
  | state, action :: actions =>
    have := decidableAlong ok (step state action) actions
    inferInstanceAs (Decidable (ok state action ∧ Along step ok (step state action) actions))

/-- What a run costs, every step at its price in the state it is performed in. -/
def spent {M : Type} [AddMonoid M] (price : σ → α → M) : σ → List α → M
  | _, [] => 0
  | state, action :: actions => price state action + spent price (step state action) actions

variable {step}

namespace Along

variable {ok : σ → α → Prop} {state : σ}

theorem append {first second : List α} :
    Along step ok state (first ++ second) ↔
      Along step ok state first ∧ Along step ok (run step state first) second := by
  induction first generalizing state with
  | nil => simp [Along]
  | cons action actions ih =>
    show ok state action ∧ Along step ok _ (actions ++ second) ↔ (ok state action ∧ _) ∧ _
    rw [ih, and_assoc]
    rfl

/-- Two conditions along the same run. -/
theorem and {other : σ → α → Prop} {actions : List α} (first : Along step ok state actions)
    (second : Along step other state actions) :
    Along step (fun state action => ok state action ∧ other state action) state actions := by
  induction actions generalizing state with
  | nil => trivial
  | cons action actions ih => exact ⟨⟨first.1, second.1⟩, ih first.2 second.2⟩

/-- A condition holds along a run if it holds of every action after the ones before it. -/
theorem iff_prefix {actions : List α} : Along step ok state actions ↔
    ∀ earlier action, earlier ++ [action] <+: actions → ok (run step state earlier) action := by
  constructor
  · rintro along earlier action ⟨later, rfl⟩
    exact (append.mp (append.mp along).1).2.1
  · intro each
    induction actions generalizing state with
    | nil => trivial
    | cons action actions ih =>
      refine ⟨each [] action (List.prefix_append [action] actions), ih fun earlier later before => ?_⟩
      exact each (action :: earlier) later ((List.prefix_cons_inj action).mpr before)

/-- A condition on the actions alone holds along every run of such actions. -/
theorem of_forall {actions : List α} (each : ∀ action ∈ actions, ∀ state, ok state action) :
    Along step ok state actions := by
  induction actions generalizing state with
  | nil => trivial
  | cons action actions ih =>
    exact ⟨each action List.mem_cons_self _,
      ih fun later member => each later (List.mem_cons_of_mem _ member)⟩

/-- What every step of the run preserves, the run preserves. -/
theorem invariant {inv : σ → Prop} {actions : List α} (along : Along step ok state actions)
    (initial : inv state) (kept : ∀ state action, inv state → ok state action →
      inv (step state action)) : inv (run step state actions) := by
  induction actions generalizing state with
  | nil => exact initial
  | cons action actions ih => exact ih along.2 (kept _ _ initial along.1)

/-- A run costs no more than a potential that every step pays from. -/
theorem spent_le {M : Type} [AddCommMonoid M] [PartialOrder M] [IsOrderedAddMonoid M]
    {price : σ → α → M} {left : σ → M} {inv : σ → Prop} {actions : List α}
    (along : Along step ok state actions) (initial : inv state) (nonnegative : ∀ state, 0 ≤ left state)
    (kept : ∀ state action, inv state → ok state action → inv (step state action))
    (paid : ∀ state action, inv state → ok state action →
      price state action + left (step state action) ≤ left state) :
    spent step price state actions ≤ left state := by
  induction actions generalizing state with
  | nil => exact nonnegative state
  | cons action actions ih =>
    have later := ih along.2 (kept _ _ initial along.1)
    exact le_trans (add_le_add_right later _) (paid _ _ initial along.1)

/-- A condition that says of every step whether it preserves an invariant says it of every run. -/
theorem exact {inv sound : σ → Prop} (sound_step : ∀ state action, sound state → sound (step state action))
    (inv_step : ∀ state action, sound state → inv state → (inv (step state action) ↔ ok state action))
    (sound_start : sound state) (initial : inv state) (actions : List α) :
    (∀ earlier, earlier <+: actions → inv (run step state earlier)) ↔ Along step ok state actions := by
  induction actions generalizing state with
  | nil =>
    refine ⟨fun _ => trivial, fun _ earlier before => ?_⟩
    rw [List.prefix_nil.mp before]
    exact initial
  | cons action actions ih =>
    constructor
    · intro each
      have first : inv (step state action) := each [action] (List.prefix_append [action] actions)
      refine ⟨(inv_step state action sound_start initial).mp first,
        (ih (sound_step state action sound_start) first).mp fun earlier before => ?_⟩
      exact each (action :: earlier) ((List.prefix_cons_inj action).mpr before)
    · rintro ⟨first, later⟩ earlier before
      have kept := (inv_step state action sound_start initial).mpr first
      cases earlier with
      | nil => exact initial
      | cons head earlier =>
        obtain ⟨rfl, rest⟩ := List.cons_prefix_cons.mp before
        exact (ih (sound_step state head sound_start) kept).mpr later earlier rest

end Along

/-- What every step preserves, every run preserves. -/
theorem run_invariant {inv : σ → Prop} {state : σ} (initial : inv state)
    (kept : ∀ state action, inv state → inv (step state action)) (actions : List α) :
    inv (run step state actions) :=
  have free : Along step (fun _ _ => True) state actions := Along.of_forall fun _ _ _ => trivial
  free.invariant initial fun state action holds _ => kept state action holds

end Foundation
