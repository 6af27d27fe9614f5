/-
The lifecycle of a control mandate (`domain/lifecycles.ts`, `persistence/policyStore.ts`).

* `mandateTransitions`: the moves an operator may make.
* `holdable`: the states a reconciliation hold is taken from, in the order of the source.
-/

import Mathlib.Data.List.Basic

namespace FuseControlPlane.Domain

/-- The state of a control mandate. -/
inductive MandateState
  | draft | active | paused | closing | closed | exhausted | tripped | expired
  | reconciliationHold
  deriving DecidableEq

namespace MandateState

/-- The text stored in the database. -/
def text : MandateState → String
  | draft => "draft"
  | active => "active"
  | paused => "paused"
  | closing => "closing"
  | closed => "closed"
  | exhausted => "exhausted"
  | tripped => "tripped"
  | expired => "expired"
  | reconciliationHold => "reconciliation_hold"

end MandateState

/-- The operator's transition table. -/
def mandateTransitions : MandateState → List MandateState
  | .draft => [.active, .expired]
  | .active => [.paused, .closing, .exhausted, .tripped, .expired, .reconciliationHold]
  | .paused => [.active, .closing, .expired, .reconciliationHold]
  | .closing => [.closed, .reconciliationHold]
  | .closed => []
  | .exhausted => [.closing, .reconciliationHold]
  | .tripped => [.active, .closing, .reconciliationHold]
  | .expired => [.closing]
  | .reconciliationHold => [.closing]

/-- The states a mandate is put on hold from, and the states a hold row may remember. -/
def holdable : List MandateState := [.active, .paused, .closing, .exhausted, .tripped]

/-- No transition leads back to a draft. -/
theorem not_draft_of_transition {source target : MandateState}
    (allowed : target ∈ mandateTransitions source) : target ≠ .draft := by
  rintro rfl
  cases source <;> simp [mandateTransitions] at allowed

end FuseControlPlane.Domain
