/-
Completion, holds, failure and reconciliation of executions (`persistence/policyStore.ts`).

* `completeInference`: an actual cost above the reservation is held for reconciliation.
* `holdInference`, `failInference`: the outcome is unknown, or nothing was sent.
* `resolveReconciliation`: an operator settles a held execution; `releaseMandate` gives the mandate
  its state back when no open case is left.
* `listReconciliationCases`: the executions that wait for an operator.

Shadow bookkeeping of completed executions runs on other tables and is not part of this model.
-/

import FuseControlPlane.Persistence.Mandates

namespace FuseControlPlane.Persistence

open Foundation Foundation.JavaScript Domain Identity FuseControlPlane.Core Program

/-! ### Inputs and replies -/

structure CompleteInferenceInput where
  requestId : String
  organizationId : String
  actualCostAtomic : ℤ
  response : ProviderResult
  completedAt : Option ℤ

structure HoldInferenceInput where
  requestId : String
  organizationId : String
  reasonCode : String
  response : Option ProviderResult
  heldAt : Option ℤ

structure FailInferenceInput where
  requestId : String
  organizationId : String
  failureCode : String
  failedAt : Option ℤ

structure ResolveReconciliationInput where
  organizationId : String
  requestId : String
  resolution : ReconciliationResolution
  actualCostAtomic : Option ℤ
  note : String
  externalReference : String
  context : PolicyMutationContext

/-- How a completion was persisted. -/
inductive CompletionStatus
  | completed | reconciliationHold
  deriving DecidableEq

/-- The reply to a completion. -/
structure CompletionPersistenceResult where
  status : CompletionStatus
  reservedCostAtomic : ℕ
  actualCostAtomic : ℤ
  response : ProviderResult
  deriving DecidableEq

/-! ### The life of an execution -/

/-- What PostgreSQL answers to a time it cannot read. -/
def invalidTimestamp : String := "invalid input syntax for type timestamp with time zone"

def completeInference (input : CompleteInferenceInput) :
    Transaction CompletionPersistenceResult := do
  throwUnless (0 ≤ input.actualCostAtomic) "ACTUAL_COST_INVALID"
  let found ← perform (.selectExecutionForUpdate input.organizationId input.requestId)
  let row ← orThrow found "INFERENCE_EXECUTION_NOT_FOUND"
  throwUnless (row.status = .executing) "INFERENCE_EXECUTION_NOT_EXECUTING"
  let completedAt ← orThrow input.completedAt invalidTimestamp
  if (row.reservedCostAtomic : ℤ) < input.actualCostAtomic then do
    perform (.updateExecution input.organizationId input.requestId
      (.overrun input.actualCostAtomic.toNat input.response completedAt))
    holdMandateForReconciliation input.organizationId row.mandateId
    return ⟨.reconciliationHold, row.reservedCostAtomic, input.actualCostAtomic, input.response⟩
  else do
    perform (.updateExecution input.organizationId input.requestId
      (.completed input.actualCostAtomic.toNat input.response completedAt))
    return ⟨.completed, row.reservedCostAtomic, input.actualCostAtomic, input.response⟩

/-- The shape of a hold reason, `^[A-Z0-9_]{3,64}$`. -/
def isHoldReason (text : String) : Bool :=
  matchesClass (fun character => character.isUpper || character.isDigit || character == '_') 3 64 text

def holdInference (input : HoldInferenceInput) : Transaction Unit := do
  throwUnless (isHoldReason input.reasonCode) "HOLD_REASON_INVALID"
  let found ← perform (.selectExecutionForUpdate input.organizationId input.requestId)
  let row ← orThrow found "EXECUTION_NOT_ACTIVE"
  throwUnless (row.status = .executing) "EXECUTION_NOT_ACTIVE"
  let heldAt ← orThrow input.heldAt invalidTimestamp
  perform (.updateExecution input.organizationId input.requestId
    (.held input.response input.reasonCode heldAt))
  holdMandateForReconciliation input.organizationId row.mandateId

def failInference (input : FailInferenceInput) : Transaction Unit := do
  let failedAt ← orThrow input.failedAt invalidTimestamp
  perform (.updateExecution input.organizationId input.requestId
    (.failed input.failureCode failedAt))

/-- The cost a resolution settles at. -/
def resolutionCost (input : ResolveReconciliationInput) : Except String ℕ :=
  match input.resolution, input.actualCostAtomic with
  | .settle, some cost =>
    if 0 ≤ cost then .ok cost.toNat else .error "RECONCILIATION_ACTUAL_COST_REQUIRED"
  | .settle, none => .error "RECONCILIATION_ACTUAL_COST_REQUIRED"
  | .confirmNotBilled, some _ => .error "RECONCILIATION_ACTUAL_COST_FORBIDDEN"
  | .confirmNotBilled, none => .ok 0

/-- The stored resolution is the one that is asked for again. -/
def isExactReplay (existing : ResolutionRow) (input : ResolveReconciliationInput)
    (actualCostAtomic : ℕ) : Bool :=
  existing.resolution = input.resolution ∧ existing.actualCostAtomic = actualCostAtomic ∧
    existing.note = input.note ∧ existing.externalReference = input.externalReference ∧
    existing.resolvedBy = input.context.actorId

/-- The row of a new resolution. -/
def newResolution (input : ResolveReconciliationInput) (actualCostAtomic : ℕ) : ResolutionRow where
  organizationId := input.organizationId
  requestId := input.requestId
  resolution := input.resolution
  actualCostAtomic := actualCostAtomic
  note := input.note
  externalReference := input.externalReference
  resolvedBy := input.context.actorId

/-- What a resolution makes of the execution. -/
def resolutionUpdate (resolution : ReconciliationResolution) (row : ExecutionRow)
    (actualCostAtomic : ℕ) (occurredAt : ℤ) : ExecutionUpdate :=
  match resolution, row.responseJson with
  | .settle, some _ => .settled actualCostAtomic occurredAt
  | .settle, none => .settledNoResponse actualCostAtomic occurredAt
  | .confirmNotBilled, _ => .notBilled actualCostAtomic occurredAt

/-- The state a hold gives back: an active mandate comes back paused. -/
def restoredState (priorState : MandateState) : MandateState :=
  if priorState = .active then .paused else priorState

/-- Give a mandate in `reconciliation_hold` its state back; in `closing` it stays. -/
def restoreMandate (organizationId mandateId : String) (state priorState : MandateState) :
    Transaction Unit :=
  if state = .reconciliationHold then
    perform (.updateMandate organizationId mandateId (.restore (restoredState priorState)))
  else throwUnless (state = .closing) ("RECONCILIATION_MANDATE_STATE_CONFLICT:" ++ state.text)

/-- Release the mandate of a resolved case, once no open case is left. -/
def releaseMandate (organizationId mandateId : String) : Transaction Unit := do
  let found ← perform (.selectMandateForUpdate organizationId mandateId)
  let mandate ← orThrow found "CONTROL_MANDATE_NOT_FOUND"
  let hold ← perform (.selectHold organizationId mandateId)
  let openCase ← perform (.selectOpenCase organizationId mandateId)
  match openCase, hold with
  | true, _ => pure ()
  | false, none =>
    throwUnless (mandate.state = .closed ∨ mandate.state = .expired)
      "RECONCILIATION_MANDATE_STATE_MISSING"
  | false, some row => do
    restoreMandate organizationId mandateId mandate.state row.priorState
    perform (.deleteHold organizationId mandateId)

def resolveReconciliation (input : ResolveReconciliationInput) : Transaction Unit := do
  let occurredAt ← validateContext input.context
  throwUnless (!isBlank input.organizationId) "RECONCILIATION_ORGANIZATION_REQUIRED"
  throwUnless (!isBlank input.requestId) "RECONCILIATION_REQUEST_REQUIRED"
  throwUnless (!isBlank input.note && length input.note ≤ 2000) "RECONCILIATION_NOTE_INVALID"
  throwUnless (!isBlank input.externalReference && length input.externalReference ≤ 512)
    "RECONCILIATION_REFERENCE_INVALID"
  let actualCostAtomic ← fromExcept (resolutionCost input)
  let found ← perform (.selectExecutionForUpdate input.organizationId input.requestId)
  let row ← orThrow found "INFERENCE_EXECUTION_NOT_FOUND"
  let prior ← perform (.selectResolution input.organizationId input.requestId)
  match prior with
  | some existing =>
    throwUnless (isExactReplay existing input actualCostAtomic) "RECONCILIATION_RESOLUTION_CONFLICT"
  | none => do
    throwUnless (row.status = .reconciliationHold) "RECONCILIATION_CASE_NOT_OPEN"
    execute (.insertResolution (newResolution input actualCostAtomic))
    perform (.updateExecution input.organizationId input.requestId
      (resolutionUpdate input.resolution row actualCostAtomic occurredAt))
    releaseMandate input.organizationId row.mandateId

/-! ### The open cases -/

/-- One entry of `listReconciliationCases`. -/
structure ReconciliationCase where
  requestId : String
  mandateId : String
  agentId : String
  provider : String
  model : String
  reasonCode : String
  reservedCostAtomic : ℕ
  reportedCostAtomic : Option ℕ
  hasProviderResponse : Bool
  heldAt : String
  deriving DecidableEq

/-- The entry of an execution. -/
def reconciliationCase (row : ExecutionRow) : ReconciliationCase where
  requestId := row.requestId
  mandateId := row.mandateId
  agentId := row.agentId
  provider := row.provider
  model := row.model
  reasonCode := row.failureCode.getD "COST_OVERRUN"
  reservedCostAtomic := row.reservedCostAtomic
  reportedCostAtomic := row.actualCostAtomic
  hasProviderResponse := row.responseJson.isSome
  heldAt := toISOString row.updatedAt

/-- The open cases of an organization, oldest first. Texts are ordered by code points here, as in
the `C` collation. -/
def listReconciliationCases (db : Db) (organizationId : String) :
    Except String (List ReconciliationCase) := do
  require (!isBlank organizationId) "RECONCILIATION_ORGANIZATION_REQUIRED"
  let rows := db.inferenceExecutions.rows.filter fun row =>
    row.organizationId = organizationId && db.isOpenCase row
  let oldestFirst := rows.insertionSort fun first second => first.updatedAt < second.updatedAt ∨
    first.updatedAt = second.updatedAt ∧ first.requestId ≤ second.requestId
  return oldestFirst.map reconciliationCase

end FuseControlPlane.Persistence
