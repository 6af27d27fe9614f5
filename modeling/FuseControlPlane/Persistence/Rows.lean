/-
The tables of the policy store (`createSchema` and its migrations in `persistence/policyStore.ts`).

A row type has the columns that some modelled function reads or writes. What a `CHECK` says of one
column is in the column's type: amounts that must not be negative are natural numbers, and the state a
hold row remembers is one of `holdable`. Times are milliseconds. `Db` is the whole store.

* `ExecutionRow.committed`: what a row counts against a budget.
* `Db.openCase`: a mandate has an execution in `reconciliation_hold` without a resolution.
-/

import FuseControlPlane.Core.Service
import FuseControlPlane.Domain.Policy
import FuseControlPlane.Foundation.Table

namespace FuseControlPlane.Persistence

open Foundation Domain Identity FuseControlPlane.Core

/-! ### Rows -/

/-- `organizations`. -/
structure OrganizationRow where
  id : String
  deriving DecidableEq

/-- `agent_identities`. -/
structure AgentIdentityRow where
  organizationId : String
  id : String
  deriving DecidableEq

/-- `control_mandates`. -/
structure MandateRow where
  organizationId : String
  id : String
  maximumSpendAtomic : ℕ
  state : MandateState
  policyId : String
  policyVersion : ℤ
  expiresAt : Option ℤ
  deriving DecidableEq

/-- `mandate_agent_assignments`. -/
structure AssignmentRow where
  organizationId : String
  mandateId : String
  agentId : String
  deriving DecidableEq

/-- `mandate_branches`. -/
structure BranchRow where
  organizationId : String
  mandateId : String
  branchId : String
  parentBranchId : Option String
  agentId : String
  policyId : String
  policyVersion : ℤ
  allowedWorkloadClasses : List String
  maximumSpendAtomic : ℕ
  expiresAt : Option ℤ
  delegationHash : String
  authoritySource : String
  createdAt : ℤ
  createdBy : String
  deriving DecidableEq

/-- How much authority a branch has left, as recorded with a decision. -/
structure ExposureSnapshot where
  branchLimitAtomic : ℤ
  branchCommittedBeforeAtomic : ℤ
  requestReservationAtomic : ℤ
  maximumExposureAtomic : ℤ
  remainingAuthorityAtomic : ℤ
  deriving DecidableEq

/-- What a decision was made on. -/
structure PolicyDecisionInput where
  id : String
  requestId : String
  organizationId : String
  mandateId : String
  agentId : String
  agentCapabilities : List ApiCapability
  provider : String
  model : String
  branchId : Option String
  workloadClass : Option String
  estimatedCostAtomic : ℤ
  inputTokens : ℤ
  maxOutputTokens : ℤ
  spentHourAtomic : ℤ
  spentDayAtomic : ℤ
  mandateSpentAtomic : ℤ
  mandateMaximumAtomic : ℤ
  requestCountLastMinute : ℤ
  workload : Option WorkloadEvaluationInput
  exposure : Option ExposureSnapshot
  decidedAt : ℤ
  deriving DecidableEq

/-- `policy_decisions`. -/
structure StoredPolicyDecision where
  id : String
  requestId : String
  organizationId : String
  mandateId : String
  agentId : String
  policyId : String
  policyVersion : ℤ
  result : PolicyDecisionResult
  input : PolicyDecisionInput
  deriving DecidableEq

/-- The status of an execution. -/
inductive ExecutionStatus
  | denied | executing | completed | failed | reconciliationHold
  deriving DecidableEq

/-- `inference_executions`. -/
structure ExecutionRow where
  organizationId : String
  requestId : String
  mandateId : String
  agentId : String
  decisionId : String
  provider : String
  model : String
  branchId : Option String
  workloadClass : Option String
  requestFingerprint : String
  status : ExecutionStatus
  reservedCostAtomic : ℕ
  actualCostAtomic : Option ℕ
  inputTokens : ℤ
  maxOutputTokens : ℤ
  responseJson : Option ProviderResult
  failureCode : Option String
  createdAt : ℤ
  updatedAt : ℤ
  deriving DecidableEq

/-- An operator's verdict on a reconciliation case. -/
inductive ReconciliationResolution
  | settle | confirmNotBilled
  deriving DecidableEq

/-- `reconciliation_resolutions`. -/
structure ResolutionRow where
  organizationId : String
  requestId : String
  resolution : ReconciliationResolution
  actualCostAtomic : ℕ
  note : String
  externalReference : String
  resolvedBy : String
  deriving DecidableEq

/-- `mandate_reconciliation_holds`. -/
structure HoldRow where
  organizationId : String
  mandateId : String
  priorState : MandateState
  checked : priorState ∈ holdable
  deriving DecidableEq

instance : Keyed OrganizationRow String := ⟨(·.id)⟩

instance : Keyed AgentIdentityRow (String × String) := ⟨fun row => (row.organizationId, row.id)⟩

instance : Keyed PolicyVersion (String × String × ℤ) :=
  ⟨fun row => (row.organizationId, row.id, row.version)⟩

instance : Keyed MandateRow (String × String) := ⟨fun row => (row.organizationId, row.id)⟩

instance : Keyed AssignmentRow (String × String × String) :=
  ⟨fun row => (row.organizationId, row.mandateId, row.agentId)⟩

instance : Keyed BranchRow (String × String × String) :=
  ⟨fun row => (row.organizationId, row.mandateId, row.branchId)⟩

instance : Keyed StoredPolicyDecision (String × String) :=
  ⟨fun row => (row.organizationId, row.id)⟩

instance : Keyed ExecutionRow (String × String) :=
  ⟨fun row => (row.organizationId, row.requestId)⟩

instance : Keyed ResolutionRow (String × String) :=
  ⟨fun row => (row.organizationId, row.requestId)⟩

instance : Keyed HoldRow (String × String) := ⟨fun row => (row.organizationId, row.mandateId)⟩

/-! ### What a row counts -/

namespace ExecutionRow

/-- The failure code of a case that was billed without a response. -/
def billedNoResponse : String := "RECONCILED_BILLED_NO_RESPONSE"

/-- What the row counts against a budget: its reservation while the outcome is open, its actual cost
once it is completed or billed without a response. -/
def committed (row : ExecutionRow) : ℕ :=
  match row.status with
  | .executing => row.reservedCostAtomic
  | .reconciliationHold => row.reservedCostAtomic
  | .completed => row.actualCostAtomic.getD 0
  | .failed => if row.failureCode = some billedNoResponse then row.actualCostAtomic.getD 0 else 0
  | .denied => 0

/-- The row belongs to a mandate. -/
def ofMandate (organizationId mandateId : String) (row : ExecutionRow) : Bool :=
  row.organizationId = organizationId ∧ row.mandateId = mandateId

end ExecutionRow

/-! ### The store -/

/-- All tables. -/
structure Db where
  organizations : Table OrganizationRow
  agentIdentities : Table AgentIdentityRow
  policyVersions : Table PolicyVersion
  controlMandates : Table MandateRow
  mandateAgentAssignments : Table AssignmentRow
  mandateBranches : Table BranchRow
  policyDecisions : Table StoredPolicyDecision
  inferenceExecutions : Table ExecutionRow
  reconciliationResolutions : Table ResolutionRow
  mandateReconciliationHolds : Table HoldRow

namespace Db

/-- The store right after `createSchema`. -/
def empty : Db :=
  ⟨.empty, .empty, .empty, .empty, .empty, .empty, .empty, .empty, .empty, .empty⟩

variable (db : Db)

def mandate (organizationId mandateId : String) : Option MandateRow :=
  db.controlMandates.find? (organizationId, mandateId)

def execution (organizationId requestId : String) : Option ExecutionRow :=
  db.inferenceExecutions.find? (organizationId, requestId)

def resolution (organizationId requestId : String) : Option ResolutionRow :=
  db.reconciliationResolutions.find? (organizationId, requestId)

def hold (organizationId mandateId : String) : Option HoldRow :=
  db.mandateReconciliationHolds.find? (organizationId, mandateId)

def branch (organizationId mandateId branchId : String) : Option BranchRow :=
  db.mandateBranches.find? (organizationId, mandateId, branchId)

def policy (organizationId policyId : String) (version : ℤ) : Option PolicyVersion :=
  db.policyVersions.find? (organizationId, policyId, version)

/-- An execution in `reconciliation_hold` without a resolution: a row of `listReconciliationCases`. -/
def isOpenCase (row : ExecutionRow) : Bool :=
  row.status = .reconciliationHold ∧ db.resolution row.organizationId row.requestId = none

/-- The mandate has an open reconciliation case. -/
def openCase (organizationId mandateId : String) : Bool :=
  db.inferenceExecutions.rows.any fun row =>
    row.ofMandate organizationId mandateId && db.isOpenCase row

/-- The committed spend of a mandate. -/
def committedSpend (organizationId mandateId : String) : ℕ :=
  db.inferenceExecutions.total fun row =>
    if row.ofMandate organizationId mandateId then row.committed else 0

end Db

end FuseControlPlane.Persistence
