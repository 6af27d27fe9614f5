/-
The SQL statements of the policy store.

`Sql β` has one constructor for each statement text, `β` being the rows it returns. Three functions
say what a statement does in the store it sees: `Sql.result` (the rows), `Sql.writes` (the row
writes) and `Sql.locks` (the rows it locks: those it selects `FOR UPDATE` and those it writes).
`sql` bundles them as a `Semantics`, so a transaction written over `Sql` has both readings of
`Foundation.ReadCommitted`.

* `ExecutionUpdate`, `MandateUpdate`: the `SET` lists of the `UPDATE` statements.
* `ExecutionUpdate.Preserves`: what no update of an execution changes.
* An `INSERT` that violates a constraint returns an error, which the caller throws.
-/

import FuseControlPlane.Foundation.ReadCommitted
import FuseControlPlane.Persistence.Rows

namespace FuseControlPlane.Persistence

open Foundation Domain Identity FuseControlPlane.Core

/-! ### Updates -/

/-- The `UPDATE inference_executions` statements. -/
inductive ExecutionUpdate
  | leaseExpired (retriedAt : ℤ)
  | overrun (actualCostAtomic : ℕ) (response : ProviderResult) (completedAt : ℤ)
  | completed (actualCostAtomic : ℕ) (response : ProviderResult) (completedAt : ℤ)
  | held (response : Option ProviderResult) (reasonCode : String) (heldAt : ℤ)
  | failed (failureCode : String) (failedAt : ℤ)
  | settled (actualCostAtomic : ℕ) (occurredAt : ℤ)
  | settledNoResponse (actualCostAtomic : ℕ) (occurredAt : ℤ)
  | notBilled (actualCostAtomic : ℕ) (occurredAt : ℤ)

namespace ExecutionUpdate

/-- The `WHERE` clause beyond the key: two of the statements ask for `status = 'executing'`. -/
def applies : ExecutionUpdate → ExecutionRow → Bool
  | leaseExpired _, row => row.status = .executing
  | failed _ _, row => row.status = .executing
  | _, _ => true

/-- The `SET` list. -/
def set : ExecutionUpdate → ExecutionRow → ExecutionRow
  | leaseExpired retriedAt, row =>
    { row with
      status := .reconciliationHold
      failureCode := some "EXECUTION_LEASE_EXPIRED"
      updatedAt := retriedAt }
  | overrun actualCostAtomic response completedAt, row =>
    { row with
      status := .reconciliationHold
      actualCostAtomic := some actualCostAtomic
      responseJson := some response
      updatedAt := completedAt }
  | completed actualCostAtomic response completedAt, row =>
    { row with
      status := .completed
      actualCostAtomic := some actualCostAtomic
      responseJson := some response
      updatedAt := completedAt }
  | held response reasonCode heldAt, row =>
    { row with
      status := .reconciliationHold
      responseJson := response
      failureCode := some reasonCode
      updatedAt := heldAt }
  | failed failureCode failedAt, row =>
    { row with
      status := .failed
      failureCode := some failureCode
      updatedAt := failedAt }
  | settled actualCostAtomic occurredAt, row =>
    { row with
      status := .completed
      actualCostAtomic := some actualCostAtomic
      failureCode := none
      updatedAt := occurredAt }
  | settledNoResponse actualCostAtomic occurredAt, row =>
    { row with
      status := .failed
      actualCostAtomic := some actualCostAtomic
      failureCode := some "RECONCILED_BILLED_NO_RESPONSE"
      updatedAt := occurredAt }
  | notBilled actualCostAtomic occurredAt, row =>
    { row with
      status := .failed
      actualCostAtomic := some actualCostAtomic
      failureCode := some "RECONCILED_NOT_BILLED"
      updatedAt := occurredAt }

/-- The columns no update changes. -/
structure Preserves (old new : ExecutionRow) : Prop where
  organizationId : new.organizationId = old.organizationId
  requestId : new.requestId = old.requestId
  mandateId : new.mandateId = old.mandateId
  decisionId : new.decisionId = old.decisionId
  branchId : new.branchId = old.branchId
  workloadClass : new.workloadClass = old.workloadClass
  requestFingerprint : new.requestFingerprint = old.requestFingerprint
  reservedCostAtomic : new.reservedCostAtomic = old.reservedCostAtomic
  createdAt : new.createdAt = old.createdAt

theorem Preserves.refl (row : ExecutionRow) : Preserves row row :=
  ⟨rfl, rfl, rfl, rfl, rfl, rfl, rfl, rfl, rfl⟩

/-- No update moves an execution to another mandate. -/
theorem Preserves.ofMandate {old new : ExecutionRow} (preserves : Preserves old new)
    (organizationId mandateId : String) :
    new.ofMandate organizationId mandateId = old.ofMandate organizationId mandateId := by
  simp only [ExecutionRow.ofMandate, preserves.organizationId, preserves.mandateId]

theorem set_preserves (update : ExecutionUpdate) (row : ExecutionRow) :
    Preserves row (update.set row) := by
  cases update <;> constructor <;> rfl

@[simp] theorem key_set (update : ExecutionUpdate) (row : ExecutionRow) :
    Keyed.key (update.set row) = Keyed.key row := by
  cases update <;> rfl

end ExecutionUpdate

/-- The `UPDATE control_mandates SET state` statements. -/
inductive MandateUpdate
  | state (target : MandateState)
  | restore (target : MandateState)

namespace MandateUpdate

/-- The `WHERE` clause beyond the key: a restore asks for `state = 'reconciliation_hold'`. -/
def applies : MandateUpdate → MandateRow → Bool
  | state _, _ => true
  | restore _, row => row.state = .reconciliationHold

/-- The state that is set. -/
def target : MandateUpdate → MandateState
  | state target => target
  | restore target => target

end MandateUpdate

/-! ### Sums -/

namespace ExecutionRow

/-- Committed, in the words of the window counters of `admitInference`. -/
def counterSpend (row : ExecutionRow) : ℕ :=
  if row.status = .executing ∨ row.status = .completed ∨ row.status = .reconciliationHold ∨
      row.failureCode = some billedNoResponse then
    if row.status = .completed ∨ row.failureCode = some billedNoResponse then
      row.actualCostAtomic.getD 0
    else row.reservedCostAtomic
  else 0

/-- Committed, in the words of the usage query by workload class. -/
def usageSpend (row : ExecutionRow) : ℕ :=
  if row.status = .executing ∨ row.status = .reconciliationHold then row.reservedCostAtomic
  else if row.status = .completed ∨ row.failureCode = some billedNoResponse then
    row.actualCostAtomic.getD 0
  else 0

/-- The row counts as a request. -/
def requestCount (row : ExecutionRow) : ℕ := if row.status = .denied then 0 else 1

end ExecutionRow

/-- The window counters of an admission. -/
structure SpendCounters where
  spentHourAtomic : ℕ
  spentDayAtomic : ℕ
  mandateSpentAtomic : ℕ
  requestCountLastMinute : ℕ
  deriving DecidableEq

/-- The usage of one workload class on a branch. -/
structure WorkloadUsageRow where
  workloadClass : String
  invocationCount : ℕ
  spentAtomic : ℕ
  deriving DecidableEq

/-- A mandate joined with its policy. -/
structure MandatePolicyRow where
  mandate : MandateRow
  policy : PolicyVersion

namespace Db

variable (db : Db)

/-- The executions of a mandate. -/
def executionsOf (organizationId mandateId : String) : List ExecutionRow :=
  db.inferenceExecutions.rows.filter (·.ofMandate organizationId mandateId)

/-- The executions of a mandate on one branch. -/
def branchExecutions (organizationId mandateId branchId : String) : List ExecutionRow :=
  (db.executionsOf organizationId mandateId).filter fun row => row.branchId = some branchId

def spendCounters (organizationId mandateId : String) (hourStart dayStart minuteStart : ℤ) :
    SpendCounters :=
  let rows := db.executionsOf organizationId mandateId
  { spentHourAtomic := (rows.map fun row =>
      if hourStart ≤ row.createdAt then row.counterSpend else 0).sum
    spentDayAtomic := (rows.map fun row =>
      if dayStart ≤ row.createdAt then row.counterSpend else 0).sum
    mandateSpentAtomic := (rows.map ExecutionRow.counterSpend).sum
    requestCountLastMinute := (rows.map fun row =>
      if minuteStart ≤ row.createdAt then row.requestCount else 0).sum }

/-- `GROUP BY workload_class` over the executions of a branch that have one. -/
def workloadUsage (organizationId mandateId branchId : String) : List WorkloadUsageRow :=
  let rows := db.branchExecutions organizationId mandateId branchId
  (rows.filterMap (·.workloadClass)).dedup.map fun workloadClass =>
    let group := rows.filter fun row => row.workloadClass = some workloadClass
    { workloadClass
      invocationCount := (group.map ExecutionRow.requestCount).sum
      spentAtomic := (group.map ExecutionRow.usageSpend).sum }

/-- The authority handed to the direct children of a branch. -/
def childAuthority (organizationId mandateId branchId : String) : ℕ :=
  db.mandateBranches.total fun row =>
    if row.organizationId = organizationId ∧ row.mandateId = mandateId ∧
      row.parentBranchId = some branchId then row.maximumSpendAtomic else 0

def mandatePolicy (organizationId mandateId : String) : Option MandatePolicyRow := do
  let mandate ← db.mandate organizationId mandateId
  let policy ← db.policy organizationId mandate.policyId mandate.policyVersion
  return ⟨mandate, policy⟩

end Db

/-! ### Constraints -/

namespace Db

variable (db : Db)

/-- A unique index admits the new key. -/
def unique {α : Type} (holder : Option α) (index : String) : Except String Unit :=
  require holder.isNone ("unique_violation " ++ index)

/-- A foreign key finds the row it refers to. -/
def references {α : Type} (referenced : Option α) (table : String) : Except String Unit :=
  require referenced.isSome ("foreign_key_violation " ++ table)

def checkOrganization (row : OrganizationRow) : Except String Unit :=
  unique (db.organizations.find? row.id) "organizations"

def checkAgentIdentity (row : AgentIdentityRow) : Except String Unit := do
  unique (db.agentIdentities.find? (row.organizationId, row.id)) "agent_identities"
  references (db.organizations.find? row.organizationId) "organizations"

def checkPolicyVersion (row : PolicyVersion) : Except String Unit := do
  unique (db.policy row.organizationId row.id row.version) "policy_versions"
  references (db.organizations.find? row.organizationId) "organizations"

def checkMandate (row : MandateRow) : Except String Unit := do
  unique (db.mandate row.organizationId row.id) "control_mandates"
  references (db.organizations.find? row.organizationId) "organizations"
  references (db.policy row.organizationId row.policyId row.policyVersion) "policy_versions"

def checkAssignment (row : AssignmentRow) : Except String Unit := do
  unique (db.mandateAgentAssignments.find? (row.organizationId, row.mandateId, row.agentId))
    "mandate_agent_assignments"
  references (db.mandate row.organizationId row.mandateId) "control_mandates"
  references (db.agentIdentities.find? (row.organizationId, row.agentId)) "agent_identities"

def checkBranch (row : BranchRow) : Except String Unit := do
  unique (db.branch row.organizationId row.mandateId row.branchId) "mandate_branches"
  unique (db.mandateBranches.rows.find? fun other =>
    other.organizationId = row.organizationId ∧ other.delegationHash = row.delegationHash)
    "mandate_branches(delegation_hash)"
  references (db.mandate row.organizationId row.mandateId) "control_mandates"
  references (db.agentIdentities.find? (row.organizationId, row.agentId)) "agent_identities"
  references (db.policy row.organizationId row.policyId row.policyVersion) "policy_versions"
  match row.parentBranchId with
  | none => .ok ()
  | some parent => references (db.branch row.organizationId row.mandateId parent) "mandate_branches"

def checkDecision (row : StoredPolicyDecision) : Except String Unit := do
  unique (db.policyDecisions.find? (row.organizationId, row.id)) "policy_decisions"
  unique (db.policyDecisions.rows.find? fun other =>
    other.organizationId = row.organizationId ∧ other.requestId = row.requestId)
    "policy_decisions(request_id)"
  references (db.mandate row.organizationId row.mandateId) "control_mandates"
  references (db.policy row.organizationId row.policyId row.policyVersion) "policy_versions"
  references (db.agentIdentities.find? (row.organizationId, row.agentId)) "agent_identities"

def checkExecution (row : ExecutionRow) : Except String Unit := do
  unique (db.execution row.organizationId row.requestId) "inference_executions"
  references (db.mandate row.organizationId row.mandateId) "control_mandates"
  references (db.policyDecisions.find? (row.organizationId, row.decisionId)) "policy_decisions"
  references (db.agentIdentities.find? (row.organizationId, row.agentId)) "agent_identities"

def checkResolution (row : ResolutionRow) : Except String Unit := do
  unique (db.resolution row.organizationId row.requestId) "reconciliation_resolutions"
  references (db.execution row.organizationId row.requestId) "inference_executions"

def checkHold (row : HoldRow) : Except String Unit :=
  references (db.mandate row.organizationId row.mandateId) "control_mandates"

end Db

/-! ### Statements -/

/-- The statements, each with the type of its result. -/
inductive Sql : Type → Type
  | insertOrganization (row : OrganizationRow) : Sql (Except String Unit)
  | insertAgentIdentity (row : AgentIdentityRow) : Sql (Except String Unit)
  | insertPolicyVersion (row : PolicyVersion) : Sql (Except String Unit)
  | insertMandate (row : MandateRow) : Sql (Except String Unit)
  | insertAssignment (row : AssignmentRow) : Sql (Except String Unit)
  | insertBranch (row : BranchRow) : Sql (Except String Unit)
  | insertDecision (row : StoredPolicyDecision) : Sql (Except String Unit)
  | insertExecution (row : ExecutionRow) : Sql (Except String Unit)
  | insertResolution (row : ResolutionRow) : Sql (Except String Unit)
  /-- `ON CONFLICT (organization_id, mandate_id) DO NOTHING`. -/
  | insertHold (row : HoldRow) : Sql (Except String Unit)
  | selectMandateForUpdate (organizationId mandateId : String) : Sql (Option MandateRow)
  | selectMandatePolicyForUpdate (organizationId mandateId : String) :
      Sql (Option MandatePolicyRow)
  | selectAssignment (organizationId mandateId agentId : String) : Sql Bool
  | selectBranch (organizationId mandateId branchId : String) : Sql (Option BranchRow)
  | selectBranchForUpdate (organizationId mandateId branchId : String) : Sql (Option BranchRow)
  | selectChildAuthority (organizationId mandateId branchId : String) : Sql ℕ
  | selectSpendCounters (organizationId mandateId : String) (hourStart dayStart minuteStart : ℤ) :
      Sql SpendCounters
  | selectWorkloadUsage (organizationId mandateId branchId : String) : Sql (List WorkloadUsageRow)
  | selectDecision (organizationId decisionId : String) : Sql (Option StoredPolicyDecision)
  | selectExecution (organizationId requestId : String) : Sql (Option ExecutionRow)
  | selectExecutionForUpdate (organizationId requestId : String) : Sql (Option ExecutionRow)
  | selectResolution (organizationId requestId : String) : Sql (Option ResolutionRow)
  | selectHold (organizationId mandateId : String) : Sql (Option HoldRow)
  | selectOpenCase (organizationId mandateId : String) : Sql Bool
  | updateMandate (organizationId mandateId : String) (update : MandateUpdate) : Sql Unit
  | updateMandatePolicy (organizationId mandateId policyId : String) (policyVersion : ℤ) :
      Sql (Except String Unit)
  | updateExecution (organizationId requestId : String) (update : ExecutionUpdate) : Sql Unit
  | deleteHold (organizationId mandateId : String) : Sql Unit

/-- A write of one row. -/
inductive Write
  | organization (row : OrganizationRow)
  | agentIdentity (row : AgentIdentityRow)
  | policyVersion (row : PolicyVersion)
  | mandate (row : MandateRow)
  | assignment (row : AssignmentRow)
  | branch (row : BranchRow)
  | decision (row : StoredPolicyDecision)
  | execution (row : ExecutionRow)
  | resolution (row : ResolutionRow)
  | hold (row : HoldRow)
  | removeHold (organizationId mandateId : String)

/-- A row, or a key of a unique index, that a transaction keeps to itself. -/
inductive Lock
  | organization (id : String)
  | agentIdentity (organizationId id : String)
  | policyVersion (organizationId id : String) (version : ℤ)
  | mandate (organizationId id : String)
  | assignment (organizationId mandateId agentId : String)
  | branch (organizationId mandateId branchId : String)
  | delegationHash (organizationId hash : String)
  | decision (organizationId id : String)
  | decisionRequest (organizationId requestId : String)
  | execution (organizationId requestId : String)
  | resolution (organizationId requestId : String)
  | hold (organizationId mandateId : String)
  deriving DecidableEq

namespace Write

/-- Write the row. -/
def apply (write : Write) (db : Db) : Db :=
  match write with
  | organization row => { db with organizations := db.organizations.put row }
  | agentIdentity row => { db with agentIdentities := db.agentIdentities.put row }
  | policyVersion row => { db with policyVersions := db.policyVersions.put row }
  | mandate row => { db with controlMandates := db.controlMandates.put row }
  | assignment row => { db with mandateAgentAssignments := db.mandateAgentAssignments.put row }
  | branch row => { db with mandateBranches := db.mandateBranches.put row }
  | decision row => { db with policyDecisions := db.policyDecisions.put row }
  | execution row => { db with inferenceExecutions := db.inferenceExecutions.put row }
  | resolution row => { db with reconciliationResolutions := db.reconciliationResolutions.put row }
  | hold row => { db with mandateReconciliationHolds := db.mandateReconciliationHolds.put row }
  | removeHold organizationId mandateId =>
    { db with
      mandateReconciliationHolds :=
        db.mandateReconciliationHolds.erase (organizationId, mandateId) }

/-- The locks a write takes. -/
def locks : Write → List Lock
  | organization row => [.organization row.id]
  | agentIdentity row => [.agentIdentity row.organizationId row.id]
  | policyVersion row => [.policyVersion row.organizationId row.id row.version]
  | mandate row => [.mandate row.organizationId row.id]
  | assignment row => [.assignment row.organizationId row.mandateId row.agentId]
  | branch row =>
    [.branch row.organizationId row.mandateId row.branchId,
      .delegationHash row.organizationId row.delegationHash]
  | decision row =>
    [.decision row.organizationId row.id, .decisionRequest row.organizationId row.requestId]
  | execution row => [.execution row.organizationId row.requestId]
  | resolution row => [.resolution row.organizationId row.requestId]
  | hold row => [.hold row.organizationId row.mandateId]
  | removeHold organizationId mandateId => [.hold organizationId mandateId]

end Write

namespace Sql

/-- The result of a statement in the store it sees. -/
def result {β : Type} (statement : Sql β) (db : Db) : β :=
  match statement with
  | insertOrganization row => db.checkOrganization row
  | insertAgentIdentity row => db.checkAgentIdentity row
  | insertPolicyVersion row => db.checkPolicyVersion row
  | insertMandate row => db.checkMandate row
  | insertAssignment row => db.checkAssignment row
  | insertBranch row => db.checkBranch row
  | insertDecision row => db.checkDecision row
  | insertExecution row => db.checkExecution row
  | insertResolution row => db.checkResolution row
  | insertHold row => db.checkHold row
  | selectMandateForUpdate organizationId mandateId => db.mandate organizationId mandateId
  | selectMandatePolicyForUpdate organizationId mandateId =>
    db.mandatePolicy organizationId mandateId
  | selectAssignment organizationId mandateId agentId =>
    (db.mandateAgentAssignments.find? (organizationId, mandateId, agentId)).isSome
  | selectBranch organizationId mandateId branchId => db.branch organizationId mandateId branchId
  | selectBranchForUpdate organizationId mandateId branchId =>
    db.branch organizationId mandateId branchId
  | selectChildAuthority organizationId mandateId branchId =>
    db.childAuthority organizationId mandateId branchId
  | selectSpendCounters organizationId mandateId hourStart dayStart minuteStart =>
    db.spendCounters organizationId mandateId hourStart dayStart minuteStart
  | selectWorkloadUsage organizationId mandateId branchId =>
    db.workloadUsage organizationId mandateId branchId
  | selectDecision organizationId decisionId =>
    db.policyDecisions.find? (organizationId, decisionId)
  | selectExecution organizationId requestId => db.execution organizationId requestId
  | selectExecutionForUpdate organizationId requestId => db.execution organizationId requestId
  | selectResolution organizationId requestId => db.resolution organizationId requestId
  | selectHold organizationId mandateId => db.hold organizationId mandateId
  | selectOpenCase organizationId mandateId => db.openCase organizationId mandateId
  | updateMandate _ _ _ => ()
  | updateMandatePolicy organizationId mandateId policyId policyVersion =>
    match db.mandate organizationId mandateId with
    | some _ => Db.references (db.policy organizationId policyId policyVersion) "policy_versions"
    | none => .ok ()
  | updateExecution _ _ _ => ()
  | deleteHold _ _ => ()

/-- An insert writes its row when no constraint is violated. -/
def inserted (checked : Except String Unit) (write : Write) : List Write :=
  match checked with
  | .ok _ => [write]
  | .error _ => []

/-- The writes of a statement in the store it sees. -/
def writes {β : Type} (statement : Sql β) (db : Db) : List Write :=
  match statement with
  | insertOrganization row => inserted (db.checkOrganization row) (.organization row)
  | insertAgentIdentity row => inserted (db.checkAgentIdentity row) (.agentIdentity row)
  | insertPolicyVersion row => inserted (db.checkPolicyVersion row) (.policyVersion row)
  | insertMandate row => inserted (db.checkMandate row) (.mandate row)
  | insertAssignment row => inserted (db.checkAssignment row) (.assignment row)
  | insertBranch row => inserted (db.checkBranch row) (.branch row)
  | insertDecision row => inserted (db.checkDecision row) (.decision row)
  | insertExecution row => inserted (db.checkExecution row) (.execution row)
  | insertResolution row => inserted (db.checkResolution row) (.resolution row)
  | insertHold row =>
    if (db.hold row.organizationId row.mandateId).isSome then []
    else inserted (db.checkHold row) (.hold row)
  | updateMandate organizationId mandateId update =>
    match db.mandate organizationId mandateId with
    | some row => if update.applies row then [.mandate { row with state := update.target }] else []
    | none => []
  | updateMandatePolicy organizationId mandateId policyId policyVersion =>
    match db.mandate organizationId mandateId with
    | some row =>
      inserted (Db.references (db.policy organizationId policyId policyVersion) "policy_versions")
        (.mandate { row with policyId, policyVersion })
    | none => []
  | updateExecution organizationId requestId update =>
    match db.execution organizationId requestId with
    | some row => if update.applies row then [.execution (update.set row)] else []
    | none => []
  | deleteHold organizationId mandateId =>
    if (db.hold organizationId mandateId).isSome then [.removeHold organizationId mandateId] else []
  | _ => []

/-- The rows a statement selects `FOR UPDATE`. -/
def selectedForUpdate {β : Type} (statement : Sql β) (db : Db) : List Lock :=
  match statement with
  | selectMandateForUpdate organizationId mandateId =>
    if (db.mandate organizationId mandateId).isSome then [.mandate organizationId mandateId] else []
  | selectMandatePolicyForUpdate organizationId mandateId =>
    match db.mandatePolicy organizationId mandateId with
    | some row =>
      [.mandate organizationId mandateId,
        .policyVersion organizationId row.mandate.policyId row.mandate.policyVersion]
    | none => []
  | selectBranchForUpdate organizationId mandateId branchId =>
    if (db.branch organizationId mandateId branchId).isSome then
      [.branch organizationId mandateId branchId]
    else []
  | selectExecutionForUpdate organizationId requestId =>
    if (db.execution organizationId requestId).isSome then [.execution organizationId requestId]
    else []
  | _ => []

/-- The locks of a statement: the rows it selects for update and the rows it writes. -/
def locks {β : Type} (statement : Sql β) (db : Db) : List Lock :=
  statement.selectedForUpdate db ++ (statement.writes db).flatMap Write.locks

end Sql

/-- The statements as a semantics. -/
def sql : Semantics Sql Db Write Lock where
  apply := Write.apply
  locks := Sql.locks
  writes := Sql.writes
  result := Sql.result

/-- A transaction of the policy store. -/
abbrev Transaction (α : Type) : Type 1 := Program Sql String α

/-- Run a statement and throw the constraint violation it may return. -/
def execute (statement : Sql (Except String Unit)) : Transaction Unit := do
  let checked ← Program.perform statement
  Program.fromExcept checked

end FuseControlPlane.Persistence
