/-
Admission of inference requests (`admitInference`, `previewInference` and `admissionFromExecution` in
`persistence/policyStore.ts`).

* `admitInference`: a known request is answered from its row, a new one is decided on and recorded.
* `admissionFromExecution`: the replies to a known request. A request whose worker is overdue is put
  on hold here.
* `admitNew`: counters, branch usage, policy evaluation, and the two inserts.

The hooks of the reliability protocol run on other tables and are not part of this model; neither is
the shadow evidence a completed reply may carry.
-/

import FuseControlPlane.Persistence.Mandates

namespace FuseControlPlane.Persistence

open Foundation Foundation.JavaScript Domain Identity FuseControlPlane.Core Program

/-! ### Inputs and replies -/

structure AdmitInferenceInput where
  requestId : String
  organizationId : String
  mandateId : String
  agentId : String
  agentCapabilities : List ApiCapability
  provider : String
  model : String
  branchId : Option String
  workloadClass : Option String
  estimatedCostAtomic : ℤ
  inputTokens : ℤ
  maxOutputTokens : ℤ
  requestFingerprint : String
  decidedAt : Option ℤ

/-- The reply to an admission. -/
inductive AdmissionResult
  | execute (decision : StoredPolicyDecision) (reservedCostAtomic : ℤ)
  | denied (decision : StoredPolicyDecision)
  | inProgress
  | failed
  | completed (decision : StoredPolicyDecision) (reservedCostAtomic actualCostAtomic : ℤ)
      (response : ProviderResult)
  deriving DecidableEq

/-! ### The decision -/

/-- The branch and workload class a request names, when both are non-empty. -/
def AdmitInferenceInput.scope (input : AdmitInferenceInput) : Option (String × String) :=
  match input.branchId, input.workloadClass with
  | some branchId, some workloadClass =>
    if branchId ≠ "" ∧ workloadClass ≠ "" then some (branchId, workloadClass) else none
  | _, _ => none

/-- What an admission reads about the branch a request names. -/
structure WorkloadScope where
  branchId : String
  workloadClass : String
  branch : Option BranchRow
  usageByClass : List WorkloadUsageRow
  childAuthority : ℕ

namespace WorkloadScope

/-- What earlier requests of a class spent on the branch. -/
def spentOn (scope : WorkloadScope) (workloadClass : String) : ℕ :=
  ((scope.usageByClass.find? (·.workloadClass = workloadClass)).map (·.spentAtomic)).getD 0

/-- The branch's spend and the authority it handed on. -/
def branchSpentAtomic (scope : WorkloadScope) : ℕ :=
  (scope.usageByClass.map (·.spentAtomic)).sum + scope.childAuthority

/-- The branch belongs to the agent and to the mandate's policy. -/
def branchAuthorized (scope : WorkloadScope) (input : AdmitInferenceInput) (mandate : MandateRow) :
    Bool :=
  scope.branch.any fun branch => branch.agentId = input.agentId ∧
    branch.policyId = mandate.policyId ∧ branch.policyVersion = mandate.policyVersion

/-- What the policy evaluation sees of the branch. -/
def evaluationInput (scope : WorkloadScope) (input : AdmitInferenceInput) (mandate : MandateRow) :
    WorkloadEvaluationInput where
  branchId := scope.branchId
  workloadClass := scope.workloadClass
  branchAuthorized := scope.branchAuthorized input mandate
  branchMaximumAtomic := (scope.branch.map fun branch => (branch.maximumSpendAtomic : ℤ)).getD 0
  branchSpentAtomic := scope.branchSpentAtomic
  branchExpiresAt := (scope.branch.bind (·.expiresAt)).map some
  classAuthorized := scope.branch.any (·.allowedWorkloadClasses.contains scope.workloadClass)
  classInvocationCount :=
    ((scope.usageByClass.find? (·.workloadClass = scope.workloadClass)).map fun usage =>
      (usage.invocationCount : ℤ)).getD 0
  classSpentAtomic := scope.spentOn scope.workloadClass

end WorkloadScope

/-- The exposure recorded with a decision on an authorised branch. -/
def exposureSnapshot (policy : PolicyVersion) (branch : BranchRow) (scope : WorkloadScope)
    (mandateMaximumAtomic mandateSpentAtomic requestReservationAtomic : ℤ) : ExposureSnapshot :=
  let allowedClasses := policy.workloadClasses.filter fun configured =>
    branch.allowedWorkloadClasses.contains configured.id
  let branchLimitAtomic : ℤ := branch.maximumSpendAtomic
  let spent : WorkloadClassPolicy → ℤ := fun configured => scope.spentOn configured.id
  let branchCommittedBeforeAtomic := (allowedClasses.map spent).sum
  let classAuthorityRemainingAtomic := (allowedClasses.map fun configured =>
    max 0 (configured.aggregateBudgetAtomic - spent configured)).sum
  let lifetimeRemainingAtomic := max 0 (branchLimitAtomic - branchCommittedBeforeAtomic)
  let branchRemainingBeforeAtomic := min classAuthorityRemainingAtomic lifetimeRemainingAtomic
  let mandateRemainingBeforeAtomic := max 0 (mandateMaximumAtomic - mandateSpentAtomic)
  let maximumExposureAtomic := min branchRemainingBeforeAtomic mandateRemainingBeforeAtomic
  { branchLimitAtomic
    branchCommittedBeforeAtomic
    requestReservationAtomic
    maximumExposureAtomic
    remainingAuthorityAtomic := max 0 (maximumExposureAtomic - requestReservationAtomic) }

/-- What the policy of a new request is evaluated on. -/
def admissionEvaluation (input : AdmitInferenceInput) (decidedAt : ℤ) (mandate : MandateRow)
    (assigned : Bool) (counters : SpendCounters) (scope : Option WorkloadScope) :
    PolicyEvaluationInput where
  now := some decidedAt
  mandateState := mandate.state
  mandateExpiresAt := mandate.expiresAt.map some
  agentAuthorized := assigned
  agentCapabilities := input.agentCapabilities
  provider := input.provider
  model := input.model
  estimatedCostAtomic := input.estimatedCostAtomic
  inputTokens := input.inputTokens
  maxOutputTokens := input.maxOutputTokens
  spentHourAtomic := counters.spentHourAtomic
  spentDayAtomic := counters.spentDayAtomic
  mandateSpentAtomic := counters.mandateSpentAtomic
  mandateMaximumAtomic := mandate.maximumSpendAtomic
  requestCountLastMinute := counters.requestCountLastMinute
  workload := scope.map fun scope => scope.evaluationInput input mandate

/-- The amount a decision reserves. -/
def reservation (input : AdmitInferenceInput) (result : PolicyDecisionResult) : ℤ :=
  if result.outcome = .allow then input.estimatedCostAtomic else 0

/-- The decision on a new request, with everything it was made on. -/
def admissionDecision (decisionId : String) (input : AdmitInferenceInput) (decidedAt : ℤ)
    (row : MandatePolicyRow) (counters : SpendCounters) (scope : Option WorkloadScope)
    (result : PolicyDecisionResult) : StoredPolicyDecision where
  id := decisionId
  requestId := input.requestId
  organizationId := input.organizationId
  mandateId := input.mandateId
  agentId := input.agentId
  policyId := row.policy.id
  policyVersion := row.policy.version
  result := result
  input :=
    { id := decisionId
      requestId := input.requestId
      organizationId := input.organizationId
      mandateId := input.mandateId
      agentId := input.agentId
      agentCapabilities := input.agentCapabilities
      provider := input.provider
      model := input.model
      branchId := input.branchId
      workloadClass := input.workloadClass
      estimatedCostAtomic := input.estimatedCostAtomic
      inputTokens := input.inputTokens
      maxOutputTokens := input.maxOutputTokens
      spentHourAtomic := counters.spentHourAtomic
      spentDayAtomic := counters.spentDayAtomic
      mandateSpentAtomic := counters.mandateSpentAtomic
      mandateMaximumAtomic := row.mandate.maximumSpendAtomic
      requestCountLastMinute := counters.requestCountLastMinute
      workload := scope.map fun scope => scope.evaluationInput input row.mandate
      exposure := do
        let scope ← scope
        let branch ← scope.branch
        if scope.branchAuthorized input row.mandate then
          return exposureSnapshot row.policy branch scope row.mandate.maximumSpendAtomic
            counters.mandateSpentAtomic (reservation input result)
        else none
      decidedAt }

/-- The execution row of a new request. -/
def admittedExecution (input : AdmitInferenceInput) (decidedAt : ℤ)
    (decision : StoredPolicyDecision) : ExecutionRow where
  organizationId := input.organizationId
  requestId := input.requestId
  mandateId := input.mandateId
  agentId := input.agentId
  decisionId := decision.id
  provider := input.provider
  model := input.model
  branchId := input.branchId
  workloadClass := input.workloadClass
  requestFingerprint := input.requestFingerprint
  status := if decision.result.outcome = .allow then .executing else .denied
  reservedCostAtomic := (reservation input decision.result).toNat
  actualCostAtomic := none
  inputTokens := input.inputTokens
  maxOutputTokens := input.maxOutputTokens
  responseJson := none
  failureCode := none
  createdAt := decidedAt
  updatedAt := decidedAt

/-- The reply to a new request. -/
def admissionReply (input : AdmitInferenceInput) (decision : StoredPolicyDecision) :
    AdmissionResult :=
  if decision.result.outcome = .allow then .execute decision (reservation input decision.result)
  else .denied decision

/-- An execution that started five minutes ago or more is taken to have lost its worker. -/
def leaseExpired (row : ExecutionRow) (retriedAt : ℤ) : Bool :=
  5 * 60 * 1000 ≤ retriedAt - row.updatedAt

/-- The reply to a known request whose worker is not overdue. -/
def knownReply (row : ExecutionRow) (decision : StoredPolicyDecision) :
    Except String AdmissionResult :=
  match row.status with
  | .denied => .ok (.denied decision)
  | .executing => .ok .inProgress
  | .failed => .ok .failed
  | .reconciliationHold => .ok .failed
  | .completed =>
    match row.responseJson, row.actualCostAtomic with
    | some response, some actualCostAtomic =>
      .ok (.completed decision row.reservedCostAtomic actualCostAtomic response)
    | _, _ => .error "INFERENCE_EXECUTION_RESPONSE_MISSING"

/-- The reply to a known request. When its worker is overdue, the execution and its mandate are put
on hold first. -/
def admissionFromExecution (row : ExecutionRow) (retriedAt : ℤ) : Transaction AdmissionResult := do
  let stored ← perform (.selectDecision row.organizationId row.decisionId)
  let decision ← orThrow stored "POLICY_DECISION_NOT_FOUND"
  if row.status = .executing ∧ leaseExpired row retriedAt = true then do
    perform (.updateExecution row.organizationId row.requestId (.leaseExpired retriedAt))
    holdMandateForReconciliation row.organizationId row.mandateId
    return .failed
  else fromExcept (knownReply row decision)

section Admission

variable [NodeCrypto]

/-- Read the branch a request names. -/
def workloadScope (input : AdmitInferenceInput) : Option (String × String) →
    Transaction (Option WorkloadScope)
  | none => return none
  | some (branchId, workloadClass) => do
    let branch ← perform (.selectBranch input.organizationId input.mandateId branchId)
    fromExcept (branch.elim (.ok ()) verifyBranchIntegrity)
    let usageByClass ← perform
      (.selectWorkloadUsage input.organizationId input.mandateId branchId)
    let childAuthority ← perform
      (.selectChildAuthority input.organizationId input.mandateId branchId)
    return some { branchId, workloadClass, branch, usageByClass, childAuthority }

/-- Decide on a new request and, unless it is a preview, record the decision and the execution. -/
def admitNew (decisionId : String) (input : AdmitInferenceInput) (decidedAt : ℤ)
    (row : MandatePolicyRow) (previewOnly : Bool) : Transaction AdmissionResult := do
  let assigned ← perform
    (.selectAssignment input.organizationId input.mandateId input.agentId)
  let counters ← perform (.selectSpendCounters input.organizationId input.mandateId
    (decidedAt - 60 * 60 * 1000) (decidedAt - 24 * 60 * 60 * 1000) (decidedAt - 60 * 1000))
  let scope ← workloadScope input input.scope
  let result ← fromExcept (evaluatePolicy row.policy
    (admissionEvaluation input decidedAt row.mandate assigned counters scope))
  let decision := admissionDecision decisionId input decidedAt row counters scope result
  if previewOnly then return admissionReply input decision
  else do
    execute (.insertDecision decision)
    execute (.insertExecution (admittedExecution input decidedAt decision))
    return admissionReply input decision

/-- The shape of a request fingerprint, `^[a-f0-9]{64}$`. -/
def isFingerprint (text : String) : Bool :=
  matchesClass (fun character => character.isDigit || ('a' ≤ character && character ≤ 'f')) 64 64 text

/-- Admit a request. `decisionId` is the `randomUUID()` drawn for its decision. -/
def admitInference (decisionId : String) (input : AdmitInferenceInput) (previewOnly : Bool) :
    Transaction AdmissionResult := do
  throwUnless (!isBlank input.requestId) "POLICY_DECISION_REQUEST_REQUIRED"
  throwUnless (!isBlank input.organizationId) "POLICY_DECISION_ORGANIZATION_REQUIRED"
  throwUnless (!isBlank input.mandateId) "POLICY_DECISION_MANDATE_REQUIRED"
  throwUnless (!isBlank input.agentId) "POLICY_DECISION_AGENT_REQUIRED"
  throwUnless (isFingerprint input.requestFingerprint) "REQUEST_FINGERPRINT_INVALID"
  let decidedAt ← orThrow input.decidedAt "POLICY_DECISION_TIME_INVALID"
  let found ← perform (.selectMandatePolicyForUpdate input.organizationId input.mandateId)
  let row ← orThrow found "CONTROL_MANDATE_NOT_FOUND"
  let existing ← perform (.selectExecution input.organizationId input.requestId)
  match existing with
  | some existingRow => do
    throwUnless (existingRow.requestFingerprint = input.requestFingerprint) "IDEMPOTENCY_CONFLICT"
    admissionFromExecution existingRow decidedAt
  | none => admitNew decisionId input decidedAt row previewOnly

/-- The admission transaction with `previewOnly` set. -/
def previewInference (decisionId : String) (input : AdmitInferenceInput) :
    Transaction AdmissionResult := admitInference decisionId input true

end Admission

end FuseControlPlane.Persistence
