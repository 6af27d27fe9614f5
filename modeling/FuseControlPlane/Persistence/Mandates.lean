/-
What an operator does to organizations, policies, mandates and branches
(`persistence/policyStore.ts`, and two methods of `persistence/identityStore.ts`).

Every method is one `Transaction`, statement by statement and check by check in the order of the
source, with its error texts.

* `createBranch`, `checkParentBranch`: delegation of part of a mandate's budget.
* `transitionMandateState`: the moves of the transition table.
* `holdMandateForReconciliation`: what a held execution does to its mandate.

Audit events are written to a table of their own and are not part of this model.
-/

import FuseControlPlane.Persistence.Statements

namespace FuseControlPlane.Persistence

open Foundation Foundation.JavaScript Domain Identity FuseControlPlane.Core Program

/-! ### Inputs -/

/-- Who changes what, why and when. -/
structure PolicyMutationContext where
  actorId : String
  causationId : String
  occurredAt : Option ℤ

structure CreateControlMandateInput where
  id : String
  organizationId : String
  name : String
  assetId : String
  maximumSpendAtomic : ℤ
  state : MandateState
  policyId : String
  policyVersion : ℤ
  expiresAt : Option (Option ℤ)
  context : PolicyMutationContext

structure AssignMandateAgentInput where
  organizationId : String
  mandateId : String
  agentId : String
  context : PolicyMutationContext

structure CreateMandateBranchInput where
  id : String
  organizationId : String
  mandateId : String
  parentBranchId : Option String
  agentId : String
  allowedWorkloadClasses : List String
  maximumSpendAtomic : ℤ
  expiresAt : Option (Option ℤ)
  context : PolicyMutationContext

/-! ### What an operator does -/

/-- The checks of a context; returns the time it names. -/
def validateContext (context : PolicyMutationContext) : Transaction ℤ := do
  throwUnless (!isBlank context.actorId) "POLICY_ACTOR_REQUIRED"
  throwUnless (!isBlank context.causationId) "POLICY_CAUSATION_REQUIRED"
  orThrow context.occurredAt "POLICY_OCCURRED_AT_INVALID"

/-- `IdentityStore.createOrganization`. -/
def createOrganization (id name : String) (context : PolicyMutationContext) : Transaction Unit := do
  let _ ← validateContext context
  throwUnless (!isBlank id) "ORGANIZATION_ID_REQUIRED"
  throwUnless (!isBlank name) "ORGANIZATION_NAME_REQUIRED"
  execute (.insertOrganization ⟨id⟩)

/-- `IdentityStore.registerAgent`. -/
def registerAgent (organizationId id name : String) (context : PolicyMutationContext) :
    Transaction Unit := do
  let _ ← validateContext context
  throwUnless (!isBlank id) "AGENT_ID_REQUIRED"
  throwUnless (!isBlank organizationId) "AGENT_ORGANIZATION_REQUIRED"
  throwUnless (!isBlank name) "AGENT_NAME_REQUIRED"
  execute (.insertAgentIdentity ⟨organizationId, id⟩)

def publishPolicy (policy : PolicyVersion) (context : PolicyMutationContext) :
    Transaction Unit := do
  fromExcept (validatePolicy policy)
  let _ ← validateContext context
  execute (.insertPolicyVersion policy)

/-- The row of a new mandate. -/
def newMandate (input : CreateControlMandateInput) : MandateRow where
  organizationId := input.organizationId
  id := input.id
  maximumSpendAtomic := input.maximumSpendAtomic.toNat
  state := input.state
  policyId := input.policyId
  policyVersion := input.policyVersion
  expiresAt := input.expiresAt.join

def createMandate (input : CreateControlMandateInput) : Transaction Unit := do
  let _ ← validateContext input.context
  throwUnless (!isBlank input.id) "CONTROL_MANDATE_ID_REQUIRED"
  throwUnless (!isBlank input.organizationId) "CONTROL_MANDATE_ORGANIZATION_REQUIRED"
  throwUnless (!isBlank input.name) "CONTROL_MANDATE_NAME_REQUIRED"
  throwUnless (!isBlank input.assetId) "CONTROL_MANDATE_ASSET_REQUIRED"
  throwUnless (0 < input.maximumSpendAtomic) "CONTROL_MANDATE_MAXIMUM_INVALID"
  throwUnless (1 ≤ input.policyVersion) "CONTROL_MANDATE_POLICY_VERSION_INVALID"
  throwUnless (input.expiresAt.all Option.isSome) "CONTROL_MANDATE_EXPIRY_INVALID"
  throwUnless (input.state = .draft) "CONTROL_MANDATE_INITIAL_STATE_INVALID"
  execute (.insertMandate (newMandate input))

def assignAgent (input : AssignMandateAgentInput) : Transaction Unit := do
  let _ ← validateContext input.context
  execute (.insertAssignment ⟨input.organizationId, input.mandateId, input.agentId⟩)

section Branches

variable [NodeCrypto]

/-- The text a delegation hash is taken of. -/
def canonicalBranch (row : BranchRow) : String :=
  stringifyObject
    [("authoritySource", quote row.authoritySource),
      ("organizationId", quote row.organizationId),
      ("mandateId", quote row.mandateId),
      ("branchId", quote row.branchId),
      ("parentBranchId", row.parentBranchId.elim "null" quote),
      ("agentId", quote row.agentId),
      ("policyId", quote row.policyId),
      ("policyVersion", toString row.policyVersion),
      ("allowedWorkloadClasses", stringifyArray (row.allowedWorkloadClasses.map quote)),
      ("maximumSpendAtomic", quote (toString row.maximumSpendAtomic)),
      ("expiresAt", row.expiresAt.elim "null" fun expiry => quote (toISOString expiry)),
      ("createdAt", quote (toISOString row.createdAt)),
      ("createdBy", quote row.createdBy)]

/-- A stored branch is what was hashed when it was created. -/
def verifyBranchIntegrity (row : BranchRow) : Except String Unit := do
  require (row.authoritySource = "fuse_control_plane") "MANDATE_BRANCH_AUTHORITY_SOURCE_INVALID"
  require (row.delegationHash = NodeCrypto.sha256 (canonicalBranch row))
    "MANDATE_BRANCH_DELEGATION_HASH_INVALID"

/-- An expiry that is later than a limit; `NaN` and a missing expiry are not. -/
def expiresAfter (expiresAt : Option (Option ℤ)) (limit : ℤ) : Bool :=
  expiresAt.any fun expiry => expiry.any (limit < ·)

/-- The checks of a branch against its parent, if it has one. -/
def checkParentBranch (input : CreateMandateBranchInput) (mandate : MandateRow)
    (allowedWorkloadClasses : List String) : Option String → Transaction Unit
  | none => pure ()
  | some parentBranchId => do
    let found ← perform
      (.selectBranchForUpdate input.organizationId input.mandateId parentBranchId)
    let parent ← orThrow found "MANDATE_PARENT_BRANCH_NOT_FOUND"
    fromExcept (verifyBranchIntegrity parent)
    throwUnless (parent.policyId = mandate.policyId ∧ parent.policyVersion = mandate.policyVersion)
      "MANDATE_PARENT_BRANCH_POLICY_MISMATCH"
    throwUnless (allowedWorkloadClasses.all parent.allowedWorkloadClasses.contains)
      "MANDATE_BRANCH_PARENT_AUTHORITY_EXCEEDED"
    let allocated ← perform
      (.selectChildAuthority input.organizationId input.mandateId parentBranchId)
    throwUnless (input.maximumSpendAtomic + allocated ≤ parent.maximumSpendAtomic)
      "MANDATE_BRANCH_PARENT_BUDGET_EXCEEDED"
    throwUnless (parent.expiresAt.all fun limit =>
        input.expiresAt.isSome && !expiresAfter input.expiresAt limit)
      "MANDATE_BRANCH_PARENT_EXPIRY_EXCEEDED"

/-- The row of a new branch, without its hash. -/
def unsignedBranch (input : CreateMandateBranchInput) (mandate : MandateRow) (createdAt : ℤ) :
    BranchRow where
  organizationId := input.organizationId
  mandateId := input.mandateId
  branchId := input.id
  parentBranchId := input.parentBranchId
  agentId := input.agentId
  policyId := mandate.policyId
  policyVersion := mandate.policyVersion
  allowedWorkloadClasses := sorted input.allowedWorkloadClasses
  maximumSpendAtomic := input.maximumSpendAtomic.toNat
  expiresAt := input.expiresAt.join
  delegationHash := ""
  authoritySource := "fuse_control_plane"
  createdAt := createdAt
  createdBy := input.context.actorId

/-- The row of a new branch. -/
def newBranch (input : CreateMandateBranchInput) (mandate : MandateRow) (createdAt : ℤ) :
    BranchRow :=
  let unsigned := unsignedBranch input mandate createdAt
  { unsigned with delegationHash := NodeCrypto.sha256 (canonicalBranch unsigned) }

def createBranch (input : CreateMandateBranchInput) : Transaction BranchRow := do
  let allowedWorkloadClasses := sorted input.allowedWorkloadClasses
  let createdAt ← validateContext input.context
  throwUnless (!isBlank input.id) "MANDATE_BRANCH_ID_REQUIRED"
  throwUnless (!isBlank input.organizationId) "MANDATE_BRANCH_ORGANIZATION_REQUIRED"
  throwUnless (!isBlank input.mandateId) "MANDATE_BRANCH_MANDATE_REQUIRED"
  throwUnless (!isBlank input.agentId) "MANDATE_BRANCH_AGENT_REQUIRED"
  throwUnless (!(allowedWorkloadClasses.isEmpty || allowedWorkloadClasses.any isBlank))
    "MANDATE_BRANCH_WORKLOAD_CLASS_REQUIRED"
  throwUnless (!hasDuplicates allowedWorkloadClasses) "MANDATE_BRANCH_WORKLOAD_CLASS_DUPLICATE"
  throwUnless (0 < input.maximumSpendAtomic) "MANDATE_BRANCH_BUDGET_INVALID"
  throwUnless (input.expiresAt.all fun expiry => expiry.any (createdAt < ·))
    "MANDATE_BRANCH_EXPIRY_INVALID"
  let found ← perform (.selectMandatePolicyForUpdate input.organizationId input.mandateId)
  let row ← orThrow found "CONTROL_MANDATE_NOT_FOUND"
  throwUnless (row.mandate.state = .draft ∨ row.mandate.state = .paused)
    "MANDATE_BRANCH_CHANGE_REQUIRES_PAUSE"
  throwUnless (input.maximumSpendAtomic ≤ row.mandate.maximumSpendAtomic)
    "MANDATE_BRANCH_BUDGET_EXCEEDS_MANDATE"
  throwUnless (row.mandate.expiresAt.all fun limit => !expiresAfter input.expiresAt limit)
    "MANDATE_BRANCH_EXPIRY_EXCEEDS_MANDATE"
  throwUnless (allowedWorkloadClasses.all (row.policy.workloadClasses.map (·.id)).contains)
    "MANDATE_BRANCH_WORKLOAD_CLASS_NOT_IN_POLICY"
  let assigned ← perform
    (.selectAssignment input.organizationId input.mandateId input.agentId)
  throwUnless assigned "MANDATE_BRANCH_AGENT_NOT_ASSIGNED"
  checkParentBranch input row.mandate allowedWorkloadClasses input.parentBranchId
  let branch := newBranch input row.mandate createdAt
  execute (.insertBranch branch)
  return branch

end Branches

def transitionMandateState (organizationId mandateId : String) (target : MandateState)
    (context : PolicyMutationContext) : Transaction Unit := do
  let _ ← validateContext context
  throwUnless (!isBlank organizationId) "CONTROL_MANDATE_ORGANIZATION_REQUIRED"
  throwUnless (!isBlank mandateId) "CONTROL_MANDATE_ID_REQUIRED"
  let found ← perform (.selectMandateForUpdate organizationId mandateId)
  let mandate ← orThrow found "CONTROL_MANDATE_NOT_FOUND"
  throwUnless ((mandateTransitions mandate.state).contains target)
    ("CONTROL_MANDATE_TRANSITION_INVALID:" ++ mandate.state.text ++ "->" ++ target.text)
  perform (.updateMandate organizationId mandateId (.state target))

def setMandatePolicy (organizationId mandateId policyId : String) (policyVersion : ℤ)
    (context : PolicyMutationContext) : Transaction Unit := do
  let _ ← validateContext context
  throwUnless (!isBlank organizationId) "CONTROL_MANDATE_ORGANIZATION_REQUIRED"
  throwUnless (!isBlank mandateId) "CONTROL_MANDATE_ID_REQUIRED"
  throwUnless (!isBlank policyId) "CONTROL_MANDATE_POLICY_REQUIRED"
  throwUnless (1 ≤ policyVersion) "CONTROL_MANDATE_POLICY_VERSION_INVALID"
  let found ← perform (.selectMandateForUpdate organizationId mandateId)
  let previous ← orThrow found "CONTROL_MANDATE_NOT_FOUND"
  throwUnless (previous.state = .draft ∨ previous.state = .paused)
    "CONTROL_MANDATE_POLICY_CHANGE_REQUIRES_PAUSE"
  execute (.updateMandatePolicy organizationId mandateId policyId policyVersion)

/-! ### Holds -/

/-- Put the mandate of a held execution on hold, unless its state is beyond that. -/
def holdMandateForReconciliation (organizationId mandateId : String) : Transaction Unit := do
  let found ← perform (.selectMandateForUpdate organizationId mandateId)
  let mandate ← orThrow found "CONTROL_MANDATE_NOT_FOUND"
  if checked : mandate.state ∈ holdable then do
    execute (.insertHold ⟨organizationId, mandateId, mandate.state, checked⟩)
    perform (.updateMandate organizationId mandateId (.state .reconciliationHold))
  else pure ()

end FuseControlPlane.Persistence
