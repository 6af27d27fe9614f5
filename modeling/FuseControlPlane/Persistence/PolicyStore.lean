/-
The policy store as a state machine (`persistence/policyStore.ts`).

`Op` collects the methods that may write. `step` runs one of them on a store: it commits as a whole
or, when it throws, changes nothing. A run of the store is `run step Db.empty ops`.

`Sample` is a small organization with one agent and one mandate, for runs on fixed inputs.
-/

import FuseControlPlane.Foundation.Runs
import FuseControlPlane.Persistence.Admission
import FuseControlPlane.Persistence.Settlement

namespace FuseControlPlane.Persistence

open Foundation Foundation.JavaScript Domain Identity FuseControlPlane.Core Program

/-- One call of a method that may write. -/
inductive Op
  | createOrganization (id name : String) (context : PolicyMutationContext)
  | registerAgent (organizationId id name : String) (context : PolicyMutationContext)
  | publishPolicy (policy : PolicyVersion) (context : PolicyMutationContext)
  | createMandate (input : CreateControlMandateInput)
  | assignAgent (input : AssignMandateAgentInput)
  | createBranch (input : CreateMandateBranchInput)
  | transitionMandateState (organizationId mandateId : String) (target : MandateState)
      (context : PolicyMutationContext)
  | setMandatePolicy (organizationId mandateId policyId : String) (policyVersion : ℤ)
      (context : PolicyMutationContext)
  | admitInference (decisionId : String) (input : AdmitInferenceInput)
  | previewInference (decisionId : String) (input : AdmitInferenceInput)
  | completeInference (input : CompleteInferenceInput)
  | holdInference (input : HoldInferenceInput)
  | failInference (input : FailInferenceInput)
  | resolveReconciliation (input : ResolveReconciliationInput)

/-- What a method returns. -/
inductive Reply
  | nothing
  | branch (row : BranchRow)
  | admission (result : AdmissionResult)
  | completion (result : CompletionPersistenceResult)

section Operations

variable [NodeCrypto]

/-- The transaction of a call. -/
def Op.transaction : Op → Transaction Reply
  | createOrganization id name context => do
    Persistence.createOrganization id name context
    return .nothing
  | registerAgent organizationId id name context => do
    Persistence.registerAgent organizationId id name context
    return .nothing
  | publishPolicy policy context => do
    Persistence.publishPolicy policy context
    return .nothing
  | createMandate input => do
    Persistence.createMandate input
    return .nothing
  | assignAgent input => do
    Persistence.assignAgent input
    return .nothing
  | createBranch input => do
    let row ← Persistence.createBranch input
    return .branch row
  | transitionMandateState organizationId mandateId target context => do
    Persistence.transitionMandateState organizationId mandateId target context
    return .nothing
  | setMandatePolicy organizationId mandateId policyId policyVersion context => do
    Persistence.setMandatePolicy organizationId mandateId policyId policyVersion context
    return .nothing
  | admitInference decisionId input => do
    let result ← Persistence.admitInference decisionId input false
    return .admission result
  | previewInference decisionId input => do
    let result ← Persistence.previewInference decisionId input
    return .admission result
  | completeInference input => do
    let result ← Persistence.completeInference input
    return .completion result
  | holdInference input => do
    Persistence.holdInference input
    return .nothing
  | failInference input => do
    Persistence.failInference input
    return .nothing
  | resolveReconciliation input => do
    Persistence.resolveReconciliation input
    return .nothing

/-- The outcome of a call on a store. -/
def outcome (db : Db) (op : Op) : Except String (Reply × Db) := sql.atomic op.transaction db

/-- The store after a call: its writes, or no change when it throws. -/
def step (db : Db) (op : Op) : Db :=
  match outcome db op with
  | .ok (_, after) => after
  | .error _ => db

end Operations

/-! ### A small organization -/

namespace Sample

def context : PolicyMutationContext := ⟨"operator", "ticket", some 0⟩

/-- A policy that enforces the same amount a call, an hour and a day. -/
def policy (limit : ℤ) (workloadClasses : List WorkloadClassPolicy) : PolicyVersion where
  id := "policy"
  organizationId := "org"
  version := 1
  mode := .enforce
  allowedProviders := ["provider"]
  allowedModels := ["model"]
  requiredCapability := .inferenceInvoke
  limits := ⟨limit, limit, limit, 5, 100, 100⟩
  workloadClasses := workloadClasses
  createdAt := some 0

def mandate (maximumSpendAtomic : ℤ) : CreateControlMandateInput :=
  ⟨"mandate", "org", "Mandate", "asset", maximumSpendAtomic, .draft, "policy", 1, none, context⟩

/-- The calls that set up the organization, up to a draft mandate with an assigned agent. -/
def draft (limit : ℤ) (workloadClasses : List WorkloadClassPolicy) : List Op :=
  [.createOrganization "org" "Organization" context,
    .registerAgent "org" "agent" "Agent" context,
    .publishPolicy (policy limit workloadClasses) context,
    .createMandate (mandate limit),
    .assignAgent ⟨"org", "mandate", "agent", context⟩]

/-- An operator moves the mandate. -/
def move (target : MandateState) : Op := .transitionMandateState "org" "mandate" target context

def fingerprint : String := "0123456789abcdef0123456789abcdef0123456789abcdef0123456789abcdef"

/-- A request on a branch of the mandate, or on none. -/
def requestOn (scope : Option (String × String)) (requestId : String) (cost decidedAt : ℤ) :
    AdmitInferenceInput where
  requestId := requestId
  organizationId := "org"
  mandateId := "mandate"
  agentId := "agent"
  agentCapabilities := [.inferenceInvoke]
  provider := "provider"
  model := "model"
  branchId := scope.map Prod.fst
  workloadClass := scope.map Prod.snd
  estimatedCostAtomic := cost
  inputTokens := 10
  maxOutputTokens := 10
  requestFingerprint := fingerprint
  decidedAt := some decidedAt

/-- Admit a request that names no branch. -/
def admission (requestId : String) (cost decidedAt : ℤ) : Op :=
  .admitInference ("decision " ++ requestId) (requestOn none requestId cost decidedAt)

def response : ProviderResult := ⟨"answer", "text", ⟨10, 10⟩, none, none⟩

/-- Complete a request at a cost. -/
def complete (requestId : String) (cost completedAt : ℤ) : Op :=
  .completeInference ⟨requestId, "org", cost, response, some completedAt⟩

/-- Put a request on hold. -/
def hold (requestId : String) (heldAt : ℤ) : Op :=
  .holdInference ⟨requestId, "org", "OUTCOME_UNKNOWN", none, some heldAt⟩

/-- Resolve a held request at a cost. -/
def settle (requestId : String) (cost : ℤ) : Op :=
  .resolveReconciliation ⟨"org", requestId, .settle, some cost, "checked", "invoice", context⟩

/-- A held request was not billed. -/
def notBilled (requestId : String) : ResolveReconciliationInput :=
  ⟨"org", requestId, .confirmNotBilled, none, "checked", "invoice", context⟩

def confirmNotBilled (requestId : String) : Op := .resolveReconciliation (notBilled requestId)

/-- One request is completed below its reservation, one is held and settled at it. -/
def billed : List Op :=
  draft 20 [] ++ [move .active, admission "first" 5 10, complete "first" 4 20, admission "second" 6 30,
    hold "second" 40, settle "second" 6]

def workloadClass : WorkloadClassPolicy := ⟨"chat", 20, 10, 20, 0, none⟩

def branch (id : String) (parentBranchId : Option String) (maximumSpendAtomic : ℤ) :
    CreateMandateBranchInput :=
  ⟨id, "org", "mandate", parentBranchId, "agent", ["chat"], maximumSpendAtomic, none, context⟩

/-- What is hashed of a branch of this mandate. -/
def hashed (input : CreateMandateBranchInput) : String :=
  canonicalBranch (unsignedBranch input (newMandate (mandate 20)) 0)

/-- SHA-256, on the texts that are hashed in these runs. -/
def digests : List (String × String) :=
  [(hashed (branch "root" none 10),
      "5b56bbfabe82d1f78a5eb83ad74a181286200e791029122f41b8a5430b5fb449"),
    (hashed (branch "child" (some "root") 10),
      "1a91fda9f4449c195a39161e314226b3a6ba1a0b4ee7d7b53c4d5d96acc8242f"),
    (hashed (branch "child" (some "root") 4),
      "a0c2ef7815beee8e40cbbb85334e74bcc4da2ac13b94f0a29bf062f4c9e2a576")]

@[reducible] def crypto : NodeCrypto := ⟨fun text => (digests.lookup text).getD ""⟩

end Sample

end FuseControlPlane.Persistence
