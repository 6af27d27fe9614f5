/-
What the onboarding service awaits (`product/customerOnboarding.ts`).

* `rotateAgentCredentialWithRecovery` (`persistence/identityStore.ts`): spend a recovery code on a new
  credential, in one transaction over both stores.
* `OnboardingMethod`: the methods of the onboarding store and of the identity store that the service
  and its routes call; `OnboardingMethod.run` is what they do to the tables.
* `OnboardingCall`: those methods, the clock, the drawing of ids and random bytes, the services that
  set up a provider, a policy and a mandate, and the operational audit.
-/

import FuseControlPlane.Foundation.Program
import FuseControlPlane.Identity.CredentialAdministration
import FuseControlPlane.Product.WorkspaceOnboardingStore
import FuseControlPlane.Providers.ProviderConfigStore

set_option linter.unusedSectionVars false

namespace FuseControlPlane.Product

open Foundation Foundation.JavaScript Domain Identity Providers Program

/-! ### Spending a recovery code -/

structure RotateAgentCredentialWithRecoveryInput where
  workspaceId : String
  recoveryCodeHash : String
  recoveryDeliveryId : String
  recoveryDeliveryEnvelope : SecretEnvelope WorkspaceCredentialRecoveryResult
  replacement : CredentialRecord
  context : MutationContext
  deriving DecidableEq

/-- The operation with its recovery code spent on this delivery. -/
def OperationRow.recovered (row : OperationRow) (input : RotateAgentCredentialWithRecoveryInput) :
    OperationRow :=
  { row with
    recoveryCodeHash := none
    recoveryConsumedHash := some input.recoveryCodeHash
    recoveryConsumedAt := input.context.occurredAt
    recoveryDeliveryEnvelope := some input.recoveryDeliveryEnvelope
    recoveryDeliveryId := some input.recoveryDeliveryId }

/-- The completed operation of a workspace with this unspent recovery code. -/
def Db.recoverable (db : Db) (workspaceId recoveryCodeHash : String) : Option OperationRow :=
  db.operations.rows.find? fun row =>
    row.identifiers.workspaceId = workspaceId && row.recoveryCodeHash = some recoveryCodeHash &&
      row.status = .completed && row.recoveryConsumedAt.isNone

/-- The checks of the input. -/
def validateRotation (input : RotateAgentCredentialWithRecoveryInput) : Except String Unit := do
  validateContext input.context
  require (!isBlank input.workspaceId) "WORKSPACE_ID_REQUIRED"
  require (isDigest input.recoveryCodeHash) "RECOVERY_CODE_HASH_INVALID"
  require (input.replacement.organizationId = input.workspaceId)
    "RECOVERY_CREDENTIAL_WORKSPACE_MISMATCH"
  require (!isBlank input.replacement.id) "API_CREDENTIAL_ID_REQUIRED"
  require (!isBlank input.replacement.principalId) "API_CREDENTIAL_AGENT_REQUIRED"
  require (!isBlank input.replacement.name) "API_CREDENTIAL_NAME_REQUIRED"
  validateCredentialMaterial input.replacement "API_CREDENTIAL"

/-- Revoke an agent's credential, which must not be revoked yet. -/
def revokePrevious (credentials : Table CredentialRow) (workspaceId previousCredentialId agentId : String)
    (occurredAt : Option ℤ) : Except String (Table CredentialRow) :=
  match (credentials.find? (workspaceId, previousCredentialId)).filter fun row =>
      row.principalId = agentId && row.revokedAt.isNone with
  | some row => .ok (credentials.put { row with revokedAt := occurredAt })
  | none => .error "API_CREDENTIAL_NOT_ACTIVE"

def rotateAgentCredentialWithRecovery (input : RotateAgentCredentialWithRecoveryInput) (db : Db) :
    Except String Db := do
  validateRotation input
  match db.recoverable input.workspaceId input.recoveryCodeHash with
  | none => .error "CREDENTIAL_RECOVERY_INVALID"
  | some row =>
    let agentId := row.identifiers.agentId
    let previousCredentialId := row.identifiers.agentCredentialId
    require (agentId ≠ "" && previousCredentialId ≠ "") "CREDENTIAL_RECOVERY_INVALID"
    require (input.replacement.principalId = agentId) "RECOVERY_CREDENTIAL_AGENT_MISMATCH"
    require (input.replacement.id ≠ previousCredentialId) "RECOVERY_CREDENTIAL_ID_CONFLICT"
    let issued ← insertCredential db.identity.apiCredentials input.replacement.row "api_credentials"
    require (db.identity.agentIdentities.find? (input.workspaceId, agentId)).isSome
      "foreign_key_violation agent_identities"
    let apiCredentials ← revokePrevious issued input.workspaceId previousCredentialId agentId
      input.context.occurredAt
    return { db.putOperation (row.recovered input) with
      identity := { db.identity with apiCredentials } }

/-! ### The methods -/

/-- A method of the onboarding store or of the identity store. -/
inductive OnboardingMethod
  | tryReserveCapacity (idempotencyKey : String) (maxActiveWorkspaces : ℕ)
      (baselineWorkspaceIds : List String)
  | consumeInvite (inviteToken idempotencyKey : String) (allowedInviteHashes : List String)
  | claim (input : ClaimInput)
  | heartbeat (idempotencyKey workspaceId : String) (now : ℤ)
  | complete (idempotencyKey : String) (result : CustomerWorkspaceResult)
  | rollback (idempotencyKey workspaceId code : String)
  | recordRollbackFailure (idempotencyKey workspaceId code : String)
  | getRecovery (workspaceId recoveryCodeHash deliveryId : String)
  | getWorkspaceCredentialMetadata (workspaceId : String)
  | rotateRecoveryCode (workspaceId recoveryCodeHash : String) (now : ℤ)
  | listCompletedWorkspaceIds
  | bootstrapServiceAccount (input : BootstrapServiceAccountInput)
  | registerAgent (input : PrincipalInput)
  | issueCredential (record : CredentialRecord) (context : MutationContext)
  | issueServiceAccountCredential (record : CredentialRecord) (context : MutationContext)
  | revokeCredential (organizationId credentialId : String) (context : MutationContext)
  | rotateAgentCredentialWithRecovery (input : RotateAgentCredentialWithRecoveryInput)
  deriving DecidableEq

/-- What a method returns. -/
abbrev OnboardingMethod.Reply : OnboardingMethod → Type
  | tryReserveCapacity _ _ _ => Bool
  | consumeInvite _ _ _ => Bool
  | claim _ => ClaimOutcome
  | getRecovery _ _ _ => Option WorkspaceRecoveryRecord
  | getWorkspaceCredentialMetadata _ => Option WorkspaceCredentialMetadata
  | rotateRecoveryCode _ _ _ => Bool
  | listCompletedWorkspaceIds => List String
  | _ => Unit

namespace Db

/-- A method that returns nothing. -/
def done (result : Except String Db) : Except String (Unit × Db) := result.map fun after => ((), after)

/-- A mutation of the identity tables. -/
def mutated (db : Db) (result : Except String IdentityDb) : Except String (Unit × Db) :=
  result.map fun identity => ((), { db with identity })

end Db

variable [NodeCrypto]

/-- What a method returns, and the tables it commits. -/
def OnboardingMethod.run (clock : ℤ) (db : Db) : (method : OnboardingMethod) →
    Except String (method.Reply × Db)
  | tryReserveCapacity idempotencyKey maxActiveWorkspaces baselineWorkspaceIds =>
    .ok (Product.tryReserveCapacity idempotencyKey maxActiveWorkspaces baselineWorkspaceIds none
      clock db)
  | consumeInvite inviteToken idempotencyKey allowedInviteHashes =>
    .ok (Product.consumeInvite inviteToken idempotencyKey allowedInviteHashes db)
  | claim input => Product.claim input clock db
  | heartbeat idempotencyKey workspaceId now =>
    Db.done (Product.heartbeat idempotencyKey workspaceId now db)
  | complete idempotencyKey result => Db.done (Product.complete idempotencyKey result clock db)
  | rollback idempotencyKey workspaceId code =>
    Db.done (Product.rollback idempotencyKey workspaceId code clock db)
  | recordRollbackFailure idempotencyKey workspaceId code =>
    .ok ((), Product.recordRollbackFailure idempotencyKey workspaceId code clock db)
  | getRecovery workspaceId recoveryCodeHash deliveryId =>
    (Product.getRecovery workspaceId recoveryCodeHash deliveryId db).map fun found => (found, db)
  | getWorkspaceCredentialMetadata workspaceId =>
    .ok (Product.getWorkspaceCredentialMetadata workspaceId db, db)
  | rotateRecoveryCode workspaceId recoveryCodeHash now =>
    .ok (Product.rotateRecoveryCode workspaceId recoveryCodeHash (some now) clock db)
  | listCompletedWorkspaceIds => .ok (Product.listCompletedWorkspaceIds db, db)
  | bootstrapServiceAccount input => db.mutated (Identity.bootstrapServiceAccount input db.identity)
  | registerAgent input => db.mutated (Identity.registerAgent input db.identity)
  | issueCredential record context =>
    db.mutated (Identity.issueCredential record context db.identity)
  | issueServiceAccountCredential record context =>
    db.mutated (Identity.issueServiceAccountCredential record context db.identity)
  | revokeCredential organizationId credentialId context =>
    db.mutated (Identity.revokeCredential organizationId credentialId context db.identity)
  | rotateAgentCredentialWithRecovery input =>
    Db.done (Product.rotateAgentCredentialWithRecovery input db)

/-! ### The calls -/

/-- The limits of a first policy. -/
structure ProductPolicyLimits where
  maxPerCallAtomic : String
  maxHourlyAtomic : String
  maxDailyAtomic : String
  maxRequestsPerMinute : ℕ
  maxInputTokens : ℕ
  maxOutputTokens : ℕ

structure ProductPolicyInput where
  policyId : String
  version : ℕ
  mode : String
  allowedProviders : List ProviderName
  allowedModels : List String
  requiredCapability : ApiCapability
  limits : ProductPolicyLimits
  requestId : String

/-- What the provider, policy and mandate services are asked for. None of them writes the tables
above. -/
inductive ServiceRequest
  | connect (configId : String) (provider : ProviderName)
      (model apiKey inputUsdPerMillion outputUsdPerMillion requestId : String)
  | publish (policy : ProductPolicyInput)
  | createMandate (mandateId name assetId maximumSpendAtomic policyId : String) (policyVersion : ℕ)
      (expiresAt : Option (Option ℤ)) (requestId : String)
  | assignAgent (mandateId agentId requestId : String)
  | transitionMandate (mandateId state requestId : String)

/-- An event of the operational audit. -/
structure OperationalAuditEvent where
  eventType : String
  scopeId : String
  outcome : String
  metadata : List (String × String)

/-- What the service and its routes await. -/
inductive OnboardingCall : Type → Type
  | now : OnboardingCall ℤ
  | id : OnboardingCall String
  | randomBytes (size : ℕ) : OnboardingCall String
  | store (method : OnboardingMethod) : OnboardingCall (Except Thrown method.Reply)
  | service (principal : AuthenticatedPrincipal) (request : ServiceRequest) :
      OnboardingCall (Except Thrown Unit)
  | audit (event : OperationalAuditEvent) : OnboardingCall Bool

abbrev Onboarding (α : Type) : Type 1 := Program OnboardingCall Thrown α

/-- Await a method of a store; its rejection is thrown. -/
def awaitStore (method : OnboardingMethod) : Onboarding method.Reply := do
  let reply ← perform (.store method)
  fromExcept reply

/-- Await a service; its rejection is thrown. -/
def awaitService (principal : AuthenticatedPrincipal) (request : ServiceRequest) :
    Onboarding Unit := do
  let reply ← perform (.service principal request)
  fromExcept reply

/-- The value, or a thrown `new Error(message)`. -/
def orError {α : Type} (result : Except String α) : Onboarding α :=
  fromExcept (result.mapError .error)

end FuseControlPlane.Product
