/-
The onboarding service (`product/customerOnboarding.ts`).

* `createWorkspace`: claim the operation of an idempotency key, build the workspace under its lease, and
  complete the operation; any failure on the way is rolled back.
* `recoverWorkspaceCredential`: a new inference credential for a recovery code.
* `issueReplacementCredentials`, `issueReplacementCredentialsFromBetaRecovery`: new credentials for both
  principals of a workspace, and a new recovery code.
* `registerAgent`, `issueAgentCredential`, `revokeAgentCredential`, `issueServiceAccountCredential`
  (`identity/credentialAdministration.ts`).

The service has an onboarding store with all its methods.
-/

import FuseControlPlane.Product.OnboardingCalls

set_option linter.unusedSectionVars false

namespace FuseControlPlane.Product

open Foundation Foundation.JavaScript Domain Identity Providers Program

/-! ### Texts -/

/-- `/^[A-Za-z0-9._:-]{8,128}$/`. -/
def isIdempotencyKey (text : String) : Bool :=
  matchesClass (fun character => isBase64Url character || character = '.' || character = ':') 8 128 text

/-- `/^[A-Za-z0-9_-]{8,128}$/`. -/
def isWorkspaceId (text : String) : Bool := matchesClass isBase64Url 8 128 text

/-- `/^fuse_rc_[A-Za-z0-9_-]{16,128}$/`. -/
def isRecoveryCode (text : String) : Bool :=
  startsWith text "fuse_rc_" && matchesClass isBase64Url 16 128 (drop 8 text)

/-- `/^[1-9]\d*$/`. -/
def isPositiveInteger (text : String) : Bool :=
  match text.toList with
  | first :: rest => first.isDigit && first ≠ '0' && rest.all Char.isDigit
  | [] => false

/-- A date as it was sent: its text, and what `Date.parse` makes of it. -/
structure DateText where
  text : String
  time : Option ℤ
  deriving DecidableEq

/-! ### Credentials and agents -/

section Service

variable [NodeCrypto]

/-- An administrative change, by this account, for this request. -/
def mutationContext (principal : AuthenticatedPrincipal) (requestId : String) (occurredAt : ℤ) :
    MutationContext :=
  ⟨"service_account:" ++ principal.principalId, requestId, some occurredAt⟩

/-- A credential for its holder. -/
def issuedCredential (issued : String × CredentialRecord) : IssuedCredential :=
  ⟨issued.2.id, some issued.1, issued.2.tokenPrefix, issued.2.capabilities, issued.2.expiresAt⟩

/-- The credential to create for such an input. -/
def credentialRequest (input : IssueCredentialInput) (organizationId : String) (createdAt : ℤ) :
    CreateCredentialInput :=
  ⟨input.credentialId, organizationId, input.principalId, input.name, input.capabilities,
    some createdAt, input.expiresAt⟩

def registerAgent (principal : AuthenticatedPrincipal) (agentId name requestId : String) :
    Onboarding Unit := do
  orError (requireServiceAccount principal .agentsWrite)
  throwUnless (!isBlank requestId) (.error "REQUEST_ID_REQUIRED")
  let occurredAt ← perform .now
  awaitStore (.registerAgent
    ⟨agentId, principal.organizationId, name, mutationContext principal requestId occurredAt⟩)

def issueAgentCredential (principal : AuthenticatedPrincipal) (input : IssueCredentialInput) :
    Onboarding IssuedCredential := do
  orError (requireServiceAccount principal .credentialsIssue)
  throwUnless (!isBlank input.requestId) (.error "REQUEST_ID_REQUIRED")
  throwUnless (!input.capabilities.isEmpty &&
      input.capabilities.all fun capability => Identity.agentCapabilities.contains capability)
    (.error "AGENT_CREDENTIAL_CAPABILITY_INVALID")
  let createdAt ← perform .now
  let secret ← perform (.randomBytes 32)
  let issued ← orError (createApiCredential (credentialRequest input principal.organizationId createdAt) secret)
  awaitStore (.issueCredential issued.2 (mutationContext principal input.requestId createdAt))
  return issuedCredential issued

def revokeAgentCredential (principal : AuthenticatedPrincipal) (credentialId requestId : String) :
    Onboarding Unit := do
  orError (requireServiceAccount principal .credentialsRevoke)
  throwUnless (!isBlank requestId) (.error "REQUEST_ID_REQUIRED")
  let occurredAt ← perform .now
  awaitStore (.revokeCredential principal.organizationId credentialId
    (mutationContext principal requestId occurredAt))

def issueServiceAccountCredential (principal : AuthenticatedPrincipal)
    (input : IssueCredentialInput) : Onboarding IssuedCredential := do
  orError (requireServiceAccount principal .credentialsIssue)
  throwUnless (!isBlank input.requestId) (.error "REQUEST_ID_REQUIRED")
  let createdAt ← perform .now
  let secret ← perform (.randomBytes 32)
  let issued ← orError
    (createServiceAccountCredential (credentialRequest input principal.organizationId createdAt) secret)
  awaitStore (.issueServiceAccountCredential issued.2
    (mutationContext principal input.requestId createdAt))
  return issuedCredential issued

/-! ### Creating a workspace -/

structure CreateWorkspaceInput where
  name : String
  agentName : String
  provider : ProviderName
  model : String
  apiKey : String
  inputUsdPerMillion : String
  outputUsdPerMillion : String
  maximumSpendAtomic : String
  idempotencyKey : String
  expiresAt : Option DateText
  deriving DecidableEq

namespace CreateWorkspaceInput

def validate (input : CreateWorkspaceInput) : Except String Unit := do
  require (!isBlank input.name) "WORKSPACE_NAME_REQUIRED"
  require (isIdempotencyKey input.idempotencyKey) "IDEMPOTENCY_KEY_INVALID"
  require (!isBlank input.agentName) "AGENT_NAME_REQUIRED"
  require (!isBlank input.model) "MODEL_REQUIRED"
  require (!isBlank input.apiKey) "PROVIDER_API_KEY_REQUIRED"
  require (isPriceText input.inputUsdPerMillion) "INPUT_PRICE_INVALID"
  require (isPriceText input.outputUsdPerMillion) "OUTPUT_PRICE_INVALID"
  require (isPositiveInteger input.maximumSpendAtomic) "MAXIMUM_SPEND_INVALID"

def providerText : ProviderName → String
  | .anthropic => "anthropic"
  | .openrouter => "openrouter"

def fingerprint (input : CreateWorkspaceInput) : String :=
  NodeCrypto.sha256 (stringifyObject
    [("name", quote (trim input.name)),
      ("agentName", quote (trim input.agentName)),
      ("provider", quote (providerText input.provider)),
      ("model", quote (trim input.model)),
      ("apiKey", quote (NodeCrypto.sha256 input.apiKey)),
      ("inputUsdPerMillion", quote input.inputUsdPerMillion),
      ("outputUsdPerMillion", quote input.outputUsdPerMillion),
      ("maximumSpendAtomic", quote input.maximumSpendAtomic),
      ("expiresAt", input.expiresAt.elim "null" fun date => quote date.text)])

/-- When the credentials expire. -/
def expiry (input : CreateWorkspaceInput) : Option (Option ℤ) := input.expiresAt.map (·.time)

end CreateWorkspaceInput

/-- `randomBytes(18)` as a recovery code. -/
def drawRecoveryCode : Onboarding String := do
  let secret ← perform (.randomBytes 18)
  return "fuse_rc_" ++ secret

def drawIdentifiers : Onboarding Identifiers := do
  let workspaceId ← perform .id
  let serviceAccountId ← perform .id
  let serviceCredentialId ← perform .id
  let agentId ← perform .id
  let agentCredentialId ← perform .id
  let policyId ← perform .id
  let mandateId ← perform .id
  let providerConfigId ← perform .id
  return ⟨workspaceId, serviceAccountId, serviceCredentialId, agentId, agentCredentialId, policyId,
    mandateId, providerConfigId⟩

/-- What an administrator of a workspace may do. -/
def administratorCapabilities : List ApiCapability :=
  [.agentsWrite, .credentialsIssue, .credentialsRevoke, .providersWrite, .policiesWrite,
    .mandatesAdmin, .providersRead, .policiesRead, .mandatesRead, .receiptsRead, .sandboxRun]

/-- What the agent of a workspace may do, `agentCapabilities` of the service. -/
def inferenceCapabilities : List ApiCapability := [.inferenceInvoke, .receiptsRead]

/-- The owner of a lease is still there. -/
def sendHeartbeat (idempotencyKey workspaceId : String) : Onboarding Unit := do
  let now ← perform .now
  awaitStore (.heartbeat idempotencyKey workspaceId now)

section Building

variable (input : CreateWorkspaceInput) (identifiers : Identifiers)

/-- The credential of the administrator. -/
def administratorRequest (occurredAt : ℤ) : CreateCredentialInput where
  id := identifiers.serviceCredentialId
  organizationId := identifiers.workspaceId
  principalId := identifiers.serviceAccountId
  name := "Fuse customer administration"
  capabilities := administratorCapabilities
  createdAt := some occurredAt
  expiresAt := input.expiry

def bootstrapInput (credential : CredentialRecord) (occurredAt : ℤ) : BootstrapServiceAccountInput where
  organizationId := identifiers.workspaceId
  organizationName := input.name
  serviceAccountId := identifiers.serviceAccountId
  serviceAccountName := "Fuse customer administration"
  credential := credential
  context := ⟨"workspace:" ++ identifiers.workspaceId, identifiers.workspaceId ++ ":bootstrap",
    some occurredAt⟩

def administratorPrincipal (capabilities : List ApiCapability) : AuthenticatedPrincipal :=
  ⟨.serviceAccount, identifiers.serviceAccountId, identifiers.workspaceId,
    identifiers.serviceCredentialId, capabilities, some .admin, none, none⟩

def agentCredentialInput : IssueCredentialInput where
  credentialId := identifiers.agentCredentialId
  principalId := identifiers.agentId
  name := "Default inference credential"
  capabilities := inferenceCapabilities
  expiresAt := input.expiry
  requestId := identifiers.workspaceId ++ ":agent-credential"

def policyInput : ProductPolicyInput where
  policyId := identifiers.policyId
  version := 1
  mode := "enforce"
  allowedProviders := [input.provider]
  allowedModels := [input.model]
  requiredCapability := .inferenceInvoke
  limits :=
    { maxPerCallAtomic := input.maximumSpendAtomic
      maxHourlyAtomic := input.maximumSpendAtomic
      maxDailyAtomic := input.maximumSpendAtomic
      maxRequestsPerMinute := 10
      maxInputTokens := 32000
      maxOutputTokens := 4096 }
  requestId := identifiers.workspaceId ++ ":policy"

/-- The requests to the other services, in order. -/
def serviceRequests : List ServiceRequest :=
  [.connect identifiers.providerConfigId input.provider input.model input.apiKey
      input.inputUsdPerMillion input.outputUsdPerMillion (identifiers.workspaceId ++ ":provider"),
    .publish (policyInput input identifiers),
    .createMandate identifiers.mandateId "Default bounded inference mandate" "USDC"
      input.maximumSpendAtomic identifiers.policyId 1 input.expiry
      (identifiers.workspaceId ++ ":mandate"),
    .assignAgent identifiers.mandateId identifiers.agentId (identifiers.workspaceId ++ ":assignment"),
    .transitionMandate identifiers.mandateId "active" (identifiers.workspaceId ++ ":activation")]

/-- Ask the services in turn, with a heartbeat after each. -/
def provision (principal : AuthenticatedPrincipal) : List ServiceRequest → Onboarding Unit
  | [] => return
  | request :: requests => do
    awaitService principal request
    sendHeartbeat input.idempotencyKey identifiers.workspaceId
    provision principal requests

def workspaceResult (administrator agent : IssuedCredential) (recoveryCode : String) :
    CustomerWorkspaceResult where
  workspaceId := identifiers.workspaceId
  agentId := identifiers.agentId
  mandateId := identifiers.mandateId
  policyId := identifiers.policyId
  providerConfigId := identifiers.providerConfigId
  adminCredential := administrator
  credential := agent
  recoveryCode := some recoveryCode

/-- Build the workspace under the lease and complete the operation. -/
def buildWorkspace (occurredAt : ℤ) (recoveryCode : String) : Onboarding CustomerWorkspaceResult := do
  let secret ← perform (.randomBytes 32)
  let administrator ← orError
    (createServiceAccountCredential (administratorRequest input identifiers occurredAt) secret)
  awaitStore (.bootstrapServiceAccount (bootstrapInput input identifiers administrator.2 occurredAt))
  sendHeartbeat input.idempotencyKey identifiers.workspaceId
  let principal := administratorPrincipal identifiers administrator.2.capabilities
  registerAgent principal identifiers.agentId input.agentName (identifiers.workspaceId ++ ":agent")
  sendHeartbeat input.idempotencyKey identifiers.workspaceId
  let agent ← issueAgentCredential principal (agentCredentialInput input identifiers)
  sendHeartbeat input.idempotencyKey identifiers.workspaceId
  provision input identifiers principal (serviceRequests input identifiers)
  let result := workspaceResult identifiers (issuedCredential administrator) agent recoveryCode
  awaitStore (.complete input.idempotencyKey result)
  return result

/-- The `catch` of `createWorkspace`: roll back, or record that this failed; then throw. -/
def abandonWorkspace (error : Thrown) : Onboarding CustomerWorkspaceResult := do
  tryCatch
    (awaitStore (.rollback input.idempotencyKey identifiers.workspaceId
      (error.messageOr "WORKSPACE_ONBOARDING_FAILED")))
    fun rollbackError => do
      let _ ← perform (.store (.recordRollbackFailure input.idempotencyKey identifiers.workspaceId
        (rollbackError.messageOr "WORKSPACE_ONBOARDING_ROLLBACK_FAILED")))
      throw (.error "WORKSPACE_ONBOARDING_ROLLBACK_FAILED")
  throw error

end Building

/-- A completed workspace is returned while its token can still be delivered. -/
def replayWorkspace (result : Option CustomerWorkspaceResult) : Onboarding CustomerWorkspaceResult :=
  orThrow (result.filter fun workspace => workspace.credential.token.any (· ≠ ""))
    (.error "WORKSPACE_CREATED_CREDENTIAL_UNAVAILABLE")

/-- What a call does with the outcome of its claim. -/
def followClaim (input : CreateWorkspaceInput) (identifiers : Identifiers) (occurredAt : ℤ)
    (recoveryCode : String) : ClaimOutcome → Onboarding CustomerWorkspaceResult
  | .conflict => throw (.error "WORKSPACE_IDEMPOTENCY_CONFLICT")
  | .inProgress => throw (.error "WORKSPACE_ONBOARDING_IN_PROGRESS")
  | .replay result => replayWorkspace result
  | .new => tryCatch (buildWorkspace input identifiers occurredAt recoveryCode)
      (abandonWorkspace input identifiers)

/-- The claim of a call. -/
def workspaceClaim (input : CreateWorkspaceInput) (identifiers : Identifiers) (occurredAt : ℤ)
    (recoveryCode : String) : ClaimInput where
  idempotencyKey := input.idempotencyKey
  fingerprint := input.fingerprint
  recoveryCodeHash := NodeCrypto.sha256 recoveryCode
  identifiers := identifiers
  now := some occurredAt
  staleAfterMs := some quarterHour

def createWorkspace (input : CreateWorkspaceInput) : Onboarding CustomerWorkspaceResult := do
  orError input.validate
  let occurredAt ← perform .now
  let recoveryCode ← drawRecoveryCode
  let identifiers ← drawIdentifiers
  let outcome ← awaitStore (.claim (workspaceClaim input identifiers occurredAt recoveryCode))
  followClaim input identifiers occurredAt recoveryCode outcome

/-! ### Recovery -/

structure RecoverWorkspaceCredentialInput where
  workspaceId : String
  recoveryCode : String
  idempotencyKey : String
  deriving DecidableEq

/-- The credential a recovery code is spent on. -/
def recoveryRequest (metadata : WorkspaceCredentialMetadata) (credentialId : String) (occurredAt : ℤ) :
    CreateCredentialInput where
  id := credentialId
  organizationId := metadata.workspaceId
  principalId := metadata.agentId
  name := "Recovered inference credential"
  capabilities := inferenceCapabilities
  createdAt := some occurredAt
  expiresAt := metadata.expiresAt

/-- Spend a recovery code on a new credential. -/
def spendRecoveryCode (input : RecoverWorkspaceCredentialInput)
    (metadata : WorkspaceCredentialMetadata) : Onboarding WorkspaceCredentialRecoveryResult := do
  let recoveryCodeHash := NodeCrypto.sha256 input.recoveryCode
  let occurredAt ← perform .now
  let credentialId ← perform .id
  let secret ← perform (.randomBytes 32)
  let issued ← orError (createApiCredential (recoveryRequest metadata credentialId occurredAt) secret)
  let result : WorkspaceCredentialRecoveryResult :=
    ⟨metadata.workspaceId, metadata.agentId, issuedCredential issued⟩
  let causationId ← perform .id
  awaitStore (.rotateAgentCredentialWithRecovery
    { workspaceId := metadata.workspaceId
      recoveryCodeHash
      recoveryDeliveryId := input.idempotencyKey
      recoveryDeliveryEnvelope := sealSecretDelivery result
        (recoveryContext metadata.workspaceId recoveryCodeHash input.idempotencyKey)
      replacement := issued.2
      context := ⟨"service_account:" ++ metadata.serviceAccountId,
        metadata.workspaceId ++ ":credential-recovery:" ++ causationId, some occurredAt⟩ })
  return result

def recoverWorkspaceCredential (input : RecoverWorkspaceCredentialInput) :
    Onboarding WorkspaceCredentialRecoveryResult := do
  throwUnless (isWorkspaceId input.workspaceId) (.error "WORKSPACE_ID_INVALID")
  throwUnless (isRecoveryCode input.recoveryCode) (.error "RECOVERY_CODE_INVALID")
  throwUnless (isIdempotencyKey input.idempotencyKey) (.error "IDEMPOTENCY_KEY_INVALID")
  let found ← awaitStore (.getRecovery input.workspaceId (NodeCrypto.sha256 input.recoveryCode)
    input.idempotencyKey)
  match ← orThrow found (.error "CREDENTIAL_RECOVERY_INVALID") with
  | .deliveryResult result => return result
  | .workspace metadata => spendRecoveryCode input metadata

/-! ### Replacement -/

/-- New credentials for both principals of a workspace, and a new recovery code. -/
structure WorkspaceCredentialPackage where
  workspaceId : String
  serviceCredential : IssuedCredential
  agentCredential : IssuedCredential
  recoveryCode : String
  deriving DecidableEq

/-- A replacement of one of the credentials. -/
def replacementInput (metadata : WorkspaceCredentialMetadata) (principalId name : String)
    (capabilities : List ApiCapability) (credentialId requestId : String) : IssueCredentialInput :=
  ⟨credentialId, principalId, name, capabilities, metadata.expiresAt, requestId⟩

def issueReplacementCredentials (principal : AuthenticatedPrincipal) (workspaceId : String) :
    Onboarding WorkspaceCredentialPackage := do
  throwUnless (isIdempotencyKey workspaceId) (.error "WORKSPACE_ID_INVALID")
  throwUnless (principal.organizationId = workspaceId) (.error "WORKSPACE_SCOPE_MISMATCH")
  let found ← awaitStore (.getWorkspaceCredentialMetadata workspaceId)
  let metadata ← orThrow found (.error "WORKSPACE_NOT_FOUND")
  let occurredAt ← perform .now
  let serviceCredentialId ← perform .id
  let serviceCausationId ← perform .id
  let serviceCredential ← issueServiceAccountCredential principal
    (replacementInput metadata metadata.serviceAccountId "Fuse customer administration replacement"
      administratorCapabilities serviceCredentialId
      (workspaceId ++ ":service-credential-replacement:" ++ serviceCausationId))
  let agentCredentialId ← perform .id
  let agentCausationId ← perform .id
  let agentCredential ← issueAgentCredential principal
    (replacementInput metadata metadata.agentId "Replacement inference credential"
      inferenceCapabilities agentCredentialId
      (workspaceId ++ ":agent-credential-replacement:" ++ agentCausationId))
  let recoveryCode ← drawRecoveryCode
  let rotated ← awaitStore
    (.rotateRecoveryCode workspaceId (NodeCrypto.sha256 recoveryCode) occurredAt)
  throwUnless rotated (.error "WORKSPACE_NOT_FOUND")
  return ⟨workspaceId, serviceCredential, agentCredential, recoveryCode⟩

def issueReplacementCredentialsFromBetaRecovery : Onboarding WorkspaceCredentialPackage := do
  match ← awaitStore .listCompletedWorkspaceIds with
  | [] => throw (.error "WORKSPACE_NOT_FOUND")
  | [workspaceId] => do
    let found ← awaitStore (.getWorkspaceCredentialMetadata workspaceId)
    let metadata ← orThrow found (.error "WORKSPACE_NOT_FOUND")
    issueReplacementCredentials
      ⟨.serviceAccount, metadata.serviceAccountId, metadata.workspaceId,
        metadata.serviceCredentialId, administratorCapabilities, some .admin, none, none⟩
      metadata.workspaceId
  | _ => throw (.error "WORKSPACE_RECOVERY_AMBIGUOUS")

end Service

end FuseControlPlane.Product
