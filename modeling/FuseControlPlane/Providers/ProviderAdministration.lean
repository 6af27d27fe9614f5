/-
Administration of provider configurations (`providers/providerAdministration.ts`).

`configure` and `retry` are `Program`s over `ProviderCall`: the methods of the store, the clock, and
`verifyCredential`, the probe of the provider. Each call that may reject is answered by an `Except`.
The service is built with the store of `ProviderConfigStore.lean`, which has all its methods;
`verifies` says whether it was given a `verifyCredential`.
-/

import FuseControlPlane.Foundation.Program
import FuseControlPlane.Providers.ProviderConfigStore

set_option linter.unusedSectionVars false

namespace FuseControlPlane.Providers

open Foundation Foundation.JavaScript Domain Identity FuseControlPlane.Core Program

/-- The reply of a store to the beginning of a retry. -/
inductive RetryClaim
  | replay (replay : ProviderRetryReplay)
  | claimed (claimToken : String)
  deriving DecidableEq

/-- What the service awaits. -/
inductive ProviderCall : Type → Type
  | now : ProviderCall (Option ℤ)
  | verifyCredential (provider : ProviderName) (model apiKey : String) :
      ProviderCall (Except Thrown Unit)
  | configure (input : ConfigureProviderInput) :
      ProviderCall (Except Thrown ProviderConfigurationSummary)
  | markVerificationStatus (input : VerificationMark) : ProviderCall (Except Thrown Unit)
  | beginVerificationRetry (input : RetryInput) : ProviderCall (Except Thrown RetryClaim)
  | getForVerification (organizationId id : String) :
      ProviderCall (Except Thrown ProviderVerificationRecord)
  | list (organizationId : String) :
      ProviderCall (Except Thrown (List ProviderConfigurationSummary))
  | finishVerificationRetry (input : FinishRetryInput) : ProviderCall (Except Thrown Unit)

abbrev Administration (α : Type) : Type 1 := Program ProviderCall Thrown α

/-- Await a call; its rejection is thrown. -/
def awaiting {α : Type} (call : ProviderCall (Except Thrown α)) : Administration α := do
  let reply ← perform call
  fromExcept reply

/-- A command of `configure`. -/
structure ConfigureProviderCommand where
  configId : String
  provider : ProviderName
  model : String
  apiKey : String
  inputUsdPerMillion : String
  outputUsdPerMillion : String
  requestId : String
  deriving DecidableEq

def requireServiceCapability (principal : AuthenticatedPrincipal) (capability : ApiCapability) :
    Administration Unit := do
  throwUnless (principal.principalType = .serviceAccount) (.error "SERVICE_ACCOUNT_REQUIRED")
  throwUnless (principal.capabilities.contains capability) (.error "PROVIDER_CAPABILITY_REQUIRED")

def requireAdmin (principal : AuthenticatedPrincipal) (capability : ApiCapability) :
    Administration Unit := do
  requireServiceCapability principal capability
  throwUnless (principal.role = some .admin) (.error "SERVICE_ACCOUNT_ADMIN_REQUIRED")

/-! ### Configuring -/

/-- What the store is asked to store. -/
def ConfigureProviderCommand.input (command : ConfigureProviderCommand)
    (principal : AuthenticatedPrincipal) (occurredAt : Option ℤ) : ConfigureProviderInput where
  id := command.configId
  organizationId := principal.organizationId
  provider := command.provider
  model := command.model
  apiKey := command.apiKey
  inputUsdPerMillion := command.inputUsdPerMillion
  outputUsdPerMillion := command.outputUsdPerMillion
  actorId := "service_account:" ++ principal.principalId
  causationId := command.requestId
  occurredAt := occurredAt
  verificationStatus := some .pending

/-- Verify the credential that was stored and mark it; a failure of either marks it invalid. -/
def verifyConfigured (principal : AuthenticatedPrincipal) (command : ConfigureProviderCommand)
    (configured : ProviderConfigurationSummary) (occurredAt : Option ℤ) :
    Administration ProviderConfigurationSummary :=
  let mark (status : VerificationStatus) : VerificationMark :=
    ⟨principal.organizationId, command.configId, status, configured.credentialVersion, occurredAt⟩
  tryCatch
    (do
      awaiting (.verifyCredential command.provider command.model command.apiKey)
      awaiting (.markVerificationStatus (mark .verified))
      return configured)
    fun error => do
      awaiting (.markVerificationStatus (mark .invalid))
      throw error

def ProviderAdministration.configure (verifies : Bool) (principal : AuthenticatedPrincipal)
    (command : ConfigureProviderCommand) : Administration ProviderConfigurationSummary := do
  requireAdmin principal .providersWrite
  throwUnless (!isBlank command.requestId) (.error "REQUEST_ID_REQUIRED")
  throwUnless (command.provider = .openrouter && verifies)
    (.error "PROVIDER_VERIFICATION_UNSUPPORTED")
  let occurredAt ← perform .now
  let configured ← awaiting (.configure (command.input principal occurredAt))
  verifyConfigured principal command configured occurredAt

/-! ### Retrying -/

/-- The present summary of the configuration. -/
def currentSummary (principal : AuthenticatedPrincipal) (configId : String) :
    Administration ProviderConfigurationSummary := do
  let summaries ← awaiting (.list principal.organizationId)
  orThrow (summaries.find? fun summary => summary.id = configId)
    (.error "PROVIDER_CONFIGURATION_NOT_FOUND")

/-- End a retry with its outcome. -/
def finishRetry (principal : AuthenticatedPrincipal) (configId requestId claimToken : String)
    (current : ProviderVerificationRecord) (status : VerificationStatus) (errorCode : Option String)
    (occurredAt : Option ℤ) : Administration ProviderConfigurationSummary := do
  let summary ← currentSummary principal configId
  awaiting (.finishVerificationRetry ⟨principal.organizationId, configId, requestId, claimToken,
    current.summary.credentialVersion, status, summary, errorCode, occurredAt⟩)
  return summary

/-- Verify the credential that was read, and end the retry. -/
def verifyClaimed (principal : AuthenticatedPrincipal) (configId requestId claimToken : String)
    (current : ProviderVerificationRecord) (occurredAt : Option ℤ) :
    Administration ProviderConfigurationSummary := do
  tryCatch
    (awaiting (.verifyCredential current.summary.provider current.summary.model current.apiKey))
    fun error => do
      let _ ← finishRetry principal configId requestId claimToken current .invalid
        (some (error.messageOr "OPENROUTER_CREDENTIAL_INVALID")) occurredAt
      throw error
  finishRetry principal configId requestId claimToken current .verified none occurredAt

/-- What a retry that was made before is answered with. -/
def replayRetry (replay : ProviderRetryReplay) : Administration ProviderConfigurationSummary :=
  if replay.status = .invalid then
    throw (.error (replay.errorCode.getD "OPENROUTER_CREDENTIAL_INVALID"))
  else return replay.summary

/-- The retry after its claim. -/
def followClaim (principal : AuthenticatedPrincipal) (configId requestId : String)
    (claim : RetryClaim) (occurredAt : Option ℤ) : Administration ProviderConfigurationSummary :=
  match claim with
  | .replay replay => replayRetry replay
  | .claimed claimToken => do
    let current ← awaiting (.getForVerification principal.organizationId configId)
    throwUnless (current.summary.provider = .openrouter)
      (.error "PROVIDER_VERIFICATION_RETRY_UNSUPPORTED")
    verifyClaimed principal configId requestId claimToken current occurredAt

def ProviderAdministration.retry (verifies : Bool) (principal : AuthenticatedPrincipal)
    (configId requestId : String) : Administration ProviderConfigurationSummary := do
  requireAdmin principal .providersWrite
  throwUnless (!isBlank configId) (.error "PROVIDER_CONFIGURATION_ID_REQUIRED")
  throwUnless (!isBlank requestId) (.error "REQUEST_ID_REQUIRED")
  throwUnless verifies (.error "PROVIDER_VERIFICATION_RETRY_UNAVAILABLE")
  let occurredAt ← perform .now
  let claim ← awaiting
    (.beginVerificationRetry ⟨principal.organizationId, configId, requestId, occurredAt⟩)
  followClaim principal configId requestId claim occurredAt

end FuseControlPlane.Providers
