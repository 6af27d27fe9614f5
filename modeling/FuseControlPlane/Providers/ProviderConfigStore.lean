/-
Provider configurations (`persistence/providerConfigStore.ts`, `providers/providerCredentials.ts`).

* `ProviderConfigRow`: the configuration of an organisation. Its credential is sealed under a version
  that every `configure` raises. `RetryRow`: a retry of its verification, by request.
* `configure`, `markVerificationStatus`: a new credential, and what came of verifying it.
* `beginVerificationRetry`, `finishVerificationRetry`: a retry, under a lease of a quarter of an hour
  and a claim token. `beginVerificationRetry` is its transaction; the `getForVerification` after it is a
  step of its own.
* `getForVerification`, `list`: what is read.

Each method is one transaction and either commits or leaves the tables alone. A sealed secret is
modelled by the secret and what it is bound to: it opens with that key, in that context.
-/

import FuseControlPlane.Core.Pricing
import FuseControlPlane.Identity.IdentityStore

set_option linter.unusedSectionVars false

namespace FuseControlPlane.Providers

open Foundation Foundation.JavaScript Domain Identity FuseControlPlane.Core

inductive ProviderName
  | anthropic | openrouter
  deriving DecidableEq

/-! ### Sealed credentials -/

structure ProviderCredentialContext where
  organizationId : String
  provider : ProviderName
  credentialVersion : ℕ
  deriving DecidableEq

structure ProviderCredentialKeyRing where
  activeKeyId : String
  keys : List (String × String)
  deriving DecidableEq

/-- A sealed credential: under which key, bound to what. -/
structure EncryptedSecret where
  keyId : String
  key : String
  context : ProviderCredentialContext
  secret : String
  deriving DecidableEq

/-- `/^[a-z0-9_-]{1,32}$/`. -/
def isKeyId (text : String) : Bool :=
  matchesClass (fun character => character.isDigit || character.isLower || character = '_' ||
    character = '-') 1 32 text

/-- The context may be bound to. -/
def ProviderCredentialContext.valid (context : ProviderCredentialContext) (keyId : String) : Bool :=
  !isBlank context.organizationId && isSafeInteger context.credentialVersion &&
    1 ≤ context.credentialVersion && isKeyId keyId

def encryptProviderSecret (secret : String) (keyRing : ProviderCredentialKeyRing)
    (context : ProviderCredentialContext) : Except String EncryptedSecret := do
  require (!isBlank secret) "PROVIDER_CREDENTIAL_SECRET_REQUIRED"
  match keyRing.keys.lookup keyRing.activeKeyId with
  | none => .error "PROVIDER_CREDENTIAL_ACTIVE_KEY_MISSING"
  | some key =>
    require (context.valid keyRing.activeKeyId) "PROVIDER_CREDENTIAL_CONTEXT_INVALID"
    return ⟨keyRing.activeKeyId, key, context, secret⟩

def decryptProviderSecret (envelope : EncryptedSecret) (keyRing : ProviderCredentialKeyRing)
    (context : ProviderCredentialContext) : Except String String :=
  if keyRing.keys.lookup envelope.keyId = some envelope.key ∧ envelope.context = context ∧
      context.valid envelope.keyId then .ok envelope.secret
  else .error "PROVIDER_CREDENTIAL_DECRYPT_FAILED"

/-! ### The rows -/

inductive ConfigurationStatus
  | active | revoked
  deriving DecidableEq

inductive VerificationStatus
  | pending | verified | invalid
  deriving DecidableEq

/-- A row of `provider_configurations`. -/
structure ProviderConfigRow where
  organizationId : String
  id : String
  provider : ProviderName
  model : String
  inputUsdPerMillion : String
  outputUsdPerMillion : String
  credentialVersion : ℕ
  encryptionKeyId : String
  encryptedSecret : EncryptedSecret
  status : ConfigurationStatus
  verificationStatus : VerificationStatus
  updatedAt : ℤ
  deriving DecidableEq

instance : Keyed ProviderConfigRow String := ⟨ProviderConfigRow.organizationId⟩

structure ProviderConfigurationSummary where
  id : String
  organizationId : String
  provider : ProviderName
  model : String
  inputUsdPerMillion : String
  outputUsdPerMillion : String
  credentialVersion : ℕ
  status : ConfigurationStatus
  updatedAt : ℤ
  deriving DecidableEq

/-- A row of `provider_verification_retries`. -/
structure RetryRow where
  organizationId : String
  configId : String
  requestId : String
  claimToken : Option String
  status : VerificationStatus
  summary : Option ProviderConfigurationSummary
  errorCode : Option String
  createdAt : ℤ
  updatedAt : ℤ
  deriving DecidableEq

instance : Keyed RetryRow (String × String × String) :=
  ⟨fun row => (row.organizationId, row.configId, row.requestId)⟩

/-- The tables. -/
structure ProviderDb where
  organizations : Table OrganizationRow
  configurations : Table ProviderConfigRow
  retries : Table RetryRow

/-- `WHERE organization_id = organizationId AND id = id`. -/
def ProviderDb.configuration (db : ProviderDb) (organizationId id : String) :
    Option ProviderConfigRow :=
  (db.configurations.find? organizationId).filter fun row => row.id = id

/-- Insert or replace the configuration of an organisation. -/
def ProviderDb.putConfiguration (db : ProviderDb) (row : ProviderConfigRow) : ProviderDb :=
  { db with configurations := db.configurations.put row }

/-- The retries of a configuration that are under way. -/
def ProviderDb.pendingRetries (db : ProviderDb) (organizationId configId : String) : List RetryRow :=
  db.retries.rows.filter fun row =>
    row.organizationId = organizationId && row.configId = configId && row.status = .pending

/-! ### Prices -/

/-- `/^\d+(?:\.\d{1,12})?$/`. -/
def isPriceText (text : String) : Bool :=
  let whole := text.toList.takeWhile Char.isDigit
  let (fraction, rest) := splitFraction (text.toList.dropWhile Char.isDigit)
  whole ≠ [] && rest = [] && fraction.length ≤ 12

/-- A price text as a `NUMERIC(30, 12)` column gives it back. -/
def numericText (text : String) : String :=
  let whole := (text.toList.takeWhile Char.isDigit).dropWhile (· = '0')
  let (fraction, _) := splitFraction (text.toList.dropWhile Char.isDigit)
  String.ofList ((if whole = [] then ['0'] else whole) ++
    '.' :: (fraction ++ List.replicate (12 - fraction.length) '0'))

/-- The text without the zeros at its end. -/
def normalizeDecimal (text : String) : String :=
  let whole := text.toList.takeWhile (· ≠ '.')
  let fraction := ((text.toList.dropWhile (· ≠ '.')).drop 1).takeWhile (· ≠ '.')
  let trimmed := (fraction.reverse.dropWhile (· = '0')).reverse
  String.ofList (if trimmed = [] then whole else whole ++ '.' :: trimmed)

example : normalizeDecimal (numericText "003.50") = "3.5" := by decide +kernel

/-! ### Configuring -/

structure ConfigureProviderInput where
  id : String
  organizationId : String
  provider : ProviderName
  model : String
  apiKey : String
  inputUsdPerMillion : String
  outputUsdPerMillion : String
  actorId : String
  causationId : String
  occurredAt : Option ℤ
  verificationStatus : Option VerificationStatus
  deriving DecidableEq

def ProviderConfigRow.summary (row : ProviderConfigRow) : ProviderConfigurationSummary where
  id := row.id
  organizationId := row.organizationId
  provider := row.provider
  model := row.model
  inputUsdPerMillion := normalizeDecimal row.inputUsdPerMillion
  outputUsdPerMillion := normalizeDecimal row.outputUsdPerMillion
  credentialVersion := row.credentialVersion
  status := row.status
  updatedAt := row.updatedAt

/-- The price is a text of a price, and not zero. -/
def isPositivePrice (text : String) : Bool :=
  isPriceText text && text.toList.any fun character => character ≠ '0' && character ≠ '.'

def validateInput (input : ConfigureProviderInput) : Except String Unit := do
  require (!isBlank input.id) "PROVIDER_CONFIGURATION_ID_REQUIRED"
  require (!isBlank input.organizationId) "PROVIDER_CONFIGURATION_ORGANIZATION_REQUIRED"
  require (!isBlank input.model && length input.model ≤ 256) "PROVIDER_CONFIGURATION_MODEL_INVALID"
  require (!isBlank input.apiKey && length input.apiKey ≤ 4096) "PROVIDER_CREDENTIAL_SECRET_INVALID"
  require (isPositivePrice input.inputUsdPerMillion && isPositivePrice input.outputUsdPerMillion)
    "PROVIDER_CONFIGURATION_PRICE_INVALID"
  require (!isBlank input.actorId && !isBlank input.causationId && input.occurredAt.isSome)
    "PROVIDER_CONFIGURATION_CONTEXT_INVALID"

/-- A text as a `TIMESTAMPTZ`. -/
def instant (occurredAt : Option ℤ) : Except String ℤ :=
  match occurredAt with
  | some time => .ok time
  | none => .error "invalid input syntax for type timestamp with time zone"

/-- The configuration with a new credential. -/
def ConfigureProviderInput.row (input : ConfigureProviderInput) (credentialVersion : ℕ)
    (encryptedSecret : EncryptedSecret) (occurredAt : ℤ) : ProviderConfigRow where
  organizationId := input.organizationId
  id := input.id
  provider := input.provider
  model := input.model
  inputUsdPerMillion := numericText input.inputUsdPerMillion
  outputUsdPerMillion := numericText input.outputUsdPerMillion
  credentialVersion := credentialVersion
  encryptionKeyId := encryptedSecret.keyId
  encryptedSecret := encryptedSecret
  status := .active
  verificationStatus := input.verificationStatus.getD .verified
  updatedAt := occurredAt

/-- The version of the next credential of an organisation. -/
def ProviderDb.nextVersion (db : ProviderDb) (organizationId : String) : ℕ :=
  ((db.configurations.find? organizationId).elim 0 (·.credentialVersion)) + 1

def configure (keyRing : ProviderCredentialKeyRing) (input : ConfigureProviderInput)
    (db : ProviderDb) : Except String (ProviderConfigurationSummary × ProviderDb) := do
  validateInput input
  require (db.organizations.find? input.organizationId).isSome
    "PROVIDER_CONFIGURATION_ORGANIZATION_NOT_FOUND"
  require ((db.configurations.find? input.organizationId).all fun existing => existing.id = input.id)
    "PROVIDER_CONFIGURATION_ID_CONFLICT"
  let credentialVersion := db.nextVersion input.organizationId
  let encryptedSecret ← encryptProviderSecret input.apiKey keyRing
    ⟨input.organizationId, input.provider, credentialVersion⟩
  let occurredAt ← instant input.occurredAt
  let row := input.row credentialVersion encryptedSecret occurredAt
  return (row.summary, db.putConfiguration row)

/-! ### The outcome of a verification -/

structure VerificationMark where
  organizationId : String
  id : String
  status : VerificationStatus
  expectedCredentialVersion : ℕ
  occurredAt : Option ℤ
  deriving DecidableEq

/-- The configuration after a verification has begun or ended. -/
def ProviderConfigRow.marked (row : ProviderConfigRow) (status : VerificationStatus)
    (occurredAt : ℤ) : ProviderConfigRow :=
  { row with verificationStatus := status, updatedAt := occurredAt }

/-- Only the credential that was verified is marked. -/
def markVerificationStatus (input : VerificationMark) (db : ProviderDb) :
    Except String ProviderDb := do
  let occurredAt ← instant input.occurredAt
  match (db.configuration input.organizationId input.id).filter fun row =>
      row.credentialVersion = input.expectedCredentialVersion with
  | none => .error "PROVIDER_VERIFICATION_STALE"
  | some row =>
    return db.putConfiguration (row.marked input.status occurredAt)

/-! ### Reading -/

/-- A configuration with its credential in the open. -/
structure ProviderVerificationRecord where
  summary : ProviderConfigurationSummary
  verificationStatus : VerificationStatus
  apiKey : String
  requireProviderCost : Bool
  requireProviderModelMatch : Bool
  deriving DecidableEq

def getForVerification (keyRing : ProviderCredentialKeyRing) (organizationId id : String)
    (db : ProviderDb) : Except String ProviderVerificationRecord := do
  require (!isBlank organizationId && !isBlank id) "PROVIDER_CONFIGURATION_NOT_FOUND"
  match db.configuration organizationId id with
  | none => .error "PROVIDER_CONFIGURATION_NOT_FOUND"
  | some row =>
    require (row.encryptedSecret.keyId = row.encryptionKeyId) "PROVIDER_CREDENTIAL_DECRYPT_FAILED"
    let apiKey ← decryptProviderSecret row.encryptedSecret keyRing
      ⟨organizationId, row.provider, row.credentialVersion⟩
    return ⟨row.summary, row.verificationStatus, apiKey, row.provider = .openrouter,
      row.provider = .openrouter⟩

def list (organizationId : String) (db : ProviderDb) :
    Except String (List ProviderConfigurationSummary) := do
  require (!isBlank organizationId) "PROVIDER_CONFIGURATION_ORGANIZATION_REQUIRED"
  return (db.configurations.find? organizationId).toList.map ProviderConfigRow.summary

/-! ### Retries -/

/-- The lease of a retry, in milliseconds. -/
def retryLease : ℤ := 15 * 60000

structure RetryInput where
  organizationId : String
  id : String
  requestId : String
  occurredAt : Option ℤ
  deriving DecidableEq

/-- What came of an earlier retry. -/
structure ProviderRetryReplay where
  status : VerificationStatus
  summary : ProviderConfigurationSummary
  errorCode : Option String
  deriving DecidableEq

/-- An ended retry, asked for again: it is about the current credential or stale. -/
def RetryRow.replay (row : RetryRow) (credentialVersion : ℕ) : Except String ProviderRetryReplay :=
  match row.summary with
  | none => .error "TypeError"
  | some summary => do
    require (summary.credentialVersion = credentialVersion) "PROVIDER_VERIFICATION_STALE"
    return ⟨row.status, summary, row.errorCode.filter (· ≠ "")⟩

/-- A retry whose lease was taken over. -/
def RetryRow.lapsed (row : RetryRow) (summary : ProviderConfigurationSummary) (occurredAt : ℤ) :
    RetryRow :=
  { row with
    status := .invalid
    summary := some summary
    errorCode := some "PROVIDER_VERIFICATION_RETRY_LEASE_EXPIRED"
    updatedAt := occurredAt }

/-- A retry that has ended. -/
def RetryRow.ended (row : RetryRow) (status : VerificationStatus)
    (summary : ProviderConfigurationSummary) (errorCode : Option String) (occurredAt : ℤ) : RetryRow :=
  { row with status, summary := some summary, errorCode, updatedAt := occurredAt }

/-- A retry that has begun. -/
def RetryInput.row (input : RetryInput) (claimToken : String) (occurredAt : ℤ) : RetryRow where
  organizationId := input.organizationId
  configId := input.id
  requestId := input.requestId
  claimToken := some claimToken
  status := .pending
  summary := none
  errorCode := none
  createdAt := occurredAt
  updatedAt := occurredAt

/-- The times of the leases on a configuration: of the verification under way, and of its retries. -/
def ProviderDb.leases (db : ProviderDb) (row : ProviderConfigRow) (id : String) : List ℤ :=
  (if row.verificationStatus = .pending then [row.updatedAt] else []) ++
    (db.pendingRetries row.organizationId id).map (·.updatedAt)

/-- The retries of a configuration that were under way have lapsed. -/
def ProviderDb.lapse (db : ProviderDb) (row : ProviderConfigRow) (id : String) (occurredAt : ℤ) :
    Table RetryRow :=
  db.retries.map
    (fun retry =>
      if retry.organizationId = row.organizationId && retry.configId = id && retry.status = .pending
      then retry.lapsed row.summary occurredAt else retry)
    fun retry => by split <;> rfl

/-- `INSERT … ON CONFLICT DO UPDATE … WHERE status = 'invalid'`. -/
def upsertRetry (retries : Table RetryRow) (row : RetryRow) : Table RetryRow :=
  if (retries.find? (Keyed.key row)).all fun old => old.status = .invalid then retries.put row
  else retries

/-- Take the lease on a configuration, whose earlier leases have all run out. -/
def ProviderDb.claimRetry (db : ProviderDb) (row : ProviderConfigRow) (input : RetryInput)
    (claimToken : String) (occurredAt : ℤ) : ProviderDb :=
  { db.putConfiguration (row.marked .pending occurredAt) with
    retries := upsertRetry (db.lapse row input.id occurredAt) (input.row claimToken occurredAt) }

def beginVerificationRetry (input : RetryInput) (claimToken : String) (db : ProviderDb) :
    Except String (Option ProviderRetryReplay × ProviderDb) :=
  match input.occurredAt, db.configuration input.organizationId input.id with
  | none, _ => .error "PROVIDER_VERIFICATION_OCCURRED_AT_INVALID"
  | some _, none => .error "PROVIDER_CONFIGURATION_NOT_FOUND"
  | some occurredAt, some row => do
    require (row.status = .active) "PROVIDER_CONFIGURATION_NOT_ACTIVE"
    match (db.retries.find? (input.organizationId, input.id, input.requestId)).filter
        fun existing => existing.status ≠ .pending with
    | some existing => return (some (← existing.replay row.credentialVersion), db)
    | none =>
      require (row.verificationStatus ≠ .verified) "PROVIDER_ALREADY_VERIFIED"
      require ((db.leases row input.id).all fun lease => lease ≤ occurredAt - retryLease)
        "PROVIDER_VERIFICATION_IN_PROGRESS"
      return (none, db.claimRetry row input claimToken occurredAt)

structure FinishRetryInput where
  organizationId : String
  id : String
  requestId : String
  claimToken : String
  expectedCredentialVersion : ℕ
  status : VerificationStatus
  summary : ProviderConfigurationSummary
  errorCode : Option String
  occurredAt : Option ℤ
  deriving DecidableEq

/-- The retry that a finish is for: under way, and claimed with its token. -/
def ProviderDb.claimed (db : ProviderDb) (input : FinishRetryInput) : Option RetryRow :=
  (db.retries.find? (input.organizationId, input.id, input.requestId)).filter fun row =>
    row.claimToken = some input.claimToken && row.status = .pending

def finishVerificationRetry (input : FinishRetryInput) (db : ProviderDb) :
    Except String ProviderDb := do
  let occurredAt ← instant input.occurredAt
  match (db.configuration input.organizationId input.id).filter fun row =>
      row.credentialVersion = input.expectedCredentialVersion with
  | none => .error "PROVIDER_VERIFICATION_STALE"
  | some row =>
    match db.claimed input with
    | none => .error "PROVIDER_VERIFICATION_RETRY_NOT_FOUND"
    | some retry =>
      return { db.putConfiguration (row.marked input.status occurredAt) with
        retries := db.retries.put
          (retry.ended input.status input.summary input.errorCode occurredAt) }

end FuseControlPlane.Providers
