/-
The identity store (`persistence/identityStore.ts`): organisations, their service accounts and agents,
and the credentials of both.

* `IdentityDb`: the tables, with their primary keys.
* `bootstrapServiceAccount`, `createServiceAccount`, `registerAgent`, `issueCredential`,
  `issueServiceAccountCredential`, `revokeCredential`, `revokeServiceAccountCredential`: the mutations,
  each one transaction that either commits or leaves the tables as they were.
* `authenticateToken`, `isCredentialActive`: the two ways in which a credential is checked.

An agent's and a service account's credential have the same columns but for the name of the owner's:
`principalId` stands for `agent_id` and `service_account_id`.
-/

import FuseControlPlane.Domain.Policy
import FuseControlPlane.Foundation.Table

set_option linter.unusedSectionVars false

namespace FuseControlPlane.Identity

open Foundation Foundation.JavaScript Domain

/-! ### The tables -/

/-- Whether a principal may be used. -/
inductive PrincipalStatus
  | active | revoked
  deriving DecidableEq

/-- A row of `organizations`. -/
structure OrganizationRow where
  id : String
  deriving DecidableEq

instance : Keyed OrganizationRow String := ⟨OrganizationRow.id⟩

/-- A row of `service_accounts`. -/
structure ServiceAccountRow where
  organizationId : String
  id : String
  role : ServiceAccountRole
  revokedAt : Option ℤ
  deriving DecidableEq

instance : Keyed ServiceAccountRow (String × String) := ⟨fun row => (row.organizationId, row.id)⟩

/-- A row of `agent_identities`. -/
structure AgentIdentityRow where
  organizationId : String
  id : String
  status : PrincipalStatus
  revokedAt : Option ℤ
  deriving DecidableEq

instance : Keyed AgentIdentityRow (String × String) := ⟨fun row => (row.organizationId, row.id)⟩

/-- A row of `api_credentials` or of `service_account_credentials`. -/
structure CredentialRow where
  organizationId : String
  id : String
  principalId : String
  tokenHash : String
  capabilities : List ApiCapability
  expiresAt : Option ℤ
  revokedAt : Option ℤ
  deriving DecidableEq

instance : Keyed CredentialRow (String × String) := ⟨fun row => (row.organizationId, row.id)⟩

/-- The identity tables. -/
structure IdentityDb where
  organizations : Table OrganizationRow
  serviceAccounts : Table ServiceAccountRow
  agentIdentities : Table AgentIdentityRow
  serviceAccountCredentials : Table CredentialRow
  apiCredentials : Table CredentialRow

namespace IdentityDb

def empty : IdentityDb := ⟨.empty, .empty, .empty, .empty, .empty⟩

/-- `DELETE FROM table WHERE organization_id = workspaceId` for every table, then the organisation. -/
def deleteOrganization (workspaceId : String) (db : IdentityDb) : IdentityDb where
  organizations := db.organizations.erase workspaceId
  serviceAccounts := db.serviceAccounts.filter fun row => row.organizationId ≠ workspaceId
  agentIdentities := db.agentIdentities.filter fun row => row.organizationId ≠ workspaceId
  serviceAccountCredentials :=
    db.serviceAccountCredentials.filter fun row => row.organizationId ≠ workspaceId
  apiCredentials := db.apiCredentials.filter fun row => row.organizationId ≠ workspaceId

end IdentityDb

/-! ### Inputs -/

/-- Who changes something, why, and when: `Date.parse` of the text. -/
structure MutationContext where
  actorId : String
  causationId : String
  occurredAt : Option ℤ
  deriving DecidableEq

/-- A credential to be stored. A missing `expiresAt` is `none`, a text `Date.parse` rejects is
`some none`. -/
structure CredentialRecord where
  id : String
  organizationId : String
  principalId : String
  name : String
  capabilities : List ApiCapability
  tokenPrefix : String
  tokenHash : String
  createdAt : Option ℤ
  expiresAt : Option (Option ℤ)
  revokedAt : Option ℤ
  deriving DecidableEq

structure BootstrapServiceAccountInput where
  organizationId : String
  organizationName : String
  serviceAccountId : String
  serviceAccountName : String
  credential : CredentialRecord
  context : MutationContext
  deriving DecidableEq

/-- The input of `createServiceAccount`, and without the role of `registerAgent`. -/
structure PrincipalInput where
  id : String
  organizationId : String
  name : String
  context : MutationContext
  deriving DecidableEq

/-! ### Checks -/

def validateContext (context : MutationContext) : Except String Unit := do
  require (!isBlank context.actorId) "IDENTITY_ACTOR_REQUIRED"
  require (!isBlank context.causationId) "IDENTITY_CAUSATION_REQUIRED"
  require context.occurredAt.isSome "IDENTITY_OCCURRED_AT_INVALID"

/-- A character of `[A-Za-z0-9_-]`. -/
def isBase64Url (character : Char) : Bool :=
  character.isAlphanum || character = '_' || character = '-'

/-- `/^fuse_sk_[A-Za-z0-9_-]{12}$/`. -/
def isTokenPrefix (text : String) : Bool :=
  startsWith text "fuse_sk_" && matchesClass isBase64Url 12 12 (drop 8 text)

/-- `/^[a-f0-9]{64}$/`. -/
def isDigest (text : String) : Bool :=
  matchesClass (fun character => character.isDigit || ('a' ≤ character && character ≤ 'f')) 64 64 text

/-- The expiry, if there is one, is a date after the creation. -/
def expiresAfter (createdAt : Option ℤ) : Option (Option ℤ) → Bool
  | none => true
  | some none => false
  | some (some expiresAt) => createdAt.any fun created => created < expiresAt

def validateCredentialMaterial (record : CredentialRecord) (errorPrefix : String) :
    Except String Unit := do
  require (isTokenPrefix record.tokenPrefix) (errorPrefix ++ "_PREFIX_INVALID")
  require (isDigest record.tokenHash) (errorPrefix ++ "_HASH_INVALID")
  require record.createdAt.isSome (errorPrefix ++ "_CREATED_AT_INVALID")
  require (expiresAfter record.createdAt record.expiresAt) (errorPrefix ++ "_EXPIRY_INVALID")
  require record.revokedAt.isNone (errorPrefix ++ "_ALREADY_REVOKED")
  require (!hasDuplicates record.capabilities) (errorPrefix ++ "_CAPABILITY_DUPLICATE")
  require (!record.capabilities.isEmpty) (errorPrefix ++ "_CAPABILITY_INVALID")

/-! ### Inserts and updates -/

namespace CredentialRecord

/-- The row a record is stored as. -/
def row (record : CredentialRecord) : CredentialRow where
  organizationId := record.organizationId
  id := record.id
  principalId := record.principalId
  tokenHash := record.tokenHash
  capabilities := record.capabilities
  expiresAt := record.expiresAt.join
  revokedAt := record.revokedAt

end CredentialRecord

/-- `INSERT` into a table of credentials: the primary key and the hash are unique. -/
def insertCredential (credentials : Table CredentialRow) (row : CredentialRow) (table : String) :
    Except String (Table CredentialRow) := do
  require (credentials.find? (row.organizationId, row.id)).isNone ("unique_violation " ++ table)
  require (!credentials.rows.any fun other => other.tokenHash = row.tokenHash)
    ("unique_violation " ++ table ++ "_token_hash_key")
  return credentials.put row

/-- `UPDATE table SET revoked_at = occurredAt WHERE … AND revoked_at IS NULL`, which must hit a row. -/
def revokeRow (credentials : Table CredentialRow) (organizationId credentialId : String)
    (occurredAt : Option ℤ) (error : String) : Except String (Table CredentialRow) :=
  match (credentials.find? (organizationId, credentialId)).filter fun row => row.revokedAt.isNone with
  | some row => .ok (credentials.put { row with revokedAt := occurredAt })
  | none => .error error

/-! ### The mutations -/

def createOrganization (id name : String) (context : MutationContext) (db : IdentityDb) :
    Except String IdentityDb := do
  validateContext context
  require (!isBlank id) "ORGANIZATION_ID_REQUIRED"
  require (!isBlank name) "ORGANIZATION_NAME_REQUIRED"
  require (db.organizations.find? id).isNone "unique_violation organizations"
  return { db with organizations := db.organizations.put ⟨id⟩ }

/-- A new organisation with one administrator account and its credential. -/
def bootstrapServiceAccount (input : BootstrapServiceAccountInput) (db : IdentityDb) :
    Except String IdentityDb := do
  validateContext input.context
  require (!isBlank input.organizationId) "ORGANIZATION_ID_REQUIRED"
  require (!isBlank input.organizationName) "ORGANIZATION_NAME_REQUIRED"
  require (!isBlank input.serviceAccountId) "SERVICE_ACCOUNT_ID_REQUIRED"
  require (!isBlank input.serviceAccountName) "SERVICE_ACCOUNT_NAME_REQUIRED"
  require (input.credential.organizationId = input.organizationId &&
    input.credential.principalId = input.serviceAccountId) "BOOTSTRAP_CREDENTIAL_PRINCIPAL_MISMATCH"
  validateCredentialMaterial input.credential "SERVICE_CREDENTIAL"
  require (db.organizations.find? input.organizationId).isNone "unique_violation organizations"
  require (db.serviceAccounts.find? (input.organizationId, input.serviceAccountId)).isNone
    "unique_violation service_accounts"
  let serviceAccountCredentials ← insertCredential db.serviceAccountCredentials input.credential.row
    "service_account_credentials"
  return { db with
    organizations := db.organizations.put ⟨input.organizationId⟩
    serviceAccounts := db.serviceAccounts.put
      ⟨input.organizationId, input.serviceAccountId, .admin, none⟩
    serviceAccountCredentials }

def createServiceAccount (input : PrincipalInput) (role : ServiceAccountRole) (db : IdentityDb) :
    Except String IdentityDb := do
  validateContext input.context
  require (!isBlank input.id) "SERVICE_ACCOUNT_ID_REQUIRED"
  require (!isBlank input.organizationId) "SERVICE_ACCOUNT_ORGANIZATION_REQUIRED"
  require (!isBlank input.name) "SERVICE_ACCOUNT_NAME_REQUIRED"
  require (db.serviceAccounts.find? (input.organizationId, input.id)).isNone
    "unique_violation service_accounts"
  require (db.organizations.find? input.organizationId).isSome "foreign_key_violation organizations"
  return { db with
    serviceAccounts := db.serviceAccounts.put ⟨input.organizationId, input.id, role, none⟩ }

def issueServiceAccountCredential (record : CredentialRecord) (context : MutationContext)
    (db : IdentityDb) : Except String IdentityDb := do
  validateContext context
  require (!isBlank record.id) "SERVICE_CREDENTIAL_ID_REQUIRED"
  require (!isBlank record.organizationId) "SERVICE_CREDENTIAL_ORGANIZATION_REQUIRED"
  require (!isBlank record.principalId) "SERVICE_CREDENTIAL_ACCOUNT_REQUIRED"
  require (!isBlank record.name) "SERVICE_CREDENTIAL_NAME_REQUIRED"
  validateCredentialMaterial record "SERVICE_CREDENTIAL"
  match (db.serviceAccounts.find? (record.organizationId, record.principalId)).filter
      fun account => account.revokedAt.isNone with
  | none => .error "SERVICE_ACCOUNT_NOT_ACTIVE"
  | some account =>
    require (serviceAccountRoleAllowsCapabilities account.role record.capabilities)
      "SERVICE_CREDENTIAL_CAPABILITY_FOR_ROLE"
    let serviceAccountCredentials ← insertCredential db.serviceAccountCredentials record.row
      "service_account_credentials"
    return { db with serviceAccountCredentials }

def revokeServiceAccountCredential (organizationId credentialId : String)
    (context : MutationContext) (db : IdentityDb) : Except String IdentityDb := do
  validateContext context
  require (!isBlank organizationId) "SERVICE_CREDENTIAL_ORGANIZATION_REQUIRED"
  require (!isBlank credentialId) "SERVICE_CREDENTIAL_ID_REQUIRED"
  let serviceAccountCredentials ← revokeRow db.serviceAccountCredentials organizationId credentialId
    context.occurredAt "SERVICE_CREDENTIAL_NOT_ACTIVE"
  return { db with serviceAccountCredentials }

def registerAgent (input : PrincipalInput) (db : IdentityDb) : Except String IdentityDb := do
  validateContext input.context
  require (!isBlank input.id) "AGENT_ID_REQUIRED"
  require (!isBlank input.organizationId) "AGENT_ORGANIZATION_REQUIRED"
  require (!isBlank input.name) "AGENT_NAME_REQUIRED"
  require (db.agentIdentities.find? (input.organizationId, input.id)).isNone
    "unique_violation agent_identities"
  require (db.organizations.find? input.organizationId).isSome "foreign_key_violation organizations"
  return { db with
    agentIdentities := db.agentIdentities.put ⟨input.organizationId, input.id, .active, none⟩ }

def issueCredential (record : CredentialRecord) (context : MutationContext) (db : IdentityDb) :
    Except String IdentityDb := do
  validateContext context
  require (!isBlank record.id) "API_CREDENTIAL_ID_REQUIRED"
  require (!isBlank record.organizationId) "API_CREDENTIAL_ORGANIZATION_REQUIRED"
  require (!isBlank record.principalId) "API_CREDENTIAL_AGENT_REQUIRED"
  require (!isBlank record.name) "API_CREDENTIAL_NAME_REQUIRED"
  validateCredentialMaterial record "API_CREDENTIAL"
  let apiCredentials ← insertCredential db.apiCredentials record.row "api_credentials"
  require (db.agentIdentities.find? (record.organizationId, record.principalId)).isSome
    "foreign_key_violation agent_identities"
  return { db with apiCredentials }

def revokeCredential (organizationId credentialId : String) (context : MutationContext)
    (db : IdentityDb) : Except String IdentityDb := do
  validateContext context
  require (!isBlank organizationId) "API_CREDENTIAL_ORGANIZATION_REQUIRED"
  require (!isBlank credentialId) "API_CREDENTIAL_ID_REQUIRED"
  let apiCredentials ← revokeRow db.apiCredentials organizationId credentialId context.occurredAt
    "API_CREDENTIAL_NOT_ACTIVE"
  return { db with apiCredentials }

/-! ### Checking a credential -/

/-- Whom a credential belongs to. -/
inductive PrincipalType
  | agent | serviceAccount
  deriving DecidableEq

/-- Who made a request. The last two fields are set for a human session only. -/
structure AuthenticatedPrincipal where
  principalType : PrincipalType
  principalId : String
  organizationId : String
  credentialId : String
  capabilities : List ApiCapability
  role : Option ServiceAccountRole
  sessionSourceCredentialId : Option String
  sessionSourceCredentialType : Option PrincipalType
  deriving DecidableEq

/-- Neither revoked nor expired. -/
def CredentialRow.live (row : CredentialRow) (now : ℤ) : Bool :=
  row.revokedAt.isNone && row.expiresAt.all fun expiresAt => now < expiresAt

/-- The agent of a credential, if it may be used. -/
def IdentityDb.activeAgent (db : IdentityDb) (row : CredentialRow) : Option AgentIdentityRow :=
  (db.agentIdentities.find? (row.organizationId, row.principalId)).filter fun agent =>
    agent.revokedAt.isNone && agent.status = .active

/-- The service account of a credential, if it may be used. -/
def IdentityDb.activeAccount (db : IdentityDb) (row : CredentialRow) : Option ServiceAccountRow :=
  (db.serviceAccounts.find? (row.organizationId, row.principalId)).filter fun account =>
    account.revokedAt.isNone

/-- `SELECT … WHERE token_hash = hash`. -/
def findByHash (credentials : Table CredentialRow) (hash : String) : Option CredentialRow :=
  credentials.rows.find? fun row => row.tokenHash = hash

/-- The agent a token authenticates. -/
def authenticateAgent (db : IdentityDb) (hash : String) (now : ℤ) : Option AuthenticatedPrincipal := do
  let row ← findByHash db.apiCredentials hash
  let _ ← db.activeAgent row
  guard (row.live now)
  return ⟨.agent, row.principalId, row.organizationId, row.id, row.capabilities, none, none, none⟩

/-- The service account a token authenticates: its role must still allow every capability. -/
def authenticateServiceAccount (db : IdentityDb) (hash : String) (now : ℤ) :
    Option AuthenticatedPrincipal := do
  let row ← findByHash db.serviceAccountCredentials hash
  let account ← db.activeAccount row
  guard (row.live now)
  guard (serviceAccountRoleAllowsCapabilities account.role row.capabilities)
  return ⟨.serviceAccount, row.principalId, row.organizationId, row.id, row.capabilities,
    some account.role, none, none⟩

section Tokens

variable [NodeCrypto]

def hashApiToken (token : String) : String := NodeCrypto.sha256 token

/-- An agent's credential comes first, then a service account's. -/
def authenticateToken (db : IdentityDb) (token : String) (now : ℤ) : Option AuthenticatedPrincipal :=
  authenticateAgent db (hashApiToken token) now <|>
    authenticateServiceAccount db (hashApiToken token) now

end Tokens

/-- The check a session makes of the credential it was created with. -/
def isCredentialActive (db : IdentityDb) (organizationId credentialId : String)
    (credentialType : PrincipalType) (now : ℤ) : Bool :=
  match credentialType with
  | .agent => (db.apiCredentials.find? (organizationId, credentialId)).any fun row =>
      row.live now && (db.activeAgent row).isSome
  | .serviceAccount =>
    (db.serviceAccountCredentials.find? (organizationId, credentialId)).any fun row =>
      row.live now && (db.activeAccount row).isSome

end FuseControlPlane.Identity
