/-
New credentials, and who may have them issued (`identity/apiCredentials.ts`,
`identity/credentialAdministration.ts`).

* `createApiCredential`, `createServiceAccountCredential`: the token and the record of a new
  credential. They differ in the texts of their errors, so both are `createCredential`.
* `requireServiceAccount`: the check every administrative method makes first.
* `agentCapabilities`: what an agent's credential may carry.

A secret is the base64url text of random bytes.
-/

import FuseControlPlane.Identity.IdentityStore

set_option linter.unusedSectionVars false

namespace FuseControlPlane.Identity

open Foundation Foundation.JavaScript Domain

/-- A credential asked for. Dates are as in `CredentialRecord`. -/
structure CreateCredentialInput where
  id : String
  organizationId : String
  principalId : String
  name : String
  capabilities : List ApiCapability
  createdAt : Option ℤ
  expiresAt : Option (Option ℤ)
  deriving DecidableEq

/-- The input of `issueAgentCredential` and `issueServiceAccountCredential`. -/
structure IssueCredentialInput where
  credentialId : String
  principalId : String
  name : String
  capabilities : List ApiCapability
  expiresAt : Option (Option ℤ)
  requestId : String
  deriving DecidableEq

section Tokens

variable [NodeCrypto]

def createCredential (errorPrefix principalError : String) (input : CreateCredentialInput)
    (secret : String) : Except String (String × CredentialRecord) := do
  require (!isBlank input.id) (errorPrefix ++ "_ID_REQUIRED")
  require (!isBlank input.organizationId) (errorPrefix ++ "_ORGANIZATION_REQUIRED")
  require (!isBlank input.principalId) principalError
  require (!isBlank input.name) (errorPrefix ++ "_NAME_REQUIRED")
  require input.createdAt.isSome (errorPrefix ++ "_CREATED_AT_INVALID")
  require (!input.capabilities.isEmpty) (errorPrefix ++ "_CAPABILITY_INVALID")
  require (expiresAfter input.createdAt input.expiresAt) (errorPrefix ++ "_EXPIRY_INVALID")
  let token := "fuse_sk_" ++ secret
  return (token,
    { id := input.id
      organizationId := input.organizationId
      principalId := input.principalId
      name := input.name
      capabilities := input.capabilities.eraseDups
      tokenPrefix := take 20 token
      tokenHash := hashApiToken token
      createdAt := input.createdAt
      expiresAt := input.expiresAt
      revokedAt := none })

def createApiCredential (input : CreateCredentialInput) (secret : String) :
    Except String (String × CredentialRecord) :=
  createCredential "API_CREDENTIAL" "API_CREDENTIAL_AGENT_REQUIRED" input secret

def createServiceAccountCredential (input : CreateCredentialInput) (secret : String) :
    Except String (String × CredentialRecord) :=
  createCredential "SERVICE_CREDENTIAL" "SERVICE_CREDENTIAL_ACCOUNT_REQUIRED" input secret

end Tokens

/-- The principal is an administrator's service account with the capability. -/
def requireServiceAccount (principal : AuthenticatedPrincipal) (capability : ApiCapability) :
    Except String Unit := do
  require (principal.principalType = .serviceAccount) "SERVICE_ACCOUNT_REQUIRED"
  require (principal.role = some .admin) "SERVICE_ACCOUNT_ADMIN_REQUIRED"
  require (principal.capabilities.contains capability) "ADMIN_CAPABILITY_REQUIRED"

/-- What a credential of an agent may carry. -/
def agentCapabilities : List ApiCapability :=
  [.inferenceInvoke, .mandatesRead, .mandatesWrite, .receiptsRead]

end FuseControlPlane.Identity
