/-
Human sessions and the authenticator that knows them (`http/humanSessions.ts`, `http/auth.ts` and the
session route of `http/app.ts`).

* `createHumanSession`, `put`, `resolve`, `revoke`, `revokeById`: the session store.
* `sessionAwareAuthenticateToken`: a `fuse_hs_` token is looked up among the sessions and its source
  credential checked again; every other token goes to the identity store.
* `postSession`: `POST /api/v1/session`.

Rate limits only refuse requests and are left out.
-/

import FuseControlPlane.Identity.IdentityStore

set_option linter.unusedSectionVars false

namespace FuseControlPlane.Http

open Foundation Foundation.JavaScript Domain Identity

/-! ### The table -/

/-- What a session's user is to the workspace. -/
inductive HumanSessionRole
  | owner | member | viewer
  deriving DecidableEq

/-- A row of `human_sessions`. -/
structure HumanSessionRow where
  id : String
  workspaceId : String
  userId : String
  sourceCredentialId : String
  sourceCredentialType : PrincipalType
  role : HumanSessionRole
  tokenHash : String
  expiresAt : ℤ
  revokedAt : Option ℤ
  deriving DecidableEq

instance : Keyed HumanSessionRow String := ⟨HumanSessionRow.id⟩

/-- The identity tables and the sessions. -/
structure SessionDb where
  identity : IdentityDb
  humanSessions : Table HumanSessionRow

namespace SessionDb

def empty : SessionDb := ⟨.empty, .empty⟩

/-- `INSERT … ON CONFLICT (id) DO UPDATE`: the hash is unique among the other rows. -/
def put (db : SessionDb) (row : HumanSessionRow) : Except String SessionDb := do
  require (!db.humanSessions.rows.any fun other =>
    other.tokenHash = row.tokenHash && other.id ≠ row.id) "unique_violation human_sessions_token_hash_key"
  return { db with humanSessions := db.humanSessions.put row }

/-- The session of a hash: neither revoked nor expired, and with a source credential. -/
def resolve (db : SessionDb) (hash : String) (now : ℤ) : Option HumanSessionRow :=
  (db.humanSessions.rows.find? fun row =>
    row.tokenHash = hash && row.revokedAt.isNone && now < row.expiresAt).filter fun row =>
      row.sourceCredentialId ≠ ""

/-- `UPDATE human_sessions SET revoked_at` of a row that is not revoked. -/
def revokeSession (db : SessionDb) (row : Option HumanSessionRow) (revokedAt : ℤ) : SessionDb :=
  match row.filter fun row => row.revokedAt.isNone with
  | some row => { db with humanSessions := db.humanSessions.put { row with revokedAt } }
  | none => db

/-- `revoke`: by the hash of the token. -/
def revoke (db : SessionDb) (hash : String) (revokedAt : ℤ) : SessionDb :=
  db.revokeSession (db.humanSessions.rows.find? fun row => row.tokenHash = hash) revokedAt

/-- `revokeById`: by id, in one workspace. -/
def revokeById (db : SessionDb) (sessionId workspaceId : String) (revokedAt : ℤ) : SessionDb :=
  db.revokeSession ((db.humanSessions.find? sessionId).filter fun row =>
    row.workspaceId = workspaceId) revokedAt

end SessionDb

section Tokens

variable [NodeCrypto]

/-! ### A new session -/

/-- A session to be created. Dates are what `Date.parse` makes of them. -/
structure CreateHumanSessionInput where
  workspaceId : String
  userId : String
  sourceCredentialId : String
  sourceCredentialType : PrincipalType
  role : HumanSessionRole
  createdAt : Option ℤ
  expiresAt : Option ℤ
  deriving DecidableEq

/-- `hs_` and the first 24 digits of the token's hash. -/
def sessionId (token : String) : String := "hs_" ++ take 24 (hashApiToken token)

/-- The token and the row of a new session. `secret` is the random part, in base64url. -/
def createHumanSession (input : CreateHumanSessionInput) (secret : String) :
    Except String (String × HumanSessionRow) := do
  require (!isBlank input.workspaceId) "HUMAN_SESSION_WORKSPACE_REQUIRED"
  require (!isBlank input.userId) "HUMAN_SESSION_USER_REQUIRED"
  require (!isBlank input.sourceCredentialId) "HUMAN_SESSION_SOURCE_CREDENTIAL_REQUIRED"
  match input.createdAt, input.expiresAt with
  | some createdAt, some expiresAt =>
    require (createdAt < expiresAt) "HUMAN_SESSION_EXPIRY_INVALID"
    let token := "fuse_hs_" ++ secret
    return (token,
      { id := sessionId token
        workspaceId := trim input.workspaceId
        userId := trim input.userId
        sourceCredentialId := trim input.sourceCredentialId
        sourceCredentialType := input.sourceCredentialType
        role := input.role
        tokenHash := hashApiToken token
        expiresAt
        revokedAt := none })
  | _, _ => .error "HUMAN_SESSION_TIME_INVALID"

/-- Create a session and store it. -/
def SessionDb.create (db : SessionDb) (input : CreateHumanSessionInput) (secret : String) :
    Except String (String × SessionDb) := do
  let (token, row) ← createHumanSession input secret
  let after ← db.put row
  return (token, after)

/-! ### Authentication -/

/-- `HUMAN_SESSION_ROLE_CAPABILITIES`. -/
def humanSessionRoleCapabilities : ServiceAccountRole → List ApiCapability
  | .admin => apiCapabilities
  | .operator => [.mandatesRead, .receiptsRead, .policiesRead, .providersRead, .sandboxRun]
  | .viewer => [.mandatesRead, .receiptsRead, .policiesRead, .providersRead]

/-- The account role a session acts with. -/
def HumanSessionRole.accountRole : HumanSessionRole → ServiceAccountRole
  | .owner => .admin
  | .member => .operator
  | .viewer => .viewer

/-- The principal a session authenticates. -/
def HumanSessionRow.principal (session : HumanSessionRow) : AuthenticatedPrincipal where
  principalType := .serviceAccount
  principalId := session.userId
  organizationId := session.workspaceId
  credentialId := session.id
  capabilities := humanSessionRoleCapabilities session.role.accountRole
  role := some session.role.accountRole
  sessionSourceCredentialId := some session.sourceCredentialId
  sessionSourceCredentialType := some session.sourceCredentialType

/-- `createSessionAwareAuthenticator`. -/
def sessionAwareAuthenticateToken (db : SessionDb) (token : String) (now : ℤ) :
    Option AuthenticatedPrincipal :=
  if startsWith token "fuse_hs_" then do
    let session ← db.resolve (hashApiToken token) now
    guard (isCredentialActive db.identity session.workspaceId session.sourceCredentialId
      session.sourceCredentialType now)
    return session.principal
  else authenticateToken db.identity token now

/-! ### `POST /api/v1/session` -/

/-- The longest a session may last, in milliseconds. -/
def maxHumanSessionMs : ℤ := 24 * 60 * 60 * 1000

/-- A request for a session: the bearer token, the time, the expiry asked for and the random part. -/
structure SessionRequest where
  bearer : String
  now : ℤ
  expiresAt : Option ℤ
  secret : String
  deriving DecidableEq

/-- The session role of an account role. -/
def sessionRole : Option ServiceAccountRole → HumanSessionRole
  | some .admin => .owner
  | some .operator => .member
  | _ => .viewer

/-- The answer, an error with its status or the new token, and the tables afterwards. -/
def postSession (db : SessionDb) (request : SessionRequest) :
    Except (ℕ × String) (String × SessionDb) :=
  match sessionAwareAuthenticateToken db request.bearer request.now with
  | none => .error (401, "INVALID_CREDENTIAL")
  | some principal =>
    if principal.principalType ≠ .serviceAccount || startsWith principal.credentialId "hs_" then
      .error (403, "SERVICE_ACCOUNT_SESSION_ISSUER_REQUIRED")
    else if request.expiresAt.any fun expiresAt => maxHumanSessionMs < expiresAt - request.now then
      .error (400, "SESSION_EXPIRY_TOO_LONG")
    else
      (db.create
        { workspaceId := principal.organizationId
          userId := principal.principalId
          sourceCredentialId := principal.credentialId
          sourceCredentialType := principal.principalType
          role := sessionRole principal.role
          createdAt := request.now
          expiresAt := request.expiresAt } request.secret).mapError
        fun _ => (503, "SESSION_UNAVAILABLE")

end Tokens

/-! ### Runs -/

/-- One request or administrative action. -/
inductive SessionOp
  | createOrganization (id name : String) (context : MutationContext)
  | bootstrapServiceAccount (input : BootstrapServiceAccountInput)
  | createServiceAccount (input : PrincipalInput) (role : ServiceAccountRole)
  | registerAgent (input : PrincipalInput)
  | issueCredential (record : CredentialRecord) (context : MutationContext)
  | issueServiceAccountCredential (record : CredentialRecord) (context : MutationContext)
  | revokeCredential (organizationId credentialId : String) (context : MutationContext)
  | revokeServiceAccountCredential (organizationId credentialId : String) (context : MutationContext)
  | postSession (request : SessionRequest)
  | revoke (token : String) (revokedAt : ℤ)
  | revokeById (sessionId workspaceId : String) (revokedAt : ℤ)

section Runs

variable [NodeCrypto]

/-- A change of the identity tables; a refused one changes nothing. -/
def SessionDb.identityStep (db : SessionDb) (mutate : IdentityDb → Except String IdentityDb) :
    SessionDb :=
  match mutate db.identity with
  | .ok identity => { db with identity }
  | .error _ => db

/-- The tables after a request for a session. -/
def SessionDb.posted (db : SessionDb) (request : SessionRequest) : SessionDb :=
  match postSession db request with
  | .ok (_, after) => after
  | .error _ => db

def SessionDb.step (db : SessionDb) : SessionOp → SessionDb
  | .createOrganization id name context => db.identityStep (createOrganization id name context)
  | .bootstrapServiceAccount input => db.identityStep (bootstrapServiceAccount input)
  | .createServiceAccount input role => db.identityStep (createServiceAccount input role)
  | .registerAgent input => db.identityStep (registerAgent input)
  | .issueCredential record context => db.identityStep (issueCredential record context)
  | .issueServiceAccountCredential record context =>
    db.identityStep (issueServiceAccountCredential record context)
  | .revokeCredential organizationId credentialId context =>
    db.identityStep (revokeCredential organizationId credentialId context)
  | .revokeServiceAccountCredential organizationId credentialId context =>
    db.identityStep (revokeServiceAccountCredential organizationId credentialId context)
  | .postSession request => db.posted request
  | .revoke token revokedAt => db.revoke (hashApiToken token) revokedAt
  | .revokeById sessionId workspaceId revokedAt => db.revokeById sessionId workspaceId revokedAt

end Runs

end FuseControlPlane.Http
