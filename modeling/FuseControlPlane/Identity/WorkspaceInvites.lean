/-
Workspace invites (`identity/workspaceInvites.ts` and the invites of `persistence/identityStore.ts`).

* `revokeWorkspaceInvite`, `consumeWorkspaceInvite`: the two transactions on an invite. A consumed invite
  names its user, who is created with it if nobody has the e-mail address.
* `accept`: consume the invite of a token, then create a session and store it.
* `revoke`: an administrator takes an invite back.

The sessions are stored by `HumanSessionStore.put`, a transaction of its own, which also writes the audit
event that a session was created.
-/

import FuseControlPlane.Foundation.Program
import FuseControlPlane.Http.HumanSessions

set_option linter.unusedSectionVars false

namespace FuseControlPlane.Identity

open Foundation Foundation.JavaScript Domain Http Program

/-! ### The tables -/

/-- A row of `organization_users`. -/
structure OrganizationUserRow where
  id : String
  email : String
  deriving DecidableEq

instance : Keyed OrganizationUserRow String := ⟨OrganizationUserRow.id⟩

/-- A row of `workspace_invites`. -/
structure WorkspaceInviteRow where
  id : String
  organizationId : String
  email : String
  role : ServiceAccountRole
  sourceCredentialId : String
  tokenHash : String
  expiresAt : ℤ
  userId : Option String
  acceptedAt : Option ℤ
  revokedAt : Option ℤ
  deriving DecidableEq

instance : Keyed WorkspaceInviteRow String := ⟨WorkspaceInviteRow.id⟩

structure InviteDb where
  users : Table OrganizationUserRow
  invites : Table WorkspaceInviteRow

/-! ### The transactions -/

/-- What a consumed invite grants. -/
structure ConsumedWorkspaceInvite where
  workspaceId : String
  userId : String
  role : ServiceAccountRole
  sourceCredentialId : String
  sourceCredentialType : PrincipalType
  expiresAt : ℤ
  deriving DecidableEq

/-- `UPDATE workspace_invites SET revoked_at`, of an invite neither accepted nor revoked. -/
def revokeWorkspaceInvite (organizationId inviteId : String) (context : MutationContext)
    (db : InviteDb) : Except String (Bool × InviteDb) := do
  validateContext context
  require (!isBlank organizationId) "WORKSPACE_INVITE_ORGANIZATION_REQUIRED"
  require (!isBlank inviteId) "WORKSPACE_INVITE_ID_REQUIRED"
  match (db.invites.find? inviteId).filter fun row =>
      row.organizationId = organizationId && row.acceptedAt.isNone && row.revokedAt.isNone with
  | some row =>
    return (true, { db with invites := db.invites.put { row with revokedAt := context.occurredAt } })
  | none => return (false, db)

/-- The invite of a hash, if it may be accepted. -/
def InviteDb.acceptable (db : InviteDb) (tokenHash : String) (now : ℤ) : Option WorkspaceInviteRow :=
  db.invites.rows.find? fun row =>
    row.tokenHash = tokenHash && row.acceptedAt.isNone && row.revokedAt.isNone && now < row.expiresAt

/-- The user with this e-mail address, or a new one. -/
def InviteDb.userFor (db : InviteDb) (email newUserId : String) :
    Except String (String × Table OrganizationUserRow) :=
  match db.users.rows.find? fun user => user.email = email with
  | some user => .ok (user.id, db.users)
  | none => do
    require (db.users.find? newUserId).isNone "unique_violation organization_users"
    return (newUserId, db.users.put ⟨newUserId, email⟩)

/-- The invite, accepted by a user. -/
def WorkspaceInviteRow.accepted (row : WorkspaceInviteRow) (userId : String) (now : ℤ) :
    WorkspaceInviteRow := { row with userId := some userId, acceptedAt := some now }

/-- An invite as it is consumed. -/
def WorkspaceInviteRow.consumed (row : WorkspaceInviteRow) (userId : String) :
    ConsumedWorkspaceInvite :=
  ⟨row.organizationId, userId, row.role, row.sourceCredentialId, .serviceAccount, row.expiresAt⟩

def consumeWorkspaceInvite (tokenHash : String) (now : ℤ) (newUserId : String) (db : InviteDb) :
    Except String (Option ConsumedWorkspaceInvite × InviteDb) := do
  require (isDigest tokenHash) "WORKSPACE_INVITE_HASH_INVALID"
  match db.acceptable tokenHash now with
  | none => return (none, db)
  | some row =>
    let (userId, users) ← db.userFor row.email newUserId
    return (some (row.consumed userId), ⟨users, db.invites.put (row.accepted userId now)⟩)

/-! ### The service -/

/-- What the service awaits. -/
inductive InviteCall : Type → Type
  | now : InviteCall ℤ
  | randomBytes (size : ℕ) : InviteCall String
  | consumeWorkspaceInvite (tokenHash : String) (now : ℤ) :
      InviteCall (Except Thrown (Option ConsumedWorkspaceInvite))
  | revokeWorkspaceInvite (organizationId inviteId : String) (context : MutationContext) :
      InviteCall (Except Thrown Bool)
  | put (record : HumanSessionRow) : InviteCall (Except Thrown Unit)

abbrev Inviting (α : Type) : Type 1 := Program InviteCall Thrown α

structure AcceptedWorkspaceInvite where
  sessionToken : String
  sessionId : String
  workspaceId : String
  userId : String
  role : ServiceAccountRole
  expiresAt : ℤ
  deriving DecidableEq

def sessionRoleForInvite : ServiceAccountRole → HumanSessionRole
  | .admin => .owner
  | .operator => .member
  | .viewer => .viewer

/-- `/^fuse_wi_[A-Za-z0-9_-]{32,128}$/`. -/
def isInviteToken (text : String) : Bool :=
  startsWith text "fuse_wi_" && matchesClass isBase64Url 32 128 (drop 8 text)

/-- The session of an accepted invite lasts a day, but not longer than the invite. -/
def ConsumedWorkspaceInvite.session (invite : ConsumedWorkspaceInvite) (now : ℤ) :
    CreateHumanSessionInput where
  workspaceId := invite.workspaceId
  userId := invite.userId
  sourceCredentialId := invite.sourceCredentialId
  sourceCredentialType := invite.sourceCredentialType
  role := sessionRoleForInvite invite.role
  createdAt := some now
  expiresAt := some (min (now + maxHumanSessionMs) invite.expiresAt)

section Service

variable [NodeCrypto]

/-- Store the session of a consumed invite and return it. The random part is drawn first; it is not
used when the session is refused. -/
def startSession (invite : ConsumedWorkspaceInvite) (now : ℤ) : Inviting AcceptedWorkspaceInvite := do
  let secret ← perform (.randomBytes 32)
  let session ← fromExcept ((createHumanSession (invite.session now) secret).mapError .error)
  let stored ← perform (.put session.2)
  fromExcept stored
  return ⟨session.1, session.2.id, invite.workspaceId, invite.userId, invite.role, session.2.expiresAt⟩

def accept (inviteToken : String) : Inviting AcceptedWorkspaceInvite := do
  let now ← perform .now
  throwUnless (isInviteToken (trim inviteToken)) (.error "WORKSPACE_INVITE_INVALID")
  let reply ← perform (.consumeWorkspaceInvite (hashApiToken inviteToken) now)
  let found ← fromExcept reply
  let invite ← orThrow found (.error "WORKSPACE_INVITE_INVALID")
  startSession invite now

def revoke (principal : AuthenticatedPrincipal) (inviteId requestId : String) : Inviting Unit := do
  throwUnless (principal.principalType = .serviceAccount && principal.role = some .admin)
    (.error "SERVICE_ACCOUNT_ADMIN_REQUIRED")
  throwUnless (!isBlank requestId) (.error "REQUEST_ID_REQUIRED")
  let now ← perform .now
  let reply ← perform (.revokeWorkspaceInvite principal.organizationId inviteId
    ⟨"service_account:" ++ principal.principalId, requestId, some now⟩)
  let revoked ← fromExcept reply
  throwUnless revoked (.error "WORKSPACE_INVITE_NOT_ACTIVE")

end Service

end FuseControlPlane.Identity
