/-
The two beta routes (`http/app.ts`): `POST /api/v1/product/workspaces` and
`POST /api/v1/product/workspace-recovery`, with the guard that `runtime.ts` gives them.

Both redeem an invite with `consumeInvite`, each against its own set of hashes. A body that the schema
rejects is `none`; rate limits are left out.
-/

import FuseControlPlane.Product.CustomerOnboarding

set_option linter.unusedSectionVars false

namespace FuseControlPlane.Http

open Foundation Foundation.JavaScript Domain Identity Product Program

/-- What the guard of `runtime.ts` is configured with. -/
structure BetaOnboardingGuard where
  betaInviteTokenHashes : List String
  betaRecoveryTokenHashes : List String
  betaMaxActiveWorkspaces : ℕ
  betaActiveWorkspaceIds : List String

/-- A response: its status and an error code, a new workspace, or replacement credentials. -/
inductive BetaResponse
  | error (status : ℕ) (code : String)
  | created (result : CustomerWorkspaceResult)
  | issued (result : WorkspaceCredentialPackage)
  deriving DecidableEq

/-- Respond unless the audit is unavailable. -/
def auditOrUnavailable (event : OperationalAuditEvent) (response : BetaResponse) :
    Onboarding BetaResponse := do
  let recorded ← perform (.audit event)
  return if recorded then response else .error 503 "AUDIT_UNAVAILABLE"

/-- A header without the white space around it, if something is left. -/
def headerText (header : Option String) : Option String := (header.map trim).filter (· ≠ "")

section Routes

variable [NodeCrypto] (guard : BetaOnboardingGuard)

/-! ### Creating a workspace -/

structure WorkspacesRequest where
  idempotencyKey : Option String
  inviteToken : Option String
  body : Option CreateWorkspaceInput
  deriving DecidableEq

/-- The body that the schema accepts with this key. -/
def WorkspacesRequest.input (request : WorkspacesRequest) (idempotencyKey : String) :
    Option CreateWorkspaceInput :=
  if isIdempotencyKey idempotencyKey then
    request.body.map fun body => { body with idempotencyKey }
  else none

/-- A character that stays in an error code. -/
def isCodeCharacter (character : Char) : Bool :=
  character.isUpper || character.isDigit || character = '_' || character = ':' || character = '-'

/-- `code.replace(/[^A-Z0-9_:-]/g, "_").slice(0, 96)`. -/
def errorCode (code : String) : String :=
  take 96 (String.ofList (code.toList.map fun character =>
    if isCodeCharacter character then character else '_'))

/-- The status of a failed creation. -/
def creationStatus (code : String) : ℕ :=
  if includes code "REQUIRED" || includes code "INVALID" then 400
  else if includes code "CONFLICT" || includes code "IN_PROGRESS" ||
    includes code "CREDENTIAL_UNAVAILABLE" then 409
  else 503

/-- The audit event of a failed creation. -/
def creationFailed (idempotencyKey code : String) : OperationalAuditEvent :=
  if code = "WORKSPACE_ONBOARDING_ROLLBACK_FAILED" then
    ⟨"onboarding.rollback_failed", idempotencyKey, "failed", [("failureCode", take 96 code)]⟩
  else ⟨"onboarding.rolled_back", idempotencyKey, "rolled_back", [("failureCode", take 96 code)]⟩

/-- Create the workspace and respond. -/
def respondCreated (input : CreateWorkspaceInput) : Onboarding BetaResponse :=
  tryCatch
    (do
      let result ← createWorkspace input
      auditOrUnavailable ⟨"onboarding.completed", result.workspaceId, "completed",
        [("idempotencyKey", input.idempotencyKey)]⟩ (.created result))
    fun error =>
      let code := error.messageOr "WORKSPACE_CREATION_FAILED"
      auditOrUnavailable (creationFailed input.idempotencyKey code)
        (.error (creationStatus code) (errorCode code))

/-- Create a workspace once its invite has been redeemed, if there is room. -/
def createAuthorized (input : CreateWorkspaceInput) : Onboarding BetaResponse := do
  let reserved ← awaitStore (.tryReserveCapacity input.idempotencyKey guard.betaMaxActiveWorkspaces
    guard.betaActiveWorkspaceIds)
  if reserved then do
    let recorded ← perform (.audit ⟨"invite.consumed", input.idempotencyKey, "allowed", []⟩)
    if recorded then respondCreated input else return .error 503 "AUDIT_UNAVAILABLE"
  else return .error 503 "BETA_ONBOARDING_CAPACITY_EXHAUSTED"

/-- An invite that is missing or rejected. -/
def inviteRejected (idempotencyKey reason : String) : OperationalAuditEvent :=
  ⟨"invite.rejected", idempotencyKey, "denied", [("reason", reason)]⟩

def postWorkspaces (request : WorkspacesRequest) : Onboarding BetaResponse :=
  match headerText request.idempotencyKey with
  | none => return .error 400 "IDEMPOTENCY_KEY_REQUIRED"
  | some idempotencyKey =>
    match request.input idempotencyKey, headerText request.inviteToken with
    | none, _ => return .error 400 "INVALID_WORKSPACE_REQUEST"
    | some _, none =>
      auditOrUnavailable (inviteRejected idempotencyKey "missing") (.error 403 "BETA_INVITE_REQUIRED")
    | some input, some inviteToken => do
      let authorized ← awaitStore
        (.consumeInvite inviteToken idempotencyKey guard.betaInviteTokenHashes)
      if authorized then
        createAuthorized guard input
      else
        auditOrUnavailable (inviteRejected idempotencyKey "invalid_or_consumed")
          (.error 403 "BETA_INVITE_INVALID")

/-! ### Recovery -/

structure WorkspaceRecoveryRequest where
  idempotencyKey : Option String
  inviteToken : Option String
  deriving DecidableEq

/-- The status of a failed recovery. -/
def recoveryStatus (code : String) : ℕ :=
  if code = "WORKSPACE_NOT_FOUND" then 404
  else if code = "WORKSPACE_RECOVERY_AMBIGUOUS" then 409
  else 503

/-- Issue the replacement credentials and respond. -/
def respondIssued : Onboarding BetaResponse :=
  tryCatch
    (do
      let result ← issueReplacementCredentialsFromBetaRecovery
      auditOrUnavailable ⟨"credentials.beta_recovery_issued", result.workspaceId, "completed", []⟩
        (.issued result))
    fun error =>
      let code := error.messageOr "CREDENTIAL_RECOVERY_FAILED"
      return .error (recoveryStatus code) code

def postWorkspaceRecovery (request : WorkspaceRecoveryRequest) : Onboarding BetaResponse :=
  match (headerText request.idempotencyKey).filter isIdempotencyKey, headerText request.inviteToken with
  | none, _ => return .error 400 "IDEMPOTENCY_KEY_INVALID"
  | some _, none => return .error 403 "BETA_INVITE_REQUIRED"
  | some idempotencyKey, some inviteToken => do
    let authorized ← awaitStore
      (.consumeInvite inviteToken idempotencyKey guard.betaRecoveryTokenHashes)
    if authorized then respondIssued else return .error 403 "BETA_INVITE_INVALID"

end Routes

end FuseControlPlane.Http
