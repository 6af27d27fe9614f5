/-
The onboarding store (`product/workspaceOnboardingStore.ts`, `PostgresWorkspaceOnboardingStore`).

* `OperationRow`: one attempt to create a workspace, by idempotency key; `Db` adds the redemptions of
  beta invites, the reservations of capacity and the identity tables.
* `tryReserveCapacity`, `consumeInvite`, `claim`, `heartbeat`, `complete`, `rollback`,
  `recordRollbackFailure`: the steps of an onboarding.
* `getRecovery`, `getWorkspaceCredentialMetadata`, `rotateRecoveryCode`, `listCompletedWorkspaceIds`:
  what is read and written after it.

Each method is one transaction (or one statement) and either commits or leaves the tables alone.
`clock` is `CURRENT_TIMESTAMP`. An envelope is modelled by the value it seals and the context it is
bound to: it opens in that context only. A key ring is configured.
-/

import FuseControlPlane.Identity.IdentityStore

set_option linter.unusedSectionVars false

namespace FuseControlPlane.Product

open Foundation Foundation.JavaScript Domain Identity

/-! ### Sealed deliveries -/

/-- A sealed text: what it holds and the context it is bound to. -/
structure SecretEnvelope (α : Type) where
  context : String
  value : α
  deriving DecidableEq

def sealSecretDelivery {α : Type} (value : α) (context : String) : SecretEnvelope α := ⟨context, value⟩

def openSecretDelivery {α : Type} (envelope : SecretEnvelope α) (context : String) :
    Except String α :=
  if envelope.context = context then .ok envelope.value else .error "SECRET_DELIVERY_DECRYPT_FAILED"

/-! ### The rows -/

/-- A credential as its holder gets it. -/
structure IssuedCredential where
  credentialId : String
  token : Option String
  tokenPrefix : String
  capabilities : List ApiCapability
  expiresAt : Option (Option ℤ)
  deriving DecidableEq

/-- What the creator of a workspace gets. -/
structure CustomerWorkspaceResult where
  workspaceId : String
  agentId : String
  mandateId : String
  policyId : String
  providerConfigId : String
  adminCredential : IssuedCredential
  credential : IssuedCredential
  recoveryCode : Option String
  deriving DecidableEq

/-- The result as stored in the open: without its secrets. -/
def CustomerWorkspaceResult.redacted (result : CustomerWorkspaceResult) : CustomerWorkspaceResult :=
  { result with
    recoveryCode := none
    adminCredential := { result.adminCredential with token := none }
    credential := { result.credential with token := none } }

structure WorkspaceCredentialRecoveryResult where
  workspaceId : String
  agentId : String
  credential : IssuedCredential
  deriving DecidableEq

/-- The ids an attempt has drawn. -/
structure Identifiers where
  workspaceId : String
  serviceAccountId : String
  serviceCredentialId : String
  agentId : String
  agentCredentialId : String
  policyId : String
  mandateId : String
  providerConfigId : String
  deriving DecidableEq

inductive OperationStatus
  | inProgress | completed | failed | rolledBack
  deriving DecidableEq

/-- A row of `fuse_workspace_onboarding_operations`. -/
structure OperationRow where
  idempotencyKey : String
  requestFingerprint : String
  recoveryCodeHash : Option String
  recoveryConsumedAt : Option ℤ
  recoveryConsumedHash : Option String
  recoveryDeliveryEnvelope : Option (SecretEnvelope WorkspaceCredentialRecoveryResult)
  recoveryDeliveryId : Option String
  identifiers : Identifiers
  status : OperationStatus
  result : Option CustomerWorkspaceResult
  deliveryEnvelope : Option (SecretEnvelope CustomerWorkspaceResult)
  failureCode : Option String
  createdAt : ℤ
  updatedAt : ℤ
  completedAt : Option ℤ
  deriving DecidableEq

instance : Keyed OperationRow String := ⟨OperationRow.idempotencyKey⟩

/-- A row of `fuse_beta_invite_redemptions`. -/
structure RedemptionRow where
  inviteHash : String
  idempotencyKey : String
  deriving DecidableEq

instance : Keyed RedemptionRow String := ⟨RedemptionRow.inviteHash⟩

/-- A row of `fuse_beta_capacity_reservations`. -/
structure ReservationRow where
  idempotencyKey : String
  reservedAt : ℤ
  deriving DecidableEq

instance : Keyed ReservationRow String := ⟨ReservationRow.idempotencyKey⟩

/-- The tables an onboarding reads and writes. -/
structure Db where
  identity : IdentityDb
  operations : Table OperationRow
  redemptions : Table RedemptionRow
  reservations : Table ReservationRow

namespace Db

def empty : Db := ⟨.empty, .empty, .empty, .empty⟩

/-- The operation of a key that is in progress for this workspace. -/
def owned (db : Db) (idempotencyKey workspaceId : String) : Option OperationRow :=
  (db.operations.find? idempotencyKey).filter fun row =>
    row.identifiers.workspaceId = workspaceId && row.status = .inProgress

/-- The tables after a method: what it committed, or unchanged if it threw. -/
def committed (db : Db) (result : Except String Db) : Db :=
  match result with
  | .ok after => after
  | .error _ => db

@[simp] theorem committed_ok (db after : Db) : db.committed (.ok after) = after := rfl

@[simp] theorem committed_error (db : Db) (error : String) : db.committed (.error error) = db := rfl

/-- The tables without a workspace: everything of its organisation is deleted. -/
def withoutWorkspace (db : Db) (workspaceId : String) : Db :=
  { db with identity := db.identity.deleteOrganization workspaceId }

/-- Replace an operation. -/
def putOperation (db : Db) (row : OperationRow) : Db :=
  { db with operations := db.operations.put row }

end Db

/-! ### Capacity -/

/-- A quarter of an hour, in milliseconds. -/
def quarterHour : ℤ := 15 * 60 * 1000

/-- The reservation is counted: its operation is missing or in progress. -/
def Db.counts (db : Db) (reservation : ReservationRow) : Bool :=
  (db.operations.find? reservation.idempotencyKey).all fun row => row.status = .inProgress

/-- The workspaces of the completed operations. -/
def Db.completedWorkspaceIds (db : Db) : List String :=
  (db.operations.rows.filter fun row => row.status = .completed).map (·.identifiers.workspaceId)

/-- The `UNION` whose rows are counted: completed workspaces, the baseline, and what is reserved. -/
def Db.activeWorkspaces (db : Db) (baselineWorkspaceIds : List String) : List String :=
  (db.completedWorkspaceIds ++ baselineWorkspaceIds ++
    (db.reservations.rows.filter db.counts).map fun row => "reservation:" ++ row.idempotencyKey).dedup

/-- Reservations without an operation lapse after a quarter of an hour. -/
def Db.expireReservations (db : Db) (now : ℤ) : Db :=
  { db with reservations := db.reservations.filter fun row =>
      !(row.reservedAt ≤ now - quarterHour && (db.operations.find? row.idempotencyKey).isNone) }

/-- Reserve for a key, unless it has a reservation or the beta is full. -/
def Db.reserve (db : Db) (idempotencyKey : String) (maxActiveWorkspaces : ℕ)
    (baselineWorkspaceIds : List String) (clock : ℤ) : Bool × Db :=
  if (db.reservations.find? idempotencyKey).isSome then (true, db)
  else if maxActiveWorkspaces ≤ (db.activeWorkspaces baselineWorkspaceIds).length then (false, db)
  else (true, { db with reservations := db.reservations.put ⟨idempotencyKey, clock⟩ })

def tryReserveCapacity (idempotencyKey : String) (maxActiveWorkspaces : ℕ)
    (baselineWorkspaceIds : List String) (now : Option ℤ) (clock : ℤ) (db : Db) : Bool × Db :=
  (db.expireReservations (now.getD clock)).reserve idempotencyKey maxActiveWorkspaces
    baselineWorkspaceIds clock

/-! ### Invites -/

section Tokens

variable [NodeCrypto]

/-- `INSERT … ON CONFLICT DO NOTHING`: the hash and the idempotency key are both unique. -/
def insertRedemption (redemptions : Table RedemptionRow) (row : RedemptionRow) : Table RedemptionRow :=
  if (redemptions.find? row.inviteHash).isSome ||
      redemptions.rows.any fun other => other.idempotencyKey = row.idempotencyKey then redemptions
  else redemptions.put row

/-- Redeem an invite for an idempotency key, or find it redeemed for that key before. -/
def consumeInvite (inviteToken idempotencyKey : String) (allowedInviteHashes : List String) (db : Db) :
    Bool × Db :=
  let inviteHash := NodeCrypto.sha256 inviteToken
  if allowedInviteHashes.contains inviteHash then
    let redemptions := insertRedemption db.redemptions ⟨inviteHash, idempotencyKey⟩
    ((redemptions.find? inviteHash).any fun row => row.idempotencyKey = idempotencyKey,
      { db with redemptions })
  else (false, db)

end Tokens

/-! ### The operation -/

/-- An attempt to take the operation of a key. -/
structure ClaimInput where
  idempotencyKey : String
  fingerprint : String
  recoveryCodeHash : String
  identifiers : Identifiers
  now : Option ℤ
  staleAfterMs : Option ℤ
  deriving DecidableEq

inductive ClaimOutcome
  | new | conflict | inProgress
  | replay (result : Option CustomerWorkspaceResult)
  deriving DecidableEq

namespace OperationRow

/-- The owner has been heard of. -/
def renewed (row : OperationRow) (now : ℤ) : OperationRow := { row with updatedAt := now }

/-- The owner has finished. -/
def finished (row : OperationRow) (result : CustomerWorkspaceResult) (clock : ℤ) : OperationRow :=
  { row with
    status := .completed
    result := some result.redacted
    deliveryEnvelope := some (sealSecretDelivery result ("workspace:" ++ row.idempotencyKey))
    completedAt := some clock }

/-- The owner has given up, with this status and error. -/
def abandoned (row : OperationRow) (status : OperationStatus) (code : String) (clock : ℤ) :
    OperationRow :=
  { row with status, failureCode := some (take 96 code), completedAt := some clock }

end OperationRow

/-- A first operation of a key. -/
def ClaimInput.row (input : ClaimInput) (clock : ℤ) : OperationRow where
  idempotencyKey := input.idempotencyKey
  requestFingerprint := input.fingerprint
  recoveryCodeHash := some input.recoveryCodeHash
  recoveryConsumedAt := none
  recoveryConsumedHash := none
  recoveryDeliveryEnvelope := none
  recoveryDeliveryId := none
  identifiers := input.identifiers
  status := .inProgress
  result := none
  deliveryEnvelope := none
  failureCode := none
  createdAt := input.now.getD clock
  updatedAt := input.now.getD clock
  completedAt := none

/-- The operation taken over by a claim. -/
def ClaimInput.takes (input : ClaimInput) (row : OperationRow) : OperationRow :=
  { row with
    recoveryCodeHash := some input.recoveryCodeHash
    identifiers := input.identifiers
    status := .inProgress
    failureCode := none
    completedAt := none }

/-- The owner has not been heard of for `staleAfterMs`. -/
def ClaimInput.stale (input : ClaimInput) (row : OperationRow) : Bool :=
  match input.now, input.staleAfterMs with
  | some now, some staleAfterMs => row.updatedAt ≤ now - staleAfterMs
  | _, _ => false

/-- The result of a completed operation, from its envelope if there is one. -/
def OperationRow.replayed (row : OperationRow) : Except String (Option CustomerWorkspaceResult) :=
  match row.deliveryEnvelope with
  | some envelope => do
    return some (← openSecretDelivery envelope ("workspace:" ++ row.idempotencyKey))
  | none => .ok row.result

def claim (input : ClaimInput) (clock : ℤ) (db : Db) : Except String (ClaimOutcome × Db) :=
  match db.operations.find? input.idempotencyKey with
  | none => .ok (.new, db.putOperation (input.row clock))
  | some row =>
    if row.requestFingerprint ≠ input.fingerprint then .ok (.conflict, db)
    else match row.status with
    | .rolledBack => .ok (.new, db.putOperation (input.takes row))
    | .inProgress =>
      if input.stale row then
        if row.identifiers.workspaceId = "" then .error "WORKSPACE_ROLLBACK_SCOPE_MISMATCH"
        else
          let now := input.now.getD clock
          .ok (.new, (db.withoutWorkspace row.identifiers.workspaceId).putOperation
            { input.takes row with createdAt := now, updatedAt := now })
      else .ok (.inProgress, db)
    | .completed => do return (.replay (← row.replayed), db)
    | .failed => .ok (.inProgress, db)

def heartbeat (idempotencyKey workspaceId : String) (now : ℤ) (db : Db) : Except String Db :=
  match db.owned idempotencyKey workspaceId with
  | some row => .ok (db.putOperation (row.renewed now))
  | none => .error "WORKSPACE_ONBOARDING_LEASE_LOST"

def complete (idempotencyKey : String) (result : CustomerWorkspaceResult) (clock : ℤ) (db : Db) :
    Except String Db :=
  match db.owned idempotencyKey result.workspaceId with
  | some row => .ok (db.putOperation (row.finished result clock))
  | none => .error "WORKSPACE_ONBOARDING_LEASE_LOST"

def rollback (idempotencyKey workspaceId code : String) (clock : ℤ) (db : Db) : Except String Db :=
  match db.owned idempotencyKey workspaceId with
  | some row =>
    .ok ((db.withoutWorkspace workspaceId).putOperation (row.abandoned .rolledBack code clock))
  | none => .error "WORKSPACE_ROLLBACK_SCOPE_MISMATCH"

/-- An operation that is no longer the caller's is left alone. -/
def recordRollbackFailure (idempotencyKey workspaceId code : String) (clock : ℤ) (db : Db) : Db :=
  match db.owned idempotencyKey workspaceId with
  | some row => db.putOperation (row.abandoned .failed code clock)
  | none => db

/-! ### Completed workspaces -/

/-- What is known of a workspace's credentials. -/
structure WorkspaceCredentialMetadata where
  workspaceId : String
  serviceAccountId : String
  serviceCredentialId : String
  agentId : String
  agentCredentialId : String
  expiresAt : Option (Option ℤ)
  deriving DecidableEq

/-- The answer to a recovery code: the ids to issue a credential for, or what was issued before. -/
inductive WorkspaceRecoveryRecord
  | workspace (metadata : WorkspaceCredentialMetadata)
  | deliveryResult (result : WorkspaceCredentialRecoveryResult)
  deriving DecidableEq

/-- The expiry of the first inference credential. -/
def OperationRow.expiresAt (row : OperationRow) : Option (Option ℤ) :=
  row.result.bind (·.credential.expiresAt)

def OperationRow.metadata (row : OperationRow) : WorkspaceCredentialMetadata where
  workspaceId := row.identifiers.workspaceId
  serviceAccountId := row.identifiers.serviceAccountId
  serviceCredentialId := row.identifiers.serviceCredentialId
  agentId := row.identifiers.agentId
  agentCredentialId := row.identifiers.agentCredentialId
  expiresAt := row.expiresAt

/-- The context of a recovery's envelope. -/
def recoveryContext (workspaceId recoveryCodeHash deliveryId : String) : String :=
  "recovery:" ++ workspaceId ++ ":" ++ recoveryCodeHash ++ ":" ++ deliveryId

/-- The completed operation of a workspace. -/
def Db.completedOperation (db : Db) (workspaceId : String) : Option OperationRow :=
  db.operations.rows.find? fun row =>
    row.identifiers.workspaceId = workspaceId && row.status = .completed

def getRecovery (workspaceId recoveryCodeHash deliveryId : String) (db : Db) :
    Except String (Option WorkspaceRecoveryRecord) :=
  match db.operations.rows.find? fun row =>
      row.identifiers.workspaceId = workspaceId && row.status = .completed &&
        (row.recoveryCodeHash = some recoveryCodeHash ||
          (row.recoveryConsumedHash = some recoveryCodeHash &&
            row.recoveryDeliveryId = some deliveryId)) with
  | none => .ok none
  | some row =>
    match row.recoveryDeliveryEnvelope with
    | some envelope => do
      return some (.deliveryResult (← openSecretDelivery envelope
        (recoveryContext workspaceId recoveryCodeHash deliveryId)))
    | none => .ok (row.recoveryCodeHash.map fun _ => .workspace row.metadata)

def getWorkspaceCredentialMetadata (workspaceId : String) (db : Db) :
    Option WorkspaceCredentialMetadata :=
  (db.completedOperation workspaceId).map OperationRow.metadata

/-- The operation with a new recovery code, nothing of the old one left. -/
def OperationRow.rotated (row : OperationRow) (recoveryCodeHash : String) (now : ℤ) : OperationRow :=
  { row with
    recoveryCodeHash := some recoveryCodeHash
    recoveryConsumedAt := none
    recoveryConsumedHash := none
    recoveryDeliveryEnvelope := none
    recoveryDeliveryId := none
    updatedAt := now }

/-- A new recovery code for a completed workspace. -/
def rotateRecoveryCode (workspaceId recoveryCodeHash : String) (now : Option ℤ) (clock : ℤ) (db : Db) :
    Bool × Db :=
  match db.completedOperation workspaceId with
  | some row => (true, db.putOperation (row.rotated recoveryCodeHash (now.getD clock)))
  | none => (false, db)

def listCompletedWorkspaceIds (db : Db) : List String := db.completedWorkspaceIds

end FuseControlPlane.Product
