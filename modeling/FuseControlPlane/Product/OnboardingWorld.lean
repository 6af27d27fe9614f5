/-
Onboarding calls that share the stores (`Foundation.World`).

* `Onboardings`: the tables and the ids drawn so far. `Answers`: the replies a call may get, and what it
  leaves; any call of a store may be rejected, before or after its commit, and clocks are arbitrary.
* `completed_run`, `completed_of_run`: a completed operation stays completed for its workspace, and
  nothing but `complete` completes one.
* `redemptions_run`: nothing but `consumeInvite` redeems an invite.
* `environment`: a run in which no reply is lost.
-/

import FuseControlPlane.Foundation.Processes
import FuseControlPlane.Product.CustomerOnboarding
import FuseControlPlane.Product.Operations
import Mathlib.Data.List.MinMax

set_option linter.unusedSectionVars false

namespace FuseControlPlane.Product

open Foundation Foundation.JavaScript Domain Identity Providers Program

/-- What the calls share: the tables, and the ids drawn so far. -/
structure Onboardings where
  db : Db
  drawn : List String

namespace Onboardings

/-- A method of a store, on the tables. -/
def commit {α : Type} (shared : Onboardings) (result : Except String (α × Db)) :
    Except String (α × Onboardings) :=
  result.map fun answer => (answer.1, { shared with db := answer.2 })

theorem commit_eq_ok {α : Type} {shared after : Onboardings} {result : Except String (α × Db)}
    {value : α} : shared.commit result = .ok (value, after) ↔
      ∃ db, result = .ok (value, db) ∧ after = { shared with db } := by
  unfold commit
  cases result with
  | error error => simp [Except.map]
  | ok answer =>
    obtain ⟨given, db⟩ := answer
    simp only [Except.map, Except.ok.injEq, Prod.mk.injEq]
    constructor
    · rintro ⟨rfl, rfl⟩
      exact ⟨db, ⟨rfl, rfl⟩, rfl⟩
    · rintro ⟨db, ⟨rfl, rfl⟩, rfl⟩
      exact ⟨rfl, rfl⟩

end Onboardings

section Methods

variable [NodeCrypto]

/-- The replies a call may get, and what it leaves. An id is new; the other services, the audit and the
clocks answer as they like. -/
def Answers : {β : Type} → Onboardings → OnboardingCall β → β → Onboardings → Prop
  | _, shared, .now, _, after => after = shared
  | _, shared, .id, reply, after =>
    reply ∉ shared.drawn ∧ after = { shared with drawn := reply :: shared.drawn }
  | _, shared, .randomBytes _, _, after => after = shared
  | _, shared, .store method, reply, after =>
    ∃ clock, Ran shared (shared.commit (method.run clock shared.db)) reply after
  | _, shared, .service _ _, _, after => after = shared
  | _, shared, .audit _, _, after => after = shared

variable {shared after : Onboardings}

/-- A method of a store did nothing, or committed. -/
theorem answers_store {method : OnboardingMethod} {reply : Except Thrown method.Reply}
    (answered : Answers shared (.store method) reply after) :
    (after = shared ∧ ∃ error, reply = .error error) ∨
      ∃ clock value db, method.run clock shared.db = .ok (value, db) ∧
        after = { shared with db } ∧ ∀ other, reply = .ok other → other = value := by
  obtain ⟨clock, ran⟩ := answered
  rcases ran.cases with rejected | ⟨value, committed, only⟩
  · exact .inl rejected
  · obtain ⟨db, accepted, rfl⟩ := Onboardings.commit_eq_ok.mp committed
    exact .inr ⟨clock, value, db, accepted, rfl, only⟩

/-! ### What the methods leave -/

variable {db later : Db} {clock : ℤ} {method : OnboardingMethod} {reply : method.Reply}

theorem done_eq_ok {result : Except String Db} {value : Unit} :
    Db.done result = .ok (value, later) ↔ result = .ok later := by
  unfold Db.done
  cases result <;> simp [Except.map]

theorem mutated_eq_ok {result : Except String IdentityDb} {value : Unit} :
    db.mutated result = .ok (value, later) ↔
      ∃ identity, result = .ok identity ∧ later = { db with identity } := by
  unfold Db.mutated
  cases result <;> simp [Except.map, eq_comm]

theorem completedOperation_eq_some {workspaceId : String} {row : OperationRow}
    (found : db.completedOperation workspaceId = some row) :
    row ∈ db.operations ∧ row.identifiers.workspaceId = workspaceId ∧ row.status = .completed := by
  have meets := List.find?_some found
  rw [Bool.and_eq_true, decide_eq_true_eq, decide_eq_true_eq] at meets
  exact ⟨List.mem_of_find?_eq_some found, meets⟩

theorem recoverable_eq_some {workspaceId recoveryCodeHash : String} {row : OperationRow}
    (found : db.recoverable workspaceId recoveryCodeHash = some row) :
    row ∈ db.operations ∧ row.identifiers.workspaceId = workspaceId ∧
      row.recoveryCodeHash = some recoveryCodeHash ∧ row.status = .completed ∧
      row.recoveryConsumedAt = none := by
  have meets := List.find?_some found
  simp only [Bool.and_eq_true, decide_eq_true_eq, Option.isNone_iff_eq_none] at meets
  exact ⟨List.mem_of_find?_eq_some found, meets.1.1.1, meets.1.1.2, meets.1.2, meets.2⟩

theorem rotateAgentCredentialWithRecovery_eq_ok {input : RotateAgentCredentialWithRecoveryInput}
    (rotated : rotateAgentCredentialWithRecovery input db = .ok later) :
    ∃ row issued apiCredentials, validateRotation input = .ok () ∧
      db.recoverable input.workspaceId input.recoveryCodeHash = some row ∧
      input.replacement.principalId = row.identifiers.agentId ∧
      input.replacement.id ≠ row.identifiers.agentCredentialId ∧
      insertCredential db.identity.apiCredentials input.replacement.row "api_credentials" =
        .ok issued ∧
      revokePrevious issued input.workspaceId row.identifiers.agentCredentialId
        row.identifiers.agentId input.context.occurredAt = .ok apiCredentials ∧
      later = { db.putOperation (row.recovered input) with
        identity := { db.identity with apiCredentials } } := by
  unfold rotateAgentCredentialWithRecovery at rotated
  simp only [bind_unit_eq_ok] at rotated
  obtain ⟨valid, rotated⟩ := rotated
  split at rotated
  · cases rotated
  · next row found =>
    simp only [bind_unit_eq_ok, require_eq_ok, decide_eq_true_eq] at rotated
    obtain ⟨_, agent, other, rest⟩ := rotated
    obtain ⟨issued, inserted, rest⟩ := bind_eq_ok.mp rest
    simp only [bind_unit_eq_ok] at rest
    obtain ⟨_, rest⟩ := rest
    obtain ⟨apiCredentials, revoked, rest⟩ := bind_eq_ok.mp rest
    cases rest
    exact ⟨row, issued, apiCredentials, valid, found, agent, other, inserted, revoked, rfl⟩

/-- How a method may change the operation of a key. -/
inductive Kept (db later : Db) : Prop
  | same (operations : later.operations = db.operations)
  | put (row old : OperationRow) (found : db.operations.find? row.idempotencyKey = some old)
      (status : row.status = old.status) (identifiers : row.identifiers = old.identifiers)
      (operations : later.operations = db.operations.put row)

theorem Kept.find? (kept : Kept db later) {key : String} {old : OperationRow}
    (found : db.operations.find? key = some old) : ∃ row, later.operations.find? key = some row ∧
      row.status = old.status ∧ row.identifiers = old.identifiers := by
  cases kept with
  | same operations => exact ⟨old, by rw [operations]; exact found, rfl, rfl⟩
  | put row stored here status identifiers operations =>
    rw [operations, Table.find?_put]
    by_cases same : key = row.idempotencyKey
    · subst same
      rw [here] at found
      cases found
      exact ⟨row, if_pos rfl, status, identifiers⟩
    · exact ⟨old, (if_neg same).trans found, rfl, rfl⟩

theorem Kept.find?_inv (kept : Kept db later) {key : String} {row : OperationRow}
    (found : later.operations.find? key = some row) :
    ∃ old, db.operations.find? key = some old ∧ row.status = old.status ∧
      row.identifiers = old.identifiers := by
  cases kept with
  | same operations => exact ⟨row, by rw [← operations]; exact found, rfl, rfl⟩
  | put new stored here status identifiers operations =>
    rw [operations, Table.find?_put] at found
    split at found
    · next same =>
      cases found
      exact ⟨stored, by rw [same]; exact here, status, identifiers⟩
    · exact ⟨row, found, rfl, rfl⟩

/-- The methods of a lease: they take an operation, or end it. -/
def OnboardingMethod.isLease : OnboardingMethod → Bool
  | claim _ => true
  | complete _ _ => true
  | rollback _ _ _ => true
  | recordRollbackFailure _ _ _ => true
  | _ => false

/-- Every other method leaves the status of every operation, and its identifiers. -/
theorem kept_of_run (ran : method.run clock db = .ok (reply, later)) (other : method.isLease = false) :
    Kept db later := by
  cases method with
  | claim | complete | rollback | recordRollbackFailure => cases other
  | tryReserveCapacity idempotencyKey maxActiveWorkspaces baselineWorkspaceIds =>
    have same : later = (Product.tryReserveCapacity idempotencyKey maxActiveWorkspaces
      baselineWorkspaceIds none clock db).2 := by
      simp only [OnboardingMethod.run, Except.ok.injEq] at ran
      rw [ran]
    refine .same ?_
    rw [same]
    unfold Product.tryReserveCapacity Db.reserve
    split
    · rfl
    · split <;> rfl
  | consumeInvite inviteToken idempotencyKey allowedInviteHashes =>
    have same : later = (Product.consumeInvite inviteToken idempotencyKey allowedInviteHashes db).2 := by
      simp only [OnboardingMethod.run, Except.ok.injEq] at ran
      rw [ran]
    refine .same ?_
    rw [same]
    simp only [Product.consumeInvite]
    split <;> rfl
  | heartbeat idempotencyKey workspaceId now =>
    obtain ⟨row, owned, rfl⟩ := heartbeat_eq_ok.mp (done_eq_ok.mp ran)
    have found := (owned_eq_some.mp owned).1
    refine .put (row.renewed now) row ?_ rfl rfl rfl
    rw [← key_of_operation found] at found
    exact found
  | getRecovery workspaceId recoveryCodeHash deliveryId =>
    simp only [OnboardingMethod.run] at ran
    cases read : Product.getRecovery workspaceId recoveryCodeHash deliveryId db with
    | error error => simp [read, Except.map] at ran
    | ok found =>
      simp only [read, Except.map, Except.ok.injEq, Prod.mk.injEq] at ran
      exact .same (by rw [ran.2])
  | getWorkspaceCredentialMetadata | listCompletedWorkspaceIds =>
    cases ran
    exact .same rfl
  | rotateRecoveryCode workspaceId recoveryCodeHash now =>
    simp only [OnboardingMethod.run, Product.rotateRecoveryCode] at ran
    split at ran
    · next row found =>
      cases ran
      have stored := (completedOperation_eq_some found).1
      exact .put (row.rotated recoveryCodeHash now) row (Table.find?_of_mem stored) rfl rfl rfl
    · cases ran
      exact .same rfl
  | bootstrapServiceAccount | registerAgent | issueCredential | issueServiceAccountCredential
  | revokeCredential =>
    obtain ⟨identity, _, rfl⟩ := mutated_eq_ok.mp ran
    exact .same rfl
  | rotateAgentCredentialWithRecovery input =>
    obtain ⟨row, _, _, _, found, _, _, _, _, rfl⟩ :=
      rotateAgentCredentialWithRecovery_eq_ok (done_eq_ok.mp ran)
    exact .put (row.recovered input) row (Table.find?_of_mem (recoverable_eq_some found).1) rfl rfl rfl

/-- **Only `complete` completes an operation.** -/
theorem completed_of_run (ran : method.run clock db = .ok (reply, later)) {key : String}
    {row : OperationRow} (found : later.operations.find? key = some row)
    (completed : row.status = .completed) :
    (∃ old, db.operations.find? key = some old ∧ old.status = .completed ∧
      row.identifiers = old.identifiers) ∨ ∃ result, method = .complete key result := by
  have kept {old : OperationRow} (there : db.operations.find? key = some old)
      (status : row.status = old.status) (identifiers : row.identifiers = old.identifiers) :
      (∃ old, db.operations.find? key = some old ∧ old.status = .completed ∧
        row.identifiers = old.identifiers) ∨ ∃ result, method = .complete key result :=
    .inl ⟨old, there, status ▸ completed, identifiers⟩
  by_cases other : method.isLease = false
  · obtain ⟨old, there, status, identifiers⟩ := (kept_of_run ran other).find?_inv found
    exact kept there status identifiers
  cases method with
  | claim input =>
    rcases claim_cases ran with ⟨_, taken⟩ | ⟨_, rfl, _⟩
    · by_cases own : key = input.idempotencyKey
      · obtain ⟨new, there, running, _⟩ := taken.find?_self
        rw [own, there] at found
        cases found
        rw [running] at completed
        cases completed
      · rw [taken.find?_other own] at found
        exact kept found rfl rfl
    · exact kept found rfl rfl
  | complete idempotencyKey result =>
    obtain ⟨old, owned, rfl⟩ := complete_eq_ok.mp (done_eq_ok.mp ran)
    rw [find?_putOperation] at found
    split at found
    · next same =>
      have keyed := key_of_operation (owned_eq_some.mp owned).1
      refine .inr ⟨result, ?_⟩
      rw [same]
      exact congrArg (OnboardingMethod.complete · result) keyed.symm
    · exact kept found rfl rfl
  | rollback idempotencyKey workspaceId code =>
    obtain ⟨old, owned, rfl⟩ := rollback_eq_ok.mp (done_eq_ok.mp ran)
    rw [find?_putOperation] at found
    split at found
    · cases found
      cases completed
    · exact kept found rfl rfl
  | recordRollbackFailure idempotencyKey workspaceId code =>
    simp only [OnboardingMethod.run, Except.ok.injEq, Prod.mk.injEq, true_and,
      Product.recordRollbackFailure] at ran
    split at ran
    · next old owned =>
      subst ran
      rw [find?_putOperation] at found
      split at found
      · cases found
        cases completed
      · exact kept found rfl rfl
    · subst ran
      exact kept found rfl rfl
  | _ => exact absurd rfl other

/-- **A completed operation stays completed, for the same workspace.** -/
theorem completed_run (ran : method.run clock db = .ok (reply, later)) {key : String}
    {old : OperationRow} (found : db.operations.find? key = some old)
    (completed : old.status = .completed) :
    ∃ row, later.operations.find? key = some row ∧ row.status = .completed ∧
      row.identifiers = old.identifiers := by
  have unfinished {row : OperationRow} {idempotencyKey workspaceId : String}
      (owned : db.owned idempotencyKey workspaceId = some row) : key ≠ row.idempotencyKey := by
    intro same
    obtain ⟨there, _, running⟩ := owned_eq_some.mp owned
    rw [same, key_of_operation there, there] at found
    cases found
    rw [running] at completed
    cases completed
  by_cases other : method.isLease = false
  · obtain ⟨row, there, status, identifiers⟩ := (kept_of_run ran other).find? found
    exact ⟨row, there, status.trans completed, identifiers⟩
  cases method with
  | claim input =>
    rcases claim_cases ran with ⟨_, taken⟩ | ⟨_, rfl, _⟩
    · have own : key ≠ input.idempotencyKey := by
        rintro rfl
        cases taken with
        | first fresh => exact absurd (fresh.symm.trans found) (by simp)
        | reopened row there _ status | takenOver row there _ status =>
          rw [there] at found
          cases found
          rw [status] at completed
          cases completed
      exact ⟨old, by rw [taken.find?_other own]; exact found, completed, rfl⟩
    · exact ⟨old, found, completed, rfl⟩
  | complete idempotencyKey result =>
    obtain ⟨row, owned, rfl⟩ := complete_eq_ok.mp (done_eq_ok.mp ran)
    refine ⟨old, ?_, completed, rfl⟩
    rw [find?_putOperation]
    exact (if_neg (unfinished owned)).trans found
  | rollback idempotencyKey workspaceId code =>
    obtain ⟨row, owned, rfl⟩ := rollback_eq_ok.mp (done_eq_ok.mp ran)
    refine ⟨old, ?_, completed, rfl⟩
    rw [find?_putOperation]
    exact (if_neg (unfinished owned)).trans found
  | recordRollbackFailure idempotencyKey workspaceId code =>
    simp only [OnboardingMethod.run, Except.ok.injEq, Prod.mk.injEq, true_and,
      Product.recordRollbackFailure] at ran
    split at ran
    · next row owned =>
      subst ran
      refine ⟨old, ?_, completed, rfl⟩
      rw [find?_putOperation]
      exact (if_neg (unfinished owned)).trans found
    · subst ran
      exact ⟨old, found, completed, rfl⟩
  | _ => exact absurd rfl other

/-! ### Redemptions -/

theorem redemptions_reserve (idempotencyKey : String) (maxActiveWorkspaces : ℕ)
    (baselineWorkspaceIds : List String) (now : Option ℤ) (clock : ℤ) (db : Db) :
    (Product.tryReserveCapacity idempotencyKey maxActiveWorkspaces baselineWorkspaceIds now clock
      db).2.redemptions = db.redemptions := by
  unfold Product.tryReserveCapacity Db.reserve
  split
  · rfl
  · split <;> rfl

/-- Nothing but `consumeInvite` redeems an invite. -/
theorem redemptions_run (ran : method.run clock db = .ok (reply, later))
    (other : ∀ inviteToken idempotencyKey allowedInviteHashes,
      method ≠ .consumeInvite inviteToken idempotencyKey allowedInviteHashes) :
    later.redemptions = db.redemptions := by
  cases method with
  | consumeInvite => exact absurd rfl (other _ _ _)
  | tryReserveCapacity idempotencyKey maxActiveWorkspaces baselineWorkspaceIds =>
    simp only [OnboardingMethod.run, Except.ok.injEq] at ran
    have reserved := redemptions_reserve idempotencyKey maxActiveWorkspaces baselineWorkspaceIds
      none clock db
    rw [ran] at reserved
    exact reserved
  | claim input =>
    rcases claim_cases ran with ⟨_, taken⟩ | ⟨_, rfl, _⟩
    · cases taken <;> rfl
    · rfl
  | heartbeat =>
    obtain ⟨row, _, rfl⟩ := heartbeat_eq_ok.mp (done_eq_ok.mp ran)
    rfl
  | complete =>
    obtain ⟨row, _, rfl⟩ := complete_eq_ok.mp (done_eq_ok.mp ran)
    rfl
  | rollback =>
    obtain ⟨row, _, rfl⟩ := rollback_eq_ok.mp (done_eq_ok.mp ran)
    rfl
  | recordRollbackFailure idempotencyKey workspaceId code =>
    simp only [OnboardingMethod.run, Except.ok.injEq, Prod.mk.injEq, true_and,
      Product.recordRollbackFailure] at ran
    split at ran <;> (subst ran; rfl)
  | getRecovery workspaceId recoveryCodeHash deliveryId =>
    simp only [OnboardingMethod.run] at ran
    cases read : Product.getRecovery workspaceId recoveryCodeHash deliveryId db with
    | error error => simp [read, Except.map] at ran
    | ok found =>
      simp only [read, Except.map, Except.ok.injEq, Prod.mk.injEq] at ran
      rw [ran.2]
  | getWorkspaceCredentialMetadata | listCompletedWorkspaceIds =>
    cases ran
    rfl
  | rotateRecoveryCode workspaceId recoveryCodeHash now =>
    simp only [OnboardingMethod.run, Product.rotateRecoveryCode] at ran
    split at ran <;> (cases ran; rfl)
  | bootstrapServiceAccount | registerAgent | issueCredential | issueServiceAccountCredential
  | revokeCredential =>
    obtain ⟨identity, _, rfl⟩ := mutated_eq_ok.mp ran
    rfl
  | rotateAgentCredentialWithRecovery input =>
    obtain ⟨row, _, _, _, _, _, _, _, _, rfl⟩ :=
      rotateAgentCredentialWithRecovery_eq_ok (done_eq_ok.mp ran)
    rfl

/-! ### A run in which no reply is lost -/

/-- An id longer than all that were drawn. -/
def freshId (drawn : List String) : String :=
  String.ofList (List.replicate ((drawn.map String.length).foldr max 0 + 1) 'x')

theorem freshId_not_mem (drawn : List String) : freshId drawn ∉ drawn := by
  intro member
  have bounded : (freshId drawn).length ≤ (drawn.map String.length).foldr max 0 :=
    List.le_max_of_le' 0 (List.mem_map_of_mem member) le_rfl
  have long : (freshId drawn).length = (drawn.map String.length).foldr max 0 + 1 := by
    simp [freshId]
  omega

/-- `randomBytes(size).toString("base64url")`: another text after every draw of an id and every
administrator's credential. -/
def freshSecret (shared : Onboardings) (size : ℕ) : String :=
  let count := shared.drawn.length + shared.db.identity.serviceAccountCredentials.rows.length
  String.ofList (List.replicate count 'B' ++ List.replicate ((4 * size + 2) / 3 - count) 'A')

/-- An environment in which it is `now`, and services and the audit are available. -/
def environment (now : ℤ) : {β : Type} → Onboardings → OnboardingCall β → β × Onboardings
  | _, shared, .now => (now, shared)
  | _, shared, .id =>
    (freshId shared.drawn, { shared with drawn := freshId shared.drawn :: shared.drawn })
  | _, shared, .randomBytes size => (freshSecret shared size, shared)
  | _, shared, .store method => replied .error shared (shared.commit (method.run now shared.db))
  | _, shared, .service _ _ => (.ok (), shared)
  | _, shared, .audit _ => (true, shared)

theorem environment_truthful (now : ℤ) {β : Type} (shared : Onboardings) (effect : OnboardingCall β) :
    Answers shared effect (environment now shared effect).1 (environment now shared effect).2 := by
  cases effect with
  | id => exact ⟨freshId_not_mem shared.drawn, rfl⟩
  | store method => exact ⟨now, ran_replied _ _ _⟩
  | now | randomBytes | service | audit => exact rfl

end Methods

namespace Sample

/-- The digests of two invites and of what `environment` draws. -/
def digests : List (String × String) :=
  [("fuse_beta_invite",
      "a480a02a54a32dca427cbc8414e6ba7a1f4c456570d69fb27b216db50df71d1c"),
    ("fuse_recovery_invite",
      "61a1a2d8e4351d15938241d90031826654754a624464b6806e9d872f48623687"),
    ("fuse_sk_BBBAAAAAAAAAAAAAAAAAAAAAAAAAAAAAAAAAAAAAAAA",
      "973551636d6b436b8d2d2691b4662060638a410eb935ad494e46467ca0922ce3"),
    ("fuse_sk_BBBBBBAAAAAAAAAAAAAAAAAAAAAAAAAAAAAAAAAAAAA",
      "806396943ae27caac614d4ed05b4091ea40d18833c987f0afa32db35b80b014f"),
    ("fuse_rc_BBBBBBAAAAAAAAAAAAAAAAAA",
      "5524adfe823e28b1a20d0e750ff72a010d4c3438c7ce0187fbac472da22a8fa9"),
    ("fuse_sk_BBBBBBBBAAAAAAAAAAAAAAAAAAAAAAAAAAAAAAAAAAA",
      "30921571d95a5795b94f4c9c6eb51b1388fdd528c9107160274a67a97237f0e0"),
    ("fuse_sk_BBBBBBBBBBBAAAAAAAAAAAAAAAAAAAAAAAAAAAAAAAA",
      "003afc395f3f148579d314e001af9c2797861378707a3fe04c8c416919fa762c"),
    ("fuse_rc_BBBBBBBBBBBAAAAAAAAAAAAA",
      "f57ff6bd24f1a9b28677a1c28e034209abe3ba7c9372330313a5d477f0986751")]

@[reducible] def crypto : NodeCrypto where
  sha256 text := ((digests.find? fun entry => entry.1 = text).map Prod.snd).getD ""

/-- The operation of a workspace that was completed. -/
def completedRow : OperationRow where
  idempotencyKey := "onboarding-key"
  requestFingerprint := "44863b03e9909b7100e05b02526909a346fd7455183f6619e0fe6198c89981e0"
  recoveryCodeHash := some "7d790db6e3d104a72e08b1672a73a292aef8ae8be659af920814e65218348fa9"
  recoveryConsumedAt := none
  recoveryConsumedHash := none
  recoveryDeliveryEnvelope := none
  recoveryDeliveryId := none
  identifiers := ⟨"workspace-1", "account-1", "service-1", "agent-1", "inference-1", "policy-1",
    "mandate-1", "provider-1"⟩
  status := .completed
  result := none
  deliveryEnvelope := none
  failureCode := none
  createdAt := 0
  updatedAt := 0
  completedAt := some 0

/-- The tables with this workspace. -/
def completedDb : Db where
  identity :=
    { organizations := Table.empty.put ⟨"workspace-1"⟩
      serviceAccounts := Table.empty.put ⟨"workspace-1", "account-1", .admin, none⟩
      agentIdentities := Table.empty.put ⟨"workspace-1", "agent-1", .active, none⟩
      serviceAccountCredentials := Table.empty.put ⟨"workspace-1", "service-1", "account-1",
        "1e3c93ac712c1636e5904c37358667d0dccb824d80b2dd12af47050d9d081c83", administratorCapabilities, none, none⟩
      apiCredentials := Table.empty.put ⟨"workspace-1", "inference-1", "agent-1",
        "7058572717e80b675da8ffedeade8ef91dcf8e31a4c06e6858a25e1d19f11a99", inferenceCapabilities, none, none⟩ }
  operations := Table.empty.put completedRow
  redemptions := .empty
  reservations := .empty

end Sample

end FuseControlPlane.Product
