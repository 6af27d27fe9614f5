/-
What the steps of an onboarding can do to the operation of a key.

* `find?_putOperation`, `owned_eq_some`: lookups.
* `Claimed input clock db after`: the three ways in which a claim returns `new`.
* `claim_eq_new`, `claim_unchanged`: a claim returns `new` in one of these ways, and changes nothing
  otherwise.
* `heartbeat_eq_ok`, `complete_eq_ok`, `rollback_eq_ok`: these need the operation to be in progress for
  the caller's workspace.
-/

import FuseControlPlane.Product.WorkspaceOnboardingStore

set_option linter.unusedSectionVars false

namespace FuseControlPlane.Product

open Foundation Foundation.JavaScript Domain Identity

variable {db after : Db} {idempotencyKey workspaceId code : String} {clock now : ℤ}

/-! ### Lookups -/

@[simp] theorem find?_putOperation (db : Db) (row : OperationRow) (key : String) :
    (db.putOperation row).operations.find? key =
      if key = row.idempotencyKey then some row else db.operations.find? key :=
  Table.find?_put db.operations row key

theorem key_of_operation {row : OperationRow}
    (found : db.operations.find? idempotencyKey = some row) : row.idempotencyKey = idempotencyKey :=
  Table.key_of_find? found

theorem owned_eq_some {row : OperationRow} :
    db.owned idempotencyKey workspaceId = some row ↔
      db.operations.find? idempotencyKey = some row ∧ row.identifiers.workspaceId = workspaceId ∧
        row.status = .inProgress := by
  unfold Db.owned
  rw [Option.filter_eq_some_iff, Bool.and_eq_true, decide_eq_true_eq, decide_eq_true_eq]

/-! ### Claims -/

/-- How a claim takes the operation of its key. -/
inductive Claimed (input : ClaimInput) (clock : ℤ) (db : Db) : Db → Prop
  | first (fresh : db.operations.find? input.idempotencyKey = none) :
    Claimed input clock db (db.putOperation (input.row clock))
  | reopened (row : OperationRow) (found : db.operations.find? input.idempotencyKey = some row)
      (same : row.requestFingerprint = input.fingerprint) (status : row.status = .rolledBack) :
    Claimed input clock db (db.putOperation (input.takes row))
  | takenOver (row : OperationRow) (found : db.operations.find? input.idempotencyKey = some row)
      (same : row.requestFingerprint = input.fingerprint) (status : row.status = .inProgress)
      (stale : input.stale row = true) (named : row.identifiers.workspaceId ≠ "") :
    Claimed input clock db
      ((db.withoutWorkspace row.identifiers.workspaceId).putOperation
        { input.takes row with createdAt := input.now.getD clock, updatedAt := input.now.getD clock })

/-- A claim that returns `new` took the operation; any other leaves the tables alone. -/
theorem claim_cases {input : ClaimInput} {outcome : ClaimOutcome}
    (claimed : claim input clock db = .ok (outcome, after)) :
    (outcome = .new ∧ Claimed input clock db after) ∨
      (outcome ≠ .new ∧ after = db ∧ (db.operations.find? input.idempotencyKey).isSome = true) := by
  unfold claim at claimed
  cases found : db.operations.find? input.idempotencyKey with
  | none =>
    rw [found] at claimed
    cases claimed
    exact .inl ⟨rfl, .first found⟩
  | some row =>
    rw [found] at claimed
    by_cases same : row.requestFingerprint = input.fingerprint
    · simp only [same, ne_eq, not_true_eq_false, if_false] at claimed
      cases status : row.status with
      | rolledBack =>
        rw [status] at claimed
        cases claimed
        exact .inl ⟨rfl, .reopened row found same status⟩
      | inProgress =>
        simp only [status] at claimed
        split at claimed
        · next stale =>
          split at claimed
          · cases claimed
          · next named =>
            cases claimed
            exact .inl ⟨rfl, .takenOver row found same status stale named⟩
        · cases claimed
          exact .inr ⟨nofun, rfl, rfl⟩
      | completed =>
        simp only [status] at claimed
        cases replayed : row.replayed with
        | error _ => simp [replayed, bind, Except.bind] at claimed
        | ok result =>
          simp only [replayed, bind, Except.bind] at claimed
          cases claimed
          exact .inr ⟨nofun, rfl, rfl⟩
      | failed =>
        rw [status] at claimed
        cases claimed
        exact .inr ⟨nofun, rfl, rfl⟩
    · simp only [ne_eq, same, not_false_eq_true, if_true] at claimed
      cases claimed
      exact .inr ⟨nofun, rfl, rfl⟩

theorem claim_eq_new {input : ClaimInput} (claimed : claim input clock db = .ok (.new, after)) :
    Claimed input clock db after := by
  rcases claim_cases claimed with ⟨_, taken⟩ | ⟨other, _⟩
  · exact taken
  · exact absurd rfl other

/-- The operation of a key after a claim of it: the claimant's, and written at the time of the claim
unless it was reopened. -/
theorem Claimed.find?_self {input : ClaimInput} (claimed : Claimed input clock db after) :
    ∃ row, after.operations.find? input.idempotencyKey = some row ∧ row.status = .inProgress ∧
      row.identifiers = input.identifiers ∧
      (row.updatedAt = input.now.getD clock ∨
        ∃ old, db.operations.find? input.idempotencyKey = some old ∧ old.status = .rolledBack ∧
          old.requestFingerprint = input.fingerprint ∧ row.updatedAt = old.updatedAt) := by
  cases claimed with
  | first =>
    refine ⟨input.row clock, ?_, rfl, rfl, .inl rfl⟩
    rw [find?_putOperation]
    exact if_pos rfl
  | reopened old found same status =>
    have key : input.idempotencyKey = (input.takes old).idempotencyKey := (key_of_operation found).symm
    refine ⟨input.takes old, ?_, rfl, rfl, .inr ⟨old, found, status, same, rfl⟩⟩
    rw [find?_putOperation]
    exact if_pos key
  | takenOver old found =>
    have key : input.idempotencyKey = (input.takes old).idempotencyKey := (key_of_operation found).symm
    refine ⟨{ input.takes old with
      createdAt := input.now.getD clock, updatedAt := input.now.getD clock }, ?_, rfl, rfl, .inl rfl⟩
    rw [find?_putOperation]
    exact if_pos key

/-- A claim leaves the operations of other keys. -/
theorem Claimed.find?_other {input : ClaimInput} (claimed : Claimed input clock db after)
    {key : String} (other : key ≠ input.idempotencyKey) :
    after.operations.find? key = db.operations.find? key := by
  cases claimed with
  | first => rw [find?_putOperation]; exact if_neg other
  | reopened row found | takenOver row found =>
    have different : key ≠ row.idempotencyKey := fun same =>
      other (same.trans (key_of_operation found))
    rw [find?_putOperation]
    exact if_neg different

/-! ### The owner's steps -/

theorem heartbeat_eq_ok :
    heartbeat idempotencyKey workspaceId now db = .ok after ↔
      ∃ row, db.owned idempotencyKey workspaceId = some row ∧
        after = db.putOperation (row.renewed now) := by
  unfold heartbeat
  cases db.owned idempotencyKey workspaceId <;> simp [eq_comm]

theorem complete_eq_ok {result : CustomerWorkspaceResult} :
    complete idempotencyKey result clock db = .ok after ↔
      ∃ row, db.owned idempotencyKey result.workspaceId = some row ∧
        after = db.putOperation (row.finished result clock) := by
  unfold complete
  cases db.owned idempotencyKey result.workspaceId <;> simp [eq_comm]

theorem rollback_eq_ok :
    rollback idempotencyKey workspaceId code clock db = .ok after ↔
      ∃ row, db.owned idempotencyKey workspaceId = some row ∧
        after = (db.withoutWorkspace workspaceId).putOperation
          (row.abandoned .rolledBack code clock) := by
  unfold rollback
  cases db.owned idempotencyKey workspaceId <;> simp [eq_comm]

end FuseControlPlane.Product
