/-
What a mutation of the identity tables can do.

* `Mutation db after`: the ways in which a method of the store takes the tables from `db` to `after`,
  with what it checked.
* `createOrganization_mutation` and its siblings: a method that succeeds is one of them.
* `Mutation.account_kept`, `Mutation.credential_kept`: accounts stay as they are, and of a service
  account's credential only the revocation changes.
* `UniqueHashes`: no two credentials of a table have the same hash.
-/

import FuseControlPlane.Identity.IdentityStore

set_option linter.unusedSectionVars false

namespace FuseControlPlane.Identity

open Foundation Foundation.JavaScript Domain

/-! ### Inserts and updates -/

/-- The unique indexes of a table of credentials accept the row. -/
structure Fresh (credentials : Table CredentialRow) (row : CredentialRow) : Prop where
  key : credentials.find? (row.organizationId, row.id) = none
  hash : ∀ other ∈ credentials, other.tokenHash ≠ row.tokenHash

theorem insertCredential_eq_ok {credentials after : Table CredentialRow} {row : CredentialRow}
    {table : String} :
    insertCredential credentials row table = .ok after ↔
      Fresh credentials row ∧ credentials.put row = after := by
  simp only [insertCredential, bind_unit_eq_ok, require_eq_ok, Option.isNone_iff_eq_none]
  constructor
  · rintro ⟨key, hash, same⟩
    refine ⟨⟨key, fun other member equal => ?_⟩, Except.ok.inj same⟩
    have present : (credentials.rows.any fun other => decide (other.tokenHash = row.tokenHash)) = true :=
      List.any_eq_true.mpr ⟨other, member, decide_eq_true equal⟩
    rw [present] at hash
    cases hash
  · rintro ⟨fresh, rfl⟩
    refine ⟨fresh.key, ?_, rfl⟩
    rw [Bool.not_eq_true', List.any_eq_false]
    exact fun other member => by simpa using fresh.hash other member

theorem revokeRow_eq_ok {credentials after : Table CredentialRow} {organizationId credentialId : String}
    {occurredAt : Option ℤ} {error : String} :
    revokeRow credentials organizationId credentialId occurredAt error = .ok after ↔
      ∃ row, credentials.find? (organizationId, credentialId) = some row ∧ row.revokedAt = none ∧
        credentials.put { row with revokedAt := occurredAt } = after := by
  unfold revokeRow
  cases found : credentials.find? (organizationId, credentialId) with
  | none => simp
  | some row => cases revoked : row.revokedAt <;> simp [Option.filter, revoked]

/-! ### Mutations -/

/-- What a method of the store did to the tables, and what it had checked. -/
inductive Mutation (db : IdentityDb) : IdentityDb → Prop
  | organization (id : String) (fresh : db.organizations.find? id = none) :
    Mutation db { db with organizations := db.organizations.put ⟨id⟩ }
  | bootstrapped (organizationId accountId : String) (credential : CredentialRow)
      (owned : credential.organizationId = organizationId ∧ credential.principalId = accountId)
      (newOrganization : db.organizations.find? organizationId = none)
      (newAccount : db.serviceAccounts.find? (organizationId, accountId) = none)
      (fresh : Fresh db.serviceAccountCredentials credential) :
    Mutation db { db with
      organizations := db.organizations.put ⟨organizationId⟩
      serviceAccounts := db.serviceAccounts.put ⟨organizationId, accountId, .admin, none⟩
      serviceAccountCredentials := db.serviceAccountCredentials.put credential }
  | account (row : ServiceAccountRow)
      (fresh : db.serviceAccounts.find? (row.organizationId, row.id) = none)
      (known : (db.organizations.find? row.organizationId).isSome = true) :
    Mutation db { db with serviceAccounts := db.serviceAccounts.put row }
  | agent (row : AgentIdentityRow)
      (fresh : db.agentIdentities.find? (row.organizationId, row.id) = none)
      (known : (db.organizations.find? row.organizationId).isSome = true) :
    Mutation db { db with agentIdentities := db.agentIdentities.put row }
  | serviceIssued (credential : CredentialRow) (account : ServiceAccountRow)
      (found : db.serviceAccounts.find? (credential.organizationId, credential.principalId) =
        some account)
      (fresh : Fresh db.serviceAccountCredentials credential) :
    Mutation db { db with
      serviceAccountCredentials := db.serviceAccountCredentials.put credential }
  | issued (credential : CredentialRow)
      (known : (db.agentIdentities.find? (credential.organizationId, credential.principalId)).isSome =
        true)
      (fresh : Fresh db.apiCredentials credential) :
    Mutation db { db with apiCredentials := db.apiCredentials.put credential }
  | serviceRevoked (row : CredentialRow) (revokedAt : Option ℤ)
      (found : row ∈ db.serviceAccountCredentials) :
    Mutation db { db with
      serviceAccountCredentials := db.serviceAccountCredentials.put { row with revokedAt } }
  | revoked (row : CredentialRow) (revokedAt : Option ℤ) (found : row ∈ db.apiCredentials) :
    Mutation db { db with apiCredentials := db.apiCredentials.put { row with revokedAt } }

section Methods

variable {db after : IdentityDb} {context : MutationContext} {record : CredentialRecord}
  {input : PrincipalInput}

theorem createOrganization_mutation {id name : String}
    (done : createOrganization id name context db = .ok after) : Mutation db after := by
  simp only [createOrganization, bind_unit_eq_ok, require_eq_ok, Option.isNone_iff_eq_none] at done
  obtain ⟨_, _, _, fresh, same⟩ := done
  cases same
  exact .organization id fresh

theorem bootstrapServiceAccount_mutation {input : BootstrapServiceAccountInput}
    (done : bootstrapServiceAccount input db = .ok after) : Mutation db after := by
  simp only [bootstrapServiceAccount, bind_unit_eq_ok, require_eq_ok, Option.isNone_iff_eq_none,
    Bool.and_eq_true, decide_eq_true_eq] at done
  obtain ⟨_, _, _, _, _, owned, _, newOrganization, newAccount, stored⟩ := done
  obtain ⟨_, inserted, same⟩ := bind_eq_ok.mp stored
  obtain ⟨fresh, rfl⟩ := insertCredential_eq_ok.mp inserted
  cases same
  exact .bootstrapped _ _ _ owned newOrganization newAccount fresh

theorem createServiceAccount_mutation {role : ServiceAccountRole}
    (done : createServiceAccount input role db = .ok after) : Mutation db after := by
  simp only [createServiceAccount, bind_unit_eq_ok, require_eq_ok, Option.isNone_iff_eq_none] at done
  obtain ⟨_, _, _, _, fresh, known, same⟩ := done
  cases same
  exact .account _ fresh known

theorem registerAgent_mutation (done : registerAgent input db = .ok after) : Mutation db after := by
  simp only [registerAgent, bind_unit_eq_ok, require_eq_ok, Option.isNone_iff_eq_none] at done
  obtain ⟨_, _, _, _, fresh, known, same⟩ := done
  cases same
  exact .agent _ fresh known

theorem issueCredential_mutation (done : issueCredential record context db = .ok after) :
    Mutation db after := by
  simp only [issueCredential, bind_unit_eq_ok] at done
  obtain ⟨_, _, _, _, _, _, stored⟩ := done
  obtain ⟨_, inserted, rest⟩ := bind_eq_ok.mp stored
  obtain ⟨fresh, rfl⟩ := insertCredential_eq_ok.mp inserted
  simp only [bind_unit_eq_ok, require_eq_ok] at rest
  obtain ⟨known, same⟩ := rest
  cases same
  exact .issued _ known fresh

theorem issueServiceAccountCredential_mutation
    (done : issueServiceAccountCredential record context db = .ok after) : Mutation db after := by
  simp only [issueServiceAccountCredential, bind_unit_eq_ok] at done
  obtain ⟨_, _, _, _, _, _, stored⟩ := done
  cases found : db.serviceAccounts.find? (record.organizationId, record.principalId) with
  | none => simp [found] at stored
  | some account =>
    cases revoked : account.revokedAt with
    | some _ => simp [found, Option.filter, revoked] at stored
    | none =>
      simp only [found, Option.filter, revoked, Option.isNone_none, if_true, bind_unit_eq_ok] at stored
      obtain ⟨_, inserted, same⟩ := bind_eq_ok.mp stored.2
      obtain ⟨fresh, rfl⟩ := insertCredential_eq_ok.mp inserted
      cases same
      exact .serviceIssued _ account found fresh

theorem revokeCredential_mutation {organizationId credentialId : String}
    (done : revokeCredential organizationId credentialId context db = .ok after) :
    Mutation db after := by
  simp only [revokeCredential, bind_unit_eq_ok] at done
  obtain ⟨_, revoked, same⟩ := bind_eq_ok.mp done.2.2.2
  obtain ⟨row, found, _, rfl⟩ := revokeRow_eq_ok.mp revoked
  cases same
  exact .revoked row _ (Table.mem_of_find? found)

theorem revokeServiceAccountCredential_mutation {organizationId credentialId : String}
    (done : revokeServiceAccountCredential organizationId credentialId context db = .ok after) :
    Mutation db after := by
  simp only [revokeServiceAccountCredential, bind_unit_eq_ok] at done
  obtain ⟨_, revoked, same⟩ := bind_eq_ok.mp done.2.2.2
  obtain ⟨row, found, _, rfl⟩ := revokeRow_eq_ok.mp revoked
  cases same
  exact .serviceRevoked row _ (Table.mem_of_find? found)

end Methods

/-! ### What stays -/

/-- No two credentials have the same hash. -/
def UniqueHashes (credentials : Table CredentialRow) : Prop :=
  ∀ first ∈ credentials, ∀ second ∈ credentials, first.tokenHash = second.tokenHash → first = second

namespace UniqueHashes

variable {credentials : Table CredentialRow}

theorem put (unique : UniqueHashes credentials) {row : CredentialRow} (fresh : Fresh credentials row) :
    UniqueHashes (credentials.put row) := by
  intro first here second there same
  rcases Table.mem_put.mp here with new | ⟨here, _⟩
  · rcases Table.mem_put.mp there with new' | ⟨there, _⟩
    · rw [new, new']
    · exact absurd (new ▸ same).symm (fresh.hash second there)
  · rcases Table.mem_put.mp there with new | ⟨there, _⟩
    · exact absurd (new ▸ same) (fresh.hash first here)
    · exact unique first here second there same

theorem revoke (unique : UniqueHashes credentials) {row : CredentialRow} (found : row ∈ credentials)
    (revokedAt : Option ℤ) : UniqueHashes (credentials.put { row with revokedAt }) := by
  intro first here second there same
  rcases Table.mem_put.mp here with revoked | ⟨here, other⟩
  · rcases Table.mem_put.mp there with revoked' | ⟨there, other⟩
    · rw [revoked, revoked']
    · subst revoked
      exact absurd (congrArg Keyed.key (unique second there row found same.symm)) other
  · rcases Table.mem_put.mp there with revoked | ⟨there, _⟩
    · subst revoked
      exact absurd (congrArg Keyed.key (unique first here row found same)) other
    · exact unique first here second there same

/-- A hash finds exactly the credential that has it. -/
theorem findByHash_eq_some (unique : UniqueHashes credentials) {row : CredentialRow} {hash : String} :
    findByHash credentials hash = some row ↔ row ∈ credentials ∧ row.tokenHash = hash := by
  constructor
  · intro found
    exact ⟨List.mem_of_find?_eq_some found, of_decide_eq_true (List.find?_some
      (p := fun row : CredentialRow => decide (row.tokenHash = hash)) found)⟩
  · rintro ⟨member, rfl⟩
    cases found : findByHash credentials row.tokenHash with
    | none =>
      have absent := List.find?_eq_none.mp found row member
      simp at absent
    | some other =>
      have keyed : other.tokenHash = row.tokenHash := of_decide_eq_true (List.find?_some
        (p := fun r : CredentialRow => decide (r.tokenHash = row.tokenHash)) found)
      rw [unique other (List.mem_of_find?_eq_some found) row member keyed]

end UniqueHashes

namespace Mutation

variable {db after : IdentityDb}

/-- A row put under a new key leaves the other rows. -/
theorem mem_put_of_fresh {ρ κ : Type} [Keyed ρ κ] [DecidableEq κ] {table : Table ρ} {new row : ρ}
    (fresh : table.find? (Keyed.key new) = none) (member : row ∈ table) : row ∈ table.put new :=
  Table.mem_put.mpr (.inr ⟨member, fun same =>
    Table.find?_eq_none.mp fresh row member same⟩)

/-- Accounts are never changed. -/
theorem account_kept (mutation : Mutation db after) {account : ServiceAccountRow}
    (member : account ∈ db.serviceAccounts) : account ∈ after.serviceAccounts := by
  cases mutation with
  | bootstrapped _ _ _ _ _ newAccount _ => exact mem_put_of_fresh newAccount member
  | account _ fresh _ => exact mem_put_of_fresh fresh member
  | organization | agent | serviceIssued | issued | serviceRevoked | revoked => exact member

/-- Of a service account's credential only the revocation changes. -/
theorem credential_kept (mutation : Mutation db after) {credential : CredentialRow}
    (member : credential ∈ db.serviceAccountCredentials) :
    ∃ revokedAt, { credential with revokedAt } ∈ after.serviceAccountCredentials := by
  cases mutation with
  | bootstrapped _ _ _ _ _ _ fresh | serviceIssued _ _ _ fresh =>
    exact ⟨credential.revokedAt, mem_put_of_fresh fresh.key member⟩
  | serviceRevoked row revokedAt found =>
    by_cases same : Keyed.key credential = Keyed.key row
    · rw [Table.eq_of_key member found same]
      exact ⟨revokedAt, Table.mem_put.mpr (.inl rfl)⟩
    · exact ⟨credential.revokedAt, Table.mem_put.mpr (.inr ⟨member, same⟩)⟩
  | organization | account | agent | issued | revoked => exact ⟨credential.revokedAt, member⟩

theorem uniqueHashes (mutation : Mutation db after)
    (unique : UniqueHashes db.serviceAccountCredentials) :
    UniqueHashes after.serviceAccountCredentials := by
  cases mutation with
  | bootstrapped _ _ _ _ _ _ fresh | serviceIssued _ _ _ fresh => exact unique.put fresh
  | serviceRevoked row revokedAt found => exact unique.revoke found revokedAt
  | organization | account | agent | issued | revoked => exact unique

end Mutation

end FuseControlPlane.Identity
