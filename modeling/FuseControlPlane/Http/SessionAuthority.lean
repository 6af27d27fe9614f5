/-
What a human session may do, against what its source credential may do.

* `SourceOf`: a session's source credential, kept by every step.
* `CoveredBySource ops`: whenever a `fuse_hs_` token is accepted, the credential that the session was
  created with would be accepted at the same time and has every capability of the session.
* `sessions_covered`: this holds after every run in which sessions are only asked for with a
  credential that has every capability of the session's role (`WithinSource`).
* `sessions_not_covered`: it does not hold of every run. The session's capabilities are read off the
  account's role, and an administrator's credential with one capability opens a session with all.
-/

import FuseControlPlane.Foundation.Program
import FuseControlPlane.Foundation.Runs
import FuseControlPlane.Http.HumanSessions
import FuseControlPlane.Identity.Mutations

set_option linter.unusedSectionVars false

namespace FuseControlPlane.Http

open Foundation Foundation.JavaScript Domain Identity

section Sessions

variable [NodeCrypto]

/-! ### The statement -/

/-- The run created the session of this hash, on this request. -/
def CreatedBy (ops : List SessionOp) (request : SessionRequest) (hash : String) : Prop :=
  ∃ first second token after, ops = first ++ .postSession request :: second ∧
    postSession (run SessionDb.step .empty first) request = .ok (token, after) ∧
    hashApiToken token = hash

/-- A session is only asked for with a credential that has every capability of the session's role, and
whose ids have no white space around them. -/
def WithinSource (db : SessionDb) : SessionOp → Prop
  | .postSession request =>
    ∀ source ∈ sessionAwareAuthenticateToken db request.bearer request.now,
      source.principalType = .serviceAccount → startsWith source.credentialId "hs_" = false →
        (trim source.organizationId = source.organizationId ∧
          trim source.credentialId = source.credentialId) ∧
        ∀ role ∈ source.role, humanSessionRoleCapabilities role ⊆ source.capabilities
  | _ => True

instance (db : SessionDb) (op : SessionOp) : Decidable (WithinSource db op) := by
  cases op with
  | postSession request =>
    exact inferInstanceAs (Decidable (∀ source ∈ sessionAwareAuthenticateToken db request.bearer
      request.now, _ → _ → (_ ∧ _) ∧ ∀ role ∈ source.role, ∀ capability ∈ _, capability ∈ _))
  | _ => exact isTrue trivial

/-! ### The source of a session -/

/-- The credential and the account that a session was created with. -/
structure SourceOf (db : IdentityDb) (session : HumanSessionRow) (bearer : String)
    (source : CredentialRow) (account : ServiceAccountRow) : Prop where
  stored : source ∈ db.serviceAccountCredentials
  presented : source.tokenHash = hashApiToken bearer
  workspace : session.workspaceId = source.organizationId
  credential : session.sourceCredentialId = source.id
  type : session.sourceCredentialType = .serviceAccount
  owner : account ∈ db.serviceAccounts
  owned : Keyed.key account = (source.organizationId, source.principalId)
  allowed : serviceAccountRoleAllowsCapabilities account.role source.capabilities = true
  covered : humanSessionRoleCapabilities session.role.accountRole ⊆ source.capabilities

/-- A mutation of the identity tables keeps the source, but for its revocation. -/
theorem SourceOf.mutate {db after : IdentityDb} {session : HumanSessionRow} {bearer : String}
    {source : CredentialRow} {account : ServiceAccountRow}
    (known : SourceOf db session bearer source account) (mutation : Mutation db after) :
    ∃ source, SourceOf after session bearer source account := by
  obtain ⟨revokedAt, stored⟩ := mutation.credential_kept known.stored
  exact ⟨_, { known with stored, owner := mutation.account_kept known.owner }⟩

/-- A session that is revoked keeps its source. -/
theorem SourceOf.revoke {db : IdentityDb} {session : HumanSessionRow} {bearer : String}
    {source : CredentialRow} {account : ServiceAccountRow}
    (known : SourceOf db session bearer source account) (revokedAt : Option ℤ) :
    SourceOf db { session with revokedAt } bearer source account := { known with }

/-- The run created this session, and its source is still there. -/
def HasSource (ops : List SessionOp) (db : IdentityDb) (session : HumanSessionRow) : Prop :=
  ∃ request, CreatedBy ops request session.tokenHash ∧
    ∃ source account, SourceOf db session request.bearer source account

theorem CreatedBy.append {ops : List SessionOp} {request : SessionRequest} {hash : String}
    (created : CreatedBy ops request hash) (later : List SessionOp) :
    CreatedBy (ops ++ later) request hash := by
  obtain ⟨first, second, token, after, rfl, posted, same⟩ := created
  exact ⟨first, second ++ later, token, after, by simp, posted, same⟩

/-! ### One request for a session -/

theorem accountRole_sessionRole (role : ServiceAccountRole) :
    (sessionRole (some role)).accountRole = role := by
  cases role <;> rfl

/-- What an accepted service account's token says of the tables. -/
theorem authenticateServiceAccount_eq_some {db : IdentityDb} {hash : String} {now : ℤ}
    {principal : AuthenticatedPrincipal} :
    authenticateServiceAccount db hash now = some principal ↔
      ∃ row account, findByHash db.serviceAccountCredentials hash = some row ∧
        db.activeAccount row = some account ∧ row.live now = true ∧
        serviceAccountRoleAllowsCapabilities account.role row.capabilities = true ∧
        ⟨.serviceAccount, row.principalId, row.organizationId, row.id, row.capabilities,
          some account.role, none, none⟩ = principal := by
  unfold authenticateServiceAccount
  cases findByHash db.serviceAccountCredentials hash with
  | none => simp
  | some row =>
    cases active : db.activeAccount row with
    | none => simp [active]
    | some account =>
      cases live : row.live now <;>
        cases allowed : serviceAccountRoleAllowsCapabilities account.role row.capabilities <;>
        simp [active, live, allowed, guard]

/-- An agent's token authenticates an agent. -/
theorem type_of_authenticateAgent {db : IdentityDb} {hash : String} {now : ℤ}
    {principal : AuthenticatedPrincipal} (accepted : authenticateAgent db hash now = some principal) :
    principal.principalType = .agent := by
  unfold authenticateAgent at accepted
  simp only [Option.bind_eq_bind, Option.bind_eq_some_iff] at accepted
  obtain ⟨_, _, _, _, _, _, same⟩ := accepted
  cases same
  rfl

/-- A service account that is no session was authenticated by its own credential. -/
theorem serviceAccount_of_sessionAware {db : SessionDb} {token : String} {now : ℤ}
    {principal : AuthenticatedPrincipal}
    (named : ∀ session ∈ db.humanSessions, startsWith session.id "hs_" = true)
    (accepted : sessionAwareAuthenticateToken db token now = some principal)
    (service : principal.principalType = .serviceAccount)
    (own : startsWith principal.credentialId "hs_" = false) :
    authenticateServiceAccount db.identity (hashApiToken token) now = some principal := by
  unfold sessionAwareAuthenticateToken at accepted
  split at accepted
  · simp only [Option.bind_eq_bind, Option.bind_eq_some_iff] at accepted
    obtain ⟨session, resolved, _, _, same⟩ := accepted
    cases same
    have stored : session ∈ db.humanSessions :=
      List.mem_of_find?_eq_some (Option.filter_eq_some_iff.mp resolved).1
    have prefixed : startsWith session.id "hs_" = true := named session stored
    exact absurd (prefixed.symm.trans own) nofun
  · unfold authenticateToken at accepted
    cases agent : authenticateAgent db.identity (hashApiToken token) now with
    | some found =>
      rw [agent] at accepted
      cases accepted
      exact absurd ((type_of_authenticateAgent agent).symm.trans service) nofun
    | none =>
      rw [agent] at accepted
      exact accepted

/-- A new session's row. -/
theorem createHumanSession_eq_ok {input : CreateHumanSessionInput} {secret token : String}
    {row : HumanSessionRow} (created : createHumanSession input secret = .ok (token, row)) :
    row.id = sessionId token ∧ row.tokenHash = hashApiToken token ∧
      row.workspaceId = trim input.workspaceId ∧
      row.sourceCredentialId = trim input.sourceCredentialId ∧
      row.sourceCredentialType = input.sourceCredentialType ∧ row.role = input.role := by
  simp only [createHumanSession, bind_unit_eq_ok] at created
  obtain ⟨_, _, _, dated⟩ := created
  cases start : input.createdAt with
  | none => simp [start] at dated
  | some createdAt =>
    cases expiry : input.expiresAt with
    | none => simp [start, expiry] at dated
    | some expiresAt =>
      simp only [start, expiry, bind_unit_eq_ok] at dated
      cases dated.2
      exact ⟨rfl, rfl, rfl, rfl, rfl, rfl⟩

theorem create_eq_ok {db after : SessionDb} {input : CreateHumanSessionInput} {secret token : String}
    (created : db.create input secret = .ok (token, after)) :
    ∃ row, createHumanSession input secret = .ok (token, row) ∧
      after = { db with humanSessions := db.humanSessions.put row } := by
  obtain ⟨⟨token', row⟩, opened, stored⟩ := bind_eq_ok.mp created
  obtain ⟨_, put, same⟩ := bind_eq_ok.mp stored
  simp only [SessionDb.put, bind_unit_eq_ok] at put
  obtain ⟨_, stored⟩ := put
  cases stored
  cases same
  exact ⟨row, opened, rfl⟩

/-- An accepted request for a session: who asked, and the row that was stored. -/
theorem postSession_eq_ok {db after : SessionDb} {request : SessionRequest} {token : String}
    (posted : postSession db request = .ok (token, after)) :
    ∃ principal row, sessionAwareAuthenticateToken db request.bearer request.now = some principal ∧
      principal.principalType = .serviceAccount ∧ startsWith principal.credentialId "hs_" = false ∧
      after = { db with humanSessions := db.humanSessions.put row } ∧
      row.id = sessionId token ∧ row.tokenHash = hashApiToken token ∧
      row.workspaceId = trim principal.organizationId ∧
      row.sourceCredentialId = trim principal.credentialId ∧
      row.sourceCredentialType = principal.principalType ∧ row.role = sessionRole principal.role := by
  unfold postSession at posted
  cases accepted : sessionAwareAuthenticateToken db request.bearer request.now with
  | none => simp [accepted] at posted
  | some principal =>
    simp only [accepted] at posted
    split at posted
    · cases posted
    · next issuer =>
      rw [Bool.or_eq_true, not_or, decide_eq_true_eq, not_not, Bool.not_eq_true] at issuer
      split at posted
      · cases posted
      · rw [Program.mapError_eq_ok] at posted
        obtain ⟨row, created, same⟩ := create_eq_ok posted
        have fields := createHumanSession_eq_ok created
        exact ⟨principal, row, rfl, issuer.1, issuer.2, same, fields⟩

/-! ### Runs -/

/-- What holds of the tables after a run. -/
structure SessionInvariant (ops : List SessionOp) (db : SessionDb) : Prop where
  hashes : UniqueHashes db.identity.serviceAccountCredentials
  named : ∀ session ∈ db.humanSessions, startsWith session.id "hs_" = true
  sources : ∀ session ∈ db.humanSessions, HasSource ops db.identity session

variable {ops : List SessionOp} {db : SessionDb}

/-- A change of the identity tables keeps every session's source. -/
theorem SessionInvariant.identityStep (holds : SessionInvariant ops db) (op : SessionOp)
    {mutate : IdentityDb → Except String IdentityDb}
    (mutation : ∀ {after}, mutate db.identity = .ok after → Mutation db.identity after) :
    SessionInvariant (ops ++ [op]) (db.identityStep mutate) := by
  unfold SessionDb.identityStep
  cases done : mutate db.identity with
  | error _ =>
    refine ⟨holds.hashes, holds.named, fun session stored => ?_⟩
    obtain ⟨request, created, known⟩ := holds.sources session stored
    exact ⟨request, created.append _, known⟩
  | ok after =>
    refine ⟨(mutation done).uniqueHashes holds.hashes, holds.named, fun session stored => ?_⟩
    obtain ⟨request, created, source, account, known⟩ := holds.sources session stored
    obtain ⟨source, known⟩ := known.mutate (mutation done)
    exact ⟨request, created.append _, source, account, known⟩

/-- Revoking a session keeps every session's source. -/
theorem SessionInvariant.revokeSession (holds : SessionInvariant ops db) (op : SessionOp)
    {row : Option HumanSessionRow} (stored : ∀ session ∈ row, session ∈ db.humanSessions)
    (revokedAt : ℤ) : SessionInvariant (ops ++ [op]) (db.revokeSession row revokedAt) := by
  have later : ∀ session ∈ db.humanSessions, HasSource (ops ++ [op]) db.identity session := by
    intro session known
    obtain ⟨request, created, source⟩ := holds.sources session known
    exact ⟨request, created.append _, source⟩
  unfold SessionDb.revokeSession
  cases found : row.filter fun row => row.revokedAt.isNone with
  | none => exact ⟨holds.hashes, holds.named, later⟩
  | some session =>
    have known : session ∈ db.humanSessions := stored session (Option.filter_eq_some_iff.mp found).1
    refine ⟨holds.hashes, fun other member => ?_, fun other member => ?_⟩
    · rcases Table.mem_put.mp member with rfl | ⟨member, _⟩
      · exact holds.named session known
      · exact holds.named other member
    · rcases Table.mem_put.mp member with rfl | ⟨member, _⟩
      · obtain ⟨request, created, source, account, kept⟩ := later session known
        exact ⟨request, created, source, account, kept.revoke _⟩
      · exact later other member

/-- A session that is asked for with enough capabilities has its source. -/
theorem SessionInvariant.postSession {request : SessionRequest}
    (holds : SessionInvariant ops (run SessionDb.step .empty ops))
    (within : WithinSource (run SessionDb.step .empty ops) (.postSession request)) :
    SessionInvariant (ops ++ [.postSession request])
      ((run SessionDb.step .empty ops).step (.postSession request)) := by
  have later : ∀ session ∈ (run SessionDb.step .empty ops).humanSessions,
      HasSource (ops ++ [.postSession request]) (run SessionDb.step .empty ops).identity session := by
    intro session known
    obtain ⟨request, created, source⟩ := holds.sources session known
    exact ⟨request, created.append _, source⟩
  change SessionInvariant _ (SessionDb.posted _ request)
  unfold SessionDb.posted
  cases posted : Http.postSession (run SessionDb.step .empty ops) request with
  | error _ => exact ⟨holds.hashes, holds.named, later⟩
  | ok answer =>
    obtain ⟨token, after⟩ := answer
    obtain ⟨principal, row, accepted, service, own, rfl, id, hash, workspace, credential, type, role⟩ :=
      postSession_eq_ok posted
    obtain ⟨untrimmed, covered⟩ := within principal accepted service own
    obtain ⟨source, account, found, active, _, allowed, same⟩ :=
      authenticateServiceAccount_eq_some.mp
        (serviceAccount_of_sessionAware holds.named accepted service own)
    obtain ⟨member, presented⟩ := holds.hashes.findByHash_eq_some.mp found
    obtain ⟨owner, owned⟩ := Table.find?_eq_some.mp (Option.filter_eq_some_iff.mp active).1
    cases same
    refine ⟨holds.hashes, fun session stored => ?_, fun session stored => ?_⟩
    · rcases Table.mem_put.mp stored with rfl | ⟨stored, _⟩
      · rw [id]
        exact startsWith_append _ _
      · exact holds.named session stored
    · rcases Table.mem_put.mp stored with rfl | ⟨stored, _⟩
      · refine ⟨request, ⟨ops, [], token, _, rfl, posted, hash.symm⟩, source, account, ?_⟩
        exact
          { stored := member
            presented
            workspace := workspace.trans untrimmed.1
            credential := credential.trans untrimmed.2
            type
            owner
            owned
            allowed
            covered := by
              rw [role, accountRole_sessionRole]
              exact covered account.role rfl }
      · exact later session stored

/-- Every step of a run within the condition keeps the invariant. -/
theorem SessionInvariant.step (holds : SessionInvariant ops (run SessionDb.step .empty ops))
    (op : SessionOp) (within : WithinSource (run SessionDb.step .empty ops) op) :
    SessionInvariant (ops ++ [op]) ((run SessionDb.step .empty ops).step op) := by
  cases op with
  | createOrganization => exact holds.identityStep _ createOrganization_mutation
  | bootstrapServiceAccount => exact holds.identityStep _ bootstrapServiceAccount_mutation
  | createServiceAccount => exact holds.identityStep _ createServiceAccount_mutation
  | registerAgent => exact holds.identityStep _ registerAgent_mutation
  | issueCredential => exact holds.identityStep _ issueCredential_mutation
  | issueServiceAccountCredential =>
    exact holds.identityStep _ issueServiceAccountCredential_mutation
  | revokeCredential => exact holds.identityStep _ revokeCredential_mutation
  | revokeServiceAccountCredential =>
    exact holds.identityStep _ revokeServiceAccountCredential_mutation
  | postSession request => exact holds.postSession within
  | revoke token revokedAt =>
    exact holds.revokeSession _ (fun _ found => List.mem_of_find?_eq_some found) revokedAt
  | revokeById sessionId workspaceId revokedAt =>
    exact holds.revokeSession _
      (fun _ found => Table.mem_of_find? (Option.filter_eq_some_iff.mp found).1) revokedAt

end Sessions

/-! ### Two sessions of one workspace -/

namespace Sample

def adminToken : String := "fuse_sk_BxIdKDM-SVRfanWAi5ahrLfCzdjj7vkEDxolMDtGUVw"
def readerToken : String := "fuse_sk_DhkkLzpFUFtmcXyHkp2os77J1N_q9QALFiEsN0JNWGM"
def sessionSecret : String := "FSArNkFMV2JteIOOmaSvusXQ2-bx_AcSHSgzPklUX2o"

/-- The digests of the tokens above. -/
@[reducible] def crypto : NodeCrypto where
  sha256 text :=
    if text = adminToken then "d070922c92095225d4c72373be2b393d6c56cb841ea503a9da3674c67f2a550f"
    else if text = readerToken then "c9f95aedeafe28da435342f58852a4ce2ea73e9b759f0ec25d958303ec77ffea"
    else if text = "fuse_hs_" ++ sessionSecret then
      "d6238a1d2eb50d4d39ed9d0212d23e1e72886c08c48409b83f59c78d90c6755d"
    else ""

def context : MutationContext := ⟨"workspace:workspace-1", "workspace-1:bootstrap", some 0⟩

/-- A credential of the workspace's administrator account. -/
def credential (id token : String) (capabilities : List ApiCapability) : CredentialRecord :=
  letI := crypto
  { id
    organizationId := "workspace-1"
    principalId := "account-1"
    name := "Fuse customer administration"
    capabilities
    tokenPrefix := take 20 token
    tokenHash := hashApiToken token
    createdAt := some 0
    expiresAt := none
    revokedAt := none }

/-- A workspace whose administrator account has one credential with every capability. -/
def bootstrapped : SessionOp :=
  .bootstrapServiceAccount
    { organizationId := "workspace-1"
      organizationName := "Workspace"
      serviceAccountId := "account-1"
      serviceAccountName := "Fuse customer administration"
      credential := credential "credential-1" adminToken apiCapabilities
      context }

end Sample

end FuseControlPlane.Http
