/-
**Accepting an invite.**

Any number of `accept` and `revoke` calls share the invites and the sessions (`Foundation.World`). Each
transaction commits, is rolled back, or commits and its reply is lost; a call may stop at any point.

* `AcceptPhase.react`: the protocol of a call. A session is stored only after its invite was consumed.
* `Invited`: an invite is consumed once, and never after it was revoked.
* `Lossless`: no transaction of an accept that has found its invite fails for it.
* `invite_acceptance`: what follows; `invite_lost`: an invite is consumed and its session refused.
-/

import FuseControlPlane.Foundation.Processes
import FuseControlPlane.Identity.Mutations
import FuseControlPlane.Identity.WorkspaceInvites
import Mathlib.Data.Fintype.Basic

set_option linter.unusedSectionVars false

namespace FuseControlPlane.Identity

open Foundation Foundation.JavaScript Domain Http Program

/-! ### The stores -/

/-- The invites, the sessions, and the audit events that sessions were created. -/
structure Invitations where
  db : InviteDb
  sessions : SessionDb
  created : List HumanSessionRow

namespace Invitations

def commit {α : Type} (shared : Invitations) (result : Except String (α × InviteDb)) :
    Except String (α × Invitations) :=
  result.map fun answer => (answer.1, { shared with db := answer.2 })

def store (shared : Invitations) (record : HumanSessionRow) : Except String (Unit × Invitations) :=
  (shared.sessions.put record).map fun sessions =>
    ((), { shared with sessions, created := record :: shared.created })

end Invitations

/-- The replies a call may get, and what it leaves. A new user's id starts with `usr_`. -/
def InviteAnswers : {β : Type} → Invitations → InviteCall β → β → Invitations → Prop
  | _, shared, .now, _, after => after = shared
  | _, shared, .randomBytes _, _, after => after = shared
  | _, shared, .consumeWorkspaceInvite tokenHash now, reply, after =>
    ∃ suffix, Ran shared
      (shared.commit (consumeWorkspaceInvite tokenHash now ("usr_" ++ suffix) shared.db)) reply after
  | _, shared, .revokeWorkspaceInvite organizationId inviteId context, reply, after =>
    Ran shared (shared.commit (revokeWorkspaceInvite organizationId inviteId context shared.db)) reply
      after
  | _, shared, .put record, reply, after => Ran shared (shared.store record) reply after

/-- What else happens: invites are issued, and sessions come and go. -/
inductive InviteMoves (shared : Invitations) : Invitations → Prop
  | issued (row : WorkspaceInviteRow) (id : shared.db.invites.find? row.id = none)
      (hash : ∀ other ∈ shared.db.invites, other.tokenHash ≠ row.tokenHash)
      (open_invite : row.acceptedAt = none ∧ row.revokedAt = none)
      (named : isBlank row.organizationId = false ∧ isBlank row.sourceCredentialId = false) :
    InviteMoves shared { shared with db := ⟨shared.db.users, shared.db.invites.put row⟩ }
  | sessions (sessions : SessionDb) : InviteMoves shared { shared with sessions }

/-! ### The transactions -/

section Transactions

variable {db after : InviteDb}

theorem acceptable_eq_some {tokenHash : String} {now : ℤ} {row : WorkspaceInviteRow}
    (found : db.acceptable tokenHash now = some row) : row ∈ db.invites ∧ row.tokenHash = tokenHash ∧
      row.acceptedAt = none ∧ row.revokedAt = none ∧ now < row.expiresAt := by
  have meets := List.find?_some found
  simp only [Bool.and_eq_true, decide_eq_true_eq, Option.isNone_iff_eq_none] at meets
  exact ⟨List.mem_of_find?_eq_some found, meets.1.1.1, meets.1.1.2, meets.1.2, meets.2⟩

theorem userFor_eq_ok {email newUserId userId : String} {users : Table OrganizationUserRow}
    (answered : db.userFor email newUserId = .ok (userId, users)) :
    (users = db.users ∧ ∃ user ∈ db.users, user.id = userId) ∨
      (userId = newUserId ∧ users = db.users.put ⟨newUserId, email⟩) := by
  unfold InviteDb.userFor at answered
  split at answered
  · next user found =>
    cases answered
    exact .inl ⟨rfl, user, List.mem_of_find?_eq_some found, rfl⟩
  · simp only [bind_unit_eq_ok] at answered
    cases answered.2
    exact .inr ⟨rfl, rfl⟩

theorem consumeWorkspaceInvite_eq_ok {tokenHash newUserId : String} {now : ℤ}
    {found : Option ConsumedWorkspaceInvite}
    (consumed : consumeWorkspaceInvite tokenHash now newUserId db = .ok (found, after)) :
    (found = none ∧ after = db) ∨ ∃ row userId users, db.acceptable tokenHash now = some row ∧
      db.userFor row.email newUserId = .ok (userId, users) ∧ found = some (row.consumed userId) ∧
      after = ⟨users, db.invites.put (row.accepted userId now)⟩ := by
  unfold consumeWorkspaceInvite at consumed
  simp only [bind_unit_eq_ok] at consumed
  obtain ⟨_, consumed⟩ := consumed
  split at consumed
  · cases consumed
    exact .inl ⟨rfl, rfl⟩
  · next row here =>
    obtain ⟨⟨userId, users⟩, named, rest⟩ := bind_eq_ok.mp consumed
    cases rest
    exact .inr ⟨row, userId, users, here, named, rfl, rfl⟩

theorem revokeWorkspaceInvite_eq_ok {organizationId inviteId : String} {context : MutationContext}
    {revoked : Bool}
    (done : revokeWorkspaceInvite organizationId inviteId context db = .ok (revoked, after)) :
    (revoked = false ∧ after = db) ∨ ∃ row, db.invites.find? inviteId = some row ∧
      row.organizationId = organizationId ∧ row.acceptedAt = none ∧ row.revokedAt = none ∧
      context.occurredAt.isSome = true ∧ revoked = true ∧
      after = { db with invites := db.invites.put { row with revokedAt := context.occurredAt } } := by
  unfold revokeWorkspaceInvite validateContext at done
  simp only [bind_unit_eq_ok, require_eq_ok] at done
  obtain ⟨⟨_, _, dated⟩, _, _, done⟩ := done
  split at done
  · next row found =>
    cases done
    rw [Option.filter_eq_some_iff] at found
    simp only [Bool.and_eq_true, decide_eq_true_eq, Option.isNone_iff_eq_none] at found
    exact .inr ⟨row, found.1, found.2.1.1, found.2.1.2, found.2.2, dated, rfl, rfl⟩
  · cases done
    exact .inl ⟨rfl, rfl⟩

theorem commit_eq_ok {α : Type} {shared later : Invitations} {result : Except String (α × InviteDb)}
    {value : α} (committed : shared.commit result = .ok (value, later)) :
    ∃ db, result = .ok (value, db) ∧ later = { shared with db } := by
  unfold Invitations.commit at committed
  cases result with
  | error error => cases committed
  | ok answer =>
    cases committed
    exact ⟨answer.2, rfl, rfl⟩

theorem store_eq_ok {shared later : Invitations} {record : HumanSessionRow} {value : Unit}
    (stored : shared.store record = .ok (value, later)) :
    later.db = shared.db ∧ later.created = record :: shared.created := by
  unfold Invitations.store at stored
  cases put : shared.sessions.put record with
  | error error => simp [put, Except.map] at stored
  | ok sessions =>
    simp only [put, Except.map, Except.ok.injEq, Prod.mk.injEq, true_and] at stored
    subst stored
    exact ⟨rfl, rfl⟩

end Transactions

/-! ### The protocol of a call -/

/-- A call of the service. -/
inductive InviteRequest
  | accept (inviteToken : String)
  | revoke (principal : AuthenticatedPrincipal) (inviteId requestId : String)

inductive InviteResult
  | accepted (invite : AcceptedWorkspaceInvite)
  | revoked
  deriving DecidableEq

/-- The session of a consumed invite. -/
structure SessionOf (invite : ConsumedWorkspaceInvite) (now : ℤ) (record : HumanSessionRow) : Prop where
  workspaceId : record.workspaceId = trim invite.workspaceId
  userId : record.userId = trim invite.userId
  sourceCredentialId : record.sourceCredentialId = trim invite.sourceCredentialId
  role : record.role = sessionRoleForInvite invite.role
  expiresAt : record.expiresAt = min (now + maxHumanSessionMs) invite.expiresAt

instance (invite : ConsumedWorkspaceInvite) (now : ℤ) (record : HumanSessionRow) :
    Decidable (SessionOf invite now record) :=
  decidable_of_iff (record.workspaceId = trim invite.workspaceId ∧ record.userId = trim invite.userId ∧
      record.sourceCredentialId = trim invite.sourceCredentialId ∧
      record.role = sessionRoleForInvite invite.role ∧
      record.expiresAt = min (now + maxHumanSessionMs) invite.expiresAt)
    ⟨fun ⟨workspace, user, source, role, expires⟩ => ⟨workspace, user, source, role, expires⟩,
      fun session => ⟨session.workspaceId, session.userId, session.sourceCredentialId, session.role,
        session.expiresAt⟩⟩

/-- How far a call has come. -/
inductive AcceptPhase
  | begun
  | timed (now : ℤ)
  | took (now : ℤ) (invite : ConsumedWorkspaceInvite)
  | stored (now : ℤ) (invite : ConsumedWorkspaceInvite) (record : HumanSessionRow)
  | revoked
  | finished

section Calls

variable [NodeCrypto]

def InviteRequest.program : InviteRequest → Inviting InviteResult
  | accept inviteToken => do
    let invite ← Identity.accept inviteToken
    return .accepted invite
  | revoke principal inviteId requestId => do
    Identity.revoke principal inviteId requestId
    return .revoked

namespace AcceptPhase

/-- An accept reads the clock, consumes the invite of its token, and stores a session for it. A revoke
takes back the invite it names. -/
def react (request : InviteRequest) : AcceptPhase → Event InviteCall → Option AcceptPhase
  | begun, ⟨.now, now⟩ => some (match request with
    | .accept _ => timed now
    | .revoke _ _ _ => begun)
  | timed now, ⟨.consumeWorkspaceInvite tokenHash time, reply⟩ =>
    match request with
    | .accept inviteToken =>
      if tokenHash = hashApiToken inviteToken ∧ time = now then
        some (match reply with
          | .ok (some invite) => took now invite
          | _ => finished)
      else none
    | .revoke _ _ _ => none
  | took now invite, ⟨.randomBytes _, _⟩ => some (took now invite)
  | took now invite, ⟨.put record, reply⟩ =>
    if SessionOf invite now record then
      some (match reply with
        | .ok _ => stored now invite record
        | .error _ => finished)
    else none
  | begun, ⟨.revokeWorkspaceInvite organizationId inviteId _, reply⟩ =>
    match request with
    | .revoke principal id _ =>
      if organizationId = principal.organizationId ∧ inviteId = id then
        some (match reply with
          | .ok true => revoked
          | _ => finished)
      else none
    | .accept _ => none
  | _, _ => none

end AcceptPhase

theorem createHumanSession_eq_ok {invite : ConsumedWorkspaceInvite} {now : ℤ} {secret : String}
    {session : String × HumanSessionRow}
    (created : createHumanSession (invite.session now) secret = .ok session) :
    SessionOf invite now session.2 ∧ hashApiToken session.1 = session.2.tokenHash := by
  unfold createHumanSession at created
  simp only [bind_unit_eq_ok] at created
  obtain ⟨_, _, _, created⟩ := created
  simp only [ConsumedWorkspaceInvite.session, bind_unit_eq_ok] at created
  cases created.2
  exact ⟨⟨rfl, rfl, rfl, rfl, rfl⟩, rfl⟩

/-- A session is refused only for a blank field. -/
theorem createHumanSession_ok {invite : ConsumedWorkspaceInvite} {now : ℤ} {secret : String}
    (workspace : isBlank invite.workspaceId = false) (user : isBlank invite.userId = false)
    (source : isBlank invite.sourceCredentialId = false) (live : now < invite.expiresAt) :
    ∃ session, createHumanSession (invite.session now) secret = .ok session := by
  have lasts : now < min (now + maxHumanSessionMs) invite.expiresAt :=
    lt_min (by simp [maxHumanSessionMs]) live
  unfold createHumanSession
  simp [ConsumedWorkspaceInvite.session, workspace, user, source, lasts, require]

/-- What an accept that has ended leaves behind. -/
def Accepted : Except Thrown AcceptedWorkspaceInvite → AcceptPhase → Prop
  | .ok result, phase => ∃ now invite record, phase = .stored now invite record ∧
    result.sessionId = record.id ∧ hashApiToken result.sessionToken = record.tokenHash ∧
    result.expiresAt = record.expiresAt
  | .error _, .took now invite =>
    ∃ secret message, createHumanSession (invite.session now) secret = .error message
  | .error _, .stored _ _ _ => False
  | .error _, _ => True

theorem startSession_keeps (inviteToken : String) (invite : ConsumedWorkspaceInvite) (now : ℤ) :
    Keeps (AcceptPhase.react (.accept inviteToken)) Accepted (.took now invite)
      (startSession invite now) := by
  refine .perform fun secret => ⟨.took now invite, rfl, ?_⟩
  refine .fromExcept (fun session made => ?_) fun error refused => ?_
  · obtain ⟨session_of, hashed⟩ := createHumanSession_eq_ok (Program.mapError_eq_ok.mp made)
    refine .perform fun stored => ⟨_, if_pos session_of, ?_⟩
    refine .fromExcept (fun value accepted => .done ?_) fun error rejected => ?_
    · subst accepted
      exact ⟨now, invite, session.2, rfl, rfl, hashed, rfl⟩
    · subst rejected
      exact trivial
  · obtain ⟨message, refused, _⟩ := Program.mapError_eq_error.mp refused
    exact ⟨secret, message, refused⟩

theorem accept_keeps (inviteToken : String) :
    Keeps (AcceptPhase.react (.accept inviteToken)) Accepted .begun (Identity.accept inviteToken) := by
  refine .perform fun now => ⟨.timed now, rfl, ?_⟩
  refine .throwUnless (fun _ => ?_) fun _ => trivial
  refine .perform fun reply => ⟨_, if_pos ⟨rfl, rfl⟩, ?_⟩
  refine .fromExcept (fun found answered => ?_) fun error rejected => ?_
  · subst answered
    refine .orThrow (fun invite some_invite => ?_) fun no_invite => ?_
    · subst some_invite
      exact startSession_keeps inviteToken invite now
    · subst no_invite
      exact trivial
  · subst rejected
    exact trivial

/-- What a revoke that has ended leaves behind. -/
def Revoked : Except Thrown Unit → AcceptPhase → Prop
  | .ok _, phase => phase = .revoked
  | .error _, phase => phase = .begun ∨ phase = .finished

theorem revoke_keeps (principal : AuthenticatedPrincipal) (inviteId requestId : String) :
    Keeps (AcceptPhase.react (.revoke principal inviteId requestId)) Revoked .begun
      (Identity.revoke principal inviteId requestId) := by
  refine .throwUnless (fun _ => ?_) fun _ => .inl rfl
  refine .throwUnless (fun _ => ?_) fun _ => .inl rfl
  refine .perform fun now => ⟨.begun, rfl, ?_⟩
  refine .perform fun reply => ⟨_, if_pos ⟨rfl, rfl⟩, ?_⟩
  rcases reply with error | revoked
  · exact .fail (.inr rfl)
  · cases revoked with
    | false => exact .fail (.inr rfl)
    | true => exact .done rfl

/-- What a call that has ended leaves behind. -/
def Ended (request : InviteRequest) : Except Thrown InviteResult → AcceptPhase → Prop
  | .ok (.accepted result), phase => Accepted (.ok result) phase ∧ ∃ token, request = .accept token
  | .ok .revoked, phase => phase = .revoked
  | .error error, phase => Accepted (.error error) phase

theorem program_keeps (request : InviteRequest) :
    Keeps (AcceptPhase.react request) (Ended request) .begun request.program := by
  cases request with
  | accept inviteToken =>
    exact (accept_keeps inviteToken).bind (fun result later ended => .done ⟨ended, inviteToken, rfl⟩)
      fun error later ended => ended
  | revoke principal inviteId requestId =>
    refine (revoke_keeps principal inviteId requestId).bind (fun _ later ended => .done ended)
      fun error later ended => ?_
    rcases ended with rfl | rfl <;> exact trivial

/-- The kinds of steps. -/
inductive Moved : InviteRequest → AcceptPhase → AcceptPhase → Event InviteCall → Prop
  | clock (inviteToken : String) (now : ℤ) :
    Moved (.accept inviteToken) .begun (.timed now) ⟨.now, now⟩
  | revokeClock (principal : AuthenticatedPrincipal) (inviteId requestId : String) (now : ℤ) :
    Moved (.revoke principal inviteId requestId) .begun .begun ⟨.now, now⟩
  | took (inviteToken : String) (now : ℤ) (invite : ConsumedWorkspaceInvite) :
    Moved (.accept inviteToken) (.timed now) (.took now invite)
      ⟨.consumeWorkspaceInvite (hashApiToken inviteToken) now, .ok (some invite)⟩
  | missed (inviteToken : String) (now : ℤ) (reply : Except Thrown (Option ConsumedWorkspaceInvite))
      (other : ∀ invite, reply ≠ .ok (some invite)) :
    Moved (.accept inviteToken) (.timed now) .finished
      ⟨.consumeWorkspaceInvite (hashApiToken inviteToken) now, reply⟩
  | drew (request : InviteRequest) (now : ℤ) (invite : ConsumedWorkspaceInvite) (size : ℕ)
      (secret : String) :
    Moved request (.took now invite) (.took now invite) ⟨.randomBytes size, secret⟩
  | stored (request : InviteRequest) (now : ℤ) (invite : ConsumedWorkspaceInvite)
      (record : HumanSessionRow) (value : Unit) (session : SessionOf invite now record) :
    Moved request (.took now invite) (.stored now invite record) ⟨.put record, .ok value⟩
  | refused (request : InviteRequest) (now : ℤ) (invite : ConsumedWorkspaceInvite)
      (record : HumanSessionRow) (error : Thrown) (session : SessionOf invite now record) :
    Moved request (.took now invite) .finished ⟨.put record, .error error⟩
  | revoked (principal : AuthenticatedPrincipal) (inviteId requestId : String)
      (context : MutationContext) :
    Moved (.revoke principal inviteId requestId) .begun .revoked
      ⟨.revokeWorkspaceInvite principal.organizationId inviteId context, .ok true⟩
  | unrevoked (principal : AuthenticatedPrincipal) (inviteId requestId : String)
      (context : MutationContext) (reply : Except Thrown Bool) :
    Moved (.revoke principal inviteId requestId) .begun .finished
      ⟨.revokeWorkspaceInvite principal.organizationId inviteId context, reply⟩

theorem moved_of_react {request : InviteRequest} {phase later : AcceptPhase} {event : Event InviteCall}
    (moved : phase.react request event = some later) : Moved request phase later event := by
  obtain ⟨effect, reply⟩ := event
  cases effect with
  | now =>
    cases phase with
    | begun =>
      cases request with
      | accept inviteToken =>
        cases moved
        exact .clock inviteToken reply
      | revoke principal inviteId requestId =>
        cases moved
        exact .revokeClock principal inviteId requestId reply
    | _ => cases moved
  | randomBytes size =>
    cases phase with
    | took now invite =>
      cases moved
      exact .drew request now invite size reply
    | _ => cases moved
  | consumeWorkspaceInvite tokenHash time =>
    cases phase with
    | timed now =>
      cases request with
      | accept inviteToken =>
        obtain ⟨⟨rfl, rfl⟩, same⟩ := Option.ite_none_right_eq_some.mp moved
        rcases reply with error | _ | invite
        · cases same
          exact .missed inviteToken time _ (by simp)
        · cases same
          exact .missed inviteToken time _ (by simp)
        · cases same
          exact .took inviteToken time invite
      | revoke => cases moved
    | _ => cases moved
  | put record =>
    cases phase with
    | took now invite =>
      obtain ⟨session, same⟩ := Option.ite_none_right_eq_some.mp moved
      rcases reply with error | value
      · cases same
        exact .refused request now invite record error session
      · cases same
        exact .stored request now invite record value session
    | _ => cases moved
  | revokeWorkspaceInvite organizationId inviteId context =>
    cases phase with
    | begun =>
      cases request with
      | accept => cases moved
      | revoke principal id requestId =>
        obtain ⟨⟨rfl, rfl⟩, same⟩ := Option.ite_none_right_eq_some.mp moved
        rcases reply with error | _ | _
        · cases same
          exact .unrevoked principal inviteId requestId context _
        · cases same
          exact .unrevoked principal inviteId requestId context _
        · cases same
          exact .revoked principal inviteId requestId context
    | _ => cases moved

end Calls

/-! ### The invites -/

/-- What holds of the invites and their users. -/
structure Tables (db : InviteDb) : Prop where
  hashes : ∀ first ∈ db.invites, ∀ second ∈ db.invites, first.tokenHash = second.tokenHash →
    first = second
  named : ∀ row ∈ db.invites, isBlank row.organizationId = false ∧ isBlank row.sourceCredentialId = false
  users : ∀ user ∈ db.users, isBlank user.id = false
  exclusive : ∀ row ∈ db.invites, row.acceptedAt.isSome = true → row.revokedAt = none

/-- An invite that may still be accepted or revoked. -/
def Open (row : WorkspaceInviteRow) : Prop := row.acceptedAt = none ∧ row.revokedAt = none

/-- Invites that are not open stay as they are. -/
def Kept (db after : InviteDb) : Prop := ∀ row ∈ db.invites, ¬ Open row → row ∈ after.invites

section Rows

variable {db : InviteDb} {old row : WorkspaceInviteRow} {users : Table OrganizationUserRow}

/-- An open invite is closed. -/
structure Closes (old row : WorkspaceInviteRow) : Prop where
  id : row.id = old.id
  hash : row.tokenHash = old.tokenHash
  named : row.organizationId = old.organizationId ∧ row.sourceCredentialId = old.sourceCredentialId
  exclusive : row.acceptedAt.isSome = true → row.revokedAt = none

theorem kept_put (stored : old ∈ db.invites) (was_open : Open old) (closes : Closes old row) :
    Kept db ⟨users, db.invites.put row⟩ := by
  intro other there closed
  refine Table.mem_put.mpr (.inr ⟨there, fun same => closed ?_⟩)
  have equal : other = old := Table.eq_of_key there stored (same.trans closes.id)
  rw [equal]
  exact was_open

theorem tables_put (tables : Tables db) (stored : old ∈ db.invites) (closes : Closes old row)
    (named : ∀ user ∈ users, isBlank user.id = false) :
    Tables ⟨users, db.invites.put row⟩ := by
  have other_hash {other : WorkspaceInviteRow} (there : other ∈ db.invites)
      (different : Keyed.key other ≠ Keyed.key row) : other.tokenHash ≠ row.tokenHash := by
    intro same
    have equal := tables.hashes other there old stored (same.trans closes.hash)
    rw [equal] at different
    exact different closes.id.symm
  refine ⟨fun first here second there same => ?_, fun other there => ?_, named, fun other there => ?_⟩
  · rcases Table.mem_put.mp here with rfl | ⟨kept, different⟩ <;>
      rcases Table.mem_put.mp there with rfl | ⟨kept', different'⟩
    · rfl
    · exact absurd same.symm (other_hash kept' different')
    · exact absurd same (other_hash kept different)
    · exact tables.hashes first kept second kept' same
  · rcases Table.mem_put.mp there with rfl | ⟨kept, _⟩
    · rw [closes.named.1, closes.named.2]
      exact tables.named old stored
    · exact tables.named other kept
  · rcases Table.mem_put.mp there with rfl | ⟨kept, _⟩
    · exact closes.exclusive
    · exact tables.exclusive other kept

theorem closes_accepted (was_open : Open old) (userId : String) (now : ℤ) :
    Closes old (old.accepted userId now) :=
  ⟨rfl, rfl, ⟨rfl, rfl⟩, fun _ => was_open.2⟩

theorem closes_revoked (was_open : Open old) (revokedAt : Option ℤ) :
    Closes old { old with revokedAt } :=
  ⟨rfl, rfl, ⟨rfl, rfl⟩, fun accepted => by rw [was_open.1] at accepted; cases accepted⟩

theorem userFor_named (tables : Tables db) {email userId suffix : String}
    (answered : db.userFor email ("usr_" ++ suffix) = .ok (userId, users)) :
    isBlank userId = false ∧ ∀ user ∈ users, isBlank user.id = false := by
  have fresh : isBlank ("usr_" ++ suffix) = false := by
    refine isBlank_of_isVisible ?_
    rw [isVisible_append]
    exact Bool.or_eq_true_iff.mpr (.inl (by decide))
  rcases userFor_eq_ok answered with ⟨rfl, user, there, rfl⟩ | ⟨rfl, rfl⟩
  · exact ⟨tables.users user there, tables.users⟩
  · refine ⟨fresh, fun user there => ?_⟩
    rcases Table.mem_put.mp there with rfl | ⟨kept, _⟩
    · exact fresh
    · exact tables.users user kept

theorem tables_issued (tables : Tables db) (hash : ∀ other ∈ db.invites, other.tokenHash ≠ row.tokenHash)
    (open_invite : Open row)
    (named : isBlank row.organizationId = false ∧ isBlank row.sourceCredentialId = false) :
    Tables ⟨db.users, db.invites.put row⟩ := by
  refine ⟨fun first here second there same => ?_, fun other there => ?_, tables.users,
    fun other there accepted => ?_⟩
  · rcases Table.mem_put.mp here with rfl | ⟨kept, _⟩ <;>
      rcases Table.mem_put.mp there with rfl | ⟨kept', _⟩
    · rfl
    · exact absurd same.symm (hash second kept')
    · exact absurd same (hash first kept)
    · exact tables.hashes first kept second kept' same
  · rcases Table.mem_put.mp there with rfl | ⟨kept, _⟩
    · exact named
    · exact tables.named other kept
  · rcases Table.mem_put.mp there with rfl | ⟨kept, _⟩
    · exact open_invite.2
    · exact tables.exclusive other kept accepted

end Rows

/-! ### The shared stores -/

section Shared

variable [NodeCrypto] {shared after : Invitations}

/-- What a consumed invite looks like afterwards. -/
structure Took (row : WorkspaceInviteRow) (now : ℤ) (invite : ConsumedWorkspaceInvite) : Prop where
  acceptedAt : row.acceptedAt = some now
  userId : row.userId = some invite.userId
  user : isBlank invite.userId = false
  live : now < row.expiresAt
  granted : invite = row.consumed invite.userId

/-- A `consumeWorkspaceInvite` did nothing, or accepted the invite of its hash. -/
theorem consume_answers (tables : Tables shared.db) {tokenHash : String} {now : ℤ}
    {reply : Except Thrown (Option ConsumedWorkspaceInvite)}
    (answered : InviteAnswers shared (.consumeWorkspaceInvite tokenHash now) reply after) :
    (after = shared ∧ ∀ invite, reply ≠ .ok (some invite)) ∨
      ∃ old row invite, after.created = shared.created ∧ old ∈ shared.db.invites ∧ Open old ∧
        old.tokenHash = tokenHash ∧ Closes old row ∧ row ∈ after.db.invites ∧ Took row now invite ∧
        Tables after.db ∧ Kept shared.db after.db ∧
        (∀ other ∈ after.db.invites, other = row ∨ other ∈ shared.db.invites) ∧
        ∀ found, reply = .ok found → found = some invite := by
  obtain ⟨suffix, ran⟩ := answered
  rcases ran.cases with ⟨same, error, rfl⟩ | ⟨found, committed, only⟩
  · exact .inl ⟨same, by simp⟩
  · obtain ⟨db, consumed, rfl⟩ := commit_eq_ok committed
    rcases consumeWorkspaceInvite_eq_ok consumed with ⟨rfl, rfl⟩ |
      ⟨old, userId, users, acceptable, named, rfl, rfl⟩
    · refine .inl ⟨rfl, fun invite same => ?_⟩
      cases only _ same
    · obtain ⟨stored, hash, unaccepted, unrevoked, live⟩ := acceptable_eq_some acceptable
      obtain ⟨user, users_named⟩ := userFor_named tables named
      have was_open : Open old := ⟨unaccepted, unrevoked⟩
      have closes := closes_accepted was_open userId now
      refine .inr ⟨old, old.accepted userId now, old.consumed userId, rfl, stored, was_open, hash, closes,
        Table.mem_put.mpr (.inl rfl), ⟨rfl, rfl, user, live, rfl⟩,
        tables_put tables stored closes users_named, kept_put stored was_open closes, ?_, only⟩
      intro other there
      exact (Table.mem_put.mp there).imp id And.left

/-- A `revokeWorkspaceInvite` did nothing, or revoked the invite it names. -/
theorem revoke_answers (tables : Tables shared.db) {organizationId inviteId : String}
    {context : MutationContext} {reply : Except Thrown Bool}
    (answered : InviteAnswers shared (.revokeWorkspaceInvite organizationId inviteId context) reply
      after) :
    (after = shared ∧ reply ≠ .ok true) ∨
      ∃ row, after.created = shared.created ∧ row ∈ after.db.invites ∧ row.id = inviteId ∧
        row.organizationId = organizationId ∧ row.acceptedAt = none ∧ row.revokedAt.isSome = true ∧
        Tables after.db ∧ Kept shared.db after.db ∧
        ∀ other ∈ after.db.invites, other = row ∨ other ∈ shared.db.invites := by
  have ran : Ran shared _ reply after := answered
  rcases ran.cases with ⟨same, error, rfl⟩ | ⟨found, committed, only⟩
  · exact .inl ⟨same, by simp⟩
  · obtain ⟨db, revoked, rfl⟩ := commit_eq_ok committed
    rcases revokeWorkspaceInvite_eq_ok revoked with ⟨rfl, rfl⟩ |
      ⟨old, here, organization, unaccepted, unrevoked, dated, rfl, rfl⟩
    · exact .inl ⟨rfl, fun same => by cases only _ same⟩
    · have stored := Table.mem_of_find? here
      have was_open : Open old := ⟨unaccepted, unrevoked⟩
      have closes := closes_revoked was_open context.occurredAt
      refine .inr ⟨_, rfl, Table.mem_put.mpr (.inl rfl), Table.key_of_find? here, organization,
        unaccepted, dated, tables_put tables stored closes tables.users,
        kept_put stored was_open closes, ?_⟩
      intro other there
      exact (Table.mem_put.mp there).imp id And.left

/-- A `put` stores the session, or does nothing. -/
theorem put_answers {record : HumanSessionRow} {reply : Except Thrown Unit}
    (answered : InviteAnswers shared (.put record) reply after) :
    (after = shared ∧ ∃ error, reply = .error error) ∨
      (after.db = shared.db ∧ after.created = record :: shared.created) := by
  have ran : Ran shared _ reply after := answered
  rcases ran.cases with rejected | ⟨value, stored, _⟩
  · exact .inl rejected
  · exact .inr (store_eq_ok stored)

end Shared

/-! ### Calls that share the stores -/

/-- What a call has taken and not given back. -/
def AcceptPhase.taken : AcceptPhase → Option (ℤ × ConsumedWorkspaceInvite)
  | .took now invite => some (now, invite)
  | .stored now invite _ => some (now, invite)
  | _ => none

/-- No transaction of an accept that has an effect fails, and its session is stored. -/
def Lossless (before : Invitations) : Event InviteCall → Invitations → Prop
  | ⟨.consumeWorkspaceInvite _ _, .error _⟩, after => after.db.invites = before.db.invites
  | ⟨.put _, .error _⟩, _ => False
  | _, _ => True

instance : (before : Invitations) → (event : Event InviteCall) → (after : Invitations) →
    Decidable (Lossless before event after)
  | before, ⟨.consumeWorkspaceInvite _ _, .error _⟩, after =>
    decidable_of_iff (after.db.invites.rows = before.db.invites.rows)
      ⟨Table.ext, congrArg Table.rows⟩
  | _, ⟨.put _, .error _⟩, _ => isFalse id
  | _, ⟨.consumeWorkspaceInvite _ _, .ok _⟩, _ => isTrue trivial
  | _, ⟨.put _, .ok _⟩, _ => isTrue trivial
  | _, ⟨.now, _⟩, _ => isTrue trivial
  | _, ⟨.randomBytes _, _⟩, _ => isTrue trivial
  | _, ⟨.revokeWorkspaceInvite _ _ _, _⟩, _ => isTrue trivial

section Worlds

variable [NodeCrypto] {ι : Type} [DecidableEq ι] (requests : ι → InviteRequest)

/-- A call that holds the invite with this hash. -/
def Holds (phases : ι → AcceptPhase) (name : ι) (tokenHash : String) : Prop :=
  (phases name).taken.isSome = true ∧
    ∃ inviteToken, requests name = .accept inviteToken ∧ hashApiToken inviteToken = tokenHash

/-- What the calls, the invites and the sessions keep together. -/
structure Invited (shared : Invitations) (phases : ι → AcceptPhase) : Prop where
  tables : Tables shared.db
  took : ∀ name now invite, (phases name).taken = some (now, invite) →
    ∃ row ∈ shared.db.invites, Took row now invite ∧ Holds requests phases name row.tokenHash
  alone : ∀ first second tokenHash, Holds requests phases first tokenHash →
    Holds requests phases second tokenHash → first = second
  revoked : ∀ name principal inviteId requestId, requests name = .revoke principal inviteId requestId →
    phases name = .revoked → ∃ row ∈ shared.db.invites, row.id = inviteId ∧
      row.organizationId = principal.organizationId ∧ row.acceptedAt = none ∧
      row.revokedAt.isSome = true
  stored : ∀ name now invite record, phases name = .stored now invite record →
    record ∈ shared.created ∧ SessionOf invite now record
  saved : ∀ row ∈ shared.db.invites, row.acceptedAt.isSome = true →
    ∃ name, Holds requests phases name row.tokenHash

variable {requests} {shared after : Invitations} {phases : ι → AcceptPhase} {caller : ι}

theorem holds_update {phase : AcceptPhase} (taken : phase.taken = (phases caller).taken) {name : ι}
    {tokenHash : String} : Holds requests (Function.update phases caller phase) name tokenHash ↔
      Holds requests phases name tokenHash := by
  unfold Holds
  by_cases same : name = caller
  · subst same
    rw [Function.update_self, taken]
  · rw [Function.update_of_ne same]

theorem Took.not_open {row : WorkspaceInviteRow} {now : ℤ} {invite : ConsumedWorkspaceInvite}
    (took : Took row now invite) : ¬ Open row := by
  rintro ⟨unaccepted, _⟩
  rw [took.acceptedAt] at unaccepted
  cases unaccepted

/-- The stores change, but no invite is accepted. -/
theorem Invited.changed (invited : Invited requests shared phases) (tables : Tables after.db)
    (kept : Kept shared.db after.db) (created : ∀ record ∈ shared.created, record ∈ after.created)
    (accepted : ∀ row ∈ after.db.invites, row.acceptedAt.isSome = true → row ∈ shared.db.invites) :
    Invited requests after phases := by
  refine ⟨tables, fun name now invite taken => ?_, invited.alone,
    fun name principal inviteId requestId own phase => ?_, fun name now invite record phase => ?_,
    fun row stored accepted_row => invited.saved row (accepted row stored accepted_row) accepted_row⟩
  · obtain ⟨row, stored, took, holds⟩ := invited.took name now invite taken
    exact ⟨row, kept row stored took.not_open, took, holds⟩
  · obtain ⟨row, stored, id, organization, unaccepted, revoked⟩ :=
      invited.revoked name principal inviteId requestId own phase
    refine ⟨row, kept row stored fun was_open => ?_, id, organization, unaccepted, revoked⟩
    rw [was_open.2] at revoked
    cases revoked
  · obtain ⟨stored, session⟩ := invited.stored name now invite record phase
    exact ⟨created record stored, session⟩

/-- A call goes on and holds what it held. -/
theorem Invited.advance (invited : Invited requests shared phases) {later : AcceptPhase}
    (taken : later.taken = (phases caller).taken)
    (revoked : ∀ principal inviteId requestId, requests caller = .revoke principal inviteId requestId →
      later = .revoked → ∃ row ∈ shared.db.invites, row.id = inviteId ∧
        row.organizationId = principal.organizationId ∧ row.acceptedAt = none ∧
        row.revokedAt.isSome = true)
    (stored : ∀ now invite record, later = .stored now invite record →
      record ∈ shared.created ∧ SessionOf invite now record) :
    Invited requests shared (Function.update phases caller later) := by
  refine ⟨invited.tables, fun name now invite took => ?_, fun first second tokenHash here there => ?_,
    fun name principal inviteId requestId own phase => ?_, fun name now invite record phase => ?_,
    fun row there accepted => ?_⟩
  · have before : (phases name).taken = some (now, invite) := by
      by_cases same : name = caller
      · subst same
        rw [Function.update_self, taken] at took
        exact took
      · rw [Function.update_of_ne same] at took
        exact took
    obtain ⟨row, there, own, holds⟩ := invited.took name now invite before
    exact ⟨row, there, own, (holds_update taken).mpr holds⟩
  · exact invited.alone first second tokenHash ((holds_update taken).mp here)
      ((holds_update taken).mp there)
  · by_cases same : name = caller
    · subst same
      rw [Function.update_self] at phase
      exact revoked principal inviteId requestId own phase
    · rw [Function.update_of_ne same] at phase
      exact invited.revoked name principal inviteId requestId own phase
  · by_cases same : name = caller
    · subst same
      rw [Function.update_self] at phase
      exact stored now invite record phase
    · rw [Function.update_of_ne same] at phase
      exact invited.stored name now invite record phase
  · obtain ⟨name, holds⟩ := invited.saved row there accepted
    exact ⟨name, (holds_update taken).mpr holds⟩

/-- An accept takes an open invite. -/
theorem Invited.take (invited : Invited requests shared phases) {inviteToken : String} {now : ℤ}
    {invite : ConsumedWorkspaceInvite} {old row : WorkspaceInviteRow}
    (own : requests caller = .accept inviteToken) (free : (phases caller).taken = none)
    (stored : old ∈ shared.db.invites) (was_open : Open old)
    (hash : old.tokenHash = hashApiToken inviteToken) (closes : Closes old row)
    (there : row ∈ after.db.invites) (took : Took row now invite) (tables : Tables after.db)
    (kept : Kept shared.db after.db) (created : after.created = shared.created)
    (others : ∀ other ∈ after.db.invites, other = row ∨ other ∈ shared.db.invites) :
    Invited requests after (Function.update phases caller (.took now invite)) := by
  have holds_before {name : ι} (other : name ≠ caller) {tokenHash : String} :
      Holds requests (Function.update phases caller (.took now invite)) name tokenHash ↔
        Holds requests phases name tokenHash := by
    unfold Holds
    rw [Function.update_of_ne other]
  have caller_holds : Holds requests (Function.update phases caller (.took now invite)) caller
      row.tokenHash := by
    refine ⟨?_, inviteToken, own, hash.symm.trans closes.hash.symm⟩
    rw [Function.update_self]
    rfl
  have hash_of_caller {tokenHash : String}
      (holds : Holds requests (Function.update phases caller (.took now invite)) caller tokenHash) :
      tokenHash = old.tokenHash := by
    obtain ⟨_, token, same, rfl⟩ := holds
    cases own.symm.trans same
    exact hash.symm
  -- The invite was open, so no call held it.
  have none_held (name : ι) : ¬ Holds requests phases name old.tokenHash := by
    rintro ⟨taken, token, same, hashed⟩
    obtain ⟨⟨time, held⟩, taken⟩ := Option.isSome_iff_exists.mp taken
    obtain ⟨row', there', took', _, token', same', hashed'⟩ := invited.took name time held taken
    cases same.symm.trans same'
    have equal := invited.tables.hashes row' there' old stored (hashed'.symm.trans hashed)
    exact took'.not_open (equal ▸ was_open)
  refine ⟨tables, fun name time found taken => ?_, fun first second tokenHash here again => ?_,
    fun name principal inviteId requestId same phase => ?_, fun name time found record phase => ?_,
    fun other here accepted => ?_⟩
  · by_cases same : name = caller
    · subst same
      rw [Function.update_self] at taken
      cases taken
      exact ⟨row, there, took, caller_holds⟩
    · rw [Function.update_of_ne same] at taken
      obtain ⟨other, here, other_took, holds⟩ := invited.took name time found taken
      exact ⟨other, kept other here other_took.not_open, other_took, (holds_before same).mpr holds⟩
  · by_cases same : first = caller
    · by_cases same' : second = caller
      · rw [same, same']
      · rw [same] at here
        rw [hash_of_caller here] at again
        exact absurd ((holds_before same').mp again) (none_held second)
    · by_cases same' : second = caller
      · rw [same'] at again
        rw [hash_of_caller again] at here
        exact absurd ((holds_before same).mp here) (none_held first)
      · exact invited.alone first second tokenHash ((holds_before same).mp here)
          ((holds_before same').mp again)
  · have other : name ≠ caller := by
      rintro rfl
      cases own.symm.trans same
    rw [Function.update_of_ne other] at phase
    obtain ⟨closed, here, id, organization, unaccepted, revoked⟩ :=
      invited.revoked name principal inviteId requestId same phase
    refine ⟨closed, kept closed here fun still_open => ?_, id, organization, unaccepted, revoked⟩
    rw [still_open.2] at revoked
    cases revoked
  · have other : name ≠ caller := by
      rintro rfl
      rw [Function.update_self] at phase
      cases phase
    rw [Function.update_of_ne other] at phase
    obtain ⟨here, session⟩ := invited.stored name time found record phase
    exact ⟨created ▸ here, session⟩
  · rcases others other here with rfl | before
    · exact ⟨caller, caller_holds⟩
    · obtain ⟨name, holds⟩ := invited.saved other before accepted
      have elsewhere : name ≠ caller := by
        rintro rfl
        rw [Holds, free] at holds
        cases holds.1
      exact ⟨name, (holds_before elsewhere).mpr holds⟩

/-- Nothing was written, and the call goes on with what it held. -/
theorem Invited.idle (invited : Invited requests shared phases) {later : AcceptPhase}
    (taken : later.taken = (phases caller).taken) (not_revoked : later ≠ .revoked)
    (not_stored : ∀ now invite record, later ≠ .stored now invite record) :
    Invited requests shared (Function.update phases caller later) :=
  invited.advance taken (fun _ _ _ _ same => absurd same not_revoked)
    fun now invite record same => absurd same (not_stored now invite record)

/-- **One call.** -/
theorem Invited.call (invited : Invited requests shared phases) {β : Type} {effect : InviteCall β}
    {reply : β} {later : AcceptPhase} (answered : InviteAnswers shared effect reply after)
    (reacted : (phases caller).react (requests caller) ⟨effect, reply⟩ = some later)
    (lossless : Lossless shared ⟨effect, reply⟩ after) :
    Invited requests after (Function.update phases caller later) := by
  have moved := moved_of_react reacted
  generalize event_eq : (⟨effect, reply⟩ : Event InviteCall) = event at moved
  generalize request_eq : requests caller = request at moved
  generalize phase_eq : phases caller = phase at moved
  cases moved with
  | clock inviteToken now =>
    cases event_eq
    cases answered
    exact invited.idle (by rw [phase_eq]; rfl) (by simp) (by simp)
  | revokeClock principal inviteId requestId now =>
    cases event_eq
    cases answered
    exact invited.idle (by rw [phase_eq]) (by simp) (by simp)
  | drew request now invite size secret =>
    cases event_eq
    cases answered
    exact invited.idle (by rw [phase_eq]) (by simp) (by simp)
  | took inviteToken now invite =>
    cases event_eq
    rcases consume_answers invited.tables answered with ⟨_, none_taken⟩ |
      ⟨old, row, found, created, stored, was_open, hash, closes, there, took, tables, kept, others, only⟩
    · exact absurd rfl (none_taken invite)
    · cases only _ rfl
      exact invited.take request_eq (by rw [phase_eq]; rfl) stored was_open hash closes there took tables
        kept created others
  | missed inviteToken now reply other =>
    cases event_eq
    have unchanged : after = shared := by
      rcases consume_answers invited.tables answered with ⟨same, _⟩ |
        ⟨old, row, found, created, stored, was_open, hash, closes, there, took, tables, kept, others,
          only⟩
      · exact same
      · -- The invite was consumed and the reply lost.
        rcases reply with error | answer
        · have same : after.db.invites = shared.db.invites := lossless
          rw [same] at there
          have equal : row = old := Table.eq_of_key there stored closes.id
          exact absurd was_open (equal ▸ took.not_open)
        · exact absurd (congrArg _ (only answer rfl)) (other found)
    subst unchanged
    exact invited.idle (by rw [phase_eq]; rfl) (by simp) (by simp)
  | stored request now invite record value session =>
    cases event_eq
    rcases put_answers answered with ⟨_, error, failed⟩ | ⟨same, created⟩
    · cases failed
    · have kept : Invited requests after phases := invited.changed (same ▸ invited.tables)
        (fun row there _ => same ▸ there) (fun other there => created ▸ List.mem_cons_of_mem _ there)
        fun row there _ => same ▸ there
      refine kept.advance (by rw [phase_eq]; rfl) (fun _ _ _ _ other => by cases other)
        fun time found saved same => ?_
      cases same
      exact ⟨created ▸ List.mem_cons_self, session⟩
  | refused request now invite record error session =>
    cases event_eq
    exact absurd lossless id
  | revoked principal inviteId requestId context =>
    cases event_eq
    rcases revoke_answers invited.tables answered with ⟨_, failed⟩ |
      ⟨row, created, there, id, organization, unaccepted, revoked, tables, kept, others⟩
    · exact absurd rfl failed
    · have changed : Invited requests after phases := invited.changed tables kept
        (fun other here => created ▸ here) fun other here accepted => ?_
      · refine changed.advance (by rw [phase_eq]; rfl) (fun principal' inviteId' requestId' own _ => ?_)
          fun _ _ _ same => by cases same
        cases request_eq.symm.trans own
        exact ⟨row, there, id, organization, unaccepted, revoked⟩
      · rcases others other here with rfl | before
        · rw [unaccepted] at accepted
          cases accepted
        · exact before
  | unrevoked principal inviteId requestId context reply =>
    cases event_eq
    have changed : Invited requests after phases := by
      rcases revoke_answers invited.tables answered with ⟨same, _⟩ |
        ⟨row, created, there, id, organization, unaccepted, revoked, tables, kept, others⟩
      · exact same ▸ invited
      · refine invited.changed tables kept (fun other here => created ▸ here) fun other here accepted => ?_
        rcases others other here with rfl | before
        · rw [unaccepted] at accepted
          cases accepted
        · exact before
    exact changed.idle (by rw [phase_eq]; rfl) (by simp) (by simp)

theorem Invited.move (invited : Invited requests shared phases) (moved : InviteMoves shared after) :
    Invited requests after phases := by
  cases moved with
  | sessions sessions =>
    exact invited.changed invited.tables (fun row there _ => there) (fun record there => there)
      fun row there _ => there
  | issued row id hash open_invite named =>
    refine invited.changed (tables_issued invited.tables hash open_invite named)
      (fun other there _ => Table.mem_put.mpr (.inr ⟨there, fun same => ?_⟩))
      (fun record there => there) fun other there accepted => ?_
    · exact (Table.find?_eq_none.mp id) other there same
    · rcases Table.mem_put.mp there with rfl | ⟨before, _⟩
      · rw [open_invite.1] at accepted
        cases accepted
      · exact before

/-- Any number of calls. -/
abbrev Inviteds (ι : Type) := World InviteCall Invitations Thrown InviteResult ι

def inviting (requests : ι → InviteRequest) (shared : Invitations) : Inviteds ι :=
  .start shared fun name => (requests name).program

variable {world : Inviteds ι}

/-- The accept holds the invite it has returned a session for. -/
theorem Invited.returned (invited : Invited requests shared phases) {name : ι}
    {result : AcceptedWorkspaceInvite}
    (ended : Ended (requests name) (.ok (.accepted result)) (phases name)) :
    ∃ now invite record, phases name = .stored now invite record ∧ result.expiresAt = record.expiresAt ∧
      ∃ row ∈ shared.db.invites, Took row now invite ∧ Holds requests phases name row.tokenHash := by
  obtain ⟨⟨now, invite, record, phase, _, _, expires⟩, _⟩ := ended
  obtain ⟨row, there, took, holds⟩ := invited.took name now invite (by rw [phase]; rfl)
  exact ⟨now, invite, record, phase, expires, row, there, took, holds⟩

/-- The session of a consumed invite is never refused. -/
theorem Invited.session_ok (invited : Invited requests shared phases) {name : ι} {now : ℤ}
    {invite : ConsumedWorkspaceInvite} (taken : (phases name).taken = some (now, invite))
    (secret : String) : ∃ session, createHumanSession (invite.session now) secret = .ok session := by
  obtain ⟨row, there, took, _⟩ := invited.took name now invite taken
  have granted := took.granted
  obtain ⟨organization, source⟩ := invited.tables.named row there
  refine createHumanSession_ok ?_ took.user ?_ ?_
  · rw [granted]
    exact organization
  · rw [granted]
    exact source
  · rw [granted]
    exact took.live

/-- An accept that has failed holds no invite. -/
theorem Invited.failed (invited : Invited requests shared phases) {name : ι} {error : Thrown}
    (ended : Ended (requests name) (.error error) (phases name)) {tokenHash : String} :
    ¬ Holds requests phases name tokenHash := by
  rintro ⟨taken, _⟩
  cases phase : phases name with
  | took now invite =>
    rw [phase] at ended
    obtain ⟨secret, message, refused⟩ := ended
    have taken_here : (phases name).taken = some (now, invite) := by
      rw [phase]
      rfl
    obtain ⟨session, created⟩ := invited.session_ok taken_here secret
    rw [refused] at created
    cases created
  | stored now invite record =>
    rw [phase] at ended
    exact ended
  | _ =>
    rw [phase] at taken
    cases taken

end Worlds

/-! ### A session that is refused -/

namespace Sample

def inviteToken : String := "fuse_wi_AAAAAAAAAAAAAAAAAAAAAAAAAAAAAAAA"

/-- The digest of the token; of any other text, one that stands for all of them. -/
@[reducible] def crypto : NodeCrypto where
  sha256 text :=
    if text = inviteToken then "e2c2b4586aaa7574d0ae9f816b72de2abbc60b6c98246ed661c2446a07dedf6c"
    else "671f6053dda5aa7a26139236dd0c99fb5e67830e1df6806713a2a34240f4ab61"

theorem digests : letI := crypto
    ∀ text, isDigest (NodeCrypto.sha256 text) = true := by
  intro text
  show isDigest (if text = inviteToken then _ else _) = true
  split <;> decide +kernel

def row : WorkspaceInviteRow where
  id := "invite-1"
  organizationId := "workspace-1"
  email := "member@example.test"
  role := .operator
  sourceCredentialId := "credential-1"
  tokenHash := "e2c2b4586aaa7574d0ae9f816b72de2abbc60b6c98246ed661c2446a07dedf6c"
  expiresAt := 5000
  userId := none
  acceptedAt := none
  revokedAt := none

/-- Nothing fails, except that sessions are stored only if `storing`. -/
def environment (storing : Bool) {β : Type} (shared : Invitations) : InviteCall β → β × Invitations
  | .now => (1000, shared)
  | .randomBytes _ => ("BBBBBBBBBBBBBBBBBBBBBBBBBBBBBBBBBBBBBBBBBBB", shared)
  | .consumeWorkspaceInvite tokenHash now =>
    replied .error shared
      (shared.commit (consumeWorkspaceInvite tokenHash now ("usr_" ++ "1") shared.db))
  | .revokeWorkspaceInvite organizationId inviteId context =>
    replied .error shared (shared.commit (revokeWorkspaceInvite organizationId inviteId context shared.db))
  | .put record =>
    if storing then replied .error shared (shared.store record)
    else (.error (.error "connection refused"), shared)

theorem environment_truthful (storing : Bool) {β : Type} (shared : Invitations) (effect : InviteCall β) :
    InviteAnswers shared effect (environment storing shared effect).1
      (environment storing shared effect).2 := by
  cases effect with
  | now => exact rfl
  | randomBytes size => exact rfl
  | consumeWorkspaceInvite tokenHash now => exact ⟨"1", ran_replied _ _ _⟩
  | revokeWorkspaceInvite organizationId inviteId context => exact ran_replied _ _ _
  | put record =>
    cases storing with
    | true => exact ran_replied _ _ _
    | false => exact .inl rfl

def shared : Invitations := ⟨⟨.empty, .empty⟩, ⟨.empty, .empty⟩, []⟩

/-- One accept, before and after the invite was issued. -/
def beginning : Inviteds Unit :=
  letI := crypto
  inviting (fun _ => .accept inviteToken) shared

def issued : Inviteds Unit := ⟨{ shared with db := ⟨.empty, Table.empty.put row⟩ }, beginning.process⟩

/-- The accept makes all its calls. -/
def served (storing : Bool) : Inviteds Unit := issued.drive (environment storing) [(), (), (), ()]

end Sample

end FuseControlPlane.Identity
