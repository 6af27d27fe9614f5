/-
**Verified means verified.**

Any number of `configure` and `retry` calls share the provider tables (`Foundation.World`). Between the
steps of a call others run, time passes, and a call may stop at any point.

* `Answers`: the replies a step may get, and the tables it leaves. `Moves`: what else happens.
* `Checking.react`: the protocol of a call. It marks a credential verified only after `verifyCredential`
  succeeded for what was stored, or read, under that version.
* `Recorded`: a version of a credential is never used again for another one.
* `Leased`: the retry under way on a configuration is the one claimed last.
* `verified_means_verified`: what follows; `late_finish_accepted`: a lease that has run out is only lost
  when another call takes it.
-/

import FuseControlPlane.Foundation.Processes
import FuseControlPlane.Providers.ProviderAdministration

set_option linter.unusedSectionVars false

namespace FuseControlPlane.Providers

open Foundation Foundation.JavaScript Domain Identity FuseControlPlane.Core Program

/-! ### What the methods write -/

section Store

variable {keyRing : ProviderCredentialKeyRing} {db after : ProviderDb}

theorem configuration_eq_some {organizationId id : String} {row : ProviderConfigRow} :
    db.configuration organizationId id = some row ↔
      db.configurations.find? organizationId = some row ∧ row.id = id := by
  unfold ProviderDb.configuration
  rw [Option.filter_eq_some_iff, decide_eq_true_eq]

theorem encryptProviderSecret_eq_ok {secret : String} {context : ProviderCredentialContext}
    {envelope : EncryptedSecret} (sealed : encryptProviderSecret secret keyRing context = .ok envelope) :
    envelope.secret = secret := by
  unfold encryptProviderSecret at sealed
  simp only [bind_unit_eq_ok] at sealed
  obtain ⟨_, sealed⟩ := sealed
  split at sealed
  · cases sealed
  · simp only [bind_unit_eq_ok] at sealed
    cases sealed.2
    rfl

theorem decryptProviderSecret_eq_ok {context : ProviderCredentialContext} {secret : String}
    {envelope : EncryptedSecret} (opened : decryptProviderSecret envelope keyRing context = .ok secret) :
    secret = envelope.secret := by
  unfold decryptProviderSecret at opened
  split at opened
  · cases opened
    rfl
  · cases opened

/-- A configuration gets the next version. -/
theorem configure_eq_ok {input : ConfigureProviderInput} {summary : ProviderConfigurationSummary}
    (configured : configure keyRing input db = .ok (summary, after)) :
    ∃ encryptedSecret occurredAt, encryptedSecret.secret = input.apiKey ∧
      summary = (input.row (db.nextVersion input.organizationId) encryptedSecret occurredAt).summary ∧
      after = db.putConfiguration
        (input.row (db.nextVersion input.organizationId) encryptedSecret occurredAt) := by
  unfold configure at configured
  simp only [bind_unit_eq_ok] at configured
  obtain ⟨_, _, _, rest⟩ := configured
  obtain ⟨encryptedSecret, sealed, rest⟩ := bind_eq_ok.mp rest
  obtain ⟨occurredAt, _, rest⟩ := bind_eq_ok.mp rest
  cases rest
  exact ⟨encryptedSecret, occurredAt, encryptProviderSecret_eq_ok sealed, rfl, rfl⟩

theorem markVerificationStatus_eq_ok {input : VerificationMark}
    (marked : markVerificationStatus input db = .ok after) :
    ∃ row occurredAt, db.configurations.find? input.organizationId = some row ∧
      row.credentialVersion = input.expectedCredentialVersion ∧
      after = db.putConfiguration (row.marked input.status occurredAt) := by
  unfold markVerificationStatus at marked
  obtain ⟨occurredAt, _, rest⟩ := bind_eq_ok.mp marked
  split at rest
  · cases rest
  · next row found =>
    cases rest
    rw [Option.filter_eq_some_iff, decide_eq_true_eq, configuration_eq_some] at found
    exact ⟨row, occurredAt, found.1.1, found.2, rfl⟩

theorem getForVerification_eq_ok {organizationId id : String} {record : ProviderVerificationRecord}
    (read : getForVerification keyRing organizationId id db = .ok record) :
    ∃ row, db.configurations.find? organizationId = some row ∧ record.summary = row.summary ∧
      record.apiKey = row.encryptedSecret.secret := by
  unfold getForVerification at read
  simp only [bind_unit_eq_ok] at read
  obtain ⟨_, rest⟩ := read
  split at rest
  · cases rest
  · next row found =>
    simp only [bind_unit_eq_ok] at rest
    obtain ⟨_, rest⟩ := rest
    obtain ⟨apiKey, opened, rest⟩ := bind_eq_ok.mp rest
    cases rest
    exact ⟨row, (configuration_eq_some.mp found).1, rfl, decryptProviderSecret_eq_ok opened⟩

/-- A retry that is not answered from an earlier one takes the lease. -/
theorem beginVerificationRetry_eq_ok {input : RetryInput} {claimToken : String}
    {replay : Option ProviderRetryReplay}
    (begun : beginVerificationRetry input claimToken db = .ok (replay, after)) :
    (replay.isSome = true ∧ after = db) ∨
      (replay = none ∧ ∃ row occurredAt, input.occurredAt = some occurredAt ∧
        db.configurations.find? input.organizationId = some row ∧
        (∀ existing, db.retries.find? (input.organizationId, input.id, input.requestId) =
          some existing → existing.status = .pending) ∧
        after = db.claimRetry row input claimToken occurredAt) := by
  unfold beginVerificationRetry at begun
  split at begun
  · cases begun
  · cases begun
  · next occurredAt row timed found =>
    simp only [bind_unit_eq_ok] at begun
    obtain ⟨_, begun⟩ := begun
    split at begun
    · next existing _ =>
      obtain ⟨replayed, _, rest⟩ := bind_eq_ok.mp begun
      cases rest
      exact .inl ⟨rfl, rfl⟩
    · next absent =>
      simp only [bind_unit_eq_ok] at begun
      obtain ⟨_, _, rest⟩ := begun
      cases rest
      refine .inr ⟨rfl, row, occurredAt, timed, (configuration_eq_some.mp found).1, ?_, rfl⟩
      intro existing there
      rw [there, Option.filter_eq_none_iff] at absent
      simpa using absent existing rfl

theorem finishVerificationRetry_eq_ok {input : FinishRetryInput}
    (finished : finishVerificationRetry input db = .ok after) :
    ∃ row retry occurredAt, db.configurations.find? input.organizationId = some row ∧
      row.credentialVersion = input.expectedCredentialVersion ∧ db.claimed input = some retry ∧
      after = { db.putConfiguration (row.marked input.status occurredAt) with
        retries := db.retries.put
          (retry.ended input.status input.summary input.errorCode occurredAt) } := by
  unfold finishVerificationRetry at finished
  obtain ⟨occurredAt, _, rest⟩ := bind_eq_ok.mp finished
  split at rest
  · cases rest
  · next row found =>
    split at rest
    · cases rest
    · next retry claimed =>
      cases rest
      rw [Option.filter_eq_some_iff, decide_eq_true_eq, configuration_eq_some] at found
      exact ⟨row, retry, occurredAt, found.1.1, found.2, claimed, rfl⟩

theorem claimed_eq_some {input : FinishRetryInput} {retry : RetryRow} :
    db.claimed input = some retry ↔
      db.retries.find? (input.organizationId, input.id, input.requestId) = some retry ∧
        retry.claimToken = some input.claimToken ∧ retry.status = .pending := by
  unfold ProviderDb.claimed
  rw [Option.filter_eq_some_iff, Bool.and_eq_true, decide_eq_true_eq, decide_eq_true_eq]

end Store

/-! ### The tables around the calls -/

/-- A claim that was granted. -/
structure Grant where
  organizationId : String
  id : String
  requestId : String
  token : String
  occurredAt : ℤ
  deriving DecidableEq

/-- What the calls share: the tables, the time, and the claims granted so far, the latest first. -/
structure Shared where
  db : ProviderDb
  clock : ℤ
  grants : List Grant

namespace Shared

/-- The grants of one configuration. -/
def ofConfig (organizationId id : String) (grant : Grant) : Bool :=
  grant.organizationId = organizationId && grant.id = id

/-- A method of the store, on the tables. -/
def commit {α : Type} (shared : Shared) (result : Except String (α × ProviderDb)) :
    Except String (α × Shared) :=
  result.map fun answer => (answer.1, { shared with db := answer.2 })

/-- A method that returns nothing. -/
def commitUnit (shared : Shared) (result : Except String ProviderDb) :
    Except String (Unit × Shared) :=
  shared.commit (result.map fun after => ((), after))

/-- A method that only reads. -/
def read {α : Type} (shared : Shared) (result : Except String α) : Except String (α × Shared) :=
  result.map fun value => (value, shared)

/-- `beginVerificationRetry` with the token it has drawn. -/
def begin (input : RetryInput) (claimToken : String) (shared : Shared) :
    Except String (RetryClaim × Shared) :=
  (beginVerificationRetry input claimToken shared.db).map fun
    | (some replay, db) => (.replay replay, { shared with db })
    | (none, db) => (.claimed claimToken, { shared with
        db
        grants := ⟨input.organizationId, input.id, input.requestId, claimToken,
          input.occurredAt.getD shared.clock⟩ :: shared.grants })

end Shared

/-- The replies a call may get, and what it leaves. A claim token is new; the probe of the provider
answers as it likes. -/
def Answers (keyRing : ProviderCredentialKeyRing) :
    {β : Type} → Shared → ProviderCall β → β → Shared → Prop
  | _, shared, .now, reply, after => reply = some shared.clock ∧ after = shared
  | _, shared, .verifyCredential _ _ _, _, after => after = shared
  | _, shared, .configure input, reply, after =>
    Ran shared (shared.commit (configure keyRing input shared.db)) reply after
  | _, shared, .markVerificationStatus input, reply, after =>
    Ran shared (shared.commitUnit (markVerificationStatus input shared.db)) reply after
  | _, shared, .beginVerificationRetry input, reply, after =>
    (after = shared ∧ ∃ error, reply = .error error) ∨
      ∃ claimToken, claimToken ∉ shared.grants.map Grant.token ∧
        Ran shared (shared.begin input claimToken) reply after
  | _, shared, .getForVerification organizationId id, reply, after =>
    Ran shared (shared.read (getForVerification keyRing organizationId id shared.db)) reply after
  | _, shared, .list organizationId, reply, after =>
    Ran shared (shared.read (list organizationId shared.db)) reply after
  | _, shared, .finishVerificationRetry input, reply, after =>
    Ran shared (shared.commitUnit (finishVerificationRetry input shared.db)) reply after

/-- What else may happen: time passes, organisations come. -/
inductive Moves (shared : Shared) : Shared → Prop
  | time (later : ℤ) : Moves shared { shared with clock := later }
  | organization (row : OrganizationRow) :
    Moves shared { shared with db :=
      { shared.db with organizations := shared.db.organizations.put row } }

/-! ### The protocol of a call -/

/-- One version of a credential: what it is for and the key. -/
structure Credential where
  organizationId : String
  version : ℕ
  provider : ProviderName
  model : String
  apiKey : String
  deriving DecidableEq

def ProviderConfigRow.credential (row : ProviderConfigRow) : Credential :=
  ⟨row.organizationId, row.credentialVersion, row.provider, row.model, row.encryptedSecret.secret⟩

/-- The credential a step hands to its caller: the one it has stored, or the one it has read. -/
def handedOut : Event ProviderCall → Option Credential
  | ⟨.configure input, .ok summary⟩ =>
    some ⟨input.organizationId, summary.credentialVersion, input.provider, input.model, input.apiKey⟩
  | ⟨.getForVerification organizationId _, .ok record⟩ =>
    some ⟨organizationId, record.summary.credentialVersion, record.summary.provider,
      record.summary.model, record.apiKey⟩
  | _ => none

/-- A successful probe of a credential. -/
def Credential.probed (credential : Credential) : Event ProviderCall :=
  ⟨.verifyCredential credential.provider credential.model credential.apiKey, .ok ()⟩

/-- In this history the credential was handed out under its version, and then verified. -/
def Proven (history : List (Event ProviderCall)) (credential : Credential) : Prop :=
  ∃ before later, history = before ++ credential.probed :: later ∧
    ∃ event ∈ before, handedOut event = some credential

/-- What a call has in hand. -/
inductive Checking
  | waiting
  | holding (credential : Credential)
  | checked (credential : Credential)
  deriving DecidableEq

namespace Checking

/-- The call may mark this version with this status. -/
def allows (phase : Checking) (organizationId : String) (version : ℕ)
    (status : VerificationStatus) : Bool :=
  status ≠ .verified || match phase with
    | checked credential => credential.organizationId = organizationId && credential.version = version
    | _ => false

/-- The call after a probe of a credential. -/
def probed (credential : Credential) : Except Thrown Unit → Checking
  | .ok _ => checked credential
  | .error _ => holding credential

/-- A call stores a credential as pending, probes the one it has in hand, and marks that one verified
after a successful probe. -/
def react (phase : Checking) : Event ProviderCall → Option Checking
  | ⟨.verifyCredential provider model apiKey, reply⟩ =>
    match phase with
    | holding credential =>
      if provider = credential.provider ∧ model = credential.model ∧ apiKey = credential.apiKey then
        some (probed credential reply)
      else none
    | _ => none
  | ⟨.markVerificationStatus input, _⟩ =>
    if phase.allows input.organizationId input.expectedCredentialVersion input.status then some phase
    else none
  | ⟨.finishVerificationRetry input, _⟩ =>
    if phase.allows input.organizationId input.expectedCredentialVersion input.status then some phase
    else none
  | ⟨.configure input, reply⟩ =>
    if input.verificationStatus = some .pending then
      some ((handedOut ⟨.configure input, reply⟩).elim phase holding)
    else none
  | ⟨.getForVerification organizationId id, reply⟩ =>
    some ((handedOut ⟨.getForVerification organizationId id, reply⟩).elim phase holding)
  | _ => some phase

end Checking

abbrev AdministrationCall : Type 1 := Process ProviderCall Thrown ProviderConfigurationSummary

/-- What an administrator asks for. -/
inductive AdministrationRequest
  | configure (principal : AuthenticatedPrincipal) (command : ConfigureProviderCommand)
  | retry (principal : AuthenticatedPrincipal) (configId requestId : String)

def AdministrationRequest.program (verifies : Bool) :
    AdministrationRequest → Administration ProviderConfigurationSummary
  | configure principal command => ProviderAdministration.configure verifies principal command
  | retry principal configId requestId =>
    ProviderAdministration.retry verifies principal configId requestId

/-! ### Every call follows the protocol -/

/-- Nothing that is stored, read, probed or marked. -/
def ProviderCall.isNeutral {β : Type} : ProviderCall β → Bool
  | now => true
  | beginVerificationRetry _ => true
  | list _ => true
  | _ => false

theorem Checking.react_neutral {phase : Checking} (event : Event ProviderCall)
    (neutral : event.effect.isNeutral = true) : phase.react event = some phase := by
  obtain ⟨effect, reply⟩ := event
  cases effect with
  | now | beginVerificationRetry | list => rfl
  | _ => cases neutral

theorem throwUnless_calls (condition : Bool) (error : Thrown) :
    AllCalls (fun call => call.isNeutral = true) (throwUnless condition error : Administration Unit) :=
  .throwUnless

theorem requireAdmin_calls (principal : AuthenticatedPrincipal) (capability : ApiCapability) :
    AllCalls (fun call => call.isNeutral = true) (requireAdmin principal capability) :=
  .bind (.bind .throwUnless fun _ => .throwUnless) fun _ => .throwUnless

theorem currentSummary_calls (principal : AuthenticatedPrincipal) (configId : String) :
    AllCalls (fun call => call.isNeutral = true) (currentSummary principal configId) :=
  .bind (.bind (.perform rfl) fun _ => .fromExcept) fun _ => .orThrow

section Calls

variable {principal : AuthenticatedPrincipal}

/-- A rejected mark is thrown, an accepted one leaves the call where it was. -/
theorem mark_follows {phase : Checking} {input : VerificationMark}
    (allowed : phase.allows input.organizationId input.expectedCredentialVersion input.status = true) :
    Follows Checking.react (fun (_ : Unit) later => later = phase) phase
      (awaiting (.markVerificationStatus input)) := by
  refine .call fun reply => ⟨phase, if_pos allowed, ?_⟩
  cases reply with
  | ok value => exact Follows.done rfl
  | error error => exact .fail

/-- A retry ends with a status its call may give. -/
theorem finishRetry_follows {phase : Checking} {configId requestId claimToken : String}
    {current : ProviderVerificationRecord} {status : VerificationStatus} {errorCode : Option String}
    {occurredAt : Option ℤ}
    (allowed : phase.allows principal.organizationId current.summary.credentialVersion status = true) :
    Follows Checking.react (fun _ _ => True) phase
      (finishRetry principal configId requestId claimToken current status errorCode occurredAt) := by
  refine .idle_bind (currentSummary_calls ..) Checking.react_neutral fun summary => ?_
  refine .call fun reply => ⟨phase, if_pos allowed, ?_⟩
  cases reply with
  | ok value => exact .done trivial
  | error error => exact .fail

/-- The credential of a configuration that was stored for a command. -/
def ConfigureProviderCommand.credential (command : ConfigureProviderCommand)
    (principal : AuthenticatedPrincipal) (version : ℕ) : Credential :=
  ⟨principal.organizationId, version, command.provider, command.model, command.apiKey⟩

theorem verifyConfigured_follows (command : ConfigureProviderCommand)
    (configured : ProviderConfigurationSummary) (occurredAt : Option ℤ) :
    Follows Checking.react (fun _ _ => True)
      (.holding (command.credential principal configured.credentialVersion))
      (verifyConfigured principal command configured occurredAt) := by
  have invalid (phase : Checking) (error : Thrown) : Follows Checking.react (fun _ _ => True) phase
      (do
        awaiting (.markVerificationStatus ⟨principal.organizationId, command.configId, .invalid,
          configured.credentialVersion, occurredAt⟩)
        throw error : Administration ProviderConfigurationSummary) :=
    (mark_follows rfl).bind fun _ _ _ => .fail
  refine .call fun probe => ⟨_, if_pos ⟨rfl, rfl, rfl⟩, ?_⟩
  cases probe with
  | error error => exact invalid _ error
  | ok value =>
    have allowed : (Checking.checked (command.credential principal configured.credentialVersion)).allows
        principal.organizationId configured.credentialVersion .verified = true := by
      simp [Checking.allows, ConfigureProviderCommand.credential]
    refine .call fun marked => ⟨_, if_pos allowed, ?_⟩
    cases marked with
    | ok value => exact .done trivial
    | error error => exact invalid _ error

/-- The credential of a record that was read. -/
def ProviderVerificationRecord.credential (record : ProviderVerificationRecord)
    (organizationId : String) : Credential :=
  ⟨organizationId, record.summary.credentialVersion, record.summary.provider, record.summary.model,
    record.apiKey⟩

theorem verifyClaimed_follows (configId requestId claimToken : String)
    (current : ProviderVerificationRecord) (occurredAt : Option ℤ) :
    Follows Checking.react (fun _ _ => True) (.holding (current.credential principal.organizationId))
      (verifyClaimed principal configId requestId claimToken current occurredAt) := by
  refine .call fun probe => ⟨_, if_pos ⟨rfl, rfl, rfl⟩, ?_⟩
  cases probe with
  | ok value =>
    have allowed : (Checking.checked (current.credential principal.organizationId)).allows
        principal.organizationId current.summary.credentialVersion .verified = true := by
      simp [Checking.allows, ProviderVerificationRecord.credential]
    exact finishRetry_follows allowed
  | error error =>
    -- The rejection is thrown again after the retry has ended, so nothing follows.
    have ended (message : String) : Follows Checking.react (fun _ _ => True)
        (.holding (current.credential principal.organizationId))
        (finishRetry principal configId requestId claimToken current .invalid (some message)
          occurredAt) := finishRetry_follows rfl
    have threw (message : String) : Follows Checking.react (fun (_ : Unit) _ => False)
        (.holding (current.credential principal.organizationId))
        (do
          let _ ← finishRetry principal configId requestId claimToken current .invalid (some message)
            occurredAt
          throw error) := (ended message).bind fun _ _ _ => .fail
    exact (threw _).bind fun _ _ never => never.elim

theorem configure_follows (verifies : Bool) (command : ConfigureProviderCommand) :
    Follows Checking.react (fun _ _ => True) .waiting
      (ProviderAdministration.configure verifies principal command) := by
  refine .idle_bind (requireAdmin_calls ..) Checking.react_neutral fun _ =>
    .idle_bind (throwUnless_calls ..) Checking.react_neutral fun _ =>
    .idle_bind (throwUnless_calls ..) Checking.react_neutral fun _ => ?_
  refine .call fun occurredAt => ⟨.waiting, rfl, ?_⟩
  have pending (reply : Except Thrown ProviderConfigurationSummary) :
      Checking.waiting.react ⟨.configure (command.input principal occurredAt), reply⟩ =
        some ((handedOut ⟨.configure (command.input principal occurredAt), reply⟩).elim .waiting
          .holding) := by
    simp [Checking.react, ConfigureProviderCommand.input]
  refine .call fun reply => ⟨_, pending reply, ?_⟩
  cases reply with
  | error error => exact .fail
  | ok configured => exact verifyConfigured_follows command configured occurredAt

theorem retry_follows (verifies : Bool) (configId requestId : String) :
    Follows Checking.react (fun _ _ => True) .waiting
      (ProviderAdministration.retry verifies principal configId requestId) := by
  refine .idle_bind (requireAdmin_calls ..) Checking.react_neutral fun _ =>
    .idle_bind (throwUnless_calls ..) Checking.react_neutral fun _ =>
    .idle_bind (throwUnless_calls ..) Checking.react_neutral fun _ =>
    .idle_bind (throwUnless_calls ..) Checking.react_neutral fun _ => ?_
  refine .call fun occurredAt => ⟨.waiting, rfl, ?_⟩
  refine .call fun begun => ⟨.waiting, rfl, ?_⟩
  cases begun with
  | error error => exact .fail
  | ok claim =>
    cases claim with
    | replay replay =>
      change Follows _ _ _ (replayRetry replay)
      unfold replayRetry
      split
      · exact .fail
      · exact .done trivial
    | claimed claimToken =>
      refine .call fun read => ⟨_, rfl, ?_⟩
      cases read with
      | error error => exact .fail
      | ok current =>
        have follows (condition : Bool) (error : Thrown) : Follows Checking.react (fun _ _ => True)
            (.holding (current.credential principal.organizationId))
            (throwUnless condition error >>= fun _ =>
              verifyClaimed principal configId requestId claimToken current occurredAt) :=
          .idle_bind (throwUnless_calls ..) Checking.react_neutral fun _ =>
            verifyClaimed_follows configId requestId claimToken current occurredAt
        exact follows _ _

end Calls

/-! ### What a call has in hand -/

namespace Checking

/-- The credential in hand. -/
def inHand : Checking → Option Credential
  | waiting => none
  | holding credential => some credential
  | checked credential => some credential

variable {phase later : Checking} {event : Event ProviderCall} {credential : Credential}

/-- A credential in hand was in hand before, or was just handed out. -/
theorem react_inHand (moved : phase.react event = some later)
    (holds : later.inHand = some credential) :
    phase.inHand = some credential ∨ handedOut event = some credential := by
  obtain ⟨effect, reply⟩ := event
  have unchanged {condition : Prop} [Decidable condition]
      (same : (if condition then some phase else none) = some later) :
      phase.inHand = some credential := by
    split at same
    · cases same
      exact holds
    · cases same
  have handed {given : Option Credential} (took : given.elim phase holding = later) :
      phase.inHand = some credential ∨ given = some credential := by
    cases given with
    | none => exact .inl (by rw [← took] at holds; exact holds)
    | some other =>
      subst took
      exact .inr holds
  cases effect with
  | verifyCredential provider model apiKey =>
    cases phase with
    | holding own =>
      simp only [react] at moved
      split at moved
      · cases moved
        cases reply <;> exact .inl holds
      · cases moved
    | _ => cases moved
  | markVerificationStatus | finishVerificationRetry => exact .inl (unchanged moved)
  | configure input =>
    simp only [react] at moved
    split at moved
    · exact handed (Option.some.inj moved)
    · cases moved
  | getForVerification => exact handed (Option.some.inj moved)
  | now | beginVerificationRetry | list =>
    cases moved
    exact .inl holds

/-- A credential was checked before, or has just been probed. -/
theorem react_checked (moved : phase.react event = some (checked credential)) :
    phase = checked credential ∨ (phase = holding credential ∧ event = credential.probed) := by
  obtain ⟨effect, reply⟩ := event
  have unchanged {condition : Prop} [Decidable condition]
      (same : (if condition then some phase else none) = some (checked credential)) :
      phase = checked credential := by
    split at same
    · exact Option.some.inj same
    · cases same
  have handed {given : Option Credential} (took : given.elim phase holding = checked credential) :
      phase = checked credential := by
    cases given with
    | none => exact took
    | some other => cases took
  cases effect with
  | verifyCredential provider model apiKey =>
    cases phase with
    | holding own =>
      simp only [react] at moved
      split at moved
      · next same =>
        obtain ⟨rfl, rfl, rfl⟩ := same
        cases reply with
        | ok value =>
          cases moved
          exact .inr ⟨rfl, rfl⟩
        | error error => cases moved
      · cases moved
    | _ => cases moved
  | markVerificationStatus | finishVerificationRetry => exact .inl (unchanged moved)
  | configure input =>
    simp only [react] at moved
    split at moved
    · exact .inl (handed (Option.some.inj moved))
    · cases moved
  | getForVerification => exact .inl (handed (Option.some.inj moved))
  | now | beginVerificationRetry | list => exact .inl (Option.some.inj moved)

end Checking

section History

variable {history : List (Event ProviderCall)} {phase : Checking} {credential : Credential}

/-- A credential in hand was handed out. -/
theorem handedOut_of_history (here : phaseAfter Checking.react .waiting history = some phase)
    (holds : phase.inHand = some credential) :
    ∃ event ∈ history, handedOut event = some credential := by
  induction history using List.reverseRecOn generalizing phase with
  | nil =>
    cases here
    cases holds
  | append_singleton earlier event ih =>
    obtain ⟨before, so_far, moved⟩ := phaseAfter_concat_inv _ here
    rcases Checking.react_inHand moved holds with held | given
    · obtain ⟨other, member, given⟩ := ih so_far held
      exact ⟨other, List.mem_append_left _ member, given⟩
    · exact ⟨event, List.mem_append_right _ List.mem_cons_self, given⟩

/-- Proofs are not lost. -/
theorem Proven.append (proven : Proven history credential) (more : List (Event ProviderCall)) :
    Proven (history ++ more) credential := by
  obtain ⟨before, later, rfl, given⟩ := proven
  exact ⟨before, later ++ more, by simp, given⟩

/-- **A checked credential was handed out and then verified.** -/
theorem proven_of_checked
    (here : phaseAfter Checking.react .waiting history = some (.checked credential)) :
    Proven history credential := by
  induction history using List.reverseRecOn with
  | nil => cases here
  | append_singleton earlier event ih =>
    obtain ⟨before, so_far, moved⟩ := phaseAfter_concat_inv _ here
    rcases Checking.react_checked moved with rfl | ⟨rfl, rfl⟩
    · exact (ih so_far).append _
    · exact ⟨earlier, [], rfl, handedOut_of_history so_far rfl⟩

end History

/-! ### Versions -/

section Versions

variable {keyRing : ProviderCredentialKeyRing} {db : ProviderDb} {shared after : Shared}
  {credential : Credential}

/-- The tables know what this version stands for, or have gone past it. -/
def Recorded (credential : Credential) (db : ProviderDb) : Prop :=
  ∃ row, db.configurations.find? credential.organizationId = some row ∧
    (credential.version < row.credentialVersion ∨ row.credential = credential)

/-- A row with a new version, or with the credential that is there. -/
def Supersedes (row : ProviderConfigRow) (db : ProviderDb) : Prop :=
  ∀ old, db.configurations.find? row.organizationId = some old →
    old.credentialVersion < row.credentialVersion ∨ row.credential = old.credential

/-- What a step writes: nothing, or a row whose credential, if it is marked verified, is `proven`. -/
inductive Written (proven : Credential → Prop) (db after : ProviderDb) : Prop
  | kept (same : after.configurations = db.configurations)
  | put (row : ProviderConfigRow) (supersedes : Supersedes row db)
    (verified : row.verificationStatus = .verified → proven row.credential)
    (written : after.configurations = db.configurations.put row)

theorem Recorded.written {proven : Credential → Prop} {later : ProviderDb}
    (recorded : Recorded credential db) (written : Written proven db later) :
    Recorded credential later := by
  obtain ⟨old, found, current⟩ := recorded
  cases written with
  | kept same => exact ⟨old, by rw [same]; exact found, current⟩
  | put row supersedes _ written =>
    unfold Recorded
    rw [written, Table.find?_put]
    by_cases same : credential.organizationId = row.organizationId
    · refine ⟨row, if_pos same, ?_⟩
      rcases supersedes old (by rw [← same]; exact found) with newer | equal
      · refine .inl ?_
        rcases current with passed | rfl
        · exact passed.trans newer
        · exact newer
      · have version : row.credentialVersion = old.credentialVersion :=
          congrArg Credential.version equal
        rw [version, equal]
        exact current
    · exact ⟨old, (if_neg same).trans found, current⟩

theorem supersedes_marked {row : ProviderConfigRow} {organizationId : String}
    (found : db.configurations.find? organizationId = some row) (status : VerificationStatus)
    (occurredAt : ℤ) : Supersedes (row.marked status occurredAt) db := by
  intro old there
  have keyed : row.organizationId = organizationId := Table.key_of_find? found
  have same : some old = some row := by
    rw [← there, ← found, ← keyed]
    rfl
  cases same
  exact .inr rfl

theorem supersedes_next (input : ConfigureProviderInput) (encryptedSecret : EncryptedSecret)
    (occurredAt : ℤ) :
    Supersedes (input.row (db.nextVersion input.organizationId) encryptedSecret occurredAt) db := by
  intro old there
  refine .inl ?_
  have found : db.configurations.find? input.organizationId = some old := there
  show old.credentialVersion < db.nextVersion input.organizationId
  rw [ProviderDb.nextVersion, found]
  exact Nat.lt_succ_self _

theorem commit_eq_ok {α : Type} {result : Except String (α × ProviderDb)} {value : α} :
    shared.commit result = .ok (value, after) ↔
      ∃ db, result = .ok (value, db) ∧ after = { shared with db } := by
  unfold Shared.commit
  cases result with
  | error error => simp [Except.map]
  | ok answer =>
    obtain ⟨given, db⟩ := answer
    simp only [Except.map, Except.ok.injEq, Prod.mk.injEq]
    constructor
    · rintro ⟨rfl, rfl⟩
      exact ⟨db, ⟨rfl, rfl⟩, rfl⟩
    · rintro ⟨db, ⟨rfl, rfl⟩, rfl⟩
      exact ⟨rfl, rfl⟩

theorem commitUnit_eq_ok {result : Except String ProviderDb} {value : Unit} :
    shared.commitUnit result = .ok (value, after) ↔
      ∃ db, result = .ok db ∧ after = { shared with db } := by
  unfold Shared.commitUnit
  rw [commit_eq_ok]
  cases result with
  | error error => simp [Except.map]
  | ok db => simp [Except.map]

theorem read_eq_ok {α : Type} {result : Except String α} {value : α} :
    shared.read result = .ok (value, after) ↔ result = .ok value ∧ after = shared := by
  unfold Shared.read
  cases result with
  | error error => simp [Except.map]
  | ok given => simp [Except.map, eq_comm]

theorem begin_eq_ok {input : RetryInput} {claimToken : String} {claim : RetryClaim}
    (begun : shared.begin input claimToken = .ok (claim, after)) :
    (after = shared) ∨ ∃ row occurredAt,
      shared.db.configurations.find? input.organizationId = some row ∧
      (∀ existing, shared.db.retries.find? (input.organizationId, input.id, input.requestId) =
        some existing → existing.status = .pending) ∧
      after = { shared with
        db := shared.db.claimRetry row input claimToken occurredAt
        grants := ⟨input.organizationId, input.id, input.requestId, claimToken, occurredAt⟩ ::
          shared.grants } := by
  unfold Shared.begin at begun
  cases result : beginVerificationRetry input claimToken shared.db with
  | error error =>
    rw [result] at begun
    cases begun
  | ok answer =>
    obtain ⟨replay, db⟩ := answer
    rw [result] at begun
    rcases beginVerificationRetry_eq_ok result with
      ⟨replayed, rfl⟩ | ⟨rfl, row, occurredAt, timed, found, free, rfl⟩
    · cases replay with
      | none => cases replayed
      | some replay =>
        cases begun
        exact .inl rfl
    · cases begun
      rw [timed]
      exact .inr ⟨row, occurredAt, found, free, rfl⟩

/-! ### One step -/

/-- A call that may mark a version verified has that version checked. -/
theorem checked_of_allows {phase : Checking} {organizationId : String} {version : ℕ}
    (allowed : phase.allows organizationId version .verified = true) :
    ∃ credential, phase = .checked credential ∧ credential.organizationId = organizationId ∧
      credential.version = version := by
  cases phase with
  | checked credential =>
    simp only [Checking.allows, ne_eq, not_true_eq_false, decide_false, Bool.false_or,
      Bool.and_eq_true, decide_eq_true_eq] at allowed
    exact ⟨credential, rfl, allowed⟩
  | waiting | holding credential => simp [Checking.allows] at allowed

/-- A mark of the present version, by a call that may make it. -/
theorem written_marked {phase : Checking} {row : ProviderConfigRow} {organizationId : String}
    {version : ℕ} {status : VerificationStatus} {occurredAt : ℤ}
    (known : ∀ credential, phase.inHand = some credential → Recorded credential db)
    (found : db.configurations.find? organizationId = some row)
    (current : row.credentialVersion = version)
    (allowed : phase.allows organizationId version status = true) {later : ProviderDb}
    (written : later.configurations = db.configurations.put (row.marked status occurredAt)) :
    Written (fun credential => phase = .checked credential) db later := by
  refine .put _ (supersedes_marked found status occurredAt) (fun verified => ?_) written
  have marked : status = .verified := verified
  rw [marked] at allowed
  obtain ⟨credential, rfl, organization, checked⟩ := checked_of_allows allowed
  obtain ⟨other, there, recorded⟩ := known credential rfl
  rw [organization, found] at there
  cases there
  rcases recorded with passed | same
  · rw [checked, current] at passed
    exact absurd passed (lt_irrefl _)
  · exact congrArg Checking.checked same.symm

/-- **What a call writes.** It marks a credential verified only if it has checked it. -/
theorem answers_written {phase later : Checking} {β : Type} {effect : ProviderCall β} {reply : β}
    (known : ∀ credential, phase.inHand = some credential → Recorded credential shared.db)
    (moved : phase.react ⟨effect, reply⟩ = some later)
    (answered : Answers keyRing shared effect reply after) :
    Written (fun credential => phase = .checked credential) shared.db after.db := by
  cases effect with
  | now => exact .kept (by rw [answered.2])
  | verifyCredential => exact .kept (by rw [show after = shared from answered])
  | getForVerification | list =>
    rcases Ran.cases answered with ⟨rfl, _⟩ | ⟨value, accepted, _⟩
    · exact .kept rfl
    · obtain ⟨_, rfl⟩ := read_eq_ok.mp accepted
      exact .kept rfl
  | configure input =>
    rcases Ran.cases answered with ⟨rfl, _⟩ | ⟨value, accepted, _⟩
    · exact .kept rfl
    · obtain ⟨db, configured, rfl⟩ := commit_eq_ok.mp accepted
      obtain ⟨encryptedSecret, occurredAt, _, _, rfl⟩ := configure_eq_ok configured
      refine .put _ (supersedes_next input encryptedSecret occurredAt) (fun verified => ?_) rfl
      simp only [Checking.react] at moved
      split at moved
      · next pending =>
        simp [ConfigureProviderInput.row, pending] at verified
      · cases moved
  | markVerificationStatus input =>
    simp only [Checking.react] at moved
    split at moved
    · next allowed =>
      rcases Ran.cases answered with ⟨rfl, _⟩ | ⟨value, accepted, _⟩
      · exact .kept rfl
      · obtain ⟨db, marked, rfl⟩ := commitUnit_eq_ok.mp accepted
        obtain ⟨row, occurredAt, found, current, rfl⟩ := markVerificationStatus_eq_ok marked
        exact written_marked known found current allowed rfl
    · cases moved
  | finishVerificationRetry input =>
    simp only [Checking.react] at moved
    split at moved
    · next allowed =>
      rcases Ran.cases answered with ⟨rfl, _⟩ | ⟨value, accepted, _⟩
      · exact .kept rfl
      · obtain ⟨db, finished, rfl⟩ := commitUnit_eq_ok.mp accepted
        obtain ⟨row, retry, occurredAt, found, current, _, rfl⟩ :=
          finishVerificationRetry_eq_ok finished
        exact written_marked known found current allowed rfl
    · cases moved
  | beginVerificationRetry input =>
    rcases answered with ⟨rfl, _⟩ | ⟨claimToken, _, ran⟩
    · exact .kept rfl
    rcases Ran.cases ran with ⟨rfl, _⟩ | ⟨value, accepted, _⟩
    · exact .kept rfl
    · rcases begin_eq_ok accepted with rfl | ⟨row, occurredAt, found, _, rfl⟩
      · exact .kept rfl
      · exact .put _ (supersedes_marked found .pending occurredAt) nofun rfl

/-- What a step hands out is recorded. -/
theorem answers_recorded {β : Type} {effect : ProviderCall β} {reply : β}
    (answered : Answers keyRing shared effect reply after)
    (given : handedOut ⟨effect, reply⟩ = some credential) : Recorded credential after.db := by
  cases effect with
  | configure input =>
    cases reply with
    | error error => cases given
    | ok summary =>
      cases given
      obtain ⟨db, configured, rfl⟩ := commit_eq_ok.mp answered
      obtain ⟨encryptedSecret, occurredAt, sealed, rfl, rfl⟩ := configure_eq_ok configured
      refine ⟨_, Table.find?_put_self _ _, .inr ?_⟩
      show (⟨_, _, _, _, encryptedSecret.secret⟩ : Credential) = _
      rw [sealed]
      rfl
  | getForVerification organizationId id =>
    cases reply with
    | error error => cases given
    | ok record =>
      cases given
      obtain ⟨read, rfl⟩ := read_eq_ok.mp answered
      obtain ⟨row, found, summary, secret⟩ := getForVerification_eq_ok read
      refine ⟨row, found, .inr ?_⟩
      rw [summary, secret, ← (Table.key_of_find? found : row.organizationId = organizationId)]
      rfl
  | _ => cases given

end Versions

/-! ### Leases -/

/-- The retry under way on a configuration is the one claimed last. -/
structure Leased (shared : Shared) : Prop where
  /-- No token was drawn twice. -/
  distinct : (shared.grants.map Grant.token).Nodup
  pending : ∀ retry ∈ shared.db.retries, retry.status = .pending →
    ∃ grant, shared.grants.find? (Shared.ofConfig retry.organizationId retry.configId) = some grant ∧
      retry.requestId = grant.requestId ∧ retry.claimToken = some grant.token

namespace Leased

variable {keyRing : ProviderCredentialKeyRing} {shared after : Shared}

theorem congr (leased : Leased shared) (retries : after.db.retries = shared.db.retries)
    (grants : after.grants = shared.grants) : Leased after := by
  refine ⟨by rw [grants]; exact leased.distinct, fun retry stored => ?_⟩
  rw [grants]
  rw [retries] at stored
  exact leased.pending retry stored

/-- A retry that ends keeps its request and its token. -/
theorem finish (leased : Leased shared) {input : FinishRetryInput} {retry : RetryRow} {row : ProviderConfigRow}
    {occurredAt : ℤ} (claimed : shared.db.claimed input = some retry) :
    Leased { shared with db := { shared.db.putConfiguration row with
      retries := shared.db.retries.put
        (retry.ended input.status input.summary input.errorCode occurredAt) } } := by
  refine ⟨leased.distinct, fun other stored running => ?_⟩
  obtain ⟨found, _, pending⟩ := claimed_eq_some.mp claimed
  rcases Table.mem_put.mp stored with rfl | ⟨stored, _⟩
  · exact leased.pending retry (Table.mem_of_find? found) pending
  · exact leased.pending other stored running

/-- After the retries under way on a configuration have lapsed, none is. -/
theorem pending_of_lapse {db : ProviderDb} {row : ProviderConfigRow} {id : String} {occurredAt : ℤ}
    {retry : RetryRow} (stored : retry ∈ db.lapse row id occurredAt)
    (running : retry.status = .pending) :
    retry ∈ db.retries ∧ ¬ (retry.organizationId = row.organizationId ∧ retry.configId = id) := by
  obtain ⟨old, member, same⟩ := Table.mem_map.mp stored
  split at same
  · subst same
    cases running
  · next other =>
    subst same
    refine ⟨member, fun both => other ?_⟩
    simp [both.1, both.2, running]

/-- A retry that begins is the only one under way on its configuration. -/
theorem claim (leased : Leased shared) {input : RetryInput} {claimToken : String}
    {row : ProviderConfigRow} {occurredAt : ℤ} (fresh : claimToken ∉ shared.grants.map Grant.token)
    (found : shared.db.configurations.find? input.organizationId = some row) :
    Leased { shared with
      db := shared.db.claimRetry row input claimToken occurredAt
      grants := ⟨input.organizationId, input.id, input.requestId, claimToken, occurredAt⟩ ::
        shared.grants } := by
  have keyed : row.organizationId = input.organizationId := Table.key_of_find? found
  refine ⟨List.nodup_cons.mpr ⟨fresh, leased.distinct⟩, fun retry stored running => ?_⟩
  have here : retry = input.row claimToken occurredAt ∨
      retry ∈ shared.db.lapse row input.id occurredAt := by
    have stored : retry ∈ upsertRetry (shared.db.lapse row input.id occurredAt)
      (input.row claimToken occurredAt) := stored
    unfold upsertRetry at stored
    split at stored
    · exact (Table.mem_put.mp stored).imp_right And.left
    · exact .inr stored
  rcases here with rfl | lapsed
  · exact ⟨_, List.find?_cons_of_pos (by simp [Shared.ofConfig, RetryInput.row]), rfl, rfl⟩
  · obtain ⟨old, elsewhere⟩ := pending_of_lapse lapsed running
    have other : ¬ Shared.ofConfig retry.organizationId retry.configId
        ⟨input.organizationId, input.id, input.requestId, claimToken, occurredAt⟩ = true := by
      intro same
      simp only [Shared.ofConfig, Bool.and_eq_true, decide_eq_true_eq] at same
      exact elsewhere ⟨by rw [keyed, same.1], same.2.symm⟩
    rw [List.find?_cons_of_neg other]
    exact leased.pending retry old running

theorem answers (leased : Leased shared) {β : Type} {effect : ProviderCall β} {reply : β}
    (answered : Answers keyRing shared effect reply after) : Leased after := by
  cases effect with
  | now => rw [answered.2]; exact leased
  | verifyCredential => rw [show after = shared from answered]; exact leased
  | getForVerification | list =>
    rcases Ran.cases answered with ⟨rfl, _⟩ | ⟨value, accepted, _⟩
    · exact leased
    · rw [(read_eq_ok.mp accepted).2]
      exact leased
  | configure input =>
    rcases Ran.cases answered with ⟨rfl, _⟩ | ⟨value, accepted, _⟩
    · exact leased
    · obtain ⟨db, configured, rfl⟩ := commit_eq_ok.mp accepted
      obtain ⟨encryptedSecret, occurredAt, _, _, rfl⟩ := configure_eq_ok configured
      exact leased.congr rfl rfl
  | markVerificationStatus input =>
    rcases Ran.cases answered with ⟨rfl, _⟩ | ⟨value, accepted, _⟩
    · exact leased
    · obtain ⟨db, marked, rfl⟩ := commitUnit_eq_ok.mp accepted
      obtain ⟨row, occurredAt, _, _, rfl⟩ := markVerificationStatus_eq_ok marked
      exact leased.congr rfl rfl
  | finishVerificationRetry input =>
    rcases Ran.cases answered with ⟨rfl, _⟩ | ⟨value, accepted, _⟩
    · exact leased
    · obtain ⟨db, finished, rfl⟩ := commitUnit_eq_ok.mp accepted
      obtain ⟨row, retry, occurredAt, _, _, claimed, rfl⟩ := finishVerificationRetry_eq_ok finished
      exact leased.finish claimed
  | beginVerificationRetry input =>
    rcases answered with ⟨rfl, _⟩ | ⟨claimToken, fresh, ran⟩
    · exact leased
    rcases Ran.cases ran with ⟨rfl, _⟩ | ⟨value, accepted, _⟩
    · exact leased
    · rcases begin_eq_ok accepted with rfl | ⟨row, occurredAt, found, _, rfl⟩
      · exact leased
      · exact leased.claim fresh found

/-- At most one retry of a configuration is under way. -/
theorem one_pending (leased : Leased shared) {first second : RetryRow}
    (here : first ∈ shared.db.retries) (there : second ∈ shared.db.retries)
    (running : first.status = .pending) (runs : second.status = .pending)
    (organization : first.organizationId = second.organizationId)
    (config : first.configId = second.configId) : first = second := by
  obtain ⟨grant, latest, request, _⟩ := leased.pending first here running
  obtain ⟨other, latest', request', _⟩ := leased.pending second there runs
  rw [organization, config, latest'] at latest
  cases latest
  refine Table.eq_of_key here there ?_
  show (first.organizationId, first.configId, first.requestId) = _
  rw [organization, config, request, ← request']
  rfl

/-- A claim is lost when a later one is granted. -/
theorem superseded (leased : Leased shared) {newer older : List Grant} {grant later : Grant}
    (order : shared.grants = newer ++ grant :: older) (granted : later ∈ newer)
    (same : later.organizationId = grant.organizationId ∧ later.id = grant.id)
    {input : FinishRetryInput} (organization : input.organizationId = grant.organizationId)
    (id : input.id = grant.id) (token : input.claimToken = grant.token) {db : ProviderDb} :
    finishVerificationRetry input shared.db ≠ .ok db := by
  intro finished
  obtain ⟨_, retry, _, _, _, claimed, _⟩ := finishVerificationRetry_eq_ok finished
  obtain ⟨found, held, pending⟩ := claimed_eq_some.mp claimed
  have key := Table.key_of_find? found
  have keyed : retry.organizationId = grant.organizationId ∧ retry.configId = grant.id :=
    ⟨(congrArg Prod.fst key).trans organization, (congrArg (·.2.1) key).trans id⟩
  obtain ⟨latest, first, _, holder⟩ := leased.pending retry (Table.mem_of_find? found) pending
  -- The latest grant of the configuration is among the newer ones.
  have among : latest ∈ newer := by
    have some_newer : (newer.find? (Shared.ofConfig retry.organizationId retry.configId)).isSome =
        true := by
      refine List.find?_isSome.mpr ⟨later, granted, ?_⟩
      simp [Shared.ofConfig, same.1, same.2, keyed.1, keyed.2]
    rw [order, List.find?_append, Option.or_of_isSome some_newer] at first
    exact List.mem_of_find?_eq_some first
  have tokens : latest.token = grant.token := by
    rw [held, token] at holder
    exact (Option.some.inj holder).symm
  have distinct := leased.distinct
  rw [order, List.map_append, List.map_cons, List.nodup_append] at distinct
  exact distinct.2.2 latest.token (List.mem_map_of_mem among) grant.token List.mem_cons_self tokens

end Leased

/-! ### Verified means verified -/

section Worlds

variable {ι : Type} [DecidableEq ι] {keyRing : ProviderCredentialKeyRing} {verifies : Bool}

/-- Any number of calls, on tables without configurations. -/
def administrations (verifies : Bool) (organizations : Table OrganizationRow) (clock : ℤ)
    (requests : ι → AdministrationRequest) :
    World ProviderCall Shared Thrown ProviderConfigurationSummary ι :=
  .start ⟨⟨organizations, .empty, .empty⟩, clock, []⟩ fun name => (requests name).program verifies

theorem program_follows (request : AdministrationRequest) :
    Follows Checking.react (fun _ _ => True) .waiting (request.program verifies) := by
  cases request with
  | configure principal command => exact configure_follows verifies command
  | retry principal configId requestId => exact retry_follows verifies configId requestId

/-- What is verified in the tables was verified by a call. -/
structure Sound (world : World ProviderCall Shared Thrown ProviderConfigurationSummary ι) : Prop where
  recorded : ∀ name phase, phaseAfter Checking.react .waiting (world.process name).history = some phase →
    ∀ credential, phase.inHand = some credential → Recorded credential world.store.db
  verified : ∀ row ∈ world.store.db.configurations, row.verificationStatus = .verified →
    ∃ name, Proven (world.process name).history row.credential
  leased : Leased world.store

variable {organizations : Table OrganizationRow} {clock : ℤ} {requests : ι → AdministrationRequest}
  {world : World ProviderCall Shared Thrown ProviderConfigurationSummary ι}

/-- Every reachable state is sound. -/
theorem sound_of_reachable
    (reached : World.Reachable (Answers keyRing) Moves
      (administrations verifies organizations clock requests) world) : Sound world := by
  induction reached with
  | refl =>
    refine ⟨fun name phase here credential holds => ?_, fun row stored => ?_, List.nodup_nil, ?_⟩
    · cases here
      cases holds
    · exact absurd stored (Table.not_mem_empty row)
    · exact fun retry stored => absurd stored (Table.not_mem_empty retry)
  | @step earlier_world _ earlier taken sound =>
    have follows (name : ι) := earlier.follows (fun name => program_follows (requests name)) name
    cases taken with
    | move after moved =>
      cases moved with
      | time later => exact ⟨sound.recorded, sound.verified, sound.leased.congr rfl rfl⟩
      | organization row => exact ⟨sound.recorded, sound.verified, sound.leased.congr rfl rfl⟩
    | call caller effect next reply after here answered =>
      obtain ⟨phase, so_far, goes_on⟩ := follows caller
      rw [here] at goes_on
      obtain ⟨later, moved, _⟩ := Follows.call_iff.mp goes_on reply
      have known := sound.recorded caller phase so_far
      have written := answers_written known moved answered
      refine ⟨fun name ahead there credential holds => ?_, fun row stored marked => ?_,
        sound.leased.answers answered⟩
      · by_cases same : name = caller
        · subst same
          simp only [Function.update_self] at there
          rw [phaseAfter_concat Checking.react so_far, moved] at there
          cases there
          rcases Checking.react_inHand moved holds with held | given
          · exact (known credential held).written written
          · exact answers_recorded answered given
        · simp only [Function.update_of_ne same] at there
          exact (sound.recorded name ahead there credential holds).written written
      · have grown (credential : Credential) (name : ι)
            (proven : Proven (earlier_world.process name).history credential) :
            ∃ name, Proven (Function.update earlier_world.process caller ⟨next reply,
              (earlier_world.process caller).history ++ [⟨effect, reply⟩]⟩ name).history credential := by
          refine ⟨name, ?_⟩
          by_cases same : name = caller
          · subst same
            simp only [Function.update_self]
            exact proven.append _
          · simp only [Function.update_of_ne same]
            exact proven
        have kept (there : row ∈ earlier_world.store.db.configurations) :=
          let ⟨name, proven⟩ := sound.verified row there marked
          grown row.credential name proven
        cases written with
        | kept same => exact kept (same ▸ stored)
        | put new supersedes verified written =>
          rw [written] at stored
          rcases Table.mem_put.mp stored with rfl | ⟨there, _⟩
          · have checked := verified marked
            exact grown _ caller (proven_of_checked (checked ▸ so_far))
          · exact kept there

/-- **Verified means verified.** Whatever the calls, their order, and what becomes of each of them: a
verified configuration was handed to some call under its present version, and `verifyCredential` then
succeeded for exactly its provider, model and key; at most one retry of a configuration is under way;
and a claim after which another was granted for its configuration can no longer finish. -/
theorem verified_means_verified
    (reached : World.Reachable (Answers keyRing) Moves
      (administrations verifies organizations clock requests) world) :
    (∀ row ∈ world.store.db.configurations, row.verificationStatus = .verified →
      ∃ name, Proven (world.process name).history row.credential) ∧
    (∀ first ∈ world.store.db.retries, ∀ second ∈ world.store.db.retries,
      first.status = .pending → second.status = .pending →
      first.organizationId = second.organizationId → first.configId = second.configId →
      first = second) ∧
    ∀ newer grant older, world.store.grants = newer ++ grant :: older →
      (∃ later ∈ newer, later.organizationId = grant.organizationId ∧ later.id = grant.id) →
      ∀ input : FinishRetryInput, input.organizationId = grant.organizationId →
        input.id = grant.id → input.claimToken = grant.token →
        ∀ after, finishVerificationRetry input world.store.db ≠ .ok after := by
  have sound := sound_of_reachable reached
  refine ⟨sound.verified, fun first here second there running runs organization config => ?_, ?_⟩
  · exact sound.leased.one_pending here there running runs organization config
  · rintro newer grant older order ⟨later, granted, same⟩ input organization id token after
    exact sound.leased.superseded order granted same organization id token

end Worlds

/-! ### A lease that has run out -/

/-- The finish a call makes next. -/
def nextFinish (call : AdministrationCall) : Option FinishRetryInput :=
  match call.program with
  | .call (.finishVerificationRetry input) _ => some input
  | _ => none

/-- An environment in which no reply is lost and every probe succeeds. -/
def environment (keyRing : ProviderCredentialKeyRing) (claimToken : String) :
    {β : Type} → Shared → ProviderCall β → β × Shared
  | _, shared, .now => (some shared.clock, shared)
  | _, shared, .verifyCredential _ _ _ => (.ok (), shared)
  | _, shared, .configure input =>
    replied .error shared (shared.commit (configure keyRing input shared.db))
  | _, shared, .markVerificationStatus input =>
    replied .error shared (shared.commitUnit (markVerificationStatus input shared.db))
  | _, shared, .beginVerificationRetry input =>
    if claimToken ∈ shared.grants.map Grant.token then (.error .other, shared)
    else replied .error shared (shared.begin input claimToken)
  | _, shared, .getForVerification organizationId id =>
    replied .error shared (shared.read (getForVerification keyRing organizationId id shared.db))
  | _, shared, .list organizationId => replied .error shared (shared.read (list organizationId shared.db))
  | _, shared, .finishVerificationRetry input =>
    replied .error shared (shared.commitUnit (finishVerificationRetry input shared.db))

theorem environment_truthful (keyRing : ProviderCredentialKeyRing) (claimToken : String) {β : Type}
    (shared : Shared) (call : ProviderCall β) :
    Answers keyRing shared call (environment keyRing claimToken shared call).1
      (environment keyRing claimToken shared call).2 := by
  cases call with
  | now => exact ⟨rfl, rfl⟩
  | verifyCredential => exact rfl
  | configure | markVerificationStatus | getForVerification | list | finishVerificationRetry =>
    exact ran_replied _ _ _
  | beginVerificationRetry input =>
    by_cases drawn : claimToken ∈ shared.grants.map Grant.token
    · simp only [environment, if_pos drawn]
      exact .inl ⟨rfl, _, rfl⟩
    · simp only [environment, if_neg drawn]
      exact .inr ⟨claimToken, drawn, ran_replied _ _ _⟩

namespace Sample

def administrator : AuthenticatedPrincipal :=
  ⟨.serviceAccount, "admin", "acme", "credential", [.providersWrite], some .admin, none, none⟩

def keyRing : ProviderCredentialKeyRing := ⟨"primary", [("primary", "key")]⟩

/-- One call configures, the other retries. -/
def requests : Bool → AdministrationRequest
  | false => .configure administrator ⟨"main", .openrouter, "model", "secret", "1", "2", "first"⟩
  | true => .retry administrator "main" "second"

def organizations : Table OrganizationRow := Table.empty.put ⟨"acme"⟩

abbrev Administrations : Type 1 := World ProviderCall Shared Thrown ProviderConfigurationSummary Bool

def beginning : Administrations := administrations true organizations 0 requests

/-- Some steps, and then time passes. -/
def later (world : Administrations) (schedule : List Bool) (clock : ℤ) : Administrations :=
  let driven := world.drive (environment keyRing "claim") schedule
  ⟨{ driven.store with clock }, driven.process⟩

/-- The configuration is stored and its call stops. -/
def configured : Administrations := later beginning [false, false] 900000

/-- A retry takes the lease; the probe takes longer than the lease. -/
def probed : Administrations := later configured [true, true, true, true] 1800000

/-- The retry is about to finish. -/
def finishing : Administrations := later probed [true] 1800000

/-- The retry has finished. -/
def finished : Administrations := later finishing [true] 1800000

theorem later_reachable {world : Administrations}
    (reached : World.Reachable (Answers keyRing) Moves beginning world) (schedule : List Bool)
    (clock : ℤ) : World.Reachable (Answers keyRing) Moves beginning (later world schedule clock) :=
  .step (reached.trans (World.drive_reachable (environment_truthful keyRing "claim") world schedule))
    (.move _ _ (.time clock))

theorem finishing_reachable : World.Reachable (Answers keyRing) Moves beginning finishing :=
  later_reachable (later_reachable (later_reachable .refl _ _) _ _) _ _

theorem finished_reachable : World.Reachable (Answers keyRing) Moves beginning finished :=
  later_reachable finishing_reachable _ _

/-- The configuration with its credential, verified at this time. -/
def row : ProviderConfigRow where
  organizationId := "acme"
  id := "main"
  provider := .openrouter
  model := "model"
  inputUsdPerMillion := "1.000000000000"
  outputUsdPerMillion := "2.000000000000"
  credentialVersion := 1
  encryptionKeyId := "primary"
  encryptedSecret := ⟨"primary", "key", ⟨"acme", .openrouter, 1⟩, "secret"⟩
  status := .active
  verificationStatus := .verified
  updatedAt := 900000

/-- The finish of the retry. -/
def finish : FinishRetryInput :=
  ⟨"acme", "main", "second", "claim", 1, .verified, row.summary, none, some 900000⟩

end Sample

theorem verified_means_verified_retried :
    Sample.row ∈ Sample.finished.store.db.configurations ∧
      ∃ name, Proven (Sample.finished.process name).history Sample.row.credential :=
  have stored : Sample.row ∈ Sample.finished.store.db.configurations.rows := by decide +kernel
  ⟨stored, (verified_means_verified Sample.finished_reachable).1 Sample.row stored rfl⟩

/-- **A lease that has run out is not lost by itself.** A retry whose probe took longer than its lease
finishes, and its configuration becomes verified, when nobody else has claimed it. -/
theorem late_finish_accepted :
    ¬ ∀ world, World.Reachable (Answers Sample.keyRing) Moves Sample.beginning world →
      ∀ name input, nextFinish (world.process name) = some input →
        (∃ grant ∈ world.store.grants, grant.token = input.claimToken ∧
          grant.occurredAt + retryLease ≤ world.store.clock) →
        ∀ after, finishVerificationRetry input world.store.db = .ok after →
          after.configurations.rows = world.store.db.configurations.rows := by
  intro unchanged
  have accepted : ((finishVerificationRetry Sample.finish Sample.finishing.store.db).toOption.map
      fun after => after.configurations.rows) = some [Sample.row] := by decide +kernel
  cases finished : finishVerificationRetry Sample.finish Sample.finishing.store.db with
  | error message =>
    rw [finished] at accepted
    cases accepted
  | ok after =>
    rw [finished] at accepted
    have same := unchanged Sample.finishing Sample.finishing_reachable true Sample.finish
      (by decide +kernel) (by decide +kernel) after finished
    have pending : Sample.finishing.store.db.configurations.rows ≠ [Sample.row] := by decide +kernel
    exact pending (same.symm.trans (Option.some.inj accepted))

end FuseControlPlane.Providers
