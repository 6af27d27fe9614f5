/-
**Beta invites are single use.**

Any number of requests to the two beta routes share the onboarding store (`Foundation.World`).

* `InvitePhase.react`: the protocol of a request. It redeems its own invite once; it completes an
  operation, or issues replacement credentials, only after that.
* `insertRedemption_unique`: an invite is redeemed for one key and a key redeems one invite.
* `Careful`: the condition on a request that redeems an invite together with a recovery request.
* `invites_single_use`: under it every invite leads to one workspace or one package; `invite_used_twice`:
  a recovery request is answered with a new package every time it is sent.
-/

import FuseControlPlane.Http.BetaOnboarding
import FuseControlPlane.Product.Calls
import FuseControlPlane.Product.OnboardingWorld
import Mathlib.Data.Fintype.Basic

set_option linter.unusedSectionVars false

namespace FuseControlPlane.Http

open Foundation Foundation.JavaScript Domain Identity Product Program

/-! ### Redemptions -/

/-- A key redeems one invite. -/
def KeysUnique (redemptions : Table RedemptionRow) : Prop :=
  ∀ first ∈ redemptions, ∀ second ∈ redemptions, first.idempotencyKey = second.idempotencyKey →
    first = second

theorem insertRedemption_unique {redemptions : Table RedemptionRow} (unique : KeysUnique redemptions)
    (row : RedemptionRow) : KeysUnique (insertRedemption redemptions row) := by
  unfold insertRedemption
  split
  · exact unique
  · next fresh =>
    rw [Bool.or_eq_true, not_or] at fresh
    have unused : ∀ other ∈ redemptions, other.idempotencyKey ≠ row.idempotencyKey := by
      intro other stored same
      exact fresh.2 (List.any_eq_true.mpr ⟨other, stored, decide_eq_true same⟩)
    intro first here second there same
    rcases Table.mem_put.mp here with rfl | ⟨stored, _⟩ <;>
      rcases Table.mem_put.mp there with rfl | ⟨kept, _⟩
    · rfl
    · exact absurd same.symm (unused second kept)
    · exact absurd same (unused first stored)
    · exact unique first stored second kept same

/-- A redemption is never taken back. -/
theorem find?_insertRedemption {redemptions : Table RedemptionRow} {row old : RedemptionRow}
    {inviteHash : String} (found : redemptions.find? inviteHash = some old) :
    (insertRedemption redemptions row).find? inviteHash = some old := by
  unfold insertRedemption
  split
  · exact found
  · next fresh =>
    rw [Bool.or_eq_true, not_or] at fresh
    have other : inviteHash ≠ row.inviteHash := by
      rintro rfl
      exact fresh.1 (by rw [found]; rfl)
    exact (Table.find?_put_of_ne redemptions other).trans found

/-! ### Requests -/

/-- A request to one of the two routes. -/
inductive BetaRequest
  | workspaces (request : WorkspacesRequest)
  | recovery (request : WorkspaceRecoveryRequest)
  deriving DecidableEq

namespace BetaRequest

/-- The invite token and the idempotency key of a request. -/
def inviteToken : BetaRequest → Option String
  | workspaces request => headerText request.inviteToken
  | recovery request => headerText request.inviteToken

def idempotencyKey : BetaRequest → Option String
  | workspaces request => headerText request.idempotencyKey
  | recovery request => headerText request.idempotencyKey

def isRecovery : BetaRequest → Bool
  | workspaces _ => false
  | recovery _ => true

section Program

variable [NodeCrypto]

def program (guard : BetaOnboardingGuard) : BetaRequest → Onboarding BetaResponse
  | workspaces request => postWorkspaces guard request
  | recovery request => postWorkspaceRecovery guard request

/-- The hash the invite of a request is known by. -/
def inviteHash (request : BetaRequest) : Option String := request.inviteToken.map NodeCrypto.sha256

end Program

end BetaRequest

/-! ### The protocol of a request -/

/-- A call that was answered with `true`. -/
def granted : Except Thrown Bool → Bool
  | .ok value => value
  | .error _ => false

/-- An invite was redeemed, or found redeemed for the same key. -/
def isRedemption : Event OnboardingCall → Bool
  | ⟨.store (.consumeInvite _ _ _), reply⟩ => granted reply
  | _ => false

/-- The last step of issuing replacement credentials, when it succeeded. -/
def isIssue : Event OnboardingCall → Bool
  | ⟨.store (.rotateRecoveryCode _ _ _), reply⟩ => granted reply
  | _ => false

/-- How far a request has come. -/
inductive InvitePhase
  | waiting | refused | authorized | issued
  deriving DecidableEq

namespace InvitePhase

/-- The invite was redeemed. -/
def isAuthorized : InvitePhase → Bool
  | authorized => true
  | issued => true
  | _ => false

/-- A request redeems its invite once. After that one to `/workspaces` may complete the operation of its
key, and one to `/workspace-recovery` may issue one package. -/
def react (request : BetaRequest) (phase : InvitePhase) : Event OnboardingCall → Option InvitePhase
  | ⟨.store (.consumeInvite inviteToken idempotencyKey _), reply⟩ =>
    if phase = waiting ∧ request.inviteToken = some inviteToken ∧
        request.idempotencyKey = some idempotencyKey then
      some (if granted reply then authorized else refused)
    else none
  | ⟨.store (.complete idempotencyKey _), _⟩ =>
    if phase = authorized ∧ request.isRecovery = false ∧
        request.idempotencyKey = some idempotencyKey then some phase
    else none
  | ⟨.store (.rotateRecoveryCode _ _ _), reply⟩ =>
    if phase = authorized ∧ request.isRecovery = true then
      some (if granted reply then issued else authorized)
    else none
  | _ => some phase

end InvitePhase

/-- Neither redeems an invite, nor completes an operation, nor rotates a recovery code. -/
def isNeutral {β : Type} : OnboardingCall β → Bool
  | .store (.consumeInvite _ _ _) => false
  | .store (.complete _ _) => false
  | .store (.rotateRecoveryCode _ _ _) => false
  | _ => true

/-- The three kinds of steps. -/
inductive InvitePhase.Moved (request : BetaRequest) (phase later : InvitePhase)
    (event : Event OnboardingCall) : Prop
  | stays (same : later = phase) (redeems : isRedemption event = false) (issues : isIssue event = false)
  | redeems (waits : phase = waiting) (issues : isIssue event = false)
      (next : later = if isRedemption event then authorized else refused)
  | issues (holds : phase = authorized) (recovery : request.isRecovery = true)
      (redeems : isRedemption event = false) (next : later = if isIssue event then issued else authorized)

theorem InvitePhase.moved_of_react {request : BetaRequest} {phase later : InvitePhase}
    {event : Event OnboardingCall} (moved : react request phase event = some later) :
    Moved request phase later event := by
  obtain ⟨effect, reply⟩ := event
  cases effect with
  | store method =>
    cases method with
    | consumeInvite inviteToken idempotencyKey allowedInviteHashes =>
      obtain ⟨holds, next⟩ := Option.ite_none_right_eq_some.mp moved
      exact .redeems holds.1 rfl (Option.some.inj next).symm
    | complete idempotencyKey result =>
      obtain ⟨_, next⟩ := Option.ite_none_right_eq_some.mp moved
      exact .stays (Option.some.inj next).symm rfl rfl
    | rotateRecoveryCode workspaceId recoveryCodeHash now =>
      obtain ⟨holds, next⟩ := Option.ite_none_right_eq_some.mp moved
      exact .issues holds.1 holds.2 rfl (Option.some.inj next).symm
    | _ => exact .stays (Option.some.inj moved).symm rfl rfl
  | _ => exact .stays (Option.some.inj moved).symm rfl rfl

theorem InvitePhase.react_neutral {request : BetaRequest} {phase : InvitePhase}
    (event : Event OnboardingCall) (neutral : isNeutral event.effect = true) :
    react request phase event = some phase := by
  obtain ⟨effect, reply⟩ := event
  cases effect with
  | store method =>
    cases method with
    | consumeInvite | complete | rotateRecoveryCode => cases neutral
    | _ => rfl
  | _ => rfl

/-- The calls of `createWorkspace` leave an authorised request to `/workspaces` where it is. -/
theorem InvitePhase.react_creates {request : BetaRequest} {idempotencyKey : String}
    (workspaces : request.isRecovery = false) (own : request.idempotencyKey = some idempotencyKey)
    (event : Event OnboardingCall) (creates : event.effect.creates idempotencyKey = true) :
    react request authorized event = some authorized := by
  obtain ⟨effect, reply⟩ := event
  cases effect with
  | store method =>
    cases method with
    | consumeInvite | rotateRecoveryCode => cases creates
    | complete key result =>
      have same : key = idempotencyKey := of_decide_eq_true creates
      exact if_pos ⟨rfl, workspaces, by rw [own, same]⟩
    | _ => rfl
  | _ => rfl

section Requests

variable [NodeCrypto] {guard : BetaOnboardingGuard}

/-- The calls of a request, or of a part of it, keep to the protocol. -/
structure Runs {α : Type} (request : BetaRequest) (phase : InvitePhase) (program : Onboarding α) :
    Prop where
  settles : Settles (InvitePhase.react request) (fun _ _ => True) phase program

namespace Runs

variable {α β : Type} {request : BetaRequest} {phase later : InvitePhase}

theorem done {value : α} : Runs request phase (.done value) := ⟨Settles.done_iff.mpr trivial⟩

theorem fail {error : Thrown} : Runs request phase (.fail error : Onboarding α) :=
  ⟨Settles.fail_iff.mpr trivial⟩

/-- A call that moves every reply to some phase. -/
theorem call {effect : OnboardingCall β} {next : β → Onboarding α}
    (each : ∀ reply, ∃ later, InvitePhase.react request phase ⟨effect, reply⟩ = some later ∧
      Runs request later (next reply)) : Runs request phase (.call effect next) :=
  ⟨.call fun reply =>
    let ⟨later, moved, rest⟩ := each reply
    ⟨later, moved, rest.settles⟩⟩

/-- Calls that leave the request in its phase. -/
theorem idle {kind : {γ : Type} → OnboardingCall γ → Prop} {program : Onboarding α}
    (calls : AllCalls kind program)
    (stays : ∀ event : Event OnboardingCall, kind event.effect →
      InvitePhase.react request phase event = some phase) : Runs request phase program :=
  ⟨(Settles.idle calls stays).mono fun _ _ _ => trivial⟩

theorem neutral {program : Onboarding α}
    (calls : AllCalls (fun call => isNeutral call = true) program) : Runs request phase program :=
  idle calls InvitePhase.react_neutral

/-- A neutral part first. -/
theorem neutral_bind {first : Onboarding β} {second : β → Onboarding α}
    (calls : AllCalls (fun call => isNeutral call = true) first)
    (rest : ∀ value, Runs request phase (second value)) : Runs request phase (first >>= second) :=
  ⟨.idle_bind calls InvitePhase.react_neutral (fun value => (rest value).settles) fun _ => trivial⟩

/-- A neutral method of a store first. -/
theorem await {method : OnboardingMethod} {second : method.Reply → Onboarding α}
    (calls : isNeutral (.store method) = true) (rest : ∀ value, Runs request phase (second value)) :
    Runs request phase (awaitStore method >>= second) :=
  neutral_bind (awaitStore_calls calls) rest

theorem audit (event : OperationalAuditEvent) (response : BetaResponse) :
    Runs request phase (auditOrUnavailable event response) :=
  neutral (.bind (.perform rfl) fun _ => .done)

/-- Run a part, record it in the audit and respond; a handler goes on from any phase. -/
theorem respond {program : Onboarding α} (runs : Runs request phase program)
    (event : α → OperationalAuditEvent) (response : α → BetaResponse)
    (handler : Thrown → Onboarding BetaResponse)
    (caught : ∀ error later, Runs request later (handler error)) :
    Runs request phase (Program.tryCatch
      (program >>= fun result => auditOrUnavailable (event result) (response result)) handler) := by
  have body := runs.settles.bind (fun result later _ =>
    (show Runs request later (auditOrUnavailable (event result) (response result)) from
      audit _ _).settles) fun _ _ _ => trivial
  exact ⟨body.tryCatch (fun _ _ _ => trivial) fun error later _ => (caught error later).settles⟩

end Runs

theorem createWorkspace_runs {request : BetaRequest} (input : CreateWorkspaceInput)
    (workspaces : request.isRecovery = false)
    (own : request.idempotencyKey = some input.idempotencyKey) :
    Runs request .authorized (createWorkspace input) :=
  .idle (createWorkspace_calls input) (InvitePhase.react_creates workspaces own)

theorem respondCreated_runs {request : BetaRequest} (input : CreateWorkspaceInput)
    (workspaces : request.isRecovery = false)
    (own : request.idempotencyKey = some input.idempotencyKey) :
    Runs request .authorized (respondCreated input) :=
  .respond (createWorkspace_runs input workspaces own) _ _ _ fun _ _ => .audit _ _

theorem createAuthorized_runs {request : BetaRequest} (input : CreateWorkspaceInput)
    (workspaces : request.isRecovery = false)
    (own : request.idempotencyKey = some input.idempotencyKey) :
    Runs request .authorized (createAuthorized guard input) := by
  refine .await rfl fun reserved => ?_
  cases reserved with
  | false => exact .done
  | true =>
    refine .call fun recorded => ⟨.authorized, rfl, ?_⟩
    cases recorded with
    | false => exact .done
    | true => exact respondCreated_runs input workspaces own

/-- The input of a request has its key. -/
theorem input_idempotencyKey {request : WorkspacesRequest} {idempotencyKey : String}
    {input : CreateWorkspaceInput} (parsed : request.input idempotencyKey = some input) :
    input.idempotencyKey = idempotencyKey := by
  unfold WorkspacesRequest.input at parsed
  split at parsed
  · obtain ⟨body, _, rfl⟩ := Option.map_eq_some_iff.mp parsed
    rfl
  · cases parsed

theorem postWorkspaces_runs (request : WorkspacesRequest) :
    Runs (.workspaces request) .waiting (postWorkspaces guard request) := by
  unfold postWorkspaces
  split
  · exact .done
  · next idempotencyKey keyed =>
    split
    · exact .done
    · exact .audit _ _
    · next input inviteToken parsed token =>
      have own : input.idempotencyKey = idempotencyKey := input_idempotencyKey parsed
      refine .call fun reply => ⟨_, if_pos ⟨rfl, token, keyed⟩, ?_⟩
      cases reply with
      | error error => exact .fail
      | ok authorized =>
        cases authorized with
        | false => exact .audit _ _
        | true => exact createAuthorized_runs input rfl (by rw [own]; exact keyed)

/-- The calls of a replacement before its code is rotated are neutral. -/
theorem isNeutral_of_replaces {β : Type} {call : OnboardingCall β} (replaces : call.replaces = true) :
    isNeutral call = true := by
  cases call with
  | store method => cases method <;> first | rfl | cases replaces
  | _ => rfl

theorem isNeutral_of_draws {α : Type} {program : Onboarding α}
    (calls : AllCalls (fun call => call.draws = true) program) :
    AllCalls (fun call => isNeutral call = true) program :=
  calls.mono fun _ draws => isNeutral_of_replaces (OnboardingCall.replaces_of_draws draws)

theorem issueReplacementCredentials_runs {request : BetaRequest} (recovery : request.isRecovery = true)
    (principal : AuthenticatedPrincipal) (workspaceId : String) :
    Runs request .authorized (issueReplacementCredentials principal workspaceId) := by
  unfold issueReplacementCredentials
  refine .neutral_bind .throwUnless fun _ => .neutral_bind .throwUnless fun _ => .await rfl fun _ =>
    .neutral_bind .orThrow fun _ => .neutral_bind (.perform rfl) fun _ => ?_
  refine .neutral_bind (.perform rfl) fun _ => .neutral_bind (.perform rfl) fun _ =>
    .neutral_bind (issueServiceAccountCredential_calls rfl rfl (fun _ _ => rfl) ..) fun _ => ?_
  refine .neutral_bind (.perform rfl) fun _ => .neutral_bind (.perform rfl) fun _ =>
    .neutral_bind (issueAgentCredential_calls rfl rfl (fun _ _ => rfl) ..) fun _ => ?_
  refine .neutral_bind (isNeutral_of_draws drawRecoveryCode_calls) fun _ => ?_
  refine .call fun reply => ⟨_, if_pos ⟨rfl, recovery⟩, ?_⟩
  cases reply with
  | error error => exact .fail
  | ok rotated =>
    cases rotated with
    | false => exact .fail
    | true => exact .done

theorem issueFromBetaRecovery_runs {request : BetaRequest} (recovery : request.isRecovery = true) :
    Runs request .authorized issueReplacementCredentialsFromBetaRecovery := by
  refine .await rfl fun workspaceIds => ?_
  rcases workspaceIds with _ | ⟨workspaceId, _ | _⟩
  · exact .fail
  · refine .await rfl fun found => ?_
    cases found with
    | none => exact .fail
    | some metadata => exact issueReplacementCredentials_runs recovery _ _
  · exact .fail

theorem postWorkspaceRecovery_runs (request : WorkspaceRecoveryRequest) :
    Runs (.recovery request) .waiting (postWorkspaceRecovery guard request) := by
  unfold postWorkspaceRecovery
  split
  · exact .done
  · exact .done
  · next idempotencyKey inviteToken keyed token =>
    have key : headerText request.idempotencyKey = some idempotencyKey :=
      (Option.filter_eq_some_iff.mp keyed).1
    refine .call fun reply => ⟨_, if_pos ⟨rfl, token, key⟩, ?_⟩
    cases reply with
    | error error => exact .fail
    | ok authorized =>
      cases authorized with
      | false => exact .done
      | true => exact .respond (issueFromBetaRecovery_runs rfl) _ _ _ fun _ _ => .done

theorem request_runs (request : BetaRequest) : Runs request .waiting (request.program guard) := by
  cases request with
  | workspaces request => exact postWorkspaces_runs request
  | recovery request => exact postWorkspaceRecovery_runs request

end Requests

/-! ### What a request has done -/

/-- The request has redeemed its invite. -/
def redeemed (history : List (Event OnboardingCall)) : Bool := history.any isRedemption

/-- The request has issued a package. -/
def issued (history : List (Event OnboardingCall)) : Bool := history.any isIssue

/-- What the phase of a request says about its history. -/
structure InvitePhase.Tells (request : BetaRequest) (history : List (Event OnboardingCall))
    (phase : InvitePhase) : Prop where
  redeemed : redeemed history = phase.isAuthorized
  issues : history.countP isIssue = if phase = issued then 1 else 0
  recovery : phase = issued → request.isRecovery = true

theorem InvitePhase.tells_of_history {request : BetaRequest} {history : List (Event OnboardingCall)} :
    ∀ {phase : InvitePhase}, phaseAfter (react request) waiting history = some phase →
      Tells request history phase := by
  induction history using List.reverseRecOn with
  | nil =>
    intro phase here
    cases here
    exact ⟨rfl, rfl, fun same => by cases same⟩
  | append_singleton earlier event ih =>
    intro phase here
    obtain ⟨before, so_far, moved⟩ := phaseAfter_concat_inv (react request) here
    obtain ⟨redeemed_before, issues_before, recovery_before⟩ := ih so_far
    have redeems_next : Http.redeemed (earlier ++ [event]) = (before.isAuthorized || isRedemption event) := by
      rw [Http.redeemed, List.any_append, ← redeemed_before]
      simp [Http.redeemed]
    have issues_next : (earlier ++ [event]).countP isIssue =
        (if before = issued then 1 else 0) + if isIssue event then 1 else 0 := by
      rw [List.countP_append, issues_before]
      simp [List.countP_cons]
    cases moved_of_react moved with
    | stays same redeems issues =>
      subst same
      exact ⟨by simp [redeems_next, redeems], by simp [issues_next, issues], recovery_before⟩
    | redeems waits issues next =>
      subst waits
      refine ⟨?_, ?_, fun last => ?_⟩
      · rw [redeems_next, next]
        cases isRedemption event <;> rfl
      · rw [issues_next, issues, next]
        cases isRedemption event <;> rfl
      · rw [next] at last
        split at last <;> cases last
    | issues holds recovery redeems next =>
      subst holds
      refine ⟨?_, ?_, fun _ => recovery⟩
      · rw [redeems_next, next]
        cases isIssue event <;> rfl
      · rw [issues_next, next]
        cases isIssue event <;> rfl

theorem InvitePhase.Tells.issued_eq {request : BetaRequest} {history : List (Event OnboardingCall)}
    {phase : InvitePhase} (tells : Tells request history phase) :
    Http.issued history = decide (phase = issued) := by
  have counted := tells.issues
  rw [Bool.eq_iff_iff, Http.issued, List.any_eq_true, decide_eq_true_eq, ← List.countP_pos_iff, counted]
  split
  · next last => exact ⟨fun _ => last, fun _ => Nat.one_pos⟩
  · next other => exact ⟨fun positive => absurd positive (lt_irrefl 0), fun last => absurd last other⟩

/-! ### What a call leaves -/

/-- The method of a call of the stores. -/
def storeMethod {β : Type} : OnboardingCall β → Option OnboardingMethod
  | .store method => some method
  | _ => none

section Calls

variable [NodeCrypto] {shared after : Onboardings} {β : Type} {effect : OnboardingCall β} {reply : β}

/-- A call that is not a committed method leaves the tables. -/
theorem answers_db (answered : Answers shared effect reply after) :
    after.db = shared.db ∨ ∃ method clock value, storeMethod effect = some method ∧
      method.run clock shared.db = .ok (value, after.db) := by
  cases effect with
  | store method =>
    rcases answers_store answered with ⟨rfl, _⟩ | ⟨clock, value, db, accepted, rfl, _⟩
    · exact .inl rfl
    · exact .inr ⟨method, clock, value, rfl, accepted⟩
  | now | randomBytes | service | audit =>
    have same : after = shared := answered
    exact .inl (by rw [same])
  | id =>
    obtain ⟨_, rfl⟩ := answered
    exact .inl rfl

theorem consumeInvite_redemptions (inviteToken idempotencyKey : String)
    (allowedInviteHashes : List String) (db : Db) :
    (consumeInvite inviteToken idempotencyKey allowedInviteHashes db).2.redemptions = db.redemptions ∨
      (consumeInvite inviteToken idempotencyKey allowedInviteHashes db).2.redemptions =
        insertRedemption db.redemptions ⟨NodeCrypto.sha256 inviteToken, idempotencyKey⟩ := by
  simp only [consumeInvite]
  split
  · exact .inr rfl
  · exact .inl rfl

/-- An invite is redeemed for the key of the call. -/
theorem consumeInvite_granted {inviteToken idempotencyKey : String} {allowedInviteHashes : List String}
    {db : Db} (granted : (consumeInvite inviteToken idempotencyKey allowedInviteHashes db).1 = true) :
    (consumeInvite inviteToken idempotencyKey allowedInviteHashes db).2.redemptions.find?
      (NodeCrypto.sha256 inviteToken) = some ⟨NodeCrypto.sha256 inviteToken, idempotencyKey⟩ := by
  simp only [consumeInvite] at granted ⊢
  split at granted
  · next allowed =>
    rw [if_pos allowed]
    obtain ⟨⟨inviteHash, key⟩, found, same⟩ := (Option.any_eq_true _ _).mp granted
    have keyed : inviteHash = NodeCrypto.sha256 inviteToken := Table.key_of_find? found
    have own : key = idempotencyKey := of_decide_eq_true same
    subst keyed own
    exact found
  · cases granted

/-- How a call changes the redemptions. -/
theorem answers_redemptions (answered : Answers shared effect reply after) :
    after.db.redemptions = shared.db.redemptions ∨
      ∃ row, after.db.redemptions = insertRedemption shared.db.redemptions row := by
  rcases answers_db answered with same | ⟨method, clock, value, _, ran⟩
  · exact .inl (by rw [same])
  · cases method with
    | consumeInvite inviteToken idempotencyKey allowedInviteHashes =>
      have left := consumeInvite_redemptions inviteToken idempotencyKey allowedInviteHashes shared.db
      simp only [OnboardingMethod.run, Except.ok.injEq] at ran
      rw [ran] at left
      exact left.imp_right fun inserted => ⟨_, inserted⟩
    | _ => exact .inl (redemptions_run ran (by simp))

/-- A completed operation stays completed. -/
theorem answers_completed (answered : Answers shared effect reply after) {key : String}
    {old : OperationRow} (found : shared.db.operations.find? key = some old)
    (completed : old.status = .completed) :
    ∃ row, after.db.operations.find? key = some row ∧ row.status = .completed ∧
      row.identifiers = old.identifiers := by
  rcases answers_db answered with same | ⟨method, clock, value, _, ran⟩
  · exact ⟨old, by rw [same]; exact found, completed, rfl⟩
  · exact completed_run ran found completed

/-- Only a call of `complete` completes an operation. -/
theorem completed_of_answers (answered : Answers shared effect reply after) {key : String}
    {row : OperationRow} (found : after.db.operations.find? key = some row)
    (completed : row.status = .completed) :
    (∃ old, shared.db.operations.find? key = some old ∧ old.status = .completed) ∨
      ∃ result, storeMethod effect = some (.complete key result) := by
  rcases answers_db answered with same | ⟨method, clock, value, called, ran⟩
  · exact .inl ⟨row, by rw [← same]; exact found, completed⟩
  · rcases completed_of_run ran found completed with ⟨old, there, done, _⟩ | ⟨result, rfl⟩
    · exact .inl ⟨old, there, done⟩
    · exact .inr ⟨result, called⟩

/-- A redemption is for the invite and the key of its request. -/
theorem answers_redeemed (answered : Answers shared effect reply after) {request : BetaRequest}
    {phase later : InvitePhase}
    (moved : InvitePhase.react request phase ⟨effect, reply⟩ = some later)
    (redeems : isRedemption ⟨effect, reply⟩ = true) :
    ∃ inviteHash idempotencyKey, request.inviteHash = some inviteHash ∧
      request.idempotencyKey = some idempotencyKey ∧
      after.db.redemptions.find? inviteHash = some ⟨inviteHash, idempotencyKey⟩ := by
  cases effect with
  | store method =>
    cases method with
    | consumeInvite inviteToken idempotencyKey allowedInviteHashes =>
      obtain ⟨⟨_, token, key⟩, _⟩ := Option.ite_none_right_eq_some.mp moved
      refine ⟨NodeCrypto.sha256 inviteToken, idempotencyKey, by simp [BetaRequest.inviteHash, token], key, ?_⟩
      rcases answers_store answered with ⟨_, error, rfl⟩ | ⟨clock, value, db, ran, rfl, only⟩
      · cases redeems
      · cases reply with
        | error error => cases redeems
        | ok value' =>
          have same := only value' rfl
          have accepted : value' = true := redeems
          simp only [OnboardingMethod.run, Except.ok.injEq] at ran
          have row := @consumeInvite_granted _ inviteToken idempotencyKey allowedInviteHashes shared.db
            (by rw [ran, ← same, accepted])
          rw [ran] at row
          exact row
    | _ => cases redeems
  | _ => cases redeems

end Calls

/-! ### Requests that share the stores -/

section Worlds

variable [NodeCrypto] {ι : Type} [DecidableEq ι] (guard : BetaOnboardingGuard) (requests : ι → BetaRequest)

/-- Any number of requests, on tables in which no invite has been redeemed. -/
abbrev Beta (ι : Type) := World OnboardingCall Onboardings Thrown BetaResponse ι

def betaRequests (shared : Onboardings) : Beta ι := .start shared fun name => (requests name).program guard

/-- The request makes no more calls. -/
def ended (world : Beta ι) (name : ι) : Bool :=
  match (world.process name).program with
  | .call _ _ => false
  | _ => true

/-- The operation of a key is completed. -/
def hasCompleted (db : Db) (key : String) : Bool :=
  (db.operations.find? key).any fun row => row.status = .completed

/-- The two requests send the same invite and the same key, one of them to `/workspace-recovery`. -/
def Rivals (first second : BetaRequest) : Prop :=
  first.inviteHash = second.inviteHash ∧ first.idempotencyKey = second.idempotencyKey ∧
    (first.isRecovery = true ∨ second.isRecovery = true)

instance (first second : BetaRequest) : Decidable (Rivals first second) :=
  inferInstanceAs (Decidable (_ ∧ _))

/-- The request has ended without a package. -/
def Barren (world : Beta ι) (name : ι) : Prop :=
  ended world name = true ∧ issued (world.process name).history = false

/-- When a request redeems its invite, its rivals that did before have ended without a package; and a
request to `/workspace-recovery` does so only while the operation of its key is not completed. -/
def Careful (world after : Beta ι) : Prop :=
  ∀ name, redeemed (world.process name).history = false →
    redeemed (after.process name).history = true →
    (∀ other, redeemed (world.process other).history = true → Rivals (requests name) (requests other) →
      Barren world other) ∧
    ((requests name).isRecovery = true →
      (requests name).idempotencyKey.any (hasCompleted world.store.db) = false)

instance [Fintype ι] (world after : Beta ι) : Decidable (Careful requests world after) := by
  unfold Careful Barren
  infer_instance

/-- What an invite has led to: a completed workspace, or the package of a request. -/
inductive InviteOutcome (ι : Type)
  | workspace (workspaceId : String)
  | package (name : ι)

/-- The invite with this hash has led to the outcome. -/
def LeadsTo (world : Beta ι) (inviteHash : String) : InviteOutcome ι → Prop
  | .workspace workspaceId => ∃ key row,
    world.store.db.redemptions.find? inviteHash = some ⟨inviteHash, key⟩ ∧
      world.store.db.operations.find? key = some row ∧ row.status = .completed ∧
      row.identifiers.workspaceId = workspaceId
  | .package name => (requests name).inviteHash = some inviteHash ∧
    issued (world.process name).history = true

/-- The phase of every request, the redemptions, and what rivals exclude. -/
structure SingleUse (world : Beta ι) : Prop where
  unique : KeysUnique world.store.db.redemptions
  redemption : ∀ name, redeemed (world.process name).history = true → ∃ inviteHash key,
    (requests name).inviteHash = some inviteHash ∧ (requests name).idempotencyKey = some key ∧
      world.store.db.redemptions.find? inviteHash = some ⟨inviteHash, key⟩
  rivals : ∀ first second, first ≠ second → redeemed (world.process first).history = true →
    redeemed (world.process second).history = true → Rivals (requests first) (requests second) →
    Barren world first ∨ Barren world second
  completed : ∀ name key, (requests name).isRecovery = true →
    redeemed (world.process name).history = true → (requests name).idempotencyKey = some key →
    hasCompleted world.store.db key = true → Barren world name

variable {guard requests} {world later : Beta ι} {caller : ι} {β : Type} {effect : OnboardingCall β}
  {next : β → Onboarding BetaResponse} {reply : β} {after : Onboardings} {phase following : InvitePhase}

theorem hasCompleted_eq_true {db : Db} {key : String} : hasCompleted db key = true ↔
    ∃ row, db.operations.find? key = some row ∧ row.status = .completed := by
  unfold hasCompleted
  rw [Option.any_eq_true]
  simp only [decide_eq_true_eq]

/-- The world after a call. -/
def afterCall (world : Beta ι) (caller : ι) (effect : OnboardingCall β)
    (next : β → Onboarding BetaResponse) (reply : β) (after : Onboardings) : Beta ι :=
  ⟨after, Function.update world.process caller
    ⟨next reply, (world.process caller).history ++ [⟨effect, reply⟩]⟩⟩

theorem process_afterCall_of_ne {name : ι} (other : name ≠ caller) :
    (afterCall world caller effect next reply after).process name = world.process name :=
  Function.update_of_ne other _ _

theorem history_afterCall : ((afterCall world caller effect next reply after).process caller).history =
    (world.process caller).history ++ [⟨effect, reply⟩] := by
  simp [afterCall]

theorem issued_afterCall {name : ι} (before : issued (world.process name).history = true) :
    issued ((afterCall world caller effect next reply after).process name).history = true := by
  by_cases same : name = caller
  · subst same
    rw [history_afterCall, issued, List.any_append]
    exact Bool.or_eq_true_iff.mpr (.inl before)
  · rw [process_afterCall_of_ne same]
    exact before

/-- A request that redeems in this step is the one that made the call. -/
theorem caller_of_redeemed {name : ι} (before : redeemed (world.process name).history = false)
    (now : redeemed ((afterCall world caller effect next reply after).process name).history = true) :
    name = caller ∧ isRedemption ⟨effect, reply⟩ = true := by
  by_cases same : name = caller
  · subst same
    rw [history_afterCall, redeemed, List.any_append, show List.any _ _ = false from before] at now
    exact ⟨rfl, by simpa using now⟩
  · rw [process_afterCall_of_ne same, before] at now
    cases now

theorem not_ended_of_call (here : (world.process caller).program = .call effect next) :
    ended world caller = false := by
  unfold ended
  rw [here]

/-- A request that has ended stays as it is. -/
theorem barren_afterCall {name : ι} (here : (world.process caller).program = .call effect next)
    (barren : Barren world name) : Barren (afterCall world caller effect next reply after) name := by
  have other : name ≠ caller := by
    rintro rfl
    rw [Barren, not_ended_of_call here] at barren
    exact absurd barren.1 Bool.false_ne_true
  unfold Barren ended
  rw [process_afterCall_of_ne other]
  exact barren

/-- A request that completes an operation has redeemed its invite, for its own key. -/
theorem completes_of_react {request : BetaRequest} {key : String} {result : CustomerWorkspaceResult}
    (moved : InvitePhase.react request phase ⟨effect, reply⟩ = some following)
    (called : storeMethod effect = some (.complete key result)) :
    phase = .authorized ∧ request.isRecovery = false ∧ request.idempotencyKey = some key := by
  cases effect with
  | store method =>
    cases called
    exact (Option.ite_none_right_eq_some.mp moved).1
  | _ => cases called

/-- One step. -/
theorem SingleUse.call (single : SingleUse requests world)
    (here : (world.process caller).program = .call effect next)
    (so_far : phaseAfter (InvitePhase.react (requests caller)) .waiting
      (world.process caller).history = some phase)
    (moved : InvitePhase.react (requests caller) phase ⟨effect, reply⟩ = some following)
    (answered : Answers world.store effect reply after)
    (careful : Careful requests world (afterCall world caller effect next reply after)) :
    SingleUse requests (afterCall world caller effect next reply after) := by
  refine ⟨?_, fun name now => ?_, fun first second distinct now too rivals => ?_,
    fun name key recovery now own finished => ?_⟩
  · rcases answers_redemptions answered with same | ⟨row, inserted⟩
    · show KeysUnique after.db.redemptions
      rw [same]
      exact single.unique
    · show KeysUnique after.db.redemptions
      rw [inserted]
      exact insertRedemption_unique single.unique row
  · by_cases before : redeemed (world.process name).history = true
    · obtain ⟨inviteHash, key, token, own, found⟩ := single.redemption name before
      refine ⟨inviteHash, key, token, own, ?_⟩
      show after.db.redemptions.find? inviteHash = _
      rcases answers_redemptions answered with same | ⟨row, inserted⟩
      · rw [same]
        exact found
      · rw [inserted]
        exact find?_insertRedemption found
    · obtain ⟨rfl, redeems⟩ := caller_of_redeemed (eq_false_of_ne_true before) now
      exact answers_redeemed answered moved redeems
  · by_cases before : redeemed (world.process first).history = true
    · by_cases before' : redeemed (world.process second).history = true
      · exact (single.rivals first second distinct before before' rivals).imp (barren_afterCall here)
          (barren_afterCall here)
      · have fresh := eq_false_of_ne_true before'
        have turned : Rivals (requests second) (requests first) :=
          ⟨rivals.1.symm, rivals.2.1.symm, rivals.2.2.symm⟩
        exact .inl (barren_afterCall here ((careful second fresh too).1 first before turned))
    · have fresh := eq_false_of_ne_true before
      obtain ⟨rfl, _⟩ := caller_of_redeemed fresh now
      have before' : redeemed (world.process second).history = true := by
        rw [process_afterCall_of_ne (Ne.symm distinct)] at too
        exact too
      exact .inr (barren_afterCall here ((careful first fresh now).1 second before' rivals))
  · obtain ⟨row, found, completed⟩ := hasCompleted_eq_true.mp finished
    rcases completed_of_answers answered found completed with ⟨old, there, done⟩ | ⟨result, called⟩
    · have finished_before : hasCompleted world.store.db key = true :=
        hasCompleted_eq_true.mpr ⟨old, there, done⟩
      by_cases before : redeemed (world.process name).history = true
      · exact barren_afterCall here (single.completed name key recovery before own finished_before)
      · have unfinished := (careful name (eq_false_of_ne_true before) now).2 recovery
        rw [own, Option.any_some, finished_before] at unfinished
        cases unfinished
    · -- Another request completes the operation: it is a rival that goes on.
      obtain ⟨rfl, workspaces, key_of_caller⟩ := completes_of_react moved called
      have caller_redeemed : redeemed (world.process caller).history = true :=
        (InvitePhase.tells_of_history so_far).redeemed
      have other : name ≠ caller := by
        rintro rfl
        rw [workspaces] at recovery
        cases recovery
      have before : redeemed (world.process name).history = true := by
        rw [process_afterCall_of_ne other] at now
        exact now
      obtain ⟨inviteHash, key', token, own', row_of_name⟩ := single.redemption name before
      obtain ⟨callerHash, key'', callerToken, callerKey, row_of_caller⟩ :=
        single.redemption caller caller_redeemed
      have same_keys : key' = key'' :=
        Option.some.inj (own'.symm.trans (own.trans (key_of_caller.symm.trans callerKey)))
      have same_rows := single.unique _ (Table.mem_of_find? row_of_name) _
        (Table.mem_of_find? row_of_caller) same_keys
      have same_hashes : inviteHash = callerHash := congrArg RedemptionRow.inviteHash same_rows
      have rivals : Rivals (requests name) (requests caller) :=
        ⟨by rw [token, callerToken, same_hashes], own.trans key_of_caller.symm, .inl recovery⟩
      rcases single.rivals name caller other before caller_redeemed rivals with barren | barren
      · exact barren_afterCall here barren
      · rw [Barren, not_ended_of_call here] at barren
        exact absurd barren.1 Bool.false_ne_true

/-- Other parts of the program write neither the operations nor the redemptions. -/
def Moves (shared after : Onboardings) : Prop :=
  after.db.operations = shared.db.operations ∧ after.db.redemptions = shared.db.redemptions

theorem SingleUse.move (single : SingleUse requests world) (moved : Moves world.store after) :
    SingleUse requests ⟨after, world.process⟩ := by
  refine ⟨?_, fun name now => ?_, single.rivals, fun name key recovery now own finished => ?_⟩
  · show KeysUnique after.db.redemptions
    rw [moved.2]
    exact single.unique
  · obtain ⟨inviteHash, key, token, own, found⟩ := single.redemption name now
    exact ⟨inviteHash, key, token, own, (congrArg (Table.find? · inviteHash) moved.2).trans found⟩
  · refine single.completed name key recovery now own ?_
    rw [hasCompleted, ← moved.1]
    exact finished

theorem phase_of_reachable {shared : Onboardings}
    (reached : World.Reachable Answers Moves (betaRequests guard requests shared) world) (name : ι) :
    ∃ phase, phaseAfter (InvitePhase.react (requests name)) .waiting (world.process name).history =
        some phase ∧
      Settles (InvitePhase.react (requests name)) (fun _ _ => True) phase
        (world.process name).program :=
  reached.settles (fun name => (request_runs (requests name)).settles) name

/-- Every run of careful steps. -/
theorem singleUse_of_reachable {shared : Onboardings} (unused : shared.db.redemptions = .empty)
    (reached : World.ReachableAlong Answers Moves (Careful requests)
      (betaRequests guard requests shared) world) : SingleUse requests world := by
  induction reached with
  | refl =>
    refine ⟨?_, fun name now => ?_, fun first second _ now => ?_, fun name key _ now => ?_⟩
    · show KeysUnique shared.db.redemptions
      rw [unused]
      exact fun row stored => absurd stored (Table.not_mem_empty row)
    · cases now
    · cases now
    · cases now
  | step earlier taken careful ih =>
    cases taken with
    | move after moved => exact ih.move moved
    | call caller effect next reply after here answered =>
      obtain ⟨phase, so_far, goes_on⟩ := phase_of_reachable earlier.reachable caller
      rw [here] at goes_on
      obtain ⟨following, moved, _⟩ := Settles.call_iff.mp goes_on reply
      exact ih.call here so_far moved answered careful

/-- What an invite has led to stays. -/
theorem leadsTo_step {inviteHash : String} {outcome : InviteOutcome ι}
    (taken : World.Step Answers Moves world later) (leads : LeadsTo requests world inviteHash outcome) :
    LeadsTo requests later inviteHash outcome := by
  cases taken with
  | move after moved =>
    cases outcome with
    | package name => exact leads
    | workspace workspaceId =>
      obtain ⟨key, row, redemption, found, completed, own⟩ := leads
      exact ⟨key, row, (congrArg (Table.find? · inviteHash) moved.2).trans redemption,
        (congrArg (Table.find? · key) moved.1).trans found, completed, own⟩
  | call caller effect next reply after here answered =>
    cases outcome with
    | package name =>
      obtain ⟨token, done⟩ := leads
      refine ⟨token, ?_⟩
      exact issued_afterCall done
    | workspace workspaceId =>
      obtain ⟨key, row, redemption, found, completed, own⟩ := leads
      obtain ⟨new, found', completed', kept⟩ := answers_completed answered found completed
      refine ⟨key, new, ?_, found', completed', by rw [kept]; exact own⟩
      rcases answers_redemptions answered with same | ⟨row, inserted⟩
      · exact (congrArg (Table.find? · inviteHash) same).trans redemption
      · exact (congrArg (Table.find? · inviteHash) inserted).trans (find?_insertRedemption redemption)

theorem leadsTo_reachable {inviteHash : String} {outcome : InviteOutcome ι}
    (goes_on : World.Reachable Answers Moves world later)
    (leads : LeadsTo requests world inviteHash outcome) :
    LeadsTo requests later inviteHash outcome := by
  induction goes_on with
  | refl => exact leads
  | step _ taken ih => exact leadsTo_step taken ih

/-- An invite leads to one outcome. -/
theorem SingleUse.outcome (single : SingleUse requests world)
    (phases : ∀ name, ∃ phase, InvitePhase.Tells (requests name) (world.process name).history phase)
    {inviteHash : String} {first second : InviteOutcome ι}
    (leads : LeadsTo requests world inviteHash first) (too : LeadsTo requests world inviteHash second) :
    first = second := by
  have package_facts {name : ι} (done : issued (world.process name).history = true) :
      redeemed (world.process name).history = true ∧ (requests name).isRecovery = true := by
    obtain ⟨phase, tells⟩ := phases name
    rw [tells.issued_eq, decide_eq_true_eq] at done
    subst done
    exact ⟨tells.redeemed, tells.recovery rfl⟩
  have not_barren {name : ι} (done : issued (world.process name).history = true) :
      ¬ Barren world name := by
    rintro ⟨_, none⟩
    rw [done] at none
    cases none
  have excludes {name : ι} {workspaceId : String}
      (package : LeadsTo requests world inviteHash (.package name))
      (workspace : LeadsTo requests world inviteHash (.workspace workspaceId)) : False := by
    obtain ⟨token, done⟩ := package
    obtain ⟨key, row, redemption, found, completed, _⟩ := workspace
    obtain ⟨before, recovery⟩ := package_facts done
    obtain ⟨ownHash, ownKey, ownToken, own, row_of_name⟩ := single.redemption name before
    cases token.symm.trans ownToken
    cases redemption.symm.trans row_of_name
    exact not_barren done (single.completed name key recovery before own
      (hasCompleted_eq_true.mpr ⟨row, found, completed⟩))
  cases first with
  | workspace workspaceId =>
    cases second with
    | workspace other =>
      obtain ⟨key, row, redemption, found, _, own⟩ := leads
      obtain ⟨key', row', redemption', found', _, own'⟩ := too
      cases redemption.symm.trans redemption'
      cases found.symm.trans found'
      rw [← own, ← own']
    | package name => exact (excludes too leads).elim
  | package name =>
    cases second with
    | workspace other => exact (excludes leads too).elim
    | package other =>
      obtain ⟨token, done⟩ := leads
      obtain ⟨token', done'⟩ := too
      by_cases same : name = other
      · rw [same]
      obtain ⟨before, recovery⟩ := package_facts done
      obtain ⟨before', _⟩ := package_facts done'
      obtain ⟨hash, key, ownToken, own, row⟩ := single.redemption name before
      obtain ⟨hash', key', ownToken', own', row'⟩ := single.redemption other before'
      cases token.symm.trans ownToken
      cases token'.symm.trans ownToken'
      cases row.symm.trans row'
      have rivals : Rivals (requests name) (requests other) :=
        ⟨token.trans token'.symm, own.trans own'.symm, .inl recovery⟩
      rcases single.rivals name other same before before' rivals with barren | barren
      · exact (not_barren done barren).elim
      · exact (not_barren done' barren).elim

/-- **Beta invites are single use.** Whatever the two sets of hashes and the requests, as long as a
request that redeems an invite has no rival that issued a package or may still go on, and a recovery
request redeems with a key whose operation is not completed: what an invite has led to at some time and
what it has led to later are one workspace or one package, no request issues two packages, and a key
redeems one invite. -/
theorem invites_single_use {shared : Onboardings} (unused : shared.db.redemptions = .empty)
    (reached : World.ReachableAlong Answers Moves (Careful requests)
      (betaRequests guard requests shared) later) :
    (∀ world, World.Reachable Answers Moves world later → ∀ inviteHash first second,
      LeadsTo requests world inviteHash first → LeadsTo requests later inviteHash second →
      first = second) ∧
    (∀ name, (later.process name).history.countP isIssue ≤ 1) ∧
    KeysUnique later.store.db.redemptions := by
  have single := singleUse_of_reachable unused reached
  have phases (name : ι) :
      ∃ phase, InvitePhase.Tells (requests name) (later.process name).history phase := by
    obtain ⟨phase, so_far, _⟩ := phase_of_reachable reached.reachable name
    exact ⟨phase, InvitePhase.tells_of_history so_far⟩
  refine ⟨fun world goes_on inviteHash first second leads too => ?_, fun name => ?_, single.unique⟩
  · exact single.outcome phases (leadsTo_reachable goes_on leads) too
  · obtain ⟨phase, tells⟩ := phases name
    rw [tells.issues]
    split
    · exact le_rfl
    · exact Nat.zero_le 1

end Worlds

/-! ### A recovery request that is sent again -/

namespace Sample

def guard : BetaOnboardingGuard :=
  letI := Product.Sample.crypto
  ⟨[NodeCrypto.sha256 "fuse_beta_invite"], [NodeCrypto.sha256 "fuse_recovery_invite"], 5, []⟩

/-- The credentials of a workspace are replaced, and the request is sent a second time. -/
def requests : Bool → BetaRequest := fun _ =>
  .recovery ⟨some "recovery-key", some "fuse_recovery_invite"⟩

def beginning : Beta Bool :=
  letI := Product.Sample.crypto
  betaRequests guard requests ⟨Product.Sample.completedDb, []⟩

/-- The requests are served in this order. -/
def served (schedule : List Bool) : Beta Bool :=
  letI := Product.Sample.crypto
  beginning.drive (environment 1767323045678) schedule

def once : List Bool := List.replicate 18 false

def twice : List Bool := once ++ List.replicate 18 true

theorem served_reachable (schedule : List Bool) : letI := Product.Sample.crypto
    World.Reachable Answers Moves beginning (served schedule) :=
  letI := Product.Sample.crypto
  World.drive_reachable (environment_truthful 1767323045678) beginning schedule

theorem once_careful : letI := Product.Sample.crypto
    World.Meets (environment 1767323045678) (Careful requests) beginning once := by
  decide +kernel

end Sample

theorem invites_single_use_once : letI := Product.Sample.crypto
    (Sample.beginning.store.db.redemptions = .empty ∧
      World.ReachableAlong Answers Moves (Careful Sample.requests) Sample.beginning
        (Sample.served Sample.once)) ∧
      KeysUnique (Sample.served Sample.once).store.db.redemptions :=
  letI := Product.Sample.crypto
  have along : World.ReachableAlong Answers Moves (Careful Sample.requests) Sample.beginning
      (Sample.served Sample.once) :=
    World.drive_reachableAlong (environment_truthful 1767323045678) .refl
      Sample.once_careful
  ⟨⟨rfl, along⟩, (invites_single_use rfl along).2.2⟩

/-- **An invite that leads to two packages.** -/
theorem invite_used_twice : letI := Product.Sample.crypto
    ¬ ∀ later, World.Reachable Answers Moves Sample.beginning later →
      ∀ inviteHash first second, LeadsTo Sample.requests later inviteHash first →
        LeadsTo Sample.requests later inviteHash second → first = second := by
  let _ := Product.Sample.crypto
  intro single
  have issued_twice : (issued ((Sample.served Sample.twice).process false).history &&
      issued ((Sample.served Sample.twice).process true).history) = true := by decide +kernel
  obtain ⟨before, again⟩ := (Bool.and_eq_true _ _).mp issued_twice
  have same := single _ (Sample.served_reachable Sample.twice) (NodeCrypto.sha256 "fuse_recovery_invite")
    (.package false) (.package true) ⟨rfl, before⟩ ⟨rfl, again⟩
  cases same

end FuseControlPlane.Http
