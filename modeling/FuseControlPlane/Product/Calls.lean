/-
Which calls the parts of the onboarding service make.

* `OnboardingCall.creates key`: the calls of `createWorkspace`, all about its own idempotency key.
* `OnboardingCall.replaces`: the calls of a replacement before its recovery code is rotated.
-/

import FuseControlPlane.Product.CustomerOnboarding

set_option linter.unusedSectionVars false

namespace FuseControlPlane.Product

open Foundation Foundation.JavaScript Domain Identity Providers Program

/-! ### Kinds of calls -/

namespace OnboardingMethod

/-- The methods `createWorkspace` calls with this key. -/
def creates (key : String) : OnboardingMethod → Bool
  | claim input => input.idempotencyKey = key
  | heartbeat idempotencyKey _ _ => idempotencyKey = key
  | complete idempotencyKey _ => idempotencyKey = key
  | rollback idempotencyKey _ _ => idempotencyKey = key
  | recordRollbackFailure idempotencyKey _ _ => idempotencyKey = key
  | bootstrapServiceAccount _ => true
  | registerAgent _ => true
  | issueCredential _ _ => true
  | _ => false

/-- The methods a replacement calls before its recovery code is rotated. -/
def replaces : OnboardingMethod → Bool
  | listCompletedWorkspaceIds => true
  | getWorkspaceCredentialMetadata _ => true
  | issueServiceAccountCredential _ _ => true
  | issueCredential _ _ => true
  | _ => false

end OnboardingMethod

namespace OnboardingCall

/-- The clock and what is drawn. -/
def draws {β : Type} : OnboardingCall β → Bool
  | now => true
  | id => true
  | randomBytes _ => true
  | _ => false

/-- The calls of `createWorkspace` with this key. -/
def creates {β : Type} (key : String) : OnboardingCall β → Bool
  | store method => method.creates key
  | service _ _ => true
  | other => other.draws

/-- The calls of a replacement before its recovery code is rotated. -/
def replaces {β : Type} : OnboardingCall β → Bool
  | store method => method.replaces
  | other => other.draws

theorem creates_of_draws {β : Type} {call : OnboardingCall β} {key : String}
    (draws : call.draws = true) : call.creates key = true := by
  cases call with
  | store | service => cases draws
  | _ => exact draws

theorem replaces_of_draws {β : Type} {call : OnboardingCall β} (draws : call.draws = true) :
    call.replaces = true := by
  cases call with
  | store | service => cases draws
  | _ => exact draws

end OnboardingCall

/-! ### Parts -/

section Parts

variable {P : {β : Type} → OnboardingCall β → Prop}

theorem awaitStore_calls {method : OnboardingMethod} (holds : P (.store method)) :
    AllCalls P (awaitStore method) :=
  .bind (.perform holds) fun _ => .fromExcept

theorem awaitService_calls {principal : AuthenticatedPrincipal} {request : ServiceRequest}
    (holds : P (.service principal request)) : AllCalls P (awaitService principal request) :=
  .bind (.perform holds) fun _ => .fromExcept

theorem orError_calls {α : Type} {result : Except String α} : AllCalls P (orError result) := .fromExcept

theorem drawRecoveryCode_calls : AllCalls (fun call => call.draws = true) drawRecoveryCode :=
  .bind (.perform rfl) fun _ => .done

theorem drawIdentifiers_calls : AllCalls (fun call => call.draws = true) drawIdentifiers :=
  .bind (.perform rfl) fun _ => .bind (.perform rfl) fun _ => .bind (.perform rfl) fun _ =>
    .bind (.perform rfl) fun _ => .bind (.perform rfl) fun _ => .bind (.perform rfl) fun _ =>
    .bind (.perform rfl) fun _ => .bind (.perform rfl) fun _ => .done

variable [NodeCrypto]

theorem sendHeartbeat_calls (now : P .now) {idempotencyKey workspaceId : String}
    (beats : ∀ time, P (.store (.heartbeat idempotencyKey workspaceId time))) :
    AllCalls P (sendHeartbeat idempotencyKey workspaceId) :=
  .bind (.perform now) fun time => awaitStore_calls (beats time)

theorem registerAgent_calls (now : P .now) (registers : ∀ input, P (.store (.registerAgent input)))
    (principal : AuthenticatedPrincipal) (agentId name requestId : String) :
    AllCalls P (registerAgent principal agentId name requestId) :=
  .bind orError_calls fun _ => .bind .throwUnless fun _ => .bind (.perform now) fun _ =>
    awaitStore_calls (registers _)

theorem issueAgentCredential_calls (now : P .now) (entropy : P (.randomBytes 32))
    (issues : ∀ record context, P (.store (.issueCredential record context)))
    (principal : AuthenticatedPrincipal) (input : IssueCredentialInput) :
    AllCalls P (issueAgentCredential principal input) :=
  .bind orError_calls fun _ => .bind .throwUnless fun _ => .bind .throwUnless fun _ =>
    .bind (.perform now) fun _ => .bind (.perform entropy) fun _ => .bind orError_calls fun _ =>
    .bind (awaitStore_calls (issues _ _)) fun _ => .done

theorem issueServiceAccountCredential_calls (now : P .now) (entropy : P (.randomBytes 32))
    (issues : ∀ record context, P (.store (.issueServiceAccountCredential record context)))
    (principal : AuthenticatedPrincipal) (input : IssueCredentialInput) :
    AllCalls P (issueServiceAccountCredential principal input) :=
  .bind orError_calls fun _ => .bind .throwUnless fun _ => .bind (.perform now) fun _ =>
    .bind (.perform entropy) fun _ => .bind orError_calls fun _ =>
    .bind (awaitStore_calls (issues _ _)) fun _ => .done

theorem provision_calls (now : P .now) (services : ∀ principal request, P (.service principal request))
    (input : CreateWorkspaceInput) (identifiers : Identifiers)
    (beats : ∀ time, P (.store (.heartbeat input.idempotencyKey identifiers.workspaceId time)))
    (principal : AuthenticatedPrincipal) (requests : List ServiceRequest) :
    AllCalls P (provision input identifiers principal requests) := by
  induction requests with
  | nil => exact .done
  | cons request requests ih =>
    exact .bind (awaitService_calls (services _ _)) fun _ =>
      .bind (sendHeartbeat_calls now beats) fun _ => ih

/-! ### The service -/

variable (input : CreateWorkspaceInput)

theorem buildWorkspace_calls (identifiers : Identifiers) (occurredAt : ℤ) (recoveryCode : String) :
    AllCalls (fun call => call.creates input.idempotencyKey = true)
      (buildWorkspace input identifiers occurredAt recoveryCode) := by
  have beats : AllCalls (fun call => call.creates input.idempotencyKey = true)
      (sendHeartbeat input.idempotencyKey identifiers.workspaceId) :=
    sendHeartbeat_calls rfl fun _ => decide_eq_true rfl
  have completes (result : CustomerWorkspaceResult) :
      AllCalls (fun call => call.creates input.idempotencyKey = true)
        (awaitStore (.complete input.idempotencyKey result)) :=
    awaitStore_calls (decide_eq_true rfl)
  refine .bind (.perform rfl) fun _ => .bind orError_calls fun _ =>
    .bind (awaitStore_calls rfl) fun _ => .bind beats fun _ => ?_
  refine .bind (registerAgent_calls rfl (fun _ => rfl) ..) fun _ => .bind beats fun _ => ?_
  refine .bind (issueAgentCredential_calls rfl rfl (fun _ _ => rfl) ..) fun _ => .bind beats fun _ => ?_
  refine .bind (provision_calls rfl (fun _ _ => rfl) _ _ (fun _ => decide_eq_true rfl) _ _) fun _ => ?_
  exact .bind (completes _) fun _ => .done

theorem abandonWorkspace_calls (identifiers : Identifiers) (error : Thrown) :
    AllCalls (fun call => call.creates input.idempotencyKey = true)
      (abandonWorkspace input identifiers error) := by
  have rolls (code : String) : AllCalls (fun call => call.creates input.idempotencyKey = true)
      (awaitStore (.rollback input.idempotencyKey identifiers.workspaceId code)) :=
    awaitStore_calls (decide_eq_true rfl)
  have records (code : String) : AllCalls (fun call => call.creates input.idempotencyKey = true)
      (perform (.store (.recordRollbackFailure input.idempotencyKey identifiers.workspaceId code)) :
        Onboarding _) := .perform (decide_eq_true rfl)
  exact .bind (.tryCatch (rolls _) fun _ => .bind (records _) fun _ => .fail) fun _ => .fail

/-- The calls of `createWorkspace` are about its own key. -/
theorem createWorkspace_calls :
    AllCalls (fun call => call.creates input.idempotencyKey = true) (createWorkspace input) := by
  have draws {α : Type} {program : Onboarding α}
      (calls : AllCalls (fun call => call.draws = true) program) :
      AllCalls (fun call => call.creates input.idempotencyKey = true) program :=
    calls.mono fun _ => OnboardingCall.creates_of_draws
  have claims (identifiers : Identifiers) (occurredAt : ℤ) (recoveryCode : String) :
      AllCalls (fun call => call.creates input.idempotencyKey = true)
        (awaitStore (.claim (workspaceClaim input identifiers occurredAt recoveryCode))) :=
    awaitStore_calls (decide_eq_true rfl)
  refine .bind orError_calls fun _ => .bind (.perform rfl) fun _ =>
    .bind (draws drawRecoveryCode_calls) fun _ => .bind (draws drawIdentifiers_calls) fun _ =>
    .bind (claims _ _ _) fun outcome => ?_
  cases outcome with
  | conflict | inProgress => exact .fail
  | replay result => exact .orThrow
  | new => exact .tryCatch (buildWorkspace_calls ..) fun _ => abandonWorkspace_calls ..

end Parts

end FuseControlPlane.Product
