/-
The reconciliation kernel, with its evidence (`reliability/reconciliationStateMachine.ts`).

`ReconciliationPlans.lean` takes what the schedule and the evidence of an operation come to as given; here
they are what the source makes of them.

* `ReconciliationStateInput`: an attempt, an operation on it and the evidence the operation has found.
* `schedule`, `evidenceResult`: what is wrong with the times of the operation, and what the evidence says.
* `planReconciliationMutation`: the plan.

What `JSON.parse` gives is a `Json`; its numbers have the texts that `String` makes of them. By their types the
bodies of a capture are texts.
-/

import FuseControlPlane.Reliability.ProviderCosts
import FuseControlPlane.Reliability.ReconciliationPlans

set_option linter.unusedSectionVars false

namespace FuseControlPlane.Reliability.Kernel

open Foundation Foundation.JavaScript FuseControlPlane.Domain

/-! ### Inputs -/

structure ProviderCapture where
  status : ℤ
  bodySha256 : String
  bodyBase64 : String
  retrievedAtMs : ℤ

structure ReconciliationMetadata extends ProviderCapture where
  data : Option Json

structure ReconciliationContent extends ProviderCapture where
  body : Json

structure ReconciliationEvidence where
  credentialId : String
  generationId : String
  retrievalStartedAtMs : ℤ
  metadata : ReconciliationMetadata
  content : ReconciliationContent

structure AcceptedEvidenceBinding where
  requestId : String
  providerName : String
  upstreamId : String
  router : Option String
  providerResponsesCanonical : String
  deriving DecidableEq

/-- The times of an operation that looks the outcome up. -/
structure LookupTimes where
  getsCompletedAtMs : ℤ
  evidenceValidatedAtMs : ℤ
  evidenceCommittedAtMs : ℤ

inductive OperationKind
  | scheduled (offsetSeconds : ℤ) (times : LookupTimes)
  | preAmbiguity (times : LookupTimes) (errorReceivedAtMs errorHttpStatus : ℤ)
    (errorEnvelopeGenerationId : String)
  | cutoff

structure ReconciliationOperation where
  scheduledAtMs : ℤ
  startedAtMs : ℤ
  transitionCommittedAtMs : ℤ
  kind : OperationKind

inductive ProtocolAttemptState
  | ordinaryInflight | reconciliationPending
  deriving DecidableEq

structure ReconciliationStateInput where
  runId : String
  requestId : String
  laneId : String
  currentState : ProtocolAttemptState
  generationId : String
  expectedReconcilerCredentialId : String
  openRouterRequestId : Option String
  model : String
  dispatchTokenAtMs : ℤ
  ambiguityEnteredAtMs : Option ℤ
  admissionStartedAtMs : ℤ
  originalMessages : List Json
  sealedRequestCommitmentMatches : Bool
  existingResponseCommitment : Option String
  recoveredResponseCommitment : Option String
  acceptedBinding : Option AcceptedEvidenceBinding
  operation : ReconciliationOperation
  evidence : Option ReconciliationEvidence
  heldMemberState : ProtocolAttemptState
  heldMembersBefore : List String
  nonusableAllowanceOwner : Option String

/-! ### Values -/

/-- `Date.parse(text)`. -/
class DateParse where
  parse : String → Option ℤ

def integerTime (value : ℤ) : Bool := isSafeInteger value && 0 ≤ value

/-- The value as JSON, the members of its objects sorted by their names. -/
def canonical (value : Json) : String :=
  (value.sortKeys fun first second => codeUnits first ≤ codeUnits second).stringify

/-- The object has a member of its own under the name. -/
def has (value : Json) (name : String) : Bool := (value.field name).isSome

/-- `Array.isArray(value)`. -/
def isArray : Json → Bool
  | .array _ => true
  | _ => false

/-- `value === null`. -/
def isNull : Json → Bool
  | .null => true
  | _ => false

/-- A truth value. -/
def bool? : Option Json → Option Bool
  | some (.bool value) => some value
  | _ => none

/-- A text. -/
def text? : Option Json → Option String
  | some (.string text) => some text
  | _ => none

/-- A text that is not empty. -/
def nonEmptyText? (value : Option Json) : Option String := (text? value).filter (· ≠ "")

/-- `null` or a text. -/
def nullableString : Option Json → Bool
  | some .null | some (.string _) => true
  | _ => false

/-- A count: an integer of at least zero. -/
def count? (value : Option Json) : Option ℤ :=
  (value.bind Json.integer?).filter fun count => isSafeInteger count && 0 ≤ count

/-- `null` or a count. -/
def nullableCount : Option Json → Bool
  | some .null => true
  | value => (count? value).isSome

/-- Two counts that are both there are not the same. -/
def countsDiffer (first second : Option Json) : Bool :=
  match count? first, count? second with
  | some one, some other => one ≠ other
  | _, _ => false

/-! ### The schedule -/

/-- The phases of a lookup, by their deadlines. -/
def checkPhases (operation : ReconciliationOperation) (times : LookupTimes) : Except String Unit := do
  require ([times.getsCompletedAtMs, times.evidenceValidatedAtMs, times.evidenceCommittedAtMs].all integerTime)
    "DATABASE_TIME_INVALID"
  require (operation.transitionCommittedAtMs - operation.startedAtMs ≤ 55000)
    "WHOLE_OPERATION_DEADLINE_MISSED"
  require (operation.startedAtMs ≤ times.getsCompletedAtMs &&
    times.getsCompletedAtMs - operation.startedAtMs ≤ 30000) "HTTP_PHASE_DEADLINE_MISSED"
  require (times.getsCompletedAtMs ≤ times.evidenceValidatedAtMs &&
    times.evidenceValidatedAtMs - times.getsCompletedAtMs ≤ 5000) "VALIDATION_PHASE_DEADLINE_MISSED"
  require (times.evidenceValidatedAtMs ≤ times.evidenceCommittedAtMs &&
    times.evidenceCommittedAtMs - times.evidenceValidatedAtMs ≤ 15000) "PERSISTENCE_PHASE_DEADLINE_MISSED"
  require (times.evidenceCommittedAtMs ≤ operation.transitionCommittedAtMs &&
    operation.transitionCommittedAtMs - times.evidenceCommittedAtMs ≤ 5000) "TRANSITION_PHASE_DEADLINE_MISSED"

/-- What is wrong with the times of an operation. Only an operation before the ambiguity has no time at which
the ambiguity was entered. -/
def schedule (input : ReconciliationStateInput) : Except String Unit := do
  let operation := input.operation
  let enteredAtMs := input.ambiguityEnteredAtMs.getD 0
  require ([operation.scheduledAtMs, operation.startedAtMs, operation.transitionCommittedAtMs].all integerTime)
    "DATABASE_TIME_INVALID"
  require (operation.scheduledAtMs ≤ operation.startedAtMs &&
    operation.startedAtMs < operation.scheduledAtMs + 1000) "OPERATION_START_WINDOW_MISSED"
  match operation.kind with
  | .cutoff => do
    require (operation.scheduledAtMs = enteredAtMs + 86400000) "CUTOFF_SCHEDULE_MISMATCH"
    require (operation.startedAtMs ≤ operation.transitionCommittedAtMs &&
      operation.transitionCommittedAtMs - operation.startedAtMs ≤ 30000 &&
      operation.transitionCommittedAtMs < enteredAtMs + 86431000) "CUTOFF_CLASSIFICATION_DEADLINE_MISSED"
  | .scheduled offsetSeconds times => do
    checkPhases operation times
    require (reconciliationOffsetsSeconds.contains offsetSeconds) "LOOKUP_OFFSET_NOT_SEALED"
    require (operation.scheduledAtMs = enteredAtMs + offsetSeconds * 1000) "LOOKUP_SCHEDULE_MISMATCH"
  | .preAmbiguity times errorReceivedAtMs _ _ => do
    checkPhases operation times
    require (operation.scheduledAtMs = errorReceivedAtMs) "PRE_AMBIGUITY_SCHEDULE_MISMATCH"

/-! ### The evidence -/

structure EvidenceResult where
  accepted : Bool
  conflict : Bool
  reason : Option String
  binding : Option AcceptedEvidenceBinding
  kind : EvidenceKind
  cost : Option ℤ

/-- `REQUIRED_METADATA`. -/
def requiredMetadata : List String :=
  ["id", "request_id", "model", "provider_name", "created_at", "cancelled", "finish_reason",
    "native_finish_reason", "native_tokens_prompt", "native_tokens_completion", "tokens_prompt",
    "tokens_completion", "total_cost", "usage", "upstream_id", "router", "provider_responses"]

/-- `PINNED_MODEL`. -/
def pinnedModel : String := "nousresearch/hermes-4-405b"

/-- `/^[a-f0-9]{64}$/`. -/
def isDigest (text : String) : Bool :=
  matchesClass (fun character => character.isDigit || ('a' ≤ character && character ≤ 'f')) 64 64 text

/-- A value, or the reason why there is none. -/
def orPending {α : Type} (value : Option α) (reason : String) : Except String α :=
  match value with
  | some value => .ok value
  | none => .error reason

/-- The router: `null`, or a text that is not empty. -/
def router? : Option Json → Option (Option String)
  | some .null => some none
  | value => (nonEmptyText? value).map some

/-- The responses of the provider: `null`, or an array. -/
def providerResponses? : Option Json → Option Json
  | some .null => some .null
  | some (.array elements) => some (.array elements)
  | _ => none

/-- The binding of a metadata object. -/
def bindingOf (requestId : String) (metadata : Json) : Option AcceptedEvidenceBinding := do
  let providerName ← nonEmptyText? (metadata.field "provider_name")
  let upstreamId ← nonEmptyText? (metadata.field "upstream_id")
  let router ← router? (metadata.field "router")
  let responses ← providerResponses? (metadata.field "provider_responses")
  return ⟨requestId, providerName, upstreamId, router, canonical responses⟩

/-- The members of a binding, as its type lists them. -/
def AcceptedEvidenceBinding.members (binding : AcceptedEvidenceBinding) : List (String × Json) :=
  [("requestId", .string binding.requestId), ("providerName", .string binding.providerName),
    ("upstreamId", .string binding.upstreamId), ("router", (binding.router.map Json.string).getD .null),
    ("providerResponsesCanonical", .string binding.providerResponsesCanonical)]

def AcceptedEvidenceBinding.toJson (binding : AcceptedEvidenceBinding) : Json := .object binding.members

/-- The capture is whole, by the expected credential, of the expected generation, and in time. -/
def checkCapture (input : ReconciliationStateInput) (evidence : ReconciliationEvidence) :
    Except String Unit := do
  require (integerTime evidence.retrievalStartedAtMs && integerTime evidence.metadata.retrievedAtMs &&
    integerTime evidence.content.retrievedAtMs && evidence.credentialId ≠ "" &&
    isDigest evidence.metadata.bodySha256 && isDigest evidence.content.bodySha256) "EVIDENCE_CAPTURE_INVALID"
  require (evidence.credentialId = input.expectedReconcilerCredentialId) "RECONCILER_CREDENTIAL_CONFLICT"
  require (evidence.generationId = input.generationId) "GENERATION_ID_CONFLICT"
  require (input.ambiguityEnteredAtMs.all fun entered => evidence.retrievalStartedAtMs < entered + 86400000)
    "EVIDENCE_RETRIEVAL_AT_OR_AFTER_CUTOFF"

/-- The types of the members, and counts that are given twice. -/
def checkTypes (metadata : Json) : Except String Unit := do
  require ((bool? (metadata.field "cancelled")).isSome &&
    nullableString (metadata.field "finish_reason") && nullableString (metadata.field "native_finish_reason") &&
    nullableCount (metadata.field "native_tokens_prompt") &&
    nullableCount (metadata.field "native_tokens_completion") &&
    nullableCount (metadata.field "tokens_prompt") && nullableCount (metadata.field "tokens_completion"))
    "METADATA_TYPE_CONFLICT"
  require (!countsDiffer (metadata.field "native_tokens_prompt") (metadata.field "tokens_prompt"))
    "TOKEN_COUNT_CONFLICT"
  require (!countsDiffer (metadata.field "native_tokens_completion") (metadata.field "tokens_completion"))
    "TOKEN_COUNT_CONFLICT"

/-- The cost, given twice. -/
def costOf (metadata : Json) : Option ℤ := do
  let total ← decimalMicros (← metadata.field "total_cost")
  let usage ← decimalMicros (← metadata.field "usage")
  if total = usage then some total else none

/-- The evidence is accepted. -/
def acceptedEvidence (binding : AcceptedEvidenceBinding) (kind : EvidenceKind) (cost : ℤ) : EvidenceResult where
  accepted := true
  conflict := false
  reason := none
  binding := some binding
  kind
  cost := some cost

/-- The content is the provider's own `404`. -/
def isExact404 (content : ReconciliationContent) : Bool :=
  content.status = 404 && !has content.body "data" &&
    (nonEmptyText? ((content.body.field "error").bind (Json.field "message"))).isSome

/-- The completion in a content that repeats the messages; `none` for `null`. -/
def completionOf (input : ReconciliationStateInput) (content : ReconciliationContent) :
    Option (Option String) := do
  let data ← content.body.field "data"
  let sent ← data.field "input"
  let output ← data.field "output"
  let messages ← sent.field "messages"
  let completion ← output.field "completion"
  let reasoning ← output.field "reasoning"
  if content.status = 200 && isArray messages &&
      canonical messages = canonical (.array input.originalMessages) && isNull reasoning then
    match completion with
    | .string text => some (some text)
    | .null => some none
    | _ => none
  else none

/-- What the evidence of an outcome with a cost says. -/
def examineContent (input : ReconciliationStateInput) (binding : AcceptedEvidenceBinding) (cost : ℤ)
    (content : ReconciliationContent) : Except String EvidenceResult :=
  if isExact404 content then .ok (acceptedEvidence binding .positiveNoResponse cost)
  else do
    match ← orPending (completionOf input content) "CONTENT_CONFLICT" with
    | none => return acceptedEvidence binding .positiveNoResponse cost
    | some _ => do
      let recovered ← orPending (input.recoveredResponseCommitment.filter (· ≠ ""))
        "RECOVERED_RESPONSE_COMMITMENT_MISSING"
      require (input.existingResponseCommitment.all (· = recovered)) "RESPONSE_COMMITMENT_CONFLICT"
      return acceptedEvidence binding .positiveResponse cost

section Evidence

variable [DateParse]

/-- The outcome was created between the dispatch and the ambiguity. -/
def isCreatedInTime (input : ReconciliationStateInput) (metadata : Json) : Bool :=
  let upper := match input.ambiguityEnteredAtMs with
    | none => input.operation.transitionCommittedAtMs
    | some entered => entered + 300000
  ((text? (metadata.field "created_at")).bind DateParse.parse).any fun createdAt =>
    input.dispatchTokenAtMs - 300000 ≤ createdAt && createdAt ≤ upper

/-- What a whole capture says; an error is the reason why it is not accepted. -/
def examine (input : ReconciliationStateInput) (evidence : ReconciliationEvidence) :
    Except String EvidenceResult := do
  checkCapture input evidence
  let metadata ← orPending (evidence.metadata.data.filter fun data =>
    evidence.metadata.status = 200 && requiredMetadata.all (has data)) "METADATA_SCHEMA_CONFLICT"
  require (text? (metadata.field "id") = some input.generationId) "METADATA_GENERATION_CONFLICT"
  let requestId ← orPending ((nonEmptyText? (metadata.field "request_id")).filter fun requestId =>
    input.openRouterRequestId.all (requestId = ·)) "PROVIDER_REQUEST_ID_CONFLICT"
  require (text? (metadata.field "model") = some pinnedModel && input.model = pinnedModel) "MODEL_CONFLICT"
  let binding ← orPending (bindingOf requestId metadata) "PROVIDER_BINDING_CONFLICT"
  require (input.acceptedBinding.all fun earlier => canonical earlier.toJson = canonical binding.toJson)
    "IMMUTABLE_EVIDENCE_CONFLICT"
  checkTypes metadata
  let cost ← orPending (costOf metadata) "COST_CONFLICT"
  require (isCreatedInTime input metadata) "CREATED_AT_CONFLICT"
  if bool? (metadata.field "cancelled") = some true then do
    require (cost = 0) "CANCELLATION_COST_CONFLICT"
    return acceptedEvidence binding .canceled 0
  else do
    require (0 < cost && text? (metadata.field "finish_reason") = some "stop" &&
      (count? (metadata.field "native_tokens_prompt")).isSome &&
      (count? (metadata.field "native_tokens_completion")).isSome &&
      (count? (metadata.field "tokens_prompt")).isSome && (count? (metadata.field "tokens_completion")).isSome)
      "POSITIVE_METADATA_CONFLICT"
    require input.sealedRequestCommitmentMatches "REQUEST_COMMITMENT_CONFLICT"
    examineContent input binding cost evidence.content

/-- Evidence that is not accepted. -/
def notAccepted (conflict : Bool) (reason : String) (kind : EvidenceKind) : EvidenceResult where
  accepted := false
  conflict
  reason := some reason
  binding := none
  kind
  cost := none

def evidenceResult (input : ReconciliationStateInput) : EvidenceResult :=
  match input.evidence with
  | none => notAccepted false "NO_EVIDENCE" .pending
  | some evidence =>
    if [evidence.metadata.status, evidence.content.status].any fun status => status = 401 || status = 403 then
      notAccepted false "RECONCILIATION_CREDENTIAL_DRIFT" .credentialDrift
    else
      match examine input evidence with
      | .ok result => result
      | .error reason => notAccepted true reason .pending

end Evidence

/-! ### Plans -/

inductive PlannedAttemptState
  | unchangedPending | enterAmbiguity | terminal
  deriving DecidableEq

inductive ExecutionStatus
  | failed | completed | reconciliationHold
  deriving DecidableEq

structure PlannedExecution where
  status : ExecutionStatus
  actualCostMicros : Option String
  responseCommitment : Option String
  enqueueShadow : Bool
  retainReservationExposure : Bool
  deriving DecidableEq

/-- What becomes of the allowance for an outcome without a response. -/
inductive PlannedAllowance
  | none
  | claim (ownerRequestId : String)
  | alreadyClaimed (ownerRequestId : String)
  deriving DecidableEq

inductive HoldMemberAction
  | keep | remove | changeToReconciliationPending
  deriving DecidableEq

inductive LaneAction
  | remainHeld | none
  | scheduleResume (resumeAtEpochSecond : ℤ)
  deriving DecidableEq

inductive KernelEvent
  | attemptPersisted (evidenceReason : Option String)
  | scheduleFailed (reason : String)
  | ambiguityEntered (reason : String)
  | evidenceAttached (state : TerminalReconciliationState) (binding : Option AcceptedEvidenceBinding)
  | gateClassified (state : TerminalReconciliationState)
  | offsetCanceled (offsetSeconds : ℤ)
  | globalFailureRequested (reason : String)
  deriving DecidableEq

/-- `evidence` of a plan. -/
structure PlannedEvidence where
  accepted : Bool
  conflict : Bool
  reason : Option String
  binding : Option AcceptedEvidenceBinding

structure ReconciliationMutationPlan where
  runId : String
  requestId : String
  laneId : String
  schedule : Except String Unit
  evidence : PlannedEvidence
  persistAttempt : Bool
  terminal : Option TerminalReconciliationState
  attemptState : PlannedAttemptState
  execution : Option PlannedExecution
  gateClassifications : ℕ
  usable : ℕ
  allowance : PlannedAllowance
  holdMember : HoldMemberAction
  cancelOffsets : List ℤ
  lane : LaneAction
  globalFailure : Option String
  events : List KernelEvent

/-- The next multiple of five minutes, in seconds. -/
def nextBoundary (epochMs : ℤ) : ℤ := 300 * ((epochMs.fdiv 1000).fdiv 300 + 1)

/-- What a plan begins with. -/
def checkInput (input : ReconciliationStateInput) : Except String Unit := do
  require (input.runId ≠ "" && input.requestId ≠ "" && input.laneId ≠ "" && input.generationId ≠ "" &&
    input.expectedReconcilerCredentialId ≠ "") "RECONCILIATION_INPUT_INVALID"
  require ([input.dispatchTokenAtMs, input.admissionStartedAtMs].all integerTime) "RECONCILIATION_INPUT_INVALID"
  require (input.heldMembersBefore.contains input.requestId) "RECONCILIATION_HOLD_INVARIANT"
  require (input.heldMemberState = input.currentState) "RECONCILIATION_HOLD_INVARIANT"
  match input.operation.kind with
  | .preAmbiguity _ _ errorHttpStatus errorEnvelopeGenerationId => do
    require (input.currentState = .ordinaryInflight && input.ambiguityEnteredAtMs.isNone)
      "RECONCILIATION_STATE_INVARIANT"
    require ((errorHttpStatus < 200 || 300 ≤ errorHttpStatus) &&
      errorEnvelopeGenerationId = input.generationId) "PRE_AMBIGUITY_ERROR_ENVELOPE_INVALID"
  | _ =>
    require (input.currentState = .reconciliationPending && input.ambiguityEnteredAtMs.any integerTime)
      "RECONCILIATION_STATE_INVARIANT"

/-- A plan that leaves the attempt open. -/
def pendingPlan (input : ReconciliationStateInput) (timing : Except String Unit) (ev : EvidenceResult)
    (globalFailure : Option String) : ReconciliationMutationPlan where
  runId := input.runId
  requestId := input.requestId
  laneId := input.laneId
  schedule := timing
  evidence := ⟨ev.accepted, ev.conflict, ev.reason, ev.binding⟩
  persistAttempt := true
  terminal := none
  attemptState := .unchangedPending
  execution := none
  gateClassifications := 0
  usable := 0
  allowance := .none
  holdMember := .keep
  cancelOffsets := []
  lane := .remainHeld
  globalFailure
  events := [match timing with
    | .ok _ => .attemptPersisted ev.reason
    | .error reason => .scheduleFailed reason]

/-- The offset of an operation; `-1` of one that is not a lookup at a sealed offset. -/
def OperationKind.currentOffset : OperationKind → ℤ
  | .scheduled offsetSeconds _ => offsetSeconds
  | _ => -1

/-- The execution of an attempt that ends. -/
def plannedExecution (input : ReconciliationStateInput) (state : TerminalReconciliationState)
    (cost : Option ℤ) : PlannedExecution :=
  match state with
  | .reconciledBilledWithResponse =>
    ⟨.completed, cost.map toString, input.recoveredResponseCommitment, true, false⟩
  | .unresolvedProviderOutcome => ⟨.reconciliationHold, none, none, false, true⟩
  | _ => ⟨.failed, cost.map toString, none, false, false⟩

/-- The plan of a terminal state. -/
def terminalPlan (input : ReconciliationStateInput) (timing : Except String Unit) (ev : EvidenceResult)
    (state : TerminalReconciliationState) : Except String ReconciliationMutationPlan := do
  let cost := match state with
    | .terminalRejectedNotBilled | .reconciledNotBilled => some 0
    | .reconciledBilledWithResponse | .reconciledBilledNoResponse => ev.cost
    | .unresolvedProviderOutcome => none
  require (state = .unresolvedProviderOutcome || cost.isSome) "RECONCILIATION_COST_INVARIANT"
  let allowance := if !state.isNonusable then PlannedAllowance.none
    else match input.nonusableAllowanceOwner with
      | none => .claim input.requestId
      | some owner => .alreadyClaimed owner
  let failedForAllowance := state.isNonusable && input.nonusableAllowanceOwner.any (· ≠ input.requestId)
  let globalFailure := if state = .unresolvedProviderOutcome then some "UNRESOLVED_PROVIDER_OUTCOME"
    else if failedForAllowance then some "NONUSABLE_ALLOWANCE_EXCEEDED" else none
  let cancelOffsets := reconciliationOffsetsSeconds.filter (input.operation.kind.currentOffset < ·)
  let remaining := input.heldMembersBefore.filter (· ≠ input.requestId)
  return {
    runId := input.runId
    requestId := input.requestId
    laneId := input.laneId
    schedule := timing
    evidence := ⟨ev.accepted, ev.conflict, ev.reason, ev.binding⟩
    persistAttempt := true
    terminal := some state
    attemptState := .terminal
    execution := some (plannedExecution input state cost)
    gateClassifications := 1
    usable := if state = .reconciledBilledWithResponse then 1 else 0
    allowance
    holdMember := .remove
    cancelOffsets
    lane := if !remaining.isEmpty then .remainHeld
      else if globalFailure.isSome then .none
      else .scheduleResume (nextBoundary input.operation.transitionCommittedAtMs)
    globalFailure
    events := (if ev.accepted then [.evidenceAttached state ev.binding] else []) ++ [.gateClassified state] ++
      cancelOffsets.map .offsetCanceled ++ (globalFailure.map KernelEvent.globalFailureRequested).toList }

section Plans

variable [DateParse]

/-- The plan of an operation whose times are valid. -/
def planOperation (input : ReconciliationStateInput) (timing : Except String Unit) (ev : EvidenceResult) :
    Except String ReconciliationMutationPlan :=
  match input.operation.kind with
  | .preAmbiguity _ errorReceivedAtMs _ _ =>
    let entering := { pendingPlan input timing ev none with
      attemptState := .enterAmbiguity
      holdMember := .changeToReconciliationPending }
    if input.admissionStartedAtMs + 19000 < errorReceivedAtMs then
      .ok { entering with
        persistAttempt := false
        evidence := ⟨false, false, some "PRE_AMBIGUITY_LOOKUP_SKIPPED", none⟩
        events := [.ambiguityEntered "SYNCHRONOUS_ERROR_AFTER_19_SECONDS"] }
    else if ev.kind = .canceled then terminalPlan input timing ev .terminalRejectedNotBilled
    else .ok entering
  | .cutoff => terminalPlan input timing ev .unresolvedProviderOutcome
  | .scheduled offsetSeconds _ =>
    if ev.kind = .canceled then terminalPlan input timing ev .reconciledNotBilled
    else if ev.kind = .positiveResponse then terminalPlan input timing ev .reconciledBilledWithResponse
    else if ev.kind = .positiveNoResponse && offsetSeconds = 86300 then
      terminalPlan input timing ev .reconciledBilledNoResponse
    else .ok (pendingPlan input timing ev none)

def planReconciliationMutation (input : ReconciliationStateInput) :
    Except String ReconciliationMutationPlan := do
  checkInput input
  let timing := schedule input
  let ev := evidenceResult input
  match timing with
  | .error reason => return pendingPlan input (.error reason) ev (some "RECONCILIATION_SCHEDULE_FAILURE")
  | .ok _ =>
    if ev.kind = .credentialDrift then
      return pendingPlan input timing ev (some "RECONCILIATION_CREDENTIAL_DRIFT")
    else planOperation input timing ev

end Plans

end FuseControlPlane.Reliability.Kernel
