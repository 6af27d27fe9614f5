/-
The plan of a reconciliation (`planReconciliationMutation` of `reliability/reconciliationStateMachine.ts`)
and the transaction that applies it (`applyAuthoritativeReconciliation` of `reliability/protocolStore.ts`).

What the schedule of an operation and the evidence come to is given (`ReconciliationFindings`), as are the
error a lookup of theirs is rejected with and the response commitment of the ordinary settlement.

* `planReconciliationMutation`: what is to be done about an attempt.
* `applyAuthoritativeReconciliation`: it is done.
-/

import FuseControlPlane.Reliability.AttemptOperations

set_option linter.unusedSectionVars false

namespace FuseControlPlane.Reliability

open Foundation Foundation.JavaScript Domain Evidence

/-! ### Plans -/

/-- `RECONCILIATION_OFFSETS_SECONDS`. -/
def reconciliationOffsetsSeconds : List ℤ :=
  [0, 60, 300, 900, 1800, 3600, 7200, 14400, 28800, 43200, 64800, 86300]

inductive ReconciliationOperation
  | scheduled (offsetSeconds : ℤ)
  | cutoff
  | preAmbiguity (errorHttpStatus : ℤ) (errorEnvelopeGenerationId : String)
  deriving DecidableEq

inductive EvidenceKind
  | canceled | positiveResponse | positiveNoResponse | pending | credentialDrift
  deriving DecidableEq

/-- `evidenceResult(input)`, without its reason and binding. -/
structure EvidenceResult where
  accepted : Bool
  kind : EvidenceKind
  cost : Option ℕ
  deriving DecidableEq

/-- What the checks of `planReconciliationMutation` find. -/
structure ReconciliationFindings where
  scheduleValid : Bool
  evidence : EvidenceResult
  recoveredResponseCommitment : Option String
  deriving DecidableEq

/-- The five terminal states of a reconciliation, numbered 3 to 7 in the source. -/
inductive TerminalReconciliationState
  | terminalRejectedNotBilled | reconciledNotBilled | reconciledBilledWithResponse
  | reconciledBilledNoResponse | unresolvedProviderOutcome
  deriving DecidableEq

def TerminalReconciliationState.attemptState : TerminalReconciliationState → AttemptState
  | terminalRejectedNotBilled => .terminalRejectedNotBilled
  | reconciledNotBilled => .reconciledNotBilled
  | reconciledBilledWithResponse => .reconciledBilledWithResponse
  | reconciledBilledNoResponse => .reconciledBilledNoResponse
  | unresolvedProviderOutcome => .unresolvedProviderOutcome

/-- The state uses up the run's allowance for an outcome without a response. -/
def TerminalReconciliationState.isNonusable : TerminalReconciliationState → Bool
  | terminalRejectedNotBilled | reconciledNotBilled | reconciledBilledNoResponse => true
  | _ => false

inductive AllowanceAction
  | none | claim | alreadyClaimed
  deriving DecidableEq

/-- The end of an attempt. -/
structure TerminalPlan where
  state : TerminalReconciliationState
  actualCostMicros : Option ℕ
  responseCommitment : Option String
  allowance : AllowanceAction
  deriving DecidableEq

/-- What the store makes of a plan. -/
structure ReconciliationMutationPlan where
  persistAttempt : Bool
  entersAmbiguity : Bool
  terminal : Option TerminalPlan
  globalFailure : Option String
  events : List EventType
  deriving DecidableEq

structure ReconciliationStateInput where
  requestId : String
  isPending : Bool
  generationId : Option String
  ambiguityEnteredAtMs : Option ℤ
  admissionStartedAtMs : ℤ
  operation : ReconciliationOperation
  nonusableAllowanceOwner : Option String

/-- A plan that leaves the attempt open. -/
def pendingPlan (scheduleValid : Bool) (globalFailure : Option String) (entersAmbiguity : Bool) :
    ReconciliationMutationPlan where
  persistAttempt := true
  entersAmbiguity := entersAmbiguity
  terminal := none
  globalFailure := globalFailure
  events := [if scheduleValid then .reconciliationAttemptPersisted else .reconciliationScheduleFailed]

/-- The checks a plan begins with. -/
def checkReconciliation (input : ReconciliationStateInput) : Except String Unit := do
  require (input.generationId.any (· ≠ "")) "RECONCILIATION_INPUT_INVALID"
  match input.operation with
  | .preAmbiguity errorHttpStatus errorEnvelopeGenerationId => do
    require (!input.isPending && input.ambiguityEnteredAtMs.isNone) "RECONCILIATION_STATE_INVARIANT"
    require ((errorHttpStatus < 200 || 300 ≤ errorHttpStatus) &&
      some errorEnvelopeGenerationId = input.generationId) "PRE_AMBIGUITY_ERROR_ENVELOPE_INVALID"
  | _ => require (input.isPending && input.ambiguityEnteredAtMs.isSome) "RECONCILIATION_STATE_INVARIANT"

/-- The plan of a terminal state. -/
def terminalPlan (input : ReconciliationStateInput) (findings : ReconciliationFindings)
    (state : TerminalReconciliationState) : Except String ReconciliationMutationPlan := do
  let cost := match state with
    | .terminalRejectedNotBilled | .reconciledNotBilled => some 0
    | .reconciledBilledWithResponse | .reconciledBilledNoResponse => findings.evidence.cost
    | .unresolvedProviderOutcome => none
  require (state = .unresolvedProviderOutcome || cost.isSome) "RECONCILIATION_COST_INVARIANT"
  let failedForAllowance := state.isNonusable && input.nonusableAllowanceOwner.isSome &&
    input.nonusableAllowanceOwner ≠ some input.requestId
  let globalFailure :=
    if state = .unresolvedProviderOutcome then some "UNRESOLVED_PROVIDER_OUTCOME"
    else if failedForAllowance then some "NONUSABLE_ALLOWANCE_EXCEEDED" else none
  let currentOffset := match input.operation with
    | .scheduled offsetSeconds => offsetSeconds
    | _ => -1
  return {
    persistAttempt := true
    entersAmbiguity := false
    terminal := some
      { state
        actualCostMicros := cost
        responseCommitment :=
          if state = .reconciledBilledWithResponse then findings.recoveredResponseCommitment else none
        allowance :=
          if !state.isNonusable then .none
          else if input.nonusableAllowanceOwner = none then .claim else .alreadyClaimed }
    globalFailure
    events := (if findings.evidence.accepted then [.providerEvidenceAttached] else []) ++
      [.gateClassified] ++
      (reconciliationOffsetsSeconds.filter (currentOffset < ·)).map
        (fun _ => .reconciliationOffsetCanceled) ++
      if globalFailure.isSome then [.globalFailureRequested] else [] }

def planReconciliationMutation (input : ReconciliationStateInput) (findings : ReconciliationFindings)
    (now : ℤ) : Except String ReconciliationMutationPlan := do
  checkReconciliation input
  if !findings.scheduleValid then
    return pendingPlan false (some "RECONCILIATION_SCHEDULE_FAILURE") false
  else if findings.evidence.kind = .credentialDrift then
    return pendingPlan true (some "RECONCILIATION_CREDENTIAL_DRIFT") false
  else match input.operation with
    | .preAmbiguity _ _ =>
      if input.admissionStartedAtMs + 19000 < now then
        return { pendingPlan true none true with
          persistAttempt := false
          events := [.ambiguityEntered] }
      else if findings.evidence.kind = .canceled then
        terminalPlan input findings .terminalRejectedNotBilled
      else return pendingPlan true none true
    | .cutoff => terminalPlan input findings .unresolvedProviderOutcome
    | .scheduled offsetSeconds =>
      if findings.evidence.kind = .canceled then terminalPlan input findings .reconciledNotBilled
      else if findings.evidence.kind = .positiveResponse then
        terminalPlan input findings .reconciledBilledWithResponse
      else if findings.evidence.kind = .positiveNoResponse && offsetSeconds = 86300 then
        terminalPlan input findings .reconciledBilledNoResponse
      else return pendingPlan true none false

/-! ### Application -/

/-- `persisted`: the evidence has been stored, or is what is stored. `settled`: the response commitment
the ordinary settlement computes, or its error. -/
structure ApplyReconciliationInput where
  requestId : String
  laneId : String
  operation : ReconciliationOperation
  findings : Except String ReconciliationFindings
  persisted : Bool
  settled : Except String (Option String)

namespace AttemptRow

/-- The attempt as a plan ends it. -/
def terminalize (plan : TerminalPlan) (now : ℤ) (attempt : AttemptRow) : AttemptRow :=
  { attempt with
    state := plan.state.attemptState
    responseCommitment := plan.responseCommitment
    actualCostMicros := plan.actualCostMicros
    gateClassifiedAt := some now
    terminalAt := some now }

/-- The attempt as the kernel sees it. An attempt with a token has an admission. -/
def reconciliationInput (attempt : AttemptRow) (input : ApplyReconciliationInput)
    (nonusableAllowanceOwner : Option String) : ReconciliationStateInput where
  requestId := input.requestId
  isPending := attempt.state = .reconciliationPending
  generationId := attempt.providerGenerationId
  ambiguityEnteredAtMs := attempt.ambiguityEnteredAt
  admissionStartedAtMs := attempt.admissionStartedAt.getD 0
  operation := input.operation
  nonusableAllowanceOwner := nonusableAllowanceOwner

end AttemptRow

inductive AppliedReconciliation
  | already (state : AttemptState)
  | applied (plan : ReconciliationMutationPlan)
  deriving DecidableEq

namespace ReliabilityRun

/-- The row of a request in a hold is pending. -/
def markMemberPending (run : ReliabilityRun) (laneId holdId requestId : String) : ReliabilityRun :=
  { run with
    holdMembers := run.holdMembers.update
      (fun row => row.laneId = laneId && row.holdId = holdId && row.requestId = requestId)
      ({ · with memberState := .reconciliationPending }) fun _ => rfl }

/-- The allowance of a run goes to a request. -/
def setAllowanceOwner (run : ReliabilityRun) (requestId : String) : ReliabilityRun :=
  { run with control := { run.control with nonusableAllowanceOwner := some requestId } }

/-- The attempt's outcome becomes unknown, and it enters the hold of its lane. -/
def enterAmbiguity (input : ApplyReconciliationInput) (drawn : String) (now : ℤ)
    (run : ReliabilityRun) : Except String ReliabilityRun := do
  let pending := (run.updateAttempts (·.requestId = input.requestId)
    (fun attempt =>
      { attempt with
        state := .reconciliationPending
        ambiguityEnteredAt := attempt.ambiguityEnteredAt <|> some now })
    fun _ => rfl).countAmbiguity
  let (entered, held) ← pending.enterLaneHoldLocked input.laneId input.requestId drawn
  return held.markMemberPending input.laneId entered.holdId input.requestId

/-- A first outcome without a response claims the allowance. -/
def claimAllowance (plan : TerminalPlan) (requestId : String) (run : ReliabilityRun) :
    Except String ReliabilityRun :=
  if plan.allowance = .claim then do
    require run.control.nonusableAllowanceOwner.isNone "NONUSABLE_ALLOWANCE_RACE"
    return run.setAllowanceOwner requestId
  else return run

/-- The attempt is ended together with its execution, and leaves the hold it is in. -/
def terminalizeAttempt (input : ApplyReconciliationInput) (plan : TerminalPlan)
    (controlState : ControlState) (now : ℤ) (run : ReliabilityRun) : Except String ReliabilityRun := do
  let responseCommitment ← input.settled
  require (plan.responseCommitment = responseCommitment) "ORDINARY_PROTOCOL_RESPONSE_COMMITMENT_CONFLICT"
  let terminalized := (run.updateAttempts
    (fun attempt => attempt.requestId = input.requestId && attempt.terminalAt.isNone)
    (AttemptRow.terminalize plan now) fun _ => rfl).countClassified 1
      (if plan.state = .reconciledBilledWithResponse then 1 else 0)
  let claimed ← terminalized.claimAllowance plan input.requestId
  let (removed, left) ← claimed.removeTerminalHeldMemberLocked input.laneId input.requestId
    controlState now
  require (removed.isSome || (run.openHold input.laneId).isNone) "HELD_MEMBER_NOT_FOUND"
  return left

section Application

variable [NodeCrypto] [Collation] [ProtocolProfiles]

/-- The ambiguity that a plan enters. -/
def enterPlanned (input : ApplyReconciliationInput) (plan : ReconciliationMutationPlan) (drawn : String)
    (now : ℤ) (run : ReliabilityRun) : Except String ReliabilityRun :=
  if plan.entersAmbiguity then run.enterAmbiguity input drawn now else return run

/-- The end of the attempt that a plan brings. -/
def endPlanned (input : ApplyReconciliationInput) (plan : ReconciliationMutationPlan)
    (controlState : ControlState) (now : ℤ) (run : ReliabilityRun) : Except String ReliabilityRun :=
  match plan.terminal with
  | some terminal => run.terminalizeAttempt input terminal controlState now
  | none => return run

/-- The failure of the run that a plan triggers. -/
def failPlanned (plan : ReconciliationMutationPlan) (now : ℤ) (run : ReliabilityRun) :
    Except String ReliabilityRun :=
  match plan.globalFailure with
  | some reason => run.failProtocolLocked reason now
  | none => return run

/-- What a plan does to the rows. -/
def applyPlan (input : ApplyReconciliationInput) (plan : ReconciliationMutationPlan) (drawn : String)
    (now : ℤ) (run : ReliabilityRun) : Except String ReliabilityRun := do
  require (input.persisted || !plan.persistAttempt) "IMMUTABLE_RECONCILIATION_EVIDENCE_CONFLICT"
  let entered ← run.enterPlanned input plan drawn now
  let ended ← entered.endPlanned input plan run.control.state now
  (ended.appendEvents (plan.events.map fun eventType => (some input.requestId, eventType))).failPlanned
    plan now

def applyAuthoritativeReconciliation (input : ApplyReconciliationInput) (drawn : String) (now : ℤ)
    (run : ReliabilityRun) : Except String (AppliedReconciliation × ReliabilityRun) := do
  let control ← run.lockControlProfile
  require (control.state ≠ .complete) "PROTOCOL_CONTROL_FAILED"
  require (run.lanes.find? input.laneId).isSome "PROTOCOL_LANE_NOT_FOUND"
  match (run.attempts.find? input.requestId).filter fun attempt =>
      attempt.laneId = input.laneId && (run.sealedCalls.find? input.requestId).isSome &&
        (run.dispatchTokens.find? input.requestId).isSome with
  | none => .error "AUTHORITATIVE_RECONCILIATION_INPUT_MISSING"
  | some attempt =>
    if attempt.terminalAt.isSome then return (.already attempt.state, run)
    else do
      require (control.reconciliationCredentialId.any (· ≠ ""))
        "RECONCILIATION_CREDENTIAL_AUTHORITY_MISSING"
      require ((run.openHold input.laneId).all fun hold => hold.heldUnresolved.contains input.requestId)
        "RECONCILIATION_HOLD_INVARIANT"
      let findings ← input.findings
      let plan ← planReconciliationMutation
        (attempt.reconciliationInput input control.nonusableAllowanceOwner) findings now
      let applied ← run.applyPlan input plan drawn now
      return (.applied plan, applied)

end Application

end ReliabilityRun

end FuseControlPlane.Reliability
