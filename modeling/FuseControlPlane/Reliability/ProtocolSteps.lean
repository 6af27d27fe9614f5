/-
Runs of a reliability protocol: the transactions of `reliability/protocolStore.ts`, one after the other.

* `ProtocolOp`: a transaction with its inputs, the time and the ids it draws.
* `protocolStep`: the run after it. A transaction that raises changes nothing.
* `initialRun`: what `initializeRun` inserts.
* `joinsLate`, `strands`, `entersWith`: what some transactions do to holds and attempts that the laws of a
  run do not survive.
-/

import FuseControlPlane.Foundation.Runs
import FuseControlPlane.Reliability.AuthorizationOperations

set_option linter.unusedSectionVars false

namespace FuseControlPlane.Reliability

open Foundation Foundation.JavaScript Domain Evidence

/-! ### Transactions -/

inductive ProtocolOp
  | initializeRun (laneIds : List String)
  | registerSealedCalls (calls : List SealedCallRow)
  | claimBlock (input : ClaimBlockInput) (now : ℤ)
  | beginAuthorizationOperation (now : ℤ)
  | commitAuthorization (input : CommitAuthorizationInput) (now : ℤ)
  | commitAuthorizationPredecisionFailure (input : PredecisionFailureInput) (now : ℤ)
  | publishReceipt (kind : ReceiptKind) (missed : Bool) (publicationDeadline : Option ℤ) (now : ℤ)
  | finishPublication (missed : Bool) (publicationDeadline : Option ℤ) (now : ℤ)
  | completeAuthorizationOperation (transitionDeadline now : ℤ)
  | recordAttempt (input : RecordAttemptInput) (now : ℤ)
  | authorizeReliabilityDispatch (input : AuthorizeDispatchInput) (drawn : String) (now : ℤ)
  | markReliabilityDispatchPrimitiveEntered (requestId tokenId : String) (now : ℤ)
  | completeReliabilityAttempt (input : CompleteAttemptInput) (now : ℤ)
  | holdReliabilityAttempt (input : HoldAttemptInput) (drawn : String) (now : ℤ)
  | classifyReliabilityNotDispatched (input : ClassifyInput) (now : ℤ)
  | recoverPreEntryDispatch (input : ClassifyInput) (now : ℤ)
  | applyAuthoritativeReconciliation (input : ApplyReconciliationInput) (drawn : String) (now : ℤ)
  | failProtocol (reason : String) (now : ℤ)
  | hardFinalizeReliabilityRun (deadlineMs : ℤ) (replayTargetRequestIds : List String) (now : ℤ)
  | createBurstBarrier (laneId : String) (block : ℤ) (requestIds : List String)
  | releaseBurstBarrier (laneId : String) (block now : ℤ)
  | enterLaneHold (input : LaneMemberInput) (drawn : String)
  | resolveHeldMember (input : LaneMemberInput) (allowance : Bool) (now : ℤ)
  | resumeDueLanes (now : ℤ)
  | enqueueHeldLaneWork (input : HeldWorkInput)
  | claimDueResumedWork (laneId : String) (mode : ResumeMode) (now : ℤ)
  | completeResumedWorkGroup (laneId : String) (block : ℤ)
  /-- A transaction on scheduler claims. -/
  | scheduler (op : SchedulerOp)
  /-- A transaction on reports, artifacts, stages or evidence: it writes other tables, and may complete
  the run. -/
  | elsewhere (other : ReliabilityRun)

namespace ReliabilityRun

/-- A lane, unless the run has it. -/
def insertLane (run : ReliabilityRun) (laneId : String) : ReliabilityRun :=
  if (run.lanes.find? laneId).isSome then run
  else { run with lanes := run.lanes.put ⟨laneId, .ready, none⟩ }

/-- What a transaction on other tables leaves of a run. -/
def afterElsewhere (run other : ReliabilityRun) : ReliabilityRun :=
  { run with
    control :=
      { run.control with
        state := if other.control.state = .complete then .complete else run.control.state }
    nextIncidentSequence := other.nextIncidentSequence
    nextReportIntentSequence := other.nextReportIntentSequence
    reportIntents := other.reportIntents
    artifactBindings := other.artifactBindings
    failureReport := other.failureReport }

/-- A run that has been initialized. -/
def initialRun (runId : String) (profile : ReliabilityProtocolProfile) (planFingerprint : String)
    (reconciliationCredentialId : Option String) (laneIds : List String) : ReliabilityRun :=
  laneIds.foldl insertLane
    { runId
      control := ⟨.active, planFingerprint, profile, 0, none, reconciliationCredentialId, 0, 0, 0, 0, none⟩
      lanes := .empty
      sealedCalls := .empty
      blockClaims := .empty
      attempts := .empty
      dispatchTokens := .empty
      schedulerClaims := .empty
      burstBarriers := .empty
      nextEventSequence := 1
      events := []
      nextIncidentSequence := 1
      nextReportIntentSequence := 1
      reportIntents := []
      artifactBindings := []
      failureReport := none
      holds := .empty
      holdMembers := .empty
      backlog := .empty
      authorizationOperation := none
      authorizationDecision := none
      authorizationOutbox := .empty }

/-- The rows that a result of a transaction comes with. -/
def rowsOf {α : Type} (result : Except String (α × ReliabilityRun)) : Except String ReliabilityRun :=
  result.map Prod.snd

section Steps

variable [NodeCrypto] [Collation] [ProtocolProfiles]

/-- A transaction. -/
def perform (run : ReliabilityRun) : ProtocolOp → Except String ReliabilityRun
  | .initializeRun laneIds => .ok (laneIds.foldl insertLane run)
  | .registerSealedCalls calls => run.registerSealedCalls calls
  | .claimBlock input now => rowsOf (run.claimBlock input now)
  | .beginAuthorizationOperation now => rowsOf (run.beginAuthorizationOperation now)
  | .commitAuthorization input now => run.commitAuthorization input now
  | .commitAuthorizationPredecisionFailure input now =>
    rowsOf (run.commitAuthorizationPredecisionFailure input now)
  | .publishReceipt kind missed publicationDeadline now =>
    rowsOf (run.publishReceipt kind missed publicationDeadline now)
  | .finishPublication missed publicationDeadline now =>
    rowsOf (run.finishPublication missed publicationDeadline now)
  | .completeAuthorizationOperation transitionDeadline now =>
    rowsOf (run.completeAuthorizationOperation transitionDeadline now)
  | .recordAttempt input now => run.recordAttempt input now
  | .authorizeReliabilityDispatch input drawn now =>
    rowsOf (run.authorizeReliabilityDispatch input drawn now)
  | .markReliabilityDispatchPrimitiveEntered requestId tokenId now =>
    run.markReliabilityDispatchPrimitiveEntered requestId tokenId now
  | .completeReliabilityAttempt input now => run.completeReliabilityAttempt input now
  | .holdReliabilityAttempt input drawn now => run.holdReliabilityAttempt input drawn now
  | .classifyReliabilityNotDispatched input now => run.classifyReliabilityNotDispatched input now
  | .recoverPreEntryDispatch input now => rowsOf (run.recoverPreEntryDispatch input now)
  | .applyAuthoritativeReconciliation input drawn now =>
    rowsOf (run.applyAuthoritativeReconciliation input drawn now)
  | .failProtocol reason now => run.failProtocol reason now
  | .hardFinalizeReliabilityRun deadlineMs replayTargetRequestIds now =>
    rowsOf (run.hardFinalizeReliabilityRun deadlineMs replayTargetRequestIds now)
  | .createBurstBarrier laneId block requestIds => run.createBurstBarrier laneId block requestIds
  | .releaseBurstBarrier laneId block now => run.releaseBurstBarrier laneId block now
  | .enterLaneHold input drawn => rowsOf (run.enterLaneHold input drawn)
  | .resolveHeldMember input allowance now => rowsOf (run.resolveHeldMember input allowance now)
  | .resumeDueLanes now => rowsOf (run.resumeDueLanes now)
  | .enqueueHeldLaneWork input => rowsOf (run.enqueueHeldLaneWork input)
  | .claimDueResumedWork laneId mode now => rowsOf (run.claimDueResumedWork laneId mode now)
  | .completeResumedWorkGroup laneId block => rowsOf (run.completeResumedWorkGroup laneId block)
  | .scheduler op =>
    .ok { run with schedulerClaims := (run.toProtocolRun.schedulerStep op).schedulerClaims }
  | .elsewhere other => .ok (run.afterElsewhere other)

/-- The run after a transaction, which changes nothing if it raises. -/
def protocolStep (run : ReliabilityRun) (op : ProtocolOp) : ReliabilityRun :=
  (run.perform op).toOption.getD run

/-- The transaction does not raise. -/
def commits (run : ReliabilityRun) (op : ProtocolOp) : Bool := (run.perform op).toOption.isSome

theorem protocolStep_cases (run : ReliabilityRun) (op : ProtocolOp) :
    run.protocolStep op = run ∨ run.perform op = .ok (run.protocolStep op) := by
  unfold protocolStep
  cases run.perform op with
  | error error => exact .inl rfl
  | ok after => exact .inr rfl

theorem commits_of_eq_ok {run after : ReliabilityRun} {op : ProtocolOp}
    (accepted : run.perform op = .ok after) : run.commits op = true := by
  unfold commits
  rw [accepted]
  rfl

theorem rowsOf_eq_ok {α : Type} {result : Except String (α × ReliabilityRun)} {after : ReliabilityRun}
    (accepted : rowsOf result = .ok after) : ∃ value, result = .ok (value, after) := by
  cases result with
  | error error => cases accepted
  | ok answer =>
    cases accepted
    exact ⟨answer.1, rfl⟩

end Steps

/-! ### Faults -/

/-- The open hold of an attempt's lane lists it. -/
def isHeld (run : ReliabilityRun) (attempt : AttemptRow) : Bool :=
  (run.openHold attempt.laneId).any fun hold => hold.heldUnresolved.contains attempt.requestId

/-- A held attempt, other than a spared one, that a failure of the run would classify. -/
def strandsMember (run : ReliabilityRun) (spared : Option String) : Bool :=
  run.attempts.rows.any fun attempt =>
    run.isHeld attempt && run.isUndispatched attempt && some attempt.requestId ≠ spared

/-- The plan of a reconciliation. -/
def plannedReconciliation (run : ReliabilityRun) (input : ApplyReconciliationInput) (now : ℤ) :
    Option ReconciliationMutationPlan := do
  let attempt ← run.attempts.find? input.requestId
  let findings ← input.findings.toOption
  (planReconciliationMutation
    (attempt.reconciliationInput input run.control.nonusableAllowanceOwner) findings now).toOption

/-- A reconciliation fails the run and strands an attempt, be it its own that it leaves open. -/
def reconciliationStrands (run : ReliabilityRun) (input : ApplyReconciliationInput) (now : ℤ) : Bool :=
  (run.plannedReconciliation input now).any fun plan => plan.globalFailure.isSome &&
    run.strandsMember (if plan.terminal.isSome then some input.requestId else none)

/-- The attempt of a request is not terminal. -/
def isGoing (run : ReliabilityRun) (requestId : String) : Bool :=
  (run.attempts.find? requestId).any fun attempt => attempt.terminalAt.isNone

/-- A request joins an open hold of its lane that another member has left. -/
def isLateMember (run : ReliabilityRun) (laneId requestId : String) : Bool :=
  (run.openHold laneId).any fun hold => !hold.heldUnresolved.contains requestId &&
    run.holdMembers.rows.any fun row => row.isOf hold && row.resolvedAt.isSome

section Faults

variable [NodeCrypto] [Collation] [ProtocolProfiles] (run : ReliabilityRun)

/-- A transaction lets a request join an open hold that another member has left. -/
def joinsLate (op : ProtocolOp) : Bool :=
  run.commits op &&
    match op with
    | .holdReliabilityAttempt input _ _ => run.isLateMember input.laneId input.requestId
    | .enterLaneHold input _ => run.isLateMember input.laneId input.requestId
    | _ => false

/-- A transaction classifies a held attempt and leaves it in its hold: it fails an active run while an
attempt that is not dispatched is held, besides the one it resolves itself, or it recovers or finalizes a
held attempt. -/
def strands (op : ProtocolOp) : Bool :=
  run.commits op &&
    match op with
    | .authorizeReliabilityDispatch input _ _ =>
      run.control.state = .active && run.dispatchTokens.find? input.requestId = none &&
        run.capDisposition input.requestId ≠ .allow && run.strandsMember none
    | .classifyReliabilityNotDispatched input _ =>
      run.control.state = .active && run.strandsMember (some input.requestId)
    | .recoverPreEntryDispatch input _ =>
      run.isGoing input.requestId &&
        ((run.attempts.find? input.requestId).any run.isHeld ||
          (run.control.state = .active && run.strandsMember (some input.requestId)))
    | .applyAuthoritativeReconciliation input _ now =>
      run.control.state = .active && run.isGoing input.requestId && run.reconciliationStrands input now
    | .failProtocol _ _ => run.control.state = .active && run.strandsMember none
    | .hardFinalizeReliabilityRun deadlineMs _ now =>
      deadlineMs ≤ now && run.attempts.rows.any fun attempt =>
        attempt.terminalAt.isNone && run.isHeld attempt
    | .resolveHeldMember input allowance _ =>
      run.control.state = .active && allowance && run.isAllowanceOfAnother input.requestId &&
        run.strandsMember (some input.requestId)
    | _ => false

/-- A transaction enters the token of an attempt. -/
def entersWith (attempt : AttemptRow) : ProtocolOp → Prop
  | .markReliabilityDispatchPrimitiveEntered requestId tokenId _ =>
    run.attempts.find? requestId = some attempt ∧
      ∃ token, run.dispatchTokens.find? requestId = some token ∧ token.tokenId = tokenId ∧
        run.isEnterable token = true
  | _ => False

/-- A transaction enters the token of an attempt that meets a condition. -/
def entersAny (chosen : AttemptRow → Bool) : ProtocolOp → Bool
  | .markReliabilityDispatchPrimitiveEntered requestId tokenId _ =>
    (run.attempts.find? requestId).any chosen &&
      (run.dispatchTokens.find? requestId).any fun token =>
        token.tokenId = tokenId && run.isEnterable token
  | _ => false

variable {run}

theorem entersAny_of_entersWith {chosen : AttemptRow → Bool} {attempt : AttemptRow} {op : ProtocolOp}
    (enters : run.entersWith attempt op) (meets : chosen attempt = true) :
    run.entersAny chosen op = true := by
  cases op with
  | markReliabilityDispatchPrimitiveEntered requestId tokenId now =>
    obtain ⟨stored, token, found, own, enterable⟩ := enters
    unfold entersAny
    dsimp only
    rw [stored, found, Option.any_some, Option.any_some, meets, enterable]
    simp [own]
  | _ => exact enters.elim

end Faults

end ReliabilityRun

end FuseControlPlane.Reliability
