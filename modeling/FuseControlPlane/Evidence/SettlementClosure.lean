/-
Whether the rows of a run are settled (`evidence/evidenceSettlementClosure.ts`).

* `EvidenceClosureRows`: the rows of a poll. Of the tables that no check reads there is none here.
* `outcomeMatrixValid`, `replayMatrixValid`: the rows of a request by the state of its attempt, and the replays.
* `sealedRegistryValid`, `lifecycleAndScheduleValid`: the sealed calls, and when they were made.
* `evaluateSettlementSnapshotCompleteness`: the reasons for which the rows are not complete.

A number that need not be finite is an `Option ℚ`.
-/

import FuseControlPlane.Evidence.AuthoritativeEvidence

namespace FuseControlPlane.Evidence

open Foundation Foundation.JavaScript

/-! ### Rows -/

structure SealedCallRow where
  requestId : String
  lane : String
  block : ℤ
  callOrdinal : ℤ

structure ClosureAttemptRow extends AuthoritativeAttemptRow where
  canceledAfterGateFailure : Bool

inductive LifecycleEventType
  | planned | admissionStarted | dispatchAuthorized | barrierReleased | barrierCanceledBeforeDispatch
  | dispatchPrimitiveEntered | ambiguityEntered | providerEvidenceAttached | gateClassified
  deriving DecidableEq

structure LifecycleEventRow where
  requestId : String
  eventType : LifecycleEventType
  databaseTimeMs : ℚ
  blockClaimedAtMs : Option ℚ
  priorTerminalAtMs : Option ℚ

structure LaneBacklogRow where
  requestId : String
  lane : String
  block : ℤ
  callOrdinal : ℤ
  state : String
  actualScheduledAtMs : Option ℚ

instance : RequestRow SealedCallRow := ⟨SealedCallRow.requestId⟩
instance : RequestRow ClosureAttemptRow := ⟨fun row => row.requestId⟩
instance : RequestRow LifecycleEventRow := ⟨LifecycleEventRow.requestId⟩
instance : RequestRow LaneBacklogRow := ⟨LaneBacklogRow.requestId⟩

structure EvidenceClosureRows where
  sealedCalls : List SealedCallRow
  attempts : List ClosureAttemptRow
  executions : List AuthoritativeExecutionRow
  decisions : List AuthoritativeDecisionRow
  dispatchTokens : List AuthoritativeDispatchTokenRow
  shadowQueue : List AuthoritativeShadowQueueRow
  shadowEvidence : List ShadowEvidenceRow
  replayAudits : List AuthoritativeReplayAuditRow
  lifecycleEvents : List LifecycleEventRow
  laneBacklog : List LaneBacklogRow

/-- When the calls of a block may be launched. -/
structure SealedWindow where
  opensAt : String
  launchDeadline : String

/-- `V2_SCHEDULE`. -/
def v2Schedule : List SealedWindow :=
  [⟨"2026-07-25T08:17:00.000Z", "2026-07-25T08:22:00.000Z"⟩,
    ⟨"2026-07-25T20:17:00.000Z", "2026-07-25T20:22:00.000Z"⟩,
    ⟨"2026-07-26T08:17:00.000Z", "2026-07-26T08:22:00.000Z"⟩,
    ⟨"2026-07-26T20:17:00.000Z", "2026-07-26T20:22:00.000Z"⟩,
    ⟨"2026-07-27T08:17:00.000Z", "2026-07-27T08:22:00.000Z"⟩]

def exactIds (actual expected : List String) : Bool :=
  unique actual && unique expected && actual.length = expected.length && actual.all expected.contains

/-! ### The matrix of outcomes -/

/-- The rows that `one` finds for a request. -/
structure OnlyRows where
  execution : Option AuthoritativeExecutionRow
  decision : Option AuthoritativeDecisionRow
  token : Option AuthoritativeDispatchTokenRow
  queue : Option AuthoritativeShadowQueueRow
  evidence : Option ShadowEvidenceRow

namespace OnlyRows

variable (only : OnlyRows) (attempt : ClosureAttemptRow)

def executed (status : ExecutionStatus) : Bool := only.execution.any fun execution => execution.status = status

def decided (outcome : DecisionOutcome) : Bool := only.decision.any fun decision => decision.outcome = outcome

def entered : Bool := only.token.any fun token => token.primitiveEntered

/-- The rows of a usable outcome. -/
def usableValid : Bool :=
  (only.execution.any fun execution =>
    execution.status = .completed && execution.actualCostMicros = attempt.actualCostMicros &&
      execution.shadowOrderState = some .queued &&
      execution.cohortOrdinal.any fun ordinal => isSafeInteger ordinal && 1 ≤ ordinal) &&
  only.decided .allow && only.entered &&
  (only.queue.any fun queue => queue.state = .completed && isSafeInteger queue.attempts && 1 ≤ queue.attempts &&
    queue.attempts ≤ 3) &&
  only.evidence.isSome && attempt.actualCostMicros.isSome

def notDispatchedValid : Bool :=
  let beforeAdmission := only.execution.isNone && only.decision.isNone && only.token.isNone
  let denied := only.executed .denied && only.decided .deny && only.token.isNone
  let beforeToken := only.executed .failed && only.decided .allow && only.token.isNone
  let beforePrimitive := only.executed .failed && only.decided .allow &&
    only.token.any fun token => token.preDispatchProof && !token.primitiveEntered
  (beforeAdmission || denied || beforeToken || beforePrimitive) && attempt.actualCostMicros = some "0"

def unresolvedValid : Bool := only.executed .reconciliationHold && only.decided .allow && only.entered

def failedValid : Bool :=
  only.executed .failed && only.decided .allow && only.entered &&
    if attempt.state = .terminalRejectedNotBilled || attempt.state = .reconciledNotBilled then
      attempt.actualCostMicros = some "0"
    else attempt.state ≠ .reconciledBilledNoResponse || attempt.actualCostMicros.isSome

/-- The rows of the request by the state of its attempt. -/
def outcomeValid : Bool :=
  if attempt.state.isUsable then only.usableValid attempt
  else only.queue.isNone && only.evidence.isNone &&
    match attempt.state with
    | .notDispatched => only.notDispatchedValid attempt
    | .unresolvedProviderOutcome => only.unresolvedValid
    | _ => only.failedValid attempt

/-- The body of the loop over the attempts. -/
def attemptValid : Bool := attempt.gateClassificationCount = 1 && only.outcomeValid attempt

end OnlyRows

namespace EvidenceClosureRows

variable (rows : EvidenceClosureRows)

def onlyRows (requestId : String) : OnlyRows where
  execution := sole (rowsFor rows.executions requestId)
  decision := sole (rowsFor rows.decisions requestId)
  token := sole (rowsFor rows.dispatchTokens requestId)
  queue := sole (rowsFor rows.shadowQueue requestId)
  evidence := sole (rowsFor rows.shadowEvidence requestId)

def outcomeMatrixValid : Bool := rows.attempts.all fun attempt => (rows.onlyRows attempt.requestId).attemptValid attempt

/-! ### The matrix of replays -/

def sealedIds : List String := rows.sealedCalls.map (·.requestId)

/-- `rows.attempts.find((attempt) => attempt.requestId === requestId)!.state`, and whether it is usable. -/
def hasUsable (requestId : String) : Except String Bool :=
  match rows.attempts.find? fun attempt => attempt.requestId = requestId with
  | none => .error "TypeError"
  | some attempt => .ok attempt.state.isUsable

/-- One audit and its place. -/
def auditValid (numbered : AuthoritativeReplayAuditRow × ℕ) : Except String Bool :=
  let (row, index) := numbered
  if row.replayNo = (index : ℤ) + 1 && isSha256Text row.originalResponseCommitment &&
      row.originalResponseCommitment = row.replayResponseCommitment && row.writeSet.length = 0 then
    rows.hasUsable row.requestId
  else .ok false

/-- `audits.every(...)`, which stops at the first audit that is not valid. -/
def everyAudit : List (AuthoritativeReplayAuditRow × ℕ) → Except String Bool
  | [] => .ok true
  | audit :: rest => do if ← rows.auditValid audit then everyAudit rest else return false

def replayMatrixValid (targets : List String) : Except String Bool :=
  if targets.length = 20 && unique targets && targets.all rows.sealedIds.contains &&
      exactIds (rows.replayAudits.map (·.requestId)) targets then
    rows.everyAudit (rows.replayAudits.insertionSort fun first second => first.replayNo ≤ second.replayNo).zipIdx
  else .ok false

/-! ### The sealed calls -/

def coordinate (block : ℤ) (lane : String) (callOrdinal : ℤ) : String :=
  toString block ++ ":" ++ lane ++ ":" ++ toString callOrdinal

def coordinates : List String := rows.sealedCalls.map fun call => coordinate call.block call.lane call.callOrdinal

/-- All rows are of sealed calls. -/
def allSealed {ρ : Type} [RequestRow ρ] (inventory : List ρ) : Bool :=
  inventory.all fun row => rows.sealedIds.contains (RequestRow.requestId row)

def sealedRegistryValid : Bool :=
  rows.sealedCalls.length = 100 && unique rows.sealedIds &&
    (rows.sealedCalls.all fun call => lanes.contains call.lane &&
      isSafeInteger call.block && 1 ≤ call.block && call.block ≤ 5 &&
      isSafeInteger call.callOrdinal && 1 ≤ call.callOrdinal && call.callOrdinal ≤ 5) &&
    rows.coordinates.dedup.length = 100 &&
    ((List.range 5).all fun block => lanes.all fun lane => (List.range 5).all fun ordinal =>
      rows.coordinates.contains (coordinate (block + 1) lane (ordinal + 1))) &&
    rows.allSealed rows.attempts && rows.allSealed rows.executions && rows.allSealed rows.decisions &&
    rows.allSealed rows.dispatchTokens && rows.allSealed rows.shadowQueue && rows.allSealed rows.shadowEvidence &&
    rows.allSealed rows.replayAudits && rows.allSealed rows.lifecycleEvents && rows.allSealed rows.laneBacklog &&
    exactIds (rows.attempts.map (·.requestId)) rows.sealedIds

/-! ### When the calls were made -/

/-- The events of a request of one type. -/
def eventsOf (requestId : String) (eventType : LifecycleEventType) : List LifecycleEventRow :=
  (rowsFor rows.lifecycleEvents requestId).filter (·.eventType = eventType)

/-- When a call was to be made: after a pause, at the opening of its block, or after the call before it. -/
def scheduledAt (call : SealedCallRow) (event : LifecycleEventRow) (claimedAt : ℚ) (resumed : List LaneBacklogRow) :
    Option ℚ :=
  match sole resumed with
  | some item => item.actualScheduledAtMs
  | none =>
    if call.callOrdinal = 1 || call.lane = "bounded-burst" then some (claimedAt + 1000)
    else event.priorTerminalAtMs.map (· + 5000)

/-- The events of a call that was dispatched, and those of its token. -/
def dispatchEventsValid (call : SealedCallRow) (attempt : ClosureAttemptRow) : Bool :=
  let token := sole (rowsFor rows.dispatchTokens call.requestId)
  let authorized := rows.eventsOf call.requestId .dispatchAuthorized
  let primitive := rows.eventsOf call.requestId .dispatchPrimitiveEntered
  let ambiguity := rows.eventsOf call.requestId .ambiguityEntered
  token.isSome = decide (authorized.length = 1) && primitive.length ≤ 1 &&
    (token.any (·.primitiveEntered)) = decide (primitive.length = 1) && ambiguity.length ≤ 1 &&
    (attempt.state ≠ .unresolvedProviderOutcome || ambiguity.length = 1)

/-- The block was claimed in its window. -/
def claimedWithin [Reliability.Kernel.DateParse] (window : SealedWindow) (claimedAt : ℚ) : Bool :=
  !((Reliability.Kernel.DateParse.parse window.opensAt).any fun opensAt => claimedAt < opensAt) &&
    !((Reliability.Kernel.DateParse.parse window.launchDeadline).any fun deadline => deadline ≤ claimedAt)

/-- A call that was admitted. `blockClaims` are the times at which the blocks were claimed; there is a new one if
the call is fine. -/
def admittedCall [Reliability.Kernel.DateParse] (schedule : List SealedWindow) (blockClaims : List (ℤ × ℚ))
    (call : SealedCallRow) (attempt : ClosureAttemptRow) (event : LifecycleEventRow) :
    Except String (Option (List (ℤ × ℚ))) :=
  match event.blockClaimedAtMs with
  | none => .ok none
  | some claimedAt =>
    match if 1 ≤ call.block then schedule[(call.block - 1).toNat]? else none with
    | none => .error "TypeError"
    | some window =>
      let resumed := (rowsFor rows.laneBacklog call.requestId).filter fun item =>
        item.lane = call.lane && item.block = call.block && item.callOrdinal = call.callOrdinal
      if claimedWithin window claimedAt &&
          (blockClaims.lookup call.block).all (· = claimedAt) &&
          resumed.length ≤ 1 &&
          (resumed.all fun item => item.state = "terminal" && item.actualScheduledAtMs.isSome) &&
          ((scheduledAt call event claimedAt resumed).any fun scheduled =>
            scheduled ≤ event.databaseTimeMs && event.databaseTimeMs < scheduled + 1000) &&
          rows.dispatchEventsValid call attempt then
        .ok (some ((call.block, claimedAt) :: blockClaims))
      else .ok none

/-- One sealed call. -/
def checkCall [Reliability.Kernel.DateParse] (schedule : List SealedWindow) (blockClaims : List (ℤ × ℚ))
    (call : SealedCallRow) : Except String (Option (List (ℤ × ℚ))) :=
  match sole (rowsFor rows.attempts call.requestId) with
  | none => .ok none
  | some attempt =>
    let admission := rows.eventsOf call.requestId .admissionStarted
    if (rows.eventsOf call.requestId .planned).length = 1 && (rows.eventsOf call.requestId .gateClassified).length = 1 &&
        attempt.admissionStarted = decide (admission.length = 1) then
      match admission with
      | [] =>
        .ok (if attempt.state = .notDispatched && attempt.canceledAfterGateFailure then some blockClaims else none)
      | [event] => rows.admittedCall schedule blockClaims call attempt event
      | _ => .ok none
    else .ok none

/-- The loop over the sealed calls. -/
def checkCalls [Reliability.Kernel.DateParse] (schedule : List SealedWindow) :
    List (ℤ × ℚ) → List SealedCallRow → Except String Bool
  | _, [] => .ok true
  | blockClaims, call :: rest => do
    match ← rows.checkCall schedule blockClaims call with
    | none => return false
    | some claims => checkCalls schedule claims rest

def lifecycleAndScheduleValid [Reliability.Kernel.DateParse] (schedule : List SealedWindow) : Except String Bool :=
  rows.checkCalls schedule [] rows.sealedCalls

end EvidenceClosureRows

/-! ### Completeness -/

structure SnapshotCompleteness where
  complete : Bool
  reasons : List String

def evaluateSettlementSnapshotCompleteness [Reliability.Kernel.DateParse] (rows : EvidenceClosureRows)
    (replayTargetRequestIds : List String) (schedule : Option (List SealedWindow)) :
    Except String SnapshotCompleteness := do
  let replayValid ← rows.replayMatrixValid replayTargetRequestIds
  let lifecycleValid ← rows.lifecycleAndScheduleValid (schedule.getD v2Schedule)
  let checks := [(rows.sealedRegistryValid, "SEALED_REGISTRY_INVALID"),
    (rows.outcomeMatrixValid, "SNAPSHOT_OUTCOME_MATRIX_INVALID"), (replayValid, "SNAPSHOT_REPLAY_MATRIX_INVALID"),
    (lifecycleValid, "SCHEDULE_LIFECYCLE_INVALID")]
  let reasons := (checks.filter fun check => !check.1).map (·.2)
  return { complete := reasons.length = 0, reasons }

end FuseControlPlane.Evidence
