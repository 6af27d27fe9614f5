/-
Failure of a run (`failProtocolLocked` of `reliability/protocolStore.ts`).

* `failProtocolLocked`: an active run fails. Its burst tokens that are not released are canceled, its
  barriers that are not released are canceled, and every attempt that is not classified, and that no token
  may still dispatch, is classified as not dispatched.
-/

import FuseControlPlane.Reliability.LaneHolds

set_option linter.unusedSectionVars false

namespace FuseControlPlane.Reliability

open Foundation Foundation.JavaScript Domain Evidence

def burstLane : String := "bounded-burst"

namespace AttemptRow

/-- The attempt, classified as not dispatched. -/
def classifyNotDispatched (now : ℤ) (attempt : AttemptRow) : AttemptRow :=
  { attempt with
    state := .notDispatched
    actualCostMicros := some 0
    gateClassifiedAt := some now
    terminalAt := some now }

theorem requestId_classifyNotDispatched (now : ℤ) (attempt : AttemptRow) :
    (attempt.classifyNotDispatched now).requestId = attempt.requestId := rfl

/-- The request of an attempt that moves to another state. -/
theorem requestId_withState (state : AttemptState) (attempt : AttemptRow) :
    ({ attempt with state } : AttemptRow).requestId = attempt.requestId := rfl

end AttemptRow

namespace DispatchTokenRow

/-- `canceled_at=COALESCE(canceled_at,clock_timestamp())`. -/
def cancel (now : ℤ) (token : DispatchTokenRow) : DispatchTokenRow :=
  { token with canceledAt := token.canceledAt <|> some now }

theorem requestId_cancel (now : ℤ) (token : DispatchTokenRow) :
    (token.cancel now).requestId = token.requestId := rfl

/-- The request of a token that is canceled or entered. -/
theorem requestId_canceled (now : ℤ) (token : DispatchTokenRow) :
    ({ token with canceledAt := some now } : DispatchTokenRow).requestId = token.requestId := rfl

theorem requestId_entered (now : ℤ) (token : DispatchTokenRow) :
    ({ token with primitiveEnteredAt := some now } : DispatchTokenRow).requestId = token.requestId := rfl

end DispatchTokenRow

namespace ReliabilityRun

/-- The barrier of an attempt's block is released. -/
def isReleased (run : ReliabilityRun) (attempt : AttemptRow) : Bool :=
  (run.burstBarriers.find? (attempt.laneId, attempt.block)).any (·.state = .released)

/-- The barrier of the block of a token's attempt is released. -/
def isTokenReleased (run : ReliabilityRun) (token : DispatchTokenRow) : Bool :=
  (run.attempts.find? token.requestId).any run.isReleased

/-- A token that failure cancels. -/
def isCanceledByFailure (run : ReliabilityRun) (token : DispatchTokenRow) : Bool :=
  token.primitiveEnteredAt.isNone && token.canceledAt.isNone && token.laneId = burstLane &&
    !run.isTokenReleased token

/-- A token that has been entered, or that may still be. -/
def isLive (run : ReliabilityRun) (attempt : AttemptRow) (token : DispatchTokenRow) : Bool :=
  token.primitiveEnteredAt.isSome ||
    (token.canceledAt.isNone && (token.laneId ≠ burstLane || run.isReleased attempt))

/-- An attempt that failure classifies. -/
def isUndispatched (run : ReliabilityRun) (attempt : AttemptRow) : Bool :=
  attempt.gateClassifiedAt.isNone &&
    !(run.dispatchTokens.find? attempt.requestId).any (run.isLive attempt)

/-- The run has failed. -/
def setFailed (run : ReliabilityRun) (now : ℤ) : ReliabilityRun :=
  { run with
    control :=
      { run.control with
        state := .failed
        failureSequence := run.control.failureSequence + 1
        failedAt := some now } }

/-- Barriers that are not released are canceled. -/
def cancelBarriers (run : ReliabilityRun) (now : ℤ) : ReliabilityRun :=
  { run with
    burstBarriers := run.burstBarriers.update (·.state ≠ .released)
      ({ · with state := .canceled, canceledAt := some now }) fun _ => rfl }

/-- The events of the attempts that failure classifies; `canceled` are the requests whose tokens it has
canceled. -/
def failureEvents (canceled : List String) (classified : List AttemptRow) :
    List (Option String × EventType) :=
  classified.flatMap fun attempt =>
    (if canceled.contains attempt.requestId then
      [(some attempt.requestId, .barrierCanceledBeforeDispatch)] else []) ++
    [(some attempt.requestId, .gateClassified)]

/-- The requests whose tokens failure cancels. -/
def canceledByFailure (run : ReliabilityRun) : List String :=
  (run.dispatchTokens.rows.filter run.isCanceledByFailure).map DispatchTokenRow.requestId

/-- The tables after a failure, but for the incident and the report intent. -/
def failRows (run : ReliabilityRun) (now : ℤ) : ReliabilityRun :=
  let canceled := run.canceledByFailure
  let stopped := ((run.setFailed now).updateTokens run.isCanceledByFailure
    (fun token => { token with canceledAt := some now }) fun _ => rfl).cancelBarriers now
  let terminalized := stopped.attempts.rows.filter stopped.isUndispatched
  ((stopped.updateAttempts stopped.isUndispatched (AttemptRow.classifyNotDispatched now)
    fun _ => rfl).countClassified terminalized.length 0).appendEvents
      (failureEvents canceled terminalized)

variable [NodeCrypto] [Collation] [ProtocolProfiles]

def failProtocolLocked (reason : String) (now : ℤ) (run : ReliabilityRun) :
    Except String ReliabilityRun := do
  let control ← run.lockControlProfile
  if control.state ≠ .active then return run
  else
    let (incidentSequence, failed) := (run.failRows now).appendIncident
    failed.commitReportIntentLocked (failureIntent reason incidentSequence none) now

/-- `failProtocol`. -/
def failProtocol (reason : String) (now : ℤ) (run : ReliabilityRun) : Except String ReliabilityRun :=
  run.failProtocolLocked reason now

end ReliabilityRun

end FuseControlPlane.Reliability
