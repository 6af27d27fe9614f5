/-
The transactions on lanes (`claimBlock`, `enterLaneHold`, `resolveHeldMember`, `resumeDueLanes` and
`enqueueHeldLaneWork` .. `completeResumedWorkGroup` of `reliability/protocolStore.ts`).

* `enterLaneHold`, `resolveHeldMember`: a request enters the hold of its lane, and leaves it.
* `enqueueHeldLaneWork`, `claimDueResumedWork`, `completeResumedWorkGroup`: calls that fall due while their
  lane is held wait in a backlog, and are resumed block by block.
-/

import FuseControlPlane.Reliability.ReconciliationPlans

set_option linter.unusedSectionVars false

namespace FuseControlPlane.Reliability

open Foundation Foundation.JavaScript Domain Evidence

/-! ### Inputs -/

structure LaneMemberInput where
  laneId : String
  requestId : String

structure ClaimBlockInput where
  block : ℤ
  ownerId : String
  opensAt : ℤ
  launchDeadline : ℤ
  planFingerprint : Option String

structure HeldWorkInput where
  laneId : String
  block : ℤ
  callOrdinal : ℤ
  requestId : String
  nominalScheduledAt : ℤ

inductive ResumeMode
  | boundedBurst | sequential
  deriving DecidableEq

/-- The work that is resumed at a time. -/
structure ResumedWork where
  block : ℤ
  scheduledAt : ℤ
  requestIds : List String
  deriving DecidableEq

namespace BacklogRow

/-- Calls are resumed in this order. -/
def isNotAfter (first second : BacklogRow) : Bool :=
  first.block < second.block || (first.block = second.block && first.callOrdinal ≤ second.callOrdinal)

/-- Work of a lane that waits. -/
def isQueuedOn (laneId : String) (row : BacklogRow) : Bool := row.laneId = laneId && row.state = .queued

/-- Work of a block that has been resumed. -/
def isClaimedOn (laneId : String) (block : ℤ) (row : BacklogRow) : Bool :=
  row.laneId = laneId && row.block = block && row.state = .claimed

/-- Whole seconds that a call is late, rounded. -/
def pauseSeconds (row : BacklogRow) (resumeAt : ℤ) : ℤ :=
  max 0 ((resumeAt - row.nominalScheduledAt + 500) / 1000)

def claim (resumeAt now : ℤ) (row : BacklogRow) : BacklogRow :=
  { row with
    state := .claimed
    claimedAt := some now
    actualScheduledAt := some resumeAt
    pauseDurationSeconds := some (row.pauseSeconds resumeAt) }

end BacklogRow

namespace ReliabilityRun

section Operations

variable [NodeCrypto] [Collation] [ProtocolProfiles]

/-! ### Blocks -/

/-- `verdict->>'name'='true'`. -/
def saysTrue (name : String) (verdict : Json) : Bool :=
  match verdict.field name with
  | some (.bool value) => value
  | some (.string text) => text = "true"
  | _ => false

/-- How many receipts of the outbox are published. -/
def publishedReceipts (run : ReliabilityRun) : ℕ :=
  (run.authorizationOutbox.rows.filter fun row => row.publishedAt.isSome).length

/-- The verdict on both authorizations is positive. -/
def isAuthorizationValid (run : ReliabilityRun) : Bool :=
  run.authorizationDecision.any fun decision =>
    saysTrue "operatorValid" decision.verdict && saysTrue "reconciliationValid" decision.verdict

/-- Both authorizations are valid and published, and, where it is recorded, the transition is made. -/
def isAuthorizationPublished (run : ReliabilityRun) (control : ControlRow) : Bool :=
  run.isAuthorizationValid && run.publishedReceipts = 2 &&
  (!usesCanonicalAuthorizationIds control.profile.protocolVersion ||
    run.authorizationOperation.any fun operation =>
      operation.transitionCompletedAt.isSome && operation.failureReason.isNone)

def claimBlock (input : ClaimBlockInput) (now : ℤ) (run : ReliabilityRun) :
    Except String (ℤ × ReliabilityRun) := do
  let control ← run.lockControlProfile
  require (control.state = .active) "PROTOCOL_CONTROL_FAILED"
  require (input.planFingerprint.all fun fingerprint => fingerprint = "" ||
    fingerprint = control.planFingerprint) "PROTOCOL_PLAN_CONFLICT"
  require (run.isAuthorizationPublished control) "AUTHORIZATION_RECEIPTS_NOT_PUBLISHED"
  require (run.sealedCalls.rows.any fun sealed => sealed.claimFingerprint = control.planFingerprint)
    "SEALED_CALL_REGISTRY_REQUIRED"
  match run.blockClaims.find? input.block with
  | some claim => do
    require (claim.ownerId = input.ownerId) "BLOCK_ALREADY_CLAIMED"
    require (claim.planFingerprint = control.planFingerprint && claim.opensAt = input.opensAt &&
      claim.launchDeadline = input.launchDeadline) "BLOCK_CLAIM_CONFLICT"
    return (claim.claimedAt, run)
  | none => do
    require (input.opensAt ≤ now && now < input.launchDeadline) "BLOCK_ADMISSION_WINDOW_MISSED"
    return (now, ({ run with
      blockClaims := run.blockClaims.put ⟨input.block, input.ownerId, input.opensAt,
        input.launchDeadline, now, control.planFingerprint⟩ }).appendEvent none .blockClaimed)

/-! ### Holds -/

def enterLaneHold (input : LaneMemberInput) (drawn : String) (run : ReliabilityRun) :
    Except String (EnteredHold × ReliabilityRun) := do
  let state ← run.lockControlLane input.laneId
  require (state = .active) "PROTOCOL_CONTROL_FAILED"
  run.enterLaneHoldLocked input.laneId input.requestId drawn

/-- The allowance belongs to another request. -/
def isAllowanceOfAnother (run : ReliabilityRun) (requestId : String) : Bool :=
  run.control.nonusableAllowanceOwner.any fun owner => owner ≠ "" && owner ≠ requestId

/-- The allowance is claimed, or the run fails because another request has it: the state of the run then,
and the rows. -/
def claimHeldAllowance (requestId : String) (allowance : Bool) (state : ControlState) (now : ℤ)
    (run : ReliabilityRun) : Except String (ControlState × ReliabilityRun) :=
  if !allowance then return (state, run)
  else if run.isAllowanceOfAnother requestId then do
    let failed ← run.failProtocolLocked "SECOND_ALLOWANCE_GLOBAL_FAILURE" now
    return (.failed, failed)
  else return (state, run.setAllowanceOwner requestId)

/-- What resolving a member comes to; the failure of the run is thrown once the transaction has
committed. -/
structure ResolvedMember where
  left : LeftHold
  globalFailed : Bool
  deriving DecidableEq

def resolveHeldMember (input : LaneMemberInput) (allowance : Bool) (now : ℤ) (run : ReliabilityRun) :
    Except String (ResolvedMember × ReliabilityRun) := do
  let state ← run.lockControlLane input.laneId
  require ((run.openHold input.laneId).any fun hold => hold.heldUnresolved.contains input.requestId)
    "HELD_MEMBER_NOT_FOUND"
  let (after, allowed) ← run.claimHeldAllowance input.requestId allowance state now
  let (removed, left) ← allowed.removeTerminalHeldMemberLocked input.laneId input.requestId after now
  match removed with
  | none => .error "HELD_MEMBER_NOT_FOUND"
  | some leaves => return (⟨leaves, allowance && run.isAllowanceOfAnother input.requestId⟩, left)

/-! ### Resumption -/

/-- The lane may go on: it is due, no hold is open on it and no work waits. -/
def isDueLane (run : ReliabilityRun) (now : ℤ) (lane : LaneRow) : Bool :=
  lane.state = .resumePending && lane.resumeAt.any (· ≤ now) && (run.openHold lane.laneId).isNone &&
    run.backlog.rows.all fun row => !(row.laneId = lane.laneId &&
      (row.state = .queued || row.state = .scheduled || row.state = .claimed))

def resumeDueLanes (now : ℤ) (run : ReliabilityRun) : Except String (List String × ReliabilityRun) := do
  let control ← run.lockControlProfile
  if control.state ≠ .active then return ([], run)
  else return (((run.lanes.rows.filter (run.isDueLane now)).map LaneRow.laneId).insertionSort (· ≤ ·),
    run.updateLanes (run.isDueLane now) .ready none)

/-- `ON CONFLICT(run_id,lane_id,block_no,call_ordinal) DO NOTHING`; a request waits in one place only. -/
def insertBacklog (input : HeldWorkInput) (run : ReliabilityRun) : Except String ReliabilityRun :=
  if (run.backlog.find? (input.laneId, input.block, input.callOrdinal)).isSome then return run
  else do
    require (run.backlog.rows.all fun row => row.requestId ≠ input.requestId) "unique_violation"
    return { run with
      backlog := run.backlog.put ⟨input.laneId, input.block, input.callOrdinal, input.requestId,
        input.nominalScheduledAt, none, none, .queued, none, none⟩ }

/-- Whether the call waits. -/
def enqueueHeldLaneWork (input : HeldWorkInput) (run : ReliabilityRun) :
    Except String (Bool × ReliabilityRun) := do
  require (1 ≤ input.block && 1 ≤ input.callOrdinal) "HELD_LANE_BACKLOG_INPUT_INVALID"
  let state ← run.lockControlLane input.laneId
  require (state = .active) "PROTOCOL_CONTROL_FAILED"
  if !((run.lanes.find? input.laneId).any fun lane =>
      lane.state = .held || lane.state = .resumePending || lane.state = .resuming) then
    return (false, run)
  else do
    require ((run.sealedCalls.find? input.requestId).any fun sealed => sealed.laneId = input.laneId &&
      sealed.block = input.block && sealed.callOrdinal = input.callOrdinal) "HELD_LANE_BACKLOG_NOT_SEALED"
    let queued ← run.insertBacklog input
    require ((queued.backlog.find? (input.laneId, input.block, input.callOrdinal)).any fun row =>
      row.requestId = input.requestId && row.nominalScheduledAt = input.nominalScheduledAt)
      "HELD_LANE_BACKLOG_CONFLICT"
    return (true, queued)

/-- The first call of a lane that waits. -/
def firstQueued (run : ReliabilityRun) (laneId : String) : Option BacklogRow :=
  ((run.backlog.rows.filter (BacklogRow.isQueuedOn laneId)).insertionSort
    fun first second => first.isNotAfter second).head?

/-- The work that is resumed together with the first call: its burst, or the call alone. -/
def isResumedWith (mode : ResumeMode) (first row : BacklogRow) : Bool :=
  row.isQueuedOn first.laneId && row.block = first.block &&
    (mode = .boundedBurst || row.callOrdinal = first.callOrdinal)

def claimDueResumedWork (laneId : String) (mode : ResumeMode) (now : ℤ) (run : ReliabilityRun) :
    Except String (Option ResumedWork × ReliabilityRun) := do
  let state ← run.lockControlLane laneId
  if state ≠ .active then return (none, run)
  else match ((run.lanes.find? laneId).filter (·.state = .resumePending)).bind LaneRow.resumeAt,
      run.firstQueued laneId with
    | some resumeAt, some first =>
      if now < resumeAt then return (none, run)
      else
        return (some ⟨first.block, resumeAt, (run.backlog.rows.filter (isResumedWith mode first)).map
            BacklogRow.requestId⟩,
          ({ run with
            backlog := run.backlog.update (isResumedWith mode first) (BacklogRow.claim resumeAt now)
              fun _ => rfl }).updateLanes (·.laneId = laneId) .resuming none)
    | _, _ => return (none, run)

/-- The resumed work of a block that has an attempt. -/
def isFinished (run : ReliabilityRun) (laneId : String) (block : ℤ) (row : BacklogRow) : Bool :=
  row.isClaimedOn laneId block && (run.attempts.find? row.requestId).isSome

/-- When the attempt of a call became terminal. -/
def terminalAtOf (run : ReliabilityRun) (row : BacklogRow) : Option ℤ :=
  (run.attempts.find? row.requestId).bind AttemptRow.terminalAt

/-- The resumed work of a block is finished. -/
def finishWork (run : ReliabilityRun) (laneId : String) (block : ℤ) : ReliabilityRun :=
  { run with
    backlog := run.backlog.update (run.isFinished laneId block)
      (fun row => { row with state := .terminal, terminalAt := run.terminalAtOf row }) fun _ => rfl }

/-- When the lane resumes its next work. -/
def completeResumedWorkGroup (laneId : String) (block : ℤ) (run : ReliabilityRun) :
    Except String (Option ℤ × ReliabilityRun) := do
  let state ← run.lockControlLane laneId
  require (state = .active) "PROTOCOL_CONTROL_FAILED"
  let finished := run.backlog.rows.filter (run.isFinished laneId block)
  require (finished.all fun row => (run.terminalAtOf row).isSome) "RESUMED_WORK_GROUP_NOT_TERMINAL"
  match (finished.filterMap run.terminalAtOf).max? with
  | none => .error "RESUMED_WORK_GROUP_NOT_CLAIMED"
  | some latest =>
    match (run.finishWork laneId block).firstQueued laneId with
    | none => return (none, (run.finishWork laneId block).updateLanes (·.laneId = laneId) .ready none)
    | some next =>
      let nextResumeAt := latest + if next.block = block then 5000 else 60000
      return (some nextResumeAt, (run.finishWork laneId block).updateLanes (·.laneId = laneId)
        .resumePending (some nextResumeAt))

end Operations

end ReliabilityRun

end FuseControlPlane.Reliability
