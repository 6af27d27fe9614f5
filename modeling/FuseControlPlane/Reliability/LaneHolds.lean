/-
Holds of a lane (`enterLaneHoldLocked`, `removeTerminalHeldMemberLocked` and `isHeldLaneHead` of
`reliability/protocolStore.ts`).

* `enterLaneHoldLocked`: a request opens a hold of its lane, together with the other requests of its burst
  that are not terminal, or joins the open one.
* `removeTerminalHeldMemberLocked`: a terminal request leaves the hold; the last one resolves it.
-/

import FuseControlPlane.Reliability.ReliabilityRun
import Mathlib.Data.List.Sort

set_option linter.unusedSectionVars false

namespace FuseControlPlane.Reliability

open Foundation Foundation.JavaScript Domain Evidence

/-- An open hold of the lane. -/
def HoldRow.isOpenOn (laneId : String) (hold : HoldRow) : Bool :=
  hold.laneId = laneId && hold.resolvedAt.isNone

/-- The member belongs to the hold. -/
def HoldMemberRow.isOf (hold : HoldRow) (row : HoldMemberRow) : Bool :=
  row.laneId = hold.laneId && row.holdId = hold.holdId

namespace ReliabilityRun

/-- The open hold of a lane; an index allows one. -/
def openHold (run : ReliabilityRun) (laneId : String) : Option HoldRow :=
  run.holds.rows.find? fun hold => hold.isOpenOn laneId

/-- The attempt of a request on a lane, while it is not terminal. -/
def isActiveOn (run : ReliabilityRun) (laneId requestId : String) : Bool :=
  (run.attempts.find? requestId).any fun attempt =>
    attempt.laneId = laneId && attempt.terminalAt.isNone

/-- The attempt of a request on a lane is terminal. -/
def isTerminalOn (run : ReliabilityRun) (laneId requestId : String) : Bool :=
  (run.attempts.find? requestId).any fun attempt =>
    attempt.laneId = laneId && attempt.terminalAt.isSome

/-! ### Entering a hold -/

/-- `ON CONFLICT DO NOTHING`: a member row is not inserted when its hold has one for the request or one
of that number. -/
def insertMember (run : ReliabilityRun) (row : HoldMemberRow) : ReliabilityRun :=
  if run.holdMembers.rows.any fun other =>
      other.laneId = row.laneId && other.holdId = row.holdId &&
        (other.requestId = row.requestId || other.memberSequence = row.memberSequence) then
    run
  else { run with holdMembers := run.holdMembers.put row }

/-- The member of a hold with its number. -/
def newMember (laneId holdId requestId : String) (memberSequence : ℕ) : HoldMemberRow :=
  ⟨laneId, holdId, requestId, memberSequence, .ordinaryInflight, none⟩

/-- The list of an open hold grows, and a member row is inserted with the list's new length. -/
def joinHold (run : ReliabilityRun) (hold : HoldRow) (requestId : String) : ReliabilityRun :=
  let members := hold.heldUnresolved ++ [requestId]
  { run with holds := run.holds.put { hold with heldUnresolved := members } }.insertMember
    (newMember hold.laneId hold.holdId requestId members.length)

/-- The requests that enter a new hold: those of the last released burst of the lane that has the
request, as far as they are not terminal, or the request alone. -/
def membersOfNewHold (run : ReliabilityRun) (laneId requestId : String) : List String :=
  let released := run.burstBarriers.rows.filter fun barrier =>
    barrier.laneId = laneId && barrier.state = .released && barrier.plannedRequestIds.contains requestId
  match (released.insertionSort fun first second => second.block ≤ first.block).head? with
  | none => [requestId]
  | some barrier => barrier.plannedRequestIds.filter (run.isActiveOn laneId)

/-- The state a member row is given when the hold is opened. -/
def memberStateOf (run : ReliabilityRun) (row : HoldMemberRow) : HeldMemberState :=
  match run.attempts.find? row.requestId with
  | none => row.memberState
  | some attempt =>
    if attempt.state = .reconciliationPending then .reconciliationPending else .ordinaryInflight

/-- The member rows of a new hold, numbered from one. -/
def memberRows (laneId holdId : String) (next : ℕ) : List String → List HoldMemberRow
  | [] => []
  | requestId :: rest => newMember laneId holdId requestId next :: memberRows laneId holdId (next + 1) rest

/-- A new hold of a lane and its member rows. -/
def createHold (run : ReliabilityRun) (laneId holdId : String) (members : List String) :
    ReliabilityRun :=
  { run with
    holds := run.holds.put ⟨laneId, holdId, members, none⟩
    holdMembers := (memberRows laneId holdId 1 members).foldl
      (fun rows row => rows.put { row with memberState := run.memberStateOf row }) run.holdMembers
    lanes := run.lanes.update (·.laneId = laneId) ({ · with state := .held, resumeAt := none })
      fun _ => rfl }

/-- A hold id that no hold of the lane has. -/
def isFreshHold (run : ReliabilityRun) (laneId holdId : String) : Bool :=
  (run.holds.find? (laneId, holdId)).isNone &&
    run.holdMembers.rows.all fun row => !(row.laneId = laneId && row.holdId = holdId)

/-- The hold a request has entered, and its list. -/
structure EnteredHold where
  holdId : String
  members : List String
  deriving DecidableEq

/-- `drawn` is the random id of a new hold. -/
def enterLaneHoldLocked (laneId requestId drawn : String) (run : ReliabilityRun) :
    Except String (EnteredHold × ReliabilityRun) := do
  require (run.isActiveOn laneId requestId) "HOLD_MEMBER_NOT_ACTIVE"
  match run.openHold laneId with
  | some hold =>
    if hold.heldUnresolved.contains requestId then return (⟨hold.holdId, hold.heldUnresolved⟩, run)
    else return (⟨hold.holdId, hold.heldUnresolved ++ [requestId]⟩, run.joinHold hold requestId)
  | none => do
    let members := run.membersOfNewHold laneId requestId
    require (members.contains requestId) "HOLD_MEMBER_NOT_ACTIVE"
    require (run.isFreshHold laneId drawn && decide members.Nodup) "unique_violation"
    return (⟨drawn, members⟩, run.createHold laneId drawn members)

/-! ### Leaving a hold -/

/-- What is left of a hold, and when its lane resumes. -/
structure LeftHold where
  remaining : List String
  resumeAt : Option ℤ
  deriving DecidableEq

/-- The next full five minutes. -/
def nextResume (now : ℤ) : ℤ := (now / 300000 + 1) * 300000

/-- The row of a request in a hold is resolved. -/
def resolveMember (run : ReliabilityRun) (hold : HoldRow) (requestId : String) (now : ℤ) :
    ReliabilityRun :=
  { run with
    holdMembers := run.holdMembers.update (fun row => row.isOf hold && row.requestId = requestId)
      (fun row => { row with resolvedAt := row.resolvedAt <|> some now }) fun _ => rfl }

/-- A request leaves its hold; the last one resolves it and settles the lane. -/
def leaveHold (run : ReliabilityRun) (hold : HoldRow) (requestId : String)
    (controlState : ControlState) (now : ℤ) : ReliabilityRun :=
  let remaining := hold.heldUnresolved.filter (· ≠ requestId)
  let resolved := run.resolveMember hold requestId now
  if remaining ≠ [] then
    { resolved with holds := run.holds.put { hold with heldUnresolved := remaining } }
  else
    { resolved with
      lanes := run.lanes.update (·.laneId = hold.laneId)
        (if controlState = .active then
          ({ · with state := .resumePending, resumeAt := some (nextResume now) })
        else ({ · with state := .failed, resumeAt := none })) fun row => by split <;> rfl
      holds := run.holds.put { hold with heldUnresolved := [], resolvedAt := some now } }

/-- What `removeTerminalHeldMemberLocked` returns when the request leaves the hold. -/
def leftHold (hold : HoldRow) (requestId : String) (controlState : ControlState) (now : ℤ) :
    LeftHold where
  remaining := hold.heldUnresolved.filter (· ≠ requestId)
  resumeAt :=
    if hold.heldUnresolved.filter (· ≠ requestId) = [] ∧ controlState = .active then
      some (nextResume now)
    else none

def removeTerminalHeldMemberLocked (laneId requestId : String) (controlState : ControlState)
    (now : ℤ) (run : ReliabilityRun) : Except String (Option LeftHold × ReliabilityRun) :=
  match (run.openHold laneId).filter fun hold => hold.heldUnresolved.contains requestId with
  | none => return (none, run)
  | some hold => do
    require (run.isTerminalOn laneId requestId) "HELD_MEMBER_TERMINAL_REQUIRED"
    return (some (leftHold hold requestId controlState now),
      run.leaveHold hold requestId controlState now)

/-! ### Reading a hold -/

/-- The unresolved members of a hold, by their numbers. -/
def unresolvedMembers (run : ReliabilityRun) (hold : HoldRow) : List HoldMemberRow :=
  (run.holdMembers.rows.filter fun row => row.isOf hold && row.resolvedAt.isNone).insertionSort
    fun first second => first.memberSequence ≤ second.memberSequence

/-- The request is the first unresolved member of the lane's open hold. -/
def isHeldLaneHead (run : ReliabilityRun) (laneId requestId : String) : Bool :=
  ((run.openHold laneId).bind fun hold => (run.unresolvedMembers hold).head?).map
    HoldMemberRow.requestId = some requestId

end ReliabilityRun

end FuseControlPlane.Reliability
