/-
The tables of a reliability run (`reliability/reliabilitySchema.ts`) and its profile
(`reliability/protocolProfile.ts`).

Every statement of the protocol store names one run, so `ProtocolRun` is the rows of one run, and the
column `run_id` is left out of them. Times are milliseconds. Events are only ever written and left out.

* `reliabilityProtocolProfileForRunId`: the protocol version is in the id of the run.
* `lockControlProfile`, `lockControlLane`: what a transaction of the store begins with. It locks the row
  of the run, so the transactions on a run take effect one after the other.
-/

import FuseControlPlane.Domain.Policy
import FuseControlPlane.Foundation.JavaScript
import FuseControlPlane.Foundation.Table

namespace FuseControlPlane.Reliability

open Foundation Foundation.JavaScript Domain

/-! ### Profiles -/

inductive ProtocolVersion
  | v2 | v3 | v4
  deriving DecidableEq

/-- The fingerprints of the three profiles, digests of the canonical profile texts. -/
class ProtocolProfiles where
  profileFingerprint : ProtocolVersion → String

/-- The columns of a control row that say which protocol it follows. -/
structure ReliabilityProtocolProfile where
  protocolVersion : ProtocolVersion
  evidenceType : String
  planSchemaVersion : ℤ
  mappingVersion : ℤ
  profileFingerprint : String
  deriving DecidableEq

/-- `[A-Za-z0-9._:-]`. -/
def isRunIdCharacter (character : Char) : Bool :=
  character.isAlphanum || ['.', '_', ':', '-'].contains character

/-- `/^[A-Za-z0-9][A-Za-z0-9._:-]{0,127}$/`. -/
def isRunId (runId : String) : Bool :=
  matchesClass isRunIdCharacter 1 128 runId && (runId.toList.head?.any Char.isAlphanum)

/-- The protocol version a run id asks for. -/
def protocolVersionForRunId (runId : String) : Except String ProtocolVersion := do
  require (isRunId runId) "RUN_ID_INVALID"
  if startsWith runId "hov3-" then
    require (matchesClass isRunIdCharacter 1 97 (drop 5 runId)) "RELIABILITY_V3_RUN_ID_INVALID"
    return .v3
  else if startsWith runId "hov4-" then
    require (matchesClass isRunIdCharacter 1 97 (drop 5 runId)) "RELIABILITY_V4_RUN_ID_INVALID"
    return .v4
  else return .v2

def ProtocolVersion.evidenceType : ProtocolVersion → String
  | v2 => "held-out-reliability"
  | v3 => "held-out-reliability-v3"
  | v4 => "held-out-reliability-v4"

def ProtocolVersion.artifactRoot : ProtocolVersion → String
  | v2 => "evidence/held-out-reliability"
  | v3 => "evidence/held-out-reliability-v3"
  | v4 => "evidence/held-out-reliability-v4"

def ProtocolVersion.profile [ProtocolProfiles] (version : ProtocolVersion) :
    ReliabilityProtocolProfile where
  protocolVersion := version
  evidenceType := version.evidenceType
  planSchemaVersion := 2
  mappingVersion := 2
  profileFingerprint := ProtocolProfiles.profileFingerprint version

def reliabilityProtocolProfileForRunId [ProtocolProfiles] (runId : String) :
    Except String ReliabilityProtocolProfile :=
  (protocolVersionForRunId runId).map ProtocolVersion.profile

/-- Versions 3 and 4 bind authorizations, sealed requests, artifacts and reports more strictly. -/
def ProtocolVersion.isStrict : ProtocolVersion → Bool
  | v2 => false
  | v3 => true
  | v4 => true

def usesCanonicalAuthorizationIds : ProtocolVersion → Bool := ProtocolVersion.isStrict

def requiresExactSealedRequestCommitment : ProtocolVersion → Bool := ProtocolVersion.isStrict

def requiresStrictArtifactBinding : ProtocolVersion → Bool := ProtocolVersion.isStrict

def usesSequencedReportIntents : ProtocolVersion → Bool := ProtocolVersion.isStrict

/-! ### Rows -/

inductive ControlState
  | preparing | active | failed | complete
  deriving DecidableEq

/-- `reliability_protocol_controls`. -/
structure ControlRow where
  state : ControlState
  planFingerprint : String
  profile : ReliabilityProtocolProfile
  failureSequence : ℕ
  nonusableAllowanceOwner : Option String
  reconciliationCredentialId : Option String
  dispatchTokenCount : ℕ
  gateClassificationCount : ℕ
  ambiguityCount : ℕ
  usableCount : ℕ
  failedAt : Option ℤ
  deriving DecidableEq

inductive LaneState
  | ready | held | resumePending | resuming | failed
  deriving DecidableEq

/-- `reliability_protocol_lanes`. -/
structure LaneRow where
  laneId : String
  state : LaneState
  resumeAt : Option ℤ
  deriving DecidableEq

instance : Keyed LaneRow String := ⟨LaneRow.laneId⟩

/-- `reliability_sealed_calls`. -/
structure SealedCallRow where
  requestId : String
  block : ℤ
  laneId : String
  callOrdinal : ℤ
  bodyCommitment : String
  organizationId : String
  agentId : String
  credentialId : String
  mandateId : String
  branchId : String
  workloadClass : String
  provider : String
  model : String
  maxOutputTokens : ℤ
  reservationCostMicros : ℕ
  claimFingerprint : String
  requestCommitment : String
  deriving DecidableEq

instance : Keyed SealedCallRow String := ⟨SealedCallRow.requestId⟩

/-- `reliability_block_claims`, which also have a state that is always `claimed`. -/
structure BlockClaimRow where
  block : ℤ
  ownerId : String
  opensAt : ℤ
  launchDeadline : ℤ
  claimedAt : ℤ
  planFingerprint : String
  deriving DecidableEq

instance : Keyed BlockClaimRow ℤ := ⟨BlockClaimRow.block⟩

inductive AttemptState
  | planned | admissionStarted | dispatchAuthorized | primitiveEntered | reconciliationPending
  | notDispatched | completedVerified | terminalRejectedNotBilled | reconciledNotBilled
  | reconciledBilledWithResponse | reconciledBilledNoResponse | unresolvedProviderOutcome
  deriving DecidableEq

/-- The states in which an attempt is classified. -/
def AttemptState.isClassified : AttemptState → Bool
  | notDispatched | completedVerified | terminalRejectedNotBilled | reconciledNotBilled
  | reconciledBilledWithResponse | reconciledBilledNoResponse | unresolvedProviderOutcome => true
  | _ => false

/-- `reliability_protocol_attempts`. -/
structure AttemptRow where
  requestId : String
  laneId : String
  block : ℤ
  state : AttemptState
  requestCommitment : String
  responseCommitment : Option String
  providerGenerationId : Option String
  reservedCostMicros : ℕ
  actualCostMicros : Option ℕ
  ambiguityEnteredAt : Option ℤ
  admissionStartedAt : Option ℤ
  gateClassifiedAt : Option ℤ
  terminalAt : Option ℤ
  deriving DecidableEq

instance : Keyed AttemptRow String := ⟨AttemptRow.requestId⟩

/-- `reliability_dispatch_tokens`. -/
structure DispatchTokenRow where
  requestId : String
  tokenId : String
  laneId : String
  ownerId : String
  primitiveEnteredAt : Option ℤ
  canceledAt : Option ℤ
  deriving DecidableEq

instance : Keyed DispatchTokenRow String := ⟨DispatchTokenRow.requestId⟩

inductive SchedulerClaimState
  | claimed | admissionStarted | awaitingOutcome | terminal
  deriving DecidableEq

/-- `reliability_scheduler_claims`. -/
structure SchedulerClaimRow where
  requestId : String
  laneId : String
  block : ℤ
  ownerId : String
  generation : ℕ
  state : SchedulerClaimState
  leaseExpiresAt : ℤ
  heartbeatAt : ℤ
  manifestPath : String
  manifestDigest : Option String
  manifestFsyncedAt : Option ℤ
  terminalAt : Option ℤ
  deriving DecidableEq

instance : Keyed SchedulerClaimRow String := ⟨SchedulerClaimRow.requestId⟩

inductive BarrierState
  | preparing | released | canceled
  deriving DecidableEq

/-- `reliability_burst_barriers`. -/
structure BurstBarrierRow where
  laneId : String
  block : ℤ
  state : BarrierState
  plannedRequestIds : List String
  releasedAt : Option ℤ
  canceledAt : Option ℤ
  deriving DecidableEq

instance : Keyed BurstBarrierRow (String × ℤ) := ⟨fun row => (row.laneId, row.block)⟩

/-! ### A run -/

/-- The rows of one run. -/
structure ProtocolRun where
  runId : String
  control : ControlRow
  lanes : Table LaneRow
  sealedCalls : Table SealedCallRow
  blockClaims : Table BlockClaimRow
  attempts : Table AttemptRow
  dispatchTokens : Table DispatchTokenRow
  schedulerClaims : Table SchedulerClaimRow
  burstBarriers : Table BurstBarrierRow

namespace ProtocolRun

section Locks

variable [ProtocolProfiles] (run : ProtocolRun)

/-- The control row, if it has the columns of its run's profile. -/
def lockControlProfile : Except String ControlRow := do
  let expected ← reliabilityProtocolProfileForRunId run.runId
  require (run.control.profile = expected) "PROTOCOL_PROFILE_CONFLICT"
  return run.control

/-- The state of the run, if it has the lane. -/
def lockControlLane (laneId : String) : Except String ControlState := do
  let control ← run.lockControlProfile
  require (run.lanes.find? laneId).isSome "PROTOCOL_LANE_NOT_FOUND"
  return control.state

variable {run}

theorem lockControlProfile_eq_ok {control : ControlRow} (locked : run.lockControlProfile = .ok control) :
    control = run.control := by
  unfold lockControlProfile at locked
  obtain ⟨expected, _, rest⟩ := bind_eq_ok.mp locked
  simp only [bind_unit_eq_ok] at rest
  cases rest.2
  rfl

theorem lockControlLane_eq_ok {laneId : String} {state : ControlState}
    (locked : run.lockControlLane laneId = .ok state) : state = run.control.state := by
  unfold lockControlLane at locked
  obtain ⟨control, held, rest⟩ := bind_eq_ok.mp locked
  simp only [bind_unit_eq_ok] at rest
  cases rest.2
  rw [lockControlProfile_eq_ok held]

end Locks

end ProtocolRun

end FuseControlPlane.Reliability
