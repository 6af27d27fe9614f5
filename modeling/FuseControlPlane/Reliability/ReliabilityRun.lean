/-
The rows of a run that the transactions of `reliability/protocolStore.ts` read and write besides those of
`ProtocolRun`: events, holds, backlog, authorization and report intents.

* `ReliabilityRun`: a run with all of them. Payloads of events and evidence of incidents are only ever
  written and left out, and so are the events of a report's publication.
* `appendEvents`, `appendIncident`, `commitReportIntentLocked`: what the transactions end with.
-/

import FuseControlPlane.Evidence.ManifestPublication
import FuseControlPlane.Reliability.ProtocolRows

set_option linter.unusedSectionVars false

namespace FuseControlPlane.Reliability

open Foundation Foundation.JavaScript Domain Evidence

/-! ### Rows -/

inductive EventType
  | planned | admissionStarted | dispatchAuthorized | dispatchPrimitiveEntered
  | providerResponsePersisted | gateClassified | ambiguityEntered | blockClaimed | barrierReleased
  | barrierCanceledBeforeDispatch | reconciliationAttemptPersisted | reconciliationScheduleFailed
  | providerEvidenceAttached | reconciliationOffsetCanceled | globalFailureRequested
  deriving DecidableEq

/-- `reliability_protocol_events`. -/
structure EventRow where
  eventSequence : ℕ
  requestId : Option String
  eventType : EventType
  deriving DecidableEq

/-- `reliability_protocol_holds`. -/
structure HoldRow where
  laneId : String
  holdId : String
  heldUnresolved : List String
  resolvedAt : Option ℤ
  deriving DecidableEq

instance : Keyed HoldRow (String × String) := ⟨fun row => (row.laneId, row.holdId)⟩

inductive HeldMemberState
  | ordinaryInflight | reconciliationPending
  deriving DecidableEq

/-- `reliability_hold_members`. -/
structure HoldMemberRow where
  laneId : String
  holdId : String
  requestId : String
  memberSequence : ℕ
  memberState : HeldMemberState
  resolvedAt : Option ℤ
  deriving DecidableEq

instance : Keyed HoldMemberRow (String × String × String) :=
  ⟨fun row => (row.laneId, row.holdId, row.requestId)⟩

inductive BacklogState
  | queued | scheduled | claimed | terminal | canceled
  deriving DecidableEq

/-- `reliability_lane_backlog`. -/
structure BacklogRow where
  laneId : String
  block : ℤ
  callOrdinal : ℤ
  requestId : String
  nominalScheduledAt : ℤ
  actualScheduledAt : Option ℤ
  pauseDurationSeconds : Option ℤ
  state : BacklogState
  claimedAt : Option ℤ
  terminalAt : Option ℤ
  deriving DecidableEq

instance : Keyed BacklogRow (String × ℤ × ℤ) := ⟨fun row => (row.laneId, row.block, row.callOrdinal)⟩

/-- `reliability_authorization_operations`, without the deadlines that follow from its start. -/
structure AuthorizationOperationRow where
  startedAt : ℤ
  publicationCompletedAt : Option ℤ
  transitionCompletedAt : Option ℤ
  failureReason : Option String
  deriving DecidableEq

/-- `reliability_authorization_decisions`. -/
structure AuthorizationDecisionRow where
  decisionId : String
  verdict : Json
  operatorNonce : Option String

inductive ReceiptKind
  | operator | reconciliation
  deriving DecidableEq

/-- `reliability_authorization_outbox`. -/
structure AuthorizationReceiptRow where
  receiptKind : ReceiptKind
  receipt : Json
  publishedAt : Option ℤ

instance : Keyed AuthorizationReceiptRow ReceiptKind := ⟨AuthorizationReceiptRow.receiptKind⟩

/-- `reliability_failure_report_outbox`: what its report intent and publication items are made of. -/
structure FailureReportRow where
  incidentSequence : ℕ
  publishBy : ℤ
  deriving DecidableEq

inductive ReportKind
  | pass | failure
  deriving DecidableEq

inductive ReportIntentState
  | committed | published | superseded | publicationFailed | artifactConflict
  deriving DecidableEq

/-- `reliability_report_publication_outbox`. The destination is the same for every intent of a run, and
the digests are those of the texts. -/
structure ReportIntentRow where
  intentSequence : ℕ
  reportKind : ReportKind
  reportBytes : String
  artifactInventorySha256 : String
  acceptedSnapshotSha256 : Option String
  committedAt : ℤ
  publicationDeadline : ℤ
  supersedesIntentSequence : Option ℕ
  state : ReportIntentState
  deriving DecidableEq

/-! ### A run -/

/-- The rows of one run. Events are in the order in which they were appended; of the report intents the
last one comes first. -/
structure ReliabilityRun extends ProtocolRun where
  nextEventSequence : ℕ
  events : List EventRow
  nextIncidentSequence : ℕ
  nextReportIntentSequence : ℕ
  reportIntents : List ReportIntentRow
  artifactBindings : List (String × String)
  failureReport : Option FailureReportRow
  holds : Table HoldRow
  holdMembers : Table HoldMemberRow
  backlog : Table BacklogRow
  authorizationOperation : Option AuthorizationOperationRow
  authorizationDecision : Option AuthorizationDecisionRow
  authorizationOutbox : Table AuthorizationReceiptRow

namespace ReliabilityRun

/-! ### Updates -/

section Updates

variable (run : ReliabilityRun)

/-- `UPDATE reliability_protocol_attempts SET .. WHERE ..`. -/
def updateAttempts (chosen : AttemptRow → Bool) (rewrite : AttemptRow → AttemptRow)
    (keeps : ∀ row, (rewrite row).requestId = row.requestId) : ReliabilityRun :=
  { run with attempts := run.attempts.update chosen rewrite keeps }

/-- `UPDATE reliability_dispatch_tokens SET .. WHERE ..`. -/
def updateTokens (chosen : DispatchTokenRow → Bool) (rewrite : DispatchTokenRow → DispatchTokenRow)
    (keeps : ∀ row, (rewrite row).requestId = row.requestId) : ReliabilityRun :=
  { run with dispatchTokens := run.dispatchTokens.update chosen rewrite keeps }

/-- `UPDATE reliability_protocol_lanes SET state, resume_at WHERE ..`. -/
def updateLanes (chosen : LaneRow → Bool) (state : LaneState) (resumeAt : Option ℤ) :
    ReliabilityRun :=
  { run with lanes := run.lanes.update chosen ({ · with state, resumeAt }) fun _ => rfl }

/-- `gate_classification_count` and `usable_count` raised. -/
def countClassified (classified usable : ℕ) : ReliabilityRun :=
  { run with
    control :=
      { run.control with
        gateClassificationCount := run.control.gateClassificationCount + classified
        usableCount := run.control.usableCount + usable } }

/-- `ambiguity_count` raised. -/
def countAmbiguity : ReliabilityRun :=
  { run with control := { run.control with ambiguityCount := run.control.ambiguityCount + 1 } }

/-! ### Events, incidents and report intents -/

/-- Events with their sequence numbers. -/
def numberEvents (next : ℕ) : List (Option String × EventType) → List EventRow
  | [] => []
  | (requestId, eventType) :: rest => ⟨next, requestId, eventType⟩ :: numberEvents (next + 1) rest

/-- One `appendEvent` after the other. -/
def appendEvents (entries : List (Option String × EventType)) : ReliabilityRun :=
  { run with
    nextEventSequence := run.nextEventSequence + entries.length
    events := run.events ++ numberEvents run.nextEventSequence entries }

def appendEvent (requestId : Option String) (eventType : EventType) : ReliabilityRun :=
  run.appendEvents [(requestId, eventType)]

/-- The sequence number of the incident, and the run after it. -/
def appendIncident : ℕ × ReliabilityRun :=
  (run.nextIncidentSequence, { run with nextIncidentSequence := run.nextIncidentSequence + 1 })

end Updates

def versionNumber : ProtocolVersion → ℤ
  | .v2 => 2
  | .v3 => 3
  | .v4 => 4

def reportKindText : ReportKind → String
  | .pass => "pass"
  | .failure => "failure"

section Reports

variable [NodeCrypto] [Collation]

/-- What `commitReportIntentLocked` is asked for. -/
structure ReportIntentInput where
  reportKind : ReportKind
  reasonCode : String
  incidentSequence : Option ℕ
  acceptedSnapshotSha256 : Option String
  publicationDeadline : Option ℤ
  reportBytes : Option String

def sha256Text (text : String) : String := "sha256:" ++ NodeCrypto.sha256 text

def nullOr {α : Type} (json : α → Json) (value : Option α) : Json := value.elim .null json

def artifactInventorySha256 (run : ReliabilityRun) : String :=
  sha256Text (canonicalJson (.array (run.artifactBindings.map fun binding =>
    .object [("path", .string binding.1), ("digest", .string binding.2)])))

/-- `${canonicalJson(reportFor(committedAt))}\n`. -/
def reportFor (run : ReliabilityRun) (input : ReportIntentInput) (committedAt : ℤ) : String :=
  canonicalJson (.object
    [("evidenceType", .string run.control.profile.evidenceType),
      ("protocolVersion", .ofInt (versionNumber run.control.profile.protocolVersion)),
      ("runId", .string run.runId),
      ("profileFingerprint", .string run.control.profile.profileFingerprint),
      ("reportKind", .string (reportKindText input.reportKind)),
      ("passed", .bool (input.reportKind = .pass)),
      ("reasonCode", .string input.reasonCode),
      ("incidentSequence", nullOr (fun sequence => .ofInt sequence) input.incidentSequence),
      ("artifactInventorySha256", .string run.artifactInventorySha256),
      ("acceptedSnapshotSha256", nullOr .string input.acceptedSnapshotSha256),
      ("committedAt", .string (toISOString committedAt))]) ++ "\n"

/-- The bytes of the report an intent is for. -/
def reportBytesOf (run : ReliabilityRun) (input : ReportIntentInput) (committedAt : ℤ) : String :=
  input.reportBytes.getD (run.reportFor input committedAt)

/-- The intent is for the report that the last one is for. -/
def isCommittedAlready (run : ReliabilityRun) (input : ReportIntentInput) (latest : ReportIntentRow) :
    Bool :=
  latest.reportBytes = run.reportBytesOf input latest.committedAt &&
    latest.acceptedSnapshotSha256 = input.acceptedSnapshotSha256

/-- An intent that supersedes the last one. -/
def insertIntent (run : ReliabilityRun) (input : ReportIntentInput) (now : ℤ) : ReliabilityRun :=
  { run with
    nextReportIntentSequence := run.nextReportIntentSequence + 1
    reportIntents :=
      { intentSequence := run.nextReportIntentSequence
        reportKind := input.reportKind
        reportBytes := run.reportBytesOf input now
        artifactInventorySha256 := run.artifactInventorySha256
        acceptedSnapshotSha256 := input.acceptedSnapshotSha256
        committedAt := now
        publicationDeadline := input.publicationDeadline.getD (now + 60000)
        supersedesIntentSequence := run.reportIntents.head?.map ReportIntentRow.intentSequence
        state := .committed } ::
      run.reportIntents.modifyHead ({ · with state := .superseded }) }

def commitReportIntentLocked [ProtocolProfiles] (input : ReportIntentInput) (now : ℤ)
    (run : ReliabilityRun) : Except String ReliabilityRun := do
  let control ← run.lockControlProfile
  if !usesSequencedReportIntents control.profile.protocolVersion then return run
  else match run.reportIntents.head? with
    | none => return run.insertIntent input now
    | some latest =>
      if run.isCommittedAlready input latest then return run
      else do
        require (!(latest.reportKind = .failure && input.reportKind = .pass))
          "REPORT_FAILURE_AUTHORITY_FINAL"
        require (!(latest.state = .published || (latest.state = .artifactConflict &&
          !(latest.reportKind = .pass && input.reportKind = .failure))))
          "REPORT_PUBLICATION_AUTHORITY_FINAL"
        return run.insertIntent input now

/-- The intent of a failure report. -/
def failureIntent (reasonCode : String) (incidentSequence : ℕ) (publicationDeadline : Option ℤ) :
    ReportIntentInput where
  reportKind := .failure
  reasonCode := reasonCode
  incidentSequence := some incidentSequence
  acceptedSnapshotSha256 := none
  publicationDeadline := publicationDeadline
  reportBytes := none

end Reports

end ReliabilityRun

end FuseControlPlane.Reliability
