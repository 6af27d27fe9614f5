/-
The settlement of a run and the publication of its reports (`runAuthoritativeSettlement` of
`evidence/authoritativeSettlement.ts`; `runAndPersistAuthoritativeSettlement`, `appendSettlementPoll`,
`finalizeSettlement`, `commitCanonicalFinalReport`, `publishPendingCanonicalFinalReport`,
`publishPendingReportIntent` and `publishPendingFailureReport` of `reliability/protocolStore.ts`).

A publication reads what is pending in one transaction, writes files, and commits what it has done in
another one.

* `runAuthoritativeSettlement`, `finishSettlement`: the settlement and the intent of its report.
* `commitCanonicalFinalReport`, `beginFinalReport`, `finishFinalReport`: the final report of version 2.
* `beginReportIntent`, `finishReportIntent`, `conflictReportIntent`: the report intents of versions 3
  and 4.
-/

import FuseControlPlane.Evidence.ManifestPublication
import FuseControlPlane.Foundation.Conversions
import FuseControlPlane.Reliability.DurableStages

set_option linter.unusedSectionVars false

namespace FuseControlPlane.Reliability

open Foundation Foundation.JavaScript Domain Evidence

/-! ### Settlement -/

/-- What a poll of the settlement reads: whether the rows are complete, their digest and their number. -/
structure SettlementObservation where
  complete : Bool
  digest : String
  rowCardinality : ℕ
  databaseStartedAtMs : ℤ
  queryFinishedAtMs : ℤ

/-- An accepted snapshot has the final digest. -/
structure AuthoritativeSettlementResult where
  acceptedOffsetSeconds : Option ℤ
  journal : List SettlementJournalRow
  finalDigest : Option String
  finalRowCardinality : ℕ
  acceptedDatabaseStartedAt : Option ℤ

def settlementWindowMs : ℤ := 120000

def settlementDatabaseOperationMs : ℤ := 30000

/-- The entry of a poll, which may have failed. -/
def settlementPoll (startedAtMs : ℤ) (index : ℕ) : Option SettlementObservation → SettlementJournalRow
  | none =>
    { pollNo := index + 1
      offsetSeconds := 5 * index
      snapshotDigest := none
      complete := false
      deadlineEligible := false
      rowCardinality := 0
      errorCode := some "SETTLEMENT_DATABASE_OPERATION_FAILED" }
  | some observed =>
    let deadlineEligible :=
      startedAtMs + 5 * index * 1000 ≤ observed.databaseStartedAtMs &&
        observed.databaseStartedAtMs ≤ startedAtMs + settlementWindowMs &&
        observed.databaseStartedAtMs ≤ observed.queryFinishedAtMs &&
        observed.queryFinishedAtMs ≤ observed.databaseStartedAtMs + settlementDatabaseOperationMs
    { pollNo := index + 1
      offsetSeconds := 5 * index
      snapshotDigest := some observed.digest
      complete := deadlineEligible && observed.complete
      deadlineEligible
      rowCardinality := observed.rowCardinality
      errorCode := none }

/-- The polls at the given offsets, up to the first complete one. -/
def pollSettlement (startedAtMs : ℤ) (observed : ℕ → Option SettlementObservation) :
    List ℕ → AuthoritativeSettlementResult → AuthoritativeSettlementResult
  | [], result => result
  | index :: later, result =>
    let entry := settlementPoll startedAtMs index (observed index)
    let polled := { result with
      journal := result.journal ++ [entry]
      finalDigest := ((observed index).map SettlementObservation.digest) <|> result.finalDigest
      finalRowCardinality :=
        ((observed index).map SettlementObservation.rowCardinality).getD result.finalRowCardinality }
    if entry.complete then
      { polled with
        acceptedOffsetSeconds := some entry.offsetSeconds
        acceptedDatabaseStartedAt := (observed index).map SettlementObservation.databaseStartedAtMs }
    else pollSettlement startedAtMs observed later polled

def runAuthoritativeSettlement (startedAtMs : ℤ) (observed : ℕ → Option SettlementObservation) :
    AuthoritativeSettlementResult :=
  pollSettlement startedAtMs observed (List.range 25) ⟨none, [], none, 0, none⟩

namespace AuthoritativeSettlementResult

def passed (result : AuthoritativeSettlementResult) : Bool := result.acceptedOffsetSeconds.isSome

/-- The final snapshot of a settlement, which passes if its report does. -/
def finalSnapshot (result : AuthoritativeSettlementResult) (authoritativePass : Bool) :
    SettlementFinalSnapshotRow where
  snapshotDigest := result.finalDigest
  journalCardinality := result.journal.length
  acceptedOffsetSeconds := result.acceptedOffsetSeconds
  rowCardinality := result.finalRowCardinality
  passed := authoritativePass
  acceptedDatabaseStartedAt := result.acceptedDatabaseStartedAt

end AuthoritativeSettlementResult

/-- The final report of a run. -/
structure CanonicalFinalCommitMarker where
  evidenceType : String
  protocolVersion : ProtocolVersion
  artifactKind : String
  state : String
  runId : String
  planFingerprint : String
  passed : Bool
  acceptedSnapshotDigest : String
  journalCardinality : ℕ
  authoritativeInventoryDigest : String
  artifactDigests : List (String × String)

/-- Digests by path, as an object. -/
def digestsJson (digests : List (String × String)) : Json :=
  .object (digests.map fun entry => (entry.1, .string entry.2))

def CanonicalFinalCommitMarker.toJson (marker : CanonicalFinalCommitMarker) : Json :=
  .object
    [("evidenceType", .string marker.evidenceType),
      ("protocolVersion", .ofInt (ReliabilityRun.versionNumber marker.protocolVersion)),
      ("artifactKind", .string marker.artifactKind), ("state", .string marker.state),
      ("runId", .string marker.runId), ("planFingerprint", .string marker.planFingerprint),
      ("passed", .bool marker.passed),
      ("settlement", .object
        [("acceptedSnapshotDigest", .string marker.acceptedSnapshotDigest),
          ("journalCardinality", .ofInt marker.journalCardinality)]),
      ("authoritativeInventoryDigest", .string marker.authoritativeInventoryDigest),
      ("artifactDigests", digestsJson marker.artifactDigests)]

/-- The path of the final report. -/
def canonicalFinalCommitPath (runId : String) : Except String String := do
  let version ← protocolVersionForRunId runId
  require (["replay", runId ++ ".json"].all isPathSegment) "ARTIFACT_PATH_SEGMENT_INVALID"
  return "/".intercalate [version.artifactRoot, "replay", runId ++ ".json"]

inductive ReportPublicationDeadlineDisposition
  | onTime | supersedePass | lateFailure
  deriving DecidableEq

def reportPublicationDeadlineDisposition (reportKind : ReportKind) (databaseNowMs deadlineMs : ℤ) :
    ReportPublicationDeadlineDisposition :=
  if databaseNowMs < deadlineMs then .onTime
  else match reportKind with
    | .pass => .supersedePass
    | .failure => .lateFailure

namespace StagedRun

section Transactions

variable [NodeCrypto] [Collation] [ProtocolProfiles]

def commitReportIntentLocked (input : ReliabilityRun.ReportIntentInput) (now : ℤ) (run : StagedRun) :
    Except String StagedRun :=
  run.carry (run.toReliabilityRun.commitReportIntentLocked input now)

/-- An incident, and the intent of a failure report that names it. -/
def commitFailureIntent (reasonCode : String) (now : ℤ) (run : StagedRun) : Except String StagedRun :=
  let (incidentSequence, noted) := run.toReliabilityRun.appendIncident
  (run.withRows noted).commitReportIntentLocked
    (ReliabilityRun.failureIntent reasonCode incidentSequence none) now

/-- `INSERT INTO reliability_settlement_journal`. -/
def appendSettlementPoll (pollNo : ℕ) (offsetSeconds : ℤ) (snapshotDigest : String) (complete : Bool)
    (run : StagedRun) : Except String StagedRun := do
  require (1 ≤ pollNo && pollNo ≤ 25 && offsetSeconds = 5 * ((pollNo : ℤ) - 1)) "SETTLEMENT_OFFSET_INVALID"
  let _ ← run.lockControlProfile
  require (run.settlementJournal.find? pollNo).isNone "unique_violation"
  return { run with
    settlementJournal := run.settlementJournal.put
      ⟨pollNo, offsetSeconds, some snapshotDigest, complete, false, 0, none⟩ }

/-- The journal in the order of its polls. -/
def orderedJournal (run : StagedRun) : List SettlementJournalRow :=
  run.settlementJournal.rows.mergeSort fun first second => first.pollNo ≤ second.pollNo

/-- The snapshot that it inserts has not passed. -/
def finalizeSettlement (snapshotDigest : String) (acceptedOffsetSeconds : Option ℤ) (run : StagedRun) :
    Except String StagedRun := do
  let _ ← run.lockControlProfile
  require (run.orderedJournal.map (fun row => (row.pollNo, row.offsetSeconds)) =
    (List.range 25).map fun index : ℕ => (index + 1, 5 * (index : ℤ))) "SETTLEMENT_JOURNAL_INVALID"
  require ((run.orderedJournal.find? SettlementJournalRow.complete).map SettlementJournalRow.offsetSeconds =
    acceptedOffsetSeconds) "SETTLEMENT_FINAL_SNAPSHOT_CONFLICT"
  require run.settlementFinalSnapshot.isNone "unique_violation"
  return { run with
    settlementFinalSnapshot := some ⟨some snapshotDigest, 25, acceptedOffsetSeconds, 0, false, none⟩ }

/-- A settlement begins, and ends, with artifacts bound and the run active. -/
def settlementGate (run : StagedRun) : Except String ControlRow := do
  let control ← run.lockControlProfile
  require (run.durableStage = .artifactBound && control.state = .active)
    "ARTIFACT_BINDING_REQUIRED_BEFORE_SETTLEMENT"
  return control

/-- The marker is that of the run, of its artifacts and of the settlement. -/
def isReportAuthority (run : StagedRun) (result : AuthoritativeSettlementResult)
    (marker : CanonicalFinalCommitMarker) : Bool :=
  marker.evidenceType = run.control.profile.evidenceType &&
    marker.protocolVersion = run.control.profile.protocolVersion &&
    marker.artifactKind = "final_commit" && marker.state = "committed" && marker.runId = run.runId &&
    marker.planFingerprint = run.control.planFingerprint &&
    some marker.acceptedSnapshotDigest = result.finalDigest &&
    marker.journalCardinality = result.journal.length &&
    canonicalJson (digestsJson marker.artifactDigests) = canonicalJson (digestsJson run.artifactBindings) &&
    isManifestDigest marker.authoritativeInventoryDigest

/-- The journal and the final snapshot of a settlement, each written once. -/
def persistSettlement (result : AuthoritativeSettlementResult) (snapshot : SettlementFinalSnapshotRow)
    (run : StagedRun) : Except String StagedRun := do
  let stored := { run with
    settlementJournal := result.journal.foldl (fun journal entry =>
      if (journal.find? entry.pollNo).isSome then journal else journal.put entry) run.settlementJournal
    settlementFinalSnapshot := run.settlementFinalSnapshot <|> some snapshot }
  require (stored.settlementFinalSnapshot = some snapshot) "SETTLEMENT_FINAL_SNAPSHOT_CONFLICT"
  return stored

/-- The intent of the report of a settlement; `authority` is the marker that versions 3 and 4 ask for. -/
def settlementIntent (result : AuthoritativeSettlementResult)
    (authority : Option CanonicalFinalCommitMarker) (now : ℤ) (run : StagedRun) :
    Except String StagedRun :=
  match authority with
  | some marker =>
    let markerBytes := canonicalJson marker.toJson ++ "\n"
    if marker.passed then
      run.commitReportIntentLocked
        ⟨.pass, "SETTLEMENT_ACCEPTED", none, result.finalDigest, none, some markerBytes⟩ now
    else
      let (incidentSequence, noted) := run.toReliabilityRun.appendIncident
      (run.withRows noted).commitReportIntentLocked
        ⟨.failure, "STRICT_REPORT_NONPASS", some incidentSequence, result.finalDigest, none,
          some markerBytes⟩ now
  | none => if result.passed then .ok run else run.commitFailureIntent "SETTLEMENT_NONPASS" now

/-- The end of `runAndPersistAuthoritativeSettlement`; `built` is what `buildAuthority` makes of a
settlement that has passed. -/
def finishSettlement (result : AuthoritativeSettlementResult) (built : Option CanonicalFinalCommitMarker)
    (now : ℤ) (run : StagedRun) : Except String StagedRun := do
  let strict := usesSequencedReportIntents run.control.profile.protocolVersion
  let authority := if result.passed && strict then built else none
  require (!(result.passed && strict) || authority.isSome) "STRICT_REPORT_AUTHORITY_REQUIRED"
  let _ ← run.settlementGate
  require (authority.all (run.isReportAuthority result)) "STRICT_REPORT_AUTHORITY_INVALID"
  let stored ← run.persistSettlement result (result.finalSnapshot
    (result.passed && (!strict || authority.any CanonicalFinalCommitMarker.passed)))
  stored.settlementIntent result authority now

/-! ### The final report of version 2 -/

/-- The state of the run is not looked at. -/
def commitCanonicalFinalReport (marker : CanonicalFinalCommitMarker) (run : StagedRun) :
    Except String StagedRun := do
  let canonicalPath ← canonicalFinalCommitPath run.runId
  let control ← run.lockControlProfile
  require (!usesSequencedReportIntents control.profile.protocolVersion) "V3_SEQUENCED_REPORT_INTENT_REQUIRED"
  require (run.durableStage = .settled) "SETTLEMENT_REQUIRED_BEFORE_FINAL_COMMIT"
  require (run.settlementFinalSnapshot.any fun snapshot =>
    snapshot.passed && snapshot.snapshotDigest = some marker.acceptedSnapshotDigest)
    "FINAL_COMMIT_SETTLEMENT_CONFLICT"
  let report : FinalReportRow := ⟨canonicalPath, marker.toJson.stringify ++ "\n", none⟩
  let stored := run.finalReport.getD report
  require ({ stored with publishedAt := none } = report) "IMMUTABLE_FINAL_COMMIT_CONFLICT"
  return { run with finalReport := some stored }

/-- The report to publish. -/
def beginFinalReport (run : StagedRun) : Except String (Option FinalReportRow) := do
  let control ← run.lockControlProfile
  require (!usesSequencedReportIntents control.profile.protocolVersion) "V3_SEQUENCED_REPORT_INTENT_REQUIRED"
  match run.finalReport with
  | none => return none
  | some report => do
    let canonicalPath ← canonicalFinalCommitPath run.runId
    require (report.canonicalPath = canonicalPath) "FINAL_COMMIT_PATH_CONFLICT"
    return some report

/-- The run is complete, whatever state it was in. -/
def finishFinalReport (now : ℤ) (run : StagedRun) : Except String StagedRun := do
  let _ ← run.lockControlProfile
  require (run.durableStage = .settled || run.durableStage = .finalCommitted)
    "SETTLEMENT_REQUIRED_BEFORE_FINAL_COMMIT"
  return { run with
    finalReport := run.finalReport.map fun report =>
      { report with publishedAt := report.publishedAt <|> some now }
    durableStage := .finalCommitted
    control := { run.control with state := .complete } }

/-! ### The report intents of versions 3 and 4 -/

/-- The path of the intent of a run. -/
def intentPath (run : StagedRun) : String :=
  "evidence/" ++ run.control.profile.evidenceType ++ "/publication-intents/reports/" ++ run.runId ++
    ".json"

/-- `Buffer.from(text).toString("base64")`. -/
def base64Text (text : String) : String :=
  String.ofList (Base64.encodeBytes (text.toUTF8.toList.map UInt8.toNat))

/-- The bytes of the file at the path of the intent. -/
def intentBytes (run : StagedRun) (destination : String) (intent : ReportIntentRow) : String :=
  canonicalJson (.object
    [("schemaVersion", .ofInt 1), ("evidenceType", .string run.control.profile.evidenceType),
      ("protocolVersion", .ofInt (ReliabilityRun.versionNumber run.control.profile.protocolVersion)),
      ("runId", .string run.runId),
      ("profileFingerprint", .string run.control.profile.profileFingerprint),
      ("reportKind", .string (ReliabilityRun.reportKindText intent.reportKind)),
      ("destination", .string destination),
      ("reportSha256", .string (ReliabilityRun.sha256Text intent.reportBytes)),
      ("reportBytesBase64", .string (base64Text intent.reportBytes)),
      ("artifactInventorySha256", .string intent.artifactInventorySha256),
      ("acceptedSnapshotSha256", ReliabilityRun.nullOr .string intent.acceptedSnapshotSha256),
      ("committedAt", .string (toISOString intent.committedAt))]) ++ "\n"

/-- The intents with a sequence number and an allowed state are in another state. -/
def withIntentState (run : StagedRun) (intentSequence : ℕ) (state : ReportIntentState)
    (allowedStates : List ReportIntentState) : StagedRun :=
  { run with
    reportIntents := run.reportIntents.map fun intent =>
      if intent.intentSequence = intentSequence && allowedStates.contains intent.state then
        { intent with state }
      else intent }

/-- An intent moves to another state, from an allowed one. -/
def appendReportPublicationEventLocked (intentSequence : ℕ) (state : ReportIntentState)
    (allowedStates : List ReportIntentState) (run : StagedRun) : Except String StagedRun := do
  require (run.reportIntents.any fun intent =>
    intent.intentSequence = intentSequence && allowedStates.contains intent.state)
    "REPORT_INTENT_STATE_CONFLICT"
  return run.withIntentState intentSequence state allowedStates

/-- The same, unless the state is not to change. -/
def markReport (kept : Bool) (intent : ReportIntentRow) (state : ReportIntentState)
    (allowedStates : List ReportIntentState) (run : StagedRun) : Except String StagedRun :=
  if kept then .ok run
  else run.appendReportPublicationEventLocked intent.intentSequence state allowedStates

/-- The intent has a receipt. -/
def hasReceipt (run : StagedRun) (intentSequence : ℕ) : Bool :=
  run.reportReceipts.any (·.intentSequence = intentSequence)

/-- What a publisher sets out to publish. -/
structure PendingReport where
  intent : ReportIntentRow
  lateAtStart : Bool

/-- The first transaction of `publishPendingReportIntent`. -/
def beginReportIntent (now : ℤ) (run : StagedRun) :
    Except String (Option PendingReport × StagedRun) := do
  let _ ← run.lockControlProfile
  match run.reportIntents.head? with
  | none => return (none, run)
  | some intent =>
    if run.hasReceipt intent.intentSequence then return (none, run)
    else do
      require (intent.state = .committed || intent.state = .publicationFailed)
        "REPORT_PUBLICATION_STATE_INVALID"
      let disposition :=
        reportPublicationDeadlineDisposition intent.reportKind now intent.publicationDeadline
      let marked ← run.markReport (disposition = .onTime || intent.state = .publicationFailed) intent
        .publicationFailed [.committed]
      if disposition = .supersedePass then do
        let superseded ← marked.commitFailureIntent "PASS_PUBLICATION_DEADLINE_MISSED" now
        return (none, superseded)
      else return (some ⟨intent, disposition = .lateFailure⟩, marked)

/-- A report has been published in time. -/
def publishReport (intent : ReportIntentRow) (run : StagedRun) : Except String StagedRun := do
  let published ← run.markReport false intent .published [.committed]
  match intent.reportKind with
  | .failure => return published
  | .pass => do
    require (run.durableStage = .settled && run.control.state = .active)
      "SETTLEMENT_REQUIRED_BEFORE_FINAL_COMMIT"
    return { published with
      durableStage := .finalCommitted
      control := { published.control with state := .complete } }

/-- A report has been published too late. -/
def missReport (intent : ReportIntentRow) (lateAtStart : Bool) (now : ℤ) (run : StagedRun) :
    Except String StagedRun := do
  let marked ← run.markReport lateAtStart intent .publicationFailed [.committed, .publicationFailed]
  match intent.reportKind with
  | .failure => return marked
  | .pass => marked.commitFailureIntent "PASS_PUBLICATION_DEADLINE_MISSED" now

/-- The last transaction of `publishPendingReportIntent`; whether it was late. -/
def finishReportIntent (pending : PendingReport) (now : ℤ) (run : StagedRun) :
    Except String (Bool × StagedRun) := do
  let _ ← run.lockControlProfile
  match run.reportIntents.head?.filter fun intent =>
      intent.intentSequence = pending.intent.intentSequence &&
        intent.reportBytes = pending.intent.reportBytes with
  | none => .error "REPORT_PUBLICATION_AUTHORITY_REVOKED_AFTER_WRITE"
  | some intent =>
    if run.hasReceipt intent.intentSequence then do
      require (run.reportReceipts.contains ⟨intent.intentSequence, pending.intent.reportBytes⟩)
        "REPORT_PUBLICATION_RECEIPT_CONFLICT"
      return (false, run)
    else do
      let received := { run with
        reportReceipts := ⟨intent.intentSequence, pending.intent.reportBytes⟩ :: run.reportReceipts }
      if reportPublicationDeadlineDisposition intent.reportKind now intent.publicationDeadline = .onTime then do
        let published ← received.publishReport intent
        return (false, published)
      else do
        let missed ← received.missReport intent pending.lateAtStart now
        return (true, missed)

/-- The transaction of `publishPendingReportIntent` after an artifact conflict. -/
def conflictReportIntent (pending : PendingReport) (now : ℤ) (run : StagedRun) :
    Except String StagedRun := do
  let _ ← run.lockControlProfile
  match run.reportIntents.head?.filter (·.intentSequence = pending.intent.intentSequence) with
  | none => .error "REPORT_PUBLICATION_AUTHORITY_REVOKED"
  | some intent => do
    let marked ← run.markReport (intent.state = .artifactConflict) intent .artifactConflict
      [.committed, .publicationFailed]
    match intent.reportKind with
    | .pass => marked.commitFailureIntent "REPORT_ARTIFACT_CONFLICT" now
    | .failure => return marked.withRows marked.toReliabilityRun.appendIncident.2

/-- The last transaction of `publishPendingFailureReport`. -/
def finishFailureReport (now : ℤ) (run : StagedRun) : Except String StagedRun := do
  let _ ← run.lockControlProfile
  require run.failureReport.isSome "FAILURE_REPORT_OUTBOX_LOST"
  return { run with failureReportPublishedAt := run.failureReportPublishedAt <|> some now }

end Transactions

end StagedRun

end FuseControlPlane.Reliability
