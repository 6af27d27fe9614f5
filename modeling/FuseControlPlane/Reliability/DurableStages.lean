/-
The durable stages of a run, and the transactions on replays, artifacts and stages
(`planDurableStageTransition` of `evidence/finalEvidenceClosure.ts`; `advanceDurableStage`,
`bindArtifactInventory`, `registerReplayAuthorizationInventory`, `executeAuthenticatedSealedReplay`,
`completeReplayRun` and `recordReplayAudit` of `reliability/protocolStore.ts`).

* `planDurableStageTransition`: a run goes through the stages one by one.
* `StagedRun`: a run with its stage and with the tables of replays, of the settlement and of the final
  report.
* `advanceDurableStage` asks whether the run has failed; `completeReplayRun` and `bindArtifactInventory`
  do not.
-/

import FuseControlPlane.Reliability.ProtocolSteps

set_option linter.unusedSectionVars false

namespace FuseControlPlane.Reliability

open Foundation Foundation.JavaScript Domain Evidence

/-! ### Stages -/

inductive DurableReliabilityStage
  | running | freshTerminal | replayTerminal | artifactBound | settled | finalCommitted
  deriving DecidableEq

/-- `STAGE_ORDER.indexOf(stage)`. -/
def DurableReliabilityStage.order : DurableReliabilityStage → ℕ
  | running => 0
  | freshTerminal => 1
  | replayTerminal => 2
  | artifactBound => 3
  | settled => 4
  | finalCommitted => 5

/-- What a transition of the stage is planned from. -/
structure StageInventory where
  stage : DurableReliabilityStage
  terminalFresh : ℕ
  openHolds : ℕ
  replayAudits : ℕ
  artifactsBound : Bool
  settlementPassed : Bool

def planDurableStageTransition (input : StageInventory) (target : DurableReliabilityStage) :
    Except String DurableReliabilityStage := do
  require (target.order = input.stage.order + 1) "DURABLE_STAGE_ORDER_INVALID"
  require (!(target = .freshTerminal && (input.terminalFresh ≠ 100 || input.openHolds ≠ 0)))
    "FRESH_TERMINAL_INVENTORY_INCOMPLETE"
  require (!(target = .replayTerminal && input.replayAudits ≠ 20)) "REPLAY_INVENTORY_INCOMPLETE"
  require (!(target = .artifactBound && !input.artifactsBound)) "ARTIFACT_BINDING_INCOMPLETE"
  require (!(target = .settled && !input.settlementPassed)) "ACCEPTED_SETTLEMENT_REQUIRED"
  return target

/-! ### Rows -/

inductive ReplayAuthorizationState
  | authorized | transportStarted | passed | failed
  deriving DecidableEq

/-- `reliability_replay_authorizations`. -/
structure ReplayAuthorizationRow where
  replayOrdinal : ℕ
  requestId : String
  operationId : String
  authorizationDecisionId : String
  signedAuthorizationSha256 : Option String
  state : ReplayAuthorizationState
  deriving DecidableEq

instance : Keyed ReplayAuthorizationRow String := ⟨ReplayAuthorizationRow.requestId⟩

/-- `reliability_replay_audits`, whose write set is always empty. -/
structure ReplayAuditRow where
  requestId : String
  replayNo : ℕ
  originalResponseCommitment : String
  replayResponseCommitment : String
  deriving DecidableEq

instance : Keyed ReplayAuditRow (String × ℕ) := ⟨fun row => (row.requestId, row.replayNo)⟩

/-- `reliability_settlement_journal`, without the times of a poll. -/
structure SettlementJournalRow where
  pollNo : ℕ
  offsetSeconds : ℤ
  snapshotDigest : Option String
  complete : Bool
  deadlineEligible : Bool
  rowCardinality : ℕ
  errorCode : Option String
  deriving DecidableEq

instance : Keyed SettlementJournalRow ℕ := ⟨SettlementJournalRow.pollNo⟩

/-- `reliability_settlement_final_snapshots`. The rows of an accepted snapshot are those of its digest. -/
structure SettlementFinalSnapshotRow where
  snapshotDigest : Option String
  journalCardinality : ℕ
  acceptedOffsetSeconds : Option ℤ
  rowCardinality : ℕ
  passed : Bool
  acceptedDatabaseStartedAt : Option ℤ
  deriving DecidableEq

/-- `reliability_final_report_outbox`. The digest is that of the bytes. -/
structure FinalReportRow where
  canonicalPath : String
  reportBytes : String
  publishedAt : Option ℤ
  deriving DecidableEq

/-- `reliability_report_publication_receipts`. Paths and digests are those of the intent. -/
structure ReportReceiptRow where
  intentSequence : ℕ
  reportBytes : String
  deriving DecidableEq

/-- A run with all its tables. -/
structure StagedRun extends ReliabilityRun where
  durableStage : DurableReliabilityStage
  replayPassedCount : ℕ
  replayAuthorizations : Table ReplayAuthorizationRow
  replayAudits : Table ReplayAuditRow
  settlementJournal : Table SettlementJournalRow
  settlementFinalSnapshot : Option SettlementFinalSnapshotRow
  finalReport : Option FinalReportRow
  reportReceipts : List ReportReceiptRow
  failureReportPublishedAt : Option ℤ

namespace StagedRun

/-- A run that has been initialized. -/
def initialRun (runId : String) (profile : ReliabilityProtocolProfile) (planFingerprint : String)
    (reconciliationCredentialId : Option String) (laneIds : List String) : StagedRun where
  toReliabilityRun :=
    ReliabilityRun.initialRun runId profile planFingerprint reconciliationCredentialId laneIds
  durableStage := .running
  replayPassedCount := 0
  replayAuthorizations := .empty
  replayAudits := .empty
  settlementJournal := .empty
  settlementFinalSnapshot := none
  finalReport := none
  reportReceipts := []
  failureReportPublishedAt := none

/-- The run with other rows of the protocol's tables. -/
def withRows (run : StagedRun) (rows : ReliabilityRun) : StagedRun := { run with toReliabilityRun := rows }

/-- What a transaction on the protocol's tables comes to. -/
def carry (run : StagedRun) (result : Except String ReliabilityRun) : Except String StagedRun :=
  result.map run.withRows

theorem carry_eq_ok {run after : StagedRun} {result : Except String ReliabilityRun} :
    run.carry result = .ok after ↔ ∃ rows, result = .ok rows ∧ after = run.withRows rows := by
  unfold carry
  cases result with
  | error error => simp [Except.map]
  | ok rows => simp [Except.map, eq_comm]

section Transactions

variable [NodeCrypto] [Collation] [ProtocolProfiles]

/-! ### Replays -/

structure ReplayInventoryInput where
  planFingerprint : Option String
  authorizationSha256 : Option String
  requestIds : List String

def replayOperationDomain : ProtocolVersion → String
  | .v2 => "fuse-reliability-v2-replay-operation"
  | .v3 => "fuse-reliability-v3-replay-operation"
  | .v4 => "fuse-reliability-v4-replay-operation"

/-- `[0-9a-f]`. -/
def isLowerHex (character : Char) : Bool :=
  character.isDigit || ('a' ≤ character && character ≤ 'f')

/-- `/^[0-9a-f]{8}-[0-9a-f]{4}-5[0-9a-f]{3}-a[0-9a-f]{3}-[0-9a-f]{12}$/`. -/
def isAuthorizationDecisionId (text : String) : Bool :=
  match text.splitOn "-" with
  | [first, second, third, fourth, last] =>
    matchesClass isLowerHex 8 8 first && matchesClass isLowerHex 4 4 second &&
      startsWith third "5" && matchesClass isLowerHex 4 4 third &&
      startsWith fourth "a" && matchesClass isLowerHex 4 4 fourth && matchesClass isLowerHex 12 12 last
  | _ => false

/-- What the operation id of a replay is the digest of. -/
def replayPreimage (run : StagedRun) (input : ReplayInventoryInput) (decisionId : String) (ordinal : ℕ)
    (requestId : String) : String :=
  let profile := run.control.profile
  let domain := replayOperationDomain profile.protocolVersion
  if usesCanonicalAuthorizationIds profile.protocolVersion then
    canonicalJson (.object
      [("authorizationDecisionId", .string decisionId), ("domain", .string domain),
        ("ordinal", .ofInt ordinal),
        ("planFingerprint", .string (input.planFingerprint.getD run.control.planFingerprint)),
        ("profileFingerprint", .string profile.profileFingerprint),
        ("protocolVersion", .ofInt (ReliabilityRun.versionNumber profile.protocolVersion)),
        ("requestId", .string requestId), ("runId", .string run.runId)])
  else ":".intercalate
    [domain, run.runId, input.authorizationSha256.getD "", toString ordinal, requestId]

/-- The rows of `buildReplayAuthorizationInventory`. -/
def buildReplayAuthorizationInventory (run : StagedRun) (input : ReplayInventoryInput)
    (decisionId : String) : Except String (List ReplayAuthorizationRow) := do
  require (input.requestIds.length = 20 && decide input.requestIds.Nodup &&
    input.requestIds.all fun requestId => !isBlank requestId) "REPLAY_AUTHORIZATION_INVENTORY_INVALID"
  let canonical := usesCanonicalAuthorizationIds run.control.profile.protocolVersion
  require (!canonical || (isManifestDigest (input.planFingerprint.getD run.control.planFingerprint) &&
    isManifestDigest run.control.profile.profileFingerprint && isAuthorizationDecisionId decisionId))
    "REPLAY_AUTHORIZATION_PREIMAGE_INVALID"
  require (canonical || input.authorizationSha256.any isManifestDigest)
    "REPLAY_AUTHORIZATION_INVENTORY_INVALID"
  return input.requestIds.zipIdx.map fun (requestId, index) =>
    { replayOrdinal := index + 1
      requestId := requestId
      operationId :=
        "replay-" ++ NodeCrypto.sha256 (run.replayPreimage input decisionId (index + 1) requestId)
      authorizationDecisionId := decisionId
      signedAuthorizationSha256 := if canonical then none else input.authorizationSha256
      state := .authorized }

/-- `verdict->>name = 'true'`. -/
def isTrueText (verdict : Json) (name : String) : Bool :=
  isTrueField verdict name || isField verdict name "true"

/-- The decision is valid. -/
def isReplayAuthority (decision : AuthorizationDecisionRow) : Bool :=
  isTrueText decision.verdict "operatorValid" && isTrueText decision.verdict "reconciliationValid"

/-- A receipt is published. -/
def isReceiptPublished (run : StagedRun) (kind : ReceiptKind) : Bool :=
  (run.authorizationOutbox.find? kind).any fun receipt => receipt.publishedAt.isSome

/-- `ON CONFLICT(run_id,request_id) DO NOTHING`. -/
def insertReplayAuthorization (rows : Table ReplayAuthorizationRow) (row : ReplayAuthorizationRow) :
    Table ReplayAuthorizationRow :=
  if (rows.find? row.requestId).isSome then rows else rows.put row

def registerReplayAuthorizationInventory (input : ReplayInventoryInput) (run : StagedRun) :
    Except String StagedRun := do
  let control ← run.lockControlProfile
  require (input.planFingerprint.all (· = control.planFingerprint)) "REPLAY_AUTHORIZATION_PLAN_CONFLICT"
  match run.authorizationDecision.filter isReplayAuthority with
  | none => .error "REPLAY_RUN_AUTHORIZATION_REQUIRED"
  | some decision => do
    require (run.isReceiptPublished .operator && run.isReceiptPublished .reconciliation)
      "REPLAY_RUN_AUTHORIZATION_REQUIRED"
    require (run.durableStage = .freshTerminal) "REPLAY_STAGE_PREREQUISITE_UNMET"
    require (control.profile.protocolVersion ≠ .v2 || input.authorizationSha256.any (· ≠ ""))
      "REPLAY_RUN_AUTHORIZATION_REQUIRED"
    let inventory ← run.buildReplayAuthorizationInventory input decision.decisionId
    require (input.requestIds.all fun requestId => (run.sealedCalls.find? requestId).isSome)
      "REPLAY_TARGET_INVENTORY_NOT_SEALED"
    let stored := inventory.foldl insertReplayAuthorization run.replayAuthorizations
    require (stored.rows.length = 20 && inventory.all fun row =>
      (stored.find? row.requestId).any fun old => { old with state := row.state } = row)
      "REPLAY_AUTHORIZATION_INVENTORY_CONFLICT"
    return { run with replayAuthorizations := stored }

/-- `INSERT INTO reliability_replay_audits`. -/
def insertReplayAudit (row : ReplayAuditRow) (run : StagedRun) : Except String StagedRun := do
  require (run.replayAudits.find? (row.requestId, row.replayNo)).isNone "unique_violation"
  return { run with replayAudits := run.replayAudits.put row }

/-- A replay over HTTP. `bodyCommitment` is that of the body, `commitment` that of the response stored for
the request. -/
structure SealedReplayInput where
  operationId : String
  organizationId : String
  credentialId : String
  agentId : String
  mandateId : String
  branchId : String
  workloadClass : String
  requestId : String
  bodyCommitment : String
  commitment : String

/-- The sealed call that a replay is of. -/
def isReplayedCall (input : SealedReplayInput) (sealed : SealedCallRow) : Bool :=
  sealed.organizationId = input.organizationId && sealed.credentialId = input.credentialId &&
    sealed.agentId = input.agentId && sealed.mandateId = input.mandateId &&
    sealed.branchId = input.branchId && sealed.workloadClass = input.workloadClass &&
    sealed.bodyCommitment = input.bodyCommitment

/-- The attempt has a response with a commitment. -/
def isReplayable (attempt : AttemptRow) : Bool :=
  attempt.isUsable && attempt.responseCommitment.isSome && attempt.actualCostMicros.isSome

/-- The state of the run is not looked at. -/
def executeAuthenticatedSealedReplay (input : SealedReplayInput) (run : StagedRun) :
    Except String StagedRun := do
  require ((run.sealedCalls.find? input.requestId).any (isReplayedCall input) &&
    (run.attempts.find? input.requestId).any isReplayable) "REPLAY_TARGET_NOT_IMMUTABLE"
  match (run.replayAuthorizations.find? input.requestId).filter (·.operationId = input.operationId) with
  | none => .error "REPLAY_TARGET_NOT_IMMUTABLE"
  | some authorization => do
    require (run.durableStage = .freshTerminal || run.durableStage = .replayTerminal)
      "REPLAY_STAGE_PREREQUISITE_UNMET"
    require ((run.attempts.find? input.requestId).any fun attempt =>
      attempt.responseCommitment = some input.commitment) "REPLAY_COMMITMENT_MISMATCH"
    if authorization.state = .passed then return run
    else do
      require (authorization.state = .authorized) "REPLAY_AUTHORIZATION_ALREADY_CONSUMED"
      let audited ← run.insertReplayAudit
        ⟨input.requestId, authorization.replayOrdinal, input.commitment, input.commitment⟩
      return { audited with
        replayAuthorizations := run.replayAuthorizations.put { authorization with state := .passed } }

def recordReplayAudit (row : ReplayAuditRow) (run : StagedRun) : Except String StagedRun := do
  require (row.originalResponseCommitment = row.replayResponseCommitment) "REPLAY_COMMITMENT_MISMATCH"
  let _ ← run.lockControlProfile
  run.insertReplayAudit row

/-- The authorization of a target has passed, and its replay is audited. -/
def isReplayed (run : StagedRun) (authorization : ReplayAuthorizationRow) : Bool :=
  authorization.state = .passed &&
    (run.replayAudits.find? (authorization.requestId, authorization.replayOrdinal)).isSome

/-- The state of the run is not looked at. -/
def completeReplayRun (run : StagedRun) : Except String StagedRun := do
  let _ ← run.lockControlProfile
  require (run.durableStage = .freshTerminal || run.durableStage = .replayTerminal)
    "REPLAY_STAGE_PREREQUISITE_UNMET"
  require (run.replayAuthorizations.rows.length = 20 && run.replayAuthorizations.rows.all run.isReplayed &&
      (List.range 20).all fun index =>
        run.replayAuthorizations.rows.any (·.replayOrdinal = index + 1)) "REPLAY_INVENTORY_INCOMPLETE"
  return { run with replayPassedCount := 20, durableStage := .replayTerminal }

/-! ### Artifacts and stages -/

/-- What is counted of a run for a transition to a stage. -/
def stageInventory (run : StagedRun) (target : DurableReliabilityStage) : StageInventory where
  stage := run.durableStage
  terminalFresh := (run.attempts.rows.filter fun attempt => attempt.terminalAt.isSome).length
  openHolds := (run.holds.rows.filter fun hold => hold.resolvedAt.isNone).length
  replayAudits := run.replayAudits.rows.length
  artifactsBound := target = .artifactBound
  settlementPassed := run.settlementFinalSnapshot.any SettlementFinalSnapshotRow.passed

def advanceDurableStage (target : DurableReliabilityStage) (run : StagedRun) : Except String StagedRun := do
  let control ← run.lockControlProfile
  require (control.state ≠ .failed) "PROTOCOL_CONTROL_FAILED"
  let next ← planDurableStageTransition (run.stageInventory target) target
  return { run with durableStage := next }

/-- The path of a claim's manifest is bound to its digest. -/
def isManifestBound (entries : List (String × String)) (claim : SchedulerClaimRow) : Bool :=
  claim.state = .terminal && claim.manifestFsyncedAt.isSome && claim.manifestPath ≠ "" &&
    claim.manifestDigest.any fun digest => digest ≠ "" && entries.lookup claim.manifestPath = some digest

/-- `ON CONFLICT DO NOTHING`; the path must then have that digest. -/
def insertArtifactBinding (bindings : List (String × String)) (entry : String × String) :
    Except String (List (String × String)) :=
  match bindings.lookup entry.1 with
  | none => .ok (bindings ++ [entry])
  | some digest => do
    require (digest = entry.2) "IMMUTABLE_ARTIFACT_BINDING_CONFLICT"
    return bindings

/-- By path; the order of the database is that of `localeCompare`. -/
def sortBindings (entries : List (String × String)) : List (String × String) :=
  entries.mergeSort fun first second => Collation.localeCompare first.1 second.1 ≤ 0

/-- The state of the run is not looked at. -/
def bindArtifactInventory (artifactDigests : List (String × String)) (run : StagedRun) :
    Except String StagedRun := do
  let entries := sortBindings artifactDigests
  require (entries ≠ [] && entries.all fun entry => entry.1 ≠ "" && isManifestDigest entry.2)
    "ARTIFACT_BINDING_INVALID"
  let control ← run.lockControlProfile
  require (run.durableStage = .replayTerminal) "ARTIFACT_BINDING_STAGE_INVALID"
  let strict := requiresStrictArtifactBinding control.profile.protocolVersion
  require (!strict || run.schedulerClaims.rows.length = run.sealedCalls.rows.length)
    "SCHEDULER_MANIFEST_INVENTORY_INCOMPLETE"
  require (!strict || run.schedulerClaims.rows.all (isManifestBound entries)) "SCHEDULER_MANIFEST_NOT_BOUND"
  let bound ← entries.foldlM insertArtifactBinding run.artifactBindings
  require (sortBindings bound = entries) "ARTIFACT_BINDING_INVENTORY_CONFLICT"
  return { run with artifactBindings := entries, durableStage := .artifactBound }

end Transactions

end StagedRun

end FuseControlPlane.Reliability
