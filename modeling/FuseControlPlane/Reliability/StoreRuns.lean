/-
Runs of the protocol store: its transactions, and the publications that lie between two of them, in any
order.

* `StoreTransaction`, `transact`: a call that is one transaction. The calls on reconciliation lookups,
  readiness receipts and the replay mutex write tables that none of these reads, and are left out.
* `StoreWorld`: a run, the files at the paths its reports are published at, and the publishers under way.
* `storeStep`: a transaction, or what one publisher does next. A publisher may stop at any point.
-/

import FuseControlPlane.Reliability.ReportTransactions

set_option linter.unusedSectionVars false

namespace FuseControlPlane.Reliability

open Foundation Foundation.JavaScript Domain Evidence

/-! ### Transactions -/

namespace ProtocolOp

/-- A transaction that `ProtocolOp` has no statements of. -/
def isElsewhere : ProtocolOp → Bool
  | elsewhere _ => true
  | _ => false

end ProtocolOp

inductive StoreTransaction
  | protocol (op : ProtocolOp) (stated : op.isElsewhere = false)
  | registerReplayAuthorizationInventory (input : StagedRun.ReplayInventoryInput)
  | executeAuthenticatedSealedReplay (input : StagedRun.SealedReplayInput)
  | recordReplayAudit (row : ReplayAuditRow)
  | completeReplayRun
  | advanceDurableStage (target : DurableReliabilityStage)
  | bindArtifactInventory (artifactDigests : List (String × String))
  | appendSettlementPoll (pollNo : ℕ) (offsetSeconds : ℤ) (snapshotDigest : String) (complete : Bool)
  | finalizeSettlement (snapshotDigest : String) (acceptedOffsetSeconds : Option ℤ)
  | runAndPersistAuthoritativeSettlement (result : AuthoritativeSettlementResult)
    (built : Option CanonicalFinalCommitMarker) (now : ℤ)
  | commitCanonicalFinalReport (marker : CanonicalFinalCommitMarker)
  | publishPendingFailureReport (now : ℤ)

section Transactions

variable [NodeCrypto] [Collation] [ProtocolProfiles]

def StagedRun.transact (run : StagedRun) : StoreTransaction → Except String StagedRun
  | .protocol op _ => run.carry (run.toReliabilityRun.perform op)
  | .registerReplayAuthorizationInventory input => run.registerReplayAuthorizationInventory input
  | .executeAuthenticatedSealedReplay input => run.executeAuthenticatedSealedReplay input
  | .recordReplayAudit row => run.recordReplayAudit row
  | .completeReplayRun => run.completeReplayRun
  | .advanceDurableStage target => run.advanceDurableStage target
  | .bindArtifactInventory artifactDigests => run.bindArtifactInventory artifactDigests
  | .appendSettlementPoll pollNo offsetSeconds snapshotDigest complete =>
    run.appendSettlementPoll pollNo offsetSeconds snapshotDigest complete
  | .finalizeSettlement snapshotDigest acceptedOffsetSeconds =>
    run.finalizeSettlement snapshotDigest acceptedOffsetSeconds
  | .runAndPersistAuthoritativeSettlement result built now => run.finishSettlement result built now
  | .commitCanonicalFinalReport marker => run.commitCanonicalFinalReport marker
  | .publishPendingFailureReport now => run.finishFailureReport now

end Transactions

/-! ### Publishers -/

/-- How far a publisher has come. -/
inductive PublicationPhase
  | begun | intentPublished | reportPublished
  /-- A file holds other bytes. -/
  | conflicted
  deriving DecidableEq

/-- A call of `publishPendingReportIntent` after its first transaction. -/
structure ReportPublisher where
  pending : StagedRun.PendingReport
  phase : PublicationPhase

/-- A call of `publishPendingCanonicalFinalReport` after its first transaction. -/
structure FinalPublisher where
  report : FinalReportRow
  published : Bool

/-- A run with the files of its reports. The intent and the report have one path each. -/
structure StoreWorld where
  run : StagedRun
  intentFile : Option String
  reportFile : Option String
  reportPublishers : List ReportPublisher
  finalPublishers : List FinalPublisher

/-- `publish` raises `ARTIFACT_CONFLICT`: a file is written once. -/
def conflicts (file : Option String) (bytes : String) : Bool := file.any (· ≠ bytes)

inductive StoreOp
  | transaction (call : StoreTransaction)
  | beginReport (now : ℤ)
  | publishNext (index : ℕ)
  | commitConflict (index : ℕ) (now : ℤ)
  | finishReport (index : ℕ) (now : ℤ)
  | stopReport (index : ℕ)
  | beginFinal
  | publishFinal (index : ℕ)
  | finishFinal (index : ℕ) (now : ℤ)
  | stopFinal (index : ℕ)

namespace StoreWorld

/-- A run that has been initialized, and no files. -/
def initialWorld (runId : String) (profile : ReliabilityProtocolProfile) (planFingerprint : String)
    (reconciliationCredentialId : Option String) (laneIds : List String) : StoreWorld where
  run := StagedRun.initialRun runId profile planFingerprint reconciliationCredentialId laneIds
  intentFile := none
  reportFile := none
  reportPublishers := []
  finalPublishers := []

/-- A transaction that raises changes nothing. -/
def settle (world : StoreWorld) (result : Except String StagedRun) : StoreWorld :=
  { world with run := result.toOption.getD world.run }

/-- A report publisher has come to another phase. -/
def moveTo (world : StoreWorld) (index : ℕ) (publisher : ReportPublisher) (phase : PublicationPhase) :
    StoreWorld :=
  { world with reportPublishers := world.reportPublishers.set index { publisher with phase } }

/-- A report publisher is done. -/
def dropReport (world : StoreWorld) (index : ℕ) : StoreWorld :=
  { world with reportPublishers := world.reportPublishers.eraseIdx index }

/-- A final publisher is done. -/
def dropFinal (world : StoreWorld) (index : ℕ) : StoreWorld :=
  { world with finalPublishers := world.finalPublishers.eraseIdx index }

section Steps

variable [NodeCrypto] [Collation] [ProtocolProfiles] (world : StoreWorld)

/-- The path of the report. -/
def destination : String := (canonicalFinalCommitPath world.run.runId).toOption.getD ""

/-- The bytes of the intent of a publisher. -/
def intentBytes (publisher : ReportPublisher) : String :=
  world.run.intentBytes world.destination publisher.pending.intent

/-- A publisher begins, if there is a report to publish. -/
def beginReport (now : ℤ) : StoreWorld :=
  match world.run.beginReportIntent now with
  | .error _ => world
  | .ok (none, run) => { world with run }
  | .ok (some pending, run) =>
    { world with run, reportPublishers := world.reportPublishers ++ [⟨pending, .begun⟩] }

/-- A publisher publishes its intent, and then its report. -/
def publishNext (index : ℕ) (publisher : ReportPublisher) : StoreWorld :=
  match publisher.phase with
  | .begun =>
    let bytes := world.intentBytes publisher
    if conflicts world.intentFile bytes then world.moveTo index publisher .conflicted
    else { world.moveTo index publisher .intentPublished with intentFile := some bytes }
  | .intentPublished =>
    let bytes := publisher.pending.intent.reportBytes
    if conflicts world.reportFile bytes then world.moveTo index publisher .conflicted
    else { world.moveTo index publisher .reportPublished with reportFile := some bytes }
  | _ => world

/-- A publisher commits that a file holds other bytes. -/
def commitConflict (index : ℕ) (publisher : ReportPublisher) (now : ℤ) : StoreWorld :=
  if publisher.phase = .conflicted then
    (world.settle (world.run.conflictReportIntent publisher.pending now)).dropReport index
  else world

/-- A publisher commits that it has published its report. -/
def finishReport (index : ℕ) (publisher : ReportPublisher) (now : ℤ) : StoreWorld :=
  if publisher.phase = .reportPublished then
    (world.settle ((world.run.finishReportIntent publisher.pending now).map Prod.snd)).dropReport index
  else world

/-- A final publisher begins, if there is a report to publish. -/
def beginFinal : StoreWorld :=
  match world.run.beginFinalReport with
  | .ok (some report) =>
    { world with finalPublishers := world.finalPublishers ++ [⟨report, false⟩] }
  | _ => world

/-- A final publisher publishes its report; it ends if the file holds other bytes. -/
def publishFinal (index : ℕ) (publisher : FinalPublisher) : StoreWorld :=
  let bytes := publisher.report.reportBytes
  if conflicts world.reportFile bytes then world.dropFinal index
  else { world with
    reportFile := some bytes
    finalPublishers := world.finalPublishers.set index { publisher with published := true } }

/-- A final publisher completes the run. -/
def finishFinal (index : ℕ) (publisher : FinalPublisher) (now : ℤ) : StoreWorld :=
  if publisher.published then (world.settle (world.run.finishFinalReport now)).dropFinal index
  else world

/-- What a report publisher does, if it is there. -/
def withReport (index : ℕ) (act : ReportPublisher → StoreWorld) : StoreWorld :=
  (world.reportPublishers[index]?).elim world act

/-- What a final publisher does, if it is there. -/
def withFinal (index : ℕ) (act : FinalPublisher → StoreWorld) : StoreWorld :=
  (world.finalPublishers[index]?).elim world act

def storeStep : StoreOp → StoreWorld
  | .transaction call => world.settle (world.run.transact call)
  | .beginReport now => world.beginReport now
  | .publishNext index => world.withReport index (world.publishNext index)
  | .commitConflict index now => world.withReport index (world.commitConflict index · now)
  | .finishReport index now => world.withReport index (world.finishReport index · now)
  | .stopReport index => world.dropReport index
  | .beginFinal => world.beginFinal
  | .publishFinal index => world.withFinal index (world.publishFinal index)
  | .finishFinal index now => world.withFinal index (world.finishFinal index · now)
  | .stopFinal index => world.dropFinal index

end Steps

end StoreWorld

end FuseControlPlane.Reliability
