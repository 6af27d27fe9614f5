/-
What a transaction of the protocol store does to the state and the stage of a run, to its report intents
and to their receipts.

* `StoreWrite`: one such write, with what its transaction has checked.
* `transact_writes`, `beginReportIntent_writes`, `conflictReportIntent_writes`: **these transactions are
  sequences of them**. None of them publishes an intent, adds a receipt or completes the run.
* `finishReportIntent_eq_ok`, `finishFinalReport_eq_ok`: the two transactions that do.
-/

import FuseControlPlane.Reliability.RunWrites
import FuseControlPlane.Reliability.StoreRuns

set_option linter.unusedSectionVars false

namespace FuseControlPlane.Reliability

open Foundation Foundation.JavaScript Domain Evidence

/-! ### Writes -/

/-- State, stage, report intents and receipts are unchanged. -/
structure StoreAside (run after : StagedRun) : Prop where
  runId : after.runId = run.runId
  profile : after.control.profile = run.control.profile
  state : after.control.state = run.control.state
  durableStage : after.durableStage = run.durableStage
  reportIntents : after.reportIntents = run.reportIntents
  nextReportIntentSequence : after.nextReportIntentSequence = run.nextReportIntentSequence
  reportReceipts : after.reportReceipts = run.reportReceipts

section Writes

variable [NodeCrypto] [Collation] [ProtocolProfiles]

/-- A write to the state or the stage of a run or to its report intents. -/
inductive StoreWrite (run : StagedRun) : StagedRun → Prop
  | aside {after : StagedRun} (same : StoreAside run after) : StoreWrite run after
  | fail : StoreWrite run (run.withRows run.toReliabilityRun.failed)
  | enter (stage : DurableReliabilityStage) (early : stage ≠ .finalCommitted) :
    StoreWrite run { run with durableStage := stage }
  | advance (stage : DurableReliabilityStage) (going : run.control.state ≠ .failed) :
    StoreWrite run { run with durableStage := stage }
  | intent {after : StagedRun} (input : ReliabilityRun.ReportIntentInput) (now : ℤ)
    (accepted : run.commitReportIntentLocked input now = .ok after) : StoreWrite run after
  | mark (intent : ReportIntentRow) (state : ReportIntentState) (allowedStates : List ReportIntentState)
    (latest : run.reportIntents.head? = some intent)
    (unpublished : state = .publicationFailed ∨ state = .artifactConflict)
    (allowed : ∀ old ∈ allowedStates, old = .committed ∨ old = .publicationFailed) :
    StoreWrite run (run.withIntentState intent.intentSequence state allowedStates)

/-- A sequence of writes. -/
abbrev StoreWrites : StagedRun → StagedRun → Prop := Relation.ReflTransGen StoreWrite

variable {run after : StagedRun}

theorem StoreAside.refl (run : StagedRun) : StoreAside run run := ⟨rfl, rfl, rfl, rfl, rfl, rfl, rfl⟩

theorem StoreAside.writes (same : StoreAside run after) : StoreWrites run after := .single (.aside same)

theorem StoreWrite.writes (write : StoreWrite run after) : StoreWrites run after := .single write

/-- What every write preserves, every sequence of writes preserves. -/
theorem StoreWrites.keeps (inv : StagedRun → Prop)
    (kept : ∀ {run after : StagedRun}, inv run → StoreWrite run after → inv after)
    (start : inv run) (writes : StoreWrites run after) : inv after := by
  induction writes with
  | refl => exact start
  | tail _ write held => exact kept held write

/-! ### The transactions on attempts and lanes -/

/-- Rows of which only other columns are written. -/
theorem StoreAside.of_rows {rows later : ReliabilityRun} (runId : later.runId = rows.runId)
    (profile : later.control.profile = rows.control.profile)
    (state : later.control.state = rows.control.state)
    (reportIntents : later.reportIntents = rows.reportIntents)
    (next : later.nextReportIntentSequence = rows.nextReportIntentSequence) :
    StoreAside (run.withRows rows) (run.withRows later) :=
  ⟨runId, profile, state, rfl, reportIntents, next, rfl⟩

/-- A write to the rows of attempts and lanes, none of which is left unstated. -/
theorem storeWrites_of_write {lapses : Lapses} (stated : ¬ lapses.elsewhere) {rows later : ReliabilityRun}
    (write : RunWrite lapses rows later) : StoreWrites (run.withRows rows) (run.withRows later) := by
  cases write with
  | aside same =>
    exact (StoreAside.of_rows same.runId same.profile same.state same.reportIntents
      same.nextReportIntentSequence).writes
  | fail => exact StoreWrite.fail.writes
  | report input now kind ended accepted =>
    refine (StoreWrite.intent input now ?_).writes
    exact StagedRun.carry_eq_ok.mpr ⟨later, accepted, rfl⟩
  | addLane laneId =>
    refine (StoreAside.of_rows ?_ ?_ ?_ ?_ ?_).writes <;> (unfold ReliabilityRun.insertLane; split <;> rfl)
  | setLanes chosen state resumeAt awake => exact StoreAside.writes (.of_rows rfl rfl rfl rfl rfl)
  | createHold laneId holdId members present noneOpen =>
    exact StoreAside.writes (.of_rows rfl rfl rfl rfl rfl)
  | joinHold hold requestId opened =>
    refine StoreAside.writes (.of_rows ?_ ?_ ?_ ?_ ?_) <;>
      (unfold ReliabilityRun.joinHold ReliabilityRun.insertMember; dsimp only; split <;> rfl)
  | leaveHold hold requestId controlState now opened =>
    refine (StoreAside.of_rows ?_ ?_ ?_ ?_ ?_).writes <;>
      (unfold ReliabilityRun.leaveHold; dsimp only; split <;> rfl)
  | elsewhere other abstracted => exact absurd abstracted stated

theorem storeWrites_of_writes {lapses : Lapses} (stated : ¬ lapses.elsewhere) {rows later : ReliabilityRun}
    (writes : RunWrites lapses rows later) : StoreWrites (run.withRows rows) (run.withRows later) := by
  induction writes with
  | refl => exact .refl
  | tail _ write earlier => exact earlier.trans (storeWrites_of_write stated write)

/-- A transaction that `ProtocolOp` states. -/
theorem protocol_writes {op : ProtocolOp} (stated : op.isElsewhere = false)
    (accepted : run.carry (run.toReliabilityRun.perform op) = .ok after) : StoreWrites run after := by
  obtain ⟨rows, performed, rfl⟩ := StagedRun.carry_eq_ok.mp accepted
  have writes := perform_writes performed
  refine storeWrites_of_writes ?_ writes
  rintro ⟨other, rfl⟩
  cases stated

/-! ### Reports -/

theorem commitFailureIntent_writes {reasonCode : String} {now : ℤ}
    (accepted : run.commitFailureIntent reasonCode now = .ok after) : StoreWrites run after := by
  have noted : StoreAside run (run.withRows run.toReliabilityRun.appendIncident.2) :=
    ⟨rfl, rfl, rfl, rfl, rfl, rfl, rfl⟩
  exact noted.writes.trans (StoreWrite.intent _ now accepted).writes

theorem markReport_writes {kept : Bool} {intent : ReportIntentRow} {state : ReportIntentState}
    {allowedStates : List ReportIntentState} (latest : run.reportIntents.head? = some intent)
    (unpublished : state = .publicationFailed ∨ state = .artifactConflict)
    (allowed : ∀ old ∈ allowedStates, old = .committed ∨ old = .publicationFailed)
    (accepted : run.markReport kept intent state allowedStates = .ok after) : StoreWrites run after := by
  unfold StagedRun.markReport at accepted
  split at accepted
  · cases accepted
    exact .refl
  · unfold StagedRun.appendReportPublicationEventLocked at accepted
    simp only [bind_unit_eq_ok] at accepted
    cases accepted.2
    exact (StoreWrite.mark intent state allowedStates latest unpublished allowed).writes

theorem settlementIntent_writes {result : AuthoritativeSettlementResult}
    {authority : Option CanonicalFinalCommitMarker} {now : ℤ}
    (accepted : run.settlementIntent result authority now = .ok after) : StoreWrites run after := by
  unfold StagedRun.settlementIntent at accepted
  split at accepted
  · split at accepted
    · exact (StoreWrite.intent _ now accepted).writes
    · have noted : StoreAside run (run.withRows run.toReliabilityRun.appendIncident.2) :=
        ⟨rfl, rfl, rfl, rfl, rfl, rfl, rfl⟩
      exact noted.writes.trans (StoreWrite.intent _ now accepted).writes
  · split at accepted
    · cases accepted
      exact .refl
    · exact commitFailureIntent_writes accepted

theorem finishSettlement_writes {result : AuthoritativeSettlementResult}
    {built : Option CanonicalFinalCommitMarker} {now : ℤ}
    (accepted : run.finishSettlement result built now = .ok after) : StoreWrites run after := by
  unfold StagedRun.finishSettlement at accepted
  simp only [bind_unit_eq_ok] at accepted
  obtain ⟨_, accepted⟩ := accepted
  obtain ⟨gate, _, accepted⟩ := bind_eq_ok.mp accepted
  simp only [bind_unit_eq_ok] at accepted
  obtain ⟨_, accepted⟩ := accepted
  obtain ⟨stored, persists, accepted⟩ := bind_eq_ok.mp accepted
  have persisted : StoreAside run stored := by
    unfold StagedRun.persistSettlement at persists
    simp only [bind_unit_eq_ok] at persists
    cases persists.2
    exact ⟨rfl, rfl, rfl, rfl, rfl, rfl, rfl⟩
  exact persisted.writes.trans (settlementIntent_writes accepted)

/-! ### Stages and replays -/

theorem insertReplayAudit_aside {row : ReplayAuditRow} (accepted : run.insertReplayAudit row = .ok after) :
    StoreAside run after := by
  unfold StagedRun.insertReplayAudit at accepted
  simp only [bind_unit_eq_ok] at accepted
  cases accepted.2
  exact ⟨rfl, rfl, rfl, rfl, rfl, rfl, rfl⟩

theorem registerReplayAuthorizationInventory_aside {input : StagedRun.ReplayInventoryInput}
    (accepted : run.registerReplayAuthorizationInventory input = .ok after) : StoreAside run after := by
  unfold StagedRun.registerReplayAuthorizationInventory at accepted
  obtain ⟨control, _, accepted⟩ := bind_eq_ok.mp accepted
  simp only [bind_unit_eq_ok] at accepted
  obtain ⟨_, accepted⟩ := accepted
  split at accepted
  · cases accepted
  · simp only [bind_unit_eq_ok] at accepted
    obtain ⟨_, _, _, accepted⟩ := accepted
    obtain ⟨inventory, _, accepted⟩ := bind_eq_ok.mp accepted
    simp only [bind_unit_eq_ok] at accepted
    cases accepted.2.2
    exact ⟨rfl, rfl, rfl, rfl, rfl, rfl, rfl⟩

theorem executeAuthenticatedSealedReplay_aside {input : StagedRun.SealedReplayInput}
    (accepted : run.executeAuthenticatedSealedReplay input = .ok after) : StoreAside run after := by
  unfold StagedRun.executeAuthenticatedSealedReplay at accepted
  simp only [bind_unit_eq_ok] at accepted
  obtain ⟨_, accepted⟩ := accepted
  split at accepted
  · cases accepted
  · simp only [bind_unit_eq_ok] at accepted
    obtain ⟨_, _, accepted⟩ := accepted
    split at accepted
    · cases accepted
      exact .refl run
    · simp only [bind_unit_eq_ok] at accepted
      obtain ⟨_, accepted⟩ := accepted
      obtain ⟨audited, audits, accepted⟩ := bind_eq_ok.mp accepted
      have same := insertReplayAudit_aside audits
      cases accepted
      exact ⟨same.runId, same.profile, same.state, same.durableStage, same.reportIntents,
        same.nextReportIntentSequence, same.reportReceipts⟩

theorem recordReplayAudit_aside {row : ReplayAuditRow} (accepted : run.recordReplayAudit row = .ok after) :
    StoreAside run after := by
  unfold StagedRun.recordReplayAudit at accepted
  simp only [bind_unit_eq_ok] at accepted
  obtain ⟨_, accepted⟩ := accepted
  obtain ⟨control, _, accepted⟩ := bind_eq_ok.mp accepted
  exact insertReplayAudit_aside accepted

theorem completeReplayRun_writes (accepted : run.completeReplayRun = .ok after) : StoreWrites run after := by
  unfold StagedRun.completeReplayRun at accepted
  obtain ⟨control, _, accepted⟩ := bind_eq_ok.mp accepted
  simp only [bind_unit_eq_ok] at accepted
  cases accepted.2.2
  have counted : StoreAside run { run with replayPassedCount := 20 } :=
    ⟨rfl, rfl, rfl, rfl, rfl, rfl, rfl⟩
  exact counted.writes.trans (StoreWrite.enter .replayTerminal fun same => by cases same).writes

theorem advanceDurableStage_writes {target : DurableReliabilityStage}
    (accepted : run.advanceDurableStage target = .ok after) : StoreWrites run after := by
  unfold StagedRun.advanceDurableStage at accepted
  obtain ⟨control, locked, accepted⟩ := bind_eq_ok.mp accepted
  simp only [bind_unit_eq_ok, require_eq_ok, decide_eq_true_eq] at accepted
  obtain ⟨going, accepted⟩ := accepted
  obtain ⟨next, _, accepted⟩ := bind_eq_ok.mp accepted
  cases accepted
  rw [ProtocolRun.lockControlProfile_eq_ok locked] at going
  exact (StoreWrite.advance next going).writes

theorem bindArtifactInventory_writes {artifactDigests : List (String × String)}
    (accepted : run.bindArtifactInventory artifactDigests = .ok after) : StoreWrites run after := by
  unfold StagedRun.bindArtifactInventory at accepted
  simp only [bind_unit_eq_ok] at accepted
  obtain ⟨_, accepted⟩ := accepted
  obtain ⟨control, _, accepted⟩ := bind_eq_ok.mp accepted
  simp only [bind_unit_eq_ok] at accepted
  obtain ⟨_, _, _, accepted⟩ := accepted
  obtain ⟨bound, _, accepted⟩ := bind_eq_ok.mp accepted
  simp only [bind_unit_eq_ok] at accepted
  cases accepted.2
  have stored : StoreAside run (run.withRows { run.toReliabilityRun with
      artifactBindings := StagedRun.sortBindings artifactDigests }) := ⟨rfl, rfl, rfl, rfl, rfl, rfl, rfl⟩
  exact stored.writes.trans (StoreWrite.enter .artifactBound fun same => by cases same).writes

theorem appendSettlementPoll_aside {pollNo : ℕ} {offsetSeconds : ℤ} {snapshotDigest : String}
    {complete : Bool}
    (accepted : run.appendSettlementPoll pollNo offsetSeconds snapshotDigest complete = .ok after) :
    StoreAside run after := by
  unfold StagedRun.appendSettlementPoll at accepted
  simp only [bind_unit_eq_ok] at accepted
  obtain ⟨_, accepted⟩ := accepted
  obtain ⟨control, _, accepted⟩ := bind_eq_ok.mp accepted
  simp only [bind_unit_eq_ok] at accepted
  cases accepted.2
  exact ⟨rfl, rfl, rfl, rfl, rfl, rfl, rfl⟩

theorem finalizeSettlement_aside {snapshotDigest : String} {acceptedOffsetSeconds : Option ℤ}
    (accepted : run.finalizeSettlement snapshotDigest acceptedOffsetSeconds = .ok after) :
    StoreAside run after := by
  unfold StagedRun.finalizeSettlement at accepted
  obtain ⟨control, _, accepted⟩ := bind_eq_ok.mp accepted
  simp only [bind_unit_eq_ok] at accepted
  cases accepted.2.2.2
  exact ⟨rfl, rfl, rfl, rfl, rfl, rfl, rfl⟩

theorem commitCanonicalFinalReport_aside {marker : CanonicalFinalCommitMarker}
    (accepted : run.commitCanonicalFinalReport marker = .ok after) : StoreAside run after := by
  unfold StagedRun.commitCanonicalFinalReport at accepted
  obtain ⟨path, _, accepted⟩ := bind_eq_ok.mp accepted
  obtain ⟨control, _, accepted⟩ := bind_eq_ok.mp accepted
  simp only [bind_unit_eq_ok] at accepted
  cases accepted.2.2.2.2
  exact ⟨rfl, rfl, rfl, rfl, rfl, rfl, rfl⟩

theorem finishFailureReport_aside {now : ℤ} (accepted : run.finishFailureReport now = .ok after) :
    StoreAside run after := by
  unfold StagedRun.finishFailureReport at accepted
  obtain ⟨control, _, accepted⟩ := bind_eq_ok.mp accepted
  simp only [bind_unit_eq_ok] at accepted
  cases accepted.2
  exact ⟨rfl, rfl, rfl, rfl, rfl, rfl, rfl⟩

/-! ### All transactions -/

/-- **A call that is one transaction is a sequence of writes.** -/
theorem transact_writes {call : StoreTransaction} (accepted : run.transact call = .ok after) :
    StoreWrites run after := by
  cases call with
  | protocol op stated => exact protocol_writes stated accepted
  | registerReplayAuthorizationInventory input =>
    exact (registerReplayAuthorizationInventory_aside accepted).writes
  | executeAuthenticatedSealedReplay input => exact (executeAuthenticatedSealedReplay_aside accepted).writes
  | recordReplayAudit row => exact (recordReplayAudit_aside accepted).writes
  | completeReplayRun => exact completeReplayRun_writes accepted
  | advanceDurableStage target => exact advanceDurableStage_writes accepted
  | bindArtifactInventory artifactDigests => exact bindArtifactInventory_writes accepted
  | appendSettlementPoll pollNo offsetSeconds snapshotDigest complete =>
    exact (appendSettlementPoll_aside accepted).writes
  | finalizeSettlement snapshotDigest acceptedOffsetSeconds =>
    exact (finalizeSettlement_aside accepted).writes
  | runAndPersistAuthoritativeSettlement result built now => exact finishSettlement_writes accepted
  | commitCanonicalFinalReport marker => exact (commitCanonicalFinalReport_aside accepted).writes
  | publishPendingFailureReport now => exact (finishFailureReport_aside accepted).writes

/-! ### Publications -/

theorem beginReportIntent_writes {now : ℤ} {pending : Option StagedRun.PendingReport}
    (accepted : run.beginReportIntent now = .ok (pending, after)) : StoreWrites run after := by
  unfold StagedRun.beginReportIntent at accepted
  obtain ⟨control, _, accepted⟩ := bind_eq_ok.mp accepted
  split at accepted
  · cases accepted
    exact .refl
  · next intent latest =>
    split at accepted
    · cases accepted
      exact .refl
    · simp only [bind_unit_eq_ok] at accepted
      obtain ⟨_, accepted⟩ := accepted
      obtain ⟨marked, marks, accepted⟩ := bind_eq_ok.mp accepted
      have marking : StoreWrites run marked := markReport_writes latest (.inl rfl) (by simp) marks
      split at accepted
      · obtain ⟨superseded, supersedes, accepted⟩ := bind_eq_ok.mp accepted
        cases accepted
        exact marking.trans (commitFailureIntent_writes supersedes)
      · cases accepted
        exact marking

/-- What a publisher sets out to publish is the latest intent, which has no receipt. -/
theorem pending_of_beginReportIntent {now : ℤ} {pending : StagedRun.PendingReport}
    (accepted : run.beginReportIntent now = .ok (some pending, after)) :
    run.reportIntents.head? = some pending.intent ∧ run.hasReceipt pending.intent.intentSequence = false ∧
      (pending.intent.reportKind = .pass → now < pending.intent.publicationDeadline) ∧
      run.markReport (decide (now < pending.intent.publicationDeadline) ||
        pending.intent.state = .publicationFailed) pending.intent .publicationFailed [.committed] =
          .ok after := by
  unfold StagedRun.beginReportIntent at accepted
  obtain ⟨control, _, accepted⟩ := bind_eq_ok.mp accepted
  split at accepted
  · cases accepted
  · next intent latest =>
    split at accepted
    · cases accepted
    · next fresh =>
      simp only [bind_unit_eq_ok] at accepted
      obtain ⟨_, accepted⟩ := accepted
      obtain ⟨marked, marks, accepted⟩ := bind_eq_ok.mp accepted
      split at accepted
      · obtain ⟨superseded, _, accepted⟩ := bind_eq_ok.mp accepted
        cases accepted
      · next kept =>
        cases accepted
        refine ⟨latest, Bool.eq_false_iff.mpr fresh, fun pass => ?_, ?_⟩
        · by_contra late
          refine kept ?_
          unfold reportPublicationDeadlineDisposition
          rw [if_neg late, pass]
        · rw [← marks]
          congr 1
          unfold reportPublicationDeadlineDisposition
          split
          · next early => simp [early]
          · next late => cases intent.reportKind <;> simp [late]

theorem conflictReportIntent_writes {pending : StagedRun.PendingReport} {now : ℤ}
    (accepted : run.conflictReportIntent pending now = .ok after) : StoreWrites run after := by
  unfold StagedRun.conflictReportIntent at accepted
  obtain ⟨control, _, accepted⟩ := bind_eq_ok.mp accepted
  split at accepted
  · cases accepted
  · next intent found =>
    obtain ⟨marked, marks, accepted⟩ := bind_eq_ok.mp accepted
    have latest := (Option.filter_eq_some_iff.mp found).1
    have marking : StoreWrites run marked := markReport_writes latest (.inr rfl) (by simp) marks
    split at accepted
    · exact marking.trans (commitFailureIntent_writes accepted)
    · cases accepted
      have noted : StoreAside marked (marked.withRows marked.toReliabilityRun.appendIncident.2) :=
        ⟨rfl, rfl, rfl, rfl, rfl, rfl, rfl⟩
      exact marking.trans noted.writes

namespace StagedRun

/-- The run with a receipt of an intent. -/
def withReceipt (run : StagedRun) (intent : ReportIntentRow) : StagedRun :=
  { run with reportReceipts := ⟨intent.intentSequence, intent.reportBytes⟩ :: run.reportReceipts }

/-- An intent with a receipt, published. -/
def withPublished (run : StagedRun) (intent : ReportIntentRow) : StagedRun :=
  (run.withReceipt intent).withIntentState intent.intentSequence .published [.committed]

/-- The run is complete. -/
def completed (run : StagedRun) : StagedRun :=
  { run with durableStage := .finalCommitted, control := { run.control with state := .complete } }

end StagedRun

/-- A committed intent has the sequence number. -/
def StagedRun.isCommitted (run : StagedRun) (intentSequence : ℕ) : Prop :=
  ∃ old ∈ run.reportIntents, old.intentSequence = intentSequence ∧ old.state = .committed

/-- What the last transaction of a publication does with an intent. -/
inductive ReportFinish (run : StagedRun) (intent : ReportIntentRow) : StagedRun → Prop
  | again (received : run.hasReceipt intent.intentSequence = true) : ReportFinish run intent run
  | failure (kind : intent.reportKind = .failure) (committed : run.isCommitted intent.intentSequence) :
    ReportFinish run intent (run.withPublished intent)
  | pass (kind : intent.reportKind = .pass) (committed : run.isCommitted intent.intentSequence)
    (settled : run.durableStage = .settled) (active : run.control.state = .active) :
    ReportFinish run intent (run.withPublished intent).completed
  | late {after : StagedRun} (writes : StoreWrites (run.withReceipt intent) after) :
    ReportFinish run intent after

theorem markReport_published {received published : StagedRun} {intent : ReportIntentRow}
    (accepted : received.markReport false intent .published [.committed] = .ok published) :
    received.isCommitted intent.intentSequence ∧
      published = received.withIntentState intent.intentSequence .published [.committed] := by
  unfold StagedRun.markReport StagedRun.appendReportPublicationEventLocked at accepted
  simp only [Bool.false_eq_true, if_false, bind_unit_eq_ok, require_eq_ok, List.any_eq_true,
    Bool.and_eq_true, decide_eq_true_eq, List.contains_iff_mem, List.mem_singleton] at accepted
  obtain ⟨⟨old, member, own, committed⟩, accepted⟩ := accepted
  cases accepted
  exact ⟨⟨old, member, own, committed⟩, rfl⟩

theorem missReport_writes {intent : ReportIntentRow} {lateAtStart : Bool} {now : ℤ}
    (latest : run.reportIntents.head? = some intent)
    (accepted : run.missReport intent lateAtStart now = .ok after) : StoreWrites run after := by
  unfold StagedRun.missReport at accepted
  obtain ⟨marked, marks, accepted⟩ := bind_eq_ok.mp accepted
  have marking : StoreWrites run marked := markReport_writes latest (.inl rfl) (by simp) marks
  split at accepted
  · cases accepted
    exact marking
  · exact marking.trans (commitFailureIntent_writes accepted)

/-- A publisher ends with the intent it has published, which must still be the latest one. -/
theorem finishReportIntent_eq_ok {pending : StagedRun.PendingReport} {now : ℤ} {late : Bool}
    (accepted : run.finishReportIntent pending now = .ok (late, after)) :
    ∃ intent, run.reportIntents.head? = some intent ∧
      intent.intentSequence = pending.intent.intentSequence ∧
      intent.reportBytes = pending.intent.reportBytes ∧ ReportFinish run intent after := by
  unfold StagedRun.finishReportIntent at accepted
  obtain ⟨control, _, accepted⟩ := bind_eq_ok.mp accepted
  split at accepted
  · cases accepted
  · next intent found =>
    obtain ⟨latest, own⟩ := Option.filter_eq_some_iff.mp found
    simp only [Bool.and_eq_true, decide_eq_true_eq] at own
    refine ⟨intent, latest, own.1, own.2, ?_⟩
    rw [← own.2] at accepted
    split at accepted
    · next received =>
      simp only [bind_unit_eq_ok] at accepted
      cases accepted.2
      exact .again received
    · dsimp only at accepted
      split at accepted
      · obtain ⟨done, publishes, accepted⟩ := bind_eq_ok.mp accepted
        cases accepted
        unfold StagedRun.publishReport at publishes
        obtain ⟨published, marks, publishes⟩ := bind_eq_ok.mp publishes
        obtain ⟨committed, rfl⟩ := markReport_published marks
        split at publishes
        · next kind =>
          cases publishes
          exact .failure kind committed
        · next kind =>
          simp only [bind_unit_eq_ok, require_eq_ok, Bool.and_eq_true, decide_eq_true_eq] at publishes
          obtain ⟨⟨settled, active⟩, publishes⟩ := publishes
          cases publishes
          exact .pass kind committed settled active
      · obtain ⟨missed, misses, accepted⟩ := bind_eq_ok.mp accepted
        cases accepted
        exact .late (missReport_writes latest misses)

/-- The last transaction of the publication of a final report completes the run. -/
theorem finishFinalReport_eq_ok {now : ℤ} (accepted : run.finishFinalReport now = .ok after) :
    (run.durableStage = .settled ∨ run.durableStage = .finalCommitted) ∧
      after.durableStage = .finalCommitted ∧ after.control.state = .complete ∧
      after.runId = run.runId ∧ after.control.profile = run.control.profile ∧
      after.reportIntents = run.reportIntents ∧ after.reportReceipts = run.reportReceipts ∧
      after.nextReportIntentSequence = run.nextReportIntentSequence := by
  unfold StagedRun.finishFinalReport at accepted
  obtain ⟨control, _, accepted⟩ := bind_eq_ok.mp accepted
  simp only [bind_unit_eq_ok, require_eq_ok, Bool.or_eq_true, decide_eq_true_eq] at accepted
  obtain ⟨stage, accepted⟩ := accepted
  cases accepted
  exact ⟨stage, rfl, rfl, rfl, rfl, rfl, rfl, rfl⟩

end Writes

end FuseControlPlane.Reliability
