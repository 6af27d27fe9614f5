/-
Whether failure of a run is final.

* `KeepsFailure`: a run that had failed still has, and its final report is not committed since.
* `StoreWrite.failed`, `ReportFinish.failed`: every write and the end of a report intent's publication
  keep it.
* `revives`: the publication of a final report ends after the run has failed. It asks for the stage only,
  where the publication of a report intent asks for the state as well.
* `failureAbsorbs_iff`: **failure is final in exactly the runs without such a step**, from any start.
-/

import FuseControlPlane.Reliability.SettledRuns

set_option linter.unusedSectionVars false

namespace FuseControlPlane.Reliability

open Foundation Foundation.JavaScript Domain Evidence

/-! ### Failed runs -/

/-- The run has failed, and its final report is not committed unless it was before. -/
structure KeepsFailure (before run : StagedRun) : Prop where
  state : run.control.state = .failed
  stage : run.durableStage = .finalCommitted → before.durableStage = .finalCommitted

namespace StagedRun

section Completion

variable [ProtocolProfiles]

/-- The publication of a final report may end: the row is that of the run's profile, and the run is
settled. Its state is not asked for. -/
def isFinalCommittable (run : StagedRun) : Bool :=
  run.lockControlProfile.toOption.isSome &&
    (run.durableStage = .settled || run.durableStage = .finalCommitted)

end Completion

end StagedRun

section Failure

variable [NodeCrypto] [Collation] [ProtocolProfiles]

/-- A step completes a run that has failed. -/
def StoreWorld.revives (world : StoreWorld) : StoreOp → Bool
  | .finishFinal index _ =>
    world.run.control.state = .failed && (world.finalPublishers[index]?).any FinalPublisher.published &&
      world.run.isFinalCommittable
  | _ => false

/-- Once a run has failed, it never becomes active or complete again, and its durable stage never becomes
`final_committed`. -/
def FailureAbsorbs (world : StoreWorld) (ops : List StoreOp) : Prop :=
  ∀ first second, first ++ second <+: ops →
    (run StoreWorld.storeStep world first).run.control.state = .failed →
      KeepsFailure (run StoreWorld.storeStep world first).run
        (run StoreWorld.storeStep world (first ++ second)).run

variable {before current after : StagedRun}

theorem commitReportIntentLocked_control {input : ReliabilityRun.ReportIntentInput} {now : ℤ}
    (accepted : current.commitReportIntentLocked input now = .ok after) :
    after.control = current.control ∧ after.durableStage = current.durableStage := by
  obtain ⟨rows, committed, rfl⟩ := StagedRun.carry_eq_ok.mp accepted
  refine ⟨?_, rfl⟩
  rcases commitReportIntentLocked_eq_ok committed with rfl | ⟨rfl, _⟩ <;> rfl

/-- A write does not end the failure of a run. -/
theorem StoreWrite.failed (held : KeepsFailure before current) (write : StoreWrite current after) :
    KeepsFailure before after := by
  cases write with
  | aside same => exact ⟨same.state.trans held.state, fun final => held.stage (same.durableStage ▸ final)⟩
  | fail => exact ⟨rfl, held.stage⟩
  | enter stage early => exact ⟨held.state, fun final => absurd final early⟩
  | advance stage going => exact absurd held.state going
  | intent input now accepted =>
    obtain ⟨control, stage⟩ := commitReportIntentLocked_control accepted
    exact ⟨control ▸ held.state, fun final => held.stage (stage ▸ final)⟩
  | mark intent state allowedStates latest unpublished allowed => exact ⟨held.state, held.stage⟩

theorem StoreWrites.failed (held : KeepsFailure before current) (writes : StoreWrites current after) :
    KeepsFailure before after :=
  writes.keeps (KeepsFailure before) StoreWrite.failed held

/-- The publication of a report intent completes only an active run. -/
theorem ReportFinish.failed {intent : ReportIntentRow} (held : KeepsFailure before current)
    (finish : ReportFinish current intent after) : KeepsFailure before after := by
  cases finish with
  | again received => exact held
  | failure kind committed => exact ⟨held.state, held.stage⟩
  | pass kind committed settled active =>
    rw [held.state] at active
    cases active
  | late writes =>
    have received : KeepsFailure before (current.withReceipt intent) := ⟨held.state, held.stage⟩
    exact writes.failed received

/-! ### Steps -/

variable {world : StoreWorld}

theorem isFinalCommittable_of_finish {now : ℤ} (accepted : current.finishFinalReport now = .ok after) :
    current.isFinalCommittable = true := by
  obtain ⟨stage, _⟩ := finishFinalReport_eq_ok accepted
  unfold StagedRun.finishFinalReport at accepted
  obtain ⟨control, locked, _⟩ := bind_eq_ok.mp accepted
  unfold StagedRun.isFinalCommittable
  rw [locked]
  simpa [Except.toOption] using stage

theorem finish_of_isFinalCommittable (now : ℤ) (committable : current.isFinalCommittable = true) :
    ∃ after, current.finishFinalReport now = .ok after ∧ after.control.state = .complete := by
  unfold StagedRun.isFinalCommittable at committable
  obtain ⟨locked, stage⟩ := Bool.and_eq_true_iff.mp committable
  unfold StagedRun.finishFinalReport
  cases lock : current.lockControlProfile with
  | error error =>
    rw [lock] at locked
    cases locked
  | ok control =>
    simp only [bind, Except.bind, require, stage, if_true]
    exact ⟨_, rfl, rfl⟩

/-- A step that does not revive a run does not end its failure. -/
theorem WorldStep.failed {later : StoreWorld} {op : StoreOp} (held : KeepsFailure before world.run)
    (spared : world.revives op = false) (step : WorldStep world op later) :
    KeepsFailure before later.run := by
  cases step with
  | writes writes fewer fewerFinal => exact writes.failed held
  | begin accepted => exact (beginReportIntent_writes accepted).failed held
  | publishIntent member begun free moves => exact held
  | publishReport member published free moves => exact held
  | conflict member moves => exact held
  | finish member published latest own same finish fewer => exact finish.failed held
  | beginFinal accepted => exact held
  | publishFinal member free moves => exact held
  | finishFinal called found published accepted fewer =>
    have revived : world.revives op = true := by
      rw [called]
      unfold StoreWorld.revives
      dsimp only
      rw [found, held.state, isFinalCommittable_of_finish accepted, Option.any_some, published]
      rfl
    rw [spared] at revived
    cases revived

/-- A step that revives a run completes it. -/
theorem complete_of_revives {op : StoreOp} (revived : world.revives op = true) :
    world.run.control.state = .failed ∧ (world.storeStep op).run.control.state = .complete := by
  cases op with
  | finishFinal index now =>
    unfold StoreWorld.revives at revived
    simp only [Bool.and_eq_true, decide_eq_true_eq] at revived
    obtain ⟨⟨failed, published⟩, committable⟩ := revived
    refine ⟨failed, ?_⟩
    show (world.withFinal index (world.finishFinal index · now)).run.control.state = .complete
    unfold StoreWorld.withFinal
    cases found : world.finalPublishers[index]? with
    | none =>
      rw [found] at published
      cases published
    | some publisher =>
      rw [found, Option.any_some] at published
      obtain ⟨after, finishes, complete⟩ := finish_of_isFinalCommittable now committable
      show (world.finishFinal index publisher now).run.control.state = .complete
      unfold StoreWorld.finishFinal
      rw [if_pos published, finishes]
      exact complete
  | _ => cases revived

/-- **Failure of a run is final exactly if no publication of a final report ends after it.** -/
theorem failureAbsorbs_iff (world : StoreWorld) (ops : List StoreOp) :
    FailureAbsorbs world ops ↔
      Along StoreWorld.storeStep (fun world op => world.revives op = false) world ops := by
  constructor
  · intro absorbs
    refine Along.iff_prefix.mpr fun earlier op before => Bool.eq_false_iff.mpr fun revived => ?_
    obtain ⟨failed, complete⟩ := complete_of_revives revived
    have kept := (absorbs earlier [op] before failed).state
    rw [run_append, run_cons, run_nil, complete] at kept
    cases kept
  · rintro along first second ⟨later, rfl⟩ failed
    rw [run_append]
    have rest := (Along.append.mp (Along.append.mp along).1).2
    have start : KeepsFailure (run StoreWorld.storeStep world first).run
        (run StoreWorld.storeStep world first).run := ⟨failed, id⟩
    exact rest.invariant start fun world op held spared =>
      (storeStep_cases world op).failed held spared

end Failure

/-! ### A final report that is published after the run has failed -/

namespace Sample

/-- The run settles and commits its final report; it fails while the report is published. -/
def failedOps (runId : String) (profile : ReliabilityProtocolProfile) : List StoreOp :=
  artifactOps ++ [settleOp runId profile, advanceOp .settled] ++
    [.transaction (.commitCanonicalFinalReport (marker runId profile)), .beginFinal, .publishFinal 0] ++
    [.transaction (.protocol (.failProtocol "STOPPED" 7000) rfl)]

end Sample

section Revival

variable [NodeCrypto] [Collation] [ProtocolProfiles] {runId : String} {profile : ReliabilityProtocolProfile}
  {world : StoreWorld} {current : StagedRun}

/-- A settled run, of which a publisher has published a final report. -/
structure FinalPublished (runId : String) (profile : ReliabilityProtocolProfile) (world : StoreWorld) :
    Prop where
  undisturbed : Undisturbed runId profile world.run.toReliabilityRun
  durableStage : world.run.durableStage = .settled
  published : (world.finalPublishers[0]?).any FinalPublisher.published = true

/-- The final report of a run, at a path. -/
def finalReportAt (runId : String) (profile : ReliabilityProtocolProfile) (path : String) : FinalReportRow :=
  ⟨path, (Sample.marker runId profile).toJson.stringify ++ "\n", none⟩

theorem commit_settled {path : String} (settled : Settled runId profile current)
    (unsequenced : usesSequencedReportIntents profile.protocolVersion = false)
    (placed : canonicalFinalCommitPath runId = .ok path) :
    current.commitCanonicalFinalReport (Sample.marker runId profile) =
      .ok { current with finalReport := some (finalReportAt runId profile path) } := by
  have calm := settled.undisturbed
  unfold StagedRun.commitCanonicalFinalReport
  rw [calm.sameRun, placed, ok_bind, calm.lock, ok_bind, calm.sameProfile, unsequenced, Bool.not_false,
    require_bind rfl, require_bind (decide_eq_true settled.durableStage),
    settled.settlementFinalSnapshot, settled.finalReport]
  refine (require_bind ?_).trans ((require_bind (decide_eq_true rfl)).trans rfl)
  simp [AuthoritativeSettlementResult.finalSnapshot, Sample.settlement_accepted.2.1, Sample.marker]

theorem begin_committed {path : String} (calm : Undisturbed runId profile current.toReliabilityRun)
    (unsequenced : usesSequencedReportIntents profile.protocolVersion = false)
    (placed : canonicalFinalCommitPath runId = .ok path)
    (committed : current.finalReport = some (finalReportAt runId profile path)) :
    current.beginFinalReport = .ok (some (finalReportAt runId profile path)) := by
  unfold StagedRun.beginFinalReport
  rw [calm.lock, ok_bind, calm.sameProfile, unsequenced, Bool.not_false, require_bind rfl, committed]
  dsimp only
  rw [calm.sameRun, placed, ok_bind]
  exact (require_bind (decide_eq_true rfl)).trans rfl

/-- The final report of a settled run is committed and published. -/
theorem publish_settled {path : String} (settled : Settled runId profile world.run)
    (unsequenced : usesSequencedReportIntents profile.protocolVersion = false)
    (placed : canonicalFinalCommitPath runId = .ok path) (free : world.reportFile = none)
    (first : world.finalPublishers = []) :
    FinalPublished runId profile (Foundation.run StoreWorld.storeStep world
      [.transaction (.commitCanonicalFinalReport (Sample.marker runId profile)), .beginFinal,
        .publishFinal 0]) := by
  let report := finalReportAt runId profile path
  let committed : StoreWorld := { world with run := { world.run with finalReport := some report } }
  let begun : StoreWorld := { committed with finalPublishers := [⟨report, false⟩] }
  have calm : Undisturbed runId profile committed.run.toReliabilityRun := settled.undisturbed
  have toCommitted : world.storeStep
      (.transaction (.commitCanonicalFinalReport (Sample.marker runId profile))) = committed := by
    show world.settle (world.run.commitCanonicalFinalReport _) = committed
    rw [commit_settled settled unsequenced placed]
    rfl
  have toBegun : committed.storeStep .beginFinal = begun := by
    show committed.beginFinal = begun
    unfold StoreWorld.beginFinal
    rw [begin_committed calm unsequenced placed rfl]
    show { committed with finalPublishers := world.finalPublishers ++ [⟨report, false⟩] } = begun
    rw [first]
    rfl
  have toPublished : begun.storeStep (.publishFinal 0) =
      { begun with finalPublishers := [⟨report, true⟩], reportFile := some report.reportBytes } := by
    show begun.publishFinal 0 ⟨report, false⟩ = _
    unfold StoreWorld.publishFinal
    dsimp only
    rw [if_neg (by simp [conflicts, begun, committed, free])]
    rfl
  rw [run_cons, toCommitted, run_cons, toBegun, run_cons, toPublished, run_nil]
  exact ⟨calm, settled.durableStage, rfl⟩

/-- The run fails, and its publisher completes it. -/
theorem fail_published (published : FinalPublished runId profile world)
    (unsequenced : usesSequencedReportIntents profile.protocolVersion = false) :
    (world.storeStep (.transaction (.protocol (.failProtocol "STOPPED" 7000) rfl))).revives
      (.finishFinal 0 8000) = true := by
  have calm := published.undisturbed
  let failed : StoreWorld := { world with
    run := world.run.withRows (world.run.toReliabilityRun.failRows 7000).appendIncident.2 }
  have locks : failed.run.lockControlProfile = .ok failed.run.control :=
    lockControlProfile_of_same calm.sameRun calm.sameProfile calm.profiled
  have commits (input : ReliabilityRun.ReportIntentInput) (now : ℤ) :
      failed.run.toReliabilityRun.commitReportIntentLocked input now = .ok failed.run.toReliabilityRun := by
    have version : failed.run.control.profile = profile := calm.sameProfile
    unfold ReliabilityRun.commitReportIntentLocked
    rw [locks, ok_bind, version, unsequenced, Bool.not_false, if_pos rfl]
    rfl
  have toFailed : world.storeStep (.transaction (.protocol (.failProtocol "STOPPED" 7000) rfl)) = failed := by
    show world.settle (world.run.carry (world.run.toReliabilityRun.failProtocolLocked _ _)) = failed
    unfold ReliabilityRun.failProtocolLocked
    rw [calm.lock, ok_bind, if_neg (by rw [calm.active]; simp)]
    show world.settle (world.run.carry (failed.run.toReliabilityRun.commitReportIntentLocked _ _)) = failed
    rw [commits]
    rfl
  have committable : failed.run.isFinalCommittable = true := by
    have stage : failed.run.durableStage = .settled := published.durableStage
    unfold StagedRun.isFinalCommittable
    rw [locks, stage]
    rfl
  have reported : (failed.finalPublishers[0]?).any FinalPublisher.published = true := published.published
  rw [toFailed]
  unfold StoreWorld.revives
  dsimp only
  rw [reported, committable]
  rfl

/-- A run without report intents fails while its final report is published. -/
theorem fail_settled {path : String} (profiled : reliabilityProtocolProfileForRunId runId = .ok profile)
    (unsequenced : usesSequencedReportIntents profile.protocolVersion = false)
    (placed : canonicalFinalCommitPath runId = .ok path) :
    (Foundation.run StoreWorld.storeStep (.initialWorld runId profile "plan" none ["normal-paced"])
      (Sample.failedOps runId profile)).revives (.finishFinal 0 8000) = true := by
  obtain ⟨bound, toBound, isBound⟩ := artifactOps_reach profiled
  let boundWorld : StoreWorld :=
    { StoreWorld.initialWorld runId profile "plan" none ["normal-paced"] with run := bound }
  have boundThere : ArtifactsBound runId profile boundWorld.run := isBound
  obtain ⟨settled, toSettled, isSettled⟩ := settle_run boundThere unsequenced
  let settledWorld : StoreWorld := { boundWorld with run := settled }
  have settledThere : Settled runId profile settledWorld.run := isSettled
  have published := publish_settled settledThere unsequenced placed rfl rfl
  unfold Sample.failedOps
  rw [run_append, run_append, run_append, toBound, toSettled]
  exact fail_published published unsequenced

/-- The run is complete after it has failed. -/
theorem not_failureAbsorbs {path : String} (profiled : reliabilityProtocolProfileForRunId runId = .ok profile)
    (unsequenced : usesSequencedReportIntents profile.protocolVersion = false)
    (placed : canonicalFinalCommitPath runId = .ok path) :
    ¬ FailureAbsorbs (.initialWorld runId profile "plan" none ["normal-paced"])
      (Sample.failedOps runId profile ++ [.finishFinal 0 8000]) := by
  intro absorbs
  obtain ⟨failed, complete⟩ := complete_of_revives (fail_settled profiled unsequenced placed)
  have kept := (absorbs (Sample.failedOps runId profile) [.finishFinal 0 8000] (List.prefix_refl _)
    failed).state
  rw [run_append, run_cons, run_nil, complete] at kept
  cases kept

end Revival

/-- **A run of version 2 is complete after it has failed.** -/
theorem complete_after_failure :
    letI := Sample.crypto
    letI := Sample.collation
    letI := Sample.profiles
    ¬ FailureAbsorbs (.initialWorld "run-1" (ProtocolVersion.profile .v2) "plan" none ["normal-paced"])
      (Sample.failedOps "run-1" (ProtocolVersion.profile .v2) ++ [.finishFinal 0 8000]) := by
  let := Sample.crypto
  let := Sample.collation
  let := Sample.profiles
  have profiled : reliabilityProtocolProfileForRunId "run-1" = .ok (ProtocolVersion.profile .v2) := by
    decide +kernel
  have placed : canonicalFinalCommitPath "run-1" =
      .ok "evidence/held-out-reliability/replay/run-1.json" := by
    decide +kernel
  exact not_failureAbsorbs profiled rfl placed

end FuseControlPlane.Reliability
