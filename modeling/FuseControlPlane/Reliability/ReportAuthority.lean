/-
The canonical report file of a run and its report intents.

* `ReportsSound`: publishers and files are those of the intents, receipts are for the bytes of the file, and
  a published intent has a receipt.
* `WorldStep.reports`: **every step keeps all of it**, whatever publishers stop in between.
-/

import FuseControlPlane.Reliability.ReportOutbox

set_option linter.unusedSectionVars false

namespace FuseControlPlane.Reliability

open Foundation Foundation.JavaScript Domain Evidence

/-! ### Files -/

/-- A file with bytes still has them. -/
def FileKept (before after : Option String) : Prop := ∀ bytes, before = some bytes → after = some bytes

theorem FileKept.refl (file : Option String) : FileKept file file := fun _ held => held

/-- A file that no conflict keeps from being written. -/
theorem fileKept_of_free {file : Option String} {bytes : String} (free : conflicts file bytes = false) :
    FileKept file (some bytes) := by
  intro old held
  rw [held] at free
  have same : old = bytes := by simpa [conflicts] using free
  rw [same]

section Authority

variable [NodeCrypto] [Collation] [ProtocolProfiles]

/-- No step of the store changes the bytes of a file. -/
theorem WorldStep.files {world after : StoreWorld} {op : StoreOp} (step : WorldStep world op after) :
    FileKept world.intentFile after.intentFile ∧ FileKept world.reportFile after.reportFile := by
  cases step with
  | publishIntent member begun free moves => exact ⟨fileKept_of_free free, .refl _⟩
  | publishReport member published free moves => exact ⟨.refl _, fileKept_of_free free⟩
  | publishFinal member free moves => exact ⟨.refl _, fileKept_of_free free⟩
  | _ => exact ⟨.refl _, .refl _⟩

/-! ### Publishers -/

/-- How far a publisher has come, and what the files hold. -/
structure PublisherSound (world : StoreWorld) (publisher : ReportPublisher) : Prop where
  pending : publisher.pending.intent.unstated ∈ world.run.reports
  intent : publisher.phase = .intentPublished ∨ publisher.phase = .reportPublished →
    world.intentFile = some (world.intentBytes publisher)
  report : publisher.phase = .reportPublished →
    world.reportFile = some publisher.pending.intent.reportBytes

/-- The bytes of an intent are those of a run with the same id and profile. -/
theorem intentBytes_of_grows {run after : StagedRun} (grows : OutboxGrows run after) (path : String)
    (intent : ReportIntentRow) : after.intentBytes path intent = run.intentBytes path intent := by
  unfold StagedRun.intentBytes
  rw [grows.runId, grows.profile]

theorem destination_of_grows {world after : StoreWorld} (grows : OutboxGrows world.run after.run) :
    after.destination = world.destination := by
  unfold StoreWorld.destination
  rw [grows.runId]

/-- A publisher goes on while intents are added and files are written. -/
theorem PublisherSound.kept {world after : StoreWorld} {publisher : ReportPublisher}
    (sound : PublisherSound world publisher) (grows : OutboxGrows world.run after.run)
    (intentFile : FileKept world.intentFile after.intentFile)
    (reportFile : FileKept world.reportFile after.reportFile) : PublisherSound after publisher := by
  refine ⟨grows.mem_reports sound.pending, fun phase => ?_, fun phase => reportFile _ (sound.report phase)⟩
  have held := intentFile _ (sound.intent phase)
  unfold StoreWorld.intentBytes at held ⊢
  rw [intentBytes_of_grows grows, destination_of_grows grows]
  exact held

/-! ### Reports -/

/-- An intent whose file and report are written. -/
structure ReportWritten (world : StoreWorld) (report : ReportIntentRow) : Prop where
  known : report ∈ world.run.reports
  intentFile : world.intentFile = some (world.run.intentBytes world.destination report)
  reportFile : world.reportFile = some report.reportBytes

/-- Publishers and files are those of the intents, receipts are for the bytes of the file, and a published
intent has a receipt. -/
structure ReportsSound (world : StoreWorld) : Prop where
  outbox : OutboxSound world.run
  publishers : ∀ publisher ∈ world.reportPublishers, PublisherSound world publisher
  finals : world.run.isSequenced → world.finalPublishers = []
  written : world.run.isSequenced → ∀ bytes, world.reportFile = some bytes →
    ∃ report, ReportWritten world report
  receipts : ∀ receipt ∈ world.run.reportReceipts,
    ∃ report, ReportWritten world report ∧ report.receipt = receipt
  published : ∀ intent ∈ world.run.reportIntents, intent.state = .published →
    intent.receipt ∈ world.run.reportReceipts

theorem ReportWritten.kept {world after : StoreWorld} {report : ReportIntentRow}
    (written : ReportWritten world report) (grows : OutboxGrows world.run after.run)
    (intentFile : FileKept world.intentFile after.intentFile)
    (reportFile : FileKept world.reportFile after.reportFile) : ReportWritten after report := by
  refine ⟨grows.mem_reports written.known, ?_, reportFile _ written.reportFile⟩
  rw [intentBytes_of_grows grows, destination_of_grows grows]
  exact intentFile _ written.intentFile

/-- The report of a publisher that has published it. -/
theorem PublisherSound.written {world : StoreWorld} {publisher : ReportPublisher}
    (sound : PublisherSound world publisher) (done : publisher.phase = .reportPublished) :
    ReportWritten world publisher.pending.intent.unstated :=
  ⟨sound.pending, sound.intent (.inr done), sound.report done⟩

variable {world after : StoreWorld}

/-- A step that writes a run whose receipts are for the files, and no file. -/
theorem ReportsSound.of_run (sound : ReportsSound world) (grows : OutboxGrows world.run after.run)
    (outbox : OutboxSound after.run) (intentFile : after.intentFile = world.intentFile)
    (reportFile : after.reportFile = world.reportFile)
    (publishers : ∀ publisher ∈ after.reportPublishers, publisher ∈ world.reportPublishers ∨
      (publisher.phase = .begun ∧ publisher.pending.intent.unstated ∈ after.run.reports))
    (finals : after.finalPublishers ⊆ world.finalPublishers)
    (receipts : ∀ receipt ∈ after.run.reportReceipts, receipt ∈ world.run.reportReceipts ∨
      ∃ report, ReportWritten world report ∧ report.receipt = receipt)
    (published : ∀ intent ∈ after.run.reportIntents, intent.state = .published →
      intent.receipt ∈ after.run.reportReceipts) : ReportsSound after := by
  have keptIntent : FileKept world.intentFile after.intentFile := intentFile ▸ .refl _
  have keptReport : FileKept world.reportFile after.reportFile := reportFile ▸ .refl _
  refine ⟨outbox, fun publisher member => ?_, fun sequenced => ?_, fun sequenced bytes held => ?_,
    fun receipt member => ?_, published⟩
  · rcases publishers publisher member with old | ⟨begun, known⟩
    · exact (sound.publishers publisher old).kept grows keptIntent keptReport
    · refine ⟨known, fun phase => ?_, fun phase => ?_⟩
      · rw [begun] at phase
        rcases phase with phase | phase <;> cases phase
      · rw [begun] at phase
        cases phase
  · have none := sound.finals (grows.isSequenced.mp sequenced)
    rw [none] at finals
    exact List.subset_nil.mp finals
  · rw [reportFile] at held
    obtain ⟨report, written⟩ := sound.written (grows.isSequenced.mp sequenced) bytes held
    exact ⟨report, written.kept grows keptIntent keptReport⟩
  · have written : ∃ report, ReportWritten world report ∧ report.receipt = receipt :=
      (receipts receipt member).elim (sound.receipts receipt) id
    obtain ⟨report, written, own⟩ := written
    exact ⟨report, written.kept grows keptIntent keptReport, own⟩

/-- A step that adds no receipt and publishes nothing, and writes no file. -/
theorem ReportsSound.of_written (sound : ReportsSound world) (written : OutboxWritten world.run after.run)
    (outbox : OutboxSound after.run) (intentFile : after.intentFile = world.intentFile)
    (reportFile : after.reportFile = world.reportFile)
    (publishers : ∀ publisher ∈ after.reportPublishers, publisher ∈ world.reportPublishers ∨
      (publisher.phase = .begun ∧ publisher.pending.intent.unstated ∈ after.run.reports))
    (finals : after.finalPublishers ⊆ world.finalPublishers) : ReportsSound after := by
  refine sound.of_run written.toOutboxGrows outbox intentFile reportFile publishers finals
    (fun receipt member => .inl ?_) fun intent member published => ?_
  · rwa [written.receipts] at member
  · rw [written.receipts]
    exact sound.published intent (written.published intent member published) published

/-- A step that leaves the run as it is, and writes files that no conflict keeps from being written. -/
theorem ReportsSound.of_files (sound : ReportsSound world) (same : after.run = world.run)
    (intentFile : FileKept world.intentFile after.intentFile)
    (reportFile : FileKept world.reportFile after.reportFile)
    (publishers : ∀ publisher ∈ after.reportPublishers, publisher ∈ world.reportPublishers ∨
      PublisherSound after publisher)
    (finals : world.run.isSequenced → after.finalPublishers = [])
    (written : world.run.isSequenced → ∀ bytes, after.reportFile = some bytes →
      world.reportFile = some bytes ∨ ∃ report, ReportWritten after report) : ReportsSound after := by
  have grows : OutboxGrows world.run after.run := same ▸ .refl _
  refine ⟨same ▸ sound.outbox, fun publisher member => ?_, same ▸ finals, fun sequenced bytes held => ?_,
    fun receipt member => ?_, same ▸ sound.published⟩
  · exact (publishers publisher member).elim
      (fun old => (sound.publishers publisher old).kept grows intentFile reportFile) id
  · have sequenced := grows.isSequenced.mp sequenced
    rcases written sequenced bytes held with before | now
    · obtain ⟨report, written⟩ := sound.written sequenced bytes before
      exact ⟨report, written.kept grows intentFile reportFile⟩
    · exact now
  · rw [same] at member
    obtain ⟨report, written, own⟩ := sound.receipts receipt member
    exact ⟨report, written.kept grows intentFile reportFile, own⟩

/-! ### Steps -/

/-- Publishers of final reports are there only in runs without report intents. -/
theorem unsequenced_of_beginFinalReport {run : StagedRun} {report : FinalReportRow}
    (accepted : run.beginFinalReport = .ok (some report)) : ¬ run.isSequenced := by
  unfold StagedRun.beginFinalReport at accepted
  obtain ⟨control, locked, accepted⟩ := bind_eq_ok.mp accepted
  simp only [bind_unit_eq_ok, require_eq_ok, Bool.not_eq_true'] at accepted
  rw [ProtocolRun.lockControlProfile_eq_ok locked] at accepted
  unfold StagedRun.isSequenced
  rw [accepted.1]
  intro same
  cases same

/-- **Every step keeps publishers, files and receipts those of the intents.** -/
theorem WorldStep.reports {op : StoreOp} (sound : ReportsSound world) (step : WorldStep world op after) :
    ReportsSound after := by
  cases step with
  | writes writes fewer fewerFinal =>
    obtain ⟨written, outbox⟩ := writes.outbox sound.outbox
    exact sound.of_written written outbox rfl rfl (fun _ member => .inl (fewer member)) fewerFinal
  | begin accepted =>
    obtain ⟨written, outbox⟩ := (beginReportIntent_writes accepted).outbox sound.outbox
    obtain ⟨latest, _⟩ := pending_of_beginReportIntent accepted
    refine sound.of_written written outbox rfl rfl (fun publisher member => ?_) (List.Subset.refl _)
    rcases List.mem_append.mp member with old | new
    · exact .inl old
    · rw [List.mem_singleton.mp new]
      exact .inr ⟨rfl, written.mem_reports (List.mem_map_of_mem (List.mem_of_mem_head? latest))⟩
  | publishIntent member begun free moves =>
    have own := sound.publishers _ member
    refine sound.of_files rfl (fileKept_of_free free) (.refl _) (fun publisher moved => ?_) sound.finals
      fun _ _ held => .inl held
    rcases moves publisher moved with old | rfl
    · exact .inl old
    · exact .inr ⟨own.pending, fun _ => rfl, nofun⟩
  | publishReport member published free moves =>
    have own := sound.publishers _ member
    refine sound.of_files rfl (.refl _) (fileKept_of_free free) (fun publisher moved => ?_) sound.finals
      fun _ bytes held => .inr ⟨_, ⟨own.pending, own.intent (.inl published), rfl⟩⟩
    rcases moves publisher moved with old | rfl
    · exact .inl old
    · exact .inr ⟨own.pending, fun _ => own.intent (.inl published), fun _ => rfl⟩
  | conflict member moves =>
    have own := sound.publishers _ member
    refine sound.of_files rfl (.refl _) (.refl _) (fun publisher moved => ?_) sound.finals
      fun _ _ held => .inl held
    rcases moves publisher moved with old | rfl
    · exact .inl old
    · refine .inr ⟨own.pending, fun phase => ?_, nofun⟩
      rcases phase with phase | phase <;> cases phase
  | @finish publisher reports intent later member published latest own same finish fewer =>
    obtain ⟨finished, outbox⟩ := finish.outbox sound.outbox latest
    have written := (sound.publishers _ member).written published
    have receipt : ∃ report, ReportWritten world report ∧ report.receipt = intent.receipt :=
      ⟨_, written, congrArg₂ ReportReceiptRow.mk own.symm same.symm⟩
    refine sound.of_run finished.toOutboxGrows outbox rfl rfl (fun _ member => .inl (fewer member))
      (List.Subset.refl _) (fun row member => ?_) fun row member state => ?_
    · rcases finished.receipts row member with old | rfl
      · exact .inl old
      · exact .inr receipt
    · rcases finished.published row member state with old | ⟨unstated, received⟩
      · exact finished.kept _ (sound.published row old state)
      · have same := congrArg ReportIntentRow.receipt unstated
        exact (show row.receipt = intent.receipt from same) ▸ received
  | beginFinal accepted =>
    have unsequenced := unsequenced_of_beginFinalReport accepted
    exact sound.of_files rfl (.refl _) (.refl _) (fun _ member => .inl member)
      (fun sequenced => absurd sequenced unsequenced) fun _ _ held => .inl held
  | publishFinal member free moves =>
    have unsequenced : ¬ world.run.isSequenced := fun sequenced => by
      rw [sound.finals sequenced] at member
      cases member
    exact sound.of_files rfl (.refl _) (fileKept_of_free free) (fun _ member => .inl member)
      (fun sequenced => absurd sequenced unsequenced) fun sequenced => absurd sequenced unsequenced
  | finishFinal called found published accepted fewer =>
    have unsequenced : ¬ world.run.isSequenced := fun sequenced => by
      rw [sound.finals sequenced] at found
      cases found
    obtain ⟨_, _, _, runId, profile, reportIntents, receipts, next⟩ := finishFinalReport_eq_ok accepted
    obtain ⟨written, outbox⟩ := outbox_of_same sound.outbox runId profile reportIntents next receipts
      fun sequenced => absurd sequenced unsequenced
    exact sound.of_written written outbox rfl rfl (fun _ member => .inl member) fewer

/-! ### Runs -/

/-- What has been committed and written before, and still is. -/
structure ReportsKept (world after : StoreWorld) : Prop where
  grows : OutboxGrows world.run after.run
  receipts : ∀ receipt ∈ world.run.reportReceipts, receipt ∈ after.run.reportReceipts
  reportFile : FileKept world.reportFile after.reportFile

theorem ReportsKept.trans {later : StoreWorld} (first : ReportsKept world after)
    (second : ReportsKept after later) : ReportsKept world later :=
  ⟨first.grows.trans second.grows, fun receipt member => second.receipts receipt (first.receipts receipt member),
    fun bytes held => second.reportFile bytes (first.reportFile bytes held)⟩

theorem WorldStep.kept {op : StoreOp} (sound : ReportsSound world) (step : WorldStep world op after) :
    ReportsKept world after := by
  have files := step.files.2
  cases step with
  | writes writes fewer fewerFinal =>
    obtain ⟨written, _⟩ := writes.outbox sound.outbox
    exact ⟨written.toOutboxGrows, fun _ member => written.receipts.symm ▸ member, files⟩
  | begin accepted =>
    obtain ⟨written, _⟩ := (beginReportIntent_writes accepted).outbox sound.outbox
    exact ⟨written.toOutboxGrows, fun _ member => written.receipts.symm ▸ member, files⟩
  | finish member published latest own same finish fewer =>
    obtain ⟨finished, _⟩ := finish.outbox sound.outbox latest
    exact ⟨finished.toOutboxGrows, finished.kept, files⟩
  | finishFinal called found published accepted fewer =>
    obtain ⟨_, _, _, runId, profile, reportIntents, receipts, _⟩ := finishFinalReport_eq_ok accepted
    refine ⟨⟨runId, profile, ?_, fun _ member _ => reportIntents.symm ▸ member⟩,
      fun _ member => receipts.symm ▸ member, files⟩
    unfold StagedRun.reports
    rw [reportIntents]
  | _ => exact ⟨.refl _, fun _ member => member, files⟩

/-- **What is committed and written stays so in every run.** -/
theorem run_kept (sound : ReportsSound world) (ops : List StoreOp) :
    ReportsSound (Foundation.run StoreWorld.storeStep world ops) ∧
      ReportsKept world (Foundation.run StoreWorld.storeStep world ops) := by
  refine @Foundation.run_invariant _ _ _ (fun later => ReportsSound later ∧ ReportsKept world later) _
    ⟨sound, .refl _, fun _ member => member, .refl _⟩ (fun later op held => ?_) ops
  have step := storeStep_cases later op
  exact ⟨step.reports held.1, held.2.trans (step.kept held.1)⟩

theorem initialWorld_reports {runId : String} {profile : ReliabilityProtocolProfile}
    {planFingerprint : String} {reconciliationCredentialId : Option String} {laneIds : List String}
    (profiled : reliabilityProtocolProfileForRunId runId = .ok profile) :
    ReportsSound (.initialWorld runId profile planFingerprint reconciliationCredentialId laneIds) := by
  let start := StagedRun.initialRun runId profile planFingerprint reconciliationCredentialId []
  have sound : OutboxSound start :=
    ⟨⟨⟨List.Pairwise.nil, nofun, nofun, nofun⟩, profiled⟩, nofun⟩
  have lanes : start.carry (start.toReliabilityRun.perform (.initializeRun laneIds)) =
      .ok (.initialRun runId profile planFingerprint reconciliationCredentialId laneIds) := rfl
  obtain ⟨written, outbox⟩ := (protocol_writes rfl lanes).outbox sound
  refine ⟨outbox, nofun, fun _ => rfl, nofun, fun receipt member => ?_, fun intent member published => ?_⟩
  · have none : receipt ∈ start.reportReceipts := written.receipts ▸ member
    cases none
  · cases written.published intent member published

end Authority

end FuseControlPlane.Reliability
