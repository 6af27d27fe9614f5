/-
Whether an active run can be failed (`failProtocol` of `reliability/protocolStore.ts`).

A run that fails commits the intent of a failure report in the same transaction, so what the intent is refused
for keeps the run from failing.

* `FailsFor`, `FailsStop`: `failProtocol` commits and leaves the run failed, for a reason and for any.
* `hasFinalFailure`: the latest intent is for a failure report, which is published or in conflict. Settlements
  that do not pass and deadlines that are missed commit such intents and leave the run active.
* `PassEnds`: a run whose pass report is published is not active; every step keeps it.
* `failsStop_iff`: **active runs can be failed exactly while there is no such intent**.
-/

import FuseControlPlane.Reliability.ReportPublication

set_option linter.unusedSectionVars false

namespace FuseControlPlane.Reliability

open Foundation Foundation.JavaScript Domain Evidence

section FailStop

variable [NodeCrypto] [Collation] [ProtocolProfiles]

/-- `failProtocol` commits and leaves the run failed. -/
def StagedRun.FailsFor (run : StagedRun) (reason : String) (now : ℤ) : Prop :=
  ∃ after, run.transact (.protocol (.failProtocol reason now) rfl) = .ok after ∧
    after.control.state = .failed

/-- The run can be failed for any reason, at any time. -/
def StagedRun.FailsStop (run : StagedRun) : Prop := ∀ reason now, run.FailsFor reason now

/-- The latest intent is for a failure report that is published, or whose file holds other bytes. -/
def StagedRun.hasFinalFailure (run : StagedRun) : Bool :=
  usesSequencedReportIntents run.control.profile.protocolVersion &&
    run.reportIntents.head?.any fun latest => latest.reportKind = .failure &&
      (latest.state = .published || latest.state = .artifactConflict)

/-! ### Reports -/

variable {rows : ReliabilityRun} {run after : StagedRun}

/-- The members of a report. -/
def reportMembers (rows : ReliabilityRun) (input : ReliabilityRun.ReportIntentInput) (committedAt : ℤ) :
    List (String × Json) :=
  [("evidenceType", .string rows.control.profile.evidenceType),
    ("protocolVersion", .ofInt (ReliabilityRun.versionNumber rows.control.profile.protocolVersion)),
    ("runId", .string rows.runId), ("profileFingerprint", .string rows.control.profile.profileFingerprint),
    ("reportKind", .string (ReliabilityRun.reportKindText input.reportKind)),
    ("passed", .bool (input.reportKind = .pass)), ("reasonCode", .string input.reasonCode),
    ("incidentSequence", ReliabilityRun.nullOr (fun sequence => .ofInt sequence) input.incidentSequence),
    ("artifactInventorySha256", .string rows.artifactInventorySha256),
    ("acceptedSnapshotSha256", ReliabilityRun.nullOr .string input.acceptedSnapshotSha256),
    ("committedAt", .string (toISOString committedAt))]

theorem reportFor_eq (rows : ReliabilityRun) (input : ReliabilityRun.ReportIntentInput) (committedAt : ℤ) :
    rows.reportFor input committedAt =
      canonicalJson (.object (reportMembers rows input committedAt)) ++ "\n" := rfl

theorem names_reportMembers (rows : ReliabilityRun) (input : ReliabilityRun.ReportIntentInput)
    (committedAt : ℤ) : ((reportMembers rows input committedAt).map (·.1)).Nodup := by
  show ["evidenceType", "protocolVersion", "runId", "profileFingerprint", "reportKind", "passed",
    "reasonCode", "incidentSequence", "artifactInventorySha256", "acceptedSnapshotSha256",
    "committedAt"].Nodup
  decide

/-- The report names its reason. -/
theorem reason_of_reportFor {later : ReliabilityRun} {first second : ReliabilityRun.ReportIntentInput}
    {committedAt committedLater : ℤ}
    (same : rows.reportFor first committedAt = later.reportFor second committedLater) :
    first.reasonCode = second.reasonCode := by
  rw [reportFor_eq, reportFor_eq] at same
  have texts := congrArg String.toList same
  rw [String.toList_append, String.toList_append] at texts
  have values := Json.stringify_injective (String.toList_inj.mp (List.append_cancel_right texts))
  have reason (rows : ReliabilityRun) (input : ReliabilityRun.ReportIntentInput) (committedAt : ℤ) :
      ((Json.object (reportMembers rows input committedAt)).sortKeys fun first second =>
        Collation.localeCompare first second ≤ 0).field "reasonCode" = some (.string input.reasonCode) := by
    have member : ("reasonCode", Json.string input.reasonCode) ∈ reportMembers rows input committedAt := by
      simp [reportMembers]
    exact Json.field_sortKeys _ (names_reportMembers rows input committedAt) member
  have found := congrArg (Json.field "reasonCode") values
  rw [reason, reason] at found
  exact Json.string.inj (Option.some.inj found)

/-! ### The intent of a failure report -/

/-- When an intent of a failure report is committed. -/
theorem commit_failure_iff {input : ReliabilityRun.ReportIntentInput} {now : ℤ}
    (locked : rows.lockControlProfile = .ok rows.control) (failure : input.reportKind = .failure) :
    (∃ committed, rows.commitReportIntentLocked input now = .ok committed) ↔
      (usesSequencedReportIntents rows.control.profile.protocolVersion = true →
        ∀ latest, rows.reportIntents.head? = some latest →
          rows.isCommittedAlready input latest = true ∨ (latest.state ≠ .published ∧
            (latest.state = .artifactConflict → latest.reportKind = .pass))) := by
  unfold ReliabilityRun.commitReportIntentLocked
  rw [locked, ok_bind]
  cases usesSequencedReportIntents rows.control.profile.protocolVersion with
  | false =>
    refine ⟨fun _ sequenced => ?_, fun _ => ⟨rows, rfl⟩⟩
    cases sequenced
  | true =>
    rw [if_neg (by simp)]
    cases rows.reportIntents.head? with
    | none => exact ⟨fun _ _ => nofun, fun _ => ⟨_, rfl⟩⟩
    | some latest =>
      dsimp only
      cases same : rows.isCommittedAlready input latest with
      | true =>
        refine ⟨fun _ _ other found => ?_, fun _ => ⟨rows, rfl⟩⟩
        cases found
        exact .inl same
      | false =>
        rw [if_neg (by simp), require_bind (by simp [failure])]
        constructor
        · rintro ⟨committed, accepted⟩ _ _ ⟨⟩
          simp only [bind_unit_eq_ok, require_eq_ok, Bool.not_eq_true', Bool.or_eq_false_iff,
            Bool.and_eq_false_iff, decide_eq_false_iff_not] at accepted
          obtain ⟨⟨unpublished, clear⟩, _⟩ := accepted
          refine .inr ⟨unpublished, fun conflict => ?_⟩
          rcases clear with clear | clear
          · exact absurd conflict clear
          · simp only [Bool.not_eq_false', Bool.and_eq_true, decide_eq_true_eq] at clear
            exact clear.1
        · intro allowed
          rcases allowed rfl latest rfl with already | ⟨unpublished, clear⟩
          · rw [same] at already
            cases already
          refine ⟨_, (require_bind ?_).trans rfl⟩
          by_cases conflict : latest.state = .artifactConflict
          · simp [conflict, clear conflict, failure]
          · simp [unpublished, conflict]

/-! ### Published pass reports -/

/-- A run whose pass report is published is not active. -/
def StagedRun.PassEnds (run : StagedRun) : Prop :=
  ∀ intent, run.reportIntents.head? = some intent → intent.reportKind = .pass → intent.state = .published →
    run.control.state ≠ .active

/-- Only other columns are written, and the run is not made active. -/
theorem StagedRun.PassEnds.of_same (ends : run.PassEnds)
    (reportIntents : after.reportIntents = run.reportIntents)
    (state : after.control.state = .active → run.control.state = .active) : after.PassEnds := by
  intro intent latest pass published active
  rw [reportIntents] at latest
  exact ends intent latest pass published (state active)

/-- An intent that moves is not published. -/
theorem StagedRun.PassEnds.withIntentState (ends : run.PassEnds) (intentSequence : ℕ)
    {state : ReportIntentState} (unpublished : state ≠ .published) (allowedStates : List ReportIntentState) :
    (run.withIntentState intentSequence state allowedStates).PassEnds := by
  intro intent latest pass published
  change (run.reportIntents.map (ReportIntentRow.movedTo intentSequence state allowedStates)).head? =
    some intent at latest
  rw [List.head?_map, Option.map_eq_some_iff] at latest
  obtain ⟨old, last, rfl⟩ := latest
  rcases movedTo_cases intentSequence state allowedStates old with same | ⟨_, _, moved⟩
  · rw [same] at pass published
    exact ends old last pass published
  · exact absurd (moved.symm.trans published) unpublished

theorem StoreWrite.passEnds (ends : run.PassEnds) (write : StoreWrite run after) : after.PassEnds := by
  cases write with
  | aside same => exact ends.of_same same.reportIntents fun active => same.state.symm.trans active
  | fail => exact fun _ _ _ _ => nofun
  | enter stage early => exact ends.of_same rfl id
  | advance stage going => exact ends.of_same rfl id
  | intent input now accepted =>
    obtain ⟨rows, committed, rfl⟩ := StagedRun.carry_eq_ok.mp accepted
    rcases commitReportIntentLocked_eq_ok committed with rfl | ⟨rfl, _⟩
    · exact ends
    · rintro intent ⟨⟩ _ published
      cases published
  | mark intent state allowedStates latest unpublished allowed =>
    refine ends.withIntentState _ ?_ _
    rcases unpublished with rfl | rfl <;> exact nofun

/-- A pass report is published together with the end of its run. -/
theorem WorldStep.passEnds {world later : StoreWorld} {op : StoreOp} (ends : world.run.PassEnds)
    (step : WorldStep world op later) : later.run.PassEnds := by
  cases step with
  | writes writes fewer fewerFinal => exact writes.keeps StagedRun.PassEnds StoreWrite.passEnds ends
  | begin accepted =>
    exact (beginReportIntent_writes accepted).keeps StagedRun.PassEnds StoreWrite.passEnds ends
  | @finish publisher reports intent later member published latest own same finish fewer =>
    cases finish with
    | again received => exact ends
    | failure kind committed =>
      intro row last pass
      change (world.run.reportIntents.map (ReportIntentRow.movedTo _ _ _)).head? = some row at last
      rw [List.head?_map, latest, Option.map_some] at last
      cases last
      have same := congrArg ReportIntentRow.reportKind
        (unstated_movedTo intent.intentSequence .published [.committed] intent)
      cases (kind.symm.trans same.symm).trans pass
    | pass kind committed settled active => exact fun _ _ _ _ => nofun
    | late writes =>
      have received : (world.run.withReceipt intent).PassEnds := ends
      exact writes.keeps StagedRun.PassEnds StoreWrite.passEnds received
  | finishFinal called found published accepted fewer =>
    obtain ⟨_, _, complete, _⟩ := finishFinalReport_eq_ok accepted
    intro _ _ _ _ active
    cases complete.symm.trans active
  | _ => exact ends

/-- A run of the store is not active once its pass report is published. -/
theorem run_passEnds {runId : String} {profile : ReliabilityProtocolProfile} {planFingerprint : String}
    {reconciliationCredentialId : Option String} {laneIds : List String} (ops : List StoreOp) :
    (Foundation.run StoreWorld.storeStep
      (.initialWorld runId profile planFingerprint reconciliationCredentialId laneIds) ops).run.PassEnds := by
  let start : StoreWorld := .initialWorld runId profile planFingerprint reconciliationCredentialId laneIds
  have startEnds : start.run.PassEnds := by
    let empty := StagedRun.initialRun runId profile planFingerprint reconciliationCredentialId []
    have emptyEnds : empty.PassEnds := fun _ => nofun
    have lanes : empty.carry (empty.toReliabilityRun.perform (.initializeRun laneIds)) = .ok start.run := rfl
    exact (protocol_writes rfl lanes).keeps StagedRun.PassEnds StoreWrite.passEnds emptyEnds
  exact @Foundation.run_invariant _ _ StoreWorld.storeStep (fun later => later.run.PassEnds) _
    startEnds (fun later op held => (storeStep_cases later op).passEnds held) ops

/-! ### Failing an active run -/

/-- An active run fails if the intent of its failure report is committed. -/
theorem failProtocol_active (sound : OutboxSound run) (active : run.control.state = .active)
    (reason : String) (now : ℤ) :
    run.transact (.protocol (.failProtocol reason now) rfl) =
      run.carry (((run.toReliabilityRun.failRows now).appendIncident.2).commitReportIntentLocked
        (ReliabilityRun.failureIntent reason (run.toReliabilityRun.failRows now).appendIncident.1 none)
        now) := by
  show run.carry (run.toReliabilityRun.failProtocolLocked reason now) = _
  unfold ReliabilityRun.failProtocolLocked
  rw [StagedRun.lock_of_sound sound, ok_bind, if_neg (by simp [active])]

/-- When an active run can be failed for a reason. -/
theorem failProtocol_commits_iff (sound : OutboxSound run) (active : run.control.state = .active)
    (reason : String) (now : ℤ) :
    run.FailsFor reason now ↔
      (run.isSequenced → ∀ latest, run.reportIntents.head? = some latest →
        (run.toReliabilityRun.failRows now).appendIncident.2.isCommittedAlready
            (ReliabilityRun.failureIntent reason (run.toReliabilityRun.failRows now).appendIncident.1 none)
            latest = true ∨
          (latest.state ≠ .published ∧ (latest.state = .artifactConflict → latest.reportKind = .pass))) := by
  let failed := (run.toReliabilityRun.failRows now).appendIncident.2
  let intent := ReliabilityRun.failureIntent reason (run.toReliabilityRun.failRows now).appendIncident.1 none
  have locked : failed.lockControlProfile = .ok failed.control :=
    lockControlProfile_of_same rfl rfl sound.profiled
  have kind : intent.reportKind = .failure := rfl
  refine Iff.trans ?_ (@commit_failure_iff _ _ _ failed intent now locked kind)
  unfold StagedRun.FailsFor
  rw [failProtocol_active sound active]
  constructor
  · rintro ⟨after, accepted, _⟩
    obtain ⟨rows, committed, _⟩ := StagedRun.carry_eq_ok.mp accepted
    exact ⟨rows, committed⟩
  · rintro ⟨rows, committed⟩
    refine ⟨run.withRows rows, StagedRun.carry_eq_ok.mpr ⟨rows, committed, rfl⟩, ?_⟩
    rcases commitReportIntentLocked_eq_ok committed with rfl | ⟨rfl, _⟩ <;> rfl

theorem hasFinalFailure_iff : run.hasFinalFailure = true ↔ run.isSequenced ∧
    ∃ latest, run.reportIntents.head? = some latest ∧ latest.reportKind = .failure ∧
      (latest.state = .published ∨ latest.state = .artifactConflict) := by
  unfold StagedRun.hasFinalFailure StagedRun.isSequenced
  simp only [Bool.and_eq_true, Option.any_eq_true, Bool.or_eq_true, decide_eq_true_eq]

/-- **An active run can be failed exactly if its latest intent is not for a failure report that is published
or in conflict.** -/
theorem failsStop_iff_of_sound (sound : OutboxSound run) (ends : run.PassEnds)
    (active : run.control.state = .active) : run.FailsStop ↔ run.hasFinalFailure = false := by
  constructor
  · intro stops
    refine Bool.eq_false_iff.mpr fun final => ?_
    obtain ⟨sequenced, latest, last, failure, ended⟩ := hasFinalFailure_iff.mp final
    -- the report that is there names one reason, so the run cannot be failed for another one
    have names (reason : String) : latest.reportBytes =
        (run.toReliabilityRun.failRows 0).appendIncident.2.reportFor (ReliabilityRun.failureIntent reason
          (run.toReliabilityRun.failRows 0).appendIncident.1 none) latest.committedAt := by
      rcases (failProtocol_commits_iff sound active reason 0).mp (stops reason 0) sequenced latest last with
        already | ⟨unpublished, clear⟩
      · unfold ReliabilityRun.isCommittedAlready at already
        simp only [Bool.and_eq_true, decide_eq_true_eq] at already
        exact already.1
      · rcases ended with published | conflict
        · exact absurd published unpublished
        · cases failure.symm.trans (clear conflict)
    have same : "STOPPED" = "FAILED" := reason_of_reportFor ((names "STOPPED").symm.trans (names "FAILED"))
    exact absurd same (by decide)
  · intro current reason now
    refine (failProtocol_commits_iff sound active reason now).mpr fun sequenced latest last => .inr ?_
    have notFinal (failure : latest.reportKind = .failure) :
        ¬ (latest.state = .published ∨ latest.state = .artifactConflict) := fun ended => by
      have final := hasFinalFailure_iff.mpr ⟨sequenced, latest, last, failure, ended⟩
      rw [current] at final
      cases final
    cases kind : latest.reportKind with
    | pass => exact ⟨fun published => ends latest last kind published active, fun _ => rfl⟩
    | failure =>
      obtain ⟨unpublished, clear⟩ := not_or.mp (notFinal kind)
      exact ⟨unpublished, fun conflict => absurd conflict clear⟩

/-- **In every active state that a run of the store reaches, it can be failed exactly if its latest intent is
not for a failure report that is published or in conflict.** -/
theorem failsStop_iff (runId : String) (profile : ReliabilityProtocolProfile) (planFingerprint : String)
    (reconciliationCredentialId : Option String) (laneIds : List String)
    (profiled : reliabilityProtocolProfileForRunId runId = .ok profile) (ops : List StoreOp)
    (active : (Foundation.run StoreWorld.storeStep
      (.initialWorld runId profile planFingerprint reconciliationCredentialId laneIds)
      ops).run.control.state = .active) :
    (Foundation.run StoreWorld.storeStep
        (.initialWorld runId profile planFingerprint reconciliationCredentialId laneIds) ops).run.FailsStop ↔
      (Foundation.run StoreWorld.storeStep
        (.initialWorld runId profile planFingerprint reconciliationCredentialId laneIds)
        ops).run.hasFinalFailure = false := by
  have start : ReportsSound
      (.initialWorld runId profile planFingerprint reconciliationCredentialId laneIds) :=
    initialWorld_reports profiled
  exact failsStop_iff_of_sound (run_kept start ops).1.outbox (run_passEnds ops) active

end FailStop

/-- A new run can be failed. -/
theorem failsStop_iff_new :
    letI := Sample.crypto
    letI := Sample.collation
    letI := Sample.profiles
    (Foundation.run StoreWorld.storeStep
      (.initialWorld "hov3-run" (ProtocolVersion.profile .v3) "plan" none ["normal-paced"])
      []).run.FailsStop := by
  let := Sample.crypto
  let := Sample.collation
  let := Sample.profiles
  have profiled : reliabilityProtocolProfileForRunId "hov3-run" = .ok (ProtocolVersion.profile .v3) := by
    decide +kernel
  have iff := failsStop_iff "hov3-run" (ProtocolVersion.profile .v3) "plan" none ["normal-paced"] profiled []
  exact (iff rfl).mpr rfl

/-! ### A failure report that is published while its run is active -/

namespace Sample

/-- Every poll finds rows that are missing. -/
def unsettled : AuthoritativeSettlementResult :=
  runAuthoritativeSettlement 0 fun index => some ⟨false, "digest", 99, 5000 * index, 5000 * index⟩

theorem unsettled_failed : unsettled.passed = false := by decide +kernel

/-- A run does not settle, and its failure report is published. -/
def nonpassOps : List StoreOp :=
  artifactOps ++ [.transaction (.runAndPersistAuthoritativeSettlement unsettled none 6000)] ++
    publication 0 7000 8000

end Sample

section Nonpass

variable [NodeCrypto] [Collation] [ProtocolProfiles] {runId : String} {profile : ReliabilityProtocolProfile}
  {run : StagedRun}

/-- The run with the settlement rejected. -/
def StagedRun.rejected (run : StagedRun) : StagedRun :=
  { run with
    settlementJournal := Sample.unsettled.journal.foldl (fun journal entry =>
      if (journal.find? entry.pollNo).isSome then journal else journal.put entry) run.settlementJournal
    settlementFinalSnapshot := some (Sample.unsettled.finalSnapshot false) }

/-- The intent of the first report of a run. -/
theorem commitFailureIntent_first (calm : Undisturbed runId profile run.toReliabilityRun)
    (sequenced : usesSequencedReportIntents profile.protocolVersion = true) (reasonCode : String) (now : ℤ) :
    run.commitFailureIntent reasonCode now = .ok (run.withRows
      (run.toReliabilityRun.appendIncident.2.insertIntent
        (ReliabilityRun.failureIntent reasonCode run.toReliabilityRun.appendIncident.1 none) now)) := by
  let noted := run.toReliabilityRun.appendIncident.2
  let input := ReliabilityRun.failureIntent reasonCode run.toReliabilityRun.appendIncident.1 none
  have still : Undisturbed runId profile noted := calm.of_same rfl rfl rfl rfl rfl rfl rfl rfl rfl
  have commits : noted.commitReportIntentLocked input now = .ok (noted.insertIntent input now) :=
    commitReportIntentLocked_inserts still.lock (still.sameProfile ▸ sequenced) fun latest last => by
      rw [still.reportIntents] at last
      cases last
  show (run.withRows noted).carry (noted.commitReportIntentLocked input now) = _
  rw [commits]
  rfl

/-- A settlement that does not pass commits the intent of a failure report. -/
theorem settle_nonpass (bound : ArtifactsBound runId profile run) :
    run.finishSettlement Sample.unsettled none 6000 =
      run.rejected.commitFailureIntent "SETTLEMENT_NONPASS" 6000 := by
  have calm := bound.undisturbed
  have gate : run.settlementGate = .ok run.control := by
    unfold StagedRun.settlementGate
    rw [calm.lock, ok_bind, require_bind (by simp [bound.durableStage, calm.active])]
    rfl
  unfold StagedRun.finishSettlement StagedRun.persistSettlement
  rw [gate, Sample.unsettled_failed, bound.settlementFinalSnapshot]
  show run.rejected.settlementIntent Sample.unsettled none 6000 = _
  unfold StagedRun.settlementIntent
  dsimp only
  rw [Sample.unsettled_failed, if_neg (by simp)]

/-- A failure report is published in time. -/
theorem finish_in_time {intent : ReportIntentRow} {ended : ℤ} (sound : OutboxSound run)
    (latest : run.reportIntents.head? = some intent)
    (failure : intent.reportKind = .failure) (committed : intent.state = .committed)
    (fresh : run.hasReceipt intent.intentSequence = false) (early : ended < intent.publicationDeadline) :
    run.finishReportIntent ⟨intent, false⟩ ended = .ok (false, run.withPublished intent) := by
  have latestReceived : (run.withReceipt intent).reportIntents.head? = some intent := latest
  have onTime : reportPublicationDeadlineDisposition intent.reportKind ended intent.publicationDeadline =
      .onTime := if_pos early
  have marks : (run.withReceipt intent).markReport false intent .published [.committed] = _ :=
    mark_latest latestReceived .published (by simp [committed])
  unfold StagedRun.finishReportIntent
  rw [StagedRun.lock_of_sound sound, ok_bind, latest, Option.filter_some, if_pos (by simp)]
  dsimp only
  rw [fresh, if_neg (by simp), onTime, if_pos rfl]
  show (StagedRun.publishReport intent (run.withReceipt intent) >>= _) = _
  unfold StagedRun.publishReport
  rw [marks, ok_bind, failure]
  rfl

/-- The first failure report of a run is published. -/
theorem publish_first {world : StoreWorld} {intent : ReportIntentRow} {begun ended : ℤ}
    (sound : OutboxSound world.run) (only : world.run.reportIntents = [intent])
    (failure : intent.reportKind = .failure) (committed : intent.state = .committed)
    (none : world.run.reportReceipts = []) (fresh : world.reportPublishers = [])
    (free : world.isFree intent = true) (inOrder : begun ≤ ended)
    (early : ended < intent.publicationDeadline) :
    (Foundation.run StoreWorld.storeStep world (publication 0 begun ended)).run =
      world.run.withPublished intent := by
  have latest : world.run.reportIntents.head? = some intent := by rw [only]; rfl
  have unreceived : world.run.hasReceipt intent.intentSequence = false := by
    unfold StagedRun.hasReceipt
    rw [none]
    rfl
  have inTime : begun < intent.publicationDeadline := lt_of_le_of_lt inOrder early
  let publishing : StoreWorld := { world with reportPublishers := [] ++ [⟨⟨intent, false⟩, .begun⟩] }
  have begins : world.storeStep (.beginReport begun) = publishing := by
    show world.beginReport begun = publishing
    unfold StoreWorld.beginReport
    rw [begin_latest sound latest committed unreceived fun _ => inTime, fresh]
    simp [StagedRun.begunAt, inTime, publishing]
  let published : StoreWorld := { publishing with
    intentFile := some (world.run.intentBytes world.destination intent)
    reportFile := some intent.reportBytes
    reportPublishers := [] ++ [⟨⟨intent, false⟩, .reportPublished⟩] }
  have publishes : Foundation.run StoreWorld.storeStep publishing [.publishNext 0, .publishNext 0] =
      published := by
    have there : publishing.reportPublishers = [] ++ [⟨⟨intent, false⟩, .begun⟩] := rfl
    exact publish_free there free
  have ends : published.storeStep (.finishReport 0 ended) =
      { published with run := world.run.withPublished intent, reportPublishers := [] } := by
    show published.finishReport 0 ⟨⟨intent, false⟩, .reportPublished⟩ ended = _
    have finishes := finish_in_time sound latest failure committed unreceived early
    unfold StoreWorld.finishReport
    rw [if_pos rfl, show published.run.finishReportIntent _ _ = _ from finishes]
    rfl
  show (Foundation.run StoreWorld.storeStep (world.storeStep (.beginReport begun))
    ([.publishNext 0, .publishNext 0] ++ [.finishReport 0 ended])).run = _
  rw [begins, run_append, publishes, run_cons, ends, run_nil]

/-- The first intent of a run, for a failure report. -/
theorem insertIntent_failure {rows : ReliabilityRun} (none : rows.reportIntents = []) (reasonCode : String)
    (incidentSequence : ℕ) (now : ℤ) :
    ∃ intent, (rows.insertIntent (ReliabilityRun.failureIntent reasonCode incidentSequence .none)
        now).reportIntents = [intent] ∧ intent.reportKind = .failure ∧ intent.state = .committed ∧
      intent.publicationDeadline = now + 60000 ∧
      intent.reportBytes =
        rows.reportFor (ReliabilityRun.failureIntent reasonCode incidentSequence .none) now := by
  unfold ReliabilityRun.insertIntent
  rw [none]
  exact ⟨_, rfl, rfl, rfl, rfl, rfl⟩

/-- A failure report that is published, for a reason, while its run is active. -/
structure FailurePublished (reasonCode : String) (run : StagedRun) : Prop where
  active : run.control.state = .active
  sequenced : run.isSequenced
  latest : ∃ intent, run.reportIntents.head? = some intent ∧ intent.reportKind = .failure ∧
    intent.state = .published ∧ ∃ rows incidentSequence committedAt, intent.reportBytes =
      ReliabilityRun.reportFor rows (ReliabilityRun.failureIntent reasonCode incidentSequence none)
        committedAt

/-- The run cannot be failed for another reason. -/
theorem FailurePublished.stays {reasonCode reason : String} (published : FailurePublished reasonCode run)
    (sound : OutboxSound run) (other : reasonCode ≠ reason) (now : ℤ) : ¬ run.FailsFor reason now := by
  obtain ⟨latest, last, failure, state, rows, incidentSequence, committedAt, bytes⟩ := published.latest
  intro commits
  rcases (failProtocol_commits_iff sound published.active reason now).mp commits published.sequenced latest
    last with already | ⟨unpublished, _⟩
  · unfold ReliabilityRun.isCommittedAlready at already
    simp only [Bool.and_eq_true, decide_eq_true_eq] at already
    have same := bytes.symm.trans already.1
    exact other (reason_of_reportFor same)
  · exact unpublished state

theorem withPublished_failure {reasonCode : String} {intent : ReportIntentRow} {rows : ReliabilityRun}
    {incidentSequence : ℕ} {committedAt : ℤ} (active : run.control.state = .active)
    (sequenced : run.isSequenced) (only : run.reportIntents = [intent])
    (failure : intent.reportKind = .failure) (committed : intent.state = .committed)
    (bytes : intent.reportBytes =
      rows.reportFor (ReliabilityRun.failureIntent reasonCode incidentSequence none) committedAt) :
    FailurePublished reasonCode (run.withPublished intent) := by
  have unstated := unstated_movedTo intent.intentSequence .published [.committed] intent
  obtain ⟨_, kind, sameBytes, _⟩ := ReportIntentRow.same_of_unstated unstated
  refine ⟨active, sequenced, intent.movedTo intent.intentSequence .published [.committed], ?_,
    kind.trans failure, ?_, rows, incidentSequence, committedAt, sameBytes.trans bytes⟩
  · show (run.reportIntents.map (ReportIntentRow.movedTo _ _ _)).head? = _
    rw [only]
    rfl
  · unfold ReportIntentRow.movedTo
    rw [if_pos (by simp [committed])]

/-- The failure report of an active run is published. -/
theorem nonpass_published (profiled : reliabilityProtocolProfileForRunId runId = .ok profile)
    (sequenced : usesSequencedReportIntents profile.protocolVersion = true) :
    FailurePublished "SETTLEMENT_NONPASS" (Foundation.run StoreWorld.storeStep
      (.initialWorld runId profile "plan" none ["normal-paced"]) Sample.nonpassOps).run := by
  let start : StoreWorld := .initialWorld runId profile "plan" none ["normal-paced"]
  obtain ⟨bound, toBound, isBound⟩ := artifactOps_reach profiled
  have calm : Undisturbed runId profile bound.rejected.toReliabilityRun :=
    isBound.undisturbed.of_same rfl rfl rfl rfl rfl rfl rfl rfl rfl
  have commits := commitFailureIntent_first calm sequenced "SETTLEMENT_NONPASS" 6000
  have noted : bound.rejected.toReliabilityRun.appendIncident.2.reportIntents = [] := calm.reportIntents
  obtain ⟨intent, only, kind, committed, deadline, bytes⟩ := insertIntent_failure noted "SETTLEMENT_NONPASS"
    bound.rejected.toReliabilityRun.appendIncident.1 6000
  generalize inserts : bound.rejected.toReliabilityRun.appendIncident.2.insertIntent
    (ReliabilityRun.failureIntent "SETTLEMENT_NONPASS" bound.rejected.toReliabilityRun.appendIncident.1 none)
    6000 = rows at commits only
  have control : rows.control = bound.control := by rw [← inserts]; rfl
  let settled : StoreWorld := { start with run := bound.rejected.withRows rows }
  have toSettled : Foundation.run StoreWorld.storeStep start (Sample.artifactOps ++
      [.transaction (.runAndPersistAuthoritativeSettlement Sample.unsettled none 6000)]) = settled := by
    rw [run_append, toBound, run_cons, run_nil]
    show StoreWorld.settle _ (bound.finishSettlement _ _ _) = settled
    rw [settle_nonpass isBound, commits]
    rfl
  have sound : ReportsSound settled := by
    rw [← toSettled]
    exact (run_kept (initialWorld_reports profiled) _).1
  have whole : (Foundation.run StoreWorld.storeStep start Sample.nonpassOps).run =
      settled.run.withPublished intent := by
    unfold Sample.nonpassOps
    rw [run_append, toSettled]
    have noReceipts : settled.run.reportReceipts = [] := by
      dsimp only [settled, StagedRun.withRows, StagedRun.rejected]
      exact isBound.reportReceipts
    have free : settled.isFree intent = true := by
      unfold StoreWorld.isFree
      rfl
    exact publish_first sound.outbox only kind committed noReceipts rfl free (by omega) (by omega)
  have active : settled.run.control.state = .active := by
    show rows.control.state = .active
    rw [control]
    exact isBound.undisturbed.active
  have isSequenced : settled.run.isSequenced := by
    show usesSequencedReportIntents rows.control.profile.protocolVersion = true
    rw [control, isBound.undisturbed.sameProfile]
    exact sequenced
  rw [whole]
  exact withPublished_failure active isSequenced only kind committed bytes

/-- A run whose failure report is published stays active. -/
theorem not_failsFor (profiled : reliabilityProtocolProfileForRunId runId = .ok profile)
    (sequenced : usesSequencedReportIntents profile.protocolVersion = true) :
    ¬ ∀ ops, (Foundation.run StoreWorld.storeStep
        (.initialWorld runId profile "plan" none ["normal-paced"]) ops).run.control.state = .active →
      (Foundation.run StoreWorld.storeStep
        (.initialWorld runId profile "plan" none ["normal-paced"]) ops).run.FailsFor "STOPPED" 9000 := by
  intro always
  have published := nonpass_published profiled sequenced
  have start : ReportsSound (.initialWorld runId profile "plan" none ["normal-paced"]) :=
    initialWorld_reports profiled
  have sound := (run_kept start Sample.nonpassOps).1.outbox
  exact published.stays sound (by decide) 9000 (always Sample.nonpassOps published.active)

end Nonpass

/-- **A run whose settlement has not passed, and whose failure report is published, cannot be failed.** -/
theorem active_run_stays_active :
    letI := Sample.crypto
    letI := Sample.collation
    letI := Sample.profiles
    ¬ ∀ ops, (Foundation.run StoreWorld.storeStep
        (.initialWorld "hov3-run" (ProtocolVersion.profile .v3) "plan" none ["normal-paced"])
        ops).run.control.state = .active →
      (Foundation.run StoreWorld.storeStep
        (.initialWorld "hov3-run" (ProtocolVersion.profile .v3) "plan" none ["normal-paced"])
        ops).run.FailsFor "STOPPED" 9000 := by
  let := Sample.crypto
  let := Sample.collation
  let := Sample.profiles
  have profiled : reliabilityProtocolProfileForRunId "hov3-run" = .ok (ProtocolVersion.profile .v3) := by
    decide +kernel
  exact not_failsFor profiled rfl

end FuseControlPlane.Reliability
