/-
What a transaction of the protocol store does to the lanes and holds of a run, to its state and to its
report intents.

* `RunWrite`: one such write, with what its transaction has checked.
* `perform_writes`: **every transaction is a sequence of them**. All but `completeResumedWorkGroup` let a
  lane go on only where no hold is open, the state of a run only ever becomes failed, and the intents are
  for failure reports of failed runs.
-/

import FuseControlPlane.Reliability.ProtocolTransactions

set_option linter.unusedSectionVars false

namespace FuseControlPlane.Reliability

open Foundation Foundation.JavaScript Domain Evidence

/-! ### Writes -/

/-- Work of the lane is dispatched, or will be. -/
def LaneState.isGoing : LaneState → Bool
  | .ready | .resumePending | .resuming => true
  | .held | .failed => false

namespace ReliabilityRun

/-- The run, failed. -/
def failed (run : ReliabilityRun) : ReliabilityRun :=
  { run with control := { run.control with state := .failed } }

/-- A transaction lets a lane go on while a hold is open on it. -/
def wakesHeldLane [NodeCrypto] [Collation] [ProtocolProfiles] (run : ReliabilityRun) (op : ProtocolOp) :
    Bool :=
  run.commits op &&
    match op with
    | .completeResumedWorkGroup laneId _ => (run.openHold laneId).isSome
    | _ => false

end ReliabilityRun

/-- Lanes, holds, the state of the run and its report intents are unchanged. -/
structure Aside (run after : ReliabilityRun) : Prop where
  lanes : after.lanes = run.lanes
  holds : after.holds = run.holds
  runId : after.runId = run.runId
  profile : after.control.profile = run.control.profile
  state : after.control.state = run.control.state
  reportIntents : after.reportIntents = run.reportIntents
  nextReportIntentSequence : after.nextReportIntentSequence = run.nextReportIntentSequence

/-- What a transaction may do besides: let a held lane go on, and write what the other transactions on
reports and stages write. -/
structure Lapses where
  wakes : Prop
  elsewhere : Prop

section Writes

variable [NodeCrypto] [Collation] [ProtocolProfiles]

/-- A write to lanes, holds, the state of the run or its report intents. -/
inductive RunWrite (lapses : Lapses) (run : ReliabilityRun) : ReliabilityRun → Prop
  | aside {after : ReliabilityRun} (same : Aside run after) : RunWrite lapses run after
  | fail : RunWrite lapses run run.failed
  | report {after : ReliabilityRun} (input : ReliabilityRun.ReportIntentInput) (now : ℤ)
    (kind : input.reportKind = .failure) (ended : run.control.state = .failed)
    (accepted : run.commitReportIntentLocked input now = .ok after) : RunWrite lapses run after
  | addLane (laneId : String) : RunWrite lapses run (run.insertLane laneId)
  | setLanes (chosen : LaneRow → Bool) (state : LaneState) (resumeAt : Option ℤ)
    (awake : ∀ lane ∈ run.lanes, chosen lane = true → state.isGoing = true →
      run.openHold lane.laneId = none ∨ lane.state.isGoing = true ∨ lapses.wakes) :
    RunWrite lapses run (run.updateLanes chosen state resumeAt)
  | createHold (laneId holdId : String) (members : List String)
    (present : (run.lanes.find? laneId).isSome = true) (noneOpen : run.openHold laneId = none) :
    RunWrite lapses run (run.createHold laneId holdId members)
  | joinHold (hold : HoldRow) (requestId : String) (opened : run.openHold hold.laneId = some hold) :
    RunWrite lapses run (run.joinHold hold requestId)
  | leaveHold (hold : HoldRow) (requestId : String) (controlState : ControlState) (now : ℤ)
    (opened : run.openHold hold.laneId = some hold) :
    RunWrite lapses run (run.leaveHold hold requestId controlState now)
  | elsewhere (other : ReliabilityRun) (abstracted : lapses.elsewhere) :
    RunWrite lapses run (run.afterElsewhere other)

/-- A sequence of writes. -/
abbrev RunWrites (lapses : Lapses) : ReliabilityRun → ReliabilityRun → Prop :=
  Relation.ReflTransGen (RunWrite lapses)

variable {lapses : Lapses} {run after : ReliabilityRun}

theorem Aside.refl (run : ReliabilityRun) : Aside run run := ⟨rfl, rfl, rfl, rfl, rfl, rfl, rfl⟩

theorem Aside.trans {first second third : ReliabilityRun} (earlier : Aside first second)
    (later : Aside second third) : Aside first third :=
  ⟨later.lanes.trans earlier.lanes, later.holds.trans earlier.holds, later.runId.trans earlier.runId,
    later.profile.trans earlier.profile, later.state.trans earlier.state,
    later.reportIntents.trans earlier.reportIntents,
    later.nextReportIntentSequence.trans earlier.nextReportIntentSequence⟩

theorem Aside.writes (same : Aside run after) : RunWrites lapses run after := .single (.aside same)

theorem RunWrite.writes (write : RunWrite lapses run after) : RunWrites lapses run after := .single write

/-! ### Parts of transactions -/

/-- What `commitReportIntentLocked` does: nothing, or it inserts an intent that may supersede the last
one. -/
theorem commitReportIntentLocked_eq_ok {input : ReliabilityRun.ReportIntentInput} {now : ℤ}
    (accepted : run.commitReportIntentLocked input now = .ok after) :
    after = run ∨ (after = run.insertIntent input now ∧
      ∀ latest, run.reportIntents.head? = some latest →
        ¬ (latest.reportKind = .failure ∧ input.reportKind = .pass) ∧ latest.state ≠ .published ∧
          (latest.state = .artifactConflict → latest.reportKind = .pass ∧ input.reportKind = .failure)) := by
  unfold ReliabilityRun.commitReportIntentLocked at accepted
  obtain ⟨control, _, accepted⟩ := bind_eq_ok.mp accepted
  split at accepted
  · cases accepted
    exact .inl rfl
  · split at accepted
    · next nobody =>
      cases accepted
      refine .inr ⟨rfl, fun latest last => ?_⟩
      rw [nobody] at last
      cases last
    · next latest last =>
      split at accepted
      · cases accepted
        exact .inl rfl
      · simp only [bind_unit_eq_ok, require_eq_ok, Bool.not_eq_true', Bool.and_eq_false_iff,
          Bool.or_eq_false_iff, decide_eq_false_iff_not] at accepted
        obtain ⟨authority, ⟨unpublished, clear⟩, accepted⟩ := accepted
        cases accepted
        refine .inr ⟨rfl, fun other same => ?_⟩
        cases last.symm.trans same
        refine ⟨not_and_or.mpr authority, unpublished, fun conflict => ?_⟩
        rcases clear with free | others
        · exact absurd conflict free
        · simpa using others

/-- A run that has failed with some other columns, and commits the intent of a failure report. -/
theorem failure_writes {failed : ReliabilityRun} {input : ReliabilityRun.ReportIntentInput} {now : ℤ}
    (same : Aside run.failed failed) (kind : input.reportKind = .failure)
    (accepted : failed.commitReportIntentLocked input now = .ok after) : RunWrites lapses run after :=
  (RunWrite.fail.writes.trans same.writes).trans
    (RunWrite.report input now kind same.state accepted).writes

theorem failProtocolLocked_writes {reason : String} {now : ℤ}
    (accepted : run.failProtocolLocked reason now = .ok after) : RunWrites lapses run after := by
  unfold ReliabilityRun.failProtocolLocked at accepted
  obtain ⟨control, _, accepted⟩ := bind_eq_ok.mp accepted
  split at accepted
  · cases accepted
    exact .refl
  · have same : Aside run.failed (run.failRows now).appendIncident.2 := ⟨rfl, rfl, rfl, rfl, rfl, rfl, rfl⟩
    exact failure_writes same rfl accepted

theorem removeTerminalHeldMemberLocked_writes {laneId requestId : String} {controlState : ControlState}
    {now : ℤ} {left : Option ReliabilityRun.LeftHold}
    (accepted : run.removeTerminalHeldMemberLocked laneId requestId controlState now = .ok (left, after)) :
    RunWrites lapses run after := by
  rcases removeTerminalHeldMemberLocked_eq_ok accepted with
    ⟨_, same, _⟩ | ⟨hold, opened, _, _, _, _, same⟩
  · rw [same]
  · rw [same]
    exact (RunWrite.leaveHold hold requestId controlState now opened).writes

theorem enterLaneHoldLocked_writes {laneId requestId drawn : String}
    {entered : ReliabilityRun.EnteredHold} (present : (run.lanes.find? laneId).isSome = true)
    (accepted : run.enterLaneHoldLocked laneId requestId drawn = .ok (entered, after)) :
    RunWrites lapses run after := by
  unfold ReliabilityRun.enterLaneHoldLocked at accepted
  simp only [bind_unit_eq_ok] at accepted
  obtain ⟨_, accepted⟩ := accepted
  split at accepted
  · next hold opened =>
    obtain ⟨_, lane, _⟩ := openHold_eq_some opened
    split at accepted
    · cases accepted
      exact .refl
    · cases accepted
      exact (RunWrite.joinHold hold requestId (by rw [lane]; exact opened)).writes
  · next noneOpen =>
    simp only [bind_unit_eq_ok] at accepted
    obtain ⟨_, _, accepted⟩ := accepted
    cases accepted
    exact (RunWrite.createHold laneId drawn _ present noneOpen).writes

theorem lane_of_locked {laneId : String} {state : ControlState}
    (locked : run.lockControlLane laneId = .ok state) : (run.lanes.find? laneId).isSome = true := by
  unfold ProtocolRun.lockControlLane at locked
  obtain ⟨control, _, locked⟩ := bind_eq_ok.mp locked
  simp only [bind_unit_eq_ok, require_eq_ok] at locked
  exact locked.1

/-! ### Registration and authorization -/

theorem insertLanes_writes (laneIds : List String) : ∀ run : ReliabilityRun,
    RunWrites lapses run (laneIds.foldl ReliabilityRun.insertLane run) := by
  induction laneIds with
  | nil => exact fun run => .refl
  | cons laneId rest ih => exact fun run => (RunWrite.addLane laneId).writes.trans (ih _)

theorem registerSealedCall_aside {sealed : SealedCallRow}
    (accepted : run.registerSealedCall sealed = .ok after) : Aside run after := by
  unfold ReliabilityRun.registerSealedCall at accepted
  simp only [bind_unit_eq_ok] at accepted
  obtain ⟨_, accepted⟩ := accepted
  obtain ⟨stored, inserts, accepted⟩ := bind_eq_ok.mp accepted
  simp only [bind_unit_eq_ok] at accepted
  cases accepted.2.2
  have inserted : Aside run stored := by
    unfold ReliabilityRun.insertSealedCall at inserts
    split at inserts
    · cases inserts
      exact .refl run
    · simp only [bind_unit_eq_ok] at inserts
      cases inserts.2.2
      exact ⟨rfl, rfl, rfl, rfl, rfl, rfl, rfl⟩
  refine inserted.trans ?_
  unfold ReliabilityRun.planAttempt
  split
  · exact .refl stored
  · exact ⟨rfl, rfl, rfl, rfl, rfl, rfl, rfl⟩

theorem registerCalls_aside {calls : List SealedCallRow} : ∀ {run : ReliabilityRun},
    calls.foldlM (fun run sealed => run.registerSealedCall sealed) run = .ok after → Aside run after := by
  induction calls with
  | nil =>
    intro run accepted
    cases accepted
    exact .refl _
  | cons sealed rest ih =>
    intro run accepted
    rw [List.foldlM_cons] at accepted
    obtain ⟨registered, first, later⟩ := bind_eq_ok.mp accepted
    exact (registerSealedCall_aside first).trans (ih later)

theorem registerSealedCalls_aside {calls : List SealedCallRow}
    (accepted : run.registerSealedCalls calls = .ok after) : Aside run after := by
  unfold ReliabilityRun.registerSealedCalls at accepted
  simp only [bind_unit_eq_ok] at accepted
  obtain ⟨_, accepted⟩ := accepted
  obtain ⟨control, _, accepted⟩ := bind_eq_ok.mp accepted
  simp only [bind_unit_eq_ok] at accepted
  exact registerCalls_aside accepted.2

theorem claimBlock_aside {input : ClaimBlockInput} {now claimedAt : ℤ}
    (accepted : run.claimBlock input now = .ok (claimedAt, after)) : Aside run after := by
  unfold ReliabilityRun.claimBlock at accepted
  obtain ⟨control, _, accepted⟩ := bind_eq_ok.mp accepted
  simp only [bind_unit_eq_ok] at accepted
  obtain ⟨_, _, _, _, accepted⟩ := accepted
  split at accepted
  · simp only [bind_unit_eq_ok] at accepted
    cases accepted.2.2
    exact .refl run
  · simp only [bind_unit_eq_ok] at accepted
    cases accepted.2
    exact ⟨rfl, rfl, rfl, rfl, rfl, rfl, rfl⟩

theorem beginAuthorizationOperation_aside {now : ℤ} {operation : AuthorizationOperationRow}
    (accepted : run.beginAuthorizationOperation now = .ok (operation, after)) : Aside run after := by
  unfold ReliabilityRun.beginAuthorizationOperation at accepted
  obtain ⟨control, _, accepted⟩ := bind_eq_ok.mp accepted
  simp only [bind_unit_eq_ok] at accepted
  cases accepted.2
  exact ⟨rfl, rfl, rfl, rfl, rfl, rfl, rfl⟩

/-- A decision that fails the run. -/
theorem failDecision_writes {decided : ReliabilityRun} {reasonCode : String} {now : ℤ}
    (same : Aside run decided) (accepted : decided.failDecision reasonCode now = .ok after) :
    RunWrites lapses run after := by
  have fails : Aside decided.failed (decided.setDecisionFailed now).appendIncident.2 :=
    ⟨rfl, rfl, rfl, rfl, rfl, rfl, rfl⟩
  exact same.writes.trans (failure_writes fails rfl accepted)

theorem commitAuthorizationPredecisionFailure_writes {input : PredecisionFailureInput} {now : ℤ}
    {decisionId : String}
    (accepted : run.commitAuthorizationPredecisionFailure input now = .ok (decisionId, after)) :
    RunWrites lapses run after := by
  unfold ReliabilityRun.commitAuthorizationPredecisionFailure at accepted
  simp only [bind_unit_eq_ok] at accepted
  obtain ⟨_, accepted⟩ := accepted
  obtain ⟨control, _, accepted⟩ := bind_eq_ok.mp accepted
  simp only [bind_unit_eq_ok] at accepted
  obtain ⟨_, accepted⟩ := accepted
  obtain ⟨id, _, accepted⟩ := bind_eq_ok.mp accepted
  split at accepted
  · simp only [bind_unit_eq_ok] at accepted
    cases accepted.2
    exact .refl
  · obtain ⟨failed, fails, accepted⟩ := bind_eq_ok.mp accepted
    cases accepted
    refine failDecision_writes ?_ fails
    exact ⟨rfl, rfl, rfl, rfl, rfl, rfl, rfl⟩

theorem decideAuthorization_writes {input : CommitAuthorizationInput} {version : ProtocolVersion}
    {now : ℤ} (accepted : run.decideAuthorization input version now = .ok after) :
    RunWrites lapses run after := by
  unfold ReliabilityRun.decideAuthorization at accepted
  split at accepted
  · simp only [bind_unit_eq_ok] at accepted
    cases accepted.2
    exact .refl
  · simp only [bind_unit_eq_ok] at accepted
    obtain ⟨_, _, accepted⟩ := accepted
    split at accepted
    · cases accepted
      exact Aside.writes ⟨rfl, rfl, rfl, rfl, rfl, rfl, rfl⟩
    · split at accepted
      · refine failDecision_writes ?_ accepted
        exact ⟨rfl, rfl, rfl, rfl, rfl, rfl, rfl⟩
      · cases accepted
        exact RunWrite.fail.writes.trans (Aside.writes ⟨rfl, rfl, rfl, rfl, rfl, rfl, rfl⟩)

theorem commitAuthorization_writes {input : CommitAuthorizationInput} {now : ℤ}
    (accepted : run.commitAuthorization input now = .ok after) : RunWrites lapses run after := by
  unfold ReliabilityRun.commitAuthorization at accepted
  obtain ⟨version, _, accepted⟩ := bind_eq_ok.mp accepted
  simp only [bind_unit_eq_ok] at accepted
  obtain ⟨_, _, accepted⟩ := accepted
  obtain ⟨control, _, accepted⟩ := bind_eq_ok.mp accepted
  split at accepted
  · simp only [bind_unit_eq_ok] at accepted
    exact decideAuthorization_writes accepted.2
  · exact decideAuthorization_writes accepted

/-- A missed deadline fails the operation and the run. -/
theorem failOperation_writes {operation : AuthorizationOperationRow} {reason : String} {now : ℤ}
    (accepted : run.failOperation operation reason now = .ok after) : RunWrites lapses run after := by
  have fails : Aside run.failed (({ run with
      authorizationOperation := some { operation with failureReason := some reason } } :
        ReliabilityRun).setDeadlineFailed now).appendIncident.2 := by
    unfold ReliabilityRun.setDeadlineFailed
    split
    · next ended => exact ⟨rfl, rfl, rfl, rfl, ended, rfl, rfl⟩
    · exact ⟨rfl, rfl, rfl, rfl, rfl, rfl, rfl⟩
  exact failure_writes fails rfl accepted

theorem missPublication_writes {operation : AuthorizationOperationRow} {missed : Bool} {now : ℤ}
    (accepted : run.missPublication operation missed now = .ok after) : RunWrites lapses run after := by
  unfold ReliabilityRun.missPublication at accepted
  split at accepted
  · exact failOperation_writes accepted
  · cases accepted
    exact .refl

theorem publishReceipt_writes {kind : ReceiptKind} {missed late : Bool}
    {publicationDeadline : Option ℤ} {now : ℤ}
    (accepted : run.publishReceipt kind missed publicationDeadline now = .ok (late, after)) :
    RunWrites lapses run after := by
  have published : RunWrites lapses run (run.setReceiptPublished kind now) :=
    Aside.writes ⟨rfl, rfl, rfl, rfl, rfl, rfl, rfl⟩
  unfold ReliabilityRun.publishReceipt at accepted
  obtain ⟨control, _, accepted⟩ := bind_eq_ok.mp accepted
  split at accepted
  · obtain ⟨operation, _, accepted⟩ := bind_eq_ok.mp accepted
    obtain ⟨missing, misses, accepted⟩ := bind_eq_ok.mp accepted
    cases accepted
    exact published.trans (missPublication_writes misses)
  · cases accepted
    exact published

theorem finishPublication_writes {missed late : Bool} {publicationDeadline : Option ℤ} {now : ℤ}
    (accepted : run.finishPublication missed publicationDeadline now = .ok (late, after)) :
    RunWrites lapses run after := by
  unfold ReliabilityRun.finishPublication at accepted
  obtain ⟨control, _, accepted⟩ := bind_eq_ok.mp accepted
  obtain ⟨operation, _, accepted⟩ := bind_eq_ok.mp accepted
  dsimp only at accepted
  split at accepted
  · obtain ⟨missing, misses, accepted⟩ := bind_eq_ok.mp accepted
    cases accepted
    exact missPublication_writes misses
  · cases accepted
    exact Aside.writes ⟨rfl, rfl, rfl, rfl, rfl, rfl, rfl⟩

theorem completeAuthorizationOperation_writes {transitionDeadline now : ℤ} {completed : Bool}
    (accepted : run.completeAuthorizationOperation transitionDeadline now = .ok (completed, after)) :
    RunWrites lapses run after := by
  unfold ReliabilityRun.completeAuthorizationOperation at accepted
  obtain ⟨control, _, accepted⟩ := bind_eq_ok.mp accepted
  split at accepted
  · cases accepted
  · simp only [bind_unit_eq_ok] at accepted
    obtain ⟨_, accepted⟩ := accepted
    split at accepted
    · split at accepted
      · cases accepted
        exact .refl
      · obtain ⟨failed, fails, accepted⟩ := bind_eq_ok.mp accepted
        cases accepted
        exact failOperation_writes fails
    · cases accepted
      exact Aside.writes ⟨rfl, rfl, rfl, rfl, rfl, rfl, rfl⟩

/-! ### Attempts -/

theorem recordAttempt_aside {input : RecordAttemptInput} {now : ℤ}
    (accepted : run.recordAttempt input now = .ok after) : Aside run after := by
  unfold ReliabilityRun.recordAttempt at accepted
  obtain ⟨state, _, accepted⟩ := bind_eq_ok.mp accepted
  simp only [bind_unit_eq_ok] at accepted
  obtain ⟨_, _, accepted⟩ := accepted
  split at accepted
  · cases accepted
    exact ⟨rfl, rfl, rfl, rfl, rfl, rfl, rfl⟩
  · cases accepted
    exact ⟨rfl, rfl, rfl, rfl, rfl, rfl, rfl⟩

theorem authorizeReliabilityDispatch_writes {input : AuthorizeDispatchInput} {drawn : String} {now : ℤ}
    {authorization : ReliabilityRun.DispatchAuthorization}
    (accepted : run.authorizeReliabilityDispatch input drawn now = .ok (authorization, after)) :
    RunWrites lapses run after := by
  unfold ReliabilityRun.authorizeReliabilityDispatch at accepted
  obtain ⟨state, _, accepted⟩ := bind_eq_ok.mp accepted
  simp only [bind_unit_eq_ok] at accepted
  obtain ⟨_, accepted⟩ := accepted
  split at accepted
  · cases accepted
    exact .refl
  · split at accepted
    · obtain ⟨failed, fails, accepted⟩ := bind_eq_ok.mp accepted
      cases accepted
      exact failProtocolLocked_writes fails
    · simp only [bind_unit_eq_ok] at accepted
      cases accepted.2.2.2
      exact Aside.writes ⟨rfl, rfl, rfl, rfl, rfl, rfl, rfl⟩

theorem markReliabilityDispatchPrimitiveEntered_aside {requestId tokenId : String} {now : ℤ}
    (accepted : run.markReliabilityDispatchPrimitiveEntered requestId tokenId now = .ok after) :
    Aside run after := by
  unfold ReliabilityRun.markReliabilityDispatchPrimitiveEntered at accepted
  split at accepted
  · cases accepted
  · obtain ⟨state, _, accepted⟩ := bind_eq_ok.mp accepted
    split at accepted
    · cases accepted
      exact ⟨rfl, rfl, rfl, rfl, rfl, rfl, rfl⟩
    · simp only [bind_unit_eq_ok] at accepted
      cases accepted.2
      exact .refl run

theorem completeReliabilityAttempt_writes {input : CompleteAttemptInput} {now : ℤ}
    (accepted : run.completeReliabilityAttempt input now = .ok after) : RunWrites lapses run after := by
  unfold ReliabilityRun.completeReliabilityAttempt at accepted
  obtain ⟨state, _, accepted⟩ := bind_eq_ok.mp accepted
  simp only [bind_unit_eq_ok] at accepted
  obtain ⟨_, accepted⟩ := accepted
  split at accepted
  · obtain ⟨⟨left, rows⟩, removed, accepted⟩ := bind_eq_ok.mp accepted
    cases accepted
    refine Relation.ReflTransGen.trans ?_ (removeTerminalHeldMemberLocked_writes removed)
    exact Aside.writes ⟨rfl, rfl, rfl, rfl, rfl, rfl, rfl⟩
  · simp only [bind_unit_eq_ok] at accepted
    cases accepted.2
    exact .refl

theorem holdReliabilityAttempt_writes {input : HoldAttemptInput} {drawn : String} {now : ℤ}
    (accepted : run.holdReliabilityAttempt input drawn now = .ok after) : RunWrites lapses run after := by
  unfold ReliabilityRun.holdReliabilityAttempt at accepted
  obtain ⟨state, locked, accepted⟩ := bind_eq_ok.mp accepted
  have present := lane_of_locked locked
  simp only [bind_unit_eq_ok] at accepted
  obtain ⟨_, accepted⟩ := accepted
  obtain ⟨⟨entered, rows⟩, enters, accepted⟩ := bind_eq_ok.mp accepted
  cases accepted
  split at enters
  · refine Relation.ReflTransGen.trans ?_ (enterLaneHoldLocked_writes ?_ enters)
    · exact Aside.writes ⟨rfl, rfl, rfl, rfl, rfl, rfl, rfl⟩
    · exact present
  · exact enterLaneHoldLocked_writes present enters

theorem classifyReliabilityNotDispatched_writes {input : ClassifyInput} {now : ℤ}
    (accepted : run.classifyReliabilityNotDispatched input now = .ok after) :
    RunWrites lapses run after := by
  unfold ReliabilityRun.classifyReliabilityNotDispatched at accepted
  obtain ⟨state, _, accepted⟩ := bind_eq_ok.mp accepted
  simp only [bind_unit_eq_ok] at accepted
  obtain ⟨_, accepted⟩ := accepted
  obtain ⟨⟨left, rows⟩, removed, accepted⟩ := bind_eq_ok.mp accepted
  refine Relation.ReflTransGen.trans ?_
    ((removeTerminalHeldMemberLocked_writes removed).trans (failProtocolLocked_writes accepted))
  exact Aside.writes ⟨rfl, rfl, rfl, rfl, rfl, rfl, rfl⟩

theorem recoverPreEntryDispatch_writes {input : ClassifyInput} {now : ℤ}
    {outcome : ReliabilityRun.PreEntryRecovery}
    (accepted : run.recoverPreEntryDispatch input now = .ok (outcome, after)) :
    RunWrites lapses run after := by
  unfold ReliabilityRun.recoverPreEntryDispatch at accepted
  obtain ⟨state, _, accepted⟩ := bind_eq_ok.mp accepted
  split at accepted
  · split at accepted
    · cases accepted
      exact .refl
    · simp only [bind_unit_eq_ok] at accepted
      obtain ⟨_, accepted⟩ := accepted
      obtain ⟨failed, fails, accepted⟩ := bind_eq_ok.mp accepted
      cases accepted
      refine Relation.ReflTransGen.trans ?_ (failProtocolLocked_writes fails)
      exact Aside.writes ⟨rfl, rfl, rfl, rfl, rfl, rfl, rfl⟩
  · cases accepted

/-! ### Reconciliation -/

theorem enterAmbiguity_writes {input : ApplyReconciliationInput} {drawn : String} {now : ℤ}
    (present : (run.lanes.find? input.laneId).isSome = true)
    (accepted : run.enterAmbiguity input drawn now = .ok after) : RunWrites lapses run after := by
  unfold ReliabilityRun.enterAmbiguity at accepted
  obtain ⟨⟨entered, held⟩, enters, accepted⟩ := bind_eq_ok.mp accepted
  cases accepted
  have marked : Aside held (held.markMemberPending input.laneId entered.holdId input.requestId) :=
    ⟨rfl, rfl, rfl, rfl, rfl, rfl, rfl⟩
  refine Relation.ReflTransGen.trans ?_ ((enterLaneHoldLocked_writes ?_ enters).trans marked.writes)
  · exact Aside.writes ⟨rfl, rfl, rfl, rfl, rfl, rfl, rfl⟩
  · exact present

theorem terminalizeAttempt_writes {input : ApplyReconciliationInput} {plan : TerminalPlan}
    {controlState : ControlState} {now : ℤ}
    (accepted : run.terminalizeAttempt input plan controlState now = .ok after) :
    RunWrites lapses run after := by
  unfold ReliabilityRun.terminalizeAttempt at accepted
  obtain ⟨commitment, _, accepted⟩ := bind_eq_ok.mp accepted
  simp only [bind_unit_eq_ok] at accepted
  obtain ⟨_, accepted⟩ := accepted
  obtain ⟨claimed, claims, accepted⟩ := bind_eq_ok.mp accepted
  obtain ⟨⟨left, rows⟩, removed, accepted⟩ := bind_eq_ok.mp accepted
  simp only [bind_unit_eq_ok] at accepted
  cases accepted.2
  have same : Aside run claimed := by
    unfold ReliabilityRun.claimAllowance at claims
    split at claims
    · simp only [bind_unit_eq_ok] at claims
      cases claims.2
      exact ⟨rfl, rfl, rfl, rfl, rfl, rfl, rfl⟩
    · cases claims
      exact ⟨rfl, rfl, rfl, rfl, rfl, rfl, rfl⟩
  exact same.writes.trans (removeTerminalHeldMemberLocked_writes removed)

/-- A request enters no hold of a lane that is not there, and no lane is removed by entering one. -/
theorem applyPlan_writes {input : ApplyReconciliationInput} {plan : ReconciliationMutationPlan}
    {drawn : String} {now : ℤ} (present : (run.lanes.find? input.laneId).isSome = true)
    (accepted : run.applyPlan input plan drawn now = .ok after) : RunWrites lapses run after := by
  unfold ReliabilityRun.applyPlan at accepted
  simp only [bind_unit_eq_ok] at accepted
  obtain ⟨_, accepted⟩ := accepted
  obtain ⟨entered, enters, accepted⟩ := bind_eq_ok.mp accepted
  obtain ⟨ended, ends, failing⟩ := bind_eq_ok.mp accepted
  have entering : RunWrites lapses run entered := by
    unfold ReliabilityRun.enterPlanned at enters
    split at enters
    · exact enterAmbiguity_writes present enters
    · cases enters
      exact .refl
  have ending : RunWrites lapses entered ended := by
    unfold ReliabilityRun.endPlanned at ends
    split at ends
    · exact terminalizeAttempt_writes ends
    · cases ends
      exact .refl
  have noted : Aside ended (ended.appendEvents
      (plan.events.map fun eventType => (some input.requestId, eventType))) :=
    ⟨rfl, rfl, rfl, rfl, rfl, rfl, rfl⟩
  refine ((entering.trans ending).trans noted.writes).trans ?_
  unfold ReliabilityRun.failPlanned at failing
  split at failing
  · exact failProtocolLocked_writes failing
  · cases failing
    exact .refl

theorem applyAuthoritativeReconciliation_writes {input : ApplyReconciliationInput} {drawn : String}
    {now : ℤ} {applied : AppliedReconciliation}
    (accepted : run.applyAuthoritativeReconciliation input drawn now = .ok (applied, after)) :
    RunWrites lapses run after := by
  unfold ReliabilityRun.applyAuthoritativeReconciliation at accepted
  obtain ⟨control, _, accepted⟩ := bind_eq_ok.mp accepted
  simp only [bind_unit_eq_ok, require_eq_ok] at accepted
  obtain ⟨_, present, accepted⟩ := accepted
  split at accepted
  · cases accepted
  · split at accepted
    · cases accepted
      exact .refl
    · simp only [bind_unit_eq_ok] at accepted
      obtain ⟨_, _, accepted⟩ := accepted
      obtain ⟨findings, _, accepted⟩ := bind_eq_ok.mp accepted
      obtain ⟨plan, _, accepted⟩ := bind_eq_ok.mp accepted
      obtain ⟨rows, applies, accepted⟩ := bind_eq_ok.mp accepted
      cases accepted
      exact applyPlan_writes present applies

/-! ### Hard finalization -/

theorem hardFinalizeReliabilityRun_writes {deadlineMs : ℤ} {replayTargetRequestIds : List String}
    {now : ℤ} {plan : HardFinalizationPlan}
    (accepted : run.hardFinalizeReliabilityRun deadlineMs replayTargetRequestIds now = .ok (plan, after)) :
    RunWrites lapses run after := by
  unfold ReliabilityRun.hardFinalizeReliabilityRun at accepted
  obtain ⟨control, _, accepted⟩ := bind_eq_ok.mp accepted
  dsimp only at accepted
  split at accepted
  · obtain ⟨states, _, accepted⟩ := bind_eq_ok.mp accepted
    simp only [bind_unit_eq_ok] at accepted
    obtain ⟨_, accepted⟩ := accepted
    obtain ⟨reported, reports, accepted⟩ := bind_eq_ok.mp accepted
    obtain ⟨committed, commits, accepted⟩ := bind_eq_ok.mp accepted
    cases accepted
    unfold ReliabilityRun.insertFailureReport at reports
    simp only [bind_unit_eq_ok] at reports
    cases reports.2
    -- All lanes stop.
    have stopped : RunWrites lapses run (run.updateLanes (fun _ => true) .failed none) :=
      (RunWrite.setLanes (fun _ => true) .failed none fun _ _ _ going => by cases going).writes
    refine stopped.trans (failure_writes ?_ rfl commits)
    exact ⟨rfl, rfl, rfl, rfl, rfl, rfl, rfl⟩
  · cases accepted
    exact .refl

/-! ### Barriers and lanes -/

theorem createBurstBarrier_aside {laneId : String} {block : ℤ} {requestIds : List String}
    (accepted : run.createBurstBarrier laneId block requestIds = .ok after) : Aside run after := by
  unfold ReliabilityRun.createBurstBarrier at accepted
  obtain ⟨state, _, accepted⟩ := bind_eq_ok.mp accepted
  simp only [bind_unit_eq_ok] at accepted
  cases accepted.2
  exact ⟨rfl, rfl, rfl, rfl, rfl, rfl, rfl⟩

theorem releaseBurstBarrier_aside {laneId : String} {block now : ℤ}
    (accepted : run.releaseBurstBarrier laneId block now = .ok after) : Aside run after := by
  unfold ReliabilityRun.releaseBurstBarrier at accepted
  obtain ⟨state, _, accepted⟩ := bind_eq_ok.mp accepted
  simp only [bind_unit_eq_ok] at accepted
  obtain ⟨_, accepted⟩ := accepted
  split at accepted
  · cases accepted
  · simp only [bind_unit_eq_ok] at accepted
    cases accepted.2
    exact ⟨rfl, rfl, rfl, rfl, rfl, rfl, rfl⟩

theorem enterLaneHold_writes {input : LaneMemberInput} {drawn : String}
    {entered : ReliabilityRun.EnteredHold}
    (accepted : run.enterLaneHold input drawn = .ok (entered, after)) : RunWrites lapses run after := by
  unfold ReliabilityRun.enterLaneHold at accepted
  obtain ⟨state, locked, accepted⟩ := bind_eq_ok.mp accepted
  simp only [bind_unit_eq_ok] at accepted
  exact enterLaneHoldLocked_writes (lane_of_locked locked) accepted.2

theorem resolveHeldMember_writes {input : LaneMemberInput} {allowance : Bool} {now : ℤ}
    {resolved : ReliabilityRun.ResolvedMember}
    (accepted : run.resolveHeldMember input allowance now = .ok (resolved, after)) :
    RunWrites lapses run after := by
  unfold ReliabilityRun.resolveHeldMember at accepted
  obtain ⟨state, _, accepted⟩ := bind_eq_ok.mp accepted
  simp only [bind_unit_eq_ok] at accepted
  obtain ⟨_, accepted⟩ := accepted
  obtain ⟨⟨later, allowed⟩, claims, accepted⟩ := bind_eq_ok.mp accepted
  obtain ⟨⟨removed, left⟩, removes, accepted⟩ := bind_eq_ok.mp accepted
  have claiming : RunWrites lapses run allowed := by
    unfold ReliabilityRun.claimHeldAllowance at claims
    split at claims
    · cases claims
      exact .refl
    · split at claims
      · obtain ⟨failed, fails, claims⟩ := bind_eq_ok.mp claims
        cases claims
        exact failProtocolLocked_writes fails
      · cases claims
        exact Aside.writes ⟨rfl, rfl, rfl, rfl, rfl, rfl, rfl⟩
  have removing : RunWrites lapses run left :=
    claiming.trans (removeTerminalHeldMemberLocked_writes removes)
  cases removed with
  | none => cases accepted
  | some leaves =>
    cases accepted
    exact removing

theorem resumeDueLanes_writes {now : ℤ} {laneIds : List String}
    (accepted : run.resumeDueLanes now = .ok (laneIds, after)) : RunWrites lapses run after := by
  unfold ReliabilityRun.resumeDueLanes at accepted
  obtain ⟨control, _, accepted⟩ := bind_eq_ok.mp accepted
  split at accepted
  · cases accepted
    exact .refl
  · cases accepted
    refine (RunWrite.setLanes (run.isDueLane now) .ready none fun lane _ due _ => .inl ?_).writes
    unfold ReliabilityRun.isDueLane at due
    simp only [Bool.and_eq_true, Option.isNone_iff_eq_none] at due
    exact due.1.2

theorem enqueueHeldLaneWork_aside {input : HeldWorkInput} {waits : Bool}
    (accepted : run.enqueueHeldLaneWork input = .ok (waits, after)) : Aside run after := by
  unfold ReliabilityRun.enqueueHeldLaneWork at accepted
  simp only [bind_unit_eq_ok] at accepted
  obtain ⟨_, accepted⟩ := accepted
  obtain ⟨state, _, accepted⟩ := bind_eq_ok.mp accepted
  simp only [bind_unit_eq_ok] at accepted
  obtain ⟨_, accepted⟩ := accepted
  split at accepted
  · cases accepted
    exact .refl run
  · simp only [bind_unit_eq_ok] at accepted
    obtain ⟨_, accepted⟩ := accepted
    obtain ⟨queued, queues, accepted⟩ := bind_eq_ok.mp accepted
    simp only [bind_unit_eq_ok] at accepted
    cases accepted.2
    unfold ReliabilityRun.insertBacklog at queues
    split at queues
    · cases queues
      exact .refl run
    · simp only [bind_unit_eq_ok] at queues
      cases queues.2
      exact ⟨rfl, rfl, rfl, rfl, rfl, rfl, rfl⟩

theorem claimDueResumedWork_writes {laneId : String} {mode : ResumeMode} {now : ℤ}
    {work : Option ResumedWork} (accepted : run.claimDueResumedWork laneId mode now = .ok (work, after)) :
    RunWrites lapses run after := by
  unfold ReliabilityRun.claimDueResumedWork at accepted
  obtain ⟨state, _, accepted⟩ := bind_eq_ok.mp accepted
  split at accepted
  · cases accepted
    exact .refl
  · split at accepted
    · next resumeAt first due queued =>
      split at accepted
      · cases accepted
        exact .refl
      · cases accepted
        obtain ⟨pending, found, _⟩ := Option.bind_eq_some_iff.mp due
        obtain ⟨stored, waits⟩ := (Option.filter_eq_some_iff ..).mp found
        have claimed : Aside run { run with
            backlog := run.backlog.update (ReliabilityRun.isResumedWith mode first)
              (BacklogRow.claim resumeAt now) fun _ => rfl } := ⟨rfl, rfl, rfl, rfl, rfl, rfl, rfl⟩
        refine claimed.writes.trans
          (RunWrite.setLanes (·.laneId = laneId) .resuming none fun lane member own _ => .inr (.inl ?_)).writes
        have same : lane.laneId = pending.laneId :=
          (of_decide_eq_true own).trans (Table.key_of_find? stored).symm
        rw [Table.eq_of_key member (Table.mem_of_find? stored) same, of_decide_eq_true waits]
        rfl
    · cases accepted
      exact .refl

theorem completeResumedWorkGroup_writes {laneId : String} {block : ℤ} {resumeAt : Option ℤ}
    (accepted : run.completeResumedWorkGroup laneId block = .ok (resumeAt, after))
    (lapse : (run.openHold laneId).isSome = true → lapses.wakes) : RunWrites lapses run after := by
  unfold ReliabilityRun.completeResumedWorkGroup at accepted
  obtain ⟨state, _, accepted⟩ := bind_eq_ok.mp accepted
  simp only [bind_unit_eq_ok] at accepted
  obtain ⟨_, _, accepted⟩ := accepted
  have wakes : ∀ (state : LaneState) (resumeAt : Option ℤ), RunWrites lapses run
      ((run.finishWork laneId block).updateLanes (·.laneId = laneId) state resumeAt) := by
    intro state resumeAt
    have finished : Aside run (run.finishWork laneId block) := ⟨rfl, rfl, rfl, rfl, rfl, rfl, rfl⟩
    refine finished.writes.trans (RunWrite.setLanes _ state resumeAt fun lane _ own _ => ?_).writes
    rw [of_decide_eq_true own]
    cases opened : run.openHold laneId with
    | none => exact .inl opened
    | some hold => exact .inr (.inr (lapse (by rw [opened]; rfl)))
  split at accepted
  · cases accepted
  · split at accepted
    · cases accepted
      exact wakes .ready none
    · cases accepted
      exact wakes .resumePending _

/-! ### All transactions -/

/-- What a transaction may do besides. -/
def lapsesOf (run : ReliabilityRun) (op : ProtocolOp) : Lapses where
  wakes := run.wakesHeldLane op = true
  elsewhere := ∃ other, op = .elsewhere other

theorem perform_writes {op : ProtocolOp} (accepted : run.perform op = .ok after) :
    RunWrites (lapsesOf run op) run after := by
  have committed : run.commits op = true := ReliabilityRun.commits_of_eq_ok accepted
  cases op with
  | initializeRun laneIds =>
    cases accepted
    exact insertLanes_writes laneIds run
  | registerSealedCalls calls => exact (registerSealedCalls_aside accepted).writes
  | claimBlock input now =>
    obtain ⟨value, held⟩ := ReliabilityRun.rowsOf_eq_ok accepted
    exact (claimBlock_aside held).writes
  | beginAuthorizationOperation now =>
    obtain ⟨value, held⟩ := ReliabilityRun.rowsOf_eq_ok accepted
    exact (beginAuthorizationOperation_aside held).writes
  | commitAuthorization input now => exact commitAuthorization_writes accepted
  | commitAuthorizationPredecisionFailure input now =>
    obtain ⟨value, held⟩ := ReliabilityRun.rowsOf_eq_ok accepted
    exact commitAuthorizationPredecisionFailure_writes held
  | publishReceipt kind missed publicationDeadline now =>
    obtain ⟨value, held⟩ := ReliabilityRun.rowsOf_eq_ok accepted
    exact publishReceipt_writes held
  | finishPublication missed publicationDeadline now =>
    obtain ⟨value, held⟩ := ReliabilityRun.rowsOf_eq_ok accepted
    exact finishPublication_writes held
  | completeAuthorizationOperation transitionDeadline now =>
    obtain ⟨value, held⟩ := ReliabilityRun.rowsOf_eq_ok accepted
    exact completeAuthorizationOperation_writes held
  | recordAttempt input now => exact (recordAttempt_aside accepted).writes
  | authorizeReliabilityDispatch input drawn now =>
    obtain ⟨value, held⟩ := ReliabilityRun.rowsOf_eq_ok accepted
    exact authorizeReliabilityDispatch_writes held
  | markReliabilityDispatchPrimitiveEntered requestId tokenId now =>
    exact (markReliabilityDispatchPrimitiveEntered_aside accepted).writes
  | completeReliabilityAttempt input now => exact completeReliabilityAttempt_writes accepted
  | holdReliabilityAttempt input drawn now => exact holdReliabilityAttempt_writes accepted
  | classifyReliabilityNotDispatched input now => exact classifyReliabilityNotDispatched_writes accepted
  | recoverPreEntryDispatch input now =>
    obtain ⟨value, held⟩ := ReliabilityRun.rowsOf_eq_ok accepted
    exact recoverPreEntryDispatch_writes held
  | applyAuthoritativeReconciliation input drawn now =>
    obtain ⟨value, held⟩ := ReliabilityRun.rowsOf_eq_ok accepted
    exact applyAuthoritativeReconciliation_writes held
  | failProtocol reason now => exact failProtocolLocked_writes accepted
  | hardFinalizeReliabilityRun deadlineMs replayTargetRequestIds now =>
    obtain ⟨value, held⟩ := ReliabilityRun.rowsOf_eq_ok accepted
    exact hardFinalizeReliabilityRun_writes held
  | createBurstBarrier laneId block requestIds => exact (createBurstBarrier_aside accepted).writes
  | releaseBurstBarrier laneId block now => exact (releaseBurstBarrier_aside accepted).writes
  | enterLaneHold input drawn =>
    obtain ⟨value, held⟩ := ReliabilityRun.rowsOf_eq_ok accepted
    exact enterLaneHold_writes held
  | resolveHeldMember input allowance now =>
    obtain ⟨value, held⟩ := ReliabilityRun.rowsOf_eq_ok accepted
    exact resolveHeldMember_writes held
  | resumeDueLanes now =>
    obtain ⟨value, held⟩ := ReliabilityRun.rowsOf_eq_ok accepted
    exact resumeDueLanes_writes held
  | enqueueHeldLaneWork input =>
    obtain ⟨value, held⟩ := ReliabilityRun.rowsOf_eq_ok accepted
    exact (enqueueHeldLaneWork_aside held).writes
  | claimDueResumedWork laneId mode now =>
    obtain ⟨value, held⟩ := ReliabilityRun.rowsOf_eq_ok accepted
    exact claimDueResumedWork_writes held
  | completeResumedWorkGroup laneId block =>
    obtain ⟨value, held⟩ := ReliabilityRun.rowsOf_eq_ok accepted
    refine completeResumedWorkGroup_writes held fun opened => ?_
    simp only [lapsesOf, ReliabilityRun.wakesHeldLane, committed, opened, Bool.and_self]
  | scheduler op =>
    cases accepted
    exact Aside.writes ⟨rfl, rfl, rfl, rfl, rfl, rfl, rfl⟩
  | elsewhere other =>
    cases accepted
    have abstracted : (lapsesOf run (.elsewhere other)).elsewhere := ⟨other, rfl⟩
    exact (RunWrite.elsewhere other abstracted).writes

/-- **Every transaction is a sequence of writes.** -/
theorem protocolStep_writes (run : ReliabilityRun) (op : ProtocolOp) :
    RunWrites (lapsesOf run op) run (run.protocolStep op) := by
  rcases run.protocolStep_cases op with same | accepted
  · rw [same]
  · exact perform_writes accepted

/-- What every write preserves, every sequence of writes preserves. -/
theorem RunWrites.keeps (inv : ReliabilityRun → Prop)
    (kept : ∀ {run after : ReliabilityRun}, inv run → RunWrite lapses run after → inv after)
    (start : inv run) (writes : RunWrites lapses run after) : inv after := by
  induction writes with
  | refl => exact start
  | tail _ write held => exact kept held write

end Writes

end FuseControlPlane.Reliability
