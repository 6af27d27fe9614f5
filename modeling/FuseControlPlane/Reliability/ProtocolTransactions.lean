/-
Every transaction of the protocol store is a sequence of effects.

One lemma for each transaction that writes what the laws speak about, under the condition that the faults
it may commit are among the given ones; `protocolStep_effects` puts them together.
-/

import FuseControlPlane.Reliability.ProtocolEffects

set_option linter.unusedSectionVars false

namespace FuseControlPlane.Reliability

open Foundation Foundation.JavaScript Domain Evidence

section Transactions

variable {faults : Faults} {run after : ReliabilityRun}

/-! ### Registration -/

theorem insertLane_quiet (run : ReliabilityRun) (laneId : String) :
    Quiet run (run.insertLane laneId) ∧ SameHolds run (run.insertLane laneId) := by
  unfold ReliabilityRun.insertLane
  split
  · exact ⟨.refl run, .refl run⟩
  · exact ⟨⟨rfl, rfl, rfl, rfl, rfl, rfl, rfl, rfl, rfl, id⟩, rfl, rfl⟩

theorem insertLanes_quiet (laneIds : List String) : ∀ run : ReliabilityRun,
    Quiet run (laneIds.foldl ReliabilityRun.insertLane run) ∧
      SameHolds run (laneIds.foldl ReliabilityRun.insertLane run) := by
  induction laneIds with
  | nil => exact fun run => ⟨.refl run, .refl run⟩
  | cons laneId rest ih =>
    intro run
    obtain ⟨first, holds⟩ := insertLane_quiet run laneId
    obtain ⟨later, kept⟩ := ih (run.insertLane laneId)
    exact ⟨first.trans later, holds.trans kept⟩

theorem insertSealedCall_effects {sealed : SealedCallRow}
    (accepted : run.insertSealedCall sealed = .ok after) : Effects faults run after := by
  unfold ReliabilityRun.insertSealedCall at accepted
  split at accepted
  · cases accepted
    exact .refl
  · next absent =>
    simp only [bind_unit_eq_ok, require_eq_ok, Bool.not_eq_true'] at accepted
    obtain ⟨free, _, accepted⟩ := accepted
    cases accepted
    exact .of_rows (.insertSealed sealed (by simpa using absent) free)

theorem planAttempt_effects {sealed : SealedCallRow}
    (stored : run.sealedCalls.find? sealed.requestId = some sealed) :
    Effects faults run (run.planAttempt sealed) := by
  unfold ReliabilityRun.planAttempt
  split
  · exact .refl
  · next absent =>
    have planned : Effects faults run { run with attempts := run.attempts.put sealed.plannedAttempt } :=
      .of_rows (.plan sealed stored (by simpa using absent))
    exact planned.trans (noteOne _ (by decide))

theorem registerSealedCall_effects {sealed : SealedCallRow}
    (accepted : run.registerSealedCall sealed = .ok after) : Effects faults run after := by
  unfold ReliabilityRun.registerSealedCall at accepted
  simp only [bind_unit_eq_ok] at accepted
  obtain ⟨_, accepted⟩ := accepted
  obtain ⟨inserted, stored, accepted⟩ := bind_eq_ok.mp accepted
  simp only [bind_unit_eq_ok, require_eq_ok, decide_eq_true_eq] at accepted
  obtain ⟨exact_, _, accepted⟩ := accepted
  cases accepted
  exact (insertSealedCall_effects stored).trans (planAttempt_effects exact_)

theorem registerCalls_effects {calls : List SealedCallRow} :
    ∀ {run : ReliabilityRun},
      calls.foldlM (fun run sealed => run.registerSealedCall sealed) run = .ok after →
        Effects faults run after := by
  induction calls with
  | nil =>
    intro run accepted
    cases accepted
    exact .refl
  | cons sealed rest ih =>
    intro run accepted
    rw [List.foldlM_cons] at accepted
    obtain ⟨registered, first, later⟩ := bind_eq_ok.mp accepted
    exact (registerSealedCall_effects first).trans (ih later)

section Operations

variable [NodeCrypto] [Collation] [ProtocolProfiles]

theorem registerSealedCalls_effects {calls : List SealedCallRow}
    (accepted : run.registerSealedCalls calls = .ok after) : Effects faults run after := by
  unfold ReliabilityRun.registerSealedCalls at accepted
  simp only [bind_unit_eq_ok] at accepted
  obtain ⟨_, accepted⟩ := accepted
  obtain ⟨control, _, accepted⟩ := bind_eq_ok.mp accepted
  simp only [bind_unit_eq_ok] at accepted
  exact registerCalls_effects accepted.2

/-! ### Authorization -/

theorem claimBlock_effects {input : ClaimBlockInput} {now claimedAt : ℤ}
    (accepted : run.claimBlock input now = .ok (claimedAt, after)) : Effects faults run after := by
  unfold ReliabilityRun.claimBlock at accepted
  obtain ⟨control, _, accepted⟩ := bind_eq_ok.mp accepted
  simp only [bind_unit_eq_ok] at accepted
  obtain ⟨_, _, _, _, accepted⟩ := accepted
  split at accepted
  · simp only [bind_unit_eq_ok] at accepted
    cases accepted.2.2
    exact .refl
  · simp only [bind_unit_eq_ok] at accepted
    cases accepted.2
    have claimed : Effects faults run { run with
        blockClaims := run.blockClaims.put ⟨input.block, input.ownerId, input.opensAt,
          input.launchDeadline, now, control.planFingerprint⟩ } :=
      .of_quiet ⟨rfl, rfl, rfl, rfl, rfl, rfl, rfl, rfl, rfl, id⟩ ⟨rfl, rfl⟩
    exact claimed.trans (noteOne none (by decide))

theorem beginAuthorizationOperation_effects {now : ℤ} {operation : AuthorizationOperationRow}
    (accepted : run.beginAuthorizationOperation now = .ok (operation, after)) :
    Effects faults run after := by
  unfold ReliabilityRun.beginAuthorizationOperation at accepted
  obtain ⟨control, _, accepted⟩ := bind_eq_ok.mp accepted
  simp only [bind_unit_eq_ok] at accepted
  cases accepted.2
  exact .of_quiet ⟨rfl, rfl, rfl, rfl, rfl, rfl, rfl, rfl, rfl, id⟩ ⟨rfl, rfl⟩

theorem failDecision_effects {reasonCode : String} {now : ℤ}
    (accepted : run.failDecision reasonCode now = .ok after) : Effects faults run after := by
  obtain ⟨others, holds⟩ := commitReportIntentLocked_quiet accepted
  obtain ⟨failed, kept⟩ := setFailed_quiet run now
  exact .of_quiet
    (failed.trans ⟨others.sealedCalls, others.attempts, others.dispatchTokens, others.burstBarriers,
      others.events, others.nextEventSequence, others.dispatchTokenCount, others.gateClassificationCount,
      others.usableCount, others.active⟩)
    (kept.trans ⟨holds.holds, holds.holdMembers⟩)

theorem insertDecision_effects (decisionId : String) (verdict : Json) (operatorNonce : Option String)
    (operatorReceipt reconciliationReceipt : Json) : Effects faults run
      (run.insertDecision decisionId verdict operatorNonce operatorReceipt reconciliationReceipt) :=
  .of_quiet ⟨rfl, rfl, rfl, rfl, rfl, rfl, rfl, rfl, rfl, id⟩ ⟨rfl, rfl⟩

theorem commitAuthorizationPredecisionFailure_effects {input : PredecisionFailureInput} {now : ℤ}
    {decisionId : String}
    (accepted : run.commitAuthorizationPredecisionFailure input now = .ok (decisionId, after)) :
    Effects faults run after := by
  unfold ReliabilityRun.commitAuthorizationPredecisionFailure at accepted
  simp only [bind_unit_eq_ok] at accepted
  obtain ⟨_, accepted⟩ := accepted
  obtain ⟨control, _, accepted⟩ := bind_eq_ok.mp accepted
  simp only [bind_unit_eq_ok] at accepted
  obtain ⟨_, accepted⟩ := accepted
  obtain ⟨id, _, accepted⟩ := bind_eq_ok.mp accepted
  split at accepted
  · simp only [bind_unit_eq_ok] at accepted
    cases accepted.2
    exact .refl
  · obtain ⟨failed, held, accepted⟩ := bind_eq_ok.mp accepted
    cases accepted
    exact (insertDecision_effects _ _ _ _ _).trans (failDecision_effects held)

theorem decideAuthorization_effects {input : CommitAuthorizationInput} {version : ProtocolVersion}
    {now : ℤ} (accepted : run.decideAuthorization input version now = .ok after) :
    Effects faults run after := by
  unfold ReliabilityRun.decideAuthorization at accepted
  split at accepted
  · simp only [bind_unit_eq_ok] at accepted
    cases accepted.2
    exact .refl
  · simp only [bind_unit_eq_ok] at accepted
    obtain ⟨_, _, accepted⟩ := accepted
    refine (insertDecision_effects input.decisionId input.verdict input.operatorNonce
      input.operatorReceipt input.reconciliationReceipt).trans ?_
    split at accepted
    · cases accepted
      exact .refl
    · split at accepted
      · exact failDecision_effects accepted
      · cases accepted
        obtain ⟨failed, kept⟩ := setFailed_quiet (run.insertDecision input.decisionId
          input.verdict input.operatorNonce input.operatorReceipt input.reconciliationReceipt) now
        exact Effects.of_quiet failed kept

theorem commitAuthorization_effects {input : CommitAuthorizationInput} {now : ℤ}
    (accepted : run.commitAuthorization input now = .ok after) : Effects faults run after := by
  unfold ReliabilityRun.commitAuthorization at accepted
  obtain ⟨version, _, accepted⟩ := bind_eq_ok.mp accepted
  simp only [bind_unit_eq_ok] at accepted
  obtain ⟨_, _, accepted⟩ := accepted
  obtain ⟨control, _, accepted⟩ := bind_eq_ok.mp accepted
  split at accepted
  · simp only [bind_unit_eq_ok] at accepted
    exact decideAuthorization_effects accepted.2
  · exact decideAuthorization_effects accepted

theorem setDeadlineFailed_quiet (run : ReliabilityRun) (now : ℤ) :
    Quiet run (run.setDeadlineFailed now) ∧ SameHolds run (run.setDeadlineFailed now) := by
  unfold ReliabilityRun.setDeadlineFailed
  split
  · exact ⟨.refl run, .refl run⟩
  · exact ⟨⟨rfl, rfl, rfl, rfl, rfl, rfl, rfl, rfl, rfl, fun active => by cases active⟩, rfl, rfl⟩

theorem failOperation_effects {operation : AuthorizationOperationRow} {reason : String} {now : ℤ}
    (accepted : run.failOperation operation reason now = .ok after) : Effects faults run after := by
  have failing : Effects faults run { run with
      authorizationOperation := some { operation with failureReason := some reason } } :=
    .of_quiet ⟨rfl, rfl, rfl, rfl, rfl, rfl, rfl, rfl, rfl, id⟩ ⟨rfl, rfl⟩
  obtain ⟨failed, kept⟩ := setDeadlineFailed_quiet { run with
    authorizationOperation := some { operation with failureReason := some reason } } now
  obtain ⟨others, holds⟩ := commitReportIntentLocked_quiet accepted
  refine failing.trans (Effects.of_quiet
    (failed.trans ⟨others.sealedCalls, others.attempts, others.dispatchTokens, others.burstBarriers,
      others.events, others.nextEventSequence, others.dispatchTokenCount, others.gateClassificationCount,
      others.usableCount, others.active⟩)
    (kept.trans ⟨holds.holds, holds.holdMembers⟩))

theorem missPublication_effects {operation : AuthorizationOperationRow} {missed : Bool} {now : ℤ}
    (accepted : run.missPublication operation missed now = .ok after) : Effects faults run after := by
  unfold ReliabilityRun.missPublication at accepted
  split at accepted
  · exact failOperation_effects accepted
  · cases accepted
    exact .refl

theorem publishReceipt_effects {kind : ReceiptKind} {missed late : Bool}
    {publicationDeadline : Option ℤ} {now : ℤ}
    (accepted : run.publishReceipt kind missed publicationDeadline now = .ok (late, after)) :
    Effects faults run after := by
  have published : Effects faults run (run.setReceiptPublished kind now) :=
    .of_quiet ⟨rfl, rfl, rfl, rfl, rfl, rfl, rfl, rfl, rfl, id⟩ ⟨rfl, rfl⟩
  unfold ReliabilityRun.publishReceipt at accepted
  obtain ⟨control, _, accepted⟩ := bind_eq_ok.mp accepted
  split at accepted
  · obtain ⟨operation, _, accepted⟩ := bind_eq_ok.mp accepted
    obtain ⟨missing, held, accepted⟩ := bind_eq_ok.mp accepted
    cases accepted
    exact published.trans (missPublication_effects held)
  · cases accepted
    exact published

theorem finishPublication_effects {missed late : Bool} {publicationDeadline : Option ℤ} {now : ℤ}
    (accepted : run.finishPublication missed publicationDeadline now = .ok (late, after)) :
    Effects faults run after := by
  unfold ReliabilityRun.finishPublication at accepted
  obtain ⟨control, _, accepted⟩ := bind_eq_ok.mp accepted
  obtain ⟨operation, _, accepted⟩ := bind_eq_ok.mp accepted
  dsimp only at accepted
  split at accepted
  · obtain ⟨missing, held, accepted⟩ := bind_eq_ok.mp accepted
    cases accepted
    exact missPublication_effects held
  · cases accepted
    exact .of_quiet ⟨rfl, rfl, rfl, rfl, rfl, rfl, rfl, rfl, rfl, id⟩ ⟨rfl, rfl⟩

theorem completeAuthorizationOperation_effects {transitionDeadline now : ℤ} {completed : Bool}
    (accepted : run.completeAuthorizationOperation transitionDeadline now = .ok (completed, after)) :
    Effects faults run after := by
  unfold ReliabilityRun.completeAuthorizationOperation at accepted
  obtain ⟨control, _, accepted⟩ := bind_eq_ok.mp accepted
  split at accepted
  · cases accepted
  · simp only [bind_unit_eq_ok] at accepted
    obtain ⟨_, accepted⟩ := accepted
    split at accepted
    · split at accepted
      · cases accepted
        exact .refl
      · obtain ⟨failed, held, accepted⟩ := bind_eq_ok.mp accepted
        cases accepted
        exact failOperation_effects held
    · cases accepted
      exact .of_quiet ⟨rfl, rfl, rfl, rfl, rfl, rfl, rfl, rfl, rfl, id⟩ ⟨rfl, rfl⟩

/-! ### Dispatch -/

theorem recordAttempt_effects {input : RecordAttemptInput} {now : ℤ}
    (accepted : run.recordAttempt input now = .ok after) : Effects faults run after := by
  unfold ReliabilityRun.recordAttempt at accepted
  obtain ⟨state, locked, accepted⟩ := bind_eq_ok.mp accepted
  simp only [bind_unit_eq_ok, require_eq_ok, decide_eq_true_eq] at accepted
  obtain ⟨active, _, accepted⟩ := accepted
  have admitted : Effects faults run
      (run.updateAttempts (run.isAdmissible input) (run.admitAttempt input now) fun _ => rfl) :=
    .of_rows (.admitAttempt input now ((ProtocolRun.lockControlLane_eq_ok locked).symm.trans active))
  split at accepted
  · cases accepted
    exact admitted
  · cases accepted
    exact admitted.trans (noteOne _ (by decide))

theorem authorizeReliabilityDispatch_effects {input : AuthorizeDispatchInput} {drawn : String} {now : ℤ}
    {authorization : ReliabilityRun.DispatchAuthorization}
    (accepted : run.authorizeReliabilityDispatch input drawn now = .ok (authorization, after))
    (clean : run.control.state = .active → run.dispatchTokens.find? input.requestId = none →
      run.capDisposition input.requestId ≠ .allow → run.strandsMember none = true → faults.strands) :
    Effects faults run after := by
  unfold ReliabilityRun.authorizeReliabilityDispatch at accepted
  obtain ⟨state, locked, accepted⟩ := bind_eq_ok.mp accepted
  simp only [bind_unit_eq_ok, require_eq_ok, decide_eq_true_eq] at accepted
  obtain ⟨going, accepted⟩ := accepted
  have active : run.control.state = .active :=
    (ProtocolRun.lockControlLane_eq_ok locked).symm.trans going
  split at accepted
  · cases accepted
    exact .refl
  · next absent =>
    split at accepted
    · next exceeded =>
      obtain ⟨failed, held, accepted⟩ := bind_eq_ok.mp accepted
      cases accepted
      exact failProtocolLocked_effects held fun _ => clean active absent exceeded
    · next allowed =>
      simp only [bind_unit_eq_ok, require_eq_ok, decide_eq_true_eq] at accepted
      obtain ⟨below, dispatchable, _, accepted⟩ := accepted
      cases accepted
      have issued : Effects faults run (run.issueToken input drawn) :=
        .of_rows (.issue input drawn active absent (not_not.mp allowed) below dispatchable)
      exact issued.trans (noteOne _ (by decide))

theorem markReliabilityDispatchPrimitiveEntered_effects {requestId tokenId : String} {now : ℤ}
    (accepted : run.markReliabilityDispatchPrimitiveEntered requestId tokenId now = .ok after)
    (allowed : ∀ attempt, run.entersWith attempt
      (.markReliabilityDispatchPrimitiveEntered requestId tokenId now) → faults.enters attempt) :
    Effects faults run after := by
  unfold ReliabilityRun.markReliabilityDispatchPrimitiveEntered at accepted
  split at accepted
  · cases accepted
  · next token found =>
    obtain ⟨stored, own⟩ := (Option.filter_eq_some_iff ..).mp found
    obtain ⟨state, _, accepted⟩ := bind_eq_ok.mp accepted
    split at accepted
    · next enterable =>
      cases accepted
      have entered : Effects faults run (run.markEntered requestId now) := by
        refine .of_rows (.enter requestId now token stored enterable fun attempt there => ?_)
        exact allowed attempt ⟨there, token, stored, of_decide_eq_true own, enterable⟩
      exact entered.trans (noteOne _ (by decide))
    · simp only [bind_unit_eq_ok] at accepted
      cases accepted.2
      exact .refl

/-! ### Classification -/

theorem any_attempt {chosen : AttemptRow → Bool} (some_chosen : run.attempts.rows.any chosen = true) :
    ∃ attempt ∈ run.attempts, chosen attempt = true := by
  obtain ⟨attempt, member, meets⟩ := List.any_eq_true.mp some_chosen
  exact ⟨attempt, member, meets⟩

/-- The attempt that a completion classifies. -/
theorem completion (input : CompleteAttemptInput) (now : ℤ)
    (completable : run.attempts.rows.any (run.isCompletable input) = true) :
    ∃ classification : Classification run,
      classification.apply = ((run.updateAttempts (run.isCompletable input)
        (AttemptRow.complete input now) fun _ => rfl).countClassified 1 1).appendEvents
          [(some input.requestId, .providerResponsePersisted), (some input.requestId, .gateClassified)] ∧
      ∀ attempt ∈ run.attempts, classification.chosen attempt = true →
        attempt.requestId = input.requestId ∧ attempt.laneId = input.laneId := by
  have picks : ∀ attempt, run.isCompletable input attempt = true →
      attempt.requestId = input.requestId ∧ attempt.laneId = input.laneId ∧
        attempt.gateClassifiedAt = none := by
    intro attempt meets
    unfold ReliabilityRun.isCompletable at meets
    simp only [Bool.and_eq_true, decide_eq_true_eq, Option.isNone_iff_eq_none] at meets
    exact ⟨meets.1.1.1, meets.1.1.2, meets.2⟩
  obtain ⟨attempt, member, meets⟩ := any_attempt completable
  obtain ⟨own, _, unclassified⟩ := picks attempt meets
  refine ⟨.one member (run.isCompletable input) (AttemptRow.complete input now) (fun _ => rfl) 1
    [(some input.requestId, .providerResponsePersisted), (some input.requestId, .gateClassified)] meets
    (fun row _ here => (picks row here).1.trans own.symm) (.inl unclassified)
    ⟨rfl, rfl, rfl, rfl, rfl, rfl, rfl, fun undispatched => by cases undispatched⟩ rfl ?_, rfl,
    fun row _ here => ⟨(picks row here).1, (picks row here).2.1⟩⟩
  rw [own]
  rfl

theorem completeReliabilityAttempt_effects (apart : HoldsApart run) {input : CompleteAttemptInput}
    {now : ℤ} (accepted : run.completeReliabilityAttempt input now = .ok after) :
    Effects faults run after := by
  unfold ReliabilityRun.completeReliabilityAttempt at accepted
  obtain ⟨state, _, accepted⟩ := bind_eq_ok.mp accepted
  simp only [bind_unit_eq_ok] at accepted
  obtain ⟨_, accepted⟩ := accepted
  split at accepted
  · next completable =>
    obtain ⟨⟨left, rows⟩, removed, accepted⟩ := bind_eq_ok.mp accepted
    cases accepted
    obtain ⟨classification, same, only⟩ := completion input now completable
    rw [← same] at removed
    exact settle_effects apart classification only (leaves_of_removed rfl removed)
  · simp only [bind_unit_eq_ok] at accepted
    cases accepted.2
    exact .refl

theorem holdReliabilityAttempt_effects {input : HoldAttemptInput} {drawn : String} {now : ℤ}
    (accepted : run.holdReliabilityAttempt input drawn now = .ok after)
    (timely : run.isLateMember input.laneId input.requestId = true → faults.joinsLate) :
    Effects faults run after := by
  unfold ReliabilityRun.holdReliabilityAttempt at accepted
  obtain ⟨state, _, accepted⟩ := bind_eq_ok.mp accepted
  simp only [bind_unit_eq_ok] at accepted
  obtain ⟨_, accepted⟩ := accepted
  obtain ⟨⟨entered, rows⟩, held, accepted⟩ := bind_eq_ok.mp accepted
  cases accepted
  split at held
  · have pending : Effects faults run (run.updateAttempts (ReliabilityRun.isPendable input)
        (AttemptRow.pend input.generationId now) fun _ => rfl) := by
      refine .of_rows (.pend _ _ _ fun attempt _ chosen => ?_)
      unfold ReliabilityRun.isPendable at chosen
      simp only [Bool.and_eq_true, Option.isNone_iff_eq_none] at chosen
      exact .inl chosen.1.2
    have counted : Effects faults (run.updateAttempts (ReliabilityRun.isPendable input)
        (AttemptRow.pend input.generationId now) fun _ => rfl) (run.updateAttempts
          (ReliabilityRun.isPendable input) (AttemptRow.pend input.generationId now) fun _ =>
            rfl).countAmbiguity :=
      .of_quiet ⟨rfl, rfl, rfl, rfl, rfl, rfl, rfl, rfl, rfl, id⟩ ⟨rfl, rfl⟩
    exact ((pending.trans counted).trans (noteOne _ (by decide))).trans
      (enterLaneHoldLocked_effects held timely)
  · exact enterLaneHoldLocked_effects held timely

/-- The classification of one attempt as not dispatched. -/
theorem notDispatched {attempt : AttemptRow} (member : attempt ∈ run.attempts)
    (chosen : AttemptRow → Bool) (now : ℤ) (picked : chosen attempt = true)
    (only : ∀ row ∈ run.attempts, chosen row = true → row.requestId = attempt.requestId)
    (unclassified : attempt.isOpen) (unentered : run.isEntered attempt.requestId = false) :
    ∃ classification : Classification run, classification.chosen = chosen ∧
      classification.apply = run.classifyOne chosen attempt.requestId now :=
  ⟨.one member chosen (AttemptRow.classifyNotDispatched now) (fun _ => rfl) 0
    [(some attempt.requestId, .gateClassified)] picked only unclassified
    (ends_classifyNotDispatched now unentered) rfl rfl, rfl, rfl⟩

theorem classifyReliabilityNotDispatched_effects (apart : HoldsApart run) {input : ClassifyInput}
    {now : ℤ} (accepted : run.classifyReliabilityNotDispatched input now = .ok after)
    (clean : run.control.state = .active → run.strandsMember (some input.requestId) = true →
      faults.strands) : Effects faults run after := by
  unfold ReliabilityRun.classifyReliabilityNotDispatched at accepted
  obtain ⟨state, _, accepted⟩ := bind_eq_ok.mp accepted
  simp only [bind_unit_eq_ok, require_eq_ok] at accepted
  obtain ⟨some_chosen, accepted⟩ := accepted
  obtain ⟨⟨left, rows⟩, removed, accepted⟩ := bind_eq_ok.mp accepted
  have picks : ∀ attempt, run.isNotDispatchable input attempt = true →
      attempt.requestId = input.requestId ∧ attempt.laneId = input.laneId ∧
        attempt.gateClassifiedAt = none ∧ run.isEntered attempt.requestId = false := by
    intro attempt meets
    unfold ReliabilityRun.isNotDispatchable at meets
    simp only [Bool.and_eq_true, decide_eq_true_eq, Option.isNone_iff_eq_none,
      Bool.not_eq_true'] at meets
    exact ⟨meets.1.1.1, meets.1.1.2, meets.1.2, meets.2⟩
  obtain ⟨attempt, member, meets⟩ := any_attempt some_chosen
  obtain ⟨own, _, unclassified, unentered⟩ := picks attempt meets
  obtain ⟨classification, chosen, same⟩ := notDispatched member (run.isNotDispatchable input) now meets
    (fun row _ here => (picks row here).1.trans own.symm) (.inl unclassified) unentered
  rw [own] at same
  rw [← same] at removed
  have settled : Effects faults run rows := by
    refine settle_effects apart classification (fun row _ here => ?_) (leaves_of_removed rfl removed)
    rw [chosen] at here
    exact ⟨(picks row here).1, (picks row here).2.1⟩
  obtain ⟨quiet, held⟩ := settled_rows apart classification (leaves_of_removed rfl removed)
  refine settled.trans (failProtocolLocked_effects accepted fun active strands =>
    clean (quiet.active active) (strandsMember_of_settled run rows (fun row there open_ => ?_) held
      (fun row _ stays => ?_) strands))
  · rw [quiet.attempts] at there
    exact classification.mem_apply_open ⟨attempt, member, own, by rw [chosen]; exact meets⟩ there open_
  · rw [isUndispatched_congr quiet.dispatchTokens quiet.burstBarriers] at stays
    exact stays

/-! ### Recovery -/

/-- The token of a request canceled. -/
def cancelRequest (run : ReliabilityRun) (requestId : String) (now : ℤ) : ReliabilityRun :=
  run.updateTokens (fun row => row.requestId = requestId) (DispatchTokenRow.cancel now)
    (DispatchTokenRow.requestId_cancel now)

/-- The token of a request canceled, and its attempt classified. -/
def recovered (run : ReliabilityRun) (requestId : String) (now : ℤ) : ReliabilityRun :=
  (cancelRequest run requestId now).classifyOne (·.requestId = requestId) requestId now

theorem find_cancelRequest (run : ReliabilityRun) (requestId other : String) (now : ℤ) :
    (cancelRequest run requestId now).dispatchTokens.find? other =
      (run.dispatchTokens.find? other).map fun token =>
        if token.requestId = requestId then token.cancel now else token := by
  refine (find_updateTokens run other (fun row => row.requestId = requestId)
    (DispatchTokenRow.cancel now) fun _ => rfl).trans ?_
  simp only [decide_eq_true_eq]

theorem cancelRequest_effects {requestId : String} (now : ℤ) (ended : run.control.state ≠ .active)
    (unentered : run.isEntered requestId = false) :
    Effects faults run (cancelRequest run requestId now) := by
  refine .of_rows (.cancelTokens (fun row => row.requestId = requestId)
    (fun token => token.canceledAt <|> some now) (fun token => ?_) ended fun token member chosen => ?_)
  · cases token.canceledAt <;> rfl
  · have own : token.requestId = requestId := of_decide_eq_true chosen
    have stored : run.dispatchTokens.find? requestId = some token := by
      rw [← own]
      exact Table.find?_of_mem member
    unfold ReliabilityRun.isEntered at unentered
    rw [stored] at unentered
    simpa using unentered

/-- The classification of a request whose token is canceled. -/
theorem recovery {attempt : AttemptRow} (member : attempt ∈ run.attempts)
    (unended : attempt.terminalAt = none) (unentered : run.isEntered attempt.requestId = false) (now : ℤ) :
    ∃ classification : Classification (cancelRequest run attempt.requestId now),
      (∀ row, classification.chosen row = decide (row.requestId = attempt.requestId)) ∧
      classification.apply = recovered run attempt.requestId now := by
  have present : attempt ∈ (cancelRequest run attempt.requestId now).attempts := member
  have outside : (cancelRequest run attempt.requestId now).isEntered attempt.requestId = false := ?_
  · obtain ⟨classification, chosen, same⟩ := notDispatched present
      (fun row => row.requestId = attempt.requestId) now (decide_eq_true rfl)
      (fun row _ here => of_decide_eq_true here) (.inr unended) outside
    exact ⟨classification, fun row => congrFun chosen row, same⟩
  unfold ReliabilityRun.isEntered at unentered ⊢
  rw [find_cancelRequest]
  cases stored : run.dispatchTokens.find? attempt.requestId with
  | none => rfl
  | some token =>
    rw [stored] at unentered
    rw [Option.map_some, Option.any_some]
    split <;> exact unentered

theorem recovered_effects {attempt : AttemptRow} (member : attempt ∈ run.attempts)
    (unended : attempt.terminalAt = none) (unentered : run.isEntered attempt.requestId = false) (now : ℤ)
    (ended : run.control.state ≠ .active) (own_held : run.isHeld attempt = true → faults.strands) :
    Effects faults run (recovered run attempt.requestId now) := by
  obtain ⟨classification, chosen, same⟩ := recovery member unended unentered now
  refine (cancelRequest_effects now ended unentered).trans ?_
  rw [← same]
  refine Effects.of_rows (.classify classification fun row here picked held => own_held ?_)
  rw [chosen] at picked
  have before : row ∈ run.attempts := here
  rw [← Table.eq_of_key before member (of_decide_eq_true picked)]
  exact held

/-- An attempt that is stranded once a request is recovered would have been before. -/
theorem strandsMember_of_recovered {attempt : AttemptRow} (member : attempt ∈ run.attempts)
    (unended : attempt.terminalAt = none) (unentered : run.isEntered attempt.requestId = false) (now : ℤ)
    (strands : (recovered run attempt.requestId now).strandsMember none = true) :
    run.strandsMember (some attempt.requestId) = true := by
  obtain ⟨classification, chosen, same⟩ := recovery member unended unentered now
  refine strandsMember_of_settled run (recovered run attempt.requestId now)
    (fun row there open_ => ?_) (fun row held => held) (fun row other stays => ?_) strands
  · rw [← same] at there
    exact classification.mem_apply_open ⟨attempt, member, rfl, by rw [chosen]; simp⟩ there open_
  · unfold ReliabilityRun.isUndispatched ReliabilityRun.isLive ReliabilityRun.isReleased at stays ⊢
    have tokens : (recovered run attempt.requestId now).dispatchTokens.find? row.requestId =
        run.dispatchTokens.find? row.requestId := by
      show (cancelRequest run attempt.requestId now).dispatchTokens.find? row.requestId = _
      rw [find_cancelRequest]
      cases stored : run.dispatchTokens.find? row.requestId with
      | none => rfl
      | some token =>
        have own : token.requestId = row.requestId := Table.key_of_find? stored
        rw [Option.map_some, if_neg (own.trans_ne other)]
    rw [tokens] at stays
    exact stays

theorem recoverPreEntryDispatch_effects {input : ClassifyInput} {now : ℤ}
    {outcome : ReliabilityRun.PreEntryRecovery}
    (accepted : run.recoverPreEntryDispatch input now = .ok (outcome, after))
    (own_held : run.isGoing input.requestId = true →
      (run.attempts.find? input.requestId).any run.isHeld = true → faults.strands)
    (clean : run.isGoing input.requestId = true → run.control.state = .active →
      run.strandsMember (some input.requestId) = true → faults.strands) : Effects faults run after := by
  unfold ReliabilityRun.recoverPreEntryDispatch at accepted
  obtain ⟨state, _, accepted⟩ := bind_eq_ok.mp accepted
  split at accepted
  · next attempt token found stored =>
    obtain ⟨there, _⟩ := (Option.filter_eq_some_iff ..).mp found
    have own : attempt.requestId = input.requestId := Table.key_of_find? there
    have member : attempt ∈ run.attempts := Table.mem_of_find? there
    split at accepted
    · cases accepted
      exact .refl
    · next going =>
      simp only [bind_unit_eq_ok, require_eq_ok] at accepted
      obtain ⟨outside, accepted⟩ := accepted
      obtain ⟨failed, held, accepted⟩ := bind_eq_ok.mp accepted
      cases accepted
      have unended : attempt.terminalAt = none := by simpa using going
      have isGoing : run.isGoing input.requestId = true := by
        unfold ReliabilityRun.isGoing
        rw [there, Option.any_some, unended]
        rfl
      have unentered : run.isEntered attempt.requestId = false := by
        unfold ReliabilityRun.isEntered
        rw [own, stored]
        simpa using outside
      have lists : run.isHeld attempt = true → faults.strands := fun isHeld =>
        own_held isGoing (by rw [there]; exact isHeld)
      rw [← own] at held clean
      rcases failProtocolLocked_eq_ok held with ⟨ended, same⟩ | ⟨active, others, kept⟩
      · rw [same]
        exact recovered_effects member unended unentered now ended lists
      · -- The run fails first; then the token is canceled and the attempt classified.
        obtain ⟨failing, stays⟩ := setFailed_quiet run now
        have rows : Effects faults (run.setFailed now)
            ((recovered run attempt.requestId now).setFailed now) := by
          have there : attempt ∈ (run.setFailed now).attempts := member
          refine recovered_effects there unended unentered now ?_ lists
          show ControlState.failed ≠ .active
          decide
        refine (((Effects.of_quiet failing stays).trans rows).trans
          (failRows_effects now fun strands => ?_)).trans (Effects.of_quiet others kept)
        exact clean (by rw [own]; exact isGoing) active
          (strandsMember_of_recovered member unended unentered now strands)
  · cases accepted

/-! ### Reconciliation -/

/-- The plans of a reconciliation that leaves its attempt open classify nothing. -/
def IsPending (plan : ReconciliationMutationPlan) : Prop :=
  plan.terminal = none ∧ (plan.entersAmbiguity = true → plan.globalFailure = none) ∧
    EventType.gateClassified ∉ plan.events

/-- The plans that end it classify it once, and let it enter no hold. -/
def IsTerminal (plan : ReconciliationMutationPlan) : Prop :=
  plan.terminal.isSome = true ∧ plan.entersAmbiguity = false ∧
    plan.events.filter (· = .gateClassified) = [.gateClassified]

theorem terminalPlan_isTerminal {input : ReconciliationStateInput} {findings : ReconciliationFindings}
    {state : TerminalReconciliationState} {plan : ReconciliationMutationPlan}
    (planned : terminalPlan input findings state = .ok plan) : IsTerminal plan := by
  unfold terminalPlan at planned
  simp only [bind_unit_eq_ok] at planned
  cases planned.2
  refine ⟨rfl, rfl, ?_⟩
  have canceled : ∀ offsets : List ℤ,
      (offsets.map fun _ => EventType.reconciliationOffsetCanceled).filter (· = .gateClassified) = [] := by
    intro offsets
    simp
  simp only [List.filter_append, canceled, List.append_nil]
  cases findings.evidence.accepted <;> simp

theorem pendingPlan_isPending {scheduleValid : Bool} {globalFailure : Option String}
    {entersAmbiguity : Bool} (either : entersAmbiguity = true → globalFailure = none) :
    IsPending (pendingPlan scheduleValid globalFailure entersAmbiguity) := by
  refine ⟨rfl, either, ?_⟩
  cases scheduleValid <;> simp [pendingPlan]

/-- A plan leaves its attempt open, or ends it. -/
theorem planReconciliationMutation_cases {input : ReconciliationStateInput}
    {findings : ReconciliationFindings} {now : ℤ} {plan : ReconciliationMutationPlan}
    (planned : planReconciliationMutation input findings now = .ok plan) :
    IsPending plan ∨ IsTerminal plan := by
  unfold planReconciliationMutation at planned
  simp only [bind_unit_eq_ok] at planned
  obtain ⟨_, planned⟩ := planned
  split at planned
  · cases planned
    exact .inl (pendingPlan_isPending (by simp))
  · split at planned
    · cases planned
      exact .inl (pendingPlan_isPending (by simp))
    · split at planned
      · split at planned
        · cases planned
          exact .inl ⟨rfl, fun _ => rfl, by simp⟩
        · split at planned
          · exact .inr (terminalPlan_isTerminal planned)
          · cases planned
            exact .inl (pendingPlan_isPending fun _ => rfl)
      · exact .inr (terminalPlan_isTerminal planned)
      · split at planned
        · exact .inr (terminalPlan_isTerminal planned)
        · split at planned
          · exact .inr (terminalPlan_isTerminal planned)
          · split at planned
            · exact .inr (terminalPlan_isTerminal planned)
            · cases planned
              exact .inl (pendingPlan_isPending (by simp))

theorem gateRequests_events (requestId : String) (events : List EventType) :
    gateRequests (events.map fun eventType => (some requestId, eventType)) =
      (events.filter (· = .gateClassified)).map fun _ => some requestId := by
  unfold gateRequests
  rw [List.filter_map, List.map_map]
  rfl

theorem enterAmbiguity_effects {input : ApplyReconciliationInput} {drawn : String} {now : ℤ}
    (open_ : ∀ attempt ∈ run.attempts, attempt.requestId = input.requestId → attempt.isOpen)
    (accepted : run.enterAmbiguity input drawn now = .ok after)
    (timely : run.isLateMember input.laneId input.requestId = true → faults.joinsLate) :
    Effects faults run after := by
  unfold ReliabilityRun.enterAmbiguity at accepted
  obtain ⟨⟨entered, held⟩, enters, accepted⟩ := bind_eq_ok.mp accepted
  cases accepted
  have pending : Effects faults run (run.pendAttempts (·.requestId = input.requestId)
      (fun attempt => attempt.ambiguityEnteredAt <|> some now) (·.providerGenerationId)) :=
    .of_rows (.pend _ _ _ fun attempt member chosen => open_ attempt member (of_decide_eq_true chosen))
  have counted : Effects faults (run.pendAttempts (·.requestId = input.requestId)
      (fun attempt => attempt.ambiguityEnteredAt <|> some now) (·.providerGenerationId))
      (run.pendAttempts (·.requestId = input.requestId)
        (fun attempt => attempt.ambiguityEnteredAt <|> some now) (·.providerGenerationId)).countAmbiguity :=
    .of_quiet ⟨rfl, rfl, rfl, rfl, rfl, rfl, rfl, rfl, rfl, id⟩ ⟨rfl, rfl⟩
  exact ((pending.trans counted).trans (enterLaneHoldLocked_effects enters timely)).trans
    (Effects.of_hold (.mark _ _ _))

/-- The classification of a reconciled attempt, with all the events of its plan. -/
theorem reconciled {attempt : AttemptRow} (member : attempt ∈ run.attempts)
    (unended : attempt.terminalAt = none) (plan : TerminalPlan) (now : ℤ) {events : List EventType}
    (announces : events.filter (· = .gateClassified) = [.gateClassified]) :
    ∃ classification : Classification run,
      (∀ row ∈ run.attempts, classification.chosen row = true ↔ row.requestId = attempt.requestId) ∧
      classification.apply = ((run.updateAttempts
        (fun row => row.requestId = attempt.requestId && row.terminalAt.isNone)
        (AttemptRow.terminalize plan now) fun _ => rfl).countClassified 1
          (if plan.state = .reconciledBilledWithResponse then 1 else 0)).appendEvents
            (events.map fun eventType => (some attempt.requestId, eventType)) := by
  have picks : ∀ row ∈ run.attempts,
      (decide (row.requestId = attempt.requestId) && row.terminalAt.isNone) = true ↔
        row.requestId = attempt.requestId := by
    intro row here
    rw [Bool.and_eq_true, decide_eq_true_eq]
    refine ⟨And.left, fun same => ⟨same, ?_⟩⟩
    rw [Table.eq_of_key here member same, unended]
    rfl
  refine ⟨.one member (fun row => row.requestId = attempt.requestId && row.terminalAt.isNone)
    (AttemptRow.terminalize plan now) (fun _ => rfl)
    (if plan.state = .reconciledBilledWithResponse then 1 else 0)
    (events.map fun eventType => (some attempt.requestId, eventType)) ((picks attempt member).mpr rfl)
    (fun row here meets => (picks row here).mp meets) (.inr unended)
    ⟨rfl, rfl, rfl, rfl, rfl, rfl, ?_, fun undispatched => ?_⟩ ?_ ?_, picks, rfl⟩
  · show plan.state.attemptState.isClassified = true
    cases plan.state <;> rfl
  · exfalso
    have state : plan.state.attemptState = .notDispatched := undispatched
    cases terminal : plan.state <;> rw [terminal] at state <;> cases state
  · have usable : (AttemptRow.terminalize plan now attempt).isUsable =
        decide (plan.state = .reconciledBilledWithResponse) := by
      unfold AttemptRow.terminalize AttemptRow.isUsable
      cases plan.state <;> rfl
    rw [usable]
    by_cases billed : plan.state = .reconciledBilledWithResponse <;> simp [billed]
  · rw [gateRequests_events, announces]
    rfl

/-- The end of a reconciled attempt, with the events of its plan. -/
theorem terminalizeAttempt_leaves {input : ApplyReconciliationInput} {attempt : AttemptRow}
    (member : attempt ∈ run.attempts) (own : attempt.requestId = input.requestId)
    (unended : attempt.terminalAt = none) {plan : TerminalPlan} {controlState : ControlState} {now : ℤ}
    {events : List EventType}
    (announces : events.filter (· = .gateClassified) = [.gateClassified])
    (accepted : run.terminalizeAttempt input plan controlState now = .ok after) :
    ∃ (classification : Classification run) (settled : ReliabilityRun),
      (∀ row ∈ run.attempts, classification.chosen row = true ↔ row.requestId = input.requestId) ∧
      Leaves run classification.apply settled input.laneId input.requestId ∧
      Quiet settled (after.appendEvents (events.map fun eventType => (some input.requestId, eventType))) ∧
      SameHolds settled
        (after.appendEvents (events.map fun eventType => (some input.requestId, eventType))) := by
  unfold ReliabilityRun.terminalizeAttempt at accepted
  obtain ⟨commitment, _, accepted⟩ := bind_eq_ok.mp accepted
  simp only [bind_unit_eq_ok] at accepted
  obtain ⟨_, accepted⟩ := accepted
  obtain ⟨claimed, claims, accepted⟩ := bind_eq_ok.mp accepted
  obtain ⟨⟨left, rows⟩, removed, accepted⟩ := bind_eq_ok.mp accepted
  simp only [bind_unit_eq_ok] at accepted
  cases accepted.2
  obtain ⟨classification, picks, same⟩ := reconciled member unended plan now announces
  rw [own] at same picks
  have allowance : claimed = (run.updateAttempts
      (fun row => row.requestId = input.requestId && row.terminalAt.isNone)
      (AttemptRow.terminalize plan now) fun _ => rfl).countClassified 1
        (if plan.state = .reconciledBilledWithResponse then 1 else 0) ∨
      claimed = ((run.updateAttempts
        (fun row => row.requestId = input.requestId && row.terminalAt.isNone)
        (AttemptRow.terminalize plan now) fun _ => rfl).countClassified 1
          (if plan.state = .reconciledBilledWithResponse then 1 else 0)).setAllowanceOwner
            input.requestId := by
    unfold ReliabilityRun.claimAllowance at claims
    split at claims
    · simp only [bind_unit_eq_ok] at claims
      cases claims.2
      exact .inr rfl
    · cases claims
      exact .inl rfl
  have holds : claimed.holds = run.holds := by rcases allowance with rfl | rfl <;> rfl
  -- The allowance is claimed and the events are appended after the request has left.
  cases leaves_of_removed holds removed with
  | absent unchanged unlisted =>
    subst unchanged
    refine ⟨classification, classification.apply, picks, .absent rfl unlisted, ?_⟩
    rw [same]
    rcases allowance with rfl | rfl <;>
      exact ⟨⟨rfl, rfl, rfl, rfl, rfl, rfl, rfl, rfl, rfl, id⟩, rfl, rfl⟩
  | leave hold state time opened lane listed left =>
    subst left
    refine ⟨classification, classification.apply.leaveHold hold input.requestId state time, picks,
      .leave hold state time opened lane listed rfl, ?_⟩
    rw [same]
    unfold ReliabilityRun.leaveHold
    dsimp only
    rcases allowance with rfl | rfl <;> split <;>
      exact ⟨⟨rfl, rfl, rfl, rfl, rfl, rfl, rfl, rfl, rfl, id⟩, rfl, rfl⟩

/-- The global failure of a plan. -/
theorem planFailure_effects {rows : ReliabilityRun} {plan : ReconciliationMutationPlan} {now : ℤ}
    (accepted : rows.failPlanned plan now = .ok after)
    (clean : rows.control.state = .active → plan.globalFailure.isSome = true →
      rows.strandsMember none = true → faults.strands) : Effects faults rows after := by
  unfold ReliabilityRun.failPlanned at accepted
  split at accepted
  · next reason planned =>
    refine failProtocolLocked_effects accepted fun active => clean active ?_
    rw [planned]
    rfl
  · cases accepted
    exact .refl

theorem applyPlan_effects (apart : HoldsApart run) {input : ApplyReconciliationInput}
    {attempt : AttemptRow} (member : attempt ∈ run.attempts)
    (own : attempt.requestId = input.requestId) (onLane : attempt.laneId = input.laneId)
    (unended : attempt.terminalAt = none) {plan : ReconciliationMutationPlan}
    (kind : IsPending plan ∨ IsTerminal plan) {drawn : String} {now : ℤ}
    (accepted : run.applyPlan input plan drawn now = .ok after)
    (timely : run.isLateMember input.laneId input.requestId = true → faults.joinsLate)
    (clean : run.control.state = .active → plan.globalFailure.isSome = true →
      run.strandsMember (if plan.terminal.isSome then some input.requestId else none) = true →
        faults.strands) : Effects faults run after := by
  unfold ReliabilityRun.applyPlan at accepted
  simp only [bind_unit_eq_ok] at accepted
  obtain ⟨_, accepted⟩ := accepted
  obtain ⟨entered, enters, accepted⟩ := bind_eq_ok.mp accepted
  obtain ⟨ended, ends, failing⟩ := bind_eq_ok.mp accepted
  unfold ReliabilityRun.enterPlanned at enters
  unfold ReliabilityRun.endPlanned at ends
  have itself : ∀ row ∈ run.attempts, row.requestId = input.requestId → row = attempt :=
    fun row here same => Table.eq_of_key here member (same.trans own.symm)
  rcases kind with ⟨open_, either, silent⟩ | ⟨closes, stays, announces⟩
  · rw [open_] at ends clean
    cases ends
    have noted : Effects faults entered (entered.appendEvents
        (plan.events.map fun eventType => (some input.requestId, eventType))) := by
      refine .of_rows (.note _ ?_)
      rw [gateRequests_events, List.filter_eq_nil_iff.mpr]
      · rfl
      · intro eventType listed same
        exact silent (of_decide_eq_true same ▸ listed)
    split at enters
    · next ambiguous =>
      refine ((enterAmbiguity_effects (fun row here same => ?_) enters timely).trans noted).trans
        (planFailure_effects failing fun _ fails => ?_)
      · rw [itself row here same]
        exact .inr unended
      · rw [either ambiguous] at fails
        cases fails
    · cases enters
      exact noted.trans (planFailure_effects failing clean)
  · rw [if_neg (by rw [stays]; exact Bool.false_ne_true)] at enters
    cases enters
    split at ends
    · next terminal found =>
      obtain ⟨classification, settled, picks, leaves, quiet, holds⟩ :=
        terminalizeAttempt_leaves member own unended announces ends
      have settles : Effects faults run settled := by
        refine settle_effects apart classification (fun row here chosen => ?_) leaves
        have same := (picks row here).mp chosen
        exact ⟨same, by rw [itself row here same]; exact onLane⟩
      obtain ⟨rows, held⟩ := settled_rows apart classification leaves
      refine (settles.trans (Effects.of_quiet quiet holds)).trans (planFailure_effects failing ?_)
      intro active fails strands
      refine clean (rows.active (quiet.active active)) fails ?_
      rw [if_pos closes]
      have whole := rows.trans quiet
      refine strandsMember_of_settled run _ (fun row there open_ => ?_) (fun row still => ?_)
        (fun row _ stops => ?_) strands
      · rw [whole.attempts] at there
        exact classification.mem_apply_open ⟨attempt, member, own, (picks attempt member).mpr own⟩ there open_
      · refine held row ?_
        unfold ReliabilityRun.isHeld ReliabilityRun.openHold at still ⊢
        rw [holds.holds] at still
        exact still
      · rw [isUndispatched_congr whole.dispatchTokens whole.burstBarriers] at stops
        exact stops
    · next absent =>
      rw [absent] at closes
      cases closes

theorem applyAuthoritativeReconciliation_effects (apart : HoldsApart run)
    {input : ApplyReconciliationInput} {drawn : String} {now : ℤ} {applied : AppliedReconciliation}
    (accepted : run.applyAuthoritativeReconciliation input drawn now = .ok (applied, after))
    (clean : run.control.state = .active → run.isGoing input.requestId = true →
      run.reconciliationStrands input now = true → faults.strands) : Effects faults run after := by
  unfold ReliabilityRun.applyAuthoritativeReconciliation at accepted
  obtain ⟨control, locked, accepted⟩ := bind_eq_ok.mp accepted
  have same := ProtocolRun.lockControlProfile_eq_ok locked
  subst same
  simp only [bind_unit_eq_ok] at accepted
  obtain ⟨_, _, accepted⟩ := accepted
  split at accepted
  · cases accepted
  · next attempt found =>
    obtain ⟨stored, checks⟩ := (Option.filter_eq_some_iff ..).mp found
    simp only [Bool.and_eq_true, decide_eq_true_eq] at checks
    split at accepted
    · cases accepted
      exact .refl
    · next going =>
      have unended : attempt.terminalAt = none := by simpa using going
      simp only [bind_unit_eq_ok, require_eq_ok] at accepted
      obtain ⟨_, inside, accepted⟩ := accepted
      obtain ⟨findings, finds, accepted⟩ := bind_eq_ok.mp accepted
      obtain ⟨plan, planned, accepted⟩ := bind_eq_ok.mp accepted
      obtain ⟨rows, applies, accepted⟩ := bind_eq_ok.mp accepted
      cases accepted
      refine applyPlan_effects apart (Table.mem_of_find? stored) (Table.key_of_find? stored) checks.1.1
        unended (planReconciliationMutation_cases planned) applies (fun late => ?_)
        fun active fails strands => clean active ?_ ?_
      · -- An open hold of the lane lists the request already.
        unfold ReliabilityRun.isLateMember at late
        rw [Option.any_eq_true] at late
        obtain ⟨hold, opened, joins⟩ := late
        rw [opened] at inside
        rw [Option.all_some] at inside
        rw [Bool.and_eq_true, Bool.not_eq_true'] at joins
        rw [inside] at joins
        cases joins.1
      · unfold ReliabilityRun.isGoing
        rw [stored, Option.any_some, unended]
        rfl
      · unfold ReliabilityRun.reconciliationStrands ReliabilityRun.plannedReconciliation
        rw [stored, finds]
        simp only [Except.toOption, Option.bind_eq_bind, Option.bind_some, planned, Option.any_some,
          fails, Bool.true_and]
        exact strands

/-! ### Hard finalization -/

theorem requestId_finalize (run : ReliabilityRun) (now : ℤ) (attempt : AttemptRow) :
    (attempt.finalize (run.isEntered attempt.requestId) now).requestId = attempt.requestId := rfl

/-- The attempts that a hard finalization classifies: all that are not terminal. -/
def finalClassification (run : ReliabilityRun) (now : ℤ) : Classification run where
  chosen := (·.terminalAt.isNone)
  rewrite := fun attempt => attempt.finalize (run.isEntered attempt.requestId) now
  keeps := requestId_finalize run now
  classified := (run.attempts.rows.filter fun attempt => attempt.terminalAt.isNone).length
  usable := 0
  entries :=
    (((run.attempts.rows.filter fun attempt => attempt.terminalAt.isNone).filter fun attempt =>
        !run.isEntered attempt.requestId) ++
      (run.attempts.rows.filter fun attempt => attempt.terminalAt.isNone).filter fun attempt =>
        run.isEntered attempt.requestId).map fun attempt => (some attempt.requestId, .gateClassified)
  unclassified := fun _ _ chosen => .inr (Option.isNone_iff_eq_none.mp chosen)
  ends := by
    intro attempt _ _
    refine ⟨rfl, rfl, rfl, rfl, rfl, rfl, ?_, fun undispatched => ?_⟩
    · unfold AttemptRow.finalize
      cases run.isEntered attempt.requestId <;> rfl
    · cases entered : run.isEntered attempt.requestId with
      | false => rfl
      | true =>
        rw [entered] at undispatched
        cases undispatched
  counted := rfl
  countedUsable := by
    have unusable : ∀ attempt : AttemptRow,
        (attempt.finalize (run.isEntered attempt.requestId) now).isUsable = false := by
      intro attempt
      unfold AttemptRow.finalize
      cases run.isEntered attempt.requestId <;> rfl
    simp [unusable]
  announced := by
    have gates : ∀ rows : List AttemptRow,
        gateRequests (rows.map fun attempt => (some attempt.requestId, .gateClassified)) =
          rows.map fun attempt => some attempt.requestId := by
      intro rows
      unfold gateRequests
      rw [List.filter_eq_self.mpr (by simp), List.map_map]
      rfl
    rw [gates]
    refine List.Perm.map _ ?_
    refine List.perm_append_comm.trans ?_
    exact List.filter_append_perm _ _

theorem finalizeRows_effects (now : ℤ)
    (clean : ∀ attempt ∈ run.attempts, attempt.terminalAt = none → run.isHeld attempt = true →
      faults.strands) : Effects faults run (run.finalizeRows now) := by
  have classified : Effects faults run (finalClassification run now).apply :=
    .of_rows (.classify _ fun attempt member chosen held =>
      clean attempt member (Option.isNone_iff_eq_none.mp chosen) held)
  have failed : Effects faults (finalClassification run now).apply
      (({ (finalClassification run now).apply with
        control :=
          { (finalClassification run now).apply.control with
            state := .failed
            failedAt := (finalClassification run now).apply.control.failedAt <|> some now } } :
        ReliabilityRun).updateLanes (fun _ => true) .failed none) :=
    .of_quiet ⟨rfl, rfl, rfl, rfl, rfl, rfl, rfl, rfl, rfl, fun active => by cases active⟩ ⟨rfl, rfl⟩
  refine (classified.trans failed).trans (Effects.of_rows (.cancelTokens (·.primitiveEnteredAt.isNone)
    (fun token => token.canceledAt <|> some now) (fun token => ?_) ?_ fun token _ chosen => ?_))
  · cases token.canceledAt <;> rfl
  · show ControlState.failed ≠ .active
    decide
  · exact Option.isNone_iff_eq_none.mp chosen

theorem hardFinalizeReliabilityRun_effects {deadlineMs : ℤ} {replayTargetRequestIds : List String}
    {now : ℤ} {plan : HardFinalizationPlan}
    (accepted : run.hardFinalizeReliabilityRun deadlineMs replayTargetRequestIds now = .ok (plan, after))
    (clean : deadlineMs ≤ now → ∀ attempt ∈ run.attempts, attempt.terminalAt = none →
      run.isHeld attempt = true → faults.strands) : Effects faults run after := by
  unfold ReliabilityRun.hardFinalizeReliabilityRun at accepted
  obtain ⟨control, _, accepted⟩ := bind_eq_ok.mp accepted
  dsimp only at accepted
  split at accepted
  · next reportPublicationDeadlineMs planned =>
    have due : deadlineMs ≤ now := by
      unfold planHardFinalization at planned
      split at planned
      · cases planned
      · split at planned
        · cases planned
        · next late => exact not_lt.mp late
    obtain ⟨states, _, accepted⟩ := bind_eq_ok.mp accepted
    simp only [bind_unit_eq_ok] at accepted
    obtain ⟨_, accepted⟩ := accepted
    obtain ⟨reported, reports, accepted⟩ := bind_eq_ok.mp accepted
    obtain ⟨committed, commits, accepted⟩ := bind_eq_ok.mp accepted
    cases accepted
    unfold ReliabilityRun.insertFailureReport at reports
    simp only [bind_unit_eq_ok] at reports
    cases reports.2
    obtain ⟨others, holds⟩ := commitReportIntentLocked_quiet commits
    exact (finalizeRows_effects now (clean due)).trans (Effects.of_quiet
      ⟨others.sealedCalls, others.attempts, others.dispatchTokens, others.burstBarriers, others.events,
        others.nextEventSequence, others.dispatchTokenCount, others.gateClassificationCount,
        others.usableCount, others.active⟩ ⟨holds.holds, holds.holdMembers⟩)
  · cases accepted
    exact .refl

/-! ### Barriers and lanes -/

theorem createBurstBarrier_effects {laneId : String} {block : ℤ} {requestIds : List String}
    (accepted : run.createBurstBarrier laneId block requestIds = .ok after) : Effects faults run after := by
  unfold ReliabilityRun.createBurstBarrier at accepted
  obtain ⟨state, _, accepted⟩ := bind_eq_ok.mp accepted
  simp only [bind_unit_eq_ok, require_eq_ok, Option.isNone_iff_eq_none] at accepted
  obtain ⟨absent, accepted⟩ := accepted
  cases accepted
  exact .of_rows (.createBarrier laneId block requestIds absent)

theorem releaseBurstBarrier_effects {laneId : String} {block now : ℤ}
    (accepted : run.releaseBurstBarrier laneId block now = .ok after) : Effects faults run after := by
  unfold ReliabilityRun.releaseBurstBarrier at accepted
  obtain ⟨state, locked, accepted⟩ := bind_eq_ok.mp accepted
  simp only [bind_unit_eq_ok, require_eq_ok, decide_eq_true_eq] at accepted
  obtain ⟨going, accepted⟩ := accepted
  split at accepted
  · cases accepted
  · next barrier found =>
    simp only [bind_unit_eq_ok, require_eq_ok, decide_eq_true_eq] at accepted
    obtain ⟨ready, accepted⟩ := accepted
    cases accepted
    have own : (barrier.laneId, barrier.block) = (laneId, block) := Table.key_of_find? found
    have released : Effects faults run { run with
        burstBarriers :=
          run.burstBarriers.put { barrier with state := .released, releasedAt := some now } } :=
      .of_rows (.release barrier now ((ProtocolRun.lockControlLane_eq_ok locked).symm.trans going)
        (by rw [own]; exact found) ready)
    refine released.trans (Effects.of_rows (.note _ ?_))
    unfold gateRequests
    rw [List.filter_eq_nil_iff.mpr (by simp), List.map_nil]

theorem enterLaneHold_effects {input : LaneMemberInput} {drawn : String}
    {entered : ReliabilityRun.EnteredHold}
    (accepted : run.enterLaneHold input drawn = .ok (entered, after))
    (timely : run.isLateMember input.laneId input.requestId = true → faults.joinsLate) :
    Effects faults run after := by
  unfold ReliabilityRun.enterLaneHold at accepted
  obtain ⟨state, _, accepted⟩ := bind_eq_ok.mp accepted
  simp only [bind_unit_eq_ok] at accepted
  exact enterLaneHoldLocked_effects accepted.2 timely

theorem leaves_effects {laneId requestId : String} (leaves : Leaves run run after laneId requestId) :
    Effects faults run after := by
  cases leaves with
  | absent same unlisted => rw [same]
  | leave hold controlState now opened lane listed left =>
    rw [left]
    exact .of_hold (.leave hold requestId controlState now opened listed)

theorem leaveHold_sameHolds (same : SameHolds run after) (hold : HoldRow) (requestId : String)
    (controlState : ControlState) (now : ℤ) : SameHolds (run.leaveHold hold requestId controlState now)
      (after.leaveHold hold requestId controlState now) := by
  unfold ReliabilityRun.leaveHold ReliabilityRun.resolveMember
  dsimp only
  rw [same.holds, same.holdMembers]
  split <;> exact ⟨rfl, rfl⟩

/-- A request may leave its hold before the run fails. -/
theorem leaveHold_failRows (run : ReliabilityRun) (hold : HoldRow) (requestId : String)
    (controlState : ControlState) (now later : ℤ) :
    Quiet ((run.leaveHold hold requestId controlState now).failRows later) (run.failRows later) ∧
      SameHolds ((run.leaveHold hold requestId controlState now).failRows later)
        ((run.failRows later).leaveHold hold requestId controlState now) := by
  unfold ReliabilityRun.leaveHold
  dsimp only
  split <;> exact ⟨⟨rfl, rfl, rfl, rfl, rfl, rfl, rfl, rfl, rfl, id⟩, rfl, rfl⟩

/-- A failure leaves every attempt on its lane. -/
theorem laneId_of_isTerminalOn_failRows {laneId requestId : String} {now : ℤ}
    (terminal : (run.failRows now).isTerminalOn laneId requestId = true) {attempt : AttemptRow}
    (member : attempt ∈ run.attempts) (own : attempt.requestId = requestId) : attempt.laneId = laneId := by
  unfold ReliabilityRun.isTerminalOn at terminal
  have found : (run.failRows now).attempts.find? requestId =
      (run.attempts.find? requestId).map fun row =>
        if (stopped run now).isUndispatched row then row.classifyNotDispatched now else row :=
    find_updateAttempts (stopped run now) (stopped run now).isUndispatched
      (AttemptRow.classifyNotDispatched now) (fun _ => rfl) requestId
  have stored : run.attempts.find? requestId = some attempt := by
    rw [← own]
    exact Table.find?_of_mem member
  rw [found, stored] at terminal
  simp only [Option.map_some, Option.any_some, Bool.and_eq_true, decide_eq_true_eq] at terminal
  have lane := terminal.1
  split at lane
  · exact lane
  · exact lane

theorem resolveHeldMember_effects (apart : HoldsApart run) {input : LaneMemberInput} {allowance : Bool}
    {now : ℤ} {resolved : ReliabilityRun.ResolvedMember}
    (accepted : run.resolveHeldMember input allowance now = .ok (resolved, after))
    (clean : run.control.state = .active → allowance = true →
      run.isAllowanceOfAnother input.requestId = true →
        run.strandsMember (some input.requestId) = true → faults.strands) : Effects faults run after := by
  unfold ReliabilityRun.resolveHeldMember at accepted
  obtain ⟨state, _, accepted⟩ := bind_eq_ok.mp accepted
  simp only [bind_unit_eq_ok] at accepted
  obtain ⟨_, accepted⟩ := accepted
  obtain ⟨⟨later, allowed⟩, claims, accepted⟩ := bind_eq_ok.mp accepted
  obtain ⟨⟨removed, left⟩, removes, accepted⟩ := bind_eq_ok.mp accepted
  cases removed with
  | none => cases accepted
  | some leaves =>
    cases accepted
    unfold ReliabilityRun.claimHeldAllowance at claims
    split at claims
    · cases claims
      exact leaves_effects (leaves_of_removed rfl removes)
    · next allows =>
      split at claims
      · next other =>
        obtain ⟨failed, fails, claims⟩ := bind_eq_ok.mp claims
        cases claims
        rcases failProtocolLocked_eq_ok fails with ⟨_, rfl⟩ | ⟨active, others, kept⟩
        · exact leaves_effects (leaves_of_removed rfl removes)
        · rcases removeTerminalHeldMemberLocked_eq_ok removes with
            ⟨nobody, _, _⟩ | ⟨hold, opened, lane, listed, terminal, _, same⟩
          · cases nobody
          · -- The request leaves its hold first, and then the run fails.
            have before : run.openHold hold.laneId = some hold := by
              unfold ReliabilityRun.openHold at opened ⊢
              rw [kept.holds] at opened
              exact opened
            have leaves : Effects faults run (run.leaveHold hold input.requestId .failed now) :=
              .of_hold (.leave hold input.requestId .failed now before listed)
            obtain ⟨failing, stays⟩ := setFailed_quiet (run.leaveHold hold input.requestId .failed now) now
            obtain ⟨rows, holds⟩ := leaveHold_failRows run hold input.requestId .failed now now
            rw [same]
            refine (((leaves.trans (Effects.of_quiet failing stays)).trans
              (failRows_effects now fun strands => ?_))).trans (Effects.of_quiet
                ((rows.trans others).trans (leaveHold_quiet allowed hold input.requestId .failed now))
                (holds.trans (leaveHold_sameHolds kept hold input.requestId .failed now)))
            refine clean active (by simpa using allows) other ?_
            obtain ⟨attempt, member, stranded⟩ := List.any_eq_true.mp strands
            simp only [Bool.and_eq_true, decide_eq_true_eq] at stranded
            obtain ⟨⟨held, undispatched⟩, _⟩ := stranded
            obtain ⟨wasHeld, different⟩ := isHeld_leaveHold apart before held
            have quiet := leaveHold_quiet run hold input.requestId .failed now
            have present : attempt ∈ run.attempts := by
              rw [← quiet.attempts]
              exact member
            rw [isUndispatched_congr quiet.dispatchTokens quiet.burstBarriers] at undispatched
            have ended : (run.failRows now).isTerminalOn input.laneId input.requestId = true := by
              unfold ReliabilityRun.isTerminalOn at terminal ⊢
              rw [others.attempts] at terminal
              exact terminal
            refine strandsMember_of present wasHeld undispatched fun mine => ?_
            have own := Option.some.inj mine
            exact different ((laneId_of_isTerminalOn_failRows ended present own).trans lane.symm) own
      · cases claims
        have claimed : Effects faults run (run.setAllowanceOwner input.requestId) :=
          .of_quiet ⟨rfl, rfl, rfl, rfl, rfl, rfl, rfl, rfl, rfl, id⟩ ⟨rfl, rfl⟩
        exact claimed.trans (leaves_effects (leaves_of_removed rfl removes))

theorem resumeDueLanes_effects {now : ℤ} {laneIds : List String}
    (accepted : run.resumeDueLanes now = .ok (laneIds, after)) : Effects faults run after := by
  unfold ReliabilityRun.resumeDueLanes at accepted
  obtain ⟨control, _, accepted⟩ := bind_eq_ok.mp accepted
  split at accepted
  · cases accepted
    exact .refl
  · cases accepted
    exact .of_quiet ⟨rfl, rfl, rfl, rfl, rfl, rfl, rfl, rfl, rfl, id⟩ ⟨rfl, rfl⟩

theorem enqueueHeldLaneWork_effects {input : HeldWorkInput} {waits : Bool}
    (accepted : run.enqueueHeldLaneWork input = .ok (waits, after)) : Effects faults run after := by
  unfold ReliabilityRun.enqueueHeldLaneWork at accepted
  simp only [bind_unit_eq_ok] at accepted
  obtain ⟨_, accepted⟩ := accepted
  obtain ⟨state, _, accepted⟩ := bind_eq_ok.mp accepted
  simp only [bind_unit_eq_ok] at accepted
  obtain ⟨_, accepted⟩ := accepted
  split at accepted
  · cases accepted
    exact .refl
  · simp only [bind_unit_eq_ok] at accepted
    obtain ⟨_, accepted⟩ := accepted
    obtain ⟨queued, queues, accepted⟩ := bind_eq_ok.mp accepted
    simp only [bind_unit_eq_ok] at accepted
    cases accepted.2
    unfold ReliabilityRun.insertBacklog at queues
    split at queues
    · cases queues
      exact .refl
    · simp only [bind_unit_eq_ok] at queues
      cases queues.2
      exact .of_quiet ⟨rfl, rfl, rfl, rfl, rfl, rfl, rfl, rfl, rfl, id⟩ ⟨rfl, rfl⟩

theorem claimDueResumedWork_effects {laneId : String} {mode : ResumeMode} {now : ℤ}
    {work : Option ResumedWork} (accepted : run.claimDueResumedWork laneId mode now = .ok (work, after)) :
    Effects faults run after := by
  unfold ReliabilityRun.claimDueResumedWork at accepted
  obtain ⟨state, _, accepted⟩ := bind_eq_ok.mp accepted
  split at accepted
  · cases accepted
    exact .refl
  · split at accepted
    · split at accepted
      · cases accepted
        exact .refl
      · cases accepted
        exact .of_quiet ⟨rfl, rfl, rfl, rfl, rfl, rfl, rfl, rfl, rfl, id⟩ ⟨rfl, rfl⟩
    · cases accepted
      exact .refl

theorem completeResumedWorkGroup_effects {laneId : String} {block : ℤ} {resumeAt : Option ℤ}
    (accepted : run.completeResumedWorkGroup laneId block = .ok (resumeAt, after)) :
    Effects faults run after := by
  unfold ReliabilityRun.completeResumedWorkGroup at accepted
  obtain ⟨state, _, accepted⟩ := bind_eq_ok.mp accepted
  simp only [bind_unit_eq_ok] at accepted
  obtain ⟨_, _, accepted⟩ := accepted
  split at accepted
  · cases accepted
  · split at accepted
    · cases accepted
      exact .of_quiet ⟨rfl, rfl, rfl, rfl, rfl, rfl, rfl, rfl, rfl, id⟩ ⟨rfl, rfl⟩
    · cases accepted
      exact .of_quiet ⟨rfl, rfl, rfl, rfl, rfl, rfl, rfl, rfl, rfl, id⟩ ⟨rfl, rfl⟩

/-! ### All transactions -/

/-- The faults that a transaction may commit. -/
def faultsOf (run : ReliabilityRun) (op : ProtocolOp) : Faults where
  enters := fun attempt => run.entersWith attempt op
  joinsLate := run.joinsLate op = true
  strands := run.strands op = true

theorem perform_effects (apart : HoldsApart run) {op : ProtocolOp} (accepted : run.perform op = .ok after) :
    Effects (faultsOf run op) run after := by
  have committed : run.commits op = true := ReliabilityRun.commits_of_eq_ok accepted
  cases op with
  | initializeRun laneIds =>
    cases accepted
    obtain ⟨others, holds⟩ := insertLanes_quiet laneIds run
    exact .of_quiet others holds
  | registerSealedCalls calls => exact registerSealedCalls_effects accepted
  | claimBlock input now =>
    obtain ⟨value, held⟩ := ReliabilityRun.rowsOf_eq_ok accepted
    exact claimBlock_effects held
  | beginAuthorizationOperation now =>
    obtain ⟨value, held⟩ := ReliabilityRun.rowsOf_eq_ok accepted
    exact beginAuthorizationOperation_effects held
  | commitAuthorization input now => exact commitAuthorization_effects accepted
  | commitAuthorizationPredecisionFailure input now =>
    obtain ⟨value, held⟩ := ReliabilityRun.rowsOf_eq_ok accepted
    exact commitAuthorizationPredecisionFailure_effects held
  | publishReceipt kind missed publicationDeadline now =>
    obtain ⟨value, held⟩ := ReliabilityRun.rowsOf_eq_ok accepted
    exact publishReceipt_effects held
  | finishPublication missed publicationDeadline now =>
    obtain ⟨value, held⟩ := ReliabilityRun.rowsOf_eq_ok accepted
    exact finishPublication_effects held
  | completeAuthorizationOperation transitionDeadline now =>
    obtain ⟨value, held⟩ := ReliabilityRun.rowsOf_eq_ok accepted
    exact completeAuthorizationOperation_effects held
  | recordAttempt input now => exact recordAttempt_effects accepted
  | authorizeReliabilityDispatch input drawn now =>
    obtain ⟨value, held⟩ := ReliabilityRun.rowsOf_eq_ok accepted
    exact authorizeReliabilityDispatch_effects held fun active absent exceeded strands => by
      simp [faultsOf, ReliabilityRun.strands, committed, active, absent, exceeded, strands]
  | markReliabilityDispatchPrimitiveEntered requestId tokenId now =>
    exact markReliabilityDispatchPrimitiveEntered_effects accepted fun _ enters => enters
  | completeReliabilityAttempt input now => exact completeReliabilityAttempt_effects apart accepted
  | holdReliabilityAttempt input drawn now =>
    exact holdReliabilityAttempt_effects accepted fun late => by
      simp [faultsOf, ReliabilityRun.joinsLate, committed, late]
  | classifyReliabilityNotDispatched input now =>
    exact classifyReliabilityNotDispatched_effects apart accepted fun active strands => by
      simp [faultsOf, ReliabilityRun.strands, committed, active, strands]
  | recoverPreEntryDispatch input now =>
    obtain ⟨value, held⟩ := ReliabilityRun.rowsOf_eq_ok accepted
    refine recoverPreEntryDispatch_effects held (fun going own => ?_) fun going active strands => ?_
    · simp only [faultsOf, ReliabilityRun.strands, committed, going, own, Bool.true_or, Bool.and_self]
    · simp only [faultsOf, ReliabilityRun.strands, committed, going, active, strands, decide_true,
        Bool.and_self, Bool.or_true]
  | applyAuthoritativeReconciliation input drawn now =>
    obtain ⟨value, held⟩ := ReliabilityRun.rowsOf_eq_ok accepted
    exact applyAuthoritativeReconciliation_effects apart held fun active going strands => by
      simp [faultsOf, ReliabilityRun.strands, committed, active, going, strands]
  | failProtocol reason now =>
    exact failProtocolLocked_effects accepted fun active strands => by
      simp [faultsOf, ReliabilityRun.strands, committed, active, strands]
  | hardFinalizeReliabilityRun deadlineMs replayTargetRequestIds now =>
    obtain ⟨value, held⟩ := ReliabilityRun.rowsOf_eq_ok accepted
    refine hardFinalizeReliabilityRun_effects held fun due attempt member unended isHeld => ?_
    have found : (run.attempts.rows.any fun attempt =>
        attempt.terminalAt.isNone && run.isHeld attempt) = true := by
      refine List.any_eq_true.mpr ⟨attempt, member, ?_⟩
      rw [unended, isHeld]
      rfl
    simp only [faultsOf, ReliabilityRun.strands, committed, due, found, decide_true, Bool.and_self]
  | createBurstBarrier laneId block requestIds => exact createBurstBarrier_effects accepted
  | releaseBurstBarrier laneId block now => exact releaseBurstBarrier_effects accepted
  | enterLaneHold input drawn =>
    obtain ⟨value, held⟩ := ReliabilityRun.rowsOf_eq_ok accepted
    exact enterLaneHold_effects held fun late => by
      simp [faultsOf, ReliabilityRun.joinsLate, committed, late]
  | resolveHeldMember input allowance now =>
    obtain ⟨value, held⟩ := ReliabilityRun.rowsOf_eq_ok accepted
    refine resolveHeldMember_effects apart held fun active allows other strands => ?_
    subst allows
    simp [faultsOf, ReliabilityRun.strands, committed, active, other, strands]
  | resumeDueLanes now =>
    obtain ⟨value, held⟩ := ReliabilityRun.rowsOf_eq_ok accepted
    exact resumeDueLanes_effects held
  | enqueueHeldLaneWork input =>
    obtain ⟨value, held⟩ := ReliabilityRun.rowsOf_eq_ok accepted
    exact enqueueHeldLaneWork_effects held
  | claimDueResumedWork laneId mode now =>
    obtain ⟨value, held⟩ := ReliabilityRun.rowsOf_eq_ok accepted
    exact claimDueResumedWork_effects held
  | completeResumedWorkGroup laneId block =>
    obtain ⟨value, held⟩ := ReliabilityRun.rowsOf_eq_ok accepted
    exact completeResumedWorkGroup_effects held
  | scheduler op =>
    cases accepted
    exact .of_quiet ⟨rfl, rfl, rfl, rfl, rfl, rfl, rfl, rfl, rfl, id⟩ ⟨rfl, rfl⟩
  | elsewhere other =>
    cases accepted
    refine .of_quiet ⟨rfl, rfl, rfl, rfl, rfl, rfl, rfl, rfl, rfl, fun active => ?_⟩ ⟨rfl, rfl⟩
    unfold ReliabilityRun.afterElsewhere at active
    dsimp only at active
    split at active
    · cases active
    · exact active

/-- **Every transaction is a sequence of effects.** -/
theorem protocolStep_effects (apart : HoldsApart run) (op : ProtocolOp) :
    Effects (faultsOf run op) run (run.protocolStep op) := by
  rcases run.protocolStep_cases op with same | accepted
  · rw [same]
  · exact perform_effects apart accepted

end Operations

end Transactions

end FuseControlPlane.Reliability
