/-
The cap on what is reserved for attempts of unknown outcome.

* `unresolvedReservedMicros`: what is reserved for the attempts that have an uncanceled token and whose cost
  is not known.
* `unresolved_exposure_capped`: **it is at most 320000** in every run. A token is issued only if the sum with
  its attempt is within the cap, and no other write raises the sum.
-/

import FuseControlPlane.Reliability.ProtocolInvariants

set_option linter.unusedSectionVars false

namespace FuseControlPlane.Reliability

open Foundation Foundation.JavaScript Domain Evidence

namespace ReliabilityRun

/-- What is reserved for an attempt, if it has an uncanceled token and its cost is not known. -/
def exposureOf (run : ReliabilityRun) (attempt : AttemptRow) : ℕ :=
  if run.isAuthorized attempt.requestId && attempt.isUnresolved then attempt.reservedCostMicros else 0

/-- What is reserved for all of them. -/
def unresolvedReservedMicros (run : ReliabilityRun) : ℕ := run.attempts.total run.exposureOf

end ReliabilityRun

section Laws

variable {faults : Faults} {run after : ReliabilityRun}

theorem exposureOf_of_absent {attempt : AttemptRow}
    (absent : run.dispatchTokens.find? attempt.requestId = none) : run.exposureOf attempt = 0 := by
  unfold ReliabilityRun.exposureOf ReliabilityRun.isAuthorized
  rw [absent]
  rfl

/-- An attempt weighs no more than another one with the same reservation, if it is authorized and
unresolved only when the other is. -/
theorem exposureOf_le {attempt other : AttemptRow}
    (reserved : other.reservedCostMicros = attempt.reservedCostMicros)
    (authorized : after.isAuthorized other.requestId = true → run.isAuthorized attempt.requestId = true)
    (unresolved : other.isUnresolved = true → attempt.isUnresolved = true) :
    after.exposureOf other ≤ run.exposureOf attempt := by
  unfold ReliabilityRun.exposureOf
  by_cases counts : (after.isAuthorized other.requestId && other.isUnresolved) = true
  · rw [if_pos counts]
    rw [Bool.and_eq_true] at counts
    rw [if_pos (by rw [authorized counts.1, unresolved counts.2]; rfl), reserved]
  · rw [if_neg counts]
    exact Nat.zero_le _

/-- The sum does not grow where no attempt weighs more. -/
theorem exposure_update {chosen : AttemptRow → Bool} {rewrite : AttemptRow → AttemptRow}
    {keeps : ∀ row, (rewrite row).requestId = row.requestId}
    (attempts : after.attempts = (run.updateAttempts chosen rewrite keeps).attempts)
    (rewritten : ∀ attempt ∈ run.attempts, chosen attempt = true →
      after.exposureOf (rewrite attempt) ≤ run.exposureOf attempt)
    (others : ∀ attempt ∈ run.attempts, ¬ chosen attempt = true →
      after.exposureOf attempt ≤ run.exposureOf attempt) :
    after.unresolvedReservedMicros ≤ run.unresolvedReservedMicros := by
  unfold ReliabilityRun.unresolvedReservedMicros
  rw [attempts]
  show ((run.attempts.rows.map _).map _).sum ≤ (run.attempts.rows.map _).sum
  rw [List.map_map]
  refine List.sum_le_sum fun attempt member => ?_
  simp only [Function.comp_apply]
  split
  · next here => exact rewritten attempt member here
  · next spared => exact others attempt member spared

/-- Attempts whose reservations stay, and whose costs do not become unknown again. -/
theorem exposure_rewrite {chosen : AttemptRow → Bool} {rewrite : AttemptRow → AttemptRow}
    {keeps : ∀ row, (rewrite row).requestId = row.requestId}
    (attempts : after.attempts = (run.updateAttempts chosen rewrite keeps).attempts)
    (authorized : ∀ requestId, after.isAuthorized requestId = true → run.isAuthorized requestId = true)
    (reserved : ∀ attempt ∈ run.attempts, chosen attempt = true →
      (rewrite attempt).reservedCostMicros = attempt.reservedCostMicros)
    (unresolved : ∀ attempt ∈ run.attempts, chosen attempt = true →
      (rewrite attempt).isUnresolved = true → attempt.isUnresolved = true) :
    after.unresolvedReservedMicros ≤ run.unresolvedReservedMicros := by
  refine exposure_update attempts (fun attempt member here => ?_) fun attempt _ _ =>
    exposureOf_le rfl (authorized attempt.requestId) id
  refine exposureOf_le (reserved attempt member here) (fun may => ?_) (unresolved attempt member here)
  rw [keeps] at may
  exact authorized attempt.requestId may

theorem isUnresolved_of_isOpen (sound : AttemptsSound run) {attempt : AttemptRow}
    (member : attempt ∈ run.attempts) (unclassified : attempt.isOpen) : attempt.isUnresolved = true := by
  unfold AttemptRow.isUnresolved
  rw [(sound.agree attempt member).terminalAt_of_isOpen unclassified]
  rfl

/-- An attempt in a state that is not classified is unresolved only as long as it is not terminal. -/
theorem isUnresolved_of_moved {attempt moved : AttemptRow} (terminal : moved.terminalAt = attempt.terminalAt)
    (elsewhere : moved.state ≠ .unresolvedProviderOutcome) (unresolved : moved.isUnresolved = true) :
    attempt.isUnresolved = true := by
  unfold AttemptRow.isUnresolved at unresolved ⊢
  simp only [Bool.or_eq_true, decide_eq_true_eq] at unresolved ⊢
  exact .inl (terminal ▸ unresolved.resolve_right elsewhere)

/-! ### One write -/

theorem exposure_plan (sound : AttemptsSound run) {sealed : SealedCallRow}
    (absent : run.attempts.find? sealed.requestId = none) :
    ({ run with attempts := run.attempts.put sealed.plannedAttempt } :
      ReliabilityRun).unresolvedReservedMicros = run.unresolvedReservedMicros := by
  show (run.attempts.put sealed.plannedAttempt).total run.exposureOf = _
  rw [Table.total_put_new absent, exposureOf_of_absent (sound.token_absent absent), Nat.add_zero]
  rfl

theorem exposure_admitAttempt (sound : AttemptsSound run) (input : RecordAttemptInput) (now : ℤ) :
    (run.updateAttempts (run.isAdmissible input) (run.admitAttempt input now)
      fun _ => rfl).unresolvedReservedMicros ≤ run.unresolvedReservedMicros := by
  refine exposure_update rfl (fun attempt member chosen => ?_) fun attempt _ _ => le_rfl
  -- What is reserved for an attempt may change as long as it has no token.
  have early : attempt.isEarly = true := by
    unfold ReliabilityRun.isAdmissible at chosen
    simp only [Bool.and_eq_true] at chosen
    exact chosen.1.2
  have absent := ((sound.agree attempt member).early early).2
  refine Eq.trans_le ?_ (Nat.zero_le _)
  exact exposureOf_of_absent absent

/-- What a token is issued under. -/
theorem exposure_of_allow {requestId : String} (allowed : run.capDisposition requestId = .allow) :
    run.unresolvedExposureMicros requestId ≤ 320000 := by
  unfold ReliabilityRun.capDisposition reliabilityDispatchCapDisposition at allowed
  split at allowed
  · cases allowed
  · split at allowed
    · cases allowed
    · next within => exact not_lt.mp within

theorem isAuthorized_issueToken {input : AuthorizeDispatchInput} {drawn requestId : String}
    (authorized : (run.issueToken input drawn).isAuthorized requestId = true) :
    requestId = input.requestId ∨ run.isAuthorized requestId = true := by
  by_cases own : requestId = input.requestId
  · exact .inl own
  · unfold ReliabilityRun.isAuthorized at authorized ⊢
    rw [show (run.issueToken input drawn).dispatchTokens.find? requestId =
      run.dispatchTokens.find? requestId from Table.find?_put_of_ne _ own] at authorized
    exact .inr authorized

theorem exposure_issue {input : AuthorizeDispatchInput} (drawn : String)
    (allowed : run.capDisposition input.requestId = .allow) :
    (run.issueToken input drawn).unresolvedReservedMicros ≤ 320000 := by
  refine le_trans ?_ (exposure_of_allow allowed)
  unfold ReliabilityRun.unresolvedReservedMicros ReliabilityRun.unresolvedExposureMicros
  show ((run.attempts.rows.map _).map _).sum ≤ (run.attempts.rows.map _).sum
  rw [List.map_map]
  refine List.sum_le_sum fun attempt _ => ?_
  simp only [Function.comp_apply]
  have counted : ∀ other : AttemptRow, other.requestId = attempt.requestId →
      other.reservedCostMicros = attempt.reservedCostMicros →
      (other.isUnresolved = true → attempt.isUnresolved = true) →
      (run.issueToken input drawn).exposureOf other ≤
        if (attempt.requestId = input.requestId || run.isAuthorized attempt.requestId) &&
          attempt.isUnresolved then attempt.reservedCostMicros else 0 := by
    intro other same reserved unresolved
    unfold ReliabilityRun.exposureOf
    by_cases counts : ((run.issueToken input drawn).isAuthorized other.requestId &&
        other.isUnresolved) = true
    · rw [if_pos counts, reserved]
      rw [Bool.and_eq_true, same] at counts
      rw [if_pos]
      simp only [Bool.and_eq_true, Bool.or_eq_true, decide_eq_true_eq]
      exact ⟨isAuthorized_issueToken counts.1, unresolved counts.2⟩
    · rw [if_neg counts]
      exact Nat.zero_le _
  split
  · exact counted _ rfl rfl (isUnresolved_of_moved rfl (fun same => (by cases same)))
  · exact counted _ rfl rfl id

theorem isAuthorized_markEntered {requestId other : String} {now : ℤ}
    (authorized : (run.markEntered requestId now).isAuthorized other = true) :
    run.isAuthorized other = true := by
  unfold ReliabilityRun.isAuthorized at authorized ⊢
  rw [find_token_markEntered] at authorized
  cases found : run.dispatchTokens.find? other with
  | none =>
    rw [found] at authorized
    exact authorized
  | some token =>
    rw [found, Option.map_some, Option.any_some] at authorized
    rw [Option.any_some]
    split at authorized <;> exact authorized

theorem isAuthorized_cancelTokens {chosen : DispatchTokenRow → Bool}
    {canceledAt : DispatchTokenRow → Option ℤ} {requestId : String}
    (canceled : ∀ token, (canceledAt token).isSome = true)
    (authorized : (run.cancelTokens chosen canceledAt).isAuthorized requestId = true) :
    run.isAuthorized requestId = true := by
  unfold ReliabilityRun.isAuthorized ReliabilityRun.cancelTokens at authorized
  rw [find_updateTokens] at authorized
  unfold ReliabilityRun.isAuthorized
  cases found : run.dispatchTokens.find? requestId with
  | none =>
    rw [found] at authorized
    exact authorized
  | some token =>
    rw [found, Option.map_some, Option.any_some] at authorized
    split at authorized
    · have none_left : (canceledAt token).isNone = true := authorized
      rw [Option.isNone_iff_eq_none] at none_left
      have some_left := canceled token
      rw [none_left] at some_left
      cases some_left
    · exact authorized

/-- No write takes the sum above the cap. -/
theorem exposure_effect (sound : AttemptsSound run) (capped : run.unresolvedReservedMicros ≤ 320000)
    (effect : Effect faults run after) : after.unresolvedReservedMicros ≤ 320000 := by
  have still : ∀ {other : ReliabilityRun}, other.attempts = run.attempts →
      other.dispatchTokens = run.dispatchTokens → other.unresolvedReservedMicros ≤ 320000 := by
    intro other attempts tokens
    unfold ReliabilityRun.unresolvedReservedMicros ReliabilityRun.exposureOf ReliabilityRun.isAuthorized
    rw [attempts, tokens]
    exact capped
  cases effect with
  | quiet others holds => exact still others.attempts others.dispatchTokens
  | hold effect => exact still effect.quiet.attempts effect.quiet.dispatchTokens
  | rows effect =>
    cases effect with
    | plan sealed stored absent => exact (exposure_plan sound absent).trans_le capped
    | admitAttempt input now active => exact (exposure_admitAttempt sound input now).trans capped
    | issue input drawn active absent allowed below dispatchable => exact exposure_issue drawn allowed
    | enter requestId now token found enterable allowed =>
      have same : (run.markEntered requestId now).attempts =
          (run.updateAttempts (·.requestId = requestId) ({ · with state := .primitiveEntered })
            fun _ => rfl).attempts := rfl
      exact (exposure_rewrite same (fun _ => isAuthorized_markEntered) (fun _ _ _ => rfl)
        fun attempt _ _ => isUnresolved_of_moved rfl (fun same => (by cases same))).trans capped
    | pend chosen ambiguityEnteredAt generationId unclassified =>
      have same : (run.pendAttempts chosen ambiguityEnteredAt generationId).attempts =
          (run.updateAttempts chosen
            (fun attempt =>
              { attempt with
                state := .reconciliationPending
                ambiguityEnteredAt := ambiguityEnteredAt attempt
                providerGenerationId := generationId attempt })
            fun _ => rfl).attempts := rfl
      exact (exposure_rewrite same (fun _ => id) (fun _ _ _ => rfl)
        fun attempt _ _ => isUnresolved_of_moved rfl (fun same => (by cases same))).trans capped
    | classify classification released =>
      have same : classification.apply.attempts = (run.updateAttempts classification.chosen
        classification.rewrite classification.keeps).attempts := rfl
      exact (exposure_rewrite same (fun _ => id)
        (fun attempt member here => (classification.ends attempt member here).reserved)
        fun attempt member here _ => isUnresolved_of_isOpen sound member
          (classification.unclassified attempt member here)).trans capped
    | cancelTokens chosen canceledAt canceled ended unentered =>
      refine le_trans (Table.total_le_total fun attempt _ => ?_) capped
      exact exposureOf_le rfl (isAuthorized_cancelTokens canceled) id
    | note | insertSealed | createBarrier | release | cancelBarriers => exact still rfl rfl

end Laws

section Main

variable [NodeCrypto] [Collation] [ProtocolProfiles]

/-- **The exposure is capped**: in every run, what is reserved for the attempts with an uncanceled token that
are not terminal, or terminal with an unresolved outcome, is at most 320000. -/
theorem unresolved_exposure_capped (runId : String) (profile : ReliabilityProtocolProfile)
    (planFingerprint : String) (reconciliationCredentialId : Option String) (laneIds : List String)
    (ops : List ProtocolOp) :
    (Foundation.run ReliabilityRun.protocolStep
      (.initialRun runId profile planFingerprint reconciliationCredentialId laneIds)
      ops).unresolvedReservedMicros ≤ 320000 := by
  obtain ⟨others, _⟩ := initialRun_quiet runId profile planFingerprint reconciliationCredentialId laneIds
  refine (protocolRun_keeps (fun now => AttemptsSound now ∧ now.unresolvedReservedMicros ≤ 320000)
    (fun _ => True) (fun _ _ => True) (fun _ _ _ => trivial)
    (fun _ held effect => ⟨attemptsSound_effect held.1 effect, exposure_effect held.1 held.2 effect⟩)
    (Along.of_forall fun _ _ _ => trivial)
    (holdsApart_initialRun runId profile planFingerprint reconciliationCredentialId laneIds)
    ⟨attemptsSound_initialRun runId profile planFingerprint reconciliationCredentialId laneIds,
      ?_⟩).1.2
  unfold ReliabilityRun.unresolvedReservedMicros
  rw [others.attempts]
  exact Nat.zero_le _

end Main

end FuseControlPlane.Reliability
