/-
A request that is later, dearer or follows more spending is denied for no fewer reasons.

* `WorseThan`: two evaluation inputs that agree but for the time, the cost and what has been spent.
* `requestReasons_mono`, `workloadClassReasons_mono`, `workloadReasons_mono`: the reasons, part by part.
* `conclude_mono`: more reasons deny what fewer reasons deny, in every mode.
* `denial_monotone`: **the worse of two valid inputs has all reasons of the other, and is denied if it is**.
-/

import FuseControlPlane.Domain.Policy

set_option linter.unusedSectionVars false

namespace FuseControlPlane.Domain

open Foundation

/-! ### Inputs that are worse -/

/-- A branch with more spending and more invocations. -/
structure WorkloadEvaluationInput.WorseThan (second first : WorkloadEvaluationInput) : Prop where
  workloadClass : second.workloadClass = first.workloadClass
  branchAuthorized : second.branchAuthorized = first.branchAuthorized
  branchMaximumAtomic : second.branchMaximumAtomic = first.branchMaximumAtomic
  branchExpiresAt : second.branchExpiresAt = first.branchExpiresAt
  classAuthorized : second.classAuthorized = first.classAuthorized
  branchSpentAtomic : first.branchSpentAtomic ≤ second.branchSpentAtomic
  classInvocationCount : first.classInvocationCount ≤ second.classInvocationCount
  classSpentAtomic : first.classSpentAtomic ≤ second.classSpentAtomic

/-- Both inputs have a workload or neither has one. -/
def WorkloadsWorsen : Option WorkloadEvaluationInput → Option WorkloadEvaluationInput → Prop
  | none, none => True
  | some first, some second => second.WorseThan first
  | _, _ => False

/-- A request that is not earlier and not cheaper, after no less spending. -/
structure PolicyEvaluationInput.WorseThan (second first : PolicyEvaluationInput) : Prop where
  mandateState : second.mandateState = first.mandateState
  mandateExpiresAt : second.mandateExpiresAt = first.mandateExpiresAt
  agentAuthorized : second.agentAuthorized = first.agentAuthorized
  agentCapabilities : second.agentCapabilities = first.agentCapabilities
  provider : second.provider = first.provider
  model : second.model = first.model
  inputTokens : second.inputTokens = first.inputTokens
  mandateMaximumAtomic : second.mandateMaximumAtomic = first.mandateMaximumAtomic
  now : ∀ earlier ∈ first.now, ∀ later ∈ second.now, earlier ≤ later
  estimatedCostAtomic : first.estimatedCostAtomic ≤ second.estimatedCostAtomic
  maxOutputTokens : first.maxOutputTokens ≤ second.maxOutputTokens
  spentHourAtomic : first.spentHourAtomic ≤ second.spentHourAtomic
  spentDayAtomic : first.spentDayAtomic ≤ second.spentDayAtomic
  mandateSpentAtomic : first.mandateSpentAtomic ≤ second.mandateSpentAtomic
  requestCountLastMinute : first.requestCountLastMinute ≤ second.requestCountLastMinute
  workload : WorkloadsWorsen first.workload second.workload

/-! ### Reasons -/

variable {policy : PolicyVersion} {first second : PolicyEvaluationInput}

theorem reasonIf_mono {before after : Bool} (implies : before = true → after = true)
    (code : PolicyReasonCode) : reasonIf before code ⊆ reasonIf after code := by
  intro reason member
  rw [mem_reasonIf] at member ⊢
  exact ⟨implies member.1, member.2⟩

theorem reasonIf_lt_mono {limit before after : ℤ} (more : before ≤ after) (code : PolicyReasonCode) :
    reasonIf (limit < before) code ⊆ reasonIf (limit < after) code :=
  reasonIf_mono (fun exceeded => decide_eq_true ((of_decide_eq_true exceeded).trans_le more)) code

theorem reasonIf_le_mono {limit before after : ℤ} (more : before ≤ after) (code : PolicyReasonCode) :
    reasonIf (limit ≤ before) code ⊆ reasonIf (limit ≤ after) code :=
  reasonIf_mono (fun reached => decide_eq_true ((of_decide_eq_true reached).trans more)) code

theorem append_mono {one other more further : List PolicyReasonCode} (head : one ⊆ more)
    (rest : other ⊆ further) : one ++ other ⊆ more ++ further :=
  List.append_subset.mpr
    ⟨List.subset_append_of_subset_left further head, List.subset_append_of_subset_right more rest⟩

/-- What has expired stays expired. -/
theorem expiredAt_mono (worse : second.WorseThan first) (dated : second.now.isSome = true)
    {expiresAt : Option (Option ℤ)} (expired : expiredAt expiresAt first.now = true) :
    expiredAt expiresAt second.now = true := by
  obtain ⟨later, there⟩ := Option.isSome_iff_exists.mp dated
  unfold expiredAt at expired
  split at expired
  · next expiry earlier here =>
    rw [there]
    exact decide_eq_true ((of_decide_eq_true expired).trans (worse.now earlier here later there))
  · cases expired

theorem requestReasons_mono (worse : second.WorseThan first) (dated : second.now.isSome = true) :
    requestReasons policy first ⊆ requestReasons policy second := by
  have hour := add_le_add worse.spentHourAtomic worse.estimatedCostAtomic
  have day := add_le_add worse.spentDayAtomic worse.estimatedCostAtomic
  have mandate := add_le_add worse.mandateSpentAtomic worse.estimatedCostAtomic
  unfold requestReasons
  rw [worse.mandateState, worse.mandateExpiresAt, worse.agentAuthorized, worse.agentCapabilities,
    worse.provider, worse.model, worse.mandateMaximumAtomic, worse.inputTokens]
  refine append_mono ?_ (reasonIf_lt_mono worse.maxOutputTokens _)
  refine append_mono ?_ (List.Subset.refl _)
  refine append_mono ?_ (reasonIf_le_mono worse.requestCountLastMinute _)
  refine append_mono ?_ (reasonIf_lt_mono mandate _)
  refine append_mono ?_ (reasonIf_lt_mono day _)
  refine append_mono ?_ (reasonIf_lt_mono hour _)
  refine append_mono ?_ (reasonIf_lt_mono worse.estimatedCostAtomic _)
  iterate 4 refine append_mono ?_ (List.Subset.refl _)
  exact append_mono (List.Subset.refl _) (reasonIf_mono (expiredAt_mono worse dated) _)

theorem workloadClassReasons_mono (worse : second.WorseThan first) {before after : WorkloadEvaluationInput}
    (more : after.WorseThan before) :
    workloadClassReasons policy first before ⊆ workloadClassReasons policy second after := by
  have spent := add_le_add more.classSpentAtomic worse.estimatedCostAtomic
  unfold workloadClassReasons
  rw [more.workloadClass, more.classAuthorized, worse.inputTokens]
  split
  · exact List.Subset.refl _
  · split
    · exact List.Subset.refl _
    · refine append_mono ?_ (List.Subset.refl _)
      refine append_mono ?_ (reasonIf_lt_mono spent _)
      exact append_mono (reasonIf_lt_mono worse.estimatedCostAtomic _)
        (reasonIf_le_mono more.classInvocationCount _)

theorem workloadReasons_mono (worse : second.WorseThan first) (dated : second.now.isSome = true) :
    workloadReasons policy first ⊆ workloadReasons policy second := by
  have workloads := worse.workload
  unfold workloadReasons
  split
  · exact List.Subset.refl _
  · unfold WorkloadsWorsen at workloads
    split at workloads
    · next here there =>
      rw [here, there]
      exact List.Subset.refl _
    · next before after here there =>
      have spent := add_le_add workloads.branchSpentAtomic worse.estimatedCostAtomic
      rw [here, there]
      dsimp only
      rw [workloads.branchAuthorized, workloads.branchExpiresAt, workloads.branchMaximumAtomic]
      split
      · exact List.Subset.refl _
      · refine append_mono (append_mono ?_ (reasonIf_lt_mono spent _))
          (workloadClassReasons_mono worse workloads)
        exact reasonIf_mono (expiredAt_mono worse dated) _
    · exact workloads.elim

/-! ### Decisions -/

/-- The second decision has the reasons of the first, and denies what it denies. -/
structure PolicyDecisionResult.NoMilder (after before : PolicyDecisionResult) : Prop where
  reasonCodes : before.reasonCodes ⊆ after.reasonCodes
  outcome : before.outcome = .deny → after.outcome = .deny
  wouldOutcome : before.wouldOutcome = .deny → after.wouldOutcome = .deny

theorem conclude_reasonCodes (mode : PolicyMode) (reasons : List PolicyReasonCode) :
    (conclude mode reasons).reasonCodes = reasons := by
  unfold conclude
  dsimp only
  split
  · rfl
  · split <;> rfl

theorem conclude_wouldOutcome (mode : PolicyMode) (reasons : List PolicyReasonCode) :
    (conclude mode reasons).wouldOutcome = .deny ↔ reasons ≠ [] := by
  have would : (conclude mode reasons).wouldOutcome = if reasons.isEmpty then .allow else .deny := by
    unfold conclude
    dsimp only
    split
    · rfl
    · split <;> rfl
  rw [would]
  cases reasons with
  | nil => exact ⟨nofun, fun some_ => absurd rfl some_⟩
  | cons reason rest => exact ⟨fun _ => List.cons_ne_nil _ _, fun _ => rfl⟩

/-- A hard denial denies in every mode, any other reason unless it is a dry run. -/
theorem conclude_outcome (mode : PolicyMode) (reasons : List PolicyReasonCode) :
    (conclude mode reasons).outcome = .deny ↔
      (∃ code ∈ reasons, code ∈ hardDenials) ∨ mode ≠ .dryRun ∧ reasons ≠ [] := by
  have hard : reasons.any hardDenials.contains = true ↔ ∃ code ∈ reasons, code ∈ hardDenials := by
    simp [List.any_eq_true]
  rw [← conclude_wouldOutcome mode reasons, ← hard]
  unfold conclude
  dsimp only
  split
  · next denied => simp [denied]
  · next mild =>
    split
    · next dry => simp [mild, dry]
    · next enforced => simp [mild, enforced]

/-- More reasons deny what fewer reasons deny. -/
theorem conclude_mono (mode : PolicyMode) {fewer more : List PolicyReasonCode} (subset : fewer ⊆ more) :
    (conclude mode more).NoMilder (conclude mode fewer) := by
  have some_ (denied : fewer ≠ []) : more ≠ [] := by
    rintro rfl
    exact denied (List.subset_nil.mp subset)
  refine ⟨?_, fun denied => ?_, fun denied => ?_⟩
  · rw [conclude_reasonCodes, conclude_reasonCodes]
    exact subset
  · rw [conclude_outcome] at denied ⊢
    rcases denied with ⟨code, member, hard⟩ | ⟨enforced, reasons⟩
    · exact .inl ⟨code, subset member, hard⟩
    · exact .inr ⟨enforced, some_ reasons⟩
  · rw [conclude_wouldOutcome] at denied ⊢
    exact some_ denied

/-- **A worse input is denied for no fewer reasons.** -/
theorem denial_monotone (policy : PolicyVersion) (first second : PolicyEvaluationInput)
    (valid : validatePolicy policy = .ok ()) (validFirst : validateEvaluation first = .ok ())
    (validSecond : validateEvaluation second = .ok ()) (worse : second.WorseThan first) :
    ∃ before after, evaluatePolicy policy first = .ok before ∧ evaluatePolicy policy second = .ok after ∧
      after.NoMilder before := by
  have dated : second.now.isSome = true := by
    unfold validateEvaluation at validSecond
    simp only [bind_unit_eq_ok, require_eq_ok] at validSecond
    exact validSecond.1
  have evaluated {input : PolicyEvaluationInput} (validInput : validateEvaluation input = .ok ()) :
      evaluatePolicy policy input = .ok (if policy.mode = .paused then ⟨.deny, .deny, true, [.policyPaused]⟩
        else conclude policy.mode (requestReasons policy input ++ workloadReasons policy input)) := by
    unfold evaluatePolicy
    rw [valid, validInput]
    show (if policy.mode = .paused then _ else _) = _
    split <;> rfl
  refine ⟨_, _, evaluated validFirst, evaluated validSecond, ?_⟩
  split
  · exact ⟨List.Subset.refl _, id, id⟩
  · exact conclude_mono _ (append_mono (requestReasons_mono worse dated) (workloadReasons_mono worse dated))

/-- The same request later and dearer. -/
theorem denial_monotone_dearer :
    let policy : PolicyVersion :=
      { id := "p", organizationId := "o", version := 1, mode := .dryRun, allowedProviders := ["a"],
        allowedModels := ["m"], requiredCapability := .inferenceInvoke,
        limits := ⟨1, 10, 10, 10, 10, 10⟩, workloadClasses := [], createdAt := some 0 }
    let first : PolicyEvaluationInput :=
      { now := some 0, mandateState := .active, mandateExpiresAt := some (some 5), agentAuthorized := true,
        agentCapabilities := [.inferenceInvoke], provider := "a", model := "m", estimatedCostAtomic := 2,
        inputTokens := 1, maxOutputTokens := 1, spentHourAtomic := 0, spentDayAtomic := 0,
        mandateSpentAtomic := 0, mandateMaximumAtomic := 10, requestCountLastMinute := 0, workload := none }
    let second := { first with now := some 9, estimatedCostAtomic := 3 }
    ∃ before after, evaluatePolicy policy first = .ok before ∧ evaluatePolicy policy second = .ok after ∧
      after.NoMilder before := by
  intro policy first second
  exact denial_monotone policy first second (by decide +kernel) (by decide +kernel) (by decide +kernel)
    ⟨rfl, rfl, rfl, rfl, rfl, rfl, rfl, rfl, by decide, by decide, by decide, by decide, by decide, by decide,
      by decide, trivial⟩

end FuseControlPlane.Domain
