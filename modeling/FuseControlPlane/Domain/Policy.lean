/-
Policies and their evaluation (`domain/policy.ts`).

* `validatePolicy`, `validateEvaluation`: the checks that throw.
* `evaluatePolicy`: the decision, with every reason in the order the source pushes it.
* `Admissible`: what an `ALLOW` rests on. `evaluatePolicy_allow` derives it from a decision, and every
  budget argument about admissions starts there.

Amounts are `bigint`, modelled by `ℤ`; counts are integral numbers, modelled by `ℤ` as well.
-/

import FuseControlPlane.Domain.Lifecycles
import FuseControlPlane.Foundation.JavaScript
import FuseControlPlane.Identity.ApiCredentials
import Mathlib.Tactic.Common

namespace FuseControlPlane.Domain

open Foundation Identity

/-! ### Policies -/

/-- What a policy does with a request outside its limits. -/
inductive PolicyMode
  | dryRun | enforce | paused
  deriving DecidableEq

/-- The outcome of an evaluation. -/
inductive PolicyOutcome
  | allow | deny | review
  deriving DecidableEq

/-- The limits of a policy. -/
structure PolicyLimits where
  maxPerCallAtomic : ℤ
  maxHourlyAtomic : ℤ
  maxDailyAtomic : ℤ
  maxRequestsPerMinute : ℤ
  maxInputTokens : ℤ
  maxOutputTokens : ℤ
  deriving DecidableEq

/-- How divergence between siblings is scored for a workload class. -/
structure WorkloadClassShadowPolicy where
  classPriorWindowSpendAtomic : ℤ
  windowSeconds : ℤ
  targetMinimumObservations : ℤ
  siblingMinimumForScoring : ℤ
  siblingMinimumForIntervention : ℤ
  confidenceConstant : ℤ
  divergenceThresholdBps : ℤ
  deriving DecidableEq

/-- A class of workload a branch may be allowed. -/
structure WorkloadClassPolicy where
  id : String
  maxCostPerCallAtomic : ℤ
  maxInvocationsPerBranch : ℤ
  aggregateBudgetAtomic : ℤ
  minimumInputTokens : ℤ
  shadow : Option WorkloadClassShadowPolicy
  deriving DecidableEq

/-- One version of a policy. `createdAt` is what `Date.parse` makes of the text. -/
structure PolicyVersion where
  id : String
  organizationId : String
  version : ℤ
  mode : PolicyMode
  allowedProviders : List String
  allowedModels : List String
  requiredCapability : ApiCapability
  limits : PolicyLimits
  workloadClasses : List WorkloadClassPolicy
  createdAt : Option ℤ
  deriving DecidableEq

/-- Why a request was denied, or would have been. -/
inductive PolicyReasonCode
  | policyPaused | mandateInactive | mandateExpired | agentNotAuthorized | capabilityMissing
  | providerNotAllowed | modelNotAllowed | perCallLimitExceeded | hourlyLimitExceeded
  | dailyLimitExceeded | mandateBudgetExceeded | rateLimitExceeded | inputTokenLimitExceeded
  | outputTokenLimitExceeded | workloadClassRequired | branchNotAuthorized | branchExpired
  | branchBudgetExceeded | workloadClassNotAllowed | workloadClassPerCallLimitExceeded
  | workloadClassInvocationLimitExceeded | workloadClassBudgetExceeded
  | workloadClassShapeMismatch
  deriving DecidableEq

/-- What the evaluation knows of the branch a request runs on. Expiries are as in
`PolicyEvaluationInput`. -/
structure WorkloadEvaluationInput where
  branchId : String
  workloadClass : String
  branchAuthorized : Bool
  branchMaximumAtomic : ℤ
  branchSpentAtomic : ℤ
  branchExpiresAt : Option (Option ℤ)
  classAuthorized : Bool
  classInvocationCount : ℤ
  classSpentAtomic : ℤ
  deriving DecidableEq

/-- What a policy is evaluated on. A missing `mandateExpiresAt` is `none`, a text `Date.parse`
rejects is `some none`. -/
structure PolicyEvaluationInput where
  now : Option ℤ
  mandateState : MandateState
  mandateExpiresAt : Option (Option ℤ)
  agentAuthorized : Bool
  agentCapabilities : List ApiCapability
  provider : String
  model : String
  estimatedCostAtomic : ℤ
  inputTokens : ℤ
  maxOutputTokens : ℤ
  spentHourAtomic : ℤ
  spentDayAtomic : ℤ
  mandateSpentAtomic : ℤ
  mandateMaximumAtomic : ℤ
  requestCountLastMinute : ℤ
  workload : Option WorkloadEvaluationInput
  deriving DecidableEq

/-- The decision. -/
structure PolicyDecisionResult where
  outcome : PolicyOutcome
  wouldOutcome : PolicyOutcome
  enforced : Bool
  reasonCodes : List PolicyReasonCode
  deriving DecidableEq

/-! ### Checks that throw -/

/-- Throw `error` unless `condition` holds. -/
def require (condition : Bool) (error : String) : Except String Unit :=
  if condition then .ok () else .error error

@[simp] theorem require_eq_ok {condition : Bool} {error : String} {value : Unit} :
    require condition error = .ok value ↔ condition = true := by
  cases condition <;> simp [require]

/-- Checks in a row all pass. -/
@[simp] theorem bind_unit_eq_ok {α : Type} {first : Except String Unit} {second : Unit → Except String α}
    {value : α} : (first >>= second) = .ok value ↔ first = .ok () ∧ second () = .ok value := by
  cases first <;> simp [bind, Except.bind]

/-- A value computed and then used. -/
theorem bind_eq_ok {α β : Type} {first : Except String α} {second : α → Except String β} {value : β} :
    (first >>= second) = .ok value ↔ ∃ middle, first = .ok middle ∧ second middle = .ok value := by
  cases first <;> simp [bind, Except.bind]

theorem eq_ok_of_isOk {ε α : Type} {result : Except ε α} (accepted : result.isOk = true) :
    ∃ value, result = .ok value := by
  cases result with
  | error error => cases accepted
  | ok value => exact ⟨value, rfl⟩

/-- A list of names must be non-empty, without blanks and without duplicates. -/
def validateUniqueList (values : List String) (label : String) : Except String Unit := do
  require (!(values.isEmpty || values.any JavaScript.isBlank)) (label ++ "_REQUIRED")
  require (!JavaScript.hasDuplicates values) (label ++ "_DUPLICATE")

/-- The shape of a workload class id, `^[a-z][a-z0-9_.-]{0,63}$`. -/
def workloadClassId (id : String) : Bool :=
  match id.toList with
  | [] => false
  | first :: rest =>
    first.isLower && rest.length ≤ 63 && rest.all fun character =>
      character.isLower || character.isDigit || ['_', '.', '-'].contains character

/-- The limits of a workload class are usable. -/
def workloadClassLimits (workloadClass : WorkloadClassPolicy) : Bool :=
  0 < workloadClass.maxCostPerCallAtomic && 0 < workloadClass.aggregateBudgetAtomic &&
    workloadClass.maxCostPerCallAtomic ≤ workloadClass.aggregateBudgetAtomic &&
    JavaScript.isSafeInteger workloadClass.maxInvocationsPerBranch &&
    1 ≤ workloadClass.maxInvocationsPerBranch &&
    JavaScript.isSafeInteger workloadClass.minimumInputTokens &&
    0 ≤ workloadClass.minimumInputTokens

/-- The shadow settings of a workload class are usable. -/
def workloadClassShadow (shadow : WorkloadClassShadowPolicy) : Bool :=
  0 < shadow.classPriorWindowSpendAtomic &&
    [shadow.windowSeconds, shadow.targetMinimumObservations, shadow.siblingMinimumForScoring,
      shadow.siblingMinimumForIntervention, shadow.confidenceConstant,
      shadow.divergenceThresholdBps].all (fun count =>
        JavaScript.isSafeInteger count && 1 ≤ count) &&
    shadow.siblingMinimumForScoring ≤ shadow.siblingMinimumForIntervention

/-- The checks of one workload class. -/
def validateWorkloadClass (workloadClass : WorkloadClassPolicy) : Except String Unit := do
  require (workloadClassLimits workloadClass) "WORKLOAD_CLASS_LIMIT_INVALID"
  match workloadClass.shadow with
  | none => .ok ()
  | some shadow => require (workloadClassShadow shadow) "WORKLOAD_CLASS_SHADOW_INVALID"

def validateWorkloadClasses (workloadClasses : List WorkloadClassPolicy) : Except String Unit := do
  let ids := workloadClasses.map (·.id)
  require (ids.all workloadClassId) "WORKLOAD_CLASS_ID_INVALID"
  require (!JavaScript.hasDuplicates ids) "WORKLOAD_CLASS_DUPLICATE"
  workloadClasses.forM validateWorkloadClass

def validatePolicy (candidate : PolicyVersion) : Except String Unit := do
  require (!JavaScript.isBlank candidate.id) "POLICY_ID_REQUIRED"
  require (!JavaScript.isBlank candidate.organizationId) "POLICY_ORGANIZATION_REQUIRED"
  require (1 ≤ candidate.version) "POLICY_VERSION_INVALID"
  require ([PolicyMode.dryRun, .enforce, .paused].contains candidate.mode) "POLICY_MODE_INVALID"
  require candidate.createdAt.isSome "POLICY_CREATED_AT_INVALID"
  require (apiCapabilities.contains candidate.requiredCapability) "POLICY_CAPABILITY_INVALID"
  validateUniqueList candidate.allowedProviders "POLICY_PROVIDER"
  validateUniqueList candidate.allowedModels "POLICY_MODEL"
  validateWorkloadClasses candidate.workloadClasses
  require (0 ≤ candidate.limits.maxPerCallAtomic) "POLICY_LIMIT_INVALID:maxPerCallAtomic"
  require (0 ≤ candidate.limits.maxHourlyAtomic) "POLICY_LIMIT_INVALID:maxHourlyAtomic"
  require (0 ≤ candidate.limits.maxDailyAtomic) "POLICY_LIMIT_INVALID:maxDailyAtomic"
  let count := fun value : ℤ => JavaScript.isSafeInteger value && 0 ≤ value
  require (count candidate.limits.maxRequestsPerMinute) "POLICY_LIMIT_INVALID:maxRequestsPerMinute"
  require (count candidate.limits.maxInputTokens) "POLICY_LIMIT_INVALID:maxInputTokens"
  require (count candidate.limits.maxOutputTokens) "POLICY_LIMIT_INVALID:maxOutputTokens"

def validateEvaluation (input : PolicyEvaluationInput) : Except String Unit := do
  require input.now.isSome "POLICY_EVALUATION_TIME_INVALID"
  require (input.mandateExpiresAt.all Option.isSome) "MANDATE_EXPIRY_INVALID"
  require (!JavaScript.isBlank input.provider) "POLICY_EVALUATION_PROVIDER_REQUIRED"
  require (!JavaScript.isBlank input.model) "POLICY_EVALUATION_MODEL_REQUIRED"
  require (input.agentCapabilities.all apiCapabilities.contains &&
    !JavaScript.hasDuplicates input.agentCapabilities) "POLICY_EVALUATION_CAPABILITY_INVALID"
  require ([input.estimatedCostAtomic, input.spentHourAtomic, input.spentDayAtomic,
    input.mandateSpentAtomic, input.mandateMaximumAtomic].all (0 ≤ ·))
    "POLICY_EVALUATION_AMOUNT_INVALID"
  require ([input.inputTokens, input.maxOutputTokens, input.requestCountLastMinute].all fun value =>
    JavaScript.isSafeInteger value && 0 ≤ value) "POLICY_EVALUATION_COUNT_INVALID"

/-! ### The decision -/

/-- An expiry at or before `now`; `NaN` compares with nothing. -/
def expiredAt (expiresAt : Option (Option ℤ)) (now : Option ℤ) : Bool :=
  match expiresAt, now with
  | some (some expiry), some instant => expiry ≤ instant
  | _, _ => false

/-- Push a reason when its condition holds. -/
def reasonIf (condition : Bool) (code : PolicyReasonCode) : List PolicyReasonCode :=
  if condition then [code] else []

@[simp] theorem mem_reasonIf {condition : Bool} {code other : PolicyReasonCode} :
    other ∈ reasonIf condition code ↔ condition = true ∧ other = code := by
  cases condition <;> simp [reasonIf]

@[simp] theorem reasonIf_eq_nil {condition : Bool} {code : PolicyReasonCode} :
    reasonIf condition code = [] ↔ condition = false := by
  cases condition <;> simp [reasonIf]

/-- The reasons that do not depend on a workload class. -/
def requestReasons (policy : PolicyVersion) (input : PolicyEvaluationInput) :
    List PolicyReasonCode :=
  reasonIf (input.mandateState ≠ .active) .mandateInactive ++
  reasonIf (expiredAt input.mandateExpiresAt input.now) .mandateExpired ++
  reasonIf (!input.agentAuthorized) .agentNotAuthorized ++
  reasonIf (!input.agentCapabilities.contains policy.requiredCapability) .capabilityMissing ++
  reasonIf (!policy.allowedProviders.contains input.provider) .providerNotAllowed ++
  reasonIf (!policy.allowedModels.contains input.model) .modelNotAllowed ++
  reasonIf (policy.limits.maxPerCallAtomic < input.estimatedCostAtomic) .perCallLimitExceeded ++
  reasonIf (policy.limits.maxHourlyAtomic < input.spentHourAtomic + input.estimatedCostAtomic)
    .hourlyLimitExceeded ++
  reasonIf (policy.limits.maxDailyAtomic < input.spentDayAtomic + input.estimatedCostAtomic)
    .dailyLimitExceeded ++
  reasonIf (input.mandateMaximumAtomic < input.mandateSpentAtomic + input.estimatedCostAtomic)
    .mandateBudgetExceeded ++
  reasonIf (policy.limits.maxRequestsPerMinute ≤ input.requestCountLastMinute)
    .rateLimitExceeded ++
  reasonIf (policy.limits.maxInputTokens < input.inputTokens) .inputTokenLimitExceeded ++
  reasonIf (policy.limits.maxOutputTokens < input.maxOutputTokens) .outputTokenLimitExceeded

/-- The reasons that concern the workload class of a request on an authorised branch. -/
def workloadClassReasons (policy : PolicyVersion) (input : PolicyEvaluationInput)
    (workload : WorkloadEvaluationInput) : List PolicyReasonCode :=
  match policy.workloadClasses.find? fun configured => configured.id = workload.workloadClass with
  | none => [.workloadClassNotAllowed]
  | some workloadClass =>
    if !workload.classAuthorized then [.workloadClassNotAllowed]
    else
      reasonIf (workloadClass.maxCostPerCallAtomic < input.estimatedCostAtomic)
        .workloadClassPerCallLimitExceeded ++
      reasonIf (workloadClass.maxInvocationsPerBranch ≤ workload.classInvocationCount)
        .workloadClassInvocationLimitExceeded ++
      reasonIf (workloadClass.aggregateBudgetAtomic <
        workload.classSpentAtomic + input.estimatedCostAtomic) .workloadClassBudgetExceeded ++
      reasonIf (input.inputTokens < workloadClass.minimumInputTokens) .workloadClassShapeMismatch

/-- The reasons of a policy with workload classes. -/
def workloadReasons (policy : PolicyVersion) (input : PolicyEvaluationInput) :
    List PolicyReasonCode :=
  if policy.workloadClasses.isEmpty then []
  else
    match input.workload with
    | none => [.workloadClassRequired]
    | some workload =>
      if !workload.branchAuthorized then [.branchNotAuthorized]
      else
        reasonIf (expiredAt workload.branchExpiresAt input.now) .branchExpired ++
        reasonIf (workload.branchMaximumAtomic <
          workload.branchSpentAtomic + input.estimatedCostAtomic) .branchBudgetExceeded ++
        workloadClassReasons policy input workload

/-- The reasons that deny in every mode. -/
def hardDenials : List PolicyReasonCode :=
  [.mandateInactive, .mandateExpired, .agentNotAuthorized, .capabilityMissing,
    .mandateBudgetExceeded, .workloadClassRequired, .branchNotAuthorized, .branchExpired,
    .branchBudgetExceeded, .workloadClassNotAllowed, .workloadClassPerCallLimitExceeded,
    .workloadClassInvocationLimitExceeded, .workloadClassBudgetExceeded,
    .workloadClassShapeMismatch]

/-- The decision on a list of reasons, for a policy that is not paused. -/
def conclude (mode : PolicyMode) (reasons : List PolicyReasonCode) : PolicyDecisionResult :=
  let wouldOutcome := if reasons.isEmpty then PolicyOutcome.allow else .deny
  if reasons.any hardDenials.contains then ⟨.deny, wouldOutcome, true, reasons⟩
  else if mode = .dryRun then ⟨.allow, wouldOutcome, false, reasons⟩
  else ⟨wouldOutcome, wouldOutcome, true, reasons⟩

def evaluatePolicy (policy : PolicyVersion) (input : PolicyEvaluationInput) :
    Except String PolicyDecisionResult := do
  validatePolicy policy
  validateEvaluation input
  if policy.mode = .paused then
    return ⟨.deny, .deny, true, [.policyPaused]⟩
  return conclude policy.mode (requestReasons policy input ++ workloadReasons policy input)

/-! ### What an ALLOW rests on -/

/-- The facts behind an `ALLOW`: the hard conditions in every mode, the limits in `enforce`. -/
structure Admissible (policy : PolicyVersion) (input : PolicyEvaluationInput) : Prop where
  active : input.mandateState = .active
  amount : 0 ≤ input.estimatedCostAtomic
  mandate : input.mandateSpentAtomic + input.estimatedCostAtomic ≤ input.mandateMaximumAtomic
  branch : policy.workloadClasses ≠ [] → ∃ workload, input.workload = some workload ∧
    workload.branchAuthorized = true ∧
    workload.branchSpentAtomic + input.estimatedCostAtomic ≤ workload.branchMaximumAtomic
  limits : policy.mode = .enforce →
    input.spentHourAtomic + input.estimatedCostAtomic ≤ policy.limits.maxHourlyAtomic ∧
    input.spentDayAtomic + input.estimatedCostAtomic ≤ policy.limits.maxDailyAtomic ∧
    input.requestCountLastMinute < policy.limits.maxRequestsPerMinute

/-- A list of reasons that ends in `ALLOW` has no hard denial. -/
theorem not_mem_of_conclude_allow {mode : PolicyMode} {reasons : List PolicyReasonCode}
    (allowed : (conclude mode reasons).outcome = .allow) {code : PolicyReasonCode}
    (hard : code ∈ hardDenials) : code ∉ reasons := by
  intro member
  have denied : reasons.any hardDenials.contains = true :=
    List.any_eq_true.mpr ⟨code, member, List.contains_iff_mem.mpr hard⟩
  simp [conclude, denied] at allowed

/-- A list of reasons that ends in `ALLOW` in `enforce` is empty. -/
theorem eq_nil_of_conclude_allow {reasons : List PolicyReasonCode}
    (allowed : (conclude .enforce reasons).outcome = .allow) : reasons = [] := by
  cases reasons with
  | nil => rfl
  | cons code rest =>
    simp only [conclude, List.isEmpty_cons, Bool.false_eq_true, if_false, reduceCtorEq] at allowed
    split at allowed <;> simp at allowed

/-- An evaluated cost is not negative. -/
theorem amount_of_validateEvaluation {input : PolicyEvaluationInput} {value : Unit}
    (valid : validateEvaluation input = .ok value) : 0 ≤ input.estimatedCostAtomic := by
  simp only [validateEvaluation, bind, Except.bind, require] at valid
  grind

/-- The limits of a valid policy are not negative. -/
theorem limits_of_validatePolicy {policy : PolicyVersion} {value : Unit}
    (valid : validatePolicy policy = .ok value) :
    0 ≤ policy.limits.maxHourlyAtomic ∧ 0 ≤ policy.limits.maxDailyAtomic ∧
      0 ≤ policy.limits.maxRequestsPerMinute := by
  simp only [validatePolicy, bind_unit_eq_ok, require_eq_ok, Bool.and_eq_true,
    decide_eq_true_eq] at valid
  obtain ⟨_, _, _, _, _, _, _, _, _, _, hourly, daily, rate, _⟩ := valid
  exact ⟨hourly, daily, rate.2⟩

/-- A successful evaluation of a policy that is not paused concludes from its reasons. -/
theorem evaluatePolicy_ok {policy : PolicyVersion} {input : PolicyEvaluationInput}
    {result : PolicyDecisionResult} (evaluated : evaluatePolicy policy input = .ok result) :
    0 ≤ input.estimatedCostAtomic ∧
      ((policy.mode = .paused ∧ result = ⟨.deny, .deny, true, [.policyPaused]⟩) ∨
        (policy.mode ≠ .paused ∧ result = conclude policy.mode
          (requestReasons policy input ++ workloadReasons policy input))) := by
  unfold evaluatePolicy at evaluated
  cases policyValid : validatePolicy policy with
  | error error => simp [policyValid, bind, Except.bind] at evaluated
  | ok _ =>
    cases inputValid : validateEvaluation input with
    | error error => simp [policyValid, inputValid, bind, Except.bind] at evaluated
    | ok _ =>
      refine ⟨amount_of_validateEvaluation inputValid, ?_⟩
      simp only [policyValid, inputValid, bind, Except.bind, pure, Except.pure] at evaluated
      split at evaluated
      · next paused => exact .inl ⟨paused, (Except.ok.inj evaluated).symm⟩
      · next running => exact .inr ⟨running, (Except.ok.inj evaluated).symm⟩

/-- **What an ALLOW rests on.** -/
theorem evaluatePolicy_allow {policy : PolicyVersion} {input : PolicyEvaluationInput}
    {result : PolicyDecisionResult} (evaluated : evaluatePolicy policy input = .ok result)
    (allowed : result.outcome = .allow) : Admissible policy input := by
  obtain ⟨amount, ⟨_, rfl⟩ | ⟨_, rfl⟩⟩ := evaluatePolicy_ok evaluated
  · cases allowed
  have absent : ∀ code ∈ hardDenials,
      code ∉ requestReasons policy input ++ workloadReasons policy input :=
    fun code hard => not_mem_of_conclude_allow allowed hard
  simp only [List.mem_append, not_or] at absent
  have active := (absent .mandateInactive (by simp [hardDenials])).1
  have mandate := (absent .mandateBudgetExceeded (by simp [hardDenials])).1
  have required := (absent .workloadClassRequired (by simp [hardDenials])).2
  have authorised := (absent .branchNotAuthorized (by simp [hardDenials])).2
  have budget := (absent .branchBudgetExceeded (by simp [hardDenials])).2
  refine ⟨?_, amount, ?_, ?_, ?_⟩
  · simpa [requestReasons] using active
  · simpa [requestReasons] using mandate
  · intro classes
    have some_ : policy.workloadClasses.isEmpty = false := by simpa using classes
    simp only [workloadReasons, some_, Bool.false_eq_true, if_false] at required authorised budget
    cases given : input.workload with
    | none => simp [given] at required
    | some workload =>
      simp only [given] at authorised budget
      cases onBranch : workload.branchAuthorized with
      | false => simp [onBranch] at authorised
      | true =>
        refine ⟨workload, rfl, onBranch, ?_⟩
        simp only [onBranch, Bool.not_true, Bool.false_eq_true, if_false, List.mem_append,
          mem_reasonIf, not_or] at budget
        simpa using budget.1.2
  · intro enforce
    rw [enforce] at allowed
    obtain ⟨none_, _⟩ := List.append_eq_nil_iff.mp (eq_nil_of_conclude_allow allowed)
    have empty : ∀ code, code ∉ requestReasons policy input := by simp [none_]
    have hourly := empty .hourlyLimitExceeded
    have daily := empty .dailyLimitExceeded
    have rate := empty .rateLimitExceeded
    simp [requestReasons] at hourly daily rate
    exact ⟨hourly, daily, rate⟩

/-- What an `ALLOW` rests on with workload classes: a configured class the branch is allowed, with
room in its budget. -/
theorem workloadClass_of_allow {policy : PolicyVersion} {input : PolicyEvaluationInput}
    {result : PolicyDecisionResult} (evaluated : evaluatePolicy policy input = .ok result)
    (allowed : result.outcome = .allow) (classes : policy.workloadClasses ≠ [])
    {workload : WorkloadEvaluationInput} (given : input.workload = some workload) :
    workload.classAuthorized = true ∧ ∃ configured ∈ policy.workloadClasses,
      configured.id = workload.workloadClass ∧
        workload.classSpentAtomic + input.estimatedCostAtomic ≤ configured.aggregateBudgetAtomic := by
  obtain ⟨_, ⟨_, rfl⟩ | ⟨_, rfl⟩⟩ := evaluatePolicy_ok evaluated
  · cases allowed
  have absent : ∀ code ∈ hardDenials, code ∉ workloadReasons policy input := fun code hard member =>
    not_mem_of_conclude_allow allowed hard (List.mem_append_right _ member)
  have some_ : policy.workloadClasses.isEmpty = false := by simpa using classes
  have authorised := absent .branchNotAuthorized (by simp [hardDenials])
  have named := absent .workloadClassNotAllowed (by simp [hardDenials])
  have budget := absent .workloadClassBudgetExceeded (by simp [hardDenials])
  simp only [workloadReasons, some_, Bool.false_eq_true, if_false, given] at authorised named budget
  cases onBranch : workload.branchAuthorized with
  | false => simp [onBranch] at authorised
  | true =>
    simp only [onBranch, Bool.not_true, Bool.false_eq_true, if_false, List.mem_append, mem_reasonIf,
      not_or] at named budget
    have named := named.2
    have budget := budget.2
    unfold workloadClassReasons at named budget
    cases found : policy.workloadClasses.find? fun configured =>
        configured.id = workload.workloadClass with
    | none => simp [found] at named
    | some configured =>
      cases allowedClass : workload.classAuthorized with
      | false => simp [found, allowedClass] at named
      | true =>
        have same := List.find?_some found
        refine ⟨rfl, configured, List.mem_of_find?_eq_some found, of_decide_eq_true same, ?_⟩
        simpa [found, allowedClass] using budget

/-- What an enforced policy allows, it has no reason to deny. -/
theorem reasons_of_enforced_allow {policy : PolicyVersion} {input : PolicyEvaluationInput}
    {result : PolicyDecisionResult} (evaluated : evaluatePolicy policy input = .ok result)
    (allowed : result.outcome = .allow) (enforced : policy.mode = .enforce) :
    requestReasons policy input = [] ∧ workloadReasons policy input = [] := by
  obtain ⟨_, ⟨_, rfl⟩ | ⟨_, rfl⟩⟩ := evaluatePolicy_ok evaluated
  · cases allowed
  rw [enforced] at allowed
  exact List.append_eq_nil_iff.mp (eq_nil_of_conclude_allow allowed)

/-- A policy that was evaluated is valid. -/
theorem validatePolicy_of_evaluatePolicy {policy : PolicyVersion} {input : PolicyEvaluationInput}
    {result : PolicyDecisionResult} (evaluated : evaluatePolicy policy input = .ok result) :
    validatePolicy policy = .ok () := by
  simp only [evaluatePolicy, bind_unit_eq_ok] at evaluated
  exact evaluated.1

/-- The workload classes of a valid policy have distinct ids. -/
theorem nodup_of_validatePolicy {policy : PolicyVersion} (valid : validatePolicy policy = .ok ()) :
    (policy.workloadClasses.map (·.id)).Nodup := by
  simp only [validatePolicy, validateWorkloadClasses, bind_unit_eq_ok, require_eq_ok] at valid
  obtain ⟨_, _, _, _, _, _, _, _, ⟨_, distinct, _⟩, _⟩ := valid
  simpa [JavaScript.hasDuplicates] using distinct

end FuseControlPlane.Domain
