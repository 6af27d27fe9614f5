/-
How far the spend of a branch is from that of its siblings (`anomaly/siblingDivergence.ts`).

* `validateConfig`, `validateObservation`: the checks.
* `evaluateSiblingDivergence`: the score of a target branch among candidates.
-/

import FuseControlPlane.Domain.Policy

set_option linter.unusedSectionVars false

namespace FuseControlPlane.Anomaly

open Foundation Foundation.JavaScript FuseControlPlane.Domain

structure SiblingDivergenceConfig where
  classPriorWindowSpendAtomic : ℤ
  confidenceConstant : ℤ
  targetMinimumObservations : ℤ
  siblingMinimumForScoring : ℤ
  siblingMinimumForIntervention : ℤ
  divergenceThresholdBps : ℤ
  deriving DecidableEq

structure BranchWindowObservation where
  branchId : String
  parentBranchId : String
  workloadClass : String
  spendAtomic : ℤ
  observationCount : ℤ
  deriving DecidableEq

inductive SiblingDivergenceSignal
  | siblingDivergence | classPriorExceeded | correlatedCohortShift
  deriving DecidableEq

inductive SiblingDivergenceStatus
  | scored | insufficientTargetObservations | insufficientSiblings
  deriving DecidableEq

inductive SiblingAggregate
  | none | mean | trimmedMean
  deriving DecidableEq

structure SiblingDivergenceResult where
  status : SiblingDivergenceStatus
  targetObservationCount : ℤ
  comparableSiblingCount : ℤ
  siblingAggregate : SiblingAggregate
  siblingAggregateAtomic : ℤ
  siblingWeightBps : ℤ
  effectiveBaselineAtomic : ℤ
  divergenceRatioBps : ℤ
  targetPriorRatioBps : ℤ
  cohortPriorRatioBps : ℤ
  eligibleForIntervention : Bool
  signals : List SiblingDivergenceSignal
  wouldEmitAnySignal : Bool
  wouldSignalTarget : Bool
  cohortShift : Bool
  wouldSignal : Bool
  deriving DecidableEq

/-! ### Checks -/

/-- `BPS`. -/
def basisPoints : ℤ := 10000

def validateObservation (observation : BranchWindowObservation) : Except String Unit := do
  require (!isBlank observation.branchId) "SIBLING_DIVERGENCE_BRANCH_REQUIRED"
  require (!isBlank observation.parentBranchId) "SIBLING_DIVERGENCE_PARENT_REQUIRED"
  require (!isBlank observation.workloadClass) "SIBLING_DIVERGENCE_CLASS_REQUIRED"
  require (0 ≤ observation.spendAtomic) "SIBLING_DIVERGENCE_SPEND_INVALID"
  require (isSafeInteger observation.observationCount && 0 ≤ observation.observationCount)
    "SIBLING_DIVERGENCE_OBSERVATION_COUNT_INVALID"

def validateConfig (config : SiblingDivergenceConfig) : Except String Unit := do
  require (0 < config.classPriorWindowSpendAtomic) "SIBLING_DIVERGENCE_PRIOR_INVALID"
  require ([config.confidenceConstant, config.targetMinimumObservations,
      config.siblingMinimumForScoring, config.siblingMinimumForIntervention,
      config.divergenceThresholdBps].all fun value => isSafeInteger value && 1 ≤ value)
    "SIBLING_DIVERGENCE_CONFIG_INVALID"
  require (config.siblingMinimumForScoring ≤ config.siblingMinimumForIntervention)
    "SIBLING_DIVERGENCE_CONFIG_INVALID"

/-! ### Ratios -/

/-- `ratioBps` is this function. -/
def ratioFractionBps (numerator denominator : ℤ) : Except String ℤ := do
  require (0 < denominator) "SIBLING_DIVERGENCE_PRIOR_INVALID"
  return min (numerator * basisPoints |>.tdiv denominator) (2 ^ 53 - 1)

def atOrAboveThreshold (numerator denominator thresholdBps : ℤ) : Except String Bool := do
  require (0 < denominator) "SIBLING_DIVERGENCE_PRIOR_INVALID"
  return thresholdBps * denominator ≤ numerator * basisPoints

/-! ### The score -/

/-- The candidate is compared with the target. -/
def isComparable (config : SiblingDivergenceConfig) (target candidate : BranchWindowObservation) :
    Bool :=
  candidate.branchId ≠ target.branchId && candidate.parentBranchId = target.parentBranchId &&
    candidate.workloadClass = target.workloadClass &&
    config.targetMinimumObservations ≤ candidate.observationCount

/-- `base`: the result while nothing has been compared. -/
def unscored (config : SiblingDivergenceConfig) (target : BranchWindowObservation)
    (comparable : List BranchWindowObservation) (priorRatio : ℤ) : SiblingDivergenceResult where
  status := .insufficientTargetObservations
  targetObservationCount := target.observationCount
  comparableSiblingCount := comparable.length
  siblingAggregate := .none
  siblingAggregateAtomic := 0
  siblingWeightBps := 0
  effectiveBaselineAtomic := config.classPriorWindowSpendAtomic
  divergenceRatioBps := priorRatio
  targetPriorRatioBps := priorRatio
  cohortPriorRatioBps := 0
  eligibleForIntervention := false
  signals := []
  wouldEmitAnySignal := false
  wouldSignalTarget := false
  cohortShift := false
  wouldSignal := false

/-- `sorted`, without its ends when there are five or more. -/
def trimmedSpends (comparable : List BranchWindowObservation) : List ℤ :=
  let sorted := (comparable.map (·.spendAtomic)).insertionSort (· ≤ ·)
  if 5 ≤ sorted.length then (sorted.drop 1).dropLast else sorted

/-- The score of a target with enough siblings. -/
def scoreAmong (config : SiblingDivergenceConfig) (target : BranchWindowObservation)
    (comparable : List BranchWindowObservation) (classPriorExceeded : Bool) :
    Except String SiblingDivergenceResult := do
  let trimmed := trimmedSpends comparable
  let siblingSumAtomic := trimmed.sum
  let siblingCount : ℤ := trimmed.length
  let comparableCount : ℤ := comparable.length
  let prior := config.classPriorWindowSpendAtomic
  let baselineNumerator := comparableCount * siblingSumAtomic +
    config.confidenceConstant * prior * siblingCount
  let baselineDenominator := (comparableCount + config.confidenceConstant) * siblingCount
  let divergenceRatioBps ←
    ratioFractionBps (target.spendAtomic * baselineDenominator) baselineNumerator
  let targetPriorRatioBps ← ratioFractionBps target.spendAtomic prior
  let cohortPriorRatioBps ← ratioFractionBps siblingSumAtomic (prior * siblingCount)
  let eligibleForIntervention := config.siblingMinimumForIntervention ≤ comparableCount
  let diverges ← atOrAboveThreshold (target.spendAtomic * baselineDenominator) baselineNumerator
    config.divergenceThresholdBps
  let shifts ← atOrAboveThreshold siblingSumAtomic (prior * siblingCount)
    config.divergenceThresholdBps
  let signals := (if diverges then [SiblingDivergenceSignal.siblingDivergence] else []) ++
    (if classPriorExceeded then [.classPriorExceeded] else []) ++
    if shifts then [.correlatedCohortShift] else []
  let wouldSignalTarget := signals.contains .siblingDivergence || signals.contains .classPriorExceeded
  return {
    status := .scored
    targetObservationCount := target.observationCount
    comparableSiblingCount := comparableCount
    siblingAggregate := if 5 ≤ comparable.length then .trimmedMean else .mean
    siblingAggregateAtomic := siblingSumAtomic.tdiv siblingCount
    siblingWeightBps :=
      (comparableCount * basisPoints).tdiv (comparableCount + config.confidenceConstant)
    effectiveBaselineAtomic := baselineNumerator.tdiv baselineDenominator
    divergenceRatioBps
    targetPriorRatioBps
    cohortPriorRatioBps
    eligibleForIntervention
    signals
    wouldEmitAnySignal := !signals.isEmpty
    wouldSignalTarget
    cohortShift := signals.contains .correlatedCohortShift
    wouldSignal := eligibleForIntervention && wouldSignalTarget }

def evaluateSiblingDivergence (config : SiblingDivergenceConfig) (target : BranchWindowObservation)
    (candidates : List BranchWindowObservation) : Except String SiblingDivergenceResult := do
  validateConfig config
  validateObservation target
  candidates.forM validateObservation
  let comparable := candidates.filter (isComparable config target)
  let priorRatio ← ratioFractionBps target.spendAtomic config.classPriorWindowSpendAtomic
  let base := unscored config target comparable priorRatio
  if target.observationCount < config.targetMinimumObservations then
    return base
  else do
    let classPriorExceeded ← atOrAboveThreshold target.spendAtomic
      config.classPriorWindowSpendAtomic config.divergenceThresholdBps
    if comparable.length < config.siblingMinimumForScoring then
      return { base with
        status := .insufficientSiblings
        signals := if classPriorExceeded then [.classPriorExceeded] else []
        wouldEmitAnySignal := classPriorExceeded
        wouldSignalTarget := classPriorExceeded }
    else scoreAmong config target comparable classPriorExceeded

end FuseControlPlane.Anomaly
