/-
What the score of a branch among its siblings means (`anomaly/siblingDivergence.ts`).

* `meanSpend`, `baseline`: the mean of the comparable spends, trimmed when there are five or more, and its
  weighted mean with the prior, as fractions.
* `scoreAmong_eq_ok`, `evaluate_eq_ok`: what a valid evaluation comes to.
* `sibling_divergence`: **the score does not depend on the order of the candidates, diverges exactly at the
  threshold of the baseline, and a greater spend of the target removes no signal; one sibling among five or
  more moves the baseline no further than the others do**.
-/

import FuseControlPlane.Anomaly.SiblingDivergence
import FuseControlPlane.Foundation.Methods
import FuseControlPlane.Foundation.TrimmedSums
import Mathlib.Algebra.Order.BigOperators.Group.List
import Mathlib.Algebra.Order.Field.Rat
import Mathlib.Tactic.FieldSimp
import Mathlib.Tactic.GCongr
import Mathlib.Tactic.Positivity

set_option linter.unusedSectionVars false

namespace FuseControlPlane.Anomaly

open Foundation Foundation.JavaScript FuseControlPlane.Domain

/-! ### Valid inputs -/

/-- The checks of an evaluation succeed. -/
structure IsValid (config : SiblingDivergenceConfig) (target : BranchWindowObservation)
    (candidates : List BranchWindowObservation) : Prop where
  config : validateConfig config = .ok ()
  target : validateObservation target = .ok ()
  candidates : ∀ candidate ∈ candidates, validateObservation candidate = .ok ()

variable {config : SiblingDivergenceConfig} {target : BranchWindowObservation}
  {candidates comparable : List BranchWindowObservation}

theorem validateConfig_eq_ok (valid : validateConfig config = .ok ()) :
    0 < config.classPriorWindowSpendAtomic ∧ 0 < config.confidenceConstant ∧
      0 < config.siblingMinimumForScoring ∧ 0 < config.divergenceThresholdBps := by
  unfold validateConfig at valid
  simp only [bind_unit_eq_ok, require_eq_ok, decide_eq_true_eq, List.all_eq_true, Bool.and_eq_true] at valid
  obtain ⟨prior, numbers, _⟩ := valid
  exact ⟨prior, (numbers config.confidenceConstant (by simp)).2,
    (numbers config.siblingMinimumForScoring (by simp)).2,
    (numbers config.divergenceThresholdBps (by simp)).2⟩

theorem spend_nonneg {observation : BranchWindowObservation} (valid : validateObservation observation = .ok ()) :
    0 ≤ observation.spendAtomic := by
  unfold validateObservation at valid
  simp only [bind_unit_eq_ok, require_eq_ok, decide_eq_true_eq] at valid
  exact valid.2.2.2.1

/-- The spends that are compared. -/
def comparableSpends (config : SiblingDivergenceConfig) (target : BranchWindowObservation)
    (candidates : List BranchWindowObservation) : List ℤ :=
  (candidates.filter (isComparable config target)).map BranchWindowObservation.spendAtomic

/-! ### The baseline -/

/-- The mean of the spends, without one least and one greatest when there are five or more. -/
def meanSpend (spends : List ℤ) : ℚ := trimmedTotal spends / trimmedCount spends

/-- The mean of the spends and the prior, weighted with their number and the confidence constant. -/
def baseline (config : SiblingDivergenceConfig) (spends : List ℤ) : ℚ :=
  (spends.length * meanSpend spends + config.confidenceConstant * config.classPriorWindowSpendAtomic) /
    (spends.length + config.confidenceConstant)

/-- The numerator and the denominator of the baseline. -/
def baselineNumerator (config : SiblingDivergenceConfig) (spends : List ℤ) : ℤ :=
  spends.length * trimmedTotal spends +
    config.confidenceConstant * config.classPriorWindowSpendAtomic * trimmedCount spends

def baselineDenominator (config : SiblingDivergenceConfig) (spends : List ℤ) : ℤ :=
  (spends.length + config.confidenceConstant) * trimmedCount spends

/-- The sorted spends without their ends. -/
theorem trimmedSpends_eq (comparable : List BranchWindowObservation) :
    (trimmedSpends comparable).sum = trimmedTotal (comparable.map BranchWindowObservation.spendAtomic) ∧
      (trimmedSpends comparable).length =
        trimmedCount (comparable.map BranchWindowObservation.spendAtomic) := by
  have perm := List.perm_insertionSort (· ≤ ·) (comparable.map BranchWindowObservation.spendAtomic)
  have sorted := List.pairwise_insertionSort (· ≤ ·) (comparable.map BranchWindowObservation.spendAtomic)
  unfold trimmedSpends
  dsimp only
  rw [← trimmedTotal_perm perm]
  split
  · next many =>
    obtain ⟨total, count⟩ := sum_middle sorted many
    refine ⟨total, count.trans ?_⟩
    unfold trimmedCount
    rw [perm.length_eq]
  · next few =>
    unfold trimmedTotal trimmedCount
    rw [if_neg few, perm.length_eq, if_neg (perm.length_eq ▸ few)]
    exact ⟨rfl, rfl⟩

theorem trimmedCount_pos {spends : List ℤ} (some : 1 ≤ spends.length) : 0 < trimmedCount spends := by
  unfold trimmedCount
  split <;> omega

theorem trimmedTotal_nonneg {spends : List ℤ} (nonnegative : ∀ spend ∈ spends, 0 ≤ spend) :
    0 ≤ trimmedTotal spends := by
  have perm := List.perm_insertionSort (· ≤ ·) spends
  rw [← trimmedTotal_perm perm]
  by_cases many : 5 ≤ (spends.insertionSort (· ≤ ·)).length
  · rw [← (sum_middle (List.pairwise_insertionSort (· ≤ ·) spends) many).1]
    refine List.sum_nonneg fun spend member => nonnegative spend (perm.mem_iff.mp ?_)
    exact List.mem_of_mem_drop (List.mem_of_mem_dropLast member)
  · unfold trimmedTotal
    rw [if_neg many]
    exact List.sum_nonneg fun spend member => nonnegative spend (perm.mem_iff.mp member)

theorem baselineNumerator_pos {spends : List ℤ} (valid : validateConfig config = .ok ())
    (nonnegative : ∀ spend ∈ spends, 0 ≤ spend) (some : 1 ≤ spends.length) :
    0 < baselineNumerator config spends := by
  obtain ⟨prior, constant, _⟩ := validateConfig_eq_ok valid
  have count := trimmedCount_pos some
  have total := trimmedTotal_nonneg nonnegative
  unfold baselineNumerator
  positivity

theorem baselineDenominator_pos {spends : List ℤ} (valid : validateConfig config = .ok ())
    (some : 1 ≤ spends.length) : 0 < baselineDenominator config spends := by
  obtain ⟨_, constant, _⟩ := validateConfig_eq_ok valid
  have count := trimmedCount_pos some
  unfold baselineDenominator
  positivity

/-- The baseline is the quotient of its numerator and its denominator. -/
theorem baseline_eq {spends : List ℤ} (valid : validateConfig config = .ok ()) (some : 1 ≤ spends.length) :
    baseline config spends = baselineNumerator config spends / baselineDenominator config spends := by
  obtain ⟨_, constant, _⟩ := validateConfig_eq_ok valid
  have count := trimmedCount_pos some
  have constant : (0 : ℚ) < config.confidenceConstant := by exact_mod_cast constant
  unfold baseline meanSpend baselineNumerator baselineDenominator
  push_cast
  field_simp

/-! ### Evaluations -/

theorem ratioFractionBps_ok {numerator denominator : ℤ} (positive : 0 < denominator) :
    ratioFractionBps numerator denominator =
      .ok (min ((numerator * basisPoints).tdiv denominator) (2 ^ 53 - 1)) := by
  simp [ratioFractionBps, require, positive, bind, Except.bind, pure, Except.pure]

theorem atOrAboveThreshold_ok {numerator denominator thresholdBps : ℤ} (positive : 0 < denominator) :
    atOrAboveThreshold numerator denominator thresholdBps =
      .ok (thresholdBps * denominator ≤ numerator * basisPoints) := by
  simp [atOrAboveThreshold, require, positive, bind, Except.bind, pure, Except.pure]

/-- What the score of a target says. -/
structure Scored (config : SiblingDivergenceConfig) (spend : ℤ) (spends : List ℤ)
    (result : SiblingDivergenceResult) : Prop where
  status : result.status = .scored
  effectiveBaseline : result.effectiveBaselineAtomic =
    (baselineNumerator config spends).tdiv (baselineDenominator config spends)
  diverges : SiblingDivergenceSignal.siblingDivergence ∈ result.signals ↔
    config.divergenceThresholdBps * baselineNumerator config spends ≤
      spend * baselineDenominator config spends * basisPoints
  shifts : SiblingDivergenceSignal.correlatedCohortShift ∈ result.signals ↔
    config.divergenceThresholdBps * (config.classPriorWindowSpendAtomic * trimmedCount spends) ≤
      trimmedTotal spends * basisPoints

/-- The signals of a score. -/
theorem mem_signals (diverges exceeded shifts : Bool) (signal : SiblingDivergenceSignal) :
    signal ∈ (if diverges then [SiblingDivergenceSignal.siblingDivergence] else []) ++
        (if exceeded then [SiblingDivergenceSignal.classPriorExceeded] else []) ++
        (if shifts then [SiblingDivergenceSignal.correlatedCohortShift] else []) ↔
      match signal with
      | .siblingDivergence => diverges = true
      | .classPriorExceeded => exceeded = true
      | .correlatedCohortShift => shifts = true := by
  cases signal <;> cases diverges <;> cases exceeded <;> cases shifts <;> decide

theorem scoreAmong_eq_ok (valid : validateConfig config = .ok ())
    (nonnegative : ∀ candidate ∈ comparable, 0 ≤ candidate.spendAtomic) (some : 1 ≤ comparable.length)
    (classPriorExceeded : Bool) :
    ∃ result, scoreAmong config target comparable classPriorExceeded = .ok result ∧
      Scored config target.spendAtomic (comparable.map BranchWindowObservation.spendAtomic) result ∧
      (SiblingDivergenceSignal.classPriorExceeded ∈ result.signals ↔ classPriorExceeded = true) := by
  obtain ⟨prior, _⟩ := validateConfig_eq_ok valid
  have length : 1 ≤ (comparable.map BranchWindowObservation.spendAtomic).length := by
    rwa [List.length_map]
  have count : (0 : ℤ) < trimmedCount (comparable.map BranchWindowObservation.spendAtomic) := by
    exact_mod_cast trimmedCount_pos length
  have spends : ∀ spend ∈ comparable.map BranchWindowObservation.spendAtomic, 0 ≤ spend := by
    intro spend member
    obtain ⟨candidate, there, rfl⟩ := List.mem_map.mp member
    exact nonnegative candidate there
  have numerator := baselineNumerator_pos valid spends length
  obtain ⟨total, counted⟩ := trimmedSpends_eq comparable
  unfold baselineNumerator at numerator
  rw [List.length_map] at numerator
  unfold scoreAmong
  dsimp only
  rw [total, counted, ratioFractionBps_ok numerator, ratioFractionBps_ok prior,
    ratioFractionBps_ok (Int.mul_pos prior count), atOrAboveThreshold_ok numerator,
    atOrAboveThreshold_ok (Int.mul_pos prior count)]
  refine ⟨_, rfl, ⟨rfl, ?_, ?_, ?_⟩, ?_⟩
  · unfold baselineNumerator baselineDenominator
    rw [List.length_map]
  · unfold baselineNumerator baselineDenominator
    rw [List.length_map]
    exact (mem_signals _ _ _ .siblingDivergence).trans decide_eq_true_iff
  · exact (mem_signals _ _ _ .correlatedCohortShift).trans decide_eq_true_iff
  · exact mem_signals _ _ _ .classPriorExceeded

/-- The prior is exceeded by a spend. -/
def exceedsPrior (config : SiblingDivergenceConfig) (spend : ℤ) : Prop :=
  config.divergenceThresholdBps * config.classPriorWindowSpendAtomic ≤ spend * basisPoints

instance (config : SiblingDivergenceConfig) (spend : ℤ) : Decidable (exceedsPrior config spend) :=
  inferInstanceAs (Decidable (_ ≤ _))

/-- What an evaluation says. -/
inductive Evaluated (config : SiblingDivergenceConfig) (target : BranchWindowObservation) (spends : List ℤ)
    (result : SiblingDivergenceResult) : Prop
  | unobserved (few : target.observationCount < config.targetMinimumObservations)
    (status : result.status = .insufficientTargetObservations) (silent : result.signals = [])
    (prior : result.effectiveBaselineAtomic = config.classPriorWindowSpendAtomic)
  | alone (enough : ¬ target.observationCount < config.targetMinimumObservations)
    (few : spends.length < config.siblingMinimumForScoring) (status : result.status = .insufficientSiblings)
    (signals : ∀ signal, signal ∈ result.signals ↔
      signal = .classPriorExceeded ∧ exceedsPrior config target.spendAtomic)
    (prior : result.effectiveBaselineAtomic = config.classPriorWindowSpendAtomic)
  | scored (enough : ¬ target.observationCount < config.targetMinimumObservations)
    (siblings : ¬ spends.length < config.siblingMinimumForScoring)
    (scored : Scored config target.spendAtomic spends result)
    (exceeded : SiblingDivergenceSignal.classPriorExceeded ∈ result.signals ↔
      exceedsPrior config target.spendAtomic)

/-- **A valid evaluation scores the target among its comparable siblings.** -/
theorem evaluate_eq_ok (valid : IsValid config target candidates) :
    ∃ result, evaluateSiblingDivergence config target candidates = .ok result ∧
      Evaluated config target (comparableSpends config target candidates) result := by
  obtain ⟨prior, _, scoring, _⟩ := validateConfig_eq_ok valid.config
  have nonnegative : ∀ candidate ∈ candidates.filter (isComparable config target),
      0 ≤ candidate.spendAtomic := fun candidate member =>
    spend_nonneg (valid.candidates candidate (List.mem_filter.mp member).1)
  have length : (comparableSpends config target candidates).length =
      (candidates.filter (isComparable config target)).length := List.length_map _
  unfold evaluateSiblingDivergence
  rw [valid.config, valid.target, forM_eq_ok.mpr valid.candidates, ratioFractionBps_ok prior,
    atOrAboveThreshold_ok prior]
  show ∃ result, (if target.observationCount < config.targetMinimumObservations then _ else _) = _ ∧ _
  split
  · next few => exact ⟨_, rfl, .unobserved few rfl rfl rfl⟩
  · next enough =>
    show ∃ result, (if ((candidates.filter (isComparable config target)).length : ℤ) <
      config.siblingMinimumForScoring then _ else _) = _ ∧ _
    split
    · next few =>
      refine ⟨_, rfl, .alone enough (length ▸ few) rfl (fun signal => ?_) rfl⟩
      show signal ∈ (if decide (exceedsPrior config target.spendAtomic) then _ else _) ↔ _
      split
      · next exceeds => simpa using fun _ => of_decide_eq_true exceeds
      · next within => simpa using fun _ => within
    · next siblings =>
      obtain ⟨result, scores, scored, exceeded⟩ := @scoreAmong_eq_ok _ target _ valid.config nonnegative
        (by omega) (decide (exceedsPrior config target.spendAtomic))
      exact ⟨result, scores, .scored enough (length ▸ siblings) scored (exceeded.trans decide_eq_true_iff)⟩

/-! ### The order of the candidates -/

theorem trimmedSpends_perm {others : List BranchWindowObservation} (perm : others.Perm comparable) :
    trimmedSpends others = trimmedSpends comparable := by
  have sorted : (others.map BranchWindowObservation.spendAtomic).insertionSort (· ≤ ·) =
      (comparable.map BranchWindowObservation.spendAtomic).insertionSort (· ≤ ·) := by
    refine List.Perm.eq_of_pairwise' (List.pairwise_insertionSort _ _) (List.pairwise_insertionSort _ _) ?_
    exact ((List.perm_insertionSort _ _).trans (perm.map _)).trans (List.perm_insertionSort _ _).symm
  unfold trimmedSpends
  rw [sorted]

theorem scoreAmong_perm {others : List BranchWindowObservation} (perm : others.Perm comparable)
    (classPriorExceeded : Bool) :
    scoreAmong config target others classPriorExceeded =
      scoreAmong config target comparable classPriorExceeded := by
  unfold scoreAmong
  rw [trimmedSpends_perm perm, perm.length_eq]

/-- The order of the candidates does not matter. -/
theorem evaluate_perm {others : List BranchWindowObservation} (valid : IsValid config target candidates)
    (perm : others.Perm candidates) :
    evaluateSiblingDivergence config target others = evaluateSiblingDivergence config target candidates := by
  have validOthers : ∀ candidate ∈ others, validateObservation candidate = .ok () :=
    fun candidate member => valid.candidates candidate (perm.mem_iff.mp member)
  have comparable := perm.filter (isComparable config target)
  have base (priorRatio : ℤ) :
      unscored config target (others.filter (isComparable config target)) priorRatio =
        unscored config target (candidates.filter (isComparable config target)) priorRatio := by
    unfold unscored
    rw [comparable.length_eq]
  unfold evaluateSiblingDivergence
  rw [forM_eq_ok.mpr validOthers, forM_eq_ok.mpr valid.candidates]
  simp only [base, comparable.length_eq, scoreAmong_perm comparable]

/-! ### The threshold -/

/-- The target diverges exactly at the threshold of the baseline. -/
theorem diverges_iff {spends : List ℤ} {spend : ℤ} (valid : validateConfig config = .ok ())
    (nonnegative : ∀ other ∈ spends, 0 ≤ other) (some : 1 ≤ spends.length) :
    config.divergenceThresholdBps * baselineNumerator config spends ≤
        spend * baselineDenominator config spends * basisPoints ↔
      (config.divergenceThresholdBps : ℚ) / 10000 ≤ spend / baseline config spends := by
  have numerator : (0 : ℚ) < baselineNumerator config spends := by
    exact_mod_cast baselineNumerator_pos valid nonnegative some
  rw [baseline_eq valid some, div_div_eq_mul_div, div_le_div_iff₀ (by norm_num) numerator]
  unfold basisPoints
  exact_mod_cast Iff.rfl

/-! ### One sibling -/

/-- The observation with another spend. -/
def BranchWindowObservation.withSpend (observation : BranchWindowObservation) (spendAtomic : ℤ) :
    BranchWindowObservation :=
  { observation with spendAtomic }

theorem withSpend_valid {observation : BranchWindowObservation}
    (valid : validateObservation observation = .ok ()) {spend : ℤ} (nonnegative : 0 ≤ spend) :
    validateObservation (observation.withSpend spend) = .ok () := by
  unfold validateObservation at valid ⊢
  simp only [bind_unit_eq_ok, require_eq_ok, decide_eq_true_eq] at valid ⊢
  obtain ⟨branch, parent, workload, _, count⟩ := valid
  exact ⟨branch, parent, workload, nonnegative, count⟩

/-- The spends of siblings one of which has another spend. -/
theorem comparableSpends_withSpend {before after : List BranchWindowObservation}
    {changed : BranchWindowObservation} (compared : isComparable config target changed = true) (spend : ℤ) :
    (comparableSpends config target (before ++ changed.withSpend spend :: after)).Perm
      (spend :: comparableSpends config target (before ++ after)) := by
  have still : isComparable config target (changed.withSpend spend) = true := compared
  unfold comparableSpends
  rw [List.filter_append, List.filter_cons_of_pos still, List.map_append, List.map_cons, List.filter_append,
    List.map_append]
  exact List.perm_middle

/-- A greater total makes a greater baseline. -/
theorem effectiveBaseline_mono {first second : List ℤ} (valid : validateConfig config = .ok ())
    (nonnegative : ∀ spend ∈ first, 0 ≤ spend) (some : 1 ≤ first.length)
    (length : first.length = second.length) (total : trimmedTotal first ≤ trimmedTotal second) :
    (baselineNumerator config first).tdiv (baselineDenominator config first) ≤
      (baselineNumerator config second).tdiv (baselineDenominator config second) := by
  have count : trimmedCount first = trimmedCount second := by
    unfold trimmedCount
    rw [length]
  have numerator := baselineNumerator_pos valid nonnegative some
  have denominator := baselineDenominator_pos valid some
  have grows : baselineNumerator config first ≤ baselineNumerator config second := by
    unfold baselineNumerator
    rw [length, count]
    gcongr
  have same : baselineDenominator config second = baselineDenominator config first := by
    unfold baselineDenominator
    rw [length, count]
  rw [same, Int.tdiv_eq_ediv_of_nonneg numerator.le, Int.tdiv_eq_ediv_of_nonneg (numerator.le.trans grows)]
  exact Int.ediv_le_ediv denominator grows

/-! ### All evaluations -/

/-- What holds of an evaluation and of those of other inputs. -/
structure DivergenceLaws (config : SiblingDivergenceConfig) (target : BranchWindowObservation)
    (candidates : List BranchWindowObservation) (result : SiblingDivergenceResult) : Prop where
  evaluated : evaluateSiblingDivergence config target candidates = .ok result
  /-- The order of the candidates does not matter. -/
  symmetric : ∀ others : List BranchWindowObservation, others.Perm candidates →
    evaluateSiblingDivergence config target others = .ok result
  /-- A score diverges exactly at the threshold of the baseline. -/
  exact : result.status = .scored →
    (SiblingDivergenceSignal.siblingDivergence ∈ result.signals ↔
      (config.divergenceThresholdBps : ℚ) / 10000 ≤
        target.spendAtomic / baseline config (comparableSpends config target candidates))
  /-- A greater spend of the target removes none of its signals. -/
  monotone : ∀ spend, target.spendAtomic ≤ spend →
    ∃ raised, evaluateSiblingDivergence config (target.withSpend spend) candidates = .ok raised ∧
      ∀ signal ∈ result.signals, signal ∈ raised.signals
  /-- One sibling among five or more moves the baseline no further than the least and the greatest of the
  others. -/
  robust : ∀ before changed after, candidates = before ++ changed :: after →
    isComparable config target changed = true → 5 ≤ (comparableSpends config target candidates).length →
      ∀ low high, Extremes (comparableSpends config target (before ++ after)) low high →
        ∀ spend, 0 ≤ spend →
          ∃ atLow atSpend atHigh,
            evaluateSiblingDivergence config target (before ++ changed.withSpend low :: after) = .ok atLow ∧
            evaluateSiblingDivergence config target (before ++ changed.withSpend spend :: after) =
              .ok atSpend ∧
            evaluateSiblingDivergence config target (before ++ changed.withSpend high :: after) =
              .ok atHigh ∧
            atLow.effectiveBaselineAtomic ≤ atSpend.effectiveBaselineAtomic ∧
            atSpend.effectiveBaselineAtomic ≤ atHigh.effectiveBaselineAtomic

theorem comparableSpends_nonneg (valid : IsValid config target candidates) :
    ∀ spend ∈ comparableSpends config target candidates, 0 ≤ spend := by
  intro spend member
  obtain ⟨candidate, there, rfl⟩ := List.mem_map.mp member
  exact spend_nonneg (valid.candidates candidate (List.mem_filter.mp there).1)

/-- A greater spend of the target removes none of its signals. -/
theorem Evaluated.monotone {spends : List ℤ} {result raised : SiblingDivergenceResult} {spend : ℤ}
    (valid : validateConfig config = .ok ()) (evaluated : Evaluated config target spends result)
    (again : Evaluated config (target.withSpend spend) spends raised) (more : target.spendAtomic ≤ spend) :
    ∀ signal ∈ result.signals, signal ∈ raised.signals := by
  have exceeds (before : exceedsPrior config target.spendAtomic) : exceedsPrior config spend := by
    unfold exceedsPrior basisPoints at before ⊢
    omega
  intro signal member
  cases evaluated with
  | unobserved few status silent prior =>
    rw [silent] at member
    cases member
  | alone enough few status signals prior =>
    obtain ⟨rfl, before⟩ := (signals signal).mp member
    cases again with
    | unobserved fewer => exact absurd fewer enough
    | alone _ _ _ more => exact (more _).mpr ⟨rfl, exceeds before⟩
    | scored _ siblings => exact absurd few siblings
  | scored enough siblings scored exceeded =>
    cases again with
    | unobserved fewer => exact absurd fewer enough
    | alone _ few => exact absurd few siblings
    | scored _ _ later exceededLater =>
      cases signal with
      | siblingDivergence =>
        refine later.diverges.mpr ((scored.diverges.mp member).trans ?_)
        obtain ⟨_, _, scoring, _⟩ := validateConfig_eq_ok valid
        have denominator := @baselineDenominator_pos config spends valid (by omega)
        show _ ≤ spend * _ * _
        unfold basisPoints
        gcongr
      | classPriorExceeded => exact exceededLater.mpr (exceeds (exceeded.mp member))
      | correlatedCohortShift => exact later.shifts.mpr (scored.shifts.mp member)

/-- A greater total does not lower the baseline of an evaluation. -/
theorem Evaluated.baseline_mono {first second : List ℤ} {result raised : SiblingDivergenceResult}
    (valid : validateConfig config = .ok ()) (nonnegative : ∀ spend ∈ first, 0 ≤ spend)
    (evaluated : Evaluated config target first result) (again : Evaluated config target second raised)
    (length : first.length = second.length) (total : trimmedTotal first ≤ trimmedTotal second) :
    result.effectiveBaselineAtomic ≤ raised.effectiveBaselineAtomic := by
  cases evaluated with
  | unobserved few status silent prior =>
    cases again with
    | unobserved _ _ _ same => rw [prior, same]
    | alone enough => exact absurd few enough
    | scored enough => exact absurd few enough
  | alone enough few status signals prior =>
    cases again with
    | unobserved fewer => exact absurd fewer enough
    | alone _ _ _ _ same => rw [prior, same]
    | scored _ siblings => exact absurd (length ▸ few) siblings
  | scored enough siblings scored exceeded =>
    cases again with
    | unobserved fewer => exact absurd fewer enough
    | alone _ few => exact absurd (length ▸ few) siblings
    | scored _ _ later _ =>
      obtain ⟨_, _, scoring, _⟩ := validateConfig_eq_ok valid
      rw [scored.effectiveBaseline, later.effectiveBaseline]
      exact effectiveBaseline_mono valid nonnegative (by omega) length total

/-- A scored evaluation diverges exactly at the threshold. -/
theorem Evaluated.exact {spends : List ℤ} {result : SiblingDivergenceResult}
    (valid : validateConfig config = .ok ()) (nonnegative : ∀ other ∈ spends, 0 ≤ other)
    (evaluated : Evaluated config target spends result) (status : result.status = .scored) :
    SiblingDivergenceSignal.siblingDivergence ∈ result.signals ↔
      (config.divergenceThresholdBps : ℚ) / 10000 ≤ target.spendAtomic / baseline config spends := by
  cases evaluated with
  | unobserved _ other => exact absurd (status.symm.trans other) (by decide)
  | alone _ _ other => exact absurd (status.symm.trans other) (by decide)
  | scored _ siblings scored =>
    obtain ⟨_, _, scoring, _⟩ := validateConfig_eq_ok valid
    exact scored.diverges.trans (diverges_iff valid nonnegative (by omega))

/-- Candidates one of which has another spend are valid. -/
theorem IsValid.withSpend {before after : List BranchWindowObservation} {changed : BranchWindowObservation}
    (valid : IsValid config target (before ++ changed :: after)) {spend : ℤ} (nonnegative : 0 ≤ spend) :
    IsValid config target (before ++ changed.withSpend spend :: after) := by
  refine ⟨valid.config, valid.target, fun candidate member => ?_⟩
  rcases List.mem_append.mp member with there | there
  · exact valid.candidates candidate (List.mem_append_left _ there)
  · rcases List.mem_cons.mp there with rfl | there
    · exact withSpend_valid (valid.candidates changed (by simp)) nonnegative
    · exact valid.candidates candidate (List.mem_append_right _ (List.mem_cons_of_mem _ there))

/-- One more spend moves the baseline of an evaluation as it moves the trimmed total. -/
theorem baseline_withSpend {before after : List BranchWindowObservation} {changed : BranchWindowObservation}
    {first second : ℤ} {result raised : SiblingDivergenceResult}
    (valid : IsValid config target (before ++ changed.withSpend first :: after))
    (compared : isComparable config target changed = true)
    (evaluated : Evaluated config target
      (comparableSpends config target (before ++ changed.withSpend first :: after)) result)
    (again : Evaluated config target
      (comparableSpends config target (before ++ changed.withSpend second :: after)) raised)
    (total : trimmedTotal (first :: comparableSpends config target (before ++ after)) ≤
      trimmedTotal (second :: comparableSpends config target (before ++ after))) :
    result.effectiveBaselineAtomic ≤ raised.effectiveBaselineAtomic := by
  have here := @comparableSpends_withSpend config target before after changed compared first
  have there := @comparableSpends_withSpend config target before after changed compared second
  refine evaluated.baseline_mono valid.config (comparableSpends_nonneg valid) again ?_ ?_
  · rw [here.length_eq, there.length_eq, List.length_cons, List.length_cons]
  · rwa [trimmedTotal_perm here, trimmedTotal_perm there]

/-- **Divergence from siblings is exact and symmetric.** -/
theorem sibling_divergence (config : SiblingDivergenceConfig) (target : BranchWindowObservation)
    (candidates : List BranchWindowObservation) (valid : IsValid config target candidates) :
    ∃ result, DivergenceLaws config target candidates result := by
  obtain ⟨result, evaluates, evaluated⟩ := evaluate_eq_ok valid
  refine ⟨result, evaluates, fun others perm => (evaluate_perm valid perm).trans evaluates,
    evaluated.exact valid.config (comparableSpends_nonneg valid), fun spend more => ?_, ?_⟩
  · have validRaised : IsValid config (target.withSpend spend) candidates :=
      ⟨valid.config, withSpend_valid valid.target ((spend_nonneg valid.target).trans more), valid.candidates⟩
    obtain ⟨raised, raises, again⟩ := evaluate_eq_ok validRaised
    exact ⟨raised, raises, evaluated.monotone valid.config again more⟩
  · rintro before changed after rfl compared many low high extremes spend nonnegative
    have validOthers : IsValid config target (before ++ after) :=
      ⟨valid.config, valid.target, fun candidate member => valid.candidates candidate (by
        rcases List.mem_append.mp member with there | there
        · exact List.mem_append_left _ there
        · exact List.mem_append_right _ (List.mem_cons_of_mem _ there))⟩
    have others := comparableSpends_nonneg validOthers
    have validLow := valid.withSpend (others low extremes.low_mem)
    have validSpend := valid.withSpend nonnegative
    have validHigh := valid.withSpend (others high extremes.high_mem)
    have four : 4 ≤ (comparableSpends config target (before ++ after)).length := by
      have perm := @comparableSpends_withSpend config target before after changed compared changed.spendAtomic
      have length := perm.length_eq
      rw [List.length_cons] at length
      exact Nat.le_of_succ_le_succ (many.trans length.le)
    obtain ⟨below, above⟩ := trimmedTotal_between extremes four spend
    obtain ⟨atLow, lowEvaluates, lowEvaluated⟩ := evaluate_eq_ok validLow
    obtain ⟨atSpend, spendEvaluates, spendEvaluated⟩ := evaluate_eq_ok validSpend
    obtain ⟨atHigh, highEvaluates, highEvaluated⟩ := evaluate_eq_ok validHigh
    exact ⟨atLow, atSpend, atHigh, lowEvaluates, spendEvaluates, highEvaluates,
      baseline_withSpend validLow compared lowEvaluated spendEvaluated below,
      baseline_withSpend validSpend compared spendEvaluated highEvaluated above⟩

/-- A target and five siblings. -/
theorem sibling_divergence_of_five :
    ∃ result, DivergenceLaws
      { classPriorWindowSpendAtomic := 100, confidenceConstant := 2, targetMinimumObservations := 1,
        siblingMinimumForScoring := 1, siblingMinimumForIntervention := 2, divergenceThresholdBps := 20000 }
      { branchId := "t", parentBranchId := "p", workloadClass := "w", spendAtomic := 900,
        observationCount := 3 }
      ([10, 20, 30, 40, 5000].map fun spendAtomic =>
        { branchId := "s", parentBranchId := "p", workloadClass := "w", spendAtomic,
          observationCount := 3 }) result :=
  sibling_divergence _ _ _ ⟨by decide +kernel, by decide +kernel, by decide +kernel⟩

end FuseControlPlane.Anomaly
