/-
The exposure recorded with a decision (`admitInference` in `persistence/policyStore.ts`).

With a decision on an authorised branch the store records how much the branch can still spend. The
amount is computed by a second formula, beside the one the policy evaluation uses.

* `TrueBound`: what such a record promises. An allowed reservation is within it, what remains is the
  difference, later reservations on the branch stay within what remains, and the maximum is no more than
  what the policy evaluation leaves of the branch.
* `exposureSnapshot_maximum`: the recorded maximum is the least of the three remainders.
* `exposure_true_iff`: the record keeps its promise exactly when `ExposureFits`. The formula leaves out
  the authority handed to child branches and the spend in classes the branch does not list.
* `not_exposure_true`: a branch of 10 that handed out 4 is recorded with a maximum of 10.
-/

import FuseControlPlane.Persistence.Remainders
import Mathlib.Algebra.BigOperators.Ring.Finset

set_option linter.unusedSectionVars false

namespace FuseControlPlane.Persistence

open Foundation Foundation.JavaScript Domain Identity FuseControlPlane.Core Program

/-! ### Counters and commitments -/

namespace Db

/-- What the counters of an admission count of a mandate. -/
def countedSpend (db : Db) (organizationId mandateId : String) : ℕ :=
  ((db.executionsOf organizationId mandateId).map ExecutionRow.counterSpend).sum

end Db

/-- An execution that is held as billed without a response has no actual cost. -/
def HeldUnpaid (db : Db) : Prop :=
  ∀ organizationId requestId row, db.execution organizationId requestId = some row →
    row.status = .reconciliationHold → row.failureCode = some ExecutionRow.billedNoResponse →
    row.actualCostAtomic = none

/-- The counters count no more than what is committed. -/
theorem countedSpend_le {db : Db} (wf : WellFormed db) (unpaid : HeldUnpaid db)
    (organizationId mandateId : String) :
    db.countedSpend organizationId mandateId ≤ db.committedSpend organizationId mandateId := by
  rw [Db.countedSpend, Db.sum_executionsOf, Db.committedSpend]
  refine Table.total_le_total fun row member => ?_
  split
  · have known : db.execution row.organizationId row.requestId = some row := Table.find?_of_mem member
    have clean : row.status = .executing ∨ row.status = .denied → row.failureCode = none :=
      fun early => (wf.clean known early).1
    unfold ExecutionRow.counterSpend ExecutionRow.committed
    cases status : row.status with
    | denied => simp [clean (.inr status)]
    | executing => simp [clean (.inl status)]
    | completed => simp
    | failed => by_cases billed : row.failureCode = some ExecutionRow.billedNoResponse <;> simp [billed]
    | reconciliationHold =>
      by_cases billed : row.failureCode = some ExecutionRow.billedNoResponse
      · simp [billed, unpaid _ _ _ known status billed]
      · simp [billed]
  · exact le_rfl

section Commits

variable [NodeCrypto] {db after : Db} {op : Op} {reply : Reply}

/-- Putting an execution on hold adds no actual cost to one that is billed without a response. -/
theorem unpaid_of_held {row : ExecutionRow} {update : ExecutionUpdate}
    (holds : heldExecution db op = some (row, update))
    (clean : row.failureCode = none ∧ row.actualCostAtomic = none)
    (billed : (update.set row).failureCode = some ExecutionRow.billedNoResponse) :
    (update.set row).actualCostAtomic = none := by
  cases update with
  | overrun cost response completedAt => exact absurd (clean.1.symm.trans billed) nofun
  | leaseExpired retriedAt => exact clean.2
  | held response reasonCode heldAt => exact clean.2
  | _ => exact absurd (found_of_heldExecution holds).2.2 nofun

/-- Writing one execution keeps `HeldUnpaid` when the new row meets it. -/
theorem HeldUnpaid.write (unpaid : HeldUnpaid db) {organization request : String} {new : ExecutionRow}
    (executions : ∀ organizationId requestId, after.execution organizationId requestId =
      if organizationId = organization ∧ requestId = request then some new
      else db.execution organizationId requestId)
    (clean : new.status = .reconciliationHold →
      new.failureCode = some ExecutionRow.billedNoResponse → new.actualCostAtomic = none) :
    HeldUnpaid after := by
  intro organizationId requestId row found
  rw [executions] at found
  split at found
  · cases found
    exact clean
  · exact unpaid _ _ _ found

/-- **Every commit keeps held executions unpaid.** -/
theorem HeldUnpaid.commit (unpaid : HeldUnpaid db) (wf : WellFormed db)
    (commit : Commit db op reply after) : HeldUnpaid after := by
  cases commit with
  | organization | agent | policy | mandate | assigned | branch | transition | policySet =>
    exact fun _ _ _ found => unpaid _ _ _ (by simpa using found)
  | previewed | replayed | notFailed | resolvedBefore => exact unpaid
  | held op reply row update holds quiet known =>
    obtain ⟨found, running, _⟩ := found_of_heldExecution holds
    exact unpaid.write (Db.execution_holdExecution db row update) fun _ =>
      unpaid_of_held holds (wf.clean found (.inl running))
  | admitted decisionId input decidedAt row result begun fresh evaluated =>
    refine unpaid.write (Db.execution_recordAdmission db input decidedAt _) fun onHold => ?_
    rcases newExecution_status decisionId evaluated with ⟨denied, _⟩ | ⟨running, _⟩
    · exact absurd (denied.symm.trans onHold) nofun
    · exact absurd (running.symm.trans onHold) nofun
  | completed input reply row completedAt found running positive within =>
    exact unpaid.write (Db.execution_update db row _) nofun
  | failed input row failedAt found running =>
    exact unpaid.write (Db.execution_update db row _) nofun
  | resolved input row cost occurredAt after found onHold fresh priced released =>
    have recorded : HeldUnpaid (db.recordResolution input row cost occurredAt) := by
      refine unpaid.write (Db.execution_recordResolution db input row cost occurredAt) fun onHold => ?_
      rcases resolutionUpdate_status input.resolution row cost occurredAt with done | done
      · exact absurd (done.symm.trans onHold) nofun
      · exact absurd (done.symm.trans onHold) nofun
    cases released <;> exact recorded

/-! ### The policy of a branch -/

/-- Every branch was created under a policy with workload classes. -/
def BranchesConfigured (db : Db) : Prop :=
  ∀ organizationId mandateId branchId branch,
    db.branch organizationId mandateId branchId = some branch →
    ∃ policy, db.policy organizationId branch.policyId branch.policyVersion = some policy ∧
      policy.workloadClasses ≠ []

/-- **Every commit keeps the branches under such policies.** -/
theorem BranchesConfigured.commit (configured : BranchesConfigured db)
    (commit : Commit db op reply after) : BranchesConfigured after := by
  intro organizationId mandateId branchId branch found
  have before : ∀ policy, db.policy organizationId branch.policyId branch.policyVersion = some policy →
      policy.workloadClasses ≠ [] →
      ∃ policy, after.policy organizationId branch.policyId branch.policyVersion = some policy ∧
        policy.workloadClasses ≠ [] :=
    fun policy published classes => ⟨policy, commit.policy_kept published, classes⟩
  rcases commit.branches with same | ⟨input, row, createdAt, rfl, granted, rfl⟩
  · have here : db.branch organizationId mandateId branchId = some branch := by
      rw [Db.branch, ← same]
      exact found
    obtain ⟨policy, published, classes⟩ := configured _ _ _ _ here
    exact before policy published classes
  · simp only [branch_apply] at found
    split at found
    · next same =>
      cases found
      refine before row.policy ?_ granted.configured
      rw [same.1]
      exact (Db.mandatePolicy_eq_some.mp granted.found).2
    · obtain ⟨policy, published, classes⟩ := configured _ _ _ _ found
      exact before policy published classes

theorem HeldUnpaid.empty : HeldUnpaid Db.empty := fun _ _ _ found => by cases found

theorem BranchesConfigured.empty : BranchesConfigured Db.empty := fun _ _ _ _ found => by cases found

/-- What every state of the store adds to `WellFormed` for this. -/
theorem exposure_invariants (ops : List Op) :
    HeldUnpaid (run step Db.empty ops) ∧ BranchesConfigured (run step Db.empty ops) := by
  have free : Along step (fun _ _ => True) Db.empty ops := Along.of_forall fun _ _ _ => trivial
  refine ⟨invariant_of_commits free HeldUnpaid.empty fun wf unpaid _ commit => unpaid.commit wf commit,
    invariant_of_commits free BranchesConfigured.empty fun _ configured _ commit => ?_⟩
  exact configured.commit commit

/-! ### A recorded decision -/

/-- A call records a decision. -/
def Records (db : Db) (op : Op) (decision : StoredPolicyDecision) : Prop :=
  db.policyDecisions.find? (Keyed.key decision) = none ∧
    (step db op).policyDecisions.find? (Keyed.key decision) = some decision

theorem policyDecisions_holdExecution (row : ExecutionRow) (update : ExecutionUpdate) :
    (db.holdExecution row update).policyDecisions = db.policyDecisions := by
  unfold Db.holdExecution Db.holdMandate
  split
  · split
    · show (if _ then _ else _ : Db).policyDecisions = _
      split <;> rfl
    · rfl
  · rfl

/-- A commit records one decision, or none. -/
theorem Commit.decisions (commit : Commit db op reply after) :
    after.policyDecisions = db.policyDecisions ∨
      ∃ decisionId input decidedAt row result, Begun db input decidedAt row ∧
        db.execution input.organizationId input.requestId = none ∧
        db.evaluateAdmission input decidedAt row = .ok result ∧
        after = db.recordAdmission input decidedAt
          (db.newDecision input decisionId decidedAt row result) := by
  cases commit with
  | admitted decisionId input decidedAt row result begun fresh evaluated =>
    exact .inr ⟨decisionId, input, decidedAt, row, result, begun, fresh, evaluated, rfl⟩
  | held op reply row update => exact .inl (policyDecisions_holdExecution row update)
  | resolved input row cost occurredAt after found onHold fresh priced released =>
    cases released <;> exact .inl rfl
  | _ => exact .inl rfl

/-- A recorded decision is the one on a new request. -/
theorem Records.admission {decision : StoredPolicyDecision} (records : Records db op decision) :
    ∃ decisionId input decidedAt row result reply, Begun db input decidedAt row ∧
      db.execution input.organizationId input.requestId = none ∧
      db.evaluateAdmission input decidedAt row = .ok result ∧
      decision = db.newDecision input decisionId decidedAt row result ∧
      step db op = db.recordAdmission input decidedAt decision ∧ Commit db op reply (step db op) := by
  obtain ⟨absent, present⟩ := records
  rcases step_cases db op with same | ⟨reply, commit⟩
  · rw [same, absent] at present
    cases present
  rcases commit.decisions with same | ⟨decisionId, input, decidedAt, row, result, begun, fresh, evaluated,
      same⟩
  · rw [same, absent] at present
    cases present
  · refine ⟨decisionId, input, decidedAt, row, result, reply, begun, fresh, evaluated, ?_⟩
    have written : (db.policyDecisions.put (db.newDecision input decisionId decidedAt row result)).find?
        (Keyed.key decision) = some decision := by
      rw [same] at present
      exact present
    rw [Table.find?_put] at written
    split at written
    · cases written
      exact ⟨rfl, same, commit⟩
    · rw [absent] at written
      cases written

/-- A decision that is new in the store was recorded. -/
theorem records_of_new {key : String × String} {shown : StoredPolicyDecision → Bool}
    (absent : db.policyDecisions.find? key = none)
    (present : ((step db op).policyDecisions.find? key).any shown = true) :
    ∃ decision, Records db op decision ∧ shown decision = true := by
  obtain ⟨decision, found, meets⟩ := (Option.any_eq_true _ _).mp present
  have keyed := Table.key_of_find? found
  exact ⟨decision, ⟨by rw [keyed]; exact absent, by rw [keyed]; exact found⟩, meets⟩

/-! ### The snapshot -/

/-- **The recorded maximum is the least of the three remainders**, with the counters for the mandate. -/
theorem exposureSnapshot_maximum (wf : WellFormed db) {organizationId mandateId : String}
    {policy : PolicyVersion} (valid : validatePolicy policy = .ok ()) (branch : BranchRow)
    (scope : WorkloadScope)
    (usages : scope.usageByClass = db.workloadUsage organizationId mandateId scope.branchId)
    (maximum spent reserved : ℤ) :
    (exposureSnapshot policy branch scope maximum spent reserved).maximumExposureAtomic =
      min (min (db.classRemainder organizationId mandateId scope.branchId policy branch)
        (db.lifetimeRemainder organizationId mandateId scope.branchId policy branch))
        (max 0 (maximum - spent)) := by
  have each : ∀ configured : WorkloadClassPolicy, (scope.spentOn configured.id : ℤ) =
      ((db.classSpend organizationId mandateId scope.branchId fun other => other = configured.id : ℕ) : ℤ) :=
    fun configured => by rw [Db.spentOn_eq wf scope usages]
  have distinct : (listedIds policy branch).Nodup :=
    (nodup_of_validatePolicy valid).sublist (List.filter_sublist.map _)
  have listed : ((listedClasses policy branch).map fun configured : WorkloadClassPolicy =>
      (scope.spentOn configured.id : ℤ)).sum =
        (db.classSpend organizationId mandateId scope.branchId (listedIds policy branch).contains : ℤ) := by
    rw [← Db.sum_classSpend distinct, listedIds, List.map_map, Nat.cast_list_sum, List.map_map]
    exact congrArg List.sum (List.map_congr_left fun configured _ => each configured)
  have classes : ((listedClasses policy branch).map fun configured : WorkloadClassPolicy =>
      max (0 : ℤ) (configured.aggregateBudgetAtomic - scope.spentOn configured.id)).sum =
        db.classRemainder organizationId mandateId scope.branchId policy branch :=
    congrArg List.sum (List.map_congr_left fun configured _ => by rw [each configured])
  rw [Db.lifetimeRemainder, ← listed, ← classes]
  rfl

/-- The remainder pays for what a new request reserves, admitted or denied. -/
theorem reservation_paid {input : AdmitInferenceInput} {decidedAt : ℤ} {row : MandatePolicyRow}
    {result : PolicyDecisionResult} (wf : WellFormed db) (begun : Begun db input decidedAt row)
    (fresh : db.execution input.organizationId input.requestId = none)
    (evaluated : db.evaluateAdmission input decidedAt row = .ok result)
    (classes : row.policy.workloadClasses ≠ []) {branchId : String} {branch : BranchRow}
    (named : input.branchId = some branchId)
    (here : db.branch input.organizationId input.mandateId branchId = some branch)
    (decisionId : String) :
    reservation input result +
        (db.recordAdmission input decidedAt (db.newDecision input decisionId decidedAt row result)).remainder
          input.organizationId input.mandateId branchId row.policy branch row.mandate.maximumSpendAtomic ≤
      db.remainder input.organizationId input.mandateId branchId row.policy branch
        row.mandate.maximumSpendAtomic := by
  by_cases allowed : result.outcome = .allow
  · obtain ⟨otherId, other, cost, sameId, same, priced, taken⟩ :=
      taken_of_allow wf begun fresh evaluated allowed classes decisionId
    rw [named, Option.some.injEq] at sameId
    subst sameId
    rw [here, Option.some.injEq] at same
    subst same
    rw [reservation, if_pos allowed, ← priced]
    exact taken.paid
  · rw [reservation, if_neg allowed, zero_add]
    refine Db.remainder_anti (fun chosen => ?_) ?_
    · exact (Nat.le_add_right _ _).trans_eq (Db.total_recordAdmission fresh _).symm
    · exact (Nat.le_add_right _ _).trans_eq (Db.total_recordAdmission fresh _).symm

/-- When the least of three remainders, one of them taken without children and unlisted spend, is within
what is left with them. -/
theorem least_le_iff {classes mandate : ℤ} {maximum own listed unlisted children : ℕ}
    (total : own = listed + unlisted) :
    min (min classes (max 0 (maximum - listed : ℤ))) mandate ≤ maximum - ((own + children : ℕ) : ℤ) ↔
      (children = 0 ∧ own = listed ∧ own ≤ maximum) ∨
        min classes mandate ≤ maximum - own - children := by
  omega

/-- What a record of exposure promises, in the store after the call. -/
structure TrueBound (after : Db) (decision : StoredPolicyDecision) (workload : WorkloadEvaluationInput)
    (exposure : ExposureSnapshot) : Prop where
  /-- An allowed reservation is within the maximum. -/
  reservation : decision.result.outcome = .allow →
    exposure.requestReservationAtomic ≤ exposure.maximumExposureAtomic
  /-- What remains is the difference. -/
  remaining : decision.result.outcome = .allow →
    exposure.remainingAuthorityAtomic =
      exposure.maximumExposureAtomic - exposure.requestReservationAtomic
  /-- Later reservations on the branch stay within what remains. -/
  later : ∀ ops, Along step (fun db op => Undiminished db (step db op)) after ops →
    spent step (reservedOn decision.organizationId decision.mandateId workload.branchId) after ops ≤
      exposure.remainingAuthorityAtomic
  /-- The maximum is no more than what the policy evaluation leaves of the branch. -/
  unspent : exposure.maximumExposureAtomic ≤ workload.branchMaximumAtomic - workload.branchSpentAtomic

/-- Nothing was handed to child branches or spent outside the listed classes, and the branch is not
overspent; or the budgets of the classes or of the mandate leave no more than the branch has left. -/
def FitsBranch (db : Db) (organizationId mandateId branchId : String) (bound : MandatePolicyRow)
    (branch : BranchRow) : Prop :=
  let own := db.classSpend organizationId mandateId branchId fun _ => true
  let listed := db.classSpend organizationId mandateId branchId (listedIds bound.policy branch).contains
  let children := db.childAuthority organizationId mandateId branchId
  (children = 0 ∧ own = listed ∧ own ≤ branch.maximumSpendAtomic) ∨
    min (db.classRemainder organizationId mandateId branchId bound.policy branch)
      (max 0 (bound.mandate.maximumSpendAtomic - db.countedSpend organizationId mandateId : ℤ)) ≤
        branch.maximumSpendAtomic - own - children

instance (db : Db) (organizationId mandateId branchId : String) (bound : MandatePolicyRow)
    (branch : BranchRow) : Decidable (FitsBranch db organizationId mandateId branchId bound branch) :=
  inferInstanceAs (Decidable (_ ∨ _))

/-- The same of the branch and the mandate in the store. -/
def ExposureFits (db : Db) (organizationId mandateId branchId : String) : Prop :=
  ∃ bound branch, db.mandatePolicy organizationId mandateId = some bound ∧
    db.branch organizationId mandateId branchId = some branch ∧
    FitsBranch db organizationId mandateId branchId bound branch

/-- **When a record of exposure is a true bound.** In every state of the store, for every call that
records a decision on an authorised branch. -/
theorem exposure_true_iff (ops : List Op) (op : Op) {decision : StoredPolicyDecision}
    {workload : WorkloadEvaluationInput} (records : Records (run step Db.empty ops) op decision)
    (given : decision.input.workload = some workload) (authorised : workload.branchAuthorized = true) :
    (∃ exposure, decision.input.exposure = some exposure ∧
      TrueBound (step (run step Db.empty ops) op) decision workload exposure) ↔
        ExposureFits (run step Db.empty ops) decision.organizationId decision.mandateId
          workload.branchId := by
  have wf := wellFormed_run ops
  obtain ⟨unpaid, configured⟩ := exposure_invariants ops
  generalize run step Db.empty ops = db at records wf unpaid configured ⊢
  obtain ⟨decisionId, input, decidedAt, row, result, reply, begun, fresh, evaluated, rfl, after, commit⟩ :=
    records.admission
  have decided := evaluated
  simp only [Db.evaluateAdmission, bind_unit_eq_ok] at decided
  have valid := validatePolicy_of_evaluatePolicy decided.2
  obtain ⟨scope, read, rfl, named, _, branches, usages, children⟩ := readScope_of_workload given
  obtain ⟨branch, found, samePolicy, sameVersion⟩ := WorkloadScope.branch_of_authorized authorised
  have here : db.branch input.organizationId input.mandateId scope.branchId = some branch :=
    branches ▸ found
  have classes : row.policy.workloadClasses ≠ [] := by
    obtain ⟨policy, published, classes⟩ := configured _ _ _ _ here
    rw [samePolicy, sameVersion, (Db.mandatePolicy_eq_some.mp begun.found).2,
      Option.some.injEq] at published
    rwa [published]
  set exposure := exposureSnapshot row.policy branch scope row.mandate.maximumSpendAtomic
    (db.countersAt input decidedAt).mandateSpentAtomic (reservation input result) with snapshot
  have recorded : (db.newDecision input decisionId decidedAt row result).input.exposure =
      some exposure := by
    simp only [Db.newDecision, admissionDecision, read, Option.bind_eq_bind, Option.bind_some, found]
    exact if_pos authorised
  have maximum : exposure.maximumExposureAtomic = _ :=
    exposureSnapshot_maximum wf valid branch scope usages row.mandate.maximumSpendAtomic
      (db.countersAt input decidedAt).mandateSpentAtomic (reservation input result)
  have counted : (db.countersAt input decidedAt).mandateSpentAtomic =
      db.countedSpend input.organizationId input.mandateId := rfl
  rw [counted] at maximum
  have evaluatedMaximum : (scope.evaluationInput input row.mandate).branchMaximumAtomic =
      branch.maximumSpendAtomic := by
    simp only [WorkloadScope.evaluationInput, found, Option.map_some, Option.getD_some]
  have evaluatedSpend : (scope.evaluationInput input row.mandate).branchSpentAtomic =
      ((db.classSpend input.organizationId input.mandateId scope.branchId fun _ => true) +
        db.childAuthority input.organizationId input.mandateId scope.branchId : ℕ) := by
    simp only [WorkloadScope.evaluationInput, WorkloadScope.branchSpentAtomic, usages,
      Db.sum_usage_eq wf, children]
  have unspent_iff : exposure.maximumExposureAtomic ≤
      (scope.evaluationInput input row.mandate).branchMaximumAtomic -
        (scope.evaluationInput input row.mandate).branchSpentAtomic ↔
      FitsBranch db input.organizationId input.mandateId scope.branchId row branch := by
    rw [evaluatedMaximum, evaluatedSpend, maximum]
    exact least_le_iff (Db.classSpend_split (listedIds row.policy branch).contains)
  constructor
  · rintro ⟨other, same, bound⟩
    rw [recorded, Option.some.injEq] at same
    subst same
    exact ⟨row, branch, begun.found, here, unspent_iff.mp bound.unspent⟩
  · rintro ⟨bound, other, joined, same, fits⟩
    obtain rfl : row = bound := Option.some.inj (begun.found.symm.trans joined)
    obtain rfl : branch = other := Option.some.inj (here.symm.trans same)
    -- The remainder before the call is within the maximum, and it pays for the reservation.
    have paid := reservation_paid wf begun fresh evaluated classes named here decisionId
    rw [← after] at paid
    have within : db.remainder input.organizationId input.mandateId scope.branchId row.policy branch
        row.mandate.maximumSpendAtomic ≤ exposure.maximumExposureAtomic := by
      have counts := countedSpend_le wf unpaid input.organizationId input.mandateId
      rw [maximum, Db.remainder, Db.mandateRemainder]
      omega
    have positive := (step db op).remainder_nonneg input.organizationId input.mandateId scope.branchId
      row.policy branch row.mandate.maximumSpendAtomic
    have reserves : exposure.requestReservationAtomic = reservation input result := rfl
    have remains : exposure.remainingAuthorityAtomic =
      max 0 (exposure.maximumExposureAtomic - reservation input result) := rfl
    have standing : Standing input.organizationId input.mandateId scope.branchId row.policy branch
        row.mandate.maximumSpendAtomic (step db op) := by
      refine ⟨wf.commit commit, ⟨row.mandate, ?_, rfl⟩, ?_⟩
      · rw [after]
        exact begun.found
      · rw [after]
        exact here
    refine ⟨exposure, recorded, fun _ => ?_, fun _ => ?_, fun later untouched => ?_,
      unspent_iff.mpr fits⟩
    · omega
    · omega
    · have spends := standing.admitted_le_remainder classes untouched
      exact spends.trans (by omega)

end Commits

namespace Sample

/-- A branch of 10 that hands 4 to a child. -/
def delegated : List Op :=
  draft 20 [workloadClass] ++ [.createBranch (branch "root" none 10),
    .createBranch (branch "child" (some "root") 4), move .active]

/-- A branch of 10 that hands out nothing. -/
def undivided : List Op :=
  draft 20 [workloadClass] ++ [.createBranch (branch "root" none 10), move .active]

/-- A request for 1 on the branch. -/
def onRoot : Op := .admitInference "decision" (requestOn (some ("root", "chat")) "first" 1 10)

end Sample

theorem exposure_true_undivided :
    letI := Sample.crypto
    ∃ decision workload, Records (run step Db.empty Sample.undivided) Sample.onRoot decision ∧
      decision.input.workload = some workload ∧ decision.result.outcome = .allow ∧
      ∃ exposure, decision.input.exposure = some exposure ∧
        TrueBound (step (run step Db.empty Sample.undivided) Sample.onRoot) decision workload exposure := by
  let := Sample.crypto
  obtain ⟨decision, records, shown⟩ := @records_of_new _ (run step Db.empty Sample.undivided)
    Sample.onRoot ("org", "decision") (fun decision => decision.organizationId = "org" ∧
      decision.mandateId = "mandate" ∧ decision.result.outcome = .allow ∧
      decision.input.workload.any (fun workload => workload.branchAuthorized ∧
        workload.branchId = "root")) (by decide +kernel) (by decide +kernel)
  obtain ⟨organization, mandate, allowed, seen⟩ := of_decide_eq_true shown
  obtain ⟨workload, given, meets⟩ := (Option.any_eq_true _ _).mp seen
  obtain ⟨authorised, named⟩ := of_decide_eq_true meets
  refine ⟨decision, workload, records, given, allowed,
    (exposure_true_iff Sample.undivided Sample.onRoot records given authorised).mpr ?_⟩
  rw [organization, mandate, named]
  have fits : ((run step Db.empty Sample.undivided).mandatePolicy "org" "mandate").any (fun bound =>
      ((run step Db.empty Sample.undivided).branch "org" "mandate" "root").any fun branch =>
        FitsBranch (run step Db.empty Sample.undivided) "org" "mandate" "root" bound branch) = true := by
    decide +kernel
  obtain ⟨bound, joined, rest⟩ := (Option.any_eq_true _ _).mp fits
  obtain ⟨branch, found, holds⟩ := (Option.any_eq_true _ _).mp rest
  exact ⟨bound, branch, joined, found, of_decide_eq_true holds⟩

/-- **The recorded maximum is not a bound.** A branch with maximum 10 has handed 4 to a child: the policy
evaluation counts 4 as spent, the record says that 10 may be spent. -/
theorem not_exposure_true :
    letI := Sample.crypto
    ∃ decision workload exposure, Records (run step Db.empty Sample.delegated) Sample.onRoot decision ∧
      decision.input.workload = some workload ∧ workload.branchAuthorized = true ∧
      workload.branchMaximumAtomic = 10 ∧ workload.branchSpentAtomic = 4 ∧
      decision.input.exposure = some exposure ∧ exposure.maximumExposureAtomic = 10 ∧
      ¬ TrueBound (step (run step Db.empty Sample.delegated) Sample.onRoot) decision workload exposure := by
  let := Sample.crypto
  obtain ⟨decision, records, shown⟩ := @records_of_new _ (run step Db.empty Sample.delegated)
    Sample.onRoot ("org", "decision") (fun decision =>
      decision.input.workload.any (fun workload => workload.branchAuthorized ∧
        workload.branchMaximumAtomic = 10 ∧ workload.branchSpentAtomic = 4) ∧
      decision.input.exposure.any (fun exposure => exposure.maximumExposureAtomic = 10))
      (by decide +kernel) (by decide +kernel)
  obtain ⟨seen, recorded⟩ := of_decide_eq_true shown
  obtain ⟨workload, given, meets⟩ := (Option.any_eq_true _ _).mp seen
  obtain ⟨authorised, maximum, spent⟩ := of_decide_eq_true meets
  obtain ⟨exposure, snapshot, most⟩ := (Option.any_eq_true _ _).mp recorded
  have most := of_decide_eq_true most
  refine ⟨decision, workload, exposure, records, given, authorised, maximum, spent, snapshot, most,
    fun bound => ?_⟩
  have unspent := bound.unspent
  omega

end FuseControlPlane.Persistence
