/-
The budget of a tree of branches.

A branch may spend its maximum itself or hand part of it to child branches. Admission counts both, so
it keeps a branch within its maximum; `createBranch` counts only what was handed out before.

* `branches_bounded`: in every run in which each child branch is granted out of what its parent has
  neither handed out nor spent, every branch stays within its maximum, and so does the whole subtree
  under it.
* `branch_overdrawn`: without that, a branch can hand out what it has spent.
-/

import FuseControlPlane.Foundation.Delegation
import FuseControlPlane.Persistence.Limits

set_option linter.unusedSectionVars false

namespace FuseControlPlane.Persistence

open Foundation Foundation.JavaScript Domain Identity FuseControlPlane.Core Program

/-! ### The spend of a branch -/

namespace Db

variable (db : Db) (organizationId mandateId : String)

/-- The committed spend of the executions on a branch itself. -/
def branchSpend (branchId : String) : ℕ :=
  db.inferenceExecutions.total fun row =>
    if row.ofMandate organizationId mandateId && row.branchId = some branchId then row.committed
    else 0

end Db

theorem onBranch_fixed (organizationId mandateId branchId : String) (old new : ExecutionRow)
    (preserves : ExecutionUpdate.Preserves old new) :
    (new.ofMandate organizationId mandateId && decide (new.branchId = some branchId)) =
      (old.ofMandate organizationId mandateId && decide (old.branchId = some branchId)) := by
  rw [preserves.ofMandate, preserves.branchId]

/-- The groups of a label that every relevant row has add up to the whole. -/
theorem sum_groups {rows : List ExecutionRow} (weight : ExecutionRow → ℕ)
    (labelled : ∀ row ∈ rows, row.workloadClass = none → weight row = 0) :
    ((rows.filterMap (·.workloadClass)).dedup.map fun workloadClass =>
      ((rows.filter fun row => row.workloadClass = some workloadClass).map weight).sum).sum =
      (rows.map weight).sum := by
  have whole : (rows.map weight).sum =
      ((rows.filter fun row => row.workloadClass.isSome).map weight).sum := by
    rw [Table.sum_map_filter]
    refine congrArg List.sum (List.map_congr_left fun row member => ?_)
    cases named : row.workloadClass with
    | none => simp [labelled row member named]
    | some _ => simp
  have grouped := Table.sum_map_group (fun row : ExecutionRow => row.workloadClass.getD "") weight
    (List.nodup_dedup (rows.filterMap (·.workloadClass)))
    (rows.filter fun row => row.workloadClass.isSome) (by
      intro row member
      obtain ⟨inRows, named⟩ := List.mem_filter.mp member
      obtain ⟨workloadClass, same⟩ := Option.isSome_iff_exists.mp named
      rw [List.mem_dedup, List.mem_filterMap]
      exact ⟨row, inRows, by rw [same]; rfl⟩)
  rw [whole, ← grouped]
  refine congrArg List.sum (List.map_congr_left fun workloadClass _ => ?_)
  rw [Table.sum_map_filter, Table.sum_map_filter]
  refine congrArg List.sum (List.map_congr_left fun row member => ?_)
  cases row.workloadClass <;> simp

/-- What the usage query counts of a row is what is committed. -/
theorem usageSpend_eq {db : Db} (wf : WellFormed db) {row : ExecutionRow}
    (member : row ∈ db.inferenceExecutions) : row.usageSpend = row.committed := by
  have known : db.execution row.organizationId row.requestId = some row := Table.find?_of_mem member
  unfold ExecutionRow.usageSpend ExecutionRow.committed
  cases status : row.status with
  | denied => simp [(wf.clean known (.inr status)).1]
  | executing | reconciliationHold | completed | failed => simp

/-- The usage of all workload classes is the spend of the branch, when every request that ran on it
names a class. -/
theorem sum_workloadUsage {db : Db} (wf : WellFormed db) {organizationId mandateId branchId : String}
    (labelled : ∀ row ∈ db.inferenceExecutions, row.ofMandate organizationId mandateId = true →
      row.branchId = some branchId → row.status ≠ .denied → row.workloadClass.isSome = true) :
    ((db.workloadUsage organizationId mandateId branchId).map (·.spentAtomic)).sum =
      db.branchSpend organizationId mandateId branchId := by
  have grouped := @sum_groups (db.branchExecutions organizationId mandateId branchId)
    ExecutionRow.usageSpend (by
      intro row member unnamed
      simp only [Db.branchExecutions, Db.executionsOf, List.mem_filter, decide_eq_true_eq] at member
      obtain ⟨⟨inTable, owned⟩, onBranch⟩ := member
      have denied : row.status = .denied := by
        by_contra ran
        have named := labelled row inTable owned onBranch ran
        rw [unnamed] at named
        cases named
      rw [usageSpend_eq wf inTable, ExecutionRow.committed, denied])
  have usages : (db.workloadUsage organizationId mandateId branchId).map (·.spentAtomic) =
      ((db.branchExecutions organizationId mandateId branchId).filterMap
        (·.workloadClass)).dedup.map fun workloadClass =>
          (((db.branchExecutions organizationId mandateId branchId).filter fun row =>
            row.workloadClass = some workloadClass).map ExecutionRow.usageSpend).sum :=
    List.map_map
  rw [usages, grouped, Db.branchExecutions, Table.sum_map_filter, Db.sum_executionsOf]
  refine Table.total_congr fun row member => ?_
  rw [usageSpend_eq wf member]
  by_cases owned : row.ofMandate organizationId mandateId = true
  · simp [owned]
  · simp [owned]

/-! ### What an admitted request leaves of its branch -/

section Commits

variable [NodeCrypto] {db after : Db} {op : Op} {reply : Reply}

/-- A request that is evaluated on a branch names it and a class, and the evaluation sees what the store
has of them. -/
theorem readScope_of_workload {input : AdmitInferenceInput} {mandate : MandateRow}
    {workload : WorkloadEvaluationInput}
    (given : (db.readScope input).map (·.evaluationInput input mandate) = some workload) :
    ∃ scope, db.readScope input = some scope ∧ workload = scope.evaluationInput input mandate ∧
      input.branchId = some scope.branchId ∧ input.workloadClass = some scope.workloadClass ∧
      scope.branch = db.branch input.organizationId input.mandateId scope.branchId ∧
      scope.usageByClass = db.workloadUsage input.organizationId input.mandateId scope.branchId ∧
      scope.childAuthority = db.childAuthority input.organizationId input.mandateId scope.branchId := by
  obtain ⟨scope, read, rfl⟩ := Option.map_eq_some_iff.mp given
  obtain ⟨⟨branchId, workloadClass⟩, named, rfl⟩ := Option.map_eq_some_iff.mp read
  have names : input.branchId = some branchId ∧ input.workloadClass = some workloadClass := by
    unfold AdmitInferenceInput.scope at named
    split at named
    · next one two =>
      split at named
      · cases named
        exact ⟨one, two⟩
      · cases named
    · cases named
  exact ⟨_, read, rfl, names.1, names.2, rfl, rfl, rfl⟩

/-- An authorised branch exists, and is bound to the policy of the mandate. -/
theorem WorkloadScope.branch_of_authorized {scope : WorkloadScope} {input : AdmitInferenceInput}
    {mandate : MandateRow} (authorised : scope.branchAuthorized input mandate = true) :
    ∃ branch, scope.branch = some branch ∧ branch.policyId = mandate.policyId ∧
      branch.policyVersion = mandate.policyVersion := by
  unfold branchAuthorized at authorised
  cases found : scope.branch with
  | none => simp [found] at authorised
  | some branch =>
    rw [found] at authorised
    obtain ⟨_, policy, version⟩ := of_decide_eq_true authorised
    exact ⟨branch, rfl, policy, version⟩

/-- The branch an admitted request runs on, and what was left of it. -/
theorem admission_branch {input : AdmitInferenceInput} {decidedAt : ℤ} {row : MandatePolicyRow}
    (admissible : Admissible row.policy (admissionEvaluation input decidedAt row.mandate
      (db.isAssigned input) (db.countersAt input decidedAt) (db.readScope input)))
    (classes : row.policy.workloadClasses ≠ []) :
    ∃ branchId branch, input.branchId = some branchId ∧ input.workloadClass.isSome = true ∧
      db.branch input.organizationId input.mandateId branchId = some branch ∧
      ((((db.workloadUsage input.organizationId input.mandateId branchId).map
          (·.spentAtomic)).sum +
        db.childAuthority input.organizationId input.mandateId branchId : ℕ) : ℤ) +
          input.estimatedCostAtomic ≤ branch.maximumSpendAtomic := by
  obtain ⟨workload, given, authorised, within⟩ := admissible.branch classes
  obtain ⟨scope, _, rfl, branchNamed, classNamed, branches, usages, children⟩ :=
    readScope_of_workload given
  obtain ⟨branch, found, _⟩ := WorkloadScope.branch_of_authorized authorised
  refine ⟨scope.branchId, branch, branchNamed, by rw [classNamed]; rfl, branches ▸ found, ?_⟩
  rw [← usages, ← children]
  simpa [WorkloadScope.evaluationInput, found, WorkloadScope.branchSpentAtomic,
    admissionEvaluation] using within

/-- A commit leaves the branches alone, or creates one and touches nothing else. -/
theorem Commit.branches (commit : Commit db op reply after) :
    after.mandateBranches = db.mandateBranches ∨
      ∃ input row createdAt, op = .createBranch input ∧ BranchGranted db input row ∧
        after = (Write.branch (newBranch input row.mandate createdAt)).apply db := by
  cases commit with
  | branch input row createdAt granted => exact .inr ⟨input, row, createdAt, rfl, granted, rfl⟩
  | held op reply row update =>
    refine .inl ?_
    unfold Db.holdExecution Db.holdMandate
    split
    · split
      · show (if _ then _ else _ : Db).mandateBranches = _
        split <;> rfl
      · rfl
    · rfl
  | resolved input row cost occurredAt after found onHold fresh priced released =>
    cases released <;> exact .inl rfl
  | _ => exact .inl rfl

/-- A mandate keeps its policy unless that is set. -/
theorem Commit.mandatePolicy_kept (commit : Commit db op reply after)
    {organizationId mandateId : String} (keeps : op.setsPolicyOf organizationId mandateId = false)
    {row : MandatePolicyRow} (found : db.mandatePolicy organizationId mandateId = some row) :
    ∃ new, after.mandatePolicy organizationId mandateId = some new ∧ new.policy = row.policy := by
  obtain ⟨mandate, policy⟩ := Db.mandatePolicy_eq_some.mp found
  obtain ⟨new, there, kept⟩ := commit.mandate_kept mandate
  obtain ⟨rfl, rfl⟩ := Db.key_of_mandate mandate
  obtain ⟨samePolicy, sameVersion⟩ := kept.policy keeps
  refine ⟨⟨new, row.policy⟩, Db.mandatePolicy_eq_some.mpr ⟨there, ?_⟩, rfl⟩
  rw [samePolicy, sameVersion]
  exact commit.policy_kept policy

/-! ### The invariant -/

/-- The branch a call creates. -/
def Op.branchInput : Op → Option CreateMandateBranchInput
  | createBranch input => some input
  | _ => none

/-- A child branch is granted out of what its parent has neither handed out nor spent. -/
def GrantsWithin (organizationId mandateId : String) (db : Db) (op : Op) : Prop :=
  ∀ input ∈ op.branchInput,
    input.organizationId = organizationId → input.mandateId = mandateId →
    ∀ row ∈ db.mandate organizationId mandateId, row.state = .draft ∨ row.state = .paused →
    ∀ parentId ∈ input.parentBranchId, ∀ parent ∈ db.branch organizationId mandateId parentId,
      input.maximumSpendAtomic + db.childAuthority organizationId mandateId parentId +
        db.branchSpend organizationId mandateId parentId ≤ parent.maximumSpendAtomic

instance (organizationId mandateId : String) (db : Db) (op : Op) :
    Decidable (GrantsWithin organizationId mandateId db op) :=
  inferInstanceAs (Decidable (∀ input ∈ op.branchInput, _ → _ →
    ∀ row ∈ db.mandate organizationId mandateId, _ → ∀ parentId ∈ input.parentBranchId,
      ∀ parent ∈ db.branch organizationId mandateId parentId, _))

/-- The branches of a mandate are a forest, its requests ran on them, and each branch is within its
maximum. -/
structure BranchesFit (organizationId mandateId : String) (db : Db) : Prop where
  /-- With workload classes, a request that was not denied ran on a branch and in a class. -/
  placed : ∀ {requestId : String} {row : ExecutionRow},
    db.execution organizationId requestId = some row → row.mandateId = mandateId →
    row.status ≠ .denied →
    ∃ bound, db.mandatePolicy organizationId mandateId = some bound ∧
      (bound.policy.workloadClasses ≠ [] → row.workloadClass.isSome = true ∧
        ∃ branchId, row.branchId = some branchId ∧
          (db.branch organizationId mandateId branchId).isSome = true)
  /-- A mandate with branches has workload classes. -/
  configured : ∀ {branchId : String} {branch : BranchRow},
    db.branch organizationId mandateId branchId = some branch →
    ∃ bound, db.mandatePolicy organizationId mandateId = some bound ∧
      bound.policy.workloadClasses ≠ []
  /-- A parent is a branch. -/
  rooted : ∀ {branchId parentId : String} {branch : BranchRow},
    db.branch organizationId mandateId branchId = some branch →
    branch.parentBranchId = some parentId →
    (db.branch organizationId mandateId parentId).isSome = true
  /-- Parents come before their children. -/
  ranked : ∃ rank : String → ℕ, ∀ {branchId parentId : String} {branch : BranchRow},
    db.branch organizationId mandateId branchId = some branch →
    branch.parentBranchId = some parentId → rank parentId < rank branchId
  within : ∀ {branchId : String} {branch : BranchRow},
    db.branch organizationId mandateId branchId = some branch →
    db.branchSpend organizationId mandateId branchId +
      db.childAuthority organizationId mandateId branchId ≤ branch.maximumSpendAtomic

namespace BranchesFit

variable {organizationId mandateId : String}

theorem empty : BranchesFit organizationId mandateId Db.empty :=
  ⟨nofun, nofun, nofun, ⟨fun _ => 0, nofun⟩, nofun⟩

/-- Every request that ran on a branch names a class. -/
theorem labelled (fit : BranchesFit organizationId mandateId db) {branchId : String}
    {branch : BranchRow} (found : db.branch organizationId mandateId branchId = some branch) :
    ∀ row ∈ db.inferenceExecutions, row.ofMandate organizationId mandateId = true →
      row.branchId = some branchId → row.status ≠ .denied → row.workloadClass.isSome = true := by
  intro row member owned _ ran
  obtain ⟨rfl, rfl⟩ := of_decide_eq_true owned
  obtain ⟨bound, here, classes⟩ := fit.configured found
  obtain ⟨same, there, placed⟩ := fit.placed (Table.find?_of_mem member) rfl ran
  rw [here, Option.some.injEq] at there
  subst there
  exact (placed classes).1

/-- A branch that does not exist has no spend. -/
theorem branchSpend_of_unknown (fit : BranchesFit organizationId mandateId db)
    {bound : MandatePolicyRow} (here : db.mandatePolicy organizationId mandateId = some bound)
    (classes : bound.policy.workloadClasses ≠ []) {branchId : String}
    (unknown : db.branch organizationId mandateId branchId = none) :
    db.branchSpend organizationId mandateId branchId = 0 := by
  refine Table.total_eq_zero fun row member => ?_
  split
  · next onBranch =>
    simp only [Bool.and_eq_true, decide_eq_true_eq] at onBranch
    obtain ⟨rfl, rfl⟩ := of_decide_eq_true onBranch.1
    by_cases denied : row.status = .denied
    · rw [ExecutionRow.committed, denied]
    · obtain ⟨same, there, placed⟩ := fit.placed (Table.find?_of_mem member) rfl denied
      rw [here, Option.some.injEq] at there
      subst there
      obtain ⟨_, other, named, exists_⟩ := placed classes
      rw [onBranch.2, Option.some.injEq] at named
      rw [← named, unknown] at exists_
      cases exists_
  · rfl

/-- A branch that does not exist has no children. -/
theorem childAuthority_of_unknown (fit : BranchesFit organizationId mandateId db)
    {branchId : String} (unknown : db.branch organizationId mandateId branchId = none) :
    db.childAuthority organizationId mandateId branchId = 0 := by
  refine Table.total_eq_zero fun row member => if_neg ?_
  rintro ⟨rfl, rfl, child⟩
  have exists_ := fit.rooted (Table.find?_of_mem member) child
  rw [unknown] at exists_
  cases exists_

/-- A request that is recorded adds nothing to a branch, or fits in what is left of it. -/
theorem fits (fit : BranchesFit organizationId mandateId db) (wf : WellFormed db)
    {input : AdmitInferenceInput} {decidedAt : ℤ} {bound : MandatePolicyRow}
    {result : PolicyDecisionResult} (begun : Begun db input decidedAt bound)
    (evaluated : db.evaluateAdmission input decidedAt bound = .ok result) {branchId : String}
    {branch : BranchRow} (found : db.branch organizationId mandateId branchId = some branch)
    (decisionId : String) :
    let onBranch := fun row : ExecutionRow =>
      if row.ofMandate organizationId mandateId && row.branchId = some branchId then row.committed
      else 0
    let execution := admittedExecution input decidedAt
      (db.newDecision input decisionId decidedAt bound result)
    onBranch execution = 0 ∨
      (db.inferenceExecutions.total onBranch : ℤ) + onBranch execution ≤
        branch.maximumSpendAtomic - db.childAuthority organizationId mandateId branchId := by
  intro onBranch execution
  by_cases here : execution.ofMandate organizationId mandateId = true ∧
      execution.branchId = some branchId
  · obtain ⟨rfl, rfl⟩ : input.organizationId = organizationId ∧ input.mandateId = mandateId :=
      of_decide_eq_true here.1
    have counted : onBranch execution = execution.committed :=
      if_pos (by simp only [here.1, here.2, decide_true, Bool.and_self])
    rcases newExecution_status decisionId evaluated with ⟨denied, _⟩ | ⟨running, admissible, reserved⟩
    · refine .inl ?_
      rw [counted, ExecutionRow.committed, denied]
    · refine .inr ?_
      obtain ⟨same, reads, classes⟩ := fit.configured found
      rw [begun.found, Option.some.injEq] at reads
      subst reads
      obtain ⟨other, row, named, _, known, room⟩ := admission_branch admissible classes
      obtain rfl : branchId = other := Option.some.inj (here.2.symm.trans named)
      rw [found, Option.some.injEq] at known
      subst known
      rw [sum_workloadUsage wf (fit.labelled found)] at room
      have committed : (execution.committed : ℤ) = input.estimatedCostAtomic := by
        rw [ExecutionRow.committed, running]
        exact reserved
      rw [counted, committed]
      show (db.branchSpend input.organizationId input.mandateId branchId : ℤ) + _ ≤ _
      omega
  · refine .inl (if_neg fun both => here ?_)
    simpa only [Bool.and_eq_true, decide_eq_true_eq] using both

/-- A commit that creates no branch of the mandate keeps the invariant. -/
theorem of_sameBranches (fit : BranchesFit organizationId mandateId db) (wf : WellFormed db)
    (commit : Commit db op reply after)
    (branches : ∀ branchId, after.branch organizationId mandateId branchId =
      db.branch organizationId mandateId branchId)
    (children : ∀ branchId, after.childAuthority organizationId mandateId branchId =
      db.childAuthority organizationId mandateId branchId)
    (within : SettlesWithin db op) (keeps : op.setsPolicyOf organizationId mandateId = false) :
    BranchesFit organizationId mandateId after := by
  refine ⟨?_, ?_, ?_, ?_, ?_⟩
  · intro requestId row found owned ran
    simp only [branches]
    rcases (commit.moved wf).origin found ran with ⟨old, known, preserves, ranBefore⟩ |
      ⟨decisionId, input, decidedAt, bound, result, key, begun, rfl, admissible⟩
    · obtain ⟨bound, here, placed⟩ :=
        fit.placed known (preserves.mandateId.symm.trans owned) ranBefore
      obtain ⟨new, there, policy⟩ := commit.mandatePolicy_kept keeps here
      refine ⟨new, there, fun classes => ?_⟩
      rw [preserves.workloadClass, preserves.branchId]
      exact placed (policy ▸ classes)
    · obtain ⟨rfl, _⟩ := Prod.mk.inj key
      obtain rfl : input.mandateId = mandateId := owned
      obtain ⟨new, there, policy⟩ := commit.mandatePolicy_kept keeps begun.found
      refine ⟨new, there, fun classes => ?_⟩
      obtain ⟨branchId, branch, named, labelled, exists_, _⟩ :=
        admission_branch admissible (policy ▸ classes)
      exact ⟨labelled, branchId, named, by rw [exists_]; rfl⟩
  · intro branchId branch found
    rw [branches] at found
    obtain ⟨bound, here, classes⟩ := fit.configured found
    obtain ⟨new, there, policy⟩ := commit.mandatePolicy_kept keeps here
    exact ⟨new, there, policy ▸ classes⟩
  · intro branchId parentId branch found child
    rw [branches] at found ⊢
    exact fit.rooted found child
  · obtain ⟨rank, ranked⟩ := fit.ranked
    exact ⟨rank, fun found child => ranked (by rwa [branches] at found) child⟩
  · intro branchId branch found
    rw [branches] at found
    rw [children]
    have bounded := fit.within found
    have spent : (after.branchSpend organizationId mandateId branchId : ℤ) ≤
        branch.maximumSpendAtomic - db.childAuthority organizationId mandateId branchId := by
      refine (commit.moved wf).total_le
        (shrinks_committed (onBranch_fixed organizationId mandateId branchId)) within ?_ ?_
      · show (db.branchSpend organizationId mandateId branchId : ℤ) ≤ _
        omega
      · intro decisionId input decidedAt bound result _ begun evaluated execution
        exact fit.fits wf begun evaluated found decisionId
    omega

/-- A new branch is handed its maximum by its parent. -/
theorem childAuthority_newBranch {input : CreateMandateBranchInput} {bound : MandatePolicyRow}
    (createdAt : ℤ) (granted : BranchGranted db input bound) (branchId : String) :
    ((Write.branch (newBranch input bound.mandate createdAt)).apply db).childAuthority
        organizationId mandateId branchId =
      db.childAuthority organizationId mandateId branchId +
        if input.organizationId = organizationId ∧ input.mandateId = mandateId ∧
          input.parentBranchId = some branchId then input.maximumSpendAtomic.toNat else 0 := by
  have absent : db.mandateBranches.find? (Keyed.key (newBranch input bound.mandate createdAt)) =
      none := granted.fresh
  exact Table.total_put_new absent _

/-- A new branch keeps the invariant, if its parent has not spent what it is granted. -/
theorem of_newBranch (fit : BranchesFit organizationId mandateId db)
    {input : CreateMandateBranchInput} {bound : MandatePolicyRow} {createdAt : ℤ}
    (granted : BranchGranted db input bound)
    (own : input.organizationId = organizationId ∧ input.mandateId = mandateId)
    (grants : GrantsWithin organizationId mandateId db (.createBranch input)) :
    BranchesFit organizationId mandateId
      ((Write.branch (newBranch input bound.mandate createdAt)).apply db) := by
  obtain ⟨rfl, rfl⟩ := own
  have branches : ∀ branchId, ((Write.branch (newBranch input bound.mandate createdAt)).apply
      db).branch input.organizationId input.mandateId branchId =
        if branchId = input.id then some (newBranch input bound.mandate createdAt)
        else db.branch input.organizationId input.mandateId branchId := by
    intro branchId
    simp [newBranch, unsignedBranch]
  have kept : ∀ {branchId}, (db.branch input.organizationId input.mandateId branchId).isSome =
      true → (((Write.branch (newBranch input bound.mandate createdAt)).apply db).branch
        input.organizationId input.mandateId branchId).isSome = true := by
    intro branchId exists_
    rw [branches]
    split
    · rfl
    · exact exists_
  have notNew : ∀ {branchId}, (db.branch input.organizationId input.mandateId branchId).isSome =
      true → branchId ≠ input.id := by
    rintro branchId exists_ rfl
    rw [granted.fresh] at exists_
    cases exists_
  refine ⟨?_, ?_, ?_, ?_, ?_⟩
  · intro requestId row found owned ran
    obtain ⟨same, here, placed⟩ := fit.placed found owned ran
    refine ⟨same, here, fun classes => ?_⟩
    obtain ⟨labelled, branchId, named, exists_⟩ := placed classes
    exact ⟨labelled, branchId, named, kept exists_⟩
  · intro branchId branch found
    rw [branches] at found
    split at found
    · exact ⟨bound, granted.found, granted.configured⟩
    · exact fit.configured found
  · intro branchId parentId branch found child
    refine kept ?_
    rw [branches] at found
    split at found
    · cases found
      obtain ⟨parent, exists_, _⟩ := granted.delegated parentId child
      rw [exists_]
      rfl
    · exact fit.rooted found child
  · obtain ⟨rank, ranked⟩ := fit.ranked
    refine ⟨fun branchId => if branchId = input.id then
      (input.parentBranchId.map fun parentId => rank parentId + 1).getD 0 else rank branchId, ?_⟩
    intro branchId parentId branch found child
    beta_reduce
    rw [branches] at found
    split at found
    · next new =>
      cases found
      have named : input.parentBranchId = some parentId := child
      obtain ⟨parent, exists_, _⟩ := granted.delegated parentId named
      rw [if_neg (notNew (by rw [exists_]; rfl)), if_pos new, named]
      exact Nat.lt_succ_self _
    · next old =>
      rw [if_neg (notNew (fit.rooted found child)), if_neg old]
      exact ranked found child
  · intro branchId branch found
    rw [childAuthority_newBranch createdAt granted]
    show db.branchSpend input.organizationId input.mandateId branchId + _ ≤ _
    rw [branches] at found
    split at found
    · next new =>
      subst new
      rw [fit.branchSpend_of_unknown granted.found granted.configured granted.fresh,
        fit.childAuthority_of_unknown granted.fresh, if_neg]
      · exact Nat.zero_le _
      · rintro ⟨_, _, named⟩
        obtain ⟨parent, exists_, _⟩ := granted.delegated _ named
        exact notNew (by rw [exists_]; rfl) rfl
    · have bounded := fit.within found
      split
      · next child =>
        have room := grants input rfl rfl rfl bound.mandate
          (Db.mandatePolicy_eq_some.mp granted.found).1 granted.unlocked branchId child.2.2 branch found
        have positive := granted.positive
        omega
      · exact bounded

/-- **Every commit that meets the conditions keeps the invariant.** -/
theorem commit (fit : BranchesFit organizationId mandateId db) (wf : WellFormed db)
    (commit : Commit db op reply after) (within : SettlesWithin db op)
    (keeps : op.setsPolicyOf organizationId mandateId = false)
    (grants : GrantsWithin organizationId mandateId db op) :
    BranchesFit organizationId mandateId after := by
  rcases commit.branches with same | ⟨input, bound, createdAt, rfl, granted, rfl⟩
  · exact fit.of_sameBranches wf commit (fun _ => by simp only [Db.branch, same])
      (fun _ => by simp only [Db.childAuthority, same]) within keeps
  · by_cases own : input.organizationId = organizationId ∧ input.mandateId = mandateId
    · exact fit.of_newBranch granted own grants
    · have elsewhere : ¬ (organizationId = input.organizationId ∧ mandateId = input.mandateId) :=
        fun same => own ⟨same.1.symm, same.2.symm⟩
      refine fit.of_sameBranches wf commit (fun branchId => ?_) (fun branchId => ?_) within keeps
      · rw [branch_apply]
        exact if_neg fun same => elsewhere ⟨same.1, same.2.1⟩
      · rw [childAuthority_newBranch createdAt granted, if_neg fun same => own ⟨same.1, same.2.1⟩]
        rfl

end BranchesFit

/-! ### The tree -/

namespace Db

variable (db : Db) (organizationId mandateId : String)

/-- The ids of the branches of a mandate. -/
def branchIds : List String :=
  (db.mandateBranches.rows.filter fun row =>
    row.organizationId = organizationId && row.mandateId = mandateId).map (·.branchId)

def parentOf (branchId : String) : Option String :=
  (db.branch organizationId mandateId branchId).bind (·.parentBranchId)

def maximumOf (branchId : String) : ℕ :=
  ((db.branch organizationId mandateId branchId).map (·.maximumSpendAtomic)).getD 0

/-- The committed spend of a branch and of all branches below it. -/
noncomputable def branchTreeSpend (branchId : String) : ℕ :=
  subtreeSpend (db.branchIds organizationId mandateId).toFinset (db.parentOf organizationId mandateId)
    (db.branchSpend organizationId mandateId) branchId

variable {db organizationId mandateId}

theorem mem_branchIds {branchId : String} : branchId ∈ db.branchIds organizationId mandateId ↔
    (db.branch organizationId mandateId branchId).isSome = true := by
  simp only [branchIds, List.mem_map, List.mem_filter, Bool.and_eq_true, decide_eq_true_eq,
    Option.isSome_iff_exists]
  constructor
  · rintro ⟨row, ⟨member, rfl, rfl⟩, rfl⟩
    exact ⟨row, Table.find?_of_mem member⟩
  · rintro ⟨row, found⟩
    have key : (row.organizationId, row.mandateId, row.branchId) = _ := Table.key_of_find? found
    simp only [Prod.mk.injEq] at key
    exact ⟨row, ⟨Table.mem_of_find? found, key.1, key.2.1⟩, key.2.2⟩

theorem nodup_branchIds : (db.branchIds organizationId mandateId).Nodup := by
  refine List.Nodup.map_on ?_ (List.Nodup.filter _ (List.Nodup.of_map _ db.mandateBranches.unique))
  intro first here second there same
  simp only [List.mem_filter, Bool.and_eq_true, decide_eq_true_eq] at here there
  refine Table.eq_of_key here.1 there.1 ?_
  show (first.organizationId, first.mandateId, first.branchId) = _
  rw [here.2.1, here.2.2, same, ← there.2.1, ← there.2.2]
  rfl

/-- The maxima of the direct children add up to the authority handed out. -/
theorem sum_children (parentId : String) :
    ∑ child ∈ (db.branchIds organizationId mandateId).toFinset with
        db.parentOf organizationId mandateId child = some parentId,
      db.maximumOf organizationId mandateId child =
      db.childAuthority organizationId mandateId parentId := by
  rw [Finset.sum_filter, List.sum_toFinset _ nodup_branchIds, branchIds, List.map_map,
    Table.sum_map_filter]
  refine congrArg List.sum (List.map_congr_left fun row member => ?_)
  by_cases own : row.organizationId = organizationId ∧ row.mandateId = mandateId
  · obtain ⟨rfl, rfl⟩ := own
    have found : db.branch row.organizationId row.mandateId row.branchId = some row :=
      Table.find?_of_mem member
    simp [parentOf, maximumOf, found]
  · have notOwn : ¬ (row.organizationId = organizationId ∧ row.mandateId = mandateId ∧
        row.parentBranchId = some parentId) := fun both => own ⟨both.1, both.2.1⟩
    rw [if_neg (by simpa using own), if_neg notOwn]

end Db

/-- **The budget of a tree of branches.** In every run without `setMandatePolicy` on the mandate, whose
settlements stay within their reservations, and in which each child branch is granted out of what its
parent has neither handed out nor spent: the spend of a branch and the maxima of its direct children
are together within its maximum, and so is the spend of the whole subtree under it. -/
theorem branches_bounded (ops : List Op) {organizationId mandateId : String}
    (conditions : Along step (fun db op => SettlesWithin db op ∧
      op.setsPolicyOf organizationId mandateId = false ∧
      GrantsWithin organizationId mandateId db op) Db.empty ops)
    {branchId : String} {branch : BranchRow}
    (found : (run step Db.empty ops).branch organizationId mandateId branchId = some branch) :
    (run step Db.empty ops).branchSpend organizationId mandateId branchId +
        (run step Db.empty ops).childAuthority organizationId mandateId branchId ≤
          branch.maximumSpendAtomic ∧
      (run step Db.empty ops).branchTreeSpend organizationId mandateId branchId ≤
        branch.maximumSpendAtomic := by
  have fit : BranchesFit organizationId mandateId (run step Db.empty ops) :=
    invariant_of_commits conditions .empty fun wf fit conditions commit =>
      fit.commit wf commit conditions.1 conditions.2.1 conditions.2.2
  refine ⟨fit.within found, ?_⟩
  obtain ⟨rank, ranked⟩ := fit.ranked
  have bounded := @subtree_le String _ ((run step Db.empty ops).branchIds organizationId
    mandateId).toFinset ((run step Db.empty ops).parentOf organizationId mandateId) rank ?_ ?_
    ((run step Db.empty ops).branchSpend organizationId mandateId)
    ((run step Db.empty ops).maximumOf organizationId mandateId) ?_ branchId ?_
  · rw [Db.maximumOf, found] at bounded
    exact bounded
  · intro child _ parent edge
    obtain ⟨row, here, named⟩ := Option.bind_eq_some_iff.mp edge
    exact ranked here named
  · intro child _ parent edge
    obtain ⟨row, here, named⟩ := Option.bind_eq_some_iff.mp edge
    exact List.mem_toFinset.mpr (Db.mem_branchIds.mpr (fit.rooted here named))
  · intro node member
    obtain ⟨row, here⟩ := Option.isSome_iff_exists.mp
      (Db.mem_branchIds.mp (List.mem_toFinset.mp member))
    rw [Db.sum_children, Db.maximumOf, here]
    exact fit.within here
  · exact List.mem_toFinset.mpr (Db.mem_branchIds.mpr (by rw [found]; rfl))

end Commits

namespace Sample

/-- A branch is spent up to its maximum, and then hands all of it to a child. -/
def overdrawn : List Op :=
  draft 20 [workloadClass] ++ [.createBranch (branch "root" none 10), move .active,
    .admitInference "decision" (requestOn (some ("root", "chat")) "first" 10 10), move .paused,
    .createBranch (branch "child" (some "root") 10)]

/-- The child is granted what the parent has left. -/
def shared : List Op :=
  draft 20 [workloadClass] ++ [.createBranch (branch "root" none 10), move .active,
    .admitInference "decision" (requestOn (some ("root", "chat")) "first" 6 10), move .paused,
    .createBranch (branch "child" (some "root") 4)]

end Sample

/-- A branch with maximum 10 has spent 10 and handed out 10. -/
theorem branch_overdrawn :
    letI := Sample.crypto
    let db := run step Db.empty Sample.overdrawn
    (db.branch "org" "mandate" "root").map (·.maximumSpendAtomic) = some 10 ∧
      db.branchSpend "org" "mandate" "root" + db.childAuthority "org" "mandate" "root" = 20 := by
  decide +kernel

theorem branches_bounded_shared :
    letI := Sample.crypto
    let db := run step Db.empty Sample.shared
    db.branchSpend "org" "mandate" "root" + db.childAuthority "org" "mandate" "root" ≤ 10 ∧
      db.branchTreeSpend "org" "mandate" "root" ≤ 10 :=
  @branches_bounded Sample.crypto Sample.shared "org" "mandate" (by decide +kernel) "root"
    (@newBranch Sample.crypto (Sample.branch "root" none 10) (newMandate (Sample.mandate 20)) 0)
    (by decide +kernel)

end FuseControlPlane.Persistence
