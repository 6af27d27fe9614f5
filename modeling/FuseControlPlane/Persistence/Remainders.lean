/-
What is left of a branch, and what later admissions take from it.

Three budgets limit the requests on a branch: those of its workload classes, its own maximum, and the
maximum of the mandate. Each leaves a remainder, a function of the committed spend.

* `Db.classSpend`: the committed spend on a branch in chosen workload classes. The usage query reports it
  (`spentOn_eq`, `sum_usage_eq`).
* `Db.remainder`: the least of the three remainders.
* `Taken`: what one admission on the branch takes. `Standing.step_cases` says that a step takes that or
  nothing, `Taken.paid` and `remainder_anti` that the remainder pays for it.
* `admitted_le_remainder`: in a run that lowers no commitment and leaves branches and policies alone, the
  reservations admitted on the branch come to no more than the remainder at its start.
-/

import FuseControlPlane.Persistence.Branches

set_option linter.unusedSectionVars false

namespace FuseControlPlane.Persistence

open Foundation Foundation.JavaScript Domain Identity FuseControlPlane.Core Program

/-! ### Spend by workload class -/

namespace Db

variable (db : Db) (organizationId mandateId branchId : String)

/-- The committed spend on a branch in the workload classes that are chosen. -/
def classSpend (chosen : String → Bool) : ℕ :=
  db.inferenceExecutions.total fun row =>
    if row.ofMandate organizationId mandateId && row.branchId = some branchId &&
      row.workloadClass.any chosen then row.committed else 0

variable {db organizationId mandateId branchId}

/-- The classes that are chosen and those that are not add up. -/
theorem classSpend_split (chosen : String → Bool) :
    db.classSpend organizationId mandateId branchId (fun _ => true) =
      db.classSpend organizationId mandateId branchId chosen +
        db.classSpend organizationId mandateId branchId fun workloadClass => !chosen workloadClass := by
  rw [classSpend, classSpend, classSpend, ← Table.total_add]
  refine Table.total_congr fun row _ => ?_
  cases row.workloadClass with
  | none => simp
  | some workloadClass => cases here : chosen workloadClass <;> simp [here]

/-- Classes that are named once add up to the classes on the list. -/
theorem sum_classSpend {names : List String} (unique : names.Nodup) :
    (names.map fun name => db.classSpend organizationId mandateId branchId fun other => other = name).sum =
      db.classSpend organizationId mandateId branchId names.contains := by
  induction names with
  | nil => exact (Table.total_eq_zero fun row _ => by cases row.workloadClass <;> simp).symm
  | cons name rest ih =>
    obtain ⟨fresh, unique⟩ := List.nodup_cons.mp unique
    rw [List.map_cons, List.sum_cons, ih unique, classSpend, classSpend, classSpend, ← Table.total_add]
    refine Table.total_congr fun row _ => ?_
    cases row.workloadClass with
    | none => simp
    | some workloadClass =>
      by_cases same : workloadClass = name
      · subst same
        simp [fresh]
      · simp [same]

/-- A sum over the executions on a branch. -/
theorem sum_branchExecutions (weight : ExecutionRow → ℕ) :
    ((db.branchExecutions organizationId mandateId branchId).map weight).sum =
      db.inferenceExecutions.total fun row =>
        if row.ofMandate organizationId mandateId && row.branchId = some branchId then weight row
        else 0 := by
  rw [branchExecutions, Table.sum_map_filter, sum_executionsOf]
  refine Table.total_congr fun row _ => ?_
  cases row.ofMandate organizationId mandateId <;> simp

/-- What the usage query counts in a class is what is committed in it. -/
theorem sum_group_eq (wf : WellFormed db) (workloadClass : String) :
    (((db.branchExecutions organizationId mandateId branchId).filter fun row =>
        row.workloadClass = some workloadClass).map ExecutionRow.usageSpend).sum =
      db.classSpend organizationId mandateId branchId fun other => other = workloadClass := by
  rw [Table.sum_map_filter, sum_branchExecutions, classSpend]
  refine Table.total_congr fun row member => ?_
  rw [usageSpend_eq wf member]
  cases row.workloadClass with
  | none => simp
  | some other =>
    by_cases same : other = workloadClass
    · simp [same]
    · simp [same]

/-- The usage of one class. -/
theorem spentOn_eq (wf : WellFormed db) (scope : WorkloadScope)
    (usages : scope.usageByClass = db.workloadUsage organizationId mandateId branchId)
    (workloadClass : String) :
    scope.spentOn workloadClass =
      db.classSpend organizationId mandateId branchId fun other => other = workloadClass := by
  rw [← sum_group_eq wf, WorkloadScope.spentOn, usages, workloadUsage, List.find?_map]
  generalize db.branchExecutions organizationId mandateId branchId = rows
  cases found : (rows.filterMap (·.workloadClass)).dedup.find? _ with
  | none =>
    have absent : ∀ row ∈ rows, row.workloadClass ≠ some workloadClass := by
      intro row member named
      refine absurd (List.find?_eq_none.mp found workloadClass ?_) (by simp)
      exact List.mem_dedup.mpr (List.mem_filterMap.mpr ⟨row, member, named⟩)
    have nothing : rows.filter (fun row => row.workloadClass = some workloadClass) = [] :=
      List.filter_eq_nil_iff.mpr fun row member => by simpa using absent row member
    rw [nothing]
    rfl
  | some other =>
    obtain rfl : other = workloadClass := by simpa using List.find?_some found
    rfl

/-- The usage of all classes. -/
theorem sum_usage_eq (wf : WellFormed db) :
    ((db.workloadUsage organizationId mandateId branchId).map (·.spentAtomic)).sum =
      db.classSpend organizationId mandateId branchId fun _ => true := by
  have grouped := @sum_groups (db.branchExecutions organizationId mandateId branchId)
    (fun row => if row.workloadClass.isSome then row.usageSpend else 0) (by
      intro row _ unnamed
      simp [unnamed])
  have usages : (db.workloadUsage organizationId mandateId branchId).map (·.spentAtomic) =
      ((db.branchExecutions organizationId mandateId branchId).filterMap
        (·.workloadClass)).dedup.map fun workloadClass =>
          (((db.branchExecutions organizationId mandateId branchId).filter fun row =>
            row.workloadClass = some workloadClass).map fun row =>
              if row.workloadClass.isSome then row.usageSpend else 0).sum := by
    refine List.map_map.trans (List.map_congr_left fun workloadClass _ => ?_)
    refine congrArg List.sum (List.map_congr_left fun row member => ?_)
    rw [of_decide_eq_true (List.mem_filter.mp member).2]
    rfl
  rw [usages, grouped, sum_branchExecutions, classSpend]
  refine Table.total_congr fun row member => ?_
  rw [usageSpend_eq wf member]
  cases row.workloadClass <;> simp

end Db

/-! ### Remainders -/

/-- The workload classes a branch is allowed under a policy. -/
def listedClasses (policy : PolicyVersion) (branch : BranchRow) : List WorkloadClassPolicy :=
  policy.workloadClasses.filter fun configured => branch.allowedWorkloadClasses.contains configured.id

/-- The ids of these classes. -/
def listedIds (policy : PolicyVersion) (branch : BranchRow) : List String :=
  (listedClasses policy branch).map (·.id)

theorem listedIds_contains {policy : PolicyVersion} {branch : BranchRow}
    {configured : WorkloadClassPolicy} (member : configured ∈ listedClasses policy branch) :
    (listedIds policy branch).contains configured.id = true :=
  List.contains_iff_mem.mpr (List.mem_map_of_mem member)

namespace Db

section Remainder

variable (db : Db) (organizationId mandateId branchId : String) (policy : PolicyVersion)
  (branch : BranchRow) (maximum : ℕ)

/-- What is left of the budgets of the allowed classes. -/
def classRemainder : ℤ :=
  ((listedClasses policy branch).map fun configured : WorkloadClassPolicy =>
    max (0 : ℤ) (configured.aggregateBudgetAtomic -
      db.classSpend organizationId mandateId branchId fun other => other = configured.id)).sum

/-- What the allowed classes leave of the maximum of the branch. -/
def lifetimeRemainder : ℤ :=
  max 0 (branch.maximumSpendAtomic -
    db.classSpend organizationId mandateId branchId (listedIds policy branch).contains)

/-- What is left of the maximum of the mandate. -/
def mandateRemainder : ℤ := max 0 (maximum - db.committedSpend organizationId mandateId)

/-- The least of the three remainders. -/
def remainder : ℤ :=
  min (min (db.classRemainder organizationId mandateId branchId policy branch)
    (db.lifetimeRemainder organizationId mandateId branchId policy branch))
    (db.mandateRemainder organizationId mandateId maximum)

theorem classRemainder_nonneg : 0 ≤ db.classRemainder organizationId mandateId branchId policy branch := by
  refine List.sum_nonneg fun value member => ?_
  obtain ⟨configured, _, rfl⟩ := List.mem_map.mp member
  exact le_max_left 0 _

theorem remainder_nonneg :
    0 ≤ db.remainder organizationId mandateId branchId policy branch maximum :=
  le_min (le_min (db.classRemainder_nonneg organizationId mandateId branchId policy branch)
    (le_max_left 0 _)) (le_max_left 0 _)

variable {db organizationId mandateId branchId policy branch maximum} {after : Db}

/-- Where more is committed, less is left. -/
theorem remainder_anti
    (spends : ∀ chosen, db.classSpend organizationId mandateId branchId chosen ≤
      after.classSpend organizationId mandateId branchId chosen)
    (committed : db.committedSpend organizationId mandateId ≤
      after.committedSpend organizationId mandateId) :
    after.remainder organizationId mandateId branchId policy branch maximum ≤
      db.remainder organizationId mandateId branchId policy branch maximum := by
  have classes : after.classRemainder organizationId mandateId branchId policy branch ≤
      db.classRemainder organizationId mandateId branchId policy branch := by
    refine List.sum_le_sum fun configured _ => ?_
    have more := spends fun other => other = configured.id
    omega
  have lifetime := spends (listedIds policy branch).contains
  unfold remainder lifetimeRemainder mandateRemainder
  omega

end Remainder

end Db

/-! ### What an admission takes -/

/-- What one admission on a branch takes: its cost, in one of the allowed classes, with room for it in
each of the three budgets. -/
structure Taken (organizationId mandateId branchId : String) (policy : PolicyVersion)
    (branch : BranchRow) (maximum : ℕ) (db after : Db) (cost : ℕ) : Prop where
  spends : ∃ configured ∈ listedClasses policy branch,
    (∀ chosen, after.classSpend organizationId mandateId branchId chosen =
      db.classSpend organizationId mandateId branchId chosen +
        if chosen configured.id then cost else 0) ∧
    ((db.classSpend organizationId mandateId branchId fun other => other = configured.id : ℕ) : ℤ) +
      cost ≤ configured.aggregateBudgetAtomic
  committed : after.committedSpend organizationId mandateId =
    db.committedSpend organizationId mandateId + cost
  branch : db.classSpend organizationId mandateId branchId (fun _ => true) +
    db.childAuthority organizationId mandateId branchId + cost ≤ branch.maximumSpendAtomic
  mandate : db.committedSpend organizationId mandateId + cost ≤ maximum

/-- One summand pays, and no other grows. -/
theorem sum_add_le_sum {α : Type} {items : List α} {low high : α → ℤ} {price : ℤ} {payer : α}
    (member : payer ∈ items) (le : ∀ item ∈ items, low item ≤ high item)
    (pays : low payer + price ≤ high payer) :
    (items.map low).sum + price ≤ (items.map high).sum := by
  obtain ⟨before, later, rfl⟩ := List.append_of_mem member
  have first : (before.map low).sum ≤ (before.map high).sum :=
    List.sum_le_sum fun item here => le item (List.mem_append_left _ here)
  have second : (later.map low).sum ≤ (later.map high).sum :=
    List.sum_le_sum fun item here => le item (List.mem_append_right _ (List.mem_cons_of_mem _ here))
  simp only [List.map_append, List.map_cons, List.sum_append, List.sum_cons]
  omega

namespace Taken

variable {organizationId mandateId branchId : String} {policy : PolicyVersion} {branch : BranchRow}
  {maximum cost : ℕ} {db after : Db}

/-- **The remainder pays for an admission.** -/
theorem paid (taken : Taken organizationId mandateId branchId policy branch maximum db after cost) :
    cost + after.remainder organizationId mandateId branchId policy branch maximum ≤
      db.remainder organizationId mandateId branchId policy branch maximum := by
  obtain ⟨configured, member, spends, room⟩ := taken.spends
  have classes : after.classRemainder organizationId mandateId branchId policy branch + cost ≤
      db.classRemainder organizationId mandateId branchId policy branch := by
    refine sum_add_le_sum member (fun other _ => ?_) ?_
    · have more := spends fun name => name = other.id
      split at more <;> omega
    · have more := spends fun name => name = configured.id
      rw [if_pos (decide_eq_true rfl)] at more
      omega
  have lifetime := spends (listedIds policy branch).contains
  rw [if_pos (listedIds_contains member)] at lifetime
  have listed := @Db.classSpend_split db organizationId mandateId branchId (listedIds policy branch).contains
  have within := taken.branch
  have committed := taken.committed
  have ceiling := taken.mandate
  unfold Db.remainder Db.lifetimeRemainder Db.mandateRemainder
  omega

end Taken

/-! ### The steps of a run -/

/-- No commitment is lowered, and no branch or policy is changed. -/
structure Undiminished (before after : Db) : Prop where
  commitments : ∀ {organizationId requestId : String} {row : ExecutionRow},
    before.execution organizationId requestId = some row →
    ∃ new, after.execution organizationId requestId = some new ∧ row.committed ≤ new.committed
  branches : ∀ {organizationId mandateId branchId : String} {branch : BranchRow},
    before.branch organizationId mandateId branchId = some branch →
    after.branch organizationId mandateId branchId = some branch
  policies : ∀ {organizationId policyId : String} {version : ℤ} {policy : PolicyVersion},
    before.policy organizationId policyId version = some policy →
    after.policy organizationId policyId version = some policy
  bindings : ∀ {organizationId mandateId : String} {mandate : MandateRow},
    before.mandate organizationId mandateId = some mandate →
    ∃ new, after.mandate organizationId mandateId = some new ∧ new.policyId = mandate.policyId ∧
      new.policyVersion = mandate.policyVersion

section Steps

variable [NodeCrypto] {db after : Db} {op : Op} {reply : Reply}
  {organizationId mandateId branchId : String} {policy : PolicyVersion} {branch : BranchRow}
  {maximum : ℕ}

/-- The amount of a request that is admitted. -/
def Reply.reserved : Reply → ℤ
  | .admission (.execute _ reservedCostAtomic) => reservedCostAtomic
  | _ => 0

/-- The call admits a request that names the branch. -/
def Op.isOn (organizationId mandateId branchId : String) : Op → Bool
  | .admitInference _ input => input.organizationId = organizationId ∧ input.mandateId = mandateId ∧
      input.branchId = some branchId
  | _ => false

/-- What a call reserves on a branch. -/
def reservedOn (organizationId mandateId branchId : String) (db : Db) (op : Op) : ℤ :=
  if op.isOn organizationId mandateId branchId then
    match outcome db op with
    | .ok (reply, _) => reply.reserved
    | .error _ => 0
  else 0

/-- A reply reserves nothing, or it asks for execution. -/
theorem Reply.reserved_cases (reply : Reply) :
    reply.reserved = 0 ∨ ∃ decision, reply = .admission (.execute decision reply.reserved) := by
  cases reply with
  | admission result =>
    cases result with
    | execute decision reserved => exact .inr ⟨decision, rfl⟩
    | _ => exact .inl rfl
  | _ => exact .inl rfl

/-- A call that asks for execution has recorded an allowed request. -/
theorem Commit.admitted_of_execute {decision : StoredPolicyDecision} {reserved : ℤ}
    (commit : Commit db op reply after) (asks : reply = .admission (.execute decision reserved))
    {decisionId : String} {input : AdmitInferenceInput} (called : op = .admitInference decisionId input) :
    ∃ decidedAt row result, Begun db input decidedAt row ∧
      db.execution input.organizationId input.requestId = none ∧
      db.evaluateAdmission input decidedAt row = .ok result ∧ result.outcome = .allow ∧
      after = db.recordAdmission input decidedAt (db.newDecision input decisionId decidedAt row result) ∧
      reserved = input.estimatedCostAtomic := by
  cases commit with
  | admitted decisionId input decidedAt row result begun fresh evaluated =>
    cases called
    simp only [Reply.admission.injEq, admissionReply] at asks
    split at asks
    · next allowed =>
      cases asks
      exact ⟨decidedAt, row, result, begun, fresh, evaluated, allowed, rfl, if_pos allowed⟩
    · cases asks
  | replayed decisionId input result quiet => exact absurd asks (quiet decision reserved)
  | held op reply row update holds quiet found => exact absurd asks (quiet decision reserved)
  | _ => cases called

/-- A recorded request adds its weight to a sum. -/
theorem Db.total_recordAdmission {input : AdmitInferenceInput} {decidedAt : ℤ}
    {decision : StoredPolicyDecision}
    (fresh : db.execution input.organizationId input.requestId = none) (weight : ExecutionRow → ℕ) :
    (db.recordAdmission input decidedAt decision).inferenceExecutions.total weight =
      db.inferenceExecutions.total weight + weight (admittedExecution input decidedAt decision) := by
  have absent : db.inferenceExecutions.find? (Keyed.key (admittedExecution input decidedAt decision)) =
    none := fresh
  exact Table.total_put_new absent weight

/-- A commit that lowers no commitment lowers no sum of them. -/
theorem Moved.le_total {executions : Table ExecutionRow} (moved : Moved db op executions)
    (commitments : ∀ {key : String × String} {row : ExecutionRow},
      db.inferenceExecutions.find? key = some row →
      ∃ new, executions.find? key = some new ∧ row.committed ≤ new.committed)
    {chosen : ExecutionRow → Bool}
    (fixed : ∀ old new, ExecutionUpdate.Preserves old new → chosen new = chosen old) :
    (db.inferenceExecutions.total fun row => if chosen row then row.committed else 0) ≤
      executions.total fun row => if chosen row then row.committed else 0 := by
  cases moved with
  | kept => exact le_rfl
  | updated row update found ran shrinks =>
    have known : db.inferenceExecutions.find? (Keyed.key (update.set row)) = some row := by
      rw [update.key_set]
      exact found
    obtain ⟨new, written, le⟩ := commitments known
    rw [Table.find?_put_self, Option.some.injEq] at written
    subst written
    have exchanged := Table.total_put_existing known fun row => if chosen row then row.committed else 0
    simp only [fixed _ _ (update.set_preserves row)] at exchanged
    split at exchanged <;> omega
  | recorded decisionId input decidedAt row result called begun fresh evaluated =>
    have absent : db.inferenceExecutions.find? (Keyed.key (admittedExecution input decidedAt
        (db.newDecision input decisionId decidedAt row result))) = none := fresh
    rw [Table.total_put_new absent]
    exact Nat.le_add_right _ _

theorem classSpend_fixed (organizationId mandateId branchId : String) (chosen : String → Bool)
    (old new : ExecutionRow) (preserves : ExecutionUpdate.Preserves old new) :
    (new.ofMandate organizationId mandateId && decide (new.branchId = some branchId) &&
        new.workloadClass.any chosen) =
      (old.ofMandate organizationId mandateId && decide (old.branchId = some branchId) &&
        old.workloadClass.any chosen) := by
  rw [preserves.ofMandate, preserves.branchId, preserves.workloadClass]

/-- **What an allowed request takes of its branch**, under a policy with workload classes. -/
theorem taken_of_allow {input : AdmitInferenceInput} {decidedAt : ℤ} {row : MandatePolicyRow}
    {result : PolicyDecisionResult} (wf : WellFormed db) (begun : Begun db input decidedAt row)
    (fresh : db.execution input.organizationId input.requestId = none)
    (evaluated : db.evaluateAdmission input decidedAt row = .ok result)
    (allowed : result.outcome = .allow) (classes : row.policy.workloadClasses ≠ [])
    (decisionId : String) :
    ∃ branchId branch, ∃ cost : ℕ, input.branchId = some branchId ∧
      db.branch input.organizationId input.mandateId branchId = some branch ∧
      (cost : ℤ) = input.estimatedCostAtomic ∧
      Taken input.organizationId input.mandateId branchId row.policy branch
        row.mandate.maximumSpendAtomic db
        (db.recordAdmission input decidedAt (db.newDecision input decisionId decidedAt row result))
        cost := by
  have decided := evaluated
  simp only [Db.evaluateAdmission, bind_unit_eq_ok] at decided
  obtain ⟨workload, given, authorised, within⟩ := (evaluatePolicy_allow decided.2 allowed).branch classes
  obtain ⟨classAllowed, configured, member, same, room⟩ :=
    workloadClass_of_allow decided.2 allowed classes given
  obtain ⟨scope, _, rfl, branchNamed, classNamed, branches, usages, children⟩ :=
    readScope_of_workload given
  obtain ⟨branch, found, _⟩ := WorkloadScope.branch_of_authorized authorised
  simp only [WorkloadScope.evaluationInput, found, Option.map_some, Option.getD_some, Option.any_some,
    WorkloadScope.branchSpentAtomic, usages, Db.sum_usage_eq wf, children] at same within classAllowed
  simp only [WorkloadScope.evaluationInput, Db.spentOn_eq wf scope usages] at room
  rcases newExecution_status decisionId evaluated with ⟨denied, _⟩ | ⟨running, _, reserved⟩
  · exact absurd (denied.symm.trans (if_pos allowed)) fun same => by cases same
  generalize execution : admittedExecution input decidedAt
    (db.newDecision input decisionId decidedAt row result) = recorded at running reserved
  have committed : recorded.committed = recorded.reservedCostAtomic := by
    rw [ExecutionRow.committed, running]
  have owned : recorded.ofMandate input.organizationId input.mandateId = true := by
    rw [← execution]
    exact decide_eq_true ⟨rfl, rfl⟩
  have placed : recorded.branchId = some scope.branchId := by
    rw [← execution]
    exact branchNamed
  have classed : recorded.workloadClass = some configured.id := by
    rw [← execution, same]
    exact classNamed
  have ceiling : RoomFor db input decidedAt row recorded := by
    rcases admission_room wf begun evaluated decisionId with ⟨_, uncounted⟩ | room
    · rw [execution, ExecutionRow.requestCount, running] at uncounted
      simp at uncounted
    · rwa [execution] at room
  refine ⟨scope.branchId, branch, recorded.reservedCostAtomic, branchNamed, branches ▸ found, reserved,
    ⟨configured, ?_, fun chosen => ?_, ?_⟩, ?_, ?_, ?_⟩
  · exact List.mem_filter.mpr ⟨member, by rw [same]; exact classAllowed⟩
  · refine (Db.total_recordAdmission fresh _).trans ?_
    rw [execution, owned, placed, classed, committed]
    simp [Db.classSpend]
  · rw [same, reserved]
    exact room
  · refine (Db.total_recordAdmission fresh _).trans ?_
    rw [execution, owned, committed]
    rfl
  · have total := within
    simp only [admissionEvaluation] at total
    omega
  · have total := ceiling.ceiling
    omega

/-- What the rest of a run relies on: the branch, and the mandate's policy and maximum. -/
structure Standing (organizationId mandateId branchId : String) (policy : PolicyVersion)
    (branch : BranchRow) (maximum : ℕ) (db : Db) : Prop where
  wf : WellFormed db
  bound : ∃ mandate, db.mandatePolicy organizationId mandateId = some ⟨mandate, policy⟩ ∧
    mandate.maximumSpendAtomic = maximum
  found : db.branch organizationId mandateId branchId = some branch

namespace Standing

/-- A commit that leaves branches and policies alone keeps it. -/
theorem commit (standing : Standing organizationId mandateId branchId policy branch maximum db)
    (commit : Commit db op reply after) (undiminished : Undiminished db after) :
    Standing organizationId mandateId branchId policy branch maximum after := by
  obtain ⟨mandate, joined, rfl⟩ := standing.bound
  obtain ⟨here, published⟩ := Db.mandatePolicy_eq_some.mp joined
  obtain ⟨new, there, kept⟩ := commit.mandate_kept here
  obtain ⟨other, same, samePolicy, sameVersion⟩ := undiminished.bindings here
  rw [there, Option.some.injEq] at same
  subst same
  refine ⟨standing.wf.commit commit, ⟨new, Db.mandatePolicy_eq_some.mpr ⟨there, ?_⟩, kept.maximum⟩,
    undiminished.branches standing.found⟩
  rw [samePolicy, sameVersion]
  exact undiminished.policies published

/-- **What a step takes of the branch**: nothing, or what one admission takes. -/
theorem commit_cases (standing : Standing organizationId mandateId branchId policy branch maximum db)
    (classes : policy.workloadClasses ≠ []) (commit : Commit db op reply after)
    (undiminished : Undiminished db after) :
    ((op.isOn organizationId mandateId branchId = true → reply.reserved = 0) ∧
      (∀ chosen, db.classSpend organizationId mandateId branchId chosen ≤
        after.classSpend organizationId mandateId branchId chosen) ∧
      db.committedSpend organizationId mandateId ≤ after.committedSpend organizationId mandateId) ∨
    ∃ cost : ℕ, reply.reserved = cost ∧
      Taken organizationId mandateId branchId policy branch maximum db after cost := by
  by_cases quiet : op.isOn organizationId mandateId branchId = true → reply.reserved = 0
  · have moved := commit.moved standing.wf
    have kept : ∀ {key : String × String} {row : ExecutionRow},
        db.inferenceExecutions.find? key = some row →
        ∃ new, after.inferenceExecutions.find? key = some new ∧ row.committed ≤ new.committed :=
      fun found => undiminished.commitments found
    refine .inl ⟨quiet, fun chosen => ?_, ?_⟩
    · exact moved.le_total kept (classSpend_fixed organizationId mandateId branchId chosen)
    · exact moved.le_total kept fun _ _ preserves => preserves.ofMandate organizationId mandateId
  · obtain ⟨on, asks⟩ := Classical.not_imp.mp quiet
    obtain ⟨decision, same⟩ := reply.reserved_cases.resolve_left asks
    cases op with
    | admitInference decisionId input =>
      obtain ⟨rfl, rfl, named⟩ := of_decide_eq_true on
      obtain ⟨decidedAt, row, result, begun, fresh, evaluated, allowed, rfl, reserved⟩ :=
        commit.admitted_of_execute same rfl
      obtain ⟨mandate, joined, rfl⟩ := standing.bound
      have sameRow := begun.found.symm.trans joined
      rw [Option.some.injEq] at sameRow
      subst sameRow
      obtain ⟨branchId', branch', cost, named', found, priced, taken⟩ :=
        taken_of_allow standing.wf begun fresh evaluated allowed classes decisionId
      rw [named, Option.some.injEq] at named'
      subst named'
      rw [standing.found, Option.some.injEq] at found
      subst found
      exact .inr ⟨cost, reserved.trans priced.symm, taken⟩
    | _ => cases on

/-- **A step pays out of the remainder.** -/
theorem step_paid (standing : Standing organizationId mandateId branchId policy branch maximum db)
    (classes : policy.workloadClasses ≠ []) (undiminished : Undiminished db (step db op)) :
    reservedOn organizationId mandateId branchId db op +
        (step db op).remainder organizationId mandateId branchId policy branch maximum ≤
      db.remainder organizationId mandateId branchId policy branch maximum := by
  unfold reservedOn
  unfold step at undiminished ⊢
  cases committed : outcome db op with
  | error error => simp
  | ok pair =>
    obtain ⟨reply, after⟩ := pair
    simp only [committed] at undiminished ⊢
    rcases standing.commit_cases classes (commit_of_outcome committed) undiminished with
      ⟨nothing, spends, grows⟩ | ⟨cost, reserved, taken⟩
    · have less : after.remainder organizationId mandateId branchId policy branch maximum ≤
          db.remainder organizationId mandateId branchId policy branch maximum :=
        Db.remainder_anti spends grows
      split
      · next on =>
        rw [nothing on, zero_add]
        exact less
      · rw [zero_add]
        exact less
    · have paid := taken.paid
      split <;> omega

/-- **Later reservations on a branch come to no more than the remainder.** -/
theorem admitted_le_remainder
    (standing : Standing organizationId mandateId branchId policy branch maximum db)
    (classes : policy.workloadClasses ≠ []) {later : List Op}
    (undiminished : Along step (fun db op => Undiminished db (step db op)) db later) :
    spent step (reservedOn organizationId mandateId branchId) db later ≤
      db.remainder organizationId mandateId branchId policy branch maximum := by
  refine undiminished.spent_le standing
    (fun state => state.remainder_nonneg organizationId mandateId branchId policy branch maximum)
    (fun state action kept still => ?_) (fun state action kept still => kept.step_paid classes still)
  rcases step_cases state action with same | ⟨reply, commit⟩
  · rwa [same]
  · exact kept.commit commit still

end Standing

end Steps

end FuseControlPlane.Persistence
