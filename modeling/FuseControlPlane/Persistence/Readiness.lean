/-
Readiness (`hasExecutableMandate` in `persistence/policyStore.ts`) and whether it agrees with admission.

* `executableRows`: the join over mandates, policies, agents, credentials and branches. The usage that is
  joined to a row is read off the store where the row is judged.
* `hasExecutableMandate`: the answer.
* `readiness_agrees`: **where readiness says no, no request is admitted that invokes inference under a policy
  which asks for that capability, with tokens both ways**, if the requests on a branch name a workload class.
* `readiness_disagrees`: none of the three conditions can be left out.

Readiness asks for the capability `inference:invoke` and for positive limits of tokens, whatever a request
has; and it counts against a branch what admission counts by workload class.
-/

import FuseControlPlane.Identity.IdentityStore
import FuseControlPlane.Persistence.Branches

set_option linter.unusedSectionVars false

namespace FuseControlPlane.Persistence

open Foundation Foundation.JavaScript Domain Identity FuseControlPlane.Core Program

/-! ### The query -/

/-- `LEFT JOIN`. -/
def leftJoin {α : Type} (rows : List α) : List (Option α) := if rows.isEmpty then [none] else rows.map some

/-- A row of the join. -/
structure ExecutableRow where
  mandate : MandateRow
  policy : PolicyVersion
  branch : Option BranchRow

/-- `expires_at IS NULL OR expires_at > now`. -/
def unexpired (expiresAt : Option ℤ) (now : ℤ) : Bool := expiresAt.all fun instant => now < instant

/-- The policy lets inference be invoked. -/
def isExecutablePolicy (policy : PolicyVersion) (provider model : Option String) : Bool :=
  policy.mode ≠ .paused && policy.requiredCapability = .inferenceInvoke &&
    provider.all policy.allowedProviders.contains && model.all policy.allowedModels.contains &&
    0 < policy.limits.maxPerCallAtomic && 0 < policy.limits.maxHourlyAtomic &&
    0 < policy.limits.maxDailyAtomic && 0 < policy.limits.maxRequestsPerMinute &&
    0 < policy.limits.maxInputTokens && 0 < policy.limits.maxOutputTokens

/-- The branch is one that the agent may use under the policy of the mandate. -/
def isBranchOf (mandate : MandateRow) (agentId : String) (now : ℤ) (branch : BranchRow) : Bool :=
  branch.organizationId = mandate.organizationId && branch.mandateId = mandate.id &&
    branch.agentId = agentId && branch.policyId = mandate.policyId &&
    branch.policyVersion = mandate.policyVersion && unexpired branch.expiresAt now

namespace Db

variable (db : Db)

/-- `mandate_usage`. -/
def mandateUsage (organizationId mandateId : String) : ℕ :=
  ((db.executionsOf organizationId mandateId).map ExecutionRow.usageSpend).sum

/-- `branch_usage`. -/
def branchUsage (organizationId mandateId branchId : String) : ℕ :=
  ((db.branchExecutions organizationId mandateId branchId).map ExecutionRow.usageSpend).sum

/-- The usage of a workload class on a branch, which is nothing if it was not used. -/
def classUsage (organizationId mandateId branchId workloadClass : String) : WorkloadUsageRow :=
  ((db.workloadUsage organizationId mandateId branchId).find? (·.workloadClass = workloadClass)).getD
    ⟨workloadClass, 0, 0⟩

/-- The mandate is active and has money left. -/
def isExecutableMandate (organizationId : String) (now : ℤ) (mandate : MandateRow) : Bool :=
  mandate.organizationId = organizationId && mandate.state = .active && unexpired mandate.expiresAt now &&
    db.mandateUsage mandate.organizationId mandate.id < mandate.maximumSpendAtomic

/-- The joined rows: a mandate with its policy, an assigned agent with a credential, and a branch. -/
def executableRows (identity : IdentityDb) (organizationId : String) (now : ℤ)
    (provider model : Option String) : List ExecutableRow :=
  (db.controlMandates.rows.filter (db.isExecutableMandate organizationId now)).flatMap fun mandate =>
    ((db.policy mandate.organizationId mandate.policyId mandate.policyVersion).toList.filter
      (isExecutablePolicy · provider model)).flatMap fun policy =>
    (db.mandateAgentAssignments.rows.filter fun assignment =>
      assignment.organizationId = mandate.organizationId &&
        assignment.mandateId = mandate.id).flatMap fun assignment =>
    (identity.apiCredentials.rows.filter fun credential =>
      credential.organizationId = assignment.organizationId && credential.principalId = assignment.agentId &&
        (identity.activeAgent credential).isSome && credential.live now &&
        credential.capabilities.contains .inferenceInvoke).flatMap fun credential =>
    (leftJoin (db.mandateBranches.rows.filter (isBranchOf mandate credential.principalId now))).map
      fun branch => ⟨mandate, policy, branch⟩

/-- A row with workload classes leaves room for a class on its branch. -/
def hasRoom (row : ExecutableRow) : Bool :=
  row.branch.any fun branch =>
    branch.branchId ≠ "" &&
      db.branchUsage branch.organizationId branch.mandateId branch.branchId +
          db.childAuthority branch.organizationId branch.mandateId branch.branchId <
        branch.maximumSpendAtomic &&
      row.policy.workloadClasses.any fun configured =>
        branch.allowedWorkloadClasses.contains configured.id &&
          let consumed := db.classUsage branch.organizationId branch.mandateId branch.branchId configured.id
          (consumed.invocationCount : ℤ) < configured.maxInvocationsPerBranch &&
            (consumed.spentAtomic : ℤ) < configured.aggregateBudgetAtomic

/-- Some mandate of the organization can be executed. -/
def hasExecutableMandate (identity : IdentityDb) (organizationId : String) (now : Option ℤ)
    (provider model : Option String) : Except String Bool := do
  require (!isBlank organizationId) "CONTROL_MANDATE_ORGANIZATION_REQUIRED"
  match now with
  | none => .error "CONTROL_MANDATE_CHECK_TIME_INVALID"
  | some now =>
    let rows := db.executableRows identity organizationId now provider model
    .ok (rows.any (fun row => row.policy.workloadClasses.isEmpty) || rows.any db.hasRoom)

end Db

/-! ### Requests -/

section Agreement

variable [NodeCrypto]

/-- A request is admitted: its agent is told to execute it. -/
def admits (db : Db) (decisionId : String) (input : AdmitInferenceInput) : Bool :=
  match outcome db (.admitInference decisionId input) with
  | .ok (.admission (.execute _ _), _) => true
  | _ => false

end Agreement

/-- An active agent presents a live credential that invokes inference. -/
structure Presents (identity : IdentityDb) (input : AdmitInferenceInput) (credential : CredentialRow)
    (now : ℤ) : Prop where
  listed : credential ∈ identity.apiCredentials
  live : credential.live now = true
  agent : (identity.activeAgent credential).isSome = true
  organization : credential.organizationId = input.organizationId
  principal : credential.principalId = input.agentId
  capabilities : input.agentCapabilities = credential.capabilities
  invokes : .inferenceInvoke ∈ credential.capabilities

/-- The requests that ran on a branch of the mandate name a workload class. -/
def ScopesWhole (db : Db) (organizationId mandateId : String) : Prop :=
  ∀ execution ∈ db.inferenceExecutions, execution.ofMandate organizationId mandateId = true →
    execution.branchId.isSome = true → execution.status ≠ .denied → execution.workloadClass.isSome = true

instance (db : Db) (organizationId mandateId : String) :
    Decidable (ScopesWhole db organizationId mandateId) :=
  inferInstanceAs (Decidable (∀ execution ∈ db.inferenceExecutions.rows,
    execution.ofMandate organizationId mandateId = true → execution.branchId.isSome = true →
      execution.status ≠ .denied → execution.workloadClass.isSome = true))

/-- A request that readiness is about: it costs something, its agent presents a live credential, and its
policy is enforced. -/
structure Asked (identity : IdentityDb) (db : Db) (input : AdmitInferenceInput) (credential : CredentialRow)
    (now : ℤ) : Prop where
  time : input.decidedAt = some now
  cost : 0 < input.estimatedCostAtomic
  presents : Presents identity input credential now
  enforced : ∀ row, db.mandatePolicy input.organizationId input.mandateId = some row →
    row.policy.mode = .enforce

/-! ### The join -/

/-- The rows of a left join. -/
theorem mem_leftJoin {α : Type} {rows : List α} {row : α} (member : row ∈ rows) :
    some row ∈ leftJoin rows := by
  unfold leftJoin
  rw [if_neg (by simpa using List.ne_nil_of_mem member)]
  exact List.mem_map_of_mem member

theorem leftJoin_ne_nil {α : Type} (rows : List α) : leftJoin rows ≠ [] := by
  unfold leftJoin
  split
  · exact List.cons_ne_nil _ _
  · next given => simpa using given

section Requests

variable [NodeCrypto] {db : Db} {identity : IdentityDb} {input : AdmitInferenceInput}
  {credential : CredentialRow} {row : MandatePolicyRow} {now : ℤ}

/-- What is joined for a request, up to the branch. -/
structure Joined (identity : IdentityDb) (db : Db) (input : AdmitInferenceInput) (credential : CredentialRow)
    (row : MandatePolicyRow) (now : ℤ) : Prop where
  found : db.mandatePolicy input.organizationId input.mandateId = some row
  mandate : db.isExecutableMandate input.organizationId now row.mandate = true
  policy : isExecutablePolicy row.policy none none = true
  assigned : db.isAssigned input = true
  presents : Presents identity input credential now

/-- A row of the join for a branch. -/
theorem Joined.mem (joined : Joined identity db input credential row now) {branch : Option BranchRow}
    (joins : branch ∈ leftJoin (db.mandateBranches.rows.filter (isBranchOf row.mandate input.agentId now))) :
    ⟨row.mandate, row.policy, branch⟩ ∈
      db.executableRows identity input.organizationId now none none := by
  obtain ⟨found, policy⟩ := Db.mandatePolicy_eq_some.mp joined.found
  obtain ⟨organization, mandate⟩ := Db.key_of_mandate found
  obtain ⟨assignment, assigned⟩ := Option.isSome_iff_exists.mp joined.assigned
  have assignmentKey : assignment.organizationId = input.organizationId ∧
      assignment.mandateId = input.mandateId ∧ assignment.agentId = input.agentId := by
    have keyed := Table.key_of_find? assigned
    exact ⟨congrArg Prod.fst keyed, congrArg (·.2.1) keyed, congrArg (·.2.2) keyed⟩
  obtain ⟨listed, live, agent, ofOrganization, principal, _, invokes⟩ := joined.presents
  unfold Db.executableRows
  refine List.mem_flatMap.mpr
    ⟨row.mandate, List.mem_filter.mpr ⟨Table.mem_of_find? found, joined.mandate⟩, ?_⟩
  refine List.mem_flatMap.mpr ⟨row.policy, List.mem_filter.mpr ⟨?_, joined.policy⟩, ?_⟩
  · rw [organization, policy]
    exact List.mem_singleton_self _
  refine List.mem_flatMap.mpr ⟨assignment, List.mem_filter.mpr ⟨Table.mem_of_find? assigned, ?_⟩, ?_⟩
  · simp [assignmentKey, organization, mandate]
  refine List.mem_flatMap.mpr ⟨credential, List.mem_filter.mpr ⟨listed, ?_⟩, ?_⟩
  · simp [assignmentKey, ofOrganization, principal, agent, live, invokes]
  · rw [principal]
    exact List.mem_map_of_mem joins

/-- Readiness answers yes to a joined row that leaves room, or has no workload classes. -/
theorem Joined.ready (joined : Joined identity db input credential row now) {branch : Option BranchRow}
    (joins : branch ∈ leftJoin (db.mandateBranches.rows.filter (isBranchOf row.mandate input.agentId now)))
    (room : row.policy.workloadClasses = [] ∨ db.hasRoom ⟨row.mandate, row.policy, branch⟩ = true) :
    db.hasExecutableMandate identity input.organizationId (some now) none none ≠ .ok false := by
  intro notReady
  simp only [Db.hasExecutableMandate, bind_unit_eq_ok, Except.ok.injEq, Bool.or_eq_false_iff] at notReady
  obtain ⟨_, unscoped, full⟩ := notReady
  have there := joined.mem joins
  rcases room with none_ | leaves
  · exact List.any_eq_false.mp unscoped _ there (by rw [none_]; rfl)
  · exact List.any_eq_false.mp full _ there leaves

/-! ### What an admitted request tells -/

/-- Mandates have used what the counters of an admission count. -/
theorem mandateUsage_eq (wf : WellFormed db)
    (found : db.mandatePolicy input.organizationId input.mandateId = some row)
    (active : row.mandate.state = .active) :
    db.mandateUsage input.organizationId input.mandateId = (db.countersAt input now).mandateSpentAtomic := by
  refine congrArg List.sum (List.map_congr_left fun execution member => ?_)
  obtain ⟨there, owned⟩ := List.mem_filter.mp member
  rw [usageSpend_eq wf there]
  exact (Db.counterSpend_eq wf (Db.mandatePolicy_eq_some.mp found).1 active there owned).symm

/-- The usage of the classes of a branch is all its usage, if what ran on it names a class. -/
theorem branchUsage_eq (wf : WellFormed db) {organizationId mandateId branchId : String}
    (whole : ScopesWhole db organizationId mandateId) :
    db.branchUsage organizationId mandateId branchId =
      ((db.workloadUsage organizationId mandateId branchId).map (·.spentAtomic)).sum := by
  rw [sum_workloadUsage wf fun execution member owned onBranch ran =>
    whole execution member owned (by rw [onBranch]; rfl) ran]
  unfold Db.branchUsage Db.branchSpend
  rw [Db.branchExecutions, Table.sum_map_filter, Db.sum_executionsOf]
  refine Table.total_congr fun execution member => ?_
  rw [usageSpend_eq wf member]
  by_cases owned : execution.ofMandate organizationId mandateId = true
  · simp [owned]
  · simp [owned]

/-- A request that is admitted under an enforced policy is new, and the policy has no reason to deny it. -/
theorem reasons_of_admits {decisionId : String} (admitted : admits db decisionId input = true)
    (time : input.decidedAt = some now) (enforced : ∀ row,
      db.mandatePolicy input.organizationId input.mandateId = some row → row.policy.mode = .enforce) :
    ∃ row, db.mandatePolicy input.organizationId input.mandateId = some row ∧
      let evaluation := admissionEvaluation input now row.mandate (db.isAssigned input)
        (db.countersAt input now) (db.readScope input)
      requestReasons row.policy evaluation = [] ∧ workloadReasons row.policy evaluation = [] := by
  unfold admits at admitted
  split at admitted
  · next decision reserved after committed =>
    generalize reply : Reply.admission (.execute decision reserved) = answer at committed
    cases commit_of_outcome committed with
    | admitted _ _ decidedAt row result begun fresh evaluated =>
      refine ⟨row, begun.found, ?_⟩
      have same : decidedAt = now := Option.some.inj (begun.time.symm.trans time)
      subst same
      obtain ⟨_, decided⟩ := bind_unit_eq_ok.mp evaluated
      have allowed : result.outcome = .allow := by
        by_contra other
        have denied : admissionReply input (db.newDecision input decisionId decidedAt row result) =
            .denied (db.newDecision input decisionId decidedAt row result) := if_neg other
        rw [denied] at reply
        cases reply
      exact reasons_of_enforced_allow decided allowed (enforced row begun.found)
    | replayed _ _ result quiet => exact absurd reply.symm (quiet decision reserved)
    | held _ _ execution update holds quiet found => exact absurd reply.symm (quiet decision reserved)
  · cases admitted

/-- An expiry that an evaluation lets pass has not come. -/
theorem unexpired_of_expiredAt {expiresAt : Option ℤ}
    (passed : expiredAt (expiresAt.map some) (some now) = false) : unexpired expiresAt now = true := by
  cases expiresAt with
  | none => rfl
  | some instant => simpa [unexpired, expiredAt] using passed

/-- A request that is not denied under a policy of its capability is joined. -/
theorem joined_of_reasons (wf : WellFormed db)
    (found : db.mandatePolicy input.organizationId input.mandateId = some row)
    (asked : Asked identity db input credential now)
    (capability : row.policy.requiredCapability = .inferenceInvoke)
    (inputTokens : 0 < input.inputTokens) (outputTokens : 0 < input.maxOutputTokens)
    (clear : requestReasons row.policy (admissionEvaluation input now row.mandate (db.isAssigned input)
      (db.countersAt input now) (db.readScope input)) = []) :
    Joined identity db input credential row now := by
  have cost := asked.cost
  have enforced := asked.enforced row found
  obtain ⟨mandateFound, _⟩ := Db.mandatePolicy_eq_some.mp found
  obtain ⟨organization, mandate⟩ := Db.key_of_mandate mandateFound
  simp only [requestReasons, List.append_eq_nil_iff, reasonIf_eq_nil, decide_eq_false_iff_not, not_not,
    not_lt, not_le, Bool.not_eq_false'] at clear
  simp only [admissionEvaluation] at clear
  obtain ⟨⟨⟨⟨⟨⟨⟨⟨⟨⟨⟨⟨active, passed⟩, assigned⟩, _⟩, _⟩, _⟩, perCall⟩, hourly⟩, daily⟩, budget⟩, rate⟩,
    tokensIn⟩, tokensOut⟩ := clear
  refine ⟨found, ?_, ?_, assigned, asked.presents⟩
  · have left : db.mandateUsage input.organizationId input.mandateId < row.mandate.maximumSpendAtomic := by
      rw [@mandateUsage_eq _ db input row now wf found active]
      omega
    unfold Db.isExecutableMandate
    rw [organization, mandate, active, unexpired_of_expiredAt passed]
    simp [left]
  · have perHour : 0 < row.policy.limits.maxHourlyAtomic := by omega
    have perDay : 0 < row.policy.limits.maxDailyAtomic := by omega
    have perMinute : 0 < row.policy.limits.maxRequestsPerMinute := by omega
    unfold isExecutablePolicy
    simp [enforced, capability, lt_of_lt_of_le cost perCall, perHour, perDay, perMinute,
      lt_of_lt_of_le inputTokens tokensIn, lt_of_lt_of_le outputTokens tokensOut]

/-- The branch of a scope has a name. -/
theorem branchId_ne_empty {scope : WorkloadScope} (read : db.readScope input = some scope) :
    scope.branchId ≠ "" := by
  obtain ⟨⟨branchId, workloadClass⟩, named, rfl⟩ := Option.map_eq_some_iff.mp read
  unfold AdmitInferenceInput.scope at named
  split at named
  · split at named
    · next given =>
      cases named
      exact given.1
    · cases named
  · cases named

/-- A policy that has no reason to deny a request of a workload class finds room for it. -/
structure RoomOn (policy : PolicyVersion) (evaluation : PolicyEvaluationInput)
    (workload : WorkloadEvaluationInput) : Prop where
  given : evaluation.workload = some workload
  authorized : workload.branchAuthorized = true
  passed : expiredAt workload.branchExpiresAt evaluation.now = false
  budget : workload.branchSpentAtomic + evaluation.estimatedCostAtomic ≤ workload.branchMaximumAtomic
  classAuthorized : workload.classAuthorized = true
  room : ∃ configured ∈ policy.workloadClasses, configured.id = workload.workloadClass ∧
    workload.classInvocationCount < configured.maxInvocationsPerBranch ∧
    workload.classSpentAtomic + evaluation.estimatedCostAtomic ≤ configured.aggregateBudgetAtomic

theorem roomOn_of_reasons {policy : PolicyVersion} {evaluation : PolicyEvaluationInput}
    (classes : policy.workloadClasses ≠ []) (clear : workloadReasons policy evaluation = []) :
    ∃ workload, RoomOn policy evaluation workload := by
  unfold workloadReasons at clear
  rw [if_neg (by simpa using classes)] at clear
  cases given : evaluation.workload with
  | none =>
    rw [given] at clear
    cases clear
  | some workload =>
    rw [given] at clear
    cases authorized : workload.branchAuthorized with
    | false => simp [authorized] at clear
    | true =>
      simp only [authorized, Bool.not_true, Bool.false_eq_true, if_false, List.append_eq_nil_iff,
        reasonIf_eq_nil, decide_eq_false_iff_not, not_lt] at clear
      obtain ⟨⟨passed, budget⟩, ofClass⟩ := clear
      unfold workloadClassReasons at ofClass
      split at ofClass
      · cases ofClass
      · next configured found =>
        cases classAuthorized : workload.classAuthorized with
        | false => simp [classAuthorized] at ofClass
        | true =>
          simp only [classAuthorized, Bool.not_true, Bool.false_eq_true, if_false, List.append_eq_nil_iff,
            reasonIf_eq_nil, decide_eq_false_iff_not, not_lt, not_le] at ofClass
          obtain ⟨⟨⟨_, invocations⟩, spent⟩, _⟩ := ofClass
          have same := List.find?_some found
          exact ⟨workload, given, authorized, passed, budget, classAuthorized, configured,
            List.mem_of_find?_eq_some found, of_decide_eq_true same, invocations, spent⟩

/-- What an evaluation sees of a class is its usage on the branch. -/
theorem classUsage_eq {scope : WorkloadScope} {organizationId mandateId : String} {mandate : MandateRow}
    (usages : scope.usageByClass = db.workloadUsage organizationId mandateId scope.branchId) :
    let consumed := db.classUsage organizationId mandateId scope.branchId scope.workloadClass
    (scope.evaluationInput input mandate).classInvocationCount = consumed.invocationCount ∧
      (scope.evaluationInput input mandate).classSpentAtomic = consumed.spentAtomic := by
  unfold WorkloadScope.evaluationInput WorkloadScope.spentOn Db.classUsage
  rw [usages]
  dsimp only
  cases (db.workloadUsage organizationId mandateId scope.branchId).find?
    (·.workloadClass = scope.workloadClass) with
  | none => exact ⟨rfl, rfl⟩
  | some usage => exact ⟨rfl, rfl⟩

/-- A request with room on its branch leaves room in the row of the branch. -/
theorem hasRoom_of_roomOn (wf : WellFormed db)
    (found : db.mandatePolicy input.organizationId input.mandateId = some row)
    (whole : ScopesWhole db input.organizationId input.mandateId) (cost : 0 < input.estimatedCostAtomic)
    {workload : WorkloadEvaluationInput} (room : RoomOn row.policy (admissionEvaluation input now row.mandate
      (db.isAssigned input) (db.countersAt input now) (db.readScope input)) workload) :
    ∃ branch ∈ db.mandateBranches.rows.filter (isBranchOf row.mandate input.agentId now),
      db.hasRoom ⟨row.mandate, row.policy, some branch⟩ = true := by
  obtain ⟨given, authorized, passed, budget, classAuthorized, configured, listed, named, invocations,
    spent⟩ := room
  obtain ⟨scope, read, rfl, _, _, branches, usages, children⟩ := readScope_of_workload given
  obtain ⟨organization, mandate⟩ := Db.key_of_mandate (Db.mandatePolicy_eq_some.mp found).1
  have nameless := branchId_ne_empty read
  cases known : scope.branch with
  | none => simp [WorkloadScope.evaluationInput, WorkloadScope.branchAuthorized, known] at authorized
  | some branch =>
    have stored := branches.symm.trans known
    obtain ⟨ofOrganization, ofMandate, ofBranch⟩ : branch.organizationId = input.organizationId ∧
        branch.mandateId = input.mandateId ∧ branch.branchId = scope.branchId := by
      have keyed := Table.key_of_find? stored
      exact ⟨congrArg Prod.fst keyed, congrArg (·.2.1) keyed, congrArg (·.2.2) keyed⟩
    simp only [WorkloadScope.evaluationInput, WorkloadScope.branchAuthorized, known, Option.any_some,
      decide_eq_true_eq] at authorized
    obtain ⟨agent, policy, version⟩ := authorized
    have lasting : unexpired branch.expiresAt now = true := by
      simp only [WorkloadScope.evaluationInput, known, Option.bind_some] at passed
      exact unexpired_of_expiredAt passed
    refine ⟨branch, List.mem_filter.mpr ⟨Table.mem_of_find? stored, ?_⟩, ?_⟩
    · unfold isBranchOf
      simp [ofOrganization, ofMandate, organization, mandate, agent, policy, version, lasting]
    · have left : db.branchUsage input.organizationId input.mandateId scope.branchId +
            db.childAuthority input.organizationId input.mandateId scope.branchId <
          branch.maximumSpendAtomic := by
        rw [branchUsage_eq wf whole, ← usages, ← children]
        simp only [WorkloadScope.evaluationInput, WorkloadScope.branchSpentAtomic, known, Option.map_some,
          Option.getD_some, admissionEvaluation] at budget
        omega
      have allowed : branch.allowedWorkloadClasses.contains configured.id = true := by
        simp only [WorkloadScope.evaluationInput, known, Option.any_some] at classAuthorized
        rw [named]
        exact classAuthorized
      obtain ⟨counted, summed⟩ := @classUsage_eq _ db input scope _ _ row.mandate usages
      rw [counted] at invocations
      rw [summed] at spent
      have within : (db.classUsage input.organizationId input.mandateId scope.branchId
          scope.workloadClass).spentAtomic < configured.aggregateBudgetAtomic := by
        simp only [admissionEvaluation] at spent
        omega
      have isNamed : configured.id = scope.workloadClass := named
      unfold Db.hasRoom
      rw [Option.any_some, ofOrganization, ofMandate, ofBranch]
      simp only [Bool.and_eq_true, decide_eq_true_eq, List.any_eq_true]
      refine ⟨⟨nameless, left⟩, configured, listed, allowed, ?_⟩
      rw [isNamed]
      exact ⟨invocations, within⟩

/-! ### Readiness and admission -/

/-- **Where readiness says no, no request that invokes inference under a policy of that capability is
admitted.** -/
theorem readiness_agrees (identity : IdentityDb) (ops : List Op) (decisionId : String)
    (input : AdmitInferenceInput) (credential : CredentialRow) (now : ℤ)
    (asked : Asked identity (run step Db.empty ops) input credential now)
    (capability : ∀ row,
      (run step Db.empty ops).mandatePolicy input.organizationId input.mandateId = some row →
        row.policy.requiredCapability = .inferenceInvoke)
    (inputTokens : 0 < input.inputTokens) (outputTokens : 0 < input.maxOutputTokens)
    (whole : ScopesWhole (run step Db.empty ops) input.organizationId input.mandateId)
    (notReady : (run step Db.empty ops).hasExecutableMandate identity input.organizationId (some now) none
      none = .ok false) : admits (run step Db.empty ops) decisionId input = false := by
  have wf : WellFormed (run step Db.empty ops) := wellFormed_run ops
  by_contra admitted
  obtain ⟨row, found, clear, scopeClear⟩ :=
    reasons_of_admits (Bool.not_eq_false _ ▸ admitted) asked.time asked.enforced
  have joined := joined_of_reasons wf found asked (capability row found) inputTokens outputTokens clear
  by_cases classes : row.policy.workloadClasses = []
  · obtain ⟨branch, joins⟩ := List.exists_mem_of_ne_nil _ (leftJoin_ne_nil
      ((run step Db.empty ops).mandateBranches.rows.filter (isBranchOf row.mandate input.agentId now)))
    exact joined.ready joins (.inl classes) notReady
  · obtain ⟨workload, room⟩ := roomOn_of_reasons classes scopeClear
    obtain ⟨branch, listed, leaves⟩ := hasRoom_of_roomOn wf found whole asked.cost room
    exact joined.ready (mem_leftJoin listed) (.inr leaves) notReady

omit [NodeCrypto] in
/-- The premises of a request, checked. -/
theorem Asked.of_checks (time : input.decidedAt = some now) (cost : 0 < input.estimatedCostAtomic)
    (presents : Presents identity input credential now)
    (enforced : ((db.mandatePolicy input.organizationId input.mandateId).all
      (·.policy.mode = .enforce)) = true) : Asked identity db input credential now :=
  ⟨time, cost, presents, fun row found => of_decide_eq_true ((Option.all_eq_true _ _).mp enforced row found)⟩

/-- A request that is admitted where readiness says no. -/
def Disagrees (identity : IdentityDb) (ops : List Op) (decisionId : String)
    (input : AdmitInferenceInput) (credential : CredentialRow) (now : ℤ) : Prop :=
  Asked identity (run step Db.empty ops) input credential now ∧
    (run step Db.empty ops).hasExecutableMandate identity input.organizationId (some now) none none =
      .ok false ∧
    admits (run step Db.empty ops) decisionId input = true

end Requests

namespace Sample

/-- The credential of the agent. -/
def agentCredential (capabilities : List ApiCapability) : CredentialRow :=
  ⟨"org", "credential", "agent", "hash", capabilities, none, none⟩

/-- The agent and its credential. -/
def agentIdentity (capabilities : List ApiCapability) : IdentityDb :=
  { IdentityDb.empty with
    agentIdentities := Table.empty.put ⟨"org", "agent", .active, none⟩
    apiCredentials := Table.empty.put (agentCredential capabilities) }

theorem presents {capabilities : List ApiCapability} (input : AdmitInferenceInput) (now : ℤ)
    (organization : input.organizationId = "org") (agent : input.agentId = "agent")
    (same : input.agentCapabilities = capabilities) (invokes : .inferenceInvoke ∈ capabilities) :
    Presents (agentIdentity capabilities) input (agentCredential capabilities) now where
  listed := Table.mem_put.mpr (.inl rfl)
  live := rfl
  agent := rfl
  organization := organization.symm
  principal := agent.symm
  capabilities := same
  invokes := invokes

/-- A mandate under a policy, activated. -/
def activated (policy : PolicyVersion) : List Op :=
  [.createOrganization "org" "Organization" context, .registerAgent "org" "agent" "Agent" context,
    .publishPolicy policy context, .createMandate (mandate 20),
    .assignAgent ⟨"org", "mandate", "agent", context⟩, move .active]

/-- The mandate is used up. -/
def usedUp : List Op := activated (policy 20 []) ++ [admission "first" 20 10]

/-- The policy asks for another capability. -/
def otherCapability : List Op := activated { policy 20 [] with requiredCapability := .policiesRead }

def otherRequest : AdmitInferenceInput :=
  { requestOn none "first" 5 10 with agentCapabilities := [.inferenceInvoke, .policiesRead] }

/-- The policy allows no input tokens. -/
def noInput : List Op := activated { policy 20 [] with limits := ⟨20, 20, 20, 5, 0, 100⟩ }

def emptyRequest : AdmitInferenceInput := { requestOn none "first" 5 10 with inputTokens := 0 }

/-- A request ran on a branch before the mandate had workload classes, and without one. -/
def unlabelled : List Op :=
  activated (policy 20 []) ++
    [.admitInference "first decision" { requestOn none "first" 6 10 with branchId := some "root" },
      complete "first" 6 20, move .paused,
      .publishPolicy { policy 20 [workloadClass] with version := 2 } context,
      .setMandatePolicy "org" "mandate" "policy" 2 context, .createBranch (branch "root" none 6),
      move .active]

def labelledRequest : AdmitInferenceInput := requestOn (some ("root", "chat")) "second" 1 30

/-- SHA-256, on the text that is hashed in this run. -/
@[reducible] def branchCrypto : NodeCrypto :=
  ⟨fun text =>
    if text = canonicalBranch (unsignedBranch (branch "root" none 6)
      { newMandate (mandate 20) with policyVersion := 2 } 0) then
      "219e65023b8797059294916c4452e0edb9b6dba198b88f61e74846cf7de1d991"
    else ""⟩

end Sample

/-- A mandate that is used up is not ready, and its next request is denied. -/
theorem readiness_agrees_usedUp : letI := Sample.crypto
    admits (run step Db.empty Sample.usedUp) "decision" (Sample.requestOn none "second" 1 20) = false :=
  letI := Sample.crypto
  have known : ((run step Db.empty Sample.usedUp).mandatePolicy "org" "mandate").all
      (·.policy.requiredCapability = .inferenceInvoke) = true := by decide +kernel
  readiness_agrees (Sample.agentIdentity [.inferenceInvoke]) Sample.usedUp "decision"
    (Sample.requestOn none "second" 1 20) (Sample.agentCredential [.inferenceInvoke]) 20
    (.of_checks rfl (by decide)
      (Sample.presents (Sample.requestOn none "second" 1 20) 20 rfl rfl rfl (by decide)) (by decide +kernel))
    (fun row found => of_decide_eq_true ((Option.all_eq_true _ _).mp known row found))
    (by decide) (by decide) (by decide +kernel) (by decide +kernel)

/-- **Readiness says no and the request is admitted: under a policy of another capability, with no input
tokens, and on a branch where a request ran without a workload class.** -/
theorem readiness_disagrees :
    @Disagrees Sample.crypto (Sample.agentIdentity [.inferenceInvoke, .policiesRead]) Sample.otherCapability
        "decision" Sample.otherRequest (Sample.agentCredential [.inferenceInvoke, .policiesRead]) 10 ∧
      @Disagrees Sample.crypto (Sample.agentIdentity [.inferenceInvoke]) Sample.noInput
        "decision" Sample.emptyRequest (Sample.agentCredential [.inferenceInvoke]) 10 ∧
      @Disagrees Sample.branchCrypto (Sample.agentIdentity [.inferenceInvoke]) Sample.unlabelled
        "decision" Sample.labelledRequest (Sample.agentCredential [.inferenceInvoke]) 30 := by
  refine ⟨⟨?_, (by decide +kernel), (by decide +kernel)⟩, ⟨?_, (by decide +kernel), (by decide +kernel)⟩,
    ?_, (by decide +kernel), (by decide +kernel)⟩
  · exact .of_checks rfl (by decide) (Sample.presents Sample.otherRequest _ rfl rfl rfl (by decide))
      (by decide +kernel)
  · exact .of_checks rfl (by decide) (Sample.presents Sample.emptyRequest _ rfl rfl rfl (by decide))
      (by decide +kernel)
  · exact .of_checks rfl (by decide) (Sample.presents Sample.labelledRequest _ rfl rfl rfl (by decide))
      (by decide +kernel)

end FuseControlPlane.Persistence
