/-
What a committed call of the policy store has done.

`Commit db op reply after` has one case for each way a call can commit: what it has checked in the
store it started from, and the store it leaves. `commit_of_outcome` derives it from the transactions,
and `step_cases` says the same of `step`. No later proof about whole calls looks into a transaction
again.
-/

import FuseControlPlane.Persistence.Effects

set_option linter.unusedSectionVars false

namespace FuseControlPlane.Persistence

open Foundation Foundation.JavaScript Domain Identity FuseControlPlane.Core Program

/-! ### The cases -/

/-- What `createBranch` has checked. -/
structure BranchGranted (db : Db) (input : CreateMandateBranchInput) (row : MandatePolicyRow) :
    Prop where
  found : db.mandatePolicy input.organizationId input.mandateId = some row
  unlocked : row.mandate.state = .draft ∨ row.mandate.state = .paused
  positive : 0 < input.maximumSpendAtomic
  within : input.maximumSpendAtomic ≤ row.mandate.maximumSpendAtomic
  configured : row.policy.workloadClasses ≠ []
  fresh : db.branch input.organizationId input.mandateId input.id = none
  delegated : ∀ parentId, input.parentBranchId = some parentId →
    ∃ parent, db.branch input.organizationId input.mandateId parentId = some parent ∧
      input.maximumSpendAtomic + db.childAuthority input.organizationId input.mandateId parentId ≤
        parent.maximumSpendAtomic

/-- A reply that does not ask for execution. -/
def Reply.isQuiet (reply : Reply) : Prop :=
  ∀ decision reserved, reply ≠ .admission (.execute decision reserved)

theorem Reply.isQuiet_nothing : Reply.nothing.isQuiet := by
  intro decision reserved
  exact Reply.noConfusion

variable [NodeCrypto]

/-- The ways a call can commit. -/
inductive Commit (db : Db) : Op → Reply → Db → Prop
  | organization (id name : String) (context : PolicyMutationContext) :
      Commit db (.createOrganization id name context) .nothing ((Write.organization ⟨id⟩).apply db)
  | agent (organizationId id name : String) (context : PolicyMutationContext) :
      Commit db (.registerAgent organizationId id name context) .nothing
        ((Write.agentIdentity ⟨organizationId, id⟩).apply db)
  | policy (policy : PolicyVersion) (context : PolicyMutationContext)
      (valid : validatePolicy policy = .ok ())
      (fresh : db.policy policy.organizationId policy.id policy.version = none) :
      Commit db (.publishPolicy policy context) .nothing ((Write.policyVersion policy).apply db)
  | mandate (input : CreateControlMandateInput) (draft : input.state = .draft)
      (fresh : db.mandate input.organizationId input.id = none)
      (known : (db.policy input.organizationId input.policyId input.policyVersion).isSome = true) :
      Commit db (.createMandate input) .nothing ((Write.mandate (newMandate input)).apply db)
  | assigned (input : AssignMandateAgentInput) :
      Commit db (.assignAgent input) .nothing
        ((Write.assignment ⟨input.organizationId, input.mandateId, input.agentId⟩).apply db)
  | branch (input : CreateMandateBranchInput) (row : MandatePolicyRow) (createdAt : ℤ)
      (granted : BranchGranted db input row) :
      Commit db (.createBranch input) (.branch (newBranch input row.mandate createdAt))
        ((Write.branch (newBranch input row.mandate createdAt)).apply db)
  | transition (organizationId mandateId : String) (target : MandateState)
      (context : PolicyMutationContext) (row : MandateRow)
      (valid : isMoveInput organizationId mandateId context = true)
      (found : db.mandate organizationId mandateId = some row)
      (allowed : target ∈ mandateTransitions row.state) :
      Commit db (.transitionMandateState organizationId mandateId target context) .nothing
        ((Write.mandate { row with state := target }).apply db)
  | policySet (organizationId mandateId policyId : String) (policyVersion : ℤ)
      (context : PolicyMutationContext) (row : MandateRow)
      (found : db.mandate organizationId mandateId = some row)
      (unlocked : row.state = .draft ∨ row.state = .paused)
      (known : (db.policy organizationId policyId policyVersion).isSome = true) :
      Commit db (.setMandatePolicy organizationId mandateId policyId policyVersion context) .nothing
        ((Write.mandate { row with policyId, policyVersion }).apply db)
  /-- A preview that holds nothing. -/
  | previewed (decisionId : String) (input : AdmitInferenceInput) (result : AdmissionResult) :
      Commit db (.previewInference decisionId input) (.admission result) db
  /-- A replay that holds nothing. -/
  | replayed (decisionId : String) (input : AdmitInferenceInput) (result : AdmissionResult)
      (quiet : (Reply.admission result).isQuiet) :
      Commit db (.admitInference decisionId input) (.admission result) db
  /-- An execution is put on hold: its worker is overdue, its cost overran, or its outcome is
  unknown. -/
  | held (op : Op) (reply : Reply) (row : ExecutionRow) (update : ExecutionUpdate)
      (holds : heldExecution db op = some (row, update)) (quiet : reply.isQuiet)
      (found : (db.mandate row.organizationId row.mandateId).isSome = true) :
      Commit db op reply (db.holdExecution row update)
  /-- A new request is recorded, admitted or denied. -/
  | admitted (decisionId : String) (input : AdmitInferenceInput) (decidedAt : ℤ)
      (row : MandatePolicyRow) (result : PolicyDecisionResult) (begun : Begun db input decidedAt row)
      (fresh : db.execution input.organizationId input.requestId = none)
      (evaluated : db.evaluateAdmission input decidedAt row = .ok result) :
      Commit db (.admitInference decisionId input)
        (.admission (admissionReply input
          (db.newDecision input decisionId decidedAt row result)))
        (db.recordAdmission input decidedAt (db.newDecision input decisionId decidedAt row result))
  | completed (input : CompleteInferenceInput) (reply : CompletionPersistenceResult)
      (row : ExecutionRow) (completedAt : ℤ)
      (found : db.execution input.organizationId input.requestId = some row)
      (running : row.status = .executing) (positive : 0 ≤ input.actualCostAtomic)
      (within : input.actualCostAtomic ≤ row.reservedCostAtomic) :
      Commit db (.completeInference input) (.completion reply)
        ((Write.execution ((ExecutionUpdate.completed input.actualCostAtomic.toNat input.response
          completedAt).set row)).apply db)
  | failed (input : FailInferenceInput) (row : ExecutionRow) (failedAt : ℤ)
      (found : db.execution input.organizationId input.requestId = some row)
      (running : row.status = .executing) :
      Commit db (.failInference input) .nothing
        ((Write.execution ((ExecutionUpdate.failed input.failureCode failedAt).set row)).apply db)
  /-- There was nothing to fail. -/
  | notFailed (input : FailInferenceInput) : Commit db (.failInference input) .nothing db
  /-- The same resolution was recorded before. -/
  | resolvedBefore (input : ResolveReconciliationInput) :
      Commit db (.resolveReconciliation input) .nothing db
  | resolved (input : ResolveReconciliationInput) (row : ExecutionRow) (cost : ℕ) (occurredAt : ℤ)
      (after : Db)
      (found : db.execution input.organizationId input.requestId = some row)
      (onHold : row.status = .reconciliationHold)
      (fresh : db.resolution input.organizationId input.requestId = none)
      (priced : resolutionCost input = .ok cost)
      (released : Released (db.recordResolution input row cost occurredAt) row.organizationId
        row.mandateId after) :
      Commit db (.resolveReconciliation input) .nothing after

/-! ### Every commit is one of the cases -/

theorem createMandate_commit {input : CreateControlMandateInput} {db after : Db} {value : Unit}
    (committed : sql.atomic (createMandate input) db = .ok (value, after)) :
    Commit db (.createMandate input) .nothing after := by
  simp only [createMandate, validateContext, bind_assoc, Semantics.atomic_throwUnless_bind,
    Semantics.atomic_orThrow_bind, atomic_execute] at committed
  obtain ⟨_, _, _, _, _, _, _, _, _, _, _, draft, checked, same⟩ := committed
  change db.checkMandate _ = _ at checked
  change (_, sql.applyAll (Sql.inserted (db.checkMandate _) _) db) = _ at same
  rw [applyAll_inserted _ _ checked] at same
  obtain ⟨_, rfl⟩ := Prod.mk.inj same
  simp only [Db.checkMandate, bind_unit_eq_ok, unique_eq_ok, references_eq_ok] at checked
  refine .mandate input ?_ checked.1 checked.2.2
  simpa using draft

/-- The checks against a parent pass, and change nothing. -/
theorem atomic_checkParentBranch_bind {α : Type} {input : CreateMandateBranchInput}
    {mandate : MandateRow} {classes : List String} {parentBranchId : Option String}
    {next : Unit → Transaction α} {db : Db} {outcome : α × Db}
    (committed : sql.atomic (checkParentBranch input mandate classes parentBranchId >>= next) db =
      .ok outcome) :
    (∀ parentId, parentBranchId = some parentId →
      ∃ parent, db.branch input.organizationId input.mandateId parentId = some parent ∧
        input.maximumSpendAtomic +
            db.childAuthority input.organizationId input.mandateId parentId ≤
          parent.maximumSpendAtomic) ∧
      sql.atomic (next ()) db = .ok outcome := by
  cases parentBranchId with
  | none => exact ⟨nofun, committed⟩
  | some parentId =>
    simp only [checkParentBranch, bind_assoc, Semantics.atomic_throwUnless_bind,
      Semantics.atomic_orThrow_bind, Semantics.atomic_perform_bind, Semantics.atomic_fromExcept_bind,
      sql_result, sql_writes, Sql.result, Sql.writes, Semantics.applyAll_nil,
      decide_eq_true_eq] at committed
    obtain ⟨parent, found, _, _, _, _, within, _, rest⟩ := committed
    refine ⟨?_, rest⟩
    rintro _ ⟨rfl⟩
    exact ⟨parent, found, of_decide_eq_true within⟩

theorem createBranch_commit {input : CreateMandateBranchInput} {db after : Db} {branch : BranchRow}
    (committed : sql.atomic (createBranch input) db = .ok (branch, after)) :
    Commit db (.createBranch input) (.branch branch) after := by
  simp only [createBranch, validateContext, bind_assoc, Semantics.atomic_throwUnless_bind,
    Semantics.atomic_orThrow_bind, Semantics.atomic_perform_bind, sql_result, sql_writes, Sql.result,
    Sql.writes, Semantics.applyAll_nil, decide_eq_true_eq] at committed
  obtain ⟨_, _, createdAt, _, _, _, _, _, named, _, positive, _, row, found, unlocked, within, _,
    configured, _, rest⟩ := committed
  obtain ⟨delegated, rest⟩ := atomic_checkParentBranch_bind rest
  simp only [atomic_execute_bind, Sql.result] at rest
  obtain ⟨checked, same⟩ := rest
  change Except.ok (_, sql.applyAll (Sql.inserted (db.checkBranch _) _) db) = _ at same
  rw [applyAll_inserted _ _ checked] at same
  obtain ⟨rfl, rfl⟩ := Prod.mk.inj (Except.ok.inj same)
  have facts := checked
  simp only [Db.checkBranch, bind_unit_eq_ok, unique_eq_ok] at facts
  refine .branch input row createdAt ⟨found, unlocked, positive, within, ?_, facts.1, delegated⟩
  intro none_
  cases classes : sorted input.allowedWorkloadClasses with
  | nil => simp [classes] at named
  | cons first rest => simp [classes, none_] at configured

theorem transitionMandateState_commit {organizationId mandateId : String} {target : MandateState}
    {context : PolicyMutationContext} {db after : Db} {value : Unit}
    (committed : sql.atomic (transitionMandateState organizationId mandateId target context) db =
      .ok (value, after)) :
    Commit db (.transitionMandateState organizationId mandateId target context) .nothing after := by
  simp only [transitionMandateState, validateContext, bind_assoc, Semantics.atomic_throwUnless_bind,
    Semantics.atomic_orThrow_bind, Semantics.atomic_perform_bind, Semantics.atomic_perform,
    sql_writes] at committed
  obtain ⟨actor, causation, time, occurred, organization, mandate, row, found, allowed, same⟩ :=
    committed
  change db.mandate organizationId mandateId = some row at found
  change Except.ok (_, sql.applyAll ((Sql.updateMandate _ _ _).writes db) db) = _ at same
  rw [writes_updateMandate found rfl] at same
  obtain ⟨_, rfl⟩ := Prod.mk.inj (Except.ok.inj same)
  refine .transition organizationId mandateId target context row ?_ found
    (List.contains_iff_mem.mp allowed)
  simp only [isMoveInput, actor, causation, occurred, organization, mandate, Option.isSome_some,
    Bool.and_self]

theorem setMandatePolicy_commit {organizationId mandateId policyId : String} {policyVersion : ℤ}
    {context : PolicyMutationContext} {db after : Db} {value : Unit}
    (committed : sql.atomic (setMandatePolicy organizationId mandateId policyId policyVersion context)
      db = .ok (value, after)) :
    Commit db (.setMandatePolicy organizationId mandateId policyId policyVersion context) .nothing
      after := by
  simp only [setMandatePolicy, validateContext, bind_assoc, Semantics.atomic_throwUnless_bind,
    Semantics.atomic_orThrow_bind, Semantics.atomic_perform_bind, atomic_execute] at committed
  obtain ⟨_, _, _, _, _, _, _, _, row, found, unlocked, checked, same⟩ := committed
  change db.mandate organizationId mandateId = some row at found
  change (Sql.updateMandatePolicy organizationId mandateId policyId policyVersion).result db = _
    at checked
  change (_, sql.applyAll ((Sql.updateMandatePolicy organizationId mandateId policyId
    policyVersion).writes db) db) = _ at same
  simp only [Sql.result, found] at checked
  simp only [Sql.writes, found] at same
  rw [applyAll_inserted _ _ checked] at same
  obtain ⟨_, rfl⟩ := Prod.mk.inj same
  exact .policySet organizationId mandateId policyId policyVersion context row found
    (of_decide_eq_true unlocked) (references_eq_ok.mp checked)

theorem publishPolicy_commit {policy : PolicyVersion} {context : PolicyMutationContext}
    {db after : Db} {value : Unit}
    (committed : sql.atomic (publishPolicy policy context) db = .ok (value, after)) :
    Commit db (.publishPolicy policy context) .nothing after := by
  simp only [publishPolicy, validateContext, bind_assoc, Semantics.atomic_throwUnless_bind,
    Semantics.atomic_orThrow_bind, Semantics.atomic_fromExcept_bind, atomic_execute] at committed
  obtain ⟨_, valid, _, _, _, _, checked, same⟩ := committed
  change db.checkPolicyVersion _ = _ at checked
  change (_, sql.applyAll (Sql.inserted (db.checkPolicyVersion _) _) db) = _ at same
  rw [applyAll_inserted _ _ checked] at same
  obtain ⟨_, rfl⟩ := Prod.mk.inj same
  simp only [Db.checkPolicyVersion, bind_unit_eq_ok, unique_eq_ok] at checked
  exact .policy policy context valid checked.1

theorem createOrganization_commit {id name : String} {context : PolicyMutationContext}
    {db after : Db} {value : Unit}
    (committed : sql.atomic (createOrganization id name context) db = .ok (value, after)) :
    Commit db (.createOrganization id name context) .nothing after := by
  simp only [createOrganization, validateContext, bind_assoc, Semantics.atomic_throwUnless_bind,
    Semantics.atomic_orThrow_bind, atomic_execute] at committed
  obtain ⟨_, _, _, _, _, _, checked, same⟩ := committed
  change db.checkOrganization _ = _ at checked
  change (_, sql.applyAll (Sql.inserted (db.checkOrganization _) _) db) = _ at same
  rw [applyAll_inserted _ _ checked] at same
  obtain ⟨_, rfl⟩ := Prod.mk.inj same
  exact .organization id name context

theorem registerAgent_commit {organizationId id name : String} {context : PolicyMutationContext}
    {db after : Db} {value : Unit}
    (committed : sql.atomic (registerAgent organizationId id name context) db = .ok (value, after)) :
    Commit db (.registerAgent organizationId id name context) .nothing after := by
  simp only [registerAgent, validateContext, bind_assoc, Semantics.atomic_throwUnless_bind,
    Semantics.atomic_orThrow_bind, atomic_execute] at committed
  obtain ⟨_, _, _, _, _, _, _, checked, same⟩ := committed
  change db.checkAgentIdentity _ = _ at checked
  change (_, sql.applyAll (Sql.inserted (db.checkAgentIdentity _) _) db) = _ at same
  rw [applyAll_inserted _ _ checked] at same
  obtain ⟨_, rfl⟩ := Prod.mk.inj same
  exact .agent organizationId id name context

theorem assignAgent_commit {input : AssignMandateAgentInput} {db after : Db} {value : Unit}
    (committed : sql.atomic (assignAgent input) db = .ok (value, after)) :
    Commit db (.assignAgent input) .nothing after := by
  simp only [assignAgent, validateContext, bind_assoc, Semantics.atomic_throwUnless_bind,
    Semantics.atomic_orThrow_bind, atomic_execute] at committed
  obtain ⟨_, _, _, _, checked, same⟩ := committed
  change db.checkAssignment _ = _ at checked
  change (_, sql.applyAll (Sql.inserted (db.checkAssignment _) _) db) = _ at same
  rw [applyAll_inserted _ _ checked] at same
  obtain ⟨_, rfl⟩ := Prod.mk.inj same
  exact .assigned input

/-- A committed replay either put the execution on hold or left the store alone. -/
theorem replay_commit {input : AdmitInferenceInput} {retriedAt : ℤ} {mandate : MandatePolicyRow}
    {existing : ExecutionRow} {db after : Db} {reply : AdmissionResult}
    (begun : Begun db input retriedAt mandate)
    (known : db.execution input.organizationId input.requestId = some existing)
    (same : existing.requestFingerprint = input.requestFingerprint)
    (committed : sql.atomic (admissionFromExecution existing retriedAt) db = .ok (reply, after)) :
    (Reply.admission reply).isQuiet ∧
      (after = db ∨ ∃ update, replayHold db input = some (existing, update) ∧
        (db.mandate existing.organizationId existing.mandateId).isSome = true ∧
        after = db.holdExecution existing update) := by
  have keyed := Db.key_of_execution known
  rw [atomic_admissionFromExecution (by rw [keyed.1, keyed.2]; exact known)] at committed
  obtain ⟨decision, decided, committed⟩ := committed
  split at committed
  · next overdue =>
    obtain ⟨found, rfl, rfl⟩ := committed
    refine ⟨fun _ _ equal => by simp at equal, .inr ⟨.leaseExpired retriedAt, ?_, found, rfl⟩⟩
    exact replayHold_eq_some.mpr
      ⟨retriedAt, mandate, decision, begun, known, same, decided, overdue, rfl⟩
  · obtain ⟨quiet, rfl⟩ := committed
    refine ⟨fun first reserved equal => ?_, .inl rfl⟩
    exact knownReply_quiet quiet first reserved (Reply.admission.inj equal)

theorem admitInference_commit {decisionId : String} {input : AdmitInferenceInput} {db after : Db}
    {result : AdmissionResult}
    (committed : sql.atomic (admitInference decisionId input false) db = .ok (result, after)) :
    Commit db (.admitInference decisionId input) (.admission result) after := by
  obtain ⟨decidedAt, row, begun, committed⟩ := atomic_admitInference.mp committed
  cases known : db.execution input.organizationId input.requestId with
  | none =>
    rw [known] at committed
    obtain ⟨outcome, evaluated, rfl, _, _, rfl⟩ := atomic_admitNew_record.mp committed
    exact .admitted decisionId input decidedAt row outcome begun known evaluated
  | some existing =>
    rw [known] at committed
    obtain ⟨quiet, rfl | ⟨update, holds, found, rfl⟩⟩ :=
      replay_commit begun known committed.1 committed.2
    · exact .replayed decisionId input result quiet
    · exact .held _ _ existing update holds quiet found

theorem previewInference_commit {decisionId : String} {input : AdmitInferenceInput} {db after : Db}
    {result : AdmissionResult}
    (committed : sql.atomic (previewInference decisionId input) db = .ok (result, after)) :
    Commit db (.previewInference decisionId input) (.admission result) after := by
  obtain ⟨decidedAt, row, begun, committed⟩ := atomic_admitInference.mp committed
  cases known : db.execution input.organizationId input.requestId with
  | none =>
    rw [known] at committed
    obtain ⟨_, _, _, rfl⟩ := atomic_admitNew_preview.mp committed
    exact .previewed decisionId input result
  | some existing =>
    rw [known] at committed
    obtain ⟨quiet, rfl | ⟨update, holds, found, rfl⟩⟩ :=
      replay_commit begun known committed.1 committed.2
    · exact .previewed decisionId input result
    · exact .held _ _ existing update holds quiet found

theorem completeInference_commit {input : CompleteInferenceInput} {db after : Db}
    {result : CompletionPersistenceResult}
    (committed : sql.atomic (completeInference input) db = .ok (result, after)) :
    Commit db (.completeInference input) (.completion result) after := by
  simp only [completeInference, Semantics.atomic_throwUnless_bind, Semantics.atomic_orThrow_bind,
    Semantics.atomic_perform_bind] at committed
  obtain ⟨positive, row, found, running, completedAt, time, committed⟩ := committed
  change db.execution input.organizationId input.requestId = some row at found
  have keyed := Db.key_of_execution found
  have running := of_decide_eq_true running
  change sql.atomic _ db = _ at committed
  split at committed
  · next overrun =>
    rw [Semantics.atomic_perform_bind, sql_writes, writes_updateExecution found rfl,
      atomic_holdMandate_bind, ← keyed.1] at committed
    obtain ⟨mandate, same⟩ := committed
    obtain ⟨rfl, rfl⟩ := Prod.mk.inj (Except.ok.inj same)
    refine .held _ _ row _ ?_ (fun _ _ => Reply.noConfusion) mandate
    simp [heldExecution, found, time, running, overrun]
  · next within =>
    rw [Semantics.atomic_perform_bind, sql_writes, writes_updateExecution found rfl] at committed
    obtain ⟨rfl, rfl⟩ := Prod.mk.inj (Except.ok.inj committed)
    exact .completed input _ row completedAt found running (of_decide_eq_true positive)
      (Int.not_lt.mp within)

theorem holdInference_commit {input : HoldInferenceInput} {db after : Db} {value : Unit}
    (committed : sql.atomic (holdInference input) db = .ok (value, after)) :
    Commit db (.holdInference input) .nothing after := by
  simp only [holdInference, Semantics.atomic_throwUnless_bind, Semantics.atomic_orThrow_bind,
    Semantics.atomic_perform_bind] at committed
  obtain ⟨reason, row, found, running, heldAt, time, committed⟩ := committed
  change db.execution input.organizationId input.requestId = some row at found
  have keyed := Db.key_of_execution found
  have running := of_decide_eq_true running
  change sql.atomic (holdMandateForReconciliation input.organizationId row.mandateId)
    (sql.applyAll ((Sql.updateExecution input.organizationId input.requestId
      (.held input.response input.reasonCode heldAt)).writes db) db) = _ at committed
  rw [writes_updateExecution found rfl, atomic_holdMandate, ← keyed.1] at committed
  obtain ⟨mandate, same⟩ := committed
  obtain ⟨_, rfl⟩ := Prod.mk.inj same
  refine .held _ _ row _ ?_ Reply.isQuiet_nothing mandate
  simp [heldExecution, found, time, running, reason]

theorem failInference_commit {input : FailInferenceInput} {db after : Db} {value : Unit}
    (committed : sql.atomic (failInference input) db = .ok (value, after)) :
    Commit db (.failInference input) .nothing after := by
  simp only [failInference, Semantics.atomic_orThrow_bind, Semantics.atomic_perform] at committed
  obtain ⟨failedAt, _, same⟩ := committed
  obtain ⟨_, rfl⟩ := Prod.mk.inj (Except.ok.inj same)
  cases found : db.execution input.organizationId input.requestId with
  | none =>
    simp only [sql_writes, Sql.writes, found]
    exact .notFailed input
  | some row =>
    by_cases running : row.status = .executing
    · rw [sql_writes, writes_updateExecution found (by simpa [ExecutionUpdate.applies] using running)]
      exact .failed input row failedAt found running
    · simp only [sql_writes, Sql.writes, found, ExecutionUpdate.applies, running, decide_false,
        Bool.false_eq_true, if_false]
      exact .notFailed input

theorem resolveReconciliation_commit {input : ResolveReconciliationInput} {db after : Db}
    {value : Unit}
    (committed : sql.atomic (resolveReconciliation input) db = .ok (value, after)) :
    Commit db (.resolveReconciliation input) .nothing after := by
  obtain ⟨occurredAt, cost, row, valid, found, committed⟩ := atomic_resolveReconciliation.mp committed
  cases fresh : db.resolution input.organizationId input.requestId with
  | some existing =>
    rw [fresh] at committed
    obtain ⟨_, same⟩ := committed
    obtain ⟨_, rfl⟩ := Prod.mk.inj same
    exact .resolvedBefore input
  | none =>
    rw [fresh] at committed
    have keyed := Db.key_of_execution found
    obtain ⟨onHold, released⟩ := committed
    rw [atomic_releaseMandate, ← keyed.1] at released
    exact .resolved input row cost occurredAt after found onHold fresh valid.priced released.2

/-- **Every committed call is one of the cases.** -/
theorem commit_of_outcome {db after : Db} {op : Op} {reply : Reply}
    (committed : outcome db op = .ok (reply, after)) : Commit db op reply after := by
  cases op
  all_goals
    obtain ⟨value, between, head, tail⟩ := sql.atomic_bind_ok committed
    obtain ⟨rfl, rfl⟩ := Prod.mk.inj (Except.ok.inj tail)
  · exact createOrganization_commit head
  · exact registerAgent_commit head
  · exact publishPolicy_commit head
  · exact createMandate_commit head
  · exact assignAgent_commit head
  · exact createBranch_commit head
  · exact transitionMandateState_commit head
  · exact setMandatePolicy_commit head
  · exact admitInference_commit head
  · exact previewInference_commit head
  · exact completeInference_commit head
  · exact holdInference_commit head
  · exact failInference_commit head
  · exact resolveReconciliation_commit head

/-- A step changes nothing, or it is a commit. -/
theorem step_cases (db : Db) (op : Op) :
    step db op = db ∨ ∃ reply, Commit db op reply (step db op) := by
  unfold step
  cases committed : outcome db op with
  | error error => exact .inl rfl
  | ok pair => exact .inr ⟨pair.1, commit_of_outcome committed⟩

/-- What every commit preserves, every step preserves. -/
theorem step_preserves {inv : Db → Prop} {db : Db} {op : Op} (holds : inv db)
    (kept : ∀ reply after, Commit db op reply after → inv after) : inv (step db op) := by
  rcases step_cases db op with same | ⟨reply, commit⟩
  · rwa [same]
  · exact kept reply _ commit

end FuseControlPlane.Persistence
