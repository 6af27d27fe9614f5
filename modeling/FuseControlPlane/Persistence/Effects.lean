/-
What each transaction of the policy store does to the store.

The transactions are taken apart here, statement by statement, once and for all: each theorem says
when a transaction commits, with which reply, and which store it leaves.

* `Db.holdMandate`: what `holdMandateForReconciliation` does.
* `Released`: the ways `releaseMandate` can end.
* `evaluateAdmission`, `recordAdmission`: the decision on a new request and its record, read off the
  store before the call.
* `heldExecution`: the execution a call puts on hold, read off the store before the call.
-/

import FuseControlPlane.Persistence.PolicyStore

set_option linter.unusedSectionVars false

namespace FuseControlPlane.Persistence

open Foundation Foundation.JavaScript Domain Identity FuseControlPlane.Core Program

/-! ### The statements, as rewrite rules -/

@[simp] theorem sql_result {β : Type} (statement : Sql β) (db : Db) :
    sql.result statement db = statement.result db := rfl

@[simp] theorem sql_writes {β : Type} (statement : Sql β) (db : Db) :
    sql.writes statement db = statement.writes db := rfl

@[simp] theorem sql_apply (write : Write) (db : Db) : sql.apply write db = write.apply db := rfl

/-- A statement that may violate a constraint, followed by more. -/
@[simp] theorem atomic_execute_bind {α : Type} {statement : Sql (Except String Unit)}
    {next : Unit → Transaction α} {db : Db} {outcome : α × Db} :
    sql.atomic (execute statement >>= next) db = .ok outcome ↔
      statement.result db = .ok () ∧
        sql.atomic (next ()) (sql.applyAll (statement.writes db) db) = .ok outcome := by
  unfold execute
  cases checked : statement.result db with
  | error error => simp [checked, Program.fromExcept]
  | ok value => simp [checked, Program.fromExcept]

@[simp] theorem atomic_execute {statement : Sql (Except String Unit)} {db : Db}
    {outcome : Unit × Db} :
    sql.atomic (execute statement) db = .ok outcome ↔
      statement.result db = .ok () ∧ ((), sql.applyAll (statement.writes db) db) = outcome := by
  have rule := @atomic_execute_bind Unit statement pure db outcome
  simpa using rule

@[simp] theorem inserted_ok (value : Unit) (write : Write) :
    Sql.inserted (.ok value) write = [write] := rfl

/-- An insert that violates nothing writes its row. -/
theorem applyAll_inserted {checked : Except String Unit} (write : Write) (db : Db)
    (passed : checked = .ok ()) : sql.applyAll (Sql.inserted checked write) db = write.apply db := by
  rw [passed]
  rfl

@[simp] theorem unique_eq_ok {α : Type} {holder : Option α} {index : String} {value : Unit} :
    Db.unique holder index = .ok value ↔ holder = none := by
  simp [Db.unique]

@[simp] theorem references_eq_ok {α : Type} {referenced : Option α} {table : String} {value : Unit} :
    Db.references referenced table = .ok value ↔ referenced.isSome = true := by
  simp [Db.references]

/-! ### Holding and releasing a mandate -/

/-- The store after a mandate was put on hold: a hold row remembers the first state it was taken
from, and the mandate is in `reconciliation_hold`. Beyond the holdable states nothing happens. -/
def Db.holdMandate (db : Db) (organizationId mandateId : String) : Db :=
  match db.mandate organizationId mandateId with
  | some row =>
    if checked : row.state ∈ holdable then
      let remembered :=
        if (db.hold organizationId mandateId).isSome then db
        else (Write.hold ⟨organizationId, mandateId, row.state, checked⟩).apply db
      (Write.mandate { row with state := .reconciliationHold }).apply remembered
    else db
  | none => db

/-- A hold row is inserted when there is none. -/
theorem writes_insertHold {row : HoldRow} {db : Db}
    (found : (db.mandate row.organizationId row.mandateId).isSome = true) :
    sql.applyAll ((Sql.insertHold row).writes db) db =
      if (db.hold row.organizationId row.mandateId).isSome then db
      else (Write.hold row).apply db := by
  have checked : db.checkHold row = .ok () := by simpa [Db.checkHold] using found
  simp only [Sql.writes, checked, inserted_ok]
  split <;> rfl

/-- An update of a mandate that exists and matches writes its state. -/
theorem writes_updateMandate {organizationId mandateId : String} {update : MandateUpdate} {db : Db}
    {row : MandateRow} (found : db.mandate organizationId mandateId = some row)
    (applies : update.applies row = true) :
    sql.applyAll ((Sql.updateMandate organizationId mandateId update).writes db) db =
      (Write.mandate { row with state := update.target }).apply db := by
  simp [Sql.writes, found, applies]

@[simp] theorem atomic_holdMandate_bind {α : Type} {organizationId mandateId : String}
    {next : Unit → Transaction α} {db : Db} {outcome : α × Db} :
    sql.atomic (holdMandateForReconciliation organizationId mandateId >>= next) db = .ok outcome ↔
      (db.mandate organizationId mandateId).isSome = true ∧
        sql.atomic (next ()) (db.holdMandate organizationId mandateId) = .ok outcome := by
  simp only [holdMandateForReconciliation, Db.holdMandate, bind_assoc,
    Semantics.atomic_perform_bind, Semantics.atomic_orThrow_bind, sql_result, sql_writes, Sql.result,
    Sql.writes, Semantics.applyAll_nil]
  cases found : db.mandate organizationId mandateId with
  | none => simp
  | some row =>
    simp only [Option.some.injEq, exists_eq_left', Option.isSome_some, true_and]
    by_cases checked : row.state ∈ holdable
    · have kept : (if (db.hold organizationId mandateId).isSome then db
          else (Write.hold ⟨organizationId, mandateId, row.state, checked⟩).apply db).mandate
            organizationId mandateId = some row := by
        split
        · exact found
        · exact found
      rw [dif_pos checked, dif_pos checked, bind_assoc, atomic_execute_bind,
        Semantics.atomic_perform_bind, writes_insertHold (by rw [found]; rfl), sql_writes,
        writes_updateMandate kept rfl]
      simp [Sql.result, Db.checkHold, found, MandateUpdate.target]
    · rw [dif_neg checked, dif_neg checked]
      rfl

@[simp] theorem atomic_holdMandate {organizationId mandateId : String} {db : Db}
    {outcome : Unit × Db} :
    sql.atomic (holdMandateForReconciliation organizationId mandateId) db = .ok outcome ↔
      (db.mandate organizationId mandateId).isSome = true ∧
        ((), db.holdMandate organizationId mandateId) = outcome := by
  have rule := @atomic_holdMandate_bind Unit organizationId mandateId pure db outcome
  simpa using rule

/-- How releasing a mandate can end. -/
inductive Released (db : Db) (organizationId mandateId : String) : Db → Prop
  /-- Another case is open: the hold stays. -/
  | stillOpen (open_ : db.openCase organizationId mandateId = true) :
      Released db organizationId mandateId db
  /-- There is no hold, and the mandate is beyond holds. -/
  | unheld (row : MandateRow) (found : db.mandate organizationId mandateId = some row)
      (settled : db.openCase organizationId mandateId = false)
      (absent : db.hold organizationId mandateId = none)
      (beyond : row.state = .closed ∨ row.state = .expired) : Released db organizationId mandateId db
  /-- The mandate gets the remembered state back. -/
  | restored (row : MandateRow) (hold : HoldRow)
      (found : db.mandate organizationId mandateId = some row)
      (settled : db.openCase organizationId mandateId = false)
      (held : db.hold organizationId mandateId = some hold)
      (onHold : row.state = .reconciliationHold) :
      Released db organizationId mandateId
        ((Write.removeHold organizationId mandateId).apply
          ((Write.mandate { row with state := restoredState hold.priorState }).apply db))
  /-- The mandate was moved on to `closing` meanwhile. -/
  | closing (row : MandateRow) (hold : HoldRow)
      (found : db.mandate organizationId mandateId = some row)
      (settled : db.openCase organizationId mandateId = false)
      (held : db.hold organizationId mandateId = some hold)
      (movedOn : row.state = .closing) :
      Released db organizationId mandateId ((Write.removeHold organizationId mandateId).apply db)

/-- Deleting a hold row that exists. -/
theorem writes_deleteHold {organizationId mandateId : String} {db : Db}
    (held : (db.hold organizationId mandateId).isSome = true) :
    sql.applyAll ((Sql.deleteHold organizationId mandateId).writes db) db =
      (Write.removeHold organizationId mandateId).apply db := by
  simp [Sql.writes, held]

/-- A release commits exactly in the ways of `Released`. -/
theorem atomic_releaseMandate {organizationId mandateId : String} {db after : Db} {value : Unit} :
    sql.atomic (releaseMandate organizationId mandateId) db = .ok (value, after) ↔
      (db.mandate organizationId mandateId).isSome = true ∧
        Released db organizationId mandateId after := by
  simp only [releaseMandate, Semantics.atomic_perform_bind, Semantics.atomic_orThrow_bind,
    sql_result, sql_writes, Sql.result, Sql.writes, Semantics.applyAll_nil]
  cases found : db.mandate organizationId mandateId with
  | none => simp
  | some row =>
    simp only [Option.some.injEq, exists_eq_left', Option.isSome_some, true_and]
    cases settled : db.openCase organizationId mandateId with
    | true =>
      simp only [pure_eq, Semantics.atomic_done, Except.ok.injEq, Prod.mk.injEq]
      constructor
      · rintro ⟨_, rfl⟩
        exact .stillOpen settled
      · intro released
        cases released <;> simp_all
    | false =>
      cases held : db.hold organizationId mandateId with
      | none =>
        simp only [Semantics.atomic_throwUnless, decide_eq_true_eq, Prod.mk.injEq, true_and]
        constructor
        · rintro ⟨beyond, rfl⟩
          exact .unheld row found settled held beyond
        · intro released
          cases released <;> simp_all
      | some hold =>
        simp only [restoreMandate]
        by_cases onHold : row.state = .reconciliationHold
        · have kept : ((Write.mandate { row with state := restoredState hold.priorState }).apply
              db).hold organizationId mandateId = some hold := held
          rw [if_pos onHold, Semantics.atomic_perform_bind, Semantics.atomic_perform, sql_writes,
            sql_writes, writes_updateMandate found (by simp [MandateUpdate.applies, onHold]),
            writes_deleteHold (by rw [MandateUpdate.target, kept]; rfl)]
          simp only [Except.ok.injEq, Prod.mk.injEq, MandateUpdate.target]
          constructor
          · rintro ⟨_, rfl⟩
            exact .restored row hold found settled held onHold
          · intro released
            cases released <;> simp_all
        · rw [if_neg onHold]
          simp only [Semantics.atomic_throwUnless_bind, Semantics.atomic_perform, sql_writes,
            decide_eq_true_eq, Except.ok.injEq, Prod.mk.injEq]
          rw [writes_deleteHold (by rw [held]; rfl)]
          constructor
          · rintro ⟨movedOn, _, rfl⟩
            exact .closing row hold found settled held movedOn
          · intro released
            cases released <;> simp_all

/-! ### Admission, read off the store -/

/-- The writes of an update to an execution that exists and matches. -/
theorem writes_updateExecution {organizationId requestId : String} {update : ExecutionUpdate}
    {db : Db} {row : ExecutionRow} (found : db.execution organizationId requestId = some row)
    (applies : update.applies row = true) :
    sql.applyAll ((Sql.updateExecution organizationId requestId update).writes db) db =
      (Write.execution (update.set row)).apply db := by
  simp [Sql.writes, found, applies]

/-- An execution is found under its own key. -/
theorem Db.key_of_execution {db : Db} {organizationId requestId : String} {row : ExecutionRow}
    (found : db.execution organizationId requestId = some row) :
    row.organizationId = organizationId ∧ row.requestId = requestId := by
  have key := Table.key_of_find? found
  exact ⟨congrArg Prod.fst key, congrArg Prod.snd key⟩

namespace AdmitInferenceInput

/-- The checks of a request before the transaction begins. -/
def isValid (input : AdmitInferenceInput) : Bool :=
  !isBlank input.requestId && !isBlank input.organizationId && !isBlank input.mandateId &&
    !isBlank input.agentId && isFingerprint input.requestFingerprint

end AdmitInferenceInput

section Admission

variable [NodeCrypto]

namespace Db

variable (db : Db) (input : AdmitInferenceInput)

/-- The branch scope of a new request. -/
def readScope : Option WorkloadScope :=
  input.scope.map fun (branchId, workloadClass) =>
    { branchId
      workloadClass
      branch := db.branch input.organizationId input.mandateId branchId
      usageByClass := db.workloadUsage input.organizationId input.mandateId branchId
      childAuthority := db.childAuthority input.organizationId input.mandateId branchId }

/-- The counters of a new request. -/
def countersAt (decidedAt : ℤ) : SpendCounters :=
  db.spendCounters input.organizationId input.mandateId (decidedAt - 60 * 60 * 1000)
    (decidedAt - 24 * 60 * 60 * 1000) (decidedAt - 60 * 1000)

/-- The agent is assigned to the mandate. -/
def isAssigned : Bool :=
  (db.mandateAgentAssignments.find? (input.organizationId, input.mandateId, input.agentId)).isSome

/-- The outcome of the policy evaluation of a new request. -/
def evaluateAdmission (decidedAt : ℤ) (row : MandatePolicyRow) :
    Except String PolicyDecisionResult := do
  ((db.readScope input).bind (·.branch)).elim (.ok ()) verifyBranchIntegrity
  evaluatePolicy row.policy (admissionEvaluation input decidedAt row.mandate (db.isAssigned input)
    (db.countersAt input decidedAt) (db.readScope input))

/-- The decision record of a new request. -/
def newDecision (decisionId : String) (decidedAt : ℤ) (row : MandatePolicyRow)
    (result : PolicyDecisionResult) : StoredPolicyDecision :=
  admissionDecision decisionId input decidedAt row (db.countersAt input decidedAt)
    (db.readScope input) result

/-- The store after a new request was recorded. -/
def recordAdmission (decidedAt : ℤ) (decision : StoredPolicyDecision) : Db :=
  (Write.execution (admittedExecution input decidedAt decision)).apply
    ((Write.decision decision).apply db)

end Db

@[simp] theorem atomic_workloadScope_bind {α : Type} {input : AdmitInferenceInput}
    {next : Option WorkloadScope → Transaction α} {db : Db} {outcome : α × Db} :
    sql.atomic (workloadScope input input.scope >>= next) db = .ok outcome ↔
      ((db.readScope input).bind (·.branch)).elim (.ok ()) verifyBranchIntegrity = .ok () ∧
        sql.atomic (next (db.readScope input)) db = .ok outcome := by
  cases named : input.scope with
  | none => simp [workloadScope, Db.readScope, named]
  | some scope =>
    simp [workloadScope, Db.readScope, named, Sql.result, Sql.writes, Unique.exists_iff]

/-- A preview commits with the reply of the evaluation and leaves the store alone. -/
theorem atomic_admitNew_preview {decisionId : String} {input : AdmitInferenceInput} {decidedAt : ℤ}
    {row : MandatePolicyRow} {db after : Db} {reply : AdmissionResult} :
    sql.atomic (admitNew decisionId input decidedAt row true) db = .ok (reply, after) ↔
      ∃ result, db.evaluateAdmission input decidedAt row = .ok result ∧
        reply = admissionReply input (db.newDecision input decisionId decidedAt row result) ∧
        after = db := by
  simp only [admitNew, Semantics.atomic_perform_bind, sql_result, sql_writes, Sql.result, Sql.writes,
    Semantics.applyAll_nil, atomic_workloadScope_bind, Semantics.atomic_fromExcept_bind, if_true,
    pure_eq, Semantics.atomic_done, Except.ok.injEq, Prod.mk.injEq, Db.evaluateAdmission,
    bind_unit_eq_ok]
  constructor
  · rintro ⟨intact, result, evaluated, rfl, rfl⟩
    exact ⟨result, ⟨intact, evaluated⟩, rfl, rfl⟩
  · rintro ⟨result, ⟨intact, evaluated⟩, rfl, rfl⟩
    exact ⟨intact, result, evaluated, rfl, rfl⟩

/-- A new request commits with the reply of the evaluation once both rows can be inserted. -/
theorem atomic_admitNew_record {decisionId : String} {input : AdmitInferenceInput} {decidedAt : ℤ}
    {row : MandatePolicyRow} {db after : Db} {reply : AdmissionResult} :
    sql.atomic (admitNew decisionId input decidedAt row false) db = .ok (reply, after) ↔
      ∃ result, db.evaluateAdmission input decidedAt row = .ok result ∧
        reply = admissionReply input (db.newDecision input decisionId decidedAt row result) ∧
        db.checkDecision (db.newDecision input decisionId decidedAt row result) = .ok () ∧
        ((Write.decision (db.newDecision input decisionId decidedAt row result)).apply
          db).checkExecution (admittedExecution input decidedAt
            (db.newDecision input decisionId decidedAt row result)) = .ok () ∧
        after = db.recordAdmission input decidedAt
          (db.newDecision input decisionId decidedAt row result) := by
  simp only [admitNew, Semantics.atomic_perform_bind, sql_result, sql_writes, Sql.result, Sql.writes,
    Semantics.applyAll_nil, atomic_workloadScope_bind, Semantics.atomic_fromExcept_bind,
    Bool.false_eq_true, if_false, atomic_execute_bind, pure_eq, Semantics.atomic_done,
    Except.ok.injEq, Prod.mk.injEq, Db.evaluateAdmission, bind_unit_eq_ok]
  constructor
  · rintro ⟨intact, result, evaluated, decided, executed, rfl, rfl⟩
    simp only [decided, inserted_ok, Semantics.applyAll_cons, Semantics.applyAll_nil,
      sql_apply] at executed
    refine ⟨result, ⟨intact, evaluated⟩, rfl, decided, executed, ?_⟩
    simp only [decided, executed, inserted_ok, Semantics.applyAll_cons, Semantics.applyAll_nil,
      sql_apply]
    rfl
  · rintro ⟨result, ⟨intact, evaluated⟩, rfl, decided, executed, rfl⟩
    simp only [Db.newDecision, Db.countersAt] at decided executed
    refine ⟨intact, result, evaluated, decided, ?_⟩
    simp only [decided, executed, inserted_ok, Semantics.applyAll_cons, Semantics.applyAll_nil,
      sql_apply, true_and]
    exact ⟨rfl, rfl⟩

/-- The mandate and its policy, as they are joined. -/
theorem Db.mandatePolicy_eq_some {db : Db} {organizationId mandateId : String}
    {row : MandatePolicyRow} :
    db.mandatePolicy organizationId mandateId = some row ↔
      db.mandate organizationId mandateId = some row.mandate ∧
        db.policy organizationId row.mandate.policyId row.mandate.policyVersion =
          some row.policy := by
  simp only [mandatePolicy, Option.bind_eq_bind, Option.bind_eq_some_iff, Option.pure_def,
    Option.some.injEq]
  constructor
  · rintro ⟨mandate, found, policy, known, rfl⟩
    exact ⟨found, known⟩
  · rintro ⟨found, known⟩
    exact ⟨row.mandate, found, row.policy, known, rfl⟩

/-- What `admitInference` has found before it looks for the request. -/
structure Begun (db : Db) (input : AdmitInferenceInput) (decidedAt : ℤ) (row : MandatePolicyRow) :
    Prop where
  valid : input.isValid = true
  time : input.decidedAt = some decidedAt
  found : db.mandatePolicy input.organizationId input.mandateId = some row

theorem atomic_admitInference {decisionId : String} {input : AdmitInferenceInput}
    {previewOnly : Bool} {db : Db} {outcome : AdmissionResult × Db} :
    sql.atomic (admitInference decisionId input previewOnly) db = .ok outcome ↔
      ∃ decidedAt row, Begun db input decidedAt row ∧
        match db.execution input.organizationId input.requestId with
        | some existing => existing.requestFingerprint = input.requestFingerprint ∧
            sql.atomic (admissionFromExecution existing decidedAt) db = .ok outcome
        | none => sql.atomic (admitNew decisionId input decidedAt row previewOnly) db = .ok outcome := by
  simp only [admitInference, Semantics.atomic_throwUnless_bind, Semantics.atomic_orThrow_bind,
    Semantics.atomic_perform_bind, sql_result, sql_writes, Sql.result, Sql.writes,
    Semantics.applyAll_nil]
  constructor
  · rintro ⟨request, organization, mandate, agent, fingerprint, decidedAt, time, row, found, rest⟩
    refine ⟨decidedAt, row, ⟨?_, time, found⟩, ?_⟩
    · simp only [AdmitInferenceInput.isValid, request, organization, mandate, agent, fingerprint,
        Bool.and_self]
    · cases known : db.execution input.organizationId input.requestId with
      | none => simpa [known] using rest
      | some existing => simpa [known] using rest
  · rintro ⟨decidedAt, row, ⟨valid, time, found⟩, rest⟩
    simp only [AdmitInferenceInput.isValid, Bool.and_eq_true] at valid
    obtain ⟨⟨⟨⟨request, organization⟩, mandate⟩, agent⟩, fingerprint⟩ := valid
    refine ⟨request, organization, mandate, agent, fingerprint, decidedAt, time, row, found, ?_⟩
    cases known : db.execution input.organizationId input.requestId with
    | none => simpa [known] using rest
    | some existing => simpa [known] using rest

end Admission

/-- A replay of a known request: either its worker is overdue and it is put on hold, or the reply is
read off its row. -/
theorem atomic_admissionFromExecution {row : ExecutionRow} {retriedAt : ℤ} {db after : Db}
    {reply : AdmissionResult}
    (found : db.execution row.organizationId row.requestId = some row) :
    sql.atomic (admissionFromExecution row retriedAt) db = .ok (reply, after) ↔
      ∃ decision, db.policyDecisions.find? (row.organizationId, row.decisionId) = some decision ∧
        if row.status = .executing ∧ leaseExpired row retriedAt = true then
          (db.mandate row.organizationId row.mandateId).isSome = true ∧ reply = .failed ∧
            after = ((Write.execution ((ExecutionUpdate.leaseExpired retriedAt).set row)).apply
              db).holdMandate row.organizationId row.mandateId
        else knownReply row decision = .ok reply ∧ after = db := by
  change sql.atomic (orThrow (db.policyDecisions.find? (row.organizationId, row.decisionId)) _ >>= _)
    db = _ ↔ _
  rw [Semantics.atomic_orThrow_bind]
  refine exists_congr fun decision => and_congr_right fun _ => ?_
  by_cases overdue : row.status = .executing ∧ leaseExpired row retriedAt = true
  · rw [if_pos overdue, if_pos overdue, Semantics.atomic_perform_bind, sql_writes,
      writes_updateExecution found (by simp [ExecutionUpdate.applies, overdue.1]),
      atomic_holdMandate_bind]
    simp only [pure_eq, Semantics.atomic_done, Except.ok.injEq, Prod.mk.injEq]
    exact and_congr_right fun _ => and_congr eq_comm eq_comm
  · rw [if_neg overdue, if_neg overdue, Semantics.atomic_fromExcept]
    constructor
    · rintro ⟨known, same, equal⟩
      obtain ⟨rfl, rfl⟩ := Prod.mk.inj equal
      exact ⟨same, rfl⟩
    · rintro ⟨same, rfl⟩
      exact ⟨reply, same, rfl⟩

/-- No reply to a known request asks for execution. -/
theorem knownReply_quiet {row : ExecutionRow} {decision : StoredPolicyDecision}
    {reply : AdmissionResult} (known : knownReply row decision = .ok reply)
    (first : StoredPolicyDecision) (reserved : ℤ) : reply ≠ .execute first reserved := by
  rintro rfl
  unfold knownReply at known
  split at known
  all_goals first | cases known | (split at known <;> cases known)

/-! ### Holds, read off the store -/

/-- The execution a replay puts on hold: it is known under this fingerprint, still executing, and its
worker is overdue. -/
def replayHold (db : Db) (input : AdmitInferenceInput) : Option (ExecutionRow × ExecutionUpdate) := do
  let retriedAt ← input.decidedAt
  let row ← db.execution input.organizationId input.requestId
  if input.isValid = true ∧ (db.mandatePolicy input.organizationId input.mandateId).isSome = true ∧
      row.requestFingerprint = input.requestFingerprint ∧
      (db.policyDecisions.find? (row.organizationId, row.decisionId)).isSome = true ∧
      row.status = .executing ∧ leaseExpired row retriedAt = true then
    some (row, .leaseExpired retriedAt)
  else none

/-- A replay is held exactly when `replayHold` finds the execution. -/
theorem replayHold_eq_some {db : Db} {input : AdmitInferenceInput} {row : ExecutionRow}
    {update : ExecutionUpdate} :
    replayHold db input = some (row, update) ↔
      ∃ retriedAt mandate decision, Begun db input retriedAt mandate ∧
        db.execution input.organizationId input.requestId = some row ∧
        row.requestFingerprint = input.requestFingerprint ∧
        db.policyDecisions.find? (row.organizationId, row.decisionId) = some decision ∧
        (row.status = .executing ∧ leaseExpired row retriedAt = true) ∧
        update = .leaseExpired retriedAt := by
  unfold replayHold
  simp only [Option.bind_eq_bind, Option.bind_eq_some_iff, Option.ite_none_right_eq_some,
    Option.some.injEq, Prod.mk.injEq, Option.isSome_iff_exists]
  constructor
  · rintro ⟨retriedAt, time, found, known, ⟨valid, ⟨mandate, reads⟩, same, ⟨decision, decided⟩,
      running, overdue⟩, rfl, rfl⟩
    exact ⟨retriedAt, mandate, decision, ⟨valid, time, reads⟩, known, same, decided,
      ⟨running, overdue⟩, rfl⟩
  · rintro ⟨retriedAt, mandate, decision, ⟨valid, time, reads⟩, known, same, decided,
      ⟨running, overdue⟩, rfl⟩
    exact ⟨retriedAt, time, row, known, ⟨valid, ⟨mandate, reads⟩, same, ⟨decision, decided⟩,
      running, overdue⟩, rfl, rfl⟩

/-- The execution a call puts on hold, and the update that does it. -/
def heldExecution (db : Db) : Op → Option (ExecutionRow × ExecutionUpdate)
  | .admitInference _ input => replayHold db input
  | .previewInference _ input => replayHold db input
  | .holdInference input => do
    let row ← db.execution input.organizationId input.requestId
    let heldAt ← input.heldAt
    if isHoldReason input.reasonCode = true ∧ row.status = .executing then
      some (row, .held input.response input.reasonCode heldAt)
    else none
  | .completeInference input => do
    let row ← db.execution input.organizationId input.requestId
    let completedAt ← input.completedAt
    if row.status = .executing ∧ (row.reservedCostAtomic : ℤ) < input.actualCostAtomic then
      some (row, .overrun input.actualCostAtomic.toNat input.response completedAt)
    else none
  | _ => none

/-- The store after a call put an execution on hold. -/
def Db.holdExecution (db : Db) (row : ExecutionRow) (update : ExecutionUpdate) : Db :=
  ((Write.execution (update.set row)).apply db).holdMandate row.organizationId row.mandateId

/-! ### Moves, read off the store -/

/-- What `transitionMandateState` asks of its input. -/
def isMoveInput (organizationId mandateId : String) (context : PolicyMutationContext) : Bool :=
  !isBlank context.actorId && !isBlank context.causationId && context.occurredAt.isSome &&
    !isBlank organizationId && !isBlank mandateId

/-- The mandate an operator moves, and the state it is moved to. -/
def operatorMove (db : Db) : Op → Option (String × String × MandateState)
  | .transitionMandateState organizationId mandateId target context =>
    if isMoveInput organizationId mandateId context = true ∧
        (db.mandate organizationId mandateId).any
          (fun row => (mandateTransitions row.state).contains target) = true then
      some (organizationId, mandateId, target)
    else none
  | _ => none

/-! ### Resolutions -/

/-- What `resolveReconciliation` asks of its input: the time it names and the cost it settles at. -/
structure ResolutionValid (input : ResolveReconciliationInput) (occurredAt : ℤ) (cost : ℕ) :
    Prop where
  actor : isBlank input.context.actorId = false
  causation : isBlank input.context.causationId = false
  time : input.context.occurredAt = some occurredAt
  organization : isBlank input.organizationId = false
  request : isBlank input.requestId = false
  note : isBlank input.note = false ∧ length input.note ≤ 2000
  reference : isBlank input.externalReference = false ∧ length input.externalReference ≤ 512
  priced : resolutionCost input = .ok cost

/-- The store after a resolution was recorded and before its mandate is released. -/
def Db.recordResolution (db : Db) (input : ResolveReconciliationInput) (row : ExecutionRow)
    (cost : ℕ) (occurredAt : ℤ) : Db :=
  (Write.execution ((resolutionUpdate input.resolution row cost occurredAt).set row)).apply
    ((Write.resolution (newResolution input cost)).apply db)

/-- An update that resolves a case has no condition on the row. -/
theorem resolutionUpdate_applies (resolution : ReconciliationResolution) (row : ExecutionRow)
    (cost : ℕ) (occurredAt : ℤ) : (resolutionUpdate resolution row cost occurredAt).applies row := by
  unfold resolutionUpdate
  split <;> rfl

theorem atomic_resolveReconciliation {input : ResolveReconciliationInput} {db : Db}
    {outcome : Unit × Db} :
    sql.atomic (resolveReconciliation input) db = .ok outcome ↔
      ∃ occurredAt cost row, ResolutionValid input occurredAt cost ∧
        db.execution input.organizationId input.requestId = some row ∧
        match db.resolution input.organizationId input.requestId with
        | some existing => isExactReplay existing input cost = true ∧ ((), db) = outcome
        | none => row.status = .reconciliationHold ∧
            sql.atomic (releaseMandate input.organizationId row.mandateId)
              (db.recordResolution input row cost occurredAt) = .ok outcome := by
  have opened : ∀ (row : ExecutionRow) (cost : ℕ) (occurredAt : ℤ),
      db.execution input.organizationId input.requestId = some row →
      db.resolution input.organizationId input.requestId = none →
      (sql.atomic (do
        throwUnless (row.status = .reconciliationHold) "RECONCILIATION_CASE_NOT_OPEN"
        execute (.insertResolution (newResolution input cost))
        perform (.updateExecution input.organizationId input.requestId
          (resolutionUpdate input.resolution row cost occurredAt))
        releaseMandate input.organizationId row.mandateId) db = .ok outcome ↔
      row.status = .reconciliationHold ∧
        sql.atomic (releaseMandate input.organizationId row.mandateId)
          (db.recordResolution input row cost occurredAt) = .ok outcome) := by
    intro row cost occurredAt found fresh
    have checked : db.checkResolution (newResolution input cost) = .ok () := by
      simp [Db.checkResolution, newResolution, found, fresh]
    have inserted : sql.applyAll ((Sql.insertResolution (newResolution input cost)).writes db) db =
        (Write.resolution (newResolution input cost)).apply db := applyAll_inserted _ _ checked
    have kept : ((Write.resolution (newResolution input cost)).apply db).execution
        input.organizationId input.requestId = some row := found
    rw [Semantics.atomic_throwUnless_bind, atomic_execute_bind, Semantics.atomic_perform_bind,
      inserted, sql_writes,
      writes_updateExecution kept (resolutionUpdate_applies input.resolution row cost occurredAt),
      decide_eq_true_eq]
    exact and_congr_right fun _ => and_iff_right checked
  simp only [resolveReconciliation, validateContext, bind_assoc, Semantics.atomic_throwUnless_bind,
    Semantics.atomic_orThrow_bind, Semantics.atomic_fromExcept_bind,
    Semantics.atomic_perform_bind]
  constructor
  · rintro ⟨actor, causation, occurredAt, time, organization, request, note, reference, cost, priced,
      row, found, committed⟩
    change db.execution input.organizationId input.requestId = some row at found
    change sql.atomic (match db.resolution input.organizationId input.requestId with
      | some existing => _
      | none => _) db = _ at committed
    refine ⟨occurredAt, cost, row, ⟨by simpa using actor, by simpa using causation, time,
      by simpa using organization, by simpa using request, by simpa using note,
      by simpa using reference, priced⟩, found, ?_⟩
    cases fresh : db.resolution input.organizationId input.requestId with
    | some existing =>
      rw [fresh] at committed
      exact (Semantics.atomic_throwUnless _).mp committed
    | none =>
      rw [fresh] at committed
      exact (opened row cost occurredAt found fresh).mp committed
  · rintro ⟨occurredAt, cost, row, valid, found, committed⟩
    refine ⟨by simpa using valid.actor, by simpa using valid.causation, occurredAt, valid.time,
      by simpa using valid.organization, by simpa using valid.request, by simpa using valid.note,
      by simpa using valid.reference, cost, valid.priced, row, found, ?_⟩
    change sql.atomic (match db.resolution input.organizationId input.requestId with
      | some existing => _
      | none => _) db = _
    cases fresh : db.resolution input.organizationId input.requestId with
    | some existing =>
      rw [fresh] at committed
      exact (Semantics.atomic_throwUnless _).mpr committed
    | none =>
      rw [fresh] at committed
      exact (opened row cost occurredAt found fresh).mpr committed

end FuseControlPlane.Persistence
