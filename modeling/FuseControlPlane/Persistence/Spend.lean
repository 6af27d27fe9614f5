/-
How a commit moves spend.

`Commit.moved` sums up what a commit does to the executions: nothing, one update, or one new request.
Spend is a `total` over the executions, so every budget argument splits on these three cases.

* `SettlesWithin`: a settlement names a cost within the reservation.
* `Db.counterSpend_eq`: under an active mandate the counters of an admission count what is committed.
* `Commit.mandate_kept`: a mandate keeps its maximum, and its policy unless that is what is set.
-/

import FuseControlPlane.Persistence.Invariants

set_option linter.unusedSectionVars false

namespace FuseControlPlane.Persistence

open Foundation Foundation.JavaScript Domain Identity FuseControlPlane.Core Program

/-! ### What an update commits -/

/-- The resolution a call asks for. -/
def Op.resolution : Op → Option ResolveReconciliationInput
  | resolveReconciliation input => some input
  | _ => none

/-- A settlement names a cost within the reservation of its execution. -/
def SettlesWithin (db : Db) (op : Op) : Prop :=
  ∀ input ∈ op.resolution, ∀ row ∈ db.execution input.organizationId input.requestId,
    input.resolution = .settle → ∀ cost ∈ input.actualCostAtomic, cost ≤ row.reservedCostAtomic

instance (db : Db) (op : Op) : Decidable (SettlesWithin db op) :=
  inferInstanceAs (Decidable (∀ input ∈ op.resolution, ∀ row ∈ _, _))

/-- Going on hold keeps the reservation committed. -/
theorem committed_of_held {row : ExecutionRow} {update : ExecutionUpdate}
    (running : row.status = .executing) (held : (update.set row).status = .reconciliationHold) :
    (update.set row).committed = row.committed := by
  have reserved := (update.set_preserves row).reservedCostAtomic
  simp only [ExecutionRow.committed, running, held, reserved]

/-- A resolution commits the cost it settles at, or nothing. -/
theorem committed_resolutionUpdate {input : ResolveReconciliationInput} {cost : ℕ}
    (priced : resolutionCost input = .ok cost) (row : ExecutionRow) (occurredAt : ℤ) :
    ((resolutionUpdate input.resolution row cost occurredAt).set row).committed = cost := by
  unfold resolutionUpdate
  split
  · rfl
  · rfl
  · next confirmed =>
    rw [resolutionCost, confirmed] at priced
    cases named : input.actualCostAtomic <;> simp_all [ExecutionRow.committed, ExecutionUpdate.set,
      ExecutionRow.billedNoResponse]

/-- A resolution within the reservation commits no more than the reservation. -/
theorem cost_le_of_settlesWithin {db : Db} {input : ResolveReconciliationInput} {cost : ℕ}
    {row : ExecutionRow} (priced : resolutionCost input = .ok cost)
    (found : db.execution input.organizationId input.requestId = some row)
    (within : SettlesWithin db (.resolveReconciliation input)) : cost ≤ row.reservedCostAtomic := by
  unfold resolutionCost at priced
  split at priced
  · next settles named =>
    have bounded := within input rfl row found settles _ named
    split at priced
    · cases priced
      omega
    · cases priced
  · cases priced
  · cases priced
  · cases priced
    exact Nat.zero_le _

/-! ### Sums over the executions of a mandate -/

/-- A weight that an update raises only by raising what is committed. -/
def Shrinks (weight : ExecutionRow → ℕ) : Prop :=
  ∀ old new, ExecutionUpdate.Preserves old new → old.status ≠ .denied →
    new.committed ≤ old.committed → weight new ≤ weight old

/-- The committed spend of executions chosen by what no update changes. -/
theorem shrinks_committed {chosen : ExecutionRow → Bool}
    (fixed : ∀ old new, ExecutionUpdate.Preserves old new → chosen new = chosen old) :
    Shrinks fun row => if chosen row then row.committed else 0 := by
  intro old new preserves _ le
  simp only [fixed old new preserves]
  split
  · exact le
  · exact le_rfl

/-- The number of requests among executions chosen by what no update changes. -/
theorem shrinks_requestCount {chosen : ExecutionRow → Bool}
    (fixed : ∀ old new, ExecutionUpdate.Preserves old new → chosen new = chosen old) :
    Shrinks fun row => if chosen row then row.requestCount else 0 := by
  intro old new preserves ran _
  have counted : old.requestCount = 1 := if_neg ran
  simp only [fixed old new preserves, counted]
  split
  · rw [ExecutionRow.requestCount]
    split <;> omega
  · exact le_rfl

/-- A sum over the executions of a mandate, as a sum over all executions. -/
theorem Db.sum_executionsOf (db : Db) (organizationId mandateId : String)
    (weight : ExecutionRow → ℕ) :
    ((db.executionsOf organizationId mandateId).map weight).sum =
      db.inferenceExecutions.total fun row =>
        if row.ofMandate organizationId mandateId then weight row else 0 :=
  Table.sum_map_filter _ _ _

/-- **Under an active mandate the counters of an admission count what is committed.** -/
theorem Db.counterSpend_eq {db : Db} (wf : WellFormed db) {organizationId mandateId : String}
    {mandate : MandateRow} (found : db.mandate organizationId mandateId = some mandate)
    (active : mandate.state = .active) {row : ExecutionRow} (member : row ∈ db.inferenceExecutions)
    (owned : row.ofMandate organizationId mandateId = true) : row.counterSpend = row.committed := by
  obtain ⟨rfl, rfl⟩ := of_decide_eq_true owned
  have known : db.execution row.organizationId row.requestId = some row := Table.find?_of_mem member
  have released : row.status ≠ .reconciliationHold := by
    intro onHold
    have beyond := wf.beyond known found onHold
    rw [active] at beyond
    exact absurd beyond (by decide)
  have clean : row.status = .executing ∨ row.status = .denied → row.failureCode = none :=
    fun early => (wf.clean known early).1
  unfold ExecutionRow.counterSpend ExecutionRow.committed
  cases status : row.status with
  | denied => simp [clean (.inr status)]
  | executing => simp [clean (.inl status)]
  | completed => simp
  | failed =>
    by_cases billed : row.failureCode = some ExecutionRow.billedNoResponse <;> simp [billed]
  | reconciliationHold => exact absurd status released

/-! ### What a commit does to the executions -/

variable [NodeCrypto]

/-- The executions after a commit. -/
inductive Moved (db : Db) (op : Op) : Table ExecutionRow → Prop
  | kept : Moved db op db.inferenceExecutions
  /-- One execution is updated. -/
  | updated (row : ExecutionRow) (update : ExecutionUpdate)
      (found : db.execution row.organizationId row.requestId = some row)
      (ran : row.status ≠ .denied)
      (shrinks : SettlesWithin db op → (update.set row).committed ≤ row.committed) :
      Moved db op (db.inferenceExecutions.put (update.set row))
  /-- One request is recorded. -/
  | recorded (decisionId : String) (input : AdmitInferenceInput) (decidedAt : ℤ)
      (row : MandatePolicyRow) (result : PolicyDecisionResult)
      (same : op = .admitInference decisionId input) (begun : Begun db input decidedAt row)
      (fresh : db.execution input.organizationId input.requestId = none)
      (evaluated : db.evaluateAdmission input decidedAt row = .ok result) :
      Moved db op (db.inferenceExecutions.put (admittedExecution input decidedAt
        (db.newDecision input decisionId decidedAt row result)))

@[simp] theorem inferenceExecutions_holdMandate (db : Db) (organizationId mandateId : String) :
    (db.holdMandate organizationId mandateId).inferenceExecutions = db.inferenceExecutions := by
  unfold Db.holdMandate
  split
  · split
    · show (if _ then db else _ : Db).inferenceExecutions = _
      split <;> rfl
    · rfl
  · rfl

theorem policy_holdMandate (db : Db) (organizationId mandateId organization policyId : String)
    (version : ℤ) : (db.holdMandate organizationId mandateId).policy organization policyId version =
      db.policy organization policyId version := by
  unfold Db.holdMandate
  split
  · split
    · show (if _ then db else _ : Db).policy _ _ _ = _
      split <;> rfl
    · rfl
  · rfl

theorem inferenceExecutions_released {db after : Db} {organizationId mandateId : String}
    (released : Released db organizationId mandateId after) :
    after.inferenceExecutions = db.inferenceExecutions := by
  cases released <;> rfl

/-- **What a commit does to the executions.** -/
theorem Commit.moved {db after : Db} {op : Op} {reply : Reply} (commit : Commit db op reply after)
    (wf : WellFormed db) : Moved db op after.inferenceExecutions := by
  cases commit with
  | organization | agent | policy | mandate | assigned | branch | transition | policySet =>
    exact .kept
  | previewed | replayed | notFailed | resolvedBefore => exact .kept
  | held op reply row update holds quiet known =>
    obtain ⟨found, running, held⟩ := found_of_heldExecution holds
    rw [Db.holdExecution, inferenceExecutions_holdMandate]
    exact .updated row update found (by simp [running]) fun _ => (committed_of_held running held).le
  | admitted decisionId input decidedAt row result begun fresh evaluated =>
    exact .recorded decisionId input decidedAt row result rfl begun fresh evaluated
  | completed input reply row completedAt found running positive within =>
    obtain ⟨organization, request⟩ := Db.key_of_execution found
    refine .updated row _ (by rw [organization, request]; exact found) (by simp [running]) fun _ => ?_
    show input.actualCostAtomic.toNat ≤ row.committed
    rw [ExecutionRow.committed, running]
    exact Int.toNat_le.mpr within
  | failed input row failedAt found running =>
    obtain ⟨organization, request⟩ := Db.key_of_execution found
    refine .updated row _ (by rw [organization, request]; exact found) (by simp [running]) fun _ => ?_
    have unpaid := (wf.clean found (.inl running)).2
    have nothing : ((ExecutionUpdate.failed input.failureCode failedAt).set row).committed = 0 := by
      simp [ExecutionRow.committed, ExecutionUpdate.set, unpaid]
    rw [nothing]
    exact Nat.zero_le _
  | resolved input row cost occurredAt after found onHold fresh priced released =>
    obtain ⟨organization, request⟩ := Db.key_of_execution found
    rw [inferenceExecutions_released released]
    refine .updated row _ (by rw [organization, request]; exact found) (by simp [onHold])
      fun within => ?_
    rw [committed_resolutionUpdate priced, ExecutionRow.committed, onHold]
    exact cost_le_of_settlesWithin priced found within

/-- **A limit on a sum is kept by a commit** when every request that is recorded adds nothing or fits
in. -/
theorem Moved.total_le {db : Db} {op : Op} {executions : Table ExecutionRow}
    (moved : Moved db op executions) {weight : ExecutionRow → ℕ} (shrinks : Shrinks weight)
    (within : SettlesWithin db op) {limit : ℤ}
    (bounded : db.inferenceExecutions.total weight ≤ limit)
    (fits : ∀ decisionId input decidedAt row result, op = .admitInference decisionId input →
      Begun db input decidedAt row → db.evaluateAdmission input decidedAt row = .ok result →
      let execution := admittedExecution input decidedAt
        (db.newDecision input decisionId decidedAt row result)
      weight execution = 0 ∨
        (db.inferenceExecutions.total weight : ℤ) + weight execution ≤ limit) :
    executions.total weight ≤ limit := by
  cases moved with
  | kept => exact bounded
  | updated row update found ran le =>
    have lower : (db.inferenceExecutions.put (update.set row)).total weight ≤
        db.inferenceExecutions.total weight :=
      Table.total_put_le (by rw [update.key_set]; exact found)
        (shrinks row _ (update.set_preserves row) ran (le within))
    omega
  | recorded decisionId input decidedAt row result same begun fresh evaluated =>
    have absent : db.inferenceExecutions.find? (Keyed.key (admittedExecution input decidedAt
        (db.newDecision input decisionId decidedAt row result))) = none := fresh
    rw [Table.total_put_new absent]
    rcases fits decisionId input decidedAt row result same begun evaluated with nothing | room
    · rw [nothing]
      exact bounded
    · push_cast
      exact room

/-- An execution that was not denied ran before with the same fixed columns, or was just admitted. -/
theorem Moved.origin {db : Db} {op : Op} {executions : Table ExecutionRow}
    (moved : Moved db op executions) {key : String × String} {row : ExecutionRow}
    (found : executions.find? key = some row) (ran : row.status ≠ .denied) :
    (∃ old, db.inferenceExecutions.find? key = some old ∧ ExecutionUpdate.Preserves old row ∧
      old.status ≠ .denied) ∨
      ∃ decisionId input decidedAt bound result, key = (input.organizationId, input.requestId) ∧
        Begun db input decidedAt bound ∧
        row = admittedExecution input decidedAt
          (db.newDecision input decisionId decidedAt bound result) ∧
        Admissible bound.policy (admissionEvaluation input decidedAt bound.mandate
          (db.isAssigned input) (db.countersAt input decidedAt) (db.readScope input)) := by
  cases moved with
  | kept => exact .inl ⟨row, found, .refl row, ran⟩
  | updated old update known ranBefore shrinks =>
    rw [Table.find?_put] at found
    split at found
    · next same =>
      cases found
      rw [same, update.key_set]
      exact .inl ⟨old, known, update.set_preserves old, ranBefore⟩
    · exact .inl ⟨row, found, .refl row, ran⟩
  | recorded decisionId input decidedAt bound result called begun fresh evaluated =>
    rw [Table.find?_put] at found
    split at found
    · next same =>
      cases found
      rcases newExecution_status decisionId evaluated with ⟨denied, _⟩ | ⟨_, admissible, _⟩
      · exact absurd denied ran
      · exact .inr ⟨decisionId, input, decidedAt, bound, result, same, begun, rfl, admissible⟩
    · exact .inl ⟨row, found, .refl row, ran⟩

/-! ### What a commit does to a mandate -/

/-- The call sets the policy of this mandate. -/
def Op.setsPolicyOf (organizationId mandateId : String) : Op → Bool
  | setMandatePolicy organization mandate _ _ _ =>
    organization = organizationId ∧ mandate = mandateId
  | _ => false

/-- What stays the same of a mandate in every commit. -/
structure MandateKept (op : Op) (old new : MandateRow) : Prop where
  maximum : new.maximumSpendAtomic = old.maximumSpendAtomic
  policy : op.setsPolicyOf old.organizationId old.id = false →
    new.policyId = old.policyId ∧ new.policyVersion = old.policyVersion

theorem MandateKept.refl (op : Op) (row : MandateRow) : MandateKept op row row :=
  ⟨rfl, fun _ => ⟨rfl, rfl⟩⟩

/-- A new state keeps the rest of a mandate. -/
theorem MandateKept.state (op : Op) (row : MandateRow) (state : MandateState) :
    MandateKept op row { row with state } := ⟨rfl, fun _ => ⟨rfl, rfl⟩⟩

/-- Putting a mandate on hold keeps the rest of it. -/
theorem mandate_kept_holdMandate {db : Db} {organizationId mandateId organization mandate : String}
    {row : MandateRow} (op : Op) (found : db.mandate organization mandate = some row) :
    ∃ new, (db.holdMandate organizationId mandateId).mandate organization mandate = some new ∧
      MandateKept op row new := by
  rw [Db.mandate_holdMandate]
  split
  · next same =>
    rw [← same.1, ← same.2, found]
    exact ⟨_, rfl, .state op row _⟩
  · exact ⟨row, found, .refl op row⟩

/-- Writing a new state keeps the rest of a mandate. -/
theorem mandate_kept_write {db : Db} {organizationId mandateId : String} {row old : MandateRow}
    {state : MandateState} (op : Op) (known : db.mandate old.organizationId old.id = some old)
    (found : db.mandate organizationId mandateId = some row) :
    ∃ new, ((Write.mandate { old with state }).apply db).mandate organizationId mandateId =
      some new ∧ MandateKept op row new := by
  simp only [mandate_apply]
  split
  · next same =>
    rw [same.1, same.2, known] at found
    cases found
    exact ⟨_, rfl, .state op _ state⟩
  · exact ⟨row, found, .refl op row⟩

/-- **A mandate is never deleted and keeps its maximum, and its policy unless that is set.** -/
theorem Commit.mandate_kept {db after : Db} {op : Op} {reply : Reply}
    (commit : Commit db op reply after) {organizationId mandateId : String} {row : MandateRow}
    (found : db.mandate organizationId mandateId = some row) :
    ∃ new, after.mandate organizationId mandateId = some new ∧ MandateKept op row new := by
  cases commit with
  | organization | agent | policy | assigned | branch =>
    exact ⟨row, by simpa using found, .refl _ row⟩
  | previewed | replayed | notFailed | resolvedBefore => exact ⟨row, found, .refl _ row⟩
  | admitted => exact ⟨row, found, .refl _ row⟩
  | completed | failed => exact ⟨row, by simpa using found, .refl _ row⟩
  | mandate input draft fresh known =>
    simp only [mandate_apply]
    split
    · next same =>
      rw [same.1, same.2] at found
      exact absurd (fresh.symm.trans found) nofun
    · exact ⟨row, found, .refl _ row⟩
  | transition organization mandate target context old valid known allowed =>
    obtain ⟨sameOrganization, sameMandate⟩ := Db.key_of_mandate known
    exact mandate_kept_write _ (by rw [sameOrganization, sameMandate]; exact known) found
  | policySet organization mandate policyId policyVersion context old known =>
    obtain ⟨sameOrganization, sameMandate⟩ := Db.key_of_mandate known
    simp only [mandate_apply]
    split
    · next same =>
      rw [same.1, same.2, sameOrganization, sameMandate, known] at found
      cases found
      exact ⟨_, rfl, rfl, fun other => by simp [Op.setsPolicyOf, sameOrganization, sameMandate] at other⟩
    · exact ⟨row, found, .refl _ row⟩
  | held op reply execution update holds quiet known =>
    exact mandate_kept_holdMandate _ (by simpa using found)
  | resolved input execution cost occurredAt after known onHold fresh priced released =>
    have before : (db.recordResolution input execution cost occurredAt).mandate organizationId
        mandateId = some row := found
    cases released with
    | stillOpen | unheld => exact ⟨row, before, .refl _ row⟩
    | closing => exact ⟨row, by simpa using before, .refl _ row⟩
    | restored old hold known settled held onHold =>
      obtain ⟨sameOrganization, sameMandate⟩ := Db.key_of_mandate known
      obtain ⟨new, written, kept⟩ := @mandate_kept_write _ _ _ _ _ old
        (restoredState hold.priorState) (.resolveReconciliation input)
        (by rw [sameOrganization, sameMandate]; exact known) before
      exact ⟨new, by simpa using written, kept⟩

/-- A mandate is created as a draft, bound to a published policy. -/
theorem Commit.mandate_created {db after : Db} {op : Op} {reply : Reply}
    (commit : Commit db op reply after) {organizationId mandateId : String} {row : MandateRow}
    (absent : db.mandate organizationId mandateId = none)
    (found : after.mandate organizationId mandateId = some row) :
    row.state = .draft ∧ (db.policy organizationId row.policyId row.policyVersion).isSome = true := by
  have unfound : db.mandate organizationId mandateId ≠ some row := by
    rw [absent]
    nofun
  have unwritten : ∀ {old new : MandateRow},
      db.mandate old.organizationId old.id = some old →
      (new.organizationId = old.organizationId ∧ new.id = old.id) →
      ((Write.mandate new).apply db).mandate organizationId mandateId ≠ some row := by
    intro old new known keyed written
    simp only [mandate_apply] at written
    split at written
    · next same =>
      rw [same.1, same.2, keyed.1, keyed.2, known] at absent
      cases absent
    · exact absurd written unfound
  cases commit with
  | organization | agent | policy | assigned | branch =>
    exact absurd (by simpa using found) unfound
  | previewed | replayed | notFailed | resolvedBefore | admitted =>
    exact absurd found unfound
  | completed | failed => exact absurd (by simpa using found) unfound
  | mandate input draft fresh known =>
    simp only [mandate_apply] at found
    split at found
    · next same =>
      cases found
      exact ⟨draft, same.1 ▸ known⟩
    · exact absurd found unfound
  | transition organization mandate target context old valid known allowed =>
    obtain ⟨sameOrganization, sameMandate⟩ := Db.key_of_mandate known
    refine absurd found (@unwritten old _ ?_ ⟨rfl, rfl⟩)
    rw [sameOrganization, sameMandate]
    exact known
  | policySet organization mandate policyId policyVersion context old known =>
    obtain ⟨sameOrganization, sameMandate⟩ := Db.key_of_mandate known
    refine absurd found (@unwritten old _ ?_ ⟨rfl, rfl⟩)
    rw [sameOrganization, sameMandate]
    exact known
  | held op reply execution update holds quiet known =>
    rw [Db.mandate_holdExecution] at found
    split at found
    · next same =>
      rw [← same.1, ← same.2, absent] at found
      cases found
    · exact absurd found unfound
  | resolved input execution cost occurredAt after known onHold fresh priced released =>
    cases released with
    | stillOpen | unheld | closing => exact absurd (by simpa using found) unfound
    | restored old hold known settled held onHold =>
      obtain ⟨sameOrganization, sameMandate⟩ := Db.key_of_mandate known
      refine absurd (by simpa using found) (@unwritten old
        { old with state := restoredState hold.priorState } ?_ ⟨rfl, rfl⟩)
      rw [sameOrganization, sameMandate]
      exact known

/-- A published policy stays as it is. -/
theorem Commit.policy_kept {db after : Db} {op : Op} {reply : Reply}
    (commit : Commit db op reply after) {organizationId policyId : String} {version : ℤ}
    {policy : PolicyVersion} (found : db.policy organizationId policyId version = some policy) :
    after.policy organizationId policyId version = some policy := by
  cases commit with
  | organization | agent | mandate | assigned | branch | transition | policySet =>
    simpa using found
  | previewed | replayed | notFailed | resolvedBefore | admitted => exact found
  | completed | failed => simpa using found
  | policy published context valid fresh =>
    simp only [policy_apply]
    split
    · next same =>
      rw [same.1, same.2.1, same.2.2] at found
      exact absurd (fresh.symm.trans found) nofun
    · exact found
  | held op reply execution update holds quiet known =>
    rw [Db.holdExecution, policy_holdMandate]
    exact found
  | resolved input execution cost occurredAt after known onHold fresh priced released =>
    cases released <;> exact found

end FuseControlPlane.Persistence
