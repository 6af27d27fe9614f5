/-
What holds in every state of the policy store.

`WellFormed` collects the facts every later argument starts from: foreign keys, which rows may carry a
failure code or a resolution, and that a mandate with an open reconciliation case is beyond `active`.
`WellFormed.commit` is the step, `wellFormed_run` the run.

* `mandate_apply`, `execution_apply`, …: what one write does to each lookup.
* `Db.mandate_holdMandate`, `Db.hold_holdMandate`: what a hold does to them.
-/

import FuseControlPlane.Persistence.Commits

set_option linter.unusedSectionVars false

namespace FuseControlPlane.Persistence

open Foundation Foundation.JavaScript Domain Identity FuseControlPlane.Core Program

/-! ### Lookups after a write -/

section Lookups

variable (write : Write) (db : Db) (organizationId id : String)

@[simp] theorem mandate_apply : (write.apply db).mandate organizationId id =
    match write with
    | .mandate row => if organizationId = row.organizationId ∧ id = row.id then some row
        else db.mandate organizationId id
    | _ => db.mandate organizationId id := by
  cases write with
  | mandate row =>
    refine (Table.find?_put db.controlMandates row _).trans ?_
    simp [Keyed.key, Prod.mk.injEq, Db.mandate]
  | _ => rfl

@[simp] theorem execution_apply : (write.apply db).execution organizationId id =
    match write with
    | .execution row => if organizationId = row.organizationId ∧ id = row.requestId then some row
        else db.execution organizationId id
    | _ => db.execution organizationId id := by
  cases write with
  | execution row =>
    refine (Table.find?_put db.inferenceExecutions row _).trans ?_
    simp [Keyed.key, Prod.mk.injEq, Db.execution]
  | _ => rfl

@[simp] theorem resolution_apply : (write.apply db).resolution organizationId id =
    match write with
    | .resolution row => if organizationId = row.organizationId ∧ id = row.requestId then some row
        else db.resolution organizationId id
    | _ => db.resolution organizationId id := by
  cases write with
  | resolution row =>
    refine (Table.find?_put db.reconciliationResolutions row _).trans ?_
    simp [Keyed.key, Prod.mk.injEq, Db.resolution]
  | _ => rfl

@[simp] theorem hold_apply : (write.apply db).hold organizationId id =
    match write with
    | .hold row => if organizationId = row.organizationId ∧ id = row.mandateId then some row
        else db.hold organizationId id
    | .removeHold organization mandate =>
        if organizationId = organization ∧ id = mandate then none else db.hold organizationId id
    | _ => db.hold organizationId id := by
  cases write with
  | hold row =>
    refine (Table.find?_put db.mandateReconciliationHolds row _).trans ?_
    simp [Keyed.key, Prod.mk.injEq, Db.hold]
  | removeHold organization mandate =>
    refine (Table.find?_erase db.mandateReconciliationHolds _ _).trans ?_
    simp [Prod.mk.injEq, Db.hold]
  | _ => rfl

@[simp] theorem branch_apply (branchId : String) :
    (write.apply db).branch organizationId id branchId =
      match write with
      | .branch row =>
          if organizationId = row.organizationId ∧ id = row.mandateId ∧ branchId = row.branchId then
            some row
          else db.branch organizationId id branchId
      | _ => db.branch organizationId id branchId := by
  cases write with
  | branch row =>
    refine (Table.find?_put db.mandateBranches row _).trans ?_
    simp [Keyed.key, Prod.mk.injEq, Db.branch]
  | _ => rfl

@[simp] theorem policy_apply (version : ℤ) :
    (write.apply db).policy organizationId id version =
      match write with
      | .policyVersion row =>
          if organizationId = row.organizationId ∧ id = row.id ∧ version = row.version then some row
          else db.policy organizationId id version
      | _ => db.policy organizationId id version := by
  cases write with
  | policyVersion row =>
    refine (Table.find?_put db.policyVersions row _).trans ?_
    simp [Keyed.key, Prod.mk.injEq, Db.policy]
  | _ => rfl

end Lookups

/-- A mandate is found under its own key. -/
theorem Db.key_of_mandate {db : Db} {organizationId mandateId : String} {row : MandateRow}
    (found : db.mandate organizationId mandateId = some row) :
    row.organizationId = organizationId ∧ row.id = mandateId := by
  have key := Table.key_of_find? found
  exact ⟨congrArg Prod.fst key, congrArg Prod.snd key⟩

/-- A mandate is found where it was written, under the key of the row it replaces. -/
theorem mandate_write {db : Db} {organizationId mandateId : String} {row : MandateRow}
    (found : db.mandate organizationId mandateId = some row) (new : MandateRow)
    (keyed : new.organizationId = row.organizationId ∧ new.id = row.id)
    (organization mandate : String) :
    ((Write.mandate new).apply db).mandate organization mandate =
      if organization = organizationId ∧ mandate = mandateId then some new
      else db.mandate organization mandate := by
  obtain ⟨sameOrganization, sameId⟩ := Db.key_of_mandate found
  simp only [mandate_apply, keyed.1, keyed.2, sameOrganization, sameId]

/-- A mandate has an open case when one of its executions is held and unresolved. -/
theorem Db.openCase_eq_true {db : Db} {organizationId mandateId : String} :
    db.openCase organizationId mandateId = true ↔
      ∃ requestId row, db.execution organizationId requestId = some row ∧
        row.mandateId = mandateId ∧ row.status = .reconciliationHold ∧
        db.resolution organizationId requestId = none := by
  simp only [Db.openCase, List.any_eq_true, ExecutionRow.ofMandate, Db.isOpenCase, Bool.and_eq_true,
    decide_eq_true_eq]
  constructor
  · rintro ⟨row, member, ⟨organization, mandate⟩, onHold, unresolved⟩
    refine ⟨row.requestId, row, ?_, mandate, onHold, organization ▸ unresolved⟩
    exact organization ▸ Table.find?_of_mem member
  · rintro ⟨requestId, row, found, mandate, onHold, unresolved⟩
    obtain ⟨organization, request⟩ := Db.key_of_execution found
    refine ⟨row, Table.mem_of_find? found, ⟨organization, mandate⟩, onHold, ?_⟩
    rw [organization, request]
    exact unresolved

/-! ### Holding and releasing -/

namespace Db

variable (db : Db) (organizationId mandateId : String)

@[simp] theorem execution_holdMandate (organization request : String) :
    (db.holdMandate organizationId mandateId).execution organization request =
      db.execution organization request := by
  unfold holdMandate
  split
  · split
    · simp only [execution_apply]
      split
      · rfl
      · simp
    · rfl
  · rfl

@[simp] theorem resolution_holdMandate (organization request : String) :
    (db.holdMandate organizationId mandateId).resolution organization request =
      db.resolution organization request := by
  unfold holdMandate
  split
  · split
    · simp only [resolution_apply]
      split
      · rfl
      · simp
    · rfl
  · rfl

/-- The state of a mandate that is put on hold. -/
def heldState (state : MandateState) : MandateState :=
  if state ∈ holdable then .reconciliationHold else state

/-- A hold changes the state of its mandate and nothing else of any mandate. -/
theorem mandate_holdMandate (organization mandate : String) :
    (db.holdMandate organizationId mandateId).mandate organization mandate =
      if organization = organizationId ∧ mandate = mandateId then
        (db.mandate organizationId mandateId).map fun row =>
          { row with state := heldState row.state }
      else db.mandate organization mandate := by
  unfold holdMandate
  cases found : db.mandate organizationId mandateId with
  | none =>
    simp only [Option.map_none]
    split
    · next same => rw [same.1, same.2, found]
    · rfl
  | some row =>
    obtain ⟨rfl, rfl⟩ := key_of_mandate found
    by_cases checked : row.state ∈ holdable
    · simp only [dif_pos checked, mandate_apply, Option.map_some, heldState, if_pos checked]
      split
      · rfl
      · split
        · rfl
        · simp
    · simp only [dif_neg checked, Option.map_some, heldState, if_neg checked]
      split
      · next same => rw [same.1, same.2, found]
      · rfl

/-- The hold row a mandate would get. -/
def newHold : Option HoldRow :=
  (db.mandate organizationId mandateId).bind fun row =>
    if checked : row.state ∈ holdable then some ⟨organizationId, mandateId, row.state, checked⟩
    else none

/-- A new hold row remembers the state of its mandate, which is one of the holdable ones. -/
theorem newHold_eq_some {row : MandateRow} {hold : HoldRow}
    (found : db.mandate organizationId mandateId = some row) :
    db.newHold organizationId mandateId = some hold →
      hold.priorState = row.state ∧ row.state ∈ holdable := by
  intro new
  simp only [newHold, found, Option.bind_some] at new
  split at new
  · next checked =>
    cases new
    exact ⟨rfl, checked⟩
  · cases new

/-- A hold adds a hold row where there is none and the state can be remembered. -/
theorem hold_holdMandate (organization mandate : String) :
    (db.holdMandate organizationId mandateId).hold organization mandate =
      if organization = organizationId ∧ mandate = mandateId then
        (db.hold organizationId mandateId).or (db.newHold organizationId mandateId)
      else db.hold organization mandate := by
  unfold holdMandate newHold
  cases found : db.mandate organizationId mandateId with
  | none =>
    simp only [Option.bind_none, Option.or_none]
    split
    · next same => rw [same.1, same.2]
    · rfl
  | some row =>
    by_cases checked : row.state ∈ holdable
    · simp only [dif_pos checked, hold_apply, Option.bind_some]
      cases held : db.hold organizationId mandateId with
      | some hold =>
        simp only [Option.isSome_some, if_true, Option.some_or]
        split
        · next same => rw [same.1, same.2, held]
        · rfl
      | none =>
        simp only [Option.isSome_none, Bool.false_eq_true, if_false, hold_apply, Option.none_or]
    · simp only [dif_neg checked, Option.bind_some, Option.or_none]
      split
      · next same => rw [same.1, same.2]
      · rfl

variable (row : ExecutionRow) (update : ExecutionUpdate)

/-- An update writes its execution and no other. -/
theorem execution_update (organization request : String) :
    ((Write.execution (update.set row)).apply db).execution organization request =
      if organization = row.organizationId ∧ request = row.requestId then some (update.set row)
      else db.execution organization request := by
  have preserves := update.set_preserves row
  simp only [execution_apply, preserves.organizationId, preserves.requestId]

theorem execution_holdExecution (organization request : String) :
    (db.holdExecution row update).execution organization request =
      if organization = row.organizationId ∧ request = row.requestId then some (update.set row)
      else db.execution organization request :=
  (execution_holdMandate _ _ _ _ _).trans (execution_update db row update organization request)

theorem resolution_holdExecution (organization request : String) :
    (db.holdExecution row update).resolution organization request =
      db.resolution organization request := by
  simp only [holdExecution, resolution_holdMandate, resolution_apply]

theorem mandate_holdExecution (organization mandate : String) :
    (db.holdExecution row update).mandate organization mandate =
      if organization = row.organizationId ∧ mandate = row.mandateId then
        (db.mandate row.organizationId row.mandateId).map fun owner =>
          { owner with state := heldState owner.state }
      else db.mandate organization mandate := by
  simp only [holdExecution, mandate_holdMandate, mandate_apply]

theorem hold_holdExecution (organization mandate : String) :
    (db.holdExecution row update).hold organization mandate =
      if organization = row.organizationId ∧ mandate = row.mandateId then
        (db.hold row.organizationId row.mandateId).or (db.newHold row.organizationId row.mandateId)
      else db.hold organization mandate := by
  simp only [holdExecution, hold_holdMandate, hold_apply, newHold, mandate_apply]

end Db

/-- A call that puts an execution on hold found it executing. -/
theorem found_of_heldExecution {db : Db} {op : Op} {row : ExecutionRow} {update : ExecutionUpdate}
    (holds : heldExecution db op = some (row, update)) :
    db.execution row.organizationId row.requestId = some row ∧ row.status = .executing ∧
      (update.set row).status = .reconciliationHold := by
  have replay : ∀ {input : AdmitInferenceInput}, replayHold db input = some (row, update) →
      db.execution row.organizationId row.requestId = some row ∧ row.status = .executing ∧
        (update.set row).status = .reconciliationHold := by
    intro input replayed
    obtain ⟨_, _, _, _, known, _, _, overdue, rfl⟩ := replayHold_eq_some.mp replayed
    obtain ⟨organization, request⟩ := Db.key_of_execution known
    exact ⟨by rw [organization, request]; exact known, overdue.1, rfl⟩
  cases op with
  | admitInference decisionId input => exact replay holds
  | previewInference decisionId input => exact replay holds
  | holdInference input =>
    simp only [heldExecution, Option.bind_eq_bind, Option.bind_eq_some_iff,
      Option.ite_none_right_eq_some, Option.some.injEq, Prod.mk.injEq] at holds
    obtain ⟨found, known, _, _, ⟨_, running⟩, rfl, rfl⟩ := holds
    obtain ⟨organization, request⟩ := Db.key_of_execution known
    exact ⟨by rw [organization, request]; exact known, running, rfl⟩
  | completeInference input =>
    simp only [heldExecution, Option.bind_eq_bind, Option.bind_eq_some_iff,
      Option.ite_none_right_eq_some, Option.some.injEq, Prod.mk.injEq] at holds
    obtain ⟨found, known, _, _, ⟨running, _⟩, rfl, rfl⟩ := holds
    obtain ⟨organization, request⟩ := Db.key_of_execution known
    exact ⟨by rw [organization, request]; exact known, running, rfl⟩
  | _ => simp [heldExecution] at holds

/-- A resolution finishes its execution. -/
theorem resolutionUpdate_status (resolution : ReconciliationResolution) (row : ExecutionRow)
    (cost : ℕ) (occurredAt : ℤ) :
    ((resolutionUpdate resolution row cost occurredAt).set row).status = .completed ∨
      ((resolutionUpdate resolution row cost occurredAt).set row).status = .failed := by
  unfold resolutionUpdate
  split
  · exact .inl rfl
  · exact .inr rfl
  · exact .inr rfl

/-- A resolution writes its execution and no other. -/
theorem Db.execution_recordResolution (db : Db) (input : ResolveReconciliationInput)
    (row : ExecutionRow) (cost : ℕ) (occurredAt : ℤ) (organization request : String) :
    (db.recordResolution input row cost occurredAt).execution organization request =
      if organization = row.organizationId ∧ request = row.requestId then
        some ((resolutionUpdate input.resolution row cost occurredAt).set row)
      else db.execution organization request :=
  execution_update ((Write.resolution (newResolution input cost)).apply db) row _ organization request

/-- A new request is recorded under its own key. -/
theorem Db.execution_recordAdmission (db : Db) (input : AdmitInferenceInput) (decidedAt : ℤ)
    (decision : StoredPolicyDecision) (organization request : String) :
    (db.recordAdmission input decidedAt decision).execution organization request =
      if organization = input.organizationId ∧ request = input.requestId then
        some (admittedExecution input decidedAt decision)
      else db.execution organization request := by
  simp only [recordAdmission, execution_apply]
  rfl

@[simp] theorem Db.mandate_recordResolution (db : Db) (input : ResolveReconciliationInput)
    (row : ExecutionRow) (cost : ℕ) (occurredAt : ℤ) (organization mandate : String) :
    (db.recordResolution input row cost occurredAt).mandate organization mandate =
      db.mandate organization mandate := rfl

/-! ### Well-formed stores -/

/-- The states a mandate with an open reconciliation case may be in. -/
def afterHold : List MandateState := [.reconciliationHold, .closing, .closed, .expired]

/-- A mandate beyond `active` stays there when an operator moves it. -/
theorem afterHold_of_transition {source target : MandateState}
    (allowed : target ∈ mandateTransitions source) (beyond : source ∈ afterHold) :
    target ∈ afterHold := by
  have moves : ∀ source ∈ afterHold, ∀ target ∈ mandateTransitions source, target ∈ afterHold := by
    decide
  exact moves source beyond target allowed

/-- A hold never gives back a draft. -/
theorem not_draft_of_restored {prior : MandateState} (checked : prior ∈ holdable) :
    restoredState prior ≠ .draft := by
  have back : ∀ state ∈ holdable, restoredState state ≠ .draft := by decide
  exact back prior checked

/-- Where only finished executions have a resolution, an unfinished one has none. -/
theorem Db.unresolved_of_unfinished {db : Db}
    (resolved : ∀ {organizationId requestId : String} {resolution : ResolutionRow},
      db.resolution organizationId requestId = some resolution →
      ∃ row, db.execution organizationId requestId = some row ∧
        (row.status = .completed ∨ row.status = .failed))
    {organizationId requestId : String} {row : ExecutionRow}
    (found : db.execution organizationId requestId = some row)
    (unfinished : row.status ≠ .completed ∧ row.status ≠ .failed) :
    db.resolution organizationId requestId = none := by
  cases resolution : db.resolution organizationId requestId with
  | none => rfl
  | some _ =>
    obtain ⟨other, same, finished⟩ := resolved resolution
    rw [found, Option.some.injEq] at same
    subst same
    exact absurd finished (not_or.mpr unfinished)

/-- The facts that hold in every state of the store. -/
structure WellFormed (db : Db) : Prop where
  /-- An execution belongs to a mandate. -/
  mandateOf : ∀ {organizationId requestId : String} {row : ExecutionRow},
    db.execution organizationId requestId = some row →
    ∃ mandate, db.mandate organizationId row.mandateId = some mandate
  /-- Only completed and failed executions have a resolution. -/
  resolved : ∀ {organizationId requestId : String} {resolution : ResolutionRow},
    db.resolution organizationId requestId = some resolution →
    ∃ row, db.execution organizationId requestId = some row ∧
      (row.status = .completed ∨ row.status = .failed)
  /-- Executions that are denied or running have no failure code and no actual cost. -/
  clean : ∀ {organizationId requestId : String} {row : ExecutionRow},
    db.execution organizationId requestId = some row →
    row.status = .executing ∨ row.status = .denied →
    row.failureCode = none ∧ row.actualCostAtomic = none
  /-- Nothing ran under a mandate that is still a draft. -/
  started : ∀ {organizationId requestId : String} {row : ExecutionRow} {mandate : MandateRow},
    db.execution organizationId requestId = some row →
    db.mandate organizationId row.mandateId = some mandate → row.status ≠ .denied →
    mandate.state ≠ .draft
  /-- A mandate with a held execution is beyond `active`. -/
  beyond : ∀ {organizationId requestId : String} {row : ExecutionRow} {mandate : MandateRow},
    db.execution organizationId requestId = some row →
    db.mandate organizationId row.mandateId = some mandate → row.status = .reconciliationHold →
    mandate.state ∈ afterHold

namespace WellFormed

theorem empty : WellFormed Db.empty := ⟨nofun, nofun, nofun, nofun, nofun⟩

variable {db after : Db}

/-- An execution that is not finished has no resolution. -/
theorem unresolved (wf : WellFormed db) {organizationId requestId : String} {row : ExecutionRow}
    (found : db.execution organizationId requestId = some row)
    (unfinished : row.status ≠ .completed ∧ row.status ≠ .failed) :
    db.resolution organizationId requestId = none :=
  Db.unresolved_of_unfinished wf.resolved found unfinished

/-- A mandate that moves keeps the store well-formed when it does not become a draft and, while one
of its executions is held, stays beyond `active`. -/
theorem of_mandates (wf : WellFormed db)
    (executions : ∀ organizationId requestId,
      after.execution organizationId requestId = db.execution organizationId requestId)
    (resolutions : ∀ organizationId requestId,
      after.resolution organizationId requestId = db.resolution organizationId requestId)
    (mandates : ∀ organizationId mandateId old, db.mandate organizationId mandateId = some old →
      ∃ new, after.mandate organizationId mandateId = some new ∧
        (old.state ≠ .draft → new.state ≠ .draft) ∧
        (old.state ∈ afterHold → ∀ requestId row,
          db.execution organizationId requestId = some row → row.mandateId = mandateId →
          row.status = .reconciliationHold → new.state ∈ afterHold)) : WellFormed after where
  mandateOf found := by
    rw [executions] at found
    obtain ⟨old, here⟩ := wf.mandateOf found
    obtain ⟨new, there, _⟩ := mandates _ _ old here
    exact ⟨new, there⟩
  resolved found := by
    rw [resolutions] at found
    obtain ⟨row, here, finished⟩ := wf.resolved found
    exact ⟨row, by rw [executions]; exact here, finished⟩
  clean found := wf.clean (by rwa [executions] at found)
  started found mandate running := by
    rw [executions] at found
    obtain ⟨old, here⟩ := wf.mandateOf found
    obtain ⟨new, there, moved, _⟩ := mandates _ _ old here
    rw [there, Option.some.injEq] at mandate
    exact mandate ▸ moved (wf.started found here running)
  beyond found mandate onHold := by
    rw [executions] at found
    obtain ⟨old, here⟩ := wf.mandateOf found
    obtain ⟨new, there, _, kept⟩ := mandates _ _ old here
    rw [there, Option.some.injEq] at mandate
    exact mandate ▸ kept (wf.beyond found here onHold) _ _ found rfl onHold

/-- A mandate with an open case exists. -/
theorem mandate_of_openCase (wf : WellFormed db) {organizationId mandateId : String}
    (opened : db.openCase organizationId mandateId = true) :
    ∃ mandate, db.mandate organizationId mandateId = some mandate := by
  obtain ⟨requestId, row, found, rfl, _, _⟩ := Db.openCase_eq_true.mp opened
  exact wf.mandateOf found

/-- Writes to other tables keep the store well-formed. -/
theorem congr (wf : WellFormed db)
    (executions : ∀ organizationId requestId,
      after.execution organizationId requestId = db.execution organizationId requestId)
    (resolutions : ∀ organizationId requestId,
      after.resolution organizationId requestId = db.resolution organizationId requestId)
    (mandates : ∀ organizationId mandateId,
      after.mandate organizationId mandateId = db.mandate organizationId mandateId) :
    WellFormed after :=
  wf.of_mandates executions resolutions fun organizationId mandateId old here =>
    ⟨old, by rw [mandates]; exact here, id, fun beyond _ _ _ _ _ => beyond⟩

/-- Finishing an execution that was not denied keeps the store well-formed. -/
theorem finish (wf : WellFormed db) {row new : ExecutionRow}
    (found : db.execution row.organizationId row.requestId = some row)
    (ran : row.status ≠ .denied) (preserves : ExecutionUpdate.Preserves row new)
    (finished : new.status = .completed ∨ new.status = .failed)
    (executions : ∀ organizationId requestId, after.execution organizationId requestId =
      if organizationId = row.organizationId ∧ requestId = row.requestId then some new
      else db.execution organizationId requestId)
    (resolutions : ∀ organizationId requestId resolution,
      after.resolution organizationId requestId = some resolution →
        (organizationId = row.organizationId ∧ requestId = row.requestId) ∨
          db.resolution organizationId requestId = some resolution)
    (mandates : ∀ organizationId mandateId,
      after.mandate organizationId mandateId = db.mandate organizationId mandateId) :
    WellFormed after where
  mandateOf {organizationId requestId row'} here := by
    rw [executions] at here
    rw [mandates]
    split at here
    · next same =>
      cases here
      rw [same.1, preserves.mandateId]
      exact wf.mandateOf found
    · exact wf.mandateOf here
  resolved {organizationId requestId resolution} recorded := by
    rw [executions]
    split
    · exact ⟨new, rfl, finished⟩
    · next different =>
      exact wf.resolved ((resolutions _ _ _ recorded).resolve_left different)
  clean {organizationId requestId row'} here unfinished := by
    rw [executions] at here
    split at here
    · cases here
      rcases finished with done | done <;> rcases unfinished with open_ | open_ <;>
        simp [done] at open_
    · exact wf.clean here unfinished
  started {organizationId requestId row' mandate} here there running := by
    rw [executions] at here
    rw [mandates] at there
    split at here
    · next same =>
      cases here
      rw [same.1, preserves.mandateId] at there
      exact wf.started found there ran
    · exact wf.started here there running
  beyond {organizationId requestId row' mandate} here there onHold := by
    rw [executions] at here
    rw [mandates] at there
    split at here
    · cases here
      rcases finished with done | done <;> simp [done] at onHold
    · exact wf.beyond here there onHold

/-- Putting a running execution on hold keeps the store well-formed. -/
theorem hold (wf : WellFormed db) {row : ExecutionRow} {update : ExecutionUpdate}
    (found : db.execution row.organizationId row.requestId = some row)
    (running : row.status = .executing) (held : (update.set row).status = .reconciliationHold) :
    WellFormed (db.holdExecution row update) := by
  have preserves := update.set_preserves row
  have reached : ∀ state : MandateState, state ≠ .draft → Db.heldState state ∈ afterHold ∧
      Db.heldState state ≠ .draft := by
    intro state
    cases state <;> decide
  obtain ⟨owner, owns⟩ := wf.mandateOf found
  have awake := wf.started found owns (by simp [running])
  refine ⟨?_, ?_, ?_, ?_, ?_⟩
  · intro organizationId requestId row' here
    rw [Db.execution_holdExecution] at here
    rw [Db.mandate_holdExecution]
    split at here
    · next same =>
      cases here
      rw [preserves.mandateId, if_pos ⟨same.1, rfl⟩, owns]
      exact ⟨_, rfl⟩
    · split
      · rw [owns]
        exact ⟨_, rfl⟩
      · exact wf.mandateOf here
  · intro organizationId requestId resolution recorded
    rw [Db.resolution_holdExecution] at recorded
    obtain ⟨other, here, finished⟩ := wf.resolved recorded
    rw [Db.execution_holdExecution]
    split
    · next same =>
      rw [same.1, same.2, found] at here
      cases here
      simp [running] at finished
    · exact ⟨other, here, finished⟩
  · intro organizationId requestId row' here unfinished
    rw [Db.execution_holdExecution] at here
    split at here
    · cases here
      simp [held] at unfinished
    · exact wf.clean here unfinished
  · intro organizationId requestId row' mandate here there ran
    rw [Db.execution_holdExecution] at here
    rw [Db.mandate_holdExecution] at there
    split at here
    · next same =>
      cases here
      rw [preserves.mandateId, if_pos ⟨same.1, rfl⟩, owns] at there
      cases there
      exact (reached owner.state awake).2
    · split at there
      · next same =>
        rw [owns] at there
        cases there
        exact (reached owner.state awake).2
      · exact wf.started here there ran
  · intro organizationId requestId row' mandate here there onHold
    rw [Db.execution_holdExecution] at here
    rw [Db.mandate_holdExecution] at there
    split at here
    · next same =>
      cases here
      rw [preserves.mandateId, if_pos ⟨same.1, rfl⟩, owns] at there
      cases there
      exact (reached owner.state awake).1
    · split at there
      · next same =>
        rw [owns] at there
        cases there
        exact (reached owner.state awake).1
      · exact wf.beyond here there onHold

/-- Recording a new execution keeps the store well-formed, when a running one belongs to a mandate
that is not a draft. -/
theorem record (wf : WellFormed db) {row : ExecutionRow} {decision : StoredPolicyDecision}
    (fresh : db.execution row.organizationId row.requestId = none) {owner : MandateRow}
    (owns : db.mandate row.organizationId row.mandateId = some owner)
    (new : row.status = .denied ∨ row.status = .executing ∧ owner.state ≠ .draft)
    (clean : row.failureCode = none ∧ row.actualCostAtomic = none) :
    WellFormed ((Write.execution row).apply ((Write.decision decision).apply db)) := by
  refine ⟨?_, ?_, ?_, ?_, ?_⟩
  · intro organizationId requestId row' here
    simp only [execution_apply] at here
    simp only [mandate_apply]
    split at here
    · next same =>
      cases here
      exact ⟨owner, same.1 ▸ owns⟩
    · exact wf.mandateOf here
  · intro organizationId requestId resolution recorded
    simp only [resolution_apply] at recorded
    obtain ⟨other, here, finished⟩ := wf.resolved recorded
    simp only [execution_apply]
    split
    · next same =>
      rw [same.1, same.2, fresh] at here
      cases here
    · exact ⟨other, here, finished⟩
  · intro organizationId requestId row' here unfinished
    simp only [execution_apply] at here
    split at here
    · cases here
      exact clean
    · exact wf.clean here unfinished
  · intro organizationId requestId row' mandate here there ran
    simp only [execution_apply] at here
    simp only [mandate_apply] at there
    split at here
    · next same =>
      cases here
      rw [same.1, owns] at there
      cases there
      exact (new.resolve_left ran).2
    · exact wf.started here there ran
  · intro organizationId requestId row' mandate here there onHold
    simp only [execution_apply] at here
    simp only [mandate_apply] at there
    split at here
    · cases here
      rcases new with denied | ⟨running, _⟩
      · simp [denied] at onHold
      · simp [running] at onHold
    · exact wf.beyond here there onHold

/-- Releasing a mandate keeps the store well-formed. -/
theorem release (wf : WellFormed db) {organizationId mandateId : String}
    (released : Released db organizationId mandateId after) : WellFormed after := by
  cases released with
  | stillOpen _ => exact wf
  | unheld _ _ _ _ _ => exact wf
  | restored row hold found settled held onHold =>
    obtain ⟨organization, named⟩ := Db.key_of_mandate found
    refine wf.of_mandates (fun _ _ => by simp) (fun _ _ => by simp) ?_
    intro organization' mandate' old here
    simp only [mandate_apply]
    split
    · next same =>
      refine ⟨_, rfl, fun _ => ?_, fun _ requestId other known owned held' => ?_⟩
      · exact not_draft_of_restored hold.checked
      · rw [organization, named] at same
        rw [Bool.eq_false_iff] at settled
        refine absurd (Db.openCase_eq_true.mpr ?_) settled
        rw [same.1] at known
        exact ⟨requestId, other, known, owned.trans same.2, held',
          wf.unresolved known (by simp [held'])⟩
    · exact ⟨old, here, id, fun beyond _ _ _ _ _ => beyond⟩
  | closing row hold found settled held movedOn =>
    exact wf.congr (fun _ _ => by simp) (fun _ _ => by simp) (fun _ _ => by simp)

/-- An operator's move keeps the store well-formed. -/
theorem move (wf : WellFormed db) {organizationId mandateId : String} {row new : MandateRow}
    (found : db.mandate organizationId mandateId = some row)
    (keyed : new.organizationId = row.organizationId ∧ new.id = row.id)
    (moved : (row.state ≠ .draft → new.state ≠ .draft) ∧
      (row.state ∈ afterHold → new.state ∈ afterHold)) :
    WellFormed ((Write.mandate new).apply db) := by
  obtain ⟨organization, named⟩ := Db.key_of_mandate found
  refine wf.of_mandates (fun _ _ => by simp) (fun _ _ => by simp) ?_
  intro organization' mandate' old here
  simp only [mandate_apply]
  split
  · next same =>
    rw [keyed.1, keyed.2, organization, named] at same
    rw [same.1, same.2, found] at here
    cases here
    exact ⟨new, rfl, moved.1, fun beyond _ _ _ _ _ => moved.2 beyond⟩
  · exact ⟨old, here, id, fun beyond _ _ _ _ _ => beyond⟩

/-- Recording a resolution keeps the store well-formed. -/
theorem recordResolution (wf : WellFormed db) {input : ResolveReconciliationInput}
    {row : ExecutionRow} {cost : ℕ} {occurredAt : ℤ}
    (found : db.execution input.organizationId input.requestId = some row)
    (onHold : row.status = .reconciliationHold) :
    WellFormed (db.recordResolution input row cost occurredAt) := by
  obtain ⟨organization, request⟩ := Db.key_of_execution found
  refine wf.finish (by rw [organization, request]; exact found) (by simp [onHold])
    (ExecutionUpdate.set_preserves _ _) (resolutionUpdate_status _ _ _ _)
    (fun organizationId requestId => Db.execution_recordResolution ..) ?_ (fun _ _ => by simp)
  intro organizationId requestId resolution recorded
  simp only [Db.recordResolution, resolution_apply, newResolution] at recorded
  split at recorded
  · next same => exact .inl ⟨same.1.trans organization.symm, same.2.trans request.symm⟩
  · exact .inr recorded

end WellFormed

section Commits

variable [NodeCrypto] {db after : Db} {op : Op} {reply : Reply}

/-- What a recorded request is: denied, or executing under an active mandate. -/
theorem newExecution_status {input : AdmitInferenceInput} {decidedAt : ℤ} {row : MandatePolicyRow}
    {result : PolicyDecisionResult} (decisionId : String)
    (evaluated : db.evaluateAdmission input decidedAt row = .ok result) :
    let execution := admittedExecution input decidedAt
      (db.newDecision input decisionId decidedAt row result)
    (execution.status = .denied ∧ execution.reservedCostAtomic = 0) ∨
      (execution.status = .executing ∧
        Admissible row.policy (admissionEvaluation input decidedAt row.mandate (db.isAssigned input)
          (db.countersAt input decidedAt) (db.readScope input)) ∧
        (execution.reservedCostAtomic : ℤ) = input.estimatedCostAtomic) := by
  simp only [Db.evaluateAdmission, bind_unit_eq_ok] at evaluated
  by_cases allowed : result.outcome = .allow
  · have admissible := evaluatePolicy_allow evaluated.2 allowed
    have amount : 0 ≤ input.estimatedCostAtomic := admissible.amount
    refine .inr ⟨if_pos allowed, admissible, ?_⟩
    show ((reservation input result).toNat : ℤ) = _
    rw [reservation, if_pos allowed, Int.toNat_of_nonneg amount]
  · refine .inl ⟨if_neg allowed, ?_⟩
    show (reservation input result).toNat = _
    rw [reservation, if_neg allowed]
    rfl

/-- **Every commit keeps the store well-formed.** -/
theorem WellFormed.commit (wf : WellFormed db) (commit : Commit db op reply after) :
    WellFormed after := by
  cases commit with
  | organization | agent | policy | assigned | branch =>
    exact wf.congr (fun _ _ => by simp) (fun _ _ => by simp) (fun _ _ => by simp)
  | previewed | replayed | notFailed | resolvedBefore => exact wf
  | mandate input draft fresh known =>
    refine wf.of_mandates (fun _ _ => by simp) (fun _ _ => by simp) ?_
    intro organizationId mandateId old here
    simp only [mandate_apply]
    split
    · next same =>
      rw [same.1, same.2] at here
      exact absurd (fresh.symm.trans here) nofun
    · exact ⟨old, here, id, fun beyond _ _ _ _ _ => beyond⟩
  | transition organizationId mandateId target context row valid found allowed =>
    exact wf.move found ⟨rfl, rfl⟩
      ⟨fun _ => not_draft_of_transition allowed, afterHold_of_transition allowed⟩
  | policySet organizationId mandateId policyId policyVersion context row found =>
    exact wf.move found ⟨rfl, rfl⟩ ⟨id, id⟩
  | held op reply row update holds quiet found =>
    obtain ⟨known, running, held⟩ := found_of_heldExecution holds
    exact wf.hold known running held
  | admitted decisionId input decidedAt row result begun fresh evaluated =>
    have owns := (Db.mandatePolicy_eq_some.mp begun.found).1
    refine wf.record fresh owns ?_ ⟨rfl, rfl⟩
    rcases newExecution_status decisionId evaluated with ⟨denied, _⟩ | ⟨running, admissible, _⟩
    · exact .inl denied
    · exact .inr ⟨running, by rw [show row.mandate.state = .active from admissible.active]; decide⟩
  | completed input reply row completedAt found running positive within =>
    obtain ⟨organization, request⟩ := Db.key_of_execution found
    exact wf.finish (by rw [organization, request]; exact found) (by simp [running])
      (ExecutionUpdate.set_preserves _ _) (.inl rfl) (Db.execution_update db row _)
      (fun _ _ _ recorded => .inr (by simpa using recorded)) (fun _ _ => by simp)
  | failed input row failedAt found running =>
    obtain ⟨organization, request⟩ := Db.key_of_execution found
    exact wf.finish (by rw [organization, request]; exact found) (by simp [running])
      (ExecutionUpdate.set_preserves _ _) (.inr rfl) (Db.execution_update db row _)
      (fun _ _ _ recorded => .inr (by simpa using recorded)) (fun _ _ => by simp)
  | resolved input row cost occurredAt after found onHold fresh priced released =>
    exact (wf.recordResolution found onHold).release released

/-- **Every run of the store is well-formed at its end.** -/
theorem wellFormed_run (ops : List Op) : WellFormed (run step Db.empty ops) :=
  run_invariant WellFormed.empty
    (fun _ _ wf => step_preserves wf fun _ _ commit => wf.commit commit) ops

/-- **What every commit from a well-formed store preserves, every run preserves.** The run may be
restricted to steps that meet `ok`. -/
theorem invariant_of_commits {inv : Db → Prop} {ok : Db → Op → Prop} {ops : List Op}
    (along : Along step ok Db.empty ops) (initial : inv Db.empty)
    (kept : ∀ {db after : Db} {op : Op} {reply : Reply}, WellFormed db → inv db → ok db op →
      Commit db op reply after → inv after) : inv (run step Db.empty ops) := by
  have both : WellFormed (run step Db.empty ops) ∧ inv (run step Db.empty ops) := by
    refine @Along.invariant _ _ _ _ _ (fun db => WellFormed db ∧ inv db) _ along
      ⟨WellFormed.empty, initial⟩ ?_
    rintro db op ⟨wf, holds⟩ allowed
    exact @step_preserves _ (fun db => WellFormed db ∧ inv db) _ _ ⟨wf, holds⟩
      fun reply after commit => ⟨wf.commit commit, kept wf holds allowed commit⟩
  exact both.2

end Commits

end FuseControlPlane.Persistence
