/-
Which open reconciliation cases can be resolved.

A resolution may leave its mandate only in some combinations of state, hold row and other open cases.
`Resolvable` is the invariant that keeps a mandate in such a combination, and `KeepsResolvable` what a
step must not do to it.

* `case_resolvable`: in every run whose steps meet the condition, every listed case of the mandate can
  be resolved.
* `case_stuck`: in other runs a listed case can be out of reach.
-/

import FuseControlPlane.Persistence.Lifecycle

set_option linter.unusedSectionVars false

namespace FuseControlPlane.Persistence

open Foundation Foundation.JavaScript Domain Identity FuseControlPlane.Core Program

section Cases

variable [NodeCrypto]

/-! ### The invariant -/

/-- The state and the hold row of a mandate fit its open cases. -/
structure Resolvable (organizationId mandateId : String) (db : Db) : Prop where
  /-- A mandate with an open case can be left: it is on a hold or past it. -/
  opened : ∀ {row : MandateRow}, db.openCase organizationId mandateId = true →
    db.mandate organizationId mandateId = some row →
    ((db.hold organizationId mandateId).isSome = true ∧
        (row.state = .reconciliationHold ∨ row.state = .closing)) ∨
      (db.hold organizationId mandateId = none ∧ (row.state = .closed ∨ row.state = .expired))
  /-- A hold row stands for an open case. -/
  held : (db.hold organizationId mandateId).isSome = true →
    db.openCase organizationId mandateId = true

/-- The call puts an execution of the mandate on hold. -/
def holdsExecution (db : Db) (op : Op) (organizationId mandateId : String) : Bool :=
  (heldExecution db op).any fun (execution, _) =>
    execution.organizationId = organizationId && execution.mandateId = mandateId

/-- What must not happen to the mandate: an execution put on hold while an operator has it in
`reconciliation_hold` without a hold row; closing it for good over a hold row; taking it from `expired`
to `closing` with a case open. -/
structure KeepsResolvable (organizationId mandateId : String) (db : Db) (op : Op) : Prop where
  hold : holdsExecution db op organizationId mandateId = true →
    ∀ row ∈ db.mandate organizationId mandateId, row.state = .reconciliationHold →
      (db.hold organizationId mandateId).isSome = true
  close : operatorMove db op = some (organizationId, mandateId, .closed) →
    db.hold organizationId mandateId = none
  expired : operatorMove db op = some (organizationId, mandateId, .closing) →
    ∀ row ∈ db.mandate organizationId mandateId, row.state = .expired →
      db.openCase organizationId mandateId = false

variable {db after : Db} {op : Op} {reply : Reply} {organizationId mandateId : String}

instance (organizationId mandateId : String) (db : Db) (op : Op) :
    Decidable (KeepsResolvable organizationId mandateId db op) :=
  decidable_of_iff ((holdsExecution db op organizationId mandateId = true →
      ∀ row ∈ db.mandate organizationId mandateId, row.state = .reconciliationHold →
        (db.hold organizationId mandateId).isSome = true) ∧
    (operatorMove db op = some (organizationId, mandateId, .closed) →
      db.hold organizationId mandateId = none) ∧
    (operatorMove db op = some (organizationId, mandateId, .closing) →
      ∀ row ∈ db.mandate organizationId mandateId, row.state = .expired →
        db.openCase organizationId mandateId = false))
    ⟨fun parts => ⟨parts.1, parts.2.1, parts.2.2⟩, fun keeps => ⟨keeps.1, keeps.2, keeps.3⟩⟩

/-- After an execution was put on hold its mandate can be left. -/
theorem held_fits (wf : WellFormed db) (resolvable : Resolvable organizationId mandateId db)
    (keeps : holdsExecution db op organizationId mandateId = true →
      ∀ row ∈ db.mandate organizationId mandateId, row.state = .reconciliationHold →
        (db.hold organizationId mandateId).isSome = true)
    {row : MandateRow} (found : db.mandate organizationId mandateId = some row)
    {execution : ExecutionRow} {update : ExecutionUpdate}
    (holds : heldExecution db op = some (execution, update))
    (owned : execution.organizationId = organizationId ∧ execution.mandateId = mandateId) :
    (((db.hold organizationId mandateId).or (db.newHold organizationId mandateId)).isSome = true ∧
        (Db.heldState row.state = .reconciliationHold ∨ Db.heldState row.state = .closing)) ∨
      ((db.hold organizationId mandateId).or (db.newHold organizationId mandateId) = none ∧
        (Db.heldState row.state = .closed ∨ Db.heldState row.state = .expired)) := by
  have taken : holdsExecution db op organizationId mandateId = true := by
    simp [holdsExecution, holds, owned]
  cases before : db.hold organizationId mandateId with
  | some hold =>
    refine .inl ⟨rfl, .inl ?_⟩
    have remembered : (db.hold organizationId mandateId).isSome = true := by rw [before]; rfl
    rcases resolvable.opened (resolvable.held remembered) found with
      ⟨_, onHold | closing⟩ | ⟨absent, _⟩
    · rw [onHold]
      rfl
    · rw [closing]
      rfl
    · rw [absent] at remembered
      cases remembered
  | none =>
    by_cases checked : row.state ∈ holdable
    · exact .inl ⟨by simp [Db.newHold, found, checked], .inl (if_pos checked)⟩
    · refine .inr ⟨by simp [Db.newHold, found, checked], ?_⟩
      rw [Db.heldState, if_neg checked]
      obtain ⟨known, running, _⟩ := found_of_heldExecution holds
      rw [owned.1] at known
      have started : row.state ≠ .draft := by
        refine wf.started known ?_ (by simp [running])
        rw [owned.2]
        exact found
      have here := keeps taken row found
      rw [before] at here
      cases state : row.state with
      | closed => exact .inl rfl
      | expired => exact .inr rfl
      | draft => exact absurd state started
      | reconciliationHold => exact absurd (here state) (by decide)
      | active | paused | closing | exhausted | tripped =>
        rw [state] at checked
        exact absurd (by decide) checked

/-- Every commit that meets the condition keeps the invariant. -/
theorem Resolvable.commit (resolvable : Resolvable organizationId mandateId db)
    (keeps : KeepsResolvable organizationId mandateId db op) (commit : Commit db op reply after)
    (wf : WellFormed db) : Resolvable organizationId mandateId after := by
  have view := commit.lifecycle wf organizationId mandateId
  suffices fits : (∀ {row : MandateRow}, after.openCase organizationId mandateId = true →
      after.mandate organizationId mandateId = some row →
      ((after.hold organizationId mandateId).isSome = true ∧
          (row.state = .reconciliationHold ∨ row.state = .closing)) ∨
        (after.hold organizationId mandateId = none ∧ (row.state = .closed ∨ row.state = .expired))) ∧
      ((after.hold organizationId mandateId).isSome = true →
        after.openCase organizationId mandateId = true) from ⟨fits.1, fits.2⟩
  generalize after.mandate organizationId mandateId = mandate at view ⊢
  generalize after.hold organizationId mandateId = hold at view ⊢
  generalize after.openCase organizationId mandateId = openCase at view ⊢
  cases view with
  | kept => exact ⟨resolvable.opened, resolvable.held⟩
  | edited new state =>
    refine ⟨fun {row} opened same => ?_, resolvable.held⟩
    cases same
    rcases state with ⟨absent, _⟩ | ⟨old, found, same⟩
    · obtain ⟨mandate, exists_⟩ := wf.mandate_of_openCase opened
      exact absurd (absent.symm.trans exists_) nofun
    · rw [same]
      exact resolvable.opened opened found
  | moved old target found called allowed =>
    refine ⟨fun {row} opened same => ?_, resolvable.held⟩
    cases same
    rcases resolvable.opened opened found with ⟨remembered, onHold | closing⟩ | ⟨absent, closed | expired⟩
    · rw [onHold] at allowed
      obtain rfl := List.mem_singleton.mp allowed
      exact .inl ⟨remembered, .inr rfl⟩
    · rw [closing] at allowed
      rcases List.mem_cons.mp allowed with rfl | rest
      · rw [keeps.close called] at remembered
        cases remembered
      · obtain rfl := List.mem_singleton.mp rest
        exact .inl ⟨remembered, .inl rfl⟩
    · rw [closed] at allowed
      cases allowed
    · rw [expired] at allowed
      obtain rfl := List.mem_singleton.mp allowed
      rw [keeps.expired called old found expired] at opened
      cases opened
  | held old execution update found holds owned =>
    refine ⟨fun {row} _ same => ?_, fun _ => rfl⟩
    cases same
    exact held_fits wf resolvable keeps.hold found holds owned
  | unheld old found absent => exact ⟨nofun, nofun⟩
  | restored old hold found held onHold => exact ⟨nofun, nofun⟩
  | released old hold found held closing => exact ⟨nofun, nofun⟩

/-! ### Resolving a case -/

/-- A listed case is an execution in `reconciliation_hold` without a resolution. -/
theorem of_listed {entries : List ReconciliationCase} {entry : ReconciliationCase}
    (listed : listReconciliationCases db organizationId = .ok entries) (member : entry ∈ entries) :
    ∃ row, db.execution organizationId entry.requestId = some row ∧ row.mandateId = entry.mandateId ∧
      row.status = .reconciliationHold ∧ db.resolution organizationId entry.requestId = none := by
  simp only [listReconciliationCases, bind_unit_eq_ok, pure, Except.pure, Except.ok.injEq] at listed
  obtain ⟨_, rfl⟩ := listed
  obtain ⟨row, sortedMember, rfl⟩ := List.mem_map.mp member
  have chosen := (List.mem_insertionSort _).mp sortedMember
  simp only [List.mem_filter, Db.isOpenCase, Bool.and_eq_true, decide_eq_true_eq] at chosen
  obtain ⟨inTable, rfl, onHold, unresolved⟩ := chosen
  exact ⟨row, Table.find?_of_mem inTable, rfl, onHold, unresolved⟩

/-- In a store that meets the invariant an open case can be resolved. -/
theorem Resolvable.resolves (resolvable : Resolvable organizationId mandateId db)
    (wf : WellFormed db) {input : ResolveReconciliationInput} {occurredAt : ℤ} {cost : ℕ}
    (valid : ResolutionValid input occurredAt cost) (named : input.organizationId = organizationId)
    {row : ExecutionRow} (found : db.execution organizationId input.requestId = some row)
    (owned : row.mandateId = mandateId) (onHold : row.status = .reconciliationHold)
    (unresolved : db.resolution organizationId input.requestId = none) :
    ∃ after, outcome db (.resolveReconciliation input) = .ok (.nothing, after) := by
  obtain rfl := named
  obtain rfl := owned
  obtain ⟨mandate, owns⟩ := wf.mandateOf found
  have opened : db.openCase input.organizationId row.mandateId = true :=
    Db.openCase_eq_true.mpr ⟨input.requestId, row, found, rfl, onHold, unresolved⟩
  obtain ⟨after, released⟩ : ∃ after, Released (db.recordResolution input row cost occurredAt)
      input.organizationId row.mandateId after := by
    cases still : (db.recordResolution input row cost occurredAt).openCase input.organizationId
        row.mandateId with
    | true => exact ⟨_, .stillOpen still⟩
    | false =>
      rcases resolvable.opened opened owns with ⟨remembered, state⟩ | ⟨absent, state⟩
      · obtain ⟨hold, held⟩ := Option.isSome_iff_exists.mp remembered
        rcases state with onHold | closing
        · exact ⟨_, .restored mandate hold owns still held onHold⟩
        · exact ⟨_, .closing mandate hold owns still held closing⟩
      · exact ⟨_, .unheld mandate owns still absent state⟩
  refine ⟨after, ?_⟩
  have committed : sql.atomic (resolveReconciliation input) db = .ok ((), after) := by
    refine atomic_resolveReconciliation.mpr ⟨occurredAt, cost, row, valid, found, ?_⟩
    rw [unresolved]
    refine ⟨onHold, atomic_releaseMandate.mpr ⟨?_, released⟩⟩
    rw [Db.mandate_recordResolution, owns]
    rfl
  unfold outcome Op.transaction
  rw [Semantics.atomic_bind, committed]
  rfl

/-- **Every listed case can be resolved, under a condition.** In every run whose steps do to a mandate
nothing that `KeepsResolvable` rules out, each listed case of that mandate is resolved by a call with
well-formed input. -/
theorem case_resolvable (ops : List Op)
    (keeps : Along step (KeepsResolvable organizationId mandateId) Db.empty ops)
    {entries : List ReconciliationCase} {entry : ReconciliationCase}
    (listed : listReconciliationCases (run step Db.empty ops) organizationId = .ok entries)
    (member : entry ∈ entries) (owned : entry.mandateId = mandateId)
    {input : ResolveReconciliationInput} {occurredAt : ℤ} {cost : ℕ}
    (valid : ResolutionValid input occurredAt cost)
    (named : input.organizationId = organizationId ∧ input.requestId = entry.requestId) :
    ∃ after, outcome (run step Db.empty ops) (.resolveReconciliation input) =
      .ok (.nothing, after) := by
  have resolvable : Resolvable organizationId mandateId (run step Db.empty ops) :=
    invariant_of_commits keeps ⟨nofun, nofun⟩ fun wf resolvable keeps commit =>
      resolvable.commit keeps commit wf
  obtain ⟨row, found, sameMandate, onHold, unresolved⟩ := of_listed listed member
  rw [← named.2] at found unresolved
  exact resolvable.resolves (wellFormed_run ops) valid named.1 found (sameMandate.trans owned) onHold
    unresolved

end Cases

namespace Sample

/-- An operator takes the mandate to `reconciliation_hold` while a request runs, which is then held. -/
def stuck : List Op :=
  draft 20 [] ++ [move .active, admission "first" 5 10, move .reconciliationHold, hold "first" 30]

/-- A held request of a mandate an operator has moved on to `closing`. -/
def heldAndClosing : List Op :=
  draft 20 [] ++ [move .active, admission "first" 5 10, hold "first" 30, move .closing]

theorem notBilled_first : ResolutionValid (notBilled "first") 0 0 :=
  ⟨by decide +kernel, by decide +kernel, rfl, by decide +kernel, by decide +kernel,
    by decide +kernel, by decide +kernel, rfl⟩

end Sample

/-- A listed case is rejected because its mandate has no hold row. -/
theorem case_stuck :
    letI := Sample.crypto
    (listReconciliationCases (run step Db.empty Sample.stuck) "org").map
        (·.map (·.requestId)) = .ok ["first"] ∧
      ResolutionValid (Sample.notBilled "first") 0 0 ∧
      (outcome (run step Db.empty Sample.stuck) (Sample.confirmNotBilled "first")).map
        (fun _ => ()) = .error "RECONCILIATION_MANDATE_STATE_MISSING" :=
  ⟨by decide +kernel, Sample.notBilled_first, by decide +kernel⟩

theorem case_resolvable_sample :
    letI := Sample.crypto
    ∃ after, outcome (run step Db.empty Sample.heldAndClosing) (Sample.confirmNotBilled "first") =
      .ok (.nothing, after) :=
  @case_resolvable Sample.crypto "org" "mandate" Sample.heldAndClosing (by decide +kernel)
    [⟨"first", "mandate", "agent", "provider", "model", "OUTCOME_UNKNOWN", 5, none, false,
      "1970-01-01T00:00:00.030Z"⟩] _ (by decide +kernel) List.mem_cons_self rfl
    (Sample.notBilled "first") 0 0 Sample.notBilled_first ⟨rfl, rfl⟩

end FuseControlPlane.Persistence
