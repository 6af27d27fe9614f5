/-
The life of one mandate: its state, its hold row and whether it has an open reconciliation case.

`Lifecycle` lists what a commit may do to the three; `Commit.lifecycle` derives it. An argument about
the states of a mandate is a case analysis of `Lifecycle`.

* `closing_irreversible`: a mandate that was closing or closed does not come back, in runs in which no
  step takes a closing mandate to `reconciliation_hold` over a hold row that remembers another state.
* `closing_reverts`: such a step can bring it back to `paused`.
-/

import FuseControlPlane.Persistence.Spend

set_option linter.unusedSectionVars false

namespace FuseControlPlane.Persistence

open Foundation Foundation.JavaScript Domain Identity FuseControlPlane.Core Program

/-! ### Open cases after an update -/

section OpenCases

variable {db after : Db} {organizationId mandateId : String}

/-- Open cases are read off the executions and the resolutions. -/
theorem openCase_congr (executions : after.inferenceExecutions = db.inferenceExecutions)
    (resolutions : after.reconciliationResolutions = db.reconciliationResolutions) :
    after.openCase organizationId mandateId = db.openCase organizationId mandateId := by
  rw [Bool.eq_iff_iff, Db.openCase_eq_true, Db.openCase_eq_true]
  simp only [Db.execution, Db.resolution, executions, resolutions]

/-- Writing one execution leaves the open cases of a mandate as they are, when the execution is not
an open case of it before or after. -/
theorem openCase_write {row : ExecutionRow}
    (executions : ∀ organization request, after.execution organization request =
      if organization = row.organizationId ∧ request = row.requestId then some row
      else db.execution organization request)
    (resolutions : ∀ organization request, (organization, request) ≠
      (row.organizationId, row.requestId) →
      after.resolution organization request = db.resolution organization request)
    (unlisted : row.organizationId = organizationId → row.mandateId = mandateId →
      row.status ≠ .reconciliationHold)
    (before : row.organizationId = organizationId →
      ∀ old, db.execution row.organizationId row.requestId = some old → old.mandateId = mandateId →
      old.status ≠ .reconciliationHold) :
    after.openCase organizationId mandateId = db.openCase organizationId mandateId := by
  rw [Bool.eq_iff_iff, Db.openCase_eq_true, Db.openCase_eq_true]
  refine exists_congr fun request => ?_
  by_cases same : organizationId = row.organizationId ∧ request = row.requestId
  · rw [executions, if_pos same]
    constructor
    · rintro ⟨_, ⟨rfl⟩, mandate, onHold, _⟩
      exact absurd onHold (unlisted same.1.symm mandate)
    · rintro ⟨old, found, mandate, onHold, _⟩
      rw [same.1, same.2] at found
      exact absurd onHold (before same.1.symm old found mandate)
  · rw [executions, if_neg same, resolutions _ _ fun equal => same (Prod.mk.inj equal)]

/-- A running execution that finishes opens and closes no case. -/
theorem openCase_finish {organization request : String} {row : ExecutionRow}
    {update : ExecutionUpdate} (found : db.execution organization request = some row)
    (running : row.status = .executing)
    (finished : (update.set row).status ≠ .reconciliationHold) :
    ((Write.execution (update.set row)).apply db).openCase organizationId mandateId =
      db.openCase organizationId mandateId := by
  obtain ⟨sameOrganization, sameRequest⟩ := Db.key_of_execution found
  have preserves := update.set_preserves row
  refine @openCase_write _ _ _ _ (update.set row) ?_ ?_ (fun _ _ => finished) ?_
  · intro organization' request'
    rw [Db.execution_update, preserves.organizationId, preserves.requestId]
  · exact fun _ _ _ => rfl
  · intro _ old known _
    rw [preserves.organizationId, preserves.requestId, sameOrganization, sameRequest, found,
      Option.some.injEq] at known
    rw [← known, running]
    decide

end OpenCases

/-! ### What a commit does to one mandate -/

section Commits

variable [NodeCrypto]

/-- The row, the hold and the open cases of a mandate after a commit. -/
inductive Lifecycle (db : Db) (op : Op) (organizationId mandateId : String) :
    Option MandateRow → Option HoldRow → Bool → Prop
  | kept : Lifecycle db op organizationId mandateId (db.mandate organizationId mandateId)
      (db.hold organizationId mandateId) (db.openCase organizationId mandateId)
  /-- The mandate is created, or its policy is set. -/
  | edited (row : MandateRow)
      (state : db.mandate organizationId mandateId = none ∧ row.state = .draft ∨
        ∃ old, db.mandate organizationId mandateId = some old ∧ row.state = old.state) :
      Lifecycle db op organizationId mandateId (some row) (db.hold organizationId mandateId)
        (db.openCase organizationId mandateId)
  /-- An operator moves it. -/
  | moved (row : MandateRow) (target : MandateState)
      (found : db.mandate organizationId mandateId = some row)
      (called : operatorMove db op = some (organizationId, mandateId, target))
      (allowed : target ∈ mandateTransitions row.state) :
      Lifecycle db op organizationId mandateId (some { row with state := target })
        (db.hold organizationId mandateId) (db.openCase organizationId mandateId)
  /-- One of its executions is put on hold. -/
  | held (row : MandateRow) (execution : ExecutionRow) (update : ExecutionUpdate)
      (found : db.mandate organizationId mandateId = some row)
      (holds : heldExecution db op = some (execution, update))
      (owned : execution.organizationId = organizationId ∧ execution.mandateId = mandateId) :
      Lifecycle db op organizationId mandateId
        (some { row with state := Db.heldState row.state })
        ((db.hold organizationId mandateId).or (db.newHold organizationId mandateId)) true
  /-- Its last case is resolved beyond holds. -/
  | unheld (row : MandateRow) (found : db.mandate organizationId mandateId = some row)
      (absent : db.hold organizationId mandateId = none) :
      Lifecycle db op organizationId mandateId (some row) none false
  /-- Its last case is resolved and it gets the remembered state back. -/
  | restored (row : MandateRow) (hold : HoldRow)
      (found : db.mandate organizationId mandateId = some row)
      (held : db.hold organizationId mandateId = some hold)
      (onHold : row.state = .reconciliationHold) :
      Lifecycle db op organizationId mandateId
        (some { row with state := restoredState hold.priorState }) none false
  /-- Its last case is resolved after it was moved on to `closing`. -/
  | released (row : MandateRow) (hold : HoldRow)
      (found : db.mandate organizationId mandateId = some row)
      (held : db.hold organizationId mandateId = some hold) (closing : row.state = .closing) :
      Lifecycle db op organizationId mandateId (some row) none false

variable {db after : Db} {op : Op} {reply : Reply}

/-- A commit that touches neither executions nor mandates nor holds. -/
theorem Lifecycle.of_eq {organizationId mandateId : String} {mandate : Option MandateRow}
    {hold : Option HoldRow} {openCase : Bool}
    (mandates : mandate = db.mandate organizationId mandateId)
    (holds : hold = db.hold organizationId mandateId)
    (cases_ : openCase = db.openCase organizationId mandateId) :
    Lifecycle db op organizationId mandateId mandate hold openCase := by
  rw [mandates, holds, cases_]
  exact .kept

/-- A held execution opens a case of its mandate, and of no other. -/
theorem lifecycle_held (wf : WellFormed db) {execution : ExecutionRow} {update : ExecutionUpdate}
    (holds : heldExecution db op = some (execution, update)) (organizationId mandateId : String) :
    Lifecycle db op organizationId mandateId
      ((db.holdExecution execution update).mandate organizationId mandateId)
      ((db.holdExecution execution update).hold organizationId mandateId)
      ((db.holdExecution execution update).openCase organizationId mandateId) := by
  obtain ⟨found, running, held⟩ := found_of_heldExecution holds
  have preserves := update.set_preserves execution
  rw [Db.mandate_holdExecution, Db.hold_holdExecution]
  by_cases owned : organizationId = execution.organizationId ∧ mandateId = execution.mandateId
  · obtain ⟨rfl, rfl⟩ := owned
    obtain ⟨owner, owns⟩ := wf.mandateOf found
    have opened : (db.holdExecution execution update).openCase execution.organizationId
        execution.mandateId = true := by
      refine Db.openCase_eq_true.mpr ⟨execution.requestId, update.set execution, ?_,
        preserves.mandateId, held, ?_⟩
      · rw [Db.execution_holdExecution, if_pos ⟨rfl, rfl⟩]
      · rw [Db.resolution_holdExecution]
        exact wf.unresolved found (by simp [running])
    rw [if_pos ⟨rfl, rfl⟩, if_pos ⟨rfl, rfl⟩, owns, opened]
    exact .held owner execution update owns holds ⟨rfl, rfl⟩
  · rw [if_neg owned, if_neg owned]
    refine .of_eq rfl rfl (@openCase_write _ _ _ _ (update.set execution) ?_ ?_ ?_ ?_)
    · intro organization request
      rw [Db.execution_holdExecution, preserves.organizationId, preserves.requestId]
    · intro organization request _
      exact Db.resolution_holdExecution ..
    · intro organization mandate
      rw [preserves.organizationId] at organization
      rw [preserves.mandateId] at mandate
      exact absurd ⟨organization.symm, mandate.symm⟩ owned
    · intro _ old known _
      rw [preserves.organizationId, preserves.requestId, found, Option.some.injEq] at known
      rw [← known, running]
      decide

/-- A resolved execution is no case of any mandate; the cases of other mandates stay. -/
theorem openCase_recordResolution {input : ResolveReconciliationInput} {row : ExecutionRow}
    {cost : ℕ} {occurredAt : ℤ} {organizationId mandateId : String}
    (found : db.execution input.organizationId input.requestId = some row)
    (other : ¬ (organizationId = row.organizationId ∧ mandateId = row.mandateId)) :
    (db.recordResolution input row cost occurredAt).openCase organizationId mandateId =
      db.openCase organizationId mandateId := by
  obtain ⟨organization, request⟩ := Db.key_of_execution found
  have preserves := (resolutionUpdate input.resolution row cost occurredAt).set_preserves row
  refine @openCase_write _ _ _ _ ((resolutionUpdate input.resolution row cost occurredAt).set row)
    ?_ ?_ ?_ ?_
  · intro organization' request'
    rw [Db.execution_recordResolution, preserves.organizationId, preserves.requestId]
  · intro organization' request' different
    rw [preserves.organizationId, preserves.requestId, organization, request] at different
    simp only [Db.recordResolution, resolution_apply, newResolution]
    exact if_neg fun same => different (Prod.ext same.1 same.2)
  · intro sameOrganization sameMandate
    rw [preserves.organizationId] at sameOrganization
    rw [preserves.mandateId] at sameMandate
    exact absurd ⟨sameOrganization.symm, sameMandate.symm⟩ other
  · intro sameOrganization old known sameMandate
    rw [preserves.organizationId, preserves.requestId, organization, request, found,
      Option.some.injEq] at known
    rw [preserves.organizationId] at sameOrganization
    rw [← known] at sameMandate
    exact absurd ⟨sameOrganization.symm, sameMandate.symm⟩ other

/-- A resolution closes a case of its mandate, and of no other. -/
theorem lifecycle_resolved {input : ResolveReconciliationInput} {row : ExecutionRow}
    {cost : ℕ} {occurredAt : ℤ} (found : db.execution input.organizationId input.requestId = some row)
    (onHold : row.status = .reconciliationHold)
    (fresh : db.resolution input.organizationId input.requestId = none)
    (released : Released (db.recordResolution input row cost occurredAt) row.organizationId
      row.mandateId after) (organizationId mandateId : String) :
    Lifecycle db op organizationId mandateId (after.mandate organizationId mandateId)
      (after.hold organizationId mandateId) (after.openCase organizationId mandateId) := by
  obtain ⟨organization, request⟩ := Db.key_of_execution found
  have kept : after.openCase organizationId mandateId =
      (db.recordResolution input row cost occurredAt).openCase organizationId mandateId := by
    cases released <;> exact openCase_congr rfl rfl
  rw [kept]
  by_cases owned : organizationId = row.organizationId ∧ mandateId = row.mandateId
  · obtain ⟨rfl, rfl⟩ := owned
    cases released with
    | stillOpen open_ =>
      refine .of_eq rfl rfl ?_
      rw [open_]
      refine (Db.openCase_eq_true.mpr ⟨row.requestId, row, ?_, rfl, onHold, ?_⟩).symm
      · rw [organization, request]
        exact found
      · rw [organization, request]
        exact fresh
    | unheld owner known settled absent beyond =>
      rw [settled, known, absent]
      exact .unheld owner known absent
    | restored owner hold known settled held onHold =>
      simp only [settled, mandate_apply (.removeHold _ _), hold_apply, and_self, if_true]
      rw [mandate_write known { owner with state := restoredState hold.priorState } ⟨rfl, rfl⟩,
        if_pos ⟨rfl, rfl⟩]
      exact .restored owner hold known held onHold
    | closing owner hold known settled held movedOn =>
      rw [settled]
      simp only [mandate_apply, hold_apply, and_self, if_true, known]
      exact .released owner hold known held movedOn
  · rw [openCase_recordResolution found owned]
    cases released with
    | stillOpen | unheld => exact .kept
    | restored owner hold known settled held onHold =>
      refine .of_eq ?_ ?_ rfl
      · rw [mandate_apply (.removeHold _ _),
          mandate_write known { owner with state := restoredState hold.priorState } ⟨rfl, rfl⟩,
          if_neg owned]
        rfl
      · simp only [hold_apply, if_neg owned]
        rfl
    | closing owner hold known settled held movedOn =>
      refine .of_eq rfl ?_ rfl
      simp only [hold_apply, if_neg owned]
      rfl

/-- **What a commit does to a mandate.** -/
theorem Commit.lifecycle (commit : Commit db op reply after) (wf : WellFormed db)
    (organizationId mandateId : String) :
    Lifecycle db op organizationId mandateId (after.mandate organizationId mandateId)
      (after.hold organizationId mandateId) (after.openCase organizationId mandateId) := by
  cases commit with
  | organization | agent | policy | assigned | branch =>
    exact .of_eq (by simp) (by simp) (openCase_congr rfl rfl)
  | previewed | replayed | notFailed | resolvedBefore => exact .kept
  | mandate input draft fresh known =>
    rw [mandate_apply]
    show Lifecycle db _ organizationId mandateId
      (if organizationId = input.organizationId ∧ mandateId = input.id then _ else _) _ _
    split
    · next here =>
      obtain ⟨rfl, rfl⟩ := here
      exact .edited _ (.inl ⟨fresh, draft⟩)
    · exact .kept
  | transition organization mandate target context row valid found allowed =>
    rw [mandate_write found { row with state := target } ⟨rfl, rfl⟩]
    split
    · next here =>
      obtain ⟨rfl, rfl⟩ := here
      refine .moved row target found (if_pos ⟨valid, ?_⟩) allowed
      rw [found]
      exact List.contains_iff_mem.mpr allowed
    · exact .kept
  | policySet organization mandate policyId policyVersion context row found =>
    rw [mandate_write found { row with policyId, policyVersion } ⟨rfl, rfl⟩]
    split
    · next here =>
      obtain ⟨rfl, rfl⟩ := here
      exact .edited _ (.inr ⟨row, found, rfl⟩)
    · exact .kept
  | held op reply row update holds quiet found => exact lifecycle_held wf holds _ _
  | admitted decisionId input decidedAt row result begun fresh evaluated =>
    refine .of_eq rfl rfl (@openCase_write _ _ _ _ (admittedExecution input decidedAt
      (db.newDecision input decisionId decidedAt row result)) ?_ ?_ ?_ ?_)
    · intro organization request
      simp only [Db.recordAdmission, execution_apply]
    · exact fun _ _ _ => rfl
    · intro _ _
      rcases newExecution_status decisionId evaluated with ⟨denied, _⟩ | ⟨running, _⟩
      · rw [denied]
        decide
      · rw [running]
        decide
    · intro _ old known
      cases fresh.symm.trans known
  | completed input reply row completedAt found running positive within =>
    exact .of_eq (by simp) (by simp) (openCase_finish found running
      (ExecutionStatus.noConfusion))
  | failed input row failedAt found running =>
    exact .of_eq (by simp) (by simp) (openCase_finish found running
      (ExecutionStatus.noConfusion))
  | resolved input row cost occurredAt after found onHold fresh priced released =>
    exact lifecycle_resolved found onHold fresh released organizationId mandateId

/-! ### Closing is irreversible, under a condition -/

/-- The call takes a hold on the mandate: it puts one of its executions on hold, or an operator moves
the mandate to `reconciliation_hold`. -/
def takesHold (db : Db) (op : Op) (organizationId mandateId : String) : Bool :=
  operatorMove db op = some (organizationId, mandateId, .reconciliationHold) ||
    (heldExecution db op).any fun (execution, _) =>
      execution.organizationId = organizationId && execution.mandateId = mandateId

/-- No hold is taken on the mandate while it is closing and its hold row remembers another state. -/
def KeepsClosing (organizationId mandateId : String) (db : Db) (op : Op) : Prop :=
  takesHold db op organizationId mandateId = true →
    ∀ row ∈ db.mandate organizationId mandateId, row.state = .closing →
      ∀ hold ∈ db.hold organizationId mandateId, hold.priorState = .closing

instance (organizationId mandateId : String) (db : Db) (op : Op) :
    Decidable (KeepsClosing organizationId mandateId db op) :=
  inferInstanceAs (Decidable (_ → ∀ row ∈ db.mandate organizationId mandateId, _ →
    ∀ hold ∈ db.hold organizationId mandateId, _))

/-- The mandate is closing or closed, or on a hold that will give back `closing`. -/
def OnTheWayOut (organizationId mandateId : String) (db : Db) : Prop :=
  ∃ row, db.mandate organizationId mandateId = some row ∧
    (row.state = .closing ∨ row.state = .closed ∨ row.state = .reconciliationHold ∧
      ∀ hold ∈ db.hold organizationId mandateId, hold.priorState = .closing)

/-- A mandate on the way out stays there, under the condition. -/
theorem OnTheWayOut.commit {organizationId mandateId : String}
    (leaving : OnTheWayOut organizationId mandateId db)
    (keeps : KeepsClosing organizationId mandateId db op) (commit : Commit db op reply after)
    (wf : WellFormed db) : OnTheWayOut organizationId mandateId after := by
  obtain ⟨row, found, states⟩ := leaving
  have view := commit.lifecycle wf organizationId mandateId
  unfold OnTheWayOut
  generalize after.mandate organizationId mandateId = mandate at view ⊢
  generalize after.hold organizationId mandateId = hold at view ⊢
  generalize after.openCase organizationId mandateId = openCase at view
  cases view with
  | kept => exact ⟨row, found, states⟩
  | edited new state =>
    rcases state with ⟨absent, _⟩ | ⟨old, known, same⟩
    · exact absurd (absent.symm.trans found) nofun
    · rw [found, Option.some.injEq] at known
      subst known
      exact ⟨new, rfl, by rwa [same]⟩
  | moved old target known called allowed =>
    rw [found, Option.some.injEq] at known
    subst known
    refine ⟨_, rfl, ?_⟩
    rcases states with closing | closed | ⟨onHold, remembers⟩
    · rw [closing] at allowed
      rcases List.mem_cons.mp allowed with rfl | rest
      · exact .inr (.inl rfl)
      · obtain rfl := List.mem_singleton.mp rest
        exact .inr (.inr ⟨rfl, keeps (by simp [takesHold, called]) row found closing⟩)
    · rw [closed] at allowed
      cases allowed
    · rw [onHold] at allowed
      obtain rfl := List.mem_singleton.mp allowed
      exact .inl rfl
  | held old execution update known holds owned =>
    rw [found, Option.some.injEq] at known
    subst known
    have taken : takesHold db op organizationId mandateId = true := by
      simp [takesHold, holds, owned]
    refine ⟨_, rfl, ?_⟩
    rcases states with closing | closed | ⟨onHold, remembers⟩
    · refine .inr (.inr ⟨by rw [closing]; rfl, fun remembered here => ?_⟩)
      cases before : db.hold organizationId mandateId with
      | some hold =>
        rw [before] at here
        cases here
        exact keeps taken row found closing remembered before
      | none =>
        rw [before] at here
        rw [(Db.newHold_eq_some _ _ _ found here).1, closing]
    · exact .inr (.inl (by rw [closed]; rfl))
    · refine .inr (.inr ⟨by rw [onHold]; rfl, fun remembered here => ?_⟩)
      cases before : db.hold organizationId mandateId with
      | some hold =>
        rw [before] at here
        cases here
        exact remembers remembered before
      | none =>
        rw [before] at here
        have checked := (Db.newHold_eq_some _ _ _ found here).2
        rw [onHold] at checked
        exact absurd checked (by decide)
  | unheld old known absent =>
    rw [found, Option.some.injEq] at known
    subst known
    refine ⟨row, rfl, ?_⟩
    rw [absent] at states
    exact states
  | restored old hold known held onHold =>
    rw [found, Option.some.injEq] at known
    subst known
    refine ⟨_, rfl, .inl ?_⟩
    rcases states with closing | closed | ⟨_, remembers⟩
    · rw [onHold] at closing
      cases closing
    · rw [onHold] at closed
      cases closed
    · rw [remembers hold held]
      rfl
  | released old hold known held closing =>
    rw [found, Option.some.injEq] at known
    subst known
    exact ⟨row, rfl, .inl closing⟩

/-- **Closing is irreversible, under a condition.** A mandate that was closing or closed is never again
active, paused, tripped or exhausted, if from then on no hold is taken on it while it is closing and
its hold row remembers another state. -/
theorem closing_irreversible (first second : List Op) {organizationId mandateId : String}
    {row later : MandateRow}
    (found : (run step Db.empty first).mandate organizationId mandateId = some row)
    (closing : row.state = .closing ∨ row.state = .closed)
    (keeps : Along step (KeepsClosing organizationId mandateId) (run step Db.empty first) second)
    (reached : (run step Db.empty (first ++ second)).mandate organizationId mandateId = some later) :
    later.state ∉ [MandateState.active, .paused, .tripped, .exhausted] := by
  have both : WellFormed (run step (run step Db.empty first) second) ∧
      OnTheWayOut organizationId mandateId (run step (run step Db.empty first) second) := by
    refine @Along.invariant _ _ _ _ _
      (fun db => WellFormed db ∧ OnTheWayOut organizationId mandateId db) _ keeps
      ⟨wellFormed_run first, row, found, closing.imp id .inl⟩ ?_
    rintro db op ⟨wf, leaving⟩ keeps
    exact @step_preserves _ (fun db => WellFormed db ∧ OnTheWayOut organizationId mandateId db) _ _
      ⟨wf, leaving⟩ fun reply after commit => ⟨wf.commit commit, leaving.commit keeps commit wf⟩
  obtain ⟨last, here, states⟩ := both.2
  rw [run_append, here, Option.some.injEq] at reached
  subst reached
  rcases states with closing | closed | ⟨onHold, _⟩
  · rw [closing]
    decide
  · rw [closed]
    decide
  · rw [onHold]
    decide

end Commits

namespace Sample

/-- Two requests run, one is held, and an operator moves the mandate on to `closing`. -/
def closing : List Op :=
  draft 20 [] ++ [move .active, admission "first" 5 10, admission "second" 6 20, hold "first" 30,
    move .closing]

/-- The other request is held, and both cases are resolved. -/
def reopening : List Op := [hold "second" 40, confirmNotBilled "first", confirmNotBilled "second"]

/-- The case is resolved, the other request completes, and the mandate is closed. -/
def closingDone : List Op := [confirmNotBilled "first", complete "second" 6 40, move .closed]

end Sample

/-- A closing mandate comes back as `paused`. -/
theorem closing_reverts :
    letI := Sample.crypto
    ((run step Db.empty Sample.closing).mandate "org" "mandate").map (·.state) = some .closing ∧
      ((run step Db.empty (Sample.closing ++ Sample.reopening)).mandate "org" "mandate").map
        (·.state) = some .paused := by
  decide +kernel

theorem closing_irreversible_sample :
    letI := Sample.crypto
    ((run step Db.empty (Sample.closing ++ Sample.closingDone)).mandate "org" "mandate").map
        (·.state) = some .closed ∧
      MandateState.closed ∉ [MandateState.active, .paused, .tripped, .exhausted] :=
  ⟨by decide +kernel, @closing_irreversible Sample.crypto Sample.closing Sample.closingDone
    "org" "mandate" { newMandate (Sample.mandate 20) with state := .closing }
    { newMandate (Sample.mandate 20) with state := .closed }
    (by decide +kernel) (.inl rfl) (by decide +kernel) (by decide +kernel)⟩

end FuseControlPlane.Persistence
