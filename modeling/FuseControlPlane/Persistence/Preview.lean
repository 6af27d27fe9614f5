/-
What a preview does to the store, and what it promises.

`previewInference` is the admission transaction with one flag, and only the path of a new request looks
at the flag. So a preview of a request that is known, running and overdue puts it on hold, like a
replay.

* `preview_readOnly_iff`: a preview changes nothing, and announces what an admission would commit,
  exactly when there is no such request.
* `preview_faithful`: of a new request it always announces what an admission would commit.
* `preview_holds`: a preview can put an execution and its mandate on hold.
-/

import FuseControlPlane.Persistence.Invariants

set_option linter.unusedSectionVars false

namespace FuseControlPlane.Persistence

open Foundation Foundation.JavaScript Domain Identity FuseControlPlane.Core Program

/-- What a reply to a new request announces: the decision with its reasons, and the reservation. -/
def AdmissionResult.announced : AdmissionResult → Option (PolicyDecisionResult × ℤ)
  | execute decision reservedCostAtomic => some (decision.result, reservedCostAtomic)
  | denied decision => some (decision.result, 0)
  | _ => none

/-- The reply to a new request announces the result and what it reserves, whatever the id of the
decision. -/
theorem announced_admissionReply (input : AdmitInferenceInput) (decision : StoredPolicyDecision) :
    (admissionReply input decision).announced =
      some (decision.result, reservation input decision.result) := by
  unfold admissionReply
  by_cases allowed : decision.result.outcome = .allow
  · rw [if_pos allowed]
    rfl
  · rw [if_neg allowed, reservation, if_neg allowed]
    rfl

section Previews

variable [NodeCrypto]

/-- The preview announces what every admission of the same request would commit. -/
def Faithful (db : Db) (decisionId : String) (input : AdmitInferenceInput) : Prop :=
  ∀ otherId reply after, outcome db (.admitInference otherId input) = .ok (.admission reply, after) →
    ∃ preview, outcome db (.previewInference decisionId input) = .ok (.admission preview, db) ∧
      preview.announced = reply.announced

/-- The outcome of an admission, from its transaction. -/
theorem outcome_admitInference {db after : Db} {decisionId : String} {input : AdmitInferenceInput}
    {reply : AdmissionResult} :
    outcome db (.admitInference decisionId input) = .ok (.admission reply, after) ↔
      sql.atomic (admitInference decisionId input false) db = .ok (reply, after) := by
  unfold outcome Op.transaction
  rw [Semantics.atomic_bind]
  cases sql.atomic (admitInference decisionId input false) db with
  | error error => simp
  | ok pair => simp [Prod.ext_iff]

/-- The outcome of a preview, from its transaction. -/
theorem outcome_previewInference {db after : Db} {decisionId : String} {input : AdmitInferenceInput}
    {reply : AdmissionResult} :
    outcome db (.previewInference decisionId input) = .ok (.admission reply, after) ↔
      sql.atomic (admitInference decisionId input true) db = .ok (reply, after) := by
  unfold outcome Op.transaction previewInference
  rw [Semantics.atomic_bind]
  cases sql.atomic (admitInference decisionId input true) db with
  | error error => simp
  | ok pair => simp [Prod.ext_iff]

/-- **A preview of a new request is faithful.** -/
theorem preview_faithful {db : Db} {decisionId : String} {input : AdmitInferenceInput}
    (fresh : db.execution input.organizationId input.requestId = none) :
    Faithful db decisionId input := by
  intro otherId reply after admitted
  obtain ⟨decidedAt, row, begun, committed⟩ :=
    atomic_admitInference.mp (outcome_admitInference.mp admitted)
  rw [fresh] at committed
  obtain ⟨result, evaluated, rfl, _⟩ := atomic_admitNew_record.mp committed
  refine ⟨admissionReply input (db.newDecision input decisionId decidedAt row result), ?_, ?_⟩
  · refine outcome_previewInference.mpr (atomic_admitInference.mpr ⟨decidedAt, row, begun, ?_⟩)
    rw [fresh]
    exact atomic_admitNew_preview.mpr ⟨result, evaluated, rfl, rfl⟩
  · rw [announced_admissionReply, announced_admissionReply]
    rfl

/-- A preview that finds nothing to put on hold changes nothing. -/
theorem preview_unchanged {db : Db} {decisionId : String} {input : AdmitInferenceInput}
    (quiet : replayHold db input = none) : step db (.previewInference decisionId input) = db := by
  rcases step_cases db (.previewInference decisionId input) with same | ⟨reply, commit⟩
  · exact same
  · generalize reached : step db (.previewInference decisionId input) = after at commit ⊢
    cases commit with
    | previewed => rfl
    | held op reply row update holds => exact absurd (quiet.symm.trans holds) nofun

/-- A preview that finds an overdue execution puts it on hold. -/
theorem preview_held {db : Db} (wf : WellFormed db) {decisionId : String}
    {input : AdmitInferenceInput} {row : ExecutionRow} {update : ExecutionUpdate}
    (holds : replayHold db input = some (row, update)) :
    step db (.previewInference decisionId input) = db.holdExecution row update := by
  obtain ⟨retriedAt, mandate, decision, begun, known, same, decided, overdue, rfl⟩ :=
    replayHold_eq_some.mp holds
  obtain ⟨organization, request⟩ := Db.key_of_execution known
  obtain ⟨owner, owns⟩ := wf.mandateOf known
  have found : db.execution row.organizationId row.requestId = some row := by
    rw [organization, request]
    exact known
  have committed : outcome db (.previewInference decisionId input) =
      .ok (.admission .failed, db.holdExecution row (.leaseExpired retriedAt)) := by
    refine outcome_previewInference.mpr (atomic_admitInference.mpr ⟨retriedAt, mandate, begun, ?_⟩)
    rw [known]
    refine ⟨same, (atomic_admissionFromExecution found).mpr ⟨decision, decided, ?_⟩⟩
    rw [if_pos overdue, organization, owns]
    exact ⟨rfl, rfl, by rw [Db.holdExecution, organization]⟩
  rw [step, committed]

/-- **Exactly when a preview is read-only and faithful**: when the request is not already known under
this fingerprint, still executing, and overdue at the time of the preview. -/
theorem preview_readOnly_iff (ops : List Op) (decisionId : String) (input : AdmitInferenceInput) :
    (step (run step Db.empty ops) (.previewInference decisionId input) = run step Db.empty ops ∧
        ((run step Db.empty ops).execution input.organizationId input.requestId = none →
          Faithful (run step Db.empty ops) decisionId input)) ↔
      replayHold (run step Db.empty ops) input = none := by
  constructor
  · rintro ⟨unchanged, _⟩
    cases holds : replayHold (run step Db.empty ops) input with
    | none => rfl
    | some pair =>
      obtain ⟨row, update⟩ := pair
      rw [preview_held (wellFormed_run ops) holds] at unchanged
      obtain ⟨found, running, held⟩ :=
        @found_of_heldExecution _ (.previewInference decisionId input) row update holds
      have written := Db.execution_holdExecution (run step Db.empty ops) row update
        row.organizationId row.requestId
      rw [unchanged, found, if_pos ⟨rfl, rfl⟩, Option.some.injEq] at written
      rw [← written, running] at held
      cases held
  · exact fun quiet => ⟨preview_unchanged quiet, preview_faithful⟩

end Previews

namespace Sample

/-- A request that runs. -/
def running : List Op := draft 20 [] ++ [move .active, admission "first" 5 10]

/-- The preview of the same request five minutes later. -/
def latePreview : Op := .previewInference "preview" (requestOn none "first" 5 300010)

end Sample

/-- A preview puts a running execution on hold, and its mandate with it. -/
theorem preview_holds :
    letI := Sample.crypto
    let before := run step Db.empty Sample.running
    let after := step before Sample.latePreview
    (before.execution "org" "first").map (·.status) = some .executing ∧
      (after.execution "org" "first").map (·.status) = some .reconciliationHold ∧
      (before.mandate "org" "mandate").map (·.state) = some .active ∧
      (after.mandate "org" "mandate").map (·.state) = some .reconciliationHold ∧
      before.hold "org" "mandate" = none ∧ (after.hold "org" "mandate").isSome = true := by
  decide +kernel

end FuseControlPlane.Persistence
