/-
What a step of the protocol store does.

* `WorldStep`: the steps by what they do to the run, to the files and to the publishers.
* `storeStep_cases`: **every step is one of them**.
-/

import FuseControlPlane.Reliability.StoreWrites

set_option linter.unusedSectionVars false

namespace FuseControlPlane.Reliability

open Foundation Foundation.JavaScript Domain Evidence

section Steps

variable [NodeCrypto] [Collation] [ProtocolProfiles]

/-- Publishers of which none is new but one that has come to another phase. -/
def OnlyMoves (before after : List ReportPublisher) (moved : ReportPublisher) : Prop :=
  ∀ publisher ∈ after, publisher ∈ before ∨ publisher = moved

/-- A step of the store. -/
inductive WorldStep (world : StoreWorld) (op : StoreOp) : StoreWorld → Prop
  /-- Transactions that publish nothing; a publisher may end. -/
  | writes {run : StagedRun} {reports : List ReportPublisher} {finals : List FinalPublisher}
    (writes : StoreWrites world.run run) (fewer : reports ⊆ world.reportPublishers)
    (fewerFinal : finals ⊆ world.finalPublishers) :
    WorldStep world op { world with run, reportPublishers := reports, finalPublishers := finals }
  | begin {pending : StagedRun.PendingReport} {run : StagedRun} {now : ℤ}
    (accepted : world.run.beginReportIntent now = .ok (some pending, run)) :
    WorldStep world op
      { world with run, reportPublishers := world.reportPublishers ++ [⟨pending, .begun⟩] }
  | publishIntent {publisher : ReportPublisher} {reports : List ReportPublisher}
    (member : publisher ∈ world.reportPublishers) (begun : publisher.phase = .begun)
    (free : conflicts world.intentFile (world.intentBytes publisher) = false)
    (moves : OnlyMoves world.reportPublishers reports { publisher with phase := .intentPublished }) :
    WorldStep world op
      { world with intentFile := some (world.intentBytes publisher), reportPublishers := reports }
  | publishReport {publisher : ReportPublisher} {reports : List ReportPublisher}
    (member : publisher ∈ world.reportPublishers) (published : publisher.phase = .intentPublished)
    (free : conflicts world.reportFile publisher.pending.intent.reportBytes = false)
    (moves : OnlyMoves world.reportPublishers reports { publisher with phase := .reportPublished }) :
    WorldStep world op
      { world with
        reportFile := some publisher.pending.intent.reportBytes, reportPublishers := reports }
  | conflict {publisher : ReportPublisher} {reports : List ReportPublisher}
    (member : publisher ∈ world.reportPublishers)
    (moves : OnlyMoves world.reportPublishers reports { publisher with phase := .conflicted }) :
    WorldStep world op { world with reportPublishers := reports }
  | finish {publisher : ReportPublisher} {reports : List ReportPublisher} {intent : ReportIntentRow}
    {run : StagedRun} (member : publisher ∈ world.reportPublishers)
    (published : publisher.phase = .reportPublished)
    (latest : world.run.reportIntents.head? = some intent)
    (own : intent.intentSequence = publisher.pending.intent.intentSequence)
    (same : intent.reportBytes = publisher.pending.intent.reportBytes)
    (finish : ReportFinish world.run intent run) (fewer : reports ⊆ world.reportPublishers) :
    WorldStep world op { world with run, reportPublishers := reports }
  | beginFinal {report : FinalReportRow} (accepted : world.run.beginFinalReport = .ok (some report)) :
    WorldStep world op { world with finalPublishers := world.finalPublishers ++ [⟨report, false⟩] }
  | publishFinal {publisher : FinalPublisher} {finals : List FinalPublisher}
    (member : publisher ∈ world.finalPublishers)
    (free : conflicts world.reportFile publisher.report.reportBytes = false)
    (moves : ∀ other ∈ finals, other ∈ world.finalPublishers ∨ other.report = publisher.report) :
    WorldStep world op
      { world with reportFile := some publisher.report.reportBytes, finalPublishers := finals }
  | finishFinal {index : ℕ} {now : ℤ} {publisher : FinalPublisher} {finals : List FinalPublisher}
    {run : StagedRun} (called : op = .finishFinal index now)
    (found : world.finalPublishers[index]? = some publisher) (published : publisher.published = true)
    (accepted : world.run.finishFinalReport now = .ok run) (fewer : finals ⊆ world.finalPublishers) :
    WorldStep world op { world with run, finalPublishers := finals }

variable {world : StoreWorld} {op : StoreOp}

/-- A step that changes nothing. -/
theorem WorldStep.idle : WorldStep world op world :=
  .writes .refl (List.Subset.refl _) (List.Subset.refl _)

theorem settle_cases (world : StoreWorld) (result : Except String StagedRun) :
    world.settle result = world ∨ ∃ run, result = .ok run ∧ world.settle result = { world with run } := by
  cases result with
  | error error => exact .inl rfl
  | ok run => exact .inr ⟨run, rfl, rfl⟩

theorem onlyMoves_set {reports : List ReportPublisher} (index : ℕ) (moved : ReportPublisher) :
    OnlyMoves reports (reports.set index moved) moved := by
  intro publisher member
  exact List.mem_or_eq_of_mem_set member

theorem publishNext_cases {index : ℕ} {publisher : ReportPublisher}
    (member : publisher ∈ world.reportPublishers) :
    WorldStep world op (world.publishNext index publisher) := by
  unfold StoreWorld.publishNext
  split
  · next begun =>
    dsimp only
    split
    · exact .conflict member (onlyMoves_set index _)
    · next free => exact .publishIntent member begun (Bool.eq_false_iff.mpr free) (onlyMoves_set index _)
  · next published =>
    dsimp only
    split
    · exact .conflict member (onlyMoves_set index _)
    · next free =>
      exact .publishReport member published (Bool.eq_false_iff.mpr free) (onlyMoves_set index _)
  · exact .idle

theorem commitConflict_cases {index : ℕ} {publisher : ReportPublisher} {now : ℤ} :
    WorldStep world op (world.commitConflict index publisher now) := by
  unfold StoreWorld.commitConflict
  split
  · rcases settle_cases world (world.run.conflictReportIntent publisher.pending now) with
      same | ⟨run, accepted, same⟩
    · rw [same]
      exact .writes .refl (List.eraseIdx_subset) (List.Subset.refl _)
    · rw [same]
      exact .writes (conflictReportIntent_writes accepted) (List.eraseIdx_subset) (List.Subset.refl _)
  · exact .idle

theorem finishReport_cases {index : ℕ} {publisher : ReportPublisher} {now : ℤ}
    (member : publisher ∈ world.reportPublishers) :
    WorldStep world op (world.finishReport index publisher now) := by
  unfold StoreWorld.finishReport
  split
  · next published =>
    cases finishes : world.run.finishReportIntent publisher.pending now with
    | error error => exact .writes .refl (List.eraseIdx_subset) (List.Subset.refl _)
    | ok result =>
      obtain ⟨late, run⟩ := result
      obtain ⟨intent, latest, own, same, finish⟩ := finishReportIntent_eq_ok finishes
      exact .finish member published latest own same finish (List.eraseIdx_subset)
  · exact .idle

theorem finishFinal_cases {index : ℕ} {publisher : FinalPublisher} {now : ℤ}
    (found : world.finalPublishers[index]? = some publisher) (called : op = .finishFinal index now) :
    WorldStep world op (world.finishFinal index publisher now) := by
  unfold StoreWorld.finishFinal
  split
  · next published =>
    rcases settle_cases world (world.run.finishFinalReport now) with same | ⟨run, accepted, same⟩
    · rw [same]
      exact .writes .refl (List.Subset.refl _) (List.eraseIdx_subset)
    · rw [same]
      exact .finishFinal called found published accepted (List.eraseIdx_subset)
  · exact .idle

theorem beginReport_cases (now : ℤ) : WorldStep world op (world.beginReport now) := by
  unfold StoreWorld.beginReport
  split
  · exact .idle
  · next accepted =>
    exact .writes (beginReportIntent_writes accepted) (List.Subset.refl _) (List.Subset.refl _)
  · next accepted => exact .begin accepted

/-- **Every step of the store is a `WorldStep`.** -/
theorem storeStep_cases (world : StoreWorld) (op : StoreOp) : WorldStep world op (world.storeStep op) := by
  cases op with
  | transaction call =>
    show WorldStep world _ (world.settle (world.run.transact call))
    rcases settle_cases world (world.run.transact call) with same | ⟨run, accepted, same⟩
    · rw [same]
      exact .idle
    · rw [same]
      exact .writes (transact_writes accepted) (List.Subset.refl _) (List.Subset.refl _)
  | beginReport now => exact beginReport_cases now
  | publishNext index =>
    show WorldStep world _ ((world.reportPublishers[index]?).elim world _)
    cases found : world.reportPublishers[index]? with
    | none => exact .idle
    | some publisher => exact publishNext_cases (List.mem_of_getElem? found)
  | commitConflict index now =>
    show WorldStep world _ ((world.reportPublishers[index]?).elim world _)
    cases found : world.reportPublishers[index]? with
    | none => exact .idle
    | some publisher => exact commitConflict_cases
  | finishReport index now =>
    show WorldStep world _ ((world.reportPublishers[index]?).elim world _)
    cases found : world.reportPublishers[index]? with
    | none => exact .idle
    | some publisher => exact finishReport_cases (List.mem_of_getElem? found)
  | stopReport index => exact .writes .refl (List.eraseIdx_subset) (List.Subset.refl _)
  | beginFinal =>
    show WorldStep world _ world.beginFinal
    unfold StoreWorld.beginFinal
    split
    · next accepted => exact .beginFinal accepted
    · exact .idle
  | publishFinal index =>
    show WorldStep world _ ((world.finalPublishers[index]?).elim world _)
    cases found : world.finalPublishers[index]? with
    | none => exact .idle
    | some publisher =>
      show WorldStep world _ (world.publishFinal index publisher)
      unfold StoreWorld.publishFinal
      dsimp only
      split
      · exact .writes .refl (List.Subset.refl _) (List.eraseIdx_subset)
      · next free =>
        refine .publishFinal (List.mem_of_getElem? found) (Bool.eq_false_iff.mpr free) fun other member => ?_
        exact (List.mem_or_eq_of_mem_set member).imp_right fun same => by rw [same]
  | finishFinal index now =>
    show WorldStep world _ ((world.finalPublishers[index]?).elim world _)
    cases found : world.finalPublishers[index]? with
    | none => exact .idle
    | some publisher => exact finishFinal_cases found rfl
  | stopFinal index => exact .writes .refl (List.Subset.refl _) (List.eraseIdx_subset)

end Steps

end FuseControlPlane.Reliability
