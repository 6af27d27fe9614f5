/-
The report intents of a run as an outbox: intents are only ever added, and the last one alone has authority.

* `OutboxOrdered`: sequence numbers grow, and every intent but the last one is superseded.
* `OutboxSound`: besides, a run with report intents is complete only by a pass report that is published.
* `OutboxGrows`: intents are kept but for their states, and superseded ones altogether.
* `StoreWrite.outbox`: **every write keeps all of it, adds no receipt and publishes nothing**.
* `ReportFinish.outbox`: **the end of a publication publishes at most the last intent, with its receipt**.
-/

import FuseControlPlane.Reliability.StoreSteps

set_option linter.unusedSectionVars false

namespace FuseControlPlane.Reliability

open Foundation Foundation.JavaScript Domain Evidence

/-! ### Intents -/

/-- The intent, but for its state. -/
def ReportIntentRow.unstated (intent : ReportIntentRow) : ReportIntentRow :=
  { intent with state := .committed }

/-- Intents that are the same but for their states. -/
theorem ReportIntentRow.same_of_unstated {first second : ReportIntentRow}
    (same : first.unstated = second.unstated) :
    first.intentSequence = second.intentSequence ∧ first.reportKind = second.reportKind ∧
      first.reportBytes = second.reportBytes ∧
      first.publicationDeadline = second.publicationDeadline := by
  simp only [ReportIntentRow.unstated, ReportIntentRow.mk.injEq] at same
  obtain ⟨sequence, kind, bytes, _, _, _, deadline, _⟩ := same
  exact ⟨sequence, kind, bytes, deadline⟩

/-- Sequence numbers grow, and of the intents only the last one, which comes first, is not superseded. -/
structure IntentsOrdered (intents : List ReportIntentRow) (next : ℕ) : Prop where
  ordered : intents.Pairwise fun later earlier => earlier.intentSequence < later.intentSequence
  numbered : ∀ intent ∈ intents, intent.intentSequence < next
  superseded : ∀ intent ∈ intents.tail, intent.state = .superseded
  latest : ∀ intent, intents.head? = some intent → intent.state ≠ .superseded

namespace IntentsOrdered

variable {intents : List ReportIntentRow} {next : ℕ}

/-- The sequence number tells the intent. -/
theorem eq_of_sequence (sound : IntentsOrdered intents next) {first second : ReportIntentRow}
    (here : first ∈ intents) (there : second ∈ intents)
    (same : first.intentSequence = second.intentSequence) : first = second := by
  have distinct : (intents.map ReportIntentRow.intentSequence).Nodup :=
    List.pairwise_map.mpr (sound.ordered.imp fun before => (Nat.ne_of_lt before).symm)
  exact List.inj_on_of_nodup_map distinct here there same

/-- An intent that is not the last one is superseded. -/
theorem latest_or_superseded (sound : IntentsOrdered intents next) {intent : ReportIntentRow}
    (member : intent ∈ intents) : intents.head? = some intent ∨ intent.state = .superseded := by
  cases intents with
  | nil => cases member
  | cons latest earlier =>
    rcases List.mem_cons.mp member with rfl | older
    · exact .inl rfl
    · exact .inr (sound.superseded intent older)

/-- A new intent supersedes the last one. -/
theorem insert (sound : IntentsOrdered intents next) {inserted : ReportIntentRow}
    (numbered : inserted.intentSequence = next) (current : inserted.state ≠ .superseded) :
    IntentsOrdered (inserted :: intents.modifyHead ({ · with state := .superseded })) (next + 1) := by
  have isLatest : ∀ intent, (inserted :: intents.modifyHead ({ · with state := .superseded })).head? =
      some intent → intent.state ≠ .superseded := by
    rintro intent ⟨⟩
    exact current
  cases intents with
  | nil =>
    refine ⟨List.pairwise_singleton _ _, ?_, nofun, isLatest⟩
    intro intent member
    rw [List.mem_singleton.mp member, numbered]
    exact Nat.lt_succ_self next
  | cons last earlier =>
    have older : ∀ intent ∈ { last with state := .superseded } :: earlier, intent.intentSequence < next := by
      intro intent member
      rcases List.mem_cons.mp member with rfl | member
      · exact sound.numbered last List.mem_cons_self
      · exact sound.numbered intent (List.mem_cons_of_mem _ member)
    refine ⟨List.pairwise_cons.mpr ⟨fun intent member => ?_, ?_⟩, ?_, ?_, isLatest⟩
    · rw [numbered]
      exact older intent member
    · exact List.pairwise_cons.mpr (List.pairwise_cons.mp sound.ordered)
    · intro intent member
      rcases List.mem_cons.mp member with rfl | member
      · omega
      · exact (older intent member).trans (Nat.lt_succ_self next)
    · intro intent member
      rcases List.mem_cons.mp member with rfl | member
      · rfl
      · exact sound.superseded intent member

/-- Intents of which the states are rewritten, and none is superseded or ceases to be. -/
theorem map (sound : IntentsOrdered intents next) {rewrite : ReportIntentRow → ReportIntentRow}
    (sequence : ∀ intent, (rewrite intent).intentSequence = intent.intentSequence)
    (superseded : ∀ intent, (rewrite intent).state = .superseded ↔ intent.state = .superseded) :
    IntentsOrdered (intents.map rewrite) next := by
  refine ⟨List.pairwise_map.mpr (sound.ordered.imp fun before => ?_), ?_, ?_, ?_⟩
  · rw [sequence, sequence]
    exact before
  · intro intent member
    obtain ⟨old, older, rfl⟩ := List.mem_map.mp member
    rw [sequence]
    exact sound.numbered old older
  · intro intent member
    rw [← List.map_tail] at member
    obtain ⟨old, older, rfl⟩ := List.mem_map.mp member
    exact (superseded old).mpr (sound.superseded old older)
  · intro intent last
    rw [List.head?_map, Option.map_eq_some_iff] at last
    obtain ⟨old, last, rfl⟩ := last
    exact fun lost => sound.latest old last ((superseded old).mp lost)

end IntentsOrdered

namespace StagedRun

/-- The intents of a run, but for their states. -/
def reports (run : StagedRun) : List ReportIntentRow := run.reportIntents.map ReportIntentRow.unstated

/-- The run has report intents: it is of version 3 or 4. -/
def isSequenced (run : StagedRun) : Prop :=
  usesSequencedReportIntents run.control.profile.protocolVersion = true

end StagedRun

section Outbox

variable [NodeCrypto] [Collation] [ProtocolProfiles]

/-- A run whose intents are ordered, and whose control row has the columns of its profile. -/
structure OutboxOrdered (run : StagedRun) : Prop
    extends IntentsOrdered run.reportIntents run.nextReportIntentSequence where
  profiled : reliabilityProtocolProfileForRunId run.runId = .ok run.control.profile

/-- A run with report intents is complete only by a pass report that is published. -/
structure OutboxSound (run : StagedRun) : Prop extends OutboxOrdered run where
  complete : run.isSequenced → run.control.state = .complete →
    ∃ intent, run.reportIntents.head? = some intent ∧ intent.reportKind = .pass ∧
      intent.state = .published

/-- Intents are kept but for their states, and superseded ones altogether. -/
structure OutboxGrows (run after : StagedRun) : Prop where
  runId : after.runId = run.runId
  profile : after.control.profile = run.control.profile
  reports : run.reports <:+ after.reports
  superseded : ∀ intent ∈ run.reportIntents, intent.state = .superseded → intent ∈ after.reportIntents

/-- Besides, no receipt is added and no intent is published. -/
structure OutboxWritten (run after : StagedRun) : Prop extends OutboxGrows run after where
  receipts : after.reportReceipts = run.reportReceipts
  published : ∀ intent ∈ after.reportIntents, intent.state = .published → intent ∈ run.reportIntents

variable {run after later : StagedRun}

theorem OutboxGrows.refl (run : StagedRun) : OutboxGrows run run :=
  ⟨rfl, rfl, List.suffix_refl _, fun _ member _ => member⟩

theorem OutboxGrows.trans (first : OutboxGrows run after) (second : OutboxGrows after later) :
    OutboxGrows run later :=
  ⟨second.runId.trans first.runId, second.profile.trans first.profile, first.reports.trans second.reports,
    fun intent member superseded =>
      second.superseded intent (first.superseded intent member superseded) superseded⟩

theorem OutboxGrows.isSequenced (grows : OutboxGrows run after) : after.isSequenced ↔ run.isSequenced := by
  unfold StagedRun.isSequenced
  rw [grows.profile]

theorem OutboxGrows.mem_reports (grows : OutboxGrows run after) {report : ReportIntentRow}
    (member : report ∈ run.reports) : report ∈ after.reports :=
  grows.reports.subset member

theorem OutboxWritten.refl (run : StagedRun) : OutboxWritten run run :=
  ⟨.refl run, rfl, fun _ member _ => member⟩

theorem OutboxWritten.trans (first : OutboxWritten run after) (second : OutboxWritten after later) :
    OutboxWritten run later :=
  ⟨first.toOutboxGrows.trans second.toOutboxGrows, second.receipts.trans first.receipts,
    fun intent member published =>
      first.published intent (second.published intent member published) published⟩

/-! ### A new intent -/

theorem unstated_superseded (intents : List ReportIntentRow) :
    (intents.modifyHead ({ · with state := .superseded })).map ReportIntentRow.unstated =
      intents.map ReportIntentRow.unstated := by
  cases intents <;> rfl

theorem insertIntent_written (sound : OutboxOrdered run) (input : ReliabilityRun.ReportIntentInput)
    (now : ℤ) : OutboxWritten run (run.withRows (run.toReliabilityRun.insertIntent input now)) := by
  refine ⟨⟨rfl, rfl, ?_, ?_⟩, rfl, ?_⟩
  · have kept := unstated_superseded run.reportIntents
    show run.reportIntents.map _ <:+ (_ :: run.reportIntents.modifyHead _).map _
    rw [List.map_cons, kept]
    exact List.suffix_cons _ _
  · intro intent member superseded
    have latest := sound.latest
    show intent ∈ _ :: run.reportIntents.modifyHead _
    cases rows : run.reportIntents with
    | nil =>
      rw [rows] at member
      cases member
    | cons last earlier =>
      rw [rows] at member latest
      rcases List.mem_cons.mp member with rfl | older
      · exact absurd superseded (latest _ rfl)
      · exact List.mem_cons_of_mem _ (List.mem_cons_of_mem _ older)
  · intro intent member published
    have member : intent ∈ _ :: run.reportIntents.modifyHead _ := member
    rcases List.mem_cons.mp member with rfl | kept
    · cases published
    cases rows : run.reportIntents with
    | nil =>
      rw [rows] at kept
      cases kept
    | cons last earlier =>
      rw [rows] at kept
      rcases List.mem_cons.mp kept with rfl | older
      · cases published
      · exact List.mem_cons_of_mem _ older

/-- An intent is inserted, unless it is there already; one that is published is not superseded. -/
theorem commitReportIntentLocked_outbox {input : ReliabilityRun.ReportIntentInput} {now : ℤ}
    (sound : OutboxSound run) (accepted : run.commitReportIntentLocked input now = .ok after) :
    OutboxWritten run after ∧ OutboxSound after := by
  obtain ⟨rows, committed, rfl⟩ := StagedRun.carry_eq_ok.mp accepted
  rcases commitReportIntentLocked_eq_ok committed with rfl | ⟨rfl, guarded⟩
  · exact ⟨.refl run, sound⟩
  refine ⟨insertIntent_written sound.toOutboxOrdered input now,
    ⟨sound.insert rfl nofun, sound.profiled⟩, fun sequenced complete => ?_⟩
  obtain ⟨intent, latest, _, published⟩ := sound.complete sequenced complete
  exact absurd published (guarded intent latest).2.1

/-! ### Another state of an intent -/

/-- The row of an intent that moves to another state, from an allowed one. -/
def ReportIntentRow.movedTo (intentSequence : ℕ) (state : ReportIntentState)
    (allowedStates : List ReportIntentState) (intent : ReportIntentRow) : ReportIntentRow :=
  if intent.intentSequence = intentSequence && allowedStates.contains intent.state then
    { intent with state }
  else intent

variable (intentSequence : ℕ) (state : ReportIntentState) (allowedStates : List ReportIntentState)

theorem unstated_movedTo (intent : ReportIntentRow) :
    (intent.movedTo intentSequence state allowedStates).unstated = intent.unstated := by
  unfold ReportIntentRow.movedTo
  split <;> rfl

/-- An intent in a state that is not allowed does not move. -/
theorem movedTo_of_not_allowed {intent : ReportIntentRow} (forbidden : intent.state ∉ allowedStates) :
    intent.movedTo intentSequence state allowedStates = intent := by
  unfold ReportIntentRow.movedTo
  rw [if_neg (by simp [forbidden])]

/-- An intent moves, or is the same. -/
theorem movedTo_cases (intent : ReportIntentRow) :
    intent.movedTo intentSequence state allowedStates = intent ∨
      (intent.intentSequence = intentSequence ∧ intent.state ∈ allowedStates ∧
        (intent.movedTo intentSequence state allowedStates).state = state) := by
  unfold ReportIntentRow.movedTo
  split
  · next moves =>
    simp only [Bool.and_eq_true, decide_eq_true_eq, List.contains_iff_mem] at moves
    exact .inr ⟨moves.1, moves.2, rfl⟩
  · exact .inl rfl

theorem reports_withIntentState (run : StagedRun) :
    (run.withIntentState intentSequence state allowedStates).reports = run.reports := by
  show (run.reportIntents.map (ReportIntentRow.movedTo intentSequence state allowedStates)).map _ = _
  rw [List.map_map]
  exact List.map_congr_left fun intent _ => unstated_movedTo intentSequence state allowedStates intent

/-- Superseded intents neither move nor come to be. -/
theorem withIntentState_grows (sound : OutboxOrdered run) (current : state ≠ .superseded)
    (allowed : .superseded ∉ allowedStates) :
    OutboxGrows run (run.withIntentState intentSequence state allowedStates) ∧
      OutboxOrdered (run.withIntentState intentSequence state allowedStates) := by
  have superseded (intent : ReportIntentRow) :
      (intent.movedTo intentSequence state allowedStates).state = .superseded ↔
        intent.state = .superseded := by
    constructor
    · intro lost
      rcases movedTo_cases intentSequence state allowedStates intent with same | ⟨_, _, moved⟩
      · rwa [same] at lost
      · exact absurd (moved.symm.trans lost) current
    · intro lost
      rw [movedTo_of_not_allowed _ _ _ (lost ▸ allowed)]
      exact lost
  refine ⟨⟨rfl, rfl, ?_, fun intent member lost => ?_⟩, ?_, sound.profiled⟩
  · rw [reports_withIntentState]
  · refine List.mem_map.mpr ⟨intent, member, movedTo_of_not_allowed _ _ _ (lost ▸ allowed)⟩
  · refine @IntentsOrdered.map _ _ sound.toIntentsOrdered
      (ReportIntentRow.movedTo intentSequence state allowedStates) (fun intent => ?_) superseded
    have same := congrArg ReportIntentRow.intentSequence
      (unstated_movedTo intentSequence state allowedStates intent)
    exact same

/-! ### All writes -/

/-- Only other columns are written, and a run with report intents is not completed. -/
theorem outbox_of_same (sound : OutboxSound run) (runId : after.runId = run.runId)
    (profile : after.control.profile = run.control.profile)
    (reportIntents : after.reportIntents = run.reportIntents)
    (next : after.nextReportIntentSequence = run.nextReportIntentSequence)
    (receipts : after.reportReceipts = run.reportReceipts)
    (complete : run.isSequenced → after.control.state = .complete → run.control.state = .complete) :
    OutboxWritten run after ∧ OutboxSound after := by
  refine ⟨⟨⟨runId, profile, ?_, ?_⟩, receipts, ?_⟩, ⟨?_, ?_⟩, fun sequenced done => ?_⟩
  · unfold StagedRun.reports
    rw [reportIntents]
  · intro intent member _
    rwa [reportIntents]
  · intro intent member _
    rwa [reportIntents] at member
  · rw [reportIntents, next]
    exact sound.toIntentsOrdered
  · rw [runId, profile]
    exact sound.profiled
  · rw [reportIntents]
    have before : run.isSequenced := by
      unfold StagedRun.isSequenced
      rw [← profile]
      exact sequenced
    exact sound.complete before (complete before done)

/-- **A write keeps the outbox, adds no receipt and publishes nothing.** -/
theorem StoreWrite.outbox (sound : OutboxSound run) (write : StoreWrite run after) :
    OutboxWritten run after ∧ OutboxSound after := by
  cases write with
  | aside same =>
    exact outbox_of_same sound same.runId same.profile same.reportIntents same.nextReportIntentSequence
      same.reportReceipts fun _ complete => same.state.symm.trans complete
  | fail => exact outbox_of_same sound rfl rfl rfl rfl rfl fun _ => nofun
  | enter stage early => exact outbox_of_same sound rfl rfl rfl rfl rfl fun _ => id
  | advance stage going => exact outbox_of_same sound rfl rfl rfl rfl rfl fun _ => id
  | intent input now accepted => exact commitReportIntentLocked_outbox sound accepted
  | mark intent state allowedStates latest unpublished allowed =>
    have absent (other : ReportIntentState) (committed : other ≠ .committed)
        (failed : other ≠ .publicationFailed) : other ∉ allowedStates := fun member =>
      (allowed other member).elim committed failed
    have current : state ≠ .superseded := by rcases unpublished with rfl | rfl <;> exact nofun
    obtain ⟨grows, ordered⟩ := withIntentState_grows intent.intentSequence state allowedStates
      sound.toOutboxOrdered current (absent .superseded nofun nofun)
    refine ⟨⟨grows, rfl, fun row member published => ?_⟩, ordered, fun sequenced complete => ?_⟩
    · obtain ⟨old, older, rfl⟩ := List.mem_map.mp member
      rcases movedTo_cases intent.intentSequence state allowedStates old with same | ⟨_, _, moved⟩
      · unfold ReportIntentRow.movedTo at same
        rwa [same]
      · have unmoved := moved.symm.trans published
        rcases unpublished with rfl | rfl <;> cases unmoved
    · obtain ⟨last, isLatest, kind, published⟩ := sound.complete sequenced complete
      have stays := movedTo_of_not_allowed intent.intentSequence state allowedStates
        (published ▸ absent .published nofun nofun)
      refine ⟨last, ?_, kind, published⟩
      show (run.reportIntents.map (ReportIntentRow.movedTo _ _ _)).head? = some last
      rw [List.head?_map, isLatest, Option.map_some, stays]

theorem StoreWrites.outbox (sound : OutboxSound run) (writes : StoreWrites run after) :
    OutboxWritten run after ∧ OutboxSound after := by
  induction writes with
  | refl => exact ⟨.refl run, sound⟩
  | tail _ write earlier =>
    obtain ⟨written, held⟩ := earlier
    obtain ⟨more, kept⟩ := write.outbox held
    exact ⟨written.trans more, kept⟩

/-! ### The end of a publication -/

/-- The receipt of an intent. -/
def ReportIntentRow.receipt (intent : ReportIntentRow) : ReportReceiptRow :=
  ⟨intent.intentSequence, intent.reportBytes⟩

/-- Only the receipt of one intent may be added, and only that intent may be published, with its receipt. -/
structure OutboxFinished (run : StagedRun) (intent : ReportIntentRow) (after : StagedRun) : Prop
    extends OutboxGrows run after where
  kept : ∀ receipt ∈ run.reportReceipts, receipt ∈ after.reportReceipts
  receipts : ∀ receipt ∈ after.reportReceipts, receipt ∈ run.reportReceipts ∨ receipt = intent.receipt
  published : ∀ row ∈ after.reportIntents, row.state = .published →
    row ∈ run.reportIntents ∨ (row.unstated = intent.unstated ∧ intent.receipt ∈ after.reportReceipts)

theorem withReceipt_outbox {intent : ReportIntentRow} (sound : OutboxSound run) :
    OutboxSound (run.withReceipt intent) :=
  ⟨⟨sound.toIntentsOrdered, sound.profiled⟩, sound.complete⟩

/-- The last intent is published. -/
theorem withPublished_outbox {intent : ReportIntentRow} (sound : OutboxSound run)
    (latest : run.reportIntents.head? = some intent) :
    OutboxFinished run intent (run.withPublished intent) ∧ OutboxOrdered (run.withPublished intent) := by
  obtain ⟨grows, ordered⟩ := withIntentState_grows intent.intentSequence .published [.committed]
    (@withReceipt_outbox _ _ _ _ intent sound).toOutboxOrdered nofun (by simp)
  refine ⟨⟨⟨rfl, rfl, grows.reports, grows.superseded⟩, fun _ member => List.mem_cons_of_mem _ member,
    fun _ member => (List.mem_cons.mp member).symm, fun row member published => ?_⟩, ordered⟩
  obtain ⟨old, older, rfl⟩ := List.mem_map.mp member
  have known : old ∈ run.reportIntents := older
  rcases movedTo_cases intent.intentSequence .published [.committed] old with same | ⟨own, _, _⟩
  · unfold ReportIntentRow.movedTo at same
    exact .inl (same.symm ▸ known)
  · have same : old = intent := sound.eq_of_sequence known (List.mem_of_mem_head? latest) own
    refine .inr ⟨?_, List.mem_cons_self⟩
    rw [← same]
    exact unstated_movedTo _ _ _ old

/-- **The end of a publication keeps the outbox; it may publish the last intent, with its receipt.** -/
theorem ReportFinish.outbox {intent : ReportIntentRow} (sound : OutboxSound run)
    (latest : run.reportIntents.head? = some intent) (finish : ReportFinish run intent after) :
    OutboxFinished run intent after ∧ OutboxSound after := by
  cases finish with
  | again received =>
    exact ⟨⟨.refl run, fun _ member => member, fun _ member => .inl member,
      fun _ member _ => .inl member⟩, sound⟩
  | failure kind committed =>
    obtain ⟨finished, ordered⟩ := withPublished_outbox sound latest
    refine ⟨finished, ordered, fun sequenced complete => ?_⟩
    obtain ⟨last, isLatest, pass, _⟩ := sound.complete sequenced complete
    cases latest.symm.trans isLatest
    cases kind.symm.trans pass
  | pass kind committed settled active =>
    obtain ⟨finished, ordered⟩ := withPublished_outbox sound latest
    refine ⟨⟨⟨finished.runId, finished.profile, finished.reports, finished.superseded⟩, finished.kept,
      finished.receipts, finished.published⟩, ⟨ordered.toIntentsOrdered, ordered.profiled⟩,
      fun _ _ => ?_⟩
    refine ⟨intent.movedTo intent.intentSequence .published [.committed], ?_, ?_, ?_⟩
    · show (run.reportIntents.map (ReportIntentRow.movedTo _ _ _)).head? = _
      rw [List.head?_map, latest, Option.map_some]
    · have same := congrArg ReportIntentRow.reportKind
        (unstated_movedTo intent.intentSequence .published [.committed] intent)
      exact same.trans kind
    · obtain ⟨old, member, own, state⟩ := committed
      have same : old = intent := sound.eq_of_sequence member (List.mem_of_mem_head? latest) own
      unfold ReportIntentRow.movedTo
      rw [← same, state, if_pos (by simp)]
  | late writes =>
    obtain ⟨written, kept⟩ := writes.outbox (withReceipt_outbox sound)
    refine ⟨⟨⟨written.runId, written.profile, written.reports, written.superseded⟩, ?_, ?_, ?_⟩, kept⟩
    · intro receipt member
      rw [written.receipts]
      exact List.mem_cons_of_mem _ member
    · intro receipt member
      rw [written.receipts] at member
      exact (List.mem_cons.mp member).symm
    · exact fun row member published => .inl (written.published row member published)

end Outbox

end FuseControlPlane.Reliability
