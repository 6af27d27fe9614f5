/-
A publication of the latest report intent of a run, and what the canonical report file says about it.

* `publication`: a publisher begins, publishes the intent and the report, and commits that it has.
* `publication_publishes`: **it publishes a committed intent wherever no file holds other bytes**.
* `reports_agree`: **the file, the receipts and the intents agree in every run**, but a pass report stays
  where it is when its intent is superseded.
-/

import FuseControlPlane.Reliability.ReportAuthority
import FuseControlPlane.Reliability.SettledRuns

set_option linter.unusedSectionVars false

namespace FuseControlPlane.Reliability

open Foundation Foundation.JavaScript Domain Evidence

section Publication

variable [NodeCrypto] [Collation] [ProtocolProfiles]

/-! ### Publications -/

/-- A publication that begins and ends at the given times, by the publisher with the given index. -/
def publication (index : ℕ) (begun ended : ℤ) : List StoreOp :=
  [.beginReport begun, .publishNext index, .publishNext index, .finishReport index ended]

namespace StoreWorld

/-- Neither the file of the intent nor that of the report holds other bytes. -/
def isFree (world : StoreWorld) (intent : ReportIntentRow) : Bool :=
  !conflicts world.intentFile (world.run.intentBytes world.destination intent) &&
    !conflicts world.reportFile intent.reportBytes

end StoreWorld

variable {run : StagedRun} {intent : ReportIntentRow} {begun ended : ℤ}

/-- The run, in which a failure report that is late has failed to be published. -/
def StagedRun.begunAt (run : StagedRun) (intent : ReportIntentRow) (begun : ℤ) : StagedRun :=
  if begun < intent.publicationDeadline then run
  else run.withIntentState intent.intentSequence .publicationFailed [.committed]

theorem StagedRun.lock_of_sound (sound : OutboxSound run) : run.lockControlProfile = .ok run.control :=
  lockControlProfile_of_same rfl rfl sound.profiled

/-- The latest intent moves to another state. -/
theorem mark_latest (latest : run.reportIntents.head? = some intent) (state : ReportIntentState)
    {allowedStates : List ReportIntentState} (allowed : intent.state ∈ allowedStates) :
    run.markReport false intent state allowedStates =
      .ok (run.withIntentState intent.intentSequence state allowedStates) := by
  unfold StagedRun.markReport StagedRun.appendReportPublicationEventLocked
  rw [if_neg (by simp)]
  refine (require_bind (List.any_eq_true.mpr ⟨intent, List.mem_of_mem_head? latest, ?_⟩)).trans rfl
  simp [allowed]

/-- A publisher begins with the latest intent. A pass report must be in time. -/
theorem begin_latest (sound : OutboxSound run) (latest : run.reportIntents.head? = some intent)
    (committed : intent.state = .committed) (fresh : run.hasReceipt intent.intentSequence = false)
    (inTime : intent.reportKind = .pass → begun < intent.publicationDeadline) :
    run.beginReportIntent begun = .ok (some ⟨intent, decide (¬ begun < intent.publicationDeadline)⟩,
      run.begunAt intent begun) := by
  unfold StagedRun.beginReportIntent StagedRun.begunAt
  rw [StagedRun.lock_of_sound sound, ok_bind, latest]
  dsimp only
  rw [fresh, if_neg (by simp), require_bind (by rw [committed]; rfl)]
  by_cases early : begun < intent.publicationDeadline
  · have disposition : reportPublicationDeadlineDisposition intent.reportKind begun
        intent.publicationDeadline = .onTime := if_pos early
    rw [disposition]
    simp [early, StagedRun.markReport, bind, Except.bind, pure, Except.pure]
  · have failure : intent.reportKind = .failure := by
      cases kind : intent.reportKind with
      | pass => exact absurd (inTime kind) early
      | failure => rfl
    have disposition : reportPublicationDeadlineDisposition intent.reportKind begun
        intent.publicationDeadline = .lateFailure := by
      unfold reportPublicationDeadlineDisposition
      rw [if_neg early, failure]
    have marks : run.markReport false intent .publicationFailed [.committed] = _ :=
      mark_latest latest .publicationFailed (by simp [committed])
    rw [disposition, committed]
    simp only [reduceCtorEq, decide_false, Bool.or_self, marks, ok_bind, if_false, if_neg early]
    simp [early, pure, Except.pure]

/-- Publishers publish an intent and a report that no file keeps from being published. -/
theorem publish_free {world : StoreWorld} {before : List ReportPublisher}
    {pending : StagedRun.PendingReport} (there : world.reportPublishers = before ++ [⟨pending, .begun⟩])
    (free : world.isFree pending.intent = true) :
    Foundation.run StoreWorld.storeStep world [.publishNext before.length, .publishNext before.length] =
      { world with
        intentFile := some (world.run.intentBytes world.destination pending.intent)
        reportFile := some pending.intent.reportBytes
        reportPublishers := before ++ [⟨pending, .reportPublished⟩] } := by
  unfold StoreWorld.isFree at free
  simp only [Bool.and_eq_true, Bool.not_eq_true'] at free
  obtain ⟨freeIntent, freeReport⟩ := free
  let written : StoreWorld := { world with
    intentFile := some (world.run.intentBytes world.destination pending.intent)
    reportPublishers := before ++ [⟨pending, .intentPublished⟩] }
  have first : world.storeStep (.publishNext before.length) = written := by
    show world.withReport before.length _ = written
    unfold StoreWorld.withReport
    rw [there, List.getElem?_concat_length]
    show world.publishNext before.length ⟨pending, .begun⟩ = written
    unfold StoreWorld.publishNext
    dsimp only
    rw [show world.intentBytes ⟨pending, .begun⟩ = _ from rfl,
      if_neg (by simp [StoreWorld.intentBytes, freeIntent])]
    unfold StoreWorld.moveTo
    rw [there]
    simp [written, StoreWorld.intentBytes]
  have second : written.storeStep (.publishNext before.length) = { written with
      reportFile := some pending.intent.reportBytes
      reportPublishers := before ++ [⟨pending, .reportPublished⟩] } := by
    show written.withReport before.length _ = _
    unfold StoreWorld.withReport
    rw [show written.reportPublishers = before ++ [⟨pending, .intentPublished⟩] from rfl,
      List.getElem?_concat_length]
    show written.publishNext before.length ⟨pending, .intentPublished⟩ = _
    unfold StoreWorld.publishNext
    dsimp only
    rw [if_neg (by simp [written, freeReport])]
    simp [StoreWorld.moveTo, written]
  rw [run_cons, first, run_cons, second, run_nil]

/-- The last transaction of a publication: in time the intent is committed, and later it is for a failure
report. -/
theorem finish_latest {pending : StagedRun.PendingReport} {row : ReportIntentRow} (sound : OutboxSound run)
    (latest : run.reportIntents.head? = some row)
    (own : row.intentSequence = pending.intent.intentSequence)
    (same : row.reportBytes = pending.intent.reportBytes)
    (fresh : run.hasReceipt row.intentSequence = false)
    (inTime : ended < row.publicationDeadline → row.state = .committed)
    (late : ¬ ended < row.publicationDeadline → row.reportKind = .failure ∧
      (row.state = .committed ∨ row.state = .publicationFailed))
    (pass : row.reportKind = .pass → run.durableStage = .settled ∧ run.control.state = .active) :
    ∃ wasLate after, run.finishReportIntent pending ended = .ok (wasLate, after) ∧
      row.receipt ∈ after.reportReceipts := by
  have received : row.receipt ∈ (run.withReceipt row).reportReceipts := List.mem_cons_self
  have latestReceived : (run.withReceipt row).reportIntents.head? = some row := latest
  unfold StagedRun.finishReportIntent
  rw [StagedRun.lock_of_sound sound, ok_bind, latest, Option.filter_some, if_pos (by simp [own, same])]
  dsimp only
  rw [fresh, if_neg (by simp), ← same]
  by_cases early : ended < row.publicationDeadline
  · have disposition : reportPublicationDeadlineDisposition row.reportKind ended row.publicationDeadline =
        .onTime := if_pos early
    have marks : (run.withReceipt row).markReport false row .published [.committed] = _ :=
      mark_latest latestReceived .published (by simp [inTime early])
    rw [disposition, if_pos rfl]
    show ∃ wasLate after, (StagedRun.publishReport row (run.withReceipt row) >>= _) = _ ∧ _
    unfold StagedRun.publishReport
    rw [marks, ok_bind]
    cases kind : row.reportKind with
    | failure => exact ⟨false, _, rfl, received⟩
    | pass =>
      obtain ⟨settled, active⟩ := pass kind
      dsimp only
      rw [require_bind (show _ = true by
        simp [StagedRun.withReceipt, settled, active])]
      exact ⟨false, _, rfl, received⟩
  · obtain ⟨failure, state⟩ := late early
    have disposition : reportPublicationDeadlineDisposition row.reportKind ended row.publicationDeadline =
        .lateFailure := by
      unfold reportPublicationDeadlineDisposition
      rw [if_neg early, failure]
    have marks : (run.withReceipt row).markReport false row .publicationFailed
        [.committed, .publicationFailed] = _ :=
      mark_latest latestReceived .publicationFailed (by rcases state with state | state <;> simp [state])
    rw [disposition, if_neg (by simp)]
    show ∃ wasLate after, (StagedRun.missReport row _ ended (run.withReceipt row) >>= _) = _ ∧ _
    unfold StagedRun.missReport
    rw [failure]
    cases pending.lateAtStart with
    | true => exact ⟨true, _, rfl, received⟩
    | false =>
      rw [marks]
      exact ⟨true, _, rfl, received⟩

/-! ### The latest intent -/

variable {world : StoreWorld}

/-- A receipt with the sequence number of an intent is that of the intent, and its report is there. -/
theorem ReportsSound.written_of_receipt (sound : ReportsSound world)
    (member : intent ∈ world.run.reportIntents)
    (received : world.run.hasReceipt intent.intentSequence = true) :
    ReportWritten world intent.unstated ∧ intent.receipt ∈ world.run.reportReceipts := by
  obtain ⟨receipt, there, own⟩ := List.any_eq_true.mp received
  obtain ⟨report, written, same⟩ := sound.receipts receipt there
  obtain ⟨row, known, rfl⟩ := List.mem_map.mp written.known
  have sequence : row.intentSequence = intent.intentSequence := by
    have first := congrArg ReportReceiptRow.intentSequence same
    exact first.trans (of_decide_eq_true own)
  have rows : row = intent := sound.outbox.eq_of_sequence known member sequence
  subst rows
  refine ⟨written, ?_⟩
  have receipts : row.receipt = receipt := same
  rw [receipts]
  exact there

/-- The latest intent after a publication of it has begun. -/
theorem latest_begunAt (latest : run.reportIntents.head? = some intent)
    (committed : intent.state = .committed) :
    ∃ row, (run.begunAt intent begun).reportIntents.head? = some row ∧ row.unstated = intent.unstated ∧
      (begun < intent.publicationDeadline → row.state = .committed) ∧
      (row.state = .committed ∨ row.state = .publicationFailed) := by
  unfold StagedRun.begunAt
  split
  · exact ⟨intent, latest, rfl, fun _ => committed, .inl committed⟩
  · next late =>
    refine ⟨intent.movedTo intent.intentSequence .publicationFailed [.committed], ?_,
      unstated_movedTo _ _ _ intent, fun early => absurd early late, .inr ?_⟩
    · show (run.reportIntents.map (ReportIntentRow.movedTo _ _ _)).head? = _
      rw [List.head?_map, latest, Option.map_some]
    · unfold ReportIntentRow.movedTo
      rw [if_pos (by simp [committed])]

/-- Only states of intents are written when a publication begins. -/
theorem begunAt_same (run : StagedRun) (intent : ReportIntentRow) (begun : ℤ) :
    (run.begunAt intent begun).runId = run.runId ∧ (run.begunAt intent begun).control = run.control ∧
      (run.begunAt intent begun).durableStage = run.durableStage ∧
      (run.begunAt intent begun).reportReceipts = run.reportReceipts := by
  unfold StagedRun.begunAt
  split <;> exact ⟨rfl, rfl, rfl, rfl⟩

/-- **A committed intent is published wherever no file holds other bytes**: a failure report at any time, a
pass report until its deadline. -/
theorem publication_publishes (sound : ReportsSound world)
    (latest : world.run.reportIntents.head? = some intent) (committed : intent.state = .committed)
    (free : world.isFree intent = true) (inOrder : begun ≤ ended)
    (pass : intent.reportKind = .pass → ended < intent.publicationDeadline ∧
      world.run.durableStage = .settled ∧ world.run.control.state = .active) :
    (Foundation.run StoreWorld.storeStep world
        (publication world.reportPublishers.length begun ended)).reportFile = some intent.reportBytes ∧
      intent.receipt ∈ (Foundation.run StoreWorld.storeStep world
        (publication world.reportPublishers.length begun ended)).run.reportReceipts := by
  have member := List.mem_of_mem_head? latest
  cases received : world.run.hasReceipt intent.intentSequence with
  | true =>
    -- what has been published before stays so
    obtain ⟨written, there⟩ := sound.written_of_receipt member received
    obtain ⟨_, kept⟩ := run_kept sound (publication world.reportPublishers.length begun ended)
    exact ⟨kept.reportFile _ written.reportFile, kept.receipts _ there⟩
  | false =>
    obtain ⟨sameRun, sameControl, sameStage, sameReceipts⟩ := begunAt_same world.run intent begun
    let pending : StagedRun.PendingReport := ⟨intent, decide (¬ begun < intent.publicationDeadline)⟩
    let begunWorld : StoreWorld := { world with
      run := world.run.begunAt intent begun
      reportPublishers := world.reportPublishers ++ [⟨pending, .begun⟩] }
    have begins : world.storeStep (.beginReport begun) = begunWorld := by
      show world.beginReport begun = begunWorld
      unfold StoreWorld.beginReport
      rw [begin_latest sound.outbox latest committed received fun kind =>
        lt_of_le_of_lt inOrder (pass kind).1]
    have freeBegun : begunWorld.isFree intent = true := by
      unfold StoreWorld.isFree StoreWorld.destination StagedRun.intentBytes at free ⊢
      rw [show begunWorld.run.runId = world.run.runId from sameRun,
        show begunWorld.run.control = world.run.control from sameControl]
      exact free
    let published : StoreWorld := { begunWorld with
      intentFile := some (begunWorld.run.intentBytes begunWorld.destination intent)
      reportFile := some intent.reportBytes
      reportPublishers := world.reportPublishers ++ [⟨pending, .reportPublished⟩] }
    have publishes : Foundation.run StoreWorld.storeStep begunWorld
        [.publishNext world.reportPublishers.length, .publishNext world.reportPublishers.length] =
          published := by
      have there : begunWorld.reportPublishers = world.reportPublishers ++ [⟨pending, .begun⟩] := rfl
      have writes := publish_free there freeBegun
      exact writes
    have soundBegun : ReportsSound begunWorld := by
      rw [← begins]
      exact (storeStep_cases world (.beginReport begun)).reports sound
    have soundPublished : ReportsSound published := by
      rw [← publishes]
      exact (run_kept soundBegun _).1
    obtain ⟨row, isLatest, unstated, inTime, state⟩ := @latest_begunAt _ _ _ _ _ begun latest committed
    obtain ⟨sequence, kind, bytes, deadline⟩ := ReportIntentRow.same_of_unstated unstated
    have receipts : row.receipt = intent.receipt := congrArg₂ ReportReceiptRow.mk sequence bytes
    have fresh : published.run.hasReceipt row.intentSequence = false := by
      rw [sequence]
      show (StagedRun.reportReceipts (world.run.begunAt intent begun)).any _ = false
      rw [sameReceipts]
      exact received
    obtain ⟨wasLate, after, finishes, there⟩ := @finish_latest _ _ _ published.run ended pending row
      soundPublished.outbox isLatest sequence bytes fresh
      (fun early => inTime (lt_of_le_of_lt inOrder (deadline ▸ early)))
      (fun late => by
        refine ⟨?_, state⟩
        cases rowKind : row.reportKind with
        | failure => rfl
        | pass => exact absurd (deadline ▸ (pass (kind ▸ rowKind)).1) late)
      (fun rowKind => by
        obtain ⟨_, settled, active⟩ := pass (kind ▸ rowKind)
        exact ⟨sameStage.trans settled, (congrArg ControlRow.state sameControl).trans active⟩)
    have ends : published.storeStep (.finishReport world.reportPublishers.length ended) =
        { published with run := after, reportPublishers := world.reportPublishers } := by
      show published.withReport world.reportPublishers.length _ = _
      unfold StoreWorld.withReport
      rw [show published.reportPublishers = world.reportPublishers ++ [⟨pending, .reportPublished⟩] from rfl,
        List.getElem?_concat_length]
      show published.finishReport world.reportPublishers.length ⟨pending, .reportPublished⟩ ended = _
      unfold StoreWorld.finishReport
      rw [if_pos rfl, finishes]
      show { published with run := after, reportPublishers := (_ ++ [_]).eraseIdx _ } = _
      rw [List.eraseIdx_append_of_length_le (le_refl _), Nat.sub_self]
      simp
    have whole : Foundation.run StoreWorld.storeStep world
        (publication world.reportPublishers.length begun ended) =
          { published with run := after, reportPublishers := world.reportPublishers } := by
      show Foundation.run StoreWorld.storeStep (world.storeStep (.beginReport begun))
        ([.publishNext world.reportPublishers.length, .publishNext world.reportPublishers.length] ++
          [.finishReport world.reportPublishers.length ended]) = _
      rw [begins, run_append, publishes, run_cons, ends, run_nil]
    rw [whole]
    exact ⟨rfl, receipts ▸ there⟩

/-! ### Failure reports -/

/-- The latest intent is for a failure report. -/
def StagedRun.reportsFailure (run : StagedRun) : Prop :=
  ∃ intent, run.reportIntents.head? = some intent ∧ intent.reportKind = .failure

variable {after : StagedRun}

theorem StagedRun.reportsFailure_congr (same : after.reportIntents = run.reportIntents) :
    after.reportsFailure ↔ run.reportsFailure := by
  unfold StagedRun.reportsFailure
  rw [same]

theorem reportsFailure_withIntentState (failing : run.reportsFailure) (intentSequence : ℕ)
    (state : ReportIntentState) (allowedStates : List ReportIntentState) :
    (run.withIntentState intentSequence state allowedStates).reportsFailure := by
  obtain ⟨latest, last, kind⟩ := failing
  refine ⟨latest.movedTo intentSequence state allowedStates, ?_, ?_⟩
  · show (run.reportIntents.map (ReportIntentRow.movedTo _ _ _)).head? = _
    rw [List.head?_map, last, Option.map_some]
  · exact (ReportIntentRow.same_of_unstated
      (unstated_movedTo intentSequence state allowedStates latest)).2.1.trans kind

/-- A pass intent does not follow a failure intent. -/
theorem StoreWrite.reportsFailure (failing : run.reportsFailure) (write : StoreWrite run after) :
    after.reportsFailure := by
  cases write with
  | aside same => exact (StagedRun.reportsFailure_congr same.reportIntents).mpr failing
  | fail => exact failing
  | enter stage early => exact failing
  | advance stage going => exact failing
  | intent input now accepted =>
    obtain ⟨rows, committed, rfl⟩ := StagedRun.carry_eq_ok.mp accepted
    rcases commitReportIntentLocked_eq_ok committed with rfl | ⟨rfl, guarded⟩
    · exact failing
    · obtain ⟨latest, last, kind⟩ := failing
      have failure : input.reportKind = .failure := by
        cases wanted : input.reportKind with
        | pass => exact absurd ⟨kind, wanted⟩ (guarded latest last).1
        | failure => rfl
      exact ⟨_, rfl, failure⟩
  | mark intent state allowedStates latest unpublished allowed =>
    exact reportsFailure_withIntentState failing _ _ _

theorem WorldStep.reportsFailure {op : StoreOp} {later : StoreWorld} (failing : world.run.reportsFailure)
    (step : WorldStep world op later) : later.run.reportsFailure := by
  cases step with
  | writes writes fewer fewerFinal =>
    exact writes.keeps StagedRun.reportsFailure StoreWrite.reportsFailure failing
  | begin accepted =>
    exact (beginReportIntent_writes accepted).keeps StagedRun.reportsFailure StoreWrite.reportsFailure failing
  | @finish publisher reports intent later member published latest own same finish fewer =>
    cases finish with
    | again received => exact failing
    | failure kind committed => exact reportsFailure_withIntentState failing _ _ _
    | pass kind committed settled active => exact reportsFailure_withIntentState failing _ _ _
    | late writes =>
      have received : (world.run.withReceipt intent).reportsFailure := failing
      exact writes.keeps StagedRun.reportsFailure StoreWrite.reportsFailure received
  | finishFinal called found published accepted fewer =>
    obtain ⟨_, _, _, _, _, reportIntents, _⟩ := finishFinalReport_eq_ok accepted
    exact (StagedRun.reportsFailure_congr reportIntents).mpr failing
  | _ => exact failing

/-- **A run whose latest intent is for a failure report is never complete.** -/
theorem never_complete (sound : ReportsSound world) (sequenced : world.run.isSequenced)
    (failing : world.run.reportsFailure) (ops : List StoreOp) :
    (Foundation.run StoreWorld.storeStep world ops).run.control.state ≠ .complete := by
  intro complete
  have still := @Foundation.run_invariant _ _ StoreWorld.storeStep (fun later => later.run.reportsFailure) _
    failing (fun later op held => (storeStep_cases later op).reportsFailure held) ops
  obtain ⟨later, kept⟩ := run_kept sound ops
  obtain ⟨intent, latest, pass, _⟩ := later.outbox.complete (kept.grows.isSequenced.mpr sequenced) complete
  obtain ⟨other, last, failure⟩ := still
  cases latest.symm.trans last
  cases pass.symm.trans failure

/-! ### The report file of a run -/

/-- What the report file of a run says about its intents. -/
structure ReportsAgree (world : StoreWorld) : Prop where
  /-- The file is that of an intent. -/
  committed : world.run.isSequenced → ∀ bytes, world.reportFile = some bytes →
    ∃ intent ∈ world.run.reportIntents, intent.reportBytes = bytes
  /-- A pass report is there only if its intent is published, is still the latest one, or has been
  superseded. -/
  pass : ∀ intent ∈ world.run.reportIntents, intent.reportKind = .pass →
    world.reportFile = some intent.reportBytes →
      intent.state = .published ∨ world.run.reportIntents.head? = some intent ∨ intent.state = .superseded
  /-- What is there stays there. -/
  kept : ∀ bytes, world.reportFile = some bytes → ∀ ops,
    (Foundation.run StoreWorld.storeStep world ops).reportFile = some bytes
  /-- A superseded intent is never published. -/
  superseded : ∀ intent ∈ world.run.reportIntents, intent.state = .superseded → ∀ ops,
    intent ∈ (Foundation.run StoreWorld.storeStep world ops).run.reportIntents
  /-- The report of a published intent is there, and the intent is the latest one. -/
  published : ∀ intent ∈ world.run.reportIntents, intent.state = .published →
    world.reportFile = some intent.reportBytes ∧ world.run.reportIntents.head? = some intent
  /-- A run is complete only by a pass report that is published. -/
  complete : world.run.isSequenced → world.run.control.state = .complete →
    ∃ intent ∈ world.run.reportIntents, intent.reportKind = .pass ∧ intent.state = .published
  /-- Once a failure intent is the latest one, the run is never complete. -/
  failed : world.run.isSequenced → world.run.reportsFailure → ∀ ops,
    (Foundation.run StoreWorld.storeStep world ops).run.control.state ≠ .complete
  /-- The latest intent, while it is committed, is published wherever no file holds other bytes: a failure
  report at any time, a pass report until its deadline. -/
  publishes : ∀ intent, world.run.reportIntents.head? = some intent → intent.state = .committed →
    world.isFree intent = true → ∀ begun ended, begun ≤ ended →
      (intent.reportKind = .pass → ended < intent.publicationDeadline ∧
        world.run.durableStage = .settled ∧ world.run.control.state = .active) →
      (Foundation.run StoreWorld.storeStep world
          (publication world.reportPublishers.length begun ended)).reportFile = some intent.reportBytes ∧
        intent.receipt ∈ (Foundation.run StoreWorld.storeStep world
          (publication world.reportPublishers.length begun ended)).run.reportReceipts
  /-- Where the file holds other bytes, no intent is published in their place. -/
  preserved : ∀ intent ∈ world.run.reportIntents, ∀ bytes, world.reportFile = some bytes →
    bytes ≠ intent.reportBytes → ∀ ops,
      (Foundation.run StoreWorld.storeStep world ops).run.hasReceipt intent.intentSequence = false

theorem ReportsSound.agree (sound : ReportsSound world) : ReportsAgree world where
  committed sequenced bytes held := by
    obtain ⟨report, written⟩ := sound.written sequenced bytes held
    obtain ⟨intent, member, rfl⟩ := List.mem_map.mp written.known
    exact ⟨intent, member, Option.some.inj (written.reportFile.symm.trans held)⟩
  pass intent member _ _ := .inr (sound.outbox.latest_or_superseded member)
  kept bytes held ops := (run_kept sound ops).2.reportFile bytes held
  superseded intent member lost ops := (run_kept sound ops).2.grows.superseded intent member lost
  published intent member published := by
    have received : world.run.hasReceipt intent.intentSequence = true :=
      List.any_eq_true.mpr ⟨_, sound.published intent member published, decide_eq_true rfl⟩
    refine ⟨(sound.written_of_receipt member received).1.reportFile, ?_⟩
    rcases sound.outbox.latest_or_superseded member with latest | lost
    · exact latest
    · cases published.symm.trans lost
  complete sequenced complete := by
    obtain ⟨intent, latest, kind, published⟩ := sound.outbox.complete sequenced complete
    exact ⟨intent, List.mem_of_mem_head? latest, kind, published⟩
  failed sequenced failing ops := never_complete sound sequenced failing ops
  publishes intent latest committed free begun ended inOrder inTime :=
    publication_publishes sound latest committed free inOrder inTime
  preserved intent member bytes held other ops := by
    obtain ⟨later, kept⟩ := run_kept sound ops
    refine Bool.eq_false_iff.mpr fun received => other ?_
    obtain ⟨row, there, unstated⟩ := List.mem_map.mp (kept.grows.mem_reports (List.mem_map_of_mem member))
    obtain ⟨sequence, _, sameBytes, _⟩ := ReportIntentRow.same_of_unstated unstated
    rw [← sequence] at received
    have written := (later.written_of_receipt there received).1.reportFile
    have now := kept.reportFile bytes held
    exact (Option.some.inj (now.symm.trans written)).trans sameBytes

end Publication

/-! ### A pass report that is published too late -/

namespace Sample

end Sample

section Late

variable [NodeCrypto] [Collation] [ProtocolProfiles] {runId : String} {profile : ReliabilityProtocolProfile}

/-- An intent that supersedes at most the intent of another pass report. -/
theorem commitReportIntentLocked_inserts {run : ReliabilityRun} {input : ReliabilityRun.ReportIntentInput}
    {now : ℤ} (locked : run.lockControlProfile = .ok run.control)
    (sequenced : usesSequencedReportIntents run.control.profile.protocolVersion = true)
    (another : ∀ latest, run.reportIntents.head? = some latest →
      run.isCommittedAlready input latest = false ∧ latest.reportKind = .pass ∧
        latest.state = .publicationFailed) :
    run.commitReportIntentLocked input now = .ok (run.insertIntent input now) := by
  unfold ReliabilityRun.commitReportIntentLocked
  rw [locked, ok_bind, sequenced, if_neg (by simp)]
  cases last : run.reportIntents.head? with
  | none => rfl
  | some latest =>
    obtain ⟨other, pass, failed⟩ := another latest last
    dsimp only
    rw [other, if_neg (by simp), require_bind (by simp [pass]), require_bind (by simp [failed])]
    rfl

end Late

end FuseControlPlane.Reliability
