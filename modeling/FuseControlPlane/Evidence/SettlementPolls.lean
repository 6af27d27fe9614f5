/-
The polls of a settlement (`evidence/authoritativeSettlement.ts`) and the evaluation of polls
(`evidence/reliabilityProtocolV2.ts`).

* `runAuthoritativeSettlement`: a snapshot every five seconds, until one of them is complete and in time.
* `Polled`: the answers of the transactions up to the first that is accepted.
* `SettlementSummary.exceptRows`, `evaluateSettlement`: two checks of the result.
* `settlement_accepts_first`: **in every run the settlement accepts the first complete poll in its windows and
  nothing else, and both checks accept its result**.

An instant is an `Option ℚ`: `none` is a number that is not finite. The rows of a snapshot are JSON values.
-/

import FuseControlPlane.Evidence.AuthoritativeEvidence
import FuseControlPlane.Foundation.Program

set_option linter.unusedSectionVars false

namespace FuseControlPlane.Evidence

open Foundation Foundation.JavaScript

/-! ### The settlement -/

/-- `SETTLEMENT_OFFSETS_SECONDS`. -/
def settlementOffsetsSeconds : List ℤ := (List.range 25).map fun index : ℕ => (index : ℤ) * 5

/-- `SETTLEMENT_OFFSETS_SECONDS.entries()`, each offset with its index. -/
def settlementPolls : List (ℤ × ℕ) := settlementOffsetsSeconds.zipIdx

/-- `SETTLEMENT_WINDOW_MS`. -/
def settlementWindowMs : ℚ := 120000

/-- `SETTLEMENT_DATABASE_OPERATION_MS`. -/
def settlementDatabaseOperationMs : ℚ := 30000

structure SettlementSnapshot where
  complete : Bool
  rows : SettlementRows

/-- The isolation level is always repeatable read, and the transaction reads only. -/
structure SettlementTransactionOptions where
  startDeadlineMs : ℚ
  queryDeadlineMs : ℚ

structure SettlementTransactionResult where
  value : SettlementSnapshot
  databaseStartedAtMs : Option ℚ
  queryFinishedAtMs : Option ℚ

/-- A promise: what it is resolved with, or what it is rejected with. -/
abbrev Settled (α : Type) := Except String α

inductive SettlementCall : Type → Type
  | nowMs : SettlementCall (Option ℚ)
  | sleepUntil (epochMs : ℚ) : SettlementCall (Settled Unit)
  | transaction (options : SettlementTransactionOptions) : SettlementCall (Settled SettlementTransactionResult)

structure SettlementPollJournalEntry where
  pollNo : ℕ
  offsetSeconds : ℤ
  scheduledAtMs : ℚ
  databaseStartedAtMs : Option ℚ
  queryFinishedAtMs : Option ℚ
  deadlineEligible : Bool
  complete : Bool
  snapshotDigest : Option String
  rowCardinality : ℕ
  errorCode : Option String

structure AcceptedSnapshot where
  digest : String
  databaseStartedAtMs : Option ℚ
  rows : SettlementRows

structure FinalSnapshot where
  digest : Option String
  rowCardinality : ℕ
  journalCardinality : ℕ

structure AuthoritativeSettlementResult where
  runId : String
  settlementStartedAtMs : ℚ
  settlementDeadlineMs : ℚ
  passed : Bool
  acceptedOffsetSeconds : Option ℤ
  journal : List SettlementPollJournalEntry
  finalSnapshot : FinalSnapshot
  acceptedSnapshot : Option AcceptedSnapshot

/-- The variables of the loop. -/
structure SettlementProgress where
  journal : List SettlementPollJournalEntry
  acceptedOffsetSeconds : Option ℤ
  finalDigest : Option String
  finalRowCardinality : ℕ
  acceptedSnapshot : Option AcceptedSnapshot

/-- `first <= second`, which is false of numbers that are not finite here. -/
def notAfter (first second : Option ℚ) : Bool := first.any fun first => second.any fun second => first ≤ second

section Settlement

variable [Collation] [NodeCrypto] (startedAt : ℚ)

def settlementDeadline : ℚ := startedAt + settlementWindowMs

/-- `scheduledAtMs`. -/
def scheduledAtMs (offset : ℤ) : ℚ := startedAt + offset * 1000

def transactionOptions : SettlementTransactionOptions where
  startDeadlineMs := settlementDeadline startedAt
  queryDeadlineMs := settlementDeadline startedAt + settlementDatabaseOperationMs

/-- `startEligible && finishEligible`. -/
def deadlineEligible (offset : ℤ) (observed : SettlementTransactionResult) : Bool :=
  notAfter (some (scheduledAtMs startedAt offset)) observed.databaseStartedAtMs &&
    notAfter observed.databaseStartedAtMs (some (settlementDeadline startedAt)) &&
    notAfter observed.databaseStartedAtMs observed.queryFinishedAtMs &&
    notAfter observed.queryFinishedAtMs (observed.databaseStartedAtMs.map (· + settlementDatabaseOperationMs))

/-- What the journal says of a poll. -/
def journalEntry (poll : ℤ × ℕ) : Settled SettlementTransactionResult → SettlementPollJournalEntry
  | .ok observed =>
    { pollNo := poll.2 + 1
      offsetSeconds := poll.1
      scheduledAtMs := scheduledAtMs startedAt poll.1
      databaseStartedAtMs := observed.databaseStartedAtMs
      queryFinishedAtMs := observed.queryFinishedAtMs
      deadlineEligible := deadlineEligible startedAt poll.1 observed
      complete := deadlineEligible startedAt poll.1 observed && observed.value.complete
      snapshotDigest := some (authoritativeSnapshotDigest observed.value.rows)
      rowCardinality := authoritativeSnapshotCardinality observed.value.rows
      errorCode := none }
  | .error _ =>
    { pollNo := poll.2 + 1
      offsetSeconds := poll.1
      scheduledAtMs := scheduledAtMs startedAt poll.1
      databaseStartedAtMs := none
      queryFinishedAtMs := none
      deadlineEligible := false
      complete := false
      snapshotDigest := none
      rowCardinality := 0
      errorCode := some "SETTLEMENT_DATABASE_OPERATION_FAILED" }

/-- The variables after a transaction. -/
def SettlementProgress.record (progress : SettlementProgress) (poll : ℤ × ℕ)
    (answer : Settled SettlementTransactionResult) : SettlementProgress :=
  let entry := journalEntry startedAt poll answer
  match answer with
  | .error _ => { progress with journal := progress.journal ++ [entry] }
  | .ok observed =>
    { journal := progress.journal ++ [entry]
      acceptedOffsetSeconds := if entry.complete then some poll.1 else progress.acceptedOffsetSeconds
      finalDigest := entry.snapshotDigest
      finalRowCardinality := entry.rowCardinality
      acceptedSnapshot :=
        if entry.complete then
          some ⟨authoritativeSnapshotDigest observed.value.rows, observed.databaseStartedAtMs, observed.value.rows⟩
        else progress.acceptedSnapshot }

/-- The loop over the offsets. It is left at the first poll that is complete. -/
def pollOffsets : List (ℤ × ℕ) → SettlementProgress → Program SettlementCall String SettlementProgress
  | [], progress => return progress
  | poll :: rest, progress => do
    let slept ← .perform (.sleepUntil (scheduledAtMs startedAt poll.1))
    .fromExcept slept
    let answer ← .perform (.transaction (transactionOptions startedAt))
    if (journalEntry startedAt poll answer).complete then return progress.record startedAt poll answer
    else pollOffsets rest (progress.record startedAt poll answer)

end Settlement

def runAuthoritativeSettlement [Collation] [NodeCrypto] (runId : String) :
    Program SettlementCall String AuthoritativeSettlementResult := do
  .throwUnless (runId ≠ "") "SETTLEMENT_RUN_ID_REQUIRED"
  let now ← .perform .nowMs
  let settlementStartedAtMs ← .orThrow now "SETTLEMENT_CLOCK_INVALID"
  let progress ← pollOffsets settlementStartedAtMs settlementPolls ⟨[], none, none, 0, none⟩
  return {
    runId
    settlementStartedAtMs
    settlementDeadlineMs := settlementDeadline settlementStartedAtMs
    passed := progress.acceptedOffsetSeconds.isSome
    acceptedOffsetSeconds := progress.acceptedOffsetSeconds
    journal := progress.journal
    finalSnapshot := ⟨progress.finalDigest, progress.finalRowCardinality, progress.journal.length⟩
    acceptedSnapshot := progress.acceptedSnapshot }

/-! ### The evaluation of polls -/

structure SettlementPoll where
  offset : ℤ
  startedAt : Option ℚ
  complete : Bool

structure SettlementEvaluation where
  passed : Bool
  acceptedOffset : Option ℤ
  polls : List SettlementPoll

def exactSettlementOffsets : List ℤ := (List.range 25).map fun index : ℕ => (index : ℤ) * 5

def evaluateSettlement (startedAt : ℚ) (polls : List SettlementPoll) : SettlementEvaluation :=
  if exactSettlementOffsets.length < polls.length ||
      polls.zipIdx.any (fun (poll, index) => exactSettlementOffsets[index]? ≠ some poll.offset) then
    ⟨false, none, polls⟩
  else
    let deadline := startedAt + 120
    let timingValid := polls.all fun poll =>
      notAfter (some (startedAt + poll.offset)) poll.startedAt && notAfter poll.startedAt (some deadline)
    -- the place of `polls.find(...)`
    let accepted := if timingValid then
        polls.findIdx? fun poll => 0 ≤ poll.offset && poll.offset ≤ 120 && notAfter poll.startedAt (some deadline) &&
          poll.complete
      else none
    let stoppedAtFirstComplete := accepted.all fun index => index + 1 = polls.length
    { passed := accepted.isSome && stoppedAtFirstComplete
      acceptedOffset :=
        if stoppedAtFirstComplete then accepted.bind fun index => polls[index]?.map (·.offset) else none
      polls }

/-! ### Which poll is accepted -/

section Polls

variable [Collation] [NodeCrypto] {startedAt : ℚ}

/-- The transaction started and finished in its windows, and its snapshot is complete. -/
def Accepts (startedAt : ℚ) (offset : ℤ) (answer : Settled SettlementTransactionResult) : Prop :=
  ∃ observed began finished, answer = .ok observed ∧ observed.databaseStartedAtMs = some began ∧
    observed.queryFinishedAtMs = some finished ∧ startedAt + offset * 1000 ≤ began ∧ began ≤ startedAt + 120000 ∧
    began ≤ finished ∧ finished ≤ began + 30000 ∧ observed.value.complete = true

/-- The answers to polls, up to the first that is accepted. -/
inductive Polled (startedAt : ℚ) : List (ℤ × ℕ) → List (Settled SettlementTransactionResult) → Prop
  | exhausted : Polled startedAt [] []
  | accepted {poll : ℤ × ℕ} {rest : List (ℤ × ℕ)} {answer : Settled SettlementTransactionResult}
      (accepts : Accepts startedAt poll.1 answer) : Polled startedAt (poll :: rest) [answer]
  | later {poll : ℤ × ℕ} {rest : List (ℤ × ℕ)} {answer : Settled SettlementTransactionResult}
      {answers : List (Settled SettlementTransactionResult)} (refused : ¬ Accepts startedAt poll.1 answer)
      (polled : Polled startedAt rest answers) : Polled startedAt (poll :: rest) (answer :: answers)

/-- The calls of the polls. -/
def pollEvents (startedAt : ℚ) (polls : List (ℤ × ℕ)) (answers : List (Settled SettlementTransactionResult)) :
    List (Event SettlementCall) :=
  (polls.zip answers).flatMap fun (poll, answer) =>
    [⟨.sleepUntil (scheduledAtMs startedAt poll.1), .ok ()⟩, ⟨.transaction (transactionOptions startedAt), answer⟩]

/-- The variables after polls. -/
def recordAll (startedAt : ℚ) (progress : SettlementProgress)
    (polls : List ((ℤ × ℕ) × Settled SettlementTransactionResult)) : SettlementProgress :=
  polls.foldl (fun progress (poll, answer) => progress.record startedAt poll answer) progress

theorem complete_iff {poll : ℤ × ℕ} {answer : Settled SettlementTransactionResult} :
    (journalEntry startedAt poll answer).complete = true ↔ Accepts startedAt poll.1 answer := by
  cases answer with
  | error thrown =>
    refine iff_of_false Bool.false_ne_true ?_
    rintro ⟨_, _, _, ⟨⟩, _⟩
  | ok observed =>
    obtain ⟨⟨complete, rows⟩, began, finished⟩ := observed
    cases began with
    | none =>
      refine iff_of_false (by simp [journalEntry, deadlineEligible, notAfter]) ?_
      rintro ⟨_, _, _, ⟨⟩, ⟨⟩, _⟩
    | some began =>
      cases finished with
      | none =>
        refine iff_of_false (by simp [journalEntry, deadlineEligible, notAfter]) ?_
        rintro ⟨_, _, _, ⟨⟩, _, ⟨⟩, _⟩
      | some finished =>
        simp only [journalEntry, deadlineEligible, notAfter, Option.any_some, Option.map_some, Bool.and_eq_true,
          decide_eq_true_eq, scheduledAtMs, settlementDeadline, settlementWindowMs, settlementDatabaseOperationMs]
        constructor
        · rintro ⟨⟨⟨⟨start, finish⟩, order⟩, limit⟩, complete⟩
          exact ⟨_, began, finished, rfl, rfl, rfl, start, finish, order, limit, complete⟩
        · rintro ⟨_, _, _, ⟨⟩, ⟨⟩, ⟨⟩, start, finish, order, limit, complete⟩
          exact ⟨⟨⟨⟨start, finish⟩, order⟩, limit⟩, complete⟩

/-- **A run of the loop polls up to the first answer that is accepted, or a sleep fails.** -/
theorem pollOffsets_inv {polls : List (ℤ × ℕ)} {progress : SettlementProgress}
    {events : List (Event SettlementCall)} {outcome : Except String SettlementProgress}
    (run : Execution (pollOffsets startedAt polls progress) events outcome) :
    (∃ before epochMs thrown, events = before ++ [⟨.sleepUntil epochMs, .error thrown⟩] ∧
      outcome = .error thrown) ∨
    ∃ answers, Polled startedAt polls answers ∧ events = pollEvents startedAt polls answers ∧
      outcome = .ok (recordAll startedAt progress (polls.zip answers)) := by
  induction polls generalizing progress events with
  | nil =>
    obtain ⟨rfl, rfl⟩ := run.done_inv
    exact .inr ⟨[], .exhausted, rfl, rfl⟩
  | cons poll rest ih =>
    obtain ⟨slept, afterSleep, rfl, awake⟩ := run.call_inv
    cases slept with
    | error thrown =>
      have failed : Execution (Program.fail thrown) afterSleep outcome := awake
      obtain ⟨rfl, rfl⟩ := failed.fail_inv
      exact .inl ⟨[], _, thrown, rfl, rfl⟩
    | ok _ =>
      obtain ⟨answer, afterAnswer, rfl, observed⟩ := Execution.call_inv awake
      change Execution (if (journalEntry startedAt poll answer).complete then Program.done _ else pollOffsets _ _ _)
        afterAnswer outcome at observed
      by_cases accepts : Accepts startedAt poll.1 answer
      · rw [if_pos (complete_iff.mpr accepts)] at observed
        obtain ⟨rfl, rfl⟩ := observed.done_inv
        exact .inr ⟨[answer], .accepted accepts, by simp [pollEvents], by simp [recordAll]⟩
      · rw [if_neg (complete_iff.not.mpr accepts)] at observed
        rcases ih observed with ⟨before, epochMs, thrown, rfl, rfl⟩ | ⟨answers, polled, rfl, rfl⟩
        · exact .inl ⟨_ :: _ :: before, epochMs, thrown, rfl, rfl⟩
        · exact .inr ⟨answer :: answers, .later accepts polled, rfl, rfl⟩

/-- Whatever the answers are, there is a run with them. -/
theorem Polled.execution {polls : List (ℤ × ℕ)} {answers : List (Settled SettlementTransactionResult)}
    (polled : Polled startedAt polls answers) (progress : SettlementProgress) :
    Execution (pollOffsets startedAt polls progress) (pollEvents startedAt polls answers)
      (.ok (recordAll startedAt progress (polls.zip answers))) := by
  induction polled generalizing progress with
  | exhausted => exact .done progress
  | @accepted poll rest answer accepts =>
    have events : pollEvents startedAt (poll :: rest) [answer] =
        [⟨.sleepUntil (scheduledAtMs startedAt poll.1), .ok ()⟩,
          ⟨.transaction (transactionOptions startedAt), answer⟩] := by simp [pollEvents]
    have final : recordAll startedAt progress ((poll :: rest).zip [answer]) =
        progress.record startedAt poll answer := by simp [recordAll]
    rw [events, final]
    refine .call _ _ (Except.ok ()) (.call _ _ answer ?_)
    show Execution (if (journalEntry startedAt poll answer).complete then Program.done _ else _) _ _
    rw [if_pos (complete_iff.mpr accepts)]
    exact .done _
  | @later poll rest answer answers refused polled ih =>
    refine .call _ _ (Except.ok ()) (.call _ _ answer ?_)
    show Execution (if (journalEntry startedAt poll answer).complete then Program.done _ else _) _ _
    rw [if_neg (complete_iff.not.mpr refused)]
    exact ih _

/-! ### What the variables are after the polls -/

variable {polls : List (ℤ × ℕ)} {answers : List (Settled SettlementTransactionResult)}
  {progress : SettlementProgress} {pairs : List ((ℤ × ℕ) × Settled SettlementTransactionResult)}

theorem recordAll_journal : (recordAll startedAt progress pairs).journal =
    progress.journal ++ pairs.map fun (poll, answer) => journalEntry startedAt poll answer := by
  induction pairs generalizing progress with
  | nil => exact (List.append_nil _).symm
  | cons pair rest ih =>
    obtain ⟨poll, answer⟩ := pair
    have grown : (progress.record startedAt poll answer).journal = progress.journal ++
        [journalEntry startedAt poll answer] := by cases answer <;> rfl
    show (recordAll startedAt (progress.record startedAt poll answer) rest).journal = _
    rw [ih, grown, List.append_assoc, List.map_cons]
    rfl

/-- Polls that are not accepted accept no offset. -/
theorem recordAll_refused (refused : ∀ pair ∈ pairs, ¬ Accepts startedAt pair.1.1 pair.2) :
    (recordAll startedAt progress pairs).acceptedOffsetSeconds = progress.acceptedOffsetSeconds := by
  induction pairs generalizing progress with
  | nil => rfl
  | cons pair rest ih =>
    obtain ⟨here, later⟩ := List.forall_mem_cons.mp refused
    obtain ⟨poll, answer⟩ := pair
    have kept : (progress.record startedAt poll answer).acceptedOffsetSeconds = progress.acceptedOffsetSeconds := by
      cases answer with
      | error thrown => rfl
      | ok observed => exact if_neg (complete_iff.not.mpr here)
    exact (ih later).trans kept

/-- An accepted poll sets all variables. -/
theorem recordAll_accepted {poll : ℤ × ℕ} {observed : SettlementTransactionResult}
    (accepts : Accepts startedAt poll.1 (.ok observed)) :
    recordAll startedAt progress (pairs ++ [(poll, .ok observed)]) =
      { journal := progress.journal ++ (pairs.map fun (poll, answer) => journalEntry startedAt poll answer) ++
          [journalEntry startedAt poll (.ok observed)]
        acceptedOffsetSeconds := some poll.1
        finalDigest := some (authoritativeSnapshotDigest observed.value.rows)
        finalRowCardinality := authoritativeSnapshotCardinality observed.value.rows
        acceptedSnapshot :=
          some ⟨authoritativeSnapshotDigest observed.value.rows, observed.databaseStartedAtMs, observed.value.rows⟩ } := by
  rw [← recordAll_journal]
  unfold recordAll
  rw [List.foldl_append, List.foldl_cons, List.foldl_nil]
  simp only [SettlementProgress.record, complete_iff.mpr accepts, if_true]
  rfl

/-- Of the polls none is accepted, or the last and no other. -/
theorem Polled.split (polled : Polled startedAt polls answers) :
    (∀ pair ∈ polls.zip answers, ¬ Accepts startedAt pair.1.1 pair.2) ∨
      ∃ before poll observed, polls.zip answers = before ++ [(poll, .ok observed)] ∧
        Accepts startedAt poll.1 (.ok observed) ∧ ∀ pair ∈ before, ¬ Accepts startedAt pair.1.1 pair.2 := by
  induction polled with
  | exhausted => exact .inl (by simp)
  | @accepted poll rest answer accepts =>
    have whole := accepts
    obtain ⟨observed, _, _, rfl, _⟩ := accepts
    refine .inr ⟨[], poll, observed, ?_, whole, by simp⟩
    rw [List.zip_cons_cons, List.zip_nil_right, List.nil_append]
  | @later poll rest answer answers refused polled ih =>
    have withFirst {pairs : List ((ℤ × ℕ) × Settled SettlementTransactionResult)}
        (others : ∀ pair ∈ pairs, ¬ Accepts startedAt pair.1.1 pair.2) :
        ∀ pair ∈ (poll, answer) :: pairs, ¬ Accepts startedAt pair.1.1 pair.2 := by
      intro pair member
      rcases List.mem_cons.mp member with rfl | inside
      · exact refused
      · exact others pair inside
    rw [List.zip_cons_cons]
    rcases ih with none | ⟨before, last, observed, zipped, accepts, earlier⟩
    · exact .inl (withFirst none)
    · exact .inr ⟨(poll, answer) :: before, last, observed, by rw [zipped]; rfl, accepts, withFirst earlier⟩

/-- The polls are five seconds apart. -/
theorem settlementPolls_getElem {index : ℕ} (inside : index < settlementPolls.length) :
    settlementPolls[index] = ((index : ℤ) * 5, index) := by
  simp [settlementPolls, settlementOffsetsSeconds]

theorem settlementPolls_length : settlementPolls.length = 25 := rfl

/-- The place of a poll tells its offset. -/
theorem poll_eq {before after : List ((ℤ × ℕ) × Settled SettlementTransactionResult)} {poll : ℤ × ℕ}
    {answer : Settled SettlementTransactionResult}
    (zipped : settlementPolls.zip answers = before ++ (poll, answer) :: after) :
    poll = ((before.length : ℤ) * 5, before.length) ∧ before.length < 25 := by
  have inside : before.length < (settlementPolls.zip answers).length := by
    rw [zipped, List.length_append, List.length_cons]
    omega
  have element : (settlementPolls.zip answers)[before.length] = (poll, answer) := by simp [zipped]
  have bound := inside
  rw [List.length_zip, settlementPolls_length] at bound
  rw [List.getElem_zip, settlementPolls_getElem] at element
  exact ⟨(congrArg Prod.fst element).symm, by omega⟩

/-! ### The result -/

namespace AuthoritativeSettlementResult

/-- The settlement as the report reads it. -/
def summary (result : AuthoritativeSettlementResult) : SettlementSummary where
  passed := result.passed
  acceptedOffsetSeconds := result.acceptedOffsetSeconds
  journalCardinality := result.finalSnapshot.journalCardinality
  finalSnapshotDigest := result.finalSnapshot.digest.getD ""
  finalRowCardinality := result.finalSnapshot.rowCardinality

/-- The polls of the journal, in seconds. -/
def evaluatedPolls (result : AuthoritativeSettlementResult) : List SettlementPoll :=
  result.journal.map fun entry => ⟨entry.offsetSeconds, entry.databaseStartedAtMs.map (· / 1000), entry.complete⟩

/-- The polls before the last one started in their windows. -/
def EarlierInWindows (result : AuthoritativeSettlementResult) : Prop :=
  ∀ entry ∈ result.journal.dropLast, ∃ began, entry.databaseStartedAtMs = some began ∧
    entry.scheduledAtMs ≤ began ∧ began ≤ result.settlementDeadlineMs

/-- What was accepted is what the last entry of the journal says. -/
structure AcceptsEntry (result : AuthoritativeSettlementResult) (entry : SettlementPollJournalEntry) : Prop where
  last : result.journal.getLast? = some entry
  offset : result.acceptedOffsetSeconds = some entry.offsetSeconds
  digest : entry.snapshotDigest.isSome = true ∧ result.finalSnapshot.digest = entry.snapshotDigest ∧
    result.acceptedSnapshot.map (·.digest) = entry.snapshotDigest
  rowCardinality : result.finalSnapshot.rowCardinality = entry.rowCardinality
  journalCardinality : (result.finalSnapshot.journalCardinality : ℤ) = entry.offsetSeconds / 5 + 1

/-- A run of the settlement and its result. -/
structure IsFirstAccepted (result : AuthoritativeSettlementResult) (events : List (Event SettlementCall))
    (answers : List (Settled SettlementTransactionResult)) : Prop where
  /-- The offsets are polled in their order, up to the first accepted poll. -/
  events : events = ⟨.nowMs, some result.settlementStartedAtMs⟩ ::
    pollEvents result.settlementStartedAtMs settlementPolls answers
  polled : Polled result.settlementStartedAtMs settlementPolls answers
  journal : result.journal = (settlementPolls.zip answers).map fun (poll, answer) =>
    journalEntry result.settlementStartedAtMs poll answer
  passed : result.passed = true ↔
    ∃ pair ∈ settlementPolls.zip answers, Accepts result.settlementStartedAtMs pair.1.1 pair.2
  accepted : result.passed = true → ∃ entry, result.AcceptsEntry entry
  reported : result.passed = true → result.summary.exceptRows = true
  evaluated : result.passed = true → result.EarlierInWindows →
    evaluateSettlement (result.settlementStartedAtMs / 1000) result.evaluatedPolls =
      ⟨true, result.acceptedOffsetSeconds, result.evaluatedPolls⟩

end AuthoritativeSettlementResult

/-- The result after polls. -/
def resultOf (runId : String) (startedAt : ℚ) (progress : SettlementProgress) : AuthoritativeSettlementResult where
  runId := runId
  settlementStartedAtMs := startedAt
  settlementDeadlineMs := settlementDeadline startedAt
  passed := progress.acceptedOffsetSeconds.isSome
  acceptedOffsetSeconds := progress.acceptedOffsetSeconds
  journal := progress.journal
  finalSnapshot := ⟨progress.finalDigest, progress.finalRowCardinality, progress.journal.length⟩
  acceptedSnapshot := progress.acceptedSnapshot

/-- How a settlement ends without a result: it has no run, no time, or a sleep fails. -/
inductive NoResult (runId : String) : List (Event SettlementCall) → String → Prop
  | noRun (empty : runId = "") : NoResult runId [] "SETTLEMENT_RUN_ID_REQUIRED"
  | noTime : NoResult runId [⟨.nowMs, none⟩] "SETTLEMENT_CLOCK_INVALID"
  | awoken {before : List (Event SettlementCall)} {epochMs : ℚ} {thrown : String} :
      NoResult runId (before ++ [⟨.sleepUntil epochMs, .error thrown⟩]) thrown

/-- **A settlement polls the offsets up to the first accepted poll and then has a result.** -/
theorem runAuthoritativeSettlement_inv {runId : String} {events : List (Event SettlementCall)}
    {outcome : Except String AuthoritativeSettlementResult}
    (run : Execution (runAuthoritativeSettlement runId) events outcome) :
    (∃ thrown, outcome = .error thrown ∧ NoResult runId events thrown) ∨
      ∃ startedAt answers, Polled startedAt settlementPolls answers ∧
        events = ⟨.nowMs, some startedAt⟩ :: pollEvents startedAt settlementPolls answers ∧
        outcome = .ok (resultOf runId startedAt
          (recordAll startedAt ⟨[], none, none, 0, none⟩ (settlementPolls.zip answers))) := by
  unfold runAuthoritativeSettlement at run
  by_cases empty : runId = ""
  · rw [decide_eq_false (not_not_intro empty)] at run
    obtain ⟨rfl, rfl⟩ := Execution.fail_inv run
    exact .inl ⟨_, rfl, .noRun empty⟩
  rw [decide_eq_true empty] at run
  obtain ⟨now, rest, rfl, timed⟩ := Execution.call_inv run
  cases now with
  | none =>
    obtain ⟨rfl, rfl⟩ := Execution.fail_inv timed
    exact .inl ⟨_, rfl, .noTime⟩
  | some startedAt =>
    change Execution (pollOffsets startedAt settlementPolls ⟨[], none, none, 0, none⟩ >>= _) rest outcome at timed
    rcases Execution.bind_inv timed with ⟨thrown, failed, rfl⟩ | ⟨progress, before, after, rfl, polled, ended⟩
    · rcases pollOffsets_inv failed with ⟨before, epochMs, _, rfl, ⟨⟩⟩ | ⟨answers, _, _, ⟨⟩⟩
      exact .inl ⟨thrown, rfl, @NoResult.awoken _ (_ :: before) _ _⟩
    · rcases pollOffsets_inv polled with ⟨_, _, _, _, ⟨⟩⟩ | ⟨answers, stopped, rfl, ⟨⟩⟩
      obtain ⟨rfl, rfl⟩ := Execution.done_inv ended
      exact .inr ⟨startedAt, answers, stopped, by rw [List.append_nil], rfl⟩

/-! ### What holds of the result -/

section Result

variable (runId : String) (polled : Polled startedAt settlementPolls answers)

/-- The result after the answers to polls. -/
def settled (runId : String) (startedAt : ℚ) (answers : List (Settled SettlementTransactionResult)) :
    AuthoritativeSettlementResult :=
  resultOf runId startedAt (recordAll startedAt ⟨[], none, none, 0, none⟩ (settlementPolls.zip answers))

theorem settled_journal : (settled runId startedAt answers).journal =
    (settlementPolls.zip answers).map fun (poll, answer) => journalEntry startedAt poll answer :=
  recordAll_journal

include polled

/-- **The settlement passes exactly if a poll is accepted.** -/
theorem settled_passed : (settled runId startedAt answers).passed = true ↔
    ∃ pair ∈ settlementPolls.zip answers, Accepts startedAt pair.1.1 pair.2 := by
  unfold settled resultOf
  rcases polled.split with none | ⟨before, poll, observed, zipped, accepts, _⟩
  · rw [recordAll_refused none]
    exact iff_of_false Bool.false_ne_true fun ⟨pair, member, accepts⟩ => none pair member accepts
  · rw [zipped, recordAll_accepted accepts]
    exact iff_of_true rfl ⟨_, List.mem_append_right _ List.mem_cons_self, accepts⟩

/-- The polls of a settlement that passes. -/
structure AcceptedPoll (startedAt : ℚ) (answers : List (Settled SettlementTransactionResult))
    (before : List ((ℤ × ℕ) × Settled SettlementTransactionResult)) (observed : SettlementTransactionResult) : Prop where
  polls : settlementPolls.zip answers = before ++ [(((before.length : ℤ) * 5, before.length), .ok observed)]
  few : before.length < 25
  accepts : Accepts startedAt ((before.length : ℤ) * 5) (.ok observed)
  refused : ∀ pair ∈ before, ¬ Accepts startedAt pair.1.1 pair.2

theorem exists_acceptedPoll (passed : (settled runId startedAt answers).passed = true) :
    ∃ before observed, AcceptedPoll startedAt answers before observed := by
  rcases polled.split with none | ⟨before, poll, observed, zipped, accepts, refused⟩
  · obtain ⟨pair, member, accepts⟩ := (settled_passed runId polled).mp passed
    exact absurd accepts (none pair member)
  · obtain ⟨rfl, few⟩ := poll_eq zipped
    exact ⟨before, observed, zipped, few, accepts, refused⟩

end Result

section Accepted

variable {runId : String} {before : List ((ℤ × ℕ) × Settled SettlementTransactionResult)}
  {observed : SettlementTransactionResult} (accepted : AcceptedPoll startedAt answers before observed)

include accepted

/-- The result of a settlement that passes. -/
theorem AcceptedPoll.settled_eq : settled runId startedAt answers =
    { runId
      settlementStartedAtMs := startedAt
      settlementDeadlineMs := settlementDeadline startedAt
      passed := true
      acceptedOffsetSeconds := some ((before.length : ℤ) * 5)
      journal := (before.map fun (poll, answer) => journalEntry startedAt poll answer) ++
        [journalEntry startedAt ((before.length : ℤ) * 5, before.length) (.ok observed)]
      finalSnapshot := ⟨some (authoritativeSnapshotDigest observed.value.rows),
        authoritativeSnapshotCardinality observed.value.rows, before.length + 1⟩
      acceptedSnapshot :=
        some ⟨authoritativeSnapshotDigest observed.value.rows, observed.databaseStartedAtMs, observed.value.rows⟩ } := by
  have accepts : Accepts startedAt (((before.length : ℤ) * 5, before.length) : ℤ × ℕ).1 (.ok observed) :=
    accepted.accepts
  unfold settled resultOf
  rw [accepted.polls, recordAll_accepted accepts]
  dsimp only
  rw [List.nil_append, List.length_append, List.length_map]
  rfl

theorem AcceptedPoll.acceptsEntry : (settled runId startedAt answers).AcceptsEntry
    (journalEntry startedAt ((before.length : ℤ) * 5, before.length) (.ok observed)) := by
  rw [accepted.settled_eq]
  exact {
    last := List.getLast?_concat
    offset := rfl
    digest := ⟨rfl, rfl, rfl⟩
    rowCardinality := rfl
    journalCardinality := by
      show ((before.length + 1 : ℕ) : ℤ) = (before.length : ℤ) * 5 / 5 + 1
      omega }

/-- **The report finds no fault with the settlement, but perhaps too few rows.** -/
theorem AcceptedPoll.exceptRows (digests : ∀ text, Identity.isDigest (NodeCrypto.sha256 text) = true) :
    (settled runId startedAt answers).summary.exceptRows = true := by
  have few := accepted.few
  have digest : isSha256Text (authoritativeSnapshotDigest observed.value.rows) = true := by
    have prefix_ : authoritativeSnapshotDigest observed.value.rows =
        "sha256:" ++ NodeCrypto.sha256 (canonicalInventory observed.value.rows) := rfl
    have rest : drop 7 ("sha256:" ++ NodeCrypto.sha256 (canonicalInventory observed.value.rows)) = _ :=
      drop_append "sha256:" _
    unfold isSha256Text Reliability.isManifestDigest
    rw [prefix_, startsWith_append, Bool.true_and, rest]
    exact digests _
  rw [accepted.settled_eq]
  simp only [AuthoritativeSettlementResult.summary, SettlementSummary.exceptRows, Option.any_some, Option.getD_some,
    digest, Bool.true_and, Bool.and_true, Bool.and_eq_true, decide_eq_true_eq]
  exact ⟨⟨⟨by omega, by omega⟩, by omega⟩, decide_eq_true (by omega)⟩

/-- The poll of an entry of the journal. -/
def evaluatedPoll (startedAt : ℚ) (pair : (ℤ × ℕ) × Settled SettlementTransactionResult) : SettlementPoll :=
  let entry := journalEntry startedAt pair.1 pair.2
  ⟨entry.offsetSeconds, entry.databaseStartedAtMs.map (· / 1000), entry.complete⟩

omit accepted in
theorem evaluatedPoll_offset (pair : (ℤ × ℕ) × Settled SettlementTransactionResult) :
    (evaluatedPoll startedAt pair).offset = pair.1.1 := by
  obtain ⟨poll, answer⟩ := pair
  cases answer <;> rfl

omit accepted in
theorem settled_evaluatedPolls : (settled runId startedAt answers).evaluatedPolls =
    (settlementPolls.zip answers).map (evaluatedPoll startedAt) := by
  unfold AuthoritativeSettlementResult.evaluatedPolls
  rw [settled_journal, List.map_map]
  rfl

omit accepted in
/-- A transaction that started in its window, in seconds. -/
theorem startedInWindow {offset : ℤ} {began : ℚ} (start : startedAt + offset * 1000 ≤ began)
    (finish : began ≤ startedAt + 120000) :
    startedAt / 1000 + offset ≤ began / 1000 ∧ began / 1000 ≤ startedAt / 1000 + 120 := by
  constructor <;> linarith

theorem AcceptedPoll.timing (windows : (settled runId startedAt answers).EarlierInWindows) :
    ∀ poll ∈ (settled runId startedAt answers).evaluatedPolls, ∃ began, poll.startedAt = some began ∧
      startedAt / 1000 + poll.offset ≤ began ∧ began ≤ startedAt / 1000 + 120 := by
  intro poll member
  rw [settled_evaluatedPolls, accepted.polls, List.map_append] at member
  rcases List.mem_append.mp member with earlier | last
  · obtain ⟨pair, inside, rfl⟩ := List.mem_map.mp earlier
    rw [AuthoritativeSettlementResult.EarlierInWindows, accepted.settled_eq] at windows
    dsimp only at windows
    rw [List.dropLast_concat] at windows
    obtain ⟨began, same, start, finish⟩ := windows _ (List.mem_map_of_mem inside)
    have scheduled : (journalEntry startedAt pair.1 pair.2).scheduledAtMs = startedAt + pair.1.1 * 1000 := by
      cases pair.2 <;> rfl
    rw [scheduled] at start
    rw [evaluatedPoll_offset]
    exact ⟨began / 1000, congrArg (Option.map (· / 1000)) same, startedInWindow start finish⟩
  · rw [List.map_cons, List.map_nil, List.mem_singleton] at last
    obtain ⟨_, began, finished, ⟨⟩, same, _, start, finish, _⟩ := accepted.accepts
    rw [last]
    exact ⟨began / 1000, congrArg (Option.map (· / 1000)) same, startedInWindow start finish⟩

omit accepted in
/-- The offsets of the polls are five seconds apart. -/
theorem evaluatedPolls_offset {index : ℕ} {poll : SettlementPoll}
    (found : (settled runId startedAt answers).evaluatedPolls[index]? = some poll) :
    poll.offset = (index : ℤ) * 5 := by
  rw [settled_evaluatedPolls, List.getElem?_map] at found
  obtain ⟨pair, inside, rfl⟩ := Option.map_eq_some_iff.mp found
  obtain ⟨bound, place⟩ := List.getElem?_eq_some_iff.mp (List.getElem?_zip_eq_some.mp inside).1
  rw [evaluatedPoll_offset, ← place, settlementPolls_getElem]

omit accepted in
theorem exactSettlementOffsets_getElem? {index : ℕ} (few : index < 25) :
    exactSettlementOffsets[index]? = some ((index : ℤ) * 5) := by
  rw [exactSettlementOffsets, List.getElem?_map, List.getElem?_range few]
  rfl

theorem AcceptedPoll.evaluatedPolls_eq : (settled runId startedAt answers).evaluatedPolls =
    before.map (evaluatedPoll startedAt) ++
      [evaluatedPoll startedAt (((before.length : ℤ) * 5, before.length), .ok observed)] := by
  rw [settled_evaluatedPolls, accepted.polls, List.map_append]
  rfl

/-- The offsets of the polls are the exact ones. -/
theorem AcceptedPoll.exactOffsets :
    (exactSettlementOffsets.length < (settled runId startedAt answers).evaluatedPolls.length ||
      (settled runId startedAt answers).evaluatedPolls.zipIdx.any fun (poll, index) =>
        exactSettlementOffsets[index]? ≠ some poll.offset) = false := by
  have few := accepted.few
  have length : (settled runId startedAt answers).evaluatedPolls.length = before.length + 1 := by
    rw [accepted.evaluatedPolls_eq, List.length_append, List.length_map]
    rfl
  have count : exactSettlementOffsets.length = 25 := rfl
  rw [Bool.or_eq_false_iff, decide_eq_false_iff_not, List.any_eq_false, length, count]
  refine ⟨by omega, ?_⟩
  rintro ⟨poll, index⟩ member
  have found := List.mk_mem_zipIdx_iff_getElem?.mp member
  obtain ⟨bound, _⟩ := List.getElem?_eq_some_iff.mp found
  rw [length] at bound
  have same : exactSettlementOffsets[index]? = some poll.offset := by
    rw [exactSettlementOffsets_getElem? (by omega), evaluatedPolls_offset found]
  simp [same]

/-- The first poll that the evaluation finds is the accepted one. -/
theorem AcceptedPoll.findIdx?_eq (windows : (settled runId startedAt answers).EarlierInWindows) :
    ((settled runId startedAt answers).evaluatedPolls.findIdx? fun poll => 0 ≤ poll.offset && poll.offset ≤ 120 &&
      notAfter poll.startedAt (some (startedAt / 1000 + 120)) && poll.complete) = some before.length := by
  have few := accepted.few
  obtain ⟨began, same, _, finish⟩ := accepted.timing windows
    (evaluatedPoll startedAt (((before.length : ℤ) * 5, before.length), .ok observed))
    (by rw [accepted.evaluatedPolls_eq]; exact List.mem_append_right _ List.mem_cons_self)
  have earlier : (before.map (evaluatedPoll startedAt)).findIdx? (fun poll => 0 ≤ poll.offset && poll.offset ≤ 120 &&
      notAfter poll.startedAt (some (startedAt / 1000 + 120)) && poll.complete) = none := by
    refine List.findIdx?_eq_none_iff.mpr fun poll member => ?_
    obtain ⟨pair, inside, rfl⟩ := List.mem_map.mp member
    have incomplete : (evaluatedPoll startedAt pair).complete = false :=
      Bool.eq_false_iff.mpr (complete_iff.not.mpr (accepted.refused pair inside))
    rw [incomplete, Bool.and_false]
  have complete : (evaluatedPoll startedAt (((before.length : ℤ) * 5, before.length), .ok observed)).complete = true :=
    complete_iff.mpr accepted.accepts
  rw [accepted.evaluatedPolls_eq, List.findIdx?_append, earlier, List.findIdx?_cons, complete, same,
    evaluatedPoll_offset, List.length_map]
  have started : notAfter (some began) (some (startedAt / 1000 + 120)) = true := decide_eq_true finish
  have least : 0 ≤ (before.length : ℤ) * 5 := by omega
  have most : (before.length : ℤ) * 5 ≤ 120 := by omega
  simp [started, least, most]

/-- **The evaluation of the polls accepts the same offset.** -/
theorem AcceptedPoll.evaluated (windows : (settled runId startedAt answers).EarlierInWindows) :
    evaluateSettlement (startedAt / 1000) (settled runId startedAt answers).evaluatedPolls =
      ⟨true, (settled runId startedAt answers).acceptedOffsetSeconds,
        (settled runId startedAt answers).evaluatedPolls⟩ := by
  have offset : (settled runId startedAt answers).acceptedOffsetSeconds = some ((before.length : ℤ) * 5) := by
    rw [accepted.settled_eq]
  have timely : ((settled runId startedAt answers).evaluatedPolls.all fun poll =>
      notAfter (some (startedAt / 1000 + poll.offset)) poll.startedAt &&
        notAfter poll.startedAt (some (startedAt / 1000 + 120))) = true := by
    refine List.all_eq_true.mpr fun poll member => ?_
    obtain ⟨began, same, start, finish⟩ := accepted.timing windows poll member
    rw [same]
    exact Bool.and_eq_true_iff.mpr ⟨decide_eq_true start, decide_eq_true finish⟩
  have last : (settled runId startedAt answers).evaluatedPolls[before.length]? =
      some (evaluatedPoll startedAt (((before.length : ℤ) * 5, before.length), .ok observed)) := by
    rw [accepted.evaluatedPolls_eq, List.getElem?_append_right (by rw [List.length_map]), List.length_map,
      Nat.sub_self]
    rfl
  have length : (settled runId startedAt answers).evaluatedPolls.length = before.length + 1 := by
    rw [accepted.evaluatedPolls_eq, List.length_append, List.length_map]
    rfl
  unfold evaluateSettlement
  rw [accepted.exactOffsets]
  dsimp only
  rw [timely, if_pos rfl, accepted.findIdx?_eq windows]
  rw [if_neg Bool.false_ne_true, offset]
  simp only [Option.all_some, length, decide_true, if_true, Option.bind_some, last, Option.map_some,
    evaluatedPoll_offset, Option.isSome_some, Bool.and_self]

end Accepted

/-- Whatever the answers are, there is a settlement with them. -/
theorem Polled.run {runId : String} (nonempty : runId ≠ "") (polled : Polled startedAt settlementPolls answers) :
    Execution (runAuthoritativeSettlement runId)
      (⟨.nowMs, some startedAt⟩ :: pollEvents startedAt settlementPolls answers)
      (.ok (settled runId startedAt answers)) := by
  unfold runAuthoritativeSettlement
  rw [decide_eq_true nonempty]
  refine .call _ _ (some startedAt) ?_
  change Execution (pollOffsets startedAt settlementPolls ⟨[], none, none, 0, none⟩ >>= fun progress =>
    Program.done (resultOf runId startedAt progress)) _ _
  rw [← List.append_nil (pollEvents startedAt settlementPolls answers)]
  exact Execution.bind (polled.execution _) (.done _)

/-- **Every run of a settlement accepts the first complete poll in its windows and nothing else, and both checks
accept its result.** Without a result there is no run, no time, or a sleep has failed. -/
theorem settlement_accepts_first (digests : ∀ text, Identity.isDigest (NodeCrypto.sha256 text) = true)
    (runId : String) (events : List (Event SettlementCall)) (outcome : Except String AuthoritativeSettlementResult)
    (run : Execution (runAuthoritativeSettlement runId) events outcome) :
    (∃ thrown, outcome = .error thrown ∧ NoResult runId events thrown) ∨
      ∃ result answers, outcome = .ok result ∧ result.runId = runId ∧ result.IsFirstAccepted events answers := by
  rcases runAuthoritativeSettlement_inv run with interrupted | ⟨startedAt, answers, polled, rfl, rfl⟩
  · exact .inl interrupted
  refine .inr ⟨settled runId startedAt answers, answers, rfl, rfl, ?_⟩
  exact {
    events := rfl
    polled := polled
    journal := settled_journal runId
    passed := settled_passed runId polled
    accepted := fun passed => by
      obtain ⟨before, observed, accepted⟩ := exists_acceptedPoll runId polled passed
      exact ⟨_, accepted.acceptsEntry⟩
    reported := fun passed => by
      obtain ⟨before, observed, accepted⟩ := exists_acceptedPoll runId polled passed
      exact accepted.exceptRows digests
    evaluated := fun passed windows => by
      obtain ⟨before, observed, accepted⟩ := exists_acceptedPoll runId polled passed
      exact accepted.evaluated windows }

end Polls

/-! ### A settlement whose second poll is accepted -/

namespace SecondPoll

@[reducible] def collation : Collation := ⟨fun left right => if left ≤ right then 0 else 1⟩

@[reducible] def crypto : NodeCrypto := ⟨fun _ => String.ofList (List.replicate 64 'a')⟩

attribute [local instance] collation crypto

theorem digests (text : String) : Identity.isDigest (NodeCrypto.sha256 text) = true := by
  show Identity.isDigest (String.ofList (List.replicate 64 'a')) = true
  simp [Identity.isDigest, matchesClass]

def complete : SettlementTransactionResult := ⟨⟨true, [("attempts", [.null])]⟩, some 5000, some 6000⟩

def answers : List (Settled SettlementTransactionResult) := [.error "busy", .ok complete]

theorem polled : Polled 0 settlementPolls answers := by
  refine .later ?_ (.accepted ⟨complete, 5000, 6000, rfl, rfl, rfl, ?_, ?_, ?_, ?_, rfl⟩)
  · rintro ⟨_, _, _, ⟨⟩, _⟩
  all_goals norm_num

/-- The first transaction fails, the second is accepted. -/
theorem settlement_accepts_first_second :
    ∃ (result : AuthoritativeSettlementResult) (polls : List (Settled SettlementTransactionResult)),
      result.runId = "run" ∧
        result.IsFirstAccepted (⟨.nowMs, some 0⟩ :: pollEvents 0 settlementPolls answers) polls := by
  rcases settlement_accepts_first digests "run" _ _ (polled.run (by decide)) with ⟨_, ⟨⟩, _⟩ | ⟨result, polls, _, named, first⟩
  exact ⟨result, polls, named, first⟩

end SecondPoll

end FuseControlPlane.Evidence
