/-
Whether the status of the shadow queue is truthful.

* `StatusTruthful`: jobs that are counted as pending or retryable are claimed by later retries, jobs that are
  never claimed again and have no evidence are counted as exhausted, and no job has more than three attempts.
* `ShadowStep`: what a step does to the queue; `shadowStep_cases` derives it.
* `QueueSound`: what every step keeps. `IsTidy`: pending jobs have attempts left; `statusTruthful_iff_tidy`.
* `statusTruthful_iff`: **the status is truthful in exactly the runs in which no third claim finds a job that
  is still pending**.

A third claim of a pending job leaves the job pending, and for ever if it stops: only failures that are
recorded change the state of a job.
-/

import FuseControlPlane.Persistence.ShadowQueue

set_option linter.unusedSectionVars false

namespace FuseControlPlane.Persistence

open Foundation

variable {ε : Type} {inScope : String × String → Bool} {world after : ShadowWorld ε} {job : ShadowJobRow}
  {call : ShadowCall} {now : ℤ}

namespace ShadowWorld

/-! ### The statement -/

/-- A retry of one job begins, and claims it. -/
def retryOne (inScope : String × String → Bool) (now : ℤ) (world : ShadowWorld ε) : ShadowWorld ε :=
  run (shadowStep inScope) world [.retry 1 now, .claim world.workers.length "retry" now now]

/-- Retries at a time come to claim the job. -/
def IsReclaimable (inScope : String × String → Bool) (world : ShadowWorld ε) (job : ShadowJobRow)
    (now : ℤ) : Prop :=
  ∃ retries : ℕ, ∃ later ∈ ((retryOne inScope now)^[retries] world).jobs,
    Keyed.key later = Keyed.key job ∧ later.attempts = job.attempts + 1

/-- The job is never claimed again. -/
def IsUnclaimable (inScope : String × String → Bool) (world : ShadowWorld ε) (job : ShadowJobRow) : Prop :=
  ∀ ops : List (ShadowOp ε), ∀ later ∈ (run (shadowStep inScope) world ops).jobs,
    Keyed.key later = Keyed.key job → later.attempts = job.attempts

/-- The status says what becomes of the jobs. -/
structure StatusTruthful (inScope : String × String → Bool) (world : ShadowWorld ε) : Prop where
  reclaimable : ∀ job ∈ world.jobs, job.isPending = true ∨ job.isRetryable = true →
    ∀ now, (∀ lease ∈ job.leaseExpiresAt, lease ≤ now) → world.IsReclaimable inScope job now
  exhausted : ∀ job ∈ world.jobs, world.IsUnclaimable inScope job →
    world.evaluations.find? (Keyed.key job) = none → job.isExhausted = true
  attempts : ∀ job ∈ world.jobs, job.attempts ≤ 3

/-- A job that a claim may have. -/
def claimable (world : ShadowWorld ε) (call : ShadowCall) (now : ℤ) : Option ShadowJobRow :=
  (world.jobs.find? call.key).filter fun job => !job.isClosed && !job.isHeld now

/-- The job that a step claims. -/
def claimedBy (world : ShadowWorld ε) : ShadowOp ε → Option ShadowJobRow
  | .claim index _ _ now =>
    (world.workers[index]?).bind fun worker => match worker.phase, worker.remaining with
      | .idle, call :: _ => world.claimable call now
      | _, _ => none
  | _ => none

/-- The third claim of a job that is still pending. -/
def claimsLast (world : ShadowWorld ε) (op : ShadowOp ε) : Bool :=
  (world.claimedBy op).any fun job => job.state = .pending && job.attempts = 2

/-! ### Steps -/

/-- What a step does to the queue. -/
inductive ShadowStep (inScope : String × String → Bool) (world : ShadowWorld ε) (op : ShadowOp ε) :
    ShadowWorld ε → Prop
  | same (workers : List ShadowWorker) (free : world.claimedBy op = none) :
    ShadowStep inScope world op { world with workers }
  | enqueue {organizationId requestId : String} (queuedAt : ℤ)
    (inside : inScope (organizationId, requestId) = true)
    (absent : world.jobs.find? (organizationId, requestId) = none) (free : world.claimedBy op = none) :
    ShadowStep inScope world op { world with
      jobs := world.jobs.put
        ⟨organizationId, requestId, .pending, 0, none, none, none, queuedAt, queuedAt⟩ }
  | claim (workers : List ShadowWorker) {call : ShadowCall} (claimToken : String) (startedAt : ℤ)
    {job : ShadowJobRow} (found : world.jobs.find? call.key = some job) (opened : job.isClosed = false)
    (claimed : world.claimedBy op = some job) :
    ShadowStep inScope world op
      { world.updateJobs (·.isOf call) (·.claim call claimToken startedAt) fun _ => rfl with workers }
  | complete (workers : List ShadowWorker) {call : ShadowCall} {claimToken : String} (evidence : ε)
    (owned : world.owns call claimToken = true) (free : world.claimedBy op = none) :
    ShadowStep inScope world op
      { (world.evaluateAndPersistShadow inScope call evidence).2.completeJob call claimToken with workers }
  | fail (workers : List ShadowWorker) (call : ShadowCall) (claimToken : String)
    (free : world.claimedBy op = none) :
    ShadowStep inScope world op { world.recordFailure call claimToken with workers }

/-- A claim is refused, or has the job. -/
theorem claimJob_cases (world : ShadowWorld ε) (call : ShadowCall) (claimToken : String) (startedAt now : ℤ) :
    (world.claimable call now = none ∧
      ∃ evidence, world.claimJob call claimToken startedAt now = (.refused evidence, world)) ∨
    ∃ job, world.claimable call now = some job ∧ world.jobs.find? call.key = some job ∧ job.isClosed = false ∧
      world.claimJob call claimToken startedAt now =
        (.acquired, world.updateJobs (·.isOf call) (·.claim call claimToken startedAt) fun _ => rfl) := by
  unfold claimJob claimable
  cases world.jobs.find? call.key with
  | none => exact .inl ⟨rfl, _, rfl⟩
  | some job =>
    dsimp only
    cases closed : job.isClosed with
    | true => exact .inl ⟨by simp [closed], _, rfl⟩
    | false =>
      cases held : job.isHeld now with
      | true => exact .inl ⟨by simp [held], _, rfl⟩
      | false => exact .inr ⟨job, by simp [closed, held], rfl, closed, rfl⟩

theorem claimNext_cases {index : ℕ} {worker : ShadowWorker} {claimToken : String} {startedAt : ℤ}
    (there : world.workers[index]? = some worker) :
    ShadowStep inScope world (.claim index claimToken startedAt now)
      (world.claimNext index worker claimToken startedAt now) := by
  have claims : world.claimedBy (.claim index claimToken startedAt now) =
      match worker.phase, worker.remaining with
      | .idle, call :: _ => world.claimable call now
      | _, _ => none := by
    unfold claimedBy
    dsimp only
    rw [there]
    rfl
  unfold claimNext
  cases phase : worker.phase with
  | idle =>
    cases next : worker.remaining with
    | nil =>
      rw [phase, next] at claims
      exact .same world.workers claims
    | cons call remaining =>
      rw [phase, next] at claims
      dsimp only
      rcases world.claimJob_cases call claimToken startedAt now with ⟨free, evidence, refused⟩ |
        ⟨job, free, found, opened, acquired⟩
      · rw [refused]
        exact .same _ (claims.trans free)
      · rw [acquired]
        exact .claim _ claimToken startedAt found opened (claims.trans free)
  | claimed call token =>
    rw [phase] at claims
    exact .same world.workers claims
  | failing call token =>
    rw [phase] at claims
    exact .same world.workers claims

theorem evaluateClaimed_cases {index : ℕ} (worker : ShadowWorker) (outcome : ShadowOutcome ε) :
    ShadowStep inScope world (.evaluate index outcome)
      (world.evaluateClaimed inScope index worker outcome) := by
  unfold evaluateClaimed
  cases worker.phase with
  | claimed call claimToken =>
    dsimp only
    unfold evaluateJob
    cases owned : world.owns call claimToken with
    | true =>
      cases outcome with
      | evaluated evidence => exact .complete _ evidence owned rfl
      | _ => exact .same _ rfl
    | false =>
      cases outcome with
      | _ => exact .same _ rfl
  | _ => exact .same world.workers rfl

/-- **Every step of the queue is a `ShadowStep`.** -/
theorem shadowStep_cases (inScope : String × String → Bool) (world : ShadowWorld ε) (op : ShadowOp ε) :
    ShadowStep inScope world op (world.shadowStep inScope op) := by
  cases op with
  | enqueue organizationId requestId queuedAt =>
    show ShadowStep inScope world _ (world.queueShadowBookkeeping inScope _ _ _)
    unfold queueShadowBookkeeping
    split
    · next inside =>
      unfold enqueueShadowEvaluation
      split
      · exact .same world.workers rfl
      · next absent => exact .enqueue queuedAt inside absent rfl
    · exact .same world.workers rfl
  | process call => exact .same _ rfl
  | retry limit now =>
    simp only [shadowStep]
    cases world.retryPendingShadowEvaluations limit now with
    | error error => exact .same world.workers rfl
    | ok calls => exact .same _ rfl
  | claim index claimToken startedAt now =>
    show ShadowStep inScope world _ ((world.workers[index]?).elim world _)
    cases there : world.workers[index]? with
    | none =>
      refine .same world.workers ?_
      unfold claimedBy
      dsimp only
      rw [there]
      rfl
    | some worker => exact claimNext_cases there
  | evaluate index outcome =>
    show ShadowStep inScope world _ ((world.workers[index]?).elim world _)
    cases world.workers[index]? with
    | none => exact .same world.workers rfl
    | some worker => exact evaluateClaimed_cases worker outcome
  | recordFailure index commits =>
    show ShadowStep inScope world _ ((world.workers[index]?).elim world _)
    cases world.workers[index]? with
    | none => exact .same world.workers rfl
    | some worker =>
      show ShadowStep inScope world _ (world.recordFailing index worker commits)
      unfold recordFailing
      split
      · next call claimToken _ =>
        cases commits with
        | true => exact .fail _ call claimToken rfl
        | false => exact .same _ rfl
      · exact .same world.workers rfl
  | crash index => exact .same _ rfl

/-! ### What every queue keeps -/

theorem isOf_iff : job.isOf call = true ↔ Keyed.key job = call.key := by
  unfold ShadowJobRow.isOf
  simp only [Bool.and_eq_true, decide_eq_true_eq]
  exact Prod.mk_inj.symm

/-- A job that is open is not completed and has attempts left. -/
theorem isClosed_eq_false : job.isClosed = false ↔ job.state ≠ .completed ∧ job.attempts < 3 := by
  simp [ShadowJobRow.isClosed]

section UpdateJobs

variable {chosen : ShadowJobRow → Bool} {rewrite : ShadowJobRow → ShadowJobRow}
  {keeps : ∀ row, Keyed.key (rewrite row) = Keyed.key row}

theorem mem_updateJobs : job ∈ (world.updateJobs chosen rewrite keeps).jobs ↔
    ∃ old ∈ world.jobs, (if chosen old then rewrite old else old) = job :=
  @Table.mem_update _ _ _ _ world.jobs chosen rewrite keeps job

theorem find?_updateJobs (key : String × String) : (world.updateJobs chosen rewrite keeps).jobs.find? key =
    (world.jobs.find? key).map fun job => if chosen job then rewrite job else job :=
  @Table.find?_update _ _ _ _ world.jobs chosen rewrite keeps key

end UpdateJobs

/-- Attempts are bounded, a claimed job is not completed and has a lease, the completed jobs are those with
evidence, and every job has a shadow scope. -/
structure QueueSound (inScope : String × String → Bool) (world : ShadowWorld ε) : Prop where
  attempts : ∀ job ∈ world.jobs, job.attempts ≤ 3
  held : ∀ job ∈ world.jobs, job.claimToken.isSome = true →
    job.state ≠ .completed ∧ job.leaseExpiresAt.isSome = true
  evidence : ∀ key, (world.evaluations.find? key).isSome = (world.jobs.find? key).any (·.isCompleted)
  inside : ∀ job ∈ world.jobs, inScope (Keyed.key job) = true

theorem empty_sound : QueueSound inScope (empty : ShadowWorld ε) :=
  ⟨nofun, nofun, fun _ => rfl, nofun⟩

/-- Calls under way do not matter. -/
theorem QueueSound.withWorkers (sound : QueueSound inScope world) (workers : List ShadowWorker) :
    QueueSound inScope { world with workers } := ⟨sound.attempts, sound.held, sound.evidence, sound.inside⟩

/-- Jobs are rewritten, each soundly. -/
theorem QueueSound.updateJobs (sound : QueueSound inScope world) {chosen : ShadowJobRow → Bool}
    {rewrite : ShadowJobRow → ShadowJobRow} (keeps : ∀ row, Keyed.key (rewrite row) = Keyed.key row)
    (attempts : ∀ job ∈ world.jobs, chosen job = true → (rewrite job).attempts ≤ 3)
    (held : ∀ job ∈ world.jobs, chosen job = true → (rewrite job).claimToken.isSome = true →
      (rewrite job).state ≠ .completed ∧ (rewrite job).leaseExpiresAt.isSome = true)
    (completed : ∀ job ∈ world.jobs, chosen job = true → (rewrite job).isCompleted = job.isCompleted) :
    QueueSound inScope (world.updateJobs chosen rewrite keeps) := by
  refine ⟨fun job member => ?_, fun job member => ?_, fun key => ?_, fun job member => ?_⟩
  · obtain ⟨old, older, rfl⟩ := mem_updateJobs.mp member
    split
    · next taken => exact attempts old older taken
    · exact sound.attempts old older
  · obtain ⟨old, older, rfl⟩ := mem_updateJobs.mp member
    split
    · next taken => exact held old older taken
    · exact sound.held old older
  · refine (sound.evidence key).trans ?_
    rw [find?_updateJobs]
    cases found : world.jobs.find? key with
    | none => rfl
    | some job =>
      simp only [Option.map_some, Option.any_some]
      split
      · next taken => exact (completed job (Table.mem_of_find? found) taken).symm
      · rfl
  · obtain ⟨old, older, rfl⟩ := mem_updateJobs.mp member
    have inside := sound.inside old older
    split
    · rw [keeps old]
      exact inside
    · exact inside

/-- The job that a call owns. -/
theorem owned_job {claimToken : String} (owned : world.owns call claimToken = true) :
    ∃ job, world.jobs.find? call.key = some job ∧ job.claimToken = some claimToken := by
  unfold owns at owned
  obtain ⟨job, found, same⟩ := (Option.any_eq_true _ _).mp owned
  exact ⟨job, found, of_decide_eq_true same⟩

/-- The evidence that is inserted is that of a call. -/
theorem find?_insertEvaluation (call : ShadowCall) (evidence : ε) (key : String × String) :
    ((world.insertEvaluation call evidence).evaluations.find? key).isSome =
      ((world.evaluations.find? key).isSome || key = call.key) := by
  unfold insertEvaluation
  cases found : world.evaluations.find? call.key with
  | some row =>
    by_cases same : key = call.key
    · simp [same, found]
    · simp [same]
  | none =>
    dsimp only
    rw [Table.find?_put]
    by_cases same : key = call.key
    · rw [if_pos (by exact same)]
      simp [same]
    · rw [if_neg (by exact same)]
      simp [same]

theorem jobs_insertEvaluation (call : ShadowCall) (evidence : ε) :
    (world.insertEvaluation call evidence).jobs = world.jobs := by
  unfold insertEvaluation
  split <;> rfl

/-- A job that is owned has a scope, so that evidence is inserted when it is completed. -/
theorem QueueSound.evaluateAndPersistShadow (sound : QueueSound inScope world) {claimToken : String}
    (owned : world.owns call claimToken = true) (evidence : ε) :
    world.evaluateAndPersistShadow inScope call evidence =
      (some evidence, world.insertEvaluation call evidence) := by
  obtain ⟨job, found, _⟩ := owned_job owned
  have inside := sound.inside job (Table.mem_of_find? found)
  rw [Table.key_of_find? found] at inside
  exact if_pos inside

theorem completeJob_sound (sound : QueueSound inScope world) {claimToken : String}
    (owned : world.owns call claimToken = true) (evidence : ε) :
    QueueSound inScope ((world.insertEvaluation call evidence).completeJob call claimToken) := by
  obtain ⟨job, found, own⟩ := owned_job owned
  refine ⟨fun other member => ?_, fun other member claimed => ?_, fun key => ?_, fun other member => ?_⟩
  · obtain ⟨old, older, rfl⟩ := mem_updateJobs.mp member
    rw [jobs_insertEvaluation] at older
    have bounded := sound.attempts old older
    split <;> exact bounded
  · obtain ⟨old, older, rfl⟩ := mem_updateJobs.mp member
    rw [jobs_insertEvaluation] at older
    split at claimed
    · cases claimed
    · next spared =>
      rw [if_neg spared]
      exact sound.held old older claimed
  · refine (find?_insertEvaluation call evidence key).trans ?_
    refine Eq.trans ?_ (congrArg (Option.any _) (find?_updateJobs key).symm)
    rw [jobs_insertEvaluation, sound.evidence key]
    by_cases same : key = call.key
    · have isJob : job.isOf call = true := isOf_iff.mpr (Table.key_of_find? found)
      rw [same, found]
      simp [isJob, own, ShadowJobRow.isCompleted, ShadowJobRow.complete]
    · cases there : world.jobs.find? key with
      | none => simp [same]
      | some other =>
        have spared : ¬ other.isOf call = true := fun is =>
          same ((Table.key_of_find? there).symm.trans (isOf_iff.mp is))
        simp [same, spared]
  · obtain ⟨old, older, rfl⟩ := mem_updateJobs.mp member
    rw [jobs_insertEvaluation] at older
    have inside := sound.inside old older
    split <;> exact inside

/-- The job that a claim rewrites is the one it has found. -/
theorem eq_of_isOf {taken : ShadowJobRow} (found : world.jobs.find? call.key = some taken)
    (member : job ∈ world.jobs) (same : job.isOf call = true) : job = taken :=
  Table.eq_of_key member (Table.mem_of_find? found)
    ((isOf_iff.mp same).trans (Table.key_of_find? found).symm)

/-- **Every step keeps the queue sound.** -/
theorem ShadowStep.sound {op : ShadowOp ε} (sound : QueueSound inScope world)
    (step : ShadowStep inScope world op after) : QueueSound inScope after := by
  cases step with
  | same workers => exact sound.withWorkers workers
  | @enqueue organizationId requestId queuedAt inside absent =>
    refine ⟨fun job member => ?_, fun job member claimed => ?_, fun key => ?_, fun job member => ?_⟩
    · rcases Table.mem_put.mp member with rfl | ⟨old, _⟩
      · exact Nat.zero_le 3
      · exact sound.attempts job old
    · rcases Table.mem_put.mp member with rfl | ⟨old, _⟩
      · cases claimed
      · exact sound.held job old claimed
    · refine (sound.evidence key).trans ?_
      rw [Table.find?_put]
      split
      · next same =>
        rw [same]
        exact (congrArg (Option.any _) absent :)
      · rfl
    · rcases Table.mem_put.mp member with rfl | ⟨old, _⟩
      · exact inside
      · exact sound.inside job old
  | @claim workers call claimToken startedAt _ found opened =>
    obtain ⟨incomplete, left⟩ := isClosed_eq_false.mp opened
    have kept : QueueSound inScope
        (world.updateJobs (·.isOf call) (·.claim call claimToken startedAt) fun _ => rfl) := by
      refine sound.updateJobs _ (fun job member same => ?_) (fun job member same _ => ?_) fun _ _ _ => rfl
      · rw [eq_of_isOf found member same]
        exact left
      · rw [eq_of_isOf found member same]
        exact ⟨incomplete, rfl⟩
    exact kept.withWorkers workers
  | complete workers evidence owned =>
    rw [sound.evaluateAndPersistShadow owned]
    exact (completeJob_sound sound owned evidence).withWorkers workers
  | fail workers call claimToken =>
    have kept : QueueSound inScope (world.recordFailure call claimToken) := by
      refine sound.updateJobs _ (fun job member _ => sound.attempts job member)
        (fun job member _ claimed => by cases claimed) fun job member chosen => ?_
      simp only [Bool.and_eq_true, Bool.or_eq_true, decide_eq_true_eq] at chosen
      rcases chosen.1.1.2 with pending | failed
      · simp [ShadowJobRow.isCompleted, ShadowJobRow.fail, pending]
      · simp [ShadowJobRow.isCompleted, ShadowJobRow.fail, failed]
    exact kept.withWorkers workers

theorem shadowStep_sound (world : ShadowWorld ε) (op : ShadowOp ε) (sound : QueueSound inScope world) :
    QueueSound inScope (world.shadowStep inScope op) := (shadowStep_cases inScope world op).sound sound

/-! ### Jobs that are never claimed again -/

/-- A job is closed after some attempts. -/
def ClosedAfter (world : ShadowWorld ε) (key : String × String) (attempts : ℕ) : Prop :=
  ∃ job ∈ world.jobs, Keyed.key job = key ∧ job.attempts = attempts ∧ job.isClosed = true

/-- Jobs that are rewritten stay closed. -/
theorem ClosedAfter.updateJobs {key : String × String} {attempts : ℕ}
    (closed : world.ClosedAfter key attempts) {chosen : ShadowJobRow → Bool} {rewrite : ShadowJobRow → ShadowJobRow}
    (keeps : ∀ row, Keyed.key (rewrite row) = Keyed.key row)
    (kept : ∀ job ∈ world.jobs, chosen job = true → job.isClosed = true →
      (rewrite job).attempts = job.attempts ∧ (rewrite job).isClosed = true) :
    (world.updateJobs chosen rewrite keeps).ClosedAfter key attempts := by
  obtain ⟨job, member, rfl, rfl, closed⟩ := closed
  refine ⟨_, mem_updateJobs.mpr ⟨job, member, rfl⟩, ?_⟩
  split
  · next taken => exact ⟨keeps job, kept job member taken closed⟩
  · exact ⟨rfl, rfl, closed⟩

/-- **No step opens a job that is closed.** -/
theorem ShadowStep.closed {op : ShadowOp ε} {key : String × String} {attempts : ℕ}
    (closed : world.ClosedAfter key attempts) (step : ShadowStep inScope world op after) :
    after.ClosedAfter key attempts := by
  cases step with
  | same workers => exact closed
  | enqueue queuedAt inside absent =>
    obtain ⟨job, member, keyed, closed⟩ := closed
    exact ⟨job, Table.mem_put.mpr (.inr ⟨member, Table.find?_eq_none.mp absent job member⟩), keyed, closed⟩
  | @claim workers call claimToken startedAt _ found opened =>
    have kept : (world.updateJobs (·.isOf call) (·.claim call claimToken startedAt)
        fun _ => rfl).ClosedAfter key attempts := by
      refine closed.updateJobs _ fun job member same shut => ?_
      rw [eq_of_isOf found member same, opened] at shut
      cases shut
    exact kept
  | @complete workers call claimToken evidence =>
    have persisted : ((world.evaluateAndPersistShadow inScope call evidence).2).ClosedAfter key attempts := by
      unfold ShadowWorld.evaluateAndPersistShadow
      split
      · unfold ClosedAfter
        rw [jobs_insertEvaluation]
        exact closed
      · exact closed
    have kept : ((world.evaluateAndPersistShadow inScope call evidence).2.completeJob call
        claimToken).ClosedAfter key attempts := persisted.updateJobs _ fun _ _ _ _ => ⟨rfl, rfl⟩
    exact kept
  | fail workers call claimToken =>
    have kept : (world.recordFailure call claimToken).ClosedAfter key attempts := by
      refine closed.updateJobs _ fun job member chosen shut => ⟨rfl, ?_⟩
      simp only [Bool.and_eq_true, Bool.or_eq_true, decide_eq_true_eq] at chosen
      simp only [ShadowJobRow.isClosed, Bool.or_eq_true, decide_eq_true_eq] at shut ⊢
      rcases shut with completed | spent
      · rcases chosen.1.1.2 with pending | failed
        · rw [completed] at pending
          cases pending
        · rw [completed] at failed
          cases failed
      · exact .inr spent
    exact kept

/-- A closed job is never claimed again. -/
theorem isUnclaimable_of_isClosed (member : job ∈ world.jobs) (closed : job.isClosed = true) :
    world.IsUnclaimable inScope job := by
  intro ops later there same
  have initial : world.ClosedAfter (Keyed.key job) job.attempts := ⟨job, member, rfl, rfl, closed⟩
  have kept (world : ShadowWorld ε) (op : ShadowOp ε)
      (closed : world.ClosedAfter (Keyed.key job) job.attempts) :
      (world.shadowStep inScope op).ClosedAfter (Keyed.key job) job.attempts :=
    (shadowStep_cases inScope world op).closed closed
  obtain ⟨last, here, keyed, attempts, _⟩ :=
    @run_invariant _ _ _ (ClosedAfter · (Keyed.key job) job.attempts) _ initial kept ops
  rw [Table.eq_of_key there here (same.trans keyed.symm)]
  exact attempts

/-- Retries are a run. -/
theorem iterate_retryOne (inScope : String × String → Bool) (world : ShadowWorld ε) (now : ℤ) (retries : ℕ) :
    ∃ ops, (retryOne inScope now)^[retries] world = run (shadowStep inScope) world ops := by
  induction retries generalizing world with
  | zero => exact ⟨[], rfl⟩
  | succ retries ih =>
    obtain ⟨ops, ran⟩ := ih (retryOne inScope now world)
    refine ⟨[.retry 1 now, .claim world.workers.length "retry" now now] ++ ops, ?_⟩
    rw [Function.iterate_succ_apply, ran, run_append]
    rfl

/-- What retries claim is claimed again. -/
theorem IsReclaimable.not_isUnclaimable (reclaimed : world.IsReclaimable inScope job now) :
    ¬ world.IsUnclaimable inScope job := by
  intro never
  obtain ⟨retries, later, member, same, more⟩ := reclaimed
  obtain ⟨ops, ran⟩ := world.iterate_retryOne inScope now retries
  rw [ran] at member
  have less := never ops later member same
  omega

/-! ### Jobs that retries claim -/

/-- A job that is due is open, and no evaluation holds it. -/
theorem isDue_iff : job.isDue now = true ↔ job.isClosed = false ∧
    (job.claimToken = none ∨ ∃ lease ∈ job.leaseExpiresAt, lease ≤ now) := by
  unfold ShadowJobRow.isDue ShadowJobRow.isClosed
  cases job.state <;> simp [Option.any_eq_true]

theorem isHeld_of_isDue (due : job.isDue now = true) : job.isHeld now = false := by
  unfold ShadowJobRow.isHeld
  rcases (isDue_iff.mp due).2 with free | ⟨lease, leased, expired⟩
  · rw [free]
    rfl
  · rw [Option.mem_def.mp leased]
    simp [expired]

/-- A retry claims the first job that is due. -/
theorem retryOne_jobs (inScope : String × String → Bool) (member : job ∈ world.jobs)
    (due : job.isDue now = true) : ∃ first ∈ world.jobs, first.isDue now = true ∧
      (world.retryOne inScope now).jobs = (world.updateJobs (·.isOf first.retryCall)
        (·.claim first.retryCall "retry" now) fun _ => rfl).jobs := by
  have listed : job ∈ (world.jobs.rows.filter (·.isDue now)).mergeSort ShadowJobRow.comesBefore :=
    List.mem_mergeSort.mpr (List.mem_filter.mpr ⟨member, due⟩)
  cases sorted : (world.jobs.rows.filter (·.isDue now)).mergeSort ShadowJobRow.comesBefore with
  | nil =>
    rw [sorted] at listed
    cases listed
  | cons first rest =>
    have there : first ∈ (world.jobs.rows.filter (·.isDue now)).mergeSort ShadowJobRow.comesBefore := by
      rw [sorted]
      exact List.mem_cons_self
    obtain ⟨here, isDue⟩ := List.mem_filter.mp (List.mem_mergeSort.mp there)
    refine ⟨first, here, isDue, ?_⟩
    have begun : world.shadowStep inScope (.retry 1 now) =
        world.addWorker ⟨.idle, [first.retryCall], 0⟩ := by
      have calls : world.retryPendingShadowEvaluations 1 now = .ok [first.retryCall] := by
        unfold retryPendingShadowEvaluations
        rw [sorted]
        rfl
      unfold shadowStep
      dsimp only
      rw [calls]
    have found : world.jobs.find? first.retryCall.key = some first := Table.find?_of_mem here
    have claims : (world.addWorker ⟨.idle, [first.retryCall], 0⟩).claimJob first.retryCall "retry" now now =
        (.acquired, (world.addWorker ⟨.idle, [first.retryCall], 0⟩).updateJobs (·.isOf first.retryCall)
          (·.claim first.retryCall "retry" now) fun _ => rfl) := by
      unfold claimJob addWorker
      dsimp only
      rw [found]
      dsimp only
      rw [(isDue_iff.mp isDue).1, isHeld_of_isDue isDue]
      rfl
    have worker : (world.addWorker ⟨.idle, [first.retryCall], 0⟩).workers[world.workers.length]? =
        some ⟨.idle, [first.retryCall], 0⟩ := List.getElem?_concat_length
    unfold retryOne
    rw [run_cons, run_cons, run_nil, begun]
    unfold shadowStep withWorker
    dsimp only
    rw [worker]
    show ((world.addWorker _).claimNext world.workers.length
      ⟨.idle, [first.retryCall], 0⟩ "retry" now now).jobs = _
    unfold claimNext
    dsimp only
    rw [claims]
    rfl

/-- A job that is claimed is not due. -/
theorem isDue_claim (call : ShadowCall) (claimToken : String) (now : ℤ) :
    (job.claim call claimToken now).isDue now = false := by
  simp [ShadowJobRow.isDue, ShadowJobRow.claim]

/-- A claim leaves fewer jobs that are due. -/
theorem countP_claim {first : ShadowJobRow} (member : first ∈ world.jobs) (due : first.isDue now = true) :
    (world.updateJobs (·.isOf first.retryCall) (·.claim first.retryCall "retry" now)
      fun _ => rfl).jobs.rows.countP (·.isDue now) < world.jobs.rows.countP (·.isDue now) := by
  have spent (job : ShadowJobRow) (_ : job.isOf first.retryCall = true) :
      (job.claim first.retryCall "retry" now).isDue now = false := isDue_claim _ _ _
  have taken : first.isOf first.retryCall = true := isOf_iff.mpr rfl
  exact @Table.countP_update_lt _ _ _ _ world.jobs (·.isOf first.retryCall) (·.isDue now)
    (·.claim first.retryCall "retry" now) (fun _ => rfl) spent first member taken due

/-- **Retries come to every job that is due.** -/
theorem isReclaimable_of_isDue (member : job ∈ world.jobs) (due : job.isDue now = true) :
    world.IsReclaimable inScope job now := by
  induction count : world.jobs.rows.countP (·.isDue now) using Nat.strong_induction_on generalizing world with
  | _ size ih =>
    obtain ⟨first, here, isDue, claimed⟩ := retryOne_jobs inScope member due
    by_cases same : job.isOf first.retryCall = true
    · -- The retry claims the job itself.
      refine ⟨1, job.claim first.retryCall "retry" now, ?_, rfl, rfl⟩
      rw [Function.iterate_one, claimed]
      exact mem_updateJobs.mpr ⟨job, member, if_pos same⟩
    · -- The retry claims an earlier job, and fewer are due.
      have there : job ∈ (world.retryOne inScope now).jobs := by
        rw [claimed]
        exact mem_updateJobs.mpr ⟨job, member, if_neg same⟩
      have fewer : (world.retryOne inScope now).jobs.rows.countP (·.isDue now) < size := by
        rw [claimed, ← count]
        exact countP_claim here isDue
      obtain ⟨retries, later, reached⟩ := ih _ fewer there rfl
      exact ⟨retries + 1, later, reached⟩

/-! ### The status of a queue -/

/-- Pending jobs have attempts left. -/
def IsTidy (world : ShadowWorld ε) : Prop := ∀ job ∈ world.jobs, job.isPending = true → job.attempts < 3

instance : Decidable world.IsTidy :=
  inferInstanceAs (Decidable (∀ job ∈ world.jobs.rows, job.isPending = true → job.attempts < 3))

/-- An open job is due when its lease has expired. -/
theorem QueueSound.isDue (sound : QueueSound inScope world) (member : job ∈ world.jobs)
    (opened : job.isClosed = false) (expired : ∀ lease ∈ job.leaseExpiresAt, lease ≤ now) :
    job.isDue now = true := by
  refine isDue_iff.mpr ⟨opened, ?_⟩
  cases token : job.claimToken with
  | none => exact .inl rfl
  | some claimToken =>
    have leased := (sound.held job member (by rw [token]; rfl)).2
    obtain ⟨lease, isLease⟩ := Option.isSome_iff_exists.mp leased
    exact .inr ⟨lease, isLease, expired lease isLease⟩

/-- **The status of a queue is truthful if pending jobs have attempts left, and only then.** -/
theorem statusTruthful_iff_isTidy (sound : QueueSound inScope world) :
    world.StatusTruthful inScope ↔ world.IsTidy := by
  constructor
  · intro truthful job member pending
    by_contra spent
    have closed : job.isClosed = true := by
      simp only [ShadowJobRow.isClosed, Bool.or_eq_true, decide_eq_true_eq]
      omega
    have expired : ∀ lease ∈ job.leaseExpiresAt, lease ≤ job.leaseExpiresAt.getD 0 := by
      rintro lease leased
      rw [Option.mem_def.mp leased]
      exact le_rfl
    exact (truthful.reclaimable job member (.inl pending) _ expired).not_isUnclaimable
      (isUnclaimable_of_isClosed member closed)
  · intro tidy
    refine ⟨fun job member counted now expired => ?_, fun job member never unseen => ?_, sound.attempts⟩
    · refine isReclaimable_of_isDue member (sound.isDue member (isClosed_eq_false.mpr ?_) expired)
      rcases counted with pending | retryable
      · have left := tidy job member pending
        simp only [ShadowJobRow.isPending, decide_eq_true_eq] at pending
        exact ⟨by rw [pending]; exact ShadowJobState.noConfusion, left⟩
      · simp only [ShadowJobRow.isRetryable, Bool.and_eq_true, decide_eq_true_eq] at retryable
        exact ⟨by rw [retryable.1]; exact ShadowJobState.noConfusion, retryable.2⟩
    · have closed : job.isClosed = true := by
        by_contra opened
        have expired : ∀ lease ∈ job.leaseExpiresAt, lease ≤ job.leaseExpiresAt.getD 0 := by
          rintro lease leased
          rw [Option.mem_def.mp leased]
          exact le_rfl
        have due := sound.isDue member (Bool.not_eq_true _ ▸ opened) expired
        exact (isReclaimable_of_isDue member due).not_isUnclaimable never
      have incomplete : job.isCompleted = false := by
        have evidence := sound.evidence (Keyed.key job)
        rw [unseen, Table.find?_of_mem member] at evidence
        exact evidence.symm
      simp only [ShadowJobRow.isClosed, Bool.or_eq_true, decide_eq_true_eq] at closed
      simp only [ShadowJobRow.isCompleted, decide_eq_false_iff_not] at incomplete
      have spent := closed.resolve_left incomplete
      cases state : job.state with
      | pending =>
        have left := tidy job member (by simp [ShadowJobRow.isPending, state])
        omega
      | failed => simp [ShadowJobRow.isExhausted, state, spent]
      | completed => exact absurd state incomplete

/-- Jobs that are rewritten without becoming pending stay tidy. -/
theorem IsTidy.updateJobs (tidy : world.IsTidy) {chosen : ShadowJobRow → Bool}
    {rewrite : ShadowJobRow → ShadowJobRow} (keeps : ∀ row, Keyed.key (rewrite row) = Keyed.key row)
    (left : ∀ job ∈ world.jobs, chosen job = true → (rewrite job).isPending = true →
      (rewrite job).attempts < 3) :
    (world.updateJobs chosen rewrite keeps).IsTidy := by
  intro job member pending
  obtain ⟨old, older, rfl⟩ := mem_updateJobs.mp member
  split at pending
  · next taken =>
    rw [if_pos taken]
    exact left old older taken pending
  · next spared =>
    rw [if_neg spared]
    exact tidy old older pending

/-- A claim keeps the queue tidy unless it is the third one of a pending job. -/
theorem isTidy_claim (tidy : world.IsTidy) {taken : ShadowJobRow} (claimToken : String) (startedAt : ℤ)
    (found : world.jobs.find? call.key = some taken) (opened : taken.isClosed = false) :
    (world.updateJobs (·.isOf call) (·.claim call claimToken startedAt) fun _ => rfl).IsTidy ↔
      ¬ (taken.state = .pending ∧ taken.attempts = 2) := by
  constructor
  · rintro kept ⟨pending, second⟩
    have isTaken : taken.isOf call = true := isOf_iff.mpr (Table.key_of_find? found)
    have there : taken.claim call claimToken startedAt ∈
        (world.updateJobs (·.isOf call) (·.claim call claimToken startedAt) fun _ => rfl).jobs :=
      mem_updateJobs.mpr ⟨taken, Table.mem_of_find? found, if_pos isTaken⟩
    have left : taken.attempts + 1 < 3 := kept _ there (decide_eq_true pending)
    omega
  · intro earlier
    refine tidy.updateJobs _ fun job member same pending => ?_
    rw [eq_of_isOf found member same] at pending ⊢
    have isPending : taken.state = .pending := of_decide_eq_true pending
    have left := (isClosed_eq_false.mp opened).2
    have notSecond : taken.attempts ≠ 2 := fun second => earlier ⟨isPending, second⟩
    show taken.attempts + 1 < 3
    omega

/-- **A step keeps a queue tidy exactly if it is not the third claim of a pending job.** -/
theorem ShadowStep.isTidy_iff {op : ShadowOp ε} (tidy : world.IsTidy)
    (step : ShadowStep inScope world op after) : after.IsTidy ↔ world.claimsLast op = false := by
  have unclaimed (free : world.claimedBy op = none) : world.claimsLast op = false := by
    unfold claimsLast
    rw [free]
    rfl
  cases step with
  | same workers free => exact iff_of_true tidy (unclaimed free)
  | enqueue queuedAt inside absent free =>
    refine iff_of_true (fun job member pending => ?_) (unclaimed free)
    rcases Table.mem_put.mp member with rfl | ⟨old, _⟩
    · exact Nat.zero_lt_succ 2
    · exact tidy job old pending
  | @claim workers call claimToken startedAt job found opened claimed =>
    refine (isTidy_claim tidy claimToken startedAt found opened).trans ?_
    unfold claimsLast
    rw [claimed, Option.any_some]
    simp
  | @complete workers call claimToken evidence owned free =>
    have persisted : ((world.evaluateAndPersistShadow inScope call evidence).2).IsTidy := by
      unfold ShadowWorld.evaluateAndPersistShadow
      split
      · unfold IsTidy
        rw [jobs_insertEvaluation]
        exact tidy
      · exact tidy
    have kept : ((world.evaluateAndPersistShadow inScope call evidence).2.completeJob call
        claimToken).IsTidy := persisted.updateJobs _ fun _ _ _ pending => nomatch pending
    exact iff_of_true kept (unclaimed free)
  | fail workers call claimToken free =>
    have kept : (world.recordFailure call claimToken).IsTidy :=
      tidy.updateJobs _ fun _ _ _ pending => nomatch pending
    exact iff_of_true kept (unclaimed free)

/-! ### Runs -/

/-- The status after a run is truthful if pending jobs have attempts left. -/
theorem statusTruthful_run (inScope : String × String → Bool) (ops : List (ShadowOp ε)) :
    (run (shadowStep inScope) empty ops).StatusTruthful inScope ↔
      (run (shadowStep inScope) empty ops).IsTidy :=
  statusTruthful_iff_isTidy (run_invariant empty_sound shadowStep_sound ops)

/-- **The status is truthful throughout a run exactly if no step is the third claim of a pending job.** -/
theorem statusTruthful_iff (inScope : String × String → Bool) (ops : List (ShadowOp ε)) :
    (∀ earlier, earlier <+: ops → (run (shadowStep inScope) empty earlier).StatusTruthful inScope) ↔
      Along (shadowStep inScope) (fun world op => world.claimsLast op = false) empty ops := by
  have initial : (empty : ShadowWorld ε).IsTidy := nofun
  have stepwise (world : ShadowWorld ε) (op : ShadowOp ε) (_ : QueueSound inScope world)
      (tidy : world.IsTidy) : (world.shadowStep inScope op).IsTidy ↔ world.claimsLast op = false :=
    (shadowStep_cases inScope world op).isTidy_iff tidy
  refine Iff.trans ?_ (Along.exact shadowStep_sound stepwise empty_sound initial ops)
  exact forall_congr' fun earlier => forall_congr' fun _ => statusTruthful_run inScope earlier

/-- A job whose first three claims stop before they record anything. -/
def stoppedThrice : List (ShadowOp Unit) :=
  [.enqueue "org" "request" 0,
    .process ⟨"org", "request", 0⟩, .claim 0 "first" 0 0, .crash 0,
    .retry 20 300000, .claim 0 "second" 300000 300000, .crash 0,
    .retry 20 600000, .claim 0 "third" 600000 600000, .crash 0]

/-- **The job is counted as pending and is never claimed again.** -/
theorem stopped_job_stays_pending : ¬ ∀ (inScope : String × String → Bool) (ops : List (ShadowOp Unit)),
    (run (shadowStep inScope) empty ops).StatusTruthful inScope := by
  intro each
  have tidy := (statusTruthful_run (fun _ => true) stoppedThrice).mp (each _ _)
  revert tidy
  decide +kernel

/-- Nor is the job counted as exhausted. -/
example : (run (shadowStep fun _ => true) empty stoppedThrice).shadowQueueStatus = ⟨1, 0, 0, 0⟩ := by
  decide +kernel

end ShadowWorld

end FuseControlPlane.Persistence
