/-
The queue of shadow evaluations (`enqueueShadowEvaluation`, `processShadowEvaluationBestEffort`,
`retryPendingShadowEvaluations` and `shadowQueueStatus` of `persistence/policyStore.ts`).

* `claimJob`, `evaluateJob`, `recordFailure`: the three transactions of an evaluation. What the evaluation of
  an execution comes to is given (`ShadowOutcome`), and so are the executions with a shadow scope: branches,
  workload classes and policy versions do not change.
* `retryPendingShadowEvaluations`, `shadowQueueStatus`: the jobs a retry goes through, and the counts.
* `ShadowWorld`, `shadowStep`: the queue with the calls under way, of which each may stop between two of its
  transactions. Times are those of the steps, so that a lease expires with a later step.
-/

import FuseControlPlane.Foundation.Runs
import FuseControlPlane.Foundation.Table

set_option linter.unusedSectionVars false

namespace FuseControlPlane.Persistence

open Foundation

/-! ### Rows -/

inductive ShadowJobState
  | pending | failed | completed
  deriving DecidableEq

/-- `shadow_evaluation_queue`. -/
structure ShadowJobRow where
  organizationId : String
  requestId : String
  state : ShadowJobState
  attempts : ℕ
  claimToken : Option String
  leaseExpiresAt : Option ℤ
  lastError : Option String
  queuedAt : ℤ
  updatedAt : ℤ
  deriving DecidableEq

instance : Keyed ShadowJobRow (String × String) := ⟨fun row => (row.organizationId, row.requestId)⟩

/-- `shadow_evaluations`. -/
structure ShadowEvaluationRow (ε : Type) where
  organizationId : String
  requestId : String
  evidence : ε

instance (ε : Type) : Keyed (ShadowEvaluationRow ε) (String × String) :=
  ⟨fun row => (row.organizationId, row.requestId)⟩

/-- A call of `processShadowEvaluationBestEffort`. -/
structure ShadowCall where
  organizationId : String
  requestId : String
  evaluatedAt : ℤ
  deriving DecidableEq

/-- The key of the job that a call is about. -/
def ShadowCall.key (call : ShadowCall) : String × String := (call.organizationId, call.requestId)

/-- What the second transaction of an evaluation finds. -/
inductive ShadowOutcome (ε : Type)
  /-- No execution of the request is completed. -/
  | notCompleted
  /-- What an execution that has a shadow scope is evaluated to. -/
  | evaluated (evidence : ε)
  /-- The evaluation throws, or does not commit. -/
  | throws

namespace ShadowJobRow

/-- The job is the one that a call is about. -/
def isOf (call : ShadowCall) (job : ShadowJobRow) : Bool :=
  job.organizationId = call.organizationId && job.requestId = call.requestId

/-- No evaluation is begun any more. -/
def isClosed (job : ShadowJobRow) : Bool := job.state = .completed || 3 ≤ job.attempts

/-- Another evaluation holds the job. -/
def isHeld (now : ℤ) (job : ShadowJobRow) : Bool :=
  job.claimToken.any (· ≠ "") && job.leaseExpiresAt.any (now < ·)

/-- The job is claimed for five minutes. -/
def claim (call : ShadowCall) (claimToken : String) (startedAt : ℤ) (job : ShadowJobRow) : ShadowJobRow :=
  { job with
    attempts := job.attempts + 1
    claimToken := some claimToken
    leaseExpiresAt := some (startedAt + 5 * 60000)
    lastError := none
    updatedAt := call.evaluatedAt }

/-- The job is done. -/
def complete (call : ShadowCall) (job : ShadowJobRow) : ShadowJobRow :=
  { job with
    state := .completed
    claimToken := none
    leaseExpiresAt := none
    lastError := none
    updatedAt := call.evaluatedAt }

/-- The evaluation has failed. -/
def fail (call : ShadowCall) (job : ShadowJobRow) : ShadowJobRow :=
  { job with
    state := .failed
    claimToken := none
    leaseExpiresAt := none
    lastError := some "SHADOW_EVALUATION_FAILED"
    updatedAt := call.evaluatedAt }

/-- A retry goes through the job. -/
def isDue (now : ℤ) (job : ShadowJobRow) : Bool :=
  (job.state = .pending || job.state = .failed) && job.attempts < 3 &&
    (job.claimToken.isNone || job.leaseExpiresAt.any (· ≤ now))

/-- `ORDER BY queued_at, request_id`. -/
def comesBefore (first second : ShadowJobRow) : Bool :=
  first.queuedAt < second.queuedAt || (first.queuedAt = second.queuedAt && first.requestId ≤ second.requestId)

/-- The call that a retry makes. -/
def retryCall (job : ShadowJobRow) : ShadowCall := ⟨job.organizationId, job.requestId, job.queuedAt⟩

def isPending (job : ShadowJobRow) : Bool := job.state = .pending

def isRetryable (job : ShadowJobRow) : Bool := job.state = .failed && job.attempts < 3

def isExhausted (job : ShadowJobRow) : Bool := job.state = .failed && 3 ≤ job.attempts

def isCompleted (job : ShadowJobRow) : Bool := job.state = .completed

end ShadowJobRow

/-! ### The queue and its calls -/

/-- Where a call stands between its transactions. -/
inductive ShadowPhase
  | idle
  | claimed (call : ShadowCall) (claimToken : String)
  /-- The evaluation has thrown. -/
  | failing (call : ShadowCall) (claimToken : String)
  deriving DecidableEq

/-- A call under way, the calls that a retry has still to make, and how many have returned evidence. -/
structure ShadowWorker where
  phase : ShadowPhase
  remaining : List ShadowCall
  completed : ℕ
  deriving DecidableEq

structure ShadowWorld (ε : Type) where
  jobs : Table ShadowJobRow
  evaluations : Table (ShadowEvaluationRow ε)
  workers : List ShadowWorker

/-- What the first transaction of an evaluation returns. -/
inductive ShadowClaim (ε : Type)
  | acquired
  | refused (evidence : Option ε)

structure ShadowQueueStatus where
  pending : ℕ
  retryable : ℕ
  exhausted : ℕ
  completed : ℕ
  deriving DecidableEq

inductive ShadowOp (ε : Type)
  | enqueue (organizationId requestId : String) (queuedAt : ℤ)
  | process (call : ShadowCall)
  | retry (limit now : ℤ)
  | claim (index : ℕ) (claimToken : String) (startedAt now : ℤ)
  | evaluate (index : ℕ) (outcome : ShadowOutcome ε)
  | recordFailure (index : ℕ) (commits : Bool)
  | crash (index : ℕ)

namespace ShadowWorld

variable {ε : Type} (world : ShadowWorld ε)

def empty : ShadowWorld ε := ⟨.empty, .empty, []⟩

/-- The job of a request is there. -/
def enqueueShadowEvaluation (organizationId requestId : String) (queuedAt : ℤ) : ShadowWorld ε :=
  match world.jobs.find? (organizationId, requestId) with
  | some _ => world
  | none => { world with
      jobs := world.jobs.put
        ⟨organizationId, requestId, .pending, 0, none, none, none, queuedAt, queuedAt⟩ }

/-- The job of an execution that has a shadow scope is there (`queueShadowBookkeepingBestEffort`). -/
def queueShadowBookkeeping (inScope : String × String → Bool) (organizationId requestId : String)
    (queuedAt : ℤ) : ShadowWorld ε :=
  if inScope (organizationId, requestId) then world.enqueueShadowEvaluation organizationId requestId queuedAt
  else world

/-- `UPDATE shadow_evaluation_queue SET .. WHERE ..`. -/
def updateJobs (chosen : ShadowJobRow → Bool) (rewrite : ShadowJobRow → ShadowJobRow)
    (keeps : ∀ row, Keyed.key (rewrite row) = Keyed.key row) : ShadowWorld ε :=
  { world with jobs := world.jobs.update chosen rewrite keeps }

/-- The evidence of a request. -/
def evidenceOf (call : ShadowCall) : Option ε :=
  (world.evaluations.find? call.key).map ShadowEvaluationRow.evidence

/-- The first transaction of an evaluation. -/
def claimJob (call : ShadowCall) (claimToken : String) (startedAt now : ℤ) : ShadowClaim ε × ShadowWorld ε :=
  match world.jobs.find? call.key with
  | none => (.refused (world.evidenceOf call), world)
  | some job =>
    if job.isClosed then (.refused (world.evidenceOf call), world)
    else if job.isHeld now then (.refused none, world)
    else (.acquired, world.updateJobs (·.isOf call) (·.claim call claimToken startedAt) fun _ => rfl)

/-- A job that a call still holds. -/
def owns (call : ShadowCall) (claimToken : String) : Bool :=
  (world.jobs.find? call.key).any (·.claimToken = some claimToken)

/-- The job of a call is done. -/
def completeJob (call : ShadowCall) (claimToken : String) : ShadowWorld ε :=
  world.updateJobs (fun job => job.isOf call && job.claimToken = some claimToken) (·.complete call)
    fun _ => rfl

/-- `INSERT INTO shadow_evaluations .. ON CONFLICT DO NOTHING`. -/
def insertEvaluation (call : ShadowCall) (evidence : ε) : ShadowWorld ε :=
  match world.evaluations.find? call.key with
  | some _ => world
  | none => { world with
      evaluations := world.evaluations.put ⟨call.organizationId, call.requestId, evidence⟩ }

/-- The evidence of an execution that has a shadow scope (`evaluateAndPersistShadow`). -/
def evaluateAndPersistShadow (inScope : String × String → Bool) (call : ShadowCall) (evidence : ε) :
    Option ε × ShadowWorld ε :=
  if inScope call.key then (some evidence, world.insertEvaluation call evidence) else (none, world)

/-- The second transaction of an evaluation; `none` if it throws. -/
def evaluateJob (inScope : String × String → Bool) (call : ShadowCall) (claimToken : String) :
    ShadowOutcome ε → Option (Option ε × ShadowWorld ε)
  | .throws => none
  | outcome =>
    if !world.owns call claimToken then some (none, world)
    else match outcome with
      | .evaluated evidence =>
        let persisted := world.evaluateAndPersistShadow inScope call evidence
        some (persisted.1, persisted.2.completeJob call claimToken)
      | _ => some (none, world)

/-- The third transaction of an evaluation that has thrown. -/
def recordFailure (call : ShadowCall) (claimToken : String) : ShadowWorld ε :=
  world.updateJobs (fun job => job.isOf call && job.claimToken = some claimToken &&
    (job.state = .pending || job.state = .failed) && job.attempts ≤ 3 &&
      (world.evaluations.find? call.key).isNone) (·.fail call) fun _ => rfl

/-- The calls that a retry makes. -/
def retryPendingShadowEvaluations (limit now : ℤ) : Except String (List ShadowCall) :=
  if limit < 1 || 100 < limit then .error "SHADOW_RETRY_LIMIT_INVALID"
  else .ok ((((world.jobs.rows.filter (·.isDue now)).mergeSort ShadowJobRow.comesBefore).take
    limit.toNat).map ShadowJobRow.retryCall)

def shadowQueueStatus : ShadowQueueStatus where
  pending := world.jobs.rows.countP ShadowJobRow.isPending
  retryable := world.jobs.rows.countP ShadowJobRow.isRetryable
  exhausted := world.jobs.rows.countP ShadowJobRow.isExhausted
  completed := world.jobs.rows.countP ShadowJobRow.isCompleted

/-! ### Steps -/

/-- A worker has come to another point. -/
def setWorker (index : ℕ) (worker : ShadowWorker) : ShadowWorld ε :=
  { world with workers := world.workers.set index worker }

/-- Another call begins. -/
def addWorker (worker : ShadowWorker) : ShadowWorld ε :=
  { world with workers := world.workers ++ [worker] }

/-- A worker claims the job of its next call, or goes on without it. -/
def claimNext (index : ℕ) (worker : ShadowWorker) (claimToken : String) (startedAt now : ℤ) :
    ShadowWorld ε :=
  match worker.phase, worker.remaining with
  | .idle, call :: remaining =>
    match world.claimJob call claimToken startedAt now with
    | (.acquired, claimed) =>
      claimed.setWorker index ⟨.claimed call claimToken, remaining, worker.completed⟩
    | (.refused evidence, kept) =>
      kept.setWorker index ⟨.idle, remaining, worker.completed + if evidence.isSome then 1 else 0⟩
  | _, _ => world

/-- A worker evaluates the job it has claimed. -/
def evaluateClaimed (inScope : String × String → Bool) (index : ℕ) (worker : ShadowWorker)
    (outcome : ShadowOutcome ε) : ShadowWorld ε :=
  match worker.phase with
  | .claimed call claimToken =>
    match world.evaluateJob inScope call claimToken outcome with
    | some (evidence, evaluated) => evaluated.setWorker index
        ⟨.idle, worker.remaining, worker.completed + if evidence.isSome then 1 else 0⟩
    | none => world.setWorker index { worker with phase := .failing call claimToken }
  | _ => world

/-- A worker records that its evaluation has thrown, unless that fails as well. -/
def recordFailing (index : ℕ) (worker : ShadowWorker) (commits : Bool) : ShadowWorld ε :=
  match worker.phase with
  | .failing call claimToken =>
    (if commits then world.recordFailure call claimToken else world).setWorker index
      { worker with phase := .idle }
  | _ => world

/-- What a worker does, if it is there. -/
def withWorker (index : ℕ) (act : ShadowWorker → ShadowWorld ε) : ShadowWorld ε :=
  (world.workers[index]?).elim world act

def shadowStep (inScope : String × String → Bool) (world : ShadowWorld ε) : ShadowOp ε → ShadowWorld ε
  | .enqueue organizationId requestId queuedAt =>
    world.queueShadowBookkeeping inScope organizationId requestId queuedAt
  | .process call => world.addWorker ⟨.idle, [call], 0⟩
  | .retry limit now =>
    match world.retryPendingShadowEvaluations limit now with
    | .error _ => world
    | .ok calls => world.addWorker ⟨.idle, calls, 0⟩
  | .claim index claimToken startedAt now =>
    world.withWorker index (world.claimNext index · claimToken startedAt now)
  | .evaluate index outcome => world.withWorker index (world.evaluateClaimed inScope index · outcome)
  | .recordFailure index commits => world.withWorker index (world.recordFailing index · commits)
  | .crash index => { world with workers := world.workers.eraseIdx index }

end ShadowWorld

end FuseControlPlane.Persistence
