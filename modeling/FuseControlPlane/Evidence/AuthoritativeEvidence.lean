/-
The evidence report of a run (`evidence/authoritativeEvidence.ts`).

* `AuthoritativeEvidenceInventory`: the rows of the run, as they are read once.
* `matrixValid`: which rows a request has, by the state of its attempt.
* `reduceAuthoritativeReliabilityEvidence`: the report with its reasons, counts and digest.

Numbers are integers. `rows[0]` of rows of which there must be one is written with `sole`.
-/

import FuseControlPlane.Core.ReceiptCommitment
import FuseControlPlane.Evidence.AuthoritativeSettlement
import FuseControlPlane.Foundation.DecimalTexts
import FuseControlPlane.Reliability.ReconciliationKernel
import FuseControlPlane.Reliability.SchedulerClaims

namespace FuseControlPlane.Evidence

open Foundation Foundation.JavaScript Core

/-! ### Rows -/

inductive OutcomeState
  | notDispatched | completedVerified | terminalRejectedNotBilled | reconciledNotBilled
  | reconciledBilledWithResponse | reconciledBilledNoResponse | unresolvedProviderOutcome
  deriving DecidableEq

namespace OutcomeState

def toText : OutcomeState → String
  | notDispatched => "not_dispatched"
  | completedVerified => "completed_verified"
  | terminalRejectedNotBilled => "terminal_rejected_not_billed"
  | reconciledNotBilled => "reconciled_not_billed"
  | reconciledBilledWithResponse => "reconciled_billed_with_response"
  | reconciledBilledNoResponse => "reconciled_billed_no_response"
  | unresolvedProviderOutcome => "unresolved_provider_outcome"

/-- `TERMINAL_STATES`. -/
def all : List OutcomeState :=
  [notDispatched, completedVerified, terminalRejectedNotBilled, reconciledNotBilled,
    reconciledBilledWithResponse, reconciledBilledNoResponse, unresolvedProviderOutcome]

/-- The states of a call that gave a usable response. -/
def isUsable (state : OutcomeState) : Bool := state = completedVerified || state = reconciledBilledWithResponse

end OutcomeState

/-- Rows that belong to a request. -/
class RequestRow (ρ : Type) where
  requestId : ρ → String

structure AuthoritativeAttemptRow where
  requestId : String
  state : OutcomeState
  gateClassificationCount : ℤ
  admissionStarted : Bool
  actualCostMicros : Option String
  reservedCostMicros : String

inductive ExecutionStatus
  | denied | failed | completed | reconciliationHold
  deriving DecidableEq

inductive ShadowOrderState
  | queued
  deriving DecidableEq

structure AuthoritativeExecutionRow where
  requestId : String
  status : ExecutionStatus
  actualCostMicros : Option String
  shadowOrderState : Option ShadowOrderState
  cohortOrdinal : Option ℤ

inductive DecisionOutcome
  | allow | deny
  deriving DecidableEq

structure AuthoritativeDecisionRow where
  requestId : String
  outcome : DecisionOutcome

structure AuthoritativeDispatchTokenRow where
  requestId : String
  primitiveEntered : Bool
  preDispatchProof : Bool

inductive ShadowQueueState
  | completed | pending | failed
  deriving DecidableEq

structure AuthoritativeShadowQueueRow where
  requestId : String
  state : ShadowQueueState
  attempts : ℤ

structure ShadowEvidenceRow where
  requestId : String

structure AuthoritativeReplayAuditRow where
  requestId : String
  replayNo : ℤ
  originalResponseCommitment : String
  replayResponseCommitment : String
  writeSet : List String

structure AuthoritativeReconciliationRow where
  requestId : String
  accepted : Bool
  terminalState : OutcomeState

instance : RequestRow AuthoritativeAttemptRow := ⟨AuthoritativeAttemptRow.requestId⟩
instance : RequestRow AuthoritativeExecutionRow := ⟨AuthoritativeExecutionRow.requestId⟩
instance : RequestRow AuthoritativeDecisionRow := ⟨AuthoritativeDecisionRow.requestId⟩
instance : RequestRow AuthoritativeDispatchTokenRow := ⟨AuthoritativeDispatchTokenRow.requestId⟩
instance : RequestRow AuthoritativeShadowQueueRow := ⟨AuthoritativeShadowQueueRow.requestId⟩
instance : RequestRow ShadowEvidenceRow := ⟨ShadowEvidenceRow.requestId⟩
instance : RequestRow AuthoritativeReplayAuditRow := ⟨AuthoritativeReplayAuditRow.requestId⟩
instance : RequestRow AuthoritativeReconciliationRow := ⟨AuthoritativeReconciliationRow.requestId⟩

inductive AuthorizationKind
  | operator | reconciliation
  deriving DecidableEq

def AuthorizationKind.toText : AuthorizationKind → String
  | operator => "operator"
  | reconciliation => "reconciliation"

structure AuthorizationReceiptRow where
  kind : AuthorizationKind
  status : String
  path : String

structure SignedAuthorizationRow where
  kind : AuthorizationKind
  path : String

structure ClaimRow where
  lane : String
  terminal : Bool
  path : String

structure ManifestRow where
  lane : String
  block : ℤ
  terminal : Bool
  digest : String
  path : String

structure IncidentRow where
  sequence : ℤ
  eventType : String
  path : String

structure SettlementSummary where
  passed : Bool
  acceptedOffsetSeconds : Option ℤ
  journalCardinality : ℤ
  finalSnapshotDigest : String
  finalRowCardinality : ℤ

structure EvidenceCosts where
  knownCostMicros : String
  unresolvedExposureMicros : String
  knownCostCapMicros : String
  unresolvedExposureCapMicros : String

structure HardFinalization where
  allTerminal : Bool
  finalizedAt : String
  deadline : String

structure AuthoritativeEvidenceInventory where
  runId : String
  planFingerprint : String
  requestIds : List String
  replayTargetRequestIds : List String
  attempts : List AuthoritativeAttemptRow
  executions : List AuthoritativeExecutionRow
  decisions : List AuthoritativeDecisionRow
  dispatchTokens : List AuthoritativeDispatchTokenRow
  shadowQueue : List AuthoritativeShadowQueueRow
  shadowEvidence : List ShadowEvidenceRow
  replayAudits : List AuthoritativeReplayAuditRow
  authorizationReceipts : List AuthorizationReceiptRow
  signedAuthorizations : List SignedAuthorizationRow
  claims : List ClaimRow
  manifests : List ManifestRow
  reconciliation : List AuthoritativeReconciliationRow
  incidents : List IncidentRow
  settlement : SettlementSummary
  costs : EvidenceCosts
  hardFinalization : HardFinalization
  artifactPaths : List String

/-! ### Lists -/

/-- `LANES`. -/
def lanes : List String := ["normal-paced", "high-envelope", "bounded-burst", "restart-resume"]

/-- `/^sha256:[a-f0-9]{64}$/`. -/
def isSha256Text (text : String) : Bool := Reliability.isManifestDigest text

/-- `[...texts].sort()`. -/
def sortTexts (texts : List String) : List String := texts.insertionSort (beforeByUnits · ·)

def unique (values : List String) : Bool := decide values.Nodup

def exactMembers (actual expected : List String) : Bool :=
  unique actual && actual.length = expected.length && sortTexts actual = sortTexts expected

def exactNonnegativeMicros (value : Option String) : Option ℕ :=
  (value.filter isAtomic).map fun text => digitsValue text.toList

section Rows

variable {ρ : Type}

def rowsFor [RequestRow ρ] (rows : List ρ) (requestId : String) : List ρ :=
  rows.filter fun row => RequestRow.requestId row = requestId

/-- The row of a list with one row. -/
def sole : List ρ → Option ρ
  | [row] => some row
  | _ => none

/-- There is one row, and it is fine. -/
def one (rows : List ρ) (check : ρ → Bool) : Bool := (sole rows).any check

/-- `[...rows].sort((a, b) => number(a) - number(b)).every((row, index) => number(row) === index + 1 && ...)`. -/
def numbered (number : ρ → ℤ) (rows : List ρ) (check : ρ → Bool) : Bool :=
  (rows.insertionSort fun first second => number first ≤ number second).zipIdx.all fun (row, index) =>
    number row = (index : ℤ) + 1 && check row

variable {rows others : List ρ} {number : ρ → ℤ} {check : ρ → Bool}

theorem sole_perm (perm : rows.Perm others) : sole rows = sole others := by
  match rows, others, perm.length_eq with
  | [], [], _ => rfl
  | [row], [other], _ => rw [List.perm_singleton.mp perm]
  | _ :: _ :: _, _ :: _ :: _, _ => rfl

theorem one_perm (perm : rows.Perm others) : one rows check = one others check := by
  rw [one, one, sole_perm perm]

theorem rowsFor_perm [RequestRow ρ] (perm : rows.Perm others) (requestId : String) :
    (rowsFor rows requestId).Perm (rowsFor others requestId) := perm.filter _

theorem all_perm (perm : rows.Perm others) : rows.all check = others.all check := by
  rw [Bool.eq_iff_iff, List.all_eq_true, List.all_eq_true]
  exact forall_congr' fun row => by rw [perm.mem_iff]

theorem any_perm (perm : rows.Perm others) : rows.any check = others.any check := by
  rw [Bool.eq_iff_iff, List.any_eq_true, List.any_eq_true]
  exact exists_congr fun row => by rw [perm.mem_iff]

theorem zipIdx_all_iff (rows : List ρ) (start : ℕ) :
    ((rows.zipIdx start).all fun (row, index) => number row = (index : ℤ) + 1 && check row) = true ↔
      rows.map number = (List.range' start rows.length).map (fun index : ℕ => (index : ℤ) + 1) ∧
        ∀ row ∈ rows, check row = true := by
  induction rows generalizing start with
  | nil => simp
  | cons row rest ih =>
    rw [List.zipIdx_cons, List.all_cons, Bool.and_eq_true, ih, Bool.and_eq_true, decide_eq_true_eq,
      List.length_cons, List.range'_succ, List.map_cons, List.map_cons, List.cons.injEq, List.forall_mem_cons]
    exact and_and_and_comm

/-- Rows are numbered if their numbers are those from one on, in any order. -/
theorem numbered_iff : numbered number rows check = true ↔
    (rows.map number).Perm ((List.range rows.length).map fun index : ℕ => (index : ℤ) + 1) ∧
      ∀ row ∈ rows, check row = true := by
  have perm := List.perm_insertionSort (fun first second => number first ≤ number second) rows
  unfold numbered
  rw [zipIdx_all_iff, perm.length_eq, ← List.range_eq_range']
  refine and_congr ⟨fun sorted => ?_, fun permuted => ?_⟩ (forall_congr' fun row => by rw [perm.mem_iff])
  · rw [← sorted]
    exact (perm.map number).symm
  · have numbers : (List.map number (rows.insertionSort fun first second => number first ≤ number second)).Pairwise
        (· ≤ ·) :=
      List.pairwise_map.mpr (List.pairwise_insertionSort _ rows)
    have counted : ((List.range rows.length).map fun index : ℕ => (index : ℤ) + 1).Pairwise (· ≤ ·) := by
      refine List.pairwise_map.mpr (List.pairwise_le_range.imp ?_)
      intro first second below
      omega
    exact List.Perm.eq_of_pairwise (fun _ _ _ _ below above => le_antisymm below above) numbers counted
      ((perm.map number).trans permuted)

theorem numbered_perm (perm : rows.Perm others) : numbered number rows check = numbered number others check := by
  rw [Bool.eq_iff_iff, numbered_iff, numbered_iff, perm.length_eq]
  exact and_congr ⟨(perm.map number).symm.trans, (perm.map number).trans⟩
    (forall_congr' fun row => by rw [perm.mem_iff])

end Rows

theorem unique_perm {values others : List String} (perm : values.Perm others) : unique values = unique others := by
  rw [unique, unique, Bool.eq_iff_iff, decide_eq_true_eq, decide_eq_true_eq, perm.nodup_iff]

theorem sortTexts_eq_iff {texts others : List String} : sortTexts texts = sortTexts others ↔ texts.Perm others :=
  insertionSort_eq_iff_perm beforeByUnits_preorder beforeByUnits_antisymm

theorem perm_sortTexts (texts : List String) : (sortTexts texts).Perm texts := List.perm_insertionSort _ _

/-- **Exact members are the same texts, none of them twice.** -/
theorem exactMembers_iff {actual expected : List String} :
    exactMembers actual expected = true ↔ actual.Nodup ∧ actual.Perm expected := by
  rw [exactMembers, unique, Bool.and_eq_true, Bool.and_eq_true, decide_eq_true_eq, decide_eq_true_eq,
    decide_eq_true_eq, sortTexts_eq_iff]
  exact ⟨fun ⟨⟨distinct, _⟩, perm⟩ => ⟨distinct, perm⟩, fun ⟨distinct, perm⟩ => ⟨⟨distinct, perm.length_eq⟩, perm⟩⟩

theorem exactMembers_perm {actual other expected members : List String} (perm : actual.Perm other)
    (also : expected.Perm members) : exactMembers actual expected = exactMembers other members := by
  rw [Bool.eq_iff_iff, exactMembers_iff, exactMembers_iff, perm.nodup_iff]
  exact and_congr_right fun _ => ⟨fun same => perm.symm.trans (same.trans also),
    fun same => perm.trans (same.trans also.symm)⟩

/-! ### The matrix of outcomes -/

def hasAcceptedResolution (rows : List AuthoritativeReconciliationRow) (state : OutcomeState) : Bool :=
  one rows fun row => row.accepted && row.terminalState = state

/-- The rows of a request. -/
structure RequestRows where
  executions : List AuthoritativeExecutionRow
  decisions : List AuthoritativeDecisionRow
  tokens : List AuthoritativeDispatchTokenRow
  queues : List AuthoritativeShadowQueueRow
  evidence : List ShadowEvidenceRow
  reconciliation : List AuthoritativeReconciliationRow

namespace RequestRows

variable (rows : RequestRows) (attempt : AuthoritativeAttemptRow)

/-- One decision with the outcome. -/
def decided (outcome : DecisionOutcome) : Bool := one rows.decisions fun decision => decision.outcome = outcome

/-- One execution with the status. -/
def executed (status : ExecutionStatus) : Bool := one rows.executions fun execution => execution.status = status

/-- One dispatch token, and the primitive was entered. -/
def entered : Bool := one rows.tokens fun token => token.primitiveEntered

/-- The rows of a usable outcome. -/
def behavioralValid (reservation : ℕ) : Bool :=
  (one rows.executions fun execution =>
    execution.status = .completed && execution.actualCostMicros = attempt.actualCostMicros &&
      execution.shadowOrderState = some .queued &&
      execution.cohortOrdinal.any fun ordinal => isSafeInteger ordinal && 1 ≤ ordinal) &&
  rows.decided .allow && rows.entered &&
  ((exactNonnegativeMicros attempt.actualCostMicros).any fun actual => actual ≤ reservation) &&
  (one rows.queues fun queue => queue.state = .completed && 1 ≤ queue.attempts && queue.attempts ≤ 3) &&
  rows.evidence.length = 1 &&
  if attempt.state = .completedVerified then rows.reconciliation.length = 0
  else hasAcceptedResolution rows.reconciliation attempt.state

/-- The rows of an attempt that was not dispatched. -/
def notDispatchedValid : Bool :=
  let beforeAdmission := rows.executions.length = 0 && rows.decisions.length = 0 && rows.tokens.length = 0
  let denied := rows.executed .denied && rows.decided .deny && rows.tokens.length = 0
  let failedBeforeToken := rows.executed .failed && rows.decided .allow && rows.tokens.length = 0
  let provenBeforePrimitive := rows.executed .failed && rows.decided .allow &&
    one rows.tokens fun token => token.preDispatchProof && !token.primitiveEntered
  (beforeAdmission || denied || failedBeforeToken || provenBeforePrimitive) &&
    exactNonnegativeMicros attempt.actualCostMicros = some 0 && rows.reconciliation.length = 0

/-- The rows of an attempt without an outcome. -/
def unresolvedValid : Bool :=
  rows.executed .reconciliationHold && rows.decided .allow && rows.entered &&
    one rows.reconciliation fun row => row.terminalState = attempt.state && !row.accepted

/-- The rows of a rejected or reconciled attempt without a response. -/
def failedValid : Bool :=
  rows.executed .failed && rows.decided .allow && rows.entered &&
    hasAcceptedResolution rows.reconciliation attempt.state &&
    if attempt.state = .terminalRejectedNotBilled || attempt.state = .reconciledNotBilled then
      exactNonnegativeMicros attempt.actualCostMicros = some 0
    else (exactNonnegativeMicros attempt.actualCostMicros).isSome

/-- The body of the loop over the attempts. -/
def attemptValid : Bool :=
  match exactNonnegativeMicros (some attempt.reservedCostMicros) with
  | none => false
  | some reservation =>
    if attempt.state.isUsable then rows.behavioralValid attempt reservation
    else rows.queues.length = 0 && rows.evidence.length = 0 &&
      match attempt.state with
      | .notDispatched => rows.notDispatchedValid attempt
      | .unresolvedProviderOutcome => rows.unresolvedValid attempt
      | _ => rows.failedValid attempt

end RequestRows

namespace AuthoritativeEvidenceInventory

variable (input : AuthoritativeEvidenceInventory)

def rowsOf (requestId : String) : RequestRows where
  executions := rowsFor input.executions requestId
  decisions := rowsFor input.decisions requestId
  tokens := rowsFor input.dispatchTokens requestId
  queues := rowsFor input.shadowQueue requestId
  evidence := rowsFor input.shadowEvidence requestId
  reconciliation := rowsFor input.reconciliation requestId

/-- All rows are of planned requests. -/
def planned {ρ : Type} [RequestRow ρ] (rows : List ρ) : Bool :=
  rows.all fun row => input.requestIds.contains (RequestRow.requestId row)

def matrixValid : Bool :=
  (input.attempts.all fun attempt => (input.rowsOf attempt.requestId).attemptValid attempt) &&
    input.planned input.executions && input.planned input.decisions && input.planned input.dispatchTokens &&
    input.planned input.shadowQueue && input.planned input.shadowEvidence && input.planned input.reconciliation

/-! ### The checks of the report -/

def attemptsValid : Bool :=
  input.attempts.length = 100 && unique (input.attempts.map (·.requestId)) &&
    exactMembers (input.attempts.map (·.requestId)) input.requestIds &&
    input.attempts.all fun row => OutcomeState.all.contains row.state

def replayInventoryValid : Bool :=
  input.replayTargetRequestIds.length = 20 && unique input.replayTargetRequestIds &&
    (input.replayTargetRequestIds.all input.requestIds.contains) &&
    (input.replayTargetRequestIds.all fun id =>
      input.attempts.any fun row => row.requestId = id && row.state.isUsable) &&
    input.replayAudits.length = 20 && unique (input.replayAudits.map (·.requestId)) &&
    exactMembers (input.replayAudits.map (·.requestId)) input.replayTargetRequestIds &&
    numbered (·.replayNo) input.replayAudits (fun _ => true) &&
    input.replayAudits.all fun row =>
      isSha256Text row.originalResponseCommitment && row.originalResponseCommitment = row.replayResponseCommitment

end AuthoritativeEvidenceInventory

/-- `reliabilityArtifactNamespace(runId)`: the paths of a run's artifacts. -/
structure ReliabilityArtifactNamespace where
  root : String
  evidenceType : String
  protocolVersion : Reliability.ProtocolVersion
  protocolArtifact : String
  beaconRound : ℕ

def reliabilityArtifactNamespace (runId : String) : Except String ReliabilityArtifactNamespace :=
  (Reliability.protocolVersionForRunId runId).map fun version =>
    { root := version.artifactRoot
      evidenceType := version.evidenceType
      protocolVersion := version
      protocolArtifact :=
        match version with
        | .v2 => "held-out-reliability-v2.json"
        | .v3 => "held-out-reliability-v3.json"
        | .v4 => "held-out-reliability-v4.json"
      beaconRound :=
        match version with
        | .v2 => 6315000
        | .v3 => 6338040
        | .v4 => 6355320 }

section Paths

variable (space : ReliabilityArtifactNamespace) (runId : String)

def claimPaths : List String :=
  lanes.map fun lane => "evidence/.run-claims/" ++ space.evidenceType ++ "/" ++ runId ++ "/" ++ lane ++ ".claim"

def manifestPaths : List String :=
  lanes.flatMap fun lane => (List.range 5).map fun index =>
    space.root ++ "/manifests/" ++ runId ++ "/" ++ lane ++ "-" ++ toString (index + 1) ++ ".json"

def authorizationPath (kind : AuthorizationKind) : String :=
  space.root ++ "/authorizations/" ++ kind.toText ++ "/" ++ runId ++ ".json"

def receiptPath (kind : AuthorizationKind) : String :=
  space.root ++ "/authorization-receipts/" ++ kind.toText ++ "/" ++ runId ++ ".json"

def expectedReliabilityArtifactPaths (planFingerprint : String) (incidentPaths : List String) : List String :=
  sortTexts ([space.root ++ "/protocols/" ++ space.protocolArtifact,
      space.root ++ "/beacons/drand-" ++ toString space.beaconRound ++ ".json",
      space.root ++ "/plans/" ++ planFingerprint ++ ".json",
      authorizationPath space runId .operator, authorizationPath space runId .reconciliation,
      receiptPath space runId .operator, receiptPath space runId .reconciliation] ++
    claimPaths space runId ++ manifestPaths space runId ++
    [space.root ++ "/replay-preliminary/" ++ runId ++ ".json"] ++ incidentPaths)

end Paths

def hardFinalizationDeadlineForRunId (space : ReliabilityArtifactNamespace) : String :=
  match space.protocolVersion with
  | .v4 => "2026-08-11T09:30:00.000Z"
  | .v3 => "2026-08-05T09:30:00.000Z"
  | .v2 => "2026-07-28T09:30:00.000Z"

/-- What the report asks of a settlement, but for the number of its rows. -/
def SettlementSummary.exceptRows (settlement : SettlementSummary) : Bool :=
  settlement.passed &&
    (settlement.acceptedOffsetSeconds.any fun offset =>
      0 ≤ offset && offset ≤ 120 && offset % 5 = 0 && settlement.journalCardinality = offset / 5 + 1) &&
    isSha256Text settlement.finalSnapshotDigest

/-- `/^[a-z0-9_]+$/`. -/
def isEventType (text : String) : Bool :=
  text ≠ "" && text.toList.all fun character =>
    character.isDigit || ('a' ≤ character && character ≤ 'z') || character = '_'

namespace AuthoritativeEvidenceInventory

variable (input : AuthoritativeEvidenceInventory)

section Checks

variable (space : ReliabilityArtifactNamespace)

def authorizationsValid : Bool :=
  exactMembers (input.authorizationReceipts.map fun row => row.kind.toText ++ ":" ++ row.status ++ ":" ++ row.path)
      ["operator:consumed:" ++ receiptPath space input.runId .operator,
        "reconciliation:validated:" ++ receiptPath space input.runId .reconciliation] &&
    exactMembers (input.signedAuthorizations.map fun row => row.kind.toText ++ ":" ++ row.path)
      ["operator:" ++ authorizationPath space input.runId .operator,
        "reconciliation:" ++ authorizationPath space input.runId .reconciliation]

def claimsValid : Bool :=
  input.claims.length = 4 && unique (input.claims.map (·.lane)) &&
    (input.claims.all fun row => row.terminal && lanes.contains row.lane) &&
    exactMembers (input.claims.map (·.path)) (claimPaths space input.runId)

def manifestsValid : Bool :=
  input.manifests.length = 20 && (input.manifests.all fun row => row.terminal && isSha256Text row.digest) &&
    exactMembers (input.manifests.map (·.path)) (manifestPaths space input.runId)

def settlementValid : Bool := input.settlement.exceptRows && 100 ≤ input.settlement.finalRowCardinality

/-- What is known to be billed. -/
def authoritativeKnown : ℕ :=
  (input.attempts.map fun row =>
    if row.state = .unresolvedProviderOutcome then 0
    else (exactNonnegativeMicros row.actualCostMicros).getD 0).sum

/-- What is reserved for attempts without an outcome. -/
def authoritativeUnresolved : ℕ :=
  (input.attempts.map fun row =>
    if row.state = .unresolvedProviderOutcome then (exactNonnegativeMicros (some row.reservedCostMicros)).getD 0
    else 0).sum

def knownCostValid : Bool :=
  (exactNonnegativeMicros (some input.costs.knownCostMicros)).any fun known =>
    exactNonnegativeMicros (some input.costs.knownCostCapMicros) = some 3000000 &&
      known = input.authoritativeKnown && known ≤ 3000000

def unresolvedExposureValid : Bool :=
  (exactNonnegativeMicros (some input.costs.unresolvedExposureMicros)).any fun unresolved =>
    exactNonnegativeMicros (some input.costs.unresolvedExposureCapMicros) = some 320000 &&
      unresolved = input.authoritativeUnresolved && unresolved ≤ 320000 && unresolved = 0

def hardFinalizationValid [Reliability.Kernel.DateParse] : Bool :=
  input.hardFinalization.allTerminal && input.hardFinalization.deadline = hardFinalizationDeadlineForRunId space &&
    (Reliability.Kernel.DateParse.parse input.hardFinalization.finalizedAt).any fun finalizedAt =>
      (Reliability.Kernel.DateParse.parse input.hardFinalization.deadline).any fun deadline => finalizedAt ≤ deadline

def incidentsValid : Bool :=
  unique (input.incidents.map (·.path)) &&
    numbered (·.sequence) input.incidents fun row => isEventType row.eventType &&
      row.path = space.root ++ "/incidents/" ++ input.runId ++ "/" ++ toString row.sequence ++ "-" ++
        row.eventType ++ ".json"

def artifactPathsValid : Bool :=
  exactMembers input.artifactPaths (expectedReliabilityArtifactPaths space input.runId input.planFingerprint
    (input.incidents.map (·.path)))

end Checks

/-- How many attempts have each outcome. -/
def outcomeCounts (state : OutcomeState) : ℕ := (input.attempts.filter (·.state = state)).length

def usable : ℕ := input.outcomeCounts .completedVerified + input.outcomeCounts .reconciledBilledWithResponse

def nonusable : ℕ :=
  input.outcomeCounts .terminalRejectedNotBilled + input.outcomeCounts .reconciledNotBilled +
    input.outcomeCounts .reconciledBilledNoResponse

/-- The reasons of the report with what each of them finds fault with, in their order. -/
def checks [Reliability.Kernel.DateParse] (space : ReliabilityArtifactNamespace) : List (Bool × String) :=
  [(input.requestIds.length = 100 && unique input.requestIds && input.attemptsValid, "ATTEMPT_INVENTORY_INVALID"),
    (input.attemptsValid && input.attempts.all (·.gateClassificationCount = 1), "CLASSIFICATION_CARDINALITY_INVALID"),
    (input.attemptsValid && input.matrixValid, "OUTCOME_MATRIX_INVALID"),
    (input.replayInventoryValid, "REPLAY_AUDIT_INVENTORY_INVALID"),
    (input.replayAudits.all (·.writeSet.length = 0), "REPLAY_WRITE_SET_NOT_EMPTY"),
    (input.authorizationsValid space, "AUTHORIZATION_RECEIPTS_INVALID"),
    (input.claimsValid space, "CLAIM_INVENTORY_INVALID"),
    (input.manifestsValid space, "MANIFEST_INVENTORY_INVALID"),
    (input.settlementValid, "SETTLEMENT_INVALID"),
    (input.knownCostValid, "KNOWN_COST_CAP_EXCEEDED"),
    (input.unresolvedExposureValid, "UNRESOLVED_EXPOSURE_INVALID"),
    (input.hardFinalizationValid space, "HARD_FINALIZATION_INVALID"),
    (input.incidentsValid space, "INCIDENT_INVENTORY_INVALID"),
    (input.artifactPathsValid space, "ARTIFACT_PATH_INVENTORY_INVALID"),
    (99 ≤ input.usable && input.outcomeCounts .notDispatched = 0, "USABLE_OUTCOMES_INVALID"),
    (input.outcomeCounts .unresolvedProviderOutcome = 0, "UNRESOLVED_OUTCOME"),
    (input.nonusable ≤ 1, "NONUSABLE_ALLOWANCE_EXCEEDED")]

/-- The reasons of the checks that fail. -/
def reasons [Reliability.Kernel.DateParse] (space : ReliabilityArtifactNamespace) : List String :=
  ((input.checks space).filter fun check => !check.1).map (·.2)

end AuthoritativeEvidenceInventory

/-! ### The report -/

structure EvidenceCounts where
  planned : ℕ
  classified : ℤ
  usable : ℕ
  unresolved : ℕ
  replayAudits : ℕ
  claims : ℕ
  manifests : ℕ
  incidents : ℕ

structure AuthoritativeEvidenceReport where
  schemaVersion : ℕ
  runId : String
  passed : Bool
  reasons : List String
  counts : EvidenceCounts
  outcomeCounts : OutcomeState → ℕ
  inventoryDigest : String

def EvidenceCounts.toJson (counts : EvidenceCounts) : Json :=
  .object [("planned", .ofInt counts.planned), ("classified", .ofInt counts.classified),
    ("usable", .ofInt counts.usable), ("unresolved", .ofInt counts.unresolved),
    ("replayAudits", .ofInt counts.replayAudits), ("claims", .ofInt counts.claims),
    ("manifests", .ofInt counts.manifests), ("incidents", .ofInt counts.incidents)]

def SettlementSummary.toJson (settlement : SettlementSummary) : Json :=
  .object [("passed", .bool settlement.passed),
    ("acceptedOffsetSeconds", settlement.acceptedOffsetSeconds.elim .null .ofInt),
    ("journalCardinality", .ofInt settlement.journalCardinality),
    ("finalSnapshotDigest", .string settlement.finalSnapshotDigest),
    ("finalRowCardinality", .ofInt settlement.finalRowCardinality)]

namespace AuthoritativeEvidenceInventory

variable (input : AuthoritativeEvidenceInventory)

def counts : EvidenceCounts where
  planned := input.requestIds.length
  classified := (input.attempts.map (·.gateClassificationCount)).sum
  usable := input.usable
  unresolved := input.outcomeCounts .unresolvedProviderOutcome
  replayAudits := input.replayAudits.length
  claims := input.claims.length
  manifests := input.manifests.length
  incidents := input.incidents.length

/-- What the digest of the report is of. -/
def digestJson (reasons : List String) : Json :=
  .object [("runId", .string input.runId), ("planFingerprint", .string input.planFingerprint),
    ("counts", input.counts.toJson),
    ("outcomeCounts", .object (OutcomeState.all.map fun state => (state.toText, .ofInt (input.outcomeCounts state)))),
    ("reasons", .array (reasons.map .string)), ("settlement", input.settlement.toJson),
    ("artifactPaths", .array ((sortTexts input.artifactPaths).map .string))]

end AuthoritativeEvidenceInventory

def reduceAuthoritativeReliabilityEvidence [NodeCrypto] [Reliability.Kernel.DateParse]
    (input : AuthoritativeEvidenceInventory) : Except String AuthoritativeEvidenceReport := do
  let space ← reliabilityArtifactNamespace input.runId
  let reasons := input.reasons space
  return {
    schemaVersion := 1
    runId := input.runId
    passed := reasons.length = 0
    reasons
    counts := input.counts
    outcomeCounts := input.outcomeCounts
    inventoryDigest := "sha256:" ++ NodeCrypto.sha256 (canonical (input.digestJson reasons)) }

end FuseControlPlane.Evidence
