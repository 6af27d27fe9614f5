/-
The transactions on attempts and dispatch tokens (`registerSealedCalls` .. `failProtocol`,
`createBurstBarrier` .. `releaseBurstBarrier`, `recoverPreEntryDispatch` and `hardFinalizeReliabilityRun`
of `reliability/protocolStore.ts`).

A transaction locks the row of its run first, so it is a function from the rows of the run to its result
and the rows after it. It reads the clock once here.

* `registerSealedCalls`, `recordAttempt`, `authorizeReliabilityDispatch`,
  `markReliabilityDispatchPrimitiveEntered`: the way of an attempt to the provider.
* `completeReliabilityAttempt`, `classifyReliabilityNotDispatched`, `recoverPreEntryDispatch`,
  `hardFinalizeReliabilityRun`: its classification.
* `holdReliabilityAttempt`: its outcome is unknown.
-/

import FuseControlPlane.Reliability.ProtocolFailure

set_option linter.unusedSectionVars false

namespace FuseControlPlane.Reliability

open Foundation Foundation.JavaScript Domain Evidence

/-! ### Inputs -/

structure RecordAttemptInput where
  requestId : String
  laneId : String
  block : ℤ
  requestCommitment : String
  reservedCostMicros : ℕ

structure AuthorizeDispatchInput where
  requestId : String
  laneId : String
  block : ℤ
  ownerId : String

/-- `responseCommitment` is the commitment of the response projection, `generationId` the id of the
response. -/
structure CompleteAttemptInput where
  laneId : String
  requestId : String
  responseCommitment : String
  generationId : String
  actualCostMicros : ℕ

/-- `generationId` is the given one, else that of the response. -/
structure HoldAttemptInput where
  laneId : String
  requestId : String
  generationId : Option String

structure ClassifyInput where
  laneId : String
  requestId : String
  reasonCode : String

/-! ### Caps -/

inductive ReliabilityDispatchCapDisposition
  | allow | knownCostCapExceeded | unresolvedExposureCapExceeded
  deriving DecidableEq

def knownCostCapMicros : ℕ := 3000000

def unresolvedExposureCapMicros : ℕ := 320000

def reliabilityDispatchCapDisposition (knownCostMicros unresolvedExposureMicros : ℕ) :
    ReliabilityDispatchCapDisposition :=
  if knownCostMicros > knownCostCapMicros then .knownCostCapExceeded
  else if unresolvedExposureMicros > unresolvedExposureCapMicros then .unresolvedExposureCapExceeded
  else .allow

/-- The reason a run fails with when a cap is exceeded. -/
def capReason : ReliabilityDispatchCapDisposition → String
  | .knownCostCapExceeded => "KNOWN_COST_CAP_EXCEEDED"
  | _ => "UNRESOLVED_EXPOSURE_CAP_EXCEEDED"

inductive HardFinalizationPlan
  | wait (wakeAtMs : ℤ)
  | alreadyTerminal
  | finalizeFailure (reportPublicationDeadlineMs : ℤ)
  deriving DecidableEq

/-- `planHardFinalization`; a run is terminal when none of its attempts is open. -/
def planHardFinalization (databaseNowMs deadlineMs : ℤ) (terminal : Bool) : HardFinalizationPlan :=
  if terminal then .alreadyTerminal
  else if databaseNowMs < deadlineMs then .wait deadlineMs
  else .finalizeFailure (databaseNowMs + 60000)

namespace AttemptRow

/-- Nothing is known of the attempt yet: its cost is still reserved. -/
def isUnresolved (attempt : AttemptRow) : Bool :=
  attempt.terminalAt.isNone || attempt.state = .unresolvedProviderOutcome

/-- The state says that the attempt has a usable response. -/
def isUsable (attempt : AttemptRow) : Bool :=
  attempt.state = .completedVerified || attempt.state = .reconciledBilledWithResponse

def complete (input : CompleteAttemptInput) (now : ℤ) (attempt : AttemptRow) : AttemptRow :=
  { attempt with
    state := .completedVerified
    responseCommitment := some input.responseCommitment
    providerGenerationId := some input.generationId
    actualCostMicros := some input.actualCostMicros
    gateClassifiedAt := some now
    terminalAt := some now }

/-- The attempt's outcome is unknown. -/
def pend (generationId : Option String) (now : ℤ) (attempt : AttemptRow) : AttemptRow :=
  { attempt with
    state := .reconciliationPending
    ambiguityEnteredAt := attempt.ambiguityEnteredAt <|> some now
    providerGenerationId := attempt.providerGenerationId <|> generationId }

/-- The attempt as hard finalization leaves it. -/
def finalize (unresolved : Bool) (now : ℤ) (attempt : AttemptRow) : AttemptRow :=
  { attempt with
    state := if unresolved then .unresolvedProviderOutcome else .notDispatched
    actualCostMicros := if unresolved then attempt.actualCostMicros else some 0
    gateClassifiedAt := some now
    terminalAt := some now }

end AttemptRow

/-- A planned attempt. -/
def SealedCallRow.plannedAttempt (sealed : SealedCallRow) : AttemptRow where
  requestId := sealed.requestId
  laneId := sealed.laneId
  block := sealed.block
  state := .planned
  requestCommitment := sealed.requestCommitment
  responseCommitment := none
  providerGenerationId := none
  reservedCostMicros := sealed.reservationCostMicros
  actualCostMicros := none
  ambiguityEnteredAt := none
  admissionStartedAt := none
  gateClassifiedAt := none
  terminalAt := none

namespace ReliabilityRun

/-! ### Lookups -/

section Lookups

variable (run : ReliabilityRun)

/-- The run's id asks for version 3 or 4. -/
def isStrictRun : Bool := startsWith run.runId "hov3-" || startsWith run.runId "hov4-"

/-- The token of a request is entered. -/
def isEntered (requestId : String) : Bool :=
  (run.dispatchTokens.find? requestId).any fun token => token.primitiveEnteredAt.isSome

/-- A request has a token that is not canceled. -/
def isAuthorized (requestId : String) : Bool :=
  (run.dispatchTokens.find? requestId).any fun token => token.canceledAt.isNone

/-- What the attempts of a run are known to have cost. -/
def knownCostMicros : ℕ :=
  run.attempts.total fun attempt =>
    if attempt.terminalAt.isSome && attempt.state ≠ .unresolvedProviderOutcome then
      attempt.actualCostMicros.getD 0
    else 0

/-- What is reserved for the attempts with a token, and for one more. -/
def unresolvedExposureMicros (requestId : String) : ℕ :=
  run.attempts.total fun attempt =>
    if (attempt.requestId = requestId || run.isAuthorized attempt.requestId) && attempt.isUnresolved then
      attempt.reservedCostMicros
    else 0

def capDisposition (requestId : String) : ReliabilityDispatchCapDisposition :=
  reliabilityDispatchCapDisposition run.knownCostMicros (run.unresolvedExposureMicros requestId)

end Lookups

/-! ### Sealed calls and barriers -/

/-- The slot of a sealed call is taken by another one. -/
def isSlotTaken (run : ReliabilityRun) (sealed : SealedCallRow) : Bool :=
  run.sealedCalls.rows.any fun other =>
    other.block = sealed.block && other.laneId = sealed.laneId && other.callOrdinal = sealed.callOrdinal

/-- `ON CONFLICT(run_id,request_id) DO NOTHING`; the lane must be there and the slot free. -/
def insertSealedCall (sealed : SealedCallRow) (run : ReliabilityRun) : Except String ReliabilityRun :=
  if (run.sealedCalls.find? sealed.requestId).isSome then return run
  else do
    require (!run.isSlotTaken sealed) "unique_violation"
    require (run.lanes.find? sealed.laneId).isSome "foreign_key_violation"
    return { run with sealedCalls := run.sealedCalls.put sealed }

/-- A planned attempt of a sealed call, unless it has one. -/
def planAttempt (run : ReliabilityRun) (sealed : SealedCallRow) : ReliabilityRun :=
  if (run.attempts.find? sealed.requestId).isSome then run
  else ({ run with attempts := run.attempts.put sealed.plannedAttempt }).appendEvent
    (some sealed.requestId) .planned

def registerSealedCall (sealed : SealedCallRow) (run : ReliabilityRun) :
    Except String ReliabilityRun := do
  require (sealed.claimFingerprint = run.control.planFingerprint) "PROTOCOL_PLAN_CONFLICT"
  let stored ← run.insertSealedCall sealed
  require (stored.sealedCalls.find? sealed.requestId = some sealed) "SEALED_CALL_CONFLICT"
  let planned := stored.planAttempt sealed
  require ((planned.attempts.find? sealed.requestId).any fun attempt =>
      attempt.laneId = sealed.laneId && attempt.block = sealed.block &&
        attempt.requestCommitment = sealed.requestCommitment &&
        attempt.reservedCostMicros = sealed.reservationCostMicros) "PROTOCOL_ATTEMPT_CONFLICT"
  return planned

section Operations

variable [NodeCrypto] [Collation] [ProtocolProfiles]

/-- The commitments of the calls are given with them. -/
def registerSealedCalls (calls : List SealedCallRow) (run : ReliabilityRun) :
    Except String ReliabilityRun := do
  require (calls ≠ [] && decide (calls.map SealedCallRow.requestId).Nodup)
    "SEALED_CALL_REGISTRY_INVALID"
  let control ← run.lockControlProfile
  require (control.state = .active) "PROTOCOL_CONTROL_FAILED"
  calls.foldlM (fun run sealed => run.registerSealedCall sealed) run

def createBurstBarrier (laneId : String) (block : ℤ) (requestIds : List String)
    (run : ReliabilityRun) : Except String ReliabilityRun := do
  let _ ← run.lockControlLane laneId
  require (run.burstBarriers.find? (laneId, block)).isNone "unique_violation"
  return { run with
    burstBarriers := run.burstBarriers.put ⟨laneId, block, .preparing, requestIds, none, none⟩ }

/-- How many of the requests have a token. -/
def countTokens (run : ReliabilityRun) (requestIds : List String) : ℕ :=
  (run.dispatchTokens.rows.filter fun token => requestIds.contains token.requestId).length

def releaseBurstBarrier (laneId : String) (block now : ℤ) (run : ReliabilityRun) :
    Except String ReliabilityRun := do
  let state ← run.lockControlLane laneId
  require (state = .active) "PROTOCOL_CONTROL_FAILED"
  match run.burstBarriers.find? (laneId, block) with
  | none => .error "BURST_BARRIER_NOT_FOUND"
  | some barrier => do
    require (run.countTokens barrier.plannedRequestIds = barrier.plannedRequestIds.length)
      "BURST_BARRIER_NOT_READY"
    return ({ run with
      burstBarriers :=
        run.burstBarriers.put { barrier with state := .released, releasedAt := some now } }).appendEvents
      (barrier.plannedRequestIds.map fun requestId => (some requestId, .barrierReleased))

/-- One look of `awaitReliabilityDispatchRelease` at a burst: whether it is released. -/
def pollDispatchRelease (requestId tokenId : String) (block : ℤ) (run : ReliabilityRun) :
    Except String Bool :=
  match (run.dispatchTokens.find? requestId).filter (·.tokenId = tokenId) with
  | none => .error "BURST_BARRIER_CANCELED"
  | some token =>
    match run.burstBarriers.find? (token.laneId, block) with
    | none => .error "BURST_BARRIER_CANCELED"
    | some barrier => do
      require (token.canceledAt.isNone && barrier.state ≠ .canceled) "BURST_BARRIER_CANCELED"
      return barrier.state = .released

/-! ### Dispatch -/

/-- The attempt that an admission starts. -/
def isAdmissible (run : ReliabilityRun) (input : RecordAttemptInput) (attempt : AttemptRow) : Bool :=
  attempt.requestId = input.requestId && attempt.laneId = input.laneId &&
    attempt.block = input.block &&
    ((run.sealedCalls.find? input.requestId).any fun sealed =>
      sealed.reservationCostMicros = input.reservedCostMicros) &&
    (attempt.state = .planned || attempt.state = .admissionStarted) &&
    (!run.isStrictRun || attempt.requestCommitment = input.requestCommitment)

/-- The attempt, its admission started. -/
def admitAttempt (run : ReliabilityRun) (input : RecordAttemptInput) (now : ℤ) (attempt : AttemptRow) :
    AttemptRow :=
  { attempt with
    state := .admissionStarted
    requestCommitment :=
      if run.isStrictRun then attempt.requestCommitment else input.requestCommitment
    reservedCostMicros := input.reservedCostMicros
    admissionStartedAt := attempt.admissionStartedAt <|> some now }

def recordAttempt (input : RecordAttemptInput) (now : ℤ) (run : ReliabilityRun) :
    Except String ReliabilityRun := do
  let state ← run.lockControlLane input.laneId
  require (state = .active) "PROTOCOL_CONTROL_FAILED"
  require (run.attempts.rows.any (run.isAdmissible input)) "SEALED_CALL_REQUIRED"
  let admitted := run.updateAttempts (run.isAdmissible input) (run.admitAttempt input now) fun _ => rfl
  if run.events.any fun event =>
      event.requestId = some input.requestId && event.eventType = .admissionStarted then
    return admitted
  else return admitted.appendEvent (some input.requestId) .admissionStarted

/-- What a dispatch authorization comes to; a cap that is exceeded fails the run, and is thrown once the
transaction has committed. -/
inductive DispatchAuthorization
  | token (tokenId : String)
  | capFailure (disposition : ReliabilityDispatchCapDisposition)
  deriving DecidableEq

/-- The attempt that a token is for. -/
def isDispatchable (run : ReliabilityRun) (input : AuthorizeDispatchInput) (attempt : AttemptRow) :
    Bool :=
  attempt.requestId = input.requestId && attempt.laneId = input.laneId &&
    attempt.block = input.block && attempt.state = .admissionStarted &&
    (run.sealedCalls.find? input.requestId).any fun sealed => sealed.agentId = input.ownerId

/-- A token of a request, and its attempt authorized. -/
def insertToken (run : ReliabilityRun) (input : AuthorizeDispatchInput) (drawn : String) :
    ReliabilityRun :=
  (({ run with
      control := { run.control with dispatchTokenCount := run.control.dispatchTokenCount + 1 }
      dispatchTokens := run.dispatchTokens.put
        ⟨input.requestId, drawn, input.laneId, input.ownerId, none, none⟩ } :
    ReliabilityRun).updateAttempts (·.requestId = input.requestId)
      ({ · with state := .dispatchAuthorized }) fun _ => rfl).appendEvent
        (some input.requestId) .dispatchAuthorized

/-- `drawn` is the random id of a new token. -/
def authorizeReliabilityDispatch (input : AuthorizeDispatchInput) (drawn : String) (now : ℤ)
    (run : ReliabilityRun) : Except String (DispatchAuthorization × ReliabilityRun) := do
  let state ← run.lockControlLane input.laneId
  require (state = .active) "PROTOCOL_CONTROL_FAILED"
  match run.dispatchTokens.find? input.requestId with
  | some token => return (.token token.tokenId, run)
  | none =>
    let cap := run.capDisposition input.requestId
    if cap ≠ .allow then do
      let failed ← run.failProtocolLocked (capReason cap) now
      return (.capFailure cap, failed)
    else do
      require (run.control.dispatchTokenCount < 100) "DISPATCH_TOKEN_FENCE_EXCEEDED"
      require (run.attempts.rows.any (run.isDispatchable input)) "PROTOCOL_ATTEMPT_REQUIRED"
      require (run.dispatchTokens.rows.all (·.tokenId ≠ drawn)) "unique_violation"
      return (.token drawn, run.insertToken input drawn)

/-- A token that may be entered. -/
def isEnterable (run : ReliabilityRun) (token : DispatchTokenRow) : Bool :=
  token.canceledAt.isNone && token.primitiveEnteredAt.isNone &&
    (token.laneId ≠ burstLane || run.isTokenReleased token)

/-- The token of a request entered, and its attempt with it, whatever state that is in. -/
def enterPrimitive (run : ReliabilityRun) (requestId : String) (now : ℤ) : ReliabilityRun :=
  ((run.updateTokens (·.requestId = requestId) ({ · with primitiveEnteredAt := some now })
    fun _ => rfl).updateAttempts (·.requestId = requestId) ({ · with state := .primitiveEntered })
      fun _ => rfl).appendEvent (some requestId) .dispatchPrimitiveEntered

/-- The state of the run is not looked at. -/
def markReliabilityDispatchPrimitiveEntered (requestId tokenId : String) (now : ℤ)
    (run : ReliabilityRun) : Except String ReliabilityRun :=
  match (run.dispatchTokens.find? requestId).filter (·.tokenId = tokenId) with
  | none => .error "DISPATCH_TOKEN_NOT_OWNED"
  | some token => do
    let _ ← run.lockControlLane token.laneId
    if run.isEnterable token then return run.enterPrimitive requestId now
    else do
      require (token.primitiveEnteredAt.isSome && token.canceledAt.isNone)
        (if token.laneId = burstLane then "BURST_DISPATCH_NOT_RELEASED" else "DISPATCH_TOKEN_NOT_OWNED")
      return run

/-! ### Classification -/

/-- The attempt that a completion classifies. -/
def isCompletable (run : ReliabilityRun) (input : CompleteAttemptInput) (attempt : AttemptRow) : Bool :=
  attempt.requestId = input.requestId && attempt.laneId = input.laneId &&
    run.isEntered attempt.requestId && attempt.gateClassifiedAt.isNone

/-- The attempt has been completed just so. -/
def isCompletedSo (input : CompleteAttemptInput) (attempt : AttemptRow) : Bool :=
  attempt.requestId = input.requestId && attempt.state = .completedVerified &&
    attempt.responseCommitment = some input.responseCommitment &&
    attempt.providerGenerationId = some input.generationId &&
    attempt.actualCostMicros = some input.actualCostMicros

def completeReliabilityAttempt (input : CompleteAttemptInput) (now : ℤ) (run : ReliabilityRun) :
    Except String ReliabilityRun := do
  let state ← run.lockControlLane input.laneId
  require (state = .active || state = .failed) "PROTOCOL_CONTROL_FAILED"
  if run.attempts.rows.any (run.isCompletable input) then do
    let completed := ((run.updateAttempts (run.isCompletable input) (AttemptRow.complete input now)
      fun _ => rfl).countClassified 1 1).appendEvents
        [(some input.requestId, .providerResponsePersisted), (some input.requestId, .gateClassified)]
    let (_, left) ← completed.removeTerminalHeldMemberLocked input.laneId input.requestId state now
    return left
  else do
    require (run.attempts.rows.any (isCompletedSo input)) "RELIABILITY_TERMINAL_CONFLICT"
    return run

/-- The attempt whose outcome becomes unknown. -/
def isPendable (input : HoldAttemptInput) (attempt : AttemptRow) : Bool :=
  attempt.requestId = input.requestId && attempt.laneId = input.laneId &&
    attempt.gateClassifiedAt.isNone && attempt.state ≠ .reconciliationPending

def holdReliabilityAttempt (input : HoldAttemptInput) (drawn : String) (now : ℤ)
    (run : ReliabilityRun) : Except String ReliabilityRun := do
  let state ← run.lockControlLane input.laneId
  require (state = .active) "PROTOCOL_CONTROL_FAILED"
  let pending :=
    if run.attempts.rows.any (isPendable input) then
      ((run.updateAttempts (isPendable input) (AttemptRow.pend input.generationId now)
        fun _ => rfl).countAmbiguity).appendEvent (some input.requestId) .ambiguityEntered
    else run
  let (_, held) ← pending.enterLaneHoldLocked input.laneId input.requestId drawn
  return held

/-- The attempt that is classified as not dispatched. -/
def isNotDispatchable (run : ReliabilityRun) (input : ClassifyInput) (attempt : AttemptRow) : Bool :=
  attempt.requestId = input.requestId && attempt.laneId = input.laneId &&
    attempt.gateClassifiedAt.isNone && !run.isEntered attempt.requestId

/-- The attempts of the condition classified as not dispatched, one of them counted. -/
def classifyOne (run : ReliabilityRun) (chosen : AttemptRow → Bool) (requestId : String) (now : ℤ) :
    ReliabilityRun :=
  ((run.updateAttempts chosen (AttemptRow.classifyNotDispatched now)
    (AttemptRow.requestId_classifyNotDispatched now)).countClassified 1 0).appendEvent
      (some requestId) .gateClassified

def classifyReliabilityNotDispatched (input : ClassifyInput) (now : ℤ) (run : ReliabilityRun) :
    Except String ReliabilityRun := do
  let _ ← run.lockControlLane input.laneId
  require (run.attempts.rows.any (run.isNotDispatchable input)) "RELIABILITY_TERMINAL_CONFLICT"
  let classified := run.classifyOne (run.isNotDispatchable input) input.requestId now
  let (_, left) ← classified.removeTerminalHeldMemberLocked input.laneId input.requestId .active now
  left.failProtocolLocked ("NOT_DISPATCHED:" ++ input.reasonCode) now

inductive PreEntryRecovery
  | alreadyTerminal | notDispatched
  deriving DecidableEq

/-- An attempt that is recovered before its token has been entered. The hold it may be in is left as it
is. -/
def recoverPreEntryDispatch (input : ClassifyInput) (now : ℤ) (run : ReliabilityRun) :
    Except String (PreEntryRecovery × ReliabilityRun) := do
  let _ ← run.lockControlLane input.laneId
  match (run.attempts.find? input.requestId).filter (·.laneId = input.laneId),
      run.dispatchTokens.find? input.requestId with
  | some attempt, some token =>
    if attempt.terminalAt.isSome then return (.alreadyTerminal, run)
    else do
      require token.primitiveEnteredAt.isNone "PRE_ENTRY_RECOVERY_REQUIRES_RECONCILIATION"
      let canceled := run.updateTokens (fun row => row.requestId = input.requestId)
        (DispatchTokenRow.cancel now) fun _ => rfl
      let classified := canceled.classifyOne (·.requestId = input.requestId) input.requestId now
      let failed ← classified.failProtocolLocked input.reasonCode now
      return (.notDispatched, failed)
  | _, _ => .error "PRE_ENTRY_DISPATCH_NOT_FOUND"

/-! ### Hard finalization -/

/-- The attempt counts as dispatched; a token entered without an admission is a conflict. -/
def hardFinalizationTerminalState (run : ReliabilityRun) (attempt : AttemptRow) : Except String Bool := do
  require (!run.isEntered attempt.requestId || attempt.admissionStartedAt.isSome)
    "HARD_FINALIZATION_STATE_CONFLICT"
  return run.isEntered attempt.requestId

/-- The rows after a hard finalization, but for the incident and the reports. The events of the attempts
that were not dispatched come first. -/
def finalizeRows (run : ReliabilityRun) (now : ℤ) : ReliabilityRun :=
  let nonterminal := run.attempts.rows.filter fun attempt => attempt.terminalAt.isNone
  let ordered := (nonterminal.filter fun attempt => !run.isEntered attempt.requestId) ++
    nonterminal.filter fun attempt => run.isEntered attempt.requestId
  let terminalized := (run.updateAttempts (·.terminalAt.isNone)
    (fun attempt => attempt.finalize (run.isEntered attempt.requestId) now)
    fun _ => rfl).countClassified nonterminal.length 0
  ((({ terminalized with
      control :=
        { terminalized.control with
          state := .failed
          failedAt := terminalized.control.failedAt <|> some now } } :
    ReliabilityRun).updateLanes (fun _ => true) .failed none).updateTokens
      (·.primitiveEnteredAt.isNone) (DispatchTokenRow.cancel now) fun _ => rfl).appendEvents
        (ordered.map fun attempt => (some attempt.requestId, .gateClassified))

/-- The failure report of a run is written once. -/
def insertFailureReport (report : FailureReportRow) (run : ReliabilityRun) :
    Except String ReliabilityRun := do
  let inserted := { run with failureReport := run.failureReport <|> some report }
  require (inserted.failureReport = some report) "IMMUTABLE_FAILURE_PUBLICATION_CONFLICT"
  return inserted

def hardFinalizeReliabilityRun (deadlineMs : ℤ) (replayTargetRequestIds : List String) (now : ℤ)
    (run : ReliabilityRun) : Except String (HardFinalizationPlan × ReliabilityRun) := do
  let _ ← run.lockControlProfile
  let nonterminal := run.attempts.rows.filter fun attempt => attempt.terminalAt.isNone
  let plan := planHardFinalization now deadlineMs nonterminal.isEmpty
  match plan with
  | .finalizeFailure reportPublicationDeadlineMs => do
    let _ ← nonterminal.mapM run.hardFinalizationTerminalState
    require (replayTargetRequestIds = [] ||
        (replayTargetRequestIds.length = 20 && decide replayTargetRequestIds.Nodup))
      "REPLAY_CANCELLATION_INVENTORY_INVALID"
    let (sequence, finalized) := (run.finalizeRows now).appendIncident
    let reported ← finalized.insertFailureReport ⟨sequence, reportPublicationDeadlineMs⟩
    let committed ← reported.commitReportIntentLocked
      (failureIntent "HARD_FINALIZATION_DEADLINE" sequence (some reportPublicationDeadlineMs)) now
    return (plan, committed)
  | _ => return (plan, run)

end Operations

end ReliabilityRun

end FuseControlPlane.Reliability
