/-
Execution of inference requests (`inference/inferenceExecution.ts`).

`execute` is a `Program` over `ServiceCall`: what the service awaits (the store, the reliability store,
the provider, its clock). A call that may reject is answered by an `Except`, and its rejection is
thrown where the source awaits it.

* `admissionOf`: the admission request of a call, with its fingerprint.
* `authorizeDispatch`: what the reliability protocol asks for before the provider is called.
* `handleProviderError`, `handleCompletionError`: the two `catch` blocks.

The commitments the reliability store computes from its inputs are not part of this model.
-/

import FuseControlPlane.Core.Pricing
import FuseControlPlane.Foundation.Program
import FuseControlPlane.Persistence.Admission
import FuseControlPlane.Persistence.Settlement

namespace FuseControlPlane.Inference

open Foundation Foundation.JavaScript Domain Identity FuseControlPlane.Core Persistence Program

/-! ### Inputs and configuration -/

/-- A thrown error: its message, and the properties the service looks for. -/
structure JsError where
  message : String
  primitiveEntered : Option Bool
  generationId : Option String
  code : Option String
  deriving DecidableEq

/-- `new Error(message)`. -/
def newError (message : String) : JsError := ⟨message, none, none, none⟩

/-- A server-side reliability context; `issued` says that `issueReliabilityProtocolContext` made
it. -/
structure ReliabilityProtocolContext where
  runId : String
  laneId : String
  block : ℤ
  callOrdinal : ℤ
  requestCommitment : Option String
  issued : Bool
  deriving DecidableEq

structure ControlledInferenceInput where
  requestId : String
  organizationId : String
  credentialId : Option String
  mandateId : String
  agentId : String
  agentCapabilities : List ApiCapability
  branchId : Option String
  workloadClass : Option String
  requestedModel : Option String
  inputTokens : ℤ
  maxOutputTokens : ℤ
  messages : List Message
  reliabilityContext : Option ReliabilityProtocolContext

structure ProviderExecutionBinding where
  providerName : String
  model : String
  price : TokenPrice
  requireProviderCost : Bool
  requireProviderModelMatch : Bool

/-- Which of its optional methods a store has. -/
structure StoreMethods where
  recordReliabilityAttempt : Bool
  authorizeReliabilityDispatch : Bool
  markReliabilityDispatchPrimitiveEntered : Bool
  awaitReliabilityDispatchRelease : Bool
  completeReliabilityAttempt : Bool
  classifyReliabilityNotDispatchedAtomically : Bool
  holdReliabilityAttempt : Bool
  completeReliabilityInference : Bool

/-- A service with a fixed provider, or with one for each organization (`resolveProvider`). -/
structure InferenceExecutionConfig where
  store : StoreMethods
  binding : Option ProviderExecutionBinding

/-! ### Calls -/

/-- The body of a chat completion. -/
structure ReliabilityRequestBody where
  model : String
  maxTokens : ℤ
  workloadClass : Option String
  messages : List Message

/-- The request a reliability attempt is about. -/
structure ReliabilityRequest where
  method : String
  route : String
  organizationId : String
  credentialId : String
  mandateId : String
  branchId : Option String
  workloadClass : Option String
  idempotencyKey : String
  body : ReliabilityRequestBody

structure ReliabilityAdmission where
  context : ReliabilityProtocolContext
  requestId : String
  request : ReliabilityRequest

structure ReliabilityAttempt where
  context : ReliabilityProtocolContext
  requestId : String
  reservedCostMicros : ℤ
  request : ReliabilityRequest

structure ReliabilityHold where
  runId : String
  laneId : String
  requestId : String
  reasonCode : String
  generationId : Option String
  response : Option ProviderResult

structure ReliabilityClassification where
  runId : String
  laneId : String
  requestId : String
  reasonCode : String

structure StableSuccessfulResponseProjection where
  id : String
  object : String
  model : String
  content : String
  promptTokens : ℤ
  completionTokens : ℤ
  totalTokens : ℤ
  decisionId : String
  workloadScope : Option (String × String)
  reservationAtomic : String
  actualCostAtomic : String

structure ReliabilityCompletion where
  runId : String
  laneId : String
  requestId : String
  response : ProviderResult
  responseProjection : StableSuccessfulResponseProjection
  actualCostMicros : ℤ

/-- What is sent to a provider. With a `dispatchToken` the provider awaits
`markReliabilityDispatchPrimitiveEntered` before it enters the HTTP primitive. -/
structure CompletionRequest where
  requestId : String
  childId : String
  model : String
  inputTokens : ℤ
  maxOutputTokens : ℤ
  messages : List Message
  suppressAttributionHeaders : Bool
  dispatchToken : Option String

/-- The reply of a store to an admission. -/
structure Admission where
  result : AdmissionResult
  protocolAdmissionCommitted : Bool

/-- What the service awaits. -/
inductive ServiceCall : Type → Type
  | resolveProvider (organizationId : String) :
      ServiceCall (Except JsError ProviderExecutionBinding)
  | now : ServiceCall (Option ℤ)
  | admitInference (input : AdmitInferenceInput) (reliability : Option ReliabilityAdmission) :
      ServiceCall (Except JsError Admission)
  | recordReliabilityAttempt (attempt : ReliabilityAttempt) : ServiceCall (Except JsError Unit)
  | authorizeReliabilityDispatch (context : ReliabilityProtocolContext) (requestId ownerId : String) :
      ServiceCall (Except JsError String)
  | awaitReliabilityDispatchRelease (context : ReliabilityProtocolContext)
      (requestId tokenId : String) : ServiceCall (Except JsError Unit)
  | complete (request : CompletionRequest) : ServiceCall (Except JsError ProviderResult)
  | holdReliabilityAttempt (hold : ReliabilityHold) : ServiceCall (Except JsError Unit)
  | classifyReliabilityNotDispatchedAtomically (ordinary : FailInferenceInput)
      (protocol : ReliabilityClassification) : ServiceCall (Except JsError Unit)
  | failInference (input : FailInferenceInput) : ServiceCall (Except JsError Unit)
  | holdInference (input : HoldInferenceInput) : ServiceCall (Except JsError Unit)
  | completeReliabilityInference (ordinary : CompleteInferenceInput)
      (protocol : ReliabilityCompletion) : ServiceCall (Except JsError CompletionPersistenceResult)
  | completeInference (input : CompleteInferenceInput) :
      ServiceCall (Except JsError CompletionPersistenceResult)
  | completeReliabilityAttempt (completion : ReliabilityCompletion) :
      ServiceCall (Except JsError Unit)

abbrev Service (α : Type) : Type 1 := Program ServiceCall JsError α

/-- Await a call; its rejection is thrown. -/
def await {α : Type} (call : ServiceCall (Except JsError α)) : Service α := do
  let reply ← perform call
  fromExcept reply

/-- The value, or a thrown `new Error(message)`. -/
def orError {α : Type} (result : Except String α) : Service α := fromExcept (result.mapError newError)

/-- A text that is there and not empty. -/
def truthy (text : Option String) : Option String := text.filter (· ≠ "")

/-! ### Admission -/

section Service

variable [NodeCrypto]

/-- `JSON.stringify` of the messages. -/
def stringifyMessages (messages : List Message) : String :=
  stringifyArray (messages.map fun message =>
    stringifyObject [("role", quote message.role), ("content", quote message.content)])

def requestFingerprint (input : ControlledInferenceInput) (binding : ProviderExecutionBinding) :
    String :=
  NodeCrypto.sha256 (stringifyObject
    [("organizationId", quote input.organizationId),
      ("mandateId", quote input.mandateId),
      ("agentId", quote input.agentId),
      ("branchId", input.branchId.elim "null" quote),
      ("workloadClass", input.workloadClass.elim "null" quote),
      ("provider", quote binding.providerName),
      ("model", quote binding.model),
      ("requestedModel", quote (input.requestedModel.getD binding.model)),
      ("inputTokens", toString input.inputTokens),
      ("maxOutputTokens", toString input.maxOutputTokens),
      ("messages", stringifyMessages input.messages)])

def providerBinding (config : InferenceExecutionConfig) (organizationId : String) :
    Service ProviderExecutionBinding :=
  match config.binding with
  | some binding => return binding
  | none => await (.resolveProvider organizationId)

/-- The request as the reliability protocol sees it. -/
def reliabilityRequest (input : ControlledInferenceInput) (credentialId : String)
    (binding : ProviderExecutionBinding) : ReliabilityRequest where
  method := "POST"
  route := "/v1/chat/completions"
  organizationId := input.organizationId
  credentialId := credentialId
  mandateId := input.mandateId
  branchId := input.branchId
  workloadClass := input.workloadClass
  idempotencyKey := input.requestId
  body :=
    { model := binding.model
      maxTokens := input.maxOutputTokens
      workloadClass := truthy input.workloadClass
      messages := input.messages }

/-- The reliability part of an admission: there is one when the call has a context and a credential. -/
def reliabilityAdmission (input : ControlledInferenceInput) (binding : ProviderExecutionBinding) :
    Option ReliabilityAdmission := do
  let context ← input.reliabilityContext
  let credentialId ← truthy input.credentialId
  return ⟨context, input.requestId, reliabilityRequest input credentialId binding⟩

/-- The admission request of a call. -/
def admissionOf (input : ControlledInferenceInput) (binding : ProviderExecutionBinding)
    (estimatedCostAtomic : ℤ) (decidedAt : Option ℤ) : AdmitInferenceInput where
  requestId := input.requestId
  organizationId := input.organizationId
  mandateId := input.mandateId
  agentId := input.agentId
  agentCapabilities := input.agentCapabilities
  provider := binding.providerName
  model := binding.model
  branchId := input.branchId
  workloadClass := input.workloadClass
  estimatedCostAtomic := estimatedCostAtomic
  inputTokens := input.inputTokens
  maxOutputTokens := input.maxOutputTokens
  requestFingerprint := requestFingerprint input binding
  decidedAt := decidedAt

end Service

/-! ### Dispatch -/

/-- Record the reliability attempt, unless the admission did. -/
def recordAttempt (attempt : ReliabilityAttempt) (protocolAdmissionCommitted : Bool) : Service Unit :=
  if protocolAdmissionCommitted then pure () else await (.recordReliabilityAttempt attempt)

/-- The steps of the reliability protocol before the provider is called; returns the dispatch token.
A call without a context takes none. -/
def authorizeDispatch (config : InferenceExecutionConfig) (input : ControlledInferenceInput)
    (binding : ProviderExecutionBinding) (reservedCostAtomic : ℤ)
    (protocolAdmissionCommitted : Bool) : Service (Option String) :=
  match input.reliabilityContext with
  | none => return none
  | some context => do
    let credentialId ← orThrow (truthy input.credentialId)
      (newError "RELIABILITY_CREDENTIAL_ID_REQUIRED")
    throwUnless (config.store.recordReliabilityAttempt &&
        config.store.authorizeReliabilityDispatch &&
        config.store.markReliabilityDispatchPrimitiveEntered &&
        config.store.awaitReliabilityDispatchRelease)
      (newError "RELIABILITY_DISPATCH_STORE_REQUIRED")
    recordAttempt ⟨context, input.requestId, reservedCostAtomic,
      reliabilityRequest input credentialId binding⟩ protocolAdmissionCommitted
    let tokenId ← await (.authorizeReliabilityDispatch context input.requestId input.agentId)
    await (.awaitReliabilityDispatchRelease context input.requestId tokenId)
    return some tokenId

/-- What is sent to the provider. -/
def completionRequest (input : ControlledInferenceInput) (binding : ProviderExecutionBinding)
    (dispatchToken : Option String) : CompletionRequest where
  requestId := input.requestId
  childId := input.agentId
  model := binding.model
  inputTokens := input.inputTokens
  maxOutputTokens := input.maxOutputTokens
  messages := input.messages
  suppressAttributionHeaders := input.reliabilityContext.isSome
  dispatchToken := dispatchToken

/-- The provider's error proves that nothing was dispatched. -/
def JsError.provablyNotDispatched (error : JsError) : Bool := error.primitiveEntered = some false

/-- Hold the reliability attempt of a call, if it has a context and the store has the method. -/
def holdAttempt (config : InferenceExecutionConfig) (input : ControlledInferenceInput)
    (reasonCode : String) (generationId : Option String) (response : Option ProviderResult) :
    Service Unit :=
  match input.reliabilityContext with
  | none => pure ()
  | some context =>
    if config.store.holdReliabilityAttempt then
      await (.holdReliabilityAttempt
        ⟨context.runId, context.laneId, input.requestId, reasonCode, generationId, response⟩)
    else pure ()

/-- Nothing was dispatched: the execution fails. -/
def failNotDispatched (config : InferenceExecutionConfig) (input : ControlledInferenceInput)
    (error : JsError) : Service Unit := do
  let failedAt ← perform .now
  let ordinaryFailure : FailInferenceInput :=
    ⟨input.requestId, input.organizationId, "PROVIDER_NOT_DISPATCHED", failedAt⟩
  match input.reliabilityContext with
  | some context => do
    throwUnless config.store.classifyReliabilityNotDispatchedAtomically
      (newError "ATOMIC_RELIABILITY_NOT_DISPATCHED_REQUIRED")
    await (.classifyReliabilityNotDispatchedAtomically ordinaryFailure
      ⟨context.runId, context.laneId, input.requestId, error.code.getD "PRE_ENTRY_FAILURE"⟩)
  | none => await (.failInference ordinaryFailure)

/-- The outcome is unknown: the reliability attempt is held, then the execution. -/
def holdAmbiguous (config : InferenceExecutionConfig) (input : ControlledInferenceInput)
    (error : JsError) : Service Unit := do
  holdAttempt config input (error.code.getD "PROVIDER_OUTCOME_AMBIGUOUS") error.generationId none
  let heldAt ← perform .now
  await (.holdInference
    ⟨input.requestId, input.organizationId, "PROVIDER_OUTCOME_AMBIGUOUS", none, heldAt⟩)

/-- What is recorded of a rejected provider's call. -/
def recordProviderError (config : InferenceExecutionConfig) (input : ControlledInferenceInput)
    (error : JsError) : Service Unit :=
  if error.provablyNotDispatched then failNotDispatched config input error
  else holdAmbiguous config input error

/-- The `catch` block of the provider's call. -/
def handleProviderError {α : Type} (config : InferenceExecutionConfig)
    (input : ControlledInferenceInput) (error : JsError) : Service α := do
  recordProviderError config input error
  throw error

/-- Call the provider. -/
def callProvider (config : InferenceExecutionConfig) (input : ControlledInferenceInput)
    (binding : ProviderExecutionBinding) (dispatchToken : Option String) : Service ProviderResult :=
  tryCatch (await (.complete (completionRequest input binding dispatchToken)))
    (handleProviderError config input)

/-! ### Completion -/

/-- The actual cost of a response. -/
def actualCost (binding : ProviderExecutionBinding) (response : ProviderResult) :
    Except String ℤ := do
  require (!binding.requireProviderModelMatch || response.providerModel = some binding.model)
    "PROVIDER_MODEL_MISMATCH"
  require (!binding.requireProviderCost || response.providerCostUsd.isSome) "PROVIDER_COST_MISSING"
  match response.providerCostUsd with
  | none => calculateCostMicros response.usage binding.price
  | some cost => usdToMicros cost

def stableResponseProjection (decision : StoredPolicyDecision) (reservationAtomic : ℤ)
    (actualCostAtomic : ℤ) (response : ProviderResult) :
    Except String StableSuccessfulResponseProjection := do
  require (decision.result.outcome = .allow ∧ decision.result.wouldOutcome = .allow ∧
    decision.result.enforced = true ∧ decision.result.reasonCodes = [])
    "RELIABILITY_RESPONSE_DECISION_INVALID"
  return {
    id := response.id
    object := "chat.completion"
    model := decision.input.model
    content := response.content
    promptTokens := response.usage.inputTokens
    completionTokens := response.usage.outputTokens
    totalTokens := response.usage.inputTokens + response.usage.outputTokens
    decisionId := decision.id
    workloadScope := do
      let branchId ← truthy decision.input.branchId
      let workloadClass ← truthy decision.input.workloadClass
      return (branchId, workloadClass)
    reservationAtomic := toString reservationAtomic
    actualCostAtomic := toString actualCostAtomic }

/-- Complete the reliability attempt, if the store has the method. -/
def completeAttempt (config : InferenceExecutionConfig) (completion : ReliabilityCompletion) :
    Service Unit :=
  if config.store.completeReliabilityAttempt then await (.completeReliabilityAttempt completion)
  else pure ()

/-- The `try` block after the provider answered. -/
def persistCompletion (config : InferenceExecutionConfig) (input : ControlledInferenceInput)
    (binding : ProviderExecutionBinding) (decision : StoredPolicyDecision) (reservedCostAtomic : ℤ)
    (response : ProviderResult) : Service CompletionPersistenceResult := do
  let actualCostAtomic ← orError (actualCost binding response)
  let completedAt ← perform .now
  let ordinaryCompletion : CompleteInferenceInput :=
    ⟨input.requestId, input.organizationId, actualCostAtomic, response, completedAt⟩
  match input.reliabilityContext with
  | none => await (.completeInference ordinaryCompletion)
  | some context => do
    let responseProjection ← orError
      (stableResponseProjection decision reservedCostAtomic actualCostAtomic response)
    let protocol : ReliabilityCompletion :=
      ⟨context.runId, context.laneId, input.requestId, response, responseProjection,
        actualCostAtomic⟩
    if config.store.completeReliabilityInference then
      await (.completeReliabilityInference ordinaryCompletion protocol)
    else do
      let completed ← await (.completeInference ordinaryCompletion)
      completeAttempt config protocol
      return completed

/-- The `catch` block after the provider answered. -/
def handleCompletionError {α : Type} (config : InferenceExecutionConfig)
    (input : ControlledInferenceInput) (response : ProviderResult) (error : JsError) :
    Service α := do
  let reasonCode :=
    if ["PROVIDER_MODEL_MISMATCH", "PROVIDER_COST_MISSING"].contains error.message then error.message
    else "POST_PROVIDER_RECONCILIATION_FAILED"
  let heldAt ← perform .now
  await (.holdInference ⟨input.requestId, input.organizationId, reasonCode, some response, heldAt⟩)
  holdAttempt config input reasonCode (some response.id) (some response)
  throw error

/-! ### Execution -/

/-- What follows the provider's answer. -/
def completeExecution (config : InferenceExecutionConfig) (input : ControlledInferenceInput)
    (binding : ProviderExecutionBinding) (decision : StoredPolicyDecision) (reservedCostAtomic : ℤ)
    (response : ProviderResult) : Service AdmissionResult := do
  let completed ← tryCatch
    (persistCompletion config input binding decision reservedCostAtomic response)
    (handleCompletionError config input response)
  throwUnless (completed.status ≠ .reconciliationHold) (newError "ACTUAL_COST_EXCEEDS_RESERVATION")
  return .completed decision completed.reservedCostAtomic completed.actualCostAtomic completed.response

/-- What follows an admission that asks for execution. -/
def executeAdmitted (config : InferenceExecutionConfig) (input : ControlledInferenceInput)
    (binding : ProviderExecutionBinding) (decision : StoredPolicyDecision) (reservedCostAtomic : ℤ)
    (protocolAdmissionCommitted : Bool) : Service AdmissionResult := do
  let dispatchToken ← authorizeDispatch config input binding reservedCostAtomic
    protocolAdmissionCommitted
  let response ← callProvider config input binding dispatchToken
  completeExecution config input binding decision reservedCostAtomic response

/-- The first half of `execute`: check the input and ask for admission. -/
def requestAdmission [NodeCrypto] (config : InferenceExecutionConfig)
    (input : ControlledInferenceInput) : Service (ProviderExecutionBinding × Admission) := do
  throwUnless (input.reliabilityContext.all (·.issued))
    (newError "RELIABILITY_PROTOCOL_CONTEXT_INVALID")
  let binding ← providerBinding config input.organizationId
  throwUnless (input.requestedModel.all (· = binding.model)) (newError "REQUESTED_MODEL_MISMATCH")
  let estimatedCostAtomic ← orError
    (calculateMaximumCostMicros input.inputTokens input.maxOutputTokens binding.price)
  let decidedAt ← perform .now
  let admission ← await (.admitInference (admissionOf input binding estimatedCostAtomic decidedAt)
    (reliabilityAdmission input binding))
  return (binding, admission)

/-- The second half: execute what was admitted; any other reply is returned. -/
def followAdmission (config : InferenceExecutionConfig) (input : ControlledInferenceInput)
    (binding : ProviderExecutionBinding) (admission : Admission) : Service AdmissionResult :=
  match admission.result with
  | .execute decision reservedCostAtomic =>
    executeAdmitted config input binding decision reservedCostAtomic
      admission.protocolAdmissionCommitted
  | result => return result

/-- `InferenceExecutionService.execute`. -/
def execute [NodeCrypto] (config : InferenceExecutionConfig) (input : ControlledInferenceInput) :
    Service AdmissionResult := do
  let (binding, admission) ← requestAdmission config input
  followAdmission config input binding admission

/-! ### A service and a call -/

namespace Sample

def methods : StoreMethods := ⟨true, true, true, true, true, true, true, true⟩

def binding : ProviderExecutionBinding := ⟨"provider", "model", ⟨"0.15", "0.60"⟩, false, false⟩

def config : InferenceExecutionConfig := ⟨methods, some binding⟩

def reliabilityContext : ReliabilityProtocolContext := ⟨"run", "lane", 1, 1, none, true⟩

def input : ControlledInferenceInput where
  requestId := "first"
  organizationId := "org"
  credentialId := some "credential"
  mandateId := "mandate"
  agentId := "agent"
  agentCapabilities := [.inferenceInvoke]
  branchId := none
  workloadClass := none
  requestedModel := some "model"
  inputTokens := 10
  maxOutputTokens := 10
  messages := [⟨"user", "text"⟩]
  reliabilityContext := some reliabilityContext

end Sample

end FuseControlPlane.Inference
