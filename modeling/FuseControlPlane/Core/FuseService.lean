/-
The demo service (`core/service.ts`).

* `prepareCompletion`: up to its provider call it is `beginCompletion`, and from then on
  `finishCompletion`. Only there it is suspended.
* `releasePaidCompletion`: a paid completion is reconciled and handed out with its receipt.
* `exportState`, `fromState`: the service as data, and back.
-/

import FuseControlPlane.Core.Circuit
import FuseControlPlane.Core.Ledger
import FuseControlPlane.Core.Pricing

set_option linter.unusedSectionVars false

namespace FuseControlPlane.Core

open Foundation Foundation.Method

/-! ### Data -/

/-- A request. The hook of its transport is known by its source text. -/
structure CompletionRequest where
  requestId : String
  childId : String
  model : String
  inputTokens : ℤ
  maxOutputTokens : ℤ
  messages : List Message
  onDispatchPrimitiveEntered : Option String
  suppressAttributionHeaders : Option Bool
  deriving DecidableEq

/-- A payment that the gateway has accepted. -/
structure Payment where
  authorizationHash : String
  deriving DecidableEq

structure Receipt where
  requestId : String
  childId : String
  payerWallet : String
  inputTokens : ℤ
  outputTokens : ℤ
  costUsdc : String
  authorizationHash : String
  gatewayStatus : String
  settlementStatus : String
  circuitState : CircuitState
  circuitReason : CircuitReason
  reclaimedUsdc : Option String
  deriving DecidableEq

structure ReleasedCompletion where
  status : String
  httpStatus : ℕ
  response : ProviderResult
  receipt : Receipt
  deriving DecidableEq

structure Pending where
  request : CompletionRequest
  result : ProviderResult
  exactCostMicros : ℤ
  circuit : CircuitResult
  released : Option ReleasedCompletion
  deriving DecidableEq

structure PaymentRequirements where
  protocol : String
  asset : String
  amount : String
  payer : String
  requestId : String
  deriving DecidableEq

structure PaymentRequired where
  status : String
  httpStatus : ℕ
  exactCostMicros : ℤ
  paymentRequirements : PaymentRequirements
  deriving DecidableEq

/-- `value.padStart(length, fill)`. -/
def padStart (length : ℕ) (fill : Char) (value : String) : String :=
  String.ofList (List.replicate (length - value.length) fill) ++ value

def microsToUsdc (micros : ℤ) : String :=
  toString (micros.tdiv 1000000) ++ "." ++ padStart 6 '0' (toString (micros.tmod 1000000))

structure FuseServiceState where
  ledger : LedgerState
  price : TokenPrice
  payerWallet : String
  circuits : Record CircuitStateSnapshot
  pending : List (String × Pending)

def circuitConfig : CircuitConfig := ⟨50000, 1⟩

/-- The service, without its provider. -/
structure FuseService where
  ledger : FuseLedger
  price : TokenPrice
  payerWallet : String
  circuits : Record BranchCircuit
  pending : Record Pending

namespace FuseService

def demoConfig : LedgerConfig where
  mandateId := "demo-mandate"
  maximumSpendMicros := 250000
  children := ⟨[⟨"scout", 60000⟩, ⟨"builder", 120000⟩, ⟨"reviewer", 50000⟩], by decide⟩

def createDemo (payerWallet : Option String) (price : Option TokenPrice) : Except String FuseService := do
  let ledger ← FuseLedger.new demoConfig
  return {
    ledger
    price := price.getD ⟨"3.00", "15.00"⟩
    payerWallet := payerWallet.getD "0xDemoParentWallet"
    circuits := demoConfig.children.mapValues fun _ => .new circuitConfig
    pending := .empty }

/-- One entry after the other; a later one replaces an earlier one. -/
def setAll (pending : Record Pending) (entries : List (String × Pending)) : Record Pending :=
  entries.foldl (fun pending entry => pending.set entry.1 entry.2) pending

def fromState (state : FuseServiceState) : Except String FuseService := do
  let ledger ← FuseLedger.fromState state.ledger
  return {
    ledger
    price := state.price
    payerWallet := state.payerWallet
    circuits := state.circuits.mapValues (BranchCircuit.fromState circuitConfig)
    pending := setAll .empty state.pending }

def exportState (service : FuseService) : FuseServiceState where
  ledger := service.ledger.exportState
  price := service.price
  payerWallet := service.payerWallet
  circuits := service.circuits.mapValues BranchCircuit.snapshot
  pending := service.pending.rows.map fun entry => (entry.name, entry.value)

def paymentRequirements (service : FuseService) (requestId : String) (amountMicros : ℤ) :
    PaymentRequirements where
  protocol := "x402"
  asset := "USDC"
  amount := microsToUsdc amountMicros
  payer := service.payerWallet
  requestId := requestId

def paymentRequired (service : FuseService) (requestId : String) (exactCostMicros : ℤ) :
    PaymentRequired where
  status := "payment_required"
  httpStatus := 402
  exactCostMicros := exactCostMicros
  paymentRequirements := service.paymentRequirements requestId exactCostMicros

/-! ### Methods -/

/-- A method of the ledger. -/
def onLedger {α : Type} (method : LedgerM α) : Method FuseService α :=
  onPart FuseService.ledger (fun service ledger => { service with ledger }) method

/-- A method of the circuit of a child, which every call of the child refers to. -/
def onCircuit {α : Type} (childId : String) (method : Method BranchCircuit α) : Method FuseService α := do
  let service ← get
  match service.circuits.property childId with
  | .undefined => throw "UNKNOWN_CHILD"
  | .inherited => throw "circuit.assertOpen is not a function"
  | .own circuit =>
    onPart (fun _ => circuit)
      (fun service circuit => { service with circuits := service.circuits.set childId circuit }) method

/-- How far `prepareCompletion` comes without its provider. -/
inductive Begun
  | cached (answer : PaymentRequired)
  | asks
  deriving DecidableEq

/-- `prepareCompletion` up to its provider call. -/
def beginCompletion (request : CompletionRequest) : Method FuseService Begun := do
  let service ← get
  match service.pending.get request.requestId with
  | some cached => return .cached (service.paymentRequired request.requestId cached.exactCostMicros)
  | none => do
    onCircuit request.childId BranchCircuit.assertOpen
    let maximumMicros ← fromExcept
      (calculateMaximumCostMicros request.inputTokens request.maxOutputTokens service.price)
    let _ ← onLedger (FuseLedger.reserve request.childId maximumMicros request.requestId)
    return .asks

/-- `prepareCompletion` from the provider's answer on. -/
def finishCompletion (request : CompletionRequest) (result : ProviderResult) :
    Method FuseService PaymentRequired := do
  let service ← get
  let exactCostMicros ← fromExcept (calculateCostMicros result.usage service.price)
  let circuit ← onCircuit request.childId (BranchCircuit.evaluate exactCostMicros)
  modify fun service =>
    { service with
      pending := service.pending.set request.requestId ⟨request, result, exactCostMicros, circuit, none⟩ }
  return service.paymentRequired request.requestId exactCostMicros

/-- The whole method, for what the provider answers if it is asked. -/
def prepareCompletion (request : CompletionRequest) (outcome : Except String ProviderResult) :
    Method FuseService PaymentRequired := do
  match ← beginCompletion request with
  | .cached answer => return answer
  | .asks => do
    let result ← fromExcept outcome
    finishCompletion request result

/-- What is handed out for a payment. -/
def releasedCompletion (payerWallet requestId : String) (pending : Pending) (payment : Payment)
    (reclaimedMicros : Option ℤ) : ReleasedCompletion where
  status := "completed"
  httpStatus := 200
  response := pending.result
  receipt :=
    { requestId
      childId := pending.request.childId
      payerWallet
      inputTokens := pending.result.usage.inputTokens
      outputTokens := pending.result.usage.outputTokens
      costUsdc := microsToUsdc pending.exactCostMicros
      authorizationHash := payment.authorizationHash
      gatewayStatus := "accepted"
      settlementStatus := "pending_batch"
      circuitState := pending.circuit.state
      circuitReason := pending.circuit.reason
      reclaimedUsdc := (reclaimedMicros.filter fun micros => 0 < micros).map microsToUsdc }

/-- What a release reclaims: all that the child has left, once its circuit was tripped. -/
def reclaim (pending : Pending) : Method FuseService (Option ℤ) :=
  if pending.circuit.state = .tripped then
    onLedger (FuseLedger.reclaimAvailable pending.request.childId)
  else pure (some 0)

def releasePaidCompletion (requestId : String) (payment : Payment) :
    Method FuseService ReleasedCompletion := do
  let service ← get
  match service.pending.get requestId with
  | none => throw "PENDING_COMPLETION_NOT_FOUND"
  | some pending =>
    match pending.released with
    | some released => return released
    | none => do
      let _ ← onLedger (FuseLedger.reconcile requestId pending.exactCostMicros)
      let reclaimedMicros ← reclaim pending
      let released :=
        releasedCompletion service.payerWallet requestId pending payment reclaimedMicros
      modify fun service =>
        { service with pending := service.pending.set requestId { pending with released := some released } }
      return released

end FuseService

end FuseControlPlane.Core
