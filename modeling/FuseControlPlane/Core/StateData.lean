/-
The state of the demo service as plain data (`exportState` of `core/service.ts`).

* `Doubles`: what is used of the arithmetic of doubles, the quotient of two integers.
* `CircuitResult.ratio`: a member that is computed from two other ones.
* `FuseServiceState.toJs`: the objects and arrays that a state consists of.
* `toJs_injective`: **they determine the state**.
* `toJs_savable_iff`: JSON can say all of them, up to a quotient that is not finite and the hook of a request.
-/

import FuseControlPlane.Core.FuseService
import FuseControlPlane.Foundation.JsValues

set_option linter.unusedSectionVars false

namespace FuseControlPlane.Core

open Foundation Foundation.JsValue

/-! ### Numbers -/

/-- What is used of doubles. `Number` rounds an integer to the nearest double, to the even one if there are two,
and to no finite one from `2 ** 1024 - 2 ** 970` on. -/
class Doubles where
  /-- `Number(dividend) / Number(divisor)`, as the text that `String` makes of it, if it is finite. -/
  quotient : ℤ → ℤ → Option NumberText
  quotient_isSome : ∀ (dividend : ℤ) {divisor : ℤ}, 0 < divisor →
    ((quotient dividend divisor).isSome = true ↔ dividend.natAbs < 2 ^ 1024 - 2 ^ 970)

/-! ### Texts -/

def CircuitState.text : CircuitState → String
  | .healthy => "HEALTHY"
  | .elevated => "ELEVATED"
  | .tripped => "TRIPPED"

def CircuitReason.text : CircuitReason → String
  | .allow => "ALLOW"
  | .absoluteCallLimit => "ABSOLUTE_CALL_LIMIT"
  | .repeatedCostAcceleration => "REPEATED_COST_ACCELERATION"

def CircuitDecision.text : CircuitDecision → String
  | .allow => "allow"
  | .trip => "trip"

def ReservationStatus.text : ReservationStatus → String
  | .reserved => "reserved"
  | .reconciled => "reconciled"
  | .released => "released"

/-! ### Objects -/

/-- `Object.entries(record)`. -/
def entries {α : Type} (record : Record α) : List (String × α) := record.rows.map fun entry => (entry.name, entry.value)

/-- A `Record<string, α>`. -/
def recordToJs {α : Type} (write : α → JsValue) (record : Record α) : JsValue :=
  .object ((entries record).map fun entry => (entry.1, write entry.2))

def Account.toJs (account : Account) : JsValue := .object
  [("authorizedMicros", .bigint account.authorizedMicros),
    ("reservedMicros", .bigint account.reservedMicros),
    ("settledMicros", .bigint account.settledMicros)]

def Reservation.toJs (reservation : Reservation) : JsValue := .object
  [("requestId", .string reservation.requestId),
    ("childId", .string reservation.childId),
    ("maximumMicros", .bigint reservation.maximumMicros),
    ("status", .string reservation.status.text),
    ("actualMicros", orUndefined .bigint reservation.actualMicros)]

def LedgerState.toJs (state : LedgerState) : JsValue := .object
  [("mandateId", .string state.mandateId),
    ("root", state.root.toJs),
    ("children", recordToJs Account.toJs state.children),
    ("reservations", .array (state.reservations.map Reservation.toJs))]

def TokenPrice.toJs (price : TokenPrice) : JsValue := .object
  [("inputUsdPerMillion", .string price.inputUsdPerMillion),
    ("outputUsdPerMillion", .string price.outputUsdPerMillion)]

def CircuitStateSnapshot.toJs (snapshot : CircuitStateSnapshot) : JsValue := .object
  [("state", .string snapshot.state.text),
    ("consecutiveViolations", .integer snapshot.consecutiveViolations),
    ("previousCostMicros", orUndefined .bigint snapshot.previousCostMicros)]

def Message.toJs (message : Message) : JsValue := .object
  [("role", .string message.role), ("content", .string message.content)]

def CompletionRequest.toJs (request : CompletionRequest) : JsValue := .object
  [("requestId", .string request.requestId),
    ("childId", .string request.childId),
    ("model", .string request.model),
    ("inputTokens", .integer request.inputTokens),
    ("maxOutputTokens", .integer request.maxOutputTokens),
    ("messages", .array (request.messages.map Message.toJs)),
    ("onDispatchPrimitiveEntered", orUndefined .function request.onDispatchPrimitiveEntered),
    ("suppressAttributionHeaders", orUndefined .bool request.suppressAttributionHeaders)]

def TokenUsage.toJs (usage : TokenUsage) : JsValue := .object
  [("inputTokens", .integer usage.inputTokens), ("outputTokens", .integer usage.outputTokens)]

def ProviderResult.toJs (result : ProviderResult) : JsValue := .object
  [("id", .string result.id),
    ("content", .string result.content),
    ("usage", result.usage.toJs),
    ("providerCostUsd", orUndefined .string result.providerCostUsd),
    ("providerModel", orUndefined .string result.providerModel)]

def Receipt.toJs (receipt : Receipt) : JsValue := .object
  [("requestId", .string receipt.requestId),
    ("childId", .string receipt.childId),
    ("payerWallet", .string receipt.payerWallet),
    ("inputTokens", .integer receipt.inputTokens),
    ("outputTokens", .integer receipt.outputTokens),
    ("costUsdc", .string receipt.costUsdc),
    ("authorizationHash", .string receipt.authorizationHash),
    ("gatewayStatus", .string receipt.gatewayStatus),
    ("settlementStatus", .string receipt.settlementStatus),
    ("circuitState", .string receipt.circuitState.text),
    ("circuitReason", .string receipt.circuitReason.text),
    ("reclaimedUsdc", orUndefined .string receipt.reclaimedUsdc)]

def ReleasedCompletion.toJs (released : ReleasedCompletion) : JsValue := .object
  [("status", .string released.status),
    ("httpStatus", .integer released.httpStatus),
    ("response", released.response.toJs),
    ("receipt", released.receipt.toJs)]

section Ratios

variable [Doubles]

/-- The `ratio` of a result: of its cost and its baseline, if there is a positive one. -/
def CircuitResult.ratio (result : CircuitResult) : JsValue :=
  match result.baselineCostMicros.filter fun baseline => 0 < baseline with
  | some baseline => .number (Doubles.quotient result.currentCostMicros baseline)
  | none => .undefined

def CircuitResult.toJs (result : CircuitResult) : JsValue := .object
  [("state", .string result.state.text),
    ("decision", .string result.decision.text),
    ("reason", .string result.reason.text),
    ("currentCostMicros", .bigint result.currentCostMicros),
    ("baselineCostMicros", orUndefined .bigint result.baselineCostMicros),
    ("ratio", result.ratio),
    ("consecutiveViolations", .integer result.consecutiveViolations)]

def Pending.toJs (pending : Pending) : JsValue := .object
  [("request", pending.request.toJs),
    ("result", pending.result.toJs),
    ("exactCostMicros", .bigint pending.exactCostMicros),
    ("circuit", pending.circuit.toJs),
    ("released", orUndefined ReleasedCompletion.toJs pending.released)]

/-- An entry of the pending completions. -/
def pendingToJs (entry : String × Pending) : JsValue := .array [.string entry.1, entry.2.toJs]

def FuseServiceState.toJs (state : FuseServiceState) : JsValue := .object
  [("ledger", state.ledger.toJs),
    ("price", state.price.toJs),
    ("payerWallet", .string state.payerWallet),
    ("circuits", recordToJs CircuitStateSnapshot.toJs state.circuits),
    ("pending", .array (state.pending.map pendingToJs))]

end Ratios

/-! ### Data that determine what they are made of -/

theorem isPlain_circuitState : IsPlain fun state : CircuitState => .string state.text :=
  isPlain_text fun {first second} same => by revert same; cases first <;> cases second <;> decide

theorem isPlain_circuitReason : IsPlain fun reason : CircuitReason => .string reason.text :=
  isPlain_text fun {first second} same => by revert same; cases first <;> cases second <;> decide

theorem isPlain_circuitDecision : IsPlain fun decision : CircuitDecision => .string decision.text :=
  isPlain_text fun {first second} same => by revert same; cases first <;> cases second <;> decide

theorem isPlain_reservationStatus : IsPlain fun status : ReservationStatus => .string status.text :=
  isPlain_text fun {first second} same => by revert same; cases first <;> cases second <;> decide

theorem isPlain_account : IsPlain Account.toJs := by
  refine ⟨fun _ => rfl, fun account => ?_, fun {first second} same => ?_⟩
  · rw [Account.toJs, isUntagged_cons (by decide) rfl]
    rfl
  · have member := field_congr same
    have authorized := member "authorizedMicros"
    have reserved := member "reservedMicros"
    have settled := member "settledMicros"
    simp only [Account.toJs] at authorized reserved settled
    cases first
    cases second
    simp_all [compact]

theorem isPlain_reservation : IsPlain Reservation.toJs := by
  refine ⟨fun _ => rfl, fun reservation => ?_, fun {first second} same => ?_⟩
  · rw [Reservation.toJs, isUntagged_cons (by decide) rfl]
    simp [membersUntagged_eq, isUntagged, isPlain_bigint.orUndefined_untagged]
  · have member := field_congr same
    have request := member "requestId"
    have child := member "childId"
    have maximum := member "maximumMicros"
    have status := member "status"
    have actual := member "actualMicros"
    simp [Reservation.toJs] at request child maximum status actual
    replace status := isPlain_reservationStatus.injective status
    replace actual := isPlain_bigint.orUndefined_injective actual
    cases first
    cases second
    simp_all [compact]

theorem isPlain_tokenPrice : IsPlain TokenPrice.toJs := by
  refine ⟨fun _ => rfl, fun price => ?_, fun {first second} same => ?_⟩
  · rw [TokenPrice.toJs, isUntagged_cons (by decide) rfl]
    rfl
  · have member := field_congr same
    have input := member "inputUsdPerMillion"
    have output := member "outputUsdPerMillion"
    simp only [TokenPrice.toJs] at input output
    cases first
    cases second
    simp_all [compact]

theorem isPlain_snapshot : IsPlain CircuitStateSnapshot.toJs := by
  refine ⟨fun _ => rfl, fun snapshot => ?_, fun {first second} same => ?_⟩
  · rw [CircuitStateSnapshot.toJs, isUntagged_cons (by decide) rfl]
    simp [membersUntagged_eq, isPlain_integer.untagged, isPlain_bigint.orUndefined_untagged, isUntagged]
  · have member := field_congr same
    have state := member "state"
    have violations := member "consecutiveViolations"
    have previous := member "previousCostMicros"
    simp [CircuitStateSnapshot.toJs] at state violations previous
    replace state := isPlain_circuitState.injective state
    replace violations := isPlain_integer.injective violations
    replace previous := isPlain_bigint.orUndefined_injective previous
    cases first
    cases second
    simp_all

theorem isPlain_message : IsPlain Message.toJs := by
  refine ⟨fun _ => rfl, fun message => ?_, fun {first second} same => ?_⟩
  · rw [Message.toJs, isUntagged_cons (by decide) rfl]
    rfl
  · have member := field_congr same
    have role := member "role"
    have content := member "content"
    simp only [Message.toJs] at role content
    cases first
    cases second
    simp_all [compact]

/-- A hook, unlike the other members, is there and is not written. -/
theorem function_injective {first second : Option String}
    (same : (orUndefined function first).compact = (orUndefined function second).compact) : first = second := by
  cases first <;> cases second <;> simp_all [orUndefined, compact]

theorem isPlain_request : IsPlain CompletionRequest.toJs := by
  refine ⟨fun _ => rfl, fun request => ?_, fun {first second} same => ?_⟩
  · have messages := isPlain_message.list.untagged request.messages
    have hook : (orUndefined function request.onDispatchPrimitiveEntered).isUntagged = true := by
      cases request.onDispatchPrimitiveEntered <;> rfl
    rw [CompletionRequest.toJs, isUntagged_cons (by decide) rfl]
    simp [membersUntagged_eq, isPlain_integer.untagged, isPlain_string.untagged, isPlain_bool.orUndefined_untagged,
      messages, hook]
  · have member := field_congr same
    have request := member "requestId"
    have child := member "childId"
    have model := member "model"
    have input := member "inputTokens"
    have output := member "maxOutputTokens"
    have messages := member "messages"
    have hook := member "onDispatchPrimitiveEntered"
    have headers := member "suppressAttributionHeaders"
    simp [CompletionRequest.toJs] at request child model input output messages hook headers
    replace request := isPlain_string.injective request
    replace child := isPlain_string.injective child
    replace model := isPlain_string.injective model
    replace input := isPlain_integer.injective input
    replace output := isPlain_integer.injective output
    replace messages := isPlain_message.list.injective messages
    replace hook := function_injective hook
    replace headers := isPlain_bool.orUndefined_injective headers
    cases first
    cases second
    simp_all

theorem isPlain_usage : IsPlain TokenUsage.toJs := by
  refine ⟨fun _ => rfl, fun usage => ?_, fun {first second} same => ?_⟩
  · rw [TokenUsage.toJs, isUntagged_cons (by decide) rfl]
    simp [membersUntagged_eq, isPlain_integer.untagged]
  · have member := field_congr same
    have input := member "inputTokens"
    have output := member "outputTokens"
    simp [TokenUsage.toJs] at input output
    replace input := isPlain_integer.injective input
    replace output := isPlain_integer.injective output
    cases first
    cases second
    simp_all

theorem isPlain_result : IsPlain ProviderResult.toJs := by
  refine ⟨fun _ => rfl, fun result => ?_, fun {first second} same => ?_⟩
  · rw [ProviderResult.toJs, isUntagged_cons (by decide) rfl]
    simp [membersUntagged_eq, isPlain_string.untagged, isPlain_usage.untagged, isPlain_string.orUndefined_untagged]
  · have member := field_congr same
    have id := member "id"
    have content := member "content"
    have usage := member "usage"
    have cost := member "providerCostUsd"
    have model := member "providerModel"
    simp [ProviderResult.toJs] at id content usage cost model
    replace id := isPlain_string.injective id
    replace content := isPlain_string.injective content
    replace usage := isPlain_usage.injective usage
    replace cost := isPlain_string.orUndefined_injective cost
    replace model := isPlain_string.orUndefined_injective model
    cases first
    cases second
    simp_all

theorem isPlain_receipt : IsPlain Receipt.toJs := by
  refine ⟨fun _ => rfl, fun receipt => ?_, fun {first second} same => ?_⟩
  · rw [Receipt.toJs, isUntagged_cons (by decide) rfl]
    simp [membersUntagged_eq, isPlain_string.untagged, isPlain_integer.untagged, isPlain_string.orUndefined_untagged]
  · have member := field_congr same
    have request := member "requestId"
    have child := member "childId"
    have payer := member "payerWallet"
    have input := member "inputTokens"
    have output := member "outputTokens"
    have cost := member "costUsdc"
    have authorization := member "authorizationHash"
    have gateway := member "gatewayStatus"
    have settlement := member "settlementStatus"
    have state := member "circuitState"
    have reason := member "circuitReason"
    have reclaimed := member "reclaimedUsdc"
    simp [Receipt.toJs] at request child payer input output cost authorization gateway settlement state reason reclaimed
    replace request := isPlain_string.injective request
    replace child := isPlain_string.injective child
    replace payer := isPlain_string.injective payer
    replace input := isPlain_integer.injective input
    replace output := isPlain_integer.injective output
    replace cost := isPlain_string.injective cost
    replace authorization := isPlain_string.injective authorization
    replace gateway := isPlain_string.injective gateway
    replace settlement := isPlain_string.injective settlement
    replace state := isPlain_circuitState.injective state
    replace reason := isPlain_circuitReason.injective reason
    replace reclaimed := isPlain_string.orUndefined_injective reclaimed
    cases first
    cases second
    simp_all

theorem isPlain_released : IsPlain ReleasedCompletion.toJs := by
  refine ⟨fun _ => rfl, fun released => ?_, fun {first second} same => ?_⟩
  · rw [ReleasedCompletion.toJs, isUntagged_cons (by decide) rfl]
    simp [membersUntagged_eq, isPlain_string.untagged, isPlain_integer.untagged, isPlain_result.untagged,
      isPlain_receipt.untagged]
  · have member := field_congr same
    have status := member "status"
    have http := member "httpStatus"
    have response := member "response"
    have receipt := member "receipt"
    simp [ReleasedCompletion.toJs] at status http response receipt
    replace status := isPlain_string.injective status
    replace http := isPlain_integer.injective http
    replace response := isPlain_result.injective response
    replace receipt := isPlain_receipt.injective receipt
    cases first
    cases second
    simp_all

section Ratios

variable [Doubles]

theorem ratio_untagged (result : CircuitResult) : result.ratio.isUntagged = true := by
  unfold CircuitResult.ratio
  split <;> rfl

/-- The ratio follows from the other members. -/
theorem isPlain_circuitResult : IsPlain CircuitResult.toJs := by
  refine ⟨fun _ => rfl, fun result => ?_, fun {first second} same => ?_⟩
  · rw [CircuitResult.toJs, isUntagged_cons (by decide) rfl]
    simp [membersUntagged_eq, isPlain_string.untagged, isPlain_bigint.untagged, isPlain_integer.untagged,
      isPlain_bigint.orUndefined_untagged, ratio_untagged]
  · have member := field_congr same
    have state := member "state"
    have decision := member "decision"
    have reason := member "reason"
    have current := member "currentCostMicros"
    have baseline := member "baselineCostMicros"
    have violations := member "consecutiveViolations"
    simp [CircuitResult.toJs] at state decision reason current baseline violations
    replace state := isPlain_circuitState.injective state
    replace decision := isPlain_circuitDecision.injective decision
    replace reason := isPlain_circuitReason.injective reason
    replace current := isPlain_bigint.injective current
    replace baseline := isPlain_bigint.orUndefined_injective baseline
    replace violations := isPlain_integer.injective violations
    cases first
    cases second
    simp_all

theorem isPlain_pending : IsPlain Pending.toJs := by
  refine ⟨fun _ => rfl, fun pending => ?_, fun {first second} same => ?_⟩
  · rw [Pending.toJs, isUntagged_cons (by decide) rfl]
    simp [membersUntagged_eq, isPlain_request.untagged, isPlain_result.untagged, isPlain_bigint.untagged,
      isPlain_circuitResult.untagged, isPlain_released.orUndefined_untagged]
  · have member := field_congr same
    have request := member "request"
    have result := member "result"
    have cost := member "exactCostMicros"
    have circuit := member "circuit"
    have released := member "released"
    simp [Pending.toJs] at request result cost circuit released
    replace request := isPlain_request.injective request
    replace result := isPlain_result.injective result
    replace cost := isPlain_bigint.injective cost
    replace circuit := isPlain_circuitResult.injective circuit
    replace released := isPlain_released.orUndefined_injective released
    cases first
    cases second
    simp_all

/-! ### Records -/

theorem entries_injective {α : Type} {first second : Record α} (same : entries first = entries second) :
    first = second := by
  refine Table.ext (List.map_injective_iff.mpr (fun left right equal => ?_) same)
  cases left
  cases right
  simp_all

theorem recordToJs_injective {α : Type} {write : α → JsValue} (plain : IsPlain write) {first second : Record α}
    (same : (recordToJs write first).compact = (recordToJs write second).compact) : first = second :=
  entries_injective (plain.members_injective same)

/-- A record whose names are not the tag alone. -/
theorem recordToJs_untagged {α : Type} {write : α → JsValue} (plain : IsPlain write) {record : Record α}
    (other : record.rows.map Entry.name ≠ [tag]) : (recordToJs write record).isUntagged = true := by
  refine plain.members_untagged ?_
  unfold entries
  rw [List.map_map]
  exact other

/-! ### The state -/

theorem LedgerState.toJs_injective {first second : LedgerState}
    (same : first.toJs.compact = second.toJs.compact) : first = second := by
  have member := field_congr same
  have mandate := member "mandateId"
  have root := member "root"
  have children := member "children"
  have reservations := member "reservations"
  simp [LedgerState.toJs] at mandate root children reservations
  replace mandate := isPlain_string.injective mandate
  replace root := isPlain_account.injective root
  replace children := recordToJs_injective isPlain_account children
  replace reservations := isPlain_reservation.list.injective reservations
  cases first
  cases second
  simp_all

/-- **The data of a state determine it.** -/
theorem FuseServiceState.toJs_injective {first second : FuseServiceState}
    (same : first.toJs.compact = second.toJs.compact) : first = second := by
  have member := field_congr same
  have ledger := member "ledger"
  have price := member "price"
  have payer := member "payerWallet"
  have circuits := member "circuits"
  have pending := member "pending"
  simp [FuseServiceState.toJs] at ledger price payer circuits pending
  replace ledger := LedgerState.toJs_injective ledger
  replace price := isPlain_tokenPrice.injective price
  replace payer := isPlain_string.injective payer
  replace circuits := recordToJs_injective isPlain_snapshot circuits
  replace pending := isPlain_pending.named.list.injective pending
  cases first
  cases second
  simp_all

/-- Neither of the two records of the state has the tag as its only name. -/
theorem FuseServiceState.toJs_untagged {state : FuseServiceState}
    (children : state.ledger.children.rows.map Entry.name ≠ [tag])
    (circuits : state.circuits.rows.map Entry.name ≠ [tag]) : state.toJs.isUntagged = true := by
  have ledger : state.ledger.toJs.isUntagged = true := by
    rw [LedgerState.toJs, isUntagged_cons (by decide) rfl]
    simp [membersUntagged_eq, isPlain_string.untagged, isPlain_account.untagged,
      isPlain_reservation.list.untagged, recordToJs_untagged isPlain_account children]
  have pending : (JsValue.array (state.pending.map pendingToJs)).isUntagged = true :=
    isPlain_pending.named.list.untagged state.pending
  rw [FuseServiceState.toJs, isUntagged_cons (by decide) rfl]
  simp [membersUntagged_eq, ledger, pending, isPlain_string.untagged, isPlain_tokenPrice.untagged,
    recordToJs_untagged isPlain_snapshot circuits]

/-! ### What JSON can say -/

/-- JSON can say all of a completion: its request has no hook, and its ratio, if there is one, is finite. -/
structure Pending.IsSavable (pending : Pending) : Prop where
  hook : pending.request.onDispatchPrimitiveEntered = none
  ratio : ∀ baseline, pending.circuit.baselineCostMicros = some baseline → 0 < baseline →
    pending.circuit.currentCostMicros.natAbs < 2 ^ 1024 - 2 ^ 970

theorem request_savable_iff (request : CompletionRequest) :
    request.toJs.isSavable = true ↔ request.onDispatchPrimitiveEntered = none := by
  have messages : ∀ message : Message, message.toJs.isSavable = true := fun _ => rfl
  rw [CompletionRequest.toJs]
  cases hook : request.onDispatchPrimitiveEntered <;> cases headers : request.suppressAttributionHeaders <;>
    simp [isSavable, membersSavable_eq, orUndefined, isDefined, integer, messages]

theorem number_savable (literal : Option NumberText) : (number literal).isSavable = literal.isSome := by
  cases literal <;> rfl

theorem circuitResult_savable_iff (result : CircuitResult) : result.toJs.isSavable = true ↔
    ∀ baseline, result.baselineCostMicros = some baseline → 0 < baseline →
      result.currentCostMicros.natAbs < 2 ^ 1024 - 2 ^ 970 := by
  have only : result.toJs.isSavable = (!result.ratio.isDefined || result.ratio.isSavable) := by
    rw [CircuitResult.toJs]
    cases result.baselineCostMicros <;> simp [isSavable, membersSavable_eq, orUndefined, isDefined, integer]
  rw [only]
  unfold CircuitResult.ratio
  split
  · next baseline found =>
    rw [Option.filter_eq_some_iff, decide_eq_true_eq] at found
    have defined : (number (Doubles.quotient result.currentCostMicros baseline)).isDefined = true := rfl
    rw [defined, Bool.not_true, Bool.false_or, number_savable, Doubles.quotient_isSome _ found.2]
    refine ⟨fun finite _ _ _ => finite, fun every => every baseline found.1 found.2⟩
  · next none_found =>
    refine ⟨fun _ baseline stored positive => ?_, fun _ => rfl⟩
    rw [stored, Option.filter_some, if_pos (decide_eq_true positive)] at none_found
    cases none_found

theorem result_savable (result : ProviderResult) : result.toJs.isSavable = true := by
  rw [ProviderResult.toJs]
  cases result.providerCostUsd <;> cases result.providerModel <;>
    simp [isSavable, membersSavable_eq, orUndefined, isDefined, integer, TokenUsage.toJs]

theorem receipt_savable (receipt : Receipt) : receipt.toJs.isSavable = true := by
  rw [Receipt.toJs]
  cases receipt.reclaimedUsdc <;> simp [isSavable, membersSavable_eq, orUndefined, isDefined, integer]

theorem released_savable (released : ReleasedCompletion) : released.toJs.isSavable = true := by
  rw [ReleasedCompletion.toJs]
  simp [isSavable, membersSavable_eq, integer, result_savable, receipt_savable]

theorem pending_savable_iff (pending : Pending) : pending.toJs.isSavable = true ↔ pending.IsSavable := by
  have both : pending.toJs.isSavable = (pending.request.toJs.isSavable && pending.circuit.toJs.isSavable) := by
    have request := isDefined_of_isWritten (isPlain_request.written pending.request)
    have circuit := isDefined_of_isWritten (isPlain_circuitResult.written pending.circuit)
    rw [Pending.toJs]
    cases pending.released <;>
      simp [isSavable, membersSavable_eq, orUndefined, result_savable, released_savable, request, circuit]
  rw [both, Bool.and_eq_true, request_savable_iff, circuitResult_savable_iff]
  exact ⟨fun savable => ⟨savable.1, savable.2⟩, fun savable => ⟨savable.hook, savable.ratio⟩⟩

theorem recordToJs_savable {α : Type} {write : α → JsValue} (savable : ∀ value, (write value).isSavable = true)
    (record : Record α) : (recordToJs write record).isSavable = true := by
  rw [recordToJs, isSavable, membersSavable_eq, List.all_eq_true]
  intro member here
  obtain ⟨entry, _, rfl⟩ := List.mem_map.mp here
  rw [savable, Bool.or_true]

theorem ledgerState_savable (state : LedgerState) : state.toJs.isSavable = true := by
  have account : ∀ account : Account, account.toJs.isSavable = true := fun _ => rfl
  have reservation : ∀ reservation : Reservation, reservation.toJs.isSavable = true := by
    intro reservation
    rw [Reservation.toJs]
    cases reservation.actualMicros <;> rfl
  rw [LedgerState.toJs]
  simp [isSavable, membersSavable_eq, account, reservation, recordToJs_savable account]

/-- **JSON can say all of a state** exactly if it can say all of its completions. -/
theorem FuseServiceState.toJs_savable_iff (state : FuseServiceState) :
    state.toJs.isSavable = true ↔ ∀ entry ∈ state.pending, entry.2.IsSavable := by
  have snapshot : ∀ snapshot : CircuitStateSnapshot, snapshot.toJs.isSavable = true := by
    intro snapshot
    rw [CircuitStateSnapshot.toJs]
    cases snapshot.previousCostMicros <;> rfl
  have price : state.price.toJs.isSavable = true := rfl
  have entry : isSavable ∘ pendingToJs = fun entry => entry.2.toJs.isSavable := by
    funext entry
    simp [pendingToJs, isSavable]
  have only : state.toJs.isSavable = state.pending.all fun entry => entry.2.toJs.isSavable := by
    rw [FuseServiceState.toJs]
    simp [isSavable, membersSavable_eq, ledgerState_savable, price, recordToJs_savable snapshot, entry]
  rw [only, List.all_eq_true]
  exact forall₂_congr fun entry _ => pending_savable_iff entry.2

end Ratios

end FuseControlPlane.Core
