/-
The commitment of a mandate to its receipts (`core/receiptCommitment.ts`).

* `CommittedReceipt`: the values of a receipt, and the order in which the object has its members.
* `validateReceipt`, `checkReceipts`: the checks.
* `buildReceiptCommitment`: the receipts in the order of their sequences, their JSON text and what they cost.

`keccak256` stands for `keccak256(toHex(text))` of `viem`.
-/

import FuseControlPlane.Core.Pricing
import FuseControlPlane.Domain.Policy
import FuseControlPlane.Foundation.Json

set_option linter.unusedSectionVars false

namespace FuseControlPlane.Core

open Foundation Foundation.JavaScript FuseControlPlane.Domain

/-! ### Receipts -/

inductive ReceiptKey
  | sequence | requestId | childId | inputTokens | outputTokens | costAtomic | authorizationHash | circuitState
  deriving DecidableEq

namespace ReceiptKey

/-- All members of a receipt, as its type lists them. -/
def all : List ReceiptKey :=
  [sequence, requestId, childId, inputTokens, outputTokens, costAtomic, authorizationHash, circuitState]

def name : ReceiptKey → String
  | sequence => "sequence"
  | requestId => "requestId"
  | childId => "childId"
  | inputTokens => "inputTokens"
  | outputTokens => "outputTokens"
  | costAtomic => "costAtomic"
  | authorizationHash => "authorizationHash"
  | circuitState => "circuitState"

end ReceiptKey

/-- The values of a receipt. -/
structure ReceiptValues where
  sequence : ℤ
  requestId : String
  childId : String
  inputTokens : ℤ
  outputTokens : ℤ
  costAtomic : String
  authorizationHash : String
  circuitState : String
  deriving DecidableEq

/-- A receipt, with its members in the order the object has them. -/
structure CommittedReceipt extends ReceiptValues where
  keys : List ReceiptKey
  complete : keys.Perm ReceiptKey.all

def ReceiptValues.member (values : ReceiptValues) : ReceiptKey → Json
  | .sequence => .ofInt values.sequence
  | .requestId => .string values.requestId
  | .childId => .string values.childId
  | .inputTokens => .ofInt values.inputTokens
  | .outputTokens => .ofInt values.outputTokens
  | .costAtomic => .string values.costAtomic
  | .authorizationHash => .string values.authorizationHash
  | .circuitState => .string values.circuitState

/-- The receipt as `{ ...receipt }` copies it. -/
def CommittedReceipt.toJson (receipt : CommittedReceipt) : Json :=
  .object (receipt.keys.map fun key => (key.name, receipt.member key))

/-! ### Checks -/

/-- `/^(0|[1-9]\\d*)$/`. -/
def isAtomic (text : String) : Bool :=
  areDigits text.toList && (text == "0" || text.toList.head? != some '0')

def validateReceipt (receipt : ReceiptValues) : Except String Unit := do
  require (receipt.requestId ≠ "" && receipt.childId ≠ "" && receipt.authorizationHash ≠ "" &&
    receipt.circuitState ≠ "") "INVALID_RECEIPT_FIELDS"
  require (isSafeInteger receipt.sequence && 1 ≤ receipt.sequence) "INVALID_RECEIPT_SEQUENCE"
  require (isAtomic receipt.costAtomic) "INVALID_COST_ATOMIC"
  require (isSafeInteger receipt.inputTokens && 0 ≤ receipt.inputTokens) "INVALID_INPUT_TOKENS"
  require (isSafeInteger receipt.outputTokens && 0 ≤ receipt.outputTokens) "INVALID_OUTPUT_TOKENS"

/-- The loop over the receipts, with the sequences and the requests that have been seen. -/
def checkReceipts : List ℤ → List String → List CommittedReceipt → Except String Unit
  | _, _, [] => .ok ()
  | seenSequences, seenRequests, receipt :: rest => do
    validateReceipt receipt.toReceiptValues
    require (!seenSequences.contains receipt.sequence) "DUPLICATE_RECEIPT_SEQUENCE"
    require (!seenRequests.contains receipt.requestId) "DUPLICATE_REQUEST_ID"
    checkReceipts (seenSequences ++ [receipt.sequence]) (seenRequests ++ [receipt.requestId]) rest

/-! ### Commitments -/

structure ReceiptBundle where
  mandateId : String
  receipts : List CommittedReceipt

/-- The bundle with its version. -/
def ReceiptBundle.toJson (bundle : ReceiptBundle) : Json :=
  .object [("version", .ofInt 1), ("mandateId", .string bundle.mandateId),
    ("receipts", .array (bundle.receipts.map CommittedReceipt.toJson))]

structure ReceiptCommitment where
  bundle : ReceiptBundle
  canonicalJson : String
  totalPaidAtomic : ℤ
  hash : String

/-- `[...input].sort((a, b) => a.sequence - b.sequence)`. -/
def sortReceipts (input : List CommittedReceipt) : List CommittedReceipt :=
  input.insertionSort fun a b => a.sequence ≤ b.sequence

def buildReceiptCommitment (keccak256 : String → String) (mandateId : String)
    (input : List CommittedReceipt) : Except String ReceiptCommitment := do
  require (mandateId ≠ "") "INVALID_MANDATE_ID"
  let receipts := sortReceipts input
  checkReceipts [] [] receipts
  let bundle : ReceiptBundle := ⟨mandateId, receipts⟩
  let canonicalJson := bundle.toJson.stringify
  return {
    bundle
    canonicalJson
    totalPaidAtomic := (receipts.map fun receipt => bigInt receipt.costAtomic.toList).sum
    hash := keccak256 canonicalJson }

end FuseControlPlane.Core
