/-
`POST /v1/sign` (`signer/app.ts`).

* `SignRequest`: a body with the shape of the schema; `SignRequest.isWellFormed` is the rest of the schema.
* `validTypedData`: what the signer signs.
* `postSign`: the whole request, as a program over `SignerCall`.

What is signed is told to the signer alone. `Signing` also says for whom, for the record.
-/

import FuseControlPlane.Core.Pricing
import FuseControlPlane.Foundation.Json
import FuseControlPlane.Foundation.Program
import FuseControlPlane.Foundation.Records
import FuseControlPlane.Signer.AuthorizationStore

set_option linter.unusedSectionVars false

namespace FuseControlPlane.Signer

open Foundation Foundation.JavaScript Program

/-! ### Requests -/

structure TypedDataDomain where
  name : String
  version : String
  chainId : ℕ
  verifyingContract : String
  deriving DecidableEq

structure TypedDataField where
  name : String
  type : String
  deriving DecidableEq

structure TransferMessage where
  from_ : String
  to_ : String
  value : String
  validAfter : String
  validBefore : String
  nonce : String
  deriving DecidableEq

structure SignerTypedData where
  domain : TypedDataDomain
  types : List (String × List TypedDataField)
  primaryType : String
  message : TransferMessage
  deriving DecidableEq

structure SignRequest where
  organizationId : String
  requestId : String
  amountAtomic : String
  typedData : SignerTypedData
  deriving DecidableEq

/-- `/^0x[0-9a-fA-F]{40}$/`. -/
def isAddress (text : String) : Bool := isHexText 40 text

/-- `/^(0|[1-9]\d*)$/`, of at most 78 characters. -/
def isUint256 (text : String) : Bool :=
  matchesClass Char.isDigit 1 78 text && (text = "0" || !startsWith text "0")

def SignerTypedData.isWellFormed (typedData : SignerTypedData) : Bool :=
  typedData.domain.name ≠ "" && typedData.domain.version ≠ "" && 0 < typedData.domain.chainId &&
  isAddress typedData.domain.verifyingContract &&
  (typedData.types.all fun entry => entry.2.all fun field => field.name ≠ "" && field.type ≠ "") &&
  typedData.primaryType ≠ "" && isAddress typedData.message.from_ && isAddress typedData.message.to_ &&
  isUint256 typedData.message.value && isUint256 typedData.message.validAfter &&
  isUint256 typedData.message.validBefore && isHexText 64 typedData.message.nonce

/-- What `signRequestSchema` asks of the texts. -/
def SignRequest.isWellFormed (input : SignRequest) : Bool :=
  input.organizationId ≠ "" && JavaScript.length input.organizationId ≤ 128 && isSha256 input.requestId &&
  isUint256 input.amountAtomic && input.amountAtomic ≠ "0" && input.typedData.isWellFormed

/-- `BigInt(text)`, of digits. -/
def atomic (text : String) : ℕ := (Core.bigInt text.toList).toNat

/-! ### Configuration -/

structure SignerConfig where
  organizationId : String
  callerId : String
  authToken : String
  walletAddress : String
  gatewayWalletAddress : String
  allowedPayToAddress : String
  chainId : ℕ
  maximumAtomic : ℕ
  maximumTotalAtomic : ℕ

/-- The functions of `viem`, which may throw. -/
class Viem where
  recoverTypedDataAddress : SignerTypedData → String → Except String String
  getAddress : String → Except String String

section Fingerprints

variable [NodeCrypto] [Collation]

def TypedDataDomain.toJson (domain : TypedDataDomain) : Json :=
  .object [("name", .string domain.name), ("version", .string domain.version),
    ("chainId", .ofInt domain.chainId), ("verifyingContract", .string domain.verifyingContract)]

def TypedDataField.toJson (field : TypedDataField) : Json :=
  .object [("name", .string field.name), ("type", .string field.type)]

def TransferMessage.toJson (message : TransferMessage) : Json :=
  .object [("from", .string message.from_), ("to", .string message.to_), ("value", .string message.value),
    ("validAfter", .string message.validAfter), ("validBefore", .string message.validBefore),
    ("nonce", .string message.nonce)]

def SignerTypedData.toJson (typedData : SignerTypedData) : Json :=
  .object [("domain", typedData.domain.toJson),
    ("types", .object (typedData.types.map fun entry =>
      (entry.1, .array (entry.2.map TypedDataField.toJson)))),
    ("primaryType", .string typedData.primaryType), ("message", typedData.message.toJson)]

/-- The digest of a value, the members of its objects sorted with `localeCompare`. -/
def fingerprint (value : Json) : String :=
  NodeCrypto.sha256 (value.sortKeys fun left right => Collation.localeCompare left right ≤ 0).stringify

def SignRequest.fingerprint (input : SignRequest) : String :=
  Signer.fingerprint (.object [("organizationId", .string input.organizationId),
    ("amountAtomic", .string input.amountAtomic), ("typedData", input.typedData.toJson)])

end Fingerprints

/-! ### What is signed -/

def expectedAuthorizationTypes : List TypedDataField :=
  [⟨"from", "address"⟩, ⟨"to", "address"⟩, ⟨"value", "uint256"⟩, ⟨"validAfter", "uint256"⟩,
    ⟨"validBefore", "uint256"⟩, ⟨"nonce", "bytes32"⟩]

/-- `now` is in seconds. -/
def validTypedData (config : SignerConfig) (input : SignRequest) (now : ℤ) : Bool :=
  let typedData := input.typedData
  let message := typedData.message
  typedData.domain.name = "GatewayWalletBatched" && typedData.domain.version = "1" &&
  typedData.domain.chainId = config.chainId &&
  toLowerCase typedData.domain.verifyingContract = toLowerCase config.gatewayWalletAddress &&
  typedData.primaryType = "TransferWithAuthorization" &&
  typedData.types = [("TransferWithAuthorization", expectedAuthorizationTypes)] &&
  toLowerCase message.from_ = toLowerCase config.walletAddress &&
  toLowerCase message.to_ = toLowerCase config.allowedPayToAddress &&
  message.value = input.amountAtomic &&
  now - 3600 ≤ atomic message.validAfter && atomic message.validAfter ≤ now &&
  now < atomic message.validBefore && atomic message.validBefore ≤ now + 8 * 24 * 60 * 60 &&
  isHexText 64 message.nonce

/-- What is given to the signer, and for whom. -/
structure Signing where
  organizationId : String
  requestId : String
  fingerprint : String
  maximumTotalAtomic : ℕ
  typedData : SignerTypedData
  deriving DecidableEq

/-! ### The request -/

/-- What a request waits for. -/
inductive SignerCall : Type → Type
  | now : SignerCall ℤ
  | reserve (input : ReservationInput) : SignerCall (Except String SignerReservation)
  | signTypedData (signing : Signing) : SignerCall (Except String String)
  | complete (input : CompletionInput) : SignerCall (Except String Unit)
  | holdForReview (input : ReviewInput) : SignerCall (Except String Unit)

abbrev SignerProgram (α : Type) : Type 1 := Program SignerCall String α

inductive SignResponse
  | error (status : ℕ) (code : String)
  | signed (organizationId requestId walletAddress signature : String)
  deriving DecidableEq

/-- A call that throws what it is rejected with. -/
def awaiting {α : Type} (call : SignerCall (Except String α)) : SignerProgram α := do
  let reply ← perform call
  fromExcept reply

/-- `Authorization: Bearer <token>`. -/
def authorized (header : Option String) (expected : String) : Bool := header = some ("Bearer " ++ expected)

section Requests

variable [NodeCrypto] [Collation] [Viem] (config : SignerConfig) (input : SignRequest)

def SignRequest.reservation : ReservationInput where
  organizationId := config.organizationId
  callerId := config.callerId
  requestId := input.requestId
  fingerprint := input.fingerprint
  nonce := input.typedData.message.nonce
  amountAtomic := atomic input.amountAtomic
  maximumTotalAtomic := config.maximumTotalAtomic

def SignRequest.signing : Signing where
  organizationId := config.organizationId
  requestId := input.requestId
  fingerprint := input.fingerprint
  maximumTotalAtomic := config.maximumTotalAtomic
  typedData := input.typedData

def signedResponse (signature : String) : SignResponse :=
  .signed config.organizationId input.requestId config.walletAddress signature

/-- The signature is one of the wallet. -/
def checkSignature (signature error : String) : Except String Unit := do
  let recoveredAddress ← Viem.recoverTypedDataAddress input.typedData signature
  let recovered ← Viem.getAddress recoveredAddress
  let wallet ← Viem.getAddress config.walletAddress
  if recovered = wallet then .ok () else .error error

/-- A stored signature is checked again. -/
def storedResponse (signature : String) : SignResponse :=
  match checkSignature config input signature "" with
  | .ok () => signedResponse config input signature
  | .error _ => .error 502 "SIGNER_STORED_SIGNATURE_INVALID"

def refusedResponse (reservation : SignerReservation) : SignResponse :=
  match reservation with
  | .budgetExceeded => .error 403 "SIGNER_TOTAL_AUTHORITY_EXCEEDED"
  | .review => .error 409 "SIGNER_AUTHORIZATION_REVIEW"
  | _ => .error 409 "SIGNER_AUTHORIZATION_IN_PROGRESS"

def reservationError (code : String) : SignResponse :=
  if code = "SIGNER_IDEMPOTENCY_CONFLICT" || code = "SIGNER_NONCE_CONFLICT" then .error 409 code
  else .error 500 "SIGNER_AUTHORIZATION_FAILED"

/-- What is signed is checked and stored. -/
def signAndComplete : SignerProgram SignResponse := do
  let signature ← awaiting (.signTypedData (input.signing config))
  fromExcept (checkSignature config input signature "SIGNER_SIGNATURE_INVALID")
  awaiting (.complete ⟨config.organizationId, input.requestId, signature⟩)
  return signedResponse config input signature

/-- An authorization whose outcome is not known is held. That this is rejected is swallowed. -/
def holdAndFail (error : String) : SignerProgram SignResponse := do
  let invalidSignature : Bool := error = "SIGNER_SIGNATURE_INVALID"
  let _ ← perform (.holdForReview ⟨config.organizationId, input.requestId,
    if invalidSignature then "SIGNER_SIGNATURE_INVALID" else "CIRCLE_SIGNING_OUTCOME_AMBIGUOUS"⟩)
  return if invalidSignature then .error 502 "SIGNER_SIGNATURE_INVALID" else .error 503 "SIGNER_UNAVAILABLE"

/-- What follows a reservation. -/
def afterReservation (reservation : Except String SignerReservation) : SignerProgram SignResponse :=
  match reservation with
  | .error code => return reservationError code
  | .ok (.completed signature) => return storedResponse config input signature
  | .ok .reserved => (signAndComplete config input).tryCatch (holdAndFail config input)
  | .ok other => return refusedResponse other

/-- A request that is well formed. -/
def signRequest : SignerProgram SignResponse :=
  if input.organizationId ≠ config.organizationId then return .error 403 "SIGNER_TENANT_FORBIDDEN"
  else if config.maximumAtomic < atomic input.amountAtomic then return .error 403 "SIGNER_AMOUNT_EXCEEDS_CAP"
  else do
    let now ← perform .now
    if validTypedData config input now then do
      let reservation ← perform (.reserve (input.reservation config))
      afterReservation config input reservation
    else return .error 400 "SIGNER_TYPED_DATA_REJECTED"

/-- `body` is nothing if it has not the shape of the schema. -/
def postSign (header : Option String) (body : Option SignRequest) : SignerProgram SignResponse :=
  if !authorized header config.authToken then return .error 401 "SIGNER_UNAUTHORIZED"
  else
    match body.filter SignRequest.isWellFormed with
    | none => return .error 400 "SIGNER_REQUEST_INVALID"
    | some input => signRequest config input

end Requests

end FuseControlPlane.Signer
