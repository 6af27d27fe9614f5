/-
The live reconciler (`reliability/openRouterReconciler.ts`), with the classification it ends in
(`evidence/reliabilityProtocolV2.ts`).

* `classifyReconciliationContent`: the disposition of a lookup whose fields have been checked.
* `reconcile`: the disposition of the two replies to a lookup.

The replies are what `json` makes of them: their statuses, and values that `JSON.parse` gave.
-/

import FuseControlPlane.Foundation.Conversions
import FuseControlPlane.Evidence.ManifestPublication
import FuseControlPlane.Reliability.ReconciliationKernel

set_option linter.unusedSectionVars false

namespace FuseControlPlane.Reliability.Reconciler

open Foundation Foundation.JavaScript FuseControlPlane.Domain
open Kernel (DateParse has isArray bool? text? nonEmptyText? nullableString nullableCount count? router?
  providerResponses? pinnedModel requiredMetadata)

/-! ### Classification -/

inductive ReconciliationDisposition
  | reconciledNotBilled | reconciledBilledWithResponse | reconciledBilledNoResponse
  | reconciliationPending | globalFailure
  deriving DecidableEq

/-- A completion is a text, `null`, or not there. -/
structure ReconciliationContentInput where
  metadataStatus : ℤ
  contentStatus : ℤ
  finalOffset : Bool
  cancelled : Bool
  totalCostMicros : ℤ
  usageCostMicros : ℤ
  model : String
  finishReason : Option String
  tokenCountsValid : Bool
  inputMatches : Bool
  completion : Option (Option String)
  reasoning : Option String
  generationIdBound : Bool
  exact404Error : Bool := false
  networkFailure : Bool := false
  timeout : Bool := false
  malformed : Bool := false
  nonJson : Bool := false
  oversized : Bool := false

/-- A status that the provider answers a credential with that it does not accept. -/
def isRefused (status : ℤ) : Bool := status = 401 || status = 403

def classifyReconciliationContent (input : ReconciliationContentInput) : ReconciliationDisposition :=
  if isRefused input.metadataStatus || isRefused input.contentStatus then .globalFailure
  else if input.networkFailure || input.timeout || input.malformed || input.nonJson || input.oversized ||
      !input.generationIdBound || input.model ≠ pinnedModel then .reconciliationPending
  else if input.cancelled && input.totalCostMicros = 0 && input.usageCostMicros = 0 then .reconciledNotBilled
  else
    let positiveMetadata := !input.cancelled && 0 < input.totalCostMicros &&
      input.totalCostMicros = input.usageCostMicros && input.finishReason = some "stop" && input.tokenCountsValid
    let acceptedContent := input.contentStatus = 200 && input.inputMatches && input.reasoning = none
    if !positiveMetadata then .reconciliationPending
    else if acceptedContent && input.completion.any (·.isSome) then .reconciledBilledWithResponse
    else if input.finalOffset && (acceptedContent && input.completion = some none ||
        input.contentStatus = 404 && input.exact404Error) then .reconciledBilledNoResponse
    else .reconciliationPending

/-! ### Replies -/

/-- A reply: `Evidence`. -/
structure Evidence where
  parsed : Json
  status : ℤ
  bodyBase64 : String
  bytes : ℕ
  sha256 : String

structure ReconciliationLookupInput where
  generationId : String
  openRouterRequestId : Option String
  model : String
  messages : Option (List Json)
  dispatchTokenAt : Option String
  ambiguityEnteredAt : Option String
  finalOffset : Bool

/-- What a lookup comes to. -/
structure Reconciliation where
  disposition : ReconciliationDisposition
  metadata : Evidence
  content : Evidence

/-- `record(value)`: what is no object has no members. -/
def record : Option Json → Json
  | some (.object members) => .object members
  | _ => .object []

/-- A text that is given, and not empty. -/
def given? (text : Option String) : Option String := text.filter (· ≠ "")

/-- `/^[A-Za-z0-9._:-]{1,256}$/`. -/
def isGenerationId (text : String) : Bool :=
  matchesClass (fun character => character.isUpper || character.isLower || character.isDigit ||
    ['.', '_', ':', '-'].contains character) 1 256 text

/-- The cost in micro-dollars, or an error that is caught: other values are no texts of a cost, or have no
`split`. -/
def micros? (value : Option Json) : Option ℤ :=
  (value.bind CostValue.ofJson?).bind fun cost => (decimalUsdToMicros cost).toOption

/-- Both costs, up to the first that is none. -/
def costs (metadata : Json) : ℤ × ℤ :=
  match micros? (metadata.field "total_cost") with
  | none => (-1, -2)
  | some total => (total, (micros? (metadata.field "usage")).getD (-2))

/-- `metadata.request_id` is the known one, or any if none is known. -/
def requestBound (input : ReconciliationLookupInput) (metadata : Json) : Bool :=
  match given? input.openRouterRequestId with
  | some known => text? (metadata.field "request_id") = some known
  | none => (nonEmptyText? (metadata.field "request_id")).isSome

/-- Two integers are the same. An integer that is written with an exponent is no count, and refused as such. -/
def integersAgree (first second : Option Json) : Bool :=
  match first.bind Json.integer?, second.bind Json.integer? with
  | some one, some other => one = other
  | _, _ => true

def tokenPairsAgree (metadata : Json) : Bool :=
  integersAgree (metadata.field "native_tokens_prompt") (metadata.field "tokens_prompt") &&
    integersAgree (metadata.field "native_tokens_completion") (metadata.field "tokens_completion")

section Replies

variable [DateParse] [NumberFormat] [Collation]

/-- `Date.parse(String(metadata.created_at ?? ""))`, or the error of `String`. -/
def createdAt? (metadata : Json) : Except String (Option ℤ) :=
  match metadata.field "created_at" with
  | none | some .null => .ok (DateParse.parse "")
  | some value => value.stringOf.map DateParse.parse

/-- `createdAt >= lower && createdAt <= upper`. Nothing is within a bound that cannot be read. -/
def isInBounds (input : ReconciliationLookupInput) (createdAt : ℤ) : Bool :=
  ((given? input.dispatchTokenAt).all fun text => (DateParse.parse text).any (· - 300000 ≤ createdAt)) &&
    (given? input.ambiguityEnteredAt).all fun text => (DateParse.parse text).any (createdAt ≤ · + 300000)

def metadataValid (input : ReconciliationLookupInput) (status : ℤ) (metadata : Json)
    (createdAt : Option ℤ) : Bool :=
  status = 200 && requiredMetadata.all (has metadata) &&
    text? (metadata.field "id") = some input.generationId && requestBound input metadata &&
    text? (metadata.field "model") = some input.model &&
    (nonEmptyText? (metadata.field "provider_name")).isSome &&
    (nonEmptyText? (metadata.field "upstream_id")).isSome && (router? (metadata.field "router")).isSome &&
    (providerResponses? (metadata.field "provider_responses")).isSome &&
    (bool? (metadata.field "cancelled")).isSome && nullableString (metadata.field "finish_reason") &&
    nullableString (metadata.field "native_finish_reason") &&
    nullableCount (metadata.field "native_tokens_prompt") &&
    nullableCount (metadata.field "native_tokens_completion") &&
    nullableCount (metadata.field "tokens_prompt") && nullableCount (metadata.field "tokens_completion") &&
    tokenPairsAgree metadata && createdAt.any (isInBounds input)

def inputMatches (input : ReconciliationLookupInput) (content : Json) : Bool :=
  ((record (content.field "input")).field "messages").any fun messages => isArray messages &&
    Evidence.canonicalJson messages = Evidence.canonicalJson (.array (input.messages.getD []))

def exact404Error (content : Evidence) : Bool :=
  content.status = 404 && !has (record content.parsed) "data" &&
    (nonEmptyText? ((record ((record content.parsed).field "error")).field "message")).isSome

/-- A text or `null`. -/
def textOrNull? : Option Json → Option (Option String)
  | some (.string text) => some (some text)
  | some .null => some none
  | _ => none

def contentInput (input : ReconciliationLookupInput) (metadataEvidence contentEvidence : Evidence)
    (createdAt : Option ℤ) : ReconciliationContentInput :=
  let metadata := record ((record metadataEvidence.parsed).field "data")
  let content := record ((record contentEvidence.parsed).field "data")
  let output := record (content.field "output")
  let valid := metadataValid input metadataEvidence.status metadata createdAt
  { metadataStatus := metadataEvidence.status
    contentStatus := contentEvidence.status
    finalOffset := input.finalOffset
    cancelled := bool? (metadata.field "cancelled") = some true
    totalCostMicros := (costs metadata).1
    usageCostMicros := (costs metadata).2
    model := if valid then (text? (metadata.field "model")).getD "" else ""
    finishReason := text? (metadata.field "finish_reason")
    tokenCountsValid := valid && (count? (metadata.field "tokens_prompt")).isSome &&
      (count? (metadata.field "tokens_completion")).isSome
    inputMatches := inputMatches input content
    completion := textOrNull? (output.field "completion")
    reasoning := (textOrNull? (output.field "reasoning")).getD (some "invalid")
    generationIdBound := valid
    exact404Error := exact404Error contentEvidence }

/-- The disposition of the replies to a lookup. The status of a reply is checked before its fields are read. -/
def reconcile (input : ReconciliationLookupInput) (metadataEvidence contentEvidence : Evidence) :
    Except String Reconciliation := do
  require (isGenerationId input.generationId) "GENERATION_ID_INVALID"
  if isRefused metadataEvidence.status || isRefused contentEvidence.status then
    return ⟨.globalFailure, metadataEvidence, contentEvidence⟩
  else do
    let createdAt ← createdAt? (record ((record metadataEvidence.parsed).field "data"))
    return ⟨classifyReconciliationContent (contentInput input metadataEvidence contentEvidence createdAt),
      metadataEvidence, contentEvidence⟩

end Replies

end FuseControlPlane.Reliability.Reconciler
