/-
Authorization artifacts and the decision on a pair of them (`evidence/reliabilityRuntimeV2.ts`).

* `Ed25519`: the verification of signatures over bytes.
* `verifyAuthorizationArtifact`: the checks of one artifact; an artifact is any JSON value.
* `AuthorizationDecisionStore.decide`, `failPredecision`, `recoverPublication`: the decision on two artifacts, which
  is committed once and published again by every later call.
* `ValidArtifact`: what an accepted artifact is meant to be; `Rightful` is all of it but the expiry.
* `verify_eq_true_iff`: what is accepted. An expiry that is no date is accepted as well.
* `accepted_iff_valid_and_active_justified`: **an artifact is accepted exactly if it is valid, unless one of the two
  dates of a rightful artifact is none; and in every run a store is active and consumes a nonce only after a call
  with two accepted artifacts of different actors and issuers**.
-/

import FuseControlPlane.Domain.Policy
import FuseControlPlane.Evidence.AuthoritativeEvidence
import FuseControlPlane.Evidence.ManifestPublication
import FuseControlPlane.Foundation.Conversions
import FuseControlPlane.Foundation.Methods
import FuseControlPlane.Foundation.Runs

set_option linter.unusedSectionVars false

namespace FuseControlPlane.Evidence

open Foundation Foundation.JavaScript Domain

/-- `verify(null, message, createPublicKey({ key, type: "spki", format: "der" }), signature)`. -/
class Ed25519 where
  verify : List UInt8 → List UInt8 → List UInt8 → Bool
  /-- A signature has 64 bytes. -/
  signature_length : ∀ {key message signature}, verify key message signature = true → signature.length = 64

/-! ### Inputs -/

/-- The capability of an artifact of the kind. -/
def AuthorizationKind.capability : AuthorizationKind → String
  | operator => "evidence:authorize-spend"
  | reconciliation => "evidence:authorize-reconciliation"

structure TrustedIssuer where
  id : String
  rawPublicKeyHex : String

structure TrustedAuthorizationIssuers where
  operator : TrustedIssuer
  reconciliation : TrustedIssuer

/-- `issuers[kind]`. -/
def TrustedAuthorizationIssuers.ofKind (issuers : TrustedAuthorizationIssuers) : AuthorizationKind → TrustedIssuer
  | .operator => issuers.operator
  | .reconciliation => issuers.reconciliation

/-- `PINNED_ISSUERS`. -/
def pinnedIssuers : TrustedAuthorizationIssuers where
  operator := ⟨"ed25519:5936e9fd2316a5c687b8ee689d5ed9df54c0b29e8f9c74a884e7e916dda6af9f",
    "f497a6d923a879345e44f844f97a252c7bd9ef2ba41ab16882aab84acdc5577c"⟩
  reconciliation := ⟨"ed25519:6c25b425c7aee36c2ca60e55700ec3b81350994b0d25407abc97f9dedd73b817",
    "479e0805285d0d80ca01665952f47b2f48378937b0aaa7300a887f2fb5a662fb"⟩

structure ExpectedIdentity where
  organizationId : String
  profileFingerprint : String
  serviceAccountId : String
  credentialId : String
  credentialOwnerId : String

/-- What the artifacts of a run are compared with. -/
structure AuthorizationContext where
  now : String
  expectedRunId : String
  expectedPlanFingerprint : String
  expectedExecutableFingerprint : String

structure VerificationInput extends AuthorizationContext where
  expectedV3Identity : Option ExpectedIdentity
  expectedProtocolIdentity : Option ExpectedIdentity

/-- `input.expectedProtocolIdentity ?? input.expectedV3Identity`. -/
def VerificationInput.expectedIdentity (input : VerificationInput) : Option ExpectedIdentity :=
  input.expectedProtocolIdentity.or input.expectedV3Identity

def v2Names : List String :=
  ["actorId", "capability", "executableFingerprint", "expiresAt", "issuerCredentialId", "kind", "nonce",
    "planFingerprint", "runId"]

def v3Names : List String :=
  ["actorId", "capability", "credentialId", "credentialOwnerId", "executableFingerprint", "expiresAt",
    "issuerCredentialId", "kind", "nonce", "organizationId", "planFingerprint", "profileFingerprint", "runId",
    "serviceAccountId"]

def v2Keys : String :=
  "actorId,capability,executableFingerprint,expiresAt,issuerCredentialId,kind,nonce,planFingerprint,runId"

def v3Keys : String :=
  "actorId,capability,credentialId,credentialOwnerId,executableFingerprint,expiresAt,issuerCredentialId,kind,nonce," ++
    "organizationId,planFingerprint,profileFingerprint,runId,serviceAccountId"

def VerificationInput.expectedKeys (input : VerificationInput) : String :=
  if input.expectedIdentity.isSome then v3Keys else v2Keys

/-! ### The checks of an artifact -/

/-- `Buffer.from(text, "base64")` of a base64 text. -/
def base64Bytes (text : String) : List UInt8 :=
  (Base64.decodeValues ((text.toList.takeWhile (· ≠ '=')).filterMap Base64.value?)).map UInt8.ofNat

/-- `Buffer.from(text, "utf8")`. -/
def utf8Bytes (text : String) : List UInt8 := text.toUTF8.toList

section Verification

variable [NumberFormat] [Collation] [Ed25519] [Reliability.Kernel.DateParse]

def authorizationPayloadBytes (payload : Json) : List UInt8 := utf8Bytes (canonicalJson payload)

/-- `object[name] === text`. -/
def isText (value : Json) (name text : String) : Bool := Json.strictEquals (value.field name) (some (.string text))

/-- The payload is an object with the joined keys. -/
def hasKeys (payload : Json) (keys : String) : Bool :=
  payload.ownKeys.any fun own => ",".intercalate (sortTexts own) = keys

/-- The comparisons before the one of the dates. -/
def isForRun (payload : Json) (kind : AuthorizationKind) (input : VerificationInput) : Bool :=
  isText payload "kind" kind.toText && isText payload "capability" kind.capability &&
    isText payload "runId" input.expectedRunId && isText payload "planFingerprint" input.expectedPlanFingerprint &&
    isText payload "executableFingerprint" input.expectedExecutableFingerprint

/-- `first <= second`, of times that are `none` if they are not a number. -/
def isAtMost : Option ℤ → Option ℤ → Bool
  | some first, some second => first ≤ second
  | _, _ => false

def nonceFits (payload : Json) : AuthorizationKind → Bool
  | .operator => (payload.field "nonce").any Json.isTruthy
  | .reconciliation => Json.strictEquals (payload.field "nonce") (some .null)

def ExpectedIdentity.isOf (identity : ExpectedIdentity) (payload : Json) : Bool :=
  isText payload "organizationId" identity.organizationId &&
    isText payload "profileFingerprint" identity.profileFingerprint &&
    isText payload "serviceAccountId" identity.serviceAccountId &&
    isText payload "credentialId" identity.credentialId &&
    isText payload "credentialOwnerId" identity.credentialOwnerId

/-- The comparisons after the one of the dates. -/
def isFromIssuer (payload : Json) (kind : AuthorizationKind) (input : VerificationInput) (issuer : TrustedIssuer) :
    Bool :=
  nonceFits payload kind && !Json.strictEquals (payload.field "actorId") (payload.field "issuerCredentialId") &&
    isText payload "issuerCredentialId" issuer.id && Reliability.Kernel.isDigest issuer.rawPublicKeyHex &&
    input.expectedIdentity.all (·.isOf payload)

/-- The key of an issuer in DER. -/
def TrustedIssuer.spki (issuer : TrustedIssuer) : List UInt8 :=
  hexBytes "302a300506032b6570032100".toList ++ hexBytes issuer.rawPublicKeyHex.toList

/-- The bytes of `Buffer.from(signature, "base64")`, unless it throws. The text of the signature has passed the check,
so it is no object. -/
def signatureBytes : Option Json → Option (List UInt8)
  | some (.string text) => some (base64Bytes text)
  | some (.array elements) => some (elements.map NumberFormat.byte)
  | _ => none

def isSigned (payload : Json) (issuer : TrustedIssuer) (signature : Option Json) : Bool :=
  (signatureBytes signature).any (Ed25519.verify issuer.spki (authorizationPayloadBytes payload))

/-- The payload and the signature of what is presented. -/
def presented (artifact : Option Json) (name : String) : Option Json := artifact.bind (Json.field name)

def verifyAuthorizationArtifact (artifact : Option Json) (kind : AuthorizationKind) (input : VerificationInput)
    (issuers : TrustedAuthorizationIssuers) : Except String Bool :=
  match presented artifact "payload" with
  | none => .ok false
  | some payload =>
    if !(hasKeys payload input.expectedKeys && isForRun payload kind input) then .ok false
    else do
      let expiresAt ← Json.stringOfField (payload.field "expiresAt")
      if isAtMost (Reliability.Kernel.DateParse.parse expiresAt) (Reliability.Kernel.DateParse.parse input.now) ||
          !isFromIssuer payload kind input (issuers.ofKind kind) then return false
      let signature ← Json.stringOfField (presented artifact "signature")
      if !isBase64 signature then return false
      return isSigned payload (issuers.ofKind kind) (presented artifact "signature")

end Verification

/-! ### The decision -/

/-- The statuses of both receipts. -/
inductive ReceiptStatus
  | consumed
  | validNotConsumedPeerInvalid
  | absentOrInvalid
  | readinessFailed
  | validated
  | validNotActivatedPeerInvalid
  deriving DecidableEq

def ReceiptStatus.toText : ReceiptStatus → String
  | consumed => "consumed"
  | validNotConsumedPeerInvalid => "valid_not_consumed_peer_invalid"
  | absentOrInvalid => "absent_or_invalid"
  | readinessFailed => "readiness_failed"
  | validated => "validated"
  | validNotActivatedPeerInvalid => "valid_not_activated_peer_invalid"

structure AuthorizationReceipt where
  kind : AuthorizationKind
  status : ReceiptStatus
  databaseValidationTime : String
  expectedSignedFieldFingerprint : String
  presentedArtifactSha256 : Option String
  credentialId : Json
  issuerCredentialId : Json
  reasonCode : String

def AuthorizationReceipt.toJson (receipt : AuthorizationReceipt) : Json := .object
  [("kind", .string receipt.kind.toText), ("status", .string receipt.status.toText),
    ("databaseValidationTime", .string receipt.databaseValidationTime),
    ("expectedSignedFieldFingerprint", .string receipt.expectedSignedFieldFingerprint),
    ("presentedArtifactSha256", (receipt.presentedArtifactSha256.map Json.string).getD .null),
    ("credentialId", receipt.credentialId), ("issuerCredentialId", receipt.issuerCredentialId),
    ("reasonCode", .string receipt.reasonCode)]

inductive DecisionKind
  | authorizationDecision
  | readinessPredecisionFailed
  deriving DecidableEq

inductive AuthorizationControl
  | active
  | failed
  deriving DecidableEq

inductive NonceDisposition
  | consumed
  | unused
  deriving DecidableEq

structure AuthorizationDecision where
  decisionId : String
  kind : DecisionKind
  control : AuthorizationControl
  nonceDisposition : NonceDisposition
  operatorReceipt : AuthorizationReceipt
  reconciliationReceipt : AuthorizationReceipt

inductive CrashAt
  | beforeCommit
  | afterCommit
  | afterOperatorReceipt
  | afterReconciliationReceipt
  deriving DecidableEq

structure DecideInput extends AuthorizationContext where
  operator : Option Json
  reconciliation : Option Json
  crashAt : Option CrashAt

/-- The input as `verifyAuthorizationArtifact` takes it. -/
def DecideInput.verification (input : DecideInput) : VerificationInput :=
  ⟨input.toAuthorizationContext, none, none⟩

/-- The fields of the store. -/
structure AuthorizationDecisionStore where
  committedDecision : Option AuthorizationDecision
  published : AuthorizationKind → Option AuthorizationReceipt
  consumedNonces : List Json

namespace AuthorizationDecisionStore

/-- A new store. -/
def new : AuthorizationDecisionStore := ⟨none, fun _ => none, []⟩

section Decisions

variable [NodeCrypto] [Collation]

/-- `artifact?.payload[name] ?? null`. -/
def payloadMember (artifact : Option Json) (name : String) : Except String Json :=
  match artifact with
  | none | some .null => .ok .null
  | some artifact =>
    match artifact.field "payload" with
    | none => .error ("Cannot read properties of undefined (reading '" ++ name ++ "')")
    | some .null => .error ("Cannot read properties of null (reading '" ++ name ++ "')")
    | some payload => .ok ((payload.field name).getD .null)

def sha256Of (value : Json) : String := NodeCrypto.sha256 (canonicalJson value)

def receiptOf [NumberFormat] (input : DecideInput) (active : Bool) (kind : AuthorizationKind) (status : ReceiptStatus)
    (artifact : Option Json) : Except String AuthorizationReceipt := do
  return {
    kind := kind
    status := status
    databaseValidationTime := input.now
    expectedSignedFieldFingerprint := "sha256:" ++ sha256Of (.object [("runId", .string input.expectedRunId),
      ("planFingerprint", .string input.expectedPlanFingerprint),
      ("executableFingerprint", .string input.expectedExecutableFingerprint)])
    presentedArtifactSha256 := (artifact.filter Json.isTruthy).map fun artifact => "sha256:" ++ sha256Of artifact
    credentialId := ← payloadMember artifact "actorId"
    issuerCredentialId := ← payloadMember artifact "issuerCredentialId"
    reasonCode := if active then "valid_pair" else "absent_or_invalid_pair" }

def operatorStatus (operatorValid reconciliationValid : Bool) : ReceiptStatus :=
  if operatorValid then if reconciliationValid then .consumed else .validNotConsumedPeerInvalid
  else .absentOrInvalid

def reconciliationStatus (operatorValid reconciliationValid : Bool) : ReceiptStatus :=
  if reconciliationValid then if operatorValid then .validated else .validNotActivatedPeerInvalid
  else .absentOrInvalid

def decisionIdOf (input : DecideInput) (operatorValid reconciliationValid : Bool) : String :=
  "authz-" ++ take 24 (sha256Of (.object
    [("input", .object [("now", .string input.now), ("expectedRunId", .string input.expectedRunId),
        ("expectedPlanFingerprint", .string input.expectedPlanFingerprint),
        ("expectedExecutableFingerprint", .string input.expectedExecutableFingerprint)]),
      ("operatorValid", .bool operatorValid), ("reconciliationValid", .bool reconciliationValid)]))

/-- The decision and its receipts. -/
def decisionOf [NumberFormat] (input : DecideInput) (operatorValid reconciliationValid : Bool) :
    Except String AuthorizationDecision := do
  let operatorReceipt ← receiptOf input (operatorValid && reconciliationValid) .operator
    (operatorStatus operatorValid reconciliationValid) input.operator
  let reconciliationReceipt ← receiptOf input (operatorValid && reconciliationValid) .reconciliation
    (reconciliationStatus operatorValid reconciliationValid) input.reconciliation
  return {
    decisionId := decisionIdOf input operatorValid reconciliationValid
    kind := .authorizationDecision
    control := if operatorValid && reconciliationValid then .active else .failed
    nonceDisposition := if operatorValid && reconciliationValid then .consumed else .unused
    operatorReceipt := operatorReceipt
    reconciliationReceipt := reconciliationReceipt }

def publish (receipt : AuthorizationReceipt) (kind : AuthorizationKind) :
    Method AuthorizationDecisionStore Unit := do
  let store ← get
  Method.check ((store.published kind).all fun existing =>
    canonicalJson existing.toJson = canonicalJson receipt.toJson) "AUTHORIZATION_RECEIPT_CONFLICT"
  modify fun store => { store with published := Function.update store.published kind (some receipt) }

def recoverPublication : Method AuthorizationDecisionStore AuthorizationDecision := do
  let store ← get
  match store.committedDecision with
  | none => throw "AUTHORIZATION_DECISION_ABSENT"
  | some decision =>
    publish decision.operatorReceipt .operator
    publish decision.reconciliationReceipt .reconciliation
    return decision

def failedReceipt (reasonCode now : String) (kind : AuthorizationKind) : AuthorizationReceipt where
  kind := kind
  status := .readinessFailed
  databaseValidationTime := now
  expectedSignedFieldFingerprint := "sha256:" ++ String.ofList (List.replicate 64 '0')
  presentedArtifactSha256 := none
  credentialId := .null
  issuerCredentialId := .null
  reasonCode := reasonCode

/-- `reasonCode` is the one of the deadline that was missed. -/
def failPredecision (reasonCode now : String) : Method AuthorizationDecisionStore AuthorizationDecision := do
  let store ← get
  match store.committedDecision with
  | some _ => recoverPublication
  | none =>
    modify fun store => { store with committedDecision := some {
      decisionId := "readiness-failed-" ++ reasonCode
      kind := .readinessPredecisionFailed
      control := .failed
      nonceDisposition := .unused
      operatorReceipt := failedReceipt reasonCode now .operator
      reconciliationReceipt := failedReceipt reasonCode now .reconciliation } }
    recoverPublication

/-- The error of an injected crash. -/
def crash : String := "INJECTED_AUTHORIZATION_CRASH"

section Decide

variable [NumberFormat] [Ed25519] [Reliability.Kernel.DateParse]

/-- `input[kind].payload[name]` of the two artifacts is the same. -/
def agreeOn (input : DecideInput) (name : String) : Bool :=
  Json.strictEquals ((presented input.operator "payload").bind (Json.field name))
    ((presented input.reconciliation "payload").bind (Json.field name))

/-- `operatorValid` and `reconciliationValid`. -/
def validities (issuers : TrustedAuthorizationIssuers) (input : DecideInput) : Except String (Bool × Bool) := do
  let operatorValid ← verifyAuthorizationArtifact input.operator .operator input.verification issuers
  let reconciliationValid ← verifyAuthorizationArtifact input.reconciliation .reconciliation input.verification issuers
  if operatorValid && reconciliationValid && (agreeOn input "actorId" || agreeOn input "issuerCredentialId") then
    return (false, false)
  return (operatorValid, reconciliationValid)

/-- The decision is committed; an active one consumes the nonce. -/
def commit (input : DecideInput) (decision : AuthorizationDecision) (store : AuthorizationDecisionStore) :
    AuthorizationDecisionStore where
  committedDecision := some decision
  published := store.published
  consumedNonces :=
    match ((presented input.operator "payload").bind (Json.field "nonce")).filter Json.isTruthy with
    | some nonce =>
      if decision.control = .active && !store.consumedNonces.any fun consumed =>
          Json.strictEquals (some consumed) (some nonce) then store.consumedNonces ++ [nonce]
      else store.consumedNonces
    | none => store.consumedNonces

def decide (issuers : TrustedAuthorizationIssuers) (input : DecideInput) :
    Method AuthorizationDecisionStore AuthorizationDecision := do
  let store ← get
  match store.committedDecision with
  | some _ => recoverPublication
  | none =>
    let (operatorValid, reconciliationValid) ← Method.fromExcept (validities issuers input)
    Method.check (input.crashAt ≠ some .beforeCommit) crash
    let decision ← Method.fromExcept (decisionOf input operatorValid reconciliationValid)
    modify (commit input decision)
    Method.check (input.crashAt ≠ some .afterCommit) crash
    publish decision.operatorReceipt .operator
    Method.check (input.crashAt ≠ some .afterOperatorReceipt) crash
    publish decision.reconciliationReceipt .reconciliation
    Method.check (input.crashAt ≠ some .afterReconciliationReceipt) crash
    return decision

/-- The calls of a store. -/
inductive Call
  | decide (input : DecideInput)
  | failPredecision (reasonCode now : String)
  | recoverPublication

/-- Perform a call. -/
def perform (issuers : TrustedAuthorizationIssuers) : Call → Method AuthorizationDecisionStore AuthorizationDecision
  | .decide input => decide issuers input
  | .failPredecision reasonCode now => failPredecision reasonCode now
  | .recoverPublication => recoverPublication

/-- The store after a call, also after one that throws. -/
def step (issuers : TrustedAuthorizationIssuers) (store : AuthorizationDecisionStore) (call : Call) :
    AuthorizationDecisionStore := Method.left (perform issuers call store)

end Decide

end Decisions

end AuthorizationDecisionStore

/-! ### Valid artifacts -/

def VerificationInput.expectedNames (input : VerificationInput) : List String :=
  if input.expectedIdentity.isSome then v3Names else v2Names

/-- The members of the payload that name the identity. -/
structure ExpectedIdentity.Named (identity : ExpectedIdentity) (payload : Json) : Prop where
  organizationId : payload.field "organizationId" = some (.string identity.organizationId)
  profileFingerprint : payload.field "profileFingerprint" = some (.string identity.profileFingerprint)
  serviceAccountId : payload.field "serviceAccountId" = some (.string identity.serviceAccountId)
  credentialId : payload.field "credentialId" = some (.string identity.credentialId)
  credentialOwnerId : payload.field "credentialOwnerId" = some (.string identity.credentialOwnerId)

section Acceptance

variable [NumberFormat] [Collation] [Ed25519] [Reliability.Kernel.DateParse]

/-- A nonce of the operator, none of the reconciliation. -/
def NoncePresent (payload : Json) : AuthorizationKind → Prop
  | .operator => ∃ nonce, payload.field "nonce" = some nonce ∧ nonce.isTruthy = true
  | .reconciliation => payload.field "nonce" = some .null

/-- Everything about an artifact but its expiry is as it should be. -/
structure Rightful (payload : Json) (signature : Option Json) (kind : AuthorizationKind) (input : VerificationInput)
    (issuer : TrustedIssuer) : Prop where
  names : ∃ members, payload = .object members ∧ (members.map (·.1)).Perm input.expectedNames
  ofKind : payload.field "kind" = some (.string kind.toText)
  capability : payload.field "capability" = some (.string kind.capability)
  runId : payload.field "runId" = some (.string input.expectedRunId)
  planFingerprint : payload.field "planFingerprint" = some (.string input.expectedPlanFingerprint)
  executableFingerprint : payload.field "executableFingerprint" = some (.string input.expectedExecutableFingerprint)
  identity : ∀ identity ∈ input.expectedIdentity, identity.Named payload
  fromIssuer : payload.field "issuerCredentialId" = some (.string issuer.id)
  actor : payload.field "actorId" ≠ some (.string issuer.id)
  nonce : NoncePresent payload kind
  signed : ∃ text, signature = some (.string text) ∧ isBase64 text = true ∧
    Reliability.Kernel.isDigest issuer.rawPublicKeyHex = true ∧
    Ed25519.verify issuer.spki (authorizationPayloadBytes payload) (base64Bytes text) = true

/-- A value as a date: the instant of its text. -/
def DenotesInstant (value : Option Json) (instant : ℤ) : Prop :=
  ∃ text, Json.stringOfField value = .ok text ∧ Reliability.Kernel.DateParse.parse text = some instant

/-- **A valid artifact**: rightful, and its expiry is an instant later than now. -/
def ValidArtifact (artifact : Option Json) (kind : AuthorizationKind) (input : VerificationInput)
    (issuers : TrustedAuthorizationIssuers) : Prop :=
  ∃ payload, presented artifact "payload" = some payload ∧
    Rightful payload (presented artifact "signature") kind input (issuers.ofKind kind) ∧
    ∃ expiry now, DenotesInstant (payload.field "expiresAt") expiry ∧
      Reliability.Kernel.DateParse.parse input.now = some now ∧ now < expiry

/-- The expiry of a rightful artifact and the time it is compared with are dates. An expiry without a text is not
compared. -/
def DatesDenote (artifact : Option Json) (kind : AuthorizationKind) (input : VerificationInput)
    (issuers : TrustedAuthorizationIssuers) : Prop :=
  ∀ payload text, presented artifact "payload" = some payload →
    Rightful payload (presented artifact "signature") kind input (issuers.ofKind kind) →
    Json.stringOfField (payload.field "expiresAt") = .ok text →
    (Reliability.Kernel.DateParse.parse text).isSome = true ∧
      (Reliability.Kernel.DateParse.parse input.now).isSome = true

/-! ### The checks, one by one -/

theorem strictEquals_text {value : Option Json} {text : String} :
    Json.strictEquals value (some (.string text)) = true ↔ value = some (.string text) := by
  rcases value with _ | (_ | _ | _ | _ | _ | _) <;> simp [Json.strictEquals]

theorem isText_iff {value : Json} {name text : String} :
    isText value name text = true ↔ value.field name = some (.string text) := strictEquals_text

theorem nonceFits_iff {payload : Json} {kind : AuthorizationKind} :
    nonceFits payload kind = true ↔ NoncePresent payload kind := by
  cases kind with
  | operator => simp [nonceFits, NoncePresent, Option.any_eq_true]
  | reconciliation =>
    show Json.strictEquals (payload.field "nonce") _ = true ↔ payload.field "nonce" = _
    rcases payload.field "nonce" with _ | (_ | _ | _ | _ | _ | _) <;> simp [Json.strictEquals]

theorem ExpectedIdentity.isOf_iff {identity : ExpectedIdentity} {payload : Json} :
    identity.isOf payload = true ↔ identity.Named payload := by
  simp only [ExpectedIdentity.isOf, Bool.and_eq_true, isText_iff]
  exact ⟨fun ⟨⟨⟨⟨first, second⟩, third⟩, fourth⟩, fifth⟩ => ⟨first, second, third, fourth, fifth⟩,
    fun named => ⟨⟨⟨⟨named.organizationId, named.profileFingerprint⟩, named.serviceAccountId⟩,
      named.credentialId⟩, named.credentialOwnerId⟩⟩

theorem mem_names_of_field {name : String} {value : Json} {members : List (String × Json)}
    (found : (Json.object members).field name = some value) : name ∈ members.map (·.1) := by
  rw [Json.field, Option.map_eq_some_iff] at found
  obtain ⟨member, here, rfl⟩ := found
  have same := List.find?_some here
  rw [beq_iff_eq] at same
  rw [← same]
  exact List.mem_map_of_mem (List.mem_reverse.mp (List.mem_of_find?_eq_some here))

theorem v2Keys_eq : v2Keys = ",".intercalate v2Names := by decide +kernel

theorem v3Keys_eq : v3Keys = ",".intercalate v3Names := by decide +kernel

theorem VerificationInput.expectedKeys_eq (input : VerificationInput) :
    input.expectedKeys = ",".intercalate input.expectedNames := by
  unfold VerificationInput.expectedKeys VerificationInput.expectedNames
  split
  · exact v3Keys_eq
  · exact v2Keys_eq

/-- The names whose members are compared. -/
def comparedNames (input : VerificationInput) : List String :=
  ["kind", "capability", "runId", "planFingerprint", "executableFingerprint", "issuerCredentialId", "nonce"] ++
    if input.expectedIdentity.isSome then
      ["organizationId", "profileFingerprint", "serviceAccountId", "credentialId", "credentialOwnerId"]
    else []

/-- **Keys with every compared name are the expected ones if their joined texts are.** Two names that are not
compared are no neighbours in the text, so that no key can stand for both. -/
theorem perm_of_joined {input : VerificationInput} {keys : List String}
    (compared : ∀ name ∈ comparedNames input, name ∈ keys)
    (joined : ",".intercalate (sortTexts keys) = input.expectedKeys) : keys.Perm input.expectedNames := by
  have sorted : ∀ name ∈ comparedNames input, name ∈ sortTexts keys :=
    fun name member => (perm_sortTexts keys).mem_iff.mpr (compared name member)
  have filled : sortTexts keys ≠ [] :=
    List.ne_nil_of_mem (sorted "kind" (List.mem_append_left _ List.mem_cons_self))
  have covered {names : List String} (chain : names.IsChain fun name next =>
      name ∈ comparedNames input ∨ next ∈ comparedNames input) :
      names.IsChain fun name next => name ∈ sortTexts keys ∨ next ∈ sortTexts keys :=
    chain.imp fun _ _ => Or.imp (sorted _) (sorted _)
  rw [input.expectedKeys_eq] at joined
  have same : sortTexts keys = input.expectedNames := by
    unfold VerificationInput.expectedNames at joined ⊢
    unfold comparedNames at covered
    cases given : input.expectedIdentity.isSome with
    | true =>
      rw [given] at joined covered
      exact eq_of_join_eq filled (by decide) (by decide) (by decide) (covered (by decide)) joined
    | false =>
      rw [given] at joined covered
      exact eq_of_join_eq filled (by decide) (by decide) (by decide) (covered (by decide)) joined
  rw [← same]
  exact (perm_sortTexts keys).symm

theorem joined_of_perm {input : VerificationInput} {keys : List String} (perm : keys.Perm input.expectedNames) :
    ",".intercalate (sortTexts keys) = input.expectedKeys := by
  rw [sortTexts_eq_iff.mpr perm, input.expectedKeys_eq]
  unfold VerificationInput.expectedNames
  split <;> decide +kernel

theorem bytes_of_signature {payload : Json} {issuer : TrustedIssuer} {signature : Option Json} {text : String}
    (written : Json.stringOfField signature = .ok text) (base64 : isBase64 text = true)
    (signed : isSigned payload issuer signature = true) : signature = some (.string text) ∧
      Ed25519.verify issuer.spki (authorizationPayloadBytes payload) (base64Bytes text) = true := by
  unfold isSigned at signed
  obtain ⟨bytes, read, verified⟩ := (Option.any_eq_true _ _).mp signed
  rcases signature with _ | (_ | _ | _ | other | elements | _)
  case some.string =>
    cases written
    cases read
    exact ⟨rfl, verified⟩
  case some.array =>
    -- An array with such a text has one element, and a signature has more bytes.
    cases read
    have few := Json.length_of_stringOf_array written (comma_of_isBase64 base64)
    have long := Ed25519.signature_length verified
    rw [List.length_map] at long
    omega
  all_goals cases read

/-- The comparisons that do not depend on a date. -/
theorem rightful_iff {payload : Json} {signature : Option Json} {kind : AuthorizationKind} {input : VerificationInput}
    {issuer : TrustedIssuer} : Rightful payload signature kind input issuer ↔
      (hasKeys payload input.expectedKeys = true ∧ isForRun payload kind input = true) ∧
        isFromIssuer payload kind input issuer = true ∧
        ∃ text, Json.stringOfField signature = .ok text ∧ isBase64 text = true ∧
          isSigned payload issuer signature = true := by
  have sameActor (from_issuer : payload.field "issuerCredentialId" = some (.string issuer.id)) :
      Json.strictEquals (payload.field "actorId") (payload.field "issuerCredentialId") = false ↔
        payload.field "actorId" ≠ some (.string issuer.id) := by
    rw [from_issuer, Ne, ← strictEquals_text, Bool.not_eq_true]
  constructor
  · intro rightful
    obtain ⟨members, rfl, perm⟩ := rightful.names
    obtain ⟨text, rfl, base64, digest, verified⟩ := rightful.signed
    refine ⟨⟨?_, ?_⟩, ?_, text, rfl, base64, ?_⟩
    · exact decide_eq_true (joined_of_perm perm)
    · simp only [isForRun, Bool.and_eq_true, isText_iff]
      exact ⟨⟨⟨⟨rightful.ofKind, rightful.capability⟩, rightful.runId⟩, rightful.planFingerprint⟩,
        rightful.executableFingerprint⟩
    · simp only [isFromIssuer, Bool.and_eq_true, isText_iff, nonceFits_iff, Bool.not_eq_true',
        sameActor rightful.fromIssuer, Option.all_eq_true, ExpectedIdentity.isOf_iff]
      exact ⟨⟨⟨⟨rightful.nonce, rightful.actor⟩, rightful.fromIssuer⟩, digest⟩, rightful.identity⟩
    · exact verified
  · rintro ⟨⟨keys, forRun⟩, fromIssuer, text, written, base64, signed⟩
    simp only [isForRun, Bool.and_eq_true, isText_iff] at forRun
    simp only [isFromIssuer, Bool.and_eq_true, isText_iff, nonceFits_iff, Bool.not_eq_true', Option.all_eq_true,
      ExpectedIdentity.isOf_iff] at fromIssuer
    obtain ⟨⟨⟨⟨ofKind, capability⟩, runId⟩, plan⟩, executable⟩ := forRun
    obtain ⟨⟨⟨⟨nonce, actor⟩, issued⟩, digest⟩, identity⟩ := fromIssuer
    obtain ⟨rfl, verified⟩ := bytes_of_signature written base64 signed
    -- A value with a member is an object.
    obtain ⟨members, rfl⟩ : ∃ members, payload = .object members := by
      cases payload with
      | object members => exact ⟨members, rfl⟩
      | _ => cases ofKind
    refine ⟨⟨members, rfl, perm_of_joined ?_ (of_decide_eq_true keys)⟩, ofKind, capability, runId, plan, executable,
      identity, issued, (sameActor issued).mp actor, nonce, text, rfl, base64, digest, verified⟩
    have nonceMember : "nonce" ∈ members.map (·.1) := by
      cases kind with
      | operator =>
        obtain ⟨value, found, _⟩ := nonce
        exact mem_names_of_field found
      | reconciliation => exact mem_names_of_field nonce
    intro name member
    rcases List.mem_append.mp member with always | identified
    · simp only [List.mem_cons, List.not_mem_nil, or_false] at always
      rcases always with rfl | rfl | rfl | rfl | rfl | rfl | rfl
      exacts [mem_names_of_field ofKind, mem_names_of_field capability, mem_names_of_field runId,
        mem_names_of_field plan, mem_names_of_field executable, mem_names_of_field issued, nonceMember]
    · cases given : input.expectedIdentity with
      | none =>
        rw [given] at identified
        cases identified
      | some expected =>
        have named := identity expected given
        rw [given] at identified
        simp only [Option.isSome_some, if_true, List.mem_cons, List.not_mem_nil, or_false] at identified
        rcases identified with rfl | rfl | rfl | rfl | rfl
        exacts [mem_names_of_field named.organizationId, mem_names_of_field named.profileFingerprint,
          mem_names_of_field named.serviceAccountId, mem_names_of_field named.credentialId,
          mem_names_of_field named.credentialOwnerId]

/-- **What is accepted**: a rightful artifact whose expiry is not a date before now, or now. -/
theorem verify_eq_true_iff {artifact : Option Json} {kind : AuthorizationKind} {input : VerificationInput}
    {issuers : TrustedAuthorizationIssuers} : verifyAuthorizationArtifact artifact kind input issuers = .ok true ↔
      ∃ payload text, presented artifact "payload" = some payload ∧
        Rightful payload (presented artifact "signature") kind input (issuers.ofKind kind) ∧
        Json.stringOfField (payload.field "expiresAt") = .ok text ∧
        isAtMost (Reliability.Kernel.DateParse.parse text) (Reliability.Kernel.DateParse.parse input.now) = false := by
  unfold verifyAuthorizationArtifact
  cases presented artifact "payload" with
  | none => exact ⟨nofun, fun ⟨_, _, nothing, _⟩ => nomatch nothing⟩
  | some payload =>
    simp only [Option.some.injEq, exists_and_left, existsAndEq, true_and, rightful_iff]
    cases keys : hasKeys payload input.expectedKeys && isForRun payload kind input with
    | false => simp [← Bool.and_eq_true, keys]
    | true =>
      rw [Bool.and_eq_true] at keys
      simp only [Bool.not_true, Bool.false_eq_true, if_false, keys, and_self, true_and]
      cases expiry : Json.stringOfField (payload.field "expiresAt") with
      | error message => exact ⟨nofun, fun ⟨_, _, nothing, _⟩ => nomatch nothing⟩
      | ok text =>
        simp only [bind, Except.bind, pure, Except.pure, Except.ok.injEq, existsAndEq, true_and]
        cases late : isAtMost (Reliability.Kernel.DateParse.parse text) (Reliability.Kernel.DateParse.parse input.now) with
        | true => simp
        | false =>
          cases fromIssuer : isFromIssuer payload kind input (issuers.ofKind kind) with
          | false => simp
          | true =>
            cases written : Json.stringOfField (presented artifact "signature") with
            | error message => simp
            | ok signature => cases base64 : isBase64 signature <;> simp [base64]

theorem isAtMost_eq_false_of_none {first second : Option ℤ} (missing : first = none ∨ second = none) :
    isAtMost first second = false := by
  rcases missing with rfl | rfl
  · rfl
  · cases first <;> rfl

/-- **An artifact is accepted exactly if it is valid, unless it is rightful and a date is none.** -/
theorem accepted_iff_valid {artifact : Option Json} {kind : AuthorizationKind} {input : VerificationInput}
    {issuers : TrustedAuthorizationIssuers} :
    (verifyAuthorizationArtifact artifact kind input issuers = .ok true ↔ ValidArtifact artifact kind input issuers) ↔
      DatesDenote artifact kind input issuers := by
  rw [verify_eq_true_iff]
  constructor
  · intro agree payload text shown rightful written
    by_contra undated
    have missing : Reliability.Kernel.DateParse.parse text = none ∨
        Reliability.Kernel.DateParse.parse input.now = none := by
      rw [not_and_or] at undated
      exact undated.imp Option.not_isSome_iff_eq_none.mp Option.not_isSome_iff_eq_none.mp
    obtain ⟨_, shown', _, expiry, now, ⟨_, written', expires⟩, isNow, _⟩ :=
      agree.mp ⟨payload, text, shown, rightful, written, isAtMost_eq_false_of_none missing⟩
    cases shown.symm.trans shown'
    cases written.symm.trans written'
    rcases missing with none | none
    · cases none.symm.trans expires
    · cases none.symm.trans isNow
  · intro dated
    constructor
    · rintro ⟨payload, text, shown, rightful, written, later⟩
      obtain ⟨one, other⟩ := dated payload text shown rightful written
      obtain ⟨expiry, expires⟩ := Option.isSome_iff_exists.mp one
      obtain ⟨now, isNow⟩ := Option.isSome_iff_exists.mp other
      rw [expires, isNow] at later
      exact ⟨payload, shown, rightful, expiry, now, ⟨text, written, expires⟩, isNow,
        not_le.mp (of_decide_eq_false later)⟩
    · rintro ⟨payload, shown, rightful, expiry, now, ⟨text, written, expires⟩, isNow, before⟩
      refine ⟨payload, text, shown, rightful, written, ?_⟩
      rw [expires, isNow]
      exact decide_eq_false (not_le.mpr before)

end Acceptance

/-! ### Runs of a store -/

namespace AuthorizationDecisionStore

section Runs

variable [NodeCrypto] [NumberFormat] [Collation] [Ed25519] [Reliability.Kernel.DateParse]
  {issuers : TrustedAuthorizationIssuers}

/-- Both artifacts are accepted, and their actors and issuers differ. -/
structure AcceptedPair (issuers : TrustedAuthorizationIssuers) (input : DecideInput) : Prop where
  operator : verifyAuthorizationArtifact input.operator .operator input.verification issuers = .ok true
  reconciliation :
    verifyAuthorizationArtifact input.reconciliation .reconciliation input.verification issuers = .ok true
  actors : agreeOn input "actorId" = false
  issuers : agreeOn input "issuerCredentialId" = false

/-- One of the calls was a decision on an accepted pair. -/
def Granted (issuers : TrustedAuthorizationIssuers) (calls : List Call) (input : DecideInput) : Prop :=
  .decide input ∈ calls ∧ AcceptedPair issuers input

/-- The store is active only by an accepted pair, and consumed nonces are those of accepted pairs. -/
structure Justified (issuers : TrustedAuthorizationIssuers) (calls : List Call) (store : AuthorizationDecisionStore) :
    Prop where
  active : ∀ decision ∈ store.committedDecision, decision.control = .active → ∃ input, Granted issuers calls input
  nonces : ∀ nonce ∈ store.consumedNonces, ∃ input, Granted issuers calls input ∧
    (presented input.operator "payload").bind (Json.field "nonce") = some nonce

theorem Granted.mono {calls more : List Call} {input : DecideInput} (granted : Granted issuers calls input) :
    Granted issuers (calls ++ more) input := ⟨List.mem_append_left _ granted.1, granted.2⟩

theorem Justified.mono {calls more : List Call} {store : AuthorizationDecisionStore}
    (justified : Justified issuers calls store) : Justified issuers (calls ++ more) store where
  active decision committed active := (justified.active decision committed active).imp fun _ => Granted.mono
  nonces nonce consumed := (justified.nonces nonce consumed).imp fun _ both => ⟨both.1.mono, both.2⟩

theorem Justified.new : Justified issuers [] new where
  active _ committed := absurd committed (Option.not_mem_none _)
  nonces _ consumed := absurd consumed List.not_mem_nil

theorem pair_of_validities {input : DecideInput} (both : validities issuers input = .ok (true, true)) :
    AcceptedPair issuers input := by
  obtain ⟨one, operator, rest⟩ := bind_eq_ok.mp both
  obtain ⟨other, reconciliation, shape⟩ := bind_eq_ok.mp rest
  split at shape
  · cases Except.ok.inj shape
  · next apart =>
    obtain ⟨rfl, rfl⟩ := Prod.mk.inj (Except.ok.inj shape)
    simp only [Bool.true_and, Bool.or_eq_true, not_or, Bool.not_eq_true] at apart
    exact ⟨operator, reconciliation, apart.1, apart.2⟩

theorem valid_of_active {input : DecideInput} {operatorValid reconciliationValid : Bool}
    {decision : AuthorizationDecision} (decided : decisionOf input operatorValid reconciliationValid = .ok decision)
    (active : decision.control = .active) : (operatorValid, reconciliationValid) = (true, true) := by
  obtain ⟨operatorReceipt, _, rest⟩ := bind_eq_ok.mp decided
  obtain ⟨reconciliationReceipt, _, shape⟩ := bind_eq_ok.mp rest
  have control : decision.control = if operatorValid && reconciliationValid then .active else .failed :=
    congrArg AuthorizationDecision.control (Except.ok.inj shape).symm
  rw [control] at active
  cases operatorValid <;> cases reconciliationValid <;> first | rfl | cases active

/-- What counts for the decision is the same. -/
structure SameDecision (store after : AuthorizationDecisionStore) : Prop where
  committedDecision : after.committedDecision = store.committedDecision
  consumedNonces : after.consumedNonces = store.consumedNonces

theorem SameDecision.refl (store : AuthorizationDecisionStore) : SameDecision store store := ⟨rfl, rfl⟩

theorem SameDecision.trans {store middle after : AuthorizationDecisionStore} (first : SameDecision store middle)
    (second : SameDecision middle after) : SameDecision store after :=
  ⟨second.committedDecision.trans first.committedDecision, second.consumedNonces.trans first.consumedNonces⟩

theorem Justified.congr {calls : List Call} {store after : AuthorizationDecisionStore}
    (justified : Justified issuers calls store) (same : SameDecision store after) : Justified issuers calls after where
  active decision committed := justified.active decision (same.committedDecision ▸ committed)
  nonces nonce consumed := justified.nonces nonce (same.consumedNonces ▸ consumed)

theorem publish_same (receipt : AuthorizationReceipt) (kind : AuthorizationKind) (store : AuthorizationDecisionStore) :
    Method.Ensures (fun _ after => SameDecision store after) (publish receipt kind) store := by
  refine .get (.check (fun _ => .refl store) fun _ => ?_)
  exact ⟨rfl, rfl⟩

/-- Publish, and go on with a store of the same decision. -/
theorem publish_bind {receipt : AuthorizationReceipt} {kind : AuthorizationKind} {store : AuthorizationDecisionStore}
    {next : Unit → Method AuthorizationDecisionStore AuthorizationDecision}
    {post : Except String AuthorizationDecision → AuthorizationDecisionStore → Prop}
    (thrown : ∀ error after, SameDecision store after → post (.error error) after)
    (rest : ∀ after, SameDecision store after → Method.Ensures post (next ()) after) :
    Method.Ensures post (publish receipt kind >>= next) store := by
  refine .bind ?_
  have same := publish_same receipt kind store
  unfold Method.Ensures at same ⊢
  cases Method.outcome (publish receipt kind store) with
  | ok value => exact rest _ same
  | error error => exact thrown _ _ same

/-- A call that keeps the decision, and returns nothing but the given one. -/
def Publishes (decision : AuthorizationDecision) (store : AuthorizationDecisionStore)
    (result : Except String AuthorizationDecision) (after : AuthorizationDecisionStore) : Prop :=
  SameDecision store after ∧ ∀ returned, result = .ok returned → returned = decision

theorem Publishes.thrown {decision : AuthorizationDecision} {store after : AuthorizationDecisionStore} {error : String}
    (same : SameDecision store after) : Publishes decision store (.error error) after := by
  refine ⟨same, fun returned shape => ?_⟩
  cases shape

theorem Publishes.returned {decision : AuthorizationDecision} {store after : AuthorizationDecisionStore}
    (same : SameDecision store after) : Publishes decision store (.ok decision) after :=
  ⟨same, fun _ shape => (Except.ok.inj shape).symm⟩

theorem recoverPublication_publishes {store : AuthorizationDecisionStore} {decision : AuthorizationDecision}
    (committed : store.committedDecision = some decision) :
    Method.Ensures (Publishes decision store) recoverPublication store := by
  refine .get ?_
  rw [committed]
  refine publish_bind (fun _ _ => .thrown) fun middle first => publish_bind ?_ ?_
  · exact fun _ _ second => .thrown (first.trans second)
  · exact fun _ second => Publishes.returned (first.trans second)

/-- What a call after others leaves and returns. -/
def Settles (issuers : TrustedAuthorizationIssuers) (calls : List Call) (result : Except String AuthorizationDecision)
    (after : AuthorizationDecisionStore) : Prop :=
  Justified issuers calls after ∧ ∀ returned, result = .ok returned → after.committedDecision = some returned

theorem Settles.of_publishes {calls : List Call} {store after : AuthorizationDecisionStore}
    {decision : AuthorizationDecision} {result : Except String AuthorizationDecision}
    (justified : Justified issuers calls store) (committed : store.committedDecision = some decision)
    (publishes : Publishes decision store result after) : Settles issuers calls result after := by
  refine ⟨justified.congr publishes.1, fun returned shape => ?_⟩
  rw [publishes.1.committedDecision, publishes.2 returned shape, committed]

theorem Settles.thrown {calls : List Call} {store : AuthorizationDecisionStore} {error : String}
    (justified : Justified issuers calls store) : Settles issuers calls (.error error) store := by
  refine ⟨justified, fun returned shape => ?_⟩
  cases shape

theorem recoverPublication_settles {calls : List Call} {store : AuthorizationDecisionStore}
    (justified : Justified issuers calls store) :
    Method.Ensures (Settles issuers calls) recoverPublication store := by
  cases committed : store.committedDecision with
  | some decision => exact .mono (recoverPublication_publishes committed) fun _ _ => .of_publishes justified committed
  | none =>
    refine .get ?_
    rw [committed]
    exact Settles.thrown justified

theorem failPredecision_settles {calls : List Call} {store : AuthorizationDecisionStore} {reasonCode now : String}
    (justified : Justified issuers calls store) :
    Method.Ensures (Settles issuers calls) (failPredecision reasonCode now) store := by
  refine .get ?_
  cases store.committedDecision with
  | some decision => exact recoverPublication_settles justified
  | none =>
    refine .modify (recoverPublication_settles ⟨fun decision committed active => ?_, justified.nonces⟩)
    cases committed
    cases active

/-- A decision is committed after the call it is of. -/
theorem commit_justified {calls : List Call} {store : AuthorizationDecisionStore} {input : DecideInput}
    {decision : AuthorizationDecision} (justified : Justified issuers calls store) (called : .decide input ∈ calls)
    (pair : decision.control = .active → AcceptedPair issuers input) :
    Justified issuers calls (commit input decision store) where
  active other committed active := by
    cases committed
    exact ⟨input, called, pair active⟩
  nonces nonce consumed := by
    unfold commit at consumed
    split at consumed
    · next fresh shown =>
      split at consumed
      · next added =>
        rw [Bool.and_eq_true, decide_eq_true_eq] at added
        rcases List.mem_append.mp consumed with before | here
        · exact justified.nonces nonce before
        · cases List.mem_singleton.mp here
          exact ⟨input, ⟨called, pair added.1⟩, (Option.filter_eq_some_iff.mp shown).1⟩
      · exact justified.nonces nonce consumed
    · exact justified.nonces nonce consumed

theorem decide_settles {calls : List Call} {store : AuthorizationDecisionStore} {input : DecideInput}
    (justified : Justified issuers calls store) (called : .decide input ∈ calls) :
    Method.Ensures (Settles issuers calls) (decide issuers input) store := by
  refine .get ?_
  cases store.committedDecision with
  | some decision => exact recoverPublication_settles justified
  | none =>
    refine .fromExcept (fun _ _ => .thrown justified) fun (operatorValid, reconciliationValid) valid => ?_
    refine .check (fun _ => .thrown justified) fun _ => ?_
    refine .fromExcept (fun _ _ => .thrown justified) fun decision decided => ?_
    have committed : Justified issuers calls (commit input decision store) :=
      commit_justified justified called fun active => pair_of_validities (valid_of_active decided active ▸ valid)
    -- From here on every way out leaves the committed decision.
    refine .modify (Method.Ensures.mono ?_ fun _ _ => .of_publishes committed rfl)
    refine .check (fun _ => .thrown (.refl _)) fun _ => publish_bind (fun _ _ => .thrown) fun middle first => ?_
    refine .check (fun _ => .thrown first) fun _ => publish_bind (fun _ _ second => .thrown (first.trans second)) ?_
    exact fun last second => .check (fun _ => .thrown (first.trans second)) fun _ => .returned (first.trans second)

/-- One call, after others. -/
theorem perform_settles {calls : List Call} {store : AuthorizationDecisionStore}
    (justified : Justified issuers calls store) (call : Call) :
    Method.Ensures (Settles issuers (calls ++ [call])) (perform issuers call) store := by
  have later : Justified issuers (calls ++ [call]) store := justified.mono
  cases call with
  | decide input => exact decide_settles later (List.mem_append_right _ List.mem_cons_self)
  | failPredecision reasonCode now => exact failPredecision_settles later
  | recoverPublication => exact recoverPublication_settles later

/-- The store after any calls. -/
theorem run_justified (calls : List Call) : Justified issuers calls (run (step issuers) new calls) := by
  induction calls using List.reverseRecOn with
  | nil => exact .new
  | append_singleton calls call ih =>
    rw [run_append]
    exact (perform_settles ih call).1

end Runs

end AuthorizationDecisionStore

/-! ### The result -/

section Result

open AuthorizationDecisionStore

variable [NodeCrypto] [NumberFormat] [Collation] [Ed25519] [Reliability.Kernel.DateParse]

/-- **An artifact is accepted exactly if it is valid, unless it is rightful and a date is none**; after any calls of a
store, crashes included, it is active and has consumed a nonce only by a call with two accepted artifacts of different
actors and issuers, and so is every active decision that it returns. -/
theorem accepted_iff_valid_and_active_justified (artifact : Option Json) (kind : AuthorizationKind)
    (input : VerificationInput) (issuers : TrustedAuthorizationIssuers) (calls : List Call) :
    ((verifyAuthorizationArtifact artifact kind input issuers = .ok true ↔ ValidArtifact artifact kind input issuers) ↔
        DatesDenote artifact kind input issuers) ∧
      Justified issuers calls (run (step issuers) new calls) ∧
      ∀ call returned, Method.outcome (perform issuers call (run (step issuers) new calls)) = .ok returned →
        returned.control = .active → ∃ input, Granted issuers (calls ++ [call]) input := by
  refine ⟨accepted_iff_valid, run_justified calls, fun call returned result active => ?_⟩
  obtain ⟨justified, committed⟩ := perform_settles (run_justified calls) call
  exact justified.active returned (committed returned result) active

end Result

/-! An artifact that never expires. -/

namespace NeverExpires

local instance : NumberFormat where
  text literal := String.ofList literal.characters
  byte _ := 0

local instance : Collation where
  localeCompare first second := if first = second then 0 else if codeUnits first ≤ codeUnits second then -1 else 1

/-- The signature of the artifact, and of nothing else. -/
local instance : Ed25519 where
  verify _ _ signature := signature = List.replicate 64 0
  signature_length verified := by rw [of_decide_eq_true verified, List.length_replicate]

/-- The time of the call is a date, and `never` is none. -/
local instance : Reliability.Kernel.DateParse where
  parse text := if text = "2026-07-25T08:16:00.500Z" then some 1784967360500 else none

def digest (character : Char) : String := "sha256:" ++ String.ofList (List.replicate 64 character)

def input : VerificationInput where
  now := "2026-07-25T08:16:00.500Z"
  expectedRunId := "run-v2"
  expectedPlanFingerprint := digest 'a'
  expectedExecutableFingerprint := digest 'b'
  expectedV3Identity := none
  expectedProtocolIdentity := none

def payload : Json := .object
  [("kind", .string "operator"), ("runId", .string "run-v2"), ("planFingerprint", .string (digest 'a')),
    ("executableFingerprint", .string (digest 'b')), ("actorId", .string "operator-actor"),
    ("issuerCredentialId", .string pinnedIssuers.operator.id), ("capability", .string "evidence:authorize-spend"),
    ("nonce", .string "nonce-1"), ("expiresAt", .string "never")]

def artifact : Json := .object
  [("payload", payload), ("signature", .string (String.ofList (List.replicate 86 'A' ++ ['=', '='])))]

theorem never_accepted : ¬ (verifyAuthorizationArtifact (some artifact) .operator input pinnedIssuers = .ok true ↔
    ValidArtifact (some artifact) .operator input pinnedIssuers) := by
  intro agree
  have accepted : verifyAuthorizationArtifact (some artifact) .operator input pinnedIssuers = .ok true := by
    decide +kernel
  obtain ⟨_, shown, _, _, _, ⟨_, written, expires⟩, _⟩ := agree.mp accepted
  cases shown
  cases written
  cases expires

end NeverExpires

end FuseControlPlane.Evidence
