/-
The authorization of a run (`beginAuthorizationOperation` .. `completeAuthorizationOperation` of
`reliability/protocolStore.ts`).

A decision with its two receipts is committed, the receipts are published, and the transition is recorded.
Each of these has a deadline, and one that is missed fails the run.

* `commitAuthorization`, `commitAuthorizationPredecisionFailure`: the decision.
* `publishReceipt`, `finishPublication`: the transactions of `publishAuthorizationOutbox`, which is told
  whether an earlier one has missed the deadline.
* `completeAuthorizationOperation`: the transition.
-/

import FuseControlPlane.Reliability.LaneOperations
import FuseControlPlane.Reliability.SchedulerClaims

set_option linter.unusedSectionVars false

namespace FuseControlPlane.Reliability

open Foundation Foundation.JavaScript Domain Evidence

/-! ### Values -/

/-- The order of the members of a `jsonb` object: shorter names first. -/
def isBeforeInJsonb (first second : String) : Bool :=
  first.utf8ByteSize < second.utf8ByteSize ||
    (first.utf8ByteSize = second.utf8ByteSize && decide (first ≤ second))

/-- What a `jsonb` column gives back of a value. -/
def jsonb (value : Json) : Json := value.sortKeys isBeforeInJsonb

mutual

/-- `String(value)`. -/
def textOf : Json → String
  | .null => "null"
  | .bool true => "true"
  | .bool false => "false"
  | .number literal => String.ofList literal.characters
  | .string text => text
  | .array elements => ",".intercalate (elementsOf elements)
  | .object _ => "[object Object]"
termination_by structural value => value

/-- The elements of an array as `join` writes them. -/
def elementsOf : List Json → List String
  | [] => []
  | .null :: rest => "" :: elementsOf rest
  | value :: rest => textOf value :: elementsOf rest
termination_by structural values => values

end

/-- `String(receipt[name] ?? otherwise)`. -/
def textField (receipt : Json) (name otherwise : String) : String :=
  match receipt.field name with
  | none | some .null => otherwise
  | some value => textOf value

/-- `receipt[name] === text`. -/
def isField (receipt : Json) (name text : String) : Bool :=
  match receipt.field name with
  | some (.string value) => value = text
  | _ => false

/-- `receipt[name] === true`. -/
def isTrueField (receipt : Json) (name : String) : Bool :=
  match receipt.field name with
  | some (.bool value) => value
  | _ => false

def isNull : Json → Bool
  | .null => true
  | _ => false

/-! ### Decision ids -/

def ProtocolVersion.authorizationDecisionDomain : ProtocolVersion → String
  | v2 => "fuse-reliability-v2-authorization"
  | v3 => "fuse-reliability-v3-authorization"
  | v4 => "fuse-reliability-v4-authorization"

/-- What a decision id of versions 3 and 4 is the digest of. -/
structure AuthorizationDecisionPreimage where
  runId : String
  planFingerprint : String
  profileFingerprint : String
  decisionKind : String
  reasonCode : String
  operatorArtifactSha256 : String
  reconciliationArtifactSha256 : String
  deriving DecidableEq

/-- `text.slice(first, last)`. -/
def slice (first last : ℕ) (text : String) : String := take (last - first) (drop first text)

/-- A digest in the shape of a UUID. -/
def digestUuid (hex : String) : String :=
  slice 0 8 hex ++ "-" ++ slice 8 12 hex ++ "-5" ++ slice 13 16 hex ++ "-a" ++ slice 17 20 hex ++ "-" ++
    slice 20 32 hex

def isArtifactDigest (value : String) : Bool := value = "absent" || isManifestDigest value

/-- The run id and the fingerprint of a fixture. -/
def isFixtureProfile (input : AuthorizationDecisionPreimage) : Bool :=
  (input.runId = "hov3-golden" || input.runId = "hov4-golden") &&
    input.profileFingerprint = "sha256:" ++ String.ofList (List.replicate 64 '0')

section Decisions

variable [NodeCrypto] [Collation] [ProtocolProfiles]

/-- The decision id of a run of version 2. -/
def runDecisionId (runId : String) : String :=
  digestUuid (NodeCrypto.sha256 (ProtocolVersion.v2.authorizationDecisionDomain ++ ":" ++ runId))

def deterministicAuthorizationDecisionId (input : AuthorizationDecisionPreimage) :
    Except String String := do
  let version ← protocolVersionForRunId input.runId
  require (usesCanonicalAuthorizationIds version && isManifestDigest input.planFingerprint &&
    (input.profileFingerprint = version.profile.profileFingerprint || isFixtureProfile input) &&
    ["active", "readiness_failed", "readiness_predecision_failed"].contains input.decisionKind &&
    input.reasonCode ≠ "" && isArtifactDigest input.operatorArtifactSha256 &&
    isArtifactDigest input.reconciliationArtifactSha256) "AUTHORIZATION_DECISION_PREIMAGE_INVALID"
  return digestUuid (NodeCrypto.sha256 (canonicalJson (.object
    [("domain", .string version.authorizationDecisionDomain),
      ("protocolVersion", .ofInt (ReliabilityRun.versionNumber version)),
      ("runId", .string input.runId),
      ("planFingerprint", .string input.planFingerprint),
      ("profileFingerprint", .string input.profileFingerprint),
      ("decisionKind", .string input.decisionKind),
      ("reasonCode", .string input.reasonCode),
      ("operatorArtifactSha256", .string input.operatorArtifactSha256),
      ("reconciliationArtifactSha256", .string input.reconciliationArtifactSha256)])))

end Decisions

/-! ### Inputs -/

/-- `decisionDeadline` is a parsed time; `nonceTaken` says whether the nonce is consumed already. -/
structure CommitAuthorizationInput where
  decisionId : String
  verdict : Json
  active : Bool
  operatorNonce : Option String
  nonceTaken : Bool
  operatorReceipt : Json
  reconciliationReceipt : Json
  decisionDeadline : Option ℤ

structure PredecisionFailureInput where
  planFingerprint : String
  reasonCode : String
  operatorArtifactSha256 : Option String
  reconciliationArtifactSha256 : Option String

/-- `authorizationPredecisionReasonValid`. -/
def authorizationPredecisionReasonValid (reasonCode : String) : Bool :=
  ["validation_phase_deadline", "decision_phase_deadline"].contains reasonCode

namespace AuthorizationOperationRow

def validationDeadline (operation : AuthorizationOperationRow) : ℤ := operation.startedAt + 5000

def decisionDeadline (operation : AuthorizationOperationRow) : ℤ := operation.startedAt + 20000

def publicationDeadline (operation : AuthorizationOperationRow) : ℤ := operation.startedAt + 50000

def transitionDeadline (operation : AuthorizationOperationRow) : ℤ := operation.startedAt + 55000

end AuthorizationOperationRow

namespace ReliabilityRun

section Operations

variable [NodeCrypto] [Collation] [ProtocolProfiles]

/-- Insert the operation of a run, unless it has one. -/
def beginAuthorizationOperation (now : ℤ) (run : ReliabilityRun) :
    Except String (AuthorizationOperationRow × ReliabilityRun) := do
  let control ← run.lockControlProfile
  require (usesCanonicalAuthorizationIds control.profile.protocolVersion)
    "AUTHORIZATION_OPERATION_PROFILE_INVALID"
  let operation := run.authorizationOperation.getD ⟨now, none, none, none⟩
  return (operation, { run with authorizationOperation := some operation })

/-! ### The decision -/

/-- `SET state='failed', failed_at=clock_timestamp()`. -/
def setDecisionFailed (run : ReliabilityRun) (now : ℤ) : ReliabilityRun := run.setFailed now

/-- The run has failed with an incident and, where reports are sequenced, the intent of a report. -/
def failDecision (reasonCode : String) (now : ℤ) (run : ReliabilityRun) : Except String ReliabilityRun :=
  let (incidentSequence, failed) := (run.setDecisionFailed now).appendIncident
  failed.commitReportIntentLocked (failureIntent reasonCode incidentSequence none) now

/-- The decision and its two receipts. -/
def insertDecision (run : ReliabilityRun) (decisionId : String) (verdict : Json)
    (operatorNonce : Option String) (operatorReceipt reconciliationReceipt : Json) : ReliabilityRun :=
  { run with
    authorizationDecision := some ⟨decisionId, jsonb verdict, operatorNonce⟩
    authorizationOutbox := (run.authorizationOutbox.put ⟨.operator, jsonb operatorReceipt, none⟩).put
      ⟨.reconciliation, jsonb reconciliationReceipt, none⟩ }

/-- The receipt of an artifact that is not decided on. -/
def predecisionReceipt (run : ReliabilityRun) (kind reasonCode digest : String) : Json :=
  .object
    [("evidenceType", .string run.control.profile.evidenceType),
      ("protocolVersion", .ofInt (versionNumber run.control.profile.protocolVersion)),
      ("runId", .string run.runId), ("planFingerprint", .string run.control.planFingerprint),
      ("artifactKind", .string "authorization_receipt"), ("kind", .string kind),
      ("status", .string "readiness_failed"), ("databaseValidationTime", .null),
      ("reasonCode", .string reasonCode), ("presentedArtifactSha256", .string digest)]

def predecisionVerdict (reasonCode operatorArtifactSha256 reconciliationArtifactSha256 : String) : Json :=
  .object
    [("decisionKind", .string "readiness_predecision_failed"), ("reasonCode", .string reasonCode),
      ("operatorValid", .bool false), ("reconciliationValid", .bool false),
      ("operatorArtifactSha256", .string operatorArtifactSha256),
      ("reconciliationArtifactSha256", .string reconciliationArtifactSha256)]

def commitAuthorizationPredecisionFailure (input : PredecisionFailureInput) (now : ℤ)
    (run : ReliabilityRun) : Except String (String × ReliabilityRun) := do
  require (authorizationPredecisionReasonValid input.reasonCode) "AUTHORIZATION_PREDECISION_REASON_INVALID"
  let control ← run.lockControlProfile
  require (usesCanonicalAuthorizationIds control.profile.protocolVersion &&
    control.planFingerprint = input.planFingerprint) "AUTHORIZATION_PREDECISION_PROFILE_CONFLICT"
  let operatorArtifactSha256 := input.operatorArtifactSha256.getD "absent"
  let reconciliationArtifactSha256 := input.reconciliationArtifactSha256.getD "absent"
  let decisionId ← deterministicAuthorizationDecisionId
    ⟨run.runId, control.planFingerprint, control.profile.profileFingerprint,
      "readiness_predecision_failed", input.reasonCode, operatorArtifactSha256,
      reconciliationArtifactSha256⟩
  let verdict := predecisionVerdict input.reasonCode operatorArtifactSha256 reconciliationArtifactSha256
  match run.authorizationDecision with
  | some existing => do
    require (existing.decisionId = decisionId && canonicalJson existing.verdict = canonicalJson verdict)
      "AUTHORIZATION_DECISION_CONFLICT"
    return (decisionId, run)
  | none => do
    let failed ← (run.insertDecision decisionId verdict none
      (run.predecisionReceipt "operator" input.reasonCode operatorArtifactSha256)
      (run.predecisionReceipt "reconciliation" input.reasonCode reconciliationArtifactSha256)).failDecision
        input.reasonCode now
    return (decisionId, failed)

/-- The receipts of an active decision. -/
def isValidPair (input : CommitAuthorizationInput) : Bool :=
  isTrueField input.verdict "operatorValid" && isTrueField input.verdict "reconciliationValid" &&
    isField input.operatorReceipt "kind" "operator" && isField input.operatorReceipt "status" "consumed" &&
    isField input.reconciliationReceipt "kind" "reconciliation" &&
    isField input.reconciliationReceipt "status" "validated"

/-- The checks of versions 3 and 4 on a decision: its deadline, the reason of its receipts and its id. -/
def checkCanonicalDecision (input : CommitAuthorizationInput) (version : ProtocolVersion) (now : ℤ)
    (run : ReliabilityRun) : Except String Unit := do
  require input.decisionDeadline.isSome "AUTHORIZATION_DECISION_DEADLINE_REQUIRED"
  require (run.authorizationOperation.map AuthorizationOperationRow.decisionDeadline =
    input.decisionDeadline) "AUTHORIZATION_DECISION_DEADLINE_CONFLICT"
  require (input.decisionDeadline.any fun deadline => now < deadline)
    "AUTHORIZATION_DECISION_DEADLINE_MISSED"
  require (!isNull input.operatorReceipt && !isNull input.reconciliationReceipt)
    "Cannot read properties of null (reading 'reasonCode')"
  let reasonCode := textField input.operatorReceipt "reasonCode" ""
  require (reasonCode = textField input.reconciliationReceipt "reasonCode" "")
    "AUTHORIZATION_REASON_CONFLICT"
  let expected ← deterministicAuthorizationDecisionId
    ⟨run.runId, run.control.planFingerprint, version.profile.profileFingerprint,
      (if input.active then "active" else "readiness_failed"), reasonCode,
      textField input.operatorReceipt "presentedArtifactSha256" "absent",
      textField input.reconciliationReceipt "presentedArtifactSha256" "absent"⟩
  require (input.decisionId = expected) "AUTHORIZATION_DECISION_ID_INVALID"

/-- The decision of a run is written once. -/
def decideAuthorization (input : CommitAuthorizationInput) (version : ProtocolVersion) (now : ℤ)
    (run : ReliabilityRun) : Except String ReliabilityRun :=
  match run.authorizationDecision with
  | some existing => do
    require (existing.decisionId = input.decisionId && existing.verdict.stringify = input.verdict.stringify)
      "AUTHORIZATION_DECISION_CONFLICT"
    return run
  | none => do
    require (!(input.active && input.operatorNonce.all (· = ""))) "AUTHORIZATION_NONCE_REQUIRED"
    require (!(input.active && input.nonceTaken)) "unique_violation"
    let decided := run.insertDecision input.decisionId input.verdict input.operatorNonce
      input.operatorReceipt input.reconciliationReceipt
    if input.active then return decided
    else if usesSequencedReportIntents version then
      decided.failDecision
        (textField input.operatorReceipt "reasonCode" "SIGNED_AUTHORIZATION_PAIR_INVALID") now
    else return decided.setDecisionFailed now

def commitAuthorization (input : CommitAuthorizationInput) (now : ℤ) (run : ReliabilityRun) :
    Except String ReliabilityRun := do
  let version ← protocolVersionForRunId run.runId
  require (!(version = .v2 && input.decisionId ≠ runDecisionId run.runId))
    "AUTHORIZATION_DECISION_ID_INVALID"
  require (!(input.active && !isValidPair input)) "AUTHORIZATION_VALID_PAIR_REQUIRED"
  let _ ← run.lockControlProfile
  if usesCanonicalAuthorizationIds version then run.checkCanonicalDecision input version now
  run.decideAuthorization input version now

/-! ### Deadlines -/

/-- `SET state='failed', failed_at=COALESCE(failed_at, clock_timestamp()) WHERE state<>'failed'`. -/
def setDeadlineFailed (run : ReliabilityRun) (now : ℤ) : ReliabilityRun :=
  if run.control.state = .failed then run
  else
    { run with
      control :=
        { run.control with
          state := .failed
          failedAt := run.control.failedAt <|> some now
          failureSequence := run.control.failureSequence + 1 } }

/-- The operation has failed, and the run with it. -/
def failOperation (operation : AuthorizationOperationRow) (reason : String) (now : ℤ)
    (run : ReliabilityRun) : Except String ReliabilityRun :=
  let (incidentSequence, failed) := ({ run with
    authorizationOperation := some { operation with failureReason := some reason } } :
      ReliabilityRun).setDeadlineFailed now |>.appendIncident
  failed.commitReportIntentLocked (failureIntent reason incidentSequence none) now

/-- The operation of a run whose publication has this deadline. -/
def operationToPublish (publicationDeadline : Option ℤ) (run : ReliabilityRun) :
    Except String AuthorizationOperationRow :=
  match run.authorizationOperation with
  | none => .error "AUTHORIZATION_PUBLICATION_DEADLINE_CONFLICT"
  | some operation => do
    require (some operation.publicationDeadline = publicationDeadline)
      "AUTHORIZATION_PUBLICATION_DEADLINE_CONFLICT"
    return operation

/-- A missed publication fails the operation, once. -/
def missPublication (operation : AuthorizationOperationRow) (missed : Bool) (now : ℤ)
    (run : ReliabilityRun) : Except String ReliabilityRun :=
  if missed && operation.failureReason.isNone then
    run.failOperation operation "authorization_publication_deadline" now
  else return run

/-- A receipt is published. -/
def setReceiptPublished (run : ReliabilityRun) (kind : ReceiptKind) (now : ℤ) : ReliabilityRun :=
  { run with
    authorizationOutbox := run.authorizationOutbox.update (·.receiptKind = kind)
      (fun row => { row with publishedAt := row.publishedAt <|> some now }) fun _ => rfl }

/-- Whether the deadline has been missed by now. -/
def publishReceipt (kind : ReceiptKind) (missed : Bool) (publicationDeadline : Option ℤ) (now : ℤ)
    (run : ReliabilityRun) : Except String (Bool × ReliabilityRun) := do
  let control ← run.lockControlProfile
  if usesCanonicalAuthorizationIds control.profile.protocolVersion then do
    let operation ← run.operationToPublish publicationDeadline
    let late := missed || operation.publicationDeadline ≤ now
    let after ← (run.setReceiptPublished kind now).missPublication operation late now
    return (late, after)
  else return (missed, run.setReceiptPublished kind now)

/-- The publication is complete. -/
def setPublicationCompleted (run : ReliabilityRun) (operation : AuthorizationOperationRow) (now : ℤ) :
    ReliabilityRun :=
  { run with
    authorizationOperation :=
      some { operation with publicationCompletedAt := operation.publicationCompletedAt <|> some now } }

/-- Both receipts are published in time, or the deadline is missed. -/
def finishPublication (missed : Bool) (publicationDeadline : Option ℤ) (now : ℤ) (run : ReliabilityRun) :
    Except String (Bool × ReliabilityRun) := do
  let _ ← run.lockControlProfile
  let operation ← run.operationToPublish publicationDeadline
  let late := missed || run.publishedReceipts ≠ 2 || operation.publicationDeadline ≤ now
  if late then do
    let after ← run.missPublication operation late now
    return (true, after)
  else return (false, run.setPublicationCompleted operation now)

/-- Whether the transition is made; that it is not is thrown once the transaction has committed. -/
def completeAuthorizationOperation (transitionDeadline now : ℤ) (run : ReliabilityRun) :
    Except String (Bool × ReliabilityRun) := do
  let _ ← run.lockControlProfile
  match run.authorizationOperation with
  | none => .error "AUTHORIZATION_TRANSITION_DEADLINE_CONFLICT"
  | some operation => do
    require (operation.transitionDeadline = transitionDeadline)
      "AUTHORIZATION_TRANSITION_DEADLINE_CONFLICT"
    if operation.publicationCompletedAt.isNone || operation.failureReason.any (· ≠ "") ||
        operation.transitionDeadline ≤ now then
      if operation.failureReason.any (· ≠ "") then return (false, run)
      else do
        let failed ← run.failOperation operation "authorization_transition_deadline" now
        return (false, failed)
    else
      return (true, { run with
        authorizationOperation := some { operation with
          transitionCompletedAt := operation.transitionCompletedAt <|> some now } })

end Operations

end ReliabilityRun

end FuseControlPlane.Reliability
