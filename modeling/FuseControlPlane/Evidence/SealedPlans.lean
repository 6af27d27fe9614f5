/-
The sealed plans of `evidence/heldOutReliabilityV2.ts`: 100 calls and 20 replays, made from the randomness of a
beacon.

* `planRecipe`: `buildReliabilityPlan` without the validation at its end.
* `madeOf_recipe`: **what it makes**, whatever the beacon, the run id and the identity.
-/

import FuseControlPlane.Domain.Policy
import FuseControlPlane.Evidence.ManifestPublication
import FuseControlPlane.Evidence.SettlementClosure
import FuseControlPlane.Foundation.Buffers
import FuseControlPlane.Foundation.WordStreams

set_option linter.unusedSectionVars false

namespace FuseControlPlane.Evidence

open Foundation Foundation.JavaScript Domain

/-- `createHash("sha256").update(bytes).digest()`. -/
class BinaryDigest where
  sha256 : List UInt8 → List UInt8

/-! ### Constants -/

def reliabilityV2ChainHash : String := "8990e7a9aaed2ffed73dbd7092123d6f289930540d7651336225dc172e51b2ce"
def reliabilityV2Round : ℤ := 6315000
def reliabilityV2Provider : String := "openrouter"
def reliabilityV2Model : String := "nousresearch/hermes-4-405b"
def expectedV2PlanFingerprintTestBeacon : String :=
  "sha256:937a7b644077810644d8d478ac85a8bdbdc38d9a727c0a6f8f5722f65c86ecba"
def planExpiry : Json := .string "2026-07-28T10:30:00.000Z"

/-- A lane of `V2_LANES`. -/
structure PlanLane where
  id : String
  workloadClass : String
  contextMin : ℕ
  contextMax : ℕ
  mode : String
  mandateMaximum : ℕ
  children : ℕ × ℕ
  deriving DecidableEq

def v2Lanes : List PlanLane :=
  [⟨"normal-paced", "baseline-lookup", 30, 120, "sequential", 250002, (130001, 120001)⟩,
    ⟨"high-envelope", "spike-burst", 450, 850, "sequential", 1250002, (600001, 650001)⟩,
    ⟨"bounded-burst", "spike-burst", 30, 120, "bounded-burst", 1250002, (650001, 600001)⟩,
    ⟨"restart-resume", "baseline-lookup", 30, 120, "restart-resume", 250002, (120001, 130001)⟩]

/-- An amount as a text. -/
def amountText (amount : ℕ) : Json := .string (toString amount)

def PlanLane.toJson (lane : PlanLane) : Json :=
  .object [("id", .string lane.id), ("workloadClass", .string lane.workloadClass),
    ("contextMin", .ofInt lane.contextMin), ("contextMax", .ofInt lane.contextMax), ("mode", .string lane.mode),
    ("mandateMaximum", amountText lane.mandateMaximum),
    ("children", .array [amountText lane.children.1, amountText lane.children.2])]

def lanesJson : Json := .array (v2Lanes.map PlanLane.toJson)

/-- `V2_SCHEDULE`, with its blocks. -/
def scheduleJson : Json :=
  .array ((v2Schedule.zipIdx 1).map fun (window, block) =>
    .object [("block", .ofInt block), ("opensAt", .string window.opensAt),
      ("launchDeadline", .string window.launchDeadline)])

/-- What a call of a lane reserves. -/
def PlanLane.reservation (lane : PlanLane) : ℕ := if lane.workloadClass = "baseline-lookup" then 10000 else 50000

/-! ### Slots -/

/-- A turn of the loops over blocks, lanes and calls. -/
structure PlanSlot where
  block : ℕ
  laneOrdinal : ℕ
  lane : PlanLane
  callOrdinal : ℕ
  deriving DecidableEq

def ordinals : List ℕ := [1, 2, 3, 4, 5]

def planSlots : List PlanSlot :=
  ordinals.flatMap fun block => (v2Lanes.zipIdx 1).flatMap fun (lane, laneOrdinal) =>
    ordinals.map fun callOrdinal => ⟨block, laneOrdinal, lane, callOrdinal⟩

/-- The turns of the loops over blocks and lanes. -/
def replaySlots : List (ℕ × PlanLane) := ordinals.flatMap fun block => v2Lanes.map fun lane => (block, lane)

namespace PlanSlot

def laneCallOrdinal (slot : PlanSlot) : ℕ := (slot.block - 1) * 5 + slot.callOrdinal

def branch (slot : PlanSlot) : ℕ :=
  if decide (slot.laneCallOrdinal % 2 = 1) = decide (slot.laneOrdinal % 2 = 1) then 1 else 2

end PlanSlot

/-! ### Calls -/

structure ReliabilityCall where
  block : ℕ
  lane : String
  laneOrdinal : ℕ
  callOrdinal : ℕ
  laneCallOrdinal : ℕ
  requestId : String
  branch : ℕ
  workloadClass : String
  contextUnits : ℕ
  reservationUsdMicros : ℕ

def ReliabilityCall.toJson (call : ReliabilityCall) : Json :=
  .object [("block", .ofInt call.block), ("lane", .string call.lane), ("laneOrdinal", .ofInt call.laneOrdinal),
    ("callOrdinal", .ofInt call.callOrdinal), ("laneCallOrdinal", .ofInt call.laneCallOrdinal),
    ("requestId", .string call.requestId), ("branch", .ofInt call.branch),
    ("workloadClass", .string call.workloadClass), ("contextUnits", .ofInt call.contextUnits),
    ("maxOutputTokens", .ofInt 8), ("reservationUsdMicros", amountText call.reservationUsdMicros)]

structure ReplayTarget where
  block : ℕ
  lane : String
  callOrdinal : ℕ
  requestId : String

def ReplayTarget.toJson (target : ReplayTarget) : Json :=
  .object [("block", .ofInt target.block), ("lane", .string target.lane),
    ("callOrdinal", .ofInt target.callOrdinal), ("requestId", .string target.requestId)]

/-- `/^[A-Za-z0-9._:-]{1,128}$/`. -/
def isPlanRunId (text : String) : Bool :=
  matchesClass (fun character => character.isAlphanum || ['.', '_', ':', '-'].contains character) 1 128 text

/-- `digest.readUInt32BE(offset)`. -/
def readUInt32BE (bytes : List UInt8) (offset : ℕ) : ℕ :=
  ((bytes.drop offset).take 4).foldl (fun word byte => word * 256 + byte.toNat) 0

/-- `index.writeUInt32BE(value)`. -/
def bigEndian (value : ℕ) : List UInt8 := [24, 16, 8, 0].map fun shift => UInt8.ofNat (value >>> shift)

section Builder

variable [NodeCrypto] [Collation] [BinaryDigest] [NumberFormat]

/-- The words of a `RejectionWordStream`: eight of each digest, as far as its index can be written. -/
def streamWords (randomness : List UInt8) (place : ℕ) : Option ℕ :=
  if place / 8 < 2 ^ 32 then
    some (readUInt32BE (BinaryDigest.sha256
      (utf8 "fuse-held-out-reliability-v2" ++ randomness ++ bigEndian (place / 8))) (place % 8 * 4))
  else none

/-- `random.draw(min, max)`; `place` words have been used. -/
def drawNumber (randomness : List UInt8) (low high place : ℕ) : Except String (ℕ × ℕ) :=
  match draw (streamWords randomness) (2 ^ 35 - place) low high place with
  | some drawn => .ok drawn
  | none => .error "ERR_OUT_OF_RANGE"

def fingerprint (value : Json) : String := "sha256:" ++ NodeCrypto.sha256 (canonicalJson value)

def requestMembers (runId : String) (block : ℕ) (lane : String) (callOrdinal : ℕ) : List (String × Json) :=
  [("domain", .string "fuse-held-out-reliability-v2-request"), ("protocolVersion", .ofInt 2),
    ("runId", .string runId), ("block", .ofInt block), ("lane", .string lane), ("callOrdinal", .ofInt callOrdinal)]

/-- The text that a request id is a digest of. -/
def requestText (runId : String) (block : ℕ) (lane : String) (callOrdinal : ℕ) : String :=
  canonicalJson (.object (requestMembers runId block lane callOrdinal))

def requestIdOf (runId : String) (block : ℕ) (lane : String) (callOrdinal : ℕ) : String :=
  "hov2_" ++ take 48 (NodeCrypto.sha256 (requestText runId block lane callOrdinal))

def deriveReliabilityRequestId (runId : String) (block : ℕ) (lane : String) (callOrdinal : ℕ) :
    Except String String := do
  require (isPlanRunId runId && 1 ≤ block && block ≤ 5 && v2Lanes.any (·.id = lane) && 1 ≤ callOrdinal &&
    callOrdinal ≤ 5) "RELIABILITY_V2_REQUEST_ID_INPUT_INVALID"
  return requestIdOf runId block lane callOrdinal

/-- The body of the loops that make the calls. -/
def buildCall (randomness : List UInt8) (runId : String) (place : ℕ) (slot : PlanSlot) :
    Except String (ReliabilityCall × ℕ) := do
  let requestId ← deriveReliabilityRequestId runId slot.block slot.lane.id slot.callOrdinal
  let (contextUnits, next) ← drawNumber randomness slot.lane.contextMin slot.lane.contextMax place
  return (⟨slot.block, slot.lane.id, slot.laneOrdinal, slot.callOrdinal, slot.laneCallOrdinal, requestId,
    slot.branch, slot.lane.workloadClass, contextUnits, slot.lane.reservation⟩, next)

/-- The body of the loops that make the replay targets. -/
def buildReplayTarget (randomness : List UInt8) (runId : String) (place : ℕ) (slot : ℕ × PlanLane) :
    Except String (ReplayTarget × ℕ) := do
  let (callOrdinal, next) ← drawNumber randomness 1 5 place
  let requestId ← deriveReliabilityRequestId runId slot.1 slot.2.id callOrdinal
  return (⟨slot.1, slot.2.id, callOrdinal, requestId⟩, next)

/-! ### Setup -/

def laneAuthority (organizationId : String) (lane : PlanLane) : Json :=
  let named (kind : String) : String := organizationId ++ "-" ++ kind ++ "-" ++ lane.id
  let maximum := amountText lane.mandateMaximum
  let holder (kind : String) : Json :=
    .object [("id", .string (named kind)), ("maximumUsdMicros", maximum), ("expiresAt", planExpiry)]
  let child (branch amount : ℕ) : Json :=
    .object [("id", .string (named "child" ++ "-" ++ toString branch)), ("branch", .ofInt branch),
      ("maximumUsdMicros", amountText amount), ("expiresAt", planExpiry)]
  .object [("lane", .string lane.id), ("agentId", .string (named "agent")),
    ("credentialId", .string (named "credential")),
    ("policy", .object [("id", .string (named "policy")), ("version", .ofInt 1), ("mode", .string "enforce"),
      ("workloadClass", .string lane.workloadClass), ("perCallUsdMicros", amountText lane.reservation),
      ("aggregateUsdMicros", maximum), ("hourlyUsdMicros", maximum), ("dailyUsdMicros", maximum),
      ("maxRequestsPerMinute", .ofInt 5), ("maxInputTokens", .ofInt 850), ("maxOutputTokens", .ofInt 8),
      ("expiresAt", planExpiry)]),
    ("mandate", holder "mandate"), ("root", holder "root"),
    ("children", .array [child 1 lane.children.1, child 2 lane.children.2])]

def setupConfiguration (organizationId : String) : List (String × Json) :=
  [("organizationId", .string organizationId),
    ("providerConfigurationId", .string (organizationId ++ "-openrouter")),
    ("runnerServiceAccountId", .string (organizationId ++ "-runner")),
    ("reconcilerServiceAccountId", .string (organizationId ++ "-reconciler")),
    ("reconcilerCredentialId", .string (organizationId ++ "-reconciler-credential")),
    ("endpoints", .object [("inference", .string "/v1/chat/completions"),
      ("generation", .string "/api/v1/generation"), ("generationContent", .string "/api/v1/generation/content"),
      ("mappingVersion", .ofInt 2)]),
    ("hardFinalizationAt", .string "2026-07-28T09:30:00.000Z")]

def reliabilitySetup (organizationId : String) : Json :=
  let configuration := setupConfiguration organizationId
  let authority := .array (v2Lanes.map (laneAuthority organizationId))
  .object (configuration ++
    [("authority", authority),
      ("configurationFingerprint", .string (fingerprint (.object (configuration ++
        [("provider", .string reliabilityV2Provider), ("model", .string reliabilityV2Model),
          ("allowFallbacks", .bool false)])))),
      ("setupFingerprint", .string (fingerprint authority))])

/-! ### Plans -/

structure ReliabilityPlan where
  runId : String
  beacon : Json
  identity : Json
  setup : Json
  calls : List ReliabilityCall
  replayTargets : List ReplayTarget

namespace ReliabilityPlan

variable (plan : ReliabilityPlan)

/-- The members of a plan but its fingerprint. -/
def payload : List (String × Json) :=
  [("schemaVersion", .ofInt 2), ("evidenceType", .string "held-out-reliability"), ("protocolVersion", .ofInt 2),
    ("runId", .string plan.runId), ("provider", .string reliabilityV2Provider),
    ("model", .string reliabilityV2Model), ("allowFallbacks", .bool false), ("adapterRetryCount", .ofInt 0),
    ("beacon", plan.beacon), ("identity", plan.identity), ("schedule", scheduleJson), ("lanes", lanesJson),
    ("setup", plan.setup), ("calls", .array (plan.calls.map ReliabilityCall.toJson)),
    ("replayTargets", .array (plan.replayTargets.map ReplayTarget.toJson)),
    ("cost", .object [("knownCostCapUsdMicros", .string "3000000"),
      ("unresolvedExposureCapUsdMicros", .string "320000")])]

def planFingerprint : String := fingerprint (.object plan.payload)

def toJson : Json := .object (plan.payload ++ [("planFingerprint", .string plan.planFingerprint)])

end ReliabilityPlan

/-- A member passes a test of its text. -/
def testsAs (value : Json) (name : String) (test : String → Bool) : Except String Bool :=
  (Json.stringOfField (value.field name)).map test

/-- `/^sha256:[a-f0-9]{64}$/` and `/^[a-f0-9]{digits}$/`. -/
def isHexOf (digits : ℕ) (text : String) : Bool :=
  matchesClass (fun character => character.isDigit || ('a' ≤ character && character ≤ 'f')) digits digits text

def isTaggedDigest (text : String) : Bool := startsWith text "sha256:" && isHexOf 64 (drop 7 text)

/-- Whether all members named pass their tests; after one that does not, no other is read. -/
def allTest (value : Json) : List (String × (String → Bool)) → Except String Bool
  | [] => .ok true
  | (name, test) :: rest => do
    if ← testsAs value name test then allTest value rest else return false

def validateIdentity (identity : Json) : Except String Unit := do
  require (!Json.strictEquals (some identity) (some .null)) "TypeError"
  require (Json.strictEquals (identity.field "preregistrationCommit") (some (.string "6c6ef80")))
    "RELIABILITY_V2_IDENTITY_UNREVIEWED"
  let reviewed ← allTest identity [("implementationCommit", isHexOf 40), ("implementationTree", isHexOf 40),
    ("reviewDigest", isTaggedDigest), ("buildDigest", isTaggedDigest), ("runtimeImageDigest", isTaggedDigest),
    ("schemaFingerprint", isTaggedDigest), ("runnerDigest", isTaggedDigest), ("adapterDigest", isTaggedDigest)]
  require reviewed "RELIABILITY_V2_IDENTITY_UNREVIEWED"

/-- `Buffer.from(randomness, "hex")` of what the check of a beacon accepts. -/
def randomBytes : Option Json → Except String (List UInt8)
  | some (.string text) => .ok (hexBytes text.toList)
  | some (.array elements) => .ok (elements.map NumberFormat.byte)
  | _ => .error "TypeError"

/-- The check of a beacon, and the bytes of its randomness. -/
def checkPlanBeacon (beacon : Json) : Except String (List UInt8) := do
  require (!Json.strictEquals (some beacon) (some .null)) "TypeError"
  require (Json.strictEquals (beacon.field "verified") (some (.bool true)) &&
    Json.strictEquals (beacon.field "round") (some (.ofInt reliabilityV2Round)) &&
    Json.strictEquals (beacon.field "chainHash") (some (.string reliabilityV2ChainHash)))
    "RELIABILITY_V2_BEACON_INVALID"
  require (← testsAs beacon "randomness" (isHexOf 64)) "RELIABILITY_V2_BEACON_INVALID"
  randomBytes (beacon.field "randomness")

/-- `runId.replace(/[^A-Za-z0-9._:-]/g, "-")`. -/
def setupIdOf (runId : String) : String :=
  String.ofList (runId.toList.map fun character =>
    if character.isAlphanum || ['.', '_', ':', '-'].contains character then character else '-')

/-- The text of a run id, which a plan that is validated may not have. -/
def runIdText : Option Json → Except String String
  | some (.string text) => .ok text
  | _ => .error "TypeError"

/-- `buildReliabilityPlan(beacon, runId, identity, true)`. -/
def planRecipe (beacon : Json) (runId : Option Json) (identity : Json) : Except String ReliabilityPlan := do
  validateIdentity identity
  let randomness ← checkPlanBeacon beacon
  let runId ← runIdText runId
  let setup := reliabilitySetup ("hov2-" ++ setupIdOf runId)
  let (calls, place) ← stepThrough (buildCall randomness runId) 0 planSlots
  let (replayTargets, _) ← stepThrough (buildReplayTarget randomness runId) place replaySlots
  return ⟨runId, beacon, identity, setup, calls, replayTargets⟩

/-! ### What the recipe makes -/

/-- What a call has from its slot. -/
structure MakesCall (runId : String) (slot : PlanSlot) (call : ReliabilityCall) : Prop where
  taken : (call.block, call.lane, call.callOrdinal) = (slot.block, slot.lane.id, slot.callOrdinal)
  share : (call.lane, call.branch, call.reservationUsdMicros) = (slot.lane.id, slot.branch, slot.lane.reservation)
  requestId : call.requestId = requestIdOf runId slot.block slot.lane.id slot.callOrdinal
  context : slot.lane.contextMin ≤ slot.lane.contextMax →
    slot.lane.contextMin ≤ call.contextUnits ∧ call.contextUnits ≤ slot.lane.contextMax

/-- What a replay target has from its slot. -/
structure MakesTarget (runId : String) (slot : ℕ × PlanLane) (target : ReplayTarget) : Prop where
  taken : (target.block, target.lane) = (slot.1, slot.2.id)
  ordinal : 1 ≤ target.callOrdinal ∧ target.callOrdinal ≤ 5
  requestId : target.requestId = requestIdOf runId slot.1 slot.2.id target.callOrdinal

theorem drawNumber_bounds {randomness : List UInt8} {low high place value next : ℕ} (ordered : low ≤ high)
    (drawn : drawNumber randomness low high place = .ok (value, next)) : low ≤ value ∧ value ≤ high := by
  unfold drawNumber at drawn
  split at drawn
  · next found =>
    cases drawn
    exact draw_bounds ordered found
  · cases drawn

theorem deriveReliabilityRequestId_eq_ok {runId lane requestId : String} {block callOrdinal : ℕ}
    (derived : deriveReliabilityRequestId runId block lane callOrdinal = .ok requestId) :
    requestId = requestIdOf runId block lane callOrdinal := by
  unfold deriveReliabilityRequestId at derived
  rw [bind_unit_eq_ok] at derived
  cases derived.2
  rfl

theorem buildCall_makes {randomness : List UInt8} {runId : String} {place next : ℕ} {slot : PlanSlot}
    {call : ReliabilityCall} (built : buildCall randomness runId place slot = .ok (call, next)) :
    MakesCall runId slot call := by
  unfold buildCall at built
  obtain ⟨requestId, derived, built⟩ := bind_eq_ok.mp built
  obtain ⟨⟨contextUnits, after⟩, drawn, built⟩ := bind_eq_ok.mp built
  cases built
  exact ⟨rfl, rfl, deriveReliabilityRequestId_eq_ok derived, fun ordered => drawNumber_bounds ordered drawn⟩

theorem buildReplayTarget_makes {randomness : List UInt8} {runId : String} {place next : ℕ}
    {slot : ℕ × PlanLane} {target : ReplayTarget}
    (built : buildReplayTarget randomness runId place slot = .ok (target, next)) :
    MakesTarget runId slot target := by
  unfold buildReplayTarget at built
  obtain ⟨⟨callOrdinal, after⟩, drawn, built⟩ := bind_eq_ok.mp built
  obtain ⟨requestId, derived, built⟩ := bind_eq_ok.mp built
  cases built
  exact ⟨rfl, drawNumber_bounds (by decide) drawn, deriveReliabilityRequestId_eq_ok derived⟩

/-- A plan of the recipe, from what it was given. -/
structure MadeOf (beacon : Json) (runId : Option Json) (identity : Json) (plan : ReliabilityPlan) : Prop where
  given : plan.beacon = beacon ∧ runId = some (.string plan.runId) ∧ plan.identity = identity
  reviewed : validateIdentity identity = .ok ()
  calls : List.Forall₂ (MakesCall plan.runId) planSlots plan.calls
  replayTargets : List.Forall₂ (MakesTarget plan.runId) replaySlots plan.replayTargets

theorem madeOf_recipe {beacon identity : Json} {runId : Option Json} {plan : ReliabilityPlan}
    (built : planRecipe beacon runId identity = .ok plan) : MadeOf beacon runId identity plan := by
  unfold planRecipe at built
  rw [bind_unit_eq_ok] at built
  obtain ⟨reviewed, built⟩ := built
  obtain ⟨randomness, _, built⟩ := bind_eq_ok.mp built
  obtain ⟨text, read, built⟩ := bind_eq_ok.mp built
  obtain ⟨⟨calls, place⟩, made, built⟩ := bind_eq_ok.mp built
  obtain ⟨⟨targets, last⟩, replays, built⟩ := bind_eq_ok.mp built
  cases built
  have written : runId = some (.string text) := by
    unfold runIdText at read
    split at read
    · cases read
      rfl
    · cases read
  exact ⟨⟨rfl, written, rfl⟩, reviewed, (stepThrough_forall₂ made).imp fun _ _ ⟨_, _, one⟩ => buildCall_makes one,
    (stepThrough_forall₂ replays).imp fun _ _ ⟨_, _, one⟩ => buildReplayTarget_makes one⟩

end Builder

end FuseControlPlane.Evidence
