/-
The validation of a sealed plan, which makes the plan again.

* `validateReliabilityPlan`, `buildReliabilityPlan`: the second calls the first, which makes the recipe.
* `plan_wellFormed`: **what a plan has**: its calls, their shares of the lanes' budgets, its replays.
* `built_plan_validates`: **a plan that is built passes**, also after it has been written and read.
* `accepted_plan`: **what passes is what would be built**.
-/

import FuseControlPlane.Evidence.SealedPlans

set_option linter.unusedSectionVars false

namespace FuseControlPlane.Evidence

open Foundation Foundation.JavaScript Domain

/-- `PLAN_KEYS`. -/
def planKeys : List String :=
  ["adapterRetryCount", "allowFallbacks", "beacon", "calls", "cost", "evidenceType", "identity", "lanes", "model",
    "planFingerprint", "protocolVersion", "provider", "replayTargets", "runId", "schedule", "schemaVersion", "setup"]

/-- `const { planFingerprint, ...payload } = plan`. -/
def withoutFingerprint : Json → Json
  | .object members => .object (members.filter (·.1 ≠ "planFingerprint"))
  | other => other

/-- `"11".repeat(32)`. -/
def testRandomness : String := String.ofList (List.replicate 64 '1')

section Validation

variable [NodeCrypto] [Collation] [BinaryDigest] [NumberFormat]

/-- A member of a plan with all keys. -/
def memberOf (plan : Json) (name : String) : Json := (plan.field name).getD .null

def isMember (plan : Json) (name : String) (value : Json) : Bool :=
  Json.strictEquals (plan.field name) (some value)

/-- The constants of a plan. -/
def hasConstants (plan : Json) : Bool :=
  isMember plan "schemaVersion" (.ofInt 2) && isMember plan "evidenceType" (.string "held-out-reliability") &&
    isMember plan "protocolVersion" (.ofInt 2) && isMember plan "provider" (.string reliabilityV2Provider) &&
    isMember plan "model" (.string reliabilityV2Model) && isMember plan "allowFallbacks" (.bool false) &&
    isMember plan "adapterRetryCount" (.ofInt 0) &&
    canonicalJson (memberOf plan "schedule") = canonicalJson scheduleJson &&
    canonicalJson (memberOf plan "lanes") = canonicalJson lanesJson

/-- The plan of the test beacon has the expected fingerprint. -/
def isGolden (plan : Json) : Bool :=
  !isMember (memberOf plan "beacon") "randomness" (.string testRandomness) ||
    isMember plan "planFingerprint" (.string expectedV2PlanFingerprintTestBeacon)

def validateReliabilityPlan (plan : Json) (enforceTestGolden : Bool) : Except String Unit := do
  require (plan.ownKeys.any (sorted · = planKeys)) "RELIABILITY_V2_PLAN_UNKNOWN_FIELD"
  require (hasConstants plan) "RELIABILITY_V2_PLAN_DRIFT"
  validateIdentity (memberOf plan "identity")
  require (isMember plan "planFingerprint" (.string (fingerprint (withoutFingerprint plan))))
    "RELIABILITY_V2_PLAN_FINGERPRINT_MISMATCH"
  let expected ← planRecipe (memberOf plan "beacon") (plan.field "runId") (memberOf plan "identity")
  require (canonicalJson expected.toJson = canonicalJson plan) "RELIABILITY_V2_PLAN_RECIPE_MISMATCH"
  require (!enforceTestGolden || isGolden plan) "RELIABILITY_V2_PLAN_GOLDEN_MISMATCH"

def buildReliabilityPlan (beacon : Json) (runId : String) (identity : Json) (internalSkipValidation : Bool) :
    Except String ReliabilityPlan := do
  let plan ← planRecipe beacon (some (.string runId)) identity
  if !internalSkipValidation then validateReliabilityPlan plan.toJson false
  return plan

/-! ### What a plan has -/

/-- What the calls of a lane and a branch reserve. -/
def ReliabilityPlan.reservedOn (plan : ReliabilityPlan) (lane : String) (branch : ℕ) : ℕ :=
  (((plan.calls.map fun call => (call.lane, call.branch, call.reservationUsdMicros)).filter
    fun share => share.1 = lane && share.2.1 = branch).map (·.2.2)).sum

/-- The place of a call. -/
def ReliabilityCall.place (call : ReliabilityCall) : ℕ × String × ℕ := (call.block, call.lane, call.callOrdinal)

/-- Requests with one id have one text: the digests that the ids are cut from do not collide. -/
def ReliabilityPlan.IsCollisionFree (plan : ReliabilityPlan) : Prop :=
  ∀ first ∈ plan.calls, ∀ second ∈ plan.calls, first.requestId = second.requestId →
    requestText plan.runId first.block first.lane first.callOrdinal =
      requestText plan.runId second.block second.lane second.callOrdinal

/-- A call for every block, lane and ordinal, in this order, with a context of its lane and a request id of its
place, distinct unless digests collide; the shares of the branches use up their budgets but for one; a replay for
every block and lane, of one of the calls. -/
structure WellFormed (plan : ReliabilityPlan) : Prop where
  calls : plan.calls.map ReliabilityCall.place =
    planSlots.map fun slot => (slot.block, slot.lane.id, slot.callOrdinal)
  contexts : ∀ call ∈ plan.calls, ∃ lane ∈ v2Lanes, lane.id = call.lane ∧
    lane.contextMin ≤ call.contextUnits ∧ call.contextUnits ≤ lane.contextMax
  requestIds : ∀ call ∈ plan.calls, call.requestId = requestIdOf plan.runId call.block call.lane call.callOrdinal
  distinct : plan.IsCollisionFree → (plan.calls.map (·.requestId)).Nodup
  budgets : ∀ lane ∈ v2Lanes, plan.reservedOn lane.id 1 + 1 = lane.children.1 ∧
    plan.reservedOn lane.id 2 + 1 = lane.children.2 ∧ lane.children.1 + lane.children.2 = lane.mandateMaximum
  replays : plan.replayTargets.map (fun target => (target.block, target.lane)) =
    replaySlots.map fun slot => (slot.1, slot.2.id)
  targets : ∀ target ∈ plan.replayTargets, ∃ call ∈ plan.calls, call.block = target.block ∧
    call.lane = target.lane ∧ call.callOrdinal = target.callOrdinal ∧ call.requestId = target.requestId

theorem place_of_text {runId : String} {call other : ReliabilityCall}
    (same : requestText runId call.block call.lane call.callOrdinal =
      requestText runId other.block other.lane other.callOrdinal) : call.place = other.place := by
  have values := Json.stringify_injective same
  have member (name : String) (first second : Json)
      (here : (name, first) ∈ requestMembers runId call.block call.lane call.callOrdinal)
      (there : (name, second) ∈ requestMembers runId other.block other.lane other.callOrdinal) :
      first.sortKeys _ = second.sortKeys _ :=
    Option.some.inj ((Json.field_sortKeys _ (by simp [requestMembers]) here).symm.trans
      (values ▸ Json.field_sortKeys _ (by simp [requestMembers]) there))
  have number {first second : ℕ} (same : Json.ofInt first = Json.ofInt second) : first = second := by
    have read := congrArg Json.integer? same
    rw [Json.integer?_ofInt, Json.integer?_ofInt] at read
    exact Int.ofNat.inj (Option.some.inj read)
  refine Prod.ext (number (member "block" (.ofInt call.block) (.ofInt other.block) ?_ ?_))
    (Prod.ext (Json.string.inj (member "lane" (.string call.lane) (.string other.lane) ?_ ?_))
      (number (member "callOrdinal" (.ofInt call.callOrdinal) (.ofInt other.callOrdinal) ?_ ?_))) <;>
    simp [requestMembers]

theorem slots_have :
    (∀ slot ∈ planSlots, slot.lane ∈ v2Lanes ∧ slot.lane.contextMin ≤ slot.lane.contextMax) ∧
      (∀ slot ∈ replaySlots, ∀ callOrdinal ∈ ordinals, (slot.1, slot.2.id, callOrdinal) ∈
        planSlots.map fun slot => (slot.block, slot.lane.id, slot.callOrdinal)) ∧
      (planSlots.map fun slot => (slot.block, slot.lane.id, slot.callOrdinal)).Nodup ∧
      ∀ lane ∈ v2Lanes, ∀ branch ∈ [(1, lane.children.1), (2, lane.children.2)],
        (((planSlots.map fun slot => (slot.lane.id, slot.branch, slot.lane.reservation)).filter
          fun share => share.1 = lane.id && share.2.1 = branch.1).map (·.2.2)).sum + 1 = branch.2 ∧
        lane.children.1 + lane.children.2 = lane.mandateMaximum := by
  decide +kernel

theorem wellFormed_of_madeOf {beacon identity : Json} {runId : Option Json} {plan : ReliabilityPlan}
    (made : MadeOf beacon runId identity plan) : WellFormed plan := by
  obtain ⟨lanes, listed, places, budgets⟩ := slots_have
  have calls : plan.calls.map ReliabilityCall.place = _ := map_eq_of_forall₂ made.calls fun _ _ makes => makes.taken
  have shares := map_eq_of_forall₂ made.calls fun _ _ makes => makes.share
  have requestIds : ∀ call ∈ plan.calls,
      call.requestId = requestIdOf plan.runId call.block call.lane call.callOrdinal := by
    intro call member
    obtain ⟨slot, _, makes⟩ := exists_of_forall₂ made.calls member
    obtain ⟨block, lane, ordinal⟩ := Prod.mk.inj makes.taken |>.imp id Prod.mk.inj
    rw [makes.requestId, block, lane, ordinal]
  rw [← calls] at places
  refine ⟨calls, fun call member => ?_, requestIds, fun free => ?_, fun lane member => ?_,
    map_eq_of_forall₂ made.replayTargets fun _ _ makes => makes.taken, fun target member => ?_⟩
  · obtain ⟨slot, here, makes⟩ := exists_of_forall₂ made.calls member
    have lane := (Prod.mk.inj makes.share).1
    exact ⟨slot.lane, (lanes slot here).1, lane.symm, makes.context (lanes slot here).2⟩
  · refine (List.nodup_map_iff_inj_on (List.Nodup.of_map _ places)).mpr fun first here second there same => ?_
    exact List.inj_on_of_nodup_map places here there (place_of_text (free first here second there same))
  · unfold ReliabilityPlan.reservedOn
    rw [shares]
    obtain ⟨first, whole⟩ := budgets lane member (1, lane.children.1) List.mem_cons_self
    exact ⟨first, (budgets lane member (2, lane.children.2) (List.mem_cons_of_mem _ List.mem_cons_self)).1, whole⟩
  · obtain ⟨slot, here, makes⟩ := exists_of_forall₂ made.replayTargets member
    obtain ⟨block, lane⟩ := Prod.mk.inj makes.taken
    have among : target.callOrdinal ∈ ordinals := by
      obtain ⟨least, most⟩ := makes.ordinal
      simp only [ordinals, List.mem_cons, List.not_mem_nil, or_false]
      omega
    have inside := listed slot here target.callOrdinal among
    rw [← calls] at inside
    obtain ⟨call, called, same⟩ := List.mem_map.mp inside
    obtain ⟨sameBlock, rest⟩ := Prod.mk.inj same
    obtain ⟨sameLane, sameOrdinal⟩ := Prod.mk.inj rest
    refine ⟨call, called, sameBlock.trans block.symm, sameLane.trans lane.symm, sameOrdinal, ?_⟩
    rw [requestIds call called, makes.requestId, sameBlock, sameLane, sameOrdinal]

/-! ### What passes -/

theorem isMember_of_field {plan value : Json} {name : String} (found : plan.field name = some value)
    (same : Json.strictEquals (some value) (some value) = true) : isMember plan name value = true := by
  rw [isMember, found, same]

theorem hasConstants_toJson (plan : ReliabilityPlan) : hasConstants plan.toJson = true := by
  simp only [hasConstants, Bool.and_eq_true, decide_eq_true_eq]
  refine ⟨⟨⟨⟨⟨⟨⟨⟨?_, ?_⟩, ?_⟩, ?_⟩, ?_⟩, ?_⟩, ?_⟩, rfl⟩, rfl⟩ <;>
    exact isMember_of_field rfl (by simp [Json.strictEquals, Json.ofInt])

theorem hasKeys_toJson (plan : ReliabilityPlan) : plan.toJson.ownKeys.any (sorted · = planKeys) = true := by
  have keys : plan.toJson.ownKeys = some ["schemaVersion", "evidenceType", "protocolVersion", "runId", "provider",
    "model", "allowFallbacks", "adapterRetryCount", "beacon", "identity", "schedule", "lanes", "setup", "calls",
    "replayTargets", "cost", "planFingerprint"] := rfl
  rw [keys]
  decide +kernel

/-- Of the checks of a plan that is made only the last can fail. -/
theorem validate_made {beacon identity : Json} {runId : Option Json} {plan : ReliabilityPlan}
    (built : planRecipe beacon runId identity = .ok plan) (enforceTestGolden : Bool) :
    validateReliabilityPlan plan.toJson enforceTestGolden =
      require (!enforceTestGolden || isGolden plan.toJson) "RELIABILITY_V2_PLAN_GOLDEN_MISMATCH" := by
  have made := madeOf_recipe built
  obtain ⟨rfl, rfl, rfl⟩ := made.given
  have again : planRecipe (memberOf plan.toJson "beacon") (plan.toJson.field "runId")
      (memberOf plan.toJson "identity") = .ok plan := built
  have marked : isMember plan.toJson "planFingerprint"
      (.string (fingerprint (withoutFingerprint plan.toJson))) = true := decide_eq_true rfl
  have reviewed : validateIdentity (memberOf plan.toJson "identity") = .ok () := made.reviewed
  rw [validateReliabilityPlan, hasKeys_toJson, hasConstants_toJson, marked, reviewed, again]
  simp only [require, if_true, decide_true, bind, Except.bind]

theorem build_eq_recipe (beacon identity : Json) (runId : String) (internalSkipValidation : Bool) :
    buildReliabilityPlan beacon runId identity internalSkipValidation =
      planRecipe beacon (some (.string runId)) identity := by
  unfold buildReliabilityPlan
  cases made : planRecipe beacon (some (.string runId)) identity with
  | error error => rfl
  | ok plan =>
    cases internalSkipValidation with
    | true => rfl
    | false =>
      simp only [Bool.not_false, if_true, bind, Except.bind, validate_made made]
      rfl

section Plans

variable {beacon identity : Json} {runId : String} {internalSkipValidation : Bool} {plan : ReliabilityPlan}

theorem plan_wellFormed
    (built : buildReliabilityPlan beacon runId identity internalSkipValidation = .ok plan) : WellFormed plan := by
  rw [build_eq_recipe] at built
  exact wellFormed_of_madeOf (madeOf_recipe built)

/-- A plan that is built is built with and without the validation, and passes it after it has been written and
read, but for the fingerprint of the test beacon. -/
theorem built_plan_validates
    (built : buildReliabilityPlan beacon runId identity internalSkipValidation = .ok plan)
    (enforceTestGolden : Bool) :
    buildReliabilityPlan beacon runId identity (!internalSkipValidation) = .ok plan ∧
      (Json.parse (Json.stringify plan.toJson)).map (validateReliabilityPlan · enforceTestGolden) =
        some (require (!enforceTestGolden || isGolden plan.toJson) "RELIABILITY_V2_PLAN_GOLDEN_MISMATCH") := by
  rw [build_eq_recipe] at built
  refine ⟨(build_eq_recipe ..).trans built, ?_⟩
  rw [Json.parse_stringify, Option.map_some, validate_made built]

/-- What passes has the canonical text of the plan of its beacon, its run id and its identity. -/
theorem accepted_plan {read : Json} {enforceTestGolden : Bool}
    (accepted : validateReliabilityPlan read enforceTestGolden = .ok ()) :
    ∃ runId plan, read.field "runId" = some (.string runId) ∧
      buildReliabilityPlan (memberOf read "beacon") runId (memberOf read "identity") false = .ok plan ∧
      canonicalJson read = canonicalJson plan.toJson ∧ WellFormed plan := by
  unfold validateReliabilityPlan at accepted
  simp only [bind_unit_eq_ok, require_eq_ok] at accepted
  obtain ⟨_, _, _, _, rest⟩ := accepted
  obtain ⟨plan, made, rest⟩ := bind_eq_ok.mp rest
  obtain ⟨same, _⟩ := bind_unit_eq_ok.mp rest
  have taken := madeOf_recipe made
  refine ⟨plan.runId, plan, taken.given.2.1, ?_, ?_, wellFormed_of_madeOf taken⟩
  · rw [build_eq_recipe, ← taken.given.2.1, made]
  · exact (of_decide_eq_true (require_eq_ok.mp same)).symm

end Plans

end Validation

/-! ### A plan -/

namespace SamplePlan

def hex (digits : ℕ) : String := String.ofList (List.replicate digits 'a')

local instance : NodeCrypto := ⟨fun _ => hex 64⟩

local instance : Collation := ⟨fun _ _ => 0⟩

local instance : BinaryDigest := ⟨fun _ => List.replicate 32 0⟩

local instance : NumberFormat := ⟨fun literal => String.ofList literal.characters, fun _ => 0⟩

def beacon : Json :=
  .object [("verified", .bool true), ("round", .ofInt reliabilityV2Round),
    ("chainHash", .string reliabilityV2ChainHash), ("randomness", .string (hex 64))]

def identity : Json :=
  .object (("preregistrationCommit", .string "6c6ef80") ::
    (["implementationCommit", "implementationTree"].map (·, .string (hex 40)) ++
      ["reviewDigest", "buildDigest", "runtimeImageDigest", "schemaFingerprint", "runnerDigest",
        "adapterDigest"].map (·, .string ("sha256:" ++ hex 64))))

theorem isOk_build : (buildReliabilityPlan beacon "run" identity true).isOk = true := by decide +kernel

theorem plan_wellFormed_sample :
    ∃ plan, buildReliabilityPlan beacon "run" identity true = .ok plan ∧ WellFormed plan := by
  obtain ⟨plan, built⟩ := eq_ok_of_isOk isOk_build
  exact ⟨plan, built, plan_wellFormed built⟩

theorem built_plan_validates_sample :
    ∃ plan, buildReliabilityPlan beacon "run" identity false = .ok plan ∧
      (Json.parse (Json.stringify plan.toJson)).map (validateReliabilityPlan · false) = some (.ok ()) := by
  obtain ⟨plan, built⟩ := eq_ok_of_isOk isOk_build
  exact ⟨plan, built_plan_validates built false⟩

theorem accepted_plan_sample :
    ∃ read runId plan, read.field "runId" = some (.string runId) ∧
      buildReliabilityPlan (memberOf read "beacon") runId (memberOf read "identity") false = .ok plan ∧
      canonicalJson read = canonicalJson plan.toJson ∧ WellFormed plan := by
  obtain ⟨plan, built⟩ := eq_ok_of_isOk isOk_build
  rw [build_eq_recipe] at built
  exact ⟨plan.toJson, accepted_plan (validate_made built false)⟩

end SamplePlan

end FuseControlPlane.Evidence
