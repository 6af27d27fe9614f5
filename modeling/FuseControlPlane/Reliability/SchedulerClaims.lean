/-
Scheduler claims (`acquireSchedulerClaim` .. `recordRecoveredTerminalSchedulerManifest` of
`reliability/protocolStore.ts`).

A worker that wants to send a sealed call acquires the claim of its request, renews the lease, records
the manifests it has published, and terminalises the claim. A claim whose lease has run out is taken over
with the next generation.

* `scheduler_claims_fence`: in every run of these calls, at any times, a generation never decreases and
  belongs to one owner; a call with another generation or owner changes nothing; a claim is acquired only
  while its attempt has no token and is not terminal; and within a generation the state moves forward, as
  long as no owner acquires its live claim again after it has moved on.
* `claim_rewound`: the state goes back to `claimed`.
-/

import FuseControlPlane.Foundation.Runs
import FuseControlPlane.Identity.IdentityStore
import FuseControlPlane.Reliability.ProtocolRows

set_option linter.unusedSectionVars false

namespace FuseControlPlane.Reliability

open Foundation Foundation.JavaScript Domain Identity

/-! ### The calls -/

inductive SchedulerRecoveryDecision
  | alreadyTerminal | awaitAuthoritativeOutcome | reconcileWithoutRedispatch | dispatchOriginal
  deriving DecidableEq

structure SchedulerRecoveryState where
  terminal : Bool
  dispatchToken : Bool
  primitiveEntered : Bool
  deriving DecidableEq

def schedulerRecoveryDecision (state : SchedulerRecoveryState) : SchedulerRecoveryDecision :=
  if state.terminal then .alreadyTerminal
  else if state.primitiveEntered then .reconcileWithoutRedispatch
  else if state.dispatchToken then .awaitAuthoritativeOutcome
  else .dispatchOriginal

/-- A segment of an artifact path. -/
def isPathSegment (part : String) : Bool :=
  part ≠ "" && part ≠ "." && part ≠ ".." && !part.toList.contains '/' && !part.toList.contains '\\'

def schedulerManifestArtifactPath (runId requestId : String) : Except String String := do
  let version ← protocolVersionForRunId runId
  require (["scheduler-manifests", runId, requestId ++ ".json"].all isPathSegment)
    "ARTIFACT_PATH_SEGMENT_INVALID"
  return "/".intercalate [version.artifactRoot, "scheduler-manifests", runId, requestId ++ ".json"]

/-- The path of a claim's manifest, which versions 3 and 4 prescribe. -/
def checkManifestPath (runId requestId manifestPath : String) : Except String Unit := do
  let version ← protocolVersionForRunId runId
  if requiresStrictArtifactBinding version then
    let path ← schedulerManifestArtifactPath runId requestId
    require (manifestPath = path) "SCHEDULER_MANIFEST_PATH_INVALID"
  else return ()

/-- `/^sha256:[a-f0-9]{64}$/`. -/
def isManifestDigest (text : String) : Bool := startsWith text "sha256:" && isDigest (drop 7 text)

def isLeaseSeconds (leaseSeconds : ℤ) : Bool := 1 ≤ leaseSeconds && leaseSeconds ≤ 300

structure AcquireSchedulerClaimInput where
  requestId : String
  laneId : String
  block : ℤ
  ownerId : String
  leaseSeconds : ℤ
  manifestPath : String

/-- What every call on a claim says it has. -/
structure SchedulerClaimHolder where
  requestId : String
  laneId : String
  ownerId : String
  generation : ℕ

structure AcquiredSchedulerClaim where
  acquired : Bool
  generation : Option ℕ
  decision : SchedulerRecoveryDecision
  deriving DecidableEq

/-- The rank that a recorded manifest must not fall below. -/
def SchedulerClaimState.rank : SchedulerClaimState → ℕ
  | claimed => 1
  | admissionStarted => 2
  | awaitingOutcome => 3
  | terminal => 4

/-- A first claim. -/
def AcquireSchedulerClaimInput.claim (input : AcquireSchedulerClaimInput) (now : ℤ) :
    SchedulerClaimRow where
  requestId := input.requestId
  laneId := input.laneId
  block := input.block
  ownerId := input.ownerId
  generation := 1
  state := .claimed
  leaseExpiresAt := now + input.leaseSeconds * 1000
  heartbeatAt := now
  manifestPath := input.manifestPath
  manifestDigest := none
  manifestFsyncedAt := none
  terminalAt := none

namespace SchedulerClaimRow

/-- `lease_expires_at > clock_timestamp()`. -/
def isLive (claim : SchedulerClaimRow) (now : ℤ) : Bool := now < claim.leaseExpiresAt

/-- The claim, acquired again by its owner or taken over. -/
def acquiredAgain (claim : SchedulerClaimRow) (input : AcquireSchedulerClaimInput) (now : ℤ) :
    SchedulerClaimRow :=
  { claim with
    ownerId := input.ownerId
    generation := claim.generation + if claim.ownerId = input.ownerId && claim.isLive now then 0 else 1
    state := .claimed
    heartbeatAt := now
    leaseExpiresAt := now + input.leaseSeconds * 1000 }

/-- The claim is its holder's. -/
def isHeldBy (claim : SchedulerClaimRow) (holder : SchedulerClaimHolder) : Bool :=
  claim.laneId = holder.laneId && claim.ownerId = holder.ownerId && claim.generation = holder.generation

end SchedulerClaimRow

namespace ProtocolRun

/-- What is known of an attempt when its claim is asked for. -/
def recoveryState (run : ProtocolRun) (attempt : AttemptRow) : SchedulerRecoveryState where
  terminal := attempt.terminalAt.isSome
  dispatchToken := (run.dispatchTokens.find? attempt.requestId).isSome
  primitiveEntered :=
    (run.dispatchTokens.find? attempt.requestId).any fun token => token.primitiveEnteredAt.isSome

/-- The claim of the holder's request, if it is the holder's. -/
def heldClaim (run : ProtocolRun) (holder : SchedulerClaimHolder) : Option SchedulerClaimRow :=
  (run.schedulerClaims.find? holder.requestId).filter fun claim => claim.isHeldBy holder

def putClaim (run : ProtocolRun) (claim : SchedulerClaimRow) : ProtocolRun :=
  { run with schedulerClaims := run.schedulerClaims.put claim }

variable [ProtocolProfiles]

def acquireSchedulerClaim (input : AcquireSchedulerClaimInput) (now : ℤ) (run : ProtocolRun) :
    Except String (AcquiredSchedulerClaim × ProtocolRun) := do
  require (isLeaseSeconds input.leaseSeconds && !isBlank input.manifestPath) "SCHEDULER_CLAIM_INVALID"
  checkManifestPath run.runId input.requestId input.manifestPath
  let control ← run.lockControlLane input.laneId
  match (run.attempts.find? input.requestId).filter fun attempt =>
      attempt.laneId = input.laneId && attempt.block = input.block with
  | none => .error "PROTOCOL_ATTEMPT_NOT_FOUND"
  | some attempt =>
    let decision := schedulerRecoveryDecision (run.recoveryState attempt)
    let existing := run.schedulerClaims.find? input.requestId
    if decision ≠ .dispatchOriginal then
      return (⟨false, existing.map SchedulerClaimRow.generation, decision⟩, run)
    else do
      require (control = .active) "PROTOCOL_CONTROL_FAILED"
      match existing with
      | none => return (⟨true, some 1, decision⟩, run.putClaim (input.claim now))
      | some claim =>
        if claim.state = .terminal then
          return (⟨false, some claim.generation, .alreadyTerminal⟩, run)
        else if claim.isLive now && claim.ownerId ≠ input.ownerId then
          return (⟨false, some claim.generation, decision⟩, run)
        else do
          require (claim.manifestPath = input.manifestPath) "SCHEDULER_MANIFEST_PATH_CONFLICT"
          return (⟨true, some (claim.acquiredAgain input now).generation, decision⟩,
            run.putClaim (claim.acquiredAgain input now))

def renewSchedulerClaim (holder : SchedulerClaimHolder) (leaseSeconds now : ℤ) (run : ProtocolRun) :
    Except String (Unit × ProtocolRun) := do
  require (isLeaseSeconds leaseSeconds) "SCHEDULER_CLAIM_INVALID"
  let control ← run.lockControlLane holder.laneId
  require (control = .active) "PROTOCOL_CONTROL_FAILED"
  match (run.heldClaim holder).filter fun claim => claim.state ≠ .terminal && claim.isLive now with
  | none => .error "SCHEDULER_CLAIM_LOST"
  | some claim =>
    return ((), run.putClaim
      { claim with heartbeatAt := now, leaseExpiresAt := now + leaseSeconds * 1000 })

/-- The state is one of the first three. -/
def recordSchedulerManifestFsynced (holder : SchedulerClaimHolder) (manifestDigest : String)
    (state : SchedulerClaimState) (now : ℤ) (run : ProtocolRun) : Except String (Unit × ProtocolRun) := do
  require (isManifestDigest manifestDigest) "SCHEDULER_MANIFEST_DIGEST_INVALID"
  let control ← run.lockControlLane holder.laneId
  require (control = .active) "PROTOCOL_CONTROL_FAILED"
  match (run.heldClaim holder).filter fun claim =>
      claim.state ≠ .terminal && state ≠ .terminal && claim.state.rank ≤ state.rank with
  | none => .error "SCHEDULER_CLAIM_LOST"
  | some claim =>
    return ((), run.putClaim
      { claim with
        state
        manifestDigest := some manifestDigest
        manifestFsyncedAt := some now
        heartbeatAt := now })

/-- A claim becomes terminal with its attempt; a claim that is terminal already stays as it is. -/
def terminalizeSchedulerClaim (holder : SchedulerClaimHolder) (now : ℤ) (run : ProtocolRun) :
    Except String (Unit × ProtocolRun) := do
  let _ ← run.lockControlLane holder.laneId
  match run.heldClaim holder with
  | none => .error "SCHEDULER_TERMINAL_CONFLICT"
  | some claim =>
    if claim.state = .terminal then return ((), run)
    else match (run.attempts.find? holder.requestId).bind AttemptRow.terminalAt with
      | none => .error "SCHEDULER_TERMINAL_CONFLICT"
      | some terminalAt =>
        return ((), run.putClaim
          { claim with
            state := .terminal
            terminalAt := some terminalAt
            heartbeatAt := now
            leaseExpiresAt := now })

/-- The manifest of a terminal claim, published by whoever recovers it. -/
def recordRecoveredTerminalSchedulerManifest (requestId laneId : String) (generation : ℕ)
    (manifestDigest : String) (now : ℤ) (run : ProtocolRun) : Except String (Unit × ProtocolRun) := do
  require (isManifestDigest manifestDigest) "SCHEDULER_MANIFEST_DIGEST_INVALID"
  let _ ← run.lockControlLane laneId
  match (run.schedulerClaims.find? requestId).filter fun claim =>
      claim.laneId = laneId && claim.generation = generation && claim.state = .terminal with
  | none => .error "SCHEDULER_TERMINAL_MANIFEST_CONFLICT"
  | some claim =>
    return ((), run.putClaim
      { claim with
        manifestDigest := some manifestDigest
        manifestFsyncedAt := some now
        heartbeatAt := now })

end ProtocolRun

/-! ### Runs -/

/-- A call at some time, or anything that leaves the claims alone. -/
inductive SchedulerOp
  | acquire (input : AcquireSchedulerClaimInput) (now : ℤ)
  | renew (holder : SchedulerClaimHolder) (leaseSeconds now : ℤ)
  | recordManifest (holder : SchedulerClaimHolder) (manifestDigest : String)
    (state : SchedulerClaimState) (now : ℤ)
  | terminalize (holder : SchedulerClaimHolder) (now : ℤ)
  | recordRecovered (requestId laneId : String) (generation : ℕ) (manifestDigest : String) (now : ℤ)
  | elsewhere (other : ProtocolRun)

/-- The holder a call claims to be, of the calls that need one. -/
def SchedulerOp.holder : SchedulerOp → Option SchedulerClaimHolder
  | renew holder _ _ => some holder
  | recordManifest holder _ _ _ => some holder
  | terminalize holder _ => some holder
  | _ => none

namespace ProtocolRun

/-- A rejected call changes nothing. -/
def settle {α : Type} (run : ProtocolRun) (result : Except String (α × ProtocolRun)) : ProtocolRun :=
  match result with
  | .ok (_, after) => after
  | .error _ => run

theorem settle_cases {α : Type} (run : ProtocolRun) (result : Except String (α × ProtocolRun)) :
    run.settle result = run ∨ ∃ value, result = .ok (value, run.settle result) := by
  cases result with
  | error error => exact .inl rfl
  | ok answer => exact .inr ⟨answer.1, rfl⟩

variable [ProtocolProfiles]

def schedulerStep (run : ProtocolRun) : SchedulerOp → ProtocolRun
  | .acquire input now => run.settle (run.acquireSchedulerClaim input now)
  | .renew holder leaseSeconds now => run.settle (run.renewSchedulerClaim holder leaseSeconds now)
  | .recordManifest holder manifestDigest state now =>
    run.settle (run.recordSchedulerManifestFsynced holder manifestDigest state now)
  | .terminalize holder now => run.settle (run.terminalizeSchedulerClaim holder now)
  | .recordRecovered requestId laneId generation manifestDigest now =>
    run.settle
      (run.recordRecoveredTerminalSchedulerManifest requestId laneId generation manifestDigest now)
  | .elsewhere other => { other with schedulerClaims := run.schedulerClaims }

end ProtocolRun

/-- An owner acquires its live claim again after the claim has moved on. -/
def Rewinds (run : ProtocolRun) : SchedulerOp → Prop
  | .acquire input now =>
    (run.schedulerClaims.find? input.requestId).any (fun claim =>
      claim.ownerId = input.ownerId && claim.isLive now &&
        (claim.state = .admissionStarted || claim.state = .awaitingOutcome)) = true ∧
      (run.attempts.find? input.requestId).any (fun attempt =>
        attempt.terminalAt.isNone && (run.dispatchTokens.find? attempt.requestId).isNone) = true ∧
      run.control.state = .active
  | _ => False

instance (run : ProtocolRun) : (op : SchedulerOp) → Decidable (Rewinds run op)
  | .acquire _ _ => inferInstanceAs (Decidable (_ ∧ _ ∧ _))
  | .renew _ _ _ => isFalse id
  | .recordManifest _ _ _ _ => isFalse id
  | .terminalize _ _ => isFalse id
  | .recordRecovered _ _ _ _ _ => isFalse id
  | .elsewhere _ => isFalse id

/-! ### What a call does to the claims -/

/-- A generation does not decrease and keeps its owner. -/
structure Succeeds (claim later : SchedulerClaimRow) : Prop where
  requestId : later.requestId = claim.requestId
  generation : claim.generation ≤ later.generation
  ownerId : later.generation = claim.generation → later.ownerId = claim.ownerId

/-- Within a generation the state moves forward. -/
def MovesForward (claim later : SchedulerClaimRow) : Prop :=
  later.generation = claim.generation → claim.state.rank ≤ later.state.rank

theorem Succeeds.refl (claim : SchedulerClaimRow) : Succeeds claim claim := ⟨rfl, le_rfl, fun _ => rfl⟩

theorem Succeeds.trans {first second third : SchedulerClaimRow} (earlier : Succeeds first second)
    (later : Succeeds second third) : Succeeds first third := by
  refine ⟨later.requestId.trans earlier.requestId, earlier.generation.trans later.generation,
    fun same => ?_⟩
  have lower := earlier.generation
  have upper := later.generation
  have middle : second.generation = first.generation := by omega
  exact (later.ownerId (by omega)).trans (earlier.ownerId middle)

theorem MovesForward.trans {first second third : SchedulerClaimRow} (earlier : Succeeds first second)
    (later : Succeeds second third) (forward : MovesForward first second)
    (onward : MovesForward second third) : MovesForward first third := by
  intro same
  have lower := earlier.generation
  have upper := later.generation
  have middle : second.generation = first.generation := by omega
  exact (forward middle).trans (onward (by omega))

/-- The claims are left alone, one is added, or one is replaced. -/
inductive ClaimWrite (run after : ProtocolRun) (rewinds : Prop) : Prop
  | same (unchanged : after.schedulerClaims = run.schedulerClaims)
  | first (row : SchedulerClaimRow) (absent : run.schedulerClaims.find? row.requestId = none)
    (written : after = run.putClaim row)
  | again (claim row : SchedulerClaimRow)
    (found : run.schedulerClaims.find? row.requestId = some claim) (succeeds : Succeeds claim row)
    (forward : ¬ rewinds → MovesForward claim row) (written : after = run.putClaim row)

section Writes

variable [ProtocolProfiles] {run after : ProtocolRun}

/-- A call that keeps the generation and the owner. -/
theorem ClaimWrite.update {claim row : SchedulerClaimRow} {requestId : String}
    (found : run.schedulerClaims.find? requestId = some claim)
    (same : row.requestId = claim.requestId ∧ row.generation = claim.generation ∧
      row.ownerId = claim.ownerId)
    (forward : claim.state.rank ≤ row.state.rank) (rewinds : Prop) :
    ClaimWrite run (run.putClaim row) rewinds := by
  obtain ⟨id, generation, ownerId⟩ := same
  have own : claim.requestId = requestId := Table.key_of_find? found
  refine .again claim row ?_ ⟨id, generation.ge, fun _ => ownerId⟩ (fun _ _ => forward) rfl
  rw [id, own]
  exact found

theorem heldClaim_eq_some {holder : SchedulerClaimHolder} {claim : SchedulerClaimRow}
    (held : run.heldClaim holder = some claim) :
    run.schedulerClaims.find? holder.requestId = some claim ∧ claim.ownerId = holder.ownerId ∧
      claim.generation = holder.generation := by
  obtain ⟨found, own⟩ := (Option.filter_eq_some_iff ..).mp held
  unfold SchedulerClaimRow.isHeldBy at own
  simp only [Bool.and_eq_true, decide_eq_true_eq] at own
  exact ⟨found, own.1.2, own.2⟩

/-- What an accepted `acquireSchedulerClaim` has found and done. -/
theorem acquireSchedulerClaim_eq_ok {input : AcquireSchedulerClaimInput} {now : ℤ}
    {answer : AcquiredSchedulerClaim}
    (accepted : run.acquireSchedulerClaim input now = .ok (answer, after)) :
    (answer.acquired = false ∧ after = run) ∨
      ∃ attempt, run.attempts.find? input.requestId = some attempt ∧ attempt.terminalAt = none ∧
        run.dispatchTokens.find? attempt.requestId = none ∧ run.control.state = .active ∧
        ((run.schedulerClaims.find? input.requestId = none ∧ after = run.putClaim (input.claim now)) ∨
          ∃ claim, run.schedulerClaims.find? input.requestId = some claim ∧ claim.state ≠ .terminal ∧
            (claim.isLive now = true → claim.ownerId = input.ownerId) ∧
            after = run.putClaim (claim.acquiredAgain input now)) := by
  unfold ProtocolRun.acquireSchedulerClaim at accepted
  simp only [bind_unit_eq_ok] at accepted
  obtain ⟨_, _, accepted⟩ := accepted
  obtain ⟨control, locked, accepted⟩ := bind_eq_ok.mp accepted
  split at accepted
  · cases accepted
  · next attempt found =>
    obtain ⟨stored, _⟩ := (Option.filter_eq_some_iff ..).mp found
    split at accepted
    · cases accepted
      exact .inl ⟨rfl, rfl⟩
    · next original =>
      simp only [bind_unit_eq_ok, require_eq_ok, decide_eq_true_eq] at accepted
      obtain ⟨active, accepted⟩ := accepted
      have free : attempt.terminalAt = none ∧ run.dispatchTokens.find? attempt.requestId = none := by
        unfold schedulerRecoveryDecision ProtocolRun.recoveryState at original
        cases terminal : attempt.terminalAt with
        | some time => simp [terminal] at original
        | none =>
          cases token : run.dispatchTokens.find? attempt.requestId with
          | none => exact ⟨rfl, rfl⟩
          | some row =>
            simp only [terminal, token] at original
            split at original <;> simp at original
            split at original <;> simp at original
      have live : run.control.state = .active := (ProtocolRun.lockControlLane_eq_ok locked).symm.trans active
      split at accepted
      · next absent =>
        cases accepted
        exact .inr ⟨attempt, stored, free.1, free.2, live, .inl ⟨absent, rfl⟩⟩
      · next claim there =>
        split at accepted
        · cases accepted
          exact .inl ⟨rfl, rfl⟩
        · next going =>
          split at accepted
          · cases accepted
            exact .inl ⟨rfl, rfl⟩
          · next mine =>
            simp only [bind_unit_eq_ok] at accepted
            cases accepted.2
            refine .inr ⟨attempt, stored, free.1, free.2, live,
              .inr ⟨claim, there, going, fun alive => ?_, rfl⟩⟩
            simpa [alive] using mine

/-- **One call.** -/
theorem schedulerStep_write (run : ProtocolRun) (op : SchedulerOp) :
    ClaimWrite run (run.schedulerStep op) (Rewinds run op) := by
  cases op with
  | elsewhere other => exact .same rfl
  | acquire input now =>
    show ClaimWrite run (run.settle (run.acquireSchedulerClaim input now)) _
    rcases run.settle_cases (run.acquireSchedulerClaim input now) with same | ⟨answer, accepted⟩
    · exact .same (congrArg ProtocolRun.schedulerClaims same)
    · rcases acquireSchedulerClaim_eq_ok accepted with ⟨_, same⟩ |
        ⟨attempt, stored, unended, untaken, active, ⟨absent, written⟩ | ⟨claim, found, going, live, written⟩⟩
      · exact .same (congrArg ProtocolRun.schedulerClaims same)
      · exact .first (input.claim now) absent written
      · have own : claim.requestId = input.requestId := Table.key_of_find? found
        refine .again claim (claim.acquiredAgain input now) ?_ ⟨rfl, Nat.le_add_right _ _, fun same => ?_⟩
          (fun keeps same => ?_) written
        · show run.schedulerClaims.find? claim.requestId = some claim
          rw [own]
          exact found
        · simp only [SchedulerClaimRow.acquiredAgain] at same ⊢
          split at same
          · next again =>
            simp only [Bool.and_eq_true, decide_eq_true_eq] at again
            exact again.1.symm
          · omega
        · -- The owner comes back to a claim that has not moved on.
          simp only [SchedulerClaimRow.acquiredAgain] at same ⊢
          split at same
          · next again =>
            simp only [Bool.and_eq_true, decide_eq_true_eq] at again
            have stays : claim.state = .claimed := by
              by_contra moved
              refine keeps ⟨?_, ?_, active⟩
              · rw [found]
                cases state : claim.state with
                | claimed => exact absurd state moved
                | terminal => exact absurd state going
                | admissionStarted => simp [again, state]
                | awaitingOutcome => simp [again, state]
              · rw [stored]
                simp [unended, untaken]
            rw [stays]
          · omega
  | renew holder leaseSeconds now =>
    show ClaimWrite run (run.settle (run.renewSchedulerClaim holder leaseSeconds now)) _
    rcases run.settle_cases (run.renewSchedulerClaim holder leaseSeconds now) with same | ⟨_, accepted⟩
    · exact .same (congrArg ProtocolRun.schedulerClaims same)
    · generalize run.settle (run.renewSchedulerClaim holder leaseSeconds now) = after at accepted
      unfold ProtocolRun.renewSchedulerClaim at accepted
      simp only [bind_unit_eq_ok] at accepted
      obtain ⟨_, accepted⟩ := accepted
      obtain ⟨control, _, accepted⟩ := bind_eq_ok.mp accepted
      simp only [bind_unit_eq_ok] at accepted
      obtain ⟨_, accepted⟩ := accepted
      split at accepted
      · cases accepted
      · next claim held =>
        cases accepted
        obtain ⟨held, _⟩ := (Option.filter_eq_some_iff ..).mp held
        refine .update (heldClaim_eq_some held).1 ?_ ?_ _
        · exact ⟨rfl, rfl, rfl⟩
        · exact le_rfl
  | recordManifest holder manifestDigest state now =>
    show ClaimWrite run (run.settle (run.recordSchedulerManifestFsynced holder manifestDigest state now)) _
    rcases run.settle_cases (run.recordSchedulerManifestFsynced holder manifestDigest state now) with
      same | ⟨_, accepted⟩
    · exact .same (congrArg ProtocolRun.schedulerClaims same)
    · generalize run.settle (run.recordSchedulerManifestFsynced holder manifestDigest state now) = after
        at accepted
      unfold ProtocolRun.recordSchedulerManifestFsynced at accepted
      simp only [bind_unit_eq_ok] at accepted
      obtain ⟨_, accepted⟩ := accepted
      obtain ⟨control, _, accepted⟩ := bind_eq_ok.mp accepted
      simp only [bind_unit_eq_ok] at accepted
      obtain ⟨_, accepted⟩ := accepted
      split at accepted
      · cases accepted
      · next claim held =>
        cases accepted
        obtain ⟨held, meets⟩ := (Option.filter_eq_some_iff ..).mp held
        simp only [Bool.and_eq_true, decide_eq_true_eq] at meets
        refine .update (heldClaim_eq_some held).1 ?_ ?_ _
        · exact ⟨rfl, rfl, rfl⟩
        · exact meets.2
  | terminalize holder now =>
    show ClaimWrite run (run.settle (run.terminalizeSchedulerClaim holder now)) _
    rcases run.settle_cases (run.terminalizeSchedulerClaim holder now) with same | ⟨_, accepted⟩
    · exact .same (congrArg ProtocolRun.schedulerClaims same)
    · generalize run.settle (run.terminalizeSchedulerClaim holder now) = after at accepted
      unfold ProtocolRun.terminalizeSchedulerClaim at accepted
      obtain ⟨control, _, accepted⟩ := bind_eq_ok.mp accepted
      split at accepted
      · cases accepted
      · next claim held =>
        split at accepted
        · cases accepted
          exact .same rfl
        · split at accepted
          · cases accepted
          · cases accepted
            refine .update (heldClaim_eq_some held).1 ?_ ?_ _
            · exact ⟨rfl, rfl, rfl⟩
            · show claim.state.rank ≤ SchedulerClaimState.terminal.rank
              cases claim.state <;> decide
  | recordRecovered requestId laneId generation manifestDigest now =>
    show ClaimWrite run (run.settle (run.recordRecoveredTerminalSchedulerManifest requestId laneId
      generation manifestDigest now)) _
    rcases run.settle_cases (run.recordRecoveredTerminalSchedulerManifest requestId laneId generation
      manifestDigest now) with same | ⟨_, accepted⟩
    · exact .same (congrArg ProtocolRun.schedulerClaims same)
    · generalize run.settle (run.recordRecoveredTerminalSchedulerManifest requestId laneId generation
        manifestDigest now) = after at accepted
      unfold ProtocolRun.recordRecoveredTerminalSchedulerManifest at accepted
      simp only [bind_unit_eq_ok] at accepted
      obtain ⟨_, accepted⟩ := accepted
      obtain ⟨control, _, accepted⟩ := bind_eq_ok.mp accepted
      split at accepted
      · cases accepted
      · next claim held =>
        cases accepted
        obtain ⟨found, _⟩ := (Option.filter_eq_some_iff ..).mp held
        refine .update found ?_ ?_ _
        · exact ⟨rfl, rfl, rfl⟩
        · exact le_rfl

/-- A claim goes on in the claims of a run. -/
def Continues (claim : SchedulerClaimRow) (run : ProtocolRun) : Prop :=
  ∃ later ∈ run.schedulerClaims, Succeeds claim later ∧ MovesForward claim later

theorem ClaimWrite.continues {rewinds : Prop} (write : ClaimWrite run after rewinds)
    (keeps : ¬ rewinds) {claim : SchedulerClaimRow} (stored : claim ∈ run.schedulerClaims) :
    Continues claim after := by
  cases write with
  | same unchanged => exact ⟨claim, unchanged ▸ stored, .refl claim, fun _ => le_rfl⟩
  | first row absent written =>
    subst written
    refine ⟨claim, Table.mem_put.mpr (.inr ⟨stored, fun same => ?_⟩), .refl claim, fun _ => le_rfl⟩
    exact Table.find?_eq_none.mp absent claim stored same
  | again before row found succeeds forward written =>
    subst written
    by_cases same : Keyed.key claim = Keyed.key row
    · have there : before = claim := by
        have read := Table.find?_of_mem stored
        rw [same] at read
        exact Option.some.inj (found.symm.trans read)
      subst there
      exact ⟨row, Table.mem_put.mpr (.inl rfl), succeeds, forward keeps⟩
    · exact ⟨claim, Table.mem_put.mpr (.inr ⟨stored, same⟩), .refl claim, fun _ => le_rfl⟩

/-- **One call of a stale worker.** -/
theorem schedulerStep_stale {op : SchedulerOp} {holder : SchedulerClaimHolder}
    (worker : op.holder = some holder) {claim : SchedulerClaimRow}
    (found : run.schedulerClaims.find? holder.requestId = some claim)
    (stale : claim.generation ≠ holder.generation ∨ claim.ownerId ≠ holder.ownerId) :
    run.schedulerStep op = run := by
  have none_held : run.heldClaim holder = none := by
    unfold ProtocolRun.heldClaim SchedulerClaimRow.isHeldBy
    rw [found]
    rcases stale with generation | owner
    · simp [Option.filter, generation]
    · simp [Option.filter, owner]
  have rejected {α : Type} {result : Except String (α × ProtocolRun)}
      (fails : ∀ answer, result ≠ .ok answer) : run.settle result = run := by
    cases result with
    | error error => rfl
    | ok answer => exact absurd rfl (fails answer)
  cases op with
  | renew own leaseSeconds now =>
    cases worker
    refine rejected fun answer accepted => ?_
    unfold ProtocolRun.renewSchedulerClaim at accepted
    simp only [bind_unit_eq_ok] at accepted
    obtain ⟨control, _, accepted⟩ := bind_eq_ok.mp accepted.2
    simp [none_held] at accepted
  | recordManifest own manifestDigest state now =>
    cases worker
    refine rejected fun answer accepted => ?_
    unfold ProtocolRun.recordSchedulerManifestFsynced at accepted
    simp only [bind_unit_eq_ok] at accepted
    obtain ⟨control, _, accepted⟩ := bind_eq_ok.mp accepted.2
    simp [none_held] at accepted
  | terminalize own now =>
    cases worker
    refine rejected fun answer accepted => ?_
    unfold ProtocolRun.terminalizeSchedulerClaim at accepted
    obtain ⟨control, _, accepted⟩ := bind_eq_ok.mp accepted
    simp [none_held] at accepted
  | acquire | recordRecovered | elsewhere => cases worker

/-- **Scheduler claims fence stale workers.** From any state, by any calls at any times: the generation
of a claim does not decrease and belongs to one owner; a call with another generation or owner changes
nothing; a claim is acquired only while its attempt has no dispatch token and is not terminal. Within a
generation the state moves forward, as long as no owner acquires its live claim again after the claim
has moved on. -/
theorem scheduler_claims_fence (start : ProtocolRun) (ops : List SchedulerOp)
    (keeps : Along ProtocolRun.schedulerStep (fun run op => ¬ Rewinds run op) start ops) :
    (∀ claim ∈ start.schedulerClaims,
      ∃ later ∈ (Foundation.run ProtocolRun.schedulerStep start ops).schedulerClaims,
        later.requestId = claim.requestId ∧ claim.generation ≤ later.generation ∧
        (later.generation = claim.generation → later.ownerId = claim.ownerId ∧
          claim.state.rank ≤ later.state.rank)) ∧
    (∀ op holder, op.holder = some holder →
      ∀ claim, (Foundation.run ProtocolRun.schedulerStep start ops).schedulerClaims.find?
          holder.requestId = some claim →
        (claim.generation ≠ holder.generation ∨ claim.ownerId ≠ holder.ownerId) →
        (Foundation.run ProtocolRun.schedulerStep start ops).schedulerStep op =
          Foundation.run ProtocolRun.schedulerStep start ops) ∧
    ∀ input now answer after,
      (Foundation.run ProtocolRun.schedulerStep start ops).acquireSchedulerClaim input now =
        .ok (answer, after) → answer.acquired = true →
      ∃ attempt, (Foundation.run ProtocolRun.schedulerStep start ops).attempts.find? input.requestId =
          some attempt ∧ attempt.terminalAt = none ∧
        (Foundation.run ProtocolRun.schedulerStep start ops).dispatchTokens.find? input.requestId =
          none := by
  refine ⟨fun claim stored => ?_, fun op holder worker claim found stale => ?_,
    fun input now answer after accepted acquired => ?_⟩
  · have goes_on : Continues claim (Foundation.run ProtocolRun.schedulerStep start ops) := by
      refine keeps.invariant ⟨claim, stored, .refl claim, fun _ => le_rfl⟩ fun run op earlier kept => ?_
      obtain ⟨middle, there, succeeds, forward⟩ := earlier
      obtain ⟨later, here, next, onward⟩ := (schedulerStep_write run op).continues kept there
      exact ⟨later, here, succeeds.trans next, forward.trans succeeds next onward⟩
    obtain ⟨later, here, succeeds, forward⟩ := goes_on
    exact ⟨later, here, succeeds.requestId, succeeds.generation,
      fun same => ⟨succeeds.ownerId same, forward same⟩⟩
  · exact schedulerStep_stale worker found stale
  · rcases acquireSchedulerClaim_eq_ok accepted with ⟨not_acquired, _⟩ |
      ⟨attempt, stored, unended, untaken, _⟩
    · rw [acquired] at not_acquired
      cases not_acquired
    · have own : attempt.requestId = input.requestId := Table.key_of_find? stored
      exact ⟨attempt, stored, unended, own ▸ untaken⟩

end Writes

/-! ### An owner that comes back -/

namespace Sample

@[reducible] def profiles : ProtocolProfiles := ⟨fun _ => "fingerprint"⟩

/-- A run with one lane and one call, which has been admitted but has no token. -/
def start : ProtocolRun where
  runId := "run-1"
  control :=
    { state := .active
      planFingerprint := "plan"
      profile := letI := profiles; ProtocolVersion.profile .v2
      failureSequence := 0
      nonusableAllowanceOwner := none
      reconciliationCredentialId := none
      dispatchTokenCount := 0
      gateClassificationCount := 0
      ambiguityCount := 0
      usableCount := 0
      failedAt := none }
  lanes := Table.empty.put ⟨"normal-paced", .ready, none⟩
  sealedCalls := .empty
  blockClaims := .empty
  attempts := Table.empty.put
    { requestId := "call-1"
      laneId := "normal-paced"
      block := 1
      state := .admissionStarted
      requestCommitment := "commitment"
      responseCommitment := none
      providerGenerationId := none
      reservedCostMicros := 0
      actualCostMicros := none
      ambiguityEnteredAt := none
      admissionStartedAt := some 0
      gateClassifiedAt := none
      terminalAt := none }
  dispatchTokens := .empty
  schedulerClaims := .empty
  burstBarriers := .empty

def acquire (ownerId : String) (now : ℤ) : SchedulerOp :=
  .acquire ⟨"call-1", "normal-paced", 1, ownerId, 60, "manifest.json"⟩ now

def digest : String := "sha256:3b64db95cb55c763391c707108489ae18b4112d783300de38e033b4c98c3deaf"

def admissionStarted (now : ℤ) : SchedulerOp :=
  .recordManifest ⟨"call-1", "normal-paced", "owner", 1⟩ digest .admissionStarted now

/-- The run after some calls. -/
def after (ops : List SchedulerOp) : ProtocolRun :=
  letI := profiles
  Foundation.run ProtocolRun.schedulerStep start ops

/-- The claim moves on, is renewed and is taken over after it has expired. -/
def takenOver : List SchedulerOp :=
  [admissionStarted 1000, .renew ⟨"call-1", "normal-paced", "owner", 1⟩ 60 2000, acquire "other" 70000]

theorem takenOver_forward : letI := profiles
    Along ProtocolRun.schedulerStep (fun run op => ¬ Rewinds run op) (after [acquire "owner" 0])
      takenOver := by
  decide +kernel

end Sample

theorem scheduler_claims_fence_takenOver : letI := Sample.profiles
    Along ProtocolRun.schedulerStep (fun run op => ¬ Rewinds run op)
        (Sample.after [Sample.acquire "owner" 0]) Sample.takenOver ∧
      ∀ claim ∈ (Sample.after [Sample.acquire "owner" 0]).schedulerClaims,
        ∃ later ∈ (Foundation.run ProtocolRun.schedulerStep (Sample.after [Sample.acquire "owner" 0])
            Sample.takenOver).schedulerClaims,
          later.requestId = claim.requestId ∧ claim.generation ≤ later.generation ∧
          (later.generation = claim.generation → later.ownerId = claim.ownerId ∧
            claim.state.rank ≤ later.state.rank) :=
  letI := Sample.profiles
  ⟨Sample.takenOver_forward, (scheduler_claims_fence _ _ Sample.takenOver_forward).1⟩

/-- **A claim that goes back.** -/
theorem claim_rewound : letI := Sample.profiles
    ¬ ∀ earlier later : List SchedulerOp,
      ∀ claim ∈ (Foundation.run ProtocolRun.schedulerStep Sample.start earlier).schedulerClaims,
      ∀ claim' ∈ (Foundation.run ProtocolRun.schedulerStep Sample.start (earlier ++ later)).schedulerClaims,
        claim'.requestId = claim.requestId → claim'.generation = claim.generation →
        claim.state.rank ≤ claim'.state.rank := by
  let _ := Sample.profiles
  intro forward
  have moved : ∃ claim ∈ (Sample.after [Sample.acquire "owner" 0,
        Sample.admissionStarted 1000]).schedulerClaims.rows,
      ∃ claim' ∈ (Sample.after [Sample.acquire "owner" 0, Sample.admissionStarted 1000,
        Sample.acquire "owner" 2000]).schedulerClaims.rows,
      claim'.requestId = claim.requestId ∧ claim'.generation = claim.generation ∧
        ¬ claim.state.rank ≤ claim'.state.rank := by decide +kernel
  obtain ⟨claim, stored, claim', stored', request, generation, back⟩ := moved
  exact back (forward [Sample.acquire "owner" 0, Sample.admissionStarted 1000]
    [Sample.acquire "owner" 2000] claim stored claim' stored' request generation)

end FuseControlPlane.Reliability
