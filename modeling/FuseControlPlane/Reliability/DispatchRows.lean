/-
Where the dispatch tokens, the burst barriers and the attempts after a write come from.

* `TokenFrom`, `BarrierFrom`: what one write may do to a token and to a barrier.
* `DispatchSound`: tokens and attempts are of sealed calls, a token is not both entered and canceled, none is
  canceled while the run is active, and a burst's is entered only if its barrier is released.
* `tokenFrom_effect`, `barrierFrom_effect`: every effect of the protocol keeps to it.
* `stays_effect`: no effect takes back a commitment, an entry, a cancellation or a release.
-/

import FuseControlPlane.Reliability.ProtocolInvariants

set_option linter.unusedSectionVars false

namespace FuseControlPlane.Reliability

open Foundation Foundation.JavaScript Domain Evidence

/-! ### One write -/

/-- A token after a write. -/
inductive TokenFrom (run : ReliabilityRun) (token : DispatchTokenRow) : Prop
  | kept (before : token ∈ run.dispatchTokens)
  | issued (active : run.control.state = .active)
    (absent : run.dispatchTokens.find? token.requestId = none) (unentered : token.primitiveEnteredAt = none)
    (uncanceled : token.canceledAt = none)
    (owned : ∃ sealed, run.sealedCalls.find? token.requestId = some sealed ∧ sealed.agentId = token.ownerId)
  | entered {old : DispatchTokenRow} (before : old ∈ run.dispatchTokens)
    (enterable : run.isEnterable old = true) (now : ℤ)
    (same : token = { old with primitiveEnteredAt := some now })
  | canceled {old : DispatchTokenRow} (before : old ∈ run.dispatchTokens)
    (ended : run.control.state ≠ .active) (unentered : old.primitiveEnteredAt = none)
    {canceledAt : Option ℤ} (dated : canceledAt.isSome = true)
    (same : token = { old with canceledAt := canceledAt })

/-- A barrier after a write. -/
inductive BarrierFrom (run : ReliabilityRun) (barrier : BurstBarrierRow) : Prop
  | kept (before : barrier ∈ run.burstBarriers)
  | created (preparing : barrier.state = .preparing)
    (absent : run.burstBarriers.find? (barrier.laneId, barrier.block) = none)
  | released {old : BurstBarrierRow} (before : old ∈ run.burstBarriers) (active : run.control.state = .active)
    (ready : run.countTokens old.plannedRequestIds = old.plannedRequestIds.length) (now : ℤ)
    (same : barrier = { old with state := .released, releasedAt := some now })
  | canceled {old : BurstBarrierRow} (before : old ∈ run.burstBarriers) (ended : run.control.state ≠ .active)
    (unreleased : old.state ≠ .released) (now : ℤ)
    (same : barrier = { old with state := .canceled, canceledAt := some now })

section Writes

variable {faults : Faults} {run after : ReliabilityRun}

theorem tokenFrom_effect (effect : Effect faults run after) {token : DispatchTokenRow}
    (member : token ∈ after.dispatchTokens) : TokenFrom run token := by
  cases effect with
  | quiet others holds => exact .kept (others.dispatchTokens ▸ member)
  | hold effect => exact .kept (effect.quiet.dispatchTokens ▸ member)
  | rows effect =>
    cases effect with
    | issue input drawn active absent allowed below dispatchable =>
      rcases Table.mem_put.mp member with rfl | ⟨before, _⟩
      · obtain ⟨attempt, _, meets⟩ := List.any_eq_true.mp dispatchable
        unfold ReliabilityRun.isDispatchable at meets
        rw [Bool.and_eq_true, Option.any_eq_true] at meets
        obtain ⟨sealed, stored, owner⟩ := meets.2
        exact .issued active absent rfl rfl ⟨sealed, stored, of_decide_eq_true owner⟩
      · exact .kept before
    | enter requestId now token found enterable allowed =>
      obtain ⟨old, before, rewritten⟩ := mem_token_markEntered.mp member
      by_cases own : old.requestId = requestId
      · rw [if_pos own] at rewritten
        have itself : old = token := by
          rw [← own, show run.dispatchTokens.find? old.requestId = some old from
            Table.find?_of_mem before] at found
          exact Option.some.inj found
        exact .entered before (itself ▸ enterable) now rewritten.symm
      · rw [if_neg own] at rewritten
        exact .kept (rewritten ▸ before)
    | cancelTokens chosen canceledAt canceled ended unentered =>
      unfold ReliabilityRun.cancelTokens at member
      obtain ⟨old, before, rewritten⟩ := mem_updateTokens _ _ _ _ |>.mp member
      by_cases here : chosen old = true
      · rw [if_pos here] at rewritten
        exact .canceled before ended (unentered old before here) (canceled old) rewritten.symm
      · rw [if_neg here] at rewritten
        exact .kept (rewritten ▸ before)
    | note | insertSealed | plan | admitAttempt | pend | classify | createBarrier | release
    | cancelBarriers => exact .kept member

theorem barrierFrom_effect (effect : Effect faults run after) {barrier : BurstBarrierRow}
    (member : barrier ∈ after.burstBarriers) : BarrierFrom run barrier := by
  cases effect with
  | quiet others holds => exact .kept (others.burstBarriers ▸ member)
  | hold effect => exact .kept (effect.quiet.burstBarriers ▸ member)
  | rows effect =>
    cases effect with
    | createBarrier laneId block requestIds absent =>
      rcases Table.mem_put.mp member with rfl | ⟨before, _⟩
      · exact .created rfl absent
      · exact .kept before
    | release released now active found ready =>
      rcases Table.mem_put.mp member with rfl | ⟨before, _⟩
      · exact .released (Table.mem_of_find? found) active ready now rfl
      · exact .kept before
    | cancelBarriers now ended =>
      rw [show (run.cancelBarriers now).burstBarriers = run.burstBarriers.update (·.state ≠ .released)
        ({ · with state := .canceled, canceledAt := some now }) fun _ => rfl from rfl,
        Table.mem_update] at member
      obtain ⟨old, before, rewritten⟩ := member
      by_cases here : old.state = .released
      · rw [if_neg (by simp [here])] at rewritten
        exact .kept (rewritten ▸ before)
      · rw [if_pos (by simp [here])] at rewritten
        exact .canceled before ended here now rewritten.symm
    | note | insertSealed | plan | admitAttempt | issue | enter | pend | classify | cancelTokens =>
      exact .kept member

/-! ### Rows that stay -/

/-- No write takes a sealed call, a token or a barrier away. -/
structure Stays (run after : ReliabilityRun) : Prop where
  sealedCalls : ∀ requestId sealed, run.sealedCalls.find? requestId = some sealed →
    after.sealedCalls.find? requestId = some sealed
  dispatchTokens : ∀ requestId, (run.dispatchTokens.find? requestId).isSome = true →
    (after.dispatchTokens.find? requestId).isSome = true
  burstBarriers : ∀ key, (run.burstBarriers.find? key).isSome = true →
    (after.burstBarriers.find? key).isSome = true
  active : after.control.state = .active → run.control.state = .active

theorem stays_put {ρ κ : Type} [Keyed ρ κ] [DecidableEq κ] (table : Table ρ) (row : ρ) {key : κ}
    (here : (table.find? key).isSome = true) : ((table.put row).find? key).isSome = true := by
  rw [Table.find?_put]
  split
  · rfl
  · exact here

theorem stays_update {ρ κ : Type} [Keyed ρ κ] [DecidableEq κ] {table : Table ρ} {chosen : ρ → Bool}
    {rewrite : ρ → ρ} (keeps : ∀ row, Keyed.key (rewrite row) = Keyed.key row) {key : κ}
    (here : (table.find? key).isSome = true) :
    ((table.update chosen rewrite keeps).find? key).isSome = true := by
  rw [Table.find?_update, Option.isSome_map]
  exact here

theorem stays_effect (effect : Effect faults run after) : Stays run after := by
  have still : ∀ {other : ReliabilityRun}, Quiet run other → Stays run other := fun others =>
    ⟨fun _ _ here => others.sealedCalls ▸ here, fun _ here => others.dispatchTokens ▸ here,
      fun _ here => others.burstBarriers ▸ here, others.active⟩
  cases effect with
  | quiet others holds => exact still others
  | hold effect => exact still effect.quiet
  | rows effect =>
    cases effect with
    | insertSealed sealed absent free =>
      refine ⟨fun requestId other here => ?_, fun _ => id, fun _ => id, id⟩
      show (run.sealedCalls.put sealed).find? requestId = some other
      rw [Table.find?_put_of_ne, here]
      intro same
      rw [show requestId = sealed.requestId from same, absent] at here
      cases here
    | issue => exact ⟨fun _ _ => id, fun _ => stays_put run.dispatchTokens _, fun _ => id, id⟩
    | enter | cancelTokens => exact ⟨fun _ _ => id, fun _ => stays_update fun _ => by rfl, fun _ => id, id⟩
    | createBarrier | release => exact ⟨fun _ _ => id, fun _ => id, fun _ => stays_put run.burstBarriers _, id⟩
    | cancelBarriers => exact ⟨fun _ _ => id, fun _ => id, fun _ => stays_update fun _ => by rfl, id⟩
    | note | plan | admitAttempt | pend | classify => exact ⟨fun _ _ => id, fun _ => id, fun _ => id, id⟩

/-- A barrier later in a run. -/
structure BarrierBecomes (barrier later : BurstBarrierRow) : Prop where
  laneId : later.laneId = barrier.laneId
  block : later.block = barrier.block
  plannedRequestIds : later.plannedRequestIds = barrier.plannedRequestIds
  released : barrier.state = .released → later.state = .released
  canceled : barrier.state = .canceled → later.state = .canceled

theorem BarrierBecomes.refl (barrier : BurstBarrierRow) : BarrierBecomes barrier barrier :=
  ⟨rfl, rfl, rfl, id, id⟩

theorem barriers_effect (effect : Effect faults run after) {barrier : BurstBarrierRow}
    (member : barrier ∈ run.burstBarriers)
    (unbarred : run.control.state = .active → barrier.state ≠ .canceled) :
    ∃ moved ∈ after.burstBarriers, BarrierBecomes barrier moved := by
  have found : run.burstBarriers.find? (barrier.laneId, barrier.block) = some barrier :=
    Table.find?_of_mem member
  obtain ⟨moved, stored⟩ := Option.isSome_iff_exists.mp
    ((stays_effect effect).burstBarriers (barrier.laneId, barrier.block) (by rw [found]; rfl))
  have keyed : (moved.laneId, moved.block) = (barrier.laneId, barrier.block) := Table.key_of_find? stored
  refine ⟨moved, Table.mem_of_find? stored, ?_⟩
  rcases barrierFrom_effect effect (Table.mem_of_find? stored) with
    before | ⟨_, absent⟩ | ⟨before, active, _, now, same⟩ | ⟨before, _, unreleased, now, same⟩
  · rw [Table.eq_of_key before member keyed]
    exact .refl barrier
  · rw [keyed, found] at absent
    cases absent
  · rw [same] at keyed
    rw [same, Table.eq_of_key before member keyed]
    exact ⟨rfl, rfl, rfl, fun _ => rfl, fun canceled => absurd canceled (unbarred active)⟩
  · rw [same] at keyed
    rw [Table.eq_of_key before member keyed] at same unreleased
    rw [same]
    exact ⟨rfl, rfl, rfl, fun released => absurd released unreleased, fun _ => rfl⟩

end Writes

/-! ### What holds of every run -/

namespace ReliabilityRun

/-- An attempt is on the lane and in the block of its sealed call, and reserves what that reserves. -/
def IsSealed (run : ReliabilityRun) (attempt : AttemptRow) : Prop :=
  ∃ sealed, run.sealedCalls.find? attempt.requestId = some sealed ∧ sealed.laneId = attempt.laneId ∧
    sealed.block = attempt.block ∧ sealed.reservationCostMicros = attempt.reservedCostMicros

/-- The barrier of the block of a request's sealed call is released. -/
def IsReleasedFor (run : ReliabilityRun) (requestId : String) : Prop :=
  ∃ sealed, run.sealedCalls.find? requestId = some sealed ∧
    ∃ barrier ∈ run.burstBarriers, barrier.laneId = sealed.laneId ∧ barrier.block = sealed.block ∧
      barrier.state = .released

end ReliabilityRun

/-- Tokens, barriers, attempts and sealed calls agree. -/
structure DispatchSound (run : ReliabilityRun) : Prop where
  agree : AttemptsSound run
  sealed : ∀ attempt ∈ run.attempts, run.IsSealed attempt
  owners : ∀ token ∈ run.dispatchTokens, ∃ sealed,
    run.sealedCalls.find? token.requestId = some sealed ∧ sealed.agentId = token.ownerId
  slots : ∀ first ∈ run.sealedCalls, ∀ second ∈ run.sealedCalls, first.block = second.block →
    first.laneId = second.laneId → first.callOrdinal = second.callOrdinal → first = second
  apart : ∀ token ∈ run.dispatchTokens, token.primitiveEnteredAt.isSome = true → token.canceledAt = none
  uncanceled : run.control.state = .active → ∀ token ∈ run.dispatchTokens, token.canceledAt = none
  unbarred : run.control.state = .active → ∀ barrier ∈ run.burstBarriers, barrier.state ≠ .canceled
  gated : ∀ token ∈ run.dispatchTokens, token.laneId = burstLane →
    token.primitiveEnteredAt.isSome = true → run.IsReleasedFor token.requestId
  covered : ∀ barrier ∈ run.burstBarriers, barrier.state = .released →
    barrier.plannedRequestIds.Nodup ∧ ∀ requestId ∈ barrier.plannedRequestIds,
      (run.dispatchTokens.find? requestId).isSome = true

section Sound

variable {faults : Faults} {run after : ReliabilityRun}

/-- The two ways to say that a token's block is released. -/
theorem DispatchSound.isTokenReleased_iff (sound : DispatchSound run) {token : DispatchTokenRow}
    (member : token ∈ run.dispatchTokens) :
    run.isTokenReleased token = true ↔ run.IsReleasedFor token.requestId := by
  obtain ⟨attempt, found, _⟩ := sound.agree.owned token member
  obtain ⟨sealed, stored, lane, block, _⟩ := sound.sealed attempt (Table.mem_of_find? found)
  rw [show attempt.requestId = token.requestId from Table.key_of_find? found] at stored
  unfold ReliabilityRun.isTokenReleased ReliabilityRun.isReleased
  rw [found, Option.any_some, Option.any_eq_true]
  constructor
  · rintro ⟨barrier, here, released⟩
    have keyed : (barrier.laneId, barrier.block) = (attempt.laneId, attempt.block) :=
      Table.key_of_find? here
    obtain ⟨sameLane, sameBlock⟩ := Prod.mk.inj keyed
    exact ⟨sealed, stored, barrier, Table.mem_of_find? here, sameLane.trans lane.symm,
      sameBlock.trans block.symm, of_decide_eq_true released⟩
  · rintro ⟨other, again, barrier, here, sameLane, sameBlock, released⟩
    rw [stored] at again
    cases again
    refine ⟨barrier, ?_, decide_eq_true released⟩
    rw [← lane, ← block, ← sameLane, ← sameBlock]
    exact Table.find?_of_mem here

/-- As many tokens as requests: the requests are distinct, and each has a token. -/
theorem covered_of_ready {requestIds : List String} (ready : run.countTokens requestIds = requestIds.length) :
    requestIds.Nodup ∧ ∀ requestId ∈ requestIds, (run.dispatchTokens.find? requestId).isSome = true := by
  let chosen := run.dispatchTokens.rows.filter fun token => requestIds.contains token.requestId
  have distinct : (chosen.map DispatchTokenRow.requestId).Nodup :=
    run.dispatchTokens.unique.sublist (List.filter_sublist.map _)
  have inside : chosen.map DispatchTokenRow.requestId ⊆ requestIds := by
    intro requestId here
    obtain ⟨token, member, rfl⟩ := List.mem_map.mp here
    exact List.contains_iff_mem.mp (List.mem_filter.mp member).2
  have same : (chosen.map DispatchTokenRow.requestId).Perm requestIds :=
    (List.subperm_of_subset distinct inside).perm_of_length_le (by
      rw [List.length_map]
      exact ready.ge)
  refine ⟨same.nodup distinct, fun requestId here => ?_⟩
  obtain ⟨token, member, own⟩ := List.mem_map.mp (same.mem_iff.mpr here)
  rw [← own, show run.dispatchTokens.find? token.requestId = some token from
    Table.find?_of_mem (List.mem_filter.mp member).1]
  rfl

/-- A released block stays released. -/
theorem isReleasedFor_effect (effect : Effect faults run after)
    {requestId : String} (released : run.IsReleasedFor requestId) : after.IsReleasedFor requestId := by
  obtain ⟨sealed, stored, barrier, here, lane, block, state⟩ := released
  obtain ⟨moved, there, becomes⟩ := barriers_effect effect here fun _ canceled => by
    rw [state] at canceled
    cases canceled
  exact ⟨sealed, (stays_effect effect).sealedCalls _ _ stored, moved, there, becomes.laneId.trans lane,
    becomes.block.trans block, becomes.released state⟩

theorem ReliabilityRun.IsSealed.moved (stays : Stays run after) {attempt moved : AttemptRow}
    (sealed : run.IsSealed attempt) (requestId : moved.requestId = attempt.requestId)
    (laneId : moved.laneId = attempt.laneId) (block : moved.block = attempt.block)
    (reserved : moved.reservedCostMicros = attempt.reservedCostMicros) : after.IsSealed moved := by
  obtain ⟨call, stored, lane, inBlock, reserves⟩ := sealed
  refine ⟨call, ?_, lane.trans laneId.symm, inBlock.trans block.symm, reserves.trans reserved.symm⟩
  rw [requestId]
  exact stays.sealedCalls _ _ stored

theorem sealed_effect (sealed : ∀ attempt ∈ run.attempts, run.IsSealed attempt)
    (effect : Effect faults run after) : ∀ attempt ∈ after.attempts, after.IsSealed attempt := by
  have stays := stays_effect effect
  intro moved member
  have still : ∀ {attempt : AttemptRow}, attempt ∈ run.attempts → moved = attempt →
      after.IsSealed moved := fun here same => (sealed _ here).moved stays (by rw [same]) (by rw [same])
        (by rw [same]) (by rw [same])
  cases effect with
  | quiet others holds => exact still (others.attempts ▸ member) rfl
  | hold effect => exact still (effect.quiet.attempts ▸ member) rfl
  | rows effect =>
    cases effect with
    | plan call stored absent =>
      rcases Table.mem_put.mp member with rfl | ⟨before, _⟩
      · exact ⟨call, stored, rfl, rfl, rfl⟩
      · exact still before rfl
    | admitAttempt input now active =>
      obtain ⟨attempt, before, rfl⟩ := (mem_updateAttempts run _ _ _).mp member
      by_cases chosen : run.isAdmissible input attempt = true
      · rw [if_pos chosen]
        unfold ReliabilityRun.isAdmissible at chosen
        simp only [Bool.and_eq_true, decide_eq_true_eq, Option.any_eq_true] at chosen
        obtain ⟨call, stored, lane, block, _⟩ := sealed attempt before
        obtain ⟨⟨⟨⟨⟨own, _⟩, _⟩, again, found, reserves⟩, _⟩, _⟩ := chosen
        rw [← own, stored] at found
        cases found
        exact ⟨call, stored, lane, block, reserves⟩
      · rw [if_neg chosen]
        exact (sealed attempt before).moved stays rfl rfl rfl rfl
    | issue input drawn active absent allowed below dispatchable =>
      obtain ⟨attempt, before, rfl⟩ := mem_attempt_issueToken.mp member
      split <;> exact (sealed attempt before).moved stays rfl rfl rfl rfl
    | enter requestId now token found enterable allowed =>
      obtain ⟨attempt, before, rfl⟩ := mem_attempt_markEntered.mp member
      split <;> exact (sealed attempt before).moved stays rfl rfl rfl rfl
    | pend chosen ambiguityEnteredAt generationId unclassified =>
      unfold ReliabilityRun.pendAttempts at member
      obtain ⟨attempt, before, rfl⟩ := (mem_updateAttempts run _ _ _).mp member
      split <;> exact (sealed attempt before).moved stays rfl rfl rfl rfl
    | classify classification released =>
      obtain ⟨attempt, before, rfl⟩ := classification.mem_apply.mp member
      split
      · next chosen =>
        have ends := classification.ends attempt before chosen
        exact (sealed attempt before).moved stays ends.requestId ends.laneId ends.block ends.reserved
      · exact (sealed attempt before).moved stays rfl rfl rfl rfl
    | note | insertSealed | cancelTokens | createBarrier | release | cancelBarriers => exact still member rfl

theorem slots_effect (sound : DispatchSound run) (effect : Effect faults run after) :
    ∀ first ∈ after.sealedCalls, ∀ second ∈ after.sealedCalls, first.block = second.block →
      first.laneId = second.laneId → first.callOrdinal = second.callOrdinal → first = second := by
  cases effect with
  | quiet others holds => rw [others.sealedCalls]; exact sound.slots
  | hold effect => rw [effect.quiet.sealedCalls]; exact sound.slots
  | rows effect =>
    cases effect with
    | insertSealed sealed absent free =>
      have new : ∀ other ∈ run.sealedCalls, ¬ (other.block = sealed.block ∧ other.laneId = sealed.laneId ∧
          other.callOrdinal = sealed.callOrdinal) := by
        rintro other member ⟨block, lane, ordinal⟩
        have spared := List.any_eq_false.mp free other member
        simp [block, lane, ordinal] at spared
      intro first here second there block lane ordinal
      rcases Table.mem_put.mp here with rfl | ⟨before, _⟩
      · rcases Table.mem_put.mp there with rfl | ⟨other, _⟩
        · rfl
        · exact absurd ⟨block.symm, lane.symm, ordinal.symm⟩ (new second other)
      · rcases Table.mem_put.mp there with rfl | ⟨other, _⟩
        · exact absurd ⟨block, lane, ordinal⟩ (new first before)
        · exact sound.slots first before second other block lane ordinal
    | _ => exact sound.slots

end Sound

end FuseControlPlane.Reliability
