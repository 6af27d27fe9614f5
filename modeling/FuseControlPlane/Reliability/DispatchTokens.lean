/-
What becomes of dispatch tokens and burst barriers in a run.

* `dispatchSound_run`, `evolves_run`: every run keeps `DispatchSound`, and evolves from each of its states on.
* `tokens_of_sealed_calls`: **a token is of a sealed call**, its agent's, on its lane, and no two are of one
  slot.
* `dispatch_decided_once`: **a token is entered or canceled, once**; barriers are released or canceled for good.
* `burst_released_whole`: **a barrier is released with a token for every planned request**, all uncanceled.
* `ended_run_dispatches`: **a run that has ended issues no token**, and enters only what it could then.
-/

import FuseControlPlane.Reliability.AttemptClassification
import FuseControlPlane.Reliability.DispatchRows

set_option linter.unusedSectionVars false

namespace FuseControlPlane.Reliability

open Foundation Foundation.JavaScript Domain Evidence

section Laws

variable {faults : Faults} {run mid after : ReliabilityRun}

/-! ### Soundness -/

theorem isEnterable_parts {token : DispatchTokenRow} (enterable : run.isEnterable token = true) :
    token.canceledAt = none ∧ token.primitiveEnteredAt = none ∧
      (token.laneId = burstLane → run.isTokenReleased token = true) := by
  unfold ReliabilityRun.isEnterable at enterable
  simp only [Bool.and_eq_true, Option.isNone_iff_eq_none, Bool.or_eq_true, decide_eq_true_eq] at enterable
  exact ⟨enterable.1.1, enterable.1.2, fun lane => enterable.2.resolve_left (absurd lane)⟩

theorem dispatchSound_effect (sound : DispatchSound run) (effect : Effect faults run after) :
    DispatchSound after where
  agree := attemptsSound_effect sound.agree effect
  sealed := sealed_effect sound.sealed effect
  owners := by
    have stays := stays_effect effect
    have still : ∀ {token : DispatchTokenRow}, token ∈ run.dispatchTokens → ∃ sealed,
        after.sealedCalls.find? token.requestId = some sealed ∧ sealed.agentId = token.ownerId :=
      fun before => (sound.owners _ before).imp fun _ owned => ⟨stays.sealedCalls _ _ owned.1, owned.2⟩
    intro token member
    rcases tokenFrom_effect effect member with
      before | ⟨_, _, _, _, sealed, stored, owner⟩ | ⟨before, _, _, rfl⟩ | ⟨before, _, _, _, rfl⟩
    · exact still before
    · exact ⟨sealed, stays.sealedCalls _ _ stored, owner⟩
    · exact (still before :)
    · exact (still before :)
  slots := slots_effect sound effect
  apart := by
    intro token member entered
    rcases tokenFrom_effect effect member with
      before | ⟨_, _, _, uncanceled, _⟩ | ⟨_, enterable, _, rfl⟩ | ⟨_, _, unentered, _, rfl⟩
    · exact sound.apart token before entered
    · exact uncanceled
    · exact (isEnterable_parts enterable).1
    · simp [unentered] at entered
  uncanceled := by
    intro active token member
    rcases tokenFrom_effect effect member with
      before | ⟨_, _, _, uncanceled, _⟩ | ⟨_, enterable, _, rfl⟩ | ⟨_, ended, _, _, rfl⟩
    · exact sound.uncanceled ((stays_effect effect).active active) token before
    · exact uncanceled
    · exact (isEnterable_parts enterable).1
    · exact absurd ((stays_effect effect).active active) ended
  unbarred := by
    intro active barrier member
    rcases barrierFrom_effect effect member with
      before | ⟨preparing, _⟩ | ⟨_, _, _, _, rfl⟩ | ⟨_, ended, _, _, rfl⟩
    · exact sound.unbarred ((stays_effect effect).active active) barrier before
    · rw [preparing]
      exact fun same => by cases same
    · exact fun same => by cases same
    · exact absurd ((stays_effect effect).active active) ended
  gated := by
    intro token member lane entered
    refine isReleasedFor_effect effect ?_
    rcases tokenFrom_effect effect member with
      before | ⟨_, _, unentered, _, _⟩ | ⟨before, enterable, _, rfl⟩ | ⟨_, _, unentered, _, rfl⟩
    · exact sound.gated token before lane entered
    · simp [unentered] at entered
    · exact (sound.isTokenReleased_iff before).mp ((isEnterable_parts enterable).2.2 lane)
    · simp [unentered] at entered
  covered := by
    intro barrier member released
    have stays := stays_effect effect
    have still : ∀ {requestIds : List String}, (requestIds.Nodup ∧ ∀ requestId ∈ requestIds,
        (run.dispatchTokens.find? requestId).isSome = true) → requestIds.Nodup ∧
          ∀ requestId ∈ requestIds, (after.dispatchTokens.find? requestId).isSome = true :=
      fun covered => ⟨covered.1, fun _ here => stays.dispatchTokens _ (covered.2 _ here)⟩
    rcases barrierFrom_effect effect member with
      before | ⟨preparing, _⟩ | ⟨_, _, ready, _, rfl⟩ | ⟨_, _, _, _, rfl⟩
    · exact still (sound.covered barrier before released)
    · rw [preparing] at released
      cases released
    · exact still (covered_of_ready ready)
    · cases released

theorem dispatchSound_initialRun (runId : String) (profile : ReliabilityProtocolProfile)
    (planFingerprint : String) (reconciliationCredentialId : Option String) (laneIds : List String) :
    DispatchSound (.initialRun runId profile planFingerprint reconciliationCredentialId laneIds) := by
  obtain ⟨others, holds⟩ := initialRun_quiet runId profile planFingerprint reconciliationCredentialId laneIds
  refine @dispatchSound_effect ⟨fun _ => True, True, True⟩ _ _ ?_ (.quiet others holds)
  exact ⟨attemptsSound_initialRun runId profile planFingerprint reconciliationCredentialId [],
    fun _ member => absurd member (Table.not_mem_empty _), fun _ member => absurd member (Table.not_mem_empty _),
    fun _ member => absurd member (Table.not_mem_empty _), fun _ member => absurd member (Table.not_mem_empty _),
    fun _ _ member => absurd member (Table.not_mem_empty _), fun _ _ member => absurd member (Table.not_mem_empty _),
    fun _ member => absurd member (Table.not_mem_empty _), fun _ member => absurd member (Table.not_mem_empty _)⟩

/-! ### What becomes of a token and of a barrier -/

/-- A token later in a run: its identity and its entry stay, and it stays canceled. -/
structure TokenBecomes (token later : DispatchTokenRow) : Prop where
  requestId : later.requestId = token.requestId
  tokenId : later.tokenId = token.tokenId
  laneId : later.laneId = token.laneId
  ownerId : later.ownerId = token.ownerId
  entered : token.primitiveEnteredAt.isSome = true → later.primitiveEnteredAt = token.primitiveEnteredAt
  canceled : token.canceledAt.isSome = true → later.canceledAt.isSome = true

/-- The rows later in a run. One that has ended issues and releases nothing, and enters only tokens that it
could enter. -/
structure Evolves (run later : ReliabilityRun) : Prop where
  stays : Stays run later
  tokens : ∀ token ∈ run.dispatchTokens, ∃ moved ∈ later.dispatchTokens, TokenBecomes token moved
  barriers : ∀ barrier ∈ run.burstBarriers, ∃ moved ∈ later.burstBarriers, BarrierBecomes barrier moved
  issuesNone : run.control.state ≠ .active → ∀ moved ∈ later.dispatchTokens,
    ∃ token ∈ run.dispatchTokens, TokenBecomes token moved ∧ (moved.primitiveEnteredAt.isSome = true →
      token.primitiveEnteredAt.isSome = true ∨ run.isEnterable token = true)
  releasesNone : run.control.state ≠ .active → ∀ moved ∈ later.burstBarriers, moved.state = .released →
    ∃ barrier ∈ run.burstBarriers, barrier.state = .released ∧ BarrierBecomes barrier moved

theorem TokenBecomes.refl (token : DispatchTokenRow) : TokenBecomes token token :=
  ⟨rfl, rfl, rfl, rfl, fun _ => rfl, id⟩

theorem TokenBecomes.trans {first second third : DispatchTokenRow} (earlier : TokenBecomes first second)
    (later : TokenBecomes second third) : TokenBecomes first third where
  requestId := later.requestId.trans earlier.requestId
  tokenId := later.tokenId.trans earlier.tokenId
  laneId := later.laneId.trans earlier.laneId
  ownerId := later.ownerId.trans earlier.ownerId
  entered := fun entered => by
    have same := earlier.entered entered
    rw [later.entered (same ▸ entered), same]
  canceled := fun canceled => later.canceled (earlier.canceled canceled)

theorem BarrierBecomes.trans {first second third : BurstBarrierRow} (earlier : BarrierBecomes first second)
    (later : BarrierBecomes second third) : BarrierBecomes first third :=
  ⟨later.laneId.trans earlier.laneId, later.block.trans earlier.block,
    later.plannedRequestIds.trans earlier.plannedRequestIds,
    fun released => later.released (earlier.released released),
    fun canceled => later.canceled (earlier.canceled canceled)⟩

theorem becomes_of_entered {old : DispatchTokenRow} (enterable : run.isEnterable old = true) (now : ℤ) :
    TokenBecomes old { old with primitiveEnteredAt := some now } :=
  ⟨rfl, rfl, rfl, rfl, fun entered => by simp [(isEnterable_parts enterable).2.1] at entered, id⟩

theorem tokens_effect (effect : Effect faults run after) {token : DispatchTokenRow}
    (member : token ∈ run.dispatchTokens) : ∃ moved ∈ after.dispatchTokens, TokenBecomes token moved := by
  have found : run.dispatchTokens.find? token.requestId = some token := Table.find?_of_mem member
  obtain ⟨moved, stored⟩ := Option.isSome_iff_exists.mp
    ((stays_effect effect).dispatchTokens token.requestId (by rw [found]; rfl))
  have keyed : moved.requestId = token.requestId := Table.key_of_find? stored
  refine ⟨moved, Table.mem_of_find? stored, ?_⟩
  rcases tokenFrom_effect effect (Table.mem_of_find? stored) with
    before | ⟨_, absent, _, _, _⟩ | ⟨before, enterable, now, same⟩ | ⟨before, _, _, dated, same⟩
  · rw [Table.eq_of_key before member keyed]
    exact .refl token
  · rw [keyed, found] at absent
    cases absent
  · rw [same] at keyed
    rw [same, Table.eq_of_key before member keyed]
    exact becomes_of_entered (Table.eq_of_key before member keyed ▸ enterable) now
  · rw [same] at keyed
    rw [same, Table.eq_of_key before member keyed]
    exact ⟨rfl, rfl, rfl, rfl, fun _ => rfl, fun _ => dated⟩

theorem evolves_effect (sound : DispatchSound run) (effect : Effect faults run after) :
    Evolves run after where
  stays := stays_effect effect
  tokens := fun _ => tokens_effect effect
  barriers := fun barrier member => barriers_effect effect member fun active => sound.unbarred active barrier member
  issuesNone := by
    intro ended moved member
    rcases tokenFrom_effect effect member with
      before | ⟨active, _⟩ | ⟨before, enterable, now, rfl⟩ | ⟨before, _, unentered, dated, rfl⟩
    · exact ⟨moved, before, .refl moved, .inl⟩
    · exact absurd active ended
    · exact ⟨_, before, becomes_of_entered enterable now, fun _ => .inr enterable⟩
    · exact ⟨_, before, ⟨rfl, rfl, rfl, rfl, fun _ => rfl, fun _ => dated⟩, .inl⟩
  releasesNone := by
    intro ended moved member released
    rcases barrierFrom_effect effect member with
      before | ⟨preparing, _⟩ | ⟨_, active, _⟩ | ⟨_, _, _, _, rfl⟩
    · exact ⟨moved, before, released, .refl moved⟩
    · rw [preparing] at released
      cases released
    · exact absurd active ended
    · cases released

/-- Once a run has ended, what is released later was released then. -/
theorem Evolves.isReleasedFor_of_ended (sound : DispatchSound run) (evolves : Evolves run after)
    (ended : run.control.state ≠ .active) {token : DispatchTokenRow} (member : token ∈ run.dispatchTokens)
    (released : after.IsReleasedFor token.requestId) : run.IsReleasedFor token.requestId := by
  obtain ⟨sealed, stored, _⟩ := sound.owners token member
  obtain ⟨later, found, moved, here, lane, block, state⟩ := released
  rw [evolves.stays.sealedCalls _ _ stored] at found
  cases found
  obtain ⟨barrier, before, was, becomes⟩ := evolves.releasesNone ended moved here state
  exact ⟨sealed, stored, barrier, before, becomes.laneId.symm.trans lane, becomes.block.symm.trans block, was⟩

/-- Once a run has ended, what can be entered later could be entered then. -/
theorem Evolves.isEnterable_of_ended (sound : DispatchSound run) (later : DispatchSound after)
    (evolves : Evolves run after) (ended : run.control.state ≠ .active) {token moved : DispatchTokenRow}
    (member : token ∈ run.dispatchTokens) (here : moved ∈ after.dispatchTokens)
    (becomes : TokenBecomes token moved) (enterable : after.isEnterable moved = true) :
    run.isEnterable token = true := by
  obtain ⟨uncanceled, unentered, released⟩ := isEnterable_parts enterable
  have notCanceled : token.canceledAt = none := by
    cases canceled : token.canceledAt with
    | none => rfl
    | some at' =>
      have still := becomes.canceled (by rw [canceled]; rfl)
      rw [uncanceled] at still
      cases still
  have notEntered : token.primitiveEnteredAt = none := by
    cases entered : token.primitiveEnteredAt with
    | none => rfl
    | some at' =>
      have still := becomes.entered (by rw [entered]; rfl)
      rw [unentered, entered] at still
      cases still
  unfold ReliabilityRun.isEnterable
  rw [notCanceled, notEntered]
  simp only [Option.isNone_none, Bool.true_and, Bool.or_eq_true, decide_eq_true_eq]
  by_cases lane : token.laneId = burstLane
  · refine .inr ((sound.isTokenReleased_iff member).mpr ?_)
    have open_ := (later.isTokenReleased_iff here).mp (released (becomes.laneId.trans lane))
    rw [becomes.requestId] at open_
    exact evolves.isReleasedFor_of_ended sound ended member open_
  · exact .inl lane

theorem Stays.trans (earlier : Stays run mid) (later : Stays mid after) : Stays run after :=
  ⟨fun _ _ here => later.sealedCalls _ _ (earlier.sealedCalls _ _ here),
    fun _ here => later.dispatchTokens _ (earlier.dispatchTokens _ here),
    fun _ here => later.burstBarriers _ (earlier.burstBarriers _ here),
    fun active => earlier.active (later.active active)⟩

theorem Evolves.refl (run : ReliabilityRun) : Evolves run run :=
  ⟨⟨fun _ _ => id, fun _ => id, fun _ => id, id⟩, fun token here => ⟨token, here, .refl token⟩,
    fun barrier here => ⟨barrier, here, .refl barrier⟩, fun _ token here => ⟨token, here, .refl token, .inl⟩,
    fun _ barrier here state => ⟨barrier, here, state, .refl barrier⟩⟩

theorem Evolves.trans (sound : DispatchSound run) (soundMid : DispatchSound mid) (earlier : Evolves run mid)
    (later : Evolves mid after) : Evolves run after where
  stays := earlier.stays.trans later.stays
  tokens := by
    intro token member
    obtain ⟨moved, here, becomes⟩ := earlier.tokens token member
    obtain ⟨last, there, again⟩ := later.tokens moved here
    exact ⟨last, there, becomes.trans again⟩
  barriers := by
    intro barrier member
    obtain ⟨moved, here, becomes⟩ := earlier.barriers barrier member
    obtain ⟨last, there, again⟩ := later.barriers moved here
    exact ⟨last, there, becomes.trans again⟩
  issuesNone := by
    intro ended last member
    have endedMid : mid.control.state ≠ .active := fun active => ended (earlier.stays.active active)
    obtain ⟨moved, here, again, enteredLast⟩ := later.issuesNone endedMid last member
    obtain ⟨token, before, becomes, enteredMoved⟩ := earlier.issuesNone ended moved here
    refine ⟨token, before, becomes.trans again, fun entered => ?_⟩
    rcases enteredLast entered with entered | enterable
    · exact enteredMoved entered
    · exact .inr (earlier.isEnterable_of_ended sound soundMid ended before here becomes enterable)
  releasesNone := by
    intro ended last member released
    have endedMid : mid.control.state ≠ .active := fun active => ended (earlier.stays.active active)
    obtain ⟨moved, here, state, again⟩ := later.releasesNone endedMid last member released
    obtain ⟨barrier, before, was, becomes⟩ := earlier.releasesNone ended moved here state
    exact ⟨barrier, before, was, becomes.trans again⟩

end Laws

/-! ### Runs -/

/-- What a run is initialized with. -/
structure RunStart where
  runId : String
  profile : ReliabilityProtocolProfile
  planFingerprint : String
  reconciliationCredentialId : Option String
  laneIds : List String

section Main

variable [NodeCrypto] [Collation] [ProtocolProfiles]

/-- A run that has been initialized, after some transactions. -/
def RunStart.after (start : RunStart) (ops : List ProtocolOp) : ReliabilityRun :=
  Foundation.run ReliabilityRun.protocolStep
    (.initialRun start.runId start.profile start.planFingerprint start.reconciliationCredentialId start.laneIds)
    ops

variable (start : RunStart) (ops more : List ProtocolOp)

theorem sound_and_apart : DispatchSound (start.after ops) ∧ HoldsApart (start.after ops) :=
  protocolRun_keeps DispatchSound (fun _ => True) (fun _ _ => True) (fun _ _ _ => trivial)
    (fun _ => dispatchSound_effect) (Along.of_forall fun _ _ _ => trivial)
    (holdsApart_initialRun _ _ _ _ _) (dispatchSound_initialRun _ _ _ _ _)

theorem dispatchSound_run : DispatchSound (start.after ops) := (sound_and_apart start ops).1

/-- A run evolves from each of its states on. -/
theorem evolves_run : Evolves (start.after ops) (start.after (ops ++ more)) := by
  obtain ⟨sound, apart⟩ := sound_and_apart start ops
  unfold RunStart.after at sound apart ⊢
  rw [Foundation.run_append]
  generalize Foundation.run ReliabilityRun.protocolStep _ ops = run at sound apart ⊢
  refine (protocolRun_keeps (fun later => DispatchSound later ∧ Evolves run later) (fun _ => True)
    (fun _ _ => True) (fun _ _ _ => trivial) (fun _ held effect => ?_)
    (Along.of_forall fun _ _ _ => trivial) apart ⟨sound, .refl run⟩).1.2
  exact ⟨dispatchSound_effect held.1 effect, .trans sound held.1 held.2 (evolves_effect held.1 effect)⟩

/-- **Every token is of a sealed call**: it is its agent's and on its lane, its attempt is on the lane, in the
block and for the reservation of the call, the call never changes, and no two tokens are for the same block, lane
and ordinal. -/
theorem tokens_of_sealed_calls :
    ∀ token ∈ (start.after ops).dispatchTokens, ∃ sealed attempt,
      (start.after ops).sealedCalls.find? token.requestId = some sealed ∧
      (start.after (ops ++ more)).sealedCalls.find? token.requestId = some sealed ∧
      (start.after ops).attempts.find? token.requestId = some attempt ∧
      sealed.agentId = token.ownerId ∧ sealed.laneId = token.laneId ∧ attempt.laneId = sealed.laneId ∧
      attempt.block = sealed.block ∧ attempt.reservedCostMicros = sealed.reservationCostMicros ∧
      ∀ other ∈ (start.after ops).dispatchTokens, ∀ call,
        (start.after ops).sealedCalls.find? other.requestId = some call →
        call.block = sealed.block → call.laneId = sealed.laneId → call.callOrdinal = sealed.callOrdinal →
        other = token := by
  intro token member
  have sound := dispatchSound_run start ops
  obtain ⟨sealed, stored, owner⟩ := sound.owners token member
  obtain ⟨attempt, found, onLane⟩ := sound.agree.owned token member
  obtain ⟨call, again, lane, block, reserves⟩ := sound.sealed attempt (Table.mem_of_find? found)
  rw [show attempt.requestId = token.requestId from Table.key_of_find? found, stored] at again
  cases again
  refine ⟨sealed, attempt, stored, (evolves_run start ops more).stays.sealedCalls _ _ stored, found, owner,
    lane.trans onLane, lane.symm, block.symm, reserves.symm, ?_⟩
  intro other here call called sameBlock sameLane sameOrdinal
  have one := sound.slots call (Table.mem_of_find? called) sealed (Table.mem_of_find? stored) sameBlock
    sameLane sameOrdinal
  have otherKey : call.requestId = other.requestId := Table.key_of_find? called
  have ownKey : sealed.requestId = token.requestId := Table.key_of_find? stored
  exact Table.eq_of_key here member (otherKey.symm.trans ((congrArg _ one).trans ownKey))

/-- **A dispatch is decided once**: a token stays with its id, lane and owner, it is not both entered and
canceled, what is entered stays entered at that time, what is canceled stays canceled; a barrier keeps its
requests, and what is released or canceled stays so. -/
theorem dispatch_decided_once :
    (∀ token ∈ (start.after ops).dispatchTokens, ∃ later ∈ (start.after (ops ++ more)).dispatchTokens,
      TokenBecomes token later ∧ (token.primitiveEnteredAt.isSome = true → later.canceledAt = none) ∧
        (token.canceledAt.isSome = true → later.primitiveEnteredAt = none)) ∧
      ∀ barrier ∈ (start.after ops).burstBarriers, ∃ later ∈ (start.after (ops ++ more)).burstBarriers,
        BarrierBecomes barrier later := by
  have evolves := evolves_run start ops more
  have sound := dispatchSound_run start (ops ++ more)
  refine ⟨fun token member => ?_, evolves.barriers⟩
  obtain ⟨later, here, becomes⟩ := evolves.tokens token member
  refine ⟨later, here, becomes, fun entered => ?_, fun canceled => ?_⟩
  · exact sound.apart later here (becomes.entered entered ▸ entered)
  · cases entered : later.primitiveEnteredAt with
    | none => rfl
    | some time =>
      have still := becomes.canceled canceled
      rw [sound.apart later here (by rw [entered]; rfl)] at still
      cases still

/-- **A burst is released whole**: a barrier is released only if it has not been canceled and every one of its
requests, all distinct, has an uncanceled token; one of a call of the block has not been entered, unless the
block was released before. -/
theorem burst_released_whole {block now : ℤ} {after : ReliabilityRun}
    (accepted : (start.after ops).perform (.releaseBurstBarrier burstLane block now) = .ok after) :
    ∃ barrier, (start.after ops).burstBarriers.find? (burstLane, block) = some barrier ∧
      barrier.state ≠ .canceled ∧ barrier.plannedRequestIds.Nodup ∧
      ∀ requestId ∈ barrier.plannedRequestIds, ∃ token sealed,
        (start.after ops).dispatchTokens.find? requestId = some token ∧ token.canceledAt = none ∧
        (start.after ops).sealedCalls.find? requestId = some sealed ∧
        (sealed.laneId = burstLane → sealed.block = block → barrier.state ≠ .released →
          token.primitiveEnteredAt = none) := by
  have sound := dispatchSound_run start ops
  generalize start.after ops = run at sound accepted ⊢
  replace accepted : run.releaseBurstBarrier burstLane block now = .ok after := accepted
  unfold ReliabilityRun.releaseBurstBarrier at accepted
  obtain ⟨state, locked, accepted⟩ := bind_eq_ok.mp accepted
  simp only [bind_unit_eq_ok, require_eq_ok, decide_eq_true_eq] at accepted
  obtain ⟨going, accepted⟩ := accepted
  have active : run.control.state = .active := (ProtocolRun.lockControlLane_eq_ok locked).symm.trans going
  split at accepted
  · cases accepted
  · next barrier found =>
    simp only [bind_unit_eq_ok, require_eq_ok, decide_eq_true_eq] at accepted
    have covered := covered_of_ready accepted.1
    refine ⟨barrier, found, sound.unbarred active barrier (Table.mem_of_find? found), covered.1,
      fun requestId here => ?_⟩
    obtain ⟨token, stored⟩ := Option.isSome_iff_exists.mp (covered.2 requestId here)
    have member := Table.mem_of_find? stored
    have own : token.requestId = requestId := Table.key_of_find? stored
    obtain ⟨sealed, called, _⟩ := sound.owners token member
    obtain ⟨attempt, owner, onLane⟩ := sound.agree.owned token member
    obtain ⟨call, again, lane, _⟩ := sound.sealed attempt (Table.mem_of_find? owner)
    rw [show attempt.requestId = token.requestId from Table.key_of_find? owner, called] at again
    cases again
    refine ⟨token, sealed, stored, sound.uncanceled active token member, own ▸ called,
      fun ofBurst inBlock unreleased => ?_⟩
    -- An entered token of the block would have its barrier released.
    cases entered : token.primitiveEnteredAt with
    | none => rfl
    | some time =>
      obtain ⟨other, known, opened, there, sameLane, sameBlock, released⟩ :=
        sound.gated token member (onLane.symm.trans (lane.symm.trans ofBurst)) (by rw [entered]; rfl)
      rw [called] at known
      cases known
      have keyed : (opened.laneId, opened.block) = (burstLane, block) := by
        rw [sameLane, sameBlock, ofBurst, inBlock]
      have itself : run.burstBarriers.find? (opened.laneId, opened.block) = some opened :=
        Table.find?_of_mem there
      rw [keyed, found] at itself
      cases itself
      exact absurd released unreleased

/-- **A run that has ended issues no token** and releases no barrier, and of its tokens only those are entered
that were entered or could be entered when it ended: uncanceled, and not of a burst that had not been released. -/
theorem ended_run_dispatches (ended : (start.after ops).control.state ≠ .active) :
    (start.after (ops ++ more)).control.state ≠ .active ∧
      (∀ later ∈ (start.after (ops ++ more)).dispatchTokens, ∃ token ∈ (start.after ops).dispatchTokens,
        TokenBecomes token later ∧ (later.primitiveEnteredAt.isSome = true →
          token.primitiveEnteredAt.isSome = true ∨ (start.after ops).isEnterable token = true)) ∧
      ∀ later ∈ (start.after (ops ++ more)).burstBarriers, later.state = .released →
        ∃ barrier ∈ (start.after ops).burstBarriers, barrier.state = .released ∧
          BarrierBecomes barrier later := by
  have evolves := evolves_run start ops more
  exact ⟨fun active => ended (evolves.stays.active active), evolves.issuesNone ended, evolves.releasesNone ended⟩

end Main

namespace Sample

def twoLanes : RunStart :=
  letI := profiles
  ⟨"run-1", ProtocolVersion.profile .v2, "plan", none, ["normal-paced", "bounded-burst"]⟩

/-- A burst of one call that has its token. -/
def oneBurst : List ProtocolOp :=
  [.registerSealedCalls [sealedCall "call-1" "bounded-burst" 1], record "call-1" "bounded-burst",
    .createBurstBarrier "bounded-burst" 1 ["call-1"], authorize "call-1" "bounded-burst" "token-1"]

/-- A call of another lane that has its token, and the run fails. -/
def failedOnce : List ProtocolOp :=
  [.registerSealedCalls [sealedCall "call-1" "normal-paced" 1], record "call-1" "normal-paced",
    authorize "call-1" "normal-paced" "token-1", .failProtocol "STOPPED" 3000]

theorem burst_and_failure :
    letI := crypto
    letI := collation
    letI := profiles
    ((twoLanes.after oneBurst).dispatchTokens.find? "call-1").isSome = true ∧
      ((twoLanes.after oneBurst).perform (.releaseBurstBarrier burstLane 1 2500)).isOk = true ∧
      (twoLanes.after failedOnce).control.state ≠ .active ∧
      (twoLanes.after (failedOnce ++ [enter "call-1" "token-1"])).isEntered "call-1" = true := by
  decide +kernel

end Sample

theorem tokens_of_sealed_calls_of_one :
    letI := Sample.crypto
    letI := Sample.collation
    letI := Sample.profiles
    ∃ token ∈ (Sample.twoLanes.after Sample.oneBurst).dispatchTokens, ∃ sealed,
      (Sample.twoLanes.after Sample.oneBurst).sealedCalls.find? token.requestId = some sealed := by
  let := Sample.crypto
  let := Sample.collation
  let := Sample.profiles
  obtain ⟨token, found⟩ := Option.isSome_iff_exists.mp Sample.burst_and_failure.1
  have member := Table.mem_of_find? found
  obtain ⟨sealed, _, stored, _⟩ := tokens_of_sealed_calls Sample.twoLanes Sample.oneBurst [] token member
  exact ⟨token, member, sealed, stored⟩

theorem burst_released_whole_of_one :
    letI := Sample.crypto
    letI := Sample.collation
    letI := Sample.profiles
    ∃ barrier, (Sample.twoLanes.after Sample.oneBurst).burstBarriers.find? (burstLane, 1) = some barrier ∧
      barrier.state ≠ .canceled := by
  let := Sample.crypto
  let := Sample.collation
  let := Sample.profiles
  obtain ⟨after, released⟩ := eq_ok_of_isOk Sample.burst_and_failure.2.1
  obtain ⟨barrier, found, uncanceled, _⟩ := burst_released_whole Sample.twoLanes Sample.oneBurst released
  exact ⟨barrier, found, uncanceled⟩

/-- A run that has failed stays so, and still enters a token that it had issued. -/
theorem ended_run_dispatches_failed :
    letI := Sample.crypto
    letI := Sample.collation
    letI := Sample.profiles
    (Sample.twoLanes.after (Sample.failedOnce ++ [Sample.enter "call-1" "token-1"])).control.state ≠ .active ∧
      (Sample.twoLanes.after (Sample.failedOnce ++ [Sample.enter "call-1" "token-1"])).isEntered "call-1" =
        true :=
  letI := Sample.crypto
  letI := Sample.collation
  letI := Sample.profiles
  ⟨(ended_run_dispatches Sample.twoLanes Sample.failedOnce [Sample.enter "call-1" "token-1"]
    Sample.burst_and_failure.2.2.1).1, Sample.burst_and_failure.2.2.2⟩

end FuseControlPlane.Reliability
