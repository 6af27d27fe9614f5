/-
Lanes on which a hold is open (`resumeDueLanes`, `claimDueResumedWork`, `completeResumedWorkGroup` and
`enterLaneHoldLocked` of `reliability/protocolStore.ts`).

* `HeldLanesStop`: such a lane is not ready and does not resume, and no work of it is claimed.
* `held_lanes_stop`: it **stops throughout a run** exactly if no `completeResumedWorkGroup` of the run
  commits while a hold is open on its lane.
* `not_held_lanes_stop`: a resumed work group may finish while another call of its lane is held. The lane
  then is ready; `resumeDueLanes` looks for an open hold first.
-/

import FuseControlPlane.Reliability.HoldMembers
import FuseControlPlane.Reliability.RunWrites

set_option linter.unusedSectionVars false

namespace FuseControlPlane.Reliability

open Foundation Foundation.JavaScript Domain Evidence

section Laws

variable [NodeCrypto] [Collation] [ProtocolProfiles]

/-- The lane of an open hold neither is ready nor resumes, and nothing of its backlog is claimed. -/
def HeldLanesStop (run : ReliabilityRun) : Prop :=
  ∀ hold ∈ run.holds, hold.resolvedAt = none →
    (∀ lane ∈ run.lanes, lane.laneId = hold.laneId →
      lane.state ≠ .ready ∧ lane.state ≠ .resumePending ∧ lane.state ≠ .resuming) ∧
    ∀ mode now work after, run.claimDueResumedWork hold.laneId mode now = .ok (work, after) →
      work = none ∧ after.backlog = run.backlog

/-- The lane of an open hold is there, and stopped. -/
def LanesHeld (run : ReliabilityRun) : Prop :=
  ∀ hold ∈ run.holds, hold.resolvedAt = none →
    ∃ lane, run.lanes.find? hold.laneId = some lane ∧ lane.state.isGoing = false

variable {lapses : Lapses} {run after : ReliabilityRun}

/-! ### What is held -/

theorem LaneState.not_isGoing {state : LaneState} :
    state.isGoing = false ↔ state ≠ .ready ∧ state ≠ .resumePending ∧ state ≠ .resuming := by
  cases state <;> simp [LaneState.isGoing]

/-- Nothing is claimed of a lane that does not wait for its time. -/
theorem claimDueResumedWork_of_stopped {laneId : String} {lane : LaneRow}
    (found : run.lanes.find? laneId = some lane) (stopped : lane.state.isGoing = false) {mode : ResumeMode}
    {now : ℤ} {work : Option ResumedWork}
    (accepted : run.claimDueResumedWork laneId mode now = .ok (work, after)) :
    work = none ∧ after.backlog = run.backlog := by
  have waits : (run.lanes.find? laneId).filter (fun lane => lane.state = .resumePending) = none := by
    rw [found, Option.filter_some, if_neg]
    intro pending
    rw [of_decide_eq_true pending] at stopped
    cases stopped
  unfold ReliabilityRun.claimDueResumedWork at accepted
  obtain ⟨state, _, accepted⟩ := bind_eq_ok.mp accepted
  rw [waits] at accepted
  split at accepted <;> cases accepted <;> exact ⟨rfl, rfl⟩

theorem heldLanesStop_of (held : LanesHeld run) : HeldLanesStop run := by
  intro hold member unresolved
  obtain ⟨lane, found, stopped⟩ := held hold member unresolved
  refine ⟨fun other present own => ?_, fun mode now work after accepted =>
    claimDueResumedWork_of_stopped found stopped accepted⟩
  have same : other.laneId = lane.laneId := own.trans (Table.key_of_find? found).symm
  rw [Table.eq_of_key present (Table.mem_of_find? found) same]
  exact LaneState.not_isGoing.mp stopped

/-! ### Updated lanes -/

section Lanes

variable (run : ReliabilityRun) (chosen : LaneRow → Bool) (state : LaneState) (resumeAt : Option ℤ)

theorem mem_updateLanes {lane : LaneRow} :
    lane ∈ (run.updateLanes chosen state resumeAt).lanes ↔
      ∃ old ∈ run.lanes, (if chosen old then { old with state, resumeAt } else old) = lane := by
  show lane ∈ run.lanes.update chosen ({ · with state, resumeAt }) (fun _ => rfl) ↔ _
  rw [Table.mem_update]

theorem find_updateLanes (laneId : String) :
    (run.updateLanes chosen state resumeAt).lanes.find? laneId = (run.lanes.find? laneId).map fun lane =>
      if chosen lane then { lane with state, resumeAt } else lane := by
  show (run.lanes.update chosen ({ · with state, resumeAt }) fun _ => rfl).find? laneId = _
  rw [Table.find?_update]

/-- A lane that no update is about. -/
theorem find_updateLanes_of_ne {laneId other : String} (elsewhere : other ≠ laneId) :
    (run.updateLanes (·.laneId = laneId) state resumeAt).lanes.find? other = run.lanes.find? other := by
  rw [find_updateLanes]
  cases found : run.lanes.find? other with
  | none => rfl
  | some lane =>
    rw [Option.map_some, if_neg]
    intro same
    exact elsewhere ((Table.key_of_find? found).symm.trans (of_decide_eq_true same))

end Lanes

/-! ### What each write does to it -/

theorem LanesHeld.congr (lanes : after.lanes = run.lanes) (holds : after.holds = run.holds)
    (held : LanesHeld run) : LanesHeld after := by
  unfold LanesHeld
  rw [lanes, holds]
  exact held

/-- A hold that is written, and the lanes left as they are. -/
theorem lanesHeld_put (held : LanesHeld run) {hold stored : HoldRow}
    (holds : after.holds = run.holds.put hold) (lanes : after.lanes = run.lanes)
    (member : stored ∈ run.holds) (unresolved : stored.resolvedAt = none)
    (own : hold.laneId = stored.laneId) : LanesHeld after := by
  intro other present open_
  rw [lanes]
  rw [holds, Table.mem_put] at present
  rcases present with rfl | ⟨before, _⟩
  · rw [own]
    exact held stored member unresolved
  · exact held other before open_

theorem lanesHeld_addLane (held : LanesHeld run) (laneId : String) :
    LanesHeld (run.insertLane laneId) := by
  unfold ReliabilityRun.insertLane
  split
  · exact held
  · next absent =>
    intro hold member unresolved
    obtain ⟨lane, found, stopped⟩ := held hold member unresolved
    refine ⟨lane, ?_, stopped⟩
    show (run.lanes.put ⟨laneId, .ready, none⟩).find? hold.laneId = some lane
    rw [Table.find?_put_of_ne, found]
    intro same
    rw [show hold.laneId = laneId from same] at found
    exact absent (by rw [found]; rfl)

/-- A lane that goes on has no open hold. -/
theorem lanesHeld_setLanes (held : LanesHeld run) (apart : HoldsApart run) {chosen : LaneRow → Bool}
    {state : LaneState} {resumeAt : Option ℤ} (spares : ¬ lapses.wakes)
    (awake : ∀ lane ∈ run.lanes, chosen lane = true → state.isGoing = true →
      run.openHold lane.laneId = none ∨ lane.state.isGoing = true ∨ lapses.wakes) :
    LanesHeld (run.updateLanes chosen state resumeAt) := by
  intro hold member unresolved
  obtain ⟨lane, found, stopped⟩ := held hold member unresolved
  rw [find_updateLanes, found, Option.map_some]
  refine ⟨_, rfl, ?_⟩
  by_cases picked : chosen lane = true
  · rw [if_pos picked]
    show state.isGoing = false
    cases going : state.isGoing with
    | false => rfl
    | true =>
      have opened := openHold_of_mem apart member unresolved
      rw [show hold.laneId = lane.laneId from (Table.key_of_find? found).symm] at opened
      rcases awake lane (Table.mem_of_find? found) picked going with free | goes | wakes
      · rw [free] at opened
        cases opened
      · rw [stopped] at goes
        cases goes
      · exact absurd wakes spares
  · rw [if_neg picked]
    exact stopped

theorem lanesHeld_createHold (held : LanesHeld run) {laneId : String} (holdId : String)
    (members : List String) (present : (run.lanes.find? laneId).isSome = true) :
    LanesHeld (run.createHold laneId holdId members) := by
  have stored : ∀ other, (run.createHold laneId holdId members).lanes.find? other =
      (run.lanes.find? other).map fun lane =>
        if lane.laneId = laneId then { lane with state := .held, resumeAt := none } else lane := by
    intro other
    refine (find_updateLanes run (fun lane => decide (lane.laneId = laneId)) .held none other).trans ?_
    simp only [decide_eq_true_eq]
  intro hold member unresolved
  rw [stored]
  rcases Table.mem_put.mp member with rfl | ⟨before, _⟩
  · obtain ⟨lane, found⟩ := Option.isSome_iff_exists.mp present
    refine ⟨{ lane with state := .held, resumeAt := none }, ?_, rfl⟩
    show (run.lanes.find? laneId).map _ = _
    rw [found, Option.map_some, if_pos (show lane.laneId = laneId from Table.key_of_find? found)]
  · obtain ⟨lane, found, stopped⟩ := held hold before unresolved
    rw [found, Option.map_some]
    refine ⟨_, rfl, ?_⟩
    split
    · rfl
    · exact stopped

theorem find_lane_leaveHold (run : ReliabilityRun) {hold : HoldRow} (requestId : String)
    (controlState : ControlState) (now : ℤ) {laneId : String} (elsewhere : laneId ≠ hold.laneId) :
    (run.leaveHold hold requestId controlState now).lanes.find? laneId = run.lanes.find? laneId := by
  unfold ReliabilityRun.leaveHold
  dsimp only
  split
  · rfl
  · cases controlState with
    | active => exact find_updateLanes_of_ne run .resumePending (some _) elsewhere
    | preparing => exact find_updateLanes_of_ne run .failed none elsewhere
    | failed => exact find_updateLanes_of_ne run .failed none elsewhere
    | complete => exact find_updateLanes_of_ne run .failed none elsewhere

/-- The lane of a hold that is resolved goes on, and the other lanes stay as they are. -/
theorem lanesHeld_leaveHold (held : LanesHeld run) (apart : HoldsApart run) {hold : HoldRow}
    (requestId : String) (controlState : ControlState) (now : ℤ)
    (opened : run.openHold hold.laneId = some hold) :
    LanesHeld (run.leaveHold hold requestId controlState now) := by
  obtain ⟨member, _, unresolved⟩ := openHold_eq_some opened
  have holds := leaveHold_holds run hold requestId controlState now
  by_cases nobody : hold.heldUnresolved.filter (· ≠ requestId) = []
  · rw [if_pos nobody] at holds
    intro other present open_
    rw [holds, Table.mem_put] at present
    rcases present with rfl | ⟨before, different⟩
    · cases open_
    · obtain ⟨lane, found, stopped⟩ := held other before open_
      refine ⟨lane, ?_, stopped⟩
      have elsewhere : other.laneId ≠ hold.laneId := by
        intro same
        rw [apart other before hold member open_ unresolved same] at different
        exact different rfl
      rw [find_lane_leaveHold run requestId controlState now elsewhere]
      exact found
  · rw [if_neg nobody] at holds
    refine lanesHeld_put held holds ?_ member unresolved rfl
    unfold ReliabilityRun.leaveHold
    dsimp only
    rw [if_pos nobody]
    rfl

theorem joinHold_lanes (run : ReliabilityRun) (hold : HoldRow) (requestId : String) :
    (run.joinHold hold requestId).lanes = run.lanes := by
  unfold ReliabilityRun.joinHold ReliabilityRun.insertMember
  dsimp only
  split <;> rfl

/-- One hold is open on a lane, and its lane is held. -/
structure LanesSound (run : ReliabilityRun) : Prop where
  apart : HoldsApart run
  held : LanesHeld run

theorem lanesHeld_write (sound : LanesSound run) (spares : ¬ lapses.wakes)
    (write : RunWrite lapses run after) : LanesHeld after := by
  obtain ⟨apart, held⟩ := sound
  cases write with
  | aside same => exact held.congr same.lanes same.holds
  | fail => exact held.congr rfl rfl
  | report input now kind ended accepted =>
    rcases commitReportIntentLocked_eq_ok accepted with rfl | ⟨rfl, _⟩
    · exact held
    · exact held.congr rfl rfl
  | addLane laneId => exact lanesHeld_addLane held laneId
  | setLanes chosen state resumeAt awake => exact lanesHeld_setLanes held apart spares awake
  | createHold laneId holdId members present noneOpen => exact lanesHeld_createHold held holdId members present
  | joinHold hold requestId opened =>
    obtain ⟨member, _, unresolved⟩ := openHold_eq_some opened
    exact lanesHeld_put held (joinHold_holds run hold requestId) (joinHold_lanes run hold requestId)
      member unresolved rfl
  | leaveHold hold requestId controlState now opened =>
    exact lanesHeld_leaveHold held apart requestId controlState now opened
  | elsewhere other abstracted => exact held.congr rfl rfl

theorem holdsApart_write (apart : HoldsApart run) (write : RunWrite lapses run after) :
    HoldsApart after := by
  cases write with
  | aside same => exact apart.congr same.holds
  | fail => exact apart
  | report input now kind ended accepted =>
    exact apart.congr (commitReportIntentLocked_quiet accepted).2.holds
  | addLane laneId => exact apart.congr (insertLane_quiet run laneId).2.holds
  | setLanes chosen state resumeAt awake => exact apart
  | createHold laneId holdId members present noneOpen =>
    exact holdsApart_createHold apart holdId members noneOpen
  | joinHold hold requestId opened => exact holdsApart_joinHold apart requestId opened
  | leaveHold hold requestId controlState now opened =>
    exact holdsApart_leaveHold apart requestId controlState now opened
  | elsewhere other abstracted => exact apart

/-! ### Runs -/

theorem lanesSound_step (sound : LanesSound run) {op : ProtocolOp}
    (spares : run.wakesHeldLane op = false) : LanesSound (run.protocolStep op) := by
  have awake : ¬ (lapsesOf run op).wakes := by
    intro wakes
    rw [show run.wakesHeldLane op = true from wakes] at spares
    cases spares
  exact RunWrites.keeps LanesSound
    (fun sound write => ⟨holdsApart_write sound.apart write, lanesHeld_write sound awake write⟩) sound
    (protocolStep_writes run op)

/-- What a work group that finishes leaves of its lane and of the holds. -/
theorem completeResumedWorkGroup_eq_ok {laneId : String} {block : ℤ} {resumeAt : Option ℤ}
    (accepted : run.completeResumedWorkGroup laneId block = .ok (resumeAt, after)) :
    after.holds = run.holds ∧
      ∃ lane ∈ after.lanes, lane.laneId = laneId ∧ (lane.state = .ready ∨ lane.state = .resumePending) := by
  unfold ReliabilityRun.completeResumedWorkGroup at accepted
  obtain ⟨state, locked, accepted⟩ := bind_eq_ok.mp accepted
  obtain ⟨lane, found⟩ := Option.isSome_iff_exists.mp (lane_of_locked locked)
  have own : lane.laneId = laneId := Table.key_of_find? found
  have woken : ∀ (state : LaneState) (resumeAt : Option ℤ), ({ lane with state, resumeAt } : LaneRow) ∈
      ((run.finishWork laneId block).updateLanes (·.laneId = laneId) state resumeAt).lanes := by
    intro state resumeAt
    refine (mem_updateLanes (run.finishWork laneId block) ..).mpr ⟨lane, Table.mem_of_find? found, ?_⟩
    rw [if_pos (decide_eq_true own)]
  simp only [bind_unit_eq_ok] at accepted
  obtain ⟨_, _, accepted⟩ := accepted
  split at accepted
  · cases accepted
  · split at accepted
    · cases accepted
      exact ⟨rfl, _, woken .ready none, own, .inl rfl⟩
    · cases accepted
      exact ⟨rfl, _, woken .resumePending _, own, .inr rfl⟩

theorem perform_of_commits {op : ProtocolOp} (committed : run.commits op = true) :
    run.perform op = .ok (run.protocolStep op) := by
  unfold ReliabilityRun.commits at committed
  unfold ReliabilityRun.protocolStep
  cases performed : run.perform op with
  | error error =>
    rw [performed] at committed
    cases committed
  | ok after => rfl

/-- A work group that finishes while a hold is open lets its lane go on. -/
theorem not_heldLanesStop_step {op : ProtocolOp} (wakes : run.wakesHeldLane op = true) :
    ¬ HeldLanesStop (run.protocolStep op) := by
  unfold ReliabilityRun.wakesHeldLane at wakes
  rw [Bool.and_eq_true] at wakes
  obtain ⟨committed, opened⟩ := wakes
  split at opened
  · next laneId block =>
    obtain ⟨hold, opened⟩ := Option.isSome_iff_exists.mp opened
    obtain ⟨member, own, unresolved⟩ := openHold_eq_some opened
    obtain ⟨resumeAt, completes⟩ := ReliabilityRun.rowsOf_eq_ok (perform_of_commits committed)
    obtain ⟨holds, lane, present, lane_own, goes⟩ := completeResumedWorkGroup_eq_ok completes
    intro stop
    obtain ⟨stopped, _⟩ := stop hold (by rw [holds]; exact member) unresolved
    obtain ⟨unready, waits, _⟩ := stopped lane present (lane_own.trans own.symm)
    exact goes.elim unready waits
  · cases opened

/-- The states of a run, from the one it starts in. -/
theorem held_lanes_stop_from (sound : LanesSound run) (ops : List ProtocolOp) :
    (∀ earlier later, ops = earlier ++ later →
        HeldLanesStop (Foundation.run ReliabilityRun.protocolStep run earlier)) ↔
      Along ReliabilityRun.protocolStep (fun run op => run.wakesHeldLane op = false) run ops := by
  induction ops generalizing run with
  | nil =>
    refine ⟨fun _ => trivial, fun _ earlier later split_ => ?_⟩
    rw [(List.append_eq_nil_iff.mp split_.symm).1]
    exact heldLanesStop_of sound.held
  | cons op rest ih =>
    constructor
    · intro stops
      have spares : run.wakesHeldLane op = false := by
        rw [← Bool.not_eq_true]
        exact fun wakes => not_heldLanesStop_step wakes (stops [op] rest rfl)
      refine ⟨spares, (ih (lanesSound_step sound spares)).mp fun earlier later split_ => ?_⟩
      exact stops (op :: earlier) later (by rw [split_]; rfl)
    · rintro ⟨spares, along⟩ earlier later split_
      cases earlier with
      | nil => exact heldLanesStop_of sound.held
      | cons first earlier =>
        obtain ⟨rfl, same⟩ := List.cons.inj split_
        exact (ih (lanesSound_step sound spares)).mpr along earlier later same

/-- **A held lane stops** throughout a run exactly if no work group of it finishes in the meantime. -/
theorem held_lanes_stop (runId : String) (profile : ReliabilityProtocolProfile) (planFingerprint : String)
    (reconciliationCredentialId : Option String) (laneIds : List String) (ops : List ProtocolOp) :
    (∀ earlier later, ops = earlier ++ later →
        HeldLanesStop (Foundation.run ReliabilityRun.protocolStep
          (.initialRun runId profile planFingerprint reconciliationCredentialId laneIds) earlier)) ↔
      Along ReliabilityRun.protocolStep (fun run op => run.wakesHeldLane op = false)
        (.initialRun runId profile planFingerprint reconciliationCredentialId laneIds) ops := by
  obtain ⟨_, holds⟩ := initialRun_quiet runId profile planFingerprint reconciliationCredentialId laneIds
  refine held_lanes_stop_from ⟨holdsApart_initialRun runId profile planFingerprint
    reconciliationCredentialId laneIds, fun hold member => ?_⟩ ops
  rw [holds.holds] at member
  exact absurd member (Table.not_mem_empty _)

end Laws

/-! ### A work group that finishes while a hold is open -/

namespace Sample

/-- A call is held, and another one waits. Once the first is completed the other is resumed and completed,
and then a third one is held. -/
def resumed : List ProtocolOp :=
  [.registerSealedCalls [sealedCall "call-1" "normal-paced" 1, sealedCall "call-2" "normal-paced" 2,
      sealedCall "call-3" "normal-paced" 3],
    record "call-1" "normal-paced", authorize "call-1" "normal-paced" "token-1",
    enter "call-1" "token-1", hold "call-1" "normal-paced" "hold-1",
    .enqueueHeldLaneWork ⟨"normal-paced", 1, 2, "call-2", 4000⟩, complete "call-1" "normal-paced",
    .claimDueResumedWork "normal-paced" .sequential 300000, record "call-2" "normal-paced",
    authorize "call-2" "normal-paced" "token-2", enter "call-2" "token-2",
    complete "call-2" "normal-paced", hold "call-3" "normal-paced" "hold-2"]

/-- The work group of the second call. -/
def finish : ProtocolOp := .completeResumedWorkGroup "normal-paced" 1

theorem ready_under_hold :
    (ran (resumed ++ [finish])).holds.find? ("normal-paced", "hold-2") =
        some ⟨"normal-paced", "hold-2", ["call-3"], none⟩ ∧
      (ran (resumed ++ [finish])).lanes.find? "normal-paced" = some ⟨"normal-paced", .ready, none⟩ := by
  decide +kernel

end Sample

/-- **A lane that is ready while a hold is open on it.** -/
theorem not_held_lanes_stop :
    letI := Sample.crypto
    letI := Sample.collation
    letI := Sample.profiles
    ¬ HeldLanesStop (Sample.ran (Sample.resumed ++ [Sample.finish])) := by
  intro stop
  obtain ⟨held, ready⟩ := Sample.ready_under_hold
  obtain ⟨stopped, _⟩ := stop _ (Table.mem_of_find? held) rfl
  exact (stopped _ (Table.mem_of_find? ready) rfl).1 rfl

end FuseControlPlane.Reliability
