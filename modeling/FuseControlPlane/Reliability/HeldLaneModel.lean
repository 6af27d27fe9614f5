/-
The held lane of the protocol (`evidence/reliabilityProtocolV2.ts`) beside the holds of the store.

* `HeldLane`: the members of a lane, the held ones among them, and when the lane resumes.
* `resumeEpochSecond`, `heldLaneFifoResolution`, `nextBoundary`, `resumeAtOf`: the instant at which a lane resumes,
  in four places; `IsNextBoundary`: the least multiple of 300 seconds after an instant.
* `StoreStep`: what the store does at a lane's event, whatever it does elsewhere before.
* `Together`: a lane and a store after the same events.
* `heldLane_agrees_with_store`: **they open as many holds, hold the same members and resume at the same events; and
  all four instants are the next boundary**.
-/

import FuseControlPlane.Evidence.AuthoritativeEvidence
import FuseControlPlane.Reliability.AttemptClassification
import FuseControlPlane.Reliability.ReconciliationKernel
import Mathlib.Data.Rat.Floor

set_option linter.unusedSectionVars false

namespace FuseControlPlane.Reliability

open Foundation Foundation.JavaScript Domain Evidence

/-! ### Instants of resumption -/

def resumeEpochSecond (removalEpochSecond : ℚ) : ℚ := 300 * (⌊removalEpochSecond / 300⌋ + 1)

/-- The members that are left, and when the lane resumes, in milliseconds. -/
def heldLaneFifoResolution (members : List String) (requestId : String) (transitionCommittedAtMs : ℚ) :
    Except String (List String × Option ℚ) := do
  require (members.contains requestId) "HELD_MEMBER_NOT_FOUND"
  let remaining := members.filter (· ≠ requestId)
  if remaining ≠ [] then return (remaining, none)
  else return (remaining, some (⌊transitionCommittedAtMs / 300000 + 1⌋ * 300000))

/-- `nextBoundary` of the kernel, for any number of milliseconds. -/
def nextBoundary (epochMs : ℚ) : ℚ := 300 * (⌊(⌊epochMs / 1000⌋ : ℚ) / 300⌋ + 1)

/-- `to_timestamp((floor(extract(epoch FROM clock_timestamp()) / 300) + 1) * 300)`, of the epoch of the clock. -/
def resumeAtOf (epoch : ℚ) : ℚ := (⌊epoch / 300⌋ + 1) * 300

/-- The least multiple of 300 seconds after an instant. -/
def IsNextBoundary (instant boundary : ℚ) : Prop :=
  IsLeast {later : ℚ | (∃ count : ℤ, later = 300 * count) ∧ instant < later} boundary

theorem isNextBoundary_floor (instant : ℚ) : IsNextBoundary instant (300 * (⌊instant / 300⌋ + 1)) := by
  refine ⟨⟨⟨⌊instant / 300⌋ + 1, by push_cast; ring⟩, ?_⟩, ?_⟩
  · have above := Int.lt_floor_add_one (instant / 300)
    linarith
  · rintro later ⟨⟨count, rfl⟩, after⟩
    have below : instant / 300 < count := by linarith
    have next : ⌊instant / 300⌋ + 1 ≤ count := Int.floor_lt.mpr below
    have next' : (⌊instant / 300⌋ : ℚ) + 1 ≤ count := by exact_mod_cast next
    linarith

theorem isNextBoundary_resumeEpochSecond (instant : ℚ) : IsNextBoundary instant (resumeEpochSecond instant) :=
  isNextBoundary_floor instant

theorem isNextBoundary_resumeAtOf (instant : ℚ) : IsNextBoundary instant (resumeAtOf instant) := by
  unfold resumeAtOf
  rw [mul_comm]
  exact isNextBoundary_floor instant

/-- Quotients of integers rounded down. -/
theorem floor_quotient (dividend : ℤ) (divisor : ℕ) : ⌊(dividend : ℚ) / divisor⌋ = dividend / divisor :=
  Rat.floor_intCast_div_natCast dividend divisor

theorem isNextBoundary_nextBoundary (milliseconds : ℚ) :
    IsNextBoundary (milliseconds / 1000) (nextBoundary milliseconds) := by
  have twice : ⌊(⌊milliseconds / 1000⌋ : ℚ) / (300 : ℕ)⌋ = ⌊milliseconds / 1000 / (300 : ℕ)⌋ := by
    rw [floor_quotient, Int.floor_div_natCast]
  unfold nextBoundary
  rw [Nat.cast_ofNat] at twice
  rw [twice]
  exact isNextBoundary_floor _

theorem isNextBoundary_heldLaneFifoResolution {members remaining : List String} {requestId : String}
    {milliseconds resumeAt : ℚ}
    (resolved : heldLaneFifoResolution members requestId milliseconds = .ok (remaining, some resumeAt)) :
    IsNextBoundary (milliseconds / 1000) (resumeAt / 1000) := by
  unfold heldLaneFifoResolution at resolved
  simp only [bind_unit_eq_ok, require_eq_ok] at resolved
  obtain ⟨_, resolved⟩ := resolved
  split at resolved
  · cases resolved
  · cases resolved
    have same : (⌊milliseconds / 300000 + 1⌋ : ℚ) * 300000 / 1000 = 300 * (⌊milliseconds / 1000 / 300⌋ + 1) := by
      rw [Int.floor_add_one, div_div]
      norm_num
      ring
    rw [same]
    exact isNextBoundary_floor _

/-- The kernel's boundary, of a whole number of milliseconds. -/
theorem kernel_nextBoundary (milliseconds : ℤ) :
    (Kernel.nextBoundary milliseconds : ℚ) = nextBoundary milliseconds := by
  have seconds := floor_quotient milliseconds 1000
  have boundaries := floor_quotient (milliseconds / 1000) 300
  rw [Nat.cast_ofNat] at seconds boundaries
  unfold Kernel.nextBoundary nextBoundary
  rw [Int.fdiv_eq_ediv_of_nonneg _ (by decide), Int.fdiv_eq_ediv_of_nonneg _ (by decide), seconds, Nat.cast_ofNat,
    boundaries]
  push_cast
  rfl

/-- The clock of the store's rows counts whole milliseconds. -/
theorem nextResume_eq (now : ℤ) : (ReliabilityRun.nextResume now : ℚ) / 1000 = resumeAtOf (now / 1000) := by
  have boundaries := floor_quotient now 300000
  rw [Nat.cast_ofNat, Nat.cast_ofNat] at boundaries
  unfold ReliabilityRun.nextResume resumeAtOf
  rw [div_div, show (1000 * 300 : ℚ) = 300000 by norm_num, boundaries]
  push_cast
  ring

/-! ### The held lane -/

structure HeldLaneMember where
  id : String
  terminal : Bool
  state : HeldMemberState
  deriving DecidableEq

instance : Keyed HeldLaneMember String := ⟨HeldLaneMember.id⟩

structure HeldLane where
  lane : String
  members : Table HeldLaneMember
  holdCreationCount : ℕ
  held : List String
  resumeAt : Option ℚ
  allowanceOwner : Option String
  globalFailed : Bool

inductive TerminalOutcome
  | completedVerified | terminalRejectedNotBilled
  deriving DecidableEq

inductive ResolvedOutcome
  | reconciledBilledWithResponse | reconciledNotBilled | reconciledBilledNoResponse | unresolvedProviderOutcome
  deriving DecidableEq

namespace HeldLane

/-- `new HeldLane(lane, ids)`. -/
def new (lane : String) (ids : List String) : HeldLane where
  lane := lane
  members := ids.foldl (fun members id => members.put ⟨id, false, .ordinaryInflight⟩) Table.empty
  holdCreationCount := 0
  held := []
  resumeAt := none
  allowanceOwner := none
  globalFailed := false

/-- The member, or the error of a request that is none. -/
def requireMember (lane : HeldLane) (id : String) : Except String HeldLaneMember :=
  match lane.members.find? id with
  | some member => .ok member
  | none => .error "UNPLANNED_REQUEST_ID"

def setMember (lane : HeldLane) (member : HeldLaneMember) : HeldLane :=
  { lane with members := lane.members.put member }

/-- `[...this.members.values()].filter(item => !item.terminal).map(item => item.id)`. -/
def nonterminal (lane : HeldLane) : List String :=
  (lane.members.rows.filter fun member => !member.terminal).map HeldLaneMember.id

def enterAmbiguity (id : String) (lane : HeldLane) : Except String HeldLane := do
  let member ← lane.requireMember id
  require (!member.terminal) "MEMBER_ALREADY_TERMINAL"
  let holding := if lane.held = [] then
      { lane with held := sortTexts lane.nonterminal, holdCreationCount := lane.holdCreationCount + 1 }
    else lane
  return holding.setMember { member with state := .reconciliationPending }

def claimAllowanceOrFail (id : String) (lane : HeldLane) : HeldLane :=
  match lane.allowanceOwner with
  | none => { lane with allowanceOwner := some id }
  | some owner => if owner ≠ id then { lane with globalFailed := true } else lane

def removeHeld (id : String) (seconds : ℚ) (lane : HeldLane) : HeldLane :=
  { lane with
    held := lane.held.erase id
    resumeAt :=
      if lane.held.contains id && (lane.held.erase id).isEmpty && !lane.globalFailed then
        some (resumeEpochSecond seconds)
      else lane.resumeAt }

def terminalize (id : String) (_outcome : TerminalOutcome) (seconds : ℚ) (lane : HeldLane) :
    Except String HeldLane := do
  let member ← lane.requireMember id
  if member.terminal then return lane
  else return (lane.setMember { member with terminal := true }).removeHeld id seconds

def resolve (id : String) (outcome : ResolvedOutcome) (seconds : ℚ) (lane : HeldLane) : Except String HeldLane := do
  let member ← lane.requireMember id
  require (member.state = .reconciliationPending && !member.terminal) "MEMBER_NOT_RECONCILIATION_PENDING"
  let ended := lane.setMember { member with terminal := true }
  let claimed := if outcome = .reconciledNotBilled ∨ outcome = .reconciledBilledNoResponse then
      ended.claimAllowanceOrFail id
    else ended
  let failed := if outcome = .unresolvedProviderOutcome then { claimed with globalFailed := true } else claimed
  return failed.removeHeld id seconds

def preAmbiguityReject (id : String) (seconds : ℚ) (lane : HeldLane) : Except String HeldLane := do
  let member ← lane.requireMember id
  require (!member.terminal) "MEMBER_ALREADY_TERMINAL"
  return ((lane.setMember { member with terminal := true }).claimAllowanceOrFail id).removeHeld id seconds

end HeldLane

/-- What happens to a member of a lane, and when, in seconds. -/
inductive LaneEvent
  | ambiguity (id : String) (seconds : ℚ)
  | terminal (id : String) (outcome : TerminalOutcome) (seconds : ℚ)
  | resolution (id : String) (outcome : ResolvedOutcome) (seconds : ℚ)
  | rejection (id : String) (seconds : ℚ)

namespace LaneEvent

/-- The event in the held lane. -/
def perform : LaneEvent → HeldLane → Except String HeldLane
  | ambiguity id _ => HeldLane.enterAmbiguity id
  | terminal id outcome seconds => HeldLane.terminalize id outcome seconds
  | resolution id outcome seconds => HeldLane.resolve id outcome seconds
  | rejection id seconds => HeldLane.preAmbiguityReject id seconds

/-- The member whose attempt ends, and when. -/
def ends : LaneEvent → Option (String × ℚ)
  | ambiguity _ _ => none
  | terminal id _ seconds | resolution id _ seconds | rejection id seconds => some (id, seconds)

/-- The resume that the event schedules: what it leaves where there was none. -/
def schedules (event : LaneEvent) (lane : HeldLane) : Option ℚ :=
  match event.perform { lane with resumeAt := none } with
  | .ok after => after.resumeAt
  | .error _ => none

end LaneEvent

/-! ### The store -/

namespace ReliabilityRun

/-- The holds of a lane. -/
def holdsOf (run : ReliabilityRun) (laneId : String) : List HoldRow :=
  run.holds.rows.filter fun hold => hold.laneId = laneId

/-- The open holds of a lane. -/
def openHolds (run : ReliabilityRun) (laneId : String) : List HoldRow :=
  run.holds.rows.filter fun hold => hold.isOpenOn laneId

/-- The members that the open hold of a lane lists. -/
def heldOn (run : ReliabilityRun) (laneId : String) : List String :=
  ((run.openHold laneId).map HoldRow.heldUnresolved).getD []

/-- The last released burst of a lane with a request. -/
def burstOf (run : ReliabilityRun) (laneId requestId : String) : Option BurstBarrierRow :=
  ((run.burstBarriers.rows.filter fun barrier => barrier.laneId = laneId && barrier.state = .released &&
    barrier.plannedRequestIds.contains requestId).insertionSort fun first second =>
      second.block ≤ first.block).head?

theorem membersOfNewHold_eq (run : ReliabilityRun) (laneId requestId : String) :
    run.membersOfNewHold laneId requestId = match run.burstOf laneId requestId with
      | none => [requestId]
      | some barrier => barrier.plannedRequestIds.filter (run.isActiveOn laneId) := rfl

end ReliabilityRun

section Store

variable (laneId : String) (planned : List String)

/-- A burst block whose barrier is released: no member is terminal, and none is held. -/
structure ReleasedBurst (run : ReliabilityRun) : Prop where
  distinct : planned.Nodup
  released : ∀ id ∈ planned, ∃ barrier, run.burstOf laneId id = some barrier ∧ barrier.plannedRequestIds = planned
  active : ∀ id ∈ planned, run.isActiveOn laneId id = true
  unheld : run.openHolds laneId = []

/-- Rows other than those of the lane's holds and of the block's barrier may change. -/
structure SameLane (run middle : ReliabilityRun) : Prop where
  holds : middle.holdsOf laneId = run.holdsOf laneId
  burst : ∀ id ∈ planned, middle.burstOf laneId id = run.burstOf laneId id

/-- The attempts of the members stay active or ended. -/
structure Elsewhere (run middle : ReliabilityRun) : Prop extends SameLane laneId planned run middle where
  active : ∀ id ∈ planned, middle.isActiveOn laneId id = run.isActiveOn laneId id

/-- The attempt of one member ends. -/
structure Ended (requestId : String) (run middle : ReliabilityRun) : Prop extends SameLane laneId planned run middle where
  active : ∀ id ∈ planned, id ≠ requestId → middle.isActiveOn laneId id = run.isActiveOn laneId id
  ended : middle.isActiveOn laneId requestId = false
  terminal : middle.isTerminalOn laneId requestId = true

/-- The store at an event, after any changes elsewhere: the state of the run that the removal is told, and the resume
that it schedules, in milliseconds. -/
inductive StoreStep (run : ReliabilityRun) : LaneEvent → ControlState → Option ℤ → ReliabilityRun → Prop
  | enter {id drawn : String} {seconds : ℚ} {middle after : ReliabilityRun} {entered : ReliabilityRun.EnteredHold}
      (elsewhere : Elsewhere laneId planned run middle)
      (entering : middle.enterLaneHoldLocked laneId id drawn = .ok (entered, after)) :
      StoreStep run (.ambiguity id seconds) .active none after
  | leave {event : LaneEvent} {id : String} {control : ControlState} {now : ℤ} {middle after : ReliabilityRun}
      {left : Option ReliabilityRun.LeftHold} (ends : event.ends = some (id, (now : ℚ) / 1000))
      (ended : Ended laneId planned id run middle)
      (leaving : middle.removeTerminalHeldMemberLocked laneId id control now = .ok (left, after)) :
      StoreStep run event control (left.bind ReliabilityRun.LeftHold.resumeAt) after

/-- A held lane and the store after the same events, none of which comes after a failure of the run. -/
inductive Together (start : ReliabilityRun) : HeldLane → ReliabilityRun → Prop
  | start : Together start (.new laneId planned) start
  | step {lane lane' : HeldLane} {run after : ReliabilityRun} {event : LaneEvent} {control : ControlState}
      {scheduled : Option ℤ} (together : Together start lane run) (going : lane.globalFailed = false)
      (performed : event.perform lane = .ok lane')
      (stored : StoreStep laneId planned run event control scheduled after) : Together start lane' after

end Store

/-! ### Holds of a lane -/

section Holds

variable {run middle after : ReliabilityRun} {laneId : String}

theorem openHold_eq_head (run : ReliabilityRun) (laneId : String) :
    run.openHold laneId = (run.openHolds laneId).head? := by
  unfold ReliabilityRun.openHold ReliabilityRun.openHolds
  rw [List.head?_filter]

theorem openHolds_eq_filter (run : ReliabilityRun) (laneId : String) :
    run.openHolds laneId = (run.holdsOf laneId).filter fun hold => hold.resolvedAt.isNone := by
  unfold ReliabilityRun.openHolds ReliabilityRun.holdsOf HoldRow.isOpenOn
  rw [List.filter_filter]
  exact List.filter_congr fun hold _ => Bool.and_comm _ _

theorem SameLane.openHolds {planned : List String} (same : SameLane laneId planned run middle) :
    middle.openHolds laneId = run.openHolds laneId := by
  rw [openHolds_eq_filter, openHolds_eq_filter, same.holds]

/-- A new hold comes last. -/
theorem rows_of_new_hold {holds : Table HoldRow} {hold : HoldRow} (fresh : holds.find? (Keyed.key hold) = none)
    (keep : HoldRow → Bool) :
    (holds.put hold).rows.filter keep = holds.rows.filter keep ++ [hold].filter keep := by
  rw [Table.rows_put_new fresh, List.filter_append]

/-- A hold that is written again stays in its place. -/
theorem rows_of_written_hold {holds : Table HoldRow} {old hold : HoldRow} (member : old ∈ holds)
    (same : Keyed.key hold = Keyed.key old) : ∃ before rest, holds.rows = before ++ old :: rest ∧
      (holds.put hold).rows = before ++ hold :: rest := by
  obtain ⟨before, rest, split⟩ := List.append_of_mem member
  refine ⟨before, rest, split, ?_⟩
  have unique := holds.unique
  rw [split, List.map_append, List.map_cons, List.nodup_append] at unique
  have unwritten {rows : List HoldRow} (apart : ∀ row ∈ rows, Keyed.key row ≠ Keyed.key hold) :
      (rows.map fun row => if Keyed.key row = Keyed.key hold then hold else row) = rows := by
    rw [List.map_congr_left fun row inside => if_neg (apart row inside)]
    exact List.map_id' rows
  have present : holds.rows.any (fun row => Keyed.key row = Keyed.key hold) = true :=
    List.any_eq_true.mpr ⟨old, member, decide_eq_true same.symm⟩
  show Table.putRows holds.rows hold = _
  rw [Table.putRows, if_pos present, split, List.map_append, List.map_cons, if_pos same.symm, unwritten, unwritten]
  · intro row inside
    rw [same]
    exact fun equal => (List.nodup_cons.mp unique.2.1).1 (equal ▸ List.mem_map_of_mem inside)
  · intro row inside
    rw [same]
    exact fun equal => unique.2.2 _ (List.mem_map_of_mem inside) _ List.mem_cons_self equal

/-- The only open hold of a lane is written again. -/
theorem holds_written {hold : HoldRow} (written : HoldRow) (opened : run.openHolds laneId = [hold])
    (same : Keyed.key written = Keyed.key hold) (holds : after.holds = run.holds.put written) :
    after.openHolds laneId = (if written.resolvedAt.isNone then [written] else []) ∧
      (after.holdsOf laneId).length = (run.holdsOf laneId).length := by
  have inside : hold ∈ run.holds ∧ hold.isOpenOn laneId = true := by
    have listed : hold ∈ run.openHolds laneId := by
      rw [opened]
      exact List.mem_singleton_self hold
    exact List.mem_filter.mp listed
  obtain ⟨before, rest, rows, rows'⟩ := rows_of_written_hold inside.1 same
  have lane : hold.laneId = laneId := by
    have both := inside.2
    rw [HoldRow.isOpenOn, Bool.and_eq_true, decide_eq_true_eq] at both
    exact both.1
  have lane' : written.laneId = laneId := (congrArg Prod.fst same).trans lane
  constructor
  · unfold ReliabilityRun.openHolds at opened ⊢
    rw [rows, List.filter_append, List.filter_cons_of_pos inside.2] at opened
    have alone : before.filter (·.isOpenOn laneId) = [] ∧ rest.filter (·.isOpenOn laneId) = [] := by
      cases front : before.filter (·.isOpenOn laneId) with
      | nil =>
        rw [front, List.nil_append, List.cons.injEq] at opened
        exact ⟨rfl, opened.2⟩
      | cons row others =>
        rw [front] at opened
        simp at opened
    rw [holds, rows', List.filter_append, List.filter_cons, alone.1, alone.2, List.nil_append]
    simp [HoldRow.isOpenOn, lane']
  · unfold ReliabilityRun.holdsOf
    rw [holds, rows, rows']
    simp [List.filter_append, lane, lane']

/-- A hold is opened on a lane without one. -/
theorem enterLaneHoldLocked_unheld {requestId drawn : String} {entered : ReliabilityRun.EnteredHold}
    (unheld : middle.openHolds laneId = [])
    (entering : middle.enterLaneHoldLocked laneId requestId drawn = .ok (entered, after)) :
    after.openHolds laneId = [⟨laneId, drawn, middle.membersOfNewHold laneId requestId, none⟩] ∧
      (after.holdsOf laneId).length = (middle.holdsOf laneId).length + 1 ∧
      (middle.membersOfNewHold laneId requestId).contains requestId = true ∧
      after.attempts = middle.attempts ∧ after.burstBarriers = middle.burstBarriers := by
  unfold ReliabilityRun.enterLaneHoldLocked at entering
  rw [openHold_eq_head, unheld] at entering
  simp only [bind_unit_eq_ok, require_eq_ok, List.head?_nil, Bool.and_eq_true, decide_eq_true_eq] at entering
  obtain ⟨_, inside, ⟨fresh, _⟩, entering⟩ := entering
  cases entering
  unfold ReliabilityRun.isFreshHold at fresh
  rw [Bool.and_eq_true, Option.isNone_iff_eq_none] at fresh
  have rows (keep : HoldRow → Bool) :
      (middle.holds.put ⟨laneId, drawn, middle.membersOfNewHold laneId requestId, none⟩).rows.filter keep =
        middle.holds.rows.filter keep ++
          [⟨laneId, drawn, middle.membersOfNewHold laneId requestId, none⟩].filter keep := rows_of_new_hold fresh.1 keep
  unfold ReliabilityRun.openHolds at unheld ⊢
  unfold ReliabilityRun.holdsOf
  refine ⟨?_, ?_, inside, rfl, rfl⟩
  · show (middle.holds.put _).rows.filter _ = _
    rw [rows, unheld]
    simp [HoldRow.isOpenOn]
  · show ((middle.holds.put _).rows.filter _).length = _
    rw [rows]
    simp

/-- A member of the open hold enters it again. -/
theorem enterLaneHoldLocked_held {requestId drawn : String} {entered : ReliabilityRun.EnteredHold} {hold : HoldRow}
    (opened : middle.openHolds laneId = [hold]) (listed : requestId ∈ hold.heldUnresolved)
    (entering : middle.enterLaneHoldLocked laneId requestId drawn = .ok (entered, after)) : after = middle := by
  unfold ReliabilityRun.enterLaneHoldLocked at entering
  rw [openHold_eq_head, opened] at entering
  simp only [bind_unit_eq_ok, require_eq_ok, List.head?_cons, List.contains_iff_mem, listed, if_true] at entering
  cases entering.2
  rfl

/-- A request that is not held does not leave. -/
theorem removeTerminalHeldMemberLocked_unheld {requestId : String} {control : ControlState} {now : ℤ}
    {left : Option ReliabilityRun.LeftHold} (unheld : requestId ∉ middle.heldOn laneId)
    (leaving : middle.removeTerminalHeldMemberLocked laneId requestId control now = .ok (left, after)) :
    left = none ∧ after = middle := by
  rcases removeTerminalHeldMemberLocked_eq_ok leaving with ⟨none, same, _⟩ | ⟨hold, opened, lane, listed, _⟩
  · exact ⟨none, same⟩
  · refine absurd ?_ unheld
    unfold ReliabilityRun.heldOn
    rw [← lane, opened]
    exact listed

/-- A member leaves the open hold; the last one resolves it. -/
theorem removeTerminalHeldMemberLocked_held {requestId : String} {control : ControlState} {now : ℤ}
    {left : Option ReliabilityRun.LeftHold} {hold : HoldRow} (opened : middle.openHolds laneId = [hold])
    (listed : requestId ∈ hold.heldUnresolved)
    (leaving : middle.removeTerminalHeldMemberLocked laneId requestId control now = .ok (left, after)) :
    left = some (ReliabilityRun.leftHold hold requestId control now) ∧
      after.openHolds laneId = (if hold.heldUnresolved.filter (· ≠ requestId) = [] then []
        else [{ hold with heldUnresolved := hold.heldUnresolved.filter (· ≠ requestId) }]) ∧
      (after.holdsOf laneId).length = (middle.holdsOf laneId).length ∧
      after.attempts = middle.attempts ∧ after.burstBarriers = middle.burstBarriers := by
  have unresolved : hold.resolvedAt = none := by
    have inside : hold ∈ middle.openHolds laneId := by
      rw [opened]
      exact List.mem_singleton_self hold
    have both := (List.mem_filter.mp inside).2
    rw [HoldRow.isOpenOn, Bool.and_eq_true, Option.isNone_iff_eq_none] at both
    exact both.2
  unfold ReliabilityRun.removeTerminalHeldMemberLocked at leaving
  rw [openHold_eq_head, opened, List.head?_cons, Option.filter_some, if_pos (List.contains_iff_mem.mpr listed)]
    at leaving
  simp only [bind_unit_eq_ok, require_eq_ok] at leaving
  cases leaving.2
  unfold ReliabilityRun.leaveHold
  dsimp only
  by_cases nobody : hold.heldUnresolved.filter (· ≠ requestId) = []
  · rw [if_neg (not_not.mpr nobody), if_pos nobody]
    have written (after : ReliabilityRun) (holds : after.holds = _) :=
      holds_written { hold with heldUnresolved := [], resolvedAt := some now } opened rfl holds
    obtain ⟨listed, counted⟩ := written
      { middle.resolveMember hold requestId now with
        holds := middle.holds.put { hold with heldUnresolved := [], resolvedAt := some now } } rfl
    exact ⟨rfl, listed, counted, rfl, rfl⟩
  · rw [if_pos nobody, if_neg nobody]
    have written (after : ReliabilityRun) (holds : after.holds = _) :=
      holds_written { hold with heldUnresolved := hold.heldUnresolved.filter (· ≠ requestId) } opened rfl holds
    obtain ⟨listed, counted⟩ := written
      { middle.resolveMember hold requestId now with
        holds := middle.holds.put { hold with heldUnresolved := hold.heldUnresolved.filter (· ≠ requestId) } } rfl
    exact ⟨rfl, listed.trans (if_pos (Option.isNone_iff_eq_none.mpr unresolved)), counted, rfl, rfl⟩

end Holds

/-! ### The agreement -/

section Agreement

variable {laneId : String} {planned : List String} {start run middle after : ReliabilityRun} {lane lane' : HeldLane}

/-- Either nobody is held, or the same members are, all of those that are not terminal. -/
inductive HoldsAgreeOn (laneId : String) (planned : List String) (held : List String) (run : ReliabilityRun) : Prop
  | unheld (nobody : held = []) (closed : run.openHolds laneId = [])
  | held (hold : HoldRow) (opened : run.openHolds laneId = [hold]) (somebody : held ≠ [])
      (distinct : held.Nodup) (same : held.Perm hold.heldUnresolved)
      (every : ∀ id, id ∈ held ↔ id ∈ planned ∧ run.isActiveOn laneId id = true)

/-- The held lane and the store agree. -/
structure Agree (laneId : String) (planned : List String) (start : ReliabilityRun) (lane : HeldLane)
    (run : ReliabilityRun) : Prop where
  distinct : planned.Nodup
  burst : ∀ id ∈ planned, ∃ barrier, run.burstOf laneId id = some barrier ∧ barrier.plannedRequestIds = planned
  member : ∀ id ∈ planned, ∃ member, lane.members.find? id = some member ∧
    member.terminal = !run.isActiveOn laneId id
  known : ∀ member ∈ lane.members, member.id ∈ planned
  opened : (run.holdsOf laneId).length = (start.holdsOf laneId).length + lane.holdCreationCount
  holds : HoldsAgreeOn laneId planned lane.held run

theorem HoldsAgreeOn.mem_iff {held : List String} (agree : HoldsAgreeOn laneId planned held run) (id : String) :
    id ∈ held ↔ id ∈ run.heldOn laneId := by
  unfold ReliabilityRun.heldOn
  rw [openHold_eq_head]
  cases agree with
  | unheld nobody closed =>
    rw [nobody, closed]
    rfl
  | held hold opened _ _ same _ =>
    rw [opened]
    exact same.mem_iff

/-- A new lane. -/
theorem Agree.new (burst : ReleasedBurst laneId planned start) :
    Agree laneId planned start (.new laneId planned) start := by
  have members : ∀ id, (HeldLane.new laneId planned).members.find? id =
      if id ∈ planned then some ⟨id, false, .ordinaryInflight⟩ else none := by
    intro id
    have each : ∀ (ids : List String) (table : Table HeldLaneMember),
        (ids.foldl (fun members id => members.put ⟨id, false, .ordinaryInflight⟩) table).find? id =
          if id ∈ ids then some ⟨id, false, .ordinaryInflight⟩ else table.find? id := by
      intro ids
      induction ids with
      | nil => exact fun table => rfl
      | cons first rest ih =>
        intro table
        rw [List.foldl_cons, ih, Table.find?_put]
        by_cases later : id ∈ rest
        · simp [later]
        · by_cases here : id = first
          · subst here
            simp [later, Keyed.key]
          · simp [later, here, Keyed.key]
    exact each planned Table.empty
  refine ⟨burst.distinct, burst.released, fun id inside => ⟨⟨id, false, .ordinaryInflight⟩, ?_, ?_⟩, fun member inside => ?_, rfl,
    .unheld rfl burst.unheld⟩
  · rw [members, if_pos inside]
  · rw [burst.active id inside]
    rfl
  · have found := members member.id
    rw [show (HeldLane.new laneId planned).members.find? member.id = some member from
      Table.find?_of_mem inside] at found
    by_contra unplanned
    rw [if_neg unplanned] at found
    cases found

/-- Members that are not terminal are those with active attempts. -/
theorem Agree.mem_nonterminal (agree : Agree laneId planned start lane run) (id : String) :
    id ∈ lane.nonterminal ↔ id ∈ planned ∧ run.isActiveOn laneId id = true := by
  unfold HeldLane.nonterminal
  simp only [List.mem_map, List.mem_filter, Bool.not_eq_true']
  constructor
  · rintro ⟨member, ⟨inside, going⟩, rfl⟩
    have known := agree.known member inside
    obtain ⟨other, found, ended⟩ := agree.member member.id known
    have same : other = member := Option.some.inj (found.symm.trans (Table.find?_of_mem inside))
    rw [same, going] at ended
    exact ⟨known, by simpa using ended.symm⟩
  · rintro ⟨inside, active⟩
    obtain ⟨member, found, ended⟩ := agree.member id inside
    rw [active] at ended
    exact ⟨member, ⟨Table.mem_of_find? found, ended⟩, Table.key_of_find? found⟩

theorem nodup_nonterminal (lane : HeldLane) : lane.nonterminal.Nodup :=
  lane.members.unique.sublist (List.filter_sublist.map _)

/-- Changes elsewhere do not matter. -/
theorem Agree.elsewhere (agree : Agree laneId planned start lane run)
    (elsewhere : Elsewhere laneId planned run middle) : Agree laneId planned start lane middle where
  distinct := agree.distinct
  burst id inside := by
    rw [elsewhere.burst id inside]
    exact agree.burst id inside
  member id inside := by
    rw [elsewhere.active id inside]
    exact agree.member id inside
  known := agree.known
  opened := by
    rw [elsewhere.holds]
    exact agree.opened
  holds := by
    cases agree.holds with
    | unheld nobody closed => exact .unheld nobody (elsewhere.openHolds.trans closed)
    | held hold opened somebody distinct same every =>
      refine .held hold (elsewhere.openHolds.trans opened) somebody distinct same fun id => (every id).trans ?_
      exact and_congr_right fun inside => by rw [elsewhere.active id inside]

/-- A member's pending state is not looked at. -/
theorem Agree.setPending (agree : Agree laneId planned start lane run) {member : HeldLaneMember}
    (found : lane.members.find? member.id = some member) :
    Agree laneId planned start (lane.setMember { member with state := .reconciliationPending }) run where
  distinct := agree.distinct
  burst := agree.burst
  member id inside := by
    obtain ⟨other, here, ended⟩ := agree.member id inside
    show ∃ member, (lane.members.put _).find? id = some member ∧ _
    rw [Table.find?_put]
    split
    · next same =>
      have equal : id = member.id := same
      rw [equal] at here ended ⊢
      cases here.symm.trans found
      exact ⟨_, rfl, ended⟩
    · exact ⟨other, here, ended⟩
  known other inside := by
    rcases Table.mem_put.mp inside with rfl | ⟨before, _⟩
    · exact agree.known member (Table.mem_of_find? found)
    · exact agree.known other before
  opened := agree.opened
  holds := agree.holds

/-- An attempt and its member end. What is held is told apart. -/
theorem Agree.ended (agree : Agree laneId planned start lane run) {member : HeldLaneMember}
    (found : lane.members.find? member.id = some member) (ended : Ended laneId planned member.id run middle)
    (members : lane'.members = lane.members.put { member with terminal := true })
    (counted : lane'.holdCreationCount = lane.holdCreationCount)
    (holds : HoldsAgreeOn laneId planned lane'.held after) (attempts : after.attempts = middle.attempts)
    (barriers : after.burstBarriers = middle.burstBarriers)
    (count : (after.holdsOf laneId).length = (middle.holdsOf laneId).length) :
    Agree laneId planned start lane' after where
  distinct := agree.distinct
  burst id inside := by
    have same : after.burstOf laneId id = run.burstOf laneId id := by
      rw [← ended.burst id inside]
      unfold ReliabilityRun.burstOf
      rw [barriers]
    rw [same]
    exact agree.burst id inside
  member id inside := by
    have active : after.isActiveOn laneId id = middle.isActiveOn laneId id := by
      unfold ReliabilityRun.isActiveOn
      rw [attempts]
    rw [active]
    rw [members, Table.find?_put]
    split
    · next same =>
      have equal : id = member.id := same
      rw [equal, ended.ended]
      exact ⟨_, rfl, rfl⟩
    · next different =>
      rw [ended.active id inside different]
      exact agree.member id inside
  known other inside := by
    rw [members] at inside
    rcases Table.mem_put.mp inside with rfl | ⟨before, _⟩
    · exact agree.known member (Table.mem_of_find? found)
    · exact agree.known other before
  opened := by
    rw [count, ended.holds, counted]
    exact agree.opened
  holds := holds

/-- What an ambiguity does to the held lane. -/
theorem enterAmbiguity_eq_ok {id : String} (performed : lane.enterAmbiguity id = .ok lane') :
    ∃ member, lane.members.find? id = some member ∧ member.terminal = false ∧
      lane' = (if lane.held = [] then
          { lane with held := sortTexts lane.nonterminal, holdCreationCount := lane.holdCreationCount + 1 }
        else lane).setMember { member with state := .reconciliationPending } := by
  unfold HeldLane.enterAmbiguity HeldLane.requireMember at performed
  split at performed
  · next member found =>
    obtain ⟨_, same, performed⟩ := bind_eq_ok.mp performed
    cases same
    simp only [bind_unit_eq_ok, require_eq_ok, Bool.not_eq_true'] at performed
    exact ⟨member, found, performed.1, (Except.ok.inj performed.2).symm⟩
  · cases performed

theorem schedules_of_perform {event : LaneEvent} (performed : event.perform { lane with resumeAt := none } = .ok lane') :
    event.schedules lane = lane'.resumeAt := by
  unfold LaneEvent.schedules
  rw [performed]

/-- An ambiguity schedules no resume. -/
theorem schedules_ambiguity {id : String} {seconds : ℚ} (performed : lane.enterAmbiguity id = .ok lane') :
    (LaneEvent.ambiguity id seconds).schedules lane = none := by
  obtain ⟨member, found, going, _⟩ := enterAmbiguity_eq_ok performed
  have again : (LaneEvent.ambiguity id seconds).perform { lane with resumeAt := none } = .ok
      ((if lane.held = [] then
          { lane with
            held := sortTexts lane.nonterminal
            holdCreationCount := lane.holdCreationCount + 1
            resumeAt := none }
        else { lane with resumeAt := none }).setMember { member with state := .reconciliationPending }) := by
    show HeldLane.enterAmbiguity id _ = _
    unfold HeldLane.enterAmbiguity HeldLane.requireMember
    rw [found]
    simp only [bind, Except.bind, pure, Except.pure, require, going, Bool.not_false, if_true]
    rfl
  rw [schedules_of_perform again]
  show (if lane.held = [] then _ else _ : HeldLane).resumeAt = none
  split <;> rfl

/-- The members of a new hold are those that are not terminal. -/
theorem Agree.members_of_new_hold (agree : Agree laneId planned start lane run) {id : String} (inside : id ∈ planned) :
    (sortTexts lane.nonterminal).Perm (run.membersOfNewHold laneId id) := by
  obtain ⟨barrier, found, members⟩ := agree.burst id inside
  rw [ReliabilityRun.membersOfNewHold_eq, found]
  show (sortTexts lane.nonterminal).Perm (barrier.plannedRequestIds.filter _)
  rw [members]
  refine (perm_sortTexts _).trans ((List.perm_ext_iff_of_nodup (nodup_nonterminal lane)
    (agree.distinct.sublist List.filter_sublist)).mpr fun other => ?_)
  rw [agree.mem_nonterminal, List.mem_filter]

/-- **An ambiguity entry**: a hold is opened in both, or in neither. -/
theorem Agree.enter (agree : Agree laneId planned start lane run) {id drawn : String}
    {entered : ReliabilityRun.EnteredHold} (performed : lane.enterAmbiguity id = .ok lane')
    (entering : run.enterLaneHoldLocked laneId id drawn = .ok (entered, after)) :
    Agree laneId planned start lane' after := by
  obtain ⟨member, found, going, rfl⟩ := enterAmbiguity_eq_ok performed
  have own : member.id = id := Table.key_of_find? found
  subst own
  have inside : member.id ∈ planned := agree.known member (Table.mem_of_find? found)
  have active : run.isActiveOn laneId member.id = true := by
    obtain ⟨other, here, ended⟩ := agree.member _ inside
    cases here.symm.trans found
    rw [going] at ended
    simpa using ended.symm
  cases agree.holds with
  | unheld nobody closed =>
    obtain ⟨opened, count, _, attempts, barriers⟩ := enterLaneHoldLocked_unheld closed entering
    have activity : ∀ other, after.isActiveOn laneId other = run.isActiveOn laneId other := by
      intro other
      unfold ReliabilityRun.isActiveOn
      rw [attempts]
    have bursts : ∀ other, after.burstOf laneId other = run.burstOf laneId other := by
      intro other
      unfold ReliabilityRun.burstOf
      rw [barriers]
    rw [if_pos nobody]
    have holding : Agree laneId planned start
        { lane with held := sortTexts lane.nonterminal, holdCreationCount := lane.holdCreationCount + 1 } after :=
      { distinct := agree.distinct
        burst := fun other planned => by
          rw [bursts]
          exact agree.burst other planned
        member := fun other planned => by
          rw [activity]
          exact agree.member other planned
        known := agree.known
        opened := by
          rw [count, agree.opened]
          rfl
        holds := by
          have mem : ∀ other, other ∈ sortTexts lane.nonterminal ↔
              other ∈ planned ∧ after.isActiveOn laneId other = true := by
            intro other
            rw [(perm_sortTexts _).mem_iff, agree.mem_nonterminal, activity]
          refine .held _ opened (List.ne_nil_of_mem ((mem member.id).mpr ⟨inside, ?_⟩)) ?_
            (agree.members_of_new_hold inside) mem
          · rw [activity]
            exact active
          · exact (perm_sortTexts _).nodup_iff.mpr (nodup_nonterminal lane) }
    exact holding.setPending found
  | held hold opened somebody _ same every =>
    rw [if_neg somebody, enterLaneHoldLocked_held opened (same.mem_iff.mp ((every _).mpr ⟨inside, active⟩)) entering]
    exact agree.setPending found

/-! The events that end an attempt. -/

/-- A change of the allowance or of the failure only, which does not look at the resume. -/
structure Claims (claim : HeldLane → HeldLane) : Prop where
  members : ∀ lane, (claim lane).members = lane.members
  held : ∀ lane, (claim lane).held = lane.held
  counted : ∀ lane, (claim lane).holdCreationCount = lane.holdCreationCount
  resumeAt : ∀ (lane : HeldLane) (resumeAt : Option ℚ),
    claim { lane with resumeAt } = { claim lane with resumeAt }

theorem Claims.refl : Claims id := ⟨fun _ => rfl, fun _ => rfl, fun _ => rfl, fun _ _ => rfl⟩

theorem Claims.fail : Claims fun lane => { lane with globalFailed := true } :=
  ⟨fun _ => rfl, fun _ => rfl, fun _ => rfl, fun _ _ => rfl⟩

theorem Claims.comp {first second : HeldLane → HeldLane} (claims : Claims first) (more : Claims second) :
    Claims fun lane => second (first lane) where
  members lane := (more.members _).trans (claims.members lane)
  held lane := (more.held _).trans (claims.held lane)
  counted lane := (more.counted _).trans (claims.counted lane)
  resumeAt lane resumeAt := by rw [claims.resumeAt, more.resumeAt]

theorem Claims.allowance (id : String) : Claims (HeldLane.claimAllowanceOrFail id) where
  members lane := by
    unfold HeldLane.claimAllowanceOrFail
    split <;> (try split) <;> rfl
  held lane := by
    unfold HeldLane.claimAllowanceOrFail
    split <;> (try split) <;> rfl
  counted lane := by
    unfold HeldLane.claimAllowanceOrFail
    split <;> (try split) <;> rfl
  resumeAt lane resumeAt := by
    obtain ⟨_, _, _, _, _, owner, _⟩ := lane
    cases owner with
    | none => rfl
    | some owner =>
      by_cases other : owner ≠ id
      · simp [HeldLane.claimAllowanceOrFail, other]
      · simp [HeldLane.claimAllowanceOrFail, other]

theorem Claims.ite {claim other : HeldLane → HeldLane} (condition : Prop) [Decidable condition]
    (claims : Claims claim) (others : Claims other) :
    Claims fun lane => if condition then claim lane else other lane := by
  by_cases holds : condition
  · simpa only [holds, if_true] using claims
  · simpa only [holds, if_false] using others

/-- What the end of a member's attempt does to the held lane. -/
structure EndsMember (event : LaneEvent) (lane lane' : HeldLane) (member : HeldLaneMember) (seconds : ℚ) : Prop where
  going : member.terminal = false
  members : lane'.members = lane.members.put { member with terminal := true }
  held : lane'.held = lane.held.erase member.id
  counted : lane'.holdCreationCount = lane.holdCreationCount
  schedules : event.schedules lane =
    if lane.held.contains member.id && (lane.held.erase member.id).isEmpty && !lane'.globalFailed then
      some (resumeEpochSecond seconds)
    else none

/-- A claim and the removal of the member. -/
theorem Claims.ends {claim : HeldLane → HeldLane} (claims : Claims claim) {event : LaneEvent} {seconds : ℚ}
    {member : HeldLaneMember} (going : member.terminal = false)
    (performs : ∀ resumeAt, event.perform { lane with resumeAt } = .ok
      ((claim (HeldLane.setMember { lane with resumeAt } { member with terminal := true })).removeHeld
        member.id seconds)) (performed : event.perform lane = .ok lane') :
    EndsMember event lane lane' member seconds := by
  have shape := (performs lane.resumeAt).symm.trans performed
  cases shape
  refine ⟨going, claims.members _, congrArg (·.erase member.id) (claims.held _), claims.counted _, ?_⟩
  rw [schedules_of_perform (performs none)]
  have unscheduled := claims.resumeAt (lane.setMember { member with terminal := true }) none
  have fresh : claim (HeldLane.setMember { lane with resumeAt := none } { member with terminal := true }) =
      { claim (lane.setMember { member with terminal := true }) with resumeAt := none } := unscheduled
  rw [fresh]
  show (if (claim _).held.contains member.id && ((claim _).held.erase member.id).isEmpty && !(claim _).globalFailed then
    _ else _) = _
  rw [claims.held]
  rfl

/-- A member that is required and is there. -/
theorem requireMember_bind {α : Type} {id : String} {next : HeldLaneMember → Except String α} {value : α}
    (performed : (lane.requireMember id >>= next) = .ok value) :
    ∃ member, member.id = id ∧ lane.members.find? id = some member ∧ next member = .ok value ∧
      ∀ resumeAt, HeldLane.requireMember { lane with resumeAt } id = .ok member := by
  obtain ⟨member, required, rest⟩ := bind_eq_ok.mp performed
  unfold HeldLane.requireMember at required ⊢
  split at required
  · next found =>
    cases required
    exact ⟨member, Table.key_of_find? found, found, rest, fun _ => by rw [found]⟩
  · cases required

/-- An event that ends an attempt finds it ended already, or ends it. -/
theorem perform_ends {event : LaneEvent} {id : String} {seconds : ℚ} (ends : event.ends = some (id, seconds))
    (performed : event.perform lane = .ok lane') : ∃ member, lane.members.find? id = some member ∧
      (member.terminal = true ∧ lane' = lane ∧ event.schedules lane = none ∨
        EndsMember event lane lane' member seconds) := by
  cases event with
  | ambiguity id seconds => cases ends
  | terminal id outcome seconds =>
    cases ends
    obtain ⟨member, rfl, found, rest, required⟩ := requireMember_bind performed
    refine ⟨member, found, ?_⟩
    cases isOver : member.terminal with
    | true =>
      rw [isOver] at rest
      cases rest
      have performed' : (LaneEvent.terminal member.id outcome seconds).perform { lane with resumeAt := none } =
          .ok { lane with resumeAt := none } := by
        show HeldLane.terminalize member.id outcome seconds _ = _
        unfold HeldLane.terminalize
        rw [required]
        simp only [bind, Except.bind, isOver, pure, Except.pure, if_true]
      exact .inl ⟨rfl, rfl, schedules_of_perform performed'⟩
    | false =>
      refine .inr (Claims.refl.ends isOver (fun resumeAt => ?_) performed)
      show HeldLane.terminalize member.id outcome seconds _ = _
      unfold HeldLane.terminalize
      rw [required]
      simp [bind, Except.bind, isOver, pure, Except.pure]
  | resolution id outcome seconds =>
    cases ends
    obtain ⟨member, rfl, found, rest, required⟩ := requireMember_bind performed
    refine ⟨member, found, .inr ?_⟩
    simp only [bind_unit_eq_ok, require_eq_ok, Bool.and_eq_true, Bool.not_eq_true'] at rest
    obtain ⟨⟨pending, going⟩, _⟩ := rest
    have claims : Claims fun lane : HeldLane =>
        if outcome = .unresolvedProviderOutcome then
          { (if outcome = .reconciledNotBilled ∨ outcome = .reconciledBilledNoResponse then
              lane.claimAllowanceOrFail member.id else lane) with globalFailed := true }
        else if outcome = .reconciledNotBilled ∨ outcome = .reconciledBilledNoResponse then
          lane.claimAllowanceOrFail member.id
        else lane :=
      .ite _ ((Claims.ite _ (.allowance member.id) .refl).comp .fail) (.ite _ (.allowance member.id) .refl)
    refine claims.ends going (fun resumeAt => ?_) performed
    show HeldLane.resolve member.id outcome seconds _ = _
    unfold HeldLane.resolve
    rw [required]
    simp only [bind, Except.bind, pure, Except.pure, require, pending, going, Bool.not_false, Bool.and_self, if_true]
  | rejection id seconds =>
    cases ends
    obtain ⟨member, rfl, found, rest, required⟩ := requireMember_bind performed
    refine ⟨member, found, .inr ?_⟩
    simp only [bind_unit_eq_ok, require_eq_ok, Bool.not_eq_true'] at rest
    refine (Claims.allowance member.id).ends rest.1 (fun resumeAt => ?_) performed
    show HeldLane.preAmbiguityReject member.id seconds _ = _
    unfold HeldLane.preAmbiguityReject
    rw [required]
    simp only [bind, Except.bind, pure, Except.pure, require, rest.1, Bool.not_false, if_true]

/-- The resume that the store schedules, in seconds. -/
def inSeconds (scheduled : Option ℤ) : Option ℚ := scheduled.map fun milliseconds => (milliseconds : ℚ) / 1000

/-- **The end of an attempt**: the member leaves both holds, and the last one schedules the same resume. -/
theorem Agree.leave (agree : Agree laneId planned start lane run) {event : LaneEvent} {member : HeldLaneMember}
    {control : ControlState} {now : ℤ} {left : Option ReliabilityRun.LeftHold}
    (found : lane.members.find? member.id = some member) (ends : EndsMember event lane lane' member (now / 1000))
    (ended : Ended laneId planned member.id run middle)
    (leaving : middle.removeTerminalHeldMemberLocked laneId member.id control now = .ok (left, after)) :
    Agree laneId planned start lane' after ∧ (lane'.globalFailed = false → control = .active →
      inSeconds (left.bind ReliabilityRun.LeftHold.resumeAt) = event.schedules lane) := by
  have inside : member.id ∈ planned := agree.known member (Table.mem_of_find? found)
  have active : run.isActiveOn laneId member.id = true := by
    obtain ⟨other, here, isOver⟩ := agree.member _ inside
    cases here.symm.trans found
    rw [ends.going] at isOver
    simpa using isOver.symm
  cases agree.holds with
  | unheld nobody closed =>
    have closed' := ended.openHolds.trans closed
    have unlisted : member.id ∉ middle.heldOn laneId := by
      unfold ReliabilityRun.heldOn
      rw [openHold_eq_head, closed']
      exact List.not_mem_nil
    obtain ⟨rfl, rfl⟩ := removeTerminalHeldMemberLocked_unheld unlisted leaving
    refine ⟨agree.ended found ended ends.members ends.counted (.unheld ?_ closed') rfl rfl rfl, fun _ _ => ?_⟩
    · rw [ends.held, nobody]
      rfl
    · rw [ends.schedules, nobody]
      rfl
  | held hold opened somebody distinct same every =>
    have opened' := ended.openHolds.trans opened
    have listed : member.id ∈ hold.heldUnresolved := same.mem_iff.mp ((every _).mpr ⟨inside, active⟩)
    obtain ⟨rfl, rest, count, attempts, barriers⟩ := removeTerminalHeldMemberLocked_held opened' listed leaving
    have erased : (lane.held.erase member.id).Perm (hold.heldUnresolved.filter (· ≠ member.id)) := by
      have tests : (fun id => id != member.id) = fun id => decide (id ≠ member.id) := by
        funext id
        rw [Bool.eq_iff_iff, bne_iff_ne, decide_eq_true_eq]
      rw [List.Nodup.erase_eq_filter distinct, tests]
      exact same.filter _
    have activity : ∀ id ∈ planned, after.isActiveOn laneId id = (run.isActiveOn laneId id && id ≠ member.id) := by
      intro id known
      have stays : after.isActiveOn laneId id = middle.isActiveOn laneId id := by
        unfold ReliabilityRun.isActiveOn
        rw [attempts]
      rw [stays]
      by_cases own : id = member.id
      · rw [own, ended.ended]
        simp
      · rw [ended.active id known own]
        simp [own]
    refine ⟨agree.ended found ended ends.members ends.counted ?_ attempts barriers count, fun going working => ?_⟩
    · rw [ends.held]
      by_cases last : hold.heldUnresolved.filter (· ≠ member.id) = []
      · rw [if_pos last] at rest
        rw [last] at erased
        exact .unheld erased.eq_nil rest
      · rw [if_neg last] at rest
        refine .held _ rest ?_ (distinct.erase _) erased fun id => ?_
        · intro nobody
          rw [nobody] at erased
          exact last erased.symm.eq_nil
        · rw [distinct.mem_erase_iff, every]
          constructor
          · rintro ⟨other, known, going⟩
            refine ⟨known, ?_⟩
            rw [activity id known, going]
            simpa using other
          · rintro ⟨known, going⟩
            rw [activity id known, Bool.and_eq_true, decide_eq_true_eq] at going
            exact ⟨going.2, known, going.1⟩
    · have contained : lane.held.contains member.id = true :=
        List.contains_iff_mem.mpr (same.mem_iff.mpr listed)
      have empty : (lane.held.erase member.id).isEmpty = true ↔
          hold.heldUnresolved.filter (· ≠ member.id) = [] := by
        rw [List.isEmpty_iff]
        exact ⟨fun nobody => (nobody ▸ erased).symm.eq_nil, fun last => (last ▸ erased).eq_nil⟩
      subst working
      rw [ends.schedules, contained, going]
      by_cases last : hold.heldUnresolved.filter (· ≠ member.id) = []
      · have resumes : (ReliabilityRun.leftHold hold member.id .active now).resumeAt =
            some (ReliabilityRun.nextResume now) := if_pos ⟨last, rfl⟩
        show inSeconds (ReliabilityRun.leftHold hold member.id .active now).resumeAt = _
        rw [empty.mpr last, resumes]
        show some ((ReliabilityRun.nextResume now : ℚ) / 1000) = some (resumeEpochSecond (now / 1000))
        rw [nextResume_eq, resumeAtOf, resumeEpochSecond, mul_comm]
      · have stays : (ReliabilityRun.leftHold hold member.id .active now).resumeAt = none :=
          if_neg fun both => last both.1
        have more : (lane.held.erase member.id).isEmpty = false := by
          rw [← Bool.not_eq_true]
          exact fun nobody => last (empty.mp nobody)
        show inSeconds (ReliabilityRun.leftHold hold member.id .active now).resumeAt = _
        rw [more, stays]
        rfl

/-- A member that has ended does not leave again. -/
theorem Agree.leave_again (agree : Agree laneId planned start lane run) {member : HeldLaneMember}
    {control : ControlState} {now : ℤ} {left : Option ReliabilityRun.LeftHold}
    (found : lane.members.find? member.id = some member) (isOver : member.terminal = true)
    (ended : Ended laneId planned member.id run middle)
    (leaving : middle.removeTerminalHeldMemberLocked laneId member.id control now = .ok (left, after)) :
    Agree laneId planned start lane after ∧ left = none := by
  have inactive : run.isActiveOn laneId member.id = false := by
    obtain ⟨other, here, same⟩ := agree.member _ (agree.known member (Table.mem_of_find? found))
    cases here.symm.trans found
    rw [isOver] at same
    simpa using same.symm
  have elsewhere : Elsewhere laneId planned run middle := by
    refine ⟨ended.toSameLane, fun id known => ?_⟩
    by_cases own : id = member.id
    · rw [own, ended.ended, inactive]
    · exact ended.active id known own
  have agrees := agree.elsewhere elsewhere
  have unlisted : member.id ∉ middle.heldOn laneId := by
    rw [← agrees.holds.mem_iff]
    cases agrees.holds with
    | unheld nobody _ =>
      rw [nobody]
      exact List.not_mem_nil
    | held hold _ _ _ _ every =>
      rw [every, ended.ended]
      exact fun both => nomatch both.2
  obtain ⟨rfl, rfl⟩ := removeTerminalHeldMemberLocked_unheld unlisted leaving
  exact ⟨agrees, rfl⟩

/-- One event. -/
theorem Agree.step (agree : Agree laneId planned start lane run) {event : LaneEvent} {control : ControlState}
    {scheduled : Option ℤ} (performed : event.perform lane = .ok lane')
    (stored : StoreStep laneId planned run event control scheduled after) :
    Agree laneId planned start lane' after ∧ (lane'.globalFailed = false → control = .active →
      inSeconds scheduled = event.schedules lane) := by
  cases stored with
  | enter elsewhere entering =>
    exact ⟨(agree.elsewhere elsewhere).enter performed entering, fun _ _ => (schedules_ambiguity performed).symm⟩
  | leave ends ended leaving =>
    obtain ⟨member, found, again | ending⟩ := perform_ends ends performed
    · cases Table.key_of_find? found
      obtain ⟨isOver, rfl, unscheduled⟩ := again
      obtain ⟨agrees, rfl⟩ := agree.leave_again found isOver ended leaving
      exact ⟨agrees, fun _ _ => unscheduled.symm⟩
    · cases Table.key_of_find? found
      exact agree.leave found ending ended leaving

/-- Any events. -/
theorem Together.agree (burst : ReleasedBurst laneId planned start)
    (together : Together laneId planned start lane run) : Agree laneId planned start lane run := by
  induction together with
  | start => exact .new burst
  | step _ _ performed stored ih => exact (ih.step performed stored).1

/-- An ambiguity is accepted by both, or by neither. -/
theorem Agree.accepts (agree : Agree laneId planned start lane run) {id drawn : String} (inside : id ∈ planned)
    (fresh : run.isFreshHold laneId drawn = true) : (∃ lane', lane.enterAmbiguity id = .ok lane') ↔
      ∃ result, run.enterLaneHoldLocked laneId id drawn = .ok result := by
  obtain ⟨member, found, ended⟩ := agree.member id inside
  cases active : run.isActiveOn laneId id with
  | false =>
    rw [active] at ended
    constructor
    · rintro ⟨lane', performed⟩
      obtain ⟨other, here, going, _⟩ := enterAmbiguity_eq_ok performed
      cases here.symm.trans found
      rw [going] at ended
      cases ended
    · rintro ⟨result, entering⟩
      unfold ReliabilityRun.enterLaneHoldLocked at entering
      simp only [bind_unit_eq_ok, require_eq_ok] at entering
      rw [active] at entering
      cases entering.1
  | true =>
    rw [active] at ended
    refine iff_of_true ?_ ?_
    · unfold HeldLane.enterAmbiguity HeldLane.requireMember
      rw [found]
      simp only [bind, Except.bind, pure, Except.pure, require, ended, Bool.not_true, Bool.not_false, if_true]
      exact ⟨_, rfl⟩
    · unfold ReliabilityRun.enterLaneHoldLocked
      simp only [active, require, if_true, bind, Except.bind]
      have members := agree.members_of_new_hold inside
      have listed : id ∈ run.membersOfNewHold laneId id :=
        members.mem_iff.mp ((perm_sortTexts _).mem_iff.mpr ((agree.mem_nonterminal id).mpr ⟨inside, active⟩))
      have distinct : (run.membersOfNewHold laneId id).Nodup :=
        members.nodup_iff.mp ((perm_sortTexts _).nodup_iff.mpr (nodup_nonterminal lane))
      cases run.openHold laneId with
      | some hold => dsimp only; split <;> exact ⟨_, rfl⟩
      | none => simp [pure, Except.pure, listed, fresh, distinct]

end Agreement

/-! ### The result -/

/-- **The held lane and the store agree** after any events of the members of a released burst: as many holds have been
opened, the same members are held, an ambiguity entry is accepted by both or by neither, and the next event schedules
the same resume while the run has not failed. The resume of every one of the four is the next boundary. -/
theorem heldLane_agrees_with_store {laneId : String} {planned : List String} {start run : ReliabilityRun}
    {lane : HeldLane} (burst : ReleasedBurst laneId planned start)
    (together : Together laneId planned start lane run) :
    (run.holdsOf laneId).length = (start.holdsOf laneId).length + lane.holdCreationCount ∧
    (∀ id, id ∈ lane.held ↔ id ∈ run.heldOn laneId) ∧
    (∀ id ∈ planned, ∀ drawn, run.isFreshHold laneId drawn = true → ((∃ lane', lane.enterAmbiguity id = .ok lane') ↔
      ∃ result, run.enterLaneHoldLocked laneId id drawn = .ok result)) ∧
    (∀ event lane' control scheduled after, event.perform lane = .ok lane' →
      StoreStep laneId planned run event control scheduled after → lane'.globalFailed = false → control = .active →
      inSeconds scheduled = event.schedules lane) ∧
    (∀ instant, IsNextBoundary instant (resumeEpochSecond instant)) ∧
    (∀ members remaining requestId milliseconds resumeAt,
      heldLaneFifoResolution members requestId milliseconds = .ok (remaining, some resumeAt) →
      IsNextBoundary (milliseconds / 1000) (resumeAt / 1000)) ∧
    (∀ milliseconds, IsNextBoundary (milliseconds / 1000) (nextBoundary milliseconds)) ∧
    (∀ milliseconds : ℤ, (Kernel.nextBoundary milliseconds : ℚ) = nextBoundary milliseconds) ∧
    (∀ epoch, IsNextBoundary epoch (resumeAtOf epoch)) ∧
    ∀ now : ℤ, (ReliabilityRun.nextResume now : ℚ) / 1000 = resumeAtOf (now / 1000) := by
  have agree := together.agree burst
  refine ⟨agree.opened, agree.holds.mem_iff, fun id inside drawn fresh => agree.accepts inside fresh, ?_,
    isNextBoundary_resumeEpochSecond, ?_, isNextBoundary_nextBoundary, kernel_nextBoundary, isNextBoundary_resumeAtOf,
    nextResume_eq⟩
  · exact fun event lane' control scheduled after performed stored => (agree.step performed stored).2
  · exact fun members remaining requestId milliseconds resumeAt => isNextBoundary_heldLaneFifoResolution

namespace Sample

def burst : List String := ["call-1", "call-2"]

/-- A burst of two calls, released. -/
def released : ReliabilityRun :=
  ran [.registerSealedCalls [sealedCall "call-1" "bounded-burst" 1, sealedCall "call-2" "bounded-burst" 2],
    record "call-1" "bounded-burst", record "call-2" "bounded-burst",
    .createBurstBarrier "bounded-burst" 1 burst,
    authorize "call-1" "bounded-burst" "token-1", authorize "call-2" "bounded-burst" "token-2",
    .releaseBurstBarrier "bounded-burst" 1 2500]

theorem releasedBurst_released : ReleasedBurst "bounded-burst" burst released where
  distinct := by decide
  released := by
    have found : ∀ id ∈ burst, released.burstOf "bounded-burst" id =
        some ⟨"bounded-burst", 1, .released, burst, some 2500, none⟩ := by decide +kernel
    exact fun id inside => ⟨_, found id inside, rfl⟩
  active := by decide +kernel
  unheld := by decide +kernel

theorem first_enters :
    (released.enterLaneHoldLocked "bounded-burst" "call-1" "hold-1").toOption.isSome = true := by
  decide +kernel

end Sample

/-- The first call of the burst becomes ambiguous. -/
theorem heldLane_agrees_with_store_released : ∃ lane run,
    Together "bounded-burst" Sample.burst Sample.released lane run ∧ lane.holdCreationCount = 1 ∧
      (run.holdsOf "bounded-burst").length =
        (Sample.released.holdsOf "bounded-burst").length + lane.holdCreationCount ∧
      ∀ id, id ∈ lane.held ↔ id ∈ run.heldOn "bounded-burst" := by
  obtain ⟨⟨entered, after⟩, entering⟩ := Option.isSome_iff_exists.mp Sample.first_enters
  have stored : Sample.released.enterLaneHoldLocked "bounded-burst" "call-1" "hold-1" = .ok (entered, after) := by
    cases result : Sample.released.enterLaneHoldLocked "bounded-burst" "call-1" "hold-1" with
    | ok value => rw [result] at entering; exact congrArg Except.ok (Option.some.inj entering)
    | error message => rw [result] at entering; cases entering
  have together : Together "bounded-burst" Sample.burst Sample.released _ after :=
    .step .start rfl (rfl : (LaneEvent.ambiguity "call-1" 4).perform _ = _)
      (.enter ⟨⟨rfl, fun _ _ => rfl⟩, fun _ _ => rfl⟩ stored)
  have agree := heldLane_agrees_with_store Sample.releasedBurst_released together
  exact ⟨_, after, together, rfl, agree.1, agree.2.1⟩

end FuseControlPlane.Reliability
