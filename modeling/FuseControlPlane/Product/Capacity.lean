/-
The capacity of the beta.

* `CapacityOp`, `capacityStep`: requests that each reserve capacity and, when they get it, claim their
  operation and then complete it or roll it back, in any interleaving; a request may retry a key after
  a rollback.
* `capacity_bounded`: in every run in which each request ends within a quarter of an hour (`Timely`) and
  no rolled-back operation is reopened while the beta is full (`ReopensWithinCapacity`), the completed
  workspaces and the baseline never exceed the maximum.
* `capacity_exceeded`: without the second condition they do. The reservation of a rolled-back operation
  is not counted, and a retry finds it and is not counted either.

`Reserved` is the invariant: what is counted fits, every operation in progress and every request on its
way to one has a reservation, and no reservation lapses under them.
-/

import FuseControlPlane.Foundation.Runs
import FuseControlPlane.Product.Operations

set_option linter.unusedSectionVars false

namespace FuseControlPlane.Product

open Foundation Foundation.JavaScript Domain Identity

/-! ### Requests -/

/-- How far a request has come. -/
inductive RequestPhase
  | reserved
  | claimed (workspaceId : String)
  | ended
  deriving DecidableEq

/-- A request that was granted capacity. -/
structure OnboardingRequest where
  idempotencyKey : String
  startedAt : ℤ
  phase : RequestPhase
  deriving DecidableEq

/-- The tables and the requests made so far. -/
structure CapacityState where
  db : Db
  requests : List OnboardingRequest

/-- One call of the store, on behalf of the request at an index. -/
inductive CapacityOp
  | reserve (idempotencyKey : String) (clock : ℤ)
  | claim (index : ℕ) (input : ClaimInput) (clock : ℤ)
  | complete (index : ℕ) (result : CustomerWorkspaceResult) (clock : ℤ)
  | rollback (index : ℕ) (code : String) (clock : ℤ)

/-- When the call was made. -/
def CapacityOp.clock : CapacityOp → ℤ
  | .reserve _ clock => clock
  | .claim _ _ clock => clock
  | .complete _ _ clock => clock
  | .rollback _ _ clock => clock

namespace CapacityState

def empty : CapacityState := ⟨.empty, []⟩

/-- A request goes on if it is granted capacity. -/
def arrive (state : CapacityState) (idempotencyKey : String) (clock : ℤ) (answer : Bool × Db) :
    CapacityState :=
  ⟨answer.2,
    if answer.1 then state.requests ++ [⟨idempotencyKey, clock, .reserved⟩] else state.requests⟩

/-- The request at an index has come this far. -/
def advance (state : CapacityState) (index : ℕ) (request : OnboardingRequest) (phase : RequestPhase)
    (db : Db) : CapacityState :=
  ⟨db, state.requests.set index { request with phase }⟩

/-- A call on behalf of the request at an index. -/
def forRequest (state : CapacityState) (index : ℕ) (act : OnboardingRequest → CapacityState) :
    CapacityState :=
  match state.requests[index]? with
  | some request => act request
  | none => state

/-- A request with a reservation claims its operation; it ends unless the claim returns `new`. -/
def claim (state : CapacityState) (index : ℕ) (request : OnboardingRequest) (input : ClaimInput)
    (clock : ℤ) : CapacityState :=
  if request.phase = .reserved then
    match Product.claim { input with idempotencyKey := request.idempotencyKey } clock state.db with
    | .ok (outcome, after) =>
      state.advance index request
        (if outcome = .new then .claimed input.identifiers.workspaceId else .ended) after
    | .error _ => state.advance index request .ended state.db
  else state

/-- A request completes the operation it claimed; if it throws, a rollback follows. -/
def complete (state : CapacityState) (index : ℕ) (request : OnboardingRequest)
    (result : CustomerWorkspaceResult) (clock : ℤ) : CapacityState :=
  if request.phase = .claimed result.workspaceId then
    match Product.complete request.idempotencyKey result clock state.db with
    | .ok after => state.advance index request .ended after
    | .error _ => state
  else state

/-- A request rolls the operation it claimed back, and ends. -/
def rollback (state : CapacityState) (index : ℕ) (request : OnboardingRequest) (code : String)
    (clock : ℤ) : CapacityState :=
  match request.phase with
  | .claimed workspaceId => state.advance index request .ended (state.db.committed
      (Product.rollback request.idempotencyKey workspaceId code clock state.db))
  | _ => state

end CapacityState

section Runs

variable (maxActiveWorkspaces : ℕ) (baselineWorkspaceIds : List String)

/-- A call of a request that is not at that point is no call. -/
def capacityStep (state : CapacityState) : CapacityOp → CapacityState
  | .reserve idempotencyKey clock =>
    state.arrive idempotencyKey clock (tryReserveCapacity idempotencyKey maxActiveWorkspaces
      baselineWorkspaceIds none clock state.db)
  | .claim index input clock =>
    state.forRequest index fun request => state.claim index request input clock
  | .complete index result clock =>
    state.forRequest index fun request => state.complete index request result clock
  | .rollback index code clock =>
    state.forRequest index fun request => state.rollback index request code clock

/-! ### The conditions -/

/-- Every request ends within a quarter of an hour of its reservation. -/
def Timely (state : CapacityState) (op : CapacityOp) : Prop :=
  ∀ request ∈ state.requests, request.phase ≠ .ended → op.clock < request.startedAt + quarterHour

/-- A claim that reopens a rolled-back operation is made while there is room, and the workspace id of a
claim does not look like a reservation. -/
def ReopensWithinCapacity (state : CapacityState) : CapacityOp → Prop
  | .claim index input _ =>
    startsWith input.identifiers.workspaceId "reservation:" = false ∧
      ∀ request ∈ state.requests[index]?,
        ∀ row ∈ state.db.operations.find? request.idempotencyKey, row.status = .rolledBack →
          (state.db.activeWorkspaces baselineWorkspaceIds).length < maxActiveWorkspaces
  | _ => True

instance (state : CapacityState) (op : CapacityOp) : Decidable (Timely state op) :=
  inferInstanceAs (Decidable (∀ request ∈ state.requests, _ → _))

instance (state : CapacityState) (op : CapacityOp) :
    Decidable (ReopensWithinCapacity maxActiveWorkspaces baselineWorkspaceIds state op) := by
  cases op with
  | claim index input _ =>
    exact inferInstanceAs (Decidable (_ ∧ ∀ request ∈ state.requests[index]?,
      ∀ row ∈ state.db.operations.find? request.idempotencyKey, _ → _))
  | _ => exact isTrue trivial

/-! ### What is counted -/

/-- The slot of a reservation among the active workspaces. -/
def slot (idempotencyKey : String) : String := "reservation:" ++ idempotencyKey

theorem slot_injective {first second : String} (same : slot first = slot second) : first = second :=
  String.append_right_inj _ |>.mp same

variable {maxActiveWorkspaces} {baselineWorkspaceIds} {db after : Db}

theorem mem_activeWorkspaces {id : String} :
    id ∈ db.activeWorkspaces baselineWorkspaceIds ↔
      (∃ row ∈ db.operations, row.status = .completed ∧ row.identifiers.workspaceId = id) ∨
        id ∈ baselineWorkspaceIds ∨
        ∃ row ∈ db.reservations, db.counts row = true ∧ slot row.idempotencyKey = id := by
  simp only [Db.activeWorkspaces, Db.completedWorkspaceIds, List.mem_dedup, List.mem_append,
    List.mem_map, List.mem_filter, decide_eq_true_eq, or_assoc, and_assoc, slot, Table.mem_def]

/-- What is counted lies in a list: there is no more of it than the list is long. -/
theorem activeWorkspaces_le {names : List String}
    (subset : db.activeWorkspaces baselineWorkspaceIds ⊆ names) :
    (db.activeWorkspaces baselineWorkspaceIds).length ≤ names.length :=
  (List.subperm_of_subset (List.nodup_dedup _) subset).length_le

/-- The completed workspaces and the baseline, each once. -/
def Db.liveWorkspaces (db : Db) (baselineWorkspaceIds : List String) : List String :=
  (db.completedWorkspaceIds ++ baselineWorkspaceIds).dedup

theorem liveWorkspaces_le :
    (db.liveWorkspaces baselineWorkspaceIds).length ≤
      (db.activeWorkspaces baselineWorkspaceIds).length := by
  refine (List.subperm_of_subset (List.nodup_dedup _) fun id member => ?_).length_le
  simp only [Db.activeWorkspaces, List.mem_dedup, List.mem_append] at member ⊢
  exact .inl member

/-- What is counted after an operation was put: it itself, as a workspace or by its reservation, or what
was counted before by something else. -/
theorem mem_activeWorkspaces_put {new : OperationRow} {id : String}
    (member : id ∈ (db.putOperation new).activeWorkspaces baselineWorkspaceIds) :
    (new.status = .completed ∧ id = new.identifiers.workspaceId) ∨
      (new.status = .inProgress ∧ id = slot new.idempotencyKey) ∨
      (id ∈ db.activeWorkspaces baselineWorkspaceIds ∧
        (id = slot new.idempotencyKey → id ∈ baselineWorkspaceIds ∨
          ∃ row ∈ db.operations, row.identifiers.workspaceId = id)) := by
  rw [mem_activeWorkspaces] at member
  rcases member with ⟨row, stored, completed, same⟩ | baseline | ⟨row, stored, counted, same⟩
  · rcases Table.mem_put.mp stored with rfl | ⟨stored, _⟩
    · exact .inl ⟨completed, same.symm⟩
    · exact .inr (.inr ⟨mem_activeWorkspaces.mpr (.inl ⟨row, stored, completed, same⟩),
        fun _ => .inr ⟨row, stored, same⟩⟩)
  · exact .inr (.inr ⟨mem_activeWorkspaces.mpr (.inr (.inl baseline)), fun _ => .inl baseline⟩)
  · unfold Db.counts at counted
    rw [find?_putOperation] at counted
    by_cases here : row.idempotencyKey = new.idempotencyKey
    · rw [if_pos here, Option.all_some, decide_eq_true_eq] at counted
      exact .inr (.inl ⟨counted, by rw [← same, here]⟩)
    · rw [if_neg here] at counted
      refine .inr (.inr ⟨mem_activeWorkspaces.mpr (.inr (.inr ⟨row, stored, counted, same⟩)), ?_⟩)
      exact fun other => absurd (slot_injective (same.trans other)) here

/-! ### The invariant of the tables -/

variable (maxActiveWorkspaces) (baselineWorkspaceIds)

/-- What is counted fits, no workspace is named like a reservation, and every operation in progress has
a reservation. -/
structure Counted (db : Db) : Prop where
  fits : (db.activeWorkspaces baselineWorkspaceIds).length ≤ maxActiveWorkspaces
  named : ∀ row ∈ db.operations, startsWith row.identifiers.workspaceId "reservation:" = false
  running : ∀ row ∈ db.operations, row.status = .inProgress →
    (db.reservations.find? row.idempotencyKey).isSome = true

variable {maxActiveWorkspaces} {baselineWorkspaceIds}

namespace Counted

/-- A reservation whose operation is missing or in progress is counted. -/
theorem slot_mem {key : String} (reserved : (db.reservations.find? key).isSome = true)
    (open' : ∀ row ∈ db.operations.find? key, row.status = .inProgress) :
    slot key ∈ db.activeWorkspaces baselineWorkspaceIds := by
  obtain ⟨reservation, found⟩ := Option.isSome_iff_exists.mp reserved
  obtain ⟨stored, keyed⟩ := Table.find?_eq_some.mp found
  have same : reservation.idempotencyKey = key := keyed
  refine mem_activeWorkspaces.mpr (.inr (.inr ⟨reservation, stored, ?_, by rw [same]⟩))
  unfold Db.counts
  rw [same, Option.all_eq_true]
  exact fun row there => decide_eq_true (open' row there)

/-- An operation is replaced by one whose workspace is named well and, if in progress, reserved. -/
theorem put (counted : Counted maxActiveWorkspaces baselineWorkspaceIds db) {new : OperationRow}
    (fits : ((db.putOperation new).activeWorkspaces baselineWorkspaceIds).length ≤
      maxActiveWorkspaces)
    (named : startsWith new.identifiers.workspaceId "reservation:" = false)
    (reserved : new.status = .inProgress →
      (db.reservations.find? new.idempotencyKey).isSome = true) :
    Counted maxActiveWorkspaces baselineWorkspaceIds (db.putOperation new) := by
  refine ⟨fits, fun row stored => ?_, fun row stored running => ?_⟩
  · rcases Table.mem_put.mp stored with rfl | ⟨stored, _⟩
    · exact named
    · exact counted.named row stored
  · rcases Table.mem_put.mp stored with rfl | ⟨stored, _⟩
    · exact reserved running
    · exact counted.running row stored running

/-- A claim takes no more room than its reservation, unless it reopens an operation while there is
room. -/
theorem claimed (counted : Counted maxActiveWorkspaces baselineWorkspaceIds db) {input : ClaimInput}
    {clock : ℤ} (claimed : Claimed input clock db after)
    (reserved : (db.reservations.find? input.idempotencyKey).isSome = true)
    (named : startsWith input.identifiers.workspaceId "reservation:" = false)
    (room : ∀ row ∈ db.operations.find? input.idempotencyKey, row.status = .rolledBack →
      (db.activeWorkspaces baselineWorkspaceIds).length < maxActiveWorkspaces) :
    Counted maxActiveWorkspaces baselineWorkspaceIds after := by
  -- An operation in progress under a counted slot adds nothing.
  have within : ∀ {new : OperationRow}, new.status = .inProgress →
      slot new.idempotencyKey ∈ db.activeWorkspaces baselineWorkspaceIds →
      ((db.putOperation new).activeWorkspaces baselineWorkspaceIds).length ≤ maxActiveWorkspaces := by
    intro new running there
    refine (activeWorkspaces_le fun id member => ?_).trans counted.fits
    rcases mem_activeWorkspaces_put member with ⟨completed, _⟩ | ⟨_, rfl⟩ | ⟨before, _⟩
    · exact absurd (completed.symm.trans running) nofun
    · exact there
    · exact before
  cases claimed with
  | first fresh =>
    have there : slot input.idempotencyKey ∈ db.activeWorkspaces baselineWorkspaceIds :=
      slot_mem reserved fun row found => absurd (fresh.symm.trans found) nofun
    exact counted.put (within rfl there) named fun _ => reserved
  | reopened row found _ status =>
    have keyed := key_of_operation found
    have reserved' : (db.reservations.find? row.idempotencyKey).isSome = true := by rwa [keyed]
    refine counted.put ?_ named fun _ => reserved'
    have one : ((db.putOperation (input.takes row)).activeWorkspaces baselineWorkspaceIds).length ≤
        (slot row.idempotencyKey :: db.activeWorkspaces baselineWorkspaceIds).length := by
      refine activeWorkspaces_le fun id member => ?_
      rcases mem_activeWorkspaces_put member with ⟨completed, _⟩ | ⟨_, same⟩ | ⟨before, _⟩
      · exact absurd completed nofun
      · exact List.mem_cons.mpr (.inl same)
      · exact List.mem_cons_of_mem _ before
    have free := room row found status
    rw [List.length_cons] at one
    omega
  | takenOver row found _ status =>
    have keyed := key_of_operation found
    have there : slot row.idempotencyKey ∈ db.activeWorkspaces baselineWorkspaceIds := by
      rw [keyed]
      refine slot_mem reserved fun other there => ?_
      obtain rfl := Option.some.inj (found.symm.trans there)
      exact status
    have reserved' : (db.reservations.find? row.idempotencyKey).isSome = true := by rwa [keyed]
    have emptied : Counted maxActiveWorkspaces baselineWorkspaceIds
        (db.withoutWorkspace row.identifiers.workspaceId) := ⟨counted.fits, counted.named, counted.running⟩
    exact emptied.put (within rfl there) named fun _ => reserved'

/-- A completed operation gives its slot to its workspace. -/
theorem completed (counted : Counted maxActiveWorkspaces baselineWorkspaceIds db)
    (baseline : ∀ id ∈ baselineWorkspaceIds, startsWith id "reservation:" = false)
    {key : String} {row : OperationRow} (found : db.operations.find? key = some row)
    (running : row.status = .inProgress) (result : CustomerWorkspaceResult) (clock : ℤ) :
    Counted maxActiveWorkspaces baselineWorkspaceIds (db.putOperation (row.finished result clock)) := by
  have stored := Table.mem_of_find? found
  have named := counted.named row stored
  refine counted.put ?_ named nofun
  have here : slot row.idempotencyKey ∈ db.activeWorkspaces baselineWorkspaceIds := by
    refine slot_mem (counted.running row stored running) fun other there => ?_
    obtain rfl := Table.eq_of_key stored (Table.mem_of_find? there) (Table.key_of_find? there).symm
    exact running
  have exchanged : ((db.putOperation (row.finished result clock)).activeWorkspaces
      baselineWorkspaceIds).length ≤ (row.identifiers.workspaceId ::
        (db.activeWorkspaces baselineWorkspaceIds).erase (slot row.idempotencyKey)).length := by
    refine activeWorkspaces_le fun id member => ?_
    rcases mem_activeWorkspaces_put member with ⟨_, same⟩ | ⟨unfinished, _⟩ | ⟨before, elsewhere⟩
    · exact List.mem_cons.mpr (.inl same)
    · exact absurd unfinished nofun
    · refine List.mem_cons_of_mem _ ((List.mem_erase_of_ne fun same => ?_).mpr before)
      have prefixed : startsWith id "reservation:" = true := by
        rw [same]
        exact startsWith_append _ _
      rcases elsewhere same with inBaseline | ⟨other, there, rfl⟩
      · exact absurd (prefixed.symm.trans (baseline id inBaseline)) nofun
      · exact absurd (prefixed.symm.trans (counted.named other there)) nofun
  have positive := List.length_pos_of_mem here
  have fits := counted.fits
  rw [List.length_cons, List.length_erase_of_mem here] at exchanged
  omega

/-- A rolled-back operation leaves its slot. -/
theorem rolledBack (counted : Counted maxActiveWorkspaces baselineWorkspaceIds db)
    {key workspaceId : String} {row : OperationRow} (found : db.operations.find? key = some row)
    (code : String) (clock : ℤ) :
    Counted maxActiveWorkspaces baselineWorkspaceIds
      ((db.withoutWorkspace workspaceId).putOperation (row.abandoned .rolledBack code clock)) := by
  have emptied : Counted maxActiveWorkspaces baselineWorkspaceIds (db.withoutWorkspace workspaceId) :=
    ⟨counted.fits, counted.named, counted.running⟩
  refine emptied.put ((activeWorkspaces_le fun id member => ?_).trans counted.fits)
    (counted.named row (Table.mem_of_find? found)) nofun
  rcases mem_activeWorkspaces_put member with ⟨completed, _⟩ | ⟨running, _⟩ | ⟨before, _⟩
  · exact absurd completed nofun
  · exact absurd running nofun
  · exact before

end Counted

/-! ### The invariant of a run -/

variable (maxActiveWorkspaces) (baselineWorkspaceIds)

/-- What is counted fits, every request on its way to an operation has a reservation, and a reservation
has an operation or a request that is as old as itself. -/
structure Reserved (state : CapacityState) : Prop where
  counted : Counted maxActiveWorkspaces baselineWorkspaceIds state.db
  granted : ∀ request ∈ state.requests, request.phase = .reserved →
    (state.db.reservations.find? request.idempotencyKey).isSome = true
  kept : ∀ row ∈ state.db.reservations,
    (state.db.operations.find? row.idempotencyKey).isSome = true ∨
      ∃ (index : ℕ) (request : OnboardingRequest), state.requests[index]? = some request ∧
        request.phase = .reserved ∧ request.idempotencyKey = row.idempotencyKey ∧
        request.startedAt ≤ row.reservedAt

variable {maxActiveWorkspaces} {baselineWorkspaceIds} {state : CapacityState}

namespace Reserved

/-- A request goes on; if it was on its way to an operation, its key has one now. -/
theorem advance (reserved : Reserved maxActiveWorkspaces baselineWorkspaceIds state) {index : ℕ}
    {request : OnboardingRequest} (found : state.requests[index]? = some request)
    {phase : RequestPhase} (past : phase ≠ .reserved)
    (counted : Counted maxActiveWorkspaces baselineWorkspaceIds after)
    (same : after.reservations = state.db.reservations)
    (grows : ∀ key, (state.db.operations.find? key).isSome = true →
      (after.operations.find? key).isSome = true)
    (here : request.phase = .reserved →
      (after.operations.find? request.idempotencyKey).isSome = true) :
    Reserved maxActiveWorkspaces baselineWorkspaceIds (state.advance index request phase after) := by
  refine ⟨counted, fun other member running => ?_, fun row stored => ?_⟩
  · show (after.reservations.find? _).isSome = true
    rw [same]
    rcases List.mem_or_eq_of_mem_set member with old | rfl
    · exact reserved.granted other old running
    · exact absurd running past
  · change row ∈ after.reservations at stored
    rw [same] at stored
    rcases reserved.kept row stored with known | ⟨position, other, there, waiting, key, age⟩
    · exact .inl (grows _ known)
    · by_cases moved : index = position
      · subst moved
        obtain rfl := Option.some.inj (found.symm.trans there)
        exact .inl (key ▸ here waiting)
      · refine .inr ⟨position, other, ?_, waiting, key, age⟩
        show (state.requests.set index _)[position]? = _
        rw [List.getElem?_set_ne moved]
        exact there

/-- No reservation lapses while its request is under way. -/
theorem expireReservations (reserved : Reserved maxActiveWorkspaces baselineWorkspaceIds state)
    {clock : ℤ} (timely : ∀ request ∈ state.requests, request.phase ≠ .ended →
      clock < request.startedAt + quarterHour) :
    state.db.expireReservations clock = state.db := by
  have all : state.db.reservations.rows.filter (fun row =>
      !(row.reservedAt ≤ clock - quarterHour &&
        (state.db.operations.find? row.idempotencyKey).isNone)) = state.db.reservations.rows := by
    refine List.filter_eq_self.mpr fun row stored => ?_
    rw [Bool.not_eq_true', Bool.and_eq_false_iff]
    rcases reserved.kept row stored with known | ⟨index, request, found, waiting, _, age⟩
    · obtain ⟨operation, found⟩ := Option.isSome_iff_exists.mp known
      exact .inr (by rw [found]; rfl)
    · have live : request.phase ≠ .ended := by
        rw [waiting]
        exact nofun
      have recent := timely request (List.mem_of_getElem? found) live
      exact .inl (decide_eq_false (by omega))
  have same : state.db.reservations.filter (fun row =>
      !(row.reservedAt ≤ clock - quarterHour &&
        (state.db.operations.find? row.idempotencyKey).isNone)) = state.db.reservations :=
    Table.ext all
  unfold Db.expireReservations
  rw [same]

/-- A request that has a reservation, as old as its operation's or as the request itself. -/
theorem arrive (reserved : Reserved maxActiveWorkspaces baselineWorkspaceIds state)
    (idempotencyKey : String) (clock : ℤ) (counted : Counted maxActiveWorkspaces baselineWorkspaceIds db)
    (same : db.operations = state.db.operations)
    (here : (db.reservations.find? idempotencyKey).isSome = true)
    (grows : ∀ key, (state.db.reservations.find? key).isSome = true →
      (db.reservations.find? key).isSome = true)
    (stored : ∀ row ∈ db.reservations, row ∈ state.db.reservations ∨
      row = ⟨idempotencyKey, clock⟩) :
    Reserved maxActiveWorkspaces baselineWorkspaceIds
      (state.arrive idempotencyKey clock (true, db)) := by
  have appended : ∀ {index : ℕ} {request : OnboardingRequest}, state.requests[index]? = some request →
      (state.requests ++ [⟨idempotencyKey, clock, .reserved⟩])[index]? = some request := by
    intro index request found
    rw [List.getElem?_append_left (List.getElem?_eq_some_iff.mp found).1]
    exact found
  refine ⟨counted, fun request member waiting => ?_, fun row member => ?_⟩
  · rcases List.mem_append.mp member with old | new
    · exact grows _ (reserved.granted request old waiting)
    · obtain rfl := List.mem_singleton.mp new
      exact here
  · rcases stored row member with old | rfl
    · rcases reserved.kept row old with known | ⟨index, request, found, rest⟩
      · refine .inl ?_
        show (db.operations.find? _).isSome = true
        rwa [same]
      · exact .inr ⟨index, request, appended found, rest⟩
    · refine .inr ⟨state.requests.length, ⟨idempotencyKey, clock, .reserved⟩, ?_, rfl, rfl, le_refl _⟩
      show (state.requests ++ [_])[state.requests.length]? = _
      rw [List.getElem?_append_right (le_refl _), Nat.sub_self]
      rfl

/-- Another reservation is counted once, and fits while there is room. -/
theorem counted_reserve (counted : Counted maxActiveWorkspaces baselineWorkspaceIds db)
    (idempotencyKey : String) (clock : ℤ)
    (room : (db.activeWorkspaces baselineWorkspaceIds).length < maxActiveWorkspaces) :
    Counted maxActiveWorkspaces baselineWorkspaceIds
      { db with reservations := db.reservations.put ⟨idempotencyKey, clock⟩ } := by
  refine ⟨?_, counted.named, fun row stored running => ?_⟩
  · have within : (Db.activeWorkspaces
        { db with reservations := db.reservations.put ⟨idempotencyKey, clock⟩ }
        baselineWorkspaceIds).length ≤
        (slot idempotencyKey :: db.activeWorkspaces baselineWorkspaceIds).length := by
      refine activeWorkspaces_le ?_
      intro id member
      rcases mem_activeWorkspaces.mp member with completed | baseline | ⟨row, stored, counts, rfl⟩
      · exact List.mem_cons_of_mem _ (mem_activeWorkspaces.mpr (.inl completed))
      · exact List.mem_cons_of_mem _ (mem_activeWorkspaces.mpr (.inr (.inl baseline)))
      · rcases Table.mem_put.mp stored with rfl | ⟨stored, _⟩
        · exact List.mem_cons_self
        · exact List.mem_cons_of_mem _
            (mem_activeWorkspaces.mpr (.inr (.inr ⟨row, stored, counts, rfl⟩)))
    exact le_trans within room
  · have known := counted.running row stored running
    show ((db.reservations.put _).find? row.idempotencyKey).isSome = true
    rw [Table.find?_put]
    split
    · rfl
    · exact known

/-- A request that finds or gets a reservation, or is refused. -/
theorem reserve (reserved : Reserved maxActiveWorkspaces baselineWorkspaceIds state)
    (idempotencyKey : String) (clock : ℤ)
    (timely : Timely state (.reserve idempotencyKey clock)) :
    Reserved maxActiveWorkspaces baselineWorkspaceIds
      (capacityStep maxActiveWorkspaces baselineWorkspaceIds state
        (.reserve idempotencyKey clock)) := by
  change Reserved _ _ (state.arrive idempotencyKey clock
    ((state.db.expireReservations clock).reserve idempotencyKey _ _ clock))
  have unchanged : state.db.expireReservations clock = state.db := reserved.expireReservations timely
  rw [unchanged]
  unfold Db.reserve
  split
  · next existing =>
    exact reserved.arrive _ _ reserved.counted rfl existing (fun _ known => known)
      fun _ stored => .inl stored
  · split
    · exact ⟨reserved.counted, reserved.granted, reserved.kept⟩
    · next room =>
      refine reserved.arrive _ _ (counted_reserve reserved.counted _ _ (by omega)) rfl ?_ ?_ ?_
      · show ((state.db.reservations.put _).find? idempotencyKey).isSome = true
        rw [Table.find?_put]
        exact congrArg Option.isSome (if_pos rfl)
      · intro key known
        show ((state.db.reservations.put _).find? key).isSome = true
        rw [Table.find?_put]
        split
        · rfl
        · exact known
      · intro row stored
        rcases Table.mem_put.mp stored with new | ⟨old, _⟩
        · exact .inr new
        · exact .inl old

theorem forRequest (reserved : Reserved maxActiveWorkspaces baselineWorkspaceIds state) (index : ℕ)
    {act : OnboardingRequest → CapacityState}
    (acts : ∀ request, state.requests[index]? = some request →
      Reserved maxActiveWorkspaces baselineWorkspaceIds (act request)) :
    Reserved maxActiveWorkspaces baselineWorkspaceIds (state.forRequest index act) := by
  unfold CapacityState.forRequest
  cases found : state.requests[index]? with
  | none => exact reserved
  | some request => exact acts request found

/-- A claim of a request that was granted capacity. -/
theorem claim (reserved : Reserved maxActiveWorkspaces baselineWorkspaceIds state) {index : ℕ}
    {request : OnboardingRequest} (found : state.requests[index]? = some request)
    (input : ClaimInput) (clock : ℤ)
    (within : ReopensWithinCapacity maxActiveWorkspaces baselineWorkspaceIds state
      (.claim index input clock)) :
    Reserved maxActiveWorkspaces baselineWorkspaceIds (state.claim index request input clock) := by
  unfold CapacityState.claim
  split
  · next waiting =>
    have granted := reserved.granted request (List.mem_of_getElem? found) waiting
    cases claimed : Product.claim { input with idempotencyKey := request.idempotencyKey } clock
        state.db with
    | error _ =>
      -- A claim throws only over an operation that is there.
      have here : (state.db.operations.find? request.idempotencyKey).isSome = true := by
        cases there : state.db.operations.find? request.idempotencyKey with
        | some _ => rfl
        | none => simp [Product.claim, there] at claimed
      exact reserved.advance found (by simp) reserved.counted rfl (fun _ known => known) fun _ => here
    | ok answer =>
      obtain ⟨outcome, after⟩ := answer
      have past : (if outcome = .new then RequestPhase.claimed input.identifiers.workspaceId
          else .ended) ≠ .reserved := by
        split <;> simp
      rcases claim_cases claimed with ⟨_, taken⟩ | ⟨_, same, here⟩
      · obtain ⟨row, there, _⟩ := taken.find?_self
        have counted := reserved.counted.claimed taken granted within.1 (within.2 request found)
        refine reserved.advance found past counted ?_ (fun key known => ?_)
          fun _ => by rw [there]; rfl
        · cases taken <;> rfl
        · by_cases own : key = request.idempotencyKey
          · rw [own, there]
            rfl
          · rw [taken.find?_other own]
            exact known
      · subst same
        exact reserved.advance found past reserved.counted rfl (fun _ known => known) fun _ => here
  · exact reserved

/-- An operation put over another one leaves every key its operation. -/
theorem isSome_put (new : OperationRow) (key : String)
    (known : (db.operations.find? key).isSome = true) :
    ((db.putOperation new).operations.find? key).isSome = true := by
  rw [find?_putOperation]
  split
  · rfl
  · exact known

/-- A completion of a claimed operation. -/
theorem complete (reserved : Reserved maxActiveWorkspaces baselineWorkspaceIds state)
    (baseline : ∀ id ∈ baselineWorkspaceIds, startsWith id "reservation:" = false) {index : ℕ}
    {request : OnboardingRequest} (found : state.requests[index]? = some request)
    (result : CustomerWorkspaceResult) (clock : ℤ) :
    Reserved maxActiveWorkspaces baselineWorkspaceIds (state.complete index request result clock) := by
  unfold CapacityState.complete
  split
  · cases done : Product.complete request.idempotencyKey result clock state.db with
    | error _ => exact reserved
    | ok after =>
      obtain ⟨row, owned, rfl⟩ := complete_eq_ok.mp done
      obtain ⟨there, _, running⟩ := owned_eq_some.mp owned
      exact reserved.advance found nofun
        (reserved.counted.completed baseline there running result clock) rfl
        (isSome_put _) fun _ => isSome_put _ _ (by rw [there]; rfl)
  · exact reserved

/-- A rollback of a claimed operation. It fails once the operation was taken over. -/
theorem rollback (reserved : Reserved maxActiveWorkspaces baselineWorkspaceIds state) {index : ℕ}
    {request : OnboardingRequest} (found : state.requests[index]? = some request)
    (code : String) (clock : ℤ) :
    Reserved maxActiveWorkspaces baselineWorkspaceIds (state.rollback index request code clock) := by
  unfold CapacityState.rollback
  cases phase : request.phase with
  | reserved | ended => exact reserved
  | claimed workspaceId =>
    have started : request.phase = .reserved →
        (state.db.operations.find? request.idempotencyKey).isSome = true := by
      rw [phase]
      exact nofun
    change Reserved _ _ (state.advance index request .ended (state.db.committed _))
    cases done : Product.rollback request.idempotencyKey workspaceId code clock state.db with
    | error _ =>
      exact reserved.advance found nofun reserved.counted rfl (fun _ known => known) started
    | ok after =>
      obtain ⟨row, owned, rfl⟩ := rollback_eq_ok.mp done
      obtain ⟨there, _, _⟩ := owned_eq_some.mp owned
      have counted : Counted maxActiveWorkspaces baselineWorkspaceIds
          ((state.db.withoutWorkspace workspaceId).putOperation
            (row.abandoned .rolledBack code clock)) := reserved.counted.rolledBack there code clock
      exact reserved.advance found nofun counted rfl (isSome_put _)
        fun waiting => isSome_put _ _ (started waiting)

end Reserved

/-- Every call of a run within the conditions keeps the invariant. -/
theorem Reserved.step (baseline : ∀ id ∈ baselineWorkspaceIds, startsWith id "reservation:" = false)
    (reserved : Reserved maxActiveWorkspaces baselineWorkspaceIds state) (op : CapacityOp)
    (within : Timely state op ∧
      ReopensWithinCapacity maxActiveWorkspaces baselineWorkspaceIds state op) :
    Reserved maxActiveWorkspaces baselineWorkspaceIds
      (capacityStep maxActiveWorkspaces baselineWorkspaceIds state op) := by
  cases op with
  | reserve idempotencyKey clock => exact reserved.reserve idempotencyKey clock within.1
  | claim index input clock =>
    exact reserved.forRequest index fun _ found => reserved.claim found input clock within.2
  | complete index result clock =>
    exact reserved.forRequest index fun _ found => reserved.complete baseline found result clock
  | rollback index code clock =>
    exact reserved.forRequest index fun _ found => reserved.rollback found code clock

/-- **Beta capacity is never exceeded**, when each request ends within a quarter of an hour and no
rolled-back operation is reopened while the beta is full. -/
theorem capacity_bounded {ops : List CapacityOp}
    (fits : baselineWorkspaceIds.dedup.length ≤ maxActiveWorkspaces)
    (baseline : ∀ id ∈ baselineWorkspaceIds, startsWith id "reservation:" = false)
    (timely : Along (capacityStep maxActiveWorkspaces baselineWorkspaceIds) Timely .empty ops)
    (reopens : Along (capacityStep maxActiveWorkspaces baselineWorkspaceIds)
      (ReopensWithinCapacity maxActiveWorkspaces baselineWorkspaceIds) .empty ops) :
    ((run (capacityStep maxActiveWorkspaces baselineWorkspaceIds) .empty ops).db.liveWorkspaces
      baselineWorkspaceIds).length ≤ maxActiveWorkspaces := by
  have start : Reserved maxActiveWorkspaces baselineWorkspaceIds .empty :=
    { counted :=
        { fits := by
            show ([] ++ baselineWorkspaceIds ++ []).dedup.length ≤ _
            simpa using fits
          named := fun _ here => absurd here (Table.not_mem_empty _)
          running := fun _ here => absurd here (Table.not_mem_empty _) }
      granted := fun _ here => absurd here List.not_mem_nil
      kept := fun _ here => absurd here (Table.not_mem_empty _) }
  have holds := (timely.and reopens).invariant start fun _ op reserved within =>
    reserved.step baseline op within
  exact liveWorkspaces_le.trans holds.counted.fits

end Runs

/-! ### A beta with one place -/

namespace Sample

def capacityClaim (index : ℕ) (workspaceId : String) (clock : ℤ) : CapacityOp :=
  .claim index ⟨"", "fingerprint", "recovery-" ++ workspaceId,
    ⟨workspaceId, "account", "service", "agent", "inference", "policy", "mandate", "provider"⟩,
    some clock, some quarterHour⟩ clock

def workspaceResult (workspaceId : String) : CustomerWorkspaceResult :=
  ⟨workspaceId, "agent", "mandate", "policy", "provider", ⟨"service", none, "fuse_sk_", [], none⟩,
    ⟨"inference", none, "fuse_sk_", [], none⟩, none⟩

/-- A key is rolled back and retried while there is room. -/
def retriedInTime : List CapacityOp :=
  [.reserve "first" 0, capacityClaim 0 "workspace-1" 1, .rollback 0 "PROVIDER_UNAVAILABLE" 2,
    .reserve "first" 3, capacityClaim 1 "workspace-2" 4, .complete 1 (workspaceResult "workspace-2") 5,
    .reserve "second" 6]

/-- A key is rolled back, another one takes the place, and the first key is retried. -/
def retriedTooLate : List CapacityOp :=
  [.reserve "first" 0, capacityClaim 0 "workspace-1" 1, .rollback 0 "PROVIDER_UNAVAILABLE" 2,
    .reserve "second" 3, capacityClaim 1 "workspace-2" 4, .complete 1 (workspaceResult "workspace-2") 5,
    .reserve "first" 6, capacityClaim 2 "workspace-3" 7, .complete 2 (workspaceResult "workspace-3") 8]

end Sample

theorem capacity_bounded_retried :
    (([] : List String).dedup.length ≤ 1 ∧
      Along (capacityStep 1 []) Timely .empty Sample.retriedInTime ∧
      Along (capacityStep 1 []) (ReopensWithinCapacity 1 []) .empty Sample.retriedInTime) ∧
      ((run (capacityStep 1 []) .empty Sample.retriedInTime).db.liveWorkspaces []).length ≤ 1 :=
  ⟨by decide +kernel, capacity_bounded (by decide) (by simp) (by decide +kernel) (by decide +kernel)⟩

/-- Two workspaces in a beta with one place. -/
theorem capacity_exceeded :
    Along (capacityStep 1 []) Timely .empty Sample.retriedTooLate ∧
      ¬ ((run (capacityStep 1 []) .empty Sample.retriedTooLate).db.liveWorkspaces []).length ≤ 1 := by
  decide +kernel

end FuseControlPlane.Product
