/-
Sandbox runs (`product/sandboxRuns.ts`, `product/sandboxRunStore.ts`).

* `newRun`: the run of an id. A scout whose calls cost more and more is tripped, and a reviewer completes.
* `SandboxRunService`, `StoreKind`: the runs a service keeps, and a store that keeps runs for it.
* `run`, `runDurable`: a run is looked up by its id, and made if there is none.
* `newRun_ok`: **a run is made of every id**, and it has the workspace and the seed it is made for.

The members of a run and of its events that are the same in every run are left out.
-/

import FuseControlPlane.Core.Circuit
import FuseControlPlane.Core.Ledger
import FuseControlPlane.Core.LedgerConservation

set_option linter.unusedSectionVars false

namespace FuseControlPlane.Product

open Foundation Foundation.JavaScript Foundation.Method Core

/-! ### Data -/

inductive SandboxBranch
  | scout | reviewer
  deriving DecidableEq

inductive SandboxEventType
  | reserved | usageReconciled | accelerationDetected | branchTripped | allowanceReclaimed | siblingCompleted
  deriving DecidableEq

structure SandboxEvent where
  sequence : ℕ
  branchId : SandboxBranch
  type : SandboxEventType
  requestId : String
  amountAtomic : Option String
  circuitState : Option CircuitState
  reason : Option CircuitReason
  deriving DecidableEq

structure SandboxRun where
  runId : String
  workspaceId : String
  seed : String
  reclaimedAtomic : String
  actualCostAtomic : String
  events : List SandboxEvent
  rootSettledAtomic : String
  scoutSettledAtomic : String
  reviewerSettledAtomic : String
  deriving DecidableEq

/-- What a run is worked out with. -/
structure SandboxWork where
  ledger : FuseLedger
  scoutCircuit : BranchCircuit
  reviewerCircuit : BranchCircuit
  events : List SandboxEvent

/-! ### A run -/

def sandboxCircuitConfig : CircuitConfig := ⟨50000, 1⟩

def scoutCosts : List ℤ := [5000, 20000, 80000]

def reviewerCost : ℤ := 10000

def sandboxLedgerConfig (id : String) : LedgerConfig where
  mandateId := id ++ "_mandate"
  maximumSpendMicros := 300000
  children := ⟨[⟨"scout", 150000⟩, ⟨"reviewer", 100000⟩], by decide⟩

abbrev SandboxM (α : Type) := Method SandboxWork α

def onSandboxLedger {α : Type} (method : LedgerM α) : SandboxM α :=
  onPart SandboxWork.ledger (fun work ledger => { work with ledger }) method

def onScoutCircuit {α : Type} (method : Method BranchCircuit α) : SandboxM α :=
  onPart SandboxWork.scoutCircuit (fun work scoutCircuit => { work with scoutCircuit }) method

def onReviewerCircuit {α : Type} (method : Method BranchCircuit α) : SandboxM α :=
  onPart SandboxWork.reviewerCircuit (fun work reviewerCircuit => { work with reviewerCircuit }) method

/-- An event, numbered. -/
def event (branchId : SandboxBranch) (type : SandboxEventType) (requestId : String) (amountAtomic : Option String)
    (circuitState : Option CircuitState) (reason : Option CircuitReason) : SandboxM Unit :=
  modify fun work =>
    { work with
      events := work.events ++
        [⟨work.events.length + 1, branchId, type, requestId, amountAtomic, circuitState, reason⟩] }

/-- `amount(value)`; the `NaN` of a member that is inherited has a text as well. -/
def amountText : Option ℤ → String
  | some value => toString value
  | none => "NaN"

/-- A cost is reserved, evaluated and reconciled. -/
def spend (branchId : SandboxBranch) (childId requestId : String) (cost : ℤ)
    (evaluate : SandboxM CircuitResult) : SandboxM CircuitResult := do
  let _ ← onSandboxLedger (FuseLedger.reserve childId cost requestId)
  event branchId .reserved requestId (some (toString cost)) none none
  let circuit ← evaluate
  let _ ← onSandboxLedger (FuseLedger.reconcile requestId cost)
  return circuit

/-- The request id of a call of the scout. -/
def scoutRequest (id : String) (index : ℕ) : String := id ++ "_scout_" ++ toString (index + 1)

/-- A call of the scout, and whether it was the last one. -/
def scoutCall (id : String) (index : ℕ) (cost : ℤ) : SandboxM Bool := do
  let requestId := scoutRequest id index
  let circuit ← spend .scout "scout" requestId cost (onScoutCircuit (BranchCircuit.evaluate cost))
  event .scout .usageReconciled requestId (some (toString cost)) (some circuit.state) none
  if circuit.state = .elevated then
    event .scout .accelerationDetected requestId none (some circuit.state) (some .repeatedCostAcceleration)
  if circuit.state = .tripped then do
    event .scout .branchTripped requestId none (some circuit.state) (some circuit.reason)
    let reclaimed ← onSandboxLedger (FuseLedger.reclaimAvailable "scout")
    event .scout .allowanceReclaimed requestId (some (amountText reclaimed)) none none
    return true
  return false

/-- The calls of the scout, until it is tripped. -/
def scoutCalls (id : String) : ℕ → List ℤ → SandboxM Unit
  | _, [] => pure ()
  | index, cost :: rest => do
    if ← scoutCall id index cost then return ()
    scoutCalls id (index + 1) rest

def reviewerCall (id : String) : SandboxM Unit := do
  let requestId := id ++ "_reviewer_1"
  let _ ← spend .reviewer "reviewer" requestId reviewerCost (onReviewerCircuit (BranchCircuit.evaluate reviewerCost))
  let work ← get
  let reviewerState := work.reviewerCircuit.snapshot.state
  event .reviewer .usageReconciled requestId (some (toString reviewerCost)) (some reviewerState) none
  event .reviewer .siblingCompleted requestId (some (toString reviewerCost)) (some reviewerState) none

/-- What a child has settled. -/
def settledAtomic (ledger : FuseLedger) (childId : String) : String :=
  toString (((ledger.children.get childId).map Account.settledMicros).getD 0)

def newRun (id workspaceId seed : String) : Except String SandboxRun := do
  let ledger ← FuseLedger.new (sandboxLedgerConfig id)
  match (do scoutCalls id 0 scoutCosts; reviewerCall id : SandboxM Unit)
      ⟨ledger, .new sandboxCircuitConfig, .new sandboxCircuitConfig, []⟩ with
  | .error error _ => .error error
  | .ok _ work =>
    return {
      runId := id, workspaceId, seed
      reclaimedAtomic :=
        ((work.events.find? fun event => event.type = .allowanceReclaimed).bind SandboxEvent.amountAtomic).getD "0"
      actualCostAtomic := toString reviewerCost
      events := work.events
      rootSettledAtomic := toString work.ledger.root.settledMicros
      scoutSettledAtomic := settledAtomic work.ledger "scout"
      reviewerSettledAtomic := settledAtomic work.ledger "reviewer" }

/-! ### The service -/

section Service

variable [NodeCrypto]

def sandboxRunId (workspaceId seed : String) : String :=
  "sandbox_" ++ take 24 (NodeCrypto.sha256 (workspaceId ++ ":" ++ seed))

/-- `seed.trim() || "default"`. -/
def normalizedSeed (seed : String) : String := if isBlank seed then "default" else trim seed

/-- What `run` and `runDurable` check of a workspace and a seed. -/
def checkReference (workspaceId seed : String) : Except String Unit :=
  if isBlank workspaceId then .error "WORKSPACE_REQUIRED"
  else if 128 < JavaScript.length (trim workspaceId) ∨ 128 < JavaScript.length (normalizedSeed seed) then
    .error "INVALID_SANDBOX_REFERENCE"
  else .ok ()

structure SandboxRunService where
  runs : Record SandboxRun

/-- A run of a workspace and a seed that are checked and normalized. -/
def SandboxRunService.runNormalized (workspaceId seed : String) : Method SandboxRunService SandboxRun := do
  let service ← get
  match service.runs.get (sandboxRunId workspaceId seed) with
  | some existing => return existing
  | none => do
    let result ← fromExcept (newRun (sandboxRunId workspaceId seed) workspaceId seed)
    modify fun service => ⟨service.runs.set (sandboxRunId workspaceId seed) result⟩
    return result

def SandboxRunService.run (workspaceId seed : String) : Method SandboxRunService SandboxRun := do
  fromExcept (checkReference workspaceId seed)
  runNormalized (trim workspaceId) (normalizedSeed seed)

/-- Which store keeps the runs. Both give out a run of its own workspace only; in memory, a run is put over an
earlier one. -/
inductive StoreKind
  | memory | postgres
  deriving DecidableEq

/-- A service with the store that it is used with. -/
structure SandboxRuns where
  service : SandboxRunService
  stored : Record SandboxRun

def SandboxRuns.fetch (runs : SandboxRuns) (workspaceId runId : String) : Option SandboxRun :=
  (runs.stored.get runId).filter fun run => run.workspaceId = workspaceId

def SandboxRuns.put (kind : StoreKind) (run : SandboxRun) (runs : SandboxRuns) : SandboxRuns :=
  if kind = .postgres ∧ (runs.stored.get run.runId).isSome then runs
  else { runs with stored := runs.stored.set run.runId run }

def SandboxRuns.onService {α : Type} (method : Method SandboxRunService α) : Method SandboxRuns α :=
  onPart SandboxRuns.service (fun runs service => { runs with service }) method

/-- A run of a workspace and a seed that are checked and normalized, looked up in the store first. -/
def SandboxRuns.runNormalized (kind : StoreKind) (workspaceId seed : String) : Method SandboxRuns SandboxRun := do
  let runs ← get
  match runs.fetch workspaceId (sandboxRunId workspaceId seed) with
  | some existing => return existing
  | none => do
    let created ← onService (SandboxRunService.run workspaceId seed)
    modify (put kind created)
    return created

def SandboxRuns.runDurable (kind : StoreKind) (workspaceId seed : String) : Method SandboxRuns SandboxRun := do
  fromExcept (checkReference workspaceId seed)
  runNormalized kind (trim workspaceId) (normalizedSeed seed)

end Service

/-! ### A run is made of every id -/

section Making

variable {ledger : FuseLedger} {work : SandboxWork} {childId requestId : String} {child : Account} {cost : ℤ}

/-- A ledger without active reservations. -/
structure Settles (ledger : FuseLedger) (childId requestId : String) (child : Account) (cost : ℤ) : Prop where
  absent : ledger.reservations.find? requestId = none
  found : ledger.children.get childId = some child
  positive : 0 < cost
  inChild : cost ≤ child.available
  inRoot : cost ≤ ledger.root.available

/-- The ledger once a cost has been reserved and reconciled. -/
def settledIn (ledger : FuseLedger) (childId requestId : String) (child : Account) (cost : ℤ) : FuseLedger :=
  reconciledIn (reservedIn ledger childId child cost requestId) ⟨requestId, childId, cost, none, .reserved⟩
    { child with reservedMicros := child.reservedMicros + cost } cost

theorem reserve_ok (settles : Settles ledger childId requestId child cost) :
    FuseLedger.reserve childId cost requestId ledger =
      .ok ⟨requestId, childId, cost, none, .reserved⟩ (reservedIn ledger childId child cost requestId) := by
  have own := Record.property_eq_own.mpr settles.found
  unfold FuseLedger.reserve
  rw [get_bind, settles.absent]
  dsimp only
  rw [check_bind, if_pos (decide_eq_true settles.positive), own]
  dsimp only
  rw [check_bind, if_pos (decide_eq_true settles.inChild), check_bind, if_pos (decide_eq_true settles.inRoot)]
  rfl

theorem reconcile_ok (settles : Settles ledger childId requestId child cost) :
    FuseLedger.reconcile requestId cost (reservedIn ledger childId child cost requestId) =
      .ok ⟨requestId, childId, cost, some cost, .reconciled⟩ (settledIn ledger childId requestId child cost) := by
  have stored : (reservedIn ledger childId child cost requestId).reservations.find? requestId =
      some ⟨requestId, childId, cost, none, .reserved⟩ := Table.find?_put_self _ _
  have account : (reservedIn ledger childId child cost requestId).children.property childId =
      .own { child with reservedMicros := child.reservedMicros + cost } := by
    refine Record.property_eq_own.mpr ?_
    show (ledger.children.set childId _).get childId = _
    rw [Record.get_set, if_pos rfl]
  have within : (0 ≤ cost && cost ≤ cost : Bool) = true := by simpa using settles.positive.le
  unfold FuseLedger.reconcile
  rw [get_bind, stored]
  dsimp only
  rw [if_neg (by decide), check_bind, if_pos (decide_eq_true rfl), check_bind, if_pos within, account]
  unfold settledIn reconciledIn
  rw [← Record.set_set _ childId { child with reservedMicros := child.reservedMicros + cost - cost }]
  rfl

/-- What is left of the ledger after a cost is settled. -/
structure Settled (before after : FuseLedger) (childId requestId : String) (child : Account) (cost : ℤ) : Prop where
  root : after.root = { before.root with settledMicros := before.root.settledMicros + cost }
  child : after.children.get childId = some { child with settledMicros := child.settledMicros + cost }
  others : ∀ other, other ≠ childId → after.children.get other = before.children.get other
  absent : ∀ other, other ≠ requestId → after.reservations.find? other = before.reservations.find? other

theorem settled_settledIn : Settled ledger (settledIn ledger childId requestId child cost) childId requestId child cost := by
  refine ⟨?_, ?_, fun other different => ?_, fun other different => ?_⟩
  · show ({ ledger.root with
      reservedMicros := ledger.root.reservedMicros + cost - cost
      settledMicros := ledger.root.settledMicros + cost } : Account) = _
    rw [add_sub_cancel_right]
  · show ((ledger.children.set childId _).set childId _).get childId = _
    rw [Record.get_set, if_pos rfl]
    show some ({ child with
      reservedMicros := child.reservedMicros + cost - cost
      settledMicros := child.settledMicros + cost } : Account) = _
    rw [add_sub_cancel_right]
  · show ((ledger.children.set childId _).set childId _).get other = _
    rw [Record.get_set, if_neg different, Record.get_set, if_neg different]
  · show ((ledger.reservations.put _).put _).find? other = _
    rw [Table.find?_put_of_ne _ different, Table.find?_put_of_ne _ different]

theorem onSandboxLedger_ok {α : Type} {method : LedgerM α} {value : α} {after : FuseLedger}
    (returned : method work.ledger = .ok value after) :
    onSandboxLedger method work = .ok value { work with ledger := after } := onPart_ok returned

/-- What `spend` comes to. -/
theorem spend_ok {branchId : SandboxBranch} {evaluate : SandboxM CircuitResult} {circuit : CircuitResult}
    {evaluated : SandboxWork} (settles : Settles work.ledger childId requestId child cost)
    (evaluates : ∀ ledger events, evaluate { work with ledger, events } = .ok circuit { evaluated with ledger, events }) :
    ∃ events, spend branchId childId requestId cost evaluate work =
      .ok circuit { evaluated with ledger := settledIn work.ledger childId requestId child cost, events } := by
  have reserves : onSandboxLedger (FuseLedger.reserve childId cost requestId) work =
      .ok _ { work with ledger := reservedIn work.ledger childId child cost requestId } := onPart_ok (reserve_ok settles)
  refine ⟨work.events ++ [⟨work.events.length + 1, branchId, .reserved, requestId, some (toString cost), none, none⟩], ?_⟩
  unfold spend
  rw [bind_ok reserves]
  unfold event
  rw [modify_bind, bind_ok (evaluates _ _)]
  exact bind_ok (onPart_ok (reconcile_ok settles))

/-- A call that does not trip the circuit. -/
theorem scoutCall_ok {id : String} {index : ℕ} {circuit : CircuitResult} {after : BranchCircuit}
    (settles : Settles work.ledger "scout" (scoutRequest id index) child cost)
    (evaluated : BranchCircuit.evaluate cost work.scoutCircuit = .ok circuit after) (goesOn : circuit.state ≠ .tripped) :
    ∃ events, scoutCall id index cost work = .ok false
      { work with
        ledger := settledIn work.ledger "scout" (scoutRequest id index) child cost
        scoutCircuit := after
        events } := by
  obtain ⟨events, spent⟩ := @spend_ok work _ _ _ cost .scout (onScoutCircuit (BranchCircuit.evaluate cost)) circuit
    { work with scoutCircuit := after } settles fun ledger events => onPart_ok evaluated
  unfold scoutCall
  dsimp only
  rw [bind_ok spent]
  unfold event
  rw [modify_bind, if_neg goesOn]
  split
  · exact ⟨_, rfl⟩
  · exact ⟨_, rfl⟩

/-- The last call, after which the rest is reclaimed. -/
theorem scoutCall_last {id : String} {index : ℕ} {circuit : CircuitResult} {after : BranchCircuit}
    (settles : Settles work.ledger "scout" (scoutRequest id index) child cost)
    (evaluated : BranchCircuit.evaluate cost work.scoutCircuit = .ok circuit after) (trips : circuit.state = .tripped) :
    ∃ ledger events, scoutCall id index cost work = .ok true { work with ledger, scoutCircuit := after, events } ∧
      ledger.root = (settledIn work.ledger "scout" (scoutRequest id index) child cost).root ∧
      ledger.reservations = (settledIn work.ledger "scout" (scoutRequest id index) child cost).reservations ∧
      ledger.children.get "reviewer" =
        (settledIn work.ledger "scout" (scoutRequest id index) child cost).children.get "reviewer" := by
  obtain ⟨events, spent⟩ := @spend_ok work _ _ _ cost .scout (onScoutCircuit (BranchCircuit.evaluate cost)) circuit
    { work with scoutCircuit := after } settles fun ledger events => onPart_ok evaluated
  have own := Record.property_eq_own.mpr (@settled_settledIn work.ledger "scout" (scoutRequest id index) child cost).child
  have reclaims : FuseLedger.reclaimAvailable "scout" (settledIn work.ledger "scout" (scoutRequest id index) child cost) =
      .ok (some { child with settledMicros := child.settledMicros + cost }.available)
        { settledIn work.ledger "scout" (scoutRequest id index) child cost with
          children := (settledIn work.ledger "scout" (scoutRequest id index) child cost).children.set "scout"
            { child with settledMicros := child.settledMicros + cost }.reclaim } := by
    unfold FuseLedger.reclaimAvailable
    rw [get_bind, own]
    rfl
  unfold scoutCall
  dsimp only
  rw [bind_ok spent]
  unfold event
  have calm : circuit.state ≠ .elevated := by
    rw [trips]
    exact nofun
  rw [modify_bind, if_neg calm, if_pos trips, modify_bind, bind_ok (onSandboxLedger_ok reclaims)]
  refine ⟨_, _, rfl, rfl, rfl, ?_⟩
  exact (Record.get_set _ _ _ _).trans (if_neg (by decide))

theorem scoutCalls_next {id : String} {index : ℕ} {rest : List ℤ} {next : SandboxWork}
    (called : scoutCall id index cost work = .ok false next) :
    scoutCalls id index (cost :: rest) work = scoutCalls id (index + 1) rest next := by
  rw [scoutCalls, bind_ok called]
  rfl

theorem scoutCalls_last {id : String} {index : ℕ} {rest : List ℤ} {next : SandboxWork}
    (called : scoutCall id index cost work = .ok true next) : scoutCalls id index (cost :: rest) work = .ok () next := by
  rw [scoutCalls, bind_ok called]
  rfl

theorem scoutRequest_eq (id : String) (index : ℕ) : scoutRequest id index = id ++ ("_scout_" ++ toString (index + 1)) :=
  String.append_assoc

/-- The ledger of a sandbox whose scout has settled so much, and to which some requests are new. -/
structure AtScout (ledger : FuseLedger) (settled : ℤ) (requests : List String) : Prop where
  root : ledger.root = ⟨300000, 0, settled⟩
  scout : ledger.children.get "scout" = some ⟨150000, 0, settled⟩
  reviewer : ledger.children.get "reviewer" = some ⟨100000, 0, 0⟩
  absent : ∀ requestId ∈ requests, ledger.reservations.find? requestId = none

theorem AtScout.step {settled : ℤ} {requests : List String} (here : AtScout ledger settled (requestId :: requests))
    (distinct : (requestId :: requests).Nodup) (positive : 0 < cost) (within : settled + cost ≤ 150000) :
    Settles ledger "scout" requestId ⟨150000, 0, settled⟩ cost ∧
      AtScout (settledIn ledger "scout" requestId ⟨150000, 0, settled⟩ cost) (settled + cost) requests := by
  have after := @settled_settledIn ledger "scout" requestId ⟨150000, 0, settled⟩ cost
  refine ⟨⟨here.absent _ List.mem_cons_self, here.scout, positive, ?_, ?_⟩, ?_, after.child, ?_, fun other later => ?_⟩
  · show cost ≤ 150000 - 0 - settled
    omega
  · rw [here.root]
    show cost ≤ 300000 - 0 - settled
    omega
  · rw [after.root, here.root]
  · rw [after.others _ (by decide), here.reviewer]
  · rw [after.absent other (fun same => (List.nodup_cons.mp distinct).1 (same ▸ later)),
      here.absent other (List.mem_cons_of_mem _ later)]

/-- The requests of a run. -/
def requestsOf (id : String) : List String :=
  [scoutRequest id 0, scoutRequest id 1, scoutRequest id 2, id ++ "_reviewer_1"]

theorem requestsOf_nodup (id : String) : (requestsOf id).Nodup := by
  have shape : requestsOf id = ["_scout_1", "_scout_2", "_scout_3", "_reviewer_1"].map (id ++ ·) := by
    show [scoutRequest id 0, scoutRequest id 1, scoutRequest id 2, _] = _
    rw [scoutRequest_eq, scoutRequest_eq, scoutRequest_eq]
    rfl
  rw [shape]
  refine List.Nodup.map (fun first second same => ?_) (by decide)
  exact (String.append_right_inj id).mp same

/-- A call that does not trip the circuit settles its cost. -/
theorem scoutCall_step {id : String} {index : ℕ} {settled : ℤ} {requests : List String} {circuit : CircuitResult}
    {after : BranchCircuit} (here : AtScout work.ledger settled (scoutRequest id index :: requests))
    (distinct : (scoutRequest id index :: requests).Nodup) (positive : 0 < cost) (within : settled + cost ≤ 150000)
    (evaluated : BranchCircuit.evaluate cost work.scoutCircuit = .ok circuit after) (goesOn : circuit.state ≠ .tripped) :
    ∃ next, scoutCall id index cost work = .ok false next ∧ AtScout next.ledger (settled + cost) requests ∧
      next.scoutCircuit = after ∧ next.reviewerCircuit = work.reviewerCircuit := by
  obtain ⟨settles, later⟩ := here.step distinct positive within
  obtain ⟨events, called⟩ := scoutCall_ok settles evaluated goesOn
  exact ⟨_, called, later, rfl, rfl⟩

/-- The calls of the scout settle three costs. The first is only remembered, the second is four times as much, and
the third is above the ceiling. -/
theorem scoutCalls_ok {id : String} (here : AtScout work.ledger 0 (requestsOf id))
    (circuit : work.scoutCircuit = .new sandboxCircuitConfig) :
    ∃ after, scoutCalls id 0 scoutCosts work = .ok () after ∧ after.reviewerCircuit = work.reviewerCircuit ∧
      Settles after.ledger "reviewer" (id ++ "_reviewer_1") ⟨100000, 0, 0⟩ reviewerCost := by
  have distinct := requestsOf_nodup id
  have later := (List.nodup_cons.mp distinct).2
  have last := (List.nodup_cons.mp later).2
  have healthy : BranchCircuit.evaluate 5000 work.scoutCircuit = .ok ⟨.healthy, .allow, .allow, 5000, some 5000, 0⟩
      ⟨⟨.healthy, 0, some 5000⟩, sandboxCircuitConfig⟩ := by
    rw [circuit]
    rfl
  obtain ⟨first, calledFirst, one, afterFirst, reviewerFirst⟩ :=
    scoutCall_step here distinct (by decide) (by decide) healthy CircuitState.noConfusion
  have elevated : BranchCircuit.evaluate 20000 first.scoutCircuit =
      .ok ⟨.elevated, .allow, .allow, 20000, some 5000, 1⟩ ⟨⟨.elevated, 1, some 20000⟩, sandboxCircuitConfig⟩ := by
    rw [afterFirst]
    rfl
  obtain ⟨second, calledSecond, two, afterSecond, reviewerSecond⟩ :=
    scoutCall_step one later (by decide) (by decide) elevated CircuitState.noConfusion
  have tripped : BranchCircuit.evaluate 80000 second.scoutCircuit =
      .ok ⟨.tripped, .trip, .absoluteCallLimit, 80000, some 20000, 1⟩
        ⟨⟨.tripped, 1, some 20000⟩, sandboxCircuitConfig⟩ := by
    rw [afterSecond]
    rfl
  obtain ⟨settles, three⟩ := two.step last (by decide : (0 : ℤ) < 80000) (by decide)
  obtain ⟨ledger, events, calledThird, root, reservations, reviewer⟩ := scoutCall_last settles tripped rfl
  refine ⟨_, (scoutCalls_next calledFirst).trans ((scoutCalls_next calledSecond).trans (scoutCalls_last calledThird)),
    reviewerSecond.trans reviewerFirst, ⟨?_, ?_, by decide, by decide, ?_⟩⟩
  · show ledger.reservations.find? _ = none
    rw [reservations]
    exact three.absent _ (List.mem_singleton_self _)
  · exact reviewer.trans three.reviewer
  · show reviewerCost ≤ ledger.root.available
    rw [root, three.root]
    decide

theorem reviewerCall_ok {id : String} (settles : Settles work.ledger "reviewer" (id ++ "_reviewer_1") ⟨100000, 0, 0⟩ reviewerCost)
    (circuit : work.reviewerCircuit = .new sandboxCircuitConfig) : ∃ after, reviewerCall id work = .ok () after := by
  have evaluated : BranchCircuit.evaluate reviewerCost work.reviewerCircuit =
      .ok ⟨.healthy, .allow, .allow, reviewerCost, some reviewerCost, 0⟩
        ⟨⟨.healthy, 0, some reviewerCost⟩, sandboxCircuitConfig⟩ := by
    rw [circuit]
    rfl
  obtain ⟨events, spent⟩ := @spend_ok work _ _ _ reviewerCost .reviewer
    (onReviewerCircuit (BranchCircuit.evaluate reviewerCost)) _
    { work with reviewerCircuit := ⟨⟨.healthy, 0, some reviewerCost⟩, sandboxCircuitConfig⟩ } settles
    fun ledger events => onPart_ok evaluated
  unfold reviewerCall
  dsimp only
  rw [bind_ok spent]
  exact ⟨_, rfl⟩

/-- **A run is made of every id**, with the workspace and the seed it is made for. -/
theorem newRun_ok (id workspaceId seed : String) : ∃ run, newRun id workspaceId seed = .ok run ∧ run.runId = id ∧
    run.workspaceId = workspaceId ∧ run.seed = seed := by
  obtain ⟨ledger, built, root, scout, reviewer, fresh⟩ : ∃ ledger, FuseLedger.new (sandboxLedgerConfig id) = .ok ledger ∧
      ledger.root = ⟨300000, 0, 0⟩ ∧ ledger.children.get "scout" = some ⟨150000, 0, 0⟩ ∧
      ledger.children.get "reviewer" = some ⟨100000, 0, 0⟩ ∧ ledger.reservations = .empty :=
    ⟨_, rfl, rfl, rfl, rfl, rfl⟩
  obtain ⟨middle, called, circuit, settles⟩ := @scoutCalls_ok
    ⟨ledger, .new sandboxCircuitConfig, .new sandboxCircuitConfig, []⟩ id
    ⟨root, scout, reviewer, fun requestId _ => by rw [show _ = Table.empty from fresh]; rfl⟩ rfl
  obtain ⟨work, completed⟩ := reviewerCall_ok settles circuit
  have both : (do scoutCalls id 0 scoutCosts; reviewerCall id : SandboxM Unit)
      ⟨ledger, .new sandboxCircuitConfig, .new sandboxCircuitConfig, []⟩ = .ok () work := (bind_ok called).trans completed
  unfold newRun
  rw [built]
  show ∃ run, (match (do scoutCalls id 0 scoutCosts; reviewerCall id : SandboxM Unit)
      ⟨ledger, .new sandboxCircuitConfig, .new sandboxCircuitConfig, []⟩ with
    | .error error _ => .error error
    | .ok _ work => _ : Except String SandboxRun) = .ok run ∧ _
  rw [both]
  exact ⟨_, rfl, rfl, rfl, rfl⟩

end Making

/-! ### What a service gives -/

/-- A text that is trimmed already. -/
theorem trimFront_eq {characters : List Char} (shown : ∀ first rest, characters = first :: rest → isWhiteSpace first = false) :
    trimFront characters = characters := by
  cases characters with
  | nil => rfl
  | cons first rest =>
    unfold trimFront
    rw [List.dropWhile_cons, shown first rest rfl]
    rfl

theorem trimFront_shown {characters : List Char} {first : Char} {rest : List Char}
    (trimmed : trimFront characters = first :: rest) : isWhiteSpace first = false := by
  induction characters with
  | nil => cases trimmed
  | cons head tail ih =>
    unfold trimFront at trimmed
    rw [List.dropWhile_cons] at trimmed
    cases white : isWhiteSpace head with
    | true =>
      rw [white] at trimmed
      exact ih trimmed
    | false =>
      rw [white] at trimmed
      cases trimmed
      exact white

theorem trim_trim (text : String) : trim (trim text) = trim text := by
  unfold trim
  rw [String.toList_ofList]
  have front : trimFront (trimFront (trimFront text.toList).reverse).reverse =
      (trimFront (trimFront text.toList).reverse).reverse := by
    refine trimFront_eq fun first rest shape => ?_
    -- The first character is that of the text without the white space in front.
    obtain ⟨dropped, split⟩ : ∃ dropped, dropped ++ trimFront (trimFront text.toList).reverse =
        (trimFront text.toList).reverse :=
      ⟨(trimFront text.toList).reverse.takeWhile isWhiteSpace, List.takeWhile_append_dropWhile⟩
    have whole : trimFront text.toList = first :: (rest ++ dropped.reverse) := by
      have turned := congrArg List.reverse split
      rw [List.reverse_append, List.reverse_reverse, shape] at turned
      exact turned.symm
    exact trimFront_shown whole
  rw [front, List.reverse_reverse]
  have back : trimFront (trimFront (trimFront text.toList).reverse) = trimFront (trimFront text.toList).reverse :=
    trimFront_eq fun first rest shape => trimFront_shown shape
  rw [back]

theorem isBlank_trim (text : String) : isBlank (trim text) = isBlank text := by
  unfold isBlank
  rw [trim_trim]

theorem normalizedSeed_normalizedSeed (seed : String) : normalizedSeed (normalizedSeed seed) = normalizedSeed seed := by
  unfold normalizedSeed
  split
  · decide
  · next visible => rw [isBlank_trim, if_neg visible, trim_trim]

theorem checkReference_normalized (workspaceId seed : String) :
    checkReference (trim workspaceId) (normalizedSeed seed) = checkReference workspaceId seed := by
  unfold checkReference
  rw [isBlank_trim, trim_trim, normalizedSeed_normalizedSeed]

end FuseControlPlane.Product
