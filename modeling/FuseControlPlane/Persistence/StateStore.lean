/-
The state of the demo service in memory (`MemoryStateStore` of `persistence/store.ts`).

* `Mutation`, `mutateService`: what the application does with a service that is read from a state.
* `MemoryStateStore`: a state is copied for every call and written back whole, without a lock.
* `IsBacked`: every completion has its reservation, and every released one is settled.
* `memory_store_serializable`: calls that do not write over each other **lose no update**.
* `not_memory_store_serializable`: of two calls that overlap, the reservation of the first is lost.

That a state is serialised to be copied is left out: its data are what it is read back as.
-/

import FuseControlPlane.Core.ProviderCalls
import FuseControlPlane.Foundation.WriteBack

set_option linter.unusedSectionVars false

namespace FuseControlPlane.Persistence

open Foundation Foundation.Method Foundation.WriteBack Core Core.FuseService

/-! ### Mutations -/

/-- What a call does with the service. A provider answers it once at most. -/
inductive Mutation
  | prepareCompletion (request : CompletionRequest) (outcome : Except String ProviderResult)
  | releasePaidCompletion (requestId : String) (payment : Payment)

inductive MutationResult
  | quoted (quote : PaymentRequired)
  | released (completion : ReleasedCompletion)
  deriving DecidableEq

def Mutation.perform : Mutation → Method FuseService MutationResult
  | .prepareCompletion request answer => .quoted <$> FuseService.prepareCompletion request answer
  | .releasePaidCompletion requestId payment =>
    .released <$> FuseService.releasePaidCompletion requestId payment

/-- A service that a method has left, as data. -/
def exported {α : Type} : EStateM.Result String FuseService α → Except String (FuseServiceState × α)
  | .ok result after => .ok (after.exportState, result)
  | .error error _ => .error error

/-- The operation that `mutateService` runs on a copy of the state. -/
def mutateService (mutation : Mutation) (state : FuseServiceState) :
    Except String (FuseServiceState × MutationResult) := do
  let service ← FuseService.fromState state
  exported (mutation.perform service)

def initialState (payerWallet : Option String) (price : Option TokenPrice) : Except String FuseServiceState :=
  (createDemo payerWallet price).map exportState

/-- The receipts of the completions that have been released. -/
def releasedReceipts (state : FuseServiceState) : List Receipt :=
  state.pending.filterMap fun entry => entry.2.released.map ReleasedCompletion.receipt

/-! ### The store -/

structure MemoryStateStore where
  state : Option FuseServiceState

namespace MemoryStateStore

/-- `this.state ??= initial()`, and a copy of it. -/
def read (initial : FuseServiceState) (store : MemoryStateStore) : MemoryStateStore × FuseServiceState :=
  (⟨some (store.state.getD initial)⟩, store.state.getD initial)

def write (_ : MemoryStateStore) (state : FuseServiceState) : MemoryStateStore := ⟨some state⟩

def listReceipts (store : MemoryStateStore) : List Receipt := (store.state.map releasedReceipts).getD []

/-- `mutate` reads, runs its operation on the copy, and writes what the operation completes with. -/
def copyStore (initial : FuseServiceState) : CopyStore MemoryStateStore FuseServiceState where
  read := read initial
  write := write
  read_read _ := rfl
  read_write _ _ := rfl

end MemoryStateStore

abbrev MemoryRun := Running MemoryStateStore FuseServiceState Mutation String MutationResult

/-- A `mutate` begins, or its operation completes. -/
abbrev mutateStep (initial : FuseServiceState) : MemoryRun → Event Mutation → MemoryRun :=
  Running.writeBackStep (MemoryStateStore.copyStore initial) mutateService

abbrev emptyStore : MemoryRun := start ⟨none⟩

/-- A call that completes has read the state that is still there. -/
abbrev WritesOverNothing (initial : FuseServiceState) : MemoryRun → Event Mutation → Prop :=
  Running.Undisturbed (MemoryStateStore.copyStore initial) mutateService

/-- What a call has reported is in a ledger: a reservation, or a settlement with the cost of the receipt. -/
def ReportedIn (reservations : List Reservation) : Mutation → MutationResult → Prop
  | .prepareCompletion request _, _ =>
    ∃ reservation ∈ reservations, reservation.requestId = request.requestId
  | .releasePaidCompletion requestId _, .released completion =>
    ∃ reservation ∈ reservations, reservation.requestId = requestId ∧ reservation.status = .reconciled ∧
      ∃ exactCostMicros, reservation.actualMicros = some exactCostMicros ∧
        completion.receipt.costUsdc = microsToUsdc exactCostMicros
  | .releasePaidCompletion _ _, .quoted _ => False

/-- No update is lost. -/
structure LosesNothing (initial : FuseServiceState) (run : MemoryRun) : Prop where
  serializable : Serializable (MemoryStateStore.copyStore initial) mutateService initial run
  reported : ∀ mutation result, (mutation, .ok result) ∈ run.returned →
    ReportedIn (run.kept.read initial).2.ledger.reservations mutation result

/-! ### A service and its state -/

section Laws

variable {service copy after : FuseService}

/-- Entries that are set one after the other. -/
theorem setAll_rows (pending : Record Pending) :
    setAll .empty (pending.rows.map fun entry => (entry.name, entry.value)) = pending := by
  unfold setAll
  rw [List.foldl_map]
  exact Table.foldl_put_empty pending

/-- What is read back of a service has its reservations and its completions. -/
theorem fromState_exportState (read : FuseService.fromState service.exportState = .ok copy) :
    copy.ledger.reservations = service.ledger.reservations ∧ copy.pending = service.pending ∧
      copy.payerWallet = service.payerWallet := by
  unfold FuseService.fromState FuseLedger.fromState at read
  cases built : FuseLedger.new
    { mandateId := service.exportState.ledger.mandateId
      maximumSpendMicros := service.exportState.ledger.root.authorizedMicros
      children := service.exportState.ledger.children.mapValues Account.authorizedMicros } with
  | error error =>
    rw [built] at read
    cases read
  | ok ledger =>
    rw [built] at read
    cases read
    have fresh : ledger.reservations = .empty := by
      unfold FuseLedger.new at built
      split at built
      · cases built
      · split at built
        · cases built
        · cases built
          rfl
    refine ⟨?_, setAll_rows service.pending, rfl⟩
    show service.ledger.reservations.rows.foldl Table.put ledger.reservations = _
    rw [fresh]
    exact Table.foldl_put_empty service.ledger.reservations

/-- Every completion has its reservation, and every released one is settled at the cost on its receipt. -/
structure IsBacked (service : FuseService) : Prop where
  reserved : ∀ requestId pending, service.pending.get requestId = some pending →
    (service.ledger.reservations.find? requestId).isSome = true
  settled : ∀ requestId pending completion, service.pending.get requestId = some pending →
    pending.released = some completion → IsSettled service.ledger requestId pending.exactCostMicros ∧
      completion.receipt.costUsdc = microsToUsdc pending.exactCostMicros

/-- What a call has reported, of a service. -/
def ReportedBy (service : FuseService) : Mutation → MutationResult → Prop
  | .prepareCompletion request _, _ =>
    (service.ledger.reservations.find? request.requestId).isSome = true
  | .releasePaidCompletion requestId _, .released completion =>
    ∃ exactCostMicros, IsSettled service.ledger requestId exactCostMicros ∧
      completion.receipt.costUsdc = microsToUsdc exactCostMicros
  | .releasePaidCompletion _ _, .quoted _ => False

theorem isSettled_of_keeps {before after : FuseLedger} (keeps : KeepsReservations before after)
    {requestId : String} {exactCostMicros : ℤ} (settled : IsSettled before requestId exactCostMicros) :
    IsSettled after requestId exactCostMicros := by
  obtain ⟨reservation, found, reconciled, cost⟩ := settled
  obtain ⟨later, there, continues⟩ := keeps requestId reservation found
  rw [continues.reconciled reconciled] at there
  exact ⟨reservation, there, reconciled, cost⟩

theorem ReportedBy.later (keeps : KeepsReservations service.ledger after.ledger) {mutation : Mutation}
    {result : MutationResult} (reported : ReportedBy service mutation result) :
    ReportedBy after mutation result := by
  cases mutation with
  | prepareCompletion request outcome => exact reserved_of_keeps keeps reported
  | releasePaidCompletion requestId payment =>
    cases result with
    | quoted quote => exact reported
    | released completion =>
      obtain ⟨exactCostMicros, settled, cost⟩ := reported
      exact ⟨exactCostMicros, isSettled_of_keeps keeps settled, cost⟩

/-- What a mutation that returns does to a service whose completions are backed. -/
structure Reported (service after : FuseService) (mutation : Mutation) (result : MutationResult) : Prop where
  keeps : KeepsReservations service.ledger after.ledger
  backed : IsBacked after
  reported : ReportedBy after mutation result

/-- A completion that is set, with the reservation it has. -/
theorem IsBacked.set (backed : IsBacked service) {ledger : FuseLedger} {circuits : Record BranchCircuit}
    {requestId : String} {pending : Pending} (keeps : KeepsReservations service.ledger ledger)
    (reserved : (ledger.reservations.find? requestId).isSome = true)
    (settled : ∀ completion, pending.released = some completion →
      IsSettled ledger requestId pending.exactCostMicros ∧
        completion.receipt.costUsdc = microsToUsdc pending.exactCostMicros) :
    IsBacked { service with ledger, circuits, pending := service.pending.set requestId pending } := by
  refine ⟨fun other held found => ?_, fun other held completion found released => ?_⟩
  · change (service.pending.set requestId pending).get other = some held at found
    rw [Record.get_set] at found
    split at found
    · next same =>
      rw [same]
      exact reserved
    · exact reserved_of_keeps keeps (backed.reserved other held found)
  · change (service.pending.set requestId pending).get other = some held at found
    rw [Record.get_set] at found
    split at found
    · next same =>
      cases found
      rw [same]
      exact settled completion released
    · obtain ⟨there, cost⟩ := backed.settled other held completion found released
      exact ⟨isSettled_of_keeps keeps there, cost⟩

theorem reported_prepareCompletion (backed : IsBacked service) {request : CompletionRequest}
    {outcome : Except String ProviderResult} {quote : PaymentRequired}
    (returned : FuseService.prepareCompletion request outcome service = .ok quote after) :
    Reported service after (.prepareCompletion request outcome) (.quoted quote) := by
  rcases prepareCompletion_cases service request outcome with
    ⟨error, _, thrown⟩ | ⟨cached, found, same⟩ |
      ⟨maximumMicros, reservation, ledger, result, exactCostMicros, circuit, circuits, _, reserves, same⟩
  · rw [thrown] at returned
    cases returned
  · rw [same] at returned
    cases returned
    exact ⟨.refl _, backed, backed.reserved _ cached found⟩
  · rw [same] at returned
    cases returned
    obtain ⟨keeps, reserved, _⟩ := reserve_keeps reserves
    exact ⟨keeps, backed.set keeps reserved (fun _ released => nomatch released), reserved⟩

theorem reported_releasePaidCompletion (backed : IsBacked service) {requestId : String} {payment : Payment}
    {completion : ReleasedCompletion}
    (returned : FuseService.releasePaidCompletion requestId payment service = .ok completion after) :
    Reported service after (.releasePaidCompletion requestId payment) (.released completion) := by
  rcases releasePaidCompletion_cases service requestId payment with
    ⟨error, ledger, _, thrown⟩ | ⟨pending, released, found, handedOut, same⟩ |
      ⟨pending, reclaimedMicros, ledger, found, _, sameReservations, settled, same⟩
  · rw [thrown] at returned
    cases returned
  · rw [same] at returned
    cases returned
    exact ⟨.refl _, backed, pending.exactCostMicros, backed.settled requestId pending _ found handedOut⟩
  · rw [same] at returned
    cases returned
    have keeps := sameReservations.keeps
    refine ⟨keeps, backed.set keeps (reserved_of_keeps keeps (backed.reserved _ pending found)) ?_,
      pending.exactCostMicros, settled, rfl⟩
    rintro _ ⟨⟩
    exact ⟨settled, rfl⟩

/-- A result under a constructor. -/
theorem map_ok {α β : Type} {wrap : α → β} {method : Method FuseService α} {result : β}
    (returned : (wrap <$> method) service = .ok result after) :
    ∃ value, method service = .ok value after ∧ wrap value = result := by
  change EStateM.map wrap method service = _ at returned
  unfold EStateM.map at returned
  split at returned
  · next value _ same =>
    cases returned
    exact ⟨value, same, rfl⟩
  · cases returned

theorem reported_perform (backed : IsBacked service) {mutation : Mutation} {result : MutationResult}
    (returned : mutation.perform service = .ok result after) : Reported service after mutation result := by
  cases mutation with
  | prepareCompletion request outcome =>
    obtain ⟨quote, own, rfl⟩ := map_ok returned
    exact reported_prepareCompletion backed own
  | releasePaidCompletion requestId payment =>
    obtain ⟨completion, own, rfl⟩ := map_ok returned
    exact reported_releasePaidCompletion backed own

/-! ### Mutations of a state -/

/-- The state of a service whose completions are backed. -/
def IsBackedState (state : FuseServiceState) : Prop := ∃ service, IsBacked service ∧ service.exportState = state

theorem mutateService_ok {mutation : Mutation} {state : FuseServiceState} {later : FuseServiceState}
    {result : MutationResult} (returned : mutateService mutation state = .ok (later, result)) :
    ∃ service after, FuseService.fromState state = .ok service ∧
      mutation.perform service = .ok result after ∧ after.exportState = later := by
  unfold mutateService at returned
  cases read : FuseService.fromState state with
  | error error =>
    rw [read] at returned
    cases returned
  | ok service =>
    rw [read] at returned
    change exported (mutation.perform service) = _ at returned
    cases performed : mutation.perform service with
    | error error after =>
      rw [performed] at returned
      cases returned
    | ok result after =>
      rw [performed] at returned
      cases returned
      exact ⟨service, after, rfl, performed, rfl⟩

/-- What is read back of a service is as backed as it is. -/
theorem IsBacked.read (backed : IsBacked service) (read : FuseService.fromState service.exportState = .ok copy) :
    IsBacked copy ∧ KeepsReservations service.ledger copy.ledger := by
  obtain ⟨reservations, pending, _⟩ := fromState_exportState read
  refine ⟨⟨fun requestId held found => ?_, fun requestId held completion found released => ?_⟩,
    fun requestId reservation found => ⟨reservation, ?_, rfl, rfl, fun _ => rfl⟩⟩
  · rw [pending] at found
    rw [reservations]
    exact backed.reserved requestId held found
  · rw [pending] at found
    unfold IsSettled
    rw [reservations]
    exact backed.settled requestId held completion found released
  · rw [reservations]
    exact found

theorem reportedIn_iff (service : FuseService) (mutation : Mutation) (result : MutationResult) :
    ReportedIn service.exportState.ledger.reservations mutation result ↔
      ReportedBy service mutation result := by
  have rows : ∀ {requestId reservation}, (reservation ∈ service.exportState.ledger.reservations ∧
      reservation.requestId = requestId) ↔ service.ledger.reservations.find? requestId = some reservation :=
    Table.find?_eq_some.symm
  cases mutation with
  | prepareCompletion request outcome =>
    unfold ReportedIn ReportedBy
    simp only [rows, Option.isSome_iff_exists]
  | releasePaidCompletion requestId payment =>
    cases result with
    | quoted quote => exact Iff.rfl
    | released completion =>
      constructor
      · rintro ⟨reservation, member, own, reconciled, exactCostMicros, actual, cost⟩
        exact ⟨exactCostMicros, ⟨reservation, rows.mp ⟨member, own⟩, reconciled, actual⟩, cost⟩
      · rintro ⟨exactCostMicros, ⟨reservation, found, reconciled, actual⟩, cost⟩
        obtain ⟨member, own⟩ := rows.mpr found
        exact ⟨reservation, member, own, reconciled, exactCostMicros, actual, cost⟩

/-- What a mutation reports is in the ledger that it leaves, and what earlier ones have reported stays. -/
theorem mutateService_reports : Reports mutateService IsBackedState
    fun mutation result state => ReportedIn state.ledger.reservations mutation result := by
  constructor
  · rintro mutation _ later result ⟨service, backed, rfl⟩ returned
    obtain ⟨copy, after, read, performed, rfl⟩ := mutateService_ok returned
    have reported := reported_perform (backed.read read).1 performed
    exact ⟨⟨after, reported.backed, rfl⟩, (reportedIn_iff after mutation result).mpr reported.reported⟩
  · rintro mutation _ later result ⟨service, backed, rfl⟩ returned earlier answer there
    obtain ⟨copy, after, read, performed, rfl⟩ := mutateService_ok returned
    obtain ⟨copied, same⟩ := backed.read read
    have keeps := same.trans (reported_perform copied performed).keeps
    exact (reportedIn_iff after earlier answer).mpr
      (((reportedIn_iff service earlier answer).mp there).later keeps)

theorem isBackedState_initial {payerWallet : Option String} {price : Option TokenPrice}
    {initial : FuseServiceState} (created : initialState payerWallet price = .ok initial) :
    IsBackedState initial := by
  unfold initialState createDemo at created
  cases built : FuseLedger.new FuseService.demoConfig with
  | error error =>
    rw [built] at created
    cases created
  | ok ledger =>
    rw [built] at created
    cases created
    refine ⟨_, ⟨fun _ _ found => ?_, fun _ _ _ found => ?_⟩, rfl⟩
    · cases found
    · cases found

/-- **No update is lost** in a run in which no call writes over what another call has written since it read. -/
theorem memory_store_serializable {payerWallet : Option String} {price : Option TokenPrice}
    {initial : FuseServiceState} (created : initialState payerWallet price = .ok initial)
    {events : List (Event Mutation)}
    (apart : Along (mutateStep initial) (WritesOverNothing initial) emptyStore events) :
    LosesNothing initial (Foundation.run (mutateStep initial) emptyStore events) := by
  have serializable := serializable_run (MemoryStateStore.mk none) apart
  exact ⟨serializable, fun mutation result returned =>
    serializable.holds mutateService_reports (isBackedState_initial created) returned⟩

end Laws

/-! ### Two mutations that overlap -/

namespace Sample

def demoState : FuseServiceState := Core.Sample.demoService.exportState

def preparation (requestId : String) : Mutation :=
  .prepareCompletion { Core.Sample.demoRequest with requestId } (.ok Core.Sample.demoAnswer)

/-- The second call reads the state before the first one has written it. -/
def overlappingMutations : List (Event Mutation) :=
  [.begins (preparation "request-1"), .begins (preparation "request-2"), .completes 0, .completes 0]

/-- A completion is prepared and released, and then another one is prepared. -/
def mutations : List Mutation :=
  [preparation "request-1", .releasePaidCompletion "request-1" ⟨"0xpaid"⟩, preparation "request-2"]

end Sample

theorem memory_store_serializable_demo :
    LosesNothing Sample.demoState
      (Foundation.run (mutateStep Sample.demoState) emptyStore (successive Sample.mutations)) :=
  @memory_store_serializable none none Sample.demoState rfl (successive Sample.mutations)
    (undisturbed_successive (MemoryStateStore.mk none) [] Sample.mutations)

theorem not_memory_store_serializable :
    ¬ ∀ (payerWallet : Option String) (price : Option TokenPrice) (initial : FuseServiceState)
      (events : List (Event Mutation)), initialState payerWallet price = .ok initial →
        LosesNothing initial (Foundation.run (mutateStep initial) emptyStore events) := by
  intro lossless
  have lost := lossless none none Sample.demoState Sample.overlappingMutations rfl
  obtain ⟨quote, returned⟩ : ∃ quote, (Sample.preparation "request-1", .ok (.quoted quote)) ∈
      (Foundation.run (mutateStep Sample.demoState) emptyStore Sample.overlappingMutations).returned :=
    ⟨_, List.mem_cons_self⟩
  have reported := lost.reported _ _ returned
  revert reported
  show ¬ ∃ reservation ∈ _, _
  decide +kernel

end FuseControlPlane.Persistence
