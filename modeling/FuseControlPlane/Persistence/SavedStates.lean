/-
Saved states of the demo service (`serializeState`, `deserializeState` of `persistence/store.ts`).

* `IsFaithful`: what is read back of a saved state is the state, and a service made from it answers every call
  as the service that was saved does.
* `IsDemo`: what stays true of a service from `createDemo` on, whatever is called on it.
* `fromState_exportState`: so **a service is made again** from its state.
* `faithful_iff`: its saved state **is faithful exactly if JSON can say all of its completions**.
* `not_always_faithful`: at a price of three hundred digits, a ratio is not finite and is read back as `null`.
-/

import FuseControlPlane.Core.StateData
import FuseControlPlane.Persistence.StateStore

set_option linter.unusedSectionVars false

namespace FuseControlPlane.Persistence

open Foundation Foundation.Method Foundation.JsValue Core Core.FuseService Core.ServiceRun

/-! ### Saved states -/

section Saving

variable [Doubles]

def serializeState (state : FuseServiceState) : String := (encode state.toJs).stringify

/-- What `JSON.parse` gives, or `none` if it throws. -/
def deserializeState (text : String) : Option JsValue := (Json.parse text).bind revive

/-- `value as FuseServiceState`: the value has the members of the state. -/
def IsState (value : JsValue) (state : FuseServiceState) : Prop := value.compact = state.toJs.compact

end Saving

/-- What calls return or throw, one after the other. -/
def answers (service : FuseService) : List Mutation → List (Except String MutationResult)
  | [] => []
  | call :: rest => Method.outcome (call.perform service) :: answers (left (call.perform service)) rest

/-- The service after a call, whether it returns or throws. -/
def mutationStep (service : FuseService) (call : Mutation) : FuseService := left (call.perform service)

/-- The state of a service survives being saved. -/
structure IsFaithful [Doubles] (service : FuseService) : Prop where
  equal : ∃ value, deserializeState (serializeState service.exportState) = some value ∧
    IsState value service.exportState
  resumes : ∀ value state, deserializeState (serializeState service.exportState) = some value →
    IsState value state → ∃ copy, FuseService.fromState state = .ok copy ∧
      ∀ calls, answers copy calls = answers service calls ∧
        (Foundation.run mutationStep copy calls).exportState =
          (Foundation.run mutationStep service calls).exportState

section Laws

variable {service : FuseService} {ledger : FuseLedger}

/-! ### What stays true of a service -/

/-- The names of the children of the demo. -/
def childNames : List String := FuseService.demoConfig.children.rows.map Entry.name

/-- A ledger of the demo. -/
structure IsDemoLedger (ledger : FuseLedger) : Prop where
  sound : LedgerSound ledger
  names : ledger.children.rows.map Entry.name = childNames

/-- A service of the demo. -/
structure IsDemo (service : FuseService) : Prop where
  ledger : IsDemoLedger service.ledger
  names : service.circuits.rows.map Entry.name = childNames
  config : ∀ entry ∈ service.circuits, entry.value.config = circuitConfig

theorem isDemoLedger_reserve (demo : IsDemoLedger ledger) (childId : String) (maximumMicros : ℤ) (requestId : String) :
    IsDemoLedger (left (FuseLedger.reserve childId maximumMicros requestId ledger)) := by
  rcases reserve_cases ledger childId maximumMicros requestId with
    ⟨error, thrown⟩ | ⟨existing, returned, _⟩ | ⟨child, found, absent, positive, within, _, returned⟩
  · rw [thrown]
    exact demo
  · rw [returned]
    exact demo
  · rw [returned]
    exact ⟨ledgerSound_reserve demo.sound found absent positive within,
      (Record.names_set_existing found _).trans demo.names⟩

theorem isDemoLedger_reconcile (demo : IsDemoLedger ledger) (requestId : String) (actualMicros : ℤ) :
    IsDemoLedger (left (FuseLedger.reconcile requestId actualMicros ledger)) := by
  rcases reconcile_cases ledger requestId actualMicros with
    ⟨error, thrown⟩ | ⟨existing, returned, _⟩ |
      ⟨reservation, child, stored, active, nonnegative, within, found, returned⟩
  · rw [thrown]
    exact demo
  · rw [returned]
    exact demo
  · rw [returned]
    exact ⟨ledgerSound_reconcile demo.sound stored active nonnegative within found,
      (Record.names_set_existing found _).trans demo.names⟩

theorem isDemoLedger_reclaim (demo : IsDemoLedger ledger) (childId : String) :
    IsDemoLedger (left (FuseLedger.reclaimAvailable childId ledger)) := by
  rcases reclaimAvailable_cases ledger childId with ⟨error, thrown⟩ | returned | ⟨child, found, returned⟩
  · rw [thrown]
    exact demo
  · rw [returned]
    exact demo
  · rw [returned]
    exact ⟨ledgerSound_reclaim demo.sound found, (Record.names_set_existing found _).trans demo.names⟩

/-- The method leaves a service of the demo. -/
abbrev KeepsDemo {α : Type} (method : Method FuseService α) (service : FuseService) : Prop :=
  Ensures (fun _ after => IsDemo after) method service

theorem keepsDemo_bind {α β : Type} {method : Method FuseService α} {next : α → Method FuseService β}
    (first : KeepsDemo method service) (rest : ∀ value after, IsDemo after → KeepsDemo (next value) after) :
    KeepsDemo (method >>= next) service := by
  refine Ensures.bind (Ensures.mono first fun result after demo => ?_)
  cases result with
  | ok value => exact rest value after demo
  | error error => exact demo

theorem keepsDemo_onLedger (demo : IsDemo service) {α : Type} {method : LedgerM α}
    (keeps : IsDemoLedger (left (method service.ledger))) : KeepsDemo (onLedger method) service := by
  have after : left (onLedger method service) = { service with ledger := left (method service.ledger) } := by
    unfold onLedger onPart
    cases method service.ledger <;> rfl
  unfold KeepsDemo Method.Ensures
  rw [after]
  exact ⟨keeps, demo.names, demo.config⟩

theorem keepsDemo_onCircuit (demo : IsDemo service) {α : Type} {childId : String} {method : Method BranchCircuit α}
    (keeps : ∀ circuit, (left (method circuit)).config = circuit.config) :
    KeepsDemo (onCircuit childId method) service := by
  unfold onCircuit
  refine Ensures.get ?_
  cases own : service.circuits.property childId with
  | undefined | inherited => exact demo
  | own circuit =>
    have found := Record.property_eq_own.mp own
    have after : left (onPart (fun _ => circuit) (fun service circuit =>
        { service with circuits := service.circuits.set childId circuit }) method service) =
          { service with circuits := service.circuits.set childId (left (method circuit)) } := by
      unfold onPart
      cases method circuit <;> rfl
    show IsDemo (left (onPart _ _ method service))
    rw [after]
    refine ⟨demo.ledger, (Record.names_set_existing found _).trans demo.names, fun entry member => ?_⟩
    rcases Table.mem_put.mp member with rfl | ⟨before, _⟩
    · exact (keeps circuit).trans (demo.config _ (Table.mem_of_find? (Record.get_eq_some.mp found)))
    · exact demo.config entry before

theorem config_assertOpen (circuit : BranchCircuit) :
    (left (BranchCircuit.assertOpen circuit)).config = circuit.config := by
  rcases assertOpen_cases circuit with opened | ⟨error, thrown⟩
  · rw [opened]
    rfl
  · rw [thrown]
    rfl

theorem config_evaluate (currentCostMicros : ℤ) (circuit : BranchCircuit) :
    (left (BranchCircuit.evaluate currentCostMicros circuit)).config = circuit.config := by
  unfold BranchCircuit.evaluate
  rw [get_bind, check_bind]
  split
  · split
    · rfl
    · show (circuit.afterCall currentCostMicros).config = circuit.config
      unfold BranchCircuit.afterCall
      split <;> rfl
  · rfl

theorem keepsDemo_begin (demo : IsDemo service) (request : CompletionRequest) :
    KeepsDemo (beginCompletion request) service := by
  unfold beginCompletion
  refine Ensures.get ?_
  cases service.pending.get request.requestId with
  | some cached => exact demo
  | none =>
    refine keepsDemo_bind (keepsDemo_onCircuit demo config_assertOpen) fun _ opened stays => ?_
    refine Ensures.fromExcept (fun _ _ => stays) fun maximumMicros _ => ?_
    exact keepsDemo_bind (keepsDemo_onLedger stays (isDemoLedger_reserve stays.ledger _ _ _)) fun _ _ reserved => reserved

theorem keepsDemo_finish (demo : IsDemo service) (request : CompletionRequest) (result : ProviderResult) :
    KeepsDemo (finishCompletion request result) service := by
  unfold finishCompletion
  refine Ensures.get (Ensures.fromExcept (fun _ _ => demo) fun exactCostMicros _ => ?_)
  refine keepsDemo_bind (keepsDemo_onCircuit demo (config_evaluate exactCostMicros)) fun _ evaluated stays => ?_
  exact Ensures.modify ⟨stays.ledger, stays.names, stays.config⟩

theorem keepsDemo_reclaim (demo : IsDemo service) (pending : Pending) : KeepsDemo (reclaim pending) service := by
  unfold reclaim
  split
  · exact keepsDemo_onLedger demo (isDemoLedger_reclaim demo.ledger _)
  · exact demo

theorem keepsDemo_release (demo : IsDemo service) (requestId : String) (payment : Payment) :
    KeepsDemo (releasePaidCompletion requestId payment) service := by
  unfold releasePaidCompletion
  refine Ensures.get ?_
  cases service.pending.get requestId with
  | none => exact demo
  | some pending =>
    dsimp only
    cases pending.released with
    | some released => exact demo
    | none =>
      refine keepsDemo_bind (keepsDemo_onLedger demo (isDemoLedger_reconcile demo.ledger _ _)) fun _ after settled => ?_
      refine keepsDemo_bind (keepsDemo_reclaim settled pending) fun _ reclaimed stays => ?_
      exact Ensures.modify ⟨stays.ledger, stays.names, stays.config⟩

theorem isDemo_step {run : ServiceRun} (demo : IsDemo run.service) (event : ServiceEvent) :
    IsDemo (serviceStep run event).service := by
  cases event with
  | call request =>
    have begun := keepsDemo_begin demo request
    show IsDemo (called run request).service
    unfold called
    dsimp only
    split <;> exact begun
  | answer index outcome =>
    unfold serviceStep
    dsimp only
    split
    · exact demo
    · next request _ =>
      cases outcome with
      | error error => exact demo
      | ok result => exact keepsDemo_finish demo request result
  | release requestId payment => exact keepsDemo_release demo requestId payment

theorem isDemo_created {payerWallet : Option String} {price : Option TokenPrice}
    (created : createDemo payerWallet price = .ok service) : IsDemo service := by
  unfold createDemo at created
  cases built : FuseLedger.new FuseService.demoConfig with
  | error error =>
    rw [built] at created
    cases created
  | ok ledger =>
    rw [built] at created
    cases created
    have ledgerNames : ledger.children.rows.map Entry.name = childNames := by
      cases built
      rfl
    refine ⟨⟨ledgerSound_new (by decide) built, ledgerNames⟩, Record.names_mapValues _ _, fun entry member => ?_⟩
    obtain ⟨_, _, rfl⟩ := Record.mem_mapValues.mp member
    rfl

theorem isDemo_run {run : ServiceRun} (demo : IsDemo run.service) (events : List ServiceEvent) :
    IsDemo (Foundation.run serviceStep run events).service :=
  @Foundation.run_invariant _ _ serviceStep (fun run => IsDemo run.service) run demo
    (fun _ event stays => isDemo_step stays event) events

/-! ### A service and its state -/

/-- **A service is made again** from its state. -/
theorem fromState_exportState_of_demo (demo : IsDemo service) : FuseService.fromState service.exportState = .ok service := by
  have circuits : (service.circuits.mapValues BranchCircuit.snapshot).mapValues
      (BranchCircuit.fromState circuitConfig) = service.circuits := by
    rw [Record.mapValues_mapValues]
    refine Table.ext ?_
    show service.circuits.rows.map _ = service.circuits.rows
    conv_rhs => rw [← List.map_id service.circuits.rows]
    refine List.map_congr_left fun entry member => ?_
    have config := demo.config entry member
    obtain ⟨name, ⟨snapshot, own⟩⟩ := entry
    rw [show own = circuitConfig from config]
    rfl
  unfold FuseService.fromState
  show (do
    let ledger ← FuseLedger.fromState service.ledger.exportState
    return { ledger, price := service.price, payerWallet := service.payerWallet,
             circuits := (service.circuits.mapValues BranchCircuit.snapshot).mapValues
              (BranchCircuit.fromState circuitConfig),
             pending := setAll .empty (service.pending.rows.map fun entry => (entry.name, entry.value)) } :
      Except String FuseService) = .ok service
  rw [Core.fromState_exportState service.ledger demo.ledger.sound.positive demo.ledger.sound.authorized, circuits,
    setAll_rows]
  rfl

/-! ### What is read back -/

section Faithful

variable [Doubles]

/-- A state of the demo is read back, up to what JSON cannot say. -/
theorem deserialize_serialize (demo : IsDemo service) :
    deserializeState (serializeState service.exportState) = some (saved service.exportState.toJs) := by
  have tagless : childNames ≠ [tag] := by decide
  have children : service.exportState.ledger.children.rows.map Entry.name ≠ [tag] := by
    rw [show service.exportState.ledger.children.rows.map Entry.name = childNames from
      (Record.names_mapValues id service.ledger.children).trans demo.ledger.names]
    exact tagless
  have circuits : service.exportState.circuits.rows.map Entry.name ≠ [tag] := by
    rw [show service.exportState.circuits.rows.map Entry.name = childNames from
      (Record.names_mapValues BranchCircuit.snapshot service.circuits).trans demo.names]
    exact tagless
  unfold deserializeState serializeState
  rw [Json.parse_stringify, Option.bind_some, revive_encode (FuseServiceState.toJs_untagged children circuits)]

/-- **A saved state is faithful** exactly if JSON can say all of its completions. -/
theorem isFaithful_iff (demo : IsDemo service) :
    IsFaithful service ↔ ∀ entry ∈ service.pending, entry.value.IsSavable := by
  have savable : service.exportState.toJs.isSavable = true ↔ ∀ entry ∈ service.pending, entry.value.IsSavable := by
    rw [FuseServiceState.toJs_savable_iff]
    show (∀ entry ∈ service.pending.rows.map fun entry => (entry.name, entry.value), entry.2.IsSavable) ↔ _
    rw [List.forall_mem_map]
    rfl
  have read := deserialize_serialize demo
  rw [← savable, ← saved_eq_compact_iff]
  constructor
  · intro faithful
    obtain ⟨value, same, isState⟩ := faithful.equal
    rw [read] at same
    cases same
    exact (compact_saved _).symm.trans isState
  · intro same
    refine ⟨⟨_, read, (compact_saved _).trans same⟩, fun value state again isState => ?_⟩
    rw [read] at again
    cases again
    -- The state that the value is read as can only be the one that was saved.
    have own : state = service.exportState :=
      FuseServiceState.toJs_injective (isState.symm.trans ((compact_saved _).trans same))
    rw [own]
    exact ⟨service, fromState_exportState_of_demo demo, fun calls => ⟨rfl, rfl⟩⟩

/-- **The saved state of a service is faithful**, whatever has been called on it since `createDemo`, exactly if no
completion has a hook in its request or a ratio that is not finite. -/
theorem faithful_iff {payerWallet : Option String} {price : Option TokenPrice} {initial : FuseService}
    (created : createDemo payerWallet price = .ok initial) (events : List ServiceEvent) :
    IsFaithful (Foundation.run serviceStep (start initial) events).service ↔
      ∀ entry ∈ (Foundation.run serviceStep (start initial) events).service.pending, entry.value.IsSavable :=
  isFaithful_iff (isDemo_run (isDemo_created created) events)

end Faithful

end Laws

/-! ### A ratio that is not finite -/

namespace Sample

/-- Doubles whose quotients are whole numbers. -/
@[reducible] def doubles : Doubles where
  quotient dividend divisor :=
    if dividend.natAbs < 2 ^ 1024 - 2 ^ 970 then
      some ⟨Json.integerText (dividend / divisor), Json.isNumber_integerText (dividend / divisor)⟩
    else none
  quotient_isSome dividend divisor positive := by
    split
    · next finite => exact ⟨fun _ => finite, fun _ => rfl⟩
    · next infinite => exact ⟨nofun, fun finite => absurd finite infinite⟩

/-- A completion is prepared and released. -/
def demoEvents : List ServiceEvent :=
  [.call Core.Sample.demoRequest, .answer 0 (.ok Core.Sample.demoAnswer), .release "request-1" ⟨"0xpaid"⟩]

/-- A million output tokens cost a power of ten, in dollars. -/
def powerPrice (count : ℕ) : TokenPrice := ⟨"1", String.ofList ('1' :: List.replicate count '0')⟩

def powerService (count : ℕ) : FuseService := { Core.Sample.demoService with price := powerPrice count }

def inputRequest (requestId : String) : CompletionRequest :=
  { Core.Sample.demoRequest with requestId, maxOutputTokens := 0 }

def answerOf (outputTokens : ℤ) : ProviderResult :=
  { Core.Sample.demoAnswer with usage := ⟨10, outputTokens⟩ }

/-- The provider counts an output token for the second request. -/
def powerEvents : List ServiceEvent :=
  [.call (inputRequest "request-1"), .answer 0 (.ok (answerOf 0)), .call (inputRequest "request-2"),
    .answer 0 (.ok (answerOf 1))]

/-- Zeros after a number. -/
theorem foldl_zeros (value : ℤ) (count : ℕ) : (List.replicate count '0').foldl
    (fun (value : ℤ) (digit : Char) => value * 10 + (digit.toNat - '0'.toNat : ℕ)) value = value * 10 ^ count := by
  induction count generalizing value with
  | zero => exact (mul_one value).symm
  | succ count ih =>
    rw [List.replicate_succ, List.foldl_cons, ih, pow_succ', ← mul_assoc]
    exact congrArg (· * 10 ^ count) (add_zero _)

theorem scaled_power (count : ℕ) : decimalToScaled (powerPrice count).outputUsdPerMillion = .ok (10 ^ count * scale) := by
  have digits : ∀ digit ∈ '1' :: List.replicate count '0', digit.isDigit = true :=
    List.forall_mem_cons.mpr ⟨rfl, fun digit member => by rw [List.eq_of_mem_replicate member]; rfl⟩
  have power : bigInt ('1' :: List.replicate count '0') = 10 ^ count := by
    unfold bigInt
    rw [List.foldl_cons, foldl_zeros]
    exact one_mul _
  unfold decimalToScaled powerPrice
  dsimp only
  rw [String.toList_ofList, List.takeWhile_eq_self_iff.mpr digits, List.dropWhile_eq_nil_iff.mpr digits, power]
  exact congrArg Except.ok (add_zero _)

theorem cost_power (count : ℕ) {outputTokens : ℤ} (few : outputTokens = 0 ∨ outputTokens = 1) :
    calculateCostMicros ⟨10, outputTokens⟩ (powerPrice count) = .ok (10 + outputTokens * 10 ^ count) := by
  have input : tokenCostMicros 10 "1" = .ok 10 := by decide +kernel
  have output : tokenCostMicros outputTokens (powerPrice count).outputUsdPerMillion =
      .ok (outputTokens * 10 ^ count) := by
    have safe : JavaScript.isSafeInteger outputTokens = true ∧ 0 ≤ outputTokens := by
      rcases few with rfl | rfl <;> decide
    have rounded : ceilDiv (outputTokens * (10 ^ count * scale)) scale = outputTokens * 10 ^ count := by
      unfold ceilDiv
      rw [← mul_assoc, Int.tdiv_eq_ediv_of_nonneg]
      · rw [add_sub_assoc, add_comm, Int.add_mul_ediv_right _ _ (by decide)]
        rw [show (scale - 1) / scale = 0 from by decide, zero_add]
      · have powers : (0 : ℤ) ≤ outputTokens * 10 ^ count := mul_nonneg safe.2 (pow_nonneg (by decide) count)
        have scales : (0 : ℤ) ≤ outputTokens * 10 ^ count * scale := mul_nonneg powers (by decide)
        have one : (1 : ℤ) ≤ scale := by decide
        omega
    unfold tokenCostMicros
    rw [if_pos safe, scaled_power]
    exact congrArg Except.ok rounded
  unfold calculateCostMicros
  show (do
    let inputCost ← tokenCostMicros 10 "1"
    let outputCost ← tokenCostMicros outputTokens (powerPrice count).outputUsdPerMillion
    return inputCost + outputCost : Except String ℤ) = _
  rw [input, output]
  rfl

/-- A call comes to its provider. -/
theorem begun_of {service : FuseService} {request : CompletionRequest} {maximumMicros : ℤ} {reservation : Reservation}
    {ledger : FuseLedger} (absent : service.pending.get request.requestId = none)
    (opened : onCircuit request.childId BranchCircuit.assertOpen service = .ok () service)
    (priced : calculateMaximumCostMicros request.inputTokens request.maxOutputTokens service.price = .ok maximumMicros)
    (reserved : FuseLedger.reserve request.childId maximumMicros request.requestId service.ledger =
      .ok reservation ledger) : beginCompletion request service = .ok .asks { service with ledger } := by
  unfold beginCompletion
  rw [get_bind, absent]
  dsimp only
  rw [bind_ok opened, fromExcept_bind, priced]
  exact bind_ok (onPart_ok reserved)

/-- A call goes on with the answer of its provider. -/
theorem finished_of {service after : FuseService} {request : CompletionRequest} {result : ProviderResult}
    {exactCostMicros : ℤ} {circuit : CircuitResult}
    (priced : calculateCostMicros result.usage service.price = .ok exactCostMicros)
    (evaluated : onCircuit request.childId (BranchCircuit.evaluate exactCostMicros) service = .ok circuit after) :
    finishCompletion request result service = .ok (service.paymentRequired request.requestId exactCostMicros)
      { after with
        pending := after.pending.set request.requestId ⟨request, result, exactCostMicros, circuit, none⟩ } := by
  unfold finishCompletion
  rw [get_bind, fromExcept_bind, priced]
  dsimp only
  rw [bind_ok evaluated]
  rfl

/-- A completion, from its call to the answer of its provider. -/
theorem completion_of {run : ServiceRun} {service middle after : FuseService} {request : CompletionRequest}
    {result : ProviderResult} {quote : PaymentRequired} (here : run.service = service) (idle : run.waiting = [])
    (begun : beginCompletion request service = .ok .asks middle)
    (finished : finishCompletion request result middle = .ok quote after) :
    (serviceStep (serviceStep run (.call request)) (.answer 0 (.ok result))).service = after ∧
      (serviceStep (serviceStep run (.call request)) (.answer 0 (.ok result))).waiting = [] := by
  have called : serviceStep run (.call request) =
      { run with service := middle, waiting := [request], asked := request.requestId :: run.asked } := by
    show called run request = _
    unfold ServiceRun.called
    rw [here, begun, idle]
    rfl
  rw [called]
  show left (finishCompletion request result middle) = after ∧ _
  rw [finished]
  exact ⟨rfl, rfl⟩

def scoutCircuit (previousCostMicros : Option ℤ) : BranchCircuit := ⟨⟨.healthy, 0, previousCostMicros⟩, circuitConfig⟩

/-- The service once the first request is reserved. -/
def reservedService (count : ℕ) : FuseService :=
  { powerService count with
    ledger := left (FuseLedger.reserve "scout" 10 "request-1" (powerService count).ledger) }

/-- The service with the completion of the first request. -/
def firstService (count : ℕ) : FuseService :=
  { reservedService count with
    circuits := (powerService count).circuits.set "scout" (scoutCircuit (some 10))
    pending := (powerService count).pending.set "request-1"
      ⟨inputRequest "request-1", answerOf 0, 10, ⟨.healthy, .allow, .allow, 10, some 10, 0⟩, none⟩ }

/-- The second completion has the baseline of the first one. -/
theorem power_run (count : ℕ) (ceiling : 50000 < 10 + (10 : ℤ) ^ count) : ∃ entry ∈
    (Foundation.run serviceStep (start (powerService count)) powerEvents).service.pending,
      entry.value.circuit.baselineCostMicros = some 10 ∧
        entry.value.circuit.currentCostMicros = 10 + 10 ^ count := by
  have first : calculateCostMicros ⟨10, 0⟩ (powerPrice count) = .ok 10 := by
    rw [cost_power count (.inl rfl), zero_mul, add_zero]
  have second : calculateCostMicros ⟨10, 1⟩ (powerPrice count) = .ok (10 + 10 ^ count) := by
    rw [cost_power count (.inr rfl), one_mul]
  have begun : beginCompletion (inputRequest "request-1") (powerService count) = .ok .asks (reservedService count) :=
    @begun_of (powerService count) (inputRequest "request-1") 10 _ _ rfl rfl first rfl
  have finished : finishCompletion (inputRequest "request-1") (answerOf 0) (reservedService count) =
      .ok ((reservedService count).paymentRequired "request-1" 10) (firstService count) :=
    @finished_of (reservedService count) _ (inputRequest "request-1") (answerOf 0) 10 _ first rfl
  have tripped : BranchCircuit.evaluate (10 + 10 ^ count) (scoutCircuit (some 10)) =
      .ok ⟨.tripped, .trip, .absoluteCallLimit, 10 + 10 ^ count, some 10, 0⟩
        { scoutCircuit (some 10) with state := .tripped } := by
    have healthy : decide ((scoutCircuit (some 10)).state ≠ .tripped) = true := rfl
    unfold BranchCircuit.evaluate
    rw [get_bind, check_bind, if_pos healthy, if_pos (show (scoutCircuit (some 10)).config.perCallCeilingMicros < _ from ceiling)]
    rfl
  have evaluated {service : FuseService}
      (own : service.circuits.property "scout" = .own (scoutCircuit (some 10))) :
      onCircuit "scout" (BranchCircuit.evaluate (10 + 10 ^ count)) service =
        .ok ⟨.tripped, .trip, .absoluteCallLimit, 10 + 10 ^ count, some 10, 0⟩
          { service with
            circuits := service.circuits.set "scout" { scoutCircuit (some 10) with state := .tripped } } := by
    unfold onCircuit
    rw [get_bind, own]
    dsimp only
    unfold onPart
    rw [tripped]
  have middle := completion_of (rfl : (start (powerService count)).service = _) rfl begun finished
  have last := completion_of middle.1 middle.2
    (@begun_of (firstService count) (inputRequest "request-2") 10 _ _ rfl rfl first rfl)
    (@finished_of _ _ (inputRequest "request-2") (answerOf 1) _ _ second (evaluated rfl))
  rw [powerEvents, Foundation.run_cons, Foundation.run_cons, Foundation.run_cons, Foundation.run_cons,
    Foundation.run_nil, last.1]
  refine ⟨_, Table.mem_put.mpr (.inl rfl), rfl, rfl⟩

end Sample

theorem faithful_iff_demo : letI := Sample.doubles
    IsFaithful (Foundation.run serviceStep (start Core.Sample.demoService) Sample.demoEvents).service ↔
      ∀ entry ∈ (Foundation.run serviceStep (start Core.Sample.demoService) Sample.demoEvents).service.pending,
        entry.value.IsSavable :=
  @faithful_iff Sample.doubles none none Core.Sample.demoService rfl Sample.demoEvents

theorem not_always_faithful : letI := Sample.doubles
    ¬ ∀ (payerWallet : Option String) (price : Option TokenPrice) (initial : FuseService) (events : List ServiceEvent),
      createDemo payerWallet price = .ok initial →
        IsFaithful (Foundation.run serviceStep (start initial) events).service := by
  let _ := Sample.doubles
  intro always
  have created : createDemo none (some (Sample.powerPrice 309)) = .ok (Sample.powerService 309) := rfl
  have demo := isDemo_run (isDemo_created created : IsDemo (start (Sample.powerService 309)).service) Sample.powerEvents
  have savable := (isFaithful_iff demo).mp (always none _ _ Sample.powerEvents created)
  obtain ⟨entry, member, baseline, current⟩ := Sample.power_run 309 (by decide +kernel)
  have finite := (savable entry member).ratio 10 baseline (by decide)
  rw [current] at finite
  exact absurd finite (by decide +kernel)

end FuseControlPlane.Persistence
