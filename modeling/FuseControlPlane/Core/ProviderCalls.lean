/-
How often the demo service calls its provider (`prepareCompletion` of `core/service.ts`).

* `ServiceRun`: a service with its calls in flight. A call is suspended at its provider call only.
* `CalledOnce`: for a request id the provider has been called once at most, and so has the circuit.
* `provider_called_once`: that **holds throughout a run** if no call for the id goes on to the provider while
  the id is reserved already, and only then where at first every reservation has its completion.
* `not_provider_called_once`: the completion is cached when the provider has answered. A second call before
  that finds the reservation, which is idempotent, and goes on.
-/

import FuseControlPlane.Core.ServiceMethods

set_option linter.unusedSectionVars false

namespace FuseControlPlane.Core

open Foundation Foundation.Method FuseService

/-! ### Calls in flight -/

/-- A service, the calls that wait for the provider, and for which requests it and a circuit have been
called. -/
structure ServiceRun where
  service : FuseService
  waiting : List CompletionRequest
  asked : List String
  evaluated : List String

/-- `call` is `prepareCompletion` up to its provider call. -/
inductive ServiceEvent
  | call (request : CompletionRequest)
  | answer (index : ℕ) (outcome : Except String ProviderResult)
  | release (requestId : String) (payment : Payment)

namespace ServiceRun

/-- A service without calls in flight. -/
def start (service : FuseService) : ServiceRun := ⟨service, [], [], []⟩

/-- Whether a method has come to the provider call. -/
def asks : EStateM.Result String FuseService Begun → Bool
  | .ok .asks _ => true
  | _ => false

def called (run : ServiceRun) (request : CompletionRequest) : ServiceRun :=
  let outcome := beginCompletion request run.service
  if asks outcome then
    { run with
      service := left outcome
      waiting := run.waiting ++ [request]
      asked := request.requestId :: run.asked }
  else { run with service := left outcome }

/-- A call goes on with what the provider has answered. -/
def answered (run : ServiceRun) (index : ℕ) (request : CompletionRequest)
    (outcome : Except String ProviderResult) : ServiceRun :=
  match outcome with
  | .error _ => { run with waiting := run.waiting.eraseIdx index }
  | .ok result =>
    { run with
      service := left (finishCompletion request result run.service)
      waiting := run.waiting.eraseIdx index
      evaluated :=
        if (calculateCostMicros result.usage run.service.price).toOption.isSome then
          request.requestId :: run.evaluated
        else run.evaluated }

def serviceStep (run : ServiceRun) : ServiceEvent → ServiceRun
  | .call request => run.called request
  | .answer index outcome =>
    match run.waiting[index]? with
    | none => run
    | some request => run.answered index request outcome
  | .release requestId payment =>
    { run with service := left (releasePaidCompletion requestId payment run.service) }

/-- A reservation of a request is in the ledger. -/
def isReserved (run : ServiceRun) (requestId : String) : Bool :=
  (run.service.ledger.reservations.find? requestId).isSome

/-- A call for a request goes on to the provider although the request is reserved already. -/
def asksAgain (requestId : String) (run : ServiceRun) : ServiceEvent → Bool
  | .call request =>
    request.requestId = requestId && run.isReserved requestId &&
      asks (beginCompletion request run.service)
  | _ => false

end ServiceRun

open ServiceRun

/-- The provider has been called for a request once at most, and the circuit has evaluated its cost once at
most. -/
structure CalledOnce (requestId : String) (run : ServiceRun) : Prop where
  provider : run.asked.count requestId ≤ 1
  circuit : run.evaluated.count requestId ≤ 1

/-- Every reservation of the ledger has its completion. -/
def IsQuiet (service : FuseService) : Prop :=
  ∀ requestId, (service.ledger.reservations.find? requestId).isSome = true →
    (service.pending.get requestId).isSome = true

section Laws

variable {run : ServiceRun} {requestId : String}

/-! ### What a call does -/

/-- The requests that wait under an id. -/
def waitingFor (requestId : String) (run : ServiceRun) : ℕ :=
  (run.waiting.map CompletionRequest.requestId).count requestId

/-- A call goes on to the provider with a reservation, or it leaves the run as it is. -/
theorem called_cases (run : ServiceRun) (request : CompletionRequest) :
    (asks (beginCompletion request run.service) = false ∧ run.called request = run) ∨
      ∃ ledger, asks (beginCompletion request run.service) = true ∧
        run.service.pending.get request.requestId = none ∧
        KeepsReservations run.service.ledger ledger ∧
        (ledger.reservations.find? request.requestId).isSome = true ∧
        (∀ other, other ≠ request.requestId →
          ledger.reservations.find? other = run.service.ledger.reservations.find? other) ∧
        run.called request =
          { run with
            service := { run.service with ledger }
            waiting := run.waiting ++ [request]
            asked := request.requestId :: run.asked } := by
  unfold ServiceRun.called
  rcases beginCompletion_cases run.service request with
    ⟨error, thrown⟩ | ⟨cached, _, returned⟩ | ⟨maximumMicros, reservation, ledger, absent, reserves, returned⟩
  · rw [thrown]
    exact .inl ⟨rfl, rfl⟩
  · rw [returned]
    exact .inl ⟨rfl, rfl⟩
  · rw [returned]
    obtain ⟨keeps, reserved, others⟩ := reserve_keeps reserves
    exact .inr ⟨ledger, rfl, absent, keeps, reserved, others, rfl⟩

/-- What an answer and a release leave of the ledger and of the completions. -/
structure Settles (before after : FuseService) : Prop where
  same : SameReservations before.ledger after.ledger
  pending : ∀ requestId, (before.pending.get requestId).isSome = true →
    (after.pending.get requestId).isSome = true

theorem Settles.refl (service : FuseService) : Settles service service := ⟨.refl _, fun _ => id⟩

theorem isSome_set {pending : Record Pending} {other : String} {completion : Pending}
    (there : (pending.get requestId).isSome = true) :
    ((pending.set other completion).get requestId).isSome = true := by
  rw [Record.get_set]
  split
  · rfl
  · exact there

theorem settles_finish (service : FuseService) (request : CompletionRequest) (result : ProviderResult) :
    Settles service (left (finishCompletion request result service)) := by
  rcases finishCompletion_cases service request result with
    ⟨error, thrown⟩ | ⟨exactCostMicros, circuit, circuits, _, returned⟩
  · rw [thrown]
    exact .refl service
  · rw [returned]
    exact ⟨.refl _, fun _ => isSome_set⟩

theorem settles_release (service : FuseService) (released : String) (payment : Payment) :
    Settles service (left (releasePaidCompletion released payment service)) := by
  rcases releasePaidCompletion_cases service released payment with
    ⟨error, ledger, same, thrown⟩ | ⟨pending, handedOut, _, _, returned⟩ |
      ⟨pending, reclaimedMicros, ledger, _, _, same, _, returned⟩
  · rw [thrown]
    exact ⟨same, fun _ => id⟩
  · rw [returned]
    exact .refl service
  · rw [returned]
    exact ⟨same, fun _ => isSome_set⟩

/-- What an answer and a release leave of a run. -/
structure Answers (requestId : String) (run after : ServiceRun) : Prop where
  settles : Settles run.service after.service
  asked : after.asked = run.asked
  counts : after.evaluated.count requestId + waitingFor requestId after ≤
    run.evaluated.count requestId + waitingFor requestId run

theorem answered_answers {index : ℕ} {request : CompletionRequest}
    (waits : run.waiting[index]? = some request) (outcome : Except String ProviderResult) :
    Answers requestId run (run.answered index request outcome) := by
  have left_waiting : (run.waiting.map CompletionRequest.requestId).count requestId =
      ((run.waiting.eraseIdx index).map CompletionRequest.requestId).count requestId +
        if request.requestId = requestId then 1 else 0 := by
    obtain ⟨inside, same⟩ := List.getElem?_eq_some_iff.mp waits
    have together := (List.getElem_cons_eraseIdx_perm inside).map CompletionRequest.requestId
    rw [← together.count_eq, same, List.map_cons, List.count_cons]
    simp
  have here : waitingFor requestId run =
      ((run.waiting.eraseIdx index).map CompletionRequest.requestId).count requestId +
        if request.requestId = requestId then 1 else 0 := left_waiting
  unfold ServiceRun.answered
  cases outcome with
  | error error =>
    refine ⟨.refl run.service, rfl, ?_⟩
    show run.evaluated.count requestId + ((run.waiting.eraseIdx index).map _).count requestId ≤ _
    omega
  | ok result =>
    refine ⟨settles_finish run.service request result, rfl, ?_⟩
    show List.count requestId (if _ then _ else _) + ((run.waiting.eraseIdx index).map _).count requestId ≤ _
    rw [here]
    split
    · rw [List.count_cons]
      simp only [beq_iff_eq]
      omega
    · omega

/-- What a step does: a call goes on to the provider, or nothing of the kind. -/
theorem serviceStep_cases (requestId : String) (run : ServiceRun) (event : ServiceEvent) :
    Answers requestId run (run.serviceStep event) ∨
      ∃ request ledger, event = .call request ∧ asks (beginCompletion request run.service) = true ∧
        run.service.pending.get request.requestId = none ∧
        KeepsReservations run.service.ledger ledger ∧
        (ledger.reservations.find? request.requestId).isSome = true ∧
        (∀ other, other ≠ request.requestId →
          ledger.reservations.find? other = run.service.ledger.reservations.find? other) ∧
        run.serviceStep event =
          { run with
            service := { run.service with ledger }
            waiting := run.waiting ++ [request]
            asked := request.requestId :: run.asked } := by
  have unchanged : Answers requestId run run := ⟨.refl _, rfl, le_rfl⟩
  cases event with
  | call request =>
    rcases called_cases run request with ⟨_, same⟩ | ⟨ledger, goes, absent, keeps, reserved, others, same⟩
    · refine .inl ?_
      show Answers requestId run (run.called request)
      rw [same]
      exact unchanged
    · exact .inr ⟨request, ledger, rfl, goes, absent, keeps, reserved, others, same⟩
  | answer index outcome =>
    refine .inl ?_
    unfold ServiceRun.serviceStep
    dsimp only
    split
    · exact unchanged
    · next request waits => exact answered_answers waits outcome
  | release released payment =>
    exact .inl ⟨settles_release run.service released payment, rfl, le_rfl⟩

/-! ### Throughout a run -/

/-- The circuit evaluates no more often than the provider is called, and whoever has called it has a
reservation. -/
structure Tallied (requestId : String) (run : ServiceRun) : Prop where
  counts : run.evaluated.count requestId + waitingFor requestId run ≤ run.asked.count requestId
  reserved : 0 < run.asked.count requestId → run.isReserved requestId = true

theorem tallied_step (tallied : Tallied requestId run) (event : ServiceEvent) :
    Tallied requestId (run.serviceStep event) := by
  rcases serviceStep_cases requestId run event with answers |
      ⟨request, ledger, _, _, _, keeps, reserved, _, same⟩
  · refine ⟨?_, fun called => ?_⟩
    · rw [answers.asked]
      exact answers.counts.trans tallied.counts
    · rw [answers.asked] at called
      exact reserved_of_keeps answers.settles.same.keeps (tallied.reserved called)
  · rw [same]
    have counts := tallied.counts
    refine ⟨?_, fun called => ?_⟩
    · unfold waitingFor at counts ⊢
      simp only [List.map_append, List.map_cons, List.map_nil, List.count_append, List.count_cons,
        List.count_nil]
      omega
    · by_cases own : request.requestId = requestId
      · rw [← own]
        exact reserved
      · refine reserved_of_keeps keeps (tallied.reserved ?_)
        rw [List.count_cons_of_ne own] at called
        exact called

/-- The provider is called no more than once before a first call goes on again. -/
structure CalledFirst (requestId : String) (run : ServiceRun) : Prop where
  tallied : Tallied requestId run
  once : run.asked.count requestId ≤ 1

theorem calledFirst_step (first : CalledFirst requestId run) {event : ServiceEvent}
    (fresh : run.asksAgain requestId event = false) : CalledFirst requestId (run.serviceStep event) := by
  refine ⟨tallied_step first.tallied event, ?_⟩
  rcases serviceStep_cases requestId run event with answers | ⟨request, ledger, rfl, goes, _, _, _, _, same⟩
  · rw [answers.asked]
    exact first.once
  · rw [same]
    by_cases own : request.requestId = requestId
    · have unreserved : run.isReserved requestId = false := by
        simpa [ServiceRun.asksAgain, own, goes] using fresh
      have none_yet : ¬ 0 < run.asked.count requestId := fun called => by
        rw [first.tallied.reserved called] at unreserved
        cases unreserved
      show (request.requestId :: run.asked).count requestId ≤ 1
      rw [own, List.count_cons_self]
      omega
    · show (request.requestId :: run.asked).count requestId ≤ 1
      rw [List.count_cons_of_ne own]
      exact first.once

/-- As long as the provider has not been called for a request, its reservation has a completion. -/
def Unasked (requestId : String) (run : ServiceRun) : Prop :=
  run.asked.count requestId = 0 → run.isReserved requestId = true →
    (run.service.pending.get requestId).isSome = true

theorem unasked_step (unasked : Unasked requestId run) (event : ServiceEvent) :
    Unasked requestId (run.serviceStep event) := by
  intro uncalled reserved
  rcases serviceStep_cases requestId run event with answers | ⟨request, ledger, rfl, _, _, _, _, others, same⟩
  · rw [answers.asked] at uncalled
    refine answers.settles.pending requestId (unasked uncalled ?_)
    refine Option.isSome_iff_ne_none.mpr fun absent => ?_
    rw [ServiceRun.isReserved, answers.settles.same.absent requestId absent] at reserved
    cases reserved
  · rw [same] at uncalled reserved ⊢
    have other : request.requestId ≠ requestId := fun own => by
      rw [own, List.count_cons_self] at uncalled
      omega
    rw [List.count_cons_of_ne other] at uncalled
    refine unasked uncalled ?_
    rw [ServiceRun.isReserved, ← others requestId (Ne.symm other)]
    exact reserved

theorem asked_step (requestId : String) (run : ServiceRun) (event : ServiceEvent) :
    run.asked.count requestId ≤ (run.serviceStep event).asked.count requestId := by
  rcases serviceStep_cases requestId run event with answers | ⟨request, ledger, _, _, _, _, _, _, same⟩
  · rw [answers.asked]
  · rw [same]
    exact List.count_le_count_cons

theorem asked_run (requestId : String) (run : ServiceRun) (events : List ServiceEvent) :
    run.asked.count requestId ≤ (Foundation.run serviceStep run events).asked.count requestId :=
  @run_invariant _ _ _ (fun later => run.asked.count requestId ≤ later.asked.count requestId) run le_rfl
    (fun later event more => more.trans (asked_step requestId later event)) events

/-- A call that goes on again is one call too many. -/
theorem asksAgain_twice (unasked : Unasked requestId run) {event : ServiceEvent}
    (again : run.asksAgain requestId event = true) :
    1 < (run.serviceStep event).asked.count requestId := by
  rcases serviceStep_cases requestId run event with answers | ⟨request, ledger, rfl, goes, absent, _, _, _, same⟩
  · cases event with
    | call request =>
      obtain ⟨⟨own, reserved⟩, goes⟩ : (request.requestId = requestId ∧ run.isReserved requestId = true) ∧
          asks (beginCompletion request run.service) = true := by
        simpa [ServiceRun.asksAgain] using again
      rcases called_cases run request with ⟨stays, _⟩ | ⟨_, _, _, _, _, _, same⟩
      · rw [stays] at goes
        cases goes
      · have more := congrArg List.length answers.asked
        rw [show run.serviceStep (.call request) = run.called request from rfl, same] at more
        simp at more
    | answer | release => cases again
  · obtain ⟨⟨own, reserved⟩, _⟩ : (request.requestId = requestId ∧ run.isReserved requestId = true) ∧
        asks (beginCompletion request run.service) = true := by
      simpa [ServiceRun.asksAgain] using again
    have called : run.asked.count requestId ≠ 0 := fun uncalled => by
      have completed := unasked uncalled reserved
      rw [← own, absent] at completed
      cases completed
    rw [same]
    show 1 < (request.requestId :: run.asked).count requestId
    rw [own, List.count_cons_self]
    omega

theorem calledFirst_start (service : FuseService) : CalledFirst requestId (start service) :=
  ⟨⟨le_rfl, fun called => absurd called (lt_irrefl 0)⟩, Nat.zero_le 1⟩

theorem unasked_start {service : FuseService} (quiet : IsQuiet service) : Unasked requestId (start service) :=
  fun _ => quiet requestId

theorem fresh_of_once {events : List ServiceEvent} (unasked : Unasked requestId run)
    (once : (Foundation.run serviceStep run events).asked.count requestId ≤ 1) :
    Along serviceStep (fun run event => run.asksAgain requestId event = false) run events := by
  induction events generalizing run with
  | nil => trivial
  | cons event events ih =>
    refine ⟨?_, ih (unasked_step unasked event) once⟩
    by_contra again
    have twice := asksAgain_twice unasked (Bool.not_eq_false _ ▸ again)
    exact absurd once (not_le.mpr (twice.trans_le (asked_run requestId _ events)))

/-- **The provider is called once for a request** in every run in which no call for it goes on to the
provider while it is reserved; in a run from a service whose reservations have their completions, only then. -/
theorem provider_called_once (service : FuseService) (events : List ServiceEvent) (requestId : String) :
    (Along serviceStep (fun run event => run.asksAgain requestId event = false) (start service) events →
      CalledOnce requestId (Foundation.run serviceStep (start service) events)) ∧
    (IsQuiet service → CalledOnce requestId (Foundation.run serviceStep (start service) events) →
      Along serviceStep (fun run event => run.asksAgain requestId event = false) (start service) events) := by
  constructor
  · intro fresh
    have first : CalledFirst requestId (Foundation.run serviceStep (start service) events) :=
      fresh.invariant (calledFirst_start service) fun _ _ first fresh => calledFirst_step first fresh
    exact ⟨first.once, (Nat.le_of_add_right_le first.tallied.counts).trans first.once⟩
  · exact fun quiet once => fresh_of_once (unasked_start quiet) once.provider

end Laws

/-! ### Two calls at a time -/

namespace Sample

def demoService : FuseService where
  ledger := demoLedger
  price := ⟨"3.00", "15.00"⟩
  payerWallet := "0xDemoParentWallet"
  circuits := demoConfig.children.mapValues fun _ => .new circuitConfig
  pending := .empty

def demoRequest : CompletionRequest := ⟨"request-1", "scout", "demo-model", 10, 10, [], none, none⟩

def demoAnswer : ProviderResult := ⟨"chatcmpl-1", "done", ⟨10, 5⟩, none, none⟩

/-- The second call begins before the first one is answered. -/
def overlapping : List ServiceEvent :=
  [.call demoRequest, .call demoRequest, .answer 0 (.ok demoAnswer), .answer 0 (.ok demoAnswer)]

end Sample

theorem not_provider_called_once :
    ¬ ∀ (service : FuseService) (events : List ServiceEvent) (requestId : String),
      FuseService.createDemo none none = .ok service →
        CalledOnce requestId (Foundation.run serviceStep (start service) events) := by
  intro once
  have both := (once Sample.demoService Sample.overlapping "request-1" rfl).provider
  revert both
  decide +kernel

end FuseControlPlane.Core
