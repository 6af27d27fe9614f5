/-
What the methods of the demo service come to.

* `beginCompletion_cases`, `finishCompletion_cases`, `releasePaidCompletion_cases`: the outcomes of each
  method with the service it leaves.
-/

import FuseControlPlane.Core.FuseService
import FuseControlPlane.Core.LedgerConservation

set_option linter.unusedSectionVars false

namespace FuseControlPlane.Core

open Foundation Foundation.Method FuseService

variable (service : FuseService)

/-! ### Circuits -/

theorem assertOpen_cases (circuit : BranchCircuit) :
    BranchCircuit.assertOpen circuit = .ok () circuit ∨
      ∃ error, BranchCircuit.assertOpen circuit = .error error circuit := by
  unfold BranchCircuit.assertOpen
  rw [get_bind]
  unfold check
  split
  · exact .inl rfl
  · exact .inr ⟨_, rfl⟩

theorem evaluate_cases (circuit : BranchCircuit) (currentCostMicros : ℤ) :
    (∃ result after, BranchCircuit.evaluate currentCostMicros circuit = .ok result after) ∨
      ∃ error, BranchCircuit.evaluate currentCostMicros circuit = .error error circuit := by
  unfold BranchCircuit.evaluate
  rw [get_bind, check_bind]
  split
  · split
    · exact .inl ⟨_, _, rfl⟩
    · exact .inl ⟨_, _, rfl⟩
  · exact .inr ⟨_, rfl⟩

/-- A method of a circuit that throws changes nothing, and so does one of a child that is not there. -/
theorem onCircuit_cases {α : Type} (childId : String) (method : Method BranchCircuit α)
    (outcomes : ∀ circuit, (∃ value after, method circuit = .ok value after) ∨
      ∃ error, method circuit = .error error circuit) :
    (∃ error, onCircuit childId method service = .error error service) ∨
      ∃ circuit value after, service.circuits.get childId = some circuit ∧
        method circuit = .ok value after ∧ onCircuit childId method service =
          .ok value { service with circuits := service.circuits.set childId after } := by
  unfold onCircuit
  rw [get_bind]
  cases own : service.circuits.property childId with
  | undefined => exact .inl ⟨_, rfl⟩
  | inherited => exact .inl ⟨_, rfl⟩
  | own circuit =>
    have found := Record.property_eq_own.mp own
    dsimp only
    rcases outcomes circuit with ⟨value, after, returned⟩ | ⟨error, thrown⟩
    · exact .inr ⟨circuit, value, after, found, returned, onPart_ok returned⟩
    · refine .inl ⟨error, (onPart_error thrown).trans ?_⟩
      rw [Record.set_of_get found]

/-- Whether the circuit of a child is open is only looked up. -/
theorem onCircuit_assertOpen_cases (childId : String) :
    (∃ error, onCircuit childId BranchCircuit.assertOpen service = .error error service) ∨
      onCircuit childId BranchCircuit.assertOpen service = .ok () service := by
  rcases onCircuit_cases service childId BranchCircuit.assertOpen fun circuit =>
      (assertOpen_cases circuit).imp_left fun returned => ⟨(), circuit, returned⟩ with
    thrown | ⟨circuit, value, after, found, returned, same⟩
  · exact .inl thrown
  · refine .inr (same.trans ?_)
    rcases assertOpen_cases circuit with opened | ⟨error, thrown⟩
    · rw [opened] at returned
      cases returned
      rw [Record.set_of_get found]
    · rw [thrown] at returned
      cases returned

/-! ### Completions -/

/-- What `prepareCompletion` comes to before it calls its provider. -/
theorem beginCompletion_cases (request : CompletionRequest) :
    (∃ error, beginCompletion request service = .error error service) ∨
    (∃ cached, service.pending.get request.requestId = some cached ∧
      beginCompletion request service =
        .ok (.cached (service.paymentRequired request.requestId cached.exactCostMicros)) service) ∨
    ∃ maximumMicros reservation ledger, service.pending.get request.requestId = none ∧
      FuseLedger.reserve request.childId maximumMicros request.requestId service.ledger =
        .ok reservation ledger ∧
      beginCompletion request service = .ok .asks { service with ledger } := by
  unfold beginCompletion
  rw [get_bind]
  cases cached : service.pending.get request.requestId with
  | some completion => exact .inr (.inl ⟨completion, rfl, rfl⟩)
  | none =>
    dsimp only
    rcases onCircuit_assertOpen_cases service request.childId with ⟨error, thrown⟩ | opened
    · exact .inl ⟨error, bind_error thrown⟩
    · rw [bind_ok opened, fromExcept_bind]
      split
      · next maximumMicros priced =>
        rcases reserve_cases service.ledger request.childId maximumMicros request.requestId with
          ⟨error, thrown⟩ | ⟨existing, returned, _⟩ | ⟨child, _, _, _, _, _, returned⟩
        · refine .inl ⟨error, bind_error ?_⟩
          exact onPart_error thrown
        · refine .inr (.inr ⟨maximumMicros, existing, service.ledger, rfl, returned, ?_⟩)
          exact bind_ok (onPart_ok returned)
        · refine .inr (.inr ⟨maximumMicros, _, _, rfl, returned, ?_⟩)
          exact bind_ok (onPart_ok returned)
      · exact .inl ⟨_, rfl⟩

/-- What `prepareCompletion` comes to once its provider has answered. -/
theorem finishCompletion_cases (request : CompletionRequest) (result : ProviderResult) :
    (∃ error, finishCompletion request result service = .error error service) ∨
    ∃ exactCostMicros circuit circuits,
      calculateCostMicros result.usage service.price = .ok exactCostMicros ∧
      finishCompletion request result service =
        .ok (service.paymentRequired request.requestId exactCostMicros)
          { service with
            circuits
            pending := service.pending.set request.requestId
              ⟨request, result, exactCostMicros, circuit, none⟩ } := by
  unfold finishCompletion
  rw [get_bind, fromExcept_bind]
  split
  · next exactCostMicros priced =>
    rcases onCircuit_cases service request.childId (BranchCircuit.evaluate exactCostMicros)
        fun circuit => evaluate_cases circuit exactCostMicros with
      ⟨error, thrown⟩ | ⟨circuit, value, after, found, evaluated, returned⟩
    · exact .inl ⟨error, bind_error thrown⟩
    · refine .inr ⟨exactCostMicros, value, service.circuits.set request.childId after, priced, ?_⟩
      rw [bind_ok returned]
      rfl
  · exact .inl ⟨_, rfl⟩

/-- What `prepareCompletion` comes to. -/
theorem prepareCompletion_cases (request : CompletionRequest) (outcome : Except String ProviderResult) :
    (∃ error after, prepareCompletion request outcome service = .error error after) ∨
    (∃ cached, service.pending.get request.requestId = some cached ∧
      prepareCompletion request outcome service =
        .ok (service.paymentRequired request.requestId cached.exactCostMicros) service) ∨
    ∃ maximumMicros reservation ledger result exactCostMicros circuit circuits,
      service.pending.get request.requestId = none ∧
      FuseLedger.reserve request.childId maximumMicros request.requestId service.ledger =
        .ok reservation ledger ∧
      prepareCompletion request outcome service =
        .ok (service.paymentRequired request.requestId exactCostMicros)
          { service with
            ledger
            circuits
            pending := service.pending.set request.requestId
              ⟨request, result, exactCostMicros, circuit, none⟩ } := by
  unfold prepareCompletion
  rcases beginCompletion_cases service request with
    ⟨error, thrown⟩ | ⟨cached, found, returned⟩ | ⟨maximumMicros, reservation, ledger, absent, reserves, returned⟩
  · exact .inl ⟨error, service, bind_error thrown⟩
  · exact .inr (.inl ⟨cached, found, bind_ok returned⟩)
  · rw [bind_ok returned]
    dsimp only
    rw [fromExcept_bind]
    cases outcome with
    | error error => exact .inl ⟨error, _, rfl⟩
    | ok result =>
      rcases finishCompletion_cases { service with ledger } request result with
        ⟨error, thrown⟩ | ⟨exactCostMicros, circuit, circuits, _, same⟩
      · exact .inl ⟨error, _, thrown⟩
      · exact .inr (.inr ⟨maximumMicros, reservation, ledger, result, exactCostMicros, circuit, circuits,
          absent, reserves, same⟩)

/-! ### Reservations -/

theorem reserved_of_keeps {requestId : String} {before after : FuseLedger} (keeps : KeepsReservations before after)
    (reserved : (before.reservations.find? requestId).isSome = true) :
    (after.reservations.find? requestId).isSome = true := by
  obtain ⟨reservation, found⟩ := Option.isSome_iff_exists.mp reserved
  obtain ⟨later, there, _⟩ := keeps requestId reservation found
  rw [there]
  rfl

/-- What `reserve` leaves when it returns. -/
theorem reserve_keeps {ledger after : FuseLedger} {childId requestId : String} {maximumMicros : ℤ}
    {reservation : Reservation}
    (returned : FuseLedger.reserve childId maximumMicros requestId ledger = .ok reservation after) :
    KeepsReservations ledger after ∧ (after.reservations.find? requestId).isSome = true ∧
      ∀ other, other ≠ requestId → after.reservations.find? other = ledger.reservations.find? other := by
  rcases reserve_cases ledger childId maximumMicros requestId with
    ⟨error, thrown⟩ | ⟨existing, same, found⟩ | ⟨child, _, absent, _, _, _, same⟩
  · rw [thrown] at returned
    cases returned
  · rw [same] at returned
    cases returned
    exact ⟨.refl ledger, by rw [found]; rfl, fun _ _ => rfl⟩
  · rw [same] at returned
    cases returned
    refine ⟨keepsReservations_reserve absent, ?_, fun other different => Table.find?_put_of_ne _ different⟩
    show ((ledger.reservations.put _).find? requestId).isSome = true
    rw [Table.find?_put]
    exact congrArg Option.isSome (if_pos rfl)

/-! ### Releases -/

/-- The reservation of a request is reconciled with a cost. -/
def IsSettled (ledger : FuseLedger) (requestId : String) (exactCostMicros : ℤ) : Prop :=
  ∃ reservation, ledger.reservations.find? requestId = some reservation ∧
    reservation.status = .reconciled ∧ reservation.actualMicros = some exactCostMicros

/-- The same reservations, later. -/
structure SameReservations (before after : FuseLedger) : Prop where
  keeps : KeepsReservations before after
  absent : ∀ requestId, before.reservations.find? requestId = none →
    after.reservations.find? requestId = none

theorem SameReservations.refl (ledger : FuseLedger) : SameReservations ledger ledger :=
  ⟨.refl ledger, fun _ => id⟩

/-- What is reclaimed for a release changes no reservation. -/
theorem reclaim_cases (pending : Pending) :
    (∃ error, reclaim pending service = .error error service) ∨
      ∃ reclaimedMicros ledger, ledger.reservations = service.ledger.reservations ∧
        reclaim pending service = .ok reclaimedMicros { service with ledger } := by
  unfold reclaim
  split
  · rcases reclaimAvailable_cases service.ledger pending.request.childId with
      ⟨error, thrown⟩ | returned | ⟨child, _, returned⟩
    · exact .inl ⟨error, onPart_error thrown⟩
    · exact .inr ⟨none, service.ledger, rfl, onPart_ok returned⟩
    · exact .inr ⟨some child.available, { service.ledger with
        children := service.ledger.children.set pending.request.childId child.reclaim }, rfl,
        onPart_ok returned⟩
  · exact .inr ⟨some 0, service.ledger, rfl, rfl⟩

/-- What a reservation is once it has been reconciled. -/
theorem reconcile_outcome (ledger : FuseLedger) (requestId : String) (actualMicros : ℤ) :
    (∃ error, FuseLedger.reconcile requestId actualMicros ledger = .error error ledger) ∨
      ∃ reservation after, FuseLedger.reconcile requestId actualMicros ledger = .ok reservation after ∧
        SameReservations ledger after ∧ IsSettled after requestId actualMicros := by
  rcases reconcile_cases ledger requestId actualMicros with
    thrown | ⟨existing, returned, found, settled, cost⟩ |
      ⟨reservation, child, stored, active, _, _, _, returned⟩
  · exact .inl thrown
  · exact .inr ⟨existing, ledger, returned, .refl ledger, existing, found, settled, cost⟩
  · have own : reservation.requestId = requestId := Table.key_of_find? stored
    refine .inr ⟨_, _, returned, ⟨keepsReservations_reconcile stored active, fun other absent => ?_⟩,
      reservation.reconciledWith actualMicros, ?_, rfl, rfl⟩
    · show (ledger.reservations.put _).find? other = none
      rw [Table.find?_put_of_ne, absent]
      intro same
      rw [show other = requestId from same.trans own, stored] at absent
      cases absent
    show (ledger.reservations.put _).find? requestId = some (reservation.reconciledWith actualMicros)
    rw [Table.find?_put]
    exact if_pos own.symm

/-- What `releasePaidCompletion` comes to. -/
theorem releasePaidCompletion_cases (requestId : String) (payment : Payment) :
    (∃ error ledger, SameReservations service.ledger ledger ∧
      releasePaidCompletion requestId payment service = .error error { service with ledger }) ∨
    (∃ pending released, service.pending.get requestId = some pending ∧
      pending.released = some released ∧
      releasePaidCompletion requestId payment service = .ok released service) ∨
    ∃ pending reclaimedMicros ledger, service.pending.get requestId = some pending ∧
      pending.released = none ∧ SameReservations service.ledger ledger ∧
      IsSettled ledger requestId pending.exactCostMicros ∧
      releasePaidCompletion requestId payment service =
        .ok (releasedCompletion service.payerWallet requestId pending payment reclaimedMicros)
          { service with
            ledger
            pending := service.pending.set requestId
              { pending with
                released := some
                  (releasedCompletion service.payerWallet requestId pending payment reclaimedMicros) } } := by
  unfold releasePaidCompletion
  rw [get_bind]
  cases found : service.pending.get requestId with
  | none => exact .inl ⟨_, service.ledger, .refl _, rfl⟩
  | some pending =>
    dsimp only
    cases handedOut : pending.released with
    | some released => exact .inr (.inl ⟨pending, released, rfl, handedOut, rfl⟩)
    | none =>
      dsimp only
      rcases reconcile_outcome service.ledger requestId pending.exactCostMicros with
        ⟨error, thrown⟩ | ⟨reservation, ledger, returned, same, settled⟩
      · refine .inl ⟨error, service.ledger, .refl _, bind_error ?_⟩
        exact onPart_error thrown
      · have reconciles : onLedger (FuseLedger.reconcile requestId pending.exactCostMicros) service =
            .ok reservation { service with ledger } := onPart_ok returned
        rw [bind_ok reconciles]
        rcases reclaim_cases { service with ledger } pending with
          ⟨error, thrown⟩ | ⟨reclaimedMicros, after, unchanged, reclaims⟩
        · exact .inl ⟨error, ledger, same, bind_error thrown⟩
        · refine .inr (.inr ⟨pending, reclaimedMicros, after, rfl, handedOut, ⟨?_, ?_⟩, ?_, ?_⟩)
          · intro other held stored
            rw [unchanged]
            exact same.keeps other held stored
          · intro other absent
            rw [unchanged]
            exact same.absent other absent
          · obtain ⟨reconciled, stored, status, cost⟩ := settled
            exact ⟨reconciled, by rw [unchanged]; exact stored, status, cost⟩
          · rw [bind_ok reclaims]
            rfl

end FuseControlPlane.Core
