/-
The ledger of a mandate and its children (`core/ledger.ts`).

* `FuseLedger`: an account of the mandate, one of each child, and the reservations.
* `reserve`, `reconcile`, `reclaimAvailable`: the methods that change it.
* `exportState`, `fromState`: the ledger as data, and back.
-/

import FuseControlPlane.Foundation.Methods
import FuseControlPlane.Foundation.Records
import FuseControlPlane.Foundation.Runs

set_option linter.unusedSectionVars false

namespace FuseControlPlane.Core

open Foundation Foundation.Method

/-! ### Data -/

structure LedgerConfig where
  mandateId : String
  maximumSpendMicros : ℤ
  children : Record ℤ

structure Account where
  authorizedMicros : ℤ
  reservedMicros : ℤ
  settledMicros : ℤ
  deriving DecidableEq

inductive ReservationStatus
  | reserved | reconciled | released
  deriving DecidableEq

structure Reservation where
  requestId : String
  childId : String
  maximumMicros : ℤ
  actualMicros : Option ℤ
  status : ReservationStatus
  deriving DecidableEq

instance : Keyed Reservation String := ⟨Reservation.requestId⟩

def Account.available (account : Account) : ℤ :=
  account.authorizedMicros - account.reservedMicros - account.settledMicros

structure LedgerState where
  mandateId : String
  root : Account
  children : Record Account
  reservations : List Reservation

structure FuseLedger where
  mandateId : String
  root : Account
  children : Record Account
  reservations : Table Reservation

/-- The account of an allocation. -/
def allocated (amount : ℤ) : Account := ⟨amount, 0, 0⟩

/-! ### The ledger as data -/

namespace FuseLedger

/-- The constructor. -/
def new (config : LedgerConfig) : Except String FuseLedger :=
  if config.maximumSpendMicros ≤ 0 then .error "INVALID_ROOT_BUDGET"
  else if config.maximumSpendMicros < config.children.sum Entry.value then
    .error "CHILD_ALLOCATIONS_EXCEED_ROOT"
  else .ok
    { mandateId := config.mandateId
      root := allocated config.maximumSpendMicros
      children := config.children.mapValues allocated
      reservations := .empty }

def fromState (state : LedgerState) : Except String FuseLedger := do
  let ledger ← new
    { mandateId := state.mandateId
      maximumSpendMicros := state.root.authorizedMicros
      children := state.children.mapValues Account.authorizedMicros }
  return { ledger with
    root := state.root
    children := state.children.rows.foldl Table.put ledger.children
    reservations := state.reservations.foldl Table.put ledger.reservations }

def exportState (ledger : FuseLedger) : LedgerState where
  mandateId := ledger.mandateId
  root := ledger.root
  children := ledger.children.mapValues id
  reservations := ledger.reservations.rows

end FuseLedger

/-! ### Methods -/

/-- A method of a ledger. -/
abbrev LedgerM (α : Type) := Method FuseLedger α

def setRoot (account : Account) : LedgerM Unit := modify fun ledger => { ledger with root := account }

def setChild (childId : String) (account : Account) : LedgerM Unit :=
  modify fun ledger => { ledger with children := ledger.children.set childId account }

def setReservation (reservation : Reservation) : LedgerM Unit :=
  modify fun ledger => { ledger with reservations := ledger.reservations.put reservation }

/-- What the addition of a `bigint` to `undefined` throws. -/
def mixedTypes : String := "Cannot mix BigInt and other types, use explicit conversions"

namespace FuseLedger

/-- A member that the children inherit from `Object.prototype` has no number of its own: no comparison
with one holds, and none can be added to one. -/
def reserve (childId : String) (maximumMicros : ℤ) (requestId : String) : LedgerM Reservation := do
  let ledger ← get
  match ledger.reservations.find? requestId with
  | some existing => do
    check (existing.childId = childId && existing.maximumMicros = maximumMicros) "IDEMPOTENCY_CONFLICT"
    return existing
  | none => do
    check (0 < maximumMicros) "INVALID_RESERVATION"
    match ledger.children.property childId with
    | .undefined => throw "UNKNOWN_CHILD"
    | .inherited => do
      check (maximumMicros ≤ ledger.root.available) "ROOT_BUDGET_EXCEEDED"
      throw mixedTypes
    | .own child => do
      check (maximumMicros ≤ child.available) "CHILD_BUDGET_EXCEEDED"
      check (maximumMicros ≤ ledger.root.available) "ROOT_BUDGET_EXCEEDED"
      setChild childId { child with reservedMicros := child.reservedMicros + maximumMicros }
      setRoot { ledger.root with reservedMicros := ledger.root.reservedMicros + maximumMicros }
      let reservation : Reservation := ⟨requestId, childId, maximumMicros, none, .reserved⟩
      setReservation reservation
      return reservation

def reconcile (requestId : String) (actualMicros : ℤ) : LedgerM Reservation := do
  let ledger ← get
  match ledger.reservations.find? requestId with
  | none => throw "RESERVATION_NOT_FOUND"
  | some reservation =>
    if reservation.status = .reconciled then do
      check (reservation.actualMicros = some actualMicros) "IDEMPOTENCY_CONFLICT"
      return reservation
    else do
      check (reservation.status = .reserved) "RESERVATION_NOT_ACTIVE"
      check (0 ≤ actualMicros && actualMicros ≤ reservation.maximumMicros)
        "ACTUAL_COST_EXCEEDS_RESERVATION"
      match ledger.children.property reservation.childId with
      | .undefined => throw "Cannot read properties of undefined (reading 'reservedMicros')"
      | .inherited => throw mixedTypes
      | .own child => do
        let released := { child with reservedMicros := child.reservedMicros - reservation.maximumMicros }
        let root :=
          { ledger.root with reservedMicros := ledger.root.reservedMicros - reservation.maximumMicros }
        setChild reservation.childId released
        setRoot root
        setChild reservation.childId
          { released with settledMicros := released.settledMicros + actualMicros }
        setRoot { root with settledMicros := root.settledMicros + actualMicros }
        let reconciled := { reservation with actualMicros := some actualMicros, status := .reconciled }
        setReservation reconciled
        return reconciled

/-- What is reclaimed; `none` is the `NaN` of a member that the children inherit. -/
def reclaimAvailable (childId : String) : LedgerM (Option ℤ) := do
  let ledger ← get
  match ledger.children.property childId with
  | .undefined => throw "UNKNOWN_CHILD"
  | .inherited => return none
  | .own child => do
    setChild childId { child with authorizedMicros := child.authorizedMicros - child.available }
    return some child.available

end FuseLedger

/-! ### Calls -/

/-- A call on a ledger. `roundTrip` goes on with the ledger that is read back from its data. -/
inductive LedgerCall
  | reserve (childId : String) (maximumMicros : ℤ) (requestId : String)
  | reconcile (requestId : String) (actualMicros : ℤ)
  | reclaimAvailable (childId : String)
  | roundTrip

namespace FuseLedger

def roundTrip : LedgerM Unit := do
  let ledger ← get
  match fromState ledger.exportState with
  | .ok copy => set copy
  | .error error => throw error

/-- A call, without what it returns. -/
def perform : LedgerCall → LedgerM Unit
  | .reserve childId maximumMicros requestId => discard (reserve childId maximumMicros requestId)
  | .reconcile requestId actualMicros => discard (reconcile requestId actualMicros)
  | .reclaimAvailable childId => discard (reclaimAvailable childId)
  | .roundTrip => roundTrip

/-- The ledger after a call, whether it returns or throws. -/
def ledgerStep (ledger : FuseLedger) (call : LedgerCall) : FuseLedger := left (perform call ledger)

end FuseLedger

end FuseControlPlane.Core
