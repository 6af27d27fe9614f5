/-
Conservation of a ledger's budget.

* `reserve_cases`, `reconcile_cases`, `reclaimAvailable_cases`, `roundTrip_cases`: what each method comes to.
* `LedgerConserved`: no account is overdrawn, and the accounts of the mandate and of its children agree
  with the reservations.
* `ledger_conservation`: **every ledger is conserved** whatever is called on it, a reservation keeps the cost
  it is reconciled with, and a call that throws changes nothing.
-/

import FuseControlPlane.Core.Ledger

set_option linter.unusedSectionVars false

namespace FuseControlPlane.Core

open Foundation Foundation.Method FuseLedger

/-! ### Methods -/

section Methods

variable (ledger : FuseLedger)

/-- The ledger after a reservation. -/
def reservedIn (childId : String) (child : Account) (maximumMicros : ℤ) (requestId : String) :
    FuseLedger :=
  { ledger with
    root := { ledger.root with reservedMicros := ledger.root.reservedMicros + maximumMicros }
    children :=
      ledger.children.set childId { child with reservedMicros := child.reservedMicros + maximumMicros }
    reservations := ledger.reservations.put ⟨requestId, childId, maximumMicros, none, .reserved⟩ }

/-- What `reserve` comes to. -/
theorem reserve_cases (childId : String) (maximumMicros : ℤ) (requestId : String) :
    (∃ error, reserve childId maximumMicros requestId ledger = .error error ledger) ∨
    (∃ existing, reserve childId maximumMicros requestId ledger = .ok existing ledger ∧
      ledger.reservations.find? requestId = some existing) ∨
    ∃ child, ledger.children.get childId = some child ∧
      ledger.reservations.find? requestId = none ∧ 0 < maximumMicros ∧
      maximumMicros ≤ child.available ∧ maximumMicros ≤ ledger.root.available ∧
      reserve childId maximumMicros requestId ledger =
        .ok ⟨requestId, childId, maximumMicros, none, .reserved⟩
          (reservedIn ledger childId child maximumMicros requestId) := by
  unfold reserve
  simp only [get_bind]
  cases found : ledger.reservations.find? requestId with
  | some existing =>
    simp only [check_bind]
    split
    · exact .inr (.inl ⟨existing, rfl, rfl⟩)
    · exact .inl ⟨_, rfl⟩
  | none =>
    simp only [check_bind]
    split
    · next positive =>
      cases own : ledger.children.property childId with
      | undefined => exact .inl ⟨_, rfl⟩
      | inherited =>
        simp only [check_bind]
        split <;> exact .inl ⟨_, rfl⟩
      | own child =>
        simp only [check_bind]
        split
        · next inChild =>
          split
          · next inRoot =>
            exact .inr (.inr ⟨child, Record.property_eq_own.mp own, trivial, of_decide_eq_true positive,
              of_decide_eq_true inChild, of_decide_eq_true inRoot, rfl⟩)
          · exact .inl ⟨_, rfl⟩
        · exact .inl ⟨_, rfl⟩
    · exact .inl ⟨_, rfl⟩

/-- A reservation with its cost. -/
def Reservation.reconciledWith (actualMicros : ℤ) (reservation : Reservation) : Reservation :=
  { reservation with actualMicros := some actualMicros, status := .reconciled }

/-- The account after a reservation is reconciled. -/
def Account.settle (maximumMicros actualMicros : ℤ) (account : Account) : Account :=
  { account with
    reservedMicros := account.reservedMicros - maximumMicros
    settledMicros := account.settledMicros + actualMicros }

/-- The ledger after a reservation is reconciled. -/
def reconciledIn (reservation : Reservation) (child : Account) (actualMicros : ℤ) : FuseLedger :=
  { ledger with
    root := ledger.root.settle reservation.maximumMicros actualMicros
    children := ledger.children.set reservation.childId
      (child.settle reservation.maximumMicros actualMicros)
    reservations := ledger.reservations.put (reservation.reconciledWith actualMicros) }

/-- What `reconcile` comes to. -/
theorem reconcile_cases (requestId : String) (actualMicros : ℤ) :
    (∃ error, reconcile requestId actualMicros ledger = .error error ledger) ∨
    (∃ existing, reconcile requestId actualMicros ledger = .ok existing ledger ∧
      ledger.reservations.find? requestId = some existing ∧ existing.status = .reconciled ∧
      existing.actualMicros = some actualMicros) ∨
    ∃ reservation child, ledger.reservations.find? requestId = some reservation ∧
      reservation.status = .reserved ∧ 0 ≤ actualMicros ∧ actualMicros ≤ reservation.maximumMicros ∧
      ledger.children.get reservation.childId = some child ∧
      reconcile requestId actualMicros ledger = .ok (reservation.reconciledWith actualMicros)
        (reconciledIn ledger reservation child actualMicros) := by
  unfold reconcile
  simp only [get_bind]
  cases found : ledger.reservations.find? requestId with
  | none => exact .inl ⟨_, rfl⟩
  | some reservation =>
    dsimp only
    split
    · next settled =>
      simp only [check_bind]
      split
      · next same => exact .inr (.inl ⟨reservation, rfl, rfl, settled, of_decide_eq_true same⟩)
      · exact .inl ⟨_, rfl⟩
    · simp only [check_bind]
      split
      · next active =>
        split
        · next within =>
          cases own : ledger.children.property reservation.childId with
          | undefined => exact .inl ⟨_, rfl⟩
          | inherited => exact .inl ⟨_, rfl⟩
          | own child =>
            rw [Bool.and_eq_true, decide_eq_true_eq, decide_eq_true_eq] at within
            refine .inr (.inr ⟨reservation, child, rfl, of_decide_eq_true active, within.1, within.2,
              Record.property_eq_own.mp own, ?_⟩)
            unfold reconciledIn
            rw [← Record.set_set ledger.children reservation.childId
              { child with reservedMicros := child.reservedMicros - reservation.maximumMicros }]
            rfl
        · exact .inl ⟨_, rfl⟩
      · exact .inl ⟨_, rfl⟩

/-- The account after what is available has been reclaimed. -/
def Account.reclaim (account : Account) : Account :=
  { account with authorizedMicros := account.authorizedMicros - account.available }

/-- What `reclaimAvailable` comes to. -/
theorem reclaimAvailable_cases (childId : String) :
    (∃ error, reclaimAvailable childId ledger = .error error ledger) ∨
    reclaimAvailable childId ledger = .ok none ledger ∨
    ∃ child, ledger.children.get childId = some child ∧
      reclaimAvailable childId ledger = .ok (some child.available)
        { ledger with children := ledger.children.set childId child.reclaim } := by
  unfold reclaimAvailable
  simp only [get_bind]
  cases own : ledger.children.property childId with
  | undefined => exact .inl ⟨_, rfl⟩
  | inherited => exact .inr (.inl rfl)
  | own child => exact .inr (.inr ⟨child, Record.property_eq_own.mp own, rfl⟩)

/-- A ledger whose allocations are within its budget is read back as it is. -/
theorem fromState_exportState (positive : 0 < ledger.root.authorizedMicros)
    (within : (ledger.children.sum fun entry => entry.value.authorizedMicros) ≤
      ledger.root.authorizedMicros) : fromState ledger.exportState = .ok ledger := by
  have allocations : ((ledger.exportState.children.mapValues Account.authorizedMicros).sum
      Entry.value) = ledger.children.sum fun entry => entry.value.authorizedMicros := by
    rw [Record.sum_mapValues]
    unfold exportState
    rw [Record.mapValues_id]
  have children : ledger.exportState.children.rows.foldl Table.put
      ((ledger.exportState.children.mapValues Account.authorizedMicros).mapValues allocated) =
        ledger.children := by
    rw [Record.mapValues_mapValues, Record.foldl_set_mapValues]
    exact Record.mapValues_id ledger.children
  unfold fromState FuseLedger.new
  rw [if_neg (show ¬ ledger.exportState.root.authorizedMicros ≤ 0 from not_le.mpr positive),
    if_neg (by rw [allocations]; exact not_lt.mpr within)]
  show Except.ok { ledger with
    children := ledger.exportState.children.rows.foldl Table.put
      ((ledger.exportState.children.mapValues Account.authorizedMicros).mapValues allocated)
    reservations := ledger.reservations.rows.foldl Table.put .empty } = .ok ledger
  rw [children, Table.foldl_put_empty]

end Methods

/-! ### Reservations that stay -/

/-- The same reservation, later. -/
structure Reservation.Continues (before after : Reservation) : Prop where
  childId : after.childId = before.childId
  maximumMicros : after.maximumMicros = before.maximumMicros
  reconciled : before.status = .reconciled → after = before

/-- Every reservation stays. -/
def KeepsReservations (before after : FuseLedger) : Prop :=
  ∀ requestId reservation, before.reservations.find? requestId = some reservation →
    ∃ later, after.reservations.find? requestId = some later ∧ reservation.Continues later

theorem KeepsReservations.refl (ledger : FuseLedger) : KeepsReservations ledger ledger :=
  fun _ reservation found => ⟨reservation, found, rfl, rfl, fun _ => rfl⟩

theorem KeepsReservations.trans {first second third : FuseLedger}
    (earlier : KeepsReservations first second) (later : KeepsReservations second third) :
    KeepsReservations first third := by
  intro requestId reservation found
  obtain ⟨middle, there, childId, maximumMicros, same⟩ := earlier requestId reservation found
  obtain ⟨last, here, childId', maximumMicros', same'⟩ := later requestId middle there
  refine ⟨last, here, childId'.trans childId, maximumMicros'.trans maximumMicros, fun reconciled => ?_⟩
  have unchanged := same reconciled
  rw [← unchanged]
  exact same' (by rw [unchanged]; exact reconciled)

/-- A reservation under a new id leaves the others. -/
theorem keepsReservations_reserve {ledger : FuseLedger} {childId requestId : String} {child : Account}
    {maximumMicros : ℤ} (absent : ledger.reservations.find? requestId = none) :
    KeepsReservations ledger (reservedIn ledger childId child maximumMicros requestId) := by
  intro other reservation found
  refine ⟨reservation, ?_, rfl, rfl, fun _ => rfl⟩
  show (ledger.reservations.put _).find? other = some reservation
  rw [Table.find?_put_of_ne, found]
  intro same
  rw [show other = requestId from same, absent] at found
  cases found

/-- A reservation that is reconciled was active. -/
theorem keepsReservations_reconcile {ledger : FuseLedger} {requestId : String} {reservation : Reservation}
    {child : Account} {actualMicros : ℤ}
    (stored : ledger.reservations.find? requestId = some reservation)
    (active : reservation.status = .reserved) :
    KeepsReservations ledger (reconciledIn ledger reservation child actualMicros) := by
  intro other held found
  show ∃ later, (ledger.reservations.put _).find? other = some later ∧ _
  have own : reservation.requestId = requestId := Table.key_of_find? stored
  by_cases same : other = requestId
  · rw [same, stored] at found
    cases found
    refine ⟨reservation.reconciledWith actualMicros, ?_, rfl, rfl, fun reconciled => ?_⟩
    · rw [Table.find?_put]
      exact if_pos (same.trans own.symm)
    · rw [active] at reconciled
      cases reconciled
  · refine ⟨held, ?_, rfl, rfl, fun _ => rfl⟩
    rw [Table.find?_put_of_ne, found]
    exact fun here => same (here.trans own)

/-! ### Conservation -/

/-- What a reservation holds while it is active. -/
def Reservation.heldMicros (reservation : Reservation) : ℤ :=
  if reservation.status = .reserved then reservation.maximumMicros else 0

/-- What a reservation has cost once it is reconciled. -/
def Reservation.costMicros (reservation : Reservation) : ℤ :=
  if reservation.status = .reconciled then reservation.actualMicros.getD 0 else 0

/-- The account is not overdrawn. -/
structure Account.Bounded (account : Account) : Prop where
  reserved : 0 ≤ account.reservedMicros
  settled : 0 ≤ account.settledMicros
  authorized : account.reservedMicros + account.settledMicros ≤ account.authorizedMicros

/-- No account is overdrawn, and the accounts agree with each other and with the reservations. -/
structure LedgerConserved (ledger : FuseLedger) : Prop where
  root : ledger.root.Bounded
  children : ∀ entry ∈ ledger.children, entry.value.Bounded
  reservedByChildren :
    ledger.root.reservedMicros = ledger.children.sum fun entry => entry.value.reservedMicros
  settledByChildren :
    ledger.root.settledMicros = ledger.children.sum fun entry => entry.value.settledMicros
  reservedByReservations : ledger.root.reservedMicros = ledger.reservations.sum Reservation.heldMicros
  settledByReservations : ledger.root.settledMicros = ledger.reservations.sum Reservation.costMicros
  authorized : (ledger.children.sum fun entry => entry.value.authorizedMicros) ≤
    ledger.root.authorizedMicros

/-- What the reservations of a child hold. -/
def heldFor (childId : String) (reservation : Reservation) : ℤ :=
  if reservation.childId = childId then reservation.heldMicros else 0

/-- The invariant: besides, the account of each child agrees with the reservations of that child. -/
structure LedgerSound (ledger : FuseLedger) : Prop where
  positive : 0 < ledger.root.authorizedMicros
  reservations : ∀ reservation ∈ ledger.reservations, 0 < reservation.maximumMicros
  children : ∀ entry ∈ ledger.children, entry.value.Bounded
  reservedByChildren :
    ledger.root.reservedMicros = ledger.children.sum fun entry => entry.value.reservedMicros
  settledByChildren :
    ledger.root.settledMicros = ledger.children.sum fun entry => entry.value.settledMicros
  reservedByReservations : ledger.root.reservedMicros = ledger.reservations.sum Reservation.heldMicros
  settledByReservations : ledger.root.settledMicros = ledger.reservations.sum Reservation.costMicros
  authorized : (ledger.children.sum fun entry => entry.value.authorizedMicros) ≤
    ledger.root.authorizedMicros
  childReserved : ∀ entry ∈ ledger.children,
    entry.value.reservedMicros = ledger.reservations.sum (heldFor entry.name)

section Laws

variable {ledger : FuseLedger}

theorem LedgerSound.conserved (sound : LedgerSound ledger) : LedgerConserved ledger where
  root := by
    have reserved : 0 ≤ ledger.root.reservedMicros := by
      rw [sound.reservedByChildren]
      exact Table.sum_nonneg fun entry member => (sound.children entry member).reserved
    have settled : 0 ≤ ledger.root.settledMicros := by
      rw [sound.settledByChildren]
      exact Table.sum_nonneg fun entry member => (sound.children entry member).settled
    refine ⟨reserved, settled, le_trans ?_ sound.authorized⟩
    calc ledger.root.reservedMicros + ledger.root.settledMicros
        = ledger.children.sum fun entry => entry.value.reservedMicros + entry.value.settledMicros := by
          rw [sound.reservedByChildren, sound.settledByChildren]
          exact List.sum_map_add.symm
      _ ≤ ledger.children.sum fun entry => entry.value.authorizedMicros :=
          Table.sum_le_sum fun entry member => (sound.children entry member).authorized
  children := sound.children
  reservedByChildren := sound.reservedByChildren
  settledByChildren := sound.settledByChildren
  reservedByReservations := sound.reservedByReservations
  settledByReservations := sound.settledByReservations
  authorized := sound.authorized

/-! ### What each method does to it -/

theorem member_of_get {childId : String} {child : Account} (found : ledger.children.get childId = some child) :
    (⟨childId, child⟩ : Entry Account) ∈ ledger.children :=
  Table.mem_of_find? (Record.get_eq_some.mp found)

/-- More reserved and more settled. -/
def Account.move (reserved settled : ℤ) (account : Account) : Account :=
  { account with
    reservedMicros := account.reservedMicros + reserved
    settledMicros := account.settledMicros + settled }

/-- The account of a child, that of the mandate and a reservation change by the same amounts. -/
theorem ledgerSound_move (sound : LedgerSound ledger) {child : Account} {reservation : Reservation}
    {reserved settled : ℤ} (found : ledger.children.get reservation.childId = some child)
    (bounded : (child.move reserved settled).Bounded) (positive : 0 < reservation.maximumMicros)
    (held : (ledger.reservations.put reservation).sum Reservation.heldMicros =
      ledger.reservations.sum Reservation.heldMicros + reserved)
    (heldByChild : (ledger.reservations.put reservation).sum (heldFor reservation.childId) =
      ledger.reservations.sum (heldFor reservation.childId) + reserved)
    (heldByOthers : ∀ childId, childId ≠ reservation.childId →
      (ledger.reservations.put reservation).sum (heldFor childId) =
        ledger.reservations.sum (heldFor childId))
    (cost : (ledger.reservations.put reservation).sum Reservation.costMicros =
      ledger.reservations.sum Reservation.costMicros + settled) :
    LedgerSound { ledger with
      root := ledger.root.move reserved settled
      children := ledger.children.set reservation.childId (child.move reserved settled)
      reservations := ledger.reservations.put reservation } where
  positive := sound.positive
  reservations := by
    intro other member
    rcases Table.mem_put.mp member with rfl | ⟨before, _⟩
    · exact positive
    · exact sound.reservations other before
  children := by
    intro entry member
    rcases Table.mem_put.mp member with rfl | ⟨before, _⟩
    · exact bounded
    · exact sound.children entry before
  reservedByChildren := by
    have exchanged := Record.sum_set_existing found (child.move reserved settled)
      fun entry => entry.value.reservedMicros
    have before := sound.reservedByChildren
    simp only [Account.move] at exchanged ⊢
    omega
  settledByChildren := by
    have exchanged := Record.sum_set_existing found (child.move reserved settled)
      fun entry => entry.value.settledMicros
    have before := sound.settledByChildren
    simp only [Account.move] at exchanged ⊢
    omega
  reservedByReservations := by
    rw [held, ← sound.reservedByReservations]
    rfl
  settledByReservations := by
    rw [cost, ← sound.settledByReservations]
    rfl
  authorized := by
    have exchanged := Record.sum_set_existing found (child.move reserved settled)
      fun entry => entry.value.authorizedMicros
    have before := sound.authorized
    simp only [Account.move] at exchanged ⊢
    omega
  childReserved := by
    intro entry member
    rcases Table.mem_put.mp member with rfl | ⟨before, different⟩
    · show child.reservedMicros + reserved = _
      rw [heldByChild, sound.childReserved _ (member_of_get found)]
    · rw [heldByOthers entry.name different]
      exact sound.childReserved entry before

theorem ledgerSound_reserve (sound : LedgerSound ledger) {childId requestId : String} {child : Account}
    {maximumMicros : ℤ} (found : ledger.children.get childId = some child)
    (absent : ledger.reservations.find? requestId = none) (positive : 0 < maximumMicros)
    (within : maximumMicros ≤ child.available) :
    LedgerSound (reservedIn ledger childId child maximumMicros requestId) := by
  have moved : ∀ account : Account, account.move maximumMicros 0 =
      { account with reservedMicros := account.reservedMicros + maximumMicros } := by
    intro account
    simp [Account.move]
  have added : ∀ weight : Reservation → ℤ,
      (ledger.reservations.put ⟨requestId, childId, maximumMicros, none, .reserved⟩).sum weight =
        ledger.reservations.sum weight + weight ⟨requestId, childId, maximumMicros, none, .reserved⟩ :=
    Table.sum_put_new absent
  have bounded : child.Bounded := sound.children _ (member_of_get found)
  unfold reservedIn
  rw [← moved, ← moved]
  refine @ledgerSound_move ledger sound child ⟨requestId, childId, maximumMicros, none, .reserved⟩
    maximumMicros 0 found ⟨?_, ?_, ?_⟩ positive (added _) ?_ (fun other different => ?_) (added _)
  · show 0 ≤ child.reservedMicros + maximumMicros
    have reserved := bounded.reserved
    omega
  · show 0 ≤ child.settledMicros + 0
    have settled := bounded.settled
    omega
  · show child.reservedMicros + maximumMicros + (child.settledMicros + 0) ≤ child.authorizedMicros
    unfold Account.available at within
    omega
  · rw [added]
    simp [heldFor, Reservation.heldMicros]
  · rw [added]
    simp [heldFor, different.symm]

theorem ledgerSound_reconcile (sound : LedgerSound ledger) {requestId : String}
    {reservation : Reservation} {child : Account} {actualMicros : ℤ}
    (stored : ledger.reservations.find? requestId = some reservation)
    (active : reservation.status = .reserved) (nonnegative : 0 ≤ actualMicros)
    (within : actualMicros ≤ reservation.maximumMicros)
    (found : ledger.children.get reservation.childId = some child) :
    LedgerSound (reconciledIn ledger reservation child actualMicros) := by
  have settles : ∀ account : Account, account.move (-reservation.maximumMicros) actualMicros =
      account.settle reservation.maximumMicros actualMicros := fun account => rfl
  have exchanged : ∀ weight : Reservation → ℤ,
      (ledger.reservations.put (reservation.reconciledWith actualMicros)).sum weight + weight reservation =
        ledger.reservations.sum weight + weight (reservation.reconciledWith actualMicros) := by
    have own : reservation.requestId = requestId := Table.key_of_find? stored
    refine Table.sum_put_existing ?_
    show ledger.reservations.find? reservation.requestId = some reservation
    rw [own]
    exact stored
  have held : reservation.heldMicros = reservation.maximumMicros := if_pos active
  have cost : reservation.costMicros = 0 := by
    unfold Reservation.costMicros
    rw [active]
    rfl
  have member := Table.mem_of_find? stored
  have bounded : child.Bounded := sound.children _ (member_of_get found)
  -- The child holds at least what this reservation does.
  have covered : reservation.maximumMicros ≤ child.reservedMicros := by
    rw [sound.childReserved _ (member_of_get found), ← held]
    have mine : heldFor reservation.childId reservation = reservation.heldMicros := if_pos rfl
    rw [← mine]
    refine Table.le_sum (fun other here => ?_) member
    unfold heldFor Reservation.heldMicros
    have positive := sound.reservations other here
    split
    · split <;> omega
    · exact le_rfl
  unfold reconciledIn
  rw [← settles, ← settles]
  refine @ledgerSound_move ledger sound child (reservation.reconciledWith actualMicros)
    (-reservation.maximumMicros) actualMicros found ⟨?_, ?_, ?_⟩
    (sound.reservations reservation member) ?_ ?_ (fun other different => ?_) ?_
  · show 0 ≤ child.reservedMicros + -reservation.maximumMicros
    omega
  · show 0 ≤ child.settledMicros + actualMicros
    have settled := bounded.settled
    omega
  · show child.reservedMicros + -reservation.maximumMicros + (child.settledMicros + actualMicros) ≤
      child.authorizedMicros
    have authorized := bounded.authorized
    omega
  · have total := exchanged Reservation.heldMicros
    rw [held, show (reservation.reconciledWith actualMicros).heldMicros = 0 from rfl] at total
    omega
  · have total := exchanged (heldFor reservation.childId)
    rw [show heldFor reservation.childId reservation = reservation.heldMicros from if_pos rfl, held,
      show heldFor reservation.childId (reservation.reconciledWith actualMicros) = 0 from if_pos rfl] at total
    show (ledger.reservations.put (reservation.reconciledWith actualMicros)).sum
        (heldFor reservation.childId) = ledger.reservations.sum (heldFor reservation.childId) + _
    omega
  · have total := exchanged (heldFor other)
    rw [show heldFor other reservation = 0 from if_neg different.symm,
      show heldFor other (reservation.reconciledWith actualMicros) = 0 from if_neg different.symm] at total
    omega
  · have total := exchanged Reservation.costMicros
    rw [cost, show (reservation.reconciledWith actualMicros).costMicros = actualMicros from rfl] at total
    omega

theorem ledgerSound_reclaim (sound : LedgerSound ledger) {childId : String} {child : Account}
    (found : ledger.children.get childId = some child) :
    LedgerSound { ledger with children := ledger.children.set childId child.reclaim } := by
  have bounded : child.Bounded := sound.children _ (member_of_get found)
  have exchanged := fun weight : Entry Account → ℤ => Record.sum_set_existing found child.reclaim weight
  refine ⟨sound.positive, sound.reservations, fun entry member => ?_, ?_, ?_, sound.reservedByReservations,
    sound.settledByReservations, ?_, fun entry member => ?_⟩
  · rcases Table.mem_put.mp member with rfl | ⟨before, _⟩
    · refine ⟨bounded.reserved, bounded.settled, ?_⟩
      simp only [Account.reclaim, Account.available]
      omega
    · exact sound.children entry before
  · have total := exchanged fun entry => entry.value.reservedMicros
    have before := sound.reservedByChildren
    simp only [Account.reclaim] at total ⊢
    omega
  · have total := exchanged fun entry => entry.value.settledMicros
    have before := sound.settledByChildren
    simp only [Account.reclaim] at total ⊢
    omega
  · have total := exchanged fun entry => entry.value.authorizedMicros
    have before := sound.authorized
    have within := bounded.authorized
    simp only [Account.reclaim, Account.available] at total ⊢
    omega
  · rcases Table.mem_put.mp member with rfl | ⟨before, _⟩
    · exact sound.childReserved ⟨childId, child⟩ (member_of_get found)
    · exact sound.childReserved entry before

/-! ### Runs -/

/-- A reservation that is reconciled stays as it is. -/
def KeepsCosts (before after : FuseLedger) : Prop :=
  ∀ reservation ∈ before.reservations, reservation.status = .reconciled →
    after.reservations.find? reservation.requestId = some reservation

/-- What a call does to a ledger. -/
structure LedgerStep (before after : FuseLedger) : Prop where
  sound : LedgerSound after
  keeps : KeepsReservations before after

/-- A call either throws and changes nothing, or it returns a sound ledger that keeps the costs. -/
theorem perform_cases (sound : LedgerSound ledger) (call : LedgerCall) :
    (∃ error, perform call ledger = .error error ledger) ∨
      ∃ after, perform call ledger = .ok () after ∧ LedgerStep ledger after := by
  have same : LedgerStep ledger ledger := ⟨sound, .refl ledger⟩
  cases call with
  | reserve childId maximumMicros requestId =>
    rcases reserve_cases ledger childId maximumMicros requestId with
      ⟨error, thrown⟩ | ⟨existing, returned, _⟩ | ⟨child, found, absent, positive, within, _, returned⟩
    · exact .inl ⟨error, discard_error thrown⟩
    · exact .inr ⟨ledger, discard_ok returned, same⟩
    · exact .inr ⟨_, discard_ok returned, ledgerSound_reserve sound found absent positive within,
        keepsReservations_reserve absent⟩
  | reconcile requestId actualMicros =>
    rcases reconcile_cases ledger requestId actualMicros with
      ⟨error, thrown⟩ | ⟨existing, returned, _⟩ |
        ⟨reservation, child, stored, active, nonnegative, within, found, returned⟩
    · exact .inl ⟨error, discard_error thrown⟩
    · exact .inr ⟨ledger, discard_ok returned, same⟩
    · exact .inr ⟨_, discard_ok returned, ledgerSound_reconcile sound stored active nonnegative within found,
        keepsReservations_reconcile stored active⟩
  | reclaimAvailable childId =>
    rcases reclaimAvailable_cases ledger childId with ⟨error, thrown⟩ | returned | ⟨child, found, returned⟩
    · exact .inl ⟨error, discard_error thrown⟩
    · exact .inr ⟨ledger, discard_ok returned, same⟩
    · exact .inr ⟨_, discard_ok returned, ledgerSound_reclaim sound found, .refl ledger⟩
  | roundTrip =>
    refine .inr ⟨ledger, ?_, same⟩
    show roundTrip ledger = _
    unfold roundTrip
    rw [get_bind, fromState_exportState ledger sound.positive sound.authorized]
    rfl

theorem ledgerStep_step (sound : LedgerSound ledger) (call : LedgerCall) :
    LedgerStep ledger (ledgerStep ledger call) := by
  unfold ledgerStep
  rcases perform_cases sound call with ⟨error, thrown⟩ | ⟨after, returned, step⟩
  · rw [thrown]
    exact ⟨sound, .refl ledger⟩
  · rw [returned]
    exact step

theorem ledgerStep_run (sound : LedgerSound ledger) (calls : List LedgerCall) :
    LedgerStep ledger (Foundation.run ledgerStep ledger calls) := by
  induction calls generalizing ledger with
  | nil => exact ⟨sound, .refl ledger⟩
  | cons call rest ih =>
    have first := ledgerStep_step sound call
    have later := ih first.sound
    exact ⟨later.sound, first.keeps.trans later.keeps⟩

theorem ledgerSound_new {config : LedgerConfig}
    (nonnegative : ∀ allocation ∈ config.children, 0 ≤ allocation.value)
    (built : FuseLedger.new config = .ok ledger) : LedgerSound ledger := by
  unfold FuseLedger.new at built
  split at built
  · cases built
  · next positive =>
    split at built
    · cases built
    · next within =>
      cases built
      have zero : ∀ weight : Entry Account → ℤ, (∀ name amount, weight ⟨name, allocated amount⟩ = 0) →
          (config.children.mapValues allocated).sum weight = 0 := by
        intro weight nothing
        rw [Record.sum_mapValues]
        exact List.sum_eq_zero fun value member => by
          obtain ⟨entry, _, rfl⟩ := List.mem_map.mp member
          exact nothing entry.name entry.value
      refine ⟨not_le.mp positive, fun _ member => absurd member (Table.not_mem_empty _), fun entry member => ?_,
        (zero _ fun _ _ => rfl).symm, (zero _ fun _ _ => rfl).symm, rfl, rfl, ?_, fun entry member => ?_⟩
      · obtain ⟨allocation, here, rfl⟩ := Record.mem_mapValues.mp member
        exact ⟨le_rfl, le_rfl, nonnegative allocation here⟩
      · rw [Record.sum_mapValues]
        exact not_lt.mp within
      · obtain ⟨allocation, _, rfl⟩ := Record.mem_mapValues.mp member
        rfl

/-- **Every ledger is conserved** whatever is called on it. A reservation keeps the cost it is reconciled
with, and a call that throws leaves the ledger as it is. -/
theorem ledger_conservation {config : LedgerConfig} {ledger : FuseLedger}
    (nonnegative : ∀ allocation ∈ config.children, 0 ≤ allocation.value)
    (built : FuseLedger.new config = .ok ledger) (earlier later : List LedgerCall) :
    LedgerConserved (Foundation.run ledgerStep ledger earlier) ∧
      KeepsCosts (Foundation.run ledgerStep ledger earlier)
        (Foundation.run ledgerStep ledger (earlier ++ later)) ∧
      ∀ call error after, perform call (Foundation.run ledgerStep ledger earlier) = .error error after →
        after = Foundation.run ledgerStep ledger earlier := by
  have reached := ledgerStep_run (ledgerSound_new nonnegative built) earlier
  refine ⟨reached.sound.conserved, ?_, fun call error after thrown => ?_⟩
  · rw [Foundation.run_append]
    intro reservation member reconciled
    obtain ⟨last, found, same⟩ := (ledgerStep_run reached.sound later).keeps _ reservation
      (Table.find?_of_mem member)
    rw [show reservation.requestId = Keyed.key reservation from rfl, found, same.reconciled reconciled]
  · rcases perform_cases reached.sound call with ⟨_, same⟩ | ⟨_, returned, _⟩
    · rw [same] at thrown
      cases thrown
      rfl
    · rw [returned] at thrown
      cases thrown

end Laws

/-! ### The ledger of the demo -/

namespace Sample

theorem demoChildren_nodup : (([⟨"scout", 60000⟩, ⟨"builder", 120000⟩, ⟨"reviewer", 50000⟩] :
    List (Entry ℤ)).map Keyed.key).Nodup := by
  decide

def demoConfig : LedgerConfig where
  mandateId := "demo-mandate"
  maximumSpendMicros := 250000
  children := ⟨[⟨"scout", 60000⟩, ⟨"builder", 120000⟩, ⟨"reviewer", 50000⟩], demoChildren_nodup⟩

def demoLedger : FuseLedger where
  mandateId := "demo-mandate"
  root := allocated 250000
  children := demoConfig.children.mapValues allocated
  reservations := .empty

/-- A reservation is reconciled, the rest of the child's budget is reclaimed, and a last one is refused. -/
def demoCalls : List LedgerCall :=
  [.reserve "scout" 5000 "request-1", .reconcile "request-1" 2000, .reclaimAvailable "scout", .roundTrip,
    .reserve "scout" 1 "request-2"]

end Sample

theorem ledger_conservation_demo :
    LedgerConserved (Foundation.run ledgerStep Sample.demoLedger [.reserve "scout" 5000 "request-1"]) ∧
      KeepsCosts (Foundation.run ledgerStep Sample.demoLedger [.reserve "scout" 5000 "request-1"])
        (Foundation.run ledgerStep Sample.demoLedger
          ([.reserve "scout" 5000 "request-1"] ++ Sample.demoCalls.tail)) ∧
      ∀ call error after,
        perform call (Foundation.run ledgerStep Sample.demoLedger [.reserve "scout" 5000 "request-1"]) =
          .error error after →
        after = Foundation.run ledgerStep Sample.demoLedger [.reserve "scout" 5000 "request-1"] :=
  @ledger_conservation Sample.demoConfig Sample.demoLedger (by decide) rfl
    [.reserve "scout" 5000 "request-1"] Sample.demoCalls.tail

/-- The last call is refused. -/
example : (Foundation.run ledgerStep Sample.demoLedger Sample.demoCalls).reservations.rows =
    [⟨"request-1", "scout", 5000, some 2000, .reconciled⟩] := by decide +kernel

end FuseControlPlane.Core
