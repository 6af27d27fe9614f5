/-
The authorizations of the signer (`signer/authorizationStore.ts`).

* `SignerDb`: a limit of every organisation, and the authorizations that are taken from it.
* `reserve`, `complete`, `holdForReview`: one transaction each. The times that they record, which nothing
  reads, are left out.
* `reserve_cases`, `complete_cases`, `holdForReview_cases`: what each of them does.
* `SignerSound`: every limit counts its authorizations, and no two of them have a nonce in common.
* `Grows`: an authorization keeps what it is for, and its signature.
-/

import FuseControlPlane.Domain.Policy
import FuseControlPlane.Foundation.JavaScript
import FuseControlPlane.Foundation.Table
import Mathlib.Data.List.Rotate

set_option linter.unusedSectionVars false

namespace FuseControlPlane.Signer

open Foundation Foundation.JavaScript Domain

/-! ### Rows -/

structure LimitRow where
  organizationId : String
  maximumTotalAtomic : ℕ
  reservedAtomic : ℕ
  deriving DecidableEq

instance : Keyed LimitRow String := ⟨LimitRow.organizationId⟩

inductive AuthorizationStatus
  | reserved | completed | review
  deriving DecidableEq

structure AuthorizationRow where
  organizationId : String
  callerId : String
  requestId : String
  fingerprint : String
  nonce : String
  amountAtomic : ℕ
  status : AuthorizationStatus
  signature : Option String
  reasonCode : Option String
  deriving DecidableEq

instance : Keyed AuthorizationRow (String × String) := ⟨fun row => (row.organizationId, row.requestId)⟩

structure SignerDb where
  limits : Table LimitRow
  authorizations : Table AuthorizationRow

inductive SignerReservation
  | reserved
  | completed (signature : String)
  | inProgress
  | review
  | budgetExceeded
  deriving DecidableEq

structure ReservationInput where
  organizationId : String
  callerId : String
  requestId : String
  fingerprint : String
  nonce : String
  amountAtomic : ℕ
  maximumTotalAtomic : ℕ
  deriving DecidableEq

structure CompletionInput where
  organizationId : String
  requestId : String
  signature : String
  deriving DecidableEq

structure ReviewInput where
  organizationId : String
  requestId : String
  reasonCode : String
  deriving DecidableEq

/-! ### Checks -/

def isHexDigit (character : Char) : Bool :=
  character.isDigit || ('a' ≤ character && character ≤ 'f') || ('A' ≤ character && character ≤ 'F')

/-- `/^0x[0-9a-fA-F]{digits}$/`. -/
def isHexText (digits : ℕ) (text : String) : Bool :=
  startsWith text "0x" && matchesClass isHexDigit digits digits (drop 2 text)

/-- `/^[a-f0-9]{64}$/`. -/
def isSha256 (text : String) : Bool :=
  matchesClass (fun character => character.isDigit || ('a' ≤ character && character ≤ 'f')) 64 64 text

/-- `text.toLowerCase()`, of ASCII letters. -/
def toLowerCase (text : String) : String := String.ofList (text.toList.map Char.toLower)

def validateIdentity (organizationId requestId : String) : Except String Unit := do
  require (!isBlank organizationId) "SIGNER_ORGANIZATION_REQUIRED"
  require (!isBlank requestId) "SIGNER_REQUEST_ID_REQUIRED"

def validateReservation (input : ReservationInput) : Except String Unit := do
  validateIdentity input.organizationId input.requestId
  require (!isBlank input.callerId && JavaScript.length input.callerId ≤ 128) "SIGNER_CALLER_INVALID"
  require (isSha256 input.fingerprint) "SIGNER_FINGERPRINT_INVALID"
  require (isHexText 64 input.nonce) "SIGNER_NONCE_INVALID"
  require (0 < input.amountAtomic && 0 < input.maximumTotalAtomic) "SIGNER_AMOUNT_INVALID"

/-! ### Transactions -/

namespace SignerDb

/-- `INSERT ... ON CONFLICT (organization_id) DO NOTHING`. -/
def withLimit (db : SignerDb) (organizationId : String) (maximumTotalAtomic : ℕ) : SignerDb :=
  if (db.limits.find? organizationId).isSome then db
  else { db with limits := db.limits.put ⟨organizationId, maximumTotalAtomic, 0⟩ }

/-- The rows with the same payload or the same nonce. -/
def equivalent (db : SignerDb) (input : ReservationInput) : List AuthorizationRow :=
  db.authorizations.rows.filter fun row => row.organizationId = input.organizationId &&
    (row.fingerprint = input.fingerprint || toLowerCase row.nonce = toLowerCase input.nonce)

end SignerDb

def ReservationInput.row (input : ReservationInput) : AuthorizationRow where
  organizationId := input.organizationId
  callerId := input.callerId
  requestId := input.requestId
  fingerprint := input.fingerprint
  nonce := toLowerCase input.nonce
  amountAtomic := input.amountAtomic
  status := .reserved
  signature := none
  reasonCode := none

/-- What a row that is there is answered with. -/
def AuthorizationRow.answer (row : AuthorizationRow) : Except String SignerReservation :=
  match row.status, row.signature with
  | .completed, some signature => .ok (.completed signature)
  | .completed, none => .error "SIGNER_SIGNATURE_MISSING"
  | .review, _ => .ok .review
  | .reserved, _ => .ok .inProgress

/-- What `NUMERIC(78, 0)` holds. -/
def numericBound : ℕ := 10 ^ 78

/-- `first` says which of the rows a query lists first. -/
def reserve (input : ReservationInput) (first : ℕ) (db : SignerDb) :
    Except String (SignerReservation × SignerDb) := do
  validateReservation input
  require (input.maximumTotalAtomic < numericBound) "numeric field overflow"
  let limited := db.withLimit input.organizationId input.maximumTotalAtomic
  match limited.limits.find? input.organizationId with
  | none => .error "SIGNER_AUTHORITY_LIMIT_MISSING"
  | some currentLimit => do
    require (currentLimit.maximumTotalAtomic = input.maximumTotalAtomic) "SIGNER_AUTHORITY_LIMIT_IMMUTABLE"
    match limited.authorizations.find? (input.organizationId, input.requestId) with
    | some row => do
      require (row.callerId = input.callerId && row.fingerprint = input.fingerprint &&
        toLowerCase row.nonce = toLowerCase input.nonce && row.amountAtomic = input.amountAtomic)
        "SIGNER_IDEMPOTENCY_CONFLICT"
      let answer ← row.answer
      return (answer, limited)
    | none =>
      match ((limited.equivalent input).rotate first).head? with
      | some row => do
        require (row.callerId = input.callerId && row.fingerprint = input.fingerprint &&
          row.amountAtomic = input.amountAtomic) "SIGNER_NONCE_CONFLICT"
        let answer ← row.answer
        return (answer, limited)
      | none =>
        if input.maximumTotalAtomic < currentLimit.reservedAtomic + input.amountAtomic then
          return (.budgetExceeded, limited)
        else
          return (.reserved,
            { authorizations := limited.authorizations.put input.row
              limits := limited.limits.put { currentLimit with
                reservedAtomic := currentLimit.reservedAtomic + input.amountAtomic } })

/-- The row that an update of a reserved authorization changes. -/
def SignerDb.reservedRow (db : SignerDb) (organizationId requestId : String) : Option AuthorizationRow :=
  (db.authorizations.find? (organizationId, requestId)).filter fun row => row.status = .reserved

def AuthorizationRow.completedWith (signature : String) (row : AuthorizationRow) : AuthorizationRow :=
  { row with status := .completed, signature := some signature, reasonCode := none }

def AuthorizationRow.heldFor (reasonCode : String) (row : AuthorizationRow) : AuthorizationRow :=
  { row with status := .review, reasonCode := some reasonCode }

def SignerDb.withRow (db : SignerDb) (row : AuthorizationRow) : SignerDb :=
  { db with authorizations := db.authorizations.put row }

def complete (input : CompletionInput) (db : SignerDb) : Except String SignerDb := do
  validateIdentity input.organizationId input.requestId
  require (isHexText 130 input.signature) "SIGNER_SIGNATURE_INVALID"
  match db.reservedRow input.organizationId input.requestId with
  | none => .error "SIGNER_AUTHORIZATION_NOT_RESERVED"
  | some row => .ok (db.withRow (row.completedWith input.signature))

def holdForReview (input : ReviewInput) (db : SignerDb) : Except String SignerDb := do
  validateIdentity input.organizationId input.requestId
  require (!isBlank input.reasonCode && JavaScript.length input.reasonCode ≤ 128)
    "SIGNER_REVIEW_REASON_INVALID"
  match db.reservedRow input.organizationId input.requestId with
  | none => .error "SIGNER_AUTHORIZATION_NOT_RESERVED"
  | some row => .ok (db.withRow (row.heldFor input.reasonCode))

section Laws

variable {db after : SignerDb} {input : ReservationInput}

/-! ### What they do -/

theorem toLower_toLower (character : Char) : character.toLower.toLower = character.toLower := by
  unfold Char.toLower
  by_cases upper : character.val ≥ 'A'.val ∧ character.val ≤ 'Z'.val
  · have bounds : 65 ≤ character.val.toNat ∧ character.val.toNat ≤ 90 := upper
    have shifted : (character.val + ('a'.val - 'A'.val)).toNat = character.val.toNat + 32 := by
      rw [UInt32.toNat_add]
      exact Nat.mod_eq_of_lt (by show _ + 32 < _; omega)
    rw [dif_pos upper, dif_neg]
    rintro ⟨_, below⟩
    have below : (character.val + ('a'.val - 'A'.val)).toNat ≤ 90 := below
    omega
  · rw [dif_neg upper, dif_neg upper]

theorem toLowerCase_idem (text : String) : toLowerCase (toLowerCase text) = toLowerCase text := by
  unfold toLowerCase
  rw [String.toList_ofList, List.map_map]
  exact congrArg String.ofList (List.map_congr_left fun character _ => toLower_toLower character)

/-- What a limit is when it is looked up. -/
theorem find?_withLimit (db : SignerDb) (organizationId : String) (maximumTotalAtomic : ℕ) :
    (db.withLimit organizationId maximumTotalAtomic).limits.find? organizationId =
      some ((db.limits.find? organizationId).getD ⟨organizationId, maximumTotalAtomic, 0⟩) := by
  unfold SignerDb.withLimit
  cases found : db.limits.find? organizationId with
  | none => exact Table.find?_put_self _ _
  | some limit => exact found

theorem authorizations_withLimit (db : SignerDb) (organizationId : String) (maximumTotalAtomic : ℕ) :
    (db.withLimit organizationId maximumTotalAtomic).authorizations = db.authorizations := by
  unfold SignerDb.withLimit
  split <;> rfl

theorem answer_eq_ok {row : AuthorizationRow} {reservation : SignerReservation}
    (answered : row.answer = .ok reservation) : reservation ≠ .reserved ∧
      ∀ signature, reservation = .completed signature →
        row.status = .completed ∧ row.signature = some signature := by
  unfold AuthorizationRow.answer at answered
  split at answered
  · next status signed =>
    cases answered
    exact ⟨nofun, fun _ same => ⟨status, by cases same; exact signed⟩⟩
  · cases answered
  · cases answered
    exact ⟨nofun, nofun⟩
  · cases answered
    exact ⟨nofun, nofun⟩

/-- A reservation is refused or answered from a row, or it is new. -/
theorem reserve_cases {first : ℕ} {reservation : SignerReservation}
    (returned : reserve input first db = .ok (reservation, after)) :
    (reservation ≠ .reserved ∧ after = db.withLimit input.organizationId input.maximumTotalAtomic ∧
      ∀ signature, reservation = .completed signature → ∃ row ∈ db.authorizations,
        row.organizationId = input.organizationId ∧ row.fingerprint = input.fingerprint ∧
        row.status = .completed ∧ row.signature = some signature) ∨
    (reservation = .reserved ∧ ∃ limit,
      (db.withLimit input.organizationId input.maximumTotalAtomic).limits.find? input.organizationId =
        some limit ∧
      limit.maximumTotalAtomic = input.maximumTotalAtomic ∧
      limit.reservedAtomic + input.amountAtomic ≤ limit.maximumTotalAtomic ∧
      db.authorizations.find? (input.organizationId, input.requestId) = none ∧
      (∀ row ∈ db.authorizations, row.organizationId = input.organizationId →
        toLowerCase row.nonce ≠ toLowerCase input.nonce) ∧
      after =
        { authorizations := db.authorizations.put input.row
          limits := (db.withLimit input.organizationId input.maximumTotalAtomic).limits.put
            { limit with reservedAtomic := limit.reservedAtomic + input.amountAtomic } }) := by
  unfold reserve at returned
  simp only [bind_unit_eq_ok, authorizations_withLimit] at returned
  obtain ⟨_, _, returned⟩ := returned
  rw [find?_withLimit] at returned ⊢
  dsimp only at returned
  generalize (db.limits.find? input.organizationId).getD _ = limit at returned ⊢
  simp only [bind_unit_eq_ok, require_eq_ok, decide_eq_true_eq] at returned
  obtain ⟨same_maximum, returned⟩ := returned
  split at returned
  · next row found =>
    simp only [bind_unit_eq_ok, require_eq_ok, Bool.and_eq_true, decide_eq_true_eq] at returned
    obtain ⟨⟨⟨⟨_, fingerprint⟩, _⟩, _⟩, rest⟩ := returned
    obtain ⟨answer, answered, same⟩ := bind_eq_ok.mp rest
    cases same
    obtain ⟨unreserved, signed⟩ := answer_eq_ok answered
    refine .inl ⟨unreserved, rfl, fun signature completed => ?_⟩
    have keyed := Table.key_of_find? found
    exact ⟨row, Table.mem_of_find? found, congrArg Prod.fst keyed, fingerprint, signed signature completed⟩
  · next absent =>
    split at returned
    · next row listed =>
      simp only [bind_unit_eq_ok, require_eq_ok, Bool.and_eq_true, decide_eq_true_eq] at returned
      obtain ⟨⟨⟨_, fingerprint⟩, _⟩, rest⟩ := returned
      obtain ⟨answer, answered, same⟩ := bind_eq_ok.mp rest
      cases same
      obtain ⟨unreserved, signed⟩ := answer_eq_ok answered
      have member := List.mem_rotate.mp (List.mem_of_head? listed)
      unfold SignerDb.equivalent at member
      rw [authorizations_withLimit] at member
      obtain ⟨here, meets⟩ := List.mem_filter.mp member
      rw [Bool.and_eq_true, decide_eq_true_eq] at meets
      exact .inl ⟨unreserved, rfl, fun signature completed =>
        ⟨row, here, meets.1, fingerprint, signed signature completed⟩⟩
    · next unlisted =>
      split at returned
      · cases returned
        exact .inl ⟨(fun same => by cases same), rfl, fun signature completed => by cases completed⟩
      · next within =>
        cases returned
        refine .inr ⟨rfl, limit, rfl, same_maximum, ?_, absent, fun row member own equal => ?_, rfl⟩
        · rw [same_maximum]
          exact not_lt.mp within
        · have none_listed := List.rotate_eq_nil_iff.mp (List.head?_eq_none_iff.mp unlisted)
          unfold SignerDb.equivalent at none_listed
          rw [authorizations_withLimit] at none_listed
          refine List.filter_eq_nil_iff.mp none_listed row member ?_
          simp [own, equal]

theorem reservedRow_eq_some {organizationId requestId : String} {row : AuthorizationRow} :
    db.reservedRow organizationId requestId = some row ↔
      db.authorizations.find? (organizationId, requestId) = some row ∧ row.status = .reserved := by
  unfold SignerDb.reservedRow
  rw [Option.filter_eq_some_iff, decide_eq_true_eq]

theorem complete_cases {completion : CompletionInput} (completed : complete completion db = .ok after) :
    ∃ row, db.authorizations.find? (completion.organizationId, completion.requestId) = some row ∧
      row.status = .reserved ∧ after = db.withRow (row.completedWith completion.signature) := by
  unfold complete at completed
  simp only [bind_unit_eq_ok] at completed
  obtain ⟨_, _, rest⟩ := completed
  split at rest
  · cases rest
  · next row found =>
    cases rest
    obtain ⟨there, reserved⟩ := reservedRow_eq_some.mp found
    exact ⟨row, there, reserved, rfl⟩

theorem holdForReview_cases {review : ReviewInput} (held : holdForReview review db = .ok after) :
    ∃ row, db.authorizations.find? (review.organizationId, review.requestId) = some row ∧
      row.status = .reserved ∧ after = db.withRow (row.heldFor review.reasonCode) := by
  unfold holdForReview at held
  simp only [bind_unit_eq_ok] at held
  obtain ⟨_, _, rest⟩ := held
  split at rest
  · cases rest
  · next row found =>
    cases rest
    obtain ⟨there, reserved⟩ := reservedRow_eq_some.mp found
    exact ⟨row, there, reserved, rfl⟩

/-! ### What holds of the rows -/

/-- The amounts of the authorizations of an organisation. -/
def SignerDb.authorizedAtomic (db : SignerDb) (organizationId : String) : ℕ :=
  db.authorizations.total fun row => if row.organizationId = organizationId then row.amountAtomic else 0

/-- Every limit counts its authorizations, and none of them has the nonce of another. -/
structure SignerSound (db : SignerDb) : Prop where
  counted : ∀ limit ∈ db.limits, limit.reservedAtomic = db.authorizedAtomic limit.organizationId ∧
    limit.reservedAtomic ≤ limit.maximumTotalAtomic
  limited : ∀ row ∈ db.authorizations, (db.limits.find? row.organizationId).isSome = true
  nonces : ∀ row ∈ db.authorizations, ∀ other ∈ db.authorizations,
    row.organizationId = other.organizationId → row.nonce = other.nonce → row = other
  lower : ∀ row ∈ db.authorizations, toLowerCase row.nonce = row.nonce

/-- An authorization, later. -/
structure AuthorizationRow.Continues (row later : AuthorizationRow) : Prop where
  organizationId : later.organizationId = row.organizationId
  requestId : later.requestId = row.requestId
  fingerprint : later.fingerprint = row.fingerprint
  nonce : later.nonce = row.nonce
  amountAtomic : later.amountAtomic = row.amountAtomic
  completed : row.status = .completed → later = row

theorem AuthorizationRow.Continues.refl (row : AuthorizationRow) : row.Continues row :=
  ⟨rfl, rfl, rfl, rfl, rfl, fun _ => rfl⟩

/-- Every authorization stays, and every limit. -/
structure Grows (db after : SignerDb) : Prop where
  rows : ∀ key row, db.authorizations.find? key = some row →
    ∃ later, after.authorizations.find? key = some later ∧ row.Continues later
  limits : ∀ organizationId limit, db.limits.find? organizationId = some limit →
    ∃ later, after.limits.find? organizationId = some later ∧
      later.maximumTotalAtomic = limit.maximumTotalAtomic

theorem Grows.refl (db : SignerDb) : Grows db db :=
  ⟨fun _ row found => ⟨row, found, .refl row⟩, fun _ limit found => ⟨limit, found, rfl⟩⟩

theorem grows_withLimit (db : SignerDb) (organizationId : String) (maximumTotalAtomic : ℕ) :
    Grows db (db.withLimit organizationId maximumTotalAtomic) := by
  refine ⟨fun key row found => ⟨row, ?_, .refl row⟩, fun other limit found => ⟨limit, ?_, rfl⟩⟩
  · rw [authorizations_withLimit]
    exact found
  · unfold SignerDb.withLimit
    split
    · exact found
    · next absent =>
      show (db.limits.put _).find? other = some limit
      rw [Table.find?_put_of_ne, found]
      rintro rfl
      exact absent (Option.isSome_iff_exists.mpr ⟨limit, found⟩)

/-- A new limit has nothing to count. -/
theorem signerSound_withLimit (sound : SignerSound db) (organizationId : String) (maximumTotalAtomic : ℕ) :
    SignerSound (db.withLimit organizationId maximumTotalAtomic) := by
  unfold SignerDb.withLimit
  split
  · exact sound
  · next absent =>
    refine ⟨fun limit member => ?_, fun row member => ?_, sound.nonces, sound.lower⟩
    · rcases Table.mem_put.mp member with rfl | ⟨there, _⟩
      · have nothing : db.authorizedAtomic organizationId = 0 := by
          refine Table.total_eq_zero fun row here => if_neg fun own => absent ?_
          rw [← own]
          exact sound.limited row here
        exact ⟨nothing.symm, Nat.zero_le _⟩
      · exact sound.counted limit there
    · have known := sound.limited row member
      show ((db.limits.put _).find? row.organizationId).isSome = true
      rw [Table.find?_put]
      split
      · rfl
      · exact known

/-- A new authorization is counted in its limit. -/
theorem signerSound_reserved (sound : SignerSound db) {limit : LimitRow}
    (found : db.limits.find? input.organizationId = some limit)
    (within : limit.reservedAtomic + input.amountAtomic ≤ limit.maximumTotalAtomic)
    (absent : db.authorizations.find? (input.organizationId, input.requestId) = none)
    (apart : ∀ row ∈ db.authorizations, row.organizationId = input.organizationId →
      toLowerCase row.nonce ≠ toLowerCase input.nonce) :
    SignerSound
      { authorizations := db.authorizations.put input.row
        limits := db.limits.put { limit with reservedAtomic := limit.reservedAtomic + input.amountAtomic } } := by
  have own : limit.organizationId = input.organizationId := Table.key_of_find? found
  have counts : ∀ organizationId, (db.authorizations.put input.row).total
      (fun row => if row.organizationId = organizationId then row.amountAtomic else 0) =
        db.authorizedAtomic organizationId +
          if input.organizationId = organizationId then input.amountAtomic else 0 := fun organizationId =>
    Table.total_put_new absent _
  refine ⟨fun other member => ?_, fun row member => ?_, fun row member other there same nonce => ?_,
    fun row member => ?_⟩
  · unfold SignerDb.authorizedAtomic
    rw [counts]
    rcases Table.mem_put.mp member with rfl | ⟨there, different⟩
    · obtain ⟨counted, _⟩ := sound.counted limit (Table.mem_of_find? found)
      refine ⟨?_, within⟩
      show limit.reservedAtomic + input.amountAtomic = db.authorizedAtomic limit.organizationId + _
      rw [counted, if_pos own.symm]
    · rw [if_neg fun same => different (same.symm.trans own.symm), Nat.add_zero]
      exact sound.counted other there
  · have known : (db.limits.find? row.organizationId).isSome = true := by
      rcases Table.mem_put.mp member with rfl | ⟨there, _⟩
      · exact Option.isSome_iff_exists.mpr ⟨limit, found⟩
      · exact sound.limited row there
    show ((db.limits.put _).find? row.organizationId).isSome = true
    rw [Table.find?_put]
    split
    · rfl
    · exact known
  · have new : ∀ row ∈ db.authorizations, row.organizationId = input.organizationId →
        row.nonce ≠ toLowerCase input.nonce := fun row here own equal =>
      apart row here own ((sound.lower row here).trans equal)
    rcases Table.mem_put.mp member with rfl | ⟨here, _⟩
    · rcases Table.mem_put.mp there with rfl | ⟨there, _⟩
      · rfl
      · exact absurd nonce.symm (new other there same.symm)
    · rcases Table.mem_put.mp there with rfl | ⟨there, _⟩
      · exact absurd nonce (new row here same)
      · exact sound.nonces row here other there same nonce
  · rcases Table.mem_put.mp member with rfl | ⟨there, _⟩
    · exact toLowerCase_idem input.nonce
    · exact sound.lower row there

theorem grows_reserved {limit : LimitRow} (found : db.limits.find? input.organizationId = some limit)
    (absent : db.authorizations.find? (input.organizationId, input.requestId) = none) :
    Grows db
      { authorizations := db.authorizations.put input.row
        limits := db.limits.put
          { limit with reservedAtomic := limit.reservedAtomic + input.amountAtomic } } := by
  have own : limit.organizationId = input.organizationId := Table.key_of_find? found
  refine ⟨fun key row there => ⟨row, ?_, .refl row⟩, fun organizationId other there => ?_⟩
  · show (db.authorizations.put input.row).find? key = some row
    rw [Table.find?_put_of_ne, there]
    intro same
    rw [show key = (input.organizationId, input.requestId) from same, absent] at there
    cases there
  · show ∃ later, (db.limits.put _).find? organizationId = some later ∧ _
    rw [Table.find?_put]
    split
    · next same =>
      rw [show organizationId = input.organizationId from same.trans own, found] at there
      cases there
      exact ⟨_, rfl, rfl⟩
    · exact ⟨other, there, rfl⟩

/-! ### What they keep -/

theorem Grows.trans {last : SignerDb} (first : Grows db after) (second : Grows after last) : Grows db last := by
  refine ⟨fun key row found => ?_, fun organizationId limit found => ?_⟩
  · obtain ⟨middle, there, continued⟩ := first.rows key row found
    obtain ⟨later, here, continues⟩ := second.rows key middle there
    refine ⟨later, here, continues.organizationId.trans continued.organizationId,
      continues.requestId.trans continued.requestId, continues.fingerprint.trans continued.fingerprint,
      continues.nonce.trans continued.nonce, continues.amountAtomic.trans continued.amountAtomic,
      fun completed => ?_⟩
    have same := continued.completed completed
    rw [← same]
    exact continues.completed (by rw [same]; exact completed)
  · obtain ⟨middle, there, same⟩ := first.limits organizationId limit found
    obtain ⟨later, here, same'⟩ := second.limits organizationId middle there
    exact ⟨later, here, same'.trans same⟩

/-- A row that continues one that is there. -/
theorem signerSound_withRow (sound : SignerSound db) {key : String × String} {row later : AuthorizationRow}
    (found : db.authorizations.find? key = some row) (continues : row.Continues later) :
    SignerSound (db.withRow later) ∧ Grows db (db.withRow later) := by
  have member := Table.mem_of_find? found
  have keyed : (later.organizationId, later.requestId) = key := by
    rw [continues.organizationId, continues.requestId]
    exact Table.key_of_find? found
  -- Every row of the table has the nonce and the organisation of a row that was there.
  have source : ∀ other ∈ db.authorizations.put later, ∃ old ∈ db.authorizations,
      other.organizationId = old.organizationId ∧ other.nonce = old.nonce ∧
        (other.requestId = old.requestId) := by
    intro other here
    rcases Table.mem_put.mp here with rfl | ⟨there, _⟩
    · exact ⟨row, member, continues.organizationId, continues.nonce, continues.requestId⟩
    · exact ⟨other, there, rfl, rfl, rfl⟩
  have totals : ∀ organizationId, (db.withRow later).authorizedAtomic organizationId =
      db.authorizedAtomic organizationId := by
    intro organizationId
    have moved := Table.total_put_existing
      (show db.authorizations.find? (Keyed.key later) = some row from by rw [← found]; exact congrArg _ keyed)
      fun row => if row.organizationId = organizationId then row.amountAtomic else 0
    rw [continues.organizationId, continues.amountAtomic] at moved
    exact Nat.add_right_cancel moved
  refine ⟨⟨fun limit here => ?_, fun other here => ?_, fun first here second there same nonce => ?_,
    fun other here => ?_⟩, fun other old there => ?_, fun _ limit there => ⟨limit, there, rfl⟩⟩
  · rw [totals]
    exact sound.counted limit here
  · obtain ⟨old, there, same, _⟩ := source other here
    rw [same]
    exact sound.limited old there
  · obtain ⟨one, old_one, organization, own_nonce, request⟩ := source first here
    obtain ⟨two, old_two, organization', own_nonce', request'⟩ := source second there
    have equal := sound.nonces one old_one two old_two (organization.symm.trans (same.trans organization'))
      (own_nonce.symm.trans (nonce.trans own_nonce'))
    refine Table.eq_of_key here there ?_
    show (first.organizationId, first.requestId) = (second.organizationId, second.requestId)
    rw [organization, organization', request, request', equal]
  · obtain ⟨old, there, _, same, _⟩ := source other here
    rw [same]
    exact sound.lower old there
  · show ∃ later', (db.authorizations.put later).find? other = some later' ∧ _
    rw [Table.find?_put]
    split
    · next same =>
      rw [show other = key from same.trans keyed, found] at there
      cases there
      exact ⟨later, rfl, continues⟩
    · exact ⟨old, there, .refl old⟩

theorem reserve_keeps (sound : SignerSound db) {first : ℕ} {reservation : SignerReservation}
    (returned : reserve input first db = .ok (reservation, after)) : SignerSound after ∧ Grows db after := by
  have limited := signerSound_withLimit sound input.organizationId input.maximumTotalAtomic
  have grows := grows_withLimit db input.organizationId input.maximumTotalAtomic
  rcases reserve_cases returned with ⟨_, rfl, _⟩ | ⟨_, limit, found, _, within, absent, apart, rfl⟩
  · exact ⟨limited, grows⟩
  · rw [← authorizations_withLimit db input.organizationId input.maximumTotalAtomic] at absent apart ⊢
    exact ⟨signerSound_reserved limited found within absent apart,
      grows.trans (grows_reserved found absent)⟩

theorem continues_completedWith {row : AuthorizationRow} (reserved : row.status = .reserved)
    (signature : String) : row.Continues (row.completedWith signature) :=
  ⟨rfl, rfl, rfl, rfl, rfl, fun completed => by rw [reserved] at completed; cases completed⟩

theorem continues_heldFor {row : AuthorizationRow} (reserved : row.status = .reserved) (reasonCode : String) :
    row.Continues (row.heldFor reasonCode) :=
  ⟨rfl, rfl, rfl, rfl, rfl, fun completed => by rw [reserved] at completed; cases completed⟩

end Laws

end FuseControlPlane.Signer
