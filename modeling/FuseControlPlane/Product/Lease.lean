/-
The lease of an onboarding operation.

* `LeaseOp`, `leaseStep`: claims, heartbeats, completions and rollbacks, in any order.
* `LeaseExclusive`: after a claim returned `new`, no other claim of the key returns `new` until
  `staleAfterMs` after that claim and after every heartbeat of its owner, unless the owner's operation
  was rolled back.
* `lease_exclusive`: this holds of every run with times in order in which no claim reopens an
  operation that was written earlier (`Refreshed`).
* `lease_not_exclusive`: it does not hold of every run. Reopening an operation after a rollback leaves
  `updated_at` as it was, so that the next claim finds the new owner stale at once.

The lease is the one timestamp `updated_at`; `Leased` is what it says of the owner.
-/

import FuseControlPlane.Foundation.Runs
import FuseControlPlane.Product.Operations

set_option linter.unusedSectionVars false

namespace FuseControlPlane.Product

open Foundation Foundation.JavaScript Domain Identity

/-! ### Runs -/

/-- A claim as the service makes it: with the time. -/
structure LeaseClaim where
  idempotencyKey : String
  fingerprint : String
  recoveryCodeHash : String
  identifiers : Identifiers
  now : ℤ
  deriving DecidableEq

/-- One call of the store. -/
inductive LeaseOp
  | claim (input : LeaseClaim)
  | heartbeat (idempotencyKey workspaceId : String) (now : ℤ)
  | complete (idempotencyKey : String) (result : CustomerWorkspaceResult) (now : ℤ)
  | rollback (idempotencyKey workspaceId code : String) (now : ℤ)
  deriving DecidableEq

/-- When the call was made. -/
def LeaseOp.now : LeaseOp → ℤ
  | .claim input => input.now
  | .heartbeat _ _ now => now
  | .complete _ _ now => now
  | .rollback _ _ _ now => now

section Runs

variable (staleAfterMs : ℤ)

def LeaseClaim.input (call : LeaseClaim) : ClaimInput where
  idempotencyKey := call.idempotencyKey
  fingerprint := call.fingerprint
  recoveryCodeHash := call.recoveryCodeHash
  identifiers := call.identifiers
  now := some call.now
  staleAfterMs := some staleAfterMs

/-- The tables after a call. -/
def leaseStep (db : Db) : LeaseOp → Db
  | .claim call => db.committed ((claim (call.input staleAfterMs) call.now db).map Prod.snd)
  | .heartbeat idempotencyKey workspaceId now =>
    db.committed (heartbeat idempotencyKey workspaceId now db)
  | .complete idempotencyKey result now => db.committed (complete idempotencyKey result now db)
  | .rollback idempotencyKey workspaceId code now =>
    db.committed (rollback idempotencyKey workspaceId code now db)

/-! ### The statement -/

/-- The claim returns `new`. -/
def ReturnsNew (db : Db) (call : LeaseClaim) : Prop :=
  ∃ after, claim (call.input staleAfterMs) call.now db = .ok (.new, after)

/-- The call does not roll back an operation of this key and workspace. -/
def KeepsOperation (idempotencyKey workspaceId : String) (db : Db) : LeaseOp → Prop
  | .rollback key workspace code now =>
    key = idempotencyKey → workspace = workspaceId → (rollback key workspace code now db).isOk = false
  | _ => True

/-- A successful heartbeat of this key and workspace is not later than the bound. -/
def HeardBefore (idempotencyKey workspaceId : String) (bound : ℤ) (db : Db) : LeaseOp → Prop
  | .heartbeat key workspace now =>
    key = idempotencyKey → workspace = workspaceId → (heartbeat key workspace now db).isOk = true →
      now ≤ bound
  | _ => True

/-- **The lease is exclusive.** A second claim that returns `new` comes `staleAfterMs` after the first
one and after every heartbeat of its owner, unless the owner's operation was rolled back. -/
def LeaseExclusive (ops : List LeaseOp) : Prop :=
  ∀ before first between second after,
    ops = before ++ .claim first :: (between ++ .claim second :: after) →
    second.idempotencyKey = first.idempotencyKey →
    ReturnsNew staleAfterMs (run (leaseStep staleAfterMs) .empty before) first →
    ReturnsNew staleAfterMs
      (run (leaseStep staleAfterMs) .empty (before ++ .claim first :: between)) second →
    Along (leaseStep staleAfterMs)
      (KeepsOperation first.idempotencyKey first.identifiers.workspaceId)
      (run (leaseStep staleAfterMs) .empty (before ++ [.claim first])) between →
    first.now + staleAfterMs ≤ second.now ∧
      Along (leaseStep staleAfterMs)
        (HeardBefore first.idempotencyKey first.identifiers.workspaceId (second.now - staleAfterMs))
        (run (leaseStep staleAfterMs) .empty (before ++ [.claim first])) between

/-- A claim does not reopen a rolled-back operation that was written before. -/
def Refreshed (db : Db) : LeaseOp → Prop
  | .claim call =>
    ∀ row ∈ db.operations.find? call.idempotencyKey, row.status = .rolledBack →
      row.requestFingerprint = call.fingerprint → call.now ≤ row.updatedAt
  | _ => True

instance (db : Db) (op : LeaseOp) : Decidable (Refreshed db op) := by
  cases op with
  | claim call =>
    exact inferInstanceAs (Decidable (∀ row ∈ db.operations.find? call.idempotencyKey, _ → _ → _))
  | _ => exact isTrue trivial

/-! ### The invariant -/

/-- How an operation stands for an owner heard of at `heard`: it is still the owner's and was written at
`heard` or later, or it is finished, or the lease has run out. -/
def Standing (workspaceId : String) (heard now : ℤ) (row : OperationRow) : Prop :=
  (row.status = .inProgress ∧ row.identifiers.workspaceId = workspaceId ∧ heard ≤ row.updatedAt) ∨
    (row.status = .completed ∨ row.status = .failed) ∨
    (heard + staleAfterMs ≤ now ∧
      ¬ (row.status = .inProgress ∧ row.identifiers.workspaceId = workspaceId))

/-- Where the lease of an owner heard of at `heard` stands at the time `now`. -/
def Leased (idempotencyKey workspaceId : String) (heard now : ℤ) (db : Db) : Prop :=
  heard ≤ now ∧ ∃ row, db.operations.find? idempotencyKey = some row ∧
    Standing staleAfterMs workspaceId heard now row

variable {staleAfterMs} {idempotencyKey workspaceId : String} {heard now : ℤ} {db : Db}

theorem Standing.pass {row : OperationRow} (stands : Standing staleAfterMs workspaceId heard now row)
    {later : ℤ} (order : now ≤ later) : Standing staleAfterMs workspaceId heard later row := by
  rcases stands with owned | finished | ⟨lapsed, lost⟩
  · exact .inl owned
  · exact .inr (.inl finished)
  · exact .inr (.inr ⟨lapsed.trans order, lost⟩)

/-- Time passes, and the operation of the key stays as it is. -/
theorem Leased.pass (leased : Leased staleAfterMs idempotencyKey workspaceId heard now db) {later : ℤ}
    (order : now ≤ later) {after : Db}
    (same : after.operations.find? idempotencyKey = db.operations.find? idempotencyKey) :
    Leased staleAfterMs idempotencyKey workspaceId heard later after := by
  obtain ⟨past, row, found, stands⟩ := leased
  exact ⟨past.trans order, row, same.trans found, stands.pass order⟩

/-- An operation is replaced: it is another key's, or stands as well. -/
theorem Leased.put (leased : Leased staleAfterMs idempotencyKey workspaceId heard now db) {later : ℤ}
    (order : now ≤ later) {key : String} {row new : OperationRow}
    (found : db.operations.find? key = some row) (kept : new.idempotencyKey = row.idempotencyKey)
    (stands : key = idempotencyKey → Standing staleAfterMs workspaceId heard now row →
      Standing staleAfterMs workspaceId heard later new) :
    Leased staleAfterMs idempotencyKey workspaceId heard later (db.putOperation new) := by
  have keyed : new.idempotencyKey = key := kept.trans (key_of_operation found)
  by_cases here : idempotencyKey = key
  · subst here
    obtain ⟨past, old, there, before⟩ := leased
    obtain rfl := Option.some.inj (found.symm.trans there)
    refine ⟨past.trans order, new, ?_, stands rfl before⟩
    rw [find?_putOperation]
    exact if_pos keyed.symm
  · refine leased.pass order ?_
    rw [find?_putOperation]
    exact if_neg fun same => here (same.trans keyed)

/-- A claim that returns `new` while the lease stands comes after it has run out. -/
theorem Leased.lapsed (leased : Leased staleAfterMs idempotencyKey workspaceId heard now db)
    {call : LeaseClaim} (here : call.idempotencyKey = idempotencyKey) (order : now ≤ call.now)
    {after : Db} (claimed : Claimed (call.input staleAfterMs) call.now db after) :
    heard + staleAfterMs ≤ call.now := by
  obtain ⟨_, row, found, state⟩ := leased
  rw [← here] at found
  have known : ∀ {other}, db.operations.find? (call.input staleAfterMs).idempotencyKey = some other →
      other = row := fun there => Option.some.inj (there.symm.trans found)
  cases claimed with
  | first fresh => exact absurd (fresh.symm.trans found) nofun
  | reopened other there _ status =>
    obtain rfl := known there
    rcases state with ⟨running, _⟩ | finished | ⟨lapsed, _⟩
    · exact absurd (running.symm.trans status) nofun
    · rcases finished with done | done <;> exact absurd (done.symm.trans status) nofun
    · omega
  | takenOver other there _ status stale _ =>
    obtain rfl := known there
    have old : other.updatedAt ≤ call.now - staleAfterMs := of_decide_eq_true stale
    rcases state with ⟨_, _, renewed⟩ | finished | ⟨lapsed, _⟩
    · omega
    · rcases finished with done | done <;> exact absurd (done.symm.trans status) nofun
    · omega

/-- A claim that does not reopen an old operation has written it. -/
theorem written_of_claimed {call : LeaseClaim} (refreshed : Refreshed db (.claim call)) {after : Db}
    (claimed : Claimed (call.input staleAfterMs) call.now db after) :
    ∃ row, after.operations.find? call.idempotencyKey = some row ∧ row.status = .inProgress ∧
      row.identifiers = call.identifiers ∧ call.now ≤ row.updatedAt := by
  obtain ⟨row, found, running, identifiers, written⟩ := claimed.find?_self
  refine ⟨row, found, running, identifiers, ?_⟩
  rcases written with now | ⟨old, there, status, same, kept⟩
  · exact now.ge
  · rw [kept]
    exact refreshed old there status same

/-- The lease after a claim that returned `new`: the claimant's, if it has the owner's workspace, or
run out. -/
theorem Leased.claimed (leased : Leased staleAfterMs idempotencyKey workspaceId heard now db)
    {call : LeaseClaim} (here : call.idempotencyKey = idempotencyKey) (order : now ≤ call.now)
    (refreshed : Refreshed db (.claim call)) {after : Db}
    (claimed : Claimed (call.input staleAfterMs) call.now db after) :
    Leased staleAfterMs idempotencyKey workspaceId heard call.now after := by
  have lapsed := leased.lapsed here order claimed
  have past : heard ≤ call.now := leased.1.trans order
  obtain ⟨row, found, running, _, written⟩ := written_of_claimed refreshed claimed
  rw [here] at found
  refine ⟨past, row, found, ?_⟩
  by_cases own : row.identifiers.workspaceId = workspaceId
  · exact .inl ⟨running, own, past.trans written⟩
  · exact .inr (.inr ⟨lapsed, fun both => own both.2⟩)

/-- The owner's heartbeat starts the lease anew. -/
theorem Leased.heartbeat {after : Db}
    (beaten : Product.heartbeat idempotencyKey workspaceId now db = .ok after) :
    Leased staleAfterMs idempotencyKey workspaceId now now after := by
  obtain ⟨row, owned, rfl⟩ := heartbeat_eq_ok.mp beaten
  obtain ⟨found, own, running⟩ := owned_eq_some.mp owned
  have same : idempotencyKey = row.idempotencyKey := (key_of_operation found).symm
  refine ⟨le_refl _, row.renewed now, ?_, .inl ⟨running, own, le_refl _⟩⟩
  rw [find?_putOperation]
  exact if_pos same

/-- Every call keeps the lease, unless it rolls back the owner's operation. -/
theorem Leased.step (leased : Leased staleAfterMs idempotencyKey workspaceId heard now db)
    (op : LeaseOp) (order : now ≤ op.now) (refreshed : Refreshed db op)
    (keeps : KeepsOperation idempotencyKey workspaceId db op) :
    Leased staleAfterMs idempotencyKey workspaceId heard op.now (leaseStep staleAfterMs db op) := by
  cases op with
  | claim call =>
    change Leased _ _ _ _ _ (db.committed _)
    cases claimed : claim (call.input staleAfterMs) call.now db with
    | error _ => exact leased.pass order rfl
    | ok answer =>
      obtain ⟨outcome, after⟩ := answer
      change Leased _ _ _ _ _ after
      rcases claim_cases claimed with ⟨_, taken⟩ | ⟨_, same, _⟩
      · by_cases here : call.idempotencyKey = idempotencyKey
        · exact leased.claimed here order refreshed taken
        · exact leased.pass order (taken.find?_other (Ne.symm here))
      · exact leased.pass order (by rw [same])
  | heartbeat key workspace later =>
    change Leased _ _ _ _ _ (db.committed _)
    cases beaten : Product.heartbeat key workspace later db with
    | error _ => exact leased.pass order rfl
    | ok after =>
      obtain ⟨row, owned, rfl⟩ := heartbeat_eq_ok.mp beaten
      obtain ⟨found, _, running⟩ := owned_eq_some.mp owned
      have kept : (row.renewed later).idempotencyKey = row.idempotencyKey := rfl
      refine leased.put order found kept fun _ stands => ?_
      rcases stands with ⟨_, mine, _⟩ | finished | ⟨lapsed, lost⟩
      · exact .inl ⟨running, mine, leased.1.trans order⟩
      · exact .inr (.inl finished)
      · exact .inr (.inr ⟨lapsed.trans order, lost⟩)
  | complete key result later =>
    change Leased _ _ _ _ _ (db.committed _)
    cases done : Product.complete key result later db with
    | error _ => exact leased.pass order rfl
    | ok after =>
      obtain ⟨row, owned, rfl⟩ := complete_eq_ok.mp done
      have kept : (row.finished result later).idempotencyKey = row.idempotencyKey := rfl
      exact leased.put order (owned_eq_some.mp owned).1 kept fun _ _ => .inr (.inl (.inl rfl))
  | rollback key workspace code later =>
    change Leased _ _ _ _ _ (db.committed _)
    cases done : Product.rollback key workspace code later db with
    | error _ => exact leased.pass order rfl
    | ok after =>
      obtain ⟨row, owned, rfl⟩ := rollback_eq_ok.mp done
      obtain ⟨found, own, running⟩ := owned_eq_some.mp owned
      have kept : (row.abandoned .rolledBack code later).idempotencyKey = row.idempotencyKey := rfl
      refine (leased.pass (le_refl _) rfl).put order found kept fun here stands => ?_
      rcases stands with ⟨_, mine, _⟩ | finished | ⟨lapsed, _⟩
      · have refused := keeps here (own.symm.trans mine)
        rw [done] at refused
        cases refused
      · rcases finished with ended | ended <;> exact absurd (running.symm.trans ended) nofun
      · exact .inr (.inr ⟨lapsed.trans order, fun both => absurd both.1 nofun⟩)

/-- While the lease stands, a later claim that returns `new` comes after it has run out, and after the
lease of every heartbeat in between. -/
theorem Leased.run {between : List LeaseOp} {call : LeaseClaim}
    (leased : Leased staleAfterMs idempotencyKey workspaceId heard now db)
    (here : call.idempotencyKey = idempotencyKey)
    (sorted : ((now :: between.map LeaseOp.now) ++ [call.now]).Pairwise (· ≤ ·))
    (refreshed : Along (leaseStep staleAfterMs) Refreshed db between)
    (keeps : Along (leaseStep staleAfterMs) (KeepsOperation idempotencyKey workspaceId) db between)
    (new : ReturnsNew staleAfterMs (Foundation.run (leaseStep staleAfterMs) db between) call) :
    heard + staleAfterMs ≤ call.now ∧
      Along (leaseStep staleAfterMs)
        (HeardBefore idempotencyKey workspaceId (call.now - staleAfterMs)) db between := by
  induction between generalizing db heard now with
  | nil =>
    obtain ⟨after, claimed⟩ := new
    have order : now ≤ call.now := (List.pairwise_cons.mp sorted).1 call.now (by simp)
    exact ⟨leased.lapsed here order (claim_eq_new claimed), trivial⟩
  | cons op rest ih =>
    obtain ⟨first, later⟩ := List.pairwise_cons.mp sorted
    have order : now ≤ op.now := first op.now (by simp)
    have next := leased.step op order refreshed.1 keeps.1
    obtain ⟨lapsed, heardRest⟩ := ih next later refreshed.2 keeps.2 new
    refine ⟨lapsed, ?_, heardRest⟩
    cases op with
    | heartbeat key workspace time =>
      intro sameKey sameWorkspace beaten
      subst sameKey sameWorkspace
      cases result : Product.heartbeat key workspace time db with
      | error _ =>
        rw [result] at beaten
        cases beaten
      | ok after =>
        have renewed : Leased staleAfterMs key workspace time time
            (leaseStep staleAfterMs db (.heartbeat key workspace time)) := by
          change Leased _ _ _ _ _ (db.committed _)
          rw [result]
          exact Leased.heartbeat result
        have bound := (ih renewed later refreshed.2 keeps.2 new).1
        omega
    | claim | complete | rollback => trivial

/-- A claim that returned `new` leases the operation to the claimant. -/
theorem leased_of_new {call : LeaseClaim} (new : ReturnsNew staleAfterMs db call)
    (refreshed : Refreshed db (.claim call)) :
    Leased staleAfterMs call.idempotencyKey call.identifiers.workspaceId call.now call.now
      (leaseStep staleAfterMs db (.claim call)) := by
  obtain ⟨after, done⟩ := new
  obtain ⟨row, found, running, identifiers, written⟩ :=
    written_of_claimed refreshed (claim_eq_new done)
  change Leased _ _ _ _ _ (db.committed _)
  rw [done]
  exact ⟨le_refl _, row, found, .inl ⟨running, by rw [identifiers], written⟩⟩

/-- **The lease is exclusive**, in every run with times in order in which no claim reopens an operation
that was written before. -/
theorem lease_exclusive (staleAfterMs : ℤ) {ops : List LeaseOp}
    (sorted : (ops.map LeaseOp.now).Pairwise (· ≤ ·))
    (refreshed : Along (leaseStep staleAfterMs) Refreshed .empty ops) :
    LeaseExclusive staleAfterMs ops := by
  rintro before first between second after rfl here new again keeps
  rw [List.append_cons] at sorted refreshed
  obtain ⟨start, rest⟩ := Along.append.mp refreshed
  obtain ⟨_, start⟩ := Along.append.mp start
  obtain ⟨middle, _⟩ := Along.append.mp rest
  have order : ((first.now :: between.map LeaseOp.now) ++ [second.now]).Pairwise (· ≤ ·) := by
    refine sorted.sublist ?_
    simp only [List.map_append, List.map_cons, List.append_assoc, List.singleton_append]
    refine List.Sublist.trans ?_ (List.sublist_append_right _ _)
    exact List.Sublist.cons_cons _ ((List.Sublist.refl _).append (by simp [LeaseOp.now]))
  have leased := leased_of_new new start.1
  rw [List.append_cons, run_append] at again
  rw [run_append] at middle keeps again ⊢
  exact leased.run here order middle keeps again

end Runs

/-! ### Two runs -/

namespace Sample

/-- The ids of an attempt, after its workspace. -/
def identifiers (workspaceId : String) : Identifiers where
  workspaceId
  serviceAccountId := workspaceId ++ "-account"
  serviceCredentialId := workspaceId ++ "-service"
  agentId := workspaceId ++ "-agent"
  agentCredentialId := workspaceId ++ "-inference"
  policyId := workspaceId ++ "-policy"
  mandateId := workspaceId ++ "-mandate"
  providerConfigId := workspaceId ++ "-provider"

def leaseClaim (workspaceId : String) (now : ℤ) : LeaseOp :=
  .claim ⟨"onboarding-key", "fingerprint", "recovery-" ++ workspaceId, identifiers workspaceId, now⟩

/-- A worker is rolled back and its operation reopened at once; the new owner is heard of, falls
silent and is taken over. -/
def takenOver : List LeaseOp :=
  [leaseClaim "first" 1000, .rollback "onboarding-key" "first" "PROVIDER_UNAVAILABLE" 1000,
    leaseClaim "second" 1000, .heartbeat "onboarding-key" "second" 500000,
    leaseClaim "third" 1400000]

/-- An operation is rolled back and reopened after the lease of its first owner has run out. -/
def reopened : List LeaseOp :=
  [leaseClaim "first" 0, .rollback "onboarding-key" "first" "PROVIDER_UNAVAILABLE" 1000,
    leaseClaim "second" 900001, leaseClaim "third" 900002]

end Sample

theorem lease_exclusive_takenOver :
    ((Sample.takenOver.map LeaseOp.now).Pairwise (· ≤ ·) ∧
      Along (leaseStep quarterHour) Refreshed .empty Sample.takenOver) ∧
      LeaseExclusive quarterHour Sample.takenOver :=
  ⟨by decide +kernel, lease_exclusive quarterHour (by decide +kernel) (by decide +kernel)⟩

/-- The second owner is taken over a millisecond after its claim. -/
theorem lease_not_exclusive :
    (Sample.reopened.map LeaseOp.now).Pairwise (· ≤ ·) ∧
      ¬ LeaseExclusive quarterHour Sample.reopened := by
  refine ⟨by decide +kernel, fun exclusive => ?_⟩
  have returns : ∀ {db : Db} {call : LeaseClaim},
      ((claim (call.input quarterHour) call.now db).toOption.map Prod.fst) = some .new →
      ReturnsNew quarterHour db call := by
    intro db call outcome
    cases claimed : claim (call.input quarterHour) call.now db with
    | error _ => simp [claimed, Except.toOption] at outcome
    | ok answer =>
      rw [claimed] at outcome
      obtain ⟨_, after⟩ := answer
      cases Option.some.inj outcome
      exact ⟨after, claimed⟩
  have early := (exclusive (Sample.reopened.take 2) _ [] _ [] rfl rfl
    (returns (by decide +kernel)) (returns (by decide +kernel)) trivial).1
  exact absurd early (by decide)

end FuseControlPlane.Product
