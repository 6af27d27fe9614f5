/-
Hold rows and the open cases they stand for.

A mandate is held for the sake of an execution that waits for an operator. A hold row without such an
execution is an orphan: nothing is left to resolve, so nothing removes it.

* `Held`: what holds of the committed store after every commit. A hold row has an open case, and only
  finished executions have a resolution.
* `Framed`: what a commit leaves alone, given the locks it holds. An execution or a hold row changes
  only under a lock, and a case is closed only by a transaction that has the mandate locked.
* `stable_execution`, `stable_case`, …: what such commits of others cannot destroy.
* `Change`: a commit that writes one execution. `Change.kept` and `Change.framed` are the argument for
  all of them; `Change.finish`, `Change.record`, `Change.putOnHold` and `Change.resolve` are the ways
  to make one.
* `Untouched`: a commit that writes none of these tables.
* `held_run`: calls that run one after the other leave no orphan.
-/

import FuseControlPlane.Persistence.Invariants

set_option linter.unusedSectionVars false

namespace FuseControlPlane.Persistence

open Foundation Foundation.JavaScript Domain Identity FuseControlPlane.Core Program

/-! ### What a commit keeps -/

/-- Every hold row has an open case, and every resolution a finished execution. -/
structure Held (db : Db) : Prop where
  resolved : ∀ {organizationId requestId : String} {resolution : ResolutionRow},
    db.resolution organizationId requestId = some resolution →
    ∃ row, db.execution organizationId requestId = some row ∧
      (row.status = .completed ∨ row.status = .failed)
  justified : ∀ {organizationId mandateId : String},
    (db.hold organizationId mandateId).isSome = true →
    ∃ requestId row, db.execution organizationId requestId = some row ∧
      row.mandateId = mandateId ∧ row.status = .reconciliationHold

/-- A mandate with a hold row has an open case. -/
theorem Held.openCase {db : Db} (holds : Held db) {organizationId mandateId : String}
    (held : (db.hold organizationId mandateId).isSome = true) :
    db.openCase organizationId mandateId = true := by
  obtain ⟨requestId, row, found, owned, onHold⟩ := holds.justified held
  refine Db.openCase_eq_true.mpr ⟨requestId, row, found, owned, onHold, ?_⟩
  exact Db.unresolved_of_unfinished holds.resolved found (by simp [onHold])

theorem Held.empty : Held Db.empty := ⟨nofun, nofun⟩

/-- What a commit under the locks `held` leaves alone. -/
structure Framed (held : List Lock) (before after : Db) : Prop where
  executions : ∀ organizationId requestId, Lock.execution organizationId requestId ∉ held →
    after.execution organizationId requestId = before.execution organizationId requestId
  holds : ∀ organizationId mandateId, Lock.mandate organizationId mandateId ∉ held →
    after.hold organizationId mandateId = before.hold organizationId mandateId
  cases : ∀ {organizationId requestId : String} {row : ExecutionRow},
    before.execution organizationId requestId = some row →
    ∃ new, after.execution organizationId requestId = some new ∧ new.mandateId = row.mandateId ∧
      (row.status = .reconciliationHold → Lock.mandate organizationId row.mandateId ∉ held →
        new.status = .reconciliationHold)

/-! ### Knowledge that lasts -/

section Stability

variable {held : List Lock}

/-- A locked execution stays as it is. -/
theorem stable_execution {organizationId requestId : String} {row : Option ExecutionRow}
    (locked : Lock.execution organizationId requestId ∈ held) :
    Semantics.Stable Held Framed held
      fun db => db.execution organizationId requestId = row := by
  intro store after others apart _ _ known framed
  rw [framed.executions _ _ (apart locked)]
  exact known

/-- The hold row of a locked mandate stays as it is. -/
theorem stable_hold {organizationId mandateId : String} {row : Option HoldRow}
    (locked : Lock.mandate organizationId mandateId ∈ held) :
    Semantics.Stable Held Framed held fun db => db.hold organizationId mandateId = row := by
  intro store after others apart _ _ known framed
  rw [framed.holds _ _ (apart locked)]
  exact known

/-- An execution never changes its mandate, whether or not it is locked. -/
theorem stable_mandateOf (organizationId requestId mandateId : String) :
    Semantics.Stable Held Framed held fun db =>
      ∃ row, db.execution organizationId requestId = some row ∧ row.mandateId = mandateId := by
  rintro store after others _ _ _ ⟨row, found, owned⟩ framed
  obtain ⟨new, there, same, _⟩ := framed.cases found
  exact ⟨new, there, same.trans owned⟩

/-- A case of a locked mandate stays open. -/
theorem stable_case {organizationId mandateId : String} (requestId : String)
    (locked : Lock.mandate organizationId mandateId ∈ held) :
    Semantics.Stable Held Framed held fun db =>
      ∃ row, db.execution organizationId requestId = some row ∧ row.mandateId = mandateId ∧
        row.status = .reconciliationHold := by
  rintro store after others apart _ _ ⟨row, found, rfl, onHold⟩ framed
  obtain ⟨new, there, same, kept⟩ := framed.cases found
  exact ⟨new, there, same, kept onHold (apart locked)⟩

end Stability

/-! ### Commits that write an execution -/

/-- The store seen through its executions, resolutions and hold rows. -/
structure Untouched (before after : Db) : Prop where
  execution : ∀ organizationId requestId,
    after.execution organizationId requestId = before.execution organizationId requestId
  resolution : ∀ organizationId requestId,
    after.resolution organizationId requestId = before.resolution organizationId requestId
  hold : ∀ organizationId mandateId,
    after.hold organizationId mandateId = before.hold organizationId mandateId

namespace Untouched

variable {before after : Db}

theorem refl (db : Db) : Untouched db db := ⟨fun _ _ => rfl, fun _ _ => rfl, fun _ _ => rfl⟩

theorem kept (untouched : Untouched before after) (holds : Held before) : Held after where
  resolved recorded := by
    rw [untouched.resolution] at recorded
    obtain ⟨row, found, finished⟩ := holds.resolved recorded
    exact ⟨row, by rw [untouched.execution]; exact found, finished⟩
  justified there := by
    rw [untouched.hold] at there
    obtain ⟨requestId, row, found, owned, onHold⟩ := holds.justified there
    exact ⟨requestId, row, by rw [untouched.execution]; exact found, owned, onHold⟩

theorem framed (untouched : Untouched before after) (held : List Lock) :
    Framed held before after where
  executions _ _ _ := untouched.execution _ _
  holds _ _ _ := untouched.hold _ _
  cases {_ _ row} found := ⟨row, by rw [untouched.execution]; exact found, rfl, fun onHold _ => onHold⟩

end Untouched

/-- The writes have put `new` in the place of an execution. They may have recorded its resolution,
when it is finished, and changed the hold row of its mandate. -/
structure Wrote (new : ExecutionRow) (before after : Db) : Prop where
  execution : ∀ organizationId requestId, after.execution organizationId requestId =
    if organizationId = new.organizationId ∧ requestId = new.requestId then some new
    else before.execution organizationId requestId
  resolution : ∀ {organizationId requestId : String} {resolution : ResolutionRow},
    after.resolution organizationId requestId = some resolution →
    before.resolution organizationId requestId = some resolution ∨
      (organizationId = new.organizationId ∧ requestId = new.requestId) ∧
        (new.status = .completed ∨ new.status = .failed)
  hold : ∀ organizationId mandateId,
    ¬ (organizationId = new.organizationId ∧ mandateId = new.mandateId) →
    after.hold organizationId mandateId = before.hold organizationId mandateId

/-- A commit under the locks `held` that writes one execution, `new`. -/
structure Change (held : List Lock) (new : ExecutionRow) (before after : Db) : Prop
    extends Wrote new before after where
  locked : Lock.execution new.organizationId new.requestId ∈ held
  /-- The execution it replaces, if there is one, has the same mandate and is not finished. -/
  replaces : ∀ {row : ExecutionRow},
    before.execution new.organizationId new.requestId = some row →
    row.mandateId = new.mandateId ∧ row.status ≠ .completed ∧ row.status ≠ .failed
  /-- Either the mandate is left alone and no case of it is closed, or the mandate is locked and its
  hold row, if there is one, has an open case. -/
  mandate :
    (after.hold new.organizationId new.mandateId = before.hold new.organizationId new.mandateId ∧
      ∀ row, before.execution new.organizationId new.requestId = some row →
        row.status ≠ .reconciliationHold) ∨
    (Lock.mandate new.organizationId new.mandateId ∈ held ∧
      ((after.hold new.organizationId new.mandateId).isSome = true →
        ∃ requestId row, after.execution new.organizationId requestId = some row ∧
          row.mandateId = new.mandateId ∧ row.status = .reconciliationHold))

/-- The locks such a commit needs at most. -/
def ExecutionRow.locks (row : ExecutionRow) : List Lock :=
  [.execution row.organizationId row.requestId, .mandate row.organizationId row.mandateId]

section Changes

variable {held : List Lock} {new : ExecutionRow} {before after : Db}

theorem Wrote.of_untouched (untouched : Untouched before after) :
    Wrote new before ((Write.execution new).apply after) where
  execution organizationId requestId := by
    simp only [execution_apply, untouched.execution]
  resolution recorded := .inl (by simpa [untouched.resolution] using recorded)
  hold organizationId mandateId _ := untouched.hold _ _

/-- An execution other than the written one is still there. -/
theorem Wrote.stays (wrote : Wrote new before after) {organizationId requestId : String}
    {row : ExecutionRow} (found : before.execution organizationId requestId = some row)
    (different : ¬ (organizationId = new.organizationId ∧ requestId = new.requestId)) :
    after.execution organizationId requestId = some row := by
  rw [wrote.execution, if_neg different]
  exact found

/-- An open case, next to a finished execution that was written, was there before. -/
theorem Wrote.otherCase (wrote : Wrote new before after)
    (finished : new.status = .completed ∨ new.status = .failed)
    (opens : after.openCase new.organizationId new.mandateId = true) :
    ∃ requestId row, requestId ≠ new.requestId ∧
      before.execution new.organizationId requestId = some row ∧
      row.mandateId = new.mandateId ∧ row.status = .reconciliationHold := by
  obtain ⟨requestId, row, found, owner, onHold, _⟩ := Db.openCase_eq_true.mp opens
  have different : requestId ≠ new.requestId := by
    rintro rfl
    rw [wrote.execution, if_pos ⟨rfl, rfl⟩] at found
    cases found
    simp [onHold] at finished
  rw [wrote.execution, if_neg fun same => different same.2] at found
  exact ⟨requestId, row, different, found, owner, onHold⟩

/-- A recorded resolution, before the mandate is released. -/
theorem Wrote.recordResolution (db : Db) {input : ResolveReconciliationInput} {row : ExecutionRow}
    (cost : ℕ) (occurredAt : ℤ) (organization : row.organizationId = input.organizationId)
    (request : row.requestId = input.requestId) :
    Wrote ((resolutionUpdate input.resolution row cost occurredAt).set row) db
      (db.recordResolution input row cost occurredAt) := by
  have preserves := (resolutionUpdate input.resolution row cost occurredAt).set_preserves row
  have finished := resolutionUpdate_status input.resolution row cost occurredAt
  refine ⟨fun _ _ => ?_, fun recorded => ?_, fun _ _ _ => rfl⟩
  · rw [Db.execution_recordResolution, preserves.organizationId, preserves.requestId]
  · simp only [Db.recordResolution, resolution_apply, newResolution, ← organization,
      ← request] at recorded
    rw [preserves.organizationId, preserves.requestId]
    split at recorded
    · next same => exact .inr ⟨same, finished⟩
    · exact .inl recorded

/-- Releasing the mandate of the written execution writes no other hold row. -/
theorem Wrote.released {middle : Db} (wrote : Wrote new before middle)
    (released : Released middle new.organizationId new.mandateId after) : Wrote new before after := by
  have removed : ∀ organizationId mandateId,
      ¬ (organizationId = new.organizationId ∧ mandateId = new.mandateId) →
      ((Write.removeHold new.organizationId new.mandateId).apply middle).hold organizationId
        mandateId = before.hold organizationId mandateId := by
    intro organizationId mandateId different
    simp only [hold_apply, if_neg different]
    exact wrote.hold _ _ different
  cases released with
  | stillOpen _ => exact wrote
  | unheld _ _ _ _ _ => exact wrote
  | restored row hold found settled held onHold => exact ⟨wrote.execution, wrote.resolution, removed⟩
  | closing row hold found settled held movedOn => exact ⟨wrote.execution, wrote.resolution, removed⟩

/-- A hold row that a release leaves behind has an open case. -/
theorem openCase_of_released {organizationId mandateId : String}
    (released : Released before organizationId mandateId after)
    (there : (after.hold organizationId mandateId).isSome = true) :
    before.openCase organizationId mandateId = true := by
  cases released with
  | stillOpen open_ => exact open_
  | unheld row found settled absent beyond =>
    rw [absent] at there
    cases there
  | restored row hold found settled held onHold => simp at there
  | closing row hold found settled held movedOn => simp at there

/-- **A change keeps every hold row justified.** -/
theorem Change.kept (change : Change held new before after) (holds : Held before) : Held after where
  resolved {organizationId requestId resolution} recorded := by
    rcases change.resolution recorded with old | ⟨⟨rfl, rfl⟩, finished⟩
    · obtain ⟨row, found, finished⟩ := holds.resolved old
      refine ⟨row, change.stays found ?_, finished⟩
      rintro ⟨rfl, rfl⟩
      obtain ⟨_, notCompleted, notFailed⟩ := change.replaces found
      exact finished.elim notCompleted notFailed
    · exact ⟨new, by rw [change.execution, if_pos ⟨rfl, rfl⟩], finished⟩
  justified {organizationId mandateId} there := by
    by_cases same : organizationId = new.organizationId ∧ mandateId = new.mandateId
    · obtain ⟨rfl, rfl⟩ := same
      rcases change.mandate with ⟨kept, running⟩ | ⟨_, justified⟩
      · rw [kept] at there
        obtain ⟨requestId, row, found, owned, onHold⟩ := holds.justified there
        refine ⟨requestId, row, change.stays found ?_, owned, onHold⟩
        rintro ⟨_, rfl⟩
        exact running row found onHold
      · exact justified there
    · rw [change.hold _ _ same] at there
      obtain ⟨requestId, row, found, owned, onHold⟩ := holds.justified there
      refine ⟨requestId, row, change.stays found ?_, owned, onHold⟩
      rintro ⟨rfl, rfl⟩
      exact same ⟨rfl, owned.symm.trans (change.replaces found).1⟩

/-- **A change touches only what its locks cover.** -/
theorem Change.framed (change : Change held new before after) : Framed held before after where
  executions organizationId requestId free := by
    rw [change.execution, if_neg]
    rintro ⟨rfl, rfl⟩
    exact free change.locked
  holds organizationId mandateId free := by
    by_cases same : organizationId = new.organizationId ∧ mandateId = new.mandateId
    · obtain ⟨rfl, rfl⟩ := same
      rcases change.mandate with ⟨kept, _⟩ | ⟨locked, _⟩
      · exact kept
      · exact absurd locked free
    · exact change.hold _ _ same
  cases {organizationId requestId row} found := by
    by_cases same : organizationId = new.organizationId ∧ requestId = new.requestId
    · obtain ⟨rfl, rfl⟩ := same
      obtain ⟨owned, _⟩ := change.replaces found
      refine ⟨new, by rw [change.execution, if_pos ⟨rfl, rfl⟩], owned.symm, fun onHold free => ?_⟩
      rcases change.mandate with ⟨_, running⟩ | ⟨locked, _⟩
      · exact absurd onHold (running row found)
      · rw [owned] at free
        exact absurd locked free
    · exact ⟨row, change.stays found same, rfl, fun onHold _ => onHold⟩

/-- Finishing an execution that was executing. -/
theorem Change.finish {row : ExecutionRow} (update : ExecutionUpdate)
    (locked : Lock.execution row.organizationId row.requestId ∈ held)
    (found : before.execution row.organizationId row.requestId = some row)
    (running : row.status = .executing) :
    Change held (update.set row) before ((Write.execution (update.set row)).apply before) := by
  have preserves := update.set_preserves row
  refine ⟨.of_untouched (.refl before), ?_, fun here => ?_, .inl ⟨by simp, fun other here => ?_⟩⟩
  · rw [preserves.organizationId, preserves.requestId]
    exact locked
  all_goals
    rw [preserves.organizationId, preserves.requestId, found, Option.some.injEq] at here
    subst here
  · exact ⟨preserves.mandateId.symm, by simp [running], by simp [running]⟩
  · simp [running]

/-- Recording an execution that is not there yet. -/
theorem Change.record {middle : Db} (untouched : Untouched before middle)
    (locked : Lock.execution new.organizationId new.requestId ∈ held)
    (absent : before.execution new.organizationId new.requestId = none) :
    Change held new before ((Write.execution new).apply middle) := by
  refine ⟨.of_untouched untouched, locked, fun found => ?_, .inl ⟨?_, fun other found => ?_⟩⟩
  · rw [absent] at found
    cases found
  · exact untouched.hold _ _
  · rw [absent] at found
    cases found

/-- Putting an execution on hold that was executing, and its mandate, whatever its hold row was. -/
theorem Change.putOnHold {row : ExecutionRow} (wrote : Wrote new before after)
    (locked : Lock.execution new.organizationId new.requestId ∈ held)
    (owned : Lock.mandate new.organizationId new.mandateId ∈ held)
    (found : before.execution new.organizationId new.requestId = some row)
    (same : row.mandateId = new.mandateId) (running : row.status = .executing)
    (onHold : new.status = .reconciliationHold) : Change held new before after := by
  refine ⟨wrote, locked, fun here => ?_, .inr ⟨owned, fun _ => ?_⟩⟩
  · rw [found, Option.some.injEq] at here
    subst here
    exact ⟨same, by simp [running], by simp [running]⟩
  · exact ⟨new.requestId, new, by rw [wrote.execution, if_pos ⟨rfl, rfl⟩], rfl, onHold⟩

/-- Finishing an open case, when its mandate, should it still have a hold row, has another one. -/
theorem Change.resolve {row : ExecutionRow} (wrote : Wrote new before after)
    (locked : Lock.execution new.organizationId new.requestId ∈ held)
    (owned : Lock.mandate new.organizationId new.mandateId ∈ held)
    (found : before.execution new.organizationId new.requestId = some row)
    (same : row.mandateId = new.mandateId) (onHold : row.status = .reconciliationHold)
    (justified : (after.hold new.organizationId new.mandateId).isSome = true →
      ∃ requestId other, requestId ≠ new.requestId ∧
        before.execution new.organizationId requestId = some other ∧
        other.mandateId = new.mandateId ∧ other.status = .reconciliationHold) :
    Change held new before after := by
  refine ⟨wrote, locked, fun here => ?_, .inr ⟨owned, fun there => ?_⟩⟩
  · rw [found, Option.some.injEq] at here
    subst here
    exact ⟨same, by simp [onHold], by simp [onHold]⟩
  · obtain ⟨requestId, other, different, found', owner, onHold'⟩ := justified there
    exact ⟨requestId, other, wrote.stays found' fun both => different both.2, owner, onHold'⟩

end Changes

/-! ### Statements that leave executions and holds alone -/

/-- The write is to none of the three tables. -/
def Write.isIdle : Write → Bool
  | execution _ => false
  | resolution _ => false
  | hold _ => false
  | removeHold _ _ => false
  | _ => true

/-- The statement writes to none of the three tables. -/
def Sql.isIdle {β : Type} : Sql β → Bool
  | insertExecution _ => false
  | insertResolution _ => false
  | insertHold _ => false
  | updateExecution _ _ _ => false
  | deleteHold _ _ => false
  | _ => true

theorem idle_inserted {checked : Except String Unit} {write : Write} (idle : write.isIdle = true) :
    ∀ other ∈ Sql.inserted checked write, other.isIdle = true := by
  cases checked with
  | error _ => simp [Sql.inserted]
  | ok _ => simpa [Sql.inserted] using idle

theorem idle_writes {β : Type} {statement : Sql β} (idle : statement.isIdle = true) (view : Db) :
    ∀ write ∈ statement.writes view, write.isIdle = true := by
  cases statement with
  | insertOrganization row => exact idle_inserted rfl
  | insertAgentIdentity row => exact idle_inserted rfl
  | insertPolicyVersion row => exact idle_inserted rfl
  | insertMandate row => exact idle_inserted rfl
  | insertAssignment row => exact idle_inserted rfl
  | insertBranch row => exact idle_inserted rfl
  | insertDecision row => exact idle_inserted rfl
  | updateMandate organizationId mandateId update =>
    simp only [Sql.writes]
    split
    · split
      · simp [Write.isIdle]
      · simp
    · simp
  | updateMandatePolicy organizationId mandateId policyId policyVersion =>
    simp only [Sql.writes]
    split
    · exact idle_inserted rfl
    · simp
  | insertExecution | insertResolution | insertHold | updateExecution | deleteHold =>
    exact Bool.noConfusion idle
  | _ => simp [Sql.writes]

theorem Untouched.idle {write : Write} (idle : write.isIdle = true) (db : Db) :
    Untouched db (write.apply db) := by
  cases write with
  | execution | resolution | hold | removeHold => exact Bool.noConfusion idle
  | _ => exact ⟨fun _ _ => rfl, fun _ _ => rfl, fun _ _ => rfl⟩

theorem untouched_applyAll {writes : List Write} (idle : ∀ write ∈ writes, write.isIdle = true)
    (db : Db) : Untouched db (sql.applyAll writes db) := by
  induction writes generalizing db with
  | nil => exact .refl db
  | cons write rest ih =>
    have first := Untouched.idle (idle write List.mem_cons_self) db
    have later := ih (fun other member => idle other (List.mem_cons_of_mem _ member)) (write.apply db)
    exact ⟨fun _ _ => (later.execution _ _).trans (first.execution _ _),
      fun _ _ => (later.resolution _ _).trans (first.resolution _ _),
      fun _ _ => (later.hold _ _).trans (first.hold _ _)⟩

/-! ### Runs of whole calls -/

section Runs

variable [NodeCrypto] {db after : Db} {op : Op} {reply : Reply}

/-- **A call that runs alone keeps every hold row justified.** -/
theorem Held.commit (holds : Held db) (commit : Commit db op reply after) : Held after := by
  cases commit with
  | organization | agent | policy | mandate | assigned | branch | transition | policySet =>
    exact (Untouched.idle rfl db).kept holds
  | previewed | replayed | notFailed | resolvedBefore => exact holds
  | held op reply row update held quiet found =>
    obtain ⟨known, running, onHold⟩ := found_of_heldExecution held
    have preserves := update.set_preserves row
    have wrote : Wrote (update.set row) db (db.holdExecution row update) := by
      refine ⟨fun _ _ => ?_, fun recorded => ?_, fun _ _ different => ?_⟩
      · rw [Db.execution_holdExecution, preserves.organizationId, preserves.requestId]
      · rw [Db.resolution_holdExecution] at recorded
        exact .inl recorded
      · rw [preserves.organizationId, preserves.mandateId] at different
        rw [Db.hold_holdExecution, if_neg different]
    rw [← preserves.organizationId, ← preserves.requestId] at known
    have change : Change (update.set row).locks (update.set row) db (db.holdExecution row update) :=
      .putOnHold wrote (by simp [ExecutionRow.locks]) (by simp [ExecutionRow.locks]) known
        preserves.mandateId.symm running onHold
    exact change.kept holds
  | admitted decisionId input decidedAt row result begun fresh evaluated =>
    set decision := db.newDecision input decisionId decidedAt row result
    set new := admittedExecution input decidedAt decision
    have change : Change new.locks new db _ :=
      .record (@Untouched.idle (.decision decision) rfl db) (by simp [ExecutionRow.locks]) fresh
    exact change.kept holds
  | completed input reply row completedAt found running positive within =>
    obtain ⟨organization, request⟩ := Db.key_of_execution found
    rw [← organization, ← request] at found
    have change : Change row.locks _ db _ :=
      .finish (.completed input.actualCostAtomic.toNat input.response completedAt)
        (by simp [ExecutionRow.locks]) found running
    exact change.kept holds
  | failed input row failedAt found running =>
    obtain ⟨organization, request⟩ := Db.key_of_execution found
    rw [← organization, ← request] at found
    have change : Change row.locks _ db _ :=
      .finish (.failed input.failureCode failedAt) (by simp [ExecutionRow.locks]) found running
    exact change.kept holds
  | resolved input row cost occurredAt after found onHold fresh priced released =>
    obtain ⟨organization, request⟩ := Db.key_of_execution found
    rw [← organization, ← request] at found
    set update := resolutionUpdate input.resolution row cost occurredAt with named
    have preserves := update.set_preserves row
    have finished := resolutionUpdate_status input.resolution row cost occurredAt
    have recorded := Wrote.recordResolution db cost occurredAt organization request
    rw [← preserves.organizationId, ← preserves.requestId] at found
    rw [← preserves.organizationId, ← preserves.mandateId] at released
    have change : Change (update.set row).locks (update.set row) db after :=
      .resolve (recorded.released released) (by simp [ExecutionRow.locks])
        (by simp [ExecutionRow.locks]) found preserves.mandateId.symm onHold
        fun there => recorded.otherCase finished (openCase_of_released released there)
    exact change.kept holds

/-- **Every hold row is justified at the end of a run.** -/
theorem held_run (ops : List Op) : Held (run step Db.empty ops) :=
  run_invariant Held.empty (fun _ _ holds => step_preserves holds fun _ _ => holds.commit) ops

end Runs

end FuseControlPlane.Persistence
