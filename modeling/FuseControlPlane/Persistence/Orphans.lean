/-
**No orphan holds: the policy store under concurrent calls.**

Every transaction of the store meets its obligation under `Foundation.Semantics.Safe`, with the
invariant and the frame of `Holds.lean`; `Secure` is that obligation.

* `secure_holdMandate`: an execution that was just put on hold justifies the hold of its mandate.
* `secure_releaseMandate`: a hold row that stays has another open case, and the mandate's lock keeps
  it open until the commit.
* `no_orphan_hold`: the run theorem, for any calls in any interleaving. It asks that a lease expiry
  finds its execution still executing (`ExpiryFindsRunning`).
* `orphaned_hold`: without that, a completion between the replay's read and its update leaves an
  orphan.
-/

import FuseControlPlane.Persistence.Holds

set_option linter.unusedSectionVars false

namespace FuseControlPlane.Persistence

open Foundation Foundation.JavaScript Domain Identity FuseControlPlane.Core Program

/-! ### The transactions, one by one -/

/-- A lease expiry finds its execution still executing. -/
def expiryFindsRunning {β : Type} (statement : Sql β) (view : Db) : Bool :=
  match statement with
  | .updateExecution organizationId requestId (.leaseExpired _) =>
    (view.execution organizationId requestId).any (·.status = .executing)
  | _ => true

/-- The interleavings in which every lease expiry finds its execution still executing. -/
def ExpiryFindsRunning {β : Type} (statement : Sql β) (view : Db) : Prop :=
  expiryFindsRunning statement view = true

instance {β : Type} (statement : Sql β) (view : Db) : Decidable (ExpiryFindsRunning statement view) :=
  inferInstanceAs (Decidable (_ = true))

/-- The obligation of a transaction. -/
def Secure {α : Type} (program : Transaction α) (pending : List Write) (held : List Lock)
    (known : Db → Prop) : Prop :=
  sql.Safe Held Framed ExpiryFindsRunning program pending held known

/-- A mandate that is found for update is locked. -/
theorem locks_selectMandate {organizationId mandateId : String} {view : Db} {mandate : MandateRow}
    (found : view.mandate organizationId mandateId = some mandate) :
    Lock.mandate organizationId mandateId ∈
      sql.locks (.selectMandateForUpdate organizationId mandateId) view := by
  simp [sql, Sql.locks, Sql.selectedForUpdate, found]

/-- An execution that is found for update is locked. -/
theorem locks_selectExecution {organizationId requestId : String} {view : Db} {row : ExecutionRow}
    (found : view.execution organizationId requestId = some row) :
    Lock.execution organizationId requestId ∈
      sql.locks (.selectExecutionForUpdate organizationId requestId) view := by
  simp [sql, Sql.locks, Sql.selectedForUpdate, found]

section Transactions

variable {α : Type} {pending : List Write} {held : List Lock} {known : Db → Prop}

/-- A transaction that has written nothing to the three tables may commit. -/
theorem secure_done {value : α} (idle : ∀ write ∈ pending, write.isIdle = true) :
    Secure (.done value) pending held known :=
  Semantics.safe_done.mpr fun store holds _ =>
    have untouched := untouched_applyAll idle store
    ⟨untouched.kept holds, untouched.framed held⟩

/-- A transaction that has changed an execution may commit. -/
theorem secure_change {value : α} (new : ExecutionRow)
    (change : ∀ store, Held store → known store →
      Change held new store (sql.applyAll pending store)) :
    Secure (.done value) pending held known :=
  Semantics.safe_done.mpr fun store holds knows =>
    have changed := change store holds knows
    ⟨changed.kept holds, changed.framed⟩

/-- A part of a transaction that leaves the three tables alone. -/
theorem secure_idle_bind {β : Type} {first : Transaction β} {second : β → Transaction α}
    (calls : AllCalls (fun statement => statement.isIdle = true) first)
    (tail : ∀ value pending more, (∀ write ∈ pending, write.isIdle = true) → held ⊆ more →
      Semantics.Stable Held Framed more known → Secure (second value) pending more known)
    (idle : ∀ write ∈ pending, write.isIdle = true)
    (stable : Semantics.Stable Held Framed held known) :
    Secure (first >>= second) pending held known := by
  refine Semantics.Safe.idle_bind
    (fun pending more => (∀ write ∈ pending, write.isIdle = true) ∧ held ⊆ more) ?_ calls ?_
    ⟨idle, List.Subset.refl held⟩ stable
  · rintro β statement quiet pending more view ⟨before, subset⟩
    refine ⟨fun write member => ?_, List.Subset.trans subset (List.subset_append_left _ _)⟩
    rcases List.mem_append.mp member with old | new
    · exact before write old
    · exact idle_writes quiet view write new
  · rintro value pending more ⟨before, subset⟩ kept
    exact tail value pending more before subset kept

/-- A transaction of such statements only. -/
theorem secure_idle {program : Transaction α}
    (calls : AllCalls (fun statement => statement.isIdle = true) program) :
    Secure program [] [] fun _ => True := by
  have whole := @secure_idle_bind α [] [] (fun _ => True) α program pure calls
    (fun value pending more idle _ _ => secure_done idle) (fun _ member => absurd member (by simp))
    (Semantics.Stable.const True)
  rwa [bind_pure] at whole

namespace Wrote

variable {new : ExecutionRow} {before after : Db}

theorem insertHold (wrote : Wrote new before after) (row : HoldRow)
    (keyed : row.organizationId = new.organizationId ∧ row.mandateId = new.mandateId) (view : Db) :
    Wrote new before (sql.applyAll ((Sql.insertHold row).writes view) after) := by
  simp only [Sql.writes]
  split
  · exact wrote
  · cases view.checkHold row with
    | error _ => exact wrote
    | ok _ =>
      refine ⟨wrote.execution, wrote.resolution, fun organizationId mandateId different => ?_⟩
      simp only [inserted_ok, Semantics.applyAll_cons, Semantics.applyAll_nil, sql_apply, hold_apply,
        keyed.1, keyed.2, if_neg different]
      exact wrote.hold _ _ different

theorem updateMandate (wrote : Wrote new before after) (organizationId mandateId : String)
    (update : MandateUpdate) (view : Db) :
    Wrote new before
      (sql.applyAll ((Sql.updateMandate organizationId mandateId update).writes view) after) := by
  simp only [Sql.writes]
  split
  · split
    · exact ⟨wrote.execution, wrote.resolution, wrote.hold⟩
    · exact wrote
  · exact wrote

theorem deleteHold (wrote : Wrote new before after) (view : Db) :
    Wrote new before
      (sql.applyAll ((Sql.deleteHold new.organizationId new.mandateId).writes view) after) := by
  simp only [Sql.writes]
  split
  · refine ⟨wrote.execution, wrote.resolution, fun organizationId mandateId different => ?_⟩
    simp only [Semantics.applyAll_cons, Semantics.applyAll_nil, sql_apply, hold_apply,
      if_neg different]
    exact wrote.hold _ _ different
  · exact wrote

end Wrote

/-- Read a mandate for update: it is locked from then on. -/
theorem secure_lockMandate {organizationId mandateId error : String}
    {next : MandateRow → Transaction α} (stable : Semantics.Stable Held Framed held known)
    (rest : ∀ mandate more, held ⊆ more → Lock.mandate organizationId mandateId ∈ more →
      Semantics.Stable Held Framed more known → Secure (next mandate) pending more known) :
    Secure (perform (.selectMandateForUpdate organizationId mandateId) >>= fun found =>
      orThrow found error >>= next) pending held known := by
  refine Semantics.Safe.call_keep stable fun first _ _ _ => Semantics.Safe.orThrow_bind ?_
  intro mandate found
  change Secure _ (pending ++ []) _ _
  rw [List.append_nil]
  exact rest mandate _ (List.subset_append_left _ _)
    (List.mem_append_right held (locks_selectMandate found))
    (stable.mono (List.subset_append_left _ _))

/-- **Holding the mandate of an execution that was just put on hold is safe.** The execution is locked
and was executing; by the time of the commit it is an open case of the mandate. -/
theorem secure_holdMandate {new : ExecutionRow} {organizationId mandateId : String} {value : α}
    (organization : new.organizationId = organizationId) (owner : new.mandateId = mandateId)
    (locked : Lock.execution new.organizationId new.requestId ∈ held)
    (stable : Semantics.Stable Held Framed held known)
    (running : ∀ store, known store → ∃ row,
      store.execution new.organizationId new.requestId = some row ∧
        row.mandateId = new.mandateId ∧ row.status = .executing)
    (onHold : new.status = .reconciliationHold)
    (wrote : ∀ store, Wrote new store (sql.applyAll pending store)) :
    Secure (holdMandateForReconciliation organizationId mandateId >>= fun _ => .done value) pending
      held known := by
  subst organization owner
  -- What is left to show when the transaction commits with the mandate locked.
  have commits : ∀ {pending : List Write} {held : List Lock},
      Lock.execution new.organizationId new.requestId ∈ held →
      Lock.mandate new.organizationId new.mandateId ∈ held →
      (∀ store, Wrote new store (sql.applyAll pending store)) →
      Secure (.done value) pending held known := by
    intro pending held locked owned wrote
    refine secure_change new fun store _ knows => ?_
    obtain ⟨row, found, same, executing⟩ := running store knows
    exact Change.putOnHold (wrote store) locked owned found same executing onHold
  simp only [holdMandateForReconciliation, bind_assoc]
  refine secure_lockMandate stable fun mandate more subset owned later => ?_
  have both := subset locked
  by_cases checked : mandate.state ∈ holdable
  · simp only [dif_pos checked, execute, bind_assoc]
    refine Semantics.Safe.call_keep later fun second _ _ _ => Semantics.Safe.fromExcept_bind ?_
    intro _ _
    refine Semantics.Safe.call_keep (later.mono (List.subset_append_left _ _)) fun third _ _ _ => ?_
    refine commits (List.mem_append_left _ (List.mem_append_left _ both))
      (List.mem_append_left _ (List.mem_append_left _ owned)) fun store => ?_
    simp only [Semantics.applyAll_append, sql_writes]
    exact ((wrote store).insertHold ⟨new.organizationId, new.mandateId, mandate.state, checked⟩
      ⟨rfl, rfl⟩ _).updateMandate _ _ _ _
  · simp only [dif_neg checked]
    exact commits both owned wrote

/-! The statements that matter. -/

/-- Read an execution for update: the row that is found is locked, and stays as it is. -/
theorem secure_lockExecution {organizationId requestId error : String}
    {next : ExecutionRow → Transaction α}
    (rest : ∀ row held, row.organizationId = organizationId → row.requestId = requestId →
      Lock.execution organizationId requestId ∈ held →
      Semantics.Stable Held Framed held
        (fun db => db.execution organizationId requestId = some row) →
      Secure (next row) [] held fun db => db.execution organizationId requestId = some row) :
    Secure (perform (.selectExecutionForUpdate organizationId requestId) >>= fun found =>
      orThrow found error >>= next) [] [] fun _ => True := by
  refine Semantics.safe_call.mpr fun store _ _ _ => ?_
  cases found : store.execution organizationId requestId with
  | none =>
    refine ⟨fun _ => True, trivial, Semantics.Stable.const True, ?_⟩
    refine Semantics.Safe.orThrow_bind fun row here => ?_
    change store.execution organizationId requestId = some row at here
    rw [found] at here
    cases here
  | some row =>
    have locked := locks_selectExecution found
    refine ⟨fun db => db.execution organizationId requestId = some row, found,
      stable_execution locked, Semantics.Safe.orThrow_bind fun other here => ?_⟩
    change store.execution organizationId requestId = some other at here
    obtain rfl : row = other := Option.some.inj (found.symm.trans here)
    obtain ⟨organization, request⟩ := Db.key_of_execution found
    exact rest row _ organization request locked (stable_execution locked)

/-- Update a locked execution. -/
theorem secure_updateExecution {organizationId requestId : String} {row : ExecutionRow}
    {update : ExecutionUpdate} {next : Unit → Transaction α}
    (stable : Semantics.Stable Held Framed held known)
    (knows : ∀ store, known store →
      (sql.applyAll pending store).execution organizationId requestId = some row)
    (applies : update.applies row = true)
    (rest : ∀ more, held ⊆ more → Semantics.Stable Held Framed more known →
      Secure (next ()) (pending ++ [.execution (update.set row)]) more known) :
    Secure (perform (.updateExecution organizationId requestId update) >>= next) pending held
      known := by
  refine Semantics.Safe.call_keep stable fun store _ here _ => ?_
  have writes : sql.writes (.updateExecution organizationId requestId update)
      (sql.applyAll pending store) = [.execution (update.set row)] := by
    simp only [sql_writes, Sql.writes, knows store here, if_pos applies]
  rw [writes]
  exact rest _ (List.subset_append_left _ _) (stable.mono (List.subset_append_left _ _))

theorem secure_failInference (input : FailInferenceInput) {value : α} :
    Secure (failInference input >>= fun _ => .done value) [] [] fun _ => True := by
  simp only [failInference, bind_assoc]
  refine Semantics.Safe.orThrow_bind fun failedAt _ => ?_
  refine Semantics.safe_call.mpr fun store _ _ _ => ?_
  cases found : store.execution input.organizationId input.requestId with
  | none =>
    refine ⟨fun _ => True, trivial, Semantics.Stable.const True, secure_done ?_⟩
    simp [Sql.writes, found]
  | some row =>
    by_cases running : row.status = .executing
    · obtain ⟨organization, request⟩ := Db.key_of_execution found
      have writes : sql.writes (.updateExecution input.organizationId input.requestId
          (.failed input.failureCode failedAt)) store =
          [.execution ((ExecutionUpdate.failed input.failureCode failedAt).set row)] := by
        simp [Sql.writes, found, ExecutionUpdate.applies, running]
      have locked : Lock.execution row.organizationId row.requestId ∈
          sql.locks (.updateExecution input.organizationId input.requestId
            (.failed input.failureCode failedAt)) store := by
        refine List.mem_append_right _ ?_
        rw [← sql_writes, writes]
        exact List.mem_cons_self
      refine ⟨fun db => db.execution row.organizationId row.requestId = some row,
        by rw [organization, request]; exact found, stable_execution locked, ?_⟩
      rw [List.nil_append, Semantics.applyAll_nil, writes]
      exact secure_change _ fun other _ here => Change.finish _ locked here running
    · refine ⟨fun _ => True, trivial, Semantics.Stable.const True, secure_done ?_⟩
      simp [Sql.writes, found, ExecutionUpdate.applies, running]

/-- Putting a locked execution on hold, and its mandate. -/
theorem secure_holdExecution {organizationId requestId : String} {row : ExecutionRow}
    {update : ExecutionUpdate} {value : α} (organization : row.organizationId = organizationId)
    (request : row.requestId = requestId)
    (locked : Lock.execution organizationId requestId ∈ held)
    (stable : Semantics.Stable Held Framed held
      fun db => db.execution organizationId requestId = some row)
    (running : row.status = .executing) (applies : update.applies row = true)
    (onHold : (update.set row).status = .reconciliationHold) :
    Secure (perform (.updateExecution organizationId requestId update) >>= fun _ =>
      holdMandateForReconciliation organizationId row.mandateId >>= fun _ => .done value) [] held
      fun db => db.execution organizationId requestId = some row := by
  subst organization request
  have preserves := update.set_preserves row
  refine secure_updateExecution stable (fun _ here => here) applies fun more subset later => ?_
  rw [← preserves.organizationId, ← preserves.requestId] at locked
  refine secure_holdMandate preserves.organizationId preserves.mandateId (subset locked) later
    (fun store here => ?_) onHold fun store => ?_
  · rw [preserves.organizationId, preserves.requestId]
    exact ⟨row, here, preserves.mandateId.symm, running⟩
  · exact Wrote.of_untouched (.refl store)

theorem secure_holdInference (input : HoldInferenceInput) {value : α} :
    Secure (holdInference input >>= fun _ => .done value) [] [] fun _ => True := by
  simp only [holdInference, bind_assoc]
  refine Semantics.Safe.throwUnless_bind fun _ => ?_
  refine secure_lockExecution fun row held organization request locked stable => ?_
  refine Semantics.Safe.throwUnless_bind fun running => ?_
  refine Semantics.Safe.orThrow_bind fun heldAt _ => ?_
  exact secure_holdExecution organization request locked stable (of_decide_eq_true running) rfl rfl

theorem secure_completeInference (input : CompleteInferenceInput)
    (reply : CompletionPersistenceResult → α) :
    Secure (completeInference input >>= fun result => .done (reply result)) [] [] fun _ => True := by
  simp only [completeInference, bind_assoc]
  refine Semantics.Safe.throwUnless_bind fun _ => ?_
  refine secure_lockExecution fun row held organization request locked stable => ?_
  refine Semantics.Safe.throwUnless_bind fun running => ?_
  refine Semantics.Safe.orThrow_bind fun completedAt _ => ?_
  have executing := of_decide_eq_true running
  by_cases overrun : (row.reservedCostAtomic : ℤ) < input.actualCostAtomic
  · simp only [if_pos overrun, bind_assoc]
    exact secure_holdExecution organization request locked stable executing rfl rfl
  · simp only [if_neg overrun, bind_assoc]
    refine secure_updateExecution stable (fun _ here => here) rfl fun more subset later => ?_
    rw [← organization, ← request] at locked
    refine secure_change _ fun store _ here => Change.finish _ (subset locked) ?_ executing
    rw [organization, request]
    exact here

/-! Resolutions. -/

section Resolutions

variable {new : ExecutionRow} {value : α}
  (locked : Lock.execution new.organizationId new.requestId ∈ held)
  (owned : Lock.mandate new.organizationId new.mandateId ∈ held)
  (stable : Semantics.Stable Held Framed held known)
  (opened : ∀ store, known store → ∃ row,
    store.execution new.organizationId new.requestId = some row ∧
      row.mandateId = new.mandateId ∧ row.status = .reconciliationHold)
  (finished : new.status = .completed ∨ new.status = .failed)
  (wrote : ∀ store, Wrote new store (sql.applyAll pending store))

include locked owned opened wrote in
/-- Finishing an open case is safe when the mandate is locked and, should it still have a hold row,
has another case. -/
theorem secure_resolved
    (justified : ∀ store, known store →
      ((sql.applyAll pending store).hold new.organizationId new.mandateId).isSome = true →
      ∃ requestId row, requestId ≠ new.requestId ∧
        store.execution new.organizationId requestId = some row ∧
        row.mandateId = new.mandateId ∧ row.status = .reconciliationHold) :
    Secure (.done value) pending held known := by
  refine secure_change new fun store _ knows => ?_
  obtain ⟨row, found, same, onHold⟩ := opened store knows
  exact Change.resolve (wrote store) locked owned found same onHold (justified store knows)

include locked owned stable opened wrote in
/-- Deleting the hold row that was read. -/
theorem secure_deleteHold {row : HoldRow}
    (untouched : ∀ store, (sql.applyAll pending store).hold new.organizationId new.mandateId =
      store.hold new.organizationId new.mandateId)
    (knows : ∀ store, known store →
      store.hold new.organizationId new.mandateId = some row) :
    Secure (perform (.deleteHold new.organizationId new.mandateId) >>= fun _ => .done value) pending
      held known := by
  refine Semantics.Safe.call_keep stable fun first _ here _ => ?_
  have writes : sql.writes (.deleteHold new.organizationId new.mandateId)
      (sql.applyAll pending first) = [.removeHold new.organizationId new.mandateId] := by
    simp [Sql.writes, untouched, knows first here]
  rw [writes]
  refine secure_resolved (List.mem_append_left _ locked) (List.mem_append_left _ owned) opened
    (fun store => ?_) fun store _ there => ?_
  · have deleted := (wrote store).deleteHold (sql.applyAll pending first)
    rwa [← sql_writes, writes, ← Semantics.applyAll_append] at deleted
  · simp [Semantics.applyAll_append] at there

include locked stable opened finished wrote in
/-- **Releasing the mandate of a case that was just finished is safe.** -/
theorem secure_releaseMandate {organizationId mandateId : String}
    (organization : new.organizationId = organizationId) (owner : new.mandateId = mandateId)
    (untouched : ∀ store, (sql.applyAll pending store).hold new.organizationId new.mandateId =
      store.hold new.organizationId new.mandateId) :
    Secure (releaseMandate organizationId mandateId >>= fun _ => .done value) pending held known := by
  subst organization owner
  simp only [releaseMandate, bind_assoc]
  refine secure_lockMandate stable fun mandate held subset owned stable => ?_
  replace locked := subset locked
  -- The hold row that is read stays, for the mandate is locked.
  simp only [Program.perform_bind]
  refine Semantics.Safe.call stable fun first _ _ _ => ⟨fun db =>
    db.hold new.organizationId new.mandateId = first.hold new.organizationId new.mandateId, rfl,
    (stable_hold owned).mono (List.subset_append_left _ _), ?_⟩
  change Secure _ (pending ++ []) (held ++ []) _
  rw [List.append_nil, List.append_nil]
  have read : sql.result (.selectHold new.organizationId new.mandateId)
      (sql.applyAll pending first) = first.hold new.organizationId new.mandateId := untouched first
  rw [read]
  have both := stable.and (@stable_hold held new.organizationId new.mandateId
    (first.hold new.organizationId new.mandateId) owned)
  generalize first.hold new.organizationId new.mandateId = hold at both ⊢
  refine Semantics.safe_call.mpr fun second _ knows _ => ?_
  cases opens : (sql.applyAll pending second).openCase new.organizationId new.mandateId with
  | true =>
    obtain ⟨requestId, row, different, found, owner, onHold⟩ := (wrote second).otherCase finished opens
    refine ⟨_, ⟨knows, row, found, owner, onHold⟩,
      (both.and (stable_case requestId owned)).mono (List.subset_append_left _ _), ?_⟩
    change Secure _ (pending ++ []) (held ++ []) _
    rw [List.append_nil, List.append_nil]
    have result : sql.result (.selectOpenCase new.organizationId new.mandateId)
      (sql.applyAll pending second) = true := opens
    rw [result]
    refine secure_resolved locked owned (fun store here => opened store here.1.1) wrote
      fun store here _ => ?_
    obtain ⟨other, there, owner', onHold'⟩ := here.2
    exact ⟨requestId, other, different, there, owner', onHold'⟩
  | false =>
    refine ⟨_, knows, both.mono (List.subset_append_left _ _), ?_⟩
    change Secure _ (pending ++ []) (held ++ []) _
    rw [List.append_nil, List.append_nil]
    have result : sql.result (.selectOpenCase new.organizationId new.mandateId)
      (sql.applyAll pending second) = false := opens
    rw [result]
    cases hold with
    | none =>
      refine Semantics.Safe.throwUnless_bind fun _ => ?_
      refine secure_resolved locked owned (fun store here => opened store here.1) wrote
        fun store here there => ?_
      rw [untouched, here.2] at there
      cases there
    | some row =>
      simp only [restoreMandate]
      split
      · refine Semantics.Safe.call_keep both fun third _ _ _ => ?_
        refine secure_deleteHold (List.mem_append_left _ locked) (List.mem_append_left _ owned)
          (both.mono (List.subset_append_left _ _)) (fun store here => opened store here.1)
          (fun store => ?_) (fun store => ?_) fun store here => here.2
        · rw [Semantics.applyAll_append, sql_writes]
          exact (wrote store).updateMandate _ _ _ _
        · have idle : (Sql.updateMandate new.organizationId new.mandateId
            (.restore (restoredState row.priorState))).isIdle = true := rfl
          rw [Semantics.applyAll_append, sql_writes]
          exact ((untouched_applyAll (idle_writes idle _) _).hold _ _).trans (untouched store)
      · rw [bind_assoc]
        refine Semantics.Safe.throwUnless_bind fun _ => ?_
        exact secure_deleteHold locked owned both (fun store here => opened store here.1) wrote
          untouched fun store here => here.2

end Resolutions

theorem secure_resolveReconciliation (input : ResolveReconciliationInput) {value : α} :
    Secure (resolveReconciliation input >>= fun _ => .done value) [] [] fun _ => True := by
  simp only [resolveReconciliation, validateContext, bind_assoc]
  iterate 2 refine Semantics.Safe.throwUnless_bind fun _ => ?_
  refine Semantics.Safe.orThrow_bind fun occurredAt _ => ?_
  iterate 4 refine Semantics.Safe.throwUnless_bind fun _ => ?_
  refine Semantics.Safe.fromExcept_bind fun cost _ => ?_
  refine secure_lockExecution fun row held organization request locked stable => ?_
  rw [Program.perform_bind]
  refine Semantics.Safe.call_keep stable fun first _ _ _ => ?_
  change Secure _ [] (held ++ []) _
  rw [List.append_nil]
  cases sql.result (.selectResolution input.organizationId input.requestId)
      (sql.applyAll [] first) with
  | some existing => exact Semantics.Safe.throwUnless_bind fun _ => secure_done (by simp)
  | none =>
    simp only [execute, bind_assoc]
    refine Semantics.Safe.throwUnless_bind fun open_ => ?_
    have onHold : row.status = .reconciliationHold := of_decide_eq_true open_
    refine Semantics.Safe.call_keep stable fun second _ _ _ => ?_
    refine Semantics.Safe.fromExcept_bind fun _ recorded => ?_
    change second.checkResolution (newResolution input cost) = .ok _ at recorded
    change Secure _ (Sql.inserted (second.checkResolution (newResolution input cost)) _) _ _
    rw [recorded, inserted_ok]
    set update := resolutionUpdate input.resolution row cost occurredAt with updated
    have preserves := update.set_preserves row
    have finished := resolutionUpdate_status input.resolution row cost occurredAt
    rw [← updated] at finished
    refine secure_updateExecution (stable.mono (List.subset_append_left _ _))
      (fun store here => here) (resolutionUpdate_applies _ _ _ _) fun more subset later => ?_
    have owner : (update.set row).organizationId = input.organizationId :=
      preserves.organizationId.trans organization
    have named : (update.set row).requestId = input.requestId := preserves.requestId.trans request
    refine secure_releaseMandate ?_ later (fun store here => ?_) finished (fun store => ?_) owner
      preserves.mandateId fun store => rfl
    · rw [owner, named]
      exact subset (List.mem_append_left _ locked)
    · rw [owner, named]
      exact ⟨row, here, preserves.mandateId.symm, onHold⟩
    · exact Wrote.recordResolution store cost occurredAt organization request

/-! Admissions. -/

/-- A replay is safe when its lease expiry finds the execution still executing. -/
theorem secure_admissionFromExecution {row : ExecutionRow} {retriedAt : ℤ}
    (reply : AdmissionResult → α) (idle : ∀ write ∈ pending, write.isIdle = true)
    (stable : Semantics.Stable Held Framed held fun db => ∃ current,
      db.execution row.organizationId row.requestId = some current ∧
        current.mandateId = row.mandateId) :
    Secure (admissionFromExecution row retriedAt >>= fun result => .done (reply result)) pending held
      fun db => ∃ current, db.execution row.organizationId row.requestId = some current ∧
        current.mandateId = row.mandateId := by
  simp only [admissionFromExecution, bind_assoc]
  refine secure_idle_bind (AllCalls.perform rfl) (fun stored pending held idle _ stable => ?_) idle
    stable
  refine Semantics.Safe.orThrow_bind fun decision _ => ?_
  split
  · simp only [bind_assoc]
    refine Semantics.safe_call.mpr fun second _ ⟨current, found, owner⟩ allowed => ?_
    -- The guard: the row that is updated is still executing.
    obtain ⟨other, here, executing⟩ := (Option.any_eq_true _ _).mp allowed
    have running : other.status = .executing := of_decide_eq_true executing
    have seen := (untouched_applyAll idle second).execution row.organizationId row.requestId
    obtain rfl : current = other := Option.some.inj (found.symm.trans (seen.symm.trans here))
    obtain ⟨organization, request⟩ := Db.key_of_execution found
    have writes : sql.writes (.updateExecution row.organizationId row.requestId
        (.leaseExpired retriedAt)) (sql.applyAll pending second) =
        [.execution ((ExecutionUpdate.leaseExpired retriedAt).set current)] := by
      simp [Sql.writes, here, ExecutionUpdate.applies, running]
    have locked : Lock.execution row.organizationId row.requestId ∈
        held ++ sql.locks (.updateExecution row.organizationId row.requestId
          (.leaseExpired retriedAt)) (sql.applyAll pending second) := by
      refine List.mem_append_right _ (List.mem_append_right _ ?_)
      rw [← sql_writes, writes]
      exact organization ▸ request ▸ List.mem_cons_self
    rw [writes]
    refine ⟨fun db => db.execution row.organizationId row.requestId = some current, found,
      stable_execution locked, ?_⟩
    refine @secure_holdMandate _ _ _ _ ((ExecutionUpdate.leaseExpired retriedAt).set current) _ _ _
      organization owner ?_ (stable_execution locked) (fun store here => ?_) rfl fun store => ?_
    · exact organization.symm ▸ request.symm ▸ locked
    · exact ⟨current, organization.symm ▸ request.symm ▸ here, rfl, running⟩
    · rw [Semantics.applyAll_append]
      exact .of_untouched (untouched_applyAll idle store)
  · exact Semantics.Safe.fromExcept_bind fun _ _ => secure_done idle

section Crypto

variable [NodeCrypto]

theorem idle_workloadScope (input : AdmitInferenceInput) :
    AllCalls (fun statement => statement.isIdle = true) (workloadScope input input.scope) := by
  cases input.scope with
  | none => exact .done
  | some scope =>
    exact .bind (.perform rfl) fun _ => .bind .fromExcept fun _ => .bind (.perform rfl) fun _ =>
      .bind (.perform rfl) fun _ => .done

/-- Recording a new request opens and closes no case. -/
theorem secure_admitNew (decisionId : String) (input : AdmitInferenceInput) (decidedAt : ℤ)
    (row : MandatePolicyRow) (previewOnly : Bool) {α : Type} (reply : AdmissionResult → α)
    (idle : ∀ write ∈ pending, write.isIdle = true)
    (stable : Semantics.Stable Held Framed held known) :
    Secure (admitNew decisionId input decidedAt row previewOnly >>= fun result =>
      .done (reply result)) pending held known := by
  simp only [admitNew, bind_assoc]
  refine secure_idle_bind (AllCalls.perform rfl) (fun assigned _ _ idle _ stable => ?_) idle stable
  refine secure_idle_bind (AllCalls.perform rfl) (fun counters _ _ idle _ stable => ?_) idle stable
  refine secure_idle_bind (idle_workloadScope input) (fun scope _ _ idle _ stable => ?_) idle stable
  refine Semantics.Safe.fromExcept_bind fun result _ => ?_
  split
  · exact secure_done idle
  · simp only [execute, bind_assoc]
    refine secure_idle_bind (AllCalls.perform rfl) (fun _ pending held idle _ stable => ?_) idle
      stable
    refine Semantics.Safe.fromExcept_bind fun _ _ => ?_
    generalize admittedExecution input decidedAt
      (admissionDecision decisionId input decidedAt row counters scope result) = new
    rw [Program.perform_bind]
    refine Semantics.safe_call.mpr fun store _ _ _ => ?_
    have untouched := untouched_applyAll idle store
    cases checked : (sql.applyAll pending store).checkExecution new with
    | error error =>
      have result : sql.result (.insertExecution new) (sql.applyAll pending store) =
        .error error := checked
      rw [result]
      exact ⟨fun _ => True, trivial, Semantics.Stable.const True, Semantics.safe_fail⟩
    | ok =>
      have result : sql.result (.insertExecution new) (sql.applyAll pending store) =
        .ok () := checked
      have writes : sql.writes (.insertExecution new) (sql.applyAll pending store) =
          [.execution new] := by
        simp [Sql.writes, checked]
      have locked : Lock.execution new.organizationId new.requestId ∈
          held ++ sql.locks (.insertExecution new) (sql.applyAll pending store) := by
        refine List.mem_append_right _ (List.mem_append_right _ ?_)
        rw [← sql_writes, writes]
        exact List.mem_cons_self
      rw [result, writes]
      simp only [Db.checkExecution, bind_unit_eq_ok, unique_eq_ok] at checked
      have fresh := (untouched.execution _ _).symm.trans checked.1
      refine ⟨fun db => db.execution new.organizationId new.requestId = none, fresh,
        stable_execution locked, secure_change new fun later _ absent => ?_⟩
      rw [Semantics.applyAll_append]
      exact Change.record (untouched_applyAll idle later) locked absent

/-- Every admission is safe. -/
theorem secure_admitInference (decisionId : String) (input : AdmitInferenceInput)
    (previewOnly : Bool) (reply : AdmissionResult → α) :
    Secure (admitInference decisionId input previewOnly >>= fun result => .done (reply result)) [] []
      fun _ => True := by
  simp only [admitInference, bind_assoc]
  iterate 5 refine Semantics.Safe.throwUnless_bind fun _ => ?_
  refine Semantics.Safe.orThrow_bind fun decidedAt _ => ?_
  refine secure_idle_bind (AllCalls.perform rfl) (fun found pending held idle _ stable => ?_)
    (by simp) (Semantics.Stable.const True)
  refine Semantics.Safe.orThrow_bind fun row _ => ?_
  rw [Program.perform_bind]
  refine Semantics.safe_call.mpr fun store _ _ _ => ?_
  change ∃ learned : Db → Prop, learned store ∧ Semantics.Stable Held Framed (held ++ []) learned ∧
    Secure _ (pending ++ []) (held ++ []) learned
  rw [List.append_nil, List.append_nil]
  have read : sql.result (.selectExecution input.organizationId input.requestId)
      (sql.applyAll pending store) = store.execution input.organizationId input.requestId :=
    (untouched_applyAll idle store).execution _ _
  rw [read]
  cases found : store.execution input.organizationId input.requestId with
  | none =>
    exact ⟨fun _ => True, trivial, Semantics.Stable.const True,
      secure_admitNew decisionId input decidedAt row previewOnly reply idle
        (Semantics.Stable.const True)⟩
  | some existing =>
    obtain ⟨organization, request⟩ := Db.key_of_execution found
    rw [← organization, ← request] at found
    have lasts := (stable_mandateOf existing.organizationId existing.requestId
      existing.mandateId).mono (List.nil_subset held)
    refine ⟨_, ⟨existing, found, rfl⟩, lasts, ?_⟩
    simp only [bind_assoc]
    refine Semantics.Safe.throwUnless_bind fun _ => ?_
    exact secure_admissionFromExecution reply idle lasts

/-! ### All calls -/

/-- The call is one of an operator's, other than a resolution. -/
def Op.isOperator : Op → Bool
  | admitInference _ _ => false
  | previewInference _ _ => false
  | completeInference _ => false
  | holdInference _ => false
  | failInference _ => false
  | resolveReconciliation _ => false
  | _ => true

theorem idle_checkParentBranch (input : CreateMandateBranchInput) (mandate : MandateRow)
    (classes : List String) (parentBranchId : Option String) :
    AllCalls (fun statement => statement.isIdle = true)
      (checkParentBranch input mandate classes parentBranchId) := by
  cases parentBranchId with
  | none => exact .done
  | some parentBranchId =>
    refine .bind (.perform rfl) fun _ => .bind .orThrow fun _ => .bind .fromExcept fun _ =>
      .bind .throwUnless fun _ => .bind .throwUnless fun _ => .bind (.perform rfl) fun _ =>
      .bind .throwUnless fun _ => .throwUnless

/-- What an operator does writes no execution, resolution or hold row. -/
theorem idle_operator {op : Op} (operator : op.isOperator = true) :
    AllCalls (fun statement => statement.isIdle = true) op.transaction := by
  cases op with
  | admitInference | previewInference | completeInference | holdInference | failInference
  | resolveReconciliation => cases operator
  | _ =>
    simp only [Op.transaction, createOrganization, registerAgent, publishPolicy, createMandate,
      assignAgent, createBranch, transitionMandateState, setMandatePolicy, validateContext, execute]
    repeat' with_reducible first
      | exact AllCalls.throwUnless
      | exact AllCalls.orThrow
      | exact AllCalls.fromExcept
      | exact idle_checkParentBranch _ _ _ _
      | refine AllCalls.perform ?_
      | refine AllCalls.bind ?_ fun _ => ?_
    all_goals first | rfl | exact AllCalls.done

/-- **Every transaction of the store meets its obligation.** -/
theorem secure_transaction (op : Op) : Secure op.transaction [] [] fun _ => True := by
  by_cases operator : op.isOperator = true
  · exact secure_idle (idle_operator operator)
  cases op with
  | admitInference decisionId input =>
    rw [Op.transaction]
    exact secure_admitInference decisionId input false Reply.admission
  | previewInference decisionId input =>
    rw [Op.transaction, previewInference]
    exact secure_admitInference decisionId input true Reply.admission
  | completeInference input =>
    rw [Op.transaction]
    exact secure_completeInference input Reply.completion
  | holdInference input =>
    rw [Op.transaction]
    exact secure_holdInference input
  | failInference input =>
    rw [Op.transaction]
    exact secure_failInference input
  | resolveReconciliation input =>
    rw [Op.transaction]
    exact secure_resolveReconciliation input
  | _ => exact absurd rfl operator

end Crypto

end Transactions

section Runs

variable [NodeCrypto]

/-- **No orphan holds.** Any calls are made to a store that earlier calls have left, and run interleaved
in any way, statement by statement; any of them may be aborted anywhere. If every lease expiry finds
its execution still executing, then a mandate with a hold row has an open case, at any time and in
particular when all calls have ended. -/
theorem no_orphan_hold (earlier : List Op) {ι : Type} [DecidableEq ι] (calls : ι → Op)
    {system : Semantics.System Sql Db Write Lock String Reply ι}
    (reached : Semantics.Reachable sql ExpiryFindsRunning
      (.start (run step Db.empty earlier) fun name => (calls name).transaction) system)
    (organizationId mandateId : String)
    (held : (system.store.hold organizationId mandateId).isSome = true) :
    system.store.openCase organizationId mandateId = true :=
  (Semantics.store_invariant (held_run earlier) (fun name => secure_transaction (calls name))
    reached).openCase held

end Runs

/-! ### A replay and a completion -/

namespace Sample

/-- A store with one execution, which started at time 10. -/
def started : List Op := draft 20 [] ++ [move .active, admission "first" 5 10]

/-- A replay that comes five minutes later, and the completion. -/
def race : Bool → Op
  | true => admission "first" 5 300010
  | false => complete "first" 4 300005

end Sample

/-- The replay takes its update's lock first; the completion then finds the execution held. -/
theorem no_orphan_hold_race :
    letI := Sample.crypto
    (sql.play ExpiryFindsRunning
      (.start (run step Db.empty Sample.started) fun late => (Sample.race late).transaction)
      [true, true, true, true, false, true, true, true, true, false, false]).store.openCase "org"
        "mandate" = true :=
  @no_orphan_hold Sample.crypto Sample.started Bool _ Sample.race _
    (Semantics.play_reachable _ _) "org" "mandate" (by decide +kernel)

/-- **An orphan.** The replay finds the execution running and its worker overdue; its update comes
after the completion and matches no row; the mandate is held all the same. -/
theorem orphaned_hold :
    letI := Sample.crypto
    ∃ system, Semantics.Reachable sql (fun _ _ => True)
        (.start (run step Db.empty Sample.started) fun late => (Sample.race late).transaction)
        system ∧
      (∀ late, (system.status late).ended = true) ∧
      (system.store.hold "org" "mandate").isSome = true ∧
      system.store.openCase "org" "mandate" = false := by
  let _ := Sample.crypto
  refine ⟨sql.play (fun _ _ => True) _
    [true, true, true, false, false, false, true, true, true, true, true],
    Semantics.play_reachable _ _, ?_⟩
  decide +kernel

end FuseControlPlane.Persistence
