/-
The state of the demo service in Postgres (`PostgresStateStore` of `persistence/postgres.ts`).

* `mutate`: one transaction, which writes the state and the receipt that it extracts from it.
* `extractNewReceipt`: the receipt of the released completion that was prepared last.
* `HasReceipts`: the table has one row for every released completion, and lists what the store in memory does.
* `receipts_complete_iff`: that holds after every call of a run **if and only if** no completion is released
  after one that was prepared later.
* `not_receipts_complete`: the first of two completions is released last, and its receipt is never written.
-/

import FuseControlPlane.Persistence.StateStore
import Mathlib.Data.List.Sort

set_option linter.unusedSectionVars false

namespace FuseControlPlane.Persistence

open Foundation Foundation.Method Core Core.FuseService

/-! ### The tables -/

structure ReceiptRow where
  requestId : String
  mandateId : String
  childId : String
  sequence : ℕ
  receipt : Receipt

instance : Keyed ReceiptRow String := ⟨ReceiptRow.requestId⟩

/-- The row of the mandate's state, the receipts, and the sequence that numbers them. -/
structure PostgresState where
  stateRow : Option FuseServiceState
  receipts : Table ReceiptRow
  nextSequence : ℕ

/-- The state that a mutation locks, which it inserts if there is none. -/
def PostgresState.state (initial : FuseServiceState) (db : PostgresState) : FuseServiceState :=
  db.stateRow.getD initial

/-- `released.at(-1)`. -/
def extractNewReceipt (state : FuseServiceState) : Option Receipt := (releasedReceipts state).getLast?

namespace PostgresStateStore

/-- `INSERT ... ON CONFLICT (request_id) DO NOTHING`, which takes a number either way. -/
def insertReceipt (mandateId : String) (receipt : Receipt) (db : PostgresState) : PostgresState :=
  { db with
    receipts :=
      if (db.receipts.find? receipt.requestId).isSome then db.receipts
      else db.receipts.put ⟨receipt.requestId, mandateId, receipt.childId, db.nextSequence, receipt⟩
    nextSequence := db.nextSequence + 1 }

/-- What a mutation writes in its transaction. -/
def written (mandateId : String) (db : PostgresState) (state : FuseServiceState) : PostgresState :=
  match extractNewReceipt state with
  | none => { db with stateRow := some state }
  | some receipt => insertReceipt mandateId receipt { db with stateRow := some state }

/-- `ROLLBACK`. Numbers that were taken are not given back. -/
def rolledBack (db after : PostgresState) : PostgresState := { db with nextSequence := after.nextSequence }

/-- A mutation, whose transaction may fail with an error of the database. -/
structure Call where
  mutation : Mutation
  fault : Option String

def mutate (mandateId : String) (initial : FuseServiceState) (db : PostgresState) (call : Call) :
    PostgresState × Except String MutationResult :=
  match mutateService call.mutation (db.state initial) with
  | .error error => (db, .error error)
  | .ok (state, result) =>
    match call.fault with
    | none => (written mandateId db state, .ok result)
    | some fault => (rolledBack db (written mandateId db state), .error fault)

/-- `ORDER BY sequence`. -/
def listReceipts (mandateId : String) (db : PostgresState) : List Receipt :=
  ((db.receipts.rows.filter fun row => row.mandateId = mandateId).insertionSort
    fun first second => first.sequence ≤ second.sequence).map ReceiptRow.receipt

/-- The tables after a call. -/
def callStep (mandateId : String) (initial : FuseServiceState) (db : PostgresState) (call : Call) :
    PostgresState := (mutate mandateId initial db call).1

/-- Tables without rows. -/
def emptyTables : PostgresState := ⟨none, .empty, 1⟩

end PostgresStateStore

open PostgresStateStore

/-! ### What the receipts have to be -/

/-- A completion has been released. -/
def isReleased (requestId : String) (pending : List (String × Pending)) : Bool :=
  pending.any fun entry => entry.1 = requestId && entry.2.released.isSome

/-- The completions that have been prepared after one. -/
def preparedAfter (requestId : String) (pending : List (String × Pending)) : List (String × Pending) :=
  (pending.dropWhile fun entry => entry.1 ≠ requestId).tail

/-- Every released completion has its receipt, and nothing else has one. -/
structure HasReceipts (mandateId : String) (initial : FuseServiceState) (db : PostgresState) : Prop where
  once : ∀ requestId, (db.receipts.rows.countP fun row => row.requestId = requestId) =
    if isReleased requestId (db.state initial).pending then 1 else 0
  listed : ∀ receipt, receipt ∈ listReceipts mandateId db ↔
    receipt ∈ (MemoryStateStore.mk db.stateRow).listReceipts

/-- If a call releases a completion, none that was prepared after it has been released. -/
def ReleasesInOrder (initial : FuseServiceState) (db : PostgresState) (call : Call) : Prop :=
  ∀ requestId payment, call = ⟨.releasePaidCompletion requestId payment, none⟩ →
    (mutateService call.mutation (db.state initial)).toOption.isSome = true →
      isReleased requestId (db.state initial).pending = false →
        ∀ entry ∈ preparedAfter requestId (db.state initial).pending, entry.2.released = none

section Laws

variable {service after : FuseService} {mandateId : String} {initial : FuseServiceState} {db : PostgresState}

/-! ### The receipts of a service -/

/-- The receipts of the completions among some. -/
def receiptsOf (entries : List (Entry Pending)) : List Receipt :=
  entries.filterMap fun entry => entry.value.released.map ReleasedCompletion.receipt

theorem releasedReceipts_exportState (service : FuseService) :
    releasedReceipts service.exportState = receiptsOf service.pending.rows :=
  List.filterMap_map ..

theorem receiptsOf_append (first second : List (Entry Pending)) :
    receiptsOf (first ++ second) = receiptsOf first ++ receiptsOf second := List.filterMap_append

theorem receiptsOf_cons (entry : Entry Pending) (rest : List (Entry Pending)) :
    receiptsOf (entry :: rest) =
      (entry.value.released.map ReleasedCompletion.receipt).toList ++ receiptsOf rest := by
  unfold receiptsOf
  cases released : entry.value.released <;> simp [released]

theorem mem_receiptsOf {entries : List (Entry Pending)} {receipt : Receipt} :
    receipt ∈ receiptsOf entries ↔ ∃ entry ∈ entries, ∃ completion,
      entry.value.released = some completion ∧ completion.receipt = receipt := by
  unfold receiptsOf
  simp only [List.mem_filterMap, Option.map_eq_some_iff]

/-- The receipts carry the ids of their requests. -/
def IsIssued (service : FuseService) : Prop :=
  ∀ entry ∈ service.pending, ∀ completion, entry.value.released = some completion →
    completion.receipt.requestId = entry.name

theorem isReleased_iff (requestId : String) (service : FuseService) :
    isReleased requestId service.exportState.pending = true ↔
      ∃ entry ∈ service.pending, entry.name = requestId ∧ entry.value.released.isSome = true := by
  unfold isReleased FuseService.exportState
  rw [List.any_map, List.any_eq_true]
  simp [Table.mem_def]

/-- A completion is released, among those that are there. -/
structure Releases (service after : FuseService) (requestId : String) (earlier later : List (Entry Pending))
    (completion : ReleasedCompletion) : Prop where
  split : ∃ pending : Pending, pending.released = none ∧
    service.pending.rows = earlier ++ ⟨requestId, pending⟩ :: later ∧
    after.pending.rows = earlier ++ ⟨requestId, { pending with released := some completion }⟩ :: later
  receipt : completion.receipt.requestId = requestId

/-- What a mutation does to the receipts: one is added where its completion is, or they stay as they are. -/
theorem perform_receipts (issued : IsIssued service) {mutation : Mutation} {result : MutationResult}
    (returned : mutation.perform service = .ok result after) :
    IsIssued after ∧
      ((receiptsOf after.pending.rows = receiptsOf service.pending.rows ∧
        ∀ requestId payment, mutation = .releasePaidCompletion requestId payment →
          isReleased requestId service.exportState.pending = true) ∨
      ∃ requestId payment earlier later completion, mutation = .releasePaidCompletion requestId payment ∧
        Releases service after requestId earlier later completion) := by
  cases mutation with
  | prepareCompletion request outcome =>
    obtain ⟨quote, own, _⟩ := map_ok returned
    rcases prepareCompletion_cases service request outcome with
      ⟨error, _, thrown⟩ | ⟨cached, _, same⟩ |
        ⟨_, _, ledger, answer, exactCostMicros, circuit, circuits, absent, _, same⟩
    · rw [thrown] at own
      cases own
    · rw [same] at own
      cases own
      exact ⟨issued, .inl ⟨rfl, nofun⟩⟩
    · rw [same] at own
      cases own
      have new : service.pending.find? request.requestId = none := by
        unfold Record.get at absent
        exact Option.map_eq_none_iff.mp absent
      have rows : (service.pending.set request.requestId
          ⟨request, answer, exactCostMicros, circuit, none⟩).rows = _ := Table.rows_put_new new
      refine ⟨fun entry member completion released => ?_, .inl ⟨?_, nofun⟩⟩
      · rw [Table.mem_def, rows] at member
        rcases List.mem_append.mp member with there | last
        · exact issued entry there completion released
        · rw [List.mem_singleton.mp last] at released
          cases released
      · rw [rows, receiptsOf_append]
        exact List.append_nil _
  | releasePaidCompletion requestId payment =>
    obtain ⟨completion, own, _⟩ := map_ok returned
    rcases releasePaidCompletion_cases service requestId payment with
      ⟨error, ledger, _, thrown⟩ | ⟨pending, released, found, handedOut, same⟩ |
        ⟨pending, reclaimedMicros, ledger, found, fresh, _, _, same⟩
    · rw [thrown] at own
      cases own
    · rw [same] at own
      cases own
      refine ⟨issued, .inl ⟨rfl, ?_⟩⟩
      rintro _ _ ⟨⟩
      refine (isReleased_iff requestId service).mpr ⟨⟨requestId, pending⟩, ?_, rfl, ?_⟩
      · exact Table.mem_of_find? (Record.get_eq_some.mp found)
      · rw [handedOut]
        rfl
    · rw [same] at own
      cases own
      have member := Table.mem_of_find? (Record.get_eq_some.mp found)
      obtain ⟨earlier, later, split⟩ := List.append_of_mem (Table.mem_def.mp member)
      have unique := service.pending.unique
      rw [split] at unique
      have rows : ∀ value : Pending, (service.pending.set requestId value).rows =
          earlier ++ ⟨requestId, value⟩ :: later := fun value =>
        (congrArg (Table.putRows · _) split).trans (Table.putRows_of_mem unique rfl)
      refine ⟨fun entry here completion released => ?_,
        .inr ⟨requestId, payment, earlier, later, _, rfl, ⟨pending, fresh, split, rows _⟩, rfl⟩⟩
      rcases Table.mem_put.mp here with rfl | ⟨there, _⟩
      · cases released
        rfl
      · exact issued entry there completion released

/-! ### The receipts of the table -/

/-- What holds of the tables in every run: their columns, and where their state comes from. -/
structure IsKept (mandateId : String) (initial : FuseServiceState) (db : PostgresState) : Prop where
  columns : ∀ row ∈ db.receipts, row.mandateId = mandateId ∧ row.requestId = row.receipt.requestId
  state : ∃ service, IsIssued service ∧ service.exportState = db.state initial
  memory : (MemoryStateStore.mk db.stateRow).listReceipts = releasedReceipts (db.state initial)

/-- The table holds the receipts of the state. -/
def IsRecorded (initial : FuseServiceState) (db : PostgresState) : Prop :=
  ∀ receipt, (∃ row ∈ db.receipts, row.receipt = receipt) ↔ receipt ∈ releasedReceipts (db.state initial)

theorem mem_listReceipts {receipt : Receipt} : receipt ∈ listReceipts mandateId db ↔
    ∃ row ∈ db.receipts, row.mandateId = mandateId ∧ row.receipt = receipt := by
  unfold listReceipts
  simp only [List.mem_map, List.mem_insertionSort, List.mem_filter, decide_eq_true_eq, Table.mem_def,
    and_assoc]

/-- Which requests have a receipt. -/
theorem isReleased_iff_receipt (kept : IsKept mandateId initial db) (requestId : String) :
    isReleased requestId (db.state initial).pending = true ↔
      ∃ receipt ∈ releasedReceipts (db.state initial), receipt.requestId = requestId := by
  obtain ⟨service, issued, same⟩ := kept.state
  rw [← same, isReleased_iff, releasedReceipts_exportState]
  constructor
  · rintro ⟨entry, member, rfl, released⟩
    obtain ⟨completion, handedOut⟩ := Option.isSome_iff_exists.mp released
    exact ⟨completion.receipt, mem_receiptsOf.mpr ⟨entry, member, completion, handedOut, rfl⟩,
      issued entry member completion handedOut⟩
  · rintro ⟨receipt, member, own⟩
    obtain ⟨entry, here, completion, handedOut, rfl⟩ := mem_receiptsOf.mp member
    refine ⟨entry, here, (issued entry here completion handedOut).symm.trans own, ?_⟩
    rw [handedOut]
    rfl

theorem hasReceipts_iff (kept : IsKept mandateId initial db) :
    HasReceipts mandateId initial db ↔ IsRecorded initial db := by
  have listed : ∀ receipt, receipt ∈ listReceipts mandateId db ↔
      ∃ row ∈ db.receipts, row.receipt = receipt := fun receipt => mem_listReceipts.trans
    ⟨fun ⟨row, member, _, same⟩ => ⟨row, member, same⟩,
      fun ⟨row, member, same⟩ => ⟨row, member, (kept.columns row member).1, same⟩⟩
  constructor
  · intro complete receipt
    rw [← listed, complete.listed, kept.memory]
  · intro recorded
    refine ⟨fun requestId => ?_, fun receipt => ?_⟩
    · have released : (db.receipts.find? requestId).isSome = true ↔
          isReleased requestId (db.state initial).pending = true := by
        rw [isReleased_iff_receipt kept, Option.isSome_iff_exists]
        constructor
        · rintro ⟨row, found⟩
          have member := Table.mem_of_find? found
          refine ⟨row.receipt, (recorded row.receipt).mp ⟨row, member, rfl⟩, ?_⟩
          exact (kept.columns row member).2.symm.trans (Table.key_of_find? found)
        · rintro ⟨receipt, member, own⟩
          obtain ⟨row, here, rfl⟩ := (recorded receipt).mpr member
          exact ⟨row, Table.find?_eq_some.mpr ⟨here, (kept.columns row here).2.trans own⟩⟩
      have counted := db.receipts.countP_key requestId
      simp only [released] at counted
      exact counted
    · rw [listed, recorded, kept.memory]

/-- A receipt that is in the table is not written again. -/
theorem written_present {state : FuseServiceState} {row : ReceiptRow} (member : row ∈ db.receipts)
    (own : row.requestId = row.receipt.requestId) (last : extractNewReceipt state = some row.receipt) :
    (written mandateId db state).receipts = db.receipts := by
  have found : db.receipts.find? row.receipt.requestId = some row :=
    Table.find?_eq_some.mpr ⟨member, own⟩
  unfold written insertReceipt
  rw [last]
  show (if (db.receipts.find? row.receipt.requestId).isSome then _ else _) = _
  rw [found]
  exact if_pos rfl

/-- The last receipt of a state is in the table if the table holds the receipts before it was written. -/
theorem written_old (kept : IsKept mandateId initial db) (recorded : IsRecorded initial db)
    {state : FuseServiceState} (old : ∀ receipt, extractNewReceipt state = some receipt →
      receipt ∈ releasedReceipts (db.state initial)) :
    (written mandateId db state).receipts = db.receipts := by
  cases last : extractNewReceipt state with
  | none =>
    unfold written
    rw [last]
  | some receipt =>
    obtain ⟨row, member, rfl⟩ := (recorded receipt).mpr (old receipt last)
    exact written_present member (kept.columns row member).2 last

/-- A receipt that is not in the table is written. -/
theorem written_fresh {state : FuseServiceState} {receipt : Receipt}
    (last : extractNewReceipt state = some receipt)
    (unknown : db.receipts.find? receipt.requestId = none) :
    (written mandateId db state).receipts =
      db.receipts.put ⟨receipt.requestId, mandateId, receipt.childId, db.nextSequence, receipt⟩ := by
  unfold written insertReceipt
  rw [last]
  show (if (db.receipts.find? receipt.requestId).isSome then _ else _) = _
  rw [unknown]
  exact if_neg Bool.false_ne_true

theorem written_state (state : FuseServiceState) : (written mandateId db state).stateRow = some state := by
  unfold written
  split <;> rfl

theorem written_columns (kept : IsKept mandateId initial db) (state : FuseServiceState) :
    ∀ row ∈ (written mandateId db state).receipts,
      row.mandateId = mandateId ∧ row.requestId = row.receipt.requestId := by
  intro row member
  unfold written at member
  split at member
  · exact kept.columns row member
  · unfold insertReceipt at member
    dsimp only at member
    split at member
    · exact kept.columns row member
    · rcases Table.mem_put.mp member with rfl | ⟨there, _⟩
      · exact ⟨rfl, rfl⟩
      · exact kept.columns row there

/-! ### A call -/

/-- What a call comes to: nothing but a number, or what it writes. -/
theorem callStep_cases (kept : IsKept mandateId initial db) (call : Call) :
    ((callStep mandateId initial db call).stateRow = db.stateRow ∧
      (callStep mandateId initial db call).receipts = db.receipts ∧ ReleasesInOrder initial db call) ∨
    ∃ service after result, IsIssued service ∧ service.exportState.pending = (db.state initial).pending ∧
      call.fault = none ∧ call.mutation.perform service = .ok result after ∧
      (mutateService call.mutation (db.state initial)).toOption.isSome = true ∧
      callStep mandateId initial db call = written mandateId db after.exportState := by
  obtain ⟨mutation, fault⟩ := call
  unfold callStep mutate
  cases operated : mutateService mutation (db.state initial) with
  | error error =>
    refine .inl ⟨rfl, rfl, fun requestId payment _ accepted => ?_⟩
    rw [operated] at accepted
    cases accepted
  | ok completed =>
    obtain ⟨state, result⟩ := completed
    cases fault with
    | some error => exact .inl ⟨rfl, rfl, fun requestId payment same => nomatch same⟩
    | none =>
      obtain ⟨service, issued, same⟩ := kept.state
      obtain ⟨copy, after, read, performed, rfl⟩ := mutateService_ok operated
      rw [← same] at read
      obtain ⟨_, pending, _⟩ := fromState_exportState read
      refine .inr ⟨copy, after, result, ?_, ?_, rfl, performed, rfl, rfl⟩
      · unfold IsIssued
        rw [pending]
        exact issued
      · rw [← same]
        show copy.pending.rows.map _ = service.pending.rows.map _
        rw [pending]

theorem releasedReceipts_of_pending {first second : FuseServiceState} (same : first.pending = second.pending) :
    releasedReceipts first = releasedReceipts second := by
  unfold releasedReceipts
  rw [same]

theorem isKept_step (kept : IsKept mandateId initial db) (call : Call) :
    IsKept mandateId initial (callStep mandateId initial db call) := by
  rcases callStep_cases kept call with
    ⟨state, receipts, _⟩ | ⟨service, after, result, issued, _, _, performed, _, same⟩
  · refine ⟨?_, ?_, ?_⟩
    · rw [receipts]
      exact kept.columns
    · unfold PostgresState.state
      rw [state]
      exact kept.state
    · unfold PostgresState.state
      rw [state]
      exact kept.memory
  · rw [same]
    refine ⟨written_columns kept after.exportState, ⟨after, (perform_receipts issued performed).1, ?_⟩, ?_⟩
    · unfold PostgresState.state
      rw [written_state]
      rfl
    · unfold PostgresState.state
      rw [written_state]
      rfl

section Release

variable {requestId : String} {earlier later : List (Entry Pending)} {completion : ReleasedCompletion}

/-- A completion that is released adds its receipt. -/
theorem Releases.receipts (releases : Releases service after requestId earlier later completion) :
    receiptsOf service.pending.rows = receiptsOf earlier ++ receiptsOf later ∧
      receiptsOf after.pending.rows = receiptsOf earlier ++ completion.receipt :: receiptsOf later := by
  obtain ⟨pending, fresh, before, afterwards⟩ := releases.split
  rw [before, afterwards]
  simp only [receiptsOf_append, receiptsOf_cons, fresh]
  exact ⟨rfl, rfl⟩

/-- The receipts of the others are of other requests. -/
theorem Releases.others (releases : Releases service after requestId earlier later completion)
    (issued : IsIssued service) :
    ∀ receipt ∈ receiptsOf service.pending.rows, receipt.requestId ≠ completion.receipt.requestId := by
  intro receipt member own
  obtain ⟨pending, fresh, before, _⟩ := releases.split
  obtain ⟨entry, here, handedOut, released, rfl⟩ := mem_receiptsOf.mp member
  have same : entry = ⟨requestId, pending⟩ := by
    refine Table.eq_of_key here ?_ ?_
    · rw [Table.mem_def, before]
      exact List.mem_append_right earlier List.mem_cons_self
    · exact (issued entry here handedOut released).symm.trans (own.trans releases.receipt)
  rw [same, fresh] at released
  cases released

/-- Whether the completion was prepared after all that have been released. -/
theorem Releases.last_iff (releases : Releases service after requestId earlier later completion) :
    (∀ entry ∈ preparedAfter requestId service.exportState.pending, entry.2.released = none) ↔
      receiptsOf later = [] := by
  obtain ⟨pending, _, before, _⟩ := releases.split
  have unique := service.pending.unique
  rw [before, List.map_append, List.nodup_append] at unique
  have other : ∀ entry ∈ earlier, entry.name ≠ requestId := fun entry here =>
    unique.2.2 _ (List.mem_map_of_mem here) _ List.mem_cons_self
  have rest : preparedAfter requestId service.exportState.pending =
      later.map fun entry => (entry.name, entry.value) := by
    unfold preparedAfter FuseService.exportState
    rw [before, List.map_append, List.dropWhile_append_of_pos]
    · rw [List.map_cons, List.dropWhile_cons_of_neg (by simp)]
      rfl
    · intro pair member
      obtain ⟨entry, here, rfl⟩ := List.mem_map.mp member
      exact decide_eq_true (other entry here)
  rw [rest, List.forall_mem_map]
  unfold receiptsOf
  rw [List.filterMap_eq_nil_iff]
  simp only [Option.map_eq_none_iff]

theorem Releases.unreleased (releases : Releases service after requestId earlier later completion) :
    isReleased requestId service.exportState.pending = false := by
  refine Bool.eq_false_iff.mpr fun released => ?_
  obtain ⟨entry, member, own, handedOut⟩ := (isReleased_iff requestId service).mp released
  obtain ⟨pending, fresh, before, _⟩ := releases.split
  have same : entry = ⟨requestId, pending⟩ := by
    refine Table.eq_of_key member ?_ own
    rw [Table.mem_def, before]
    exact List.mem_append_right earlier List.mem_cons_self
  rw [same, fresh] at handedOut
  cases handedOut

/-- The receipt of a completion is written if it is the last one. -/
theorem isRecorded_release (kept : IsKept mandateId initial db) (recorded : IsRecorded initial db)
    (issued : IsIssued service) (same : service.exportState.pending = (db.state initial).pending)
    (releases : Releases service after requestId earlier later completion) :
    IsRecorded initial (written mandateId db after.exportState) ↔ receiptsOf later = [] := by
  obtain ⟨before, afterwards⟩ := releases.receipts
  have old : releasedReceipts (db.state initial) = receiptsOf earlier ++ receiptsOf later := by
    rw [← releasedReceipts_of_pending same, releasedReceipts_exportState, before]
  have new : releasedReceipts ((written mandateId db after.exportState).state initial) =
      receiptsOf earlier ++ completion.receipt :: receiptsOf later := by
    unfold PostgresState.state
    rw [written_state, ← afterwards]
    exact releasedReceipts_exportState after
  have last : extractNewReceipt after.exportState =
      (receiptsOf earlier ++ completion.receipt :: receiptsOf later).getLast? := by
    unfold extractNewReceipt
    rw [releasedReceipts_exportState, afterwards]
  have absent : completion.receipt ∉ releasedReceipts (db.state initial) := by
    rw [old, ← before]
    exact fun member => releases.others issued _ member rfl
  constructor
  · intro complete
    by_contra more
    have unchanged := written_old kept recorded fun receipt found => by
      rw [last, List.getLast?_append_of_ne_nil _ (List.cons_ne_nil _ _),
        List.getLast?_cons_of_ne_nil more] at found
      rw [old]
      exact List.mem_append_right _ (List.mem_of_getLast? found)
    obtain ⟨row, member, here⟩ := (complete completion.receipt).mpr
      (by rw [new]; exact List.mem_append_right _ List.mem_cons_self)
    rw [unchanged] at member
    exact absent ((recorded _).mp ⟨row, member, here⟩)
  · intro alone receipt
    rw [alone, List.getLast?_concat] at last
    rw [alone] at old new
    have unknown : db.receipts.find? completion.receipt.requestId = none := by
      refine Table.find?_eq_none.mpr fun row member own => ?_
      have known := (recorded row.receipt).mp ⟨row, member, rfl⟩
      rw [old, ← alone, ← before] at known
      exact releases.others issued row.receipt known ((kept.columns row member).2.symm.trans own)
    have written_new : (written mandateId db after.exportState).receipts = db.receipts.put
        ⟨completion.receipt.requestId, mandateId, completion.receipt.childId, db.nextSequence,
          completion.receipt⟩ := written_fresh last unknown
    rw [new, List.mem_append, List.mem_singleton, ← List.append_nil (receiptsOf earlier), ← old, ← recorded]
    constructor
    · rintro ⟨row, member, rfl⟩
      rw [written_new] at member
      rcases Table.mem_put.mp member with rfl | ⟨there, _⟩
      · exact .inr rfl
      · exact .inl ⟨row, there, rfl⟩
    · rw [written_new]
      rintro (⟨row, there, rfl⟩ | rfl)
      · refine ⟨row, Table.mem_put.mpr (.inr ⟨there, fun own => ?_⟩), rfl⟩
        exact Table.find?_eq_none.mp unknown row there own
      · exact ⟨_, Table.mem_put.mpr (.inl rfl), rfl⟩

end Release

/-! ### Throughout a run -/

/-- A call keeps the table complete if and only if it releases in order. -/
theorem isRecorded_step (call : Call) (kept : IsKept mandateId initial db) (recorded : IsRecorded initial db) :
    IsRecorded initial (callStep mandateId initial db call) ↔ ReleasesInOrder initial db call := by
  rcases callStep_cases kept call with
    ⟨state, receipts, ordered⟩ | ⟨service, after, result, issued, same, commits, performed, accepted, outcome⟩
  · refine iff_of_true ?_ ordered
    unfold IsRecorded PostgresState.state
    rw [state, receipts]
    exact recorded
  · obtain ⟨mutation, fault⟩ := call
    cases commits
    rw [outcome]
    unfold ReleasesInOrder
    rw [← same]
    rcases (perform_receipts issued performed).2 with
      ⟨unchanged, released⟩ | ⟨requestId, payment, earlier, later, completion, rfl, releases⟩
    · refine iff_of_true ?_ fun requestId payment own _ fresh => ?_
      · have receipts : releasedReceipts after.exportState = releasedReceipts (db.state initial) := by
          rw [← releasedReceipts_of_pending same, releasedReceipts_exportState, releasedReceipts_exportState,
            unchanged]
        have old := written_old kept recorded fun receipt last => by
          rw [← receipts]
          exact List.mem_of_getLast? last
        unfold IsRecorded PostgresState.state
        rw [old, written_state]
        show ∀ receipt, _ ↔ receipt ∈ releasedReceipts after.exportState
        rw [receipts]
        exact recorded
      · rw [released requestId payment (congrArg Call.mutation own)] at fresh
        cases fresh
    · rw [isRecorded_release kept recorded issued same releases, ← releases.last_iff]
      constructor
      · rintro alone _ _ ⟨⟩ _ _
        exact alone
      · exact fun ordered => ordered requestId payment rfl accepted releases.unreleased

/-- The initial state of the application has no completions. -/
theorem pending_initial {payerWallet : Option String} {price : Option TokenPrice}
    (created : initialState payerWallet price = .ok initial) :
    ∃ service : FuseService, service.pending = .empty ∧ service.exportState = initial := by
  unfold initialState createDemo at created
  cases built : FuseLedger.new FuseService.demoConfig with
  | error error =>
    rw [built] at created
    cases created
  | ok ledger =>
    rw [built] at created
    cases created
    exact ⟨_, rfl, rfl⟩

theorem isKept_empty {payerWallet : Option String} {price : Option TokenPrice}
    (created : initialState payerWallet price = .ok initial) :
    IsKept mandateId initial emptyTables ∧ IsRecorded initial emptyTables := by
  obtain ⟨service, none_yet, rfl⟩ := pending_initial created
  have nothing : releasedReceipts service.exportState = [] := by
    rw [releasedReceipts_exportState, none_yet]
    rfl
  refine ⟨⟨fun row member => absurd member (Table.not_mem_empty row), ⟨service, ?_, rfl⟩, nothing.symm⟩,
    fun receipt => ?_⟩
  · intro entry member
    rw [none_yet] at member
    exact absurd member (Table.not_mem_empty entry)
  · show _ ↔ receipt ∈ releasedReceipts service.exportState
    rw [nothing]
    exact iff_of_false (fun ⟨row, member, _⟩ => absurd member (Table.not_mem_empty row)) List.not_mem_nil

/-- **The receipts are complete after every call of a run** if and only if every call that releases a
completion releases one that was prepared after all those that have been released. -/
theorem receipts_complete_iff (mandateId : String) {payerWallet : Option String} {price : Option TokenPrice}
    (created : initialState payerWallet price = .ok initial) (calls : List Call) :
    (∀ earlier, earlier <+: calls →
      HasReceipts mandateId initial (Foundation.run (callStep mandateId initial) emptyTables earlier)) ↔
    Along (callStep mandateId initial) (ReleasesInOrder initial) emptyTables calls := by
  have start : IsKept mandateId initial emptyTables ∧ IsRecorded initial emptyTables := isKept_empty created
  refine Along.exact (fun db call (kept : IsKept mandateId initial db) => isKept_step kept call)
    (fun db call kept complete => ?_) start.1 ((hasReceipts_iff start.1).mpr start.2) calls
  rw [hasReceipts_iff (isKept_step kept call)]
  exact isRecorded_step call kept ((hasReceipts_iff kept).mp complete)

end Laws

/-! ### Two releases -/

namespace Sample

def call (mutation : Mutation) : Call := ⟨mutation, none⟩

/-- The completion that was prepared first is released last. -/
def releasedBackwards : List Call :=
  [call (preparation "request-1"), call (preparation "request-2"),
    call (.releasePaidCompletion "request-2" ⟨"0xpaid2"⟩), call (.releasePaidCompletion "request-1" ⟨"0xpaid1"⟩)]

end Sample

theorem receipts_complete_iff_demo :
    (∀ earlier, earlier <+: Sample.releasedBackwards → HasReceipts "demo-mandate" Sample.demoState
      (Foundation.run (callStep "demo-mandate" Sample.demoState) emptyTables earlier)) ↔
    Along (callStep "demo-mandate" Sample.demoState) (ReleasesInOrder Sample.demoState) emptyTables
      Sample.releasedBackwards :=
  @receipts_complete_iff Sample.demoState "demo-mandate" none none rfl Sample.releasedBackwards

theorem not_receipts_complete :
    ¬ ∀ (mandateId : String) (payerWallet : Option String) (price : Option TokenPrice)
      (initial : FuseServiceState) (calls : List Call), initialState payerWallet price = .ok initial →
        HasReceipts mandateId initial (Foundation.run (callStep mandateId initial) emptyTables calls) := by
  intro complete
  have once := (complete "demo-mandate" none none Sample.demoState Sample.releasedBackwards rfl).once
    "request-1"
  revert once
  decide +kernel

end FuseControlPlane.Persistence
