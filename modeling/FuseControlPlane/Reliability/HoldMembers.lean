/-
Member rows of the open holds.

* `HoldRowsAgree`: the unresolved member rows of an open hold are its list, in order, so that the head of
  the lane is the head of the list.
* `hold_rows_agree`: **they agree** in every run in which no request joins an open hold that another member
  has left.
* `not_hold_rows_agree`: a new member is numbered by the length of the list, which shrinks when a member
  leaves. Its row may then not be inserted at all.
-/

import FuseControlPlane.Reliability.AttemptClassification

set_option linter.unusedSectionVars false

namespace FuseControlPlane.Reliability

open Foundation Foundation.JavaScript Domain Evidence

/-- The unresolved rows of every open hold are its list, and its head is the head of the lane. -/
def HoldRowsAgree (run : ReliabilityRun) : Prop :=
  ∀ hold ∈ run.holds, hold.resolvedAt = none →
    (run.unresolvedMembers hold).map HoldMemberRow.requestId = hold.heldUnresolved ∧
      ∀ requestId, run.isHeldLaneHead hold.laneId requestId = true ↔
        hold.heldUnresolved.head? = some requestId

/-- The member rows of a hold, in the order in which they were inserted. -/
def ReliabilityRun.membersOf (run : ReliabilityRun) (hold : HoldRow) : List HoldMemberRow :=
  run.holdMembers.rows.filter fun row => row.isOf hold

/-- Rows that are numbered from one, and whose unresolved ones are a list. -/
structure MembersAgree (rows : List HoldMemberRow) (listed : List String) : Prop where
  unresolved : (rows.filter fun row => row.resolvedAt.isNone).map HoldMemberRow.requestId = listed
  numbered : rows.map HoldMemberRow.memberSequence = List.range' 1 rows.length

/-- The rows of every open hold agree with its list. -/
def HoldsAgree (run : ReliabilityRun) : Prop :=
  ∀ hold ∈ run.holds, hold.resolvedAt = none → MembersAgree (run.membersOf hold) hold.heldUnresolved

section Laws

variable {faults : Faults} {run after : ReliabilityRun}

/-! ### What the agreement says -/

/-- Rows that are numbered in order are sorted. -/
theorem unresolvedMembers_eq {hold : HoldRow}
    (agree : MembersAgree (run.membersOf hold) hold.heldUnresolved) :
    run.unresolvedMembers hold =
      (run.membersOf hold).filter fun row => row.resolvedAt.isNone := by
  have split_filter : (run.holdMembers.rows.filter fun row => row.isOf hold && row.resolvedAt.isNone) =
      (run.membersOf hold).filter fun row => row.resolvedAt.isNone := by
    unfold ReliabilityRun.membersOf
    rw [List.filter_filter]
    exact List.filter_congr fun row _ => Bool.and_comm _ _
  unfold ReliabilityRun.unresolvedMembers
  rw [split_filter]
  refine List.Pairwise.insertionSort_eq ?_
  refine List.Pairwise.sublist List.filter_sublist ?_
  have increasing : ((run.membersOf hold).map HoldMemberRow.memberSequence).Pairwise (· ≤ ·) := by
    rw [agree.numbered]
    exact (List.pairwise_lt_range' 1 Nat.one_pos).imp le_of_lt
  exact List.pairwise_map.mp increasing

theorem holdRowsAgree_of (apart : HoldsApart run) (agree : HoldsAgree run) : HoldRowsAgree run := by
  intro hold member unresolved
  have rows := agree hold member unresolved
  have listed : (run.unresolvedMembers hold).map HoldMemberRow.requestId = hold.heldUnresolved := by
    rw [unresolvedMembers_eq rows]
    exact rows.unresolved
  refine ⟨listed, fun requestId => ?_⟩
  unfold ReliabilityRun.isHeldLaneHead
  rw [openHold_of_mem apart member unresolved, Option.bind_some, ← List.head?_map, listed,
    decide_eq_true_eq]

/-! ### Member rows of a hold -/

theorem membersOf_congr (same : after.holdMembers = run.holdMembers) (hold : HoldRow) :
    after.membersOf hold = run.membersOf hold := by
  unfold ReliabilityRun.membersOf
  rw [same]

theorem isOf_iff {hold : HoldRow} {row : HoldMemberRow} :
    row.isOf hold = true ↔ (row.laneId, row.holdId) = Keyed.key hold := by
  unfold HoldMemberRow.isOf
  rw [Bool.and_eq_true, decide_eq_true_eq, decide_eq_true_eq]
  exact Prod.mk_inj.symm

/-- New rows of other holds. -/
theorem membersOf_append {hold : HoldRow} {rows : List HoldMemberRow}
    (same : after.holdMembers.rows = run.holdMembers.rows ++ rows)
    (elsewhere : ∀ row ∈ rows, ¬ row.isOf hold = true) : after.membersOf hold = run.membersOf hold := by
  have nothing : rows.filter (fun row => row.isOf hold) = [] := List.filter_eq_nil_iff.mpr elsewhere
  unfold ReliabilityRun.membersOf
  rw [same, List.filter_append, nothing, List.append_nil]

/-- One hold is written, and the rows of the others stay. -/
theorem holdsAgree_put (agree : HoldsAgree run) (hold : HoldRow)
    (same : after.holds = run.holds.put hold)
    (own : hold.resolvedAt = none → MembersAgree (after.membersOf hold) hold.heldUnresolved)
    (others : ∀ other : HoldRow, Keyed.key other ≠ Keyed.key hold →
      after.membersOf other = run.membersOf other) : HoldsAgree after := by
  intro other member unresolved
  rw [same, Table.mem_put] at member
  rcases member with rfl | ⟨before, different⟩
  · exact own unresolved
  · rw [others other different]
    exact agree other before unresolved

/-! ### A new hold -/

theorem memberRows_requestId (laneId holdId : String) (next : ℕ) (members : List String) :
    (ReliabilityRun.memberRows laneId holdId next members).map HoldMemberRow.requestId = members := by
  induction members generalizing next with
  | nil => rfl
  | cons requestId rest ih =>
    show requestId :: (ReliabilityRun.memberRows laneId holdId (next + 1) rest).map _ = _
    rw [ih]

theorem memberRows_numbered (laneId holdId : String) (next : ℕ) (members : List String) :
    (ReliabilityRun.memberRows laneId holdId next members).map HoldMemberRow.memberSequence =
      List.range' next members.length := by
  induction members generalizing next with
  | nil => rfl
  | cons requestId rest ih =>
    show next :: (ReliabilityRun.memberRows laneId holdId (next + 1) rest).map _ =
      List.range' next (rest.length + 1)
    rw [ih, List.range'_succ]

theorem mem_memberRows {laneId holdId : String} {next : ℕ} {members : List String} {row : HoldMemberRow}
    (member : row ∈ ReliabilityRun.memberRows laneId holdId next members) :
    row.laneId = laneId ∧ row.holdId = holdId ∧ row.resolvedAt = none := by
  induction members generalizing next with
  | nil => cases member
  | cons requestId rest ih =>
    rcases List.mem_cons.mp member with rfl | later
    · exact ⟨rfl, rfl, rfl⟩
    · exact ih later

/-- Rows whose keys are new and distinct come last, one after the other. -/
theorem rows_putAll (rewrite : HoldMemberRow → HoldMemberRow)
    (keeps : ∀ row, Keyed.key (rewrite row) = Keyed.key row) :
    ∀ (rows : List HoldMemberRow) (table : Table HoldMemberRow), (rows.map Keyed.key).Nodup →
      (∀ row ∈ rows, table.find? (Keyed.key row) = none) →
      (rows.foldl (fun table row => table.put (rewrite row)) table).rows =
        table.rows ++ rows.map rewrite := by
  intro rows
  induction rows with
  | nil => exact fun table _ _ => (List.append_nil _).symm
  | cons row rest ih =>
    intro table distinct absent
    rw [List.map_cons, List.nodup_cons] at distinct
    have first : (table.put (rewrite row)).rows = table.rows ++ [rewrite row] := by
      refine Table.rows_put_new ?_
      rw [keeps]
      exact absent row List.mem_cons_self
    rw [List.foldl_cons, ih (table.put (rewrite row)) distinct.2 fun other later => ?_, first,
      List.append_assoc]
    · rfl
    · have different : Keyed.key other ≠ Keyed.key (rewrite row) := by
        rw [keeps]
        exact fun same => distinct.1 (same ▸ List.mem_map_of_mem later)
      rw [Table.find?_put_of_ne _ different]
      exact absent other (List.mem_cons_of_mem _ later)

/-- The rows of a new hold come last. -/
theorem createHold_rows {laneId holdId : String} {members : List String}
    (fresh : run.isFreshHold laneId holdId = true) (distinct : members.Nodup) :
    (run.createHold laneId holdId members).holdMembers.rows = run.holdMembers.rows ++
      (ReliabilityRun.memberRows laneId holdId 1 members).map fun row =>
        { row with memberState := run.memberStateOf row } := by
  refine rows_putAll (fun row => { row with memberState := run.memberStateOf row }) (fun _ => rfl) _ _
    ?_ fun row member => ?_
  · refine List.Nodup.of_map (fun key => key.2.2) ?_
    rw [List.map_map]
    show ((ReliabilityRun.memberRows laneId holdId 1 members).map HoldMemberRow.requestId).Nodup
    rw [memberRows_requestId]
    exact distinct
  · obtain ⟨lane, own, _⟩ := mem_memberRows member
    rw [Table.find?_eq_none]
    intro other stored same
    unfold ReliabilityRun.isFreshHold at fresh
    rw [Bool.and_eq_true] at fresh
    have elsewhere := List.all_eq_true.mp fresh.2 other stored
    have same_lane : other.laneId = laneId := (congrArg Prod.fst same).trans lane
    have same_hold : other.holdId = holdId := (congrArg (fun key => key.2.1) same).trans own
    simp [same_lane, same_hold] at elsewhere

theorem holdsAgree_create (agree : HoldsAgree run) {laneId holdId : String} {members : List String}
    (fresh : run.isFreshHold laneId holdId = true) (distinct : members.Nodup) :
    HoldsAgree (run.createHold laneId holdId members) := by
  have rows := createHold_rows fresh distinct
  refine holdsAgree_put agree ⟨laneId, holdId, members, none⟩ rfl (fun _ => ?_) fun other different => ?_
  · have nothing : run.holdMembers.rows.filter (fun row => row.isOf ⟨laneId, holdId, members, none⟩) =
        [] := by
      unfold ReliabilityRun.isFreshHold at fresh
      rw [Bool.and_eq_true] at fresh
      refine List.filter_eq_nil_iff.mpr fun row stored own => ?_
      have elsewhere := List.all_eq_true.mp fresh.2 row stored
      unfold HoldMemberRow.isOf at own
      simp [own] at elsewhere
    have all : (run.createHold laneId holdId members).membersOf ⟨laneId, holdId, members, none⟩ =
        (ReliabilityRun.memberRows laneId holdId 1 members).map fun row =>
          { row with memberState := run.memberStateOf row } := by
      unfold ReliabilityRun.membersOf
      rw [rows, List.filter_append, nothing, List.nil_append, List.filter_eq_self]
      intro row member
      obtain ⟨old, before, rfl⟩ := List.mem_map.mp member
      obtain ⟨lane, own, _⟩ := mem_memberRows before
      exact isOf_iff.mpr (by rw [lane, own]; rfl)
    rw [all]
    constructor
    · rw [List.filter_eq_self.mpr, List.map_map]
      · exact memberRows_requestId laneId holdId 1 members
      · intro row member
        obtain ⟨old, before, rfl⟩ := List.mem_map.mp member
        rw [(mem_memberRows before).2.2]
        rfl
    · rw [List.map_map, List.length_map]
      have numbered := memberRows_numbered laneId holdId 1 members
      have count : (ReliabilityRun.memberRows laneId holdId 1 members).length = members.length := by
        conv_rhs => rw [← memberRows_requestId laneId holdId 1 members]
        rw [List.length_map]
      rw [count]
      exact numbered
  · refine membersOf_append rows fun row member own => ?_
    obtain ⟨old, before, rfl⟩ := List.mem_map.mp member
    obtain ⟨lane, name, _⟩ := mem_memberRows before
    refine different ((isOf_iff.mp own).symm.trans ?_)
    rw [lane, name]
    rfl

/-! ### Joining and leaving -/

/-- The row of a request that joins a hold whose members are all unresolved is inserted last. -/
theorem joinHold_rows {hold : HoldRow} {requestId : String}
    (agree : MembersAgree (run.membersOf hold) hold.heldUnresolved)
    (absent : requestId ∉ hold.heldUnresolved)
    (unresolved : ∀ row ∈ run.membersOf hold, row.resolvedAt = none) :
    (run.joinHold hold requestId).holdMembers.rows = run.holdMembers.rows ++
      [ReliabilityRun.newMember hold.laneId hold.holdId requestId (run.membersOf hold).length.succ] := by
  have every : ((run.membersOf hold).filter fun row => row.resolvedAt.isNone) = run.membersOf hold :=
    List.filter_eq_self.mpr fun row member => by rw [unresolved row member]; rfl
  have listed : (run.membersOf hold).map HoldMemberRow.requestId = hold.heldUnresolved := by
    rw [← agree.unresolved, every]
  have count : (hold.heldUnresolved ++ [requestId]).length = (run.membersOf hold).length.succ := by
    rw [List.length_append, ← listed, List.length_map]
    rfl
  have free : ¬ (run.holdMembers.rows.any fun other =>
      other.laneId = hold.laneId && other.holdId = hold.holdId && (other.requestId = requestId ||
        other.memberSequence = (run.membersOf hold).length.succ)) = true := by
    intro taken
    obtain ⟨other, stored, conflicts⟩ := List.any_eq_true.mp taken
    simp only [Bool.and_eq_true, Bool.or_eq_true, decide_eq_true_eq] at conflicts
    obtain ⟨⟨lane, name⟩, clash⟩ := conflicts
    have member : other ∈ run.membersOf hold :=
      List.mem_filter.mpr ⟨stored, isOf_iff.mpr (by rw [lane, name]; rfl)⟩
    rcases clash with same | numbered
    · exact absent (listed ▸ List.mem_map.mpr ⟨other, member, same⟩)
    · have within : other.memberSequence ∈ List.range' 1 (run.membersOf hold).length := by
        rw [← agree.numbered]
        exact List.mem_map_of_mem member
      rw [List.mem_range'_1] at within
      omega
  unfold ReliabilityRun.joinHold
  dsimp only
  rw [count]
  refine (congrArg (fun run : ReliabilityRun => run.holdMembers.rows) (if_neg free)).trans ?_
  refine Table.rows_put_new (Table.find?_eq_none.mpr fun other stored same => free ?_)
  refine List.any_eq_true.mpr ⟨other, stored, ?_⟩
  have same_lane : other.laneId = hold.laneId := congrArg Prod.fst same
  have same_hold : other.holdId = hold.holdId := congrArg (fun key => key.2.1) same
  have same_request : other.requestId = requestId := congrArg (fun key => key.2.2) same
  simp [same_lane, same_hold, same_request]

theorem holdsAgree_join (agree : HoldsAgree run) {hold : HoldRow} {requestId : String}
    (opened : run.openHold hold.laneId = some hold) (absent : requestId ∉ hold.heldUnresolved)
    (timely : ∀ row ∈ run.holdMembers, row.isOf hold = true → row.resolvedAt = none) :
    HoldsAgree (run.joinHold hold requestId) := by
  obtain ⟨stored, _, open_⟩ := openHold_eq_some opened
  have own := agree hold stored open_
  have rows := joinHold_rows own absent fun row member =>
    timely row (List.mem_filter.mp member).1 (List.mem_filter.mp member).2
  refine holdsAgree_put agree _ (joinHold_holds run hold requestId) (fun _ => ?_) fun other different => ?_
  · have joined : (run.joinHold hold requestId).membersOf
        { hold with heldUnresolved := hold.heldUnresolved ++ [requestId] } = run.membersOf hold ++
          [ReliabilityRun.newMember hold.laneId hold.holdId requestId
            (run.membersOf hold).length.succ] := by
      unfold ReliabilityRun.membersOf
      rw [rows, List.filter_append]
      refine congrArg₂ _ rfl (List.filter_eq_self.mpr fun row member => ?_)
      rw [List.mem_singleton.mp member]
      exact isOf_iff.mpr rfl
    rw [joined]
    constructor
    · rw [List.filter_append, List.map_append, own.unresolved]
      rfl
    · rw [List.map_append, own.numbered, List.length_append, List.length_singleton, List.range'_concat]
      simp [ReliabilityRun.newMember, Nat.add_comm]
  · refine membersOf_append rows fun row member isOf => ?_
    rw [List.mem_singleton.mp member] at isOf
    exact different (isOf_iff.mp isOf).symm

/-- The rows of a hold after a request has left it. -/
theorem leaveHold_rows (run : ReliabilityRun) (hold : HoldRow) (requestId : String)
    (controlState : ControlState) (now : ℤ) :
    (run.leaveHold hold requestId controlState now).holdMembers.rows = run.holdMembers.rows.map fun row =>
      if row.isOf hold && row.requestId = requestId then
        { row with resolvedAt := row.resolvedAt <|> some now }
      else row := by
  unfold ReliabilityRun.leaveHold
  dsimp only
  split <;> rfl

theorem membersOf_map (hold : HoldRow) {rewrite : HoldMemberRow → HoldMemberRow}
    (rows : after.holdMembers.rows = run.holdMembers.rows.map rewrite)
    (same : ∀ row, (rewrite row).isOf hold = row.isOf hold) :
    after.membersOf hold = (run.membersOf hold).map rewrite := by
  unfold ReliabilityRun.membersOf
  rw [rows, List.filter_map]
  refine congrArg (List.map rewrite) (List.filter_congr fun row _ => same row)

theorem holdsAgree_leave (agree : HoldsAgree run) {hold : HoldRow} {requestId : String}
    {controlState : ControlState} {now : ℤ} (opened : run.openHold hold.laneId = some hold) :
    HoldsAgree (run.leaveHold hold requestId controlState now) := by
  obtain ⟨stored, _, open_⟩ := openHold_eq_some opened
  have own := agree hold stored open_
  have rows := leaveHold_rows run hold requestId controlState now
  have same : ∀ (other : HoldRow) (row : HoldMemberRow),
      (if row.isOf hold && row.requestId = requestId then
        { row with resolvedAt := row.resolvedAt <|> some now } else row).isOf other = row.isOf other := by
    intro other row
    split <;> rfl
  refine holdsAgree_put agree _ (leaveHold_holds run hold requestId controlState now) (fun _ => ?_)
    fun other different => ?_
  · show MembersAgree ((run.leaveHold hold requestId controlState now).membersOf hold)
      (hold.heldUnresolved.filter (· ≠ requestId))
    rw [membersOf_map hold rows (same hold)]
    constructor
    · show _ = hold.heldUnresolved.filter (· ≠ requestId)
      rw [← own.unresolved, List.filter_map, List.filter_map, List.filter_filter, List.map_map]
      have left : ∀ row ∈ run.membersOf hold,
          ((fun row : HoldMemberRow => row.resolvedAt.isNone) ∘ fun row =>
            if row.isOf hold && row.requestId = requestId then
              { row with resolvedAt := row.resolvedAt <|> some now } else row) row =
            (((fun other : String => decide (other ≠ requestId)) ∘ HoldMemberRow.requestId) row &&
              row.resolvedAt.isNone) := by
        intro row member
        have isOf := (List.mem_filter.mp member).2
        simp only [Function.comp_apply, isOf, Bool.true_and, decide_eq_true_eq]
        by_cases leaves : row.requestId = requestId
        · cases row.resolvedAt <;> simp [leaves]
        · simp [leaves]
      rw [List.filter_congr left]
      refine List.map_congr_left fun row _ => ?_
      simp only [Function.comp_apply]
      split <;> rfl
    · rw [List.map_map, List.length_map, ← own.numbered]
      refine List.map_congr_left fun row _ => ?_
      simp only [Function.comp_apply]
      split <;> rfl
  · rw [membersOf_map other rows (same other)]
    refine (List.map_congr_left fun row member => ?_).trans (List.map_id _)
    have elsewhere : row.isOf hold = false := by
      rw [← Bool.not_eq_true]
      intro isOf
      exact different ((isOf_iff.mp (List.mem_filter.mp member).2).symm.trans (isOf_iff.mp isOf))
    rw [elsewhere]
    rfl

theorem holdsAgree_mark (agree : HoldsAgree run) (laneId holdId requestId : String) :
    HoldsAgree (run.markMemberPending laneId holdId requestId) := by
  intro hold member unresolved
  have rows : (run.markMemberPending laneId holdId requestId).holdMembers.rows =
      run.holdMembers.rows.map fun row =>
        if row.laneId = laneId && row.holdId = holdId && row.requestId = requestId then
          { row with memberState := .reconciliationPending }
        else row := rfl
  rw [membersOf_map hold rows fun row => by split <;> rfl]
  have own := agree hold member unresolved
  constructor
  · rw [← own.unresolved, List.filter_map, List.map_map]
    refine congrArg₂ List.map (funext fun row => ?_) (List.filter_congr fun row _ => ?_)
    · simp only [Function.comp_apply]
      split <;> rfl
    · simp only [Function.comp_apply]
      split <;> rfl
  · rw [List.map_map, List.length_map, ← own.numbered]
    refine List.map_congr_left fun row _ => ?_
    simp only [Function.comp_apply]
    split <;> rfl

/-- The rows agree after every write that lets no request join late. -/
theorem holdsAgree_effect (timely : ¬ faults.joinsLate) (agree : HoldsAgree run)
    (effect : Effect faults run after) : HoldsAgree after := by
  have still : SameHolds run after → HoldsAgree after := by
    intro same hold member unresolved
    rw [same.holds] at member
    rw [membersOf_congr same.holdMembers]
    exact agree hold member unresolved
  cases effect with
  | quiet others holds => exact still holds
  | rows effect => exact still effect.sameHolds
  | hold effect =>
    cases effect with
    | create laneId holdId members noneOpen fresh inhabited distinct going =>
      exact holdsAgree_create agree fresh distinct
    | join hold requestId opened absent going late =>
      refine holdsAgree_join agree opened absent fun row member own => ?_
      cases resolved : row.resolvedAt with
      | none => rfl
      | some resolvedAt => exact absurd (late row member own (by rw [resolved]; rfl)) timely
    | leave hold requestId controlState now opened listed => exact holdsAgree_leave agree opened
    | mark laneId holdId requestId => exact holdsAgree_mark agree laneId holdId requestId

end Laws

section Main

variable [NodeCrypto] [Collation] [ProtocolProfiles]

/-- **Hold rows agree with the hold list** along every run in which no request joins an open hold that
another member has left. -/
theorem hold_rows_agree (runId : String) (profile : ReliabilityProtocolProfile) (planFingerprint : String)
    (reconciliationCredentialId : Option String) (laneIds : List String) (ops : List ProtocolOp)
    (timely : Along ReliabilityRun.protocolStep (fun run op => run.joinsLate op = false)
      (.initialRun runId profile planFingerprint reconciliationCredentialId laneIds) ops) :
    HoldRowsAgree (Foundation.run ReliabilityRun.protocolStep
      (.initialRun runId profile planFingerprint reconciliationCredentialId laneIds) ops) := by
  obtain ⟨_, holds⟩ := initialRun_quiet runId profile planFingerprint reconciliationCredentialId laneIds
  have within : ∀ (state : ReliabilityRun) (op : ProtocolOp), state.joinsLate op = false →
      ¬ (faultsOf state op).joinsLate := by
    intro state op spares late
    rw [show state.joinsLate op = true from late] at spares
    cases spares
  obtain ⟨agree, apart⟩ := protocolRun_keeps HoldsAgree (fun faults => ¬ faults.joinsLate) _ within
    (fun timely agree effect => holdsAgree_effect timely agree effect) timely
    (holdsApart_initialRun runId profile planFingerprint reconciliationCredentialId laneIds)
    (fun hold member => by
      rw [holds.holds] at member
      exact absurd member (Table.not_mem_empty _))
  exact holdRowsAgree_of apart agree

end Main

/-! ### A request that joins late -/

namespace Sample

def hold (requestId laneId drawn : String) : ProtocolOp :=
  .holdReliabilityAttempt ⟨laneId, requestId, some "generation"⟩ drawn 4000

def complete (requestId laneId : String) : ProtocolOp :=
  .completeReliabilityAttempt ⟨laneId, requestId, "response", "generation", 2000⟩ 5000

/-- Two calls are held, and the first one is completed after all. -/
def held : List ProtocolOp :=
  [.registerSealedCalls [sealedCall "call-1" "normal-paced" 1, sealedCall "call-2" "normal-paced" 2,
      sealedCall "call-3" "normal-paced" 3],
    record "call-1" "normal-paced", authorize "call-1" "normal-paced" "token-1",
    enter "call-1" "token-1", hold "call-1" "normal-paced" "hold-1",
    hold "call-2" "normal-paced" "hold-2", complete "call-1" "normal-paced"]

theorem held_timely :
    letI := crypto
    letI := collation
    letI := profiles
    Along ReliabilityRun.protocolStep (fun run op => run.joinsLate op = false) initialized held := by
  decide +kernel

/-- The third call is listed, but has no row. -/
theorem joined_without_row :
    (ran (held ++ [hold "call-3" "normal-paced" "hold-3"])).holds.rows =
        [⟨"normal-paced", "hold-1", ["call-2", "call-3"], none⟩] ∧
      ((ran (held ++ [hold "call-3" "normal-paced" "hold-3"])).unresolvedMembers
        ⟨"normal-paced", "hold-1", ["call-2", "call-3"], none⟩).map HoldMemberRow.requestId =
          ["call-2"] := by
  decide +kernel

end Sample

theorem hold_rows_agree_held : HoldRowsAgree (Sample.ran Sample.held) :=
  letI := Sample.crypto
  letI := Sample.collation
  letI := Sample.profiles
  hold_rows_agree _ _ _ _ _ Sample.held Sample.held_timely

/-- **A member of a hold without a row.** -/
theorem not_hold_rows_agree :
    ¬ HoldRowsAgree (Sample.ran (Sample.held ++ [Sample.hold "call-3" "normal-paced" "hold-3"])) := by
  intro agree
  obtain ⟨holds, members⟩ := Sample.joined_without_row
  have listed := (agree ⟨"normal-paced", "hold-1", ["call-2", "call-3"], none⟩
    (Table.mem_def.mpr (by rw [holds]; exact List.mem_singleton_self _)) rfl).1
  rw [members] at listed
  simp at listed

end FuseControlPlane.Reliability
