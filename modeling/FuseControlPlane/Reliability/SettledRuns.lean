/-
A run of the protocol store that settles: a hundred calls one after the other, the replays, and the stages
up to the settlement. Examples of what happens after a settlement start from it.

* `Undisturbed`, `Underway`: a run in which nothing is held, and one with a call under way.
* `calls_underway`: every call is completed while the run stays active, whatever its id and profile.
* `artifactOps_reach`: **the run completes its calls and binds its artifacts**.
-/

import FuseControlPlane.Reliability.HoldMembers
import FuseControlPlane.Reliability.StoreSteps

set_option linter.unusedSectionVars false

namespace FuseControlPlane.Reliability

open Foundation Foundation.JavaScript Domain Evidence

namespace Sample

/-! ### Calls -/

def callId (index : ℕ) : String := String.ofList ('c' :: List.replicate index 'i')

theorem callId_injective {first second : ℕ} (same : callId first = callId second) : first = second := by
  have lengths := congrArg (fun text : String => text.toList.length) same
  simpa [callId] using lengths

/-- A call, from its registration to its completion. -/
def callOps (index : ℕ) : List ProtocolOp :=
  [.registerSealedCalls [sealedCall (callId index) "normal-paced" index],
    record (callId index) "normal-paced", authorize (callId index) "normal-paced" (callId index),
    enter (callId index) (callId index), complete (callId index) "normal-paced"]

/-- The attempt of a call when it is planned. -/
def plannedCall (index : ℕ) : AttemptRow :=
  (sealedCall (callId index) "normal-paced" index).plannedAttempt

def admittedCall (index : ℕ) : AttemptRow :=
  { plannedCall index with state := .admissionStarted, admissionStartedAt := some 1000 }

def authorizedCall (index : ℕ) : AttemptRow := { admittedCall index with state := .dispatchAuthorized }

def enteredCall (index : ℕ) : AttemptRow := { admittedCall index with state := .primitiveEntered }

def completedCall (index : ℕ) : AttemptRow :=
  (enteredCall index).complete ⟨"normal-paced", callId index, "response", "generation", 2000⟩ 5000

def callToken (index : ℕ) (enteredAt : Option ℤ) : DispatchTokenRow :=
  ⟨callId index, callId index, "normal-paced", "agent", enteredAt, none⟩

end Sample

section Calls

variable [NodeCrypto] [Collation] [ProtocolProfiles]

/-- An active run in which nothing is held and nothing is reported. -/
structure Undisturbed (runId : String) (profile : ReliabilityProtocolProfile) (run : ReliabilityRun) : Prop where
  sameRun : run.runId = runId
  sameProfile : run.control.profile = profile
  profiled : reliabilityProtocolProfileForRunId runId = .ok profile
  active : run.control.state = .active
  planFingerprint : run.control.planFingerprint = "plan"
  lane : (run.lanes.find? "normal-paced").isSome = true
  holds : run.holds.rows = []
  reportIntents : run.reportIntents = []
  nextReportIntentSequence : run.nextReportIntentSequence = 1
  artifactBindings : run.artifactBindings = []

/-- The first calls are completed, and a call is under way with an attempt and perhaps a token. -/
structure Underway (runId : String) (profile : ReliabilityProtocolProfile) (index : ℕ)
    (attempt : Option AttemptRow) (token : Option DispatchTokenRow) (run : ReliabilityRun) : Prop where
  undisturbed : Undisturbed runId profile run
  attempts : run.attempts.rows = (List.range index).map Sample.completedCall ++ attempt.toList
  tokens : run.dispatchTokens.rows =
    (List.range index).map (Sample.callToken · (some 3000)) ++ token.toList
  sealedCalls : run.sealedCalls.rows = (List.range (index + attempt.toList.length)).map fun earlier =>
    Sample.sealedCall (Sample.callId earlier) "normal-paced" earlier
  count : run.control.dispatchTokenCount = index + token.toList.length

variable {runId : String} {profile : ReliabilityProtocolProfile} {run : ReliabilityRun} {index : ℕ}

theorem require_bind {α : Type} {condition : Bool} {error : String} {next : Unit → Except String α}
    (met : condition = true) : (require condition error >>= next) = next () := by
  rw [require, if_pos met]
  rfl

theorem ok_bind {α β : Type} (value : α) (next : α → Except String β) :
    ((.ok value : Except String α) >>= next) = next value := rfl

/-- The control row has the columns of its run's profile. -/
theorem lockControlProfile_of_same (sameRun : run.runId = runId) (sameProfile : run.control.profile = profile)
    (profiled : reliabilityProtocolProfileForRunId runId = .ok profile) :
    run.lockControlProfile = .ok run.control := by
  unfold ProtocolRun.lockControlProfile
  rw [sameRun, profiled, ok_bind, require_bind (decide_eq_true sameProfile)]
  rfl

theorem Undisturbed.lock (calm : Undisturbed runId profile run) : run.lockControlProfile = .ok run.control :=
  lockControlProfile_of_same calm.sameRun calm.sameProfile calm.profiled

theorem Undisturbed.lockLane (calm : Undisturbed runId profile run) :
    run.lockControlLane "normal-paced" = .ok .active := by
  unfold ProtocolRun.lockControlLane
  rw [calm.lock, ok_bind, require_bind calm.lane, calm.active]
  rfl

/-- The ids of earlier calls are others. -/
theorem earlier_ne {ρ : Type} (requestId : ρ → String) {call : ℕ → ρ}
    (named : ∀ earlier, requestId (call earlier) = Sample.callId earlier) :
    ∀ row ∈ (List.range index).map call, requestId row ≠ Sample.callId index := by
  intro row member same
  obtain ⟨earlier, before, rfl⟩ := List.mem_map.mp member
  have bound := List.mem_range.mp before
  rw [named] at same
  exact absurd (Sample.callId_injective same) (by omega)

/-- What is done to the row of a call spares the rows of earlier calls. -/
theorem earlier_spared {ρ : Type} (requestId : ρ → String) {call : ℕ → ρ}
    (named : ∀ earlier, requestId (call earlier) = Sample.callId earlier) :
    ∀ row ∈ (List.range index).map call, decide (requestId row = Sample.callId index) = false :=
  fun row member => decide_eq_false (earlier_ne requestId named row member)

/-- A call that has not begun has no row. -/
theorem absent_call {ρ : Type} [Keyed ρ String] {table : Table ρ} (call : ℕ → ρ)
    (named : ∀ earlier, Keyed.key (call earlier) = Sample.callId earlier)
    (rows : table.rows = (List.range index).map call) : table.find? (Sample.callId index) = none := by
  refine Table.find?_eq_none.mpr fun row member => ?_
  rw [Table.mem_def, rows] at member
  exact earlier_ne Keyed.key named row member

/-- The row of the call under way is found. -/
theorem current_call {ρ : Type} [Keyed ρ String] {table : Table ρ} {earlier : List ρ} {row : ρ}
    (named : Keyed.key row = Sample.callId index) (rows : table.rows = earlier ++ [row]) :
    table.find? (Sample.callId index) = some row := by
  refine Table.find?_eq_some.mpr ⟨?_, named⟩
  rw [Table.mem_def, rows]
  simp

/-- The run with a new call sealed and planned. -/
def ReliabilityRun.registered (run : ReliabilityRun) (sealed : SealedCallRow) : ReliabilityRun :=
  ({ run with
    sealedCalls := run.sealedCalls.put sealed
    attempts := run.attempts.put sealed.plannedAttempt } : ReliabilityRun).appendEvent
      (some sealed.requestId) .planned

theorem registerSealedCall_new {sealed : SealedCallRow}
    (plan : sealed.claimFingerprint = run.control.planFingerprint)
    (noCall : run.sealedCalls.find? sealed.requestId = none) (free : run.isSlotTaken sealed = false)
    (lane : (run.lanes.find? sealed.laneId).isSome = true)
    (noAttempt : run.attempts.find? sealed.requestId = none) :
    run.registerSealedCall sealed = .ok (run.registered sealed) := by
  have stores : run.insertSealedCall sealed =
      .ok { run with sealedCalls := run.sealedCalls.put sealed } := by
    unfold ReliabilityRun.insertSealedCall
    rw [noCall, if_neg (by simp), require_bind (by rw [free]; rfl), require_bind lane]
    rfl
  have plans : ({ run with sealedCalls := run.sealedCalls.put sealed } : ReliabilityRun).planAttempt sealed =
      run.registered sealed := by
    unfold ReliabilityRun.planAttempt
    rw [if_neg (by simp [noAttempt])]
    rfl
  unfold ReliabilityRun.registerSealedCall
  rw [require_bind (decide_eq_true plan), stores, ok_bind]
  refine (require_bind (decide_eq_true (Table.find?_put_self run.sealedCalls sealed))).trans ?_
  dsimp only
  rw [plans]
  refine (require_bind ?_).trans rfl
  show (((run.attempts.put sealed.plannedAttempt).find? sealed.requestId).any _) = true
  rw [show (run.attempts.put sealed.plannedAttempt).find? sealed.requestId = some sealed.plannedAttempt from
    Table.find?_put_self run.attempts sealed.plannedAttempt]
  simp [SealedCallRow.plannedAttempt]

/-- Other columns of the run are written. -/
theorem Undisturbed.of_same (calm : Undisturbed runId profile run) {after : ReliabilityRun}
    (sameRun : after.runId = run.runId) (sameProfile : after.control.profile = run.control.profile)
    (state : after.control.state = run.control.state)
    (planFingerprint : after.control.planFingerprint = run.control.planFingerprint)
    (lanes : after.lanes = run.lanes) (holds : after.holds = run.holds)
    (reportIntents : after.reportIntents = run.reportIntents)
    (next : after.nextReportIntentSequence = run.nextReportIntentSequence)
    (artifactBindings : after.artifactBindings = run.artifactBindings) : Undisturbed runId profile after where
  sameRun := sameRun.trans calm.sameRun
  sameProfile := sameProfile.trans calm.sameProfile
  profiled := calm.profiled
  active := state.trans calm.active
  planFingerprint := planFingerprint.trans calm.planFingerprint
  lane := by rw [lanes]; exact calm.lane
  holds := by rw [holds]; exact calm.holds
  reportIntents := reportIntents.trans calm.reportIntents
  nextReportIntentSequence := next.trans calm.nextReportIntentSequence
  artifactBindings := artifactBindings.trans calm.artifactBindings

theorem register_call (between : Underway runId profile index none none run) :
    ∃ after, run.perform (.registerSealedCalls
        [Sample.sealedCall (Sample.callId index) "normal-paced" index]) = .ok after ∧
      Underway runId profile index (some (Sample.plannedCall index)) none after := by
  have calm := between.undisturbed
  have noCall : run.sealedCalls.find? (Sample.callId index) = none :=
    absent_call (fun earlier => Sample.sealedCall (Sample.callId earlier) "normal-paced" earlier)
      (fun _ => rfl) (by simpa using between.sealedCalls)
  have noAttempt : run.attempts.find? (Sample.callId index) = none :=
    absent_call Sample.completedCall (fun _ => rfl) (by simpa using between.attempts)
  have free : run.isSlotTaken (Sample.sealedCall (Sample.callId index) "normal-paced" index) = false := by
    unfold ReliabilityRun.isSlotTaken
    rw [between.sealedCalls, List.any_eq_false]
    intro other member
    obtain ⟨earlier, before, rfl⟩ := List.mem_map.mp member
    have bound := List.mem_range.mp before
    simp only [Option.toList_none, List.length_nil, Nat.add_zero] at bound
    simp [Sample.sealedCall]
    omega
  have registers := registerSealedCall_new calm.planFingerprint.symm noCall free calm.lane noAttempt
  refine ⟨run.registered (Sample.sealedCall (Sample.callId index) "normal-paced" index), ?_,
    calm.of_same rfl rfl rfl rfl rfl rfl rfl rfl rfl, ?_, between.tokens, ?_, between.count⟩
  · show run.registerSealedCalls _ = _
    unfold ReliabilityRun.registerSealedCalls
    rw [require_bind (by simp), calm.lock, ok_bind, require_bind (decide_eq_true calm.active),
      List.foldlM_cons, registers, ok_bind]
    rfl
  · refine (Table.rows_put_new noAttempt).trans ?_
    rw [between.attempts, Option.toList_none, List.append_nil]
    rfl
  · refine (Table.rows_put_new noCall).trans ?_
    rw [between.sealedCalls]
    simp [List.range_succ]

/-- The call under way is sealed. -/
theorem Underway.sealedCall {attempt : AttemptRow} {token : Option DispatchTokenRow}
    (underway : Underway runId profile index (some attempt) token run) :
    run.sealedCalls.find? (Sample.callId index) =
      some (Sample.sealedCall (Sample.callId index) "normal-paced" index) := by
  have rows : run.sealedCalls.rows = (List.range index).map (fun earlier =>
      Sample.sealedCall (Sample.callId earlier) "normal-paced" earlier) ++
        [Sample.sealedCall (Sample.callId index) "normal-paced" index] := by
    rw [underway.sealedCalls]
    simp [List.range_succ]
  exact current_call rfl rows

theorem record_call (planned : Underway runId profile index (some (Sample.plannedCall index)) none run) :
    ∃ after, run.perform (Sample.record (Sample.callId index) "normal-paced") = .ok after ∧
      Underway runId profile index (some (Sample.admittedCall index)) none after := by
  have calm := planned.undisturbed
  have stored := planned.sealedCall
  have taken : run.isAdmissible ⟨Sample.callId index, "normal-paced", 1, "commitment", 5000⟩
      (Sample.plannedCall index) = true := by
    unfold ReliabilityRun.isAdmissible
    rw [stored]
    simp [Sample.plannedCall, Sample.sealedCall, SealedCallRow.plannedAttempt]
  have spared : ∀ row ∈ (List.range index).map Sample.completedCall,
      run.isAdmissible ⟨Sample.callId index, "normal-paced", 1, "commitment", 5000⟩ row = false := by
    intro row member
    have other := earlier_ne AttemptRow.requestId (fun _ => rfl) row member
    simp [ReliabilityRun.isAdmissible, other]
  have present : run.attempts.rows.any
      (run.isAdmissible ⟨Sample.callId index, "normal-paced", 1, "commitment", 5000⟩) = true := by
    rw [planned.attempts]
    simp [taken]
  have rows := Table.rows_update_last
    (run.admitAttempt ⟨Sample.callId index, "normal-paced", 1, "commitment", 5000⟩ 1000) (fun _ => rfl)
    planned.attempts spared taken
  have admitted : run.admitAttempt ⟨Sample.callId index, "normal-paced", 1, "commitment", 5000⟩ 1000
      (Sample.plannedCall index) = Sample.admittedCall index := by
    unfold ReliabilityRun.admitAttempt
    split <;> rfl
  rw [admitted] at rows
  show ∃ after, run.recordAttempt _ _ = .ok after ∧ _
  unfold ReliabilityRun.recordAttempt
  rw [calm.lockLane, ok_bind, require_bind (decide_eq_true rfl), require_bind present]
  dsimp only
  split
  · exact ⟨_, rfl, calm.of_same rfl rfl rfl rfl rfl rfl rfl rfl rfl, rows, planned.tokens,
      planned.sealedCalls, planned.count⟩
  · exact ⟨_, rfl, calm.of_same rfl rfl rfl rfl rfl rfl rfl rfl rfl, rows, planned.tokens,
      planned.sealedCalls, planned.count⟩

/-- What completed calls and one under way cost and expose. -/
theorem caps_allow {attempt : AttemptRow} {token : Option DispatchTokenRow} (small : index < 100)
    (underway : Underway runId profile index (some attempt) token run) (pending : attempt.terminalAt = none)
    (named : attempt.requestId = Sample.callId index) (reserved : attempt.reservedCostMicros = 5000) :
    run.capDisposition (Sample.callId index) = .allow := by
  have known : run.knownCostMicros = 2000 * index := by
    unfold ReliabilityRun.knownCostMicros Table.total
    rw [underway.attempts, List.map_append, List.sum_append, List.map_map]
    simp [Function.comp_def, Sample.completedCall, AttemptRow.complete, pending, Nat.mul_comm]
  have exposed : run.unresolvedExposureMicros (Sample.callId index) = 5000 := by
    unfold ReliabilityRun.unresolvedExposureMicros Table.total
    rw [underway.attempts, List.map_append, List.sum_append, List.map_map]
    simp [Function.comp_def, Sample.completedCall, AttemptRow.complete, AttemptRow.isUnresolved, pending,
      named, reserved]
  unfold ReliabilityRun.capDisposition reliabilityDispatchCapDisposition knownCostCapMicros
    unresolvedExposureCapMicros
  rw [known, exposed, if_neg (by omega), if_neg (by omega)]

theorem authorize_call (small : index < 100)
    (admitted : Underway runId profile index (some (Sample.admittedCall index)) none run) :
    ∃ after, run.perform (Sample.authorize (Sample.callId index) "normal-paced" (Sample.callId index)) =
        .ok after ∧
      Underway runId profile index (some (Sample.authorizedCall index))
        (some (Sample.callToken index none)) after := by
  have calm := admitted.undisturbed
  have stored := admitted.sealedCall
  have noToken : run.dispatchTokens.find? (Sample.callId index) = none :=
    absent_call (Sample.callToken · (some 3000)) (fun _ => rfl) (by simpa using admitted.tokens)
  have allowed := caps_allow small admitted rfl rfl rfl
  have present : run.attempts.rows.any
      (run.isDispatchable ⟨Sample.callId index, "normal-paced", 1, "agent"⟩) = true := by
    rw [admitted.attempts]
    simp [ReliabilityRun.isDispatchable, stored, Sample.admittedCall, Sample.plannedCall, Sample.sealedCall,
      SealedCallRow.plannedAttempt]
  have distinct : run.dispatchTokens.rows.all (·.tokenId ≠ Sample.callId index) = true := by
    rw [List.all_eq_true]
    intro token member
    rw [admitted.tokens, Option.toList_none, List.append_nil] at member
    exact decide_eq_true (earlier_ne DispatchTokenRow.tokenId (fun _ => rfl) token member)
  refine ⟨run.insertToken ⟨Sample.callId index, "normal-paced", 1, "agent"⟩ (Sample.callId index), ?_,
    calm.of_same rfl rfl rfl rfl rfl rfl rfl rfl rfl, ?_, ?_, admitted.sealedCalls, ?_⟩
  · show ReliabilityRun.rowsOf (run.authorizeReliabilityDispatch _ _ _) = _
    unfold ReliabilityRun.authorizeReliabilityDispatch
    rw [calm.lockLane, ok_bind, require_bind (decide_eq_true rfl), noToken]
    dsimp only
    rw [allowed, if_neg (by simp), require_bind (decide_eq_true (by rw [admitted.count]; simpa using small)),
      require_bind present, require_bind distinct]
    rfl
  · exact Table.rows_update_last ({ · with state := .dispatchAuthorized }) (fun _ => rfl) admitted.attempts
      (earlier_spared AttemptRow.requestId fun _ => rfl) (decide_eq_true rfl)
  · refine (Table.rows_put_new noToken).trans ?_
    rw [admitted.tokens, Option.toList_none, List.append_nil]
    rfl
  · show run.control.dispatchTokenCount + 1 = _
    rw [admitted.count]
    rfl

theorem enter_call (authorized : Underway runId profile index (some (Sample.authorizedCall index))
      (some (Sample.callToken index none)) run) :
    ∃ after, run.perform (Sample.enter (Sample.callId index) (Sample.callId index)) = .ok after ∧
      Underway runId profile index (some (Sample.enteredCall index)) (some (Sample.callToken index (some 3000)))
        after := by
  have calm := authorized.undisturbed
  have token : run.dispatchTokens.find? (Sample.callId index) = some (Sample.callToken index none) :=
    current_call rfl authorized.tokens
  have enterable : run.isEnterable (Sample.callToken index none) = true := by
    simp [ReliabilityRun.isEnterable, Sample.callToken, burstLane]
  refine ⟨run.enterPrimitive (Sample.callId index) 3000, ?_,
    calm.of_same rfl rfl rfl rfl rfl rfl rfl rfl rfl, ?_, ?_, authorized.sealedCalls, authorized.count⟩
  · show run.markReliabilityDispatchPrimitiveEntered _ _ _ = _
    unfold ReliabilityRun.markReliabilityDispatchPrimitiveEntered
    rw [token, Option.filter_some, if_pos (show decide ((Sample.callToken index none).tokenId =
      Sample.callId index) = true from decide_eq_true rfl)]
    dsimp only
    rw [show (Sample.callToken index none).laneId = "normal-paced" from rfl, calm.lockLane, ok_bind,
      if_pos enterable]
    rfl
  · exact Table.rows_update_last ({ · with state := .primitiveEntered }) (fun _ => rfl) authorized.attempts
      (earlier_spared AttemptRow.requestId fun _ => rfl) (decide_eq_true rfl)
  · exact Table.rows_update_last ({ · with primitiveEnteredAt := some 3000 }) (fun _ => rfl)
      authorized.tokens (earlier_spared DispatchTokenRow.requestId fun _ => rfl) (decide_eq_true rfl)

theorem complete_call (entered : Underway runId profile index (some (Sample.enteredCall index))
      (some (Sample.callToken index (some 3000))) run) :
    ∃ after, run.perform (Sample.complete (Sample.callId index) "normal-paced") = .ok after ∧
      Underway runId profile (index + 1) none none after := by
  have calm := entered.undisturbed
  let input : CompleteAttemptInput := ⟨"normal-paced", Sample.callId index, "response", "generation", 2000⟩
  have token : run.dispatchTokens.find? (Sample.callId index) = some (Sample.callToken index (some 3000)) :=
    current_call rfl entered.tokens
  have taken : run.isCompletable input (Sample.enteredCall index) = true := by
    simp [ReliabilityRun.isCompletable, ReliabilityRun.isEntered, input, Sample.enteredCall,
      Sample.admittedCall, Sample.plannedCall, Sample.sealedCall, SealedCallRow.plannedAttempt, token,
      Sample.callToken]
  have spared : ∀ row ∈ (List.range index).map Sample.completedCall,
      run.isCompletable input row = false := by
    intro row member
    have other := earlier_ne AttemptRow.requestId (fun _ => rfl) row member
    simp [ReliabilityRun.isCompletable, input, other]
  have present : run.attempts.rows.any (run.isCompletable input) = true := by
    rw [entered.attempts]
    simp [taken]
  have noHold : run.openHold "normal-paced" = none := by
    unfold ReliabilityRun.openHold
    rw [calm.holds]
    rfl
  refine ⟨((run.updateAttempts (run.isCompletable input) (AttemptRow.complete input 5000)
      fun _ => rfl).countClassified 1 1).appendEvents
        [(some (Sample.callId index), .providerResponsePersisted), (some (Sample.callId index), .gateClassified)],
    ?_, calm.of_same rfl rfl rfl rfl rfl rfl rfl rfl rfl, ?_, ?_, ?_, entered.count⟩
  · show run.completeReliabilityAttempt input 5000 = _
    unfold ReliabilityRun.completeReliabilityAttempt
    rw [calm.lockLane, ok_bind, require_bind (by simp), if_pos present]
    dsimp only
    unfold ReliabilityRun.removeTerminalHeldMemberLocked
    rw [show ReliabilityRun.openHold (((run.updateAttempts (run.isCompletable input)
      (AttemptRow.complete input 5000) fun _ => rfl).countClassified 1 1).appendEvents
        [(some (Sample.callId index), .providerResponsePersisted),
          (some (Sample.callId index), .gateClassified)]) "normal-paced" = none from noHold]
    rfl
  · refine (Table.rows_update_last (AttemptRow.complete input 5000) (fun _ => rfl) entered.attempts spared
      taken).trans ?_
    rw [Option.toList_none, List.append_nil, List.range_succ, List.map_append]
    rfl
  · refine entered.tokens.trans ?_
    rw [Option.toList_none, List.append_nil, List.range_succ, List.map_append]
    rfl
  · exact entered.sealedCalls

/-- **A call is completed, and the run stays active.** -/
theorem call_underway (small : index < 100) (between : Underway runId profile index none none run) :
    Underway runId profile (index + 1) none none
      (Foundation.run ReliabilityRun.protocolStep run (Sample.callOps index)) := by
  have step : ∀ {run after : ReliabilityRun} {op : ProtocolOp}, run.perform op = .ok after →
      run.protocolStep op = after := by
    intro run after op performed
    unfold ReliabilityRun.protocolStep
    rw [performed]
    rfl
  obtain ⟨planned, registers, underway⟩ := register_call between
  obtain ⟨admitted, records, underway⟩ := record_call underway
  obtain ⟨authorized, authorizes, underway⟩ := authorize_call small underway
  obtain ⟨entered, enters, underway⟩ := enter_call underway
  obtain ⟨completed, completes, underway⟩ := complete_call underway
  rw [Sample.callOps, run_cons, step registers, run_cons, step records, run_cons, step authorizes, run_cons,
    step enters, run_cons, step completes, run_nil]
  exact underway

/-- The first calls are completed, one after the other. -/
theorem calls_underway (start : Underway runId profile 0 none none run) (count : ℕ) (atMost : count ≤ 100) :
    Underway runId profile count none none
      (Foundation.run ReliabilityRun.protocolStep run ((List.range count).flatMap Sample.callOps)) := by
  induction count with
  | zero => exact start
  | succ count ih =>
    rw [List.range_succ, List.flatMap_append, List.flatMap_singleton, run_append]
    exact call_underway (by omega) (ih (by omega))

end Calls

/-! ### Stages -/

namespace Sample

/-- The audit of a replay of a call. -/
def audit (index : ℕ) : ReplayAuditRow := ⟨callId index, index + 1, "response", "response"⟩

def auditOp (index : ℕ) : StoreOp := .transaction (.recordReplayAudit (audit index))

def advanceOp (target : DurableReliabilityStage) : StoreOp := .transaction (.advanceDurableStage target)

theorem callOps_stated : ∀ op ∈ (List.range 100).flatMap callOps, op.isElsewhere = false := by
  intro op member
  obtain ⟨index, _, member⟩ := List.mem_flatMap.mp member
  simp only [callOps, List.mem_cons, List.not_mem_nil, or_false] at member
  rcases member with rfl | rfl | rfl | rfl | rfl <;> rfl

/-- A hundred calls, twenty audits, and the stages up to the binding of artifacts. -/
def artifactOps : List StoreOp :=
  ((List.range 100).flatMap callOps).pmap (fun op stated => .transaction (.protocol op stated))
      callOps_stated ++ [advanceOp .freshTerminal] ++ (List.range 20).map auditOp ++
    [advanceOp .replayTerminal, advanceOp .artifactBound]

end Sample

section Stages

variable [NodeCrypto] [Collation] [ProtocolProfiles] {runId : String} {profile : ReliabilityProtocolProfile}

/-- An undisturbed run with its artifacts bound. -/
structure ArtifactsBound (runId : String) (profile : ReliabilityProtocolProfile) (run : StagedRun) :
    Prop where
  undisturbed : Undisturbed runId profile run.toReliabilityRun
  durableStage : run.durableStage = .artifactBound
  settlementFinalSnapshot : run.settlementFinalSnapshot = none
  finalReport : run.finalReport = none
  reportReceipts : run.reportReceipts = []

/-- Transactions on attempts and lanes write their rows only. -/
theorem run_protocol (ops : List ProtocolOp) (stated : ∀ op ∈ ops, op.isElsewhere = false)
    (world : StoreWorld) :
    Foundation.run StoreWorld.storeStep world
        (ops.pmap (fun op stated => .transaction (.protocol op stated)) stated) =
      { world with
        run := world.run.withRows
          (Foundation.run ReliabilityRun.protocolStep world.run.toReliabilityRun ops) } := by
  induction ops generalizing world with
  | nil => rfl
  | cons op ops ih =>
    have performed : world.storeStep (.transaction (.protocol op (stated op List.mem_cons_self))) =
        { world with run := world.run.withRows (world.run.toReliabilityRun.protocolStep op) } := by
      show world.settle (world.run.carry (world.run.toReliabilityRun.perform op)) = _
      unfold ReliabilityRun.protocolStep StagedRun.carry StoreWorld.settle
      cases world.run.toReliabilityRun.perform op with
      | error error => rfl
      | ok after => rfl
    rw [List.pmap_cons, run_cons, performed, ih]
    rfl

theorem record_audit {run : StagedRun} (calm : Undisturbed runId profile run.toReliabilityRun) {index : ℕ}
    (fresh : run.replayAudits.find? (Keyed.key (Sample.audit index)) = none) :
    run.recordReplayAudit (Sample.audit index) =
      .ok { run with replayAudits := run.replayAudits.put (Sample.audit index) } := by
  unfold StagedRun.recordReplayAudit StagedRun.insertReplayAudit
  refine (require_bind (decide_eq_true rfl)).trans ?_
  rw [calm.lock, ok_bind]
  exact (require_bind (Option.isNone_iff_eq_none.mpr fresh)).trans rfl

theorem audits_run {world : StoreWorld} (calm : Undisturbed runId profile world.run.toReliabilityRun)
    (noAudits : world.run.replayAudits = .empty) (count : ℕ) :
    ∃ audits, Foundation.run StoreWorld.storeStep world ((List.range count).map Sample.auditOp) =
        { world with run := { world.run with replayAudits := audits } } ∧
      audits.rows = (List.range count).map Sample.audit := by
  induction count with
  | zero => exact ⟨world.run.replayAudits, rfl, by rw [noAudits]; rfl⟩
  | succ count ih =>
    obtain ⟨audits, ran, rows⟩ := ih
    have fresh : audits.find? (Keyed.key (Sample.audit count)) = none := by
      refine Table.find?_eq_none.mpr fun row member same => ?_
      rw [Table.mem_def, rows] at member
      obtain ⟨earlier, before, rfl⟩ := List.mem_map.mp member
      have bound := List.mem_range.mp before
      exact absurd (Sample.callId_injective (congrArg Prod.fst same)) (by omega)
    refine ⟨audits.put (Sample.audit count), ?_, ?_⟩
    · have current :
          Undisturbed runId profile ({ world.run with replayAudits := audits } : StagedRun).toReliabilityRun :=
        calm
      rw [List.range_succ, List.map_append, run_append, ran]
      show StoreWorld.settle _ (StagedRun.recordReplayAudit _ _) = _
      rw [record_audit current fresh]
      rfl
    · rw [Table.rows_put_new fresh, rows, List.range_succ, List.map_append]
      rfl

/-- A stage follows the one before. -/
theorem advance_run {world : StoreWorld} (calm : Undisturbed runId profile world.run.toReliabilityRun)
    {target : DurableReliabilityStage}
    (planned : planDurableStageTransition (world.run.stageInventory target) target = .ok target) :
    world.storeStep (Sample.advanceOp target) =
      { world with run := { world.run with durableStage := target } } := by
  have advances : world.run.advanceDurableStage target = .ok { world.run with durableStage := target } := by
    unfold StagedRun.advanceDurableStage
    rw [calm.lock, ok_bind]
    refine (require_bind (decide_eq_true ?_)).trans ?_
    · rw [calm.active]
      exact nofun
    · rw [planned]
      rfl
  show world.settle (world.run.advanceDurableStage target) = _
  rw [advances]
  rfl

/-- The calls of the run are terminal, and nothing is held. -/
theorem plan_freshTerminal {run : StagedRun} (calls : Underway runId profile 100 none none run.toReliabilityRun)
    (stage : run.durableStage = .running) :
    planDurableStageTransition (run.stageInventory .freshTerminal) .freshTerminal = .ok .freshTerminal := by
  have terminal : (run.attempts.rows.filter fun attempt => attempt.terminalAt.isSome).length = 100 := by
    rw [calls.attempts, Option.toList_none, List.append_nil, List.filter_eq_self.mpr, List.length_map,
      List.length_range]
    intro attempt member
    obtain ⟨index, _, rfl⟩ := List.mem_map.mp member
    rfl
  have noHolds : (run.holds.rows.filter fun hold => hold.resolvedAt.isNone).length = 0 := by
    rw [calls.undisturbed.holds]
    rfl
  simp [planDurableStageTransition, StagedRun.stageInventory, terminal, noHolds, stage, require,
    DurableReliabilityStage.order, bind, Except.bind, pure, Except.pure]

/-- Twenty replays are audited. -/
theorem plan_replayTerminal {run : StagedRun} (audited : run.replayAudits.rows.length = 20)
    (stage : run.durableStage = .freshTerminal) :
    planDurableStageTransition (run.stageInventory .replayTerminal) .replayTerminal =
      .ok .replayTerminal := by
  simp [planDurableStageTransition, StagedRun.stageInventory, audited, stage, require,
    DurableReliabilityStage.order, bind, Except.bind, pure, Except.pure]

/-- The binding of artifacts by a stage asks for nothing. -/
theorem plan_artifactBound {run : StagedRun} (stage : run.durableStage = .replayTerminal) :
    planDurableStageTransition (run.stageInventory .artifactBound) .artifactBound = .ok .artifactBound := by
  simp [planDurableStageTransition, StagedRun.stageInventory, stage, require,
    DurableReliabilityStage.order, bind, Except.bind, pure, Except.pure]

/-- The settlement has passed. -/
theorem plan_settled {run : StagedRun} {snapshot : SettlementFinalSnapshotRow}
    (stored : run.settlementFinalSnapshot = some { snapshot with passed := true })
    (stage : run.durableStage = .artifactBound) :
    planDurableStageTransition (run.stageInventory .settled) .settled = .ok .settled := by
  simp [planDurableStageTransition, StagedRun.stageInventory, stored, stage, require,
    DurableReliabilityStage.order, bind, Except.bind, pure, Except.pure]

/-- **A run completes its calls, audits its replays and binds its artifacts.** -/
theorem artifactOps_reach (profiled : reliabilityProtocolProfileForRunId runId = .ok profile) :
    ∃ run, Foundation.run StoreWorld.storeStep
        (.initialWorld runId profile "plan" none ["normal-paced"]) Sample.artifactOps =
          { StoreWorld.initialWorld runId profile "plan" none ["normal-paced"] with run } ∧
      ArtifactsBound runId profile run := by
  let world : StoreWorld := .initialWorld runId profile "plan" none ["normal-paced"]
  have start : Underway runId profile 0 none none world.run.toReliabilityRun :=
    ⟨⟨rfl, rfl, profiled, rfl, rfl, rfl, rfl, rfl, rfl, rfl⟩, rfl, rfl, rfl, rfl⟩
  obtain ⟨rows, completes, calls⟩ : ∃ rows, Foundation.run ReliabilityRun.protocolStep
      world.run.toReliabilityRun ((List.range 100).flatMap Sample.callOps) = rows ∧
        Underway runId profile 100 none none rows :=
    ⟨_, rfl, calls_underway start 100 (le_refl _)⟩
  let called : StoreWorld := { world with run := world.run.withRows rows }
  have calm : Undisturbed runId profile called.run.toReliabilityRun := calls.undisturbed
  have toCalled : Foundation.run StoreWorld.storeStep world (((List.range 100).flatMap Sample.callOps).pmap
      (fun op stated => .transaction (.protocol op stated)) Sample.callOps_stated) = called := by
    rw [run_protocol, completes]
  let fresh : StoreWorld := { called with run := { called.run with durableStage := .freshTerminal } }
  have toFresh : Foundation.run StoreWorld.storeStep called [Sample.advanceOp .freshTerminal] = fresh :=
    advance_run calm (plan_freshTerminal calls rfl)
  have calmFresh : Undisturbed runId profile fresh.run.toReliabilityRun := calm
  obtain ⟨audits, toAudited, listed⟩ := audits_run calmFresh rfl 20
  let audited : StoreWorld := { fresh with run := { fresh.run with replayAudits := audits } }
  have count : audited.run.replayAudits.rows.length = 20 := by
    show audits.rows.length = 20
    rw [listed, List.length_map, List.length_range]
  let replayed : StoreWorld := { audited with run := { audited.run with durableStage := .replayTerminal } }
  have toReplayed : audited.storeStep (Sample.advanceOp .replayTerminal) = replayed :=
    @advance_run _ _ _ _ _ audited calm _ (plan_replayTerminal count rfl)
  let bound : StoreWorld := { replayed with run := { replayed.run with durableStage := .artifactBound } }
  have toBound : replayed.storeStep (Sample.advanceOp .artifactBound) = bound :=
    @advance_run _ _ _ _ _ replayed calm _ (plan_artifactBound rfl)
  refine ⟨bound.run, ?_, ⟨calm, rfl, rfl, rfl, rfl⟩⟩
  show Foundation.run StoreWorld.storeStep world Sample.artifactOps = bound
  unfold Sample.artifactOps
  rw [run_append, run_append, run_append, toCalled, toFresh, toAudited, run_cons]
  show Foundation.run StoreWorld.storeStep (audited.storeStep (Sample.advanceOp .replayTerminal))
    [Sample.advanceOp .artifactBound] = bound
  rw [toReplayed, run_cons, toBound, run_nil]

end Stages

/-! ### Settlement -/

namespace Sample

/-- The first poll is complete. -/
def settlement : AuthoritativeSettlementResult :=
  runAuthoritativeSettlement 0 fun _ => some ⟨true, "digest", 100, 0, 0⟩

/-- The final report of a run whose settlement has been accepted. -/
def marker (runId : String) (profile : ReliabilityProtocolProfile) : CanonicalFinalCommitMarker where
  evidenceType := profile.evidenceType
  protocolVersion := profile.protocolVersion
  artifactKind := "final_commit"
  state := "committed"
  runId := runId
  planFingerprint := "plan"
  passed := true
  acceptedSnapshotDigest := "digest"
  journalCardinality := 1
  authoritativeInventoryDigest := digest
  artifactDigests := []

theorem settlement_accepted : settlement.passed = true ∧ settlement.finalDigest = some "digest" ∧
    settlement.journal.length = 1 := by
  decide +kernel

def settleOp (runId : String) (profile : ReliabilityProtocolProfile) : StoreOp :=
  .transaction (.runAndPersistAuthoritativeSettlement settlement (some (marker runId profile)) 6000)

end Sample

section Settlement

variable [NodeCrypto] [Collation] [ProtocolProfiles] {runId : String} {profile : ReliabilityProtocolProfile}
  {run : StagedRun}

/-- The run with the settlement accepted. -/
def StagedRun.accepted (run : StagedRun) : StagedRun :=
  { run with
    settlementJournal := Sample.settlement.journal.foldl (fun journal entry =>
      if (journal.find? entry.pollNo).isSome then journal else journal.put entry) run.settlementJournal
    settlementFinalSnapshot := some (Sample.settlement.finalSnapshot true) }

/-- A settlement that passes, with the marker of the run. -/
theorem settle_bound (bound : ArtifactsBound runId profile run) :
    run.finishSettlement Sample.settlement (some (Sample.marker runId profile)) 6000 =
      run.accepted.settlementIntent Sample.settlement
        (if usesSequencedReportIntents profile.protocolVersion then some (Sample.marker runId profile)
        else none) 6000 := by
  have calm := bound.undisturbed
  obtain ⟨passed, finalDigest, polls⟩ := Sample.settlement_accepted
  have authorized : run.isReportAuthority Sample.settlement (Sample.marker runId profile) = true := by
    have digest : isManifestDigest Sample.digest = true := by decide +kernel
    unfold StagedRun.isReportAuthority
    rw [calm.artifactBindings, calm.sameProfile, calm.sameRun, calm.planFingerprint, finalDigest, polls]
    simp [Sample.marker, digest]
  have gate : run.settlementGate = .ok run.control := by
    unfold StagedRun.settlementGate
    rw [calm.lock, ok_bind, require_bind (by simp [bound.durableStage, calm.active])]
    rfl
  unfold StagedRun.finishSettlement StagedRun.persistSettlement
  rw [calm.sameProfile, gate, passed, bound.settlementFinalSnapshot]
  cases usesSequencedReportIntents profile.protocolVersion with
  | false => rfl
  | true =>
    simp only [Bool.and_self, if_true, Option.all_some, authorized]
    rfl

/-- An undisturbed run that is settled, and has no final report yet. -/
structure Settled (runId : String) (profile : ReliabilityProtocolProfile) (run : StagedRun) : Prop where
  undisturbed : Undisturbed runId profile run.toReliabilityRun
  durableStage : run.durableStage = .settled
  settlementFinalSnapshot : run.settlementFinalSnapshot = some (Sample.settlement.finalSnapshot true)
  finalReport : run.finalReport = none

/-- A run without report intents settles. -/
theorem settle_run {world : StoreWorld} (bound : ArtifactsBound runId profile world.run)
    (unsequenced : usesSequencedReportIntents profile.protocolVersion = false) :
    ∃ run, Foundation.run StoreWorld.storeStep world
        [Sample.settleOp runId profile, Sample.advanceOp .settled] = { world with run } ∧
      Settled runId profile run := by
  have calm := bound.undisturbed
  have settles : world.run.finishSettlement Sample.settlement (some (Sample.marker runId profile)) 6000 =
      .ok world.run.accepted := by
    rw [settle_bound bound, unsequenced, if_neg (by simp)]
    unfold StagedRun.settlementIntent
    dsimp only
    rw [if_pos Sample.settlement_accepted.1]
  let accepted : StoreWorld := { world with run := world.run.accepted }
  have toAccepted : world.storeStep (Sample.settleOp runId profile) = accepted := by
    show world.settle (world.run.finishSettlement _ _ _) = accepted
    rw [settles]
    rfl
  have toSettled : accepted.storeStep (Sample.advanceOp .settled) =
      { accepted with run := { accepted.run with durableStage := .settled } } := by
    refine @advance_run _ _ _ _ _ accepted calm _ ?_
    exact @plan_settled _ _ _ accepted.run (Sample.settlement.finalSnapshot true) rfl bound.durableStage
  refine ⟨{ accepted.run with durableStage := .settled }, ?_, ⟨calm, rfl, rfl, bound.finalReport⟩⟩
  rw [run_cons, toAccepted, run_cons, toSettled, run_nil]

end Settlement

end FuseControlPlane.Reliability
