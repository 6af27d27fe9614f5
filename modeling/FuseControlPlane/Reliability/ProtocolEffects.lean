/-
What a transaction of the protocol store does to the rows of a run.

* `Effect`: one write to attempts, tokens, barriers, events or holds, with what its transaction has checked.
* `protocolStep_effects`: **every transaction is a sequence of such writes**. Within a transaction they may
  be put in another order, so that a request leaves its hold before its attempt is classified, and the run
  has failed before a token is canceled.
-/

import FuseControlPlane.Reliability.ProtocolSteps
import Mathlib.Logic.Relation

set_option linter.unusedSectionVars false

namespace FuseControlPlane.Reliability

open Foundation Foundation.JavaScript Domain Evidence

/-! ### Effects -/

/-- Everything but the holds that the laws of a run speak about is unchanged. A run that has ended stays
ended. -/
structure Quiet (run after : ReliabilityRun) : Prop where
  sealedCalls : after.sealedCalls = run.sealedCalls
  attempts : after.attempts = run.attempts
  dispatchTokens : after.dispatchTokens = run.dispatchTokens
  burstBarriers : after.burstBarriers = run.burstBarriers
  events : after.events = run.events
  nextEventSequence : after.nextEventSequence = run.nextEventSequence
  dispatchTokenCount : after.control.dispatchTokenCount = run.control.dispatchTokenCount
  gateClassificationCount : after.control.gateClassificationCount = run.control.gateClassificationCount
  usableCount : after.control.usableCount = run.control.usableCount
  active : after.control.state = .active → run.control.state = .active

/-- The holds and their members are unchanged. -/
structure SameHolds (run after : ReliabilityRun) : Prop where
  holds : after.holds = run.holds
  holdMembers : after.holdMembers = run.holdMembers

/-- The faults that the laws exclude: an attempt whose token is entered, a request that joins a hold which
another member has left, and a held attempt that is classified. -/
structure Faults where
  enters : AttemptRow → Prop
  joinsLate : Prop
  strands : Prop

namespace ReliabilityRun

/-- A token of a request, and its attempt authorized. -/
def issueToken (run : ReliabilityRun) (input : AuthorizeDispatchInput) (drawn : String) :
    ReliabilityRun :=
  ({ run with
      control := { run.control with dispatchTokenCount := run.control.dispatchTokenCount + 1 }
      dispatchTokens := run.dispatchTokens.put
        ⟨input.requestId, drawn, input.laneId, input.ownerId, none, none⟩ } :
    ReliabilityRun).updateAttempts (·.requestId = input.requestId)
      ({ · with state := .dispatchAuthorized }) (AttemptRow.requestId_withState .dispatchAuthorized)

/-- The token of a request and its attempt entered. -/
def markEntered (run : ReliabilityRun) (requestId : String) (now : ℤ) : ReliabilityRun :=
  (run.updateTokens (·.requestId = requestId) ({ · with primitiveEnteredAt := some now })
    (DispatchTokenRow.requestId_entered now)).updateAttempts (·.requestId = requestId)
      ({ · with state := .primitiveEntered }) (AttemptRow.requestId_withState .primitiveEntered)

/-- The attempts of a condition become pending. -/
def pendAttempts (run : ReliabilityRun) (chosen : AttemptRow → Bool)
    (ambiguityEnteredAt : AttemptRow → Option ℤ) (generationId : AttemptRow → Option String) :
    ReliabilityRun :=
  run.updateAttempts chosen
    (fun attempt =>
      { attempt with
        state := .reconciliationPending
        ambiguityEnteredAt := ambiguityEnteredAt attempt
        providerGenerationId := generationId attempt })
    fun _ => rfl

/-- The tokens of a condition are canceled. -/
def cancelTokens (run : ReliabilityRun) (chosen : DispatchTokenRow → Bool)
    (canceledAt : DispatchTokenRow → Option ℤ) : ReliabilityRun :=
  run.updateTokens chosen (fun token => { token with canceledAt := canceledAt token }) fun _ => rfl

end ReliabilityRun

/-- The requests of the gate events among some events. -/
def gateRequests (entries : List (Option String × EventType)) : List (Option String) :=
  (entries.filter fun entry => entry.2 = .gateClassified).map Prod.fst

/-- An attempt is not classified, by one of its two columns. -/
def AttemptRow.isOpen (attempt : AttemptRow) : Prop :=
  attempt.gateClassifiedAt = none ∨ attempt.terminalAt = none

/-- A row of a classified attempt, made from one that was not. -/
structure Ends (run : ReliabilityRun) (attempt ended : AttemptRow) : Prop where
  requestId : ended.requestId = attempt.requestId
  laneId : ended.laneId = attempt.laneId
  block : ended.block = attempt.block
  reserved : ended.reservedCostMicros = attempt.reservedCostMicros
  gate : ended.gateClassifiedAt.isSome = true
  terminal : ended.terminalAt.isSome = true
  classified : ended.state.isClassified = true
  undispatched : ended.state = .notDispatched → run.isEntered attempt.requestId = false

/-- Attempts of a condition are classified, counted, and each has one gate event. -/
structure Classification (run : ReliabilityRun) where
  chosen : AttemptRow → Bool
  rewrite : AttemptRow → AttemptRow
  keeps : ∀ row, (rewrite row).requestId = row.requestId
  classified : ℕ
  usable : ℕ
  entries : List (Option String × EventType)
  unclassified : ∀ attempt ∈ run.attempts, chosen attempt = true → attempt.isOpen
  ends : ∀ attempt ∈ run.attempts, chosen attempt = true → Ends run attempt (rewrite attempt)
  counted : classified = (run.attempts.rows.filter chosen).length
  countedUsable : usable =
    ((run.attempts.rows.filter chosen).filter fun attempt => (rewrite attempt).isUsable).length
  announced : (gateRequests entries).Perm
    ((run.attempts.rows.filter chosen).map fun attempt => some attempt.requestId)

/-- The rows after a classification. -/
def Classification.apply {run : ReliabilityRun} (classification : Classification run) : ReliabilityRun :=
  ((run.updateAttempts classification.chosen classification.rewrite
    classification.keeps).countClassified classification.classified
      classification.usable).appendEvents classification.entries

/-- A write to sealed calls, attempts, tokens, barriers or events. -/
inductive RowEffect (faults : Faults) (run : ReliabilityRun) : ReliabilityRun → Prop
  | note (entries : List (Option String × EventType)) (plain : gateRequests entries = []) :
    RowEffect faults run (run.appendEvents entries)
  | insertSealed (sealed : SealedCallRow) (absent : run.sealedCalls.find? sealed.requestId = none)
    (free : run.isSlotTaken sealed = false) :
    RowEffect faults run { run with sealedCalls := run.sealedCalls.put sealed }
  | plan (sealed : SealedCallRow) (stored : run.sealedCalls.find? sealed.requestId = some sealed)
    (absent : run.attempts.find? sealed.requestId = none) :
    RowEffect faults run { run with attempts := run.attempts.put sealed.plannedAttempt }
  | admitAttempt (input : RecordAttemptInput) (now : ℤ) (active : run.control.state = .active) :
    RowEffect faults run
      (run.updateAttempts (run.isAdmissible input) (run.admitAttempt input now) fun _ => rfl)
  | issue (input : AuthorizeDispatchInput) (drawn : String) (active : run.control.state = .active)
    (absent : run.dispatchTokens.find? input.requestId = none)
    (allowed : run.capDisposition input.requestId = .allow)
    (below : run.control.dispatchTokenCount < 100)
    (dispatchable : run.attempts.rows.any (run.isDispatchable input) = true) :
    RowEffect faults run (run.issueToken input drawn)
  | enter (requestId : String) (now : ℤ) (token : DispatchTokenRow)
    (found : run.dispatchTokens.find? requestId = some token) (enterable : run.isEnterable token = true)
    (allowed : ∀ attempt, run.attempts.find? requestId = some attempt → faults.enters attempt) :
    RowEffect faults run (run.markEntered requestId now)
  | pend (chosen : AttemptRow → Bool) (ambiguityEnteredAt : AttemptRow → Option ℤ)
    (generationId : AttemptRow → Option String)
    (unclassified : ∀ attempt ∈ run.attempts, chosen attempt = true → attempt.isOpen) :
    RowEffect faults run (run.pendAttempts chosen ambiguityEnteredAt generationId)
  | classify (classification : Classification run)
    (released : ∀ attempt ∈ run.attempts, classification.chosen attempt = true →
      run.isHeld attempt = true → faults.strands) : RowEffect faults run classification.apply
  | cancelTokens (chosen : DispatchTokenRow → Bool) (canceledAt : DispatchTokenRow → Option ℤ)
    (canceled : ∀ token, (canceledAt token).isSome = true) (ended : run.control.state ≠ .active)
    (unentered : ∀ token ∈ run.dispatchTokens, chosen token = true → token.primitiveEnteredAt = none) :
    RowEffect faults run (run.cancelTokens chosen canceledAt)
  | createBarrier (laneId : String) (block : ℤ) (requestIds : List String)
    (absent : run.burstBarriers.find? (laneId, block) = none) :
    RowEffect faults run { run with
      burstBarriers := run.burstBarriers.put ⟨laneId, block, .preparing, requestIds, none, none⟩ }
  | release (barrier : BurstBarrierRow) (now : ℤ) (active : run.control.state = .active)
    (found : run.burstBarriers.find? (barrier.laneId, barrier.block) = some barrier)
    (ready : run.countTokens barrier.plannedRequestIds = barrier.plannedRequestIds.length) :
    RowEffect faults run { run with
      burstBarriers :=
        run.burstBarriers.put { barrier with state := .released, releasedAt := some now } }
  | cancelBarriers (now : ℤ) (ended : run.control.state ≠ .active) :
    RowEffect faults run (run.cancelBarriers now)

/-- A write to holds and their members. -/
inductive HoldEffect (faults : Faults) (run : ReliabilityRun) : ReliabilityRun → Prop
  | create (laneId holdId : String) (members : List String) (noneOpen : run.openHold laneId = none)
    (fresh : run.isFreshHold laneId holdId = true) (inhabited : members ≠ []) (distinct : members.Nodup)
    (going : ∀ requestId ∈ members, run.isActiveOn laneId requestId = true) :
    HoldEffect faults run (run.createHold laneId holdId members)
  | join (hold : HoldRow) (requestId : String) (opened : run.openHold hold.laneId = some hold)
    (absent : requestId ∉ hold.heldUnresolved) (going : run.isActiveOn hold.laneId requestId = true)
    (timely : ∀ row ∈ run.holdMembers, row.isOf hold = true → row.resolvedAt.isSome = true →
      faults.joinsLate) : HoldEffect faults run (run.joinHold hold requestId)
  | leave (hold : HoldRow) (requestId : String) (controlState : ControlState) (now : ℤ)
    (opened : run.openHold hold.laneId = some hold) (listed : requestId ∈ hold.heldUnresolved) :
    HoldEffect faults run (run.leaveHold hold requestId controlState now)
  | mark (laneId holdId requestId : String) :
    HoldEffect faults run (run.markMemberPending laneId holdId requestId)

/-- One write. -/
inductive Effect (faults : Faults) (run after : ReliabilityRun) : Prop
  | quiet (others : Quiet run after) (holds : SameHolds run after)
  | rows (effect : RowEffect faults run after)
  | hold (effect : HoldEffect faults run after)

/-- A sequence of writes. -/
abbrev Effects (faults : Faults) : ReliabilityRun → ReliabilityRun → Prop :=
  Relation.ReflTransGen (Effect faults)

/-! ### Updated tables -/

section Tables

variable (run : ReliabilityRun) (chosen : AttemptRow → Bool) (rewrite : AttemptRow → AttemptRow)
  (keeps : ∀ row, (rewrite row).requestId = row.requestId) (requestId : String)

theorem mem_updateAttempts {attempt : AttemptRow} :
    attempt ∈ (run.updateAttempts chosen rewrite keeps).attempts ↔
      ∃ old ∈ run.attempts, (if chosen old then rewrite old else old) = attempt := by
  show attempt ∈ run.attempts.update chosen rewrite keeps ↔ _
  rw [Table.mem_update]

theorem find_updateAttempts : (run.updateAttempts chosen rewrite keeps).attempts.find? requestId =
    (run.attempts.find? requestId).map fun row => if chosen row then rewrite row else row := by
  show (run.attempts.update chosen rewrite keeps).find? requestId = _
  rw [Table.find?_update]

variable (picked : DispatchTokenRow → Bool) (change : DispatchTokenRow → DispatchTokenRow)
  (preserves : ∀ row, (change row).requestId = row.requestId)

theorem mem_updateTokens {token : DispatchTokenRow} :
    token ∈ (run.updateTokens picked change preserves).dispatchTokens ↔
      ∃ old ∈ run.dispatchTokens, (if picked old then change old else old) = token := by
  show token ∈ run.dispatchTokens.update picked change preserves ↔ _
  rw [Table.mem_update]

theorem find_updateTokens : (run.updateTokens picked change preserves).dispatchTokens.find? requestId =
    (run.dispatchTokens.find? requestId).map fun row => if picked row then change row else row := by
  show (run.dispatchTokens.update picked change preserves).find? requestId = _
  rw [Table.find?_update]

end Tables

/-! ### Frames -/

theorem Quiet.refl (run : ReliabilityRun) : Quiet run run :=
  ⟨rfl, rfl, rfl, rfl, rfl, rfl, rfl, rfl, rfl, id⟩

theorem SameHolds.refl (run : ReliabilityRun) : SameHolds run run := ⟨rfl, rfl⟩

theorem Quiet.trans {first second third : ReliabilityRun} (earlier : Quiet first second)
    (later : Quiet second third) : Quiet first third :=
  ⟨later.sealedCalls.trans earlier.sealedCalls, later.attempts.trans earlier.attempts,
    later.dispatchTokens.trans earlier.dispatchTokens, later.burstBarriers.trans earlier.burstBarriers,
    later.events.trans earlier.events, later.nextEventSequence.trans earlier.nextEventSequence,
    later.dispatchTokenCount.trans earlier.dispatchTokenCount,
    later.gateClassificationCount.trans earlier.gateClassificationCount,
    later.usableCount.trans earlier.usableCount, fun ended => earlier.active (later.active ended)⟩

theorem SameHolds.trans {first second third : ReliabilityRun} (earlier : SameHolds first second)
    (later : SameHolds second third) : SameHolds first third :=
  ⟨later.holds.trans earlier.holds, later.holdMembers.trans earlier.holdMembers⟩

theorem RowEffect.sameHolds {faults : Faults} {run after : ReliabilityRun}
    (effect : RowEffect faults run after) : SameHolds run after := by
  cases effect <;> exact ⟨rfl, rfl⟩

theorem HoldEffect.quiet {faults : Faults} {run after : ReliabilityRun}
    (effect : HoldEffect faults run after) : Quiet run after := by
  cases effect with
  | create laneId holdId members noneOpen fresh inhabited distinct going =>
    exact ⟨rfl, rfl, rfl, rfl, rfl, rfl, rfl, rfl, rfl, id⟩
  | join hold requestId opened absent going timely =>
    unfold ReliabilityRun.joinHold ReliabilityRun.insertMember
    dsimp only
    split <;> exact ⟨rfl, rfl, rfl, rfl, rfl, rfl, rfl, rfl, rfl, id⟩
  | leave hold requestId controlState now opened listed =>
    unfold ReliabilityRun.leaveHold
    dsimp only
    split <;> exact ⟨rfl, rfl, rfl, rfl, rfl, rfl, rfl, rfl, rfl, id⟩
  | mark laneId holdId requestId => exact ⟨rfl, rfl, rfl, rfl, rfl, rfl, rfl, rfl, rfl, id⟩

/-! ### Counters, events and reports -/

section Parts

variable {faults : Faults} {run after : ReliabilityRun}

theorem Effects.of_quiet (others : Quiet run after) (holds : SameHolds run after) :
    Effects faults run after := .single (.quiet others holds)

theorem Effects.of_rows (effect : RowEffect faults run after) : Effects faults run after :=
  .single (.rows effect)

theorem Effects.of_hold (effect : HoldEffect faults run after) : Effects faults run after :=
  .single (.hold effect)

/-- An event of another kind than a classification. -/
theorem noteOne (requestId : Option String) {eventType : EventType}
    (plain : eventType ≠ .gateClassified) : Effects faults run (run.appendEvent requestId eventType) :=
  .of_rows (.note _ (by simp [gateRequests, plain]))

section Reports

variable [NodeCrypto] [Collation] [ProtocolProfiles]

/-- The intent of a report changes nothing else. -/
theorem commitReportIntentLocked_quiet {input : ReliabilityRun.ReportIntentInput} {now : ℤ}
    (accepted : run.commitReportIntentLocked input now = .ok after) :
    Quiet run after ∧ SameHolds run after := by
  unfold ReliabilityRun.commitReportIntentLocked at accepted
  obtain ⟨control, _, accepted⟩ := bind_eq_ok.mp accepted
  split at accepted
  · cases accepted
    exact ⟨.refl run, .refl run⟩
  · split at accepted
    · cases accepted
      exact ⟨⟨rfl, rfl, rfl, rfl, rfl, rfl, rfl, rfl, rfl, id⟩, rfl, rfl⟩
    · split at accepted
      · cases accepted
        exact ⟨.refl run, .refl run⟩
      · simp only [bind_unit_eq_ok] at accepted
        cases accepted.2.2
        exact ⟨⟨rfl, rfl, rfl, rfl, rfl, rfl, rfl, rfl, rfl, id⟩, rfl, rfl⟩

end Reports

/-! ### Classifications -/

/-- A classification is one of any run with the same attempts and tokens. -/
def Classification.transport (classification : Classification run) (same : Quiet run after) :
    Classification after where
  chosen := classification.chosen
  rewrite := classification.rewrite
  keeps := classification.keeps
  classified := classification.classified
  usable := classification.usable
  entries := classification.entries
  unclassified := by
    rw [same.attempts]
    exact classification.unclassified
  ends := by
    rw [same.attempts]
    intro attempt member chosen
    have ends := classification.ends attempt member chosen
    refine ⟨ends.requestId, ends.laneId, ends.block, ends.reserved, ends.gate, ends.terminal,
      ends.classified, fun undispatched => ?_⟩
    unfold ReliabilityRun.isEntered
    rw [same.dispatchTokens]
    exact ends.undispatched undispatched
  counted := by
    rw [same.attempts]
    exact classification.counted
  countedUsable := by
    rw [same.attempts]
    exact classification.countedUsable
  announced := by
    rw [same.attempts]
    exact classification.announced

theorem Classification.mem_apply (classification : Classification run) {attempt : AttemptRow} :
    attempt ∈ classification.apply.attempts ↔ ∃ old ∈ run.attempts,
      (if classification.chosen old then classification.rewrite old else old) = attempt := by
  show attempt ∈ (run.updateAttempts classification.chosen classification.rewrite
    classification.keeps).attempts ↔ _
  rw [mem_updateAttempts]

/-- The classification of one attempt. -/
def Classification.one {attempt : AttemptRow} (member : attempt ∈ run.attempts)
    (chosen : AttemptRow → Bool) (rewrite : AttemptRow → AttemptRow)
    (keeps : ∀ row, (rewrite row).requestId = row.requestId) (usable : ℕ)
    (entries : List (Option String × EventType)) (picked : chosen attempt = true)
    (only : ∀ row ∈ run.attempts, chosen row = true → row.requestId = attempt.requestId)
    (unclassified : attempt.isOpen) (ends : Ends run attempt (rewrite attempt))
    (countedUsable : usable = if (rewrite attempt).isUsable then 1 else 0)
    (announced : gateRequests entries = [some attempt.requestId]) : Classification run :=
  have itself : ∀ row ∈ run.attempts, chosen row = true → row = attempt := fun row here meets =>
    Table.eq_of_key here member (only row here meets)
  have alone : run.attempts.rows.filter chosen = [attempt] :=
    Table.filter_eq_singleton member picked only
  { chosen, rewrite, keeps, usable, entries
    classified := 1
    unclassified := by
      intro row here meets
      rw [itself row here meets]
      exact unclassified
    ends := by
      intro row here meets
      rw [itself row here meets]
      exact ends
    counted := by rw [alone]; rfl
    countedUsable := by
      rw [alone, countedUsable]
      cases usable : (rewrite attempt).isUsable <;> simp [usable]
    announced := by
      rw [alone, announced]
      exact .refl _ }

/-! ### Failure -/

/-- The run after a failure, before attempts are classified. -/
def stopped (run : ReliabilityRun) (now : ℤ) : ReliabilityRun :=
  ((run.setFailed now).updateTokens run.isCanceledByFailure
    (fun token => { token with canceledAt := some now })
    (DispatchTokenRow.requestId_canceled now)).cancelBarriers now

theorem isReleased_stopped (now : ℤ) (attempt : AttemptRow) :
    (stopped run now).isReleased attempt = run.isReleased attempt := by
  show ((run.burstBarriers.update (·.state ≠ .released)
    ({ · with state := .canceled, canceledAt := some now }) fun _ => rfl).find? _).any _ = _
  rw [Table.find?_update]
  unfold ReliabilityRun.isReleased
  cases run.burstBarriers.find? (attempt.laneId, attempt.block) with
  | none => rfl
  | some barrier => cases state : barrier.state <;> simp [state]

/-- A token that may still be entered is not canceled by the failure. -/
theorem isUndispatched_of_stopped {now : ℤ} {attempt : AttemptRow} (member : attempt ∈ run.attempts)
    (undispatched : (stopped run now).isUndispatched attempt = true) :
    run.isUndispatched attempt = true := by
  unfold ReliabilityRun.isUndispatched at undispatched ⊢
  rw [Bool.and_eq_true] at undispatched ⊢
  refine ⟨undispatched.1, ?_⟩
  have dead := undispatched.2
  rw [Bool.not_eq_true'] at dead ⊢
  have stored : (stopped run now).dispatchTokens.find? attempt.requestId =
      (run.dispatchTokens.find? attempt.requestId).map fun token =>
        if run.isCanceledByFailure token then { token with canceledAt := some now } else token := by
    show (run.updateTokens run.isCanceledByFailure
      (fun token => { token with canceledAt := some now }) fun _ => rfl).dispatchTokens.find? _ = _
    rw [find_updateTokens]
  rw [stored] at dead
  cases found : run.dispatchTokens.find? attempt.requestId with
  | none => rfl
  | some token =>
    rw [found] at dead
    simp only [Option.map_some, Option.any_some] at dead ⊢
    by_cases canceled : run.isCanceledByFailure token = true
    · -- The failure cancels tokens that could not have been entered.
      unfold ReliabilityRun.isCanceledByFailure at canceled
      simp only [Bool.and_eq_true, Bool.not_eq_true', decide_eq_true_eq] at canceled
      obtain ⟨⟨⟨unentered, _⟩, burst⟩, unreleased⟩ := canceled
      have own : token.requestId = attempt.requestId := Table.key_of_find? found
      have closed : run.isReleased attempt = false := by
        unfold ReliabilityRun.isTokenReleased at unreleased
        rw [own, show run.attempts.find? attempt.requestId = some attempt from
          Table.find?_of_mem member] at unreleased
        exact unreleased
      unfold ReliabilityRun.isLive
      simp [Option.isNone_iff_eq_none.mp unentered, burst, closed]
    · rw [if_neg canceled] at dead
      unfold ReliabilityRun.isLive at dead ⊢
      rw [isReleased_stopped] at dead
      exact dead

theorem not_isEntered_of_isUndispatched {attempt : AttemptRow}
    (undispatched : run.isUndispatched attempt = true) : run.isEntered attempt.requestId = false := by
  unfold ReliabilityRun.isUndispatched at undispatched
  simp only [Bool.and_eq_true, Bool.not_eq_true'] at undispatched
  have dead := undispatched.2
  unfold ReliabilityRun.isEntered
  cases found : run.dispatchTokens.find? attempt.requestId with
  | none => rfl
  | some token =>
    rw [found] at dead
    unfold ReliabilityRun.isLive at dead
    simp only [Option.any_some, Bool.or_eq_false_iff] at dead
    exact dead.1

theorem gateRequests_failureEvents (canceled : List String) (classified : List AttemptRow) :
    gateRequests (ReliabilityRun.failureEvents canceled classified) =
      classified.map fun attempt => some attempt.requestId := by
  unfold gateRequests ReliabilityRun.failureEvents
  induction classified with
  | nil => rfl
  | cons attempt rest ih =>
    rw [List.flatMap_cons, List.filter_append, List.map_append, ih, List.map_cons]
    split <;> rfl

theorem ends_classifyNotDispatched {attempt : AttemptRow} (now : ℤ)
    (unentered : run.isEntered attempt.requestId = false) :
    Ends run attempt (AttemptRow.classifyNotDispatched now attempt) :=
  ⟨rfl, rfl, rfl, rfl, rfl, rfl, rfl, fun _ => unentered⟩

/-- The attempts that a failure classifies. -/
def failureClassification (run : ReliabilityRun) (now : ℤ) : Classification (stopped run now) where
  chosen := (stopped run now).isUndispatched
  rewrite := AttemptRow.classifyNotDispatched now
  keeps := AttemptRow.requestId_classifyNotDispatched now
  classified := ((stopped run now).attempts.rows.filter (stopped run now).isUndispatched).length
  usable := 0
  entries := ReliabilityRun.failureEvents run.canceledByFailure
    ((stopped run now).attempts.rows.filter (stopped run now).isUndispatched)
  unclassified := by
    intro attempt _ chosen
    unfold ReliabilityRun.isUndispatched at chosen
    rw [Bool.and_eq_true] at chosen
    exact .inl (Option.isNone_iff_eq_none.mp chosen.1)
  ends := fun _ _ chosen => ends_classifyNotDispatched now (not_isEntered_of_isUndispatched chosen)
  counted := rfl
  countedUsable := by
    have unusable : ∀ attempt : AttemptRow,
        (AttemptRow.classifyNotDispatched now attempt).isUsable = false := fun _ => rfl
    simp [unusable]
  announced := by
    rw [gateRequests_failureEvents]

theorem strandsMember_of {attempt : AttemptRow} {spared : Option String}
    (member : attempt ∈ run.attempts) (held : run.isHeld attempt = true)
    (undispatched : run.isUndispatched attempt = true) (other : some attempt.requestId ≠ spared) :
    run.strandsMember spared = true := by
  refine List.any_eq_true.mpr ⟨attempt, member, ?_⟩
  simp [held, undispatched, other]

/-- A failure, once the run is marked as failed. -/
theorem failRows_effects (now : ℤ) (clean : run.strandsMember none = true → faults.strands) :
    Effects faults (run.setFailed now) (run.failRows now) := by
  have ended : (run.setFailed now).control.state ≠ .active := by
    show ControlState.failed ≠ .active
    decide
  have canceled : Effects faults (run.setFailed now)
      ((run.setFailed now).cancelTokens run.isCanceledByFailure fun _ => some now) := by
    refine .of_rows (.cancelTokens _ _ (fun _ => rfl) ended fun token _ chosen => ?_)
    unfold ReliabilityRun.isCanceledByFailure at chosen
    simp only [Bool.and_eq_true] at chosen
    exact Option.isNone_iff_eq_none.mp chosen.1.1.1
  have barriers : Effects faults
      ((run.setFailed now).cancelTokens run.isCanceledByFailure fun _ => some now) (stopped run now) :=
    .of_rows (.cancelBarriers now ended)
  have classified : Effects faults (stopped run now) (run.failRows now) := by
    refine .of_rows (.classify (failureClassification run now) fun attempt member chosen held => ?_)
    exact clean (strandsMember_of member held (isUndispatched_of_stopped member chosen) (by simp))
  exact (canceled.trans barriers).trans classified

theorem setFailed_quiet (run : ReliabilityRun) (now : ℤ) :
    Quiet run (run.setFailed now) ∧ SameHolds run (run.setFailed now) :=
  ⟨⟨rfl, rfl, rfl, rfl, rfl, rfl, rfl, rfl, rfl, fun active => by cases active⟩, rfl, rfl⟩

section Failing

variable [NodeCrypto] [Collation] [ProtocolProfiles]

/-- What `failProtocolLocked` does: nothing to a run that has ended, else it fails. -/
theorem failProtocolLocked_eq_ok {reason : String} {now : ℤ}
    (accepted : run.failProtocolLocked reason now = .ok after) :
    (run.control.state ≠ .active ∧ after = run) ∨ (run.control.state = .active ∧
      Quiet (run.failRows now) after ∧ SameHolds (run.failRows now) after) := by
  unfold ReliabilityRun.failProtocolLocked at accepted
  obtain ⟨control, locked, accepted⟩ := bind_eq_ok.mp accepted
  have own := ProtocolRun.lockControlProfile_eq_ok locked
  subst own
  split at accepted
  · next ended =>
    cases accepted
    exact .inl ⟨ended, rfl⟩
  · next active =>
    obtain ⟨others, holds⟩ := commitReportIntentLocked_quiet accepted
    exact .inr ⟨not_not.mp active,
      ⟨others.sealedCalls, others.attempts, others.dispatchTokens, others.burstBarriers, others.events,
        others.nextEventSequence, others.dispatchTokenCount, others.gateClassificationCount,
        others.usableCount, others.active⟩, ⟨holds.holds, holds.holdMembers⟩⟩

theorem failProtocolLocked_effects {reason : String} {now : ℤ}
    (accepted : run.failProtocolLocked reason now = .ok after)
    (clean : run.control.state = .active → run.strandsMember none = true → faults.strands) :
    Effects faults run after := by
  rcases failProtocolLocked_eq_ok accepted with ⟨_, rfl⟩ | ⟨active, others, holds⟩
  · exact .refl
  · obtain ⟨failed, kept⟩ := setFailed_quiet run now
    exact ((Effects.of_quiet failed kept).trans (failRows_effects now (clean active))).trans
      (Effects.of_quiet others holds)

end Failing

/-! ### Holds -/

/-- One lane has one open hold. -/
def HoldsApart (run : ReliabilityRun) : Prop :=
  ∀ first ∈ run.holds, ∀ second ∈ run.holds, first.resolvedAt = none → second.resolvedAt = none →
    first.laneId = second.laneId → first = second

theorem openHold_eq_some {laneId : String} {hold : HoldRow} (opened : run.openHold laneId = some hold) :
    hold ∈ run.holds ∧ hold.laneId = laneId ∧ hold.resolvedAt = none := by
  have meets := List.find?_some opened
  unfold HoldRow.isOpenOn at meets
  simp only [Bool.and_eq_true, decide_eq_true_eq, Option.isNone_iff_eq_none] at meets
  exact ⟨List.mem_of_find?_eq_some opened, meets⟩

theorem openHold_of_mem (apart : HoldsApart run) {hold : HoldRow} (member : hold ∈ run.holds)
    (unresolved : hold.resolvedAt = none) : run.openHold hold.laneId = some hold := by
  cases found : run.openHold hold.laneId with
  | none =>
    have absent := List.find?_eq_none.mp found hold member
    simp [HoldRow.isOpenOn, unresolved] at absent
  | some other =>
    obtain ⟨stored, lane, open_⟩ := openHold_eq_some found
    rw [apart other stored hold member open_ unresolved lane]

theorem isHeld_iff {attempt : AttemptRow} : run.isHeld attempt = true ↔
    ∃ hold, run.openHold attempt.laneId = some hold ∧ attempt.requestId ∈ hold.heldUnresolved := by
  unfold ReliabilityRun.isHeld
  rw [Option.any_eq_true]
  simp only [List.contains_iff_mem]

/-- The holds after a request has left one. -/
theorem mem_holds_leaveHold {hold other : HoldRow} {requestId : String} {controlState : ControlState}
    {now : ℤ} : other ∈ (run.leaveHold hold requestId controlState now).holds ↔
      other = { hold with
        heldUnresolved := hold.heldUnresolved.filter (· ≠ requestId)
        resolvedAt := if hold.heldUnresolved.filter (· ≠ requestId) = [] then some now
          else hold.resolvedAt } ∨
      (other ∈ run.holds ∧ Keyed.key other ≠ Keyed.key hold) := by
  unfold ReliabilityRun.leaveHold
  dsimp only
  by_cases nobody : hold.heldUnresolved.filter (· ≠ requestId) = []
  · rw [if_neg (not_not.mpr nobody), if_pos nobody, nobody]
    exact Table.mem_put
  · rw [if_pos nobody, if_neg nobody]
    exact Table.mem_put

/-- Whoever is held after a request has left was held before, and it is not that request. -/
theorem isHeld_leaveHold (apart : HoldsApart run) {hold : HoldRow} {requestId : String}
    {controlState : ControlState} {now : ℤ} {attempt : AttemptRow}
    (opened : run.openHold hold.laneId = some hold)
    (held : (run.leaveHold hold requestId controlState now).isHeld attempt = true) :
    run.isHeld attempt = true ∧ (attempt.laneId = hold.laneId → attempt.requestId ≠ requestId) := by
  obtain ⟨stored, _, unresolved⟩ := openHold_eq_some opened
  obtain ⟨other, found, listed⟩ := isHeld_iff.mp held
  obtain ⟨member, lane, open_⟩ := openHold_eq_some found
  rcases mem_holds_leaveHold.mp member with rfl | ⟨before, different⟩
  · simp only [ne_eq, List.mem_filter, decide_eq_true_eq] at listed
    refine ⟨isHeld_iff.mpr ⟨hold, ?_, listed.1⟩, fun _ => ?_⟩
    · rw [← lane]
      exact opened
    · simpa using listed.2
  · refine ⟨isHeld_iff.mpr ⟨other, ?_, listed⟩, fun same => absurd ?_ different⟩
    · rw [← lane]
      exact openHold_of_mem apart before open_
    · rw [apart other before hold stored open_ unresolved (lane.trans same)]

/-- What `removeTerminalHeldMemberLocked` does. -/
theorem removeTerminalHeldMemberLocked_eq_ok {laneId requestId : String} {controlState : ControlState}
    {now : ℤ} {left : Option ReliabilityRun.LeftHold}
    (accepted : run.removeTerminalHeldMemberLocked laneId requestId controlState now = .ok (left, after)) :
    (left = none ∧ after = run ∧
      ∀ hold, run.openHold laneId = some hold → requestId ∉ hold.heldUnresolved) ∨
    ∃ hold, run.openHold hold.laneId = some hold ∧ hold.laneId = laneId ∧
      requestId ∈ hold.heldUnresolved ∧ run.isTerminalOn laneId requestId = true ∧
      left.isSome = true ∧ after = run.leaveHold hold requestId controlState now := by
  unfold ReliabilityRun.removeTerminalHeldMemberLocked at accepted
  split at accepted
  · next absent =>
    cases accepted
    refine .inl ⟨rfl, rfl, fun hold opened listed => ?_⟩
    rw [opened] at absent
    simp [Option.filter, listed] at absent
  · next hold found =>
    obtain ⟨opened, listed⟩ := (Option.filter_eq_some_iff ..).mp found
    simp only [bind_unit_eq_ok, require_eq_ok] at accepted
    obtain ⟨terminal, accepted⟩ := accepted
    cases accepted
    obtain ⟨_, lane, _⟩ := openHold_eq_some opened
    exact .inr ⟨hold, by rw [lane]; exact opened, lane, List.contains_iff_mem.mp listed, terminal, rfl, rfl⟩

theorem leaveHold_quiet (run : ReliabilityRun) (hold : HoldRow) (requestId : String)
    (controlState : ControlState) (now : ℤ) :
    Quiet run (run.leaveHold hold requestId controlState now) := by
  unfold ReliabilityRun.leaveHold
  dsimp only
  split <;> exact ⟨rfl, rfl, rfl, rfl, rfl, rfl, rfl, rfl, rfl, id⟩

/-- A request may leave its hold before it is classified. -/
theorem leaveHold_apply (classification : Classification run) (hold : HoldRow) (requestId : String)
    (controlState : ControlState) (now : ℤ) :
    classification.apply.leaveHold hold requestId controlState now =
      (classification.transport (leaveHold_quiet run hold requestId controlState now)).apply := by
  unfold ReliabilityRun.leaveHold Classification.apply
  dsimp only
  split <;> rfl

/-- A request leaves the open hold of a lane, if it is listed there. -/
inductive Leaves (run rows after : ReliabilityRun) (laneId requestId : String) : Prop
  | absent (same : after = rows)
    (unlisted : ∀ hold, run.openHold laneId = some hold → requestId ∉ hold.heldUnresolved)
  | leave (hold : HoldRow) (controlState : ControlState) (now : ℤ)
    (opened : run.openHold hold.laneId = some hold) (lane : hold.laneId = laneId)
    (listed : requestId ∈ hold.heldUnresolved)
    (left : after = rows.leaveHold hold requestId controlState now)

theorem leaves_of_removed {rows : ReliabilityRun} {laneId requestId : String}
    {controlState : ControlState} {now : ℤ} {left : Option ReliabilityRun.LeftHold}
    (holds : rows.holds = run.holds)
    (accepted : rows.removeTerminalHeldMemberLocked laneId requestId controlState now =
      .ok (left, after)) : Leaves run rows after laneId requestId := by
  have same : ∀ lane, rows.openHold lane = run.openHold lane := by
    intro lane
    unfold ReliabilityRun.openHold
    rw [holds]
  rcases removeTerminalHeldMemberLocked_eq_ok accepted with
    ⟨_, unchanged, absent⟩ | ⟨hold, opened, lane, listed, _, _, leaves⟩
  · exact .absent unchanged fun hold opened => absent hold ((same laneId).trans opened)
  · exact .leave hold controlState now ((same _).symm.trans opened) lane listed leaves

/-- An attempt is classified, and leaves the hold it may be in. -/
theorem settle_effects (apart : HoldsApart run) (classification : Classification run)
    {laneId requestId : String} (only : ∀ attempt ∈ run.attempts, classification.chosen attempt = true →
      attempt.requestId = requestId ∧ attempt.laneId = laneId)
    (leaves : Leaves run classification.apply after laneId requestId) : Effects faults run after := by
  cases leaves with
  | absent same unlisted =>
    rw [same]
    refine .of_rows (.classify classification fun attempt member chosen held => ?_)
    obtain ⟨own, onLane⟩ := only attempt member chosen
    obtain ⟨hold, opened, listed⟩ := isHeld_iff.mp held
    rw [onLane] at opened
    rw [own] at listed
    exact absurd listed (unlisted hold opened)
  | leave hold controlState now opened lane listed left =>
    rw [left, leaveHold_apply]
    have leaves : Effects faults run (run.leaveHold hold requestId controlState now) :=
      .of_hold (.leave hold requestId controlState now opened listed)
    refine leaves.trans (Effects.of_rows (.classify _ fun attempt member chosen held => ?_))
    have before : attempt ∈ run.attempts := by
      rw [← (leaveHold_quiet run hold requestId controlState now).attempts]
      exact member
    obtain ⟨own, onLane⟩ := only attempt before chosen
    exact absurd own ((isHeld_leaveHold apart opened held).2 (onLane.trans lane.symm))

theorem isUndispatched_congr {attempt : AttemptRow}
    (tokens : after.dispatchTokens = run.dispatchTokens)
    (barriers : after.burstBarriers = run.burstBarriers) :
    after.isUndispatched attempt = run.isUndispatched attempt := by
  unfold ReliabilityRun.isUndispatched ReliabilityRun.isLive ReliabilityRun.isReleased
  rw [tokens, barriers]

/-- An attempt that is stranded once another one is settled would have been before. -/
theorem strandsMember_of_settled (run after : ReliabilityRun) {requestId : String}
    (rows : ∀ attempt ∈ after.attempts, attempt.gateClassifiedAt = none →
      attempt ∈ run.attempts ∧ attempt.requestId ≠ requestId)
    (held : ∀ attempt, after.isHeld attempt = true → run.isHeld attempt = true)
    (undispatched : ∀ attempt : AttemptRow, attempt.requestId ≠ requestId →
      after.isUndispatched attempt = true → run.isUndispatched attempt = true)
    (strands : after.strandsMember none = true) : run.strandsMember (some requestId) = true := by
  obtain ⟨attempt, member, stranded⟩ := List.any_eq_true.mp strands
  simp only [Bool.and_eq_true, decide_eq_true_eq] at stranded
  obtain ⟨⟨still, stopped⟩, _⟩ := stranded
  have open_ : attempt.gateClassifiedAt = none := by
    unfold ReliabilityRun.isUndispatched at stopped
    rw [Bool.and_eq_true] at stopped
    exact Option.isNone_iff_eq_none.mp stopped.1
  obtain ⟨before, other⟩ := rows attempt member open_
  exact strandsMember_of before (held attempt still) (undispatched attempt other stopped)
    fun same => other (Option.some.inj same)

/-- What is not classified after a classification was there before, under another id. -/
theorem Classification.mem_apply_open (classification : Classification run) {requestId : String}
    (picked : ∃ attempt ∈ run.attempts, attempt.requestId = requestId ∧
      classification.chosen attempt = true) {attempt : AttemptRow}
    (member : attempt ∈ classification.apply.attempts) (open_ : attempt.gateClassifiedAt = none) :
    attempt ∈ run.attempts ∧ attempt.requestId ≠ requestId := by
  obtain ⟨old, before, rewritten⟩ := classification.mem_apply.mp member
  by_cases chosen : classification.chosen old = true
  · rw [if_pos chosen] at rewritten
    have gate := (classification.ends old before chosen).gate
    rw [rewritten, open_] at gate
    cases gate
  · rw [if_neg chosen] at rewritten
    subst rewritten
    refine ⟨before, fun same => ?_⟩
    obtain ⟨settled, stored, own, meets⟩ := picked
    exact chosen (Table.eq_of_key before stored (same.trans own.symm) ▸ meets)

/-- What a settled request leaves is what was there before. -/
theorem settled_rows (apart : HoldsApart run) (classification : Classification run)
    {laneId requestId : String} (leaves : Leaves run classification.apply after laneId requestId) :
    Quiet classification.apply after ∧
      ∀ attempt, after.isHeld attempt = true → run.isHeld attempt = true := by
  cases leaves with
  | absent same unlisted =>
    subst same
    exact ⟨.refl _, fun _ => id⟩
  | leave hold controlState now opened lane listed left =>
    subst left
    exact ⟨leaveHold_quiet classification.apply hold requestId controlState now, fun attempt still =>
      (isHeld_leaveHold (show HoldsApart classification.apply from apart) opened still).1⟩

/-- What `enterLaneHoldLocked` does. -/
theorem enterLaneHoldLocked_effects {laneId requestId drawn : String} {entered : ReliabilityRun.EnteredHold}
    (accepted : run.enterLaneHoldLocked laneId requestId drawn = .ok (entered, after))
    (timely : run.isLateMember laneId requestId = true → faults.joinsLate) :
    Effects faults run after := by
  unfold ReliabilityRun.enterLaneHoldLocked at accepted
  simp only [bind_unit_eq_ok, require_eq_ok] at accepted
  obtain ⟨going, accepted⟩ := accepted
  split at accepted
  · next hold opened =>
    obtain ⟨_, lane, _⟩ := openHold_eq_some opened
    split at accepted
    · cases accepted
      exact .refl
    · next absent =>
      cases accepted
      refine .of_hold (.join hold requestId (by rw [lane]; exact opened) (by simpa using absent)
        (by rw [lane]; exact going) fun row member own resolved => timely ?_)
      unfold ReliabilityRun.isLateMember
      rw [opened, Option.any_some, Bool.and_eq_true]
      refine ⟨by simpa using absent, List.any_eq_true.mpr ⟨row, member, ?_⟩⟩
      rw [own, resolved]
      rfl
  · next noneOpen =>
    simp only [bind_unit_eq_ok, require_eq_ok, Bool.and_eq_true, decide_eq_true_eq] at accepted
    obtain ⟨inside, ⟨fresh, distinct⟩, accepted⟩ := accepted
    cases accepted
    refine .of_hold (.create laneId drawn _ noneOpen fresh ?_ distinct fun member listed => ?_)
    · intro nobody
      rw [nobody] at inside
      cases inside
    · unfold ReliabilityRun.membersOfNewHold at listed
      dsimp only at listed
      split at listed
      · rw [List.mem_singleton.mp listed]
        exact going
      · exact (List.mem_filter.mp listed).2

end Parts

end FuseControlPlane.Reliability
