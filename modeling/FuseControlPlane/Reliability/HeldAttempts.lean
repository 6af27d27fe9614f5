/-
Attempts of the open holds.

* `TerminalLeave`: no terminal attempt is listed in an open hold.
* `terminal_attempts_leave`: **terminal attempts leave their hold** in every run whose transactions strand no
  attempt.
* `not_terminal_attempts_leave`: hard finalization, like a failure of the run and a recovery before the entry,
  classifies attempts where they are, and leaves the holds of their lanes open.
-/

import FuseControlPlane.Reliability.HoldMembers

set_option linter.unusedSectionVars false

namespace FuseControlPlane.Reliability

open Foundation Foundation.JavaScript Domain Evidence

/-- No terminal attempt is listed in an open hold, so a hold whose members are all terminal is resolved. -/
structure TerminalLeave (run : ReliabilityRun) : Prop where
  leave : ∀ hold ∈ run.holds, hold.resolvedAt = none → ∀ requestId ∈ hold.heldUnresolved,
    ∀ attempt, run.attempts.find? requestId = some attempt → attempt.terminalAt = none
  resolved : ∀ hold ∈ run.holds,
    (∀ requestId ∈ hold.heldUnresolved, run.isTerminalOn hold.laneId requestId = true) →
      hold.resolvedAt.isSome = true

/-- An open hold lists some attempts of its lane, and none of them is terminal. -/
def HeldGoing (run : ReliabilityRun) : Prop :=
  ∀ hold ∈ run.holds, hold.resolvedAt = none → hold.heldUnresolved ≠ [] ∧
    ∀ requestId ∈ hold.heldUnresolved, run.isActiveOn hold.laneId requestId = true

section Laws

variable {faults : Faults} {run after : ReliabilityRun}

theorem isActiveOn_iff {laneId requestId : String} : run.isActiveOn laneId requestId = true ↔
    ∃ attempt, run.attempts.find? requestId = some attempt ∧ attempt.laneId = laneId ∧
      attempt.terminalAt = none := by
  unfold ReliabilityRun.isActiveOn
  rw [Option.any_eq_true]
  simp only [Bool.and_eq_true, decide_eq_true_eq, Option.isNone_iff_eq_none]

theorem terminalLeave_of (going : HeldGoing run) : TerminalLeave run := by
  constructor
  · intro hold member unresolved requestId listed attempt found
    obtain ⟨stored, same, _, unended⟩ := isActiveOn_iff.mp ((going hold member unresolved).2 _ listed)
    rw [found] at same
    cases same
    exact unended
  · intro hold member ended
    cases unresolved : hold.resolvedAt with
    | some resolvedAt => rfl
    | none =>
      obtain ⟨inhabited, active⟩ := going hold member unresolved
      obtain ⟨requestId, listed⟩ := List.exists_mem_of_ne_nil _ inhabited
      obtain ⟨attempt, found, _, unended⟩ := isActiveOn_iff.mp (active requestId listed)
      have terminal := ended requestId listed
      unfold ReliabilityRun.isTerminalOn at terminal
      rw [found, Option.any_some, Bool.and_eq_true, unended] at terminal
      cases terminal.2

/-! ### Attempts -/

/-- The holds stay and so do the attempts they list. -/
theorem heldGoing_of_active (going : HeldGoing run) (holds : after.holds = run.holds)
    (active : ∀ hold ∈ run.holds, hold.resolvedAt = none → ∀ requestId ∈ hold.heldUnresolved,
      run.isActiveOn hold.laneId requestId = true → after.isActiveOn hold.laneId requestId = true) :
    HeldGoing after := by
  intro hold member unresolved
  rw [holds] at member
  obtain ⟨inhabited, still⟩ := going hold member unresolved
  exact ⟨inhabited, fun requestId listed =>
    active hold member unresolved requestId listed (still requestId listed)⟩

theorem heldGoing_of_same (going : HeldGoing run) (holds : after.holds = run.holds)
    (attempts : after.attempts = run.attempts) : HeldGoing after := by
  refine heldGoing_of_active going holds fun hold _ _ requestId _ active => ?_
  unfold ReliabilityRun.isActiveOn
  rw [attempts]
  exact active

/-- Attempts that are rewritten without ending them. -/
theorem heldGoing_of_update (going : HeldGoing run) (chosen : AttemptRow → Bool)
    (rewrite : AttemptRow → AttemptRow) (keeps : ∀ row, (rewrite row).requestId = row.requestId)
    (holds : after.holds = run.holds)
    (attempts : after.attempts = (run.updateAttempts chosen rewrite keeps).attempts)
    (same : ∀ attempt, (rewrite attempt).laneId = attempt.laneId ∧
      (rewrite attempt).terminalAt = attempt.terminalAt) : HeldGoing after := by
  refine heldGoing_of_active going holds fun hold _ _ requestId _ active => ?_
  obtain ⟨attempt, found, lane, unended⟩ := isActiveOn_iff.mp active
  refine isActiveOn_iff.mpr ⟨if chosen attempt then rewrite attempt else attempt, ?_, ?_, ?_⟩
  · rw [attempts, find_updateAttempts, found]
    rfl
  · split
    · rw [(same attempt).1, lane]
    · exact lane
  · split
    · rw [(same attempt).2, unended]
    · exact unended

theorem heldGoing_plan (going : HeldGoing run) {sealed : SealedCallRow}
    (absent : run.attempts.find? sealed.requestId = none) :
    HeldGoing { run with attempts := run.attempts.put sealed.plannedAttempt } := by
  refine heldGoing_of_active going rfl fun hold _ _ requestId _ active => ?_
  obtain ⟨attempt, found, lane, unended⟩ := isActiveOn_iff.mp active
  refine isActiveOn_iff.mpr ⟨attempt, ?_, lane, unended⟩
  rw [← found]
  refine Table.find?_put_of_ne _ fun same => ?_
  rw [show requestId = sealed.requestId from same, absent] at found
  cases found

/-- Attempts that are classified in no hold. -/
theorem heldGoing_classify (apart : HoldsApart run) (going : HeldGoing run)
    (classification : Classification run)
    (spared : ∀ attempt ∈ run.attempts, classification.chosen attempt = true →
      run.isHeld attempt = true → False) : HeldGoing classification.apply := by
  refine heldGoing_of_active going rfl fun hold stored unresolved requestId listed active => ?_
  obtain ⟨attempt, found, lane, unended⟩ := isActiveOn_iff.mp active
  have member := Table.mem_of_find? found
  have held : run.isHeld attempt = true := by
    refine isHeld_iff.mpr ⟨hold, ?_, ?_⟩
    · rw [lane]
      exact openHold_of_mem apart stored unresolved
    · rw [show attempt.requestId = requestId from Table.key_of_find? found]
      exact listed
  have untouched : ¬ classification.chosen attempt = true := fun chosen =>
    spared attempt member chosen held
  refine isActiveOn_iff.mpr ⟨attempt, ?_, lane, unended⟩
  show (run.updateAttempts _ _ classification.keeps).attempts.find? requestId = some attempt
  rw [find_updateAttempts, found, Option.map_some, if_neg untouched]

theorem heldGoing_rows (apart : HoldsApart run) (going : HeldGoing run) (spared : ¬ faults.strands)
    (effect : RowEffect faults run after) : HeldGoing after := by
  cases effect with
  | plan sealed stored absent => exact heldGoing_plan going absent
  | admitAttempt input now active =>
    exact heldGoing_of_update going (run.isAdmissible input) (run.admitAttempt input now) (fun _ => rfl) rfl rfl
      fun _ => ⟨rfl, rfl⟩
  | issue input drawn active absent allowed below dispatchable =>
    exact heldGoing_of_update going (·.requestId = input.requestId)
      ({ · with state := .dispatchAuthorized }) (fun _ => rfl) rfl rfl fun _ => ⟨rfl, rfl⟩
  | enter requestId now token found enterable allowed =>
    exact heldGoing_of_update going (·.requestId = requestId) ({ · with state := .primitiveEntered })
      (fun _ => rfl) rfl rfl fun _ => ⟨rfl, rfl⟩
  | pend chosen ambiguityEnteredAt generationId unclassified =>
    exact heldGoing_of_update going chosen
      (fun attempt =>
        { attempt with
          state := .reconciliationPending
          ambiguityEnteredAt := ambiguityEnteredAt attempt
          providerGenerationId := generationId attempt })
      (fun _ => rfl) rfl rfl fun _ => ⟨rfl, rfl⟩
  | classify classification released =>
    exact heldGoing_classify apart going classification fun attempt member chosen held =>
      spared (released attempt member chosen held)
  | note | insertSealed | cancelTokens | createBarrier | release | cancelBarriers =>
    exact heldGoing_of_same going rfl rfl

/-! ### Holds -/

/-- One hold is written. -/
theorem heldGoing_put (going : HeldGoing run) (hold : HoldRow)
    (attempts : after.attempts = run.attempts) (holds : after.holds = run.holds.put hold)
    (own : hold.resolvedAt = none → hold.heldUnresolved ≠ [] ∧
      ∀ requestId ∈ hold.heldUnresolved, run.isActiveOn hold.laneId requestId = true) :
    HeldGoing after := by
  have same : ∀ laneId requestId,
      after.isActiveOn laneId requestId = run.isActiveOn laneId requestId := by
    intro laneId requestId
    unfold ReliabilityRun.isActiveOn
    rw [attempts]
  intro other member unresolved
  simp only [same]
  rw [holds, Table.mem_put] at member
  rcases member with rfl | ⟨before, _⟩
  · exact own unresolved
  · exact going other before unresolved

theorem heldGoing_hold (going : HeldGoing run) (effect : HoldEffect faults run after) :
    HeldGoing after := by
  cases effect with
  | create laneId holdId members noneOpen fresh inhabited distinct active =>
    exact heldGoing_put going ⟨laneId, holdId, members, none⟩ rfl rfl fun _ => ⟨inhabited, active⟩
  | join hold requestId opened absent active timely =>
    obtain ⟨stored, _, unresolved⟩ := openHold_eq_some opened
    have attempts := (HoldEffect.join hold requestId opened absent active timely).quiet.attempts
    refine heldGoing_put going _ attempts (joinHold_holds run hold requestId) fun _ => ⟨?_, ?_⟩
    · exact List.append_ne_nil_of_right_ne_nil _ (List.cons_ne_nil _ _)
    · intro other listed
      rcases List.mem_append.mp listed with before | own
      · exact (going hold stored unresolved).2 other before
      · rw [List.mem_singleton.mp own]
        exact active
  | leave hold requestId controlState now opened listed =>
    obtain ⟨stored, _, unresolved⟩ := openHold_eq_some opened
    refine heldGoing_put going _ (leaveHold_quiet run hold requestId controlState now).attempts
      (leaveHold_holds run hold requestId controlState now) fun still => ⟨fun nobody => ?_, ?_⟩
    · rw [if_pos nobody] at still
      cases still
    · exact fun other stays => (going hold stored unresolved).2 other (List.mem_filter.mp stays).1
  | mark laneId holdId requestId => exact heldGoing_of_same going rfl rfl

theorem heldGoing_effect (apart : HoldsApart run) (going : HeldGoing run) (spared : ¬ faults.strands)
    (effect : Effect faults run after) : HeldGoing after := by
  cases effect with
  | quiet others holds => exact heldGoing_of_same going holds.holds others.attempts
  | rows effect => exact heldGoing_rows apart going spared effect
  | hold effect => exact heldGoing_hold going effect

end Laws

section Main

variable [NodeCrypto] [Collation] [ProtocolProfiles]

/-- **Terminal attempts leave their hold** along every run whose transactions strand no attempt: none is
listed in an open hold, and a hold whose members are all terminal is resolved. -/
theorem terminal_attempts_leave (runId : String) (profile : ReliabilityProtocolProfile)
    (planFingerprint : String) (reconciliationCredentialId : Option String) (laneIds : List String)
    (ops : List ProtocolOp)
    (spares : Along ReliabilityRun.protocolStep (fun run op => run.strands op = false)
      (.initialRun runId profile planFingerprint reconciliationCredentialId laneIds) ops) :
    TerminalLeave (Foundation.run ReliabilityRun.protocolStep
      (.initialRun runId profile planFingerprint reconciliationCredentialId laneIds) ops) := by
  obtain ⟨_, holds⟩ := initialRun_quiet runId profile planFingerprint reconciliationCredentialId laneIds
  have within : ∀ (state : ReliabilityRun) (op : ProtocolOp), state.strands op = false →
      ¬ (faultsOf state op).strands := by
    intro state op spares stranded
    rw [show state.strands op = true from stranded] at spares
    cases spares
  have apart := holdsApart_initialRun runId profile planFingerprint reconciliationCredentialId laneIds
  refine terminalLeave_of (protocolRun_keeps (fun run => HeldGoing run ∧ HoldsApart run)
    (fun faults => ¬ faults.strands) _ within (fun spared held effect =>
      ⟨heldGoing_effect held.2 held.1 spared effect, holdsApart_effect held.2 effect⟩) spares apart
    ⟨fun hold member => ?_, apart⟩).1.1
  rw [holds.holds] at member
  exact absurd member (Table.not_mem_empty _)

end Main

/-! ### An attempt that is finalized in its hold -/

namespace Sample

/-- The outcome of a call is unknown. -/
def unknown : List ProtocolOp :=
  [.registerSealedCalls [sealedCall "call-1" "normal-paced" 1], record "call-1" "normal-paced",
    authorize "call-1" "normal-paced" "token-1", enter "call-1" "token-1",
    hold "call-1" "normal-paced" "hold-1"]

def finalize : ProtocolOp := .hardFinalizeReliabilityRun 5000 [] 6000

theorem completed_spares :
    letI := crypto
    letI := collation
    letI := profiles
    Along ReliabilityRun.protocolStep (fun run op => run.strands op = false) initialized
      (unknown ++ [complete "call-1" "normal-paced", finalize]) := by
  decide +kernel

/-- The deadline passes while the call is held. -/
theorem finalized_in_hold :
    (ran (unknown ++ [finalize])).holds.rows = [⟨"normal-paced", "hold-1", ["call-1"], none⟩] ∧
      ((ran (unknown ++ [finalize])).attempts.find? "call-1").any (fun attempt =>
        attempt.terminalAt.isSome) = true := by
  decide +kernel

end Sample

theorem terminal_attempts_leave_completed : TerminalLeave (Sample.ran
    (Sample.unknown ++ [Sample.complete "call-1" "normal-paced", Sample.finalize])) :=
  letI := Sample.crypto
  letI := Sample.collation
  letI := Sample.profiles
  terminal_attempts_leave _ _ _ _ _ _ Sample.completed_spares

/-- **A terminal attempt in an open hold.** -/
theorem not_terminal_attempts_leave :
    ¬ TerminalLeave (Sample.ran (Sample.unknown ++ [Sample.finalize])) := by
  intro leaves
  obtain ⟨holds, terminal⟩ := Sample.finalized_in_hold
  rw [Option.any_eq_true] at terminal
  obtain ⟨attempt, found, ended⟩ := terminal
  have unended := leaves.leave ⟨"normal-paced", "hold-1", ["call-1"], none⟩
    (Table.mem_def.mpr (by rw [holds]; exact List.mem_singleton_self _)) rfl "call-1"
    (List.mem_singleton_self _) attempt found
  rw [unended] at ended
  cases ended

end FuseControlPlane.Reliability
