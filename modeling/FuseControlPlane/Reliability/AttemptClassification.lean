/-
Attempts are classified once.

* `ClassifiedOnce`: what a later run says of the attempts that an earlier one has classified.
* `attempt_classified_once`: **no transaction changes a classified attempt, or enters the token of one that
  was not dispatched**, as long as none enters the token of a terminal attempt.
* `not_attempt_classified_once`: `markReliabilityDispatchPrimitiveEntered` looks at the token only. An
  attempt that was classified with its token uncanceled can still be entered, and is then no longer
  classified as it was.
-/

import FuseControlPlane.Reliability.ProtocolInvariants

set_option linter.unusedSectionVars false

namespace FuseControlPlane.Reliability

open Foundation Foundation.JavaScript Domain Evidence

/-- A transaction enters the token of a terminal attempt. -/
def ReliabilityRun.entersTerminal (run : ReliabilityRun) (op : ProtocolOp) : Bool :=
  run.entersAny (fun attempt => attempt.terminalAt.isSome) op

/-- What a run has classified stays as it is in a later one. -/
structure ClassifiedOnce (before after : ReliabilityRun) : Prop where
  unchanged : ∀ attempt ∈ before.attempts, attempt.terminalAt.isSome = true →
    ∃ later, after.attempts.find? attempt.requestId = some later ∧ later.state = attempt.state ∧
      later.actualCostMicros = attempt.actualCostMicros ∧
      later.responseCommitment = attempt.responseCommitment
  unentered : ∀ attempt ∈ before.attempts, attempt.state = .notDispatched →
    after.isEntered attempt.requestId = false

section Laws

variable {faults : Faults} {run after : ReliabilityRun}

/-! ### One write -/

/-- The terminal attempts and what is entered of their tokens are kept. -/
def KeepsTerminal (run after : ReliabilityRun) : Prop :=
  ∀ attempt ∈ run.attempts, attempt.terminalAt.isSome = true →
    attempt ∈ after.attempts ∧ after.isEntered attempt.requestId = run.isEntered attempt.requestId

theorem KeepsTerminal.refl (run : ReliabilityRun) : KeepsTerminal run run :=
  fun _ member _ => ⟨member, rfl⟩

theorem KeepsTerminal.trans {third : ReliabilityRun} (earlier : KeepsTerminal run after)
    (later : KeepsTerminal after third) : KeepsTerminal run third := by
  intro attempt member terminal
  obtain ⟨still, same⟩ := earlier attempt member terminal
  obtain ⟨stays, again⟩ := later attempt still terminal
  exact ⟨stays, again.trans same⟩

theorem keepsTerminal_of_same (attempts : after.attempts = run.attempts)
    (tokens : after.dispatchTokens = run.dispatchTokens) : KeepsTerminal run after := by
  intro attempt member _
  unfold ReliabilityRun.isEntered
  rw [attempts, tokens]
  exact ⟨member, rfl⟩

/-- An update of attempts that are not terminal. -/
theorem keepsTerminal_of_update (chosen : AttemptRow → Bool) (rewrite : AttemptRow → AttemptRow)
    (keeps : ∀ row, (rewrite row).requestId = row.requestId)
    (attempts : after.attempts = (run.updateAttempts chosen rewrite keeps).attempts)
    (tokens : after.dispatchTokens = run.dispatchTokens)
    (open_ : ∀ attempt ∈ run.attempts, chosen attempt = true → attempt.terminalAt = none) :
    KeepsTerminal run after := by
  intro attempt member terminal
  have spared : ¬ chosen attempt = true := by
    intro here
    rw [open_ attempt member here] at terminal
    cases terminal
  unfold ReliabilityRun.isEntered
  rw [attempts, tokens, mem_updateAttempts]
  exact ⟨⟨attempt, member, if_neg spared⟩, rfl⟩

theorem keepsTerminal_plan {sealed : SealedCallRow}
    (absent : run.attempts.find? sealed.requestId = none) :
    KeepsTerminal run { run with attempts := run.attempts.put sealed.plannedAttempt } := by
  intro attempt member _
  refine ⟨Table.mem_put.mpr (.inr ⟨member, fun same => ?_⟩), rfl⟩
  exact Table.find?_eq_none.mp absent attempt member same

theorem keepsTerminal_admitAttempt (sound : AttemptsSound run) (input : RecordAttemptInput) (now : ℤ) :
    KeepsTerminal run
      (run.updateAttempts (run.isAdmissible input) (run.admitAttempt input now) fun _ => rfl) := by
  refine keepsTerminal_of_update (run.isAdmissible input) (run.admitAttempt input now) (fun _ => rfl) rfl rfl
    fun attempt member chosen => ?_
  refine ((sound.agree attempt member).early ?_).1
  unfold ReliabilityRun.isAdmissible at chosen
  simp only [Bool.and_eq_true] at chosen
  exact chosen.1.2

theorem keepsTerminal_issue (sound : AttemptsSound run) {input : AuthorizeDispatchInput} (drawn : String)
    (dispatchable : run.attempts.rows.any (run.isDispatchable input) = true) :
    KeepsTerminal run (run.issueToken input drawn) := by
  obtain ⟨own, found, _, _, admitted⟩ := isEarly_of_dispatchable dispatchable
  intro attempt member terminal
  have other : attempt.requestId ≠ input.requestId := by
    intro same
    have stored := Table.find?_of_mem member
    rw [show Keyed.key attempt = input.requestId from same, found] at stored
    have early : own.isEarly = true := by simp [AttemptRow.isEarly, admitted]
    rw [← Option.some.inj stored, ((sound.agree own (Table.mem_of_find? found)).early early).1] at terminal
    cases terminal
  refine ⟨mem_attempt_issueToken.mpr ⟨attempt, member, if_neg other⟩, ?_⟩
  unfold ReliabilityRun.isEntered
  rw [show (run.issueToken input drawn).dispatchTokens.find? attempt.requestId =
    run.dispatchTokens.find? attempt.requestId from Table.find?_put_of_ne _ other]

theorem keepsTerminal_enter {requestId : String} (now : ℤ)
    (open_ : ∀ attempt, run.attempts.find? requestId = some attempt → attempt.terminalAt = none) :
    KeepsTerminal run (run.markEntered requestId now) := by
  intro attempt member terminal
  have other : attempt.requestId ≠ requestId := by
    rintro rfl
    rw [open_ attempt (Table.find?_of_mem member)] at terminal
    cases terminal
  refine ⟨mem_attempt_markEntered.mpr ⟨attempt, member, if_neg other⟩, ?_⟩
  unfold ReliabilityRun.isEntered
  rw [find_token_markEntered]
  cases found : run.dispatchTokens.find? attempt.requestId with
  | none => rfl
  | some token =>
    have own : token.requestId = attempt.requestId := Table.key_of_find? found
    rw [Option.map_some, if_neg (own ▸ other)]

theorem keepsTerminal_cancelTokens (run : ReliabilityRun) (chosen : DispatchTokenRow → Bool)
    (canceledAt : DispatchTokenRow → Option ℤ) : KeepsTerminal run (run.cancelTokens chosen canceledAt) := by
  intro attempt member _
  refine ⟨member, ?_⟩
  unfold ReliabilityRun.isEntered ReliabilityRun.cancelTokens
  rw [find_updateTokens]
  cases run.dispatchTokens.find? attempt.requestId with
  | none => rfl
  | some token =>
    rw [Option.map_some, Option.any_some, Option.any_some]
    split <;> rfl

/-- No write but an entry touches a terminal attempt. -/
theorem keepsTerminal_effect (sound : AttemptsSound run)
    (open_ : ∀ attempt, faults.enters attempt → attempt.terminalAt = none)
    (effect : Effect faults run after) : KeepsTerminal run after := by
  cases effect with
  | quiet others holds => exact keepsTerminal_of_same others.attempts others.dispatchTokens
  | hold effect => exact keepsTerminal_of_same effect.quiet.attempts effect.quiet.dispatchTokens
  | rows effect =>
    cases effect with
    | note entries plain => exact keepsTerminal_of_same rfl rfl
    | insertSealed sealed absent free => exact keepsTerminal_of_same rfl rfl
    | plan sealed stored absent => exact keepsTerminal_plan absent
    | admitAttempt input now active => exact keepsTerminal_admitAttempt sound input now
    | issue input drawn active absent allowed below dispatchable =>
      exact keepsTerminal_issue sound drawn dispatchable
    | enter requestId now token found enterable allowed =>
      exact keepsTerminal_enter now fun attempt stored => open_ attempt (allowed attempt stored)
    | pend chosen ambiguityEnteredAt generationId unclassified =>
      exact keepsTerminal_of_update chosen
        (fun attempt =>
          { attempt with
            state := .reconciliationPending
            ambiguityEnteredAt := ambiguityEnteredAt attempt
            providerGenerationId := generationId attempt })
        (fun _ => rfl) rfl rfl fun attempt member here =>
        (sound.agree attempt member).terminalAt_of_isOpen (unclassified attempt member here)
    | classify classification released =>
      exact keepsTerminal_of_update _ _ classification.keeps rfl rfl fun attempt member here =>
        (sound.agree attempt member).terminalAt_of_isOpen
          (classification.unclassified attempt member here)
    | cancelTokens chosen canceledAt canceled ended unentered =>
      exact keepsTerminal_cancelTokens run chosen canceledAt
    | createBarrier laneId block requestIds absent => exact keepsTerminal_of_same rfl rfl
    | release barrier now active found ready => exact keepsTerminal_of_same rfl rfl
    | cancelBarriers now ended => exact keepsTerminal_of_same rfl rfl

/-! ### Runs -/

section Runs

variable [NodeCrypto] [Collation] [ProtocolProfiles]

/-- A run that enters no terminal attempt keeps the terminal ones. -/
theorem keepsTerminal_run {ops : List ProtocolOp} (sound : AttemptsSound run) (apart : HoldsApart run)
    (along : Along ReliabilityRun.protocolStep (fun run op => run.entersTerminal op = false) run ops) :
    KeepsTerminal run (Foundation.run ReliabilityRun.protocolStep run ops) := by
  have within : ∀ (state : ReliabilityRun) (op : ProtocolOp), state.entersTerminal op = false →
      ∀ attempt, (faultsOf state op).enters attempt → attempt.terminalAt = none := by
    intro state op spares attempt enters
    cases terminal : attempt.terminalAt with
    | none => rfl
    | some endedAt =>
      have touches : state.entersTerminal op = true :=
        ReliabilityRun.entersAny_of_entersWith enters (by rw [terminal]; rfl)
      rw [spares] at touches
      cases touches
  exact (protocolRun_keeps (fun now => AttemptsSound now ∧ KeepsTerminal run now) _ _ within
    (fun open_ held effect => ⟨attemptsSound_effect held.1 effect,
      held.2.trans (keepsTerminal_effect held.1 open_ effect)⟩)
    along apart ⟨sound, .refl run⟩).1.2

/-- The attempts of every run agree with its tokens. -/
theorem attemptsSound_run (ops : List ProtocolOp) (sound : AttemptsSound run) (apart : HoldsApart run) :
    AttemptsSound (Foundation.run ReliabilityRun.protocolStep run ops) ∧
      HoldsApart (Foundation.run ReliabilityRun.protocolStep run ops) :=
  protocolRun_keeps AttemptsSound (fun _ => True) (fun _ _ => True) (fun _ _ _ => trivial)
    (fun _ held effect => attemptsSound_effect held effect) (Along.of_forall fun _ _ _ => trivial)
    apart sound

end Runs

end Laws

section Main

variable [NodeCrypto] [Collation] [ProtocolProfiles]

/-- **Classification is write-once**: along every run that enters no token of a terminal attempt, a terminal
attempt keeps its state, its cost and its response, and the token of an attempt that was not dispatched is
not entered. -/
theorem attempt_classified_once (runId : String) (profile : ReliabilityProtocolProfile)
    (planFingerprint : String) (reconciliationCredentialId : Option String) (laneIds : List String)
    (earlier later : List ProtocolOp)
    (spares : Along ReliabilityRun.protocolStep (fun run op => run.entersTerminal op = false)
      (.initialRun runId profile planFingerprint reconciliationCredentialId laneIds) (earlier ++ later)) :
    ClassifiedOnce
      (Foundation.run ReliabilityRun.protocolStep
        (.initialRun runId profile planFingerprint reconciliationCredentialId laneIds) earlier)
      (Foundation.run ReliabilityRun.protocolStep
        (.initialRun runId profile planFingerprint reconciliationCredentialId laneIds)
        (earlier ++ later)) := by
  obtain ⟨sound, apart⟩ := attemptsSound_run earlier
    (attemptsSound_initialRun runId profile planFingerprint reconciliationCredentialId laneIds)
    (holdsApart_initialRun runId profile planFingerprint reconciliationCredentialId laneIds)
  have keeps := keepsTerminal_run sound apart (Along.append.mp spares).2
  rw [Foundation.run_append]
  refine ⟨fun attempt member terminal => ?_, fun attempt member undispatched => ?_⟩
  · exact ⟨attempt, Table.find?_of_mem (keeps attempt member terminal).1, rfl, rfl, rfl⟩
  · have agree := sound.agree attempt member
    rw [(keeps attempt member (agree.classified (by rw [undispatched]; rfl))).2]
    exact agree.undispatched undispatched

end Main

/-! ### An attempt that is entered after its classification -/

namespace Sample

@[reducible] def crypto : NodeCrypto := ⟨fun text => text⟩

@[reducible] def collation : Collation := ⟨fun _ _ => 0⟩

/-- A run with the two lanes. -/
def initialized : ReliabilityRun :=
  letI := profiles
  .initialRun "run-1" (ProtocolVersion.profile .v2) "plan" none ["normal-paced", "bounded-burst"]

/-- A call of a lane. -/
def sealedCall (requestId laneId : String) (callOrdinal : ℤ) : SealedCallRow where
  requestId := requestId
  block := 1
  laneId := laneId
  callOrdinal := callOrdinal
  bodyCommitment := "body"
  organizationId := "organization"
  agentId := "agent"
  credentialId := "credential"
  mandateId := "mandate"
  branchId := "branch"
  workloadClass := "standard"
  provider := "openrouter"
  model := "model"
  maxOutputTokens := 64
  reservationCostMicros := 5000
  claimFingerprint := "plan"
  requestCommitment := "commitment"

def record (requestId laneId : String) : ProtocolOp :=
  .recordAttempt ⟨requestId, laneId, 1, "commitment", 5000⟩ 1000

def authorize (requestId laneId tokenId : String) : ProtocolOp :=
  .authorizeReliabilityDispatch ⟨requestId, laneId, 1, "agent"⟩ tokenId 2000

def enter (requestId tokenId : String) : ProtocolOp :=
  .markReliabilityDispatchPrimitiveEntered requestId tokenId 3000

def classify (requestId laneId : String) : ProtocolOp :=
  .classifyReliabilityNotDispatched ⟨laneId, requestId, "CANCELED"⟩ 4000

/-- A call is authorized, and classified before it is dispatched. -/
def classified : List ProtocolOp :=
  [.registerSealedCalls [sealedCall "call-1" "normal-paced" 1], record "call-1" "normal-paced",
    authorize "call-1" "normal-paced" "token-1", classify "call-1" "normal-paced"]

/-- Once it is classified the call is classified and recovered again. -/
def retried : List ProtocolOp :=
  [classify "call-1" "normal-paced", .recoverPreEntryDispatch ⟨"normal-paced", "call-1", "LOST"⟩ 5000]

/-- The run after some transactions. -/
def ran (ops : List ProtocolOp) : ReliabilityRun :=
  letI := crypto
  letI := collation
  letI := profiles
  Foundation.run ReliabilityRun.protocolStep initialized ops

theorem retried_spares :
    letI := crypto
    letI := collation
    letI := profiles
    Along ReliabilityRun.protocolStep (fun run op => run.entersTerminal op = false) initialized
      (classified ++ retried) := by
  decide +kernel

/-- The call is classified, and then entered all the same. -/
theorem entered_after_classification :
    ((ran classified).attempts.find? "call-1").any (fun attempt =>
        attempt.state = .notDispatched && attempt.terminalAt.isSome) = true ∧
      ((ran (classified ++ [enter "call-1" "token-1"])).attempts.find? "call-1").any (fun attempt =>
        attempt.state = .primitiveEntered) = true := by
  decide +kernel

end Sample

theorem attempt_classified_once_retried : ClassifiedOnce (Sample.ran Sample.classified)
    (Sample.ran (Sample.classified ++ Sample.retried)) :=
  letI := Sample.crypto
  letI := Sample.collation
  letI := Sample.profiles
  attempt_classified_once _ _ _ _ _ Sample.classified Sample.retried Sample.retried_spares

/-- **A classified attempt that is entered.** -/
theorem not_attempt_classified_once : ¬ ClassifiedOnce (Sample.ran Sample.classified)
    (Sample.ran (Sample.classified ++ [Sample.enter "call-1" "token-1"])) := by
  intro once
  obtain ⟨before, after⟩ := Sample.entered_after_classification
  rw [Option.any_eq_true] at before after
  obtain ⟨attempt, stored, classified⟩ := before
  obtain ⟨entered, found, moved⟩ := after
  simp only [Bool.and_eq_true, decide_eq_true_eq] at classified moved
  obtain ⟨later, there, same, _⟩ := once.unchanged attempt (Table.mem_of_find? stored) classified.2
  rw [show attempt.requestId = "call-1" from Table.key_of_find? stored, found] at there
  cases there
  rw [moved, classified.1] at same
  cases same

end FuseControlPlane.Reliability
