/-
The evidence report sees every row, and no order of rows.

* `Reordered`: two inventories whose lists have the same rows.
* `reduce_reordered`: **they have the same report**.
* `AttemptFacts`: how many rows of each table a request has in an inventory that passes. So the attempts fix
  the length of every table (`Accepted.length_of`), and one row more or less is noticed.
* `Tampered`: a row added, removed or duplicated, or an attempt changed.
* `tampering_fails`: **from an inventory that passes, every such edit makes it fail**.
-/

import FuseControlPlane.Evidence.AuthoritativeEvidence

set_option linter.unusedSectionVars false

namespace FuseControlPlane.Evidence

open Foundation Foundation.JavaScript Core

/-! ### Reordered rows -/

/-- The rows of a request, in another order. -/
structure RequestRows.Reordered (rows others : RequestRows) : Prop where
  executions : rows.executions.Perm others.executions
  decisions : rows.decisions.Perm others.decisions
  tokens : rows.tokens.Perm others.tokens
  queues : rows.queues.Perm others.queues
  evidence : rows.evidence.Perm others.evidence
  reconciliation : rows.reconciliation.Perm others.reconciliation

theorem RequestRows.Reordered.attemptValid {rows others : RequestRows} (reordered : rows.Reordered others)
    (attempt : AuthoritativeAttemptRow) : rows.attemptValid attempt = others.attemptValid attempt := by
  obtain ⟨executions, decisions, tokens, queues, evidence, reconciliation⟩ := reordered
  simp only [RequestRows.attemptValid, RequestRows.behavioralValid, RequestRows.notDispatchedValid,
    RequestRows.unresolvedValid, RequestRows.failedValid, RequestRows.decided, RequestRows.executed,
    RequestRows.entered, hasAcceptedResolution, one_perm executions, one_perm decisions, one_perm tokens,
    one_perm queues, one_perm reconciliation, executions.length_eq, decisions.length_eq, tokens.length_eq,
    queues.length_eq, evidence.length_eq, reconciliation.length_eq]

/-- The same rows in every list, in any order. -/
structure Reordered (input other : AuthoritativeEvidenceInventory) : Prop where
  runId : input.runId = other.runId
  planFingerprint : input.planFingerprint = other.planFingerprint
  requestIds : input.requestIds.Perm other.requestIds
  replayTargetRequestIds : input.replayTargetRequestIds.Perm other.replayTargetRequestIds
  attempts : input.attempts.Perm other.attempts
  executions : input.executions.Perm other.executions
  decisions : input.decisions.Perm other.decisions
  dispatchTokens : input.dispatchTokens.Perm other.dispatchTokens
  shadowQueue : input.shadowQueue.Perm other.shadowQueue
  shadowEvidence : input.shadowEvidence.Perm other.shadowEvidence
  replayAudits : input.replayAudits.Perm other.replayAudits
  authorizationReceipts : input.authorizationReceipts.Perm other.authorizationReceipts
  signedAuthorizations : input.signedAuthorizations.Perm other.signedAuthorizations
  claims : input.claims.Perm other.claims
  manifests : input.manifests.Perm other.manifests
  reconciliation : input.reconciliation.Perm other.reconciliation
  incidents : input.incidents.Perm other.incidents
  settlement : input.settlement = other.settlement
  costs : input.costs = other.costs
  hardFinalization : input.hardFinalization = other.hardFinalization
  artifactPaths : input.artifactPaths.Perm other.artifactPaths

namespace Reordered

/-- Only the attempts have another order. -/
theorem of_attempts {input : AuthoritativeEvidenceInventory} {attempts : List AuthoritativeAttemptRow}
    (perm : input.attempts.Perm attempts) : Reordered input { input with attempts } := by
  constructor
  case attempts => exact perm
  all_goals rfl

theorem refl (input : AuthoritativeEvidenceInventory) : Reordered input input := .of_attempts (.refl _)

variable {input other : AuthoritativeEvidenceInventory} (reordered : Reordered input other)

include reordered

theorem rowsOf (requestId : String) : (input.rowsOf requestId).Reordered (other.rowsOf requestId) where
  executions := rowsFor_perm reordered.executions requestId
  decisions := rowsFor_perm reordered.decisions requestId
  tokens := rowsFor_perm reordered.dispatchTokens requestId
  queues := rowsFor_perm reordered.shadowQueue requestId
  evidence := rowsFor_perm reordered.shadowEvidence requestId
  reconciliation := rowsFor_perm reordered.reconciliation requestId

theorem contains (requestId : String) : input.requestIds.contains requestId = other.requestIds.contains requestId := by
  rw [Bool.eq_iff_iff, List.contains_iff_mem, List.contains_iff_mem, reordered.requestIds.mem_iff]

theorem planned {ρ : Type} [RequestRow ρ] {rows others : List ρ} (perm : rows.Perm others) :
    input.planned rows = other.planned others := by
  unfold AuthoritativeEvidenceInventory.planned
  rw [all_perm perm]
  simp only [reordered.contains]

theorem matrixValid : input.matrixValid = other.matrixValid := by
  unfold AuthoritativeEvidenceInventory.matrixValid
  rw [all_perm reordered.attempts, reordered.planned reordered.executions, reordered.planned reordered.decisions,
    reordered.planned reordered.dispatchTokens, reordered.planned reordered.shadowQueue,
    reordered.planned reordered.shadowEvidence, reordered.planned reordered.reconciliation]
  simp only [(reordered.rowsOf _).attemptValid]

theorem attemptsValid : input.attemptsValid = other.attemptsValid := by
  unfold AuthoritativeEvidenceInventory.attemptsValid
  rw [reordered.attempts.length_eq, unique_perm (reordered.attempts.map _),
    exactMembers_perm (reordered.attempts.map _) reordered.requestIds, all_perm reordered.attempts]

theorem replayInventoryValid : input.replayInventoryValid = other.replayInventoryValid := by
  have targets := reordered.replayTargetRequestIds
  have audits := reordered.replayAudits
  have listed : input.requestIds.contains = other.requestIds.contains := funext reordered.contains
  unfold AuthoritativeEvidenceInventory.replayInventoryValid
  rw [listed, targets.length_eq, unique_perm targets, all_perm targets, all_perm targets, audits.length_eq,
    unique_perm (audits.map _), exactMembers_perm (audits.map _) targets, numbered_perm audits, all_perm audits]
  simp only [any_perm reordered.attempts]

variable (space : ReliabilityArtifactNamespace)

theorem authorizationsValid : input.authorizationsValid space = other.authorizationsValid space := by
  unfold AuthoritativeEvidenceInventory.authorizationsValid
  rw [exactMembers_perm (reordered.authorizationReceipts.map _) (.refl _),
    exactMembers_perm (reordered.signedAuthorizations.map _) (.refl _), reordered.runId]

theorem claimsValid : input.claimsValid space = other.claimsValid space := by
  unfold AuthoritativeEvidenceInventory.claimsValid
  rw [reordered.claims.length_eq, unique_perm (reordered.claims.map _), all_perm reordered.claims,
    exactMembers_perm (reordered.claims.map _) (.refl _), reordered.runId]

theorem manifestsValid : input.manifestsValid space = other.manifestsValid space := by
  unfold AuthoritativeEvidenceInventory.manifestsValid
  rw [reordered.manifests.length_eq, all_perm reordered.manifests,
    exactMembers_perm (reordered.manifests.map _) (.refl _), reordered.runId]

theorem knownCostValid : input.knownCostValid = other.knownCostValid := by
  unfold AuthoritativeEvidenceInventory.knownCostValid AuthoritativeEvidenceInventory.authoritativeKnown
  rw [reordered.costs, (reordered.attempts.map _).sum_eq]

theorem unresolvedExposureValid : input.unresolvedExposureValid = other.unresolvedExposureValid := by
  unfold AuthoritativeEvidenceInventory.unresolvedExposureValid AuthoritativeEvidenceInventory.authoritativeUnresolved
  rw [reordered.costs, (reordered.attempts.map _).sum_eq]

theorem incidentsValid : input.incidentsValid space = other.incidentsValid space := by
  unfold AuthoritativeEvidenceInventory.incidentsValid
  rw [unique_perm (reordered.incidents.map _), numbered_perm reordered.incidents, reordered.runId]

theorem artifactPathsValid : input.artifactPathsValid space = other.artifactPathsValid space := by
  unfold AuthoritativeEvidenceInventory.artifactPathsValid expectedReliabilityArtifactPaths
  rw [reordered.runId, reordered.planFingerprint]
  refine exactMembers_perm reordered.artifactPaths ?_
  rw [sortTexts_eq_iff.mpr ((reordered.incidents.map _).append_left _)]

theorem outcomeCounts : input.outcomeCounts = other.outcomeCounts := by
  funext state
  exact (reordered.attempts.filter _).length_eq

theorem usable : input.usable = other.usable := by
  unfold AuthoritativeEvidenceInventory.usable
  rw [reordered.outcomeCounts]

theorem counts : input.counts = other.counts := by
  unfold AuthoritativeEvidenceInventory.counts
  rw [reordered.requestIds.length_eq, (reordered.attempts.map _).sum_eq, reordered.usable, reordered.outcomeCounts,
    reordered.replayAudits.length_eq, reordered.claims.length_eq, reordered.manifests.length_eq,
    reordered.incidents.length_eq]

theorem checks [Reliability.Kernel.DateParse] : input.checks space = other.checks space := by
  unfold AuthoritativeEvidenceInventory.checks AuthoritativeEvidenceInventory.nonusable
    AuthoritativeEvidenceInventory.settlementValid AuthoritativeEvidenceInventory.hardFinalizationValid
  rw [reordered.requestIds.length_eq, unique_perm reordered.requestIds, reordered.attemptsValid,
    all_perm reordered.attempts, reordered.matrixValid, reordered.replayInventoryValid,
    all_perm reordered.replayAudits, reordered.authorizationsValid, reordered.claimsValid,
    reordered.manifestsValid, reordered.settlement, reordered.knownCostValid, reordered.unresolvedExposureValid,
    reordered.hardFinalization, reordered.incidentsValid, reordered.artifactPathsValid, reordered.usable,
    reordered.outcomeCounts]

end Reordered

/-- **Reordered rows have the same report.** -/
theorem reduce_reordered [NodeCrypto] [Reliability.Kernel.DateParse] {input other : AuthoritativeEvidenceInventory}
    (reordered : Reordered input other) :
    reduceAuthoritativeReliabilityEvidence input = reduceAuthoritativeReliabilityEvidence other := by
  have digest (reasons : List String) : input.digestJson reasons = other.digestJson reasons := by
    unfold AuthoritativeEvidenceInventory.digestJson
    rw [reordered.runId, reordered.planFingerprint, reordered.counts, reordered.outcomeCounts,
      reordered.settlement, sortTexts_eq_iff.mpr reordered.artifactPaths]
  unfold reduceAuthoritativeReliabilityEvidence AuthoritativeEvidenceInventory.reasons
  simp only [digest, reordered.checks, reordered.runId, reordered.counts, reordered.outcomeCounts]

/-! ### The rows of a request in an inventory that passes -/

theorem length_of_one {ρ : Type} {rows : List ρ} {check : ρ → Bool} (fine : one rows check = true) :
    rows.length = 1 := by
  unfold one sole at fine
  split at fine
  · rfl
  · cases fine

theorem exists_of_one {ρ : Type} {rows : List ρ} {check : ρ → Bool} (fine : one rows check = true) :
    ∃ row, sole rows = some row ∧ check row = true := by
  rw [one, Option.any_eq_true] at fine
  exact fine

/-- How many responses a request has. -/
def OutcomeState.responses (state : OutcomeState) : ℕ := if state.isUsable then 1 else 0

/-- How many resolutions a request has. -/
def OutcomeState.resolutions (state : OutcomeState) : ℕ := if state = .completedVerified then 0 else 1

/-- What the rows of a request are, if its attempt was dispatched and has an outcome. -/
structure AttemptFacts (rows : RequestRows) (attempt : AuthoritativeAttemptRow) : Prop where
  executions : rows.executions.length = 1
  decisions : rows.decisions.length = 1
  tokens : rows.tokens.length = 1
  queues : rows.queues.length = attempt.state.responses
  evidence : rows.evidence.length = attempt.state.responses
  reconciliation : rows.reconciliation.length = attempt.state.resolutions
  resolution : attempt.state ≠ .completedVerified →
    ∃ row, sole rows.reconciliation = some row ∧ row.terminalState = attempt.state
  cost : ∃ actual, exactNonnegativeMicros attempt.actualCostMicros = some actual

theorem RequestRows.facts_of_behavioral {rows : RequestRows} {attempt : AuthoritativeAttemptRow} {reservation : ℕ}
    (valid : rows.behavioralValid attempt reservation = true) (usable : attempt.state.isUsable = true) :
    AttemptFacts rows attempt := by
  simp only [behavioralValid, decided, entered, Bool.and_eq_true, decide_eq_true_eq] at valid
  obtain ⟨⟨⟨⟨⟨⟨executed, allowed⟩, entered⟩, within⟩, queued⟩, evidence⟩, reconciled⟩ := valid
  obtain ⟨actual, known, _⟩ := (Option.any_eq_true _ _).mp within
  have accepted (apart : attempt.state ≠ .completedVerified) :
      hasAcceptedResolution rows.reconciliation attempt.state = true := by
    rw [if_neg apart] at reconciled
    exact reconciled
  refine ⟨length_of_one executed, length_of_one allowed, length_of_one entered, ?_, ?_, ?_, fun apart => ?_,
    actual, known⟩
  · rw [OutcomeState.responses, if_pos usable, length_of_one queued]
  · rw [OutcomeState.responses, if_pos usable, evidence]
  · unfold OutcomeState.resolutions
    by_cases completed : attempt.state = .completedVerified
    · rw [if_pos completed] at reconciled ⊢
      exact of_decide_eq_true reconciled
    · rw [if_neg completed]
      exact length_of_one (accepted completed)
  · obtain ⟨row, only, fine⟩ := exists_of_one (accepted apart)
    simp only [Bool.and_eq_true, decide_eq_true_eq] at fine
    exact ⟨row, only, fine.2⟩

theorem RequestRows.facts_of_failed {rows : RequestRows} {attempt : AuthoritativeAttemptRow}
    (valid : rows.failedValid attempt = true) (queues : rows.queues.length = 0) (evidence : rows.evidence.length = 0)
    (unusable : attempt.state.isUsable = false) : AttemptFacts rows attempt := by
  simp only [failedValid, decided, executed, entered, Bool.and_eq_true] at valid
  obtain ⟨⟨⟨⟨failed, allowed⟩, entered⟩, accepted⟩, cost⟩ := valid
  have apart : attempt.state ≠ .completedVerified := by
    intro completed
    rw [completed] at unusable
    cases unusable
  obtain ⟨row, only, fine⟩ := exists_of_one accepted
  simp only [Bool.and_eq_true, decide_eq_true_eq] at fine
  refine ⟨length_of_one failed, length_of_one allowed, length_of_one entered, ?_, ?_, ?_,
    fun _ => ⟨row, only, fine.2⟩, ?_⟩
  · rw [OutcomeState.responses, unusable, queues]
    rfl
  · rw [OutcomeState.responses, unusable, evidence]
    rfl
  · rw [OutcomeState.resolutions, if_neg apart, length_of_one accepted]
  · split at cost
    · exact ⟨0, of_decide_eq_true cost⟩
    · exact Option.isSome_iff_exists.mp cost

/-- **The state of an attempt fixes how many rows of each table its request has.** -/
theorem RequestRows.attemptFacts {rows : RequestRows} {attempt : AuthoritativeAttemptRow}
    (valid : rows.attemptValid attempt = true) (dispatched : attempt.state ≠ .notDispatched)
    (resolved : attempt.state ≠ .unresolvedProviderOutcome) : AttemptFacts rows attempt := by
  unfold attemptValid at valid
  split at valid
  · cases valid
  · split at valid
    next usable => exact facts_of_behavioral valid usable
    next unusable =>
      rw [Bool.and_eq_true, Bool.and_eq_true, decide_eq_true_eq, decide_eq_true_eq] at valid
      obtain ⟨⟨queues, evidence⟩, rest⟩ := valid
      have failed : rows.failedValid attempt = true := by
        split at rest
        next none => exact absurd none dispatched
        next none => exact absurd none resolved
        · exact rest
      exact facts_of_failed failed queues evidence (Bool.eq_false_iff.mpr unusable)

/-! ### Inventories that pass -/

/-- Every check of the report succeeds. -/
def Accepted [Reliability.Kernel.DateParse] (space : ReliabilityArtifactNamespace)
    (input : AuthoritativeEvidenceInventory) : Prop := ∀ check ∈ input.checks space, check.1 = true

/-- The report of the inventory passes. -/
def Passes [NodeCrypto] [Reliability.Kernel.DateParse] (input : AuthoritativeEvidenceInventory) : Prop :=
  ∃ report, reduceAuthoritativeReliabilityEvidence input = .ok report ∧ report.passed = true

/-- The inventory has a report, and it does not pass. -/
def Fails [NodeCrypto] [Reliability.Kernel.DateParse] (input : AuthoritativeEvidenceInventory) : Prop :=
  ∃ report, reduceAuthoritativeReliabilityEvidence input = .ok report ∧ report.passed = false

section Passing

variable [Reliability.Kernel.DateParse] {space : ReliabilityArtifactNamespace}
  {input : AuthoritativeEvidenceInventory}

theorem reasons_eq_nil_iff : input.reasons space = [] ↔ Accepted space input := by
  unfold AuthoritativeEvidenceInventory.reasons Accepted
  rw [List.map_eq_nil_iff, List.filter_eq_nil_iff]
  exact forall₂_congr fun check _ => by simp

theorem reduce_of_namespace [NodeCrypto] (found : reliabilityArtifactNamespace input.runId = .ok space) :
    ∃ report, reduceAuthoritativeReliabilityEvidence input = .ok report ∧
      (report.passed = true ↔ Accepted space input) := by
  unfold reduceAuthoritativeReliabilityEvidence
  rw [found]
  refine ⟨_, rfl, ?_⟩
  rw [← reasons_eq_nil_iff]
  exact decide_eq_true_iff.trans List.length_eq_zero_iff

theorem Passes.accepted [NodeCrypto] (passes : Passes input) :
    ∃ space, reliabilityArtifactNamespace input.runId = .ok space ∧ Accepted space input := by
  obtain ⟨report, reduced, passed⟩ := passes
  cases found : reliabilityArtifactNamespace input.runId with
  | error thrown =>
    unfold reduceAuthoritativeReliabilityEvidence at reduced
    rw [found] at reduced
    cases reduced
  | ok space =>
    obtain ⟨other, same, accepted⟩ := reduce_of_namespace found
    cases same.symm.trans reduced
    exact ⟨space, rfl, accepted.mp passed⟩

/-- A report that is not accepted fails. -/
theorem fails_of_not_accepted [NodeCrypto] (found : reliabilityArtifactNamespace input.runId = .ok space)
    (noticed : ¬ Accepted space input) : Fails input := by
  obtain ⟨report, reduced, passed⟩ := reduce_of_namespace found
  refine ⟨report, reduced, Bool.eq_false_iff.mpr fun accepted => noticed (passed.mp accepted)⟩

namespace Accepted

variable (accepted : Accepted space input)

include accepted

theorem attemptsValid : input.attemptsValid = true := by
  have first := accepted (_, "ATTEMPT_INVENTORY_INVALID") (.head _)
  exact (Bool.and_eq_true_iff.mp first).2

theorem matrixValid : input.matrixValid = true := by
  have third := accepted (_, "OUTCOME_MATRIX_INVALID") (.tail _ (.tail _ (.head _)))
  exact (Bool.and_eq_true_iff.mp third).2

theorem replayInventoryValid : input.replayInventoryValid = true :=
  accepted (input.replayInventoryValid, "REPLAY_AUDIT_INVENTORY_INVALID")
    (by simp [AuthoritativeEvidenceInventory.checks])

theorem authorizationsValid : input.authorizationsValid space = true :=
  accepted (input.authorizationsValid space, "AUTHORIZATION_RECEIPTS_INVALID")
    (by simp [AuthoritativeEvidenceInventory.checks])

theorem claimsValid : input.claimsValid space = true :=
  accepted (input.claimsValid space, "CLAIM_INVENTORY_INVALID")
    (by simp [AuthoritativeEvidenceInventory.checks])

theorem manifestsValid : input.manifestsValid space = true :=
  accepted (input.manifestsValid space, "MANIFEST_INVENTORY_INVALID")
    (by simp [AuthoritativeEvidenceInventory.checks])

theorem knownCostValid : input.knownCostValid = true :=
  accepted (input.knownCostValid, "KNOWN_COST_CAP_EXCEEDED")
    (by simp [AuthoritativeEvidenceInventory.checks])

theorem artifactPathsValid : input.artifactPathsValid space = true :=
  accepted (input.artifactPathsValid space, "ARTIFACT_PATH_INVENTORY_INVALID")
    (by simp [AuthoritativeEvidenceInventory.checks])

/-- No attempt has a state that no attempt may have. -/
theorem state_ne {attempt : AuthoritativeAttemptRow} (member : attempt ∈ input.attempts) :
    attempt.state ≠ .notDispatched ∧ attempt.state ≠ .unresolvedProviderOutcome := by
  have usable := accepted (99 ≤ input.usable && input.outcomeCounts .notDispatched = 0, "USABLE_OUTCOMES_INVALID")
    (by simp [AuthoritativeEvidenceInventory.checks])
  have resolved := accepted (input.outcomeCounts .unresolvedProviderOutcome = 0, "UNRESOLVED_OUTCOME")
    (by simp [AuthoritativeEvidenceInventory.checks])
  have none {state : OutcomeState} (zero : input.outcomeCounts state = 0) : attempt.state ≠ state := fun same =>
    List.filter_eq_nil_iff.mp (List.length_eq_zero_iff.mp zero) attempt member (decide_eq_true same)
  exact ⟨none (of_decide_eq_true (Bool.and_eq_true_iff.mp usable).2), none (of_decide_eq_true resolved)⟩

theorem attemptFacts {attempt : AuthoritativeAttemptRow} (member : attempt ∈ input.attempts) :
    AttemptFacts (input.rowsOf attempt.requestId) attempt := by
  have matrix := accepted.matrixValid
  simp only [AuthoritativeEvidenceInventory.matrixValid, Bool.and_eq_true, List.all_eq_true] at matrix
  obtain ⟨dispatched, resolved⟩ := accepted.state_ne member
  exact RequestRows.attemptFacts (matrix.1.1.1.1.1.1 attempt member) dispatched resolved

/-- The attempts are those of the planned requests. -/
theorem attempts : input.attempts.length = 100 ∧ (input.attempts.map (·.requestId)).Nodup ∧
    (input.attempts.map (·.requestId)).Perm input.requestIds := by
  have valid := accepted.attemptsValid
  simp only [AuthoritativeEvidenceInventory.attemptsValid, Bool.and_eq_true, decide_eq_true_eq] at valid
  obtain ⟨distinct, perm⟩ := exactMembers_iff.mp valid.1.2
  exact ⟨valid.1.1.1, distinct, perm⟩

end Accepted

/-! ### How long the tables are -/

theorem sum_indicator (requests : List String) (own : String) :
    (requests.map fun id => if own = id then 1 else 0).sum = requests.count own := by
  induction requests with
  | nil => rfl
  | cons id rest ih =>
    rw [List.map_cons, List.sum_cons, ih, List.count_cons, Nat.add_comm]
    by_cases same : own = id
    · rw [if_pos same, if_pos (beq_iff_eq.mpr same.symm)]
    · rw [if_neg same, if_neg fun equal => same (beq_iff_eq.mp equal).symm]

/-- Rows of distinct requests, counted request by request. -/
theorem length_eq_sum {ρ : Type} [RequestRow ρ] {requests : List String} (distinct : requests.Nodup) (rows : List ρ)
    (planned : ∀ row ∈ rows, RequestRow.requestId row ∈ requests) :
    rows.length = (requests.map fun id => (rowsFor rows id).length).sum := by
  induction rows with
  | nil => simp [rowsFor]
  | cons row rest ih =>
    obtain ⟨here, later⟩ := List.forall_mem_cons.mp planned
    have split_ (id : String) : (rowsFor (row :: rest) id).length =
        (if RequestRow.requestId row = id then 1 else 0) + (rowsFor rest id).length := by
      unfold rowsFor
      rw [List.filter_cons]
      by_cases own : RequestRow.requestId row = id
      · simp [own, Nat.add_comm]
      · simp [own]
    simp only [split_]
    rw [List.sum_map_add, sum_indicator, List.count_eq_one_of_mem distinct here, ← ih later, List.length_cons,
      Nat.add_comm]

/-- The lengths of the tables with rows of requests. -/
structure TableLengths (input : AuthoritativeEvidenceInventory) : Prop where
  executions : input.executions.length = (input.attempts.map fun _ => 1).sum
  decisions : input.decisions.length = (input.attempts.map fun _ => 1).sum
  dispatchTokens : input.dispatchTokens.length = (input.attempts.map fun _ => 1).sum
  shadowQueue : input.shadowQueue.length = (input.attempts.map (·.state.responses)).sum
  shadowEvidence : input.shadowEvidence.length = (input.attempts.map (·.state.responses)).sum
  reconciliation : input.reconciliation.length = (input.attempts.map (·.state.resolutions)).sum

namespace Accepted

variable (accepted : Accepted space input)

include accepted

/-- **The attempts fix the length of a table.** -/
theorem length_of {ρ : Type} [RequestRow ρ] {rows : List ρ} (weight : OutcomeState → ℕ)
    (planned : input.planned rows = true)
    (counts : ∀ attempt ∈ input.attempts, (rowsFor rows attempt.requestId).length = weight attempt.state) :
    rows.length = (input.attempts.map fun attempt => weight attempt.state).sum := by
  obtain ⟨_, distinct, perm⟩ := accepted.attempts
  have listed : ∀ row ∈ rows, RequestRow.requestId row ∈ input.attempts.map (·.requestId) := fun row member =>
    perm.mem_iff.mpr (List.contains_iff_mem.mp (List.all_eq_true.mp planned row member))
  rw [length_eq_sum distinct rows listed, List.map_map]
  exact congrArg List.sum (List.map_congr_left counts)

/-- **The attempts of an inventory that passes fix the lengths of its tables.** -/
theorem tableLengths : TableLengths input := by
  have matrix := accepted.matrixValid
  simp only [AuthoritativeEvidenceInventory.matrixValid, Bool.and_eq_true] at matrix
  obtain ⟨⟨⟨⟨⟨⟨_, executions⟩, decisions⟩, tokens⟩, queues⟩, evidence⟩, reconciliation⟩ := matrix
  exact {
    executions := accepted.length_of (fun _ => 1) executions fun _ member => (accepted.attemptFacts member).executions
    decisions := accepted.length_of (fun _ => 1) decisions fun _ member => (accepted.attemptFacts member).decisions
    dispatchTokens := accepted.length_of (fun _ => 1) tokens fun _ member => (accepted.attemptFacts member).tokens
    shadowQueue := accepted.length_of OutcomeState.responses queues fun _ member =>
      (accepted.attemptFacts member).queues
    shadowEvidence := accepted.length_of OutcomeState.responses evidence fun _ member =>
      (accepted.attemptFacts member).evidence
    reconciliation := accepted.length_of OutcomeState.resolutions reconciliation fun _ member =>
      (accepted.attemptFacts member).reconciliation }

/-- The lists whose lengths are fixed outright. -/
theorem fixedLengths : input.replayAudits.length = 20 ∧ input.authorizationReceipts.length = 2 ∧
    input.signedAuthorizations.length = 2 ∧ input.claims.length = 4 ∧ input.manifests.length = 20 := by
  have audits := accepted.replayInventoryValid
  have authorizations := accepted.authorizationsValid
  have claims := accepted.claimsValid
  have manifests := accepted.manifestsValid
  simp only [AuthoritativeEvidenceInventory.replayInventoryValid, AuthoritativeEvidenceInventory.authorizationsValid,
    AuthoritativeEvidenceInventory.claimsValid, AuthoritativeEvidenceInventory.manifestsValid, Bool.and_eq_true,
    decide_eq_true_eq, exactMembers_iff] at audits authorizations claims manifests
  have receipts := authorizations.1.2.length_eq
  have signed := authorizations.2.2.length_eq
  rw [List.length_map] at receipts signed
  exact ⟨audits.1.1.1.1.2, receipts, signed, claims.1.1.1, manifests.1.1⟩

/-- There are thirty-two paths besides those of the incidents. -/
theorem length_artifactPaths : input.artifactPaths.length = 32 + input.incidents.length := by
  have perm := (exactMembers_iff.mp accepted.artifactPathsValid).2
  rw [perm.length_eq, expectedReliabilityArtifactPaths, (perm_sortTexts _).length_eq]
  simp only [List.length_append, List.length_map, claimPaths, manifestPaths, lanes, List.length_flatMap,
    List.length_cons, List.length_nil, List.map_cons, List.map_nil, List.length_range, List.sum_cons, List.sum_nil,
    Nat.reduceAdd]

end Accepted

end Passing

/-! ### Edits -/

/-- A row more or less, wherever it stands. -/
inductive RowEdit {ρ : Type} (rows : List ρ) : List ρ → Prop
  | added (row : ρ) {edited : List ρ} (perm : edited.Perm (row :: rows)) : RowEdit rows edited
  | removed (row : ρ) {edited : List ρ} (perm : rows.Perm (row :: edited)) : RowEdit rows edited
  | duplicated (row : ρ) (member : row ∈ rows) {edited : List ρ} (perm : edited.Perm (row :: rows)) :
      RowEdit rows edited

theorem RowEdit.length_ne {ρ : Type} {rows edited : List ρ} (edit : RowEdit rows edited) :
    edited.length ≠ rows.length := by
  cases edit with
  | added row perm | duplicated row member perm =>
    rw [perm.length_eq]
    exact Nat.succ_ne_self _
  | removed row perm =>
    rw [perm.length_eq]
    exact (Nat.succ_ne_self _).symm

/-- One attempt has another state, another request or another cost. -/
inductive AttemptEdit : AuthoritativeAttemptRow → AuthoritativeAttemptRow → Prop
  | state (attempt : AuthoritativeAttemptRow) (state : OutcomeState) (changed : state ≠ attempt.state) :
      AttemptEdit attempt { attempt with state }
  | requestId (attempt : AuthoritativeAttemptRow) (requestId : String) (changed : requestId ≠ attempt.requestId) :
      AttemptEdit attempt { attempt with requestId }
  | knownCost (attempt : AuthoritativeAttemptRow) (actualCostMicros : Option String)
      (changed : actualCostMicros ≠ attempt.actualCostMicros) : AttemptEdit attempt { attempt with actualCostMicros }

/-- One edit of an inventory. -/
inductive Tampered (input : AuthoritativeEvidenceInventory) : AuthoritativeEvidenceInventory → Prop
  | attempts {attempts} (edit : RowEdit input.attempts attempts) : Tampered input { input with attempts }
  | executions {executions} (edit : RowEdit input.executions executions) : Tampered input { input with executions }
  | decisions {decisions} (edit : RowEdit input.decisions decisions) : Tampered input { input with decisions }
  | dispatchTokens {dispatchTokens} (edit : RowEdit input.dispatchTokens dispatchTokens) :
      Tampered input { input with dispatchTokens }
  | shadowQueue {shadowQueue} (edit : RowEdit input.shadowQueue shadowQueue) :
      Tampered input { input with shadowQueue }
  | shadowEvidence {shadowEvidence} (edit : RowEdit input.shadowEvidence shadowEvidence) :
      Tampered input { input with shadowEvidence }
  | reconciliation {reconciliation} (edit : RowEdit input.reconciliation reconciliation) :
      Tampered input { input with reconciliation }
  | replayAudits {replayAudits} (edit : RowEdit input.replayAudits replayAudits) :
      Tampered input { input with replayAudits }
  | authorizationReceipts {authorizationReceipts}
      (edit : RowEdit input.authorizationReceipts authorizationReceipts) :
      Tampered input { input with authorizationReceipts }
  | signedAuthorizations {signedAuthorizations} (edit : RowEdit input.signedAuthorizations signedAuthorizations) :
      Tampered input { input with signedAuthorizations }
  | claims {claims} (edit : RowEdit input.claims claims) : Tampered input { input with claims }
  | manifests {manifests} (edit : RowEdit input.manifests manifests) : Tampered input { input with manifests }
  | incidents {incidents} (edit : RowEdit input.incidents incidents) : Tampered input { input with incidents }
  | artifactPaths {artifactPaths} (edit : RowEdit input.artifactPaths artifactPaths) :
      Tampered input { input with artifactPaths }
  | attempt {before after : List AuthoritativeAttemptRow} {attempt edited : AuthoritativeAttemptRow}
      (rows : input.attempts = before ++ attempt :: after) (edit : AttemptEdit attempt edited) :
      Tampered input { input with attempts := before ++ edited :: after }

theorem Tampered.runId {input other : AuthoritativeEvidenceInventory} (tampered : Tampered input other) :
    other.runId = input.runId := by cases tampered <;> rfl

/-! ### An edited attempt -/

theorem sum_split {ρ : Type} (weight : ρ → ℕ) (before after : List ρ) (row : ρ) :
    ((before ++ row :: after).map weight).sum = (before.map weight).sum + weight row + (after.map weight).sum := by
  rw [List.map_append, List.map_cons, List.sum_append, List.sum_cons, Nat.add_assoc]

/-- No digits but a zero denote zero. -/
theorem digitsValue_ne_zero {digits : List Char} (valid : areDigits digits = true)
    (plain : digits.head? ≠ some '0') : digitsValue digits ≠ 0 := by
  intro zero
  have numerals := digits_digitsValue valid plain
  rw [zero, Nat.digits_zero, eq_comm, List.map_eq_nil_iff, List.reverse_eq_nil_iff] at numerals
  rw [numerals] at valid
  cases valid

theorem isAtomic_inj {text other : String} (atomic : isAtomic text = true) (alsoAtomic : isAtomic other = true)
    (same : digitsValue text.toList = digitsValue other.toList) : text = other := by
  simp only [isAtomic, Bool.and_eq_true, Bool.or_eq_true, beq_iff_eq, bne_iff_ne] at atomic alsoAtomic
  obtain ⟨valid, rfl | plain⟩ := atomic <;> obtain ⟨alsoValid, rfl | alsoPlain⟩ := alsoAtomic
  · rfl
  · exact absurd same.symm (digitsValue_ne_zero alsoValid alsoPlain)
  · exact absurd same (digitsValue_ne_zero valid plain)
  · exact String.toList_inj.mp (digitsValue_inj valid alsoValid plain alsoPlain same)

/-- Costs are told apart by their numbers. -/
theorem exactNonnegativeMicros_inj {value other : Option String} {micros : ℕ}
    (known : exactNonnegativeMicros value = some micros) (also : exactNonnegativeMicros other = some micros) :
    value = other := by
  unfold exactNonnegativeMicros at known also
  obtain ⟨text, kept, rfl⟩ := Option.map_eq_some_iff.mp known
  obtain ⟨second, alsoKept, same⟩ := Option.map_eq_some_iff.mp also
  obtain ⟨rfl, atomic⟩ := Option.filter_eq_some_iff.mp kept
  obtain ⟨rfl, alsoAtomic⟩ := Option.filter_eq_some_iff.mp alsoKept
  rw [isAtomic_inj atomic alsoAtomic same.symm]

section EditedAttempt

variable [Reliability.Kernel.DateParse] {space : ReliabilityArtifactNamespace}
  {input : AuthoritativeEvidenceInventory} {before after : List AuthoritativeAttemptRow}
  {attempt edited : AuthoritativeAttemptRow}

/-- **The rows of a request tell the state of its attempt.** -/
theorem state_eq_of_facts {rows : RequestRows} (facts : AttemptFacts rows attempt)
    (editedFacts : AttemptFacts rows edited) : edited.state = attempt.state := by
  have resolutions : edited.state.resolutions = attempt.state.resolutions :=
    editedFacts.reconciliation.symm.trans facts.reconciliation
  unfold OutcomeState.resolutions at resolutions
  by_cases completed : attempt.state = .completedVerified
  · rw [if_pos completed] at resolutions
    by_contra changed
    rw [completed] at changed
    rw [if_neg changed] at resolutions
    cases resolutions
  · have alsoPending : edited.state ≠ .completedVerified := by
      intro alsoCompleted
      rw [if_pos alsoCompleted, if_neg completed] at resolutions
      cases resolutions
    obtain ⟨row, only, terminal⟩ := facts.resolution completed
    obtain ⟨other, same, alsoTerminal⟩ := editedFacts.resolution alsoPending
    cases same.symm.trans only
    exact alsoTerminal.symm.trans terminal

/-- The attempts of two inventories with the same requests, all but one of them shared. -/
theorem requestId_eq_of_perm {requests : List String}
    (perm : ((before ++ attempt :: after).map (·.requestId)).Perm requests)
    (editedPerm : ((before ++ edited :: after).map (·.requestId)).Perm requests) :
    edited.requestId = attempt.requestId := by
  have both := editedPerm.trans perm.symm
  rw [List.map_append, List.map_append, List.map_cons, List.map_cons, List.perm_append_left_iff,
    ← List.singleton_append, ← List.singleton_append (l := after.map _), List.perm_append_right_iff] at both
  exact List.singleton_inj.mp (List.perm_singleton.mp both)

/-- The sum of the costs tells the cost of an attempt. -/
theorem Accepted.cost_eq (rows : input.attempts = before ++ attempt :: after) (accepted : Accepted space input)
    (editedAccepted : Accepted space { input with attempts := before ++ edited :: after }) :
    edited.actualCostMicros = attempt.actualCostMicros := by
  let edition : AuthoritativeEvidenceInventory := { input with attempts := before ++ edited :: after }
  have member : attempt ∈ input.attempts := by rw [rows]; exact List.mem_append_cons_self
  have editedMember : edited ∈ edition.attempts := List.mem_append_cons_self
  obtain ⟨actual, cost⟩ := (accepted.attemptFacts member).cost
  obtain ⟨editedActual, editedCost⟩ := (editedAccepted.attemptFacts editedMember).cost
  obtain ⟨known, read, fine⟩ := (Option.any_eq_true _ _).mp accepted.knownCostValid
  obtain ⟨editedKnown, editedRead, editedFine⟩ := (Option.any_eq_true _ _).mp editedAccepted.knownCostValid
  simp only [Bool.and_eq_true, decide_eq_true_eq] at fine editedFine
  have sums : input.authoritativeKnown = edition.authoritativeKnown := by
    rw [← fine.1.2, ← editedFine.1.2]
    exact Option.some.inj (read.symm.trans editedRead)
  unfold AuthoritativeEvidenceInventory.authoritativeKnown at sums
  rw [rows, sum_split, sum_split, if_neg (accepted.state_ne member).2, if_neg (editedAccepted.state_ne editedMember).2,
    cost, editedCost, Option.getD_some, Option.getD_some] at sums
  have same : actual = editedActual := by omega
  rw [same] at cost
  exact exactNonnegativeMicros_inj editedCost cost

/-- An edited attempt is noticed. -/
theorem Accepted.attempt_edited (rows : input.attempts = before ++ attempt :: after) (accepted : Accepted space input)
    (edit : AttemptEdit attempt edited) :
    ¬ Accepted space { input with attempts := before ++ edited :: after } := by
  intro editedAccepted
  have member : attempt ∈ input.attempts := by rw [rows]; exact List.mem_append_cons_self
  have facts := accepted.attemptFacts member
  cases edit with
  | state state changed =>
    have editedFacts : AttemptFacts (input.rowsOf attempt.requestId) { attempt with state } :=
      editedAccepted.attemptFacts List.mem_append_cons_self
    exact changed (state_eq_of_facts facts editedFacts)
  | requestId requestId changed =>
    have perm := accepted.attempts.2.2
    rw [rows] at perm
    exact changed (requestId_eq_of_perm perm editedAccepted.attempts.2.2)
  | knownCost actualCostMicros changed => exact changed (accepted.cost_eq rows editedAccepted)

end EditedAttempt

/-! ### Tampering -/

/-- No inventory that passes comes of another one by an edit. -/
theorem Accepted.not_tampered [Reliability.Kernel.DateParse] {space : ReliabilityArtifactNamespace}
    {input other : AuthoritativeEvidenceInventory} (accepted : Accepted space input) (tampered : Tampered input other) :
    ¬ Accepted space other := by
  intro alsoAccepted
  have lengths := accepted.tableLengths
  have otherLengths := alsoAccepted.tableLengths
  obtain ⟨audits, receipts, signed, claims, manifests⟩ := accepted.fixedLengths
  obtain ⟨otherAudits, otherReceipts, otherSigned, otherClaims, otherManifests⟩ := alsoAccepted.fixedLengths
  have paths := accepted.length_artifactPaths
  have otherPaths := alsoAccepted.length_artifactPaths
  cases tampered with
  | attempts edit => exact edit.length_ne (alsoAccepted.attempts.1.trans accepted.attempts.1.symm)
  | executions edit => exact edit.length_ne (otherLengths.executions.trans lengths.executions.symm)
  | decisions edit => exact edit.length_ne (otherLengths.decisions.trans lengths.decisions.symm)
  | dispatchTokens edit => exact edit.length_ne (otherLengths.dispatchTokens.trans lengths.dispatchTokens.symm)
  | shadowQueue edit => exact edit.length_ne (otherLengths.shadowQueue.trans lengths.shadowQueue.symm)
  | shadowEvidence edit => exact edit.length_ne (otherLengths.shadowEvidence.trans lengths.shadowEvidence.symm)
  | reconciliation edit => exact edit.length_ne (otherLengths.reconciliation.trans lengths.reconciliation.symm)
  | replayAudits edit => exact edit.length_ne (otherAudits.trans audits.symm)
  | authorizationReceipts edit => exact edit.length_ne (otherReceipts.trans receipts.symm)
  | signedAuthorizations edit => exact edit.length_ne (otherSigned.trans signed.symm)
  | claims edit => exact edit.length_ne (otherClaims.trans claims.symm)
  | manifests edit => exact edit.length_ne (otherManifests.trans manifests.symm)
  | incidents edit => exact edit.length_ne (Nat.add_left_cancel (otherPaths.symm.trans paths))
  | artifactPaths edit => exact edit.length_ne (otherPaths.trans paths.symm)
  | attempt rows edit => exact accepted.attempt_edited rows edit alsoAccepted

section Report

variable [NodeCrypto] [Reliability.Kernel.DateParse] {input other : AuthoritativeEvidenceInventory}

theorem Passes.fails_of_tampered (passes : Passes input) (tampered : Tampered input other) : Fails other := by
  obtain ⟨space, found, accepted⟩ := passes.accepted
  refine fails_of_not_accepted ?_ (accepted.not_tampered tampered)
  rw [tampered.runId, found]

/-- **The report of an inventory does not depend on the order of its rows, and no edit of an inventory that
passes goes unnoticed.** -/
theorem orderIndependent_and_tamperEvident :
    (∀ input other : AuthoritativeEvidenceInventory, Reordered input other →
      reduceAuthoritativeReliabilityEvidence input = reduceAuthoritativeReliabilityEvidence other) ∧
    ∀ input other : AuthoritativeEvidenceInventory, Passes input → Tampered input other → Fails other :=
  ⟨fun _ _ => reduce_reordered, fun _ _ => Passes.fails_of_tampered⟩

end Report

/-! ### A run of which every call was completed -/

namespace CompletedRun

/-- A digest, and the time of the one text that is parsed here. -/
@[reducible] def crypto : NodeCrypto := ⟨fun _ => String.ofList (List.replicate 64 'a')⟩

@[reducible] def dates : Reliability.Kernel.DateParse := ⟨fun _ => some 1785230000000⟩

attribute [local instance] crypto dates

def space : ReliabilityArtifactNamespace where
  root := Reliability.ProtocolVersion.artifactRoot .v2
  evidenceType := Reliability.ProtocolVersion.evidenceType .v2
  protocolVersion := .v2
  protocolArtifact := "held-out-reliability-v2.json"
  beaconRound := 6315000

def requestId (index : ℕ) : String := String.ofList (List.replicate index 'r')

def digestText : String := "sha256:" ++ String.ofList (List.replicate 64 'a')

def attempt (index : ℕ) : AuthoritativeAttemptRow := ⟨requestId index, .completedVerified, 1, true, some "1", "2"⟩

def execution (index : ℕ) : AuthoritativeExecutionRow :=
  ⟨requestId index, .completed, some "1", some .queued, some 1⟩

def decision (index : ℕ) : AuthoritativeDecisionRow := ⟨requestId index, .allow⟩

def token (index : ℕ) : AuthoritativeDispatchTokenRow := ⟨requestId index, true, false⟩

def queue (index : ℕ) : AuthoritativeShadowQueueRow := ⟨requestId index, .completed, 1⟩

def evidence (index : ℕ) : ShadowEvidenceRow := ⟨requestId index⟩

def audit (index : ℕ) : AuthoritativeReplayAuditRow := ⟨requestId index, (index : ℤ) + 1, digestText, digestText, []⟩

def inventory : AuthoritativeEvidenceInventory where
  runId := "held-out"
  planFingerprint := "plan"
  requestIds := (List.range 100).map requestId
  replayTargetRequestIds := (List.range 20).map requestId
  attempts := (List.range 100).map attempt
  executions := (List.range 100).map execution
  decisions := (List.range 100).map decision
  dispatchTokens := (List.range 100).map token
  shadowQueue := (List.range 100).map queue
  shadowEvidence := (List.range 100).map evidence
  replayAudits := (List.range 20).map audit
  authorizationReceipts :=
    [⟨.operator, "consumed", receiptPath space "held-out" .operator⟩,
      ⟨.reconciliation, "validated", receiptPath space "held-out" .reconciliation⟩]
  signedAuthorizations :=
    [⟨.operator, authorizationPath space "held-out" .operator⟩,
      ⟨.reconciliation, authorizationPath space "held-out" .reconciliation⟩]
  claims := (lanes.zip (claimPaths space "held-out")).map fun (lane, path) => ⟨lane, true, path⟩
  manifests := (manifestPaths space "held-out").map fun path => ⟨"lane", 1, true, digestText, path⟩
  reconciliation := []
  incidents := []
  settlement := ⟨true, some 5, 2, digestText, 100⟩
  costs := ⟨"100", "0", "3000000", "320000"⟩
  hardFinalization := ⟨true, "2026-07-28T09:00:00.000Z", "2026-07-28T09:30:00.000Z"⟩
  artifactPaths := expectedReliabilityArtifactPaths space "held-out" "plan" []

/-- What is computed of the fixed texts. -/
theorem computed :
    (isSha256Text digestText = true ∧ exactNonnegativeMicros (some "1") = some 1 ∧
      exactNonnegativeMicros (some "2") = some 2 ∧ exactNonnegativeMicros (some "100") = some 100 ∧
      exactNonnegativeMicros (some "0") = some 0 ∧ exactNonnegativeMicros (some "3000000") = some 3000000 ∧
      exactNonnegativeMicros (some "320000") = some 320000) ∧
    (unique (inventory.claims.map (·.lane)) = true ∧
      (inventory.claims.all fun row => row.terminal && lanes.contains row.lane) = true ∧
      inventory.hardFinalizationValid space = true) ∧
    Reliability.isRunId "held-out" = true ∧ startsWith "held-out" "hov3-" = false ∧
      startsWith "held-out" "hov4-" = false := by
  decide +kernel

theorem digestText_valid : isSha256Text digestText = true := computed.1.1

theorem requestId_injective : Function.Injective requestId := by
  intro first second same
  have lengths := congrArg List.length (String.ofList_injective same)
  rwa [List.length_replicate, List.length_replicate] at lengths

theorem requestIds_nodup (count : ℕ) : ((List.range count).map requestId).Nodup :=
  List.nodup_range.map requestId_injective

/-- A request has the one row of its own. -/
theorem rowsFor_requestId {ρ : Type} [RequestRow ρ] {row : ℕ → ρ} (own : ∀ index, RequestRow.requestId (row index) =
    requestId index) {index : ℕ} (member : index ∈ List.range 100) :
    rowsFor ((List.range 100).map row) (requestId index) = [row index] := by
  unfold rowsFor
  rw [List.filter_map]
  have found : (List.range 100).filter ((fun each => decide (RequestRow.requestId each = requestId index)) ∘ row) =
      [index] := by
    simp only [Function.comp_def, own, requestId_injective.eq_iff]
    rw [List.filter_eq, List.count_eq_one_of_mem List.nodup_range member]
    rfl
  rw [found]
  rfl

theorem planned {ρ : Type} [RequestRow ρ] (row : ℕ → ρ) (own : ∀ index, RequestRow.requestId (row index) =
    requestId index) : inventory.planned ((List.range 100).map row) = true := by
  refine List.all_eq_true.mpr fun each member => List.contains_iff_mem.mpr ?_
  obtain ⟨index, inside, rfl⟩ := List.mem_map.mp member
  rw [own]
  exact List.mem_map_of_mem inside

theorem attempt_valid {index : ℕ} (member : index ∈ List.range 100) :
    (inventory.rowsOf (requestId index)).attemptValid (attempt index) = true := by
  have rows : inventory.rowsOf (requestId index) =
      ⟨[execution index], [decision index], [token index], [queue index], [evidence index], []⟩ := by
    unfold AuthoritativeEvidenceInventory.rowsOf
    congr 1
    · exact rowsFor_requestId (fun _ => rfl) member
    · exact rowsFor_requestId (fun _ => rfl) member
    · exact rowsFor_requestId (fun _ => rfl) member
    · exact rowsFor_requestId (fun _ => rfl) member
    · exact rowsFor_requestId (fun _ => rfl) member
  obtain ⟨⟨_, cost, reservation, _⟩, _⟩ := computed
  rw [rows]
  simp [RequestRows.attemptValid, RequestRows.behavioralValid, RequestRows.decided, RequestRows.entered, one, sole,
    attempt, execution, decision, token, queue, evidence, OutcomeState.isUsable, cost, reservation, isSafeInteger]

theorem matrix_valid : inventory.matrixValid = true := by
  simp only [AuthoritativeEvidenceInventory.matrixValid, Bool.and_eq_true]
  refine ⟨⟨⟨⟨⟨⟨List.all_eq_true.mpr ?_, ?_⟩, ?_⟩, ?_⟩, ?_⟩, ?_⟩, rfl⟩
  · intro row member
    obtain ⟨index, inside, rfl⟩ := List.mem_map.mp member
    exact attempt_valid inside
  · exact planned execution fun _ => rfl
  · exact planned decision fun _ => rfl
  · exact planned token fun _ => rfl
  · exact planned queue fun _ => rfl
  · exact planned evidence fun _ => rfl

theorem requestIds_of_attempts : inventory.attempts.map (·.requestId) = inventory.requestIds := List.map_map

theorem attempts_valid : inventory.attemptsValid = true := by
  have distinct : inventory.requestIds.Nodup := requestIds_nodup 100
  simp only [AuthoritativeEvidenceInventory.attemptsValid, requestIds_of_attempts, Bool.and_eq_true, unique,
    decide_eq_true_eq, exactMembers_iff]
  refine ⟨⟨⟨rfl, distinct⟩, distinct, .refl _⟩, List.all_eq_true.mpr fun row member => ?_⟩
  obtain ⟨index, _, rfl⟩ := List.mem_map.mp member
  rfl

theorem replay_valid : inventory.replayInventoryValid = true := by
  have distinct : inventory.replayTargetRequestIds.Nodup := requestIds_nodup 20
  have targets : inventory.replayAudits.map (·.requestId) = inventory.replayTargetRequestIds := List.map_map
  have within {index : ℕ} (member : index ∈ List.range 20) : index ∈ List.range 100 := by
    rw [List.mem_range] at member ⊢
    omega
  simp only [AuthoritativeEvidenceInventory.replayInventoryValid, targets, Bool.and_eq_true, unique,
    decide_eq_true_eq, exactMembers_iff, numbered_iff, List.all_eq_true, List.any_eq_true, List.contains_iff_mem]
  refine ⟨⟨⟨⟨⟨⟨⟨⟨rfl, distinct⟩, ?_⟩, ?_⟩, rfl⟩, distinct⟩, distinct, .refl _⟩, .refl _, fun _ _ => trivial⟩, ?_⟩
  · intro id member
    obtain ⟨index, inside, rfl⟩ := List.mem_map.mp member
    exact List.mem_map_of_mem (within inside)
  · intro id member
    obtain ⟨index, inside, rfl⟩ := List.mem_map.mp member
    exact ⟨attempt index, List.mem_map_of_mem (within inside), rfl, rfl⟩
  · intro row member
    obtain ⟨index, _, rfl⟩ := List.mem_map.mp member
    exact ⟨digestText_valid, rfl⟩

/-- The characters of a text as a number, to tell the paths apart. -/
def characterSum (text : String) : ℕ := (text.toList.map Char.toNat).sum

theorem characterSum_append (first second : String) :
    characterSum (first ++ second) = characterSum first + characterSum second := by
  rw [characterSum, String.toList_append, List.map_append, List.sum_append]
  rfl

theorem expectedPaths_nodup : (expectedReliabilityArtifactPaths space "held-out" "plan" []).Nodup := by
  refine (perm_sortTexts _).nodup_iff.mpr (List.Nodup.of_map characterSum ?_)
  simp only [authorizationPath, receiptPath, AuthorizationKind.toText, claimPaths, manifestPaths, lanes,
    List.flatMap_cons, List.flatMap_nil, List.map_cons, List.map_nil, List.map_map, Function.comp_def,
    List.map_append, characterSum_append, space, Reliability.ProtocolVersion.artifactRoot,
    Reliability.ProtocolVersion.evidenceType]
  decide +kernel

theorem listed_nodup {paths : List String} (listed : paths.Sublist
    ([space.root ++ "/protocols/" ++ space.protocolArtifact,
      space.root ++ "/beacons/drand-" ++ toString space.beaconRound ++ ".json",
      space.root ++ "/plans/" ++ "plan" ++ ".json",
      authorizationPath space "held-out" .operator, authorizationPath space "held-out" .reconciliation,
      receiptPath space "held-out" .operator, receiptPath space "held-out" .reconciliation] ++
    claimPaths space "held-out" ++ manifestPaths space "held-out" ++
    [space.root ++ "/replay-preliminary/" ++ "held-out" ++ ".json"] ++ [])) : paths.Nodup :=
  listed.nodup ((perm_sortTexts _).nodup_iff.mp expectedPaths_nodup)

theorem claimPaths_nodup : (claimPaths space "held-out").Nodup :=
  listed_nodup (((List.sublist_append_right _ _).trans (List.sublist_append_left _ _)).trans
    ((List.sublist_append_left _ _).trans (List.sublist_append_left _ _)))

theorem manifestPaths_nodup : (manifestPaths space "held-out").Nodup :=
  listed_nodup ((List.sublist_append_right _ _).trans
    ((List.sublist_append_left _ _).trans (List.sublist_append_left _ _)))

theorem authorizations_valid : inventory.authorizationsValid space = true := by
  simp only [AuthoritativeEvidenceInventory.authorizationsValid, Bool.and_eq_true, exactMembers_iff]
  decide +kernel

theorem claims_valid : inventory.claimsValid space = true := by
  have paths : inventory.claims.map (·.path) = claimPaths space "held-out" := rfl
  simp only [AuthoritativeEvidenceInventory.claimsValid, paths, Bool.and_eq_true, decide_eq_true_eq,
    exactMembers_iff]
  obtain ⟨_, ⟨distinct, terminal, _⟩, _⟩ := computed
  exact ⟨⟨⟨rfl, distinct⟩, terminal⟩, claimPaths_nodup, .refl _⟩

theorem manifests_valid : inventory.manifestsValid space = true := by
  have paths : inventory.manifests.map (·.path) = manifestPaths space "held-out" :=
    List.map_map.trans (List.map_id _)
  simp only [AuthoritativeEvidenceInventory.manifestsValid, paths, Bool.and_eq_true, decide_eq_true_eq,
    exactMembers_iff]
  refine ⟨⟨rfl, List.all_eq_true.mpr fun row member => ?_⟩, manifestPaths_nodup, .refl _⟩
  obtain ⟨path, _, rfl⟩ := List.mem_map.mp member
  exact Bool.and_eq_true_iff.mpr ⟨rfl, digestText_valid⟩

theorem artifactPaths_valid : inventory.artifactPathsValid space = true := by
  simp only [AuthoritativeEvidenceInventory.artifactPathsValid, inventory, List.map_nil, exactMembers_iff]
  exact ⟨expectedPaths_nodup, .refl _⟩

/-- All calls were completed. -/
theorem outcomeCounts (state : OutcomeState) :
    inventory.outcomeCounts state = if state = .completedVerified then 100 else 0 := by
  unfold AuthoritativeEvidenceInventory.outcomeCounts inventory
  rw [List.filter_map, List.length_map]
  by_cases completed : state = .completedVerified
  · rw [if_pos completed, completed]
    rfl
  · rw [if_neg completed, List.length_eq_zero_iff, List.filter_eq_nil_iff]
    intro index _ same
    exact completed (of_decide_eq_true same).symm

theorem known_cost : inventory.knownCostValid = true := by
  obtain ⟨⟨_, cost, _, hundred, _, cap, _⟩, _⟩ := computed
  have known : inventory.authoritativeKnown = 100 := by
    unfold AuthoritativeEvidenceInventory.authoritativeKnown inventory
    simp only [List.map_map, Function.comp_def, attempt, reduceCtorEq, if_false, cost, Option.getD_some]
    decide
  simp only [AuthoritativeEvidenceInventory.knownCostValid, known]
  simp [inventory, hundred, cap]

theorem unresolved_exposure : inventory.unresolvedExposureValid = true := by
  have none : inventory.authoritativeUnresolved = 0 := by
    unfold AuthoritativeEvidenceInventory.authoritativeUnresolved inventory
    simp only [List.map_map, Function.comp_def, attempt, reduceCtorEq, if_false]
    decide
  obtain ⟨⟨_, _, _, _, zero, _, cap⟩, _⟩ := computed
  simp only [AuthoritativeEvidenceInventory.unresolvedExposureValid, none]
  simp [inventory, zero, cap]

theorem accepted : Accepted space inventory := by
  have distinct : unique inventory.requestIds = true := decide_eq_true (requestIds_nodup 100)
  have classified : inventory.attempts.all (·.gateClassificationCount = 1) = true := by
    refine List.all_eq_true.mpr fun row member => ?_
    obtain ⟨index, _, rfl⟩ := List.mem_map.mp member
    rfl
  have audits : inventory.replayAudits.all (·.writeSet.length = 0) = true := by
    refine List.all_eq_true.mpr fun row member => ?_
    obtain ⟨index, _, rfl⟩ := List.mem_map.mp member
    rfl
  have planned : inventory.requestIds.length = 100 := (List.length_map _).trans List.length_range
  have settled : inventory.settlementValid = true := by
    simp only [AuthoritativeEvidenceInventory.settlementValid, SettlementSummary.exceptRows, inventory,
      digestText_valid]
    decide
  obtain ⟨_, ⟨_, _, finalized⟩, _⟩ := computed
  have incidents : inventory.incidentsValid space = true := rfl
  simp only [Accepted, AuthoritativeEvidenceInventory.checks, List.forall_mem_cons, Bool.and_eq_true,
    decide_eq_true_eq, planned, distinct, attempts_valid, classified, matrix_valid, replay_valid, audits,
    authorizations_valid, claims_valid, manifests_valid, settled, known_cost, unresolved_exposure, finalized,
    incidents, artifactPaths_valid, AuthoritativeEvidenceInventory.usable,
    AuthoritativeEvidenceInventory.nonusable, outcomeCounts]
  simp

theorem namespace_found : reliabilityArtifactNamespace "held-out" = .ok space := by
  obtain ⟨_, _, valid, third, fourth⟩ := computed
  unfold reliabilityArtifactNamespace Reliability.protocolVersionForRunId
  rw [valid, third, fourth]
  rfl

theorem passes : Passes inventory := by
  have found : reliabilityArtifactNamespace inventory.runId = .ok space := namespace_found
  obtain ⟨report, reduced, passed⟩ := reduce_of_namespace found
  exact ⟨report, reduced, passed.mpr accepted⟩

/-- The same run with its attempts the other way round. -/
def turned : AuthoritativeEvidenceInventory := { inventory with attempts := inventory.attempts.reverse }

theorem reordered_turned : Reordered inventory turned := .of_attempts (List.reverse_perm _).symm

/-- The same run without its first claim. -/
def robbed : AuthoritativeEvidenceInventory := { inventory with claims := inventory.claims.tail }

theorem tampered_robbed : Tampered inventory robbed := .claims (.removed _ (.refl _))

theorem orderIndependent_and_tamperEvident_completed :
    reduceAuthoritativeReliabilityEvidence inventory = reduceAuthoritativeReliabilityEvidence turned ∧
      Fails robbed :=
  ⟨orderIndependent_and_tamperEvident.1 inventory turned reordered_turned,
    orderIndependent_and_tamperEvident.2 inventory robbed passes tampered_robbed⟩

end CompletedRun

end FuseControlPlane.Evidence
