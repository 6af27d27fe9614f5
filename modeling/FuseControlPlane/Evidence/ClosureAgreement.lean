/-
The settlement and the report find the same rows complete, but for the costs of usable outcomes.

* `StoredRows`, `SameRows`: rows as the tables keep them, and the inventory of the report with the same rows.
* `outcomeValid_iff`: the report asks of a request what the settlement asks, and that a usable outcome
  costs at most what was reserved for it.
* `ClosedRows`: what complete rows are, by the state of each attempt and for each replay.
* `closure_agrees_iff`: **settlement and report agree exactly if no usable outcome of complete rows costs more
  than was reserved for it**.
-/

import FuseControlPlane.Evidence.EvidenceTampering
import FuseControlPlane.Evidence.SettlementClosure

set_option linter.unusedSectionVars false

namespace FuseControlPlane.Evidence

open Foundation Foundation.JavaScript Core

/-! ### A request with at most one row in each table -/

/-- The resolutions that belong to a state. -/
def resolutionsMatch (state : OutcomeState) (rows : List AuthoritativeReconciliationRow) : Prop :=
  match state with
  | .completedVerified | .notDispatched => rows = []
  | .unresolvedProviderOutcome => ∃ row, rows = [row] ∧ row.terminalState = state ∧ row.accepted = false
  | _ => ∃ row, rows = [row] ∧ row.terminalState = state ∧ row.accepted = true

/-- An outcome costs at most what was reserved for it. -/
def WithinReservation (attempt : AuthoritativeAttemptRow) : Prop :=
  ∀ actual reservation, exactNonnegativeMicros attempt.actualCostMicros = some actual →
    exactNonnegativeMicros (some attempt.reservedCostMicros) = some reservation → actual ≤ reservation

namespace RequestRows

/-- The rows of a request of which there is one. -/
def only (rows : RequestRows) : OnlyRows where
  execution := sole rows.executions
  decision := sole rows.decisions
  token := sole rows.tokens
  queue := sole rows.queues
  evidence := sole rows.evidence

/-- No table has two rows of the request. -/
structure AtMostOne (rows : RequestRows) : Prop where
  executions : rows.executions.length ≤ 1
  decisions : rows.decisions.length ≤ 1
  tokens : rows.tokens.length ≤ 1
  queues : rows.queues.length ≤ 1
  evidence : rows.evidence.length ≤ 1

end RequestRows

section Sole

variable {ρ : Type} {rows : List ρ}

theorem length_eq_zero_iff_sole (atMost : rows.length ≤ 1) : rows.length = 0 ↔ (sole rows).isNone = true := by
  match rows, atMost with
  | [], _ => exact iff_of_true rfl rfl
  | [row], _ => exact iff_of_false Nat.one_ne_zero Bool.false_ne_true

theorem length_eq_one_iff_sole (atMost : rows.length ≤ 1) : rows.length = 1 ↔ (sole rows).isSome = true := by
  match rows, atMost with
  | [], _ => exact iff_of_false Nat.zero_ne_one Bool.false_ne_true
  | [row], _ => exact iff_of_true rfl rfl

end Sole

theorem zeroCost_iff {value : Option String} : exactNonnegativeMicros value = some 0 ↔ value = some "0" := by
  have zero : exactNonnegativeMicros (some "0") = some 0 := by decide +kernel
  constructor
  · intro none
    exact exactNonnegativeMicros_inj none zero
  · rintro rfl
    exact zero

section Outcome

variable {rows : RequestRows} {attempt : ClosureAttemptRow} {reservation : ℕ} (atMost : rows.AtMostOne)
  (atomic : ∀ text, attempt.actualCostMicros = some text → isAtomic text = true)
  (reserved : exactNonnegativeMicros (some attempt.reservedCostMicros) = some reservation)
  (resolved : resolutionsMatch attempt.state rows.reconciliation)

include atomic in
theorem knownCost_iff : (exactNonnegativeMicros attempt.actualCostMicros).isSome = true ↔
    attempt.actualCostMicros.isSome = true := by
  cases cost : attempt.actualCostMicros with
  | none => exact Iff.rfl
  | some text =>
    rw [exactNonnegativeMicros, Option.filter_some, if_pos (atomic text cost)]
    exact Iff.rfl

include reserved in
theorem withinReservation_iff : WithinReservation attempt.toAuthoritativeAttemptRow ↔
    ∀ actual, exactNonnegativeMicros attempt.actualCostMicros = some actual → actual ≤ reservation := by
  unfold WithinReservation
  rw [reserved]
  exact forall_congr' fun actual => ⟨fun within known => within reservation known rfl,
    fun within other known same => Option.some.inj same ▸ within known⟩

include atomic reserved in
/-- The cost that the report asks of a usable outcome. -/
theorem reportCost_iff : ((exactNonnegativeMicros attempt.actualCostMicros).any fun actual => actual ≤ reservation) =
    true ↔ attempt.actualCostMicros.isSome = true ∧ WithinReservation attempt.toAuthoritativeAttemptRow := by
  rw [← knownCost_iff atomic, withinReservation_iff reserved, Option.any_eq_true]
  cases exactNonnegativeMicros attempt.actualCostMicros with
  | none => simp
  | some actual => simp

/-- The settlement asks for a safe integer as well. -/
theorem queueAttempts_eq : (fun queue : AuthoritativeShadowQueueRow =>
    decide (queue.state = .completed) && isSafeInteger queue.attempts && decide (1 ≤ queue.attempts) &&
      decide (queue.attempts ≤ 3)) =
    fun queue => decide (queue.state = .completed) && decide (1 ≤ queue.attempts) && decide (queue.attempts ≤ 3) := by
  funext queue
  by_cases few : 1 ≤ queue.attempts ∧ queue.attempts ≤ 3
  · have safe : isSafeInteger queue.attempts = true := by
      unfold isSafeInteger
      rw [decide_eq_true_eq]
      omega
    rw [safe, Bool.and_true]
  · have many : (decide (1 ≤ queue.attempts) && decide (queue.attempts ≤ 3)) = false := by
      rw [← Bool.decide_and]
      exact decide_eq_false few
    rw [Bool.and_assoc, many, Bool.and_false, Bool.and_assoc, many, Bool.and_false]

include atMost atomic reserved resolved in
theorem usable_iff (usable : attempt.state.isUsable = true) :
    rows.behavioralValid attempt.toAuthoritativeAttemptRow reservation = true ↔
      rows.only.usableValid attempt = true ∧ WithinReservation attempt.toAuthoritativeAttemptRow := by
  have resolution : (if attempt.state = .completedVerified then decide (rows.reconciliation.length = 0)
      else hasAcceptedResolution rows.reconciliation attempt.state) = true := by
    unfold OutcomeState.isUsable at usable
    rw [Bool.or_eq_true, decide_eq_true_eq, decide_eq_true_eq] at usable
    rcases usable with state | state <;> rw [state] at resolved ⊢
    · exact decide_eq_true (List.length_eq_zero_iff.mpr resolved)
    · obtain ⟨row, only, terminal, accepted⟩ := resolved
      rw [only, if_neg (by decide)]
      simp [hasAcceptedResolution, one, sole, terminal, accepted]
  unfold RequestRows.behavioralValid OnlyRows.usableValid
  rw [resolution, queueAttempts_eq, Bool.and_true]
  simp only [Bool.and_eq_true, reportCost_iff atomic reserved, decide_eq_true_eq,
    length_eq_one_iff_sole atMost.evidence]
  show (_ ∧ _) ↔ _
  constructor
  · rintro ⟨⟨⟨⟨⟨executed, allowed⟩, entered⟩, known, within⟩, queued⟩, evidence⟩
    exact ⟨⟨⟨⟨⟨⟨executed, allowed⟩, entered⟩, queued⟩, evidence⟩, known⟩, within⟩
  · rintro ⟨⟨⟨⟨⟨⟨executed, allowed⟩, entered⟩, queued⟩, evidence⟩, known⟩, within⟩
    exact ⟨⟨⟨⟨⟨executed, allowed⟩, entered⟩, known, within⟩, queued⟩, evidence⟩

include atMost resolved in
theorem notDispatched_iff (state : attempt.state = .notDispatched) :
    rows.notDispatchedValid attempt.toAuthoritativeAttemptRow = true ↔ rows.only.notDispatchedValid attempt = true := by
  rw [state] at resolved
  have none : rows.reconciliation.length = 0 := List.length_eq_zero_iff.mpr resolved
  unfold RequestRows.notDispatchedValid OnlyRows.notDispatchedValid
  simp only [Bool.and_eq_true, Bool.or_eq_true, decide_eq_true_eq, none, and_true, zeroCost_iff,
    length_eq_zero_iff_sole atMost.executions, length_eq_zero_iff_sole atMost.decisions,
    length_eq_zero_iff_sole atMost.tokens]
  exact Iff.rfl

include resolved in
theorem unresolved_iff (state : attempt.state = .unresolvedProviderOutcome) :
    rows.unresolvedValid attempt.toAuthoritativeAttemptRow = true ↔ rows.only.unresolvedValid = true := by
  have pending : (one rows.reconciliation fun row => decide (row.terminalState = attempt.state) && !row.accepted) =
      true := by
    rw [state] at resolved ⊢
    obtain ⟨row, only, terminal, refused⟩ := resolved
    simp [only, one, sole, terminal, refused]
  unfold RequestRows.unresolvedValid
  rw [pending, Bool.and_true]
  exact Iff.rfl

include atomic resolved in
theorem failed_iff (unusable : attempt.state.isUsable = false) (dispatched : attempt.state ≠ .notDispatched)
    (settled : attempt.state ≠ .unresolvedProviderOutcome) :
    rows.failedValid attempt.toAuthoritativeAttemptRow = true ↔ rows.only.failedValid attempt = true := by
  have resolution : hasAcceptedResolution rows.reconciliation attempt.state = true := by
    cases state : attempt.state <;> rw [state] at resolved unusable dispatched settled
    case notDispatched => exact absurd rfl dispatched
    case unresolvedProviderOutcome => exact absurd rfl settled
    case completedVerified | reconciledBilledWithResponse => cases unusable
    all_goals
      obtain ⟨row, only, terminal, accepted⟩ := resolved
      simp [only, hasAcceptedResolution, one, sole, terminal, accepted]
  have cost : (if attempt.state = .terminalRejectedNotBilled || attempt.state = .reconciledNotBilled then
        decide (exactNonnegativeMicros attempt.actualCostMicros = some 0)
      else (exactNonnegativeMicros attempt.actualCostMicros).isSome) = true ↔
      (if attempt.state = .terminalRejectedNotBilled || attempt.state = .reconciledNotBilled then
        decide (attempt.actualCostMicros = some "0")
      else decide (attempt.state ≠ .reconciledBilledNoResponse) || attempt.actualCostMicros.isSome) = true := by
    split
    · rw [decide_eq_true_eq, decide_eq_true_eq, zeroCost_iff]
    · next billed =>
      have state : attempt.state = .reconciledBilledNoResponse := by
        cases state : attempt.state <;> rw [state] at unusable dispatched settled billed <;> simp_all [OutcomeState.isUsable]
      rw [state, knownCost_iff atomic]
      simp
  unfold RequestRows.failedValid OnlyRows.failedValid
  simp only [resolution, Bool.and_true, Bool.and_eq_true]
  exact and_congr_right fun _ => cost

include atMost atomic reserved resolved in
/-- **The report asks of a request what the settlement asks, and a bound on the cost of a usable outcome.** -/
theorem outcomeValid_iff : rows.attemptValid attempt.toAuthoritativeAttemptRow = true ↔
    rows.only.outcomeValid attempt = true ∧
      (attempt.state.isUsable = true → WithinReservation attempt.toAuthoritativeAttemptRow) := by
  unfold RequestRows.attemptValid OnlyRows.outcomeValid
  rw [reserved]
  dsimp only
  by_cases usable : attempt.state.isUsable = true
  · rw [if_pos usable, if_pos usable, usable_iff atMost atomic reserved resolved usable]
    exact and_congr_right fun _ => (imp_iff_right usable).symm
  · have unusable := Bool.eq_false_iff.mpr usable
    rw [if_neg usable, if_neg usable, and_iff_left fun isUsable => absurd isUsable usable]
    simp only [Bool.and_eq_true, decide_eq_true_eq, length_eq_zero_iff_sole atMost.queues,
      length_eq_zero_iff_sole atMost.evidence]
    refine and_congr_right fun _ => ?_
    have failed := failed_iff atomic resolved unusable
    cases state : attempt.state <;> rw [state] at failed unusable
    case notDispatched => exact notDispatched_iff atMost resolved state
    case unresolvedProviderOutcome => exact unresolved_iff resolved state
    case completedVerified | reconciledBilledWithResponse => cases unusable
    all_goals exact failed (by decide) (by decide)

end Outcome

/-! ### Complete rows -/

/-- The rows of a request of which the outcome and its cost are settled. -/
inductive ClosedOutcome : OutcomeState → Option String → OnlyRows → Prop
  | usable {state : OutcomeState} {cost : String} {execution : AuthoritativeExecutionRow}
      {decision : AuthoritativeDecisionRow} {token : AuthoritativeDispatchTokenRow}
      {queue : AuthoritativeShadowQueueRow} {evidence : ShadowEvidenceRow} {ordinal : ℤ}
      (isUsable : state.isUsable = true) (completed : execution.status = .completed)
      (costs : execution.actualCostMicros = some cost) (queued : execution.shadowOrderState = some .queued)
      (ordinals : execution.cohortOrdinal = some ordinal) (ordinalSafe : isSafeInteger ordinal = true)
      (ordinalFrom : 1 ≤ ordinal) (allowed : decision.outcome = .allow) (entered : token.primitiveEntered = true)
      (evaluated : queue.state = .completed) (attempts : 1 ≤ queue.attempts ∧ queue.attempts ≤ 3) :
      ClosedOutcome state (some cost) ⟨some execution, some decision, some token, some queue, some evidence⟩
  | beforeAdmission : ClosedOutcome .notDispatched (some "0") ⟨none, none, none, none, none⟩
  | denied {execution : AuthoritativeExecutionRow} {decision : AuthoritativeDecisionRow}
      (status : execution.status = .denied) (outcome : decision.outcome = .deny) :
      ClosedOutcome .notDispatched (some "0") ⟨some execution, some decision, none, none, none⟩
  | beforeToken {execution : AuthoritativeExecutionRow} {decision : AuthoritativeDecisionRow}
      (status : execution.status = .failed) (outcome : decision.outcome = .allow) :
      ClosedOutcome .notDispatched (some "0") ⟨some execution, some decision, none, none, none⟩
  | beforePrimitive {execution : AuthoritativeExecutionRow} {decision : AuthoritativeDecisionRow}
      {token : AuthoritativeDispatchTokenRow} (status : execution.status = .failed)
      (outcome : decision.outcome = .allow) (proof : token.preDispatchProof = true)
      (outside : token.primitiveEntered = false) :
      ClosedOutcome .notDispatched (some "0") ⟨some execution, some decision, some token, none, none⟩
  | unresolved {cost : Option String} {execution : AuthoritativeExecutionRow} {decision : AuthoritativeDecisionRow}
      {token : AuthoritativeDispatchTokenRow} (status : execution.status = .reconciliationHold)
      (outcome : decision.outcome = .allow) (entered : token.primitiveEntered = true) :
      ClosedOutcome .unresolvedProviderOutcome cost ⟨some execution, some decision, some token, none, none⟩
  | notBilled {state : OutcomeState} {execution : AuthoritativeExecutionRow} {decision : AuthoritativeDecisionRow}
      {token : AuthoritativeDispatchTokenRow}
      (free : state = .terminalRejectedNotBilled ∨ state = .reconciledNotBilled) (status : execution.status = .failed)
      (outcome : decision.outcome = .allow) (entered : token.primitiveEntered = true) :
      ClosedOutcome state (some "0") ⟨some execution, some decision, some token, none, none⟩
  | noResponse {cost : String} {execution : AuthoritativeExecutionRow} {decision : AuthoritativeDecisionRow}
      {token : AuthoritativeDispatchTokenRow} (status : execution.status = .failed)
      (outcome : decision.outcome = .allow) (entered : token.primitiveEntered = true) :
      ClosedOutcome .reconciledBilledNoResponse (some cost)
        ⟨some execution, some decision, some token, none, none⟩

theorem outcomeValid_of_closed {only : OnlyRows} {attempt : ClosureAttemptRow}
    (closed : ClosedOutcome attempt.state attempt.actualCostMicros only) : only.outcomeValid attempt = true := by
  generalize costs : attempt.actualCostMicros = cost at closed
  generalize states : attempt.state = state at closed
  unfold OnlyRows.outcomeValid
  rw [states]
  cases closed with
  | usable isUsable completed actual queued ordinals ordinalSafe ordinalFrom allowed entered evaluated attempts =>
    rw [if_pos isUsable]
    simp only [OnlyRows.usableValid, queueAttempts_eq]
    simp [OnlyRows.decided, OnlyRows.entered, costs, completed, actual, queued, ordinals, ordinalSafe, ordinalFrom,
      allowed, entered, evaluated, attempts]
  | beforeAdmission => simp [OnlyRows.notDispatchedValid, costs, OutcomeState.isUsable]
  | denied status outcome =>
    simp [OnlyRows.notDispatchedValid, OnlyRows.executed, OnlyRows.decided, costs, OutcomeState.isUsable, status,
      outcome]
  | beforeToken status outcome =>
    simp [OnlyRows.notDispatchedValid, OnlyRows.executed, OnlyRows.decided, costs, OutcomeState.isUsable, status,
      outcome]
  | beforePrimitive status outcome proof outside =>
    simp [OnlyRows.notDispatchedValid, OnlyRows.executed, OnlyRows.decided, costs, OutcomeState.isUsable, status,
      outcome, proof, outside]
  | unresolved status outcome entered =>
    simp [OnlyRows.unresolvedValid, OnlyRows.executed, OnlyRows.decided, OnlyRows.entered, OutcomeState.isUsable,
      status, outcome, entered]
  | notBilled free status outcome entered =>
    rcases free with rfl | rfl <;>
      simp [OnlyRows.failedValid, OnlyRows.executed, OnlyRows.decided, OnlyRows.entered, OutcomeState.isUsable,
        states, costs, status, outcome, entered]
  | noResponse status outcome entered =>
    simp [OnlyRows.failedValid, OnlyRows.executed, OnlyRows.decided, OnlyRows.entered, OutcomeState.isUsable,
      states, costs, status, outcome, entered]

theorem closed_of_usable {only : OnlyRows} {attempt : ClosureAttemptRow} (usable : attempt.state.isUsable = true)
    (valid : only.usableValid attempt = true) : ClosedOutcome attempt.state attempt.actualCostMicros only := by
  obtain ⟨execution, decision, token, queue, evidence⟩ := only
  simp only [OnlyRows.usableValid, queueAttempts_eq, OnlyRows.decided, OnlyRows.entered, Bool.and_eq_true,
    Option.any_eq_true, Option.isSome_iff_exists, decide_eq_true_eq] at valid
  obtain ⟨⟨⟨⟨⟨executed, allowed⟩, entered⟩, queued⟩, evaluated⟩, known⟩ := valid
  obtain ⟨execution, rfl, ⟨⟨completed, actual⟩, ordered⟩, ordinal, ordinals, safe, positive⟩ := executed
  obtain ⟨decision, rfl, outcome⟩ := allowed
  obtain ⟨token, rfl, primitive⟩ := entered
  obtain ⟨queue, rfl, ⟨done, least⟩, most⟩ := queued
  obtain ⟨evidence, rfl⟩ := evaluated
  obtain ⟨cost, costs⟩ := known
  rw [costs] at actual ⊢
  exact .usable usable completed actual ordered ordinals safe positive outcome primitive done ⟨least, most⟩

theorem closed_of_notDispatched {only : OnlyRows} {attempt : ClosureAttemptRow}
    (queue : only.queue = none) (evidence : only.evidence = none) (valid : only.notDispatchedValid attempt = true) :
    ClosedOutcome .notDispatched attempt.actualCostMicros only := by
  obtain ⟨execution, decision, token, _, _⟩ := only
  cases queue
  cases evidence
  simp only [OnlyRows.notDispatchedValid, OnlyRows.executed, OnlyRows.decided, Bool.and_eq_true, Bool.or_eq_true,
    Option.any_eq_true, Option.isNone_iff_eq_none, decide_eq_true_eq, Bool.not_eq_true'] at valid
  obtain ⟨rows, costs⟩ := valid
  rw [costs]
  obtain ((⟨⟨rfl, rfl⟩, rfl⟩ | ⟨⟨⟨_, rfl, status⟩, _, rfl, outcome⟩, rfl⟩) |
    ⟨⟨⟨_, rfl, status⟩, _, rfl, outcome⟩, rfl⟩) | ⟨⟨⟨_, rfl, status⟩, _, rfl, outcome⟩, _, rfl, proof, outside⟩ := rows
  · exact .beforeAdmission
  · exact .denied status outcome
  · exact .beforeToken status outcome
  · exact .beforePrimitive status outcome proof outside

theorem exists_of_failedValid {only : OnlyRows} {attempt : ClosureAttemptRow}
    (queue : only.queue = none) (evidence : only.evidence = none) (valid : only.failedValid attempt = true) :
    ∃ execution decision token, only = ⟨some execution, some decision, some token, none, none⟩ ∧
      execution.status = .failed ∧ decision.outcome = .allow ∧ token.primitiveEntered = true ∧
      (if attempt.state = .terminalRejectedNotBilled || attempt.state = .reconciledNotBilled then
        decide (attempt.actualCostMicros = some "0")
      else decide (attempt.state ≠ .reconciledBilledNoResponse) || attempt.actualCostMicros.isSome) = true := by
  obtain ⟨execution, decision, token, _, _⟩ := only
  cases queue
  cases evidence
  rw [OnlyRows.failedValid, Bool.and_eq_true, Bool.and_eq_true, Bool.and_eq_true] at valid
  obtain ⟨⟨⟨failed, allowed⟩, entered⟩, costs⟩ := valid
  obtain ⟨execution, rfl, status⟩ := (Option.any_eq_true _ _).mp failed
  obtain ⟨decision, rfl, outcome⟩ := (Option.any_eq_true _ _).mp allowed
  obtain ⟨token, rfl, primitive⟩ := (Option.any_eq_true _ _).mp entered
  exact ⟨execution, decision, token, rfl, of_decide_eq_true status, of_decide_eq_true outcome, primitive, costs⟩

theorem closed_of_outcomeValid {only : OnlyRows} {attempt : ClosureAttemptRow}
    (valid : only.outcomeValid attempt = true) : ClosedOutcome attempt.state attempt.actualCostMicros only := by
  unfold OnlyRows.outcomeValid at valid
  by_cases usable : attempt.state.isUsable = true
  · rw [if_pos usable] at valid
    exact closed_of_usable usable valid
  rw [if_neg usable, Bool.and_eq_true, Bool.and_eq_true, Option.isNone_iff_eq_none, Option.isNone_iff_eq_none] at valid
  obtain ⟨⟨queue, evidence⟩, valid⟩ := valid
  cases state : attempt.state <;> rw [state] at valid usable
  case completedVerified | reconciledBilledWithResponse => exact absurd rfl usable
  case notDispatched => exact closed_of_notDispatched queue evidence valid
  case unresolvedProviderOutcome =>
    obtain ⟨execution, decision, token, _, _⟩ := only
    cases queue
    cases evidence
    simp only [OnlyRows.unresolvedValid, OnlyRows.executed, OnlyRows.decided, OnlyRows.entered, Bool.and_eq_true,
      Option.any_eq_true, decide_eq_true_eq] at valid
    obtain ⟨⟨⟨_, rfl, status⟩, _, rfl, outcome⟩, _, rfl, entered⟩ := valid
    exact .unresolved status outcome entered
  case terminalRejectedNotBilled =>
    obtain ⟨_, _, _, rfl, status, outcome, entered, costs⟩ := exists_of_failedValid queue evidence valid
    rw [state] at costs
    rw [of_decide_eq_true costs]
    exact .notBilled (.inl rfl) status outcome entered
  case reconciledNotBilled =>
    obtain ⟨_, _, _, rfl, status, outcome, entered, costs⟩ := exists_of_failedValid queue evidence valid
    rw [state] at costs
    rw [of_decide_eq_true costs]
    exact .notBilled (.inr rfl) status outcome entered
  case reconciledBilledNoResponse =>
    obtain ⟨_, _, _, rfl, status, outcome, entered, costs⟩ := exists_of_failedValid queue evidence valid
    rw [state] at costs
    obtain ⟨cost, known⟩ := Option.isSome_iff_exists.mp costs
    rw [known]
    exact .noResponse status outcome entered

/-- **The settlement accepts the rows of a request exactly if its outcome is closed.** -/
theorem outcomeValid_iff_closed {only : OnlyRows} {attempt : ClosureAttemptRow} :
    only.outcomeValid attempt = true ↔ ClosedOutcome attempt.state attempt.actualCostMicros only :=
  ⟨closed_of_outcomeValid, outcomeValid_of_closed⟩

/-! ### The rows of a run -/

/-- The rows of a table with one row for a request, all of them of sealed calls. -/
structure Keyed {ρ : Type} [RequestRow ρ] (sealedIds : List String) (rows : List ρ) : Prop where
  keys : (rows.map RequestRow.requestId).Nodup
  sealed : ∀ row ∈ rows, RequestRow.requestId row ∈ sealedIds

/-- Rows as the tables of a run with a hundred sealed calls keep them. -/
structure StoredRows (rows : EvidenceClosureRows) (schedule : List SealedWindow)
    (reconciliation : List AuthoritativeReconciliationRow) : Prop where
  calls : rows.sealedCalls.length = 100
  distinct : rows.sealedIds.Nodup
  windows : ∀ call ∈ rows.sealedCalls, 1 ≤ call.block ∧ call.block ≤ schedule.length
  attempts : (rows.attempts.map (·.requestId)).Perm rows.sealedIds
  executions : Keyed rows.sealedIds rows.executions
  decisions : Keyed rows.sealedIds rows.decisions
  dispatchTokens : Keyed rows.sealedIds rows.dispatchTokens
  shadowQueue : Keyed rows.sealedIds rows.shadowQueue
  shadowEvidence : Keyed rows.sealedIds rows.shadowEvidence
  /-- Costs are columns of whole numbers from zero on. -/
  costs : ∀ attempt ∈ rows.attempts, ∀ text, attempt.actualCostMicros = some text → isAtomic text = true
  reservations : ∀ attempt ∈ rows.attempts, isAtomic attempt.reservedCostMicros = true
  resolved : ∀ attempt ∈ rows.attempts, resolutionsMatch attempt.state (rowsFor reconciliation attempt.requestId)
  reconciled : ∀ row ∈ reconciliation, row.requestId ∈ rows.sealedIds

namespace EvidenceClosureRows

/-- The inventory of the report with these rows. -/
def inventory (rows : EvidenceClosureRows) (targets : List String) (input : AuthoritativeEvidenceInventory) :
    AuthoritativeEvidenceInventory :=
  { input with
    requestIds := rows.sealedIds
    replayTargetRequestIds := targets
    attempts := rows.attempts.map (·.toAuthoritativeAttemptRow)
    executions := rows.executions
    decisions := rows.decisions
    dispatchTokens := rows.dispatchTokens
    shadowQueue := rows.shadowQueue
    shadowEvidence := rows.shadowEvidence
    replayAudits := rows.replayAudits }

/-- The outcomes of all attempts are closed, and each was classified once. -/
def OutcomesClosed (rows : EvidenceClosureRows) : Prop :=
  ∀ attempt ∈ rows.attempts, attempt.gateClassificationCount = 1 ∧
    ClosedOutcome attempt.state attempt.actualCostMicros (rows.onlyRows attempt.requestId)

/-- No usable outcome costs more than was reserved for it. -/
def CostsReserved (rows : EvidenceClosureRows) : Prop :=
  ∀ attempt ∈ rows.attempts, attempt.state.isUsable = true → WithinReservation attempt.toAuthoritativeAttemptRow

/-- Twenty sealed calls with usable outcomes were replayed, one after the other and without a write. -/
structure ReplaysComplete (rows : EvidenceClosureRows) (targets : List String) : Prop where
  twenty : targets.length = 20
  distinct : targets.Nodup
  sealed : ∀ id ∈ targets, id ∈ rows.sealedIds
  audited : (rows.replayAudits.map (·.requestId)).Perm targets
  numbered : (rows.replayAudits.map (·.replayNo)).Perm
    ((List.range rows.replayAudits.length).map fun index : ℕ => (index : ℤ) + 1)
  committed : ∀ audit ∈ rows.replayAudits, isSha256Text audit.originalResponseCommitment = true ∧
    audit.originalResponseCommitment = audit.replayResponseCommitment
  unwritten : ∀ audit ∈ rows.replayAudits, audit.writeSet.length = 0
  usable : ∀ audit ∈ rows.replayAudits, ∃ attempt ∈ rows.attempts,
    attempt.requestId = audit.requestId ∧ attempt.state.isUsable = true

end EvidenceClosureRows

theorem Keyed.length_le {ρ : Type} [RequestRow ρ] {sealedIds : List String} {rows : List ρ}
    (keyed : Keyed sealedIds rows) (requestId : String) : (rowsFor rows requestId).length ≤ 1 := by
  have keys : ((rowsFor rows requestId).map RequestRow.requestId).Nodup :=
    keyed.keys.sublist (List.filter_sublist.map _)
  match found : rowsFor rows requestId with
  | [] => exact Nat.zero_le 1
  | [_] => exact le_rfl
  | first :: second :: rest =>
    have own {row : ρ} (member : row ∈ rowsFor rows requestId) : RequestRow.requestId row = requestId :=
      of_decide_eq_true (List.mem_filter.mp member).2
    have same : RequestRow.requestId first = RequestRow.requestId second :=
      (own (by simp [found])).trans (own (by simp [found])).symm
    rw [found, List.map_cons, List.map_cons, same] at keys
    exact absurd (List.mem_cons_self ..) (List.nodup_cons.mp keys).1

section Stored

variable {rows : EvidenceClosureRows} {schedule : List SealedWindow} {targets : List String}
  {input : AuthoritativeEvidenceInventory}

/-! ### The outcomes -/

theorem outcomeMatrixValid_iff : rows.outcomeMatrixValid = true ↔ rows.OutcomesClosed := by
  unfold EvidenceClosureRows.outcomeMatrixValid EvidenceClosureRows.OutcomesClosed
  rw [List.all_eq_true]
  refine forall₂_congr fun attempt _ => ?_
  rw [OnlyRows.attemptValid, Bool.and_eq_true, decide_eq_true_eq, outcomeValid_iff_closed]

variable (stored : StoredRows rows schedule input.reconciliation)

include stored

/-- The attempts are those of the sealed calls. -/
theorem StoredRows.attemptsValid : (rows.inventory targets input).attemptsValid = true := by
  have ids : (rows.inventory targets input).attempts.map (·.requestId) = rows.attempts.map (·.requestId) :=
    List.map_map
  have distinct : (rows.attempts.map (·.requestId)).Nodup := stored.attempts.nodup_iff.mpr stored.distinct
  have length : rows.attempts.length = 100 := by
    have lengths := stored.attempts.length_eq
    rwa [List.length_map, EvidenceClosureRows.sealedIds, List.length_map, stored.calls] at lengths
  simp only [AuthoritativeEvidenceInventory.attemptsValid, ids, Bool.and_eq_true, decide_eq_true_eq, unique,
    exactMembers_iff]
  refine ⟨⟨⟨?_, distinct⟩, distinct, stored.attempts⟩, List.all_eq_true.mpr fun row _ => ?_⟩
  · exact (List.length_map _).trans length
  · cases row.state <;> rfl

/-- **What the report asks of a request beyond the settlement is a bound on its cost.** -/
theorem StoredRows.attempt_iff {attempt : ClosureAttemptRow} (member : attempt ∈ rows.attempts) :
    ((rows.inventory targets input).rowsOf attempt.requestId).attemptValid attempt.toAuthoritativeAttemptRow = true ↔
      ClosedOutcome attempt.state attempt.actualCostMicros (rows.onlyRows attempt.requestId) ∧
        (attempt.state.isUsable = true → WithinReservation attempt.toAuthoritativeAttemptRow) := by
  have reserved : exactNonnegativeMicros (some attempt.reservedCostMicros) =
      some (digitsValue attempt.reservedCostMicros.toList) := by
    rw [exactNonnegativeMicros, Option.filter_some, if_pos (stored.reservations attempt member)]
    rfl
  have atMost : ((rows.inventory targets input).rowsOf attempt.requestId).AtMostOne :=
    { executions := stored.executions.length_le _
      decisions := stored.decisions.length_le _
      tokens := stored.dispatchTokens.length_le _
      queues := stored.shadowQueue.length_le _
      evidence := stored.shadowEvidence.length_le _ }
  rw [outcomeValid_iff atMost (stored.costs attempt member) reserved (stored.resolved attempt member),
    outcomeValid_iff_closed]
  exact Iff.rfl

theorem StoredRows.matrixValid_iff : (rows.inventory targets input).matrixValid = true ↔
    (∀ attempt ∈ rows.attempts,
      ClosedOutcome attempt.state attempt.actualCostMicros (rows.onlyRows attempt.requestId)) ∧ rows.CostsReserved := by
  have planned {ρ : Type} [RequestRow ρ] {table : List ρ} (sealed : ∀ row ∈ table,
      RequestRow.requestId row ∈ rows.sealedIds) : (rows.inventory targets input).planned table = true :=
    List.all_eq_true.mpr fun row member => List.contains_iff_mem.mpr (sealed row member)
  have each : ((rows.inventory targets input).attempts.all fun attempt =>
      ((rows.inventory targets input).rowsOf attempt.requestId).attemptValid attempt) = true ↔
      ∀ attempt ∈ rows.attempts,
        ClosedOutcome attempt.state attempt.actualCostMicros (rows.onlyRows attempt.requestId) ∧
          (attempt.state.isUsable = true → WithinReservation attempt.toAuthoritativeAttemptRow) := by
    rw [List.all_eq_true]
    exact List.forall_mem_map.trans (forall₂_congr fun _ member => stored.attempt_iff member)
  unfold AuthoritativeEvidenceInventory.matrixValid
  simp only [Bool.and_eq_true, each]
  constructor
  · rintro ⟨⟨⟨⟨⟨⟨outcomes, _⟩, _⟩, _⟩, _⟩, _⟩, _⟩
    exact ⟨fun attempt member => (outcomes attempt member).1, fun attempt member => (outcomes attempt member).2⟩
  · rintro ⟨closed, reserved⟩
    exact ⟨⟨⟨⟨⟨⟨fun attempt member => ⟨closed attempt member, reserved attempt member⟩,
      planned stored.executions.sealed⟩, planned stored.decisions.sealed⟩, planned stored.dispatchTokens.sealed⟩,
      planned stored.shadowQueue.sealed⟩, planned stored.shadowEvidence.sealed⟩, planned stored.reconciled⟩

/-! ### The replays -/

omit stored in
theorem exactIds_iff {actual expected : List String} :
    exactIds actual expected = true ↔ actual.Nodup ∧ actual.Perm expected := by
  simp only [exactIds, unique, Bool.and_eq_true, decide_eq_true_eq, List.all_eq_true, List.contains_iff_mem]
  constructor
  · rintro ⟨⟨⟨distinct, _⟩, lengths⟩, listed⟩
    exact ⟨distinct, (List.subperm_of_subset distinct listed).perm_of_length_le lengths.ge⟩
  · rintro ⟨distinct, perm⟩
    exact ⟨⟨⟨distinct, perm.nodup_iff.mp distinct⟩, perm.length_eq⟩, fun id => perm.mem_iff.mp⟩

/-- A sealed call has an attempt, and no other. -/
theorem StoredRows.hasUsable_eq {requestId : String} (sealed : requestId ∈ rows.sealedIds) :
    rows.hasUsable requestId =
      .ok (rows.attempts.any fun attempt => attempt.requestId = requestId && attempt.state.isUsable) := by
  have distinct : (rows.attempts.map (·.requestId)).Nodup := stored.attempts.nodup_iff.mpr stored.distinct
  unfold EvidenceClosureRows.hasUsable
  cases found : rows.attempts.find? fun attempt => decide (attempt.requestId = requestId) with
  | none =>
    obtain ⟨attempt, member, own⟩ := List.mem_map.mp (stored.attempts.mem_iff.mpr sealed)
    exact absurd (decide_eq_true own) (List.find?_eq_none.mp found attempt member)
  | some attempt =>
    have member := List.mem_of_find?_eq_some found
    have same := List.find?_some found
    have own : attempt.requestId = requestId := of_decide_eq_true same
    refine congrArg Except.ok ?_
    rw [Bool.eq_iff_iff, List.any_eq_true]
    constructor
    · intro usable
      exact ⟨attempt, member, Bool.and_eq_true_iff.mpr ⟨decide_eq_true own, usable⟩⟩
    · rintro ⟨other, inside, both⟩
      obtain ⟨same, usable⟩ := Bool.and_eq_true_iff.mp both
      have equal := List.inj_on_of_nodup_map distinct inside member ((of_decide_eq_true same).trans own.symm)
      rwa [← equal]

/-- Whether an audit is fine apart from its number. -/
def auditFine (rows : EvidenceClosureRows) (audit : AuthoritativeReplayAuditRow) : Bool :=
  isSha256Text audit.originalResponseCommitment && audit.originalResponseCommitment = audit.replayResponseCommitment &&
    audit.writeSet.length = 0 &&
    rows.attempts.any fun attempt => attempt.requestId = audit.requestId && attempt.state.isUsable

theorem StoredRows.everyAudit_eq {audits : List (AuthoritativeReplayAuditRow × ℕ)}
    (sealed : ∀ audit ∈ audits, audit.1.requestId ∈ rows.sealedIds) : rows.everyAudit audits =
      .ok (audits.all fun (row, index) => row.replayNo = (index : ℤ) + 1 && auditFine rows row) := by
  induction audits with
  | nil => rfl
  | cons audit rest ih =>
    obtain ⟨row, index⟩ := audit
    obtain ⟨here, later⟩ := List.forall_mem_cons.mp sealed
    have valid : rows.auditValid (row, index) =
        .ok (decide (row.replayNo = (index : ℤ) + 1) && auditFine rows row) := by
      unfold EvidenceClosureRows.auditValid auditFine
      dsimp only
      rw [stored.hasUsable_eq here, ← Bool.and_assoc, ← Bool.and_assoc, ← Bool.and_assoc]
      split
      · next fine => rw [fine, Bool.true_and]
      · next bad => rw [Bool.eq_false_iff.mpr bad, Bool.false_and]
    rw [EvidenceClosureRows.everyAudit, valid, ih later, List.all_cons]
    dsimp only
    generalize (decide (row.replayNo = (index : ℤ) + 1) && auditFine rows row) = fine
    cases fine <;> rfl

/-- The matrix of replays as one condition. -/
theorem StoredRows.replayMatrixValid_eq : rows.replayMatrixValid targets =
    .ok (targets.length = 20 && unique targets && targets.all rows.sealedIds.contains &&
      exactIds (rows.replayAudits.map (·.requestId)) targets && numbered (·.replayNo) rows.replayAudits (auditFine rows)) := by
  unfold EvidenceClosureRows.replayMatrixValid
  split
  · next fine =>
    have listed := fine
    simp only [Bool.and_eq_true, List.all_eq_true, List.contains_iff_mem] at listed
    have audited := (exactIds_iff.mp listed.2).2
    rw [stored.everyAudit_eq, fine, Bool.true_and]
    · rfl
    · intro audit member
      have row : audit.1 ∈ rows.replayAudits :=
        (List.perm_insertionSort _ _).mem_iff.mp (List.fst_mem_of_mem_zipIdx member)
      exact listed.1.2 _ (audited.mem_iff.mp (List.mem_map_of_mem row))
  · next bad => rw [Bool.eq_false_iff.mpr bad, Bool.false_and]

omit stored in
theorem auditFine_iff {audit : AuthoritativeReplayAuditRow} : auditFine rows audit = true ↔
    (isSha256Text audit.originalResponseCommitment = true ∧
      audit.originalResponseCommitment = audit.replayResponseCommitment) ∧ audit.writeSet.length = 0 ∧
      ∃ attempt ∈ rows.attempts, attempt.requestId = audit.requestId ∧ attempt.state.isUsable = true := by
  simp only [auditFine, Bool.and_eq_true, decide_eq_true_eq, List.any_eq_true, and_assoc]

omit stored in
/-- The settlement accepts complete replays. -/
theorem closureReplays_iff : (targets.length = 20 && unique targets && targets.all rows.sealedIds.contains &&
    exactIds (rows.replayAudits.map (·.requestId)) targets &&
    numbered (·.replayNo) rows.replayAudits (auditFine rows)) = true ↔ rows.ReplaysComplete targets := by
  simp only [unique, Bool.and_eq_true, decide_eq_true_eq, List.all_eq_true, List.contains_iff_mem, exactIds_iff,
    numbered_iff, auditFine_iff]
  constructor
  · rintro ⟨⟨⟨⟨twenty, distinct⟩, sealed⟩, _, audited⟩, numbers, audits⟩
    exact ⟨twenty, distinct, sealed, audited, numbers, fun audit member => (audits audit member).1,
      fun audit member => (audits audit member).2.1, fun audit member => (audits audit member).2.2⟩
  · intro complete
    exact ⟨⟨⟨⟨complete.twenty, complete.distinct⟩, complete.sealed⟩,
      complete.audited.nodup_iff.mpr complete.distinct, complete.audited⟩, complete.numbered,
      fun audit member => ⟨complete.committed audit member, complete.unwritten audit member,
        complete.usable audit member⟩⟩

omit stored in
/-- The report accepts complete replays. -/
theorem reportReplays_iff : ((rows.inventory targets input).replayInventoryValid = true ∧
    ((rows.inventory targets input).replayAudits.all (·.writeSet.length = 0)) = true) ↔
      rows.ReplaysComplete targets := by
  have attempts (id : String) : ((rows.inventory targets input).attempts.any fun row =>
      row.requestId = id && row.state.isUsable) = true ↔
      ∃ attempt ∈ rows.attempts, attempt.requestId = id ∧ attempt.state.isUsable = true := by
    show ((rows.attempts.map _).any _) = true ↔ _
    rw [List.any_map, List.any_eq_true]
    simp only [Function.comp_apply, Bool.and_eq_true, decide_eq_true_eq]
  simp only [AuthoritativeEvidenceInventory.replayInventoryValid, unique, Bool.and_eq_true, decide_eq_true_eq,
    List.all_eq_true, List.contains_iff_mem, exactMembers_iff, numbered_iff, attempts]
  constructor
  · rintro ⟨⟨⟨⟨⟨⟨⟨⟨⟨twenty, distinct⟩, sealed⟩, usable⟩, _⟩, _⟩, _, audited⟩, numbers, _⟩, committed⟩, unwritten⟩
    exact ⟨twenty, distinct, sealed, audited, numbers, committed, unwritten,
      fun audit member => usable _ (audited.mem_iff.mp (List.mem_map_of_mem member))⟩
  · intro complete
    have audited := complete.audited
    have ids := audited.nodup_iff.mpr complete.distinct
    have twenty : rows.replayAudits.length = 20 := by
      rw [← complete.twenty, ← audited.length_eq, List.length_map]
    refine ⟨⟨⟨⟨⟨⟨⟨⟨⟨complete.twenty, complete.distinct⟩, complete.sealed⟩, fun id member => ?_⟩, twenty⟩, ids⟩, ids,
      audited⟩, complete.numbered, fun _ _ => trivial⟩, complete.committed⟩, complete.unwritten⟩
    obtain ⟨audit, inside, rfl⟩ := List.mem_map.mp (audited.mem_iff.mpr member)
    exact complete.usable audit inside

/-! ### Both results -/

omit stored in
theorem admittedCall_ok [Reliability.Kernel.DateParse] {call : SealedCallRow}
    (window : 1 ≤ call.block ∧ call.block ≤ schedule.length) (blockClaims : List (ℤ × ℚ))
    (attempt : ClosureAttemptRow) (event : LifecycleEventRow) :
    ∃ claims, rows.admittedCall schedule blockClaims call attempt event = .ok claims := by
  have inside : (call.block - 1).toNat < schedule.length := by omega
  unfold EvidenceClosureRows.admittedCall
  rw [if_pos window.1, List.getElem?_eq_getElem inside]
  split
  · exact ⟨none, rfl⟩
  · dsimp only
    split
    · exact ⟨_, rfl⟩
    · exact ⟨none, rfl⟩

omit stored in
/-- Where every block has a window, no call fails to be checked. -/
theorem checkCalls_ok [Reliability.Kernel.DateParse] {calls : List SealedCallRow}
    (windows : ∀ call ∈ calls, 1 ≤ call.block ∧ call.block ≤ schedule.length) (blockClaims : List (ℤ × ℚ)) :
    ∃ valid, rows.checkCalls schedule blockClaims calls = .ok valid := by
  induction calls generalizing blockClaims with
  | nil => exact ⟨true, rfl⟩
  | cons call rest ih =>
    obtain ⟨here, later⟩ := List.forall_mem_cons.mp windows
    have checked : ∃ claims, rows.checkCall schedule blockClaims call = .ok claims := by
      unfold EvidenceClosureRows.checkCall
      split
      · exact ⟨none, rfl⟩
      dsimp only
      split
      · split
        · exact ⟨_, rfl⟩
        · exact admittedCall_ok here blockClaims _ _
        · exact ⟨none, rfl⟩
      · exact ⟨none, rfl⟩
    obtain ⟨claims, checked⟩ := checked
    rw [EvidenceClosureRows.checkCalls, checked]
    cases claims with
    | none => exact ⟨false, rfl⟩
    | some claims => exact ih later claims

omit stored in
theorem reasons_of_reduce [NodeCrypto] [Reliability.Kernel.DateParse] {other : AuthoritativeEvidenceInventory}
    {report : AuthoritativeEvidenceReport} (reported : reduceAuthoritativeReliabilityEvidence other = .ok report) :
    ∃ space, report.reasons = other.reasons space := by
  unfold reduceAuthoritativeReliabilityEvidence at reported
  cases found : reliabilityArtifactNamespace other.runId with
  | error thrown =>
    rw [found] at reported
    cases reported
  | ok space =>
    rw [found] at reported
    cases reported
    exact ⟨space, rfl⟩

omit stored in
/-- A reason is not given if every check with it succeeds. -/
theorem not_mem_reasons_iff {checks : List (Bool × String)} {reason : String} :
    reason ∉ (checks.filter fun check => !check.1).map (·.2) ↔ ∀ check ∈ checks, check.2 = reason → check.1 = true := by
  rw [List.mem_map]
  constructor
  · intro given check member same
    by_contra failed
    exact given ⟨check, List.mem_filter.mpr ⟨member, by simp [failed]⟩, same⟩
  · rintro succeed ⟨check, member, same⟩
    obtain ⟨inside, failed⟩ := List.mem_filter.mp member
    rw [succeed check inside same] at failed
    cases failed

/-- The reasons of the settlement that are about outcomes and replays. -/
def closureReasons : List String := ["SNAPSHOT_OUTCOME_MATRIX_INVALID", "SNAPSHOT_REPLAY_MATRIX_INVALID"]

/-- The reasons of the report that are about outcomes and replays. -/
def reportReasons : List String :=
  ["OUTCOME_MATRIX_INVALID", "CLASSIFICATION_CARDINALITY_INVALID", "REPLAY_AUDIT_INVENTORY_INVALID",
    "REPLAY_WRITE_SET_NOT_EMPTY"]

/-- **The settlement finds no reason about outcomes and replays exactly if these are complete.** -/
theorem StoredRows.evaluate [Reliability.Kernel.DateParse] {given : Option (List SealedWindow)}
    (scheduled : given.getD v2Schedule = schedule) :
    ∃ completeness, evaluateSettlementSnapshotCompleteness rows targets given = .ok completeness ∧
      ((∀ reason ∈ closureReasons, reason ∉ completeness.reasons) ↔
        rows.OutcomesClosed ∧ rows.ReplaysComplete targets) := by
  obtain ⟨lifecycle, checked⟩ : ∃ valid, rows.checkCalls schedule [] rows.sealedCalls = .ok valid :=
    checkCalls_ok stored.windows []
  have lifecycleValid : rows.lifecycleAndScheduleValid (given.getD v2Schedule) = .ok lifecycle := by
    rw [scheduled]
    exact checked
  unfold evaluateSettlementSnapshotCompleteness
  rw [stored.replayMatrixValid_eq, lifecycleValid]
  refine ⟨_, rfl, ?_⟩
  rw [← outcomeMatrixValid_iff, ← closureReplays_iff]
  simp only [closureReasons, not_mem_reasons_iff, List.forall_mem_cons]
  simp

/-- **The report finds none exactly if these are complete and no usable outcome costs more than was reserved.** -/
theorem StoredRows.report [Reliability.Kernel.DateParse] (space : ReliabilityArtifactNamespace) :
    (∀ reason ∈ reportReasons, reason ∉ (rows.inventory targets input).reasons space) ↔
      (rows.OutcomesClosed ∧ rows.ReplaysComplete targets) ∧ rows.CostsReserved := by
  let other := rows.inventory targets input
  have given : (∀ reason ∈ reportReasons, reason ∉ other.reasons space) ↔
      other.matrixValid = true ∧ (other.attempts.all (·.gateClassificationCount = 1)) = true ∧
        other.replayInventoryValid = true ∧ (other.replayAudits.all (·.writeSet.length = 0)) = true := by
    unfold AuthoritativeEvidenceInventory.reasons AuthoritativeEvidenceInventory.checks
    simp only [reportReasons, not_mem_reasons_iff, List.forall_mem_cons, other, stored.attemptsValid, Bool.true_and]
    generalize (List.all _ _) = gates, (List.all _ _) = writes
    simp
  have gates : (other.attempts.all (·.gateClassificationCount = 1)) = true ↔
      ∀ attempt ∈ rows.attempts, attempt.gateClassificationCount = 1 := by
    rw [List.all_eq_true]
    simp only [decide_eq_true_eq]
    exact List.forall_mem_map
  rw [given, stored.matrixValid_iff, gates, reportReplays_iff]
  constructor
  · rintro ⟨⟨closed, reserved⟩, classified, replays⟩
    exact ⟨⟨fun attempt member => ⟨classified attempt member, closed attempt member⟩, replays⟩, reserved⟩
  · rintro ⟨⟨outcomes, replays⟩, reserved⟩
    exact ⟨⟨fun attempt member => (outcomes attempt member).2, reserved⟩,
      fun attempt member => (outcomes attempt member).1, replays⟩

/-- **Settlement and report agree on rows, but for usable outcomes that cost more than was reserved for them.** -/
theorem closure_agrees_iff [NodeCrypto] [Reliability.Kernel.DateParse] {given : Option (List SealedWindow)}
    (scheduled : given.getD v2Schedule = schedule) {other : AuthoritativeEvidenceInventory}
    (same : Reordered other (rows.inventory targets input)) {report : AuthoritativeEvidenceReport}
    (reported : reduceAuthoritativeReliabilityEvidence other = .ok report) :
    (∃ completeness, evaluateSettlementSnapshotCompleteness rows targets given = .ok completeness ∧
      ((∀ reason ∈ closureReasons, reason ∉ completeness.reasons) ↔
        ∀ reason ∈ reportReasons, reason ∉ report.reasons)) ↔
      (rows.OutcomesClosed → rows.ReplaysComplete targets → rows.CostsReserved) := by
  obtain ⟨completeness, evaluated, silent⟩ : ∃ completeness,
      evaluateSettlementSnapshotCompleteness rows targets given = .ok completeness ∧
        ((∀ reason ∈ closureReasons, reason ∉ completeness.reasons) ↔
          rows.OutcomesClosed ∧ rows.ReplaysComplete targets) := stored.evaluate scheduled
  obtain ⟨space, reasons⟩ := reasons_of_reduce ((reduce_reordered same).symm.trans reported)
  have reportSilent : (∀ reason ∈ reportReasons, reason ∉ report.reasons) ↔
      (rows.OutcomesClosed ∧ rows.ReplaysComplete targets) ∧ rows.CostsReserved := by
    rw [reasons]
    exact stored.report space
  rw [reportSilent]
  constructor
  · rintro ⟨other, alsoEvaluated, agree⟩ outcomes replays
    cases evaluated.symm.trans alsoEvaluated
    exact (agree.mp (silent.mpr ⟨outcomes, replays⟩)).2
  · intro reserved
    refine ⟨completeness, evaluated, silent.trans ⟨fun complete => ?_, And.left⟩⟩
    exact ⟨complete, reserved complete.1 complete.2⟩

end Stored

/-! ### A run of which every call cost more than was reserved for it -/

namespace Overrun

open CompletedRun

attribute [local instance] CompletedRun.crypto CompletedRun.dates

def sealedCall (index : ℕ) : SealedCallRow where
  requestId := requestId index
  lane := lanes.getD (index % 20 / 5) ""
  block := index / 20 + 1
  callOrdinal := index % 5 + 1

/-- The provider billed three millionths where two were reserved, and gave a response. -/
def billed (index : ℕ) : ClosureAttemptRow where
  toAuthoritativeAttemptRow := ⟨requestId index, .reconciledBilledWithResponse, 1, true, some "3", "2"⟩
  canceledAfterGateFailure := false

def billedExecution (index : ℕ) : AuthoritativeExecutionRow :=
  ⟨requestId index, .completed, some "3", some .queued, some 1⟩

def resolution (index : ℕ) : AuthoritativeReconciliationRow :=
  ⟨requestId index, true, .reconciledBilledWithResponse⟩

def reconciliation : List AuthoritativeReconciliationRow := (List.range 100).map resolution

/-- What happened to a call, from its plan to its classification. -/
def events (index : ℕ) : List LifecycleEventRow :=
  [.planned, .admissionStarted, .dispatchAuthorized, .dispatchPrimitiveEntered, .ambiguityEntered,
    .providerEvidenceAttached, .gateClassified].map fun eventType =>
      ⟨requestId index, eventType, 1785230001000, some 1785230000000, some 1785229996000⟩

def rows : EvidenceClosureRows where
  sealedCalls := (List.range 100).map sealedCall
  attempts := (List.range 100).map billed
  executions := (List.range 100).map billedExecution
  decisions := (List.range 100).map decision
  dispatchTokens := (List.range 100).map token
  shadowQueue := (List.range 100).map queue
  shadowEvidence := (List.range 100).map evidence
  replayAudits := (List.range 20).map audit
  lifecycleEvents := (List.range 100).flatMap events
  laneBacklog := []

def targets : List String := (List.range 20).map requestId

theorem sealedIds : rows.sealedIds = (List.range 100).map requestId := List.map_map

theorem keyed {ρ : Type} [RequestRow ρ] (row : ℕ → ρ) (own : ∀ index, RequestRow.requestId (row index) =
    requestId index) : Keyed rows.sealedIds ((List.range 100).map row) := by
  have ids : ((List.range 100).map row).map RequestRow.requestId = rows.sealedIds := by
    rw [List.map_map, sealedIds]
    exact List.map_congr_left fun index _ => own index
  refine ⟨?_, fun each member => ?_⟩
  · rw [ids, sealedIds]
    exact requestIds_nodup 100
  · rw [← ids]
    exact List.mem_map_of_mem member

theorem stored : StoredRows rows v2Schedule reconciliation where
  calls := (List.length_map _).trans List.length_range
  distinct := by
    rw [sealedIds]
    exact requestIds_nodup 100
  windows call member := by
    obtain ⟨index, inside, rfl⟩ := List.mem_map.mp member
    rw [List.mem_range] at inside
    show 1 ≤ (index : ℤ) / 20 + 1 ∧ (index : ℤ) / 20 + 1 ≤ 5
    omega
  attempts := by
    rw [sealedIds]
    exact .of_eq List.map_map
  executions := keyed billedExecution fun _ => rfl
  decisions := keyed decision fun _ => rfl
  dispatchTokens := keyed token fun _ => rfl
  shadowQueue := keyed queue fun _ => rfl
  shadowEvidence := keyed evidence fun _ => rfl
  costs attempt member text cost := by
    obtain ⟨index, _, rfl⟩ := List.mem_map.mp member
    cases cost
    decide +kernel
  reservations attempt member := by
    obtain ⟨index, _, rfl⟩ := List.mem_map.mp member
    show isAtomic "2" = true
    decide +kernel
  resolved attempt member := by
    obtain ⟨index, inside, rfl⟩ := List.mem_map.mp member
    exact ⟨resolution index, rowsFor_requestId (fun _ => rfl) inside, rfl, rfl⟩
  reconciled := (keyed resolution fun _ => rfl).sealed

theorem outcomesClosed : rows.OutcomesClosed := by
  intro attempt member
  obtain ⟨index, inside, rfl⟩ := List.mem_map.mp member
  have only : rows.onlyRows (requestId index) =
      ⟨some (billedExecution index), some (decision index), some (token index), some (queue index),
        some (evidence index)⟩ := by
    unfold EvidenceClosureRows.onlyRows
    congr 1
    · exact congrArg sole (rowsFor_requestId (fun _ => rfl) inside)
    · exact congrArg sole (rowsFor_requestId (fun _ => rfl) inside)
    · exact congrArg sole (rowsFor_requestId (fun _ => rfl) inside)
    · exact congrArg sole (rowsFor_requestId (fun _ => rfl) inside)
    · exact congrArg sole (rowsFor_requestId (fun _ => rfl) inside)
  refine ⟨rfl, ?_⟩
  show ClosedOutcome _ _ (rows.onlyRows (requestId index))
  rw [only]
  have few : (queue index).attempts ≤ 3 := show (1 : ℤ) ≤ 3 by decide
  exact .usable rfl rfl rfl rfl rfl (by decide) le_rfl rfl rfl rfl ⟨le_rfl, few⟩

theorem replaysComplete : rows.ReplaysComplete targets where
  twenty := (List.length_map _).trans List.length_range
  distinct := requestIds_nodup 20
  sealed id member := by
    obtain ⟨index, inside, rfl⟩ := List.mem_map.mp member
    rw [sealedIds]
    refine List.mem_map_of_mem (List.mem_range.mpr ?_)
    exact (List.mem_range.mp inside).trans (by decide)
  audited := .of_eq List.map_map
  numbered := .refl _
  committed audit member := by
    obtain ⟨index, _, rfl⟩ := List.mem_map.mp member
    exact ⟨digestText_valid, rfl⟩
  unwritten audit member := by
    obtain ⟨index, _, rfl⟩ := List.mem_map.mp member
    rfl
  usable audit member := by
    obtain ⟨index, inside, rfl⟩ := List.mem_map.mp member
    refine ⟨billed index, List.mem_map_of_mem (List.mem_range.mpr ?_), rfl, rfl⟩
    exact (List.mem_range.mp inside).trans (by decide)

theorem not_costsReserved : ¬ rows.CostsReserved := by
  intro reserved
  have known : exactNonnegativeMicros (some "3") = some 3 := by decide +kernel
  have reservation : exactNonnegativeMicros (some "2") = some 2 := by decide +kernel
  have within := reserved (billed 0) (List.mem_map_of_mem (List.mem_range.mpr (by decide))) rfl 3 2 known reservation
  exact absurd within (by decide)

/-- The inventory that the report reads. -/
def inventory : AuthoritativeEvidenceInventory :=
  rows.inventory targets { CompletedRun.inventory with reconciliation := reconciliation }

theorem exists_report : ∃ report, reduceAuthoritativeReliabilityEvidence inventory = .ok report := by
  have found : reliabilityArtifactNamespace inventory.runId = .ok space := namespace_found
  obtain ⟨report, reduced, _⟩ := reduce_of_namespace found
  exact ⟨report, reduced⟩

theorem closure_agrees_iff_overrun : ∃ report, reduceAuthoritativeReliabilityEvidence inventory = .ok report ∧
    ((∃ completeness, evaluateSettlementSnapshotCompleteness rows targets none = .ok completeness ∧
      ((∀ reason ∈ closureReasons, reason ∉ completeness.reasons) ↔
        ∀ reason ∈ reportReasons, reason ∉ report.reasons)) ↔
      (rows.OutcomesClosed → rows.ReplaysComplete targets → rows.CostsReserved)) := by
  obtain ⟨report, reported⟩ := exists_report
  have kept : StoredRows rows v2Schedule { CompletedRun.inventory with reconciliation := reconciliation }.reconciliation :=
    stored
  exact ⟨report, reported, closure_agrees_iff kept rfl (.refl _) reported⟩

/-- **The settlement accepts the rows, and the report of the same rows does not.** -/
theorem settled_and_refused : StoredRows rows v2Schedule reconciliation ∧
    ∃ completeness report, evaluateSettlementSnapshotCompleteness rows targets none = .ok completeness ∧
      reduceAuthoritativeReliabilityEvidence inventory = .ok report ∧
      (∀ reason ∈ closureReasons, reason ∉ completeness.reasons) ∧
      ¬ ∀ reason ∈ reportReasons, reason ∉ report.reasons := by
  have kept : StoredRows rows v2Schedule { CompletedRun.inventory with reconciliation := reconciliation }.reconciliation :=
    stored
  obtain ⟨completeness, evaluated, silent⟩ : ∃ completeness,
      evaluateSettlementSnapshotCompleteness rows targets none = .ok completeness ∧
        ((∀ reason ∈ closureReasons, reason ∉ completeness.reasons) ↔
          rows.OutcomesClosed ∧ rows.ReplaysComplete targets) := kept.evaluate rfl
  obtain ⟨report, reported⟩ := exists_report
  obtain ⟨space, reasons⟩ := reasons_of_reduce reported
  refine ⟨stored, completeness, report, evaluated, reported, silent.mpr ⟨outcomesClosed, replaysComplete⟩, ?_⟩
  rw [reasons]
  intro none
  exact not_costsReserved ((kept.report space).mp none).2

end Overrun

end FuseControlPlane.Evidence
