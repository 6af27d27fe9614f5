/-
What a reconciliation plan rests on.

* `Examined`: what evidence that is accepted says; `evidenceResult_cases` derives it.
* `AcceptedEvidenceBinding.eq_of_canonical`: bindings with the same canonical text are the same.
* `IsJustified`: what every plan rests on, terminal state by terminal state.
* `terminal_plans_justified`: **every plan is justified**.
-/

import FuseControlPlane.Reliability.ReconciliationKernel

set_option linter.unusedSectionVars false

namespace FuseControlPlane.Reliability.Kernel

open Foundation Foundation.JavaScript FuseControlPlane.Domain

variable {input : ReconciliationStateInput} {evidence : ReconciliationEvidence} {result : EvidenceResult}

theorem orPending_eq_ok {α : Type} {value : Option α} {reason : String} {found : α} :
    orPending value reason = .ok found ↔ value = some found := by
  cases value with
  | none => exact ⟨nofun, nofun⟩
  | some value => exact ⟨fun same => congrArg some (Except.ok.inj same), fun same =>
      congrArg Except.ok (Option.some.inj same)⟩

/-! ### Costs -/

/-- Both costs of a metadata object are exactly this cost. -/
def CostsAre (metadata : Json) (cost : ℤ) : Prop :=
  ∃ total usage, metadata.field "total_cost" = some total ∧ metadata.field "usage" = some usage ∧
    decimalMicros total = some cost ∧ decimalMicros usage = some cost ∧
    ExactCost total cost ∧ ExactCost usage cost

theorem costsAre_of_costOf {metadata : Json} {cost : ℤ} (found : costOf metadata = some cost) :
    CostsAre metadata cost := by
  unfold costOf at found
  simp only [Option.bind_eq_bind, Option.bind_eq_some_iff] at found
  obtain ⟨total, member, first, totalMicros, usage, other, second, usageMicros, rest⟩ := found
  split at rest
  · next same =>
    cases rest
    subst same
    exact ⟨total, usage, member, other, totalMicros, usageMicros,
      (costsAgree total).decimalMicros _ totalMicros, (costsAgree usage).decimalMicros _ usageMicros⟩
  · cases rest

/-! ### Bindings -/

/-- The order of the members in a canonical text. -/
def byCodeUnits (first second : String) : Bool := codeUnits first ≤ codeUnits second

theorem AcceptedEvidenceBinding.field_sortKeys (binding : AcceptedEvidenceBinding) {name : String}
    {value : Json} (member : (name, value) ∈ binding.members) :
    (binding.toJson.sortKeys byCodeUnits).field name = some (value.sortKeys byCodeUnits) := by
  refine Json.field_sortKeys byCodeUnits ?_ member
  show ["requestId", "providerName", "upstreamId", "router", "providerResponsesCanonical"].Nodup
  decide

/-- Bindings with the same canonical text are the same. -/
theorem AcceptedEvidenceBinding.eq_of_canonical {earlier binding : AcceptedEvidenceBinding}
    (same : canonical earlier.toJson = canonical binding.toJson) : earlier = binding := by
  have values : earlier.toJson.sortKeys byCodeUnits = binding.toJson.sortKeys byCodeUnits :=
    Json.stringify_injective same
  have member {name : String} {first second : Json} (here : (name, first) ∈ earlier.members)
      (there : (name, second) ∈ binding.members) :
      first.sortKeys byCodeUnits = second.sortKeys byCodeUnits := by
    refine Option.some.inj ((earlier.field_sortKeys here).symm.trans ?_)
    rw [values]
    exact binding.field_sortKeys there
  have text {name first second : String} (here : (name, Json.string first) ∈ earlier.members)
      (there : (name, Json.string second) ∈ binding.members) : first = second := by
    have texts : Json.string first = Json.string second := member here there
    exact Json.string.inj texts
  have requestId : earlier.requestId = binding.requestId :=
    @text "requestId" _ _ (by simp [members]) (by simp [members])
  have providerName : earlier.providerName = binding.providerName :=
    @text "providerName" _ _ (by simp [members]) (by simp [members])
  have upstreamId : earlier.upstreamId = binding.upstreamId :=
    @text "upstreamId" _ _ (by simp [members]) (by simp [members])
  have responses : earlier.providerResponsesCanonical = binding.providerResponsesCanonical :=
    @text "providerResponsesCanonical" _ _ (by simp [members]) (by simp [members])
  have router : ((earlier.router.map Json.string).getD .null).sortKeys byCodeUnits =
      ((binding.router.map Json.string).getD .null).sortKeys byCodeUnits :=
    @member "router" _ _ (by simp [members]) (by simp [members])
  obtain ⟨_, _, _, one, _⟩ := earlier
  obtain ⟨_, _, _, other, _⟩ := binding
  cases requestId
  cases providerName
  cases upstreamId
  cases responses
  cases one with
  | none =>
    cases other with
    | none => rfl
    | some other => cases router
  | some one =>
    cases other with
    | none => cases router
    | some other =>
      have texts : Json.string one = Json.string other := router
      cases texts
      rfl

/-! ### Evidence that is accepted -/

/-- The content repeats the messages. -/
def RepeatsMessages (input : ReconciliationStateInput) (body : Json) : Prop :=
  ∃ data sent messages, body.field "data" = some data ∧ data.field "input" = some sent ∧
    sent.field "messages" = some messages ∧ canonical messages = canonical (.array input.originalMessages)

/-- The content has no completion. -/
def HasNoCompletion (body : Json) : Prop :=
  ∀ data output, body.field "data" = some data → data.field "output" = some output →
    ∀ text, output.field "completion" ≠ some (.string text)

/-- The evidence of the input with its metadata. -/
structure IsGiven (input : ReconciliationStateInput) (evidence : ReconciliationEvidence) (metadata : Json) :
    Prop where
  given : input.evidence = some evidence
  data : evidence.metadata.data = some metadata

/-- What evidence that is accepted says. -/
inductive Examined (input : ReconciliationStateInput) (evidence : ReconciliationEvidence) (metadata : Json)
    (binding : AcceptedEvidenceBinding) : EvidenceResult → Prop
  | canceled (cancelled : metadata.field "cancelled" = some (.bool true)) (costs : CostsAre metadata 0) :
    Examined input evidence metadata binding (acceptedEvidence binding .canceled 0)
  | response {cost : ℤ} {recovered : String} (positive : 0 < cost) (costs : CostsAre metadata cost)
    (messages : RepeatsMessages input evidence.content.body)
    (commitment : input.recoveredResponseCommitment = some recovered)
    (existing : ∀ earlier ∈ input.existingResponseCommitment, earlier = recovered) :
    Examined input evidence metadata binding (acceptedEvidence binding .positiveResponse cost)
  | noResponse {cost : ℤ} (positive : 0 < cost) (costs : CostsAre metadata cost)
    (silent : HasNoCompletion evidence.content.body) :
    Examined input evidence metadata binding (acceptedEvidence binding .positiveNoResponse cost)

theorem completionOf_eq_some {content : ReconciliationContent} {completion : Option String}
    (found : completionOf input content = some completion) :
    RepeatsMessages input content.body ∧ (completion = none → HasNoCompletion content.body) := by
  unfold completionOf at found
  simp only [Option.bind_eq_bind, Option.bind_eq_some_iff] at found
  obtain ⟨data, inBody, sent, inData, output, hasOutput, messages, inSent, value, hasCompletion, reasoning, _,
    rest⟩ := found
  split at rest
  · next fine =>
    simp only [Bool.and_eq_true, decide_eq_true_eq] at fine
    refine ⟨⟨data, sent, messages, inBody, inData, inSent, fine.1.2⟩, ?_⟩
    rintro rfl other output' here there text isText
    rw [inBody] at here
    cases here
    rw [hasOutput] at there
    cases there
    rw [hasCompletion] at isText
    cases isText
    cases rest
  · cases rest

theorem hasNoCompletion_of_404 {content : ReconciliationContent} (missing : isExact404 content = true) :
    HasNoCompletion content.body := by
  unfold isExact404 has at missing
  rw [Bool.and_eq_true, Bool.and_eq_true, Bool.not_eq_true', Option.isSome_eq_false_iff,
    Option.isNone_iff_eq_none] at missing
  intro data output here
  rw [missing.1.2] at here
  cases here

theorem bool?_eq_some {value : Option Json} {truth : Bool} :
    bool? value = some truth ↔ value = some (.bool truth) := by
  unfold bool?
  split
  · next value =>
    exact ⟨fun same => congrArg (some ∘ Json.bool) (Option.some.inj same), fun same => by
      cases same
      rfl⟩
  · next other =>
    refine ⟨nofun, fun same => absurd same ?_⟩
    rintro rfl
    exact other truth rfl

/-- What the content of an outcome with a cost says. -/
theorem examineContent_eq_ok {metadata : Json} {binding : AcceptedEvidenceBinding} {cost : ℤ}
    (positive : 0 < cost) (costs : CostsAre metadata cost)
    (found : examineContent input binding cost evidence.content = .ok result) :
    Examined input evidence metadata binding result := by
  unfold examineContent at found
  split at found
  · next missing =>
    cases found
    exact .noResponse positive costs (hasNoCompletion_of_404 missing)
  · obtain ⟨completion, complete, found⟩ := bind_eq_ok.mp found
    obtain ⟨messages, silent⟩ := completionOf_eq_some (orPending_eq_ok.mp complete)
    cases completion with
    | none =>
      cases found
      exact .noResponse positive costs (silent rfl)
    | some text =>
      obtain ⟨recovered, commitment, found⟩ := bind_eq_ok.mp found
      simp only [bind_unit_eq_ok, require_eq_ok, Option.all_eq_true, decide_eq_true_eq] at found
      obtain ⟨existing, found⟩ := found
      cases found
      refine .response positive costs messages ?_ existing
      exact (Option.filter_eq_some_iff.mp (orPending_eq_ok.mp commitment)).1

section Times

variable [DateParse]

theorem examine_eq_ok (found : examine input evidence = .ok result) :
    ∃ metadata binding, evidence.metadata.data = some metadata ∧
      (∀ earlier ∈ input.acceptedBinding, earlier = binding) ∧
      Examined input evidence metadata binding result := by
  unfold examine at found
  simp only [bind_unit_eq_ok] at found
  obtain ⟨_, found⟩ := found
  obtain ⟨metadata, given, found⟩ := bind_eq_ok.mp found
  simp only [bind_unit_eq_ok, require_eq_ok] at found
  obtain ⟨_, found⟩ := found
  obtain ⟨requestId, _, found⟩ := bind_eq_ok.mp found
  simp only [bind_unit_eq_ok, require_eq_ok] at found
  obtain ⟨_, found⟩ := found
  obtain ⟨binding, _, found⟩ := bind_eq_ok.mp found
  simp only [bind_unit_eq_ok, require_eq_ok] at found
  obtain ⟨sameBinding, _, found⟩ := found
  obtain ⟨cost, costs, found⟩ := bind_eq_ok.mp found
  simp only [bind_unit_eq_ok, require_eq_ok] at found
  obtain ⟨_, found⟩ := found
  rw [orPending_eq_ok] at given costs
  refine ⟨metadata, binding, (Option.filter_eq_some_iff.mp given).1, ?_, ?_⟩
  · intro earlier recorded
    rw [Option.all_eq_true] at sameBinding
    exact AcceptedEvidenceBinding.eq_of_canonical (of_decide_eq_true (sameBinding earlier recorded))
  · have exactly := costsAre_of_costOf costs
    split at found
    · next cancelled =>
      simp only [bind_unit_eq_ok, require_eq_ok, decide_eq_true_eq] at found
      obtain ⟨rfl, found⟩ := found
      cases found
      exact .canceled (bool?_eq_some.mp cancelled) exactly
    · simp only [bind_unit_eq_ok, require_eq_ok, Bool.and_eq_true, decide_eq_true_eq] at found
      obtain ⟨⟨⟨⟨⟨⟨positive, _⟩, _⟩, _⟩, _⟩, _⟩, _, found⟩ := found
      exact examineContent_eq_ok positive exactly found

/-- Evidence is not accepted, or examined. -/
theorem evidenceResult_cases (input : ReconciliationStateInput) :
    ((evidenceResult input).accepted = false ∧
      ((evidenceResult input).kind = .pending ∨ (evidenceResult input).kind = .credentialDrift)) ∨
    ∃ evidence metadata binding, IsGiven input evidence metadata ∧
      (∀ earlier ∈ input.acceptedBinding, earlier = binding) ∧
      Examined input evidence metadata binding (evidenceResult input) := by
  unfold evidenceResult
  split
  · exact .inl ⟨rfl, .inl rfl⟩
  · next evidence given =>
    split
    · exact .inl ⟨rfl, .inr rfl⟩
    · split
      · next result found =>
        obtain ⟨metadata, binding, data, same, examined⟩ := examine_eq_ok found
        exact .inr ⟨evidence, metadata, binding, ⟨given, data⟩, same, examined⟩
      · exact .inl ⟨rfl, .inl rfl⟩

/-! ### Plans -/

/-- What a plan rests on. -/
structure IsJustified (input : ReconciliationStateInput) (plan : ReconciliationMutationPlan) : Prop where
  /-- Only an operation whose times are valid ends an attempt. -/
  schedule : ∀ state, plan.terminal = some state → plan.schedule = .ok () ∧ schedule input = .ok ()
  /-- An attempt that is not billed was canceled without a cost, and costs nothing. -/
  notBilled : ∀ state, plan.terminal = some state →
    state = .terminalRejectedNotBilled ∨ state = .reconciledNotBilled →
      plan.evidence.accepted = true ∧
      (∃ evidence metadata, IsGiven input evidence metadata ∧
        metadata.field "cancelled" = some (.bool true) ∧ CostsAre metadata 0) ∧
      ∃ execution, plan.execution = some execution ∧ execution.actualCostMicros = some (toString (0 : ℤ))
  /-- An attempt that is billed with its response has a cost, its messages and one commitment. -/
  withResponse : plan.terminal = some .reconciledBilledWithResponse →
    plan.evidence.accepted = true ∧ plan.evidence.binding.isSome = true ∧
    ∃ evidence metadata cost recovered execution, IsGiven input evidence metadata ∧ 0 < cost ∧
      CostsAre metadata cost ∧ RepeatsMessages input evidence.content.body ∧
      input.recoveredResponseCommitment = some recovered ∧
      (∀ existing ∈ input.existingResponseCommitment, existing = recovered) ∧
      plan.execution = some execution ∧ execution.actualCostMicros = some (toString cost) ∧
      execution.responseCommitment = some recovered
  /-- An attempt that is billed without a response is at its last lookup, and has a cost and no completion. -/
  noResponse : plan.terminal = some .reconciledBilledNoResponse →
    plan.evidence.accepted = true ∧
    (∃ offsetSeconds times, input.operation.kind = .scheduled offsetSeconds times ∧
      reconciliationOffsetsSeconds.getLast? = some offsetSeconds) ∧
    ∃ evidence metadata cost execution, IsGiven input evidence metadata ∧ 0 < cost ∧
      CostsAre metadata cost ∧ HasNoCompletion evidence.content.body ∧
      plan.execution = some execution ∧ execution.actualCostMicros = some (toString cost)
  /-- An attempt whose outcome stays unknown is at the cutoff, and keeps its reservation. -/
  unresolved : plan.terminal = some .unresolvedProviderOutcome →
    input.operation.kind = .cutoff ∧
    ∃ execution, plan.execution = some execution ∧ execution.actualCostMicros = none ∧
      execution.retainReservationExposure = true
  /-- Accepted evidence has the binding that is recorded. -/
  binding : plan.evidence.accepted = true → ∀ earlier ∈ input.acceptedBinding,
    plan.evidence.binding = some earlier
  /-- The lookups after this one are canceled; an operation that is no lookup has the offset `-1`, and all
  lookups come after it. -/
  canceled : ∀ state, plan.terminal = some state →
    match input.operation.kind with
    | .scheduled offsetSeconds _ =>
      ∃ earlier, reconciliationOffsetsSeconds = earlier ++ offsetSeconds :: plan.cancelOffsets
    | _ => plan.cancelOffsets = reconciliationOffsetsSeconds

/-- What evidence says that a plan takes over as it is. -/
theorem binding_of_accepted (accepted : (evidenceResult input).accepted = true) :
    ∀ earlier ∈ input.acceptedBinding, (evidenceResult input).binding = some earlier := by
  rcases evidenceResult_cases input with ⟨notAccepted, _⟩ | ⟨_, _, binding, _, same, examined⟩
  · rw [notAccepted] at accepted
    cases accepted
  · intro earlier recorded
    rw [same earlier recorded]
    generalize evidenceResult input = result at examined
    cases examined <;> rfl

theorem canceled_of_kind (canceled : (evidenceResult input).kind = .canceled) :
    (evidenceResult input).accepted = true ∧ ∃ evidence metadata, IsGiven input evidence metadata ∧
      metadata.field "cancelled" = some (.bool true) ∧ CostsAre metadata 0 := by
  rcases evidenceResult_cases input with ⟨_, other | other⟩ | ⟨evidence, metadata, _, given, _, examined⟩
  · exact absurd (canceled.symm.trans other) (by decide)
  · exact absurd (canceled.symm.trans other) (by decide)
  · generalize evidenceResult input = result at canceled examined
    cases examined with
    | canceled cancelled costs => exact ⟨rfl, evidence, metadata, given, cancelled, costs⟩
    | response => cases canceled
    | noResponse => cases canceled

theorem response_of_kind (response : (evidenceResult input).kind = .positiveResponse) :
    (evidenceResult input).accepted = true ∧ (evidenceResult input).binding.isSome = true ∧
      ∃ evidence metadata cost recovered, IsGiven input evidence metadata ∧ 0 < cost ∧
        CostsAre metadata cost ∧ RepeatsMessages input evidence.content.body ∧
        input.recoveredResponseCommitment = some recovered ∧
        (∀ existing ∈ input.existingResponseCommitment, existing = recovered) ∧
        (evidenceResult input).cost = some cost := by
  rcases evidenceResult_cases input with ⟨_, other | other⟩ | ⟨evidence, metadata, _, given, _, examined⟩
  · exact absurd (response.symm.trans other) (by decide)
  · exact absurd (response.symm.trans other) (by decide)
  · generalize evidenceResult input = result at response examined
    cases examined with
    | canceled => cases response
    | noResponse => cases response
    | @response cost recovered positive costs messages commitment existing =>
      exact ⟨rfl, rfl, evidence, metadata, cost, recovered, given, positive, costs, messages, commitment,
        existing, rfl⟩

theorem noResponse_of_kind (silent : (evidenceResult input).kind = .positiveNoResponse) :
    (evidenceResult input).accepted = true ∧ ∃ evidence metadata cost, IsGiven input evidence metadata ∧
      0 < cost ∧ CostsAre metadata cost ∧ HasNoCompletion evidence.content.body ∧
      (evidenceResult input).cost = some cost := by
  rcases evidenceResult_cases input with ⟨_, other | other⟩ | ⟨evidence, metadata, _, given, _, examined⟩
  · exact absurd (silent.symm.trans other) (by decide)
  · exact absurd (silent.symm.trans other) (by decide)
  · generalize evidenceResult input = result at silent examined
    cases examined with
    | canceled => cases silent
    | response => cases silent
    | @noResponse cost positive costs nothing =>
      exact ⟨rfl, evidence, metadata, cost, given, positive, costs, nothing, rfl⟩

/-- The operation and the evidence that lead to a terminal state. -/
inductive LeadsTo (input : ReconciliationStateInput) (ev : EvidenceResult) :
    TerminalReconciliationState → Prop
  | rejected (canceled : ev.kind = .canceled) : LeadsTo input ev .terminalRejectedNotBilled
  | notBilled (canceled : ev.kind = .canceled) : LeadsTo input ev .reconciledNotBilled
  | withResponse (response : ev.kind = .positiveResponse) : LeadsTo input ev .reconciledBilledWithResponse
  | noResponse (silent : ev.kind = .positiveNoResponse) {times : LookupTimes}
    (lookup : input.operation.kind = .scheduled 86300 times) : LeadsTo input ev .reconciledBilledNoResponse
  | unresolved (cutoff : input.operation.kind = .cutoff) : LeadsTo input ev .unresolvedProviderOutcome

/-- The cost of an attempt that ends. -/
def costIn (state : TerminalReconciliationState) (ev : EvidenceResult) : Option ℤ :=
  match state with
  | .terminalRejectedNotBilled | .reconciledNotBilled => some 0
  | .reconciledBilledWithResponse | .reconciledBilledNoResponse => ev.cost
  | .unresolvedProviderOutcome => none

/-- The plan of an operation ends the attempt or leaves it open. -/
inductive Planned (input : ReconciliationStateInput) (timing : Except String Unit) (ev : EvidenceResult)
    (plan : ReconciliationMutationPlan) : Prop
  | pending (terminal : plan.terminal = none)
    (evidence : plan.evidence.accepted = true → ev.accepted = true ∧ plan.evidence.binding = ev.binding)
  | ends {state : TerminalReconciliationState} (terminal : plan.terminal = some state)
    (valid : timing = .ok ()) (leads : LeadsTo input ev state) (schedule : plan.schedule = timing)
    (accepted : plan.evidence.accepted = ev.accepted) (binding : plan.evidence.binding = ev.binding)
    (execution : plan.execution = some (plannedExecution input state (costIn state ev)))
    (canceled : plan.cancelOffsets =
      reconciliationOffsetsSeconds.filter (input.operation.kind.currentOffset < ·))

theorem terminalPlan_eq_ok {timing : Except String Unit} {ev : EvidenceResult}
    {state : TerminalReconciliationState} {plan : ReconciliationMutationPlan} (valid : timing = .ok ())
    (leads : LeadsTo input ev state) (planned : terminalPlan input timing ev state = .ok plan) :
    Planned input timing ev plan := by
  unfold terminalPlan at planned
  simp only [bind_unit_eq_ok] at planned
  obtain ⟨_, built⟩ := planned
  cases built
  exact .ends rfl valid leads rfl rfl rfl rfl rfl

theorem planOperation_eq_ok {timing : Except String Unit} {ev : EvidenceResult}
    {plan : ReconciliationMutationPlan} (valid : timing = .ok ())
    (planned : planOperation input timing ev = .ok plan) : Planned input timing ev plan := by
  unfold planOperation at planned
  split at planned
  · dsimp only at planned
    split at planned
    · cases planned
      exact .pending rfl nofun
    · split at planned
      · next canceled =>
        exact terminalPlan_eq_ok valid (.rejected canceled) planned
      · cases planned
        exact .pending rfl fun accepted => ⟨accepted, rfl⟩
  · next cutoff => exact terminalPlan_eq_ok valid (.unresolved cutoff) planned
  · next offsetSeconds times kind =>
    split at planned
    · next canceled => exact terminalPlan_eq_ok valid (.notBilled canceled) planned
    · split at planned
      · next response => exact terminalPlan_eq_ok valid (.withResponse response) planned
      · split at planned
        · next last =>
          rw [Bool.and_eq_true, decide_eq_true_eq, decide_eq_true_eq] at last
          exact terminalPlan_eq_ok valid (.noResponse last.1 (last.2 ▸ kind)) planned
        · cases planned
          exact .pending rfl fun accepted => ⟨accepted, rfl⟩

theorem planReconciliationMutation_eq_ok {plan : ReconciliationMutationPlan}
    (planned : planReconciliationMutation input = .ok plan) :
    Planned input (schedule input) (evidenceResult input) plan := by
  unfold planReconciliationMutation at planned
  simp only [bind_unit_eq_ok] at planned
  obtain ⟨_, planned⟩ := planned
  split at planned
  · cases planned
    exact .pending rfl fun accepted => ⟨accepted, rfl⟩
  · next valid =>
    split at planned
    · cases planned
      exact .pending rfl fun accepted => ⟨accepted, rfl⟩
    · exact planOperation_eq_ok valid planned

/-- The sealed offsets, around one of them. -/
theorem sealed_offsets : ∀ offsetSeconds ∈ reconciliationOffsetsSeconds,
    reconciliationOffsetsSeconds = reconciliationOffsetsSeconds.filter (· < offsetSeconds) ++
      offsetSeconds :: reconciliationOffsetsSeconds.filter (offsetSeconds < ·) := by decide

/-- A lookup whose times are valid is at a sealed offset. -/
theorem mem_of_schedule {offsetSeconds : ℤ} {times : LookupTimes} (valid : schedule input = .ok ())
    (lookup : input.operation.kind = .scheduled offsetSeconds times) :
    offsetSeconds ∈ reconciliationOffsetsSeconds := by
  unfold schedule at valid
  dsimp only at valid
  rw [lookup] at valid
  simp only [bind_unit_eq_ok, require_eq_ok, List.contains_iff_mem] at valid
  exact valid.2.2.2.1

/-- Every sealed offset comes after an operation that is no lookup. -/
theorem offsets_after_none :
    reconciliationOffsetsSeconds.filter ((-1 : ℤ) < ·) = reconciliationOffsetsSeconds := by
  decide

/-- The lookups that the end of an attempt cancels. -/
theorem canceled_offsets {canceled : List ℤ} (valid : schedule input = .ok ())
    (filtered : canceled = reconciliationOffsetsSeconds.filter (input.operation.kind.currentOffset < ·)) :
    match input.operation.kind with
    | .scheduled offsetSeconds _ =>
      ∃ earlier, reconciliationOffsetsSeconds = earlier ++ offsetSeconds :: canceled
    | _ => canceled = reconciliationOffsetsSeconds := by
  cases kind : input.operation.kind with
  | scheduled offsetSeconds times =>
    rw [kind] at filtered
    rw [filtered]
    exact ⟨_, sealed_offsets offsetSeconds (mem_of_schedule valid kind)⟩
  | preAmbiguity =>
    rw [kind] at filtered
    exact filtered.trans offsets_after_none
  | cutoff =>
    rw [kind] at filtered
    exact filtered.trans offsets_after_none

/-- **Every plan is justified.** -/
theorem terminal_plans_justified (input : ReconciliationStateInput) (plan : ReconciliationMutationPlan)
    (planned : planReconciliationMutation input = .ok plan) : IsJustified input plan := by
  cases planReconciliationMutation_eq_ok planned with
  | pending terminal evidence =>
    have open_ {state : TerminalReconciliationState} (ended : plan.terminal = some state) : False := by
      rw [terminal] at ended
      cases ended
    refine ⟨fun _ ended => (open_ ended).elim, fun _ ended => (open_ ended).elim,
      fun ended => (open_ ended).elim, fun ended => (open_ ended).elim, fun ended => (open_ ended).elim,
      fun accepted => ?_, fun _ ended => (open_ ended).elim⟩
    rw [(evidence accepted).2]
    exact binding_of_accepted (evidence accepted).1
  | @ends state terminal valid leads same accepted binding execution canceled =>
    have is {other : TerminalReconciliationState} (ended : plan.terminal = some other) : state = other :=
      Option.some.inj (terminal.symm.trans ended)
    refine ⟨fun _ _ => ⟨same.trans valid, valid⟩, fun other ended free => ?_, fun ended => ?_,
      fun ended => ?_, fun ended => ?_, fun given => ?_, fun _ _ => canceled_offsets valid canceled⟩
    · cases is ended
      rw [accepted, execution]
      cases leads with
      | rejected kind => exact ⟨(canceled_of_kind kind).1, (canceled_of_kind kind).2, _, rfl, rfl⟩
      | notBilled kind => exact ⟨(canceled_of_kind kind).1, (canceled_of_kind kind).2, _, rfl, rfl⟩
      | withResponse => exact absurd free (by decide)
      | noResponse => exact absurd free (by decide)
      | unresolved => exact absurd free (by decide)
    · cases is ended
      cases leads with
      | withResponse response =>
        obtain ⟨taken, bound, evidence, metadata, cost, recovered, given, positive, costs, messages,
          commitment, existing, costs'⟩ := response_of_kind response
        rw [accepted, binding, execution]
        refine ⟨taken, bound, evidence, metadata, cost, recovered, _, given, positive, costs, messages,
          commitment, existing, rfl, ?_, commitment⟩
        show (evidenceResult input).cost.map toString = some (toString cost)
        rw [costs']
        rfl
    · cases is ended
      cases leads with
      | @noResponse silent times lookup =>
        obtain ⟨taken, evidence, metadata, cost, given, positive, costs, nothing, costs'⟩ :=
          noResponse_of_kind silent
        rw [accepted, execution]
        refine ⟨taken, ⟨86300, times, lookup, rfl⟩, evidence, metadata, cost, _, given, positive, costs,
          nothing, rfl, ?_⟩
        show (evidenceResult input).cost.map toString = some (toString cost)
        rw [costs']
        rfl
    · cases is ended
      cases leads with
      | unresolved cutoff =>
        rw [execution]
        exact ⟨cutoff, _, rfl, rfl, rfl⟩
    · rw [binding]
      rw [accepted] at given
      exact binding_of_accepted given

end Times

/-! ### A lookup that finds the response -/

/-- The capture of a generation that was billed `5` micro-USD. -/
def billedEvidence : ReconciliationEvidence where
  credentialId := "reconciler-credential"
  generationId := "gen-1"
  retrievalStartedAtMs := 1800000000000
  metadata :=
    { status := 200
      bodySha256 := String.ofList (List.replicate 64 'a')
      bodyBase64 := "e30="
      retrievedAtMs := 1800000000100
      data := some (.object [("id", .string "gen-1"), ("request_id", .string "or-request-1"),
        ("model", .string pinnedModel), ("provider_name", .string "provider-a"),
        ("created_at", .string "2027-01-15T07:59:59.000Z"), ("cancelled", .bool false),
        ("finish_reason", .string "stop"), ("native_finish_reason", .string "stop"),
        ("native_tokens_prompt", .number ⟨['2'], by decide⟩),
        ("native_tokens_completion", .number ⟨['3'], by decide⟩),
        ("tokens_prompt", .number ⟨['2'], by decide⟩), ("tokens_completion", .number ⟨['3'], by decide⟩),
        ("total_cost", .string "0.000005"), ("usage", .string "0.000005"),
        ("upstream_id", .string "upstream-1"), ("router", .null), ("provider_responses", .null)]) }
  content :=
    { status := 200
      bodySha256 := String.ofList (List.replicate 64 'b')
      bodyBase64 := "e30="
      retrievedAtMs := 1800000000100
      body := .object [("data", .object [
        ("input", .object [("messages", .array [.object [("role", .string "user"),
          ("content", .string "hello")]])]),
        ("output", .object [("completion", .string "ok"), ("reasoning", .null)])])] }

/-- The first lookup of the generation. -/
def firstLookup : ReconciliationStateInput where
  runId := "run-1"
  requestId := "fuse-request-1"
  laneId := "normal-paced"
  currentState := .reconciliationPending
  generationId := "gen-1"
  expectedReconcilerCredentialId := "reconciler-credential"
  openRouterRequestId := some "or-request-1"
  model := pinnedModel
  dispatchTokenAtMs := 1799999990000
  ambiguityEnteredAtMs := some 1800000000000
  admissionStartedAtMs := 1799999980000
  originalMessages := [.object [("role", .string "user"), ("content", .string "hello")]]
  sealedRequestCommitmentMatches := true
  existingResponseCommitment := none
  recoveredResponseCommitment := some "sha256:response"
  acceptedBinding := some ⟨"or-request-1", "provider-a", "upstream-1", none, "null"⟩
  operation :=
    { scheduledAtMs := 1800000000000
      startedAtMs := 1800000000000
      transitionCommittedAtMs := 1800000055000
      kind := .scheduled 0 ⟨1800000030000, 1800000035000, 1800000050000⟩ }
  evidence := some billedEvidence
  heldMemberState := .reconciliationPending
  heldMembersBefore := ["fuse-request-1"]
  nonusableAllowanceOwner := none

/-- The time of the one text that is parsed here. -/
local instance : DateParse where
  parse text := if text = "2027-01-15T07:59:59.000Z" then some 1799999999000 else none

theorem terminal_plans_justified_first_lookup : ∃ plan, planReconciliationMutation firstLookup = .ok plan ∧
    plan.terminal = some .reconciledBilledWithResponse ∧ IsJustified firstLookup plan := by
  have billed : (planReconciliationMutation firstLookup).toOption.bind (·.terminal) =
      some .reconciledBilledWithResponse := by
    decide +kernel
  cases planned : planReconciliationMutation firstLookup with
  | error reason =>
    rw [planned] at billed
    cases billed
  | ok plan =>
    rw [planned] at billed
    exact ⟨plan, rfl, billed, terminal_plans_justified firstLookup plan planned⟩

end FuseControlPlane.Reliability.Kernel
