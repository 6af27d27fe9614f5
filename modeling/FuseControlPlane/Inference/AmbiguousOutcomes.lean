/-
**Ambiguous outcomes: what `execute` does when the provider's call rejects.**

The statements are about complete runs of `execute` (`Foundation.Execution`), with any replies of the
store, the reliability store and the provider.

* `execute_rejected`: a run in which the provider's call rejects is a preparation, that call, and a run
  of the `catch` block.
* `ambiguous_held_iff`: when the error does not prove that nothing was dispatched, the execution is
  passed to `holdInference` exactly when the reliability store does not reject its own hold first.
* `ambiguous_not_held`: a run in which it does. (After the provider answered, the other `catch` block
  calls `holdInference` first.)
-/

import FuseControlPlane.Inference.Calls
import FuseControlPlane.Persistence.PolicyStore

set_option linter.unusedSectionVars false

namespace FuseControlPlane.Inference

open Foundation Foundation.JavaScript Domain Identity FuseControlPlane.Core Persistence Program

/-! ### Events -/

/-- The error a provider's call rejects with. -/
def providerError : Event ServiceCall → Option JsError
  | ⟨.complete _, .error error⟩ => some error
  | _ => none

/-- What is passed to `holdInference`. -/
def heldInference : Event ServiceCall → Option HoldInferenceInput
  | ⟨.holdInference input, _⟩ => some input
  | _ => none

/-- The error a call of `holdReliabilityAttempt` rejects with. -/
def attemptError : Event ServiceCall → Option JsError
  | ⟨.holdReliabilityAttempt _, .error error⟩ => some error
  | _ => none

theorem kind_of_providerError {event : Event ServiceCall} {error : JsError}
    (rejected : providerError event = some error) :
    event.effect.isPreparation = false ∧ event.effect.isRecording = false := by
  obtain ⟨effect, reply⟩ := event
  cases effect with
  | complete request => exact ⟨rfl, rfl⟩
  | _ => simp [providerError] at rejected

theorem preparation_events {event : Event ServiceCall}
    (prepares : event.effect.isPreparation = true) :
    heldInference event = none ∧ attemptError event = none := by
  obtain ⟨effect, reply⟩ := event
  cases effect with
  | complete | holdReliabilityAttempt | classifyReliabilityNotDispatchedAtomically | failInference
  | holdInference | completeReliabilityInference | completeInference
  | completeReliabilityAttempt => cases prepares
  | _ => exact ⟨rfl, rfl⟩

theorem rejected_events {event : Event ServiceCall} {error : JsError}
    (rejected : providerError event = some error) :
    heldInference event = none ∧ attemptError event = none := by
  obtain ⟨effect, reply⟩ := event
  cases effect with
  | complete request => exact ⟨rfl, rfl⟩
  | _ => simp [providerError] at rejected

/-! ### The parts of a run -/

/-- The `catch` block rethrows. -/
theorem handleProviderError_throws {config : InferenceExecutionConfig}
    {input : ControlledInferenceInput} {error : JsError} {events : List (Event ServiceCall)}
    {response : ProviderResult}
    (run : Execution (handleProviderError config input error) events (.ok response)) : False := by
  rcases run.bind_inv with ⟨_, _, impossible⟩ | ⟨_, _, _, _, _, tail⟩
  · cases impossible
  · cases (Execution.fail_inv tail).2

/-- A call of the provider, then what follows from its reply. -/
theorem callProvider_inv {config : InferenceExecutionConfig} {input : ControlledInferenceInput}
    {binding : ProviderExecutionBinding} {token : Option String} {events : List (Event ServiceCall)}
    {outcome : Except JsError ProviderResult}
    (run : Execution (callProvider config input binding token) events outcome) :
    ∃ reply rest, events = ⟨.complete (completionRequest input binding token), reply⟩ :: rest ∧
      match reply with
      | .ok response => rest = [] ∧ outcome = .ok response
      | .error error => Execution (handleProviderError config input error) rest outcome := by
  obtain ⟨reply, rest, rfl, tail⟩ := Execution.call_inv run
  refine ⟨reply, rest, rfl, ?_⟩
  cases reply with
  | ok response => exact Execution.done_inv tail
  | error error => exact tail

/-- **A rejected call.** A run in which the provider's call rejects is a preparation, that call, and a
run of the `catch` block. -/
theorem execute_rejected [NodeCrypto] {config : InferenceExecutionConfig}
    {input : ControlledInferenceInput} {events : List (Event ServiceCall)}
    {outcome : Except JsError AdmissionResult}
    (run : Execution (execute config input) events outcome) {event : Event ServiceCall}
    {error : JsError} (member : event ∈ events) (rejected : providerError event = some error) :
    ∃ before after thrown, events = before ++ event :: after ∧ outcome = .error thrown ∧
      (∀ earlier ∈ before, earlier.effect.isPreparation = true) ∧
      Execution (handleProviderError config input error : Service ProviderResult) after
        (.error thrown) := by
  obtain ⟨unprepared, unrecorded⟩ := kind_of_providerError rejected
  replace unprepared : ¬ event.effect.isPreparation = true := by simp [unprepared]
  replace unrecorded : ¬ event.effect.isRecording = true := by simp [unrecorded]
  obtain ⟨⟨binding, admission⟩, asked, afterAdmission, rfl, prepared, member, run⟩ :=
    (requestAdmission_calls config input).skip run member unprepared
  change Execution (followAdmission config input binding admission) afterAdmission outcome at run
  unfold followAdmission at run
  split at run
  · obtain ⟨token, authorized, afterToken, rfl, prepared', member, run⟩ :=
      ((authorizeDispatch_calls config input binding _ _).mono fun _ =>
        ServiceCall.isPreparation_of_isAuthorization).skip run member unprepared
    have before : ∀ earlier ∈ asked ++ authorized, earlier.effect.isPreparation = true := by
      intro earlier here
      exact (List.mem_append.mp here).elim (prepared earlier) (prepared' earlier)
    rcases run.bind_inv with
      ⟨thrown, failed, rejects⟩ | ⟨response, called, persisted, rfl, returned, rest⟩
    · obtain ⟨reply, rest, rfl, tail⟩ := callProvider_inv failed
      cases reply with
      | ok response => cases tail.2
      | error reason =>
        rcases List.mem_cons.mp member with rfl | later
        · cases rejected
          exact ⟨asked ++ authorized, rest, thrown, by simp, rejects, before, tail⟩
        · exact absurd ((handleProviderError_calls ..).events tail event later) unrecorded
    · exfalso
      rcases List.mem_append.mp member with early | late
      · obtain ⟨reply, rest, rfl, tail⟩ := callProvider_inv returned
        cases reply with
        | ok response =>
          obtain ⟨rfl, _⟩ := tail
          rw [List.mem_singleton.mp early] at rejected
          cases rejected
        | error reason => exact handleProviderError_throws tail
      · exact unrecorded ((completeExecution_calls ..).events rest event late)
  · obtain ⟨rfl, _⟩ := Execution.done_inv run
    cases member

/-! ### Runs on fixed inputs -/

namespace Sample

/-- The decision on the request of the sample organization. -/
def decision : StoredPolicyDecision :=
  admissionDecision "decision" (Persistence.Sample.requestOn none "first" 8 10) 10
    ⟨newMandate (Persistence.Sample.mandate 20), Persistence.Sample.policy 20 []⟩ ⟨0, 0, 0, 0⟩ none
    ⟨.allow, .allow, true, []⟩

/-- The transport's error when the connection is lost after the request was sent. -/
def connectionLost : JsError :=
  ⟨"OPENROUTER_HTTP_DISPATCH_FAILED", some true, none, some "OPENROUTER_HTTP_DISPATCH_FAILED"⟩

/-- An environment in which the provider's call rejects; `holdReply` is the reliability store's reply
to its own hold. -/
def environment (holdReply : Except JsError Unit) {β : Type} : ServiceCall β → β
  | .resolveProvider _ => .ok binding
  | .now => some 10
  | .admitInference _ _ => .ok ⟨.execute decision 8, true⟩
  | .recordReliabilityAttempt _ => .ok ()
  | .authorizeReliabilityDispatch _ _ _ => .ok "token"
  | .awaitReliabilityDispatchRelease _ _ _ => .ok ()
  | .complete _ => .error connectionLost
  | .holdReliabilityAttempt _ => holdReply
  | .classifyReliabilityNotDispatchedAtomically _ _ => .ok ()
  | .failInference _ => .ok ()
  | .holdInference _ => .ok ()
  | .completeReliabilityInference _ _ => .error (newError "INFERENCE_EXECUTION_NOT_FOUND")
  | .completeInference _ => .error (newError "INFERENCE_EXECUTION_NOT_FOUND")
  | .completeReliabilityAttempt _ => .ok ()

/-- The run of `execute` in that environment. -/
def answered (holdReply : Except JsError Unit) : List (Event ServiceCall) × Except JsError AdmissionResult :=
  letI := Persistence.Sample.crypto
  (execute config input).answer (environment holdReply)

end Sample

/-! ### The hold -/

/-- The hold of an ambiguous outcome awaits the reliability store first: its rejection ends the
block, otherwise the execution is passed to `holdInference`. -/
theorem holdAmbiguous_inv {config : InferenceExecutionConfig} {input : ControlledInferenceInput}
    {error : JsError} {events : List (Event ServiceCall)} {outcome : Except JsError Unit}
    (run : Execution (holdAmbiguous config input error) events outcome) :
    (∃ hold reason, events = [⟨.holdReliabilityAttempt hold, .error reason⟩]) ∨
      ∃ attempt heldAt reply, (∀ event ∈ attempt, attemptError event = none) ∧
        events = attempt ++ [⟨.now, heldAt⟩, ⟨.holdInference ⟨input.requestId,
          input.organizationId, "PROVIDER_OUTCOME_AMBIGUOUS", none, heldAt⟩, reply⟩] := by
  have held {rest : List (Event ServiceCall)} (tail : Execution (do
      let heldAt ← perform .now
      await (.holdInference ⟨input.requestId, input.organizationId, "PROVIDER_OUTCOME_AMBIGUOUS",
        none, heldAt⟩) : Service Unit) rest outcome) :
      ∃ heldAt reply, rest = [⟨.now, heldAt⟩, ⟨.holdInference ⟨input.requestId,
        input.organizationId, "PROVIDER_OUTCOME_AMBIGUOUS", none, heldAt⟩, reply⟩] := by
    obtain ⟨heldAt, _, rfl, passed⟩ := Execution.call_inv tail
    obtain ⟨reply, rfl⟩ := await_inv passed
    exact ⟨heldAt, reply, rfl⟩
  unfold holdAmbiguous holdAttempt at run
  split at run
  · obtain ⟨heldAt, reply, rfl⟩ := held run
    exact .inr ⟨[], heldAt, reply, by simp, rfl⟩
  · split at run
    · obtain ⟨reply, rest, rfl, tail⟩ := Execution.call_inv run
      cases reply with
      | error reason =>
        obtain ⟨rfl, _⟩ := Execution.fail_inv tail
        exact .inl ⟨_, reason, rfl⟩
      | ok accepted =>
        obtain ⟨heldAt, reply, rfl⟩ := held tail
        refine .inr ⟨[⟨.holdReliabilityAttempt _, Except.ok accepted⟩], heldAt, reply, ?_, rfl⟩
        intro event only
        rw [List.mem_singleton.mp only]
        rfl
    · obtain ⟨heldAt, reply, rfl⟩ := held run
      exact .inr ⟨[], heldAt, reply, by simp, rfl⟩

/-- **When an ambiguous outcome is held.** Whatever the store, the reliability store and the provider
reply: an execution whose provider's call rejects with an error that does not prove that nothing was
dispatched is passed to `holdInference` before `execute` rejects, unless the reliability store
rejects its own hold. -/
theorem ambiguous_held_iff [NodeCrypto] {config : InferenceExecutionConfig}
    {input : ControlledInferenceInput} {events : List (Event ServiceCall)}
    {outcome : Except JsError AdmissionResult}
    (run : Execution (execute config input) events outcome) {error : JsError}
    (rejected : ∃ event ∈ events, providerError event = some error)
    (ambiguous : error.provablyNotDispatched = false) :
    (∃ thrown, outcome = .error thrown) ∧
      ((∃ event ∈ events, ∃ hold, heldInference event = some hold ∧
          hold.organizationId = input.organizationId ∧ hold.requestId = input.requestId) ↔
        ∀ event ∈ events, attemptError event = none) := by
  obtain ⟨event, member, rejected⟩ := rejected
  obtain ⟨before, after, thrown, rfl, rfl, prepares, run⟩ := execute_rejected run member rejected
  refine ⟨⟨thrown, rfl⟩, ?_⟩
  have dispatch : heldInference event = none ∧ attemptError event = none :=
    rejected_events rejected
  have recorded : ∃ ended, Execution (holdAmbiguous config input error) after ended := by
    unfold handleProviderError recordProviderError at run
    rw [ambiguous] at run
    rcases run.bind_inv with ⟨reason, threw, _⟩ | ⟨_, first, last, rfl, held, tail⟩
    · exact ⟨_, threw⟩
    · obtain ⟨rfl, _⟩ := Execution.fail_inv tail
      exact ⟨_, (List.append_nil first).symm ▸ held⟩
  obtain ⟨ended, recorded⟩ := recorded
  rcases holdAmbiguous_inv recorded with
    ⟨hold, reason, rfl⟩ | ⟨attempt, heldAt, reply, accepted, rfl⟩
  · refine iff_of_false ?_ ?_
    · rintro ⟨other, here, held, passed, _⟩
      rcases List.mem_append.mp here with early | late
      · rw [(preparation_events (prepares other early)).1] at passed
        cases passed
      · rcases List.mem_cons.mp late with rfl | last
        · rw [dispatch.1] at passed
          cases passed
        · rw [List.mem_singleton.mp last] at passed
          cases passed
    · intro none
      have := none ⟨.holdReliabilityAttempt hold, .error reason⟩ (by simp)
      cases this
  · refine iff_of_true ?_ ?_
    · refine ⟨⟨.holdInference ⟨input.requestId, input.organizationId, "PROVIDER_OUTCOME_AMBIGUOUS",
        none, heldAt⟩, reply⟩, ?_, _, rfl, rfl, rfl⟩
      refine List.mem_append_right _ (List.mem_cons_of_mem _ (List.mem_append_right _ ?_))
      exact List.mem_cons_of_mem _ (List.mem_singleton.mpr rfl)
    · intro other here
      rcases List.mem_append.mp here with early | late
      · exact (preparation_events (prepares other early)).2
      · rcases List.mem_cons.mp late with rfl | last
        · exact dispatch.2
        · rcases List.mem_append.mp last with first | second
          · exact accepted other first
          · rcases List.mem_cons.mp second with rfl | second
            · rfl
            · rw [List.mem_singleton.mp second]
              rfl

/-- The connection is lost after the request was sent; the reliability store accepts its hold. -/
theorem ambiguous_held_connectionLost : letI := Persistence.Sample.crypto
    (∃ thrown, (Sample.answered (.ok ())).2 = .error thrown) ∧
      ((∃ event ∈ (Sample.answered (.ok ())).1, ∃ hold, heldInference event = some hold ∧
          hold.organizationId = "org" ∧ hold.requestId = "first") ↔
        ∀ event ∈ (Sample.answered (.ok ())).1, attemptError event = none) :=
  letI := Persistence.Sample.crypto
  ambiguous_held_iff (Execution.answer (Sample.environment (.ok ())) _)
    (show ∃ event ∈ _, providerError event = some Sample.connectionLost by decide +kernel) rfl

/-- The same, but the protocol's control has failed: the reliability store rejects its hold, and the
execution is not passed to `holdInference`. -/
theorem ambiguous_not_held : letI := Persistence.Sample.crypto
    ∃ events outcome, Execution (execute Sample.config Sample.input) events outcome ∧
      (∃ event ∈ events, providerError event = some Sample.connectionLost) ∧
      Sample.connectionLost.provablyNotDispatched = false ∧
      ∀ event ∈ events, heldInference event = none :=
  letI := Persistence.Sample.crypto
  ⟨_, _, Execution.answer (Sample.environment (.error (newError "PROTOCOL_CONTROL_FAILED"))) _,
    by decide +kernel, rfl, by decide +kernel⟩

end FuseControlPlane.Inference
