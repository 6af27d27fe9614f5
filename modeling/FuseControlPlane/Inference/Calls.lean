/-
Which calls the parts of `execute` make.

* `isPreparation`: the calls before the provider's; `isAuthorization`: those of them that the
  reliability protocol asks for after the admission.
* `isRecording`: the calls after the provider's, which record what came of it.
-/

import FuseControlPlane.Inference.InferenceExecution

set_option linter.unusedSectionVars false

namespace FuseControlPlane.Inference

open Foundation Foundation.JavaScript Domain Identity FuseControlPlane.Core Persistence Program

/-! ### Kinds of calls -/

namespace ServiceCall

/-- The calls of the reliability protocol before the provider's. -/
def isAuthorization {β : Type} : ServiceCall β → Bool
  | recordReliabilityAttempt _ => true
  | authorizeReliabilityDispatch _ _ _ => true
  | awaitReliabilityDispatchRelease _ _ _ => true
  | _ => false

/-- The calls before the provider's. -/
def isPreparation {β : Type} : ServiceCall β → Bool
  | resolveProvider _ => true
  | now => true
  | admitInference _ _ => true
  | effect => effect.isAuthorization

/-- The calls after the provider's. -/
def isRecording {β : Type} : ServiceCall β → Bool
  | now => true
  | holdReliabilityAttempt _ => true
  | classifyReliabilityNotDispatchedAtomically _ _ => true
  | failInference _ => true
  | holdInference _ => true
  | completeReliabilityInference _ _ => true
  | completeInference _ => true
  | completeReliabilityAttempt _ => true
  | _ => false

theorem isPreparation_of_isAuthorization {β : Type} {call : ServiceCall β}
    (authorizes : call.isAuthorization = true) : call.isPreparation = true := by
  cases call <;> first | rfl | cases authorizes

end ServiceCall

/-! ### The parts of `execute` -/

theorem await_inv {α : Type} {call : ServiceCall (Except JsError α)}
    {events : List (Event ServiceCall)} {outcome : Except JsError α}
    (run : Execution (await call) events outcome) : ∃ reply, events = [⟨call, reply⟩] := by
  obtain ⟨reply, rest, rfl, tail⟩ := Execution.call_inv run
  cases reply with
  | ok value => exact ⟨_, by rw [(Execution.done_inv tail).1]⟩
  | error error => exact ⟨_, by rw [(Execution.fail_inv tail).1]⟩

theorem await_calls {P : {β : Type} → ServiceCall β → Prop} {α : Type}
    {call : ServiceCall (Except JsError α)} (holds : P call) : AllCalls P (await call) :=
  .bind (.perform holds) fun _ => .fromExcept

theorem requestAdmission_calls [NodeCrypto] (config : InferenceExecutionConfig)
    (input : ControlledInferenceInput) :
    AllCalls (fun call => call.isPreparation = true) (requestAdmission config input) := by
  refine .bind .throwUnless fun _ => .bind ?_ fun _ => .bind .throwUnless fun _ =>
    .bind .fromExcept fun _ => .bind (.perform (by rfl)) fun _ => .bind (await_calls (by rfl)) fun _ =>
      .done
  unfold providerBinding
  split
  · exact .done
  · exact await_calls rfl

theorem authorizeDispatch_calls (config : InferenceExecutionConfig) (input : ControlledInferenceInput)
    (binding : ProviderExecutionBinding) (reservedCostAtomic : ℤ) (committed : Bool) :
    AllCalls (fun call => call.isAuthorization = true)
      (authorizeDispatch config input binding reservedCostAtomic committed) := by
  unfold authorizeDispatch
  split
  · exact .done
  · refine .bind .orThrow fun _ => .bind .throwUnless fun _ => .bind ?_ fun _ =>
      .bind (await_calls rfl) fun _ => .bind (await_calls rfl) fun _ => .done
    unfold recordAttempt
    split
    · exact .done
    · exact await_calls rfl

theorem holdAttempt_calls (config : InferenceExecutionConfig) (input : ControlledInferenceInput)
    (reasonCode : String) (generationId : Option String) (response : Option ProviderResult) :
    AllCalls (fun call => call.isRecording = true)
      (holdAttempt config input reasonCode generationId response) := by
  unfold holdAttempt
  split
  · exact .done
  · split
    · exact await_calls rfl
    · exact .done

theorem persistCompletion_calls (config : InferenceExecutionConfig)
    (input : ControlledInferenceInput) (binding : ProviderExecutionBinding)
    (decision : StoredPolicyDecision) (reservedCostAtomic : ℤ) (response : ProviderResult) :
    AllCalls (fun call => call.isRecording = true)
      (persistCompletion config input binding decision reservedCostAtomic response) := by
  refine .bind .fromExcept fun _ => .bind (.perform rfl) fun _ => ?_
  split
  · exact await_calls rfl
  · refine .bind .fromExcept fun _ => ?_
    split
    · exact await_calls rfl
    · refine .bind (await_calls rfl) fun _ => .bind ?_ fun _ => .done
      unfold completeAttempt
      split
      · exact await_calls rfl
      · exact .done

theorem handleCompletionError_calls {α : Type} (config : InferenceExecutionConfig)
    (input : ControlledInferenceInput) (response : ProviderResult) (error : JsError) :
    AllCalls (fun call => call.isRecording = true)
      (handleCompletionError config input response error : Service α) :=
  .bind (.perform rfl) fun _ => .bind (await_calls rfl) fun _ =>
    .bind (holdAttempt_calls ..) fun _ => .fail

theorem handleProviderError_calls {α : Type} (config : InferenceExecutionConfig)
    (input : ControlledInferenceInput) (error : JsError) :
    AllCalls (fun call => call.isRecording = true)
      (handleProviderError config input error : Service α) := by
  refine .bind ?_ fun _ => .fail
  unfold recordProviderError
  split
  · refine .bind (.perform rfl) fun _ => ?_
    split
    · exact .bind .throwUnless fun _ => await_calls rfl
    · exact await_calls rfl
  · exact .bind (holdAttempt_calls ..) fun _ => .bind (.perform rfl) fun _ => await_calls rfl

theorem completeExecution_calls (config : InferenceExecutionConfig)
    (input : ControlledInferenceInput) (binding : ProviderExecutionBinding)
    (decision : StoredPolicyDecision) (reservedCostAtomic : ℤ) (response : ProviderResult) :
    AllCalls (fun call => call.isRecording = true)
      (completeExecution config input binding decision reservedCostAtomic response) :=
  .bind (.tryCatch (persistCompletion_calls ..) fun _ => handleCompletionError_calls ..) fun _ =>
    .bind .throwUnless fun _ => .done

end FuseControlPlane.Inference
