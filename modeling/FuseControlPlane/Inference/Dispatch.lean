/-
**At-most-once dispatch.**

Any number of `execute` calls share the policy store (`Foundation.World`). Between the calls a process
makes, others run, operators act, leases expire; a process may crash at any point, also between the
commit of its admission and the reply.

* `Answers`: the replies a call may get, and the store it leaves. `Moves`: what else happens to the
  store.
* `Phase.react`: the protocol of one `execute` call. `execute_follows`: it asks once for admission, and
  calls the provider once, after the admission asked for execution.
* `Exclusive`: who was asked to execute. The row is there, with the fingerprint that was sent, and
  nobody else was asked.
* `dispatched_at_most_once`: what follows for the provider's calls.
-/

import FuseControlPlane.Foundation.Processes
import FuseControlPlane.Inference.Calls
import FuseControlPlane.Persistence.Invariants

set_option linter.unusedSectionVars false

namespace FuseControlPlane.Inference

open Foundation Foundation.JavaScript Domain Identity FuseControlPlane.Core Persistence Program

/-! ### Calls in a run -/

/-- A call of the provider. -/
def isDispatch : Event ServiceCall → Bool
  | ⟨.complete _, _⟩ => true
  | _ => false

/-- The fingerprint sent with an admission request. -/
def sentFingerprint : Event ServiceCall → Option String
  | ⟨.admitInference sent _, _⟩ => some sent.requestFingerprint
  | _ => none

/-- The reply to an admission asks for execution. -/
def asksForExecution : Except JsError Admission → Bool
  | .ok ⟨.execute _ _, _⟩ => true
  | _ => false

theorem execute_of_asks {admission : Admission}
    (asks : asksForExecution (.ok admission) = true) :
    ∃ decision reservedCostAtomic, admission.result = .execute decision reservedCostAtomic := by
  obtain ⟨result, committed⟩ := admission
  cases result with
  | execute decision reservedCostAtomic => exact ⟨_, _, rfl⟩
  | _ => cases asks

/-- An admission request that was answered by asking for execution. -/
def granted : Event ServiceCall → Option AdmitInferenceInput
  | ⟨.admitInference sent _, reply⟩ => if asksForExecution reply then some sent else none
  | _ => none

abbrev ExecuteCall : Type 1 := Process ServiceCall JsError AdmissionResult

/-- The call has called the provider, or does so next. -/
def reachesProvider (call : ExecuteCall) : Prop :=
  (∃ event ∈ call.history, isDispatch event = true) ∨
    ∃ request next, call.program = .call (.complete request) next

/-! ### The protocol of a call -/

/-- How far a call has come; from its admission on, with the fingerprint it sent. -/
inductive Phase
  | preparing
  | refused (requestFingerprint : String)
  | admitted (requestFingerprint : String)
  | dispatched (requestFingerprint : String)
  deriving DecidableEq

namespace Phase

/-- The phase after the reply to an admission request. -/
def answered (sent : AdmitInferenceInput) (reply : Except JsError Admission) : Phase :=
  if asksForExecution reply then .admitted sent.requestFingerprint
  else .refused sent.requestFingerprint

/-- A call asks for admission once, for its own request; it calls the provider once, when it was
asked to execute. -/
def react (input : ControlledInferenceInput) (phase : Phase) : Event ServiceCall → Option Phase
  | ⟨.admitInference sent _, reply⟩ =>
    if phase = .preparing ∧ sent.organizationId = input.organizationId ∧
      sent.requestId = input.requestId then some (answered sent reply) else none
  | ⟨.complete _, _⟩ =>
    match phase with
    | .admitted requestFingerprint => some (.dispatched requestFingerprint)
    | _ => none
  | _ => some phase

/-- The fingerprint that was sent. -/
def sent : Phase → Option String
  | preparing => none
  | refused requestFingerprint => some requestFingerprint
  | admitted requestFingerprint => some requestFingerprint
  | dispatched requestFingerprint => some requestFingerprint

/-- The call was asked to execute. -/
def asked : Phase → Bool
  | admitted _ => true
  | dispatched _ => true
  | _ => false

/-- How often the provider was called. -/
def dispatches : Phase → ℕ
  | dispatched _ => 1
  | _ => 0

variable {input : ControlledInferenceInput} {phase later : Phase} {event : Event ServiceCall}

theorem react_dispatches (moved : react input phase event = some later) :
    later.dispatches = phase.dispatches + if isDispatch event then 1 else 0 := by
  obtain ⟨effect, reply⟩ := event
  cases effect with
  | complete request =>
    cases phase with
    | admitted requestFingerprint => cases moved; rfl
    | _ => cases moved
  | admitInference sent reliability =>
    simp only [react] at moved
    split at moved
    · next allowed =>
      cases moved
      rw [allowed.1, answered]
      split <;> rfl
    · cases moved
  | _ => cases moved; rfl

theorem react_sent (moved : react input phase event = some later) :
    later.sent.toList = phase.sent.toList ++ (sentFingerprint event).toList := by
  obtain ⟨effect, reply⟩ := event
  cases effect with
  | complete request =>
    cases phase with
    | admitted requestFingerprint => cases moved; rfl
    | _ => cases moved
  | admitInference sent reliability =>
    simp only [react] at moved
    split at moved
    · next allowed =>
      cases moved
      rw [allowed.1, answered]
      split <;> rfl
    · cases moved
  | _ => cases moved; exact (List.append_nil _).symm

/-- A call that is asked to execute was asked before, or is asked by this reply. -/
theorem react_asked (moved : react input phase event = some later) (asks : later.asked = true) :
    (phase.asked = true ∧ later.sent = phase.sent) ∨ ∃ sent, granted event = some sent ∧
      sent.organizationId = input.organizationId ∧ sent.requestId = input.requestId ∧
      later.sent = some sent.requestFingerprint := by
  obtain ⟨effect, reply⟩ := event
  cases effect with
  | complete request =>
    cases phase with
    | admitted requestFingerprint => cases moved; exact .inl ⟨rfl, rfl⟩
    | _ => cases moved
  | admitInference sent reliability =>
    simp only [react] at moved
    split at moved
    · next allowed =>
      cases moved
      unfold answered at asks ⊢
      split at asks
      · next executes =>
        exact .inr ⟨sent, if_pos executes, allowed.2.1, allowed.2.2, by rw [if_pos executes]; rfl⟩
      · cases asks
    · cases moved
  | _ => cases moved; exact .inl ⟨asks, rfl⟩

theorem sent_of_asked (asks : phase.asked = true) :
    ∃ requestFingerprint, phase.sent = some requestFingerprint := by
  cases phase with
  | admitted requestFingerprint | dispatched requestFingerprint => exact ⟨_, rfl⟩
  | _ => cases asks

end Phase

/-- The phase a call has come to. -/
def callPhase (input : ControlledInferenceInput) (call : ExecuteCall) : Option Phase :=
  phaseAfter (Phase.react input) .preparing call.history

section History

variable {input : ControlledInferenceInput} {phase : Phase} {history : List (Event ServiceCall)}

/-- The phase counts the calls of the provider. -/
theorem dispatches_of_history
    (here : phaseAfter (Phase.react input) .preparing history = some phase) :
    history.countP isDispatch = phase.dispatches := by
  induction history using List.reverseRecOn generalizing phase with
  | nil =>
    cases here
    rfl
  | append_singleton earlier event ih =>
    obtain ⟨before, so_far, moved⟩ := phaseAfter_concat_inv _ here
    rw [List.countP_append, ih so_far, Phase.react_dispatches moved]
    simp [List.countP_singleton]

/-- The phase tells what was sent. -/
theorem sent_of_history
    (here : phaseAfter (Phase.react input) .preparing history = some phase) :
    history.filterMap sentFingerprint = phase.sent.toList := by
  induction history using List.reverseRecOn generalizing phase with
  | nil =>
    cases here
    rfl
  | append_singleton earlier event ih =>
    obtain ⟨before, so_far, moved⟩ := phaseAfter_concat_inv _ here
    rw [List.filterMap_append, ih so_far, Phase.react_sent moved]
    cases sent : sentFingerprint event <;> simp [sent]

end History

/-! ### Every call follows the protocol -/

/-- Neither an admission request nor a call of the provider. -/
def ServiceCall.isNeutral {β : Type} : ServiceCall β → Bool
  | admitInference _ _ => false
  | complete _ => false
  | _ => true

/-- A part of `execute` that leaves the phase as it is. -/
def Neutral {α : Type} (program : Service α) : Prop :=
  AllCalls (fun call => call.isNeutral = true) program

theorem ServiceCall.isNeutral_of_isAuthorization {β : Type} {call : ServiceCall β}
    (authorizes : call.isAuthorization = true) : call.isNeutral = true := by
  cases call <;> first | rfl | cases authorizes

theorem ServiceCall.isNeutral_of_isRecording {β : Type} {call : ServiceCall β}
    (records : call.isRecording = true) : call.isNeutral = true := by
  cases call <;> first | rfl | cases records

theorem Phase.react_neutral {input : ControlledInferenceInput} {phase : Phase}
    (event : Event ServiceCall) (neutral : event.effect.isNeutral = true) :
    react input phase event = some phase := by
  obtain ⟨effect, reply⟩ := event
  cases effect with
  | complete | admitInference => cases neutral
  | _ => rfl

section Calls

variable {config : InferenceExecutionConfig} {input : ControlledInferenceInput}

/-- From its admission on, a call calls the provider at most once. -/
theorem executeAdmitted_follows (binding : ProviderExecutionBinding)
    (decision : StoredPolicyDecision) (reservedCostAtomic : ℤ) (committed : Bool)
    (requestFingerprint : String) :
    Follows (Phase.react input) (fun _ _ => True) (.admitted requestFingerprint)
      (executeAdmitted config input binding decision reservedCostAtomic committed) := by
  have recording {α : Type} {phase : Phase} {program : Service α}
      (calls : AllCalls (fun call => call.isRecording = true) program) :
      Follows (Phase.react input) (fun _ _ => True) phase program :=
    (Follows.idle (calls.mono fun _ => ServiceCall.isNeutral_of_isRecording)
      Phase.react_neutral).mono fun _ _ _ => trivial
  refine .idle_bind ((authorizeDispatch_calls ..).mono fun _ =>
    ServiceCall.isNeutral_of_isAuthorization) Phase.react_neutral fun token => ?_
  have dispatches : Follows (Phase.react input) (fun _ _ => True) (.admitted requestFingerprint)
      (callProvider config input binding token) := by
    refine .call fun reply => ⟨.dispatched requestFingerprint, rfl, ?_⟩
    cases reply with
    | ok response => exact .done trivial
    | error error => exact recording (handleProviderError_calls ..)
  exact dispatches.bind fun response later _ => recording (completeExecution_calls ..)

variable [NodeCrypto]

/-- **A call follows its protocol.** -/
theorem execute_follows :
    Follows (Phase.react input) (fun _ _ => True) .preparing (execute config input) := by
  have checked {α : Type} {result : Except JsError α} : Neutral (fromExcept result) :=
    AllCalls.fromExcept
  have passes {condition : Bool} {error : JsError} : Neutral (throwUnless condition error) :=
    AllCalls.throwUnless
  have reads : Neutral (perform .now) := AllCalls.perform rfl
  have looksUp : Neutral (providerBinding config input.organizationId) := by
    unfold providerBinding
    split
    · exact .done
    · exact await_calls rfl
  simp only [execute, requestAdmission, bind_assoc]
  refine .idle_bind passes Phase.react_neutral fun _ => .idle_bind looksUp Phase.react_neutral
    fun binding => .idle_bind passes Phase.react_neutral fun _ => .idle_bind checked
      Phase.react_neutral fun cost => .idle_bind reads Phase.react_neutral fun decidedAt => ?_
  refine .call fun reply => ⟨_, if_pos ⟨rfl, rfl, rfl⟩, ?_⟩
  cases reply with
  | error error => exact .fail
  | ok admission =>
    change Follows _ _ _ (followAdmission config input binding admission)
    obtain ⟨result, committed⟩ := admission
    cases result with
    | execute decision reservedCostAtomic => exact executeAdmitted_follows ..
    | _ => exact .done trivial

end Calls

section Runs

variable [NodeCrypto]

/-! ### The store around the calls -/

/-- The reply to a call that runs a transaction of the policy store. A rejected call was rolled back,
or it was committed and its reply lost. -/
def Ran {α : Type} (db : Db) (op : Op) (reply : α → Reply) : Except JsError α → Db → Prop
  | .ok value, after => outcome db op = .ok (reply value, after)
  | .error _, after => after = db ∨ after = step db op

/-- The replies a call may get, and the store it leaves. An admission with a reliability part is made
at the reservation that was sealed for it; the reliability protocol's own tables and the provider are
left open. -/
def Answers : {β : Type} → Db → ServiceCall β → β → Db → Prop
  | _, db, .admitInference input reliability, reply, after => ∃ decisionId estimatedCostAtomic,
      (reliability = none → estimatedCostAtomic = input.estimatedCostAtomic) ∧
      Ran db (.admitInference decisionId { input with estimatedCostAtomic })
        (fun admission => .admission admission.result) reply after
  | _, db, .completeInference input, reply, after =>
      Ran db (.completeInference input) .completion reply after
  | _, db, .completeReliabilityInference ordinary _, reply, after =>
      Ran db (.completeInference ordinary) .completion reply after
  | _, db, .failInference input, reply, after =>
      Ran db (.failInference input) (fun _ => .nothing) reply after
  | _, db, .classifyReliabilityNotDispatchedAtomically ordinary _, reply, after =>
      Ran db (.failInference ordinary) (fun _ => .nothing) reply after
  | _, db, .holdInference input, reply, after =>
      Ran db (.holdInference input) (fun _ => .nothing) reply after
  | _, db, _, _, after => after = db

/-- What else may happen to the store. -/
inductive Moves (db : Db) : Db → Prop
  /-- Any method of the policy store is called, by anyone. -/
  | op (op : Op) : Moves db (step db op)
  /-- The reliability protocol settles an execution with statements of its own; none of them writes
  the key or the fingerprint. -/
  | settled (old new : ExecutionRow)
      (found : db.execution new.organizationId new.requestId = some old)
      (fixed : new.requestFingerprint = old.requestFingerprint) :
      Moves db ((Write.execution new).apply db)

/-- The execution of a request is there, known by this fingerprint. -/
def KnownBy (organizationId requestId requestFingerprint : String) (db : Db) : Prop :=
  ∃ row, db.execution organizationId requestId = some row ∧
    row.requestFingerprint = requestFingerprint

section Store

variable {db after : Db} {op : Op} {reply : Reply}
  {organizationId requestId requestFingerprint : String}

theorem KnownBy.congr (known : KnownBy organizationId requestId requestFingerprint db)
    (same : after.execution organizationId requestId = db.execution organizationId requestId) :
    KnownBy organizationId requestId requestFingerprint after := by
  obtain ⟨row, found, fingerprint⟩ := known
  exact ⟨row, same.trans found, fingerprint⟩

/-- A write that keeps the fingerprint of the execution it replaces. -/
theorem KnownBy.write (known : KnownBy organizationId requestId requestFingerprint db)
    {old new : ExecutionRow} (found : db.execution new.organizationId new.requestId = some old)
    (fixed : new.requestFingerprint = old.requestFingerprint)
    (written : after.execution organizationId requestId =
      if organizationId = new.organizationId ∧ requestId = new.requestId then some new
      else db.execution organizationId requestId) :
    KnownBy organizationId requestId requestFingerprint after := by
  by_cases here : organizationId = new.organizationId ∧ requestId = new.requestId
  · obtain ⟨row, there, fingerprint⟩ := known
    rw [if_pos here] at written
    rw [here.1, here.2, found] at there
    cases there
    exact ⟨new, written, fixed.trans fingerprint⟩
  · exact known.congr (written.trans (if_neg here))

theorem KnownBy.update (known : KnownBy organizationId requestId requestFingerprint db)
    {row : ExecutionRow} {update : ExecutionUpdate}
    (found : db.execution row.organizationId row.requestId = some row)
    (written : after.execution organizationId requestId =
      if organizationId = row.organizationId ∧ requestId = row.requestId then some (update.set row)
      else db.execution organizationId requestId) :
    KnownBy organizationId requestId requestFingerprint after := by
  have preserves := update.set_preserves row
  rw [← preserves.organizationId, ← preserves.requestId] at found written
  exact known.write found preserves.requestFingerprint written

/-- **No commit forgets an execution or its fingerprint.** -/
theorem KnownBy.commit (known : KnownBy organizationId requestId requestFingerprint db)
    (commit : Commit db op reply after) :
    KnownBy organizationId requestId requestFingerprint after := by
  cases commit with
  | organization | agent | policy | mandate | assigned | branch | transition | policySet =>
    exact known.congr (by simp)
  | previewed | replayed | notFailed | resolvedBefore => exact known
  | held op reply row update holds quiet owned =>
    exact known.update (found_of_heldExecution holds).1 (db.execution_holdExecution row update _ _)
  | admitted decisionId input decidedAt row result begun fresh evaluated =>
    refine known.congr ?_
    rw [Db.execution_recordAdmission, if_neg]
    rintro ⟨rfl, rfl⟩
    obtain ⟨row, found, _⟩ := known
    rw [fresh] at found
    cases found
  | completed input reply row completedAt found running positive within =>
    obtain ⟨organization, request⟩ := Db.key_of_execution found
    exact known.update (by rw [organization, request]; exact found) (db.execution_update row _ _ _)
  | failed input row failedAt found running =>
    obtain ⟨organization, request⟩ := Db.key_of_execution found
    exact known.update (by rw [organization, request]; exact found) (db.execution_update row _ _ _)
  | resolved input row cost occurredAt after found onHold fresh priced released =>
    obtain ⟨organization, request⟩ := Db.key_of_execution found
    have resolved := known.update (by rw [organization, request]; exact found)
      (db.execution_recordResolution input row cost occurredAt _ _)
    exact resolved.congr (by cases released <;> rfl)

/-- Asking for execution records the request, which was not known before. -/
theorem recorded_of_execute {decisionId : String} {input : AdmitInferenceInput}
    {decision : StoredPolicyDecision} {reservedCostAtomic : ℤ}
    (committed : outcome db (.admitInference decisionId input) =
      .ok (.admission (.execute decision reservedCostAtomic), after)) :
    db.execution input.organizationId input.requestId = none ∧
      KnownBy input.organizationId input.requestId input.requestFingerprint after := by
  generalize replied : Reply.admission (.execute decision reservedCostAtomic) = reply at committed
  cases commit_of_outcome committed with
  | replayed _ _ result quiet => exact absurd replied.symm (quiet _ _)
  | held _ _ row update holds quiet owned => exact absurd replied.symm (quiet _ _)
  | admitted _ _ decidedAt row result begun fresh evaluated =>
    refine ⟨fresh, admittedExecution input decidedAt (db.newDecision input decisionId decidedAt row
      result), ?_, rfl⟩
    rw [Db.execution_recordAdmission, if_pos ⟨rfl, rfl⟩]

theorem KnownBy.step (known : KnownBy organizationId requestId requestFingerprint db) (op : Op) :
    KnownBy organizationId requestId requestFingerprint (step db op) :=
  step_preserves known fun _ _ => known.commit

theorem KnownBy.ran (known : KnownBy organizationId requestId requestFingerprint db) {α : Type}
    {reply : α → Reply} {result : Except JsError α} (ran : Ran db op reply result after) :
    KnownBy organizationId requestId requestFingerprint after := by
  cases result with
  | ok value => exact known.commit (commit_of_outcome ran)
  | error error =>
    rcases ran with rfl | rfl
    · exact known
    · exact known.step op

theorem KnownBy.answers (known : KnownBy organizationId requestId requestFingerprint db)
    {event : Event ServiceCall} (answered : Answers db event.effect event.reply after) :
    KnownBy organizationId requestId requestFingerprint after := by
  obtain ⟨effect, reply⟩ := event
  cases effect with
  | admitInference input reliability =>
    obtain ⟨decisionId, cost, _, ran⟩ := answered
    exact known.ran ran
  | completeInference | completeReliabilityInference | failInference
  | classifyReliabilityNotDispatchedAtomically | holdInference => exact known.ran answered
  | _ => exact answered ▸ known

theorem KnownBy.moves (known : KnownBy organizationId requestId requestFingerprint db)
    (moved : Moves db after) : KnownBy organizationId requestId requestFingerprint after := by
  cases moved with
  | op op => exact known.step op
  | settled old new found fixed => exact known.write found fixed (execution_apply ..)

/-- A grant records the request, which was not known before. -/
theorem recorded_of_granted {event : Event ServiceCall} {sent : AdmitInferenceInput}
    (grants : granted event = some sent) (answered : Answers db event.effect event.reply after) :
    db.execution sent.organizationId sent.requestId = none ∧
      KnownBy sent.organizationId sent.requestId sent.requestFingerprint after := by
  obtain ⟨effect, reply⟩ := event
  cases effect with
  | admitInference input reliability =>
    obtain ⟨asks, same⟩ := Option.ite_none_right_eq_some.mp grants
    cases same
    obtain ⟨decisionId, estimatedCostAtomic, _, ran⟩ := answered
    cases reply with
    | error error => cases asks
    | ok admission =>
      obtain ⟨decision, reservedCostAtomic, executes⟩ := execute_of_asks asks
      change outcome db _ = .ok (.admission admission.result, after) at ran
      rw [executes] at ran
      exact @recorded_of_execute _ db after decisionId { sent with estimatedCostAtomic } decision
        reservedCostAtomic ran
  | _ => cases grants

end Store

/-! ### Worlds of `execute` calls -/

section Worlds

variable {ι : Type} [DecidableEq ι] {config : ι → InferenceExecutionConfig}
  {input : ι → ControlledInferenceInput} {organizationId requestId : String}

abbrev ExecuteWorld (ι : Type) : Type 1 := World ServiceCall Db JsError AdmissionResult ι

/-- The call carries this organization and request id. -/
def ControlledInferenceInput.carries (input : ControlledInferenceInput)
    (organizationId requestId : String) : Prop :=
  input.organizationId = organizationId ∧ input.requestId = requestId

/-- Who was asked to execute a request: its row is there, with the fingerprint that was sent, and
nobody else was asked. -/
structure Exclusive (input : ι → ControlledInferenceInput) (organizationId requestId : String)
    (world : ExecuteWorld ι) : Prop where
  known : ∀ {name : ι} {phase : Phase} {requestFingerprint : String},
    (input name).carries organizationId requestId →
    callPhase (input name) (world.process name) = some phase → phase.asked = true →
    phase.sent = some requestFingerprint →
    KnownBy organizationId requestId requestFingerprint world.store
  unique : ∀ {first second : ι} {left right : Phase},
    (input first).carries organizationId requestId →
    (input second).carries organizationId requestId →
    callPhase (input first) (world.process first) = some left →
    callPhase (input second) (world.process second) = some right →
    left.asked = true → right.asked = true → first = second

/-- A reply that grants is the first one about its request; any other changes nobody's grant. -/
theorem Exclusive.step {world after : ExecuteWorld ι}
    (exclusive : Exclusive input organizationId requestId world)
    (taken : World.Step Answers Moves world after) :
    Exclusive input organizationId requestId after := by
  cases taken with
  | move after moved =>
    exact ⟨fun carries here asked sent => (exclusive.known carries here asked sent).moves moved,
      exclusive.unique⟩
  | call caller effect next reply after here answered =>
    -- What the caller holds now it held before, or it is granted by this reply.
    have origin : ∀ {phase : Phase}, (input caller).carries organizationId requestId →
        callPhase (input caller) ⟨next reply, (world.process caller).history ++ [⟨effect, reply⟩]⟩ =
          some phase → phase.asked = true →
        (∃ earlier, callPhase (input caller) (world.process caller) = some earlier ∧
          earlier.asked = true ∧ phase.sent = earlier.sent) ∨
        world.store.execution organizationId requestId = none ∧ ∃ requestFingerprint,
          phase.sent = some requestFingerprint ∧
          KnownBy organizationId requestId requestFingerprint after := by
      intro phase carries now asked
      obtain ⟨earlier, so_far, moved⟩ := phaseAfter_concat_inv _ now
      rcases Phase.react_asked moved asked with
        ⟨before, same⟩ | ⟨sent, grants, owner, request, named⟩
      · exact .inl ⟨earlier, so_far, before, same⟩
      · obtain ⟨fresh, known⟩ := recorded_of_granted grants answered
        rw [owner, request, carries.1, carries.2] at fresh known
        exact .inr ⟨fresh, _, named, known⟩
    have kept {requestFingerprint : String}
        (known : KnownBy organizationId requestId requestFingerprint world.store) :
        KnownBy organizationId requestId requestFingerprint after :=
      @KnownBy.answers _ _ after _ _ _ known ⟨effect, reply⟩ answered
    -- Nobody else can hold a grant next to a new one: the request would have been known.
    have alone : ∀ {name : ι} {phase other : Phase}, name ≠ caller →
        (input caller).carries organizationId requestId →
        (input name).carries organizationId requestId →
        callPhase (input caller) ⟨next reply, (world.process caller).history ++ [⟨effect, reply⟩]⟩ =
          some phase → phase.asked = true →
        callPhase (input name) (world.process name) = some other → other.asked = true → False := by
      intro name phase other different carries carries' now asked here asked'
      rcases origin carries now asked with ⟨earlier, was, held, _⟩ | ⟨fresh, _⟩
      · exact different (exclusive.unique carries' carries here was asked' held)
      · obtain ⟨requestFingerprint, sent⟩ := other.sent_of_asked asked'
        obtain ⟨row, found, _⟩ := exclusive.known carries' here asked' sent
        rw [fresh] at found
        cases found
    refine ⟨fun {name phase requestFingerprint} carries now asked sent => ?_,
      fun {first second left right} carries carries' now now' asked asked' => ?_⟩
    · by_cases same : name = caller
      · subst same
        simp only [Function.update_self] at now
        rcases origin carries now asked with ⟨earlier, was, held, same⟩ | ⟨_, _, named, known⟩
        · exact kept (exclusive.known carries was held (same ▸ sent))
        · rw [named] at sent
          cases sent
          exact known
      · simp only [Function.update_of_ne same] at now
        exact kept (exclusive.known carries now asked sent)
    · by_cases atFirst : first = caller
      · by_cases atSecond : second = caller
        · rw [atFirst, atSecond]
        · subst atFirst
          simp only [Function.update_self] at now
          simp only [Function.update_of_ne atSecond] at now'
          exact (alone atSecond carries carries' now asked now' asked').elim
      · simp only [Function.update_of_ne atFirst] at now
        by_cases atSecond : second = caller
        · subst atSecond
          simp only [Function.update_self] at now'
          exact (alone atFirst carries' carries now' asked' now asked).elim
        · simp only [Function.update_of_ne atSecond] at now'
          exact exclusive.unique carries carries' now now' asked asked'

theorem exclusive_reachable {db : Db} {programs : ι → Service AdmissionResult}
    {world : ExecuteWorld ι}
    (reached : World.Reachable Answers Moves (World.start db programs) world) :
    Exclusive input organizationId requestId world := by
  refine reached.invariant ⟨?_, ?_⟩ fun _ _ => Exclusive.step
  · intro name phase requestFingerprint _ here asked
    cases here
    cases asked
  · intro first second left right _ _ here _ asked
    cases here
    cases asked

/-- Whoever reaches the provider was asked to execute. -/
theorem asked_of_reachesProvider {input : ControlledInferenceInput} {call : ExecuteCall}
    {phase : Phase} (here : callPhase input call = some phase)
    (follows : Follows (Phase.react input) (fun _ _ => True) phase call.program)
    (reaches : reachesProvider call) : phase.asked = true := by
  rcases reaches with ⟨event, member, dispatch⟩ | ⟨request, next, dispatches⟩
  · have counted := dispatches_of_history here
    have once : 0 < call.history.countP isDispatch :=
      List.countP_pos_iff.mpr ⟨event, member, dispatch⟩
    rw [counted] at once
    cases phase with
    | dispatched requestFingerprint => rfl
    | _ => cases once
  · rw [dispatches] at follows
    obtain ⟨later, moved, _⟩ := Follows.call_iff.mp follows (.error (newError ""))
    cases phase with
    | admitted requestFingerprint => rfl
    | _ => cases moved

theorem known_reachable {requestFingerprint : String} {world later : ExecuteWorld ι}
    (known : KnownBy organizationId requestId requestFingerprint world.store)
    (reached : World.Reachable Answers Moves world later) :
    KnownBy organizationId requestId requestFingerprint later.store := by
  refine @World.Reachable.invariant _ _ _ _ _ _ Answers Moves
    (fun world => KnownBy organizationId requestId requestFingerprint world.store) _ _ reached known
    fun earlier after known taken => ?_
  cases taken with
  | move after moved => exact known.moves moved
  | call caller effect next reply after here answered =>
    exact @KnownBy.answers _ _ after _ _ _ known ⟨effect, reply⟩ answered

/-- **At-most-once dispatch.** Any number of `execute` calls run interleaved over any store, with any
replies of the provider and the reliability store, crashes at any point, and any other calls and
settlements in between. Of the calls that carry a request's id at most one reaches the provider, and
it calls it at most once. Once the request is known, a call that sent another fingerprint, or none,
does not reach the provider. -/
theorem dispatched_at_most_once (config : ι → InferenceExecutionConfig)
    (input : ι → ControlledInferenceInput) {db : Db} {world : ExecuteWorld ι}
    (reached : World.Reachable Answers Moves
      (World.start db fun name => execute (config name) (input name)) world)
    (organizationId requestId : String) :
    (∀ first second, (input first).carries organizationId requestId →
      (input second).carries organizationId requestId →
      reachesProvider (world.process first) → reachesProvider (world.process second) →
      first = second) ∧
    (∀ name, (world.process name).history.countP isDispatch ≤ 1) ∧
    ∀ row, world.store.execution organizationId requestId = some row →
      ∀ later, World.Reachable Answers Moves world later →
      ∀ name, (input name).carries organizationId requestId →
      (later.process name).history.filterMap sentFingerprint ≠ [row.requestFingerprint] →
      ¬ reachesProvider (later.process name) := by
  have follows {world : ExecuteWorld ι} (reached : World.Reachable Answers Moves
      (World.start db fun name => execute (config name) (input name)) world) (name : ι) :=
    reached.follows (fun name => @execute_follows (config name) (input name) _) name
  refine ⟨fun first second carries carries' reaches reaches' => ?_, fun name => ?_,
    fun row found later onwards name carries different reaches => ?_⟩
  · obtain ⟨left, here, rest⟩ := follows reached first
    obtain ⟨right, here', rest'⟩ := follows reached second
    exact (exclusive_reachable reached).unique carries carries' here here'
      (asked_of_reachesProvider here rest reaches) (asked_of_reachesProvider here' rest' reaches')
  · obtain ⟨phase, here, _⟩ := follows reached name
    rw [dispatches_of_history here]
    cases phase <;> simp [Phase.dispatches]
  · obtain ⟨phase, here, rest⟩ := follows (reached.trans onwards) name
    have asked := asked_of_reachesProvider here rest reaches
    obtain ⟨requestFingerprint, sent⟩ := phase.sent_of_asked asked
    obtain ⟨new, there, fingerprint⟩ :=
      (exclusive_reachable (reached.trans onwards)).known carries here asked sent
    obtain ⟨same, there', kept⟩ := known_reachable ⟨row, found, rfl⟩ onwards
    rw [there] at there'
    cases there'
    refine different ?_
    rw [sent_of_history here, sent, ← fingerprint, kept]
    rfl

end Worlds

end Runs

/-! ### A call and its retry -/

namespace Sample

/-- What is hashed of the sample request. -/
def requestText : String :=
  letI : NodeCrypto := ⟨id⟩
  requestFingerprint input binding

/-- SHA-256, on the texts that are hashed in this run. -/
@[reducible] def crypto : NodeCrypto := ⟨fun text => if text = requestText then
  "63b1085559db9e83514858cc1c50d05450478e5966c4f1cfc0b3fc3a4dad66a9" else ""⟩

def unreachable : JsError := newError "ECONNREFUSED"

/-- The store answers admissions, completions and holds; the provider answers at once; there is no
reliability store. -/
def answer [NodeCrypto] {β : Type} (db : Db) : ServiceCall β → β × Db
  | .resolveProvider _ => (.ok binding, db)
  | .now => (some 10, db)
  | .admitInference sent _ =>
    match outcome db (.admitInference "decision" sent) with
    | .ok (.admission result, after) => (.ok ⟨result, false⟩, after)
    | _ => (.error unreachable, db)
  | .complete _ => (.ok Persistence.Sample.response, db)
  | .completeInference completion =>
    match outcome db (.completeInference completion) with
    | .ok (.completion result, after) => (.ok result, after)
    | _ => (.error unreachable, db)
  | .holdInference hold =>
    match outcome db (.holdInference hold) with
    | .ok (.nothing, after) => (.ok (), after)
    | _ => (.error unreachable, db)
  | .failInference _ => (.error unreachable, db)
  | .recordReliabilityAttempt _ => (.error unreachable, db)
  | .authorizeReliabilityDispatch _ _ _ => (.error unreachable, db)
  | .awaitReliabilityDispatchRelease _ _ _ => (.error unreachable, db)
  | .holdReliabilityAttempt _ => (.error unreachable, db)
  | .classifyReliabilityNotDispatchedAtomically _ _ => (.error unreachable, db)
  | .completeReliabilityInference _ _ => (.error unreachable, db)
  | .completeReliabilityAttempt _ => (.error unreachable, db)

theorem answer_truthful [NodeCrypto] {β : Type} (db : Db) (call : ServiceCall β) :
    Answers db call (answer db call).1 (answer db call).2 := by
  cases call with
  | admitInference sent reliability =>
    refine ⟨"decision", sent.estimatedCostAtomic, fun _ => rfl, ?_⟩
    simp only [answer]
    split
    · next result after ran => exact ran
    · exact .inl rfl
  | completeInference completion =>
    change Ran db (.completeInference completion) _ _ _
    simp only [answer]
    split
    · next result after ran => exact ran
    · exact .inl rfl
  | holdInference hold =>
    change Ran db (.holdInference hold) _ _ _
    simp only [answer]
    split
    · next after ran => exact ran
    · exact .inl rfl
  | failInference | classifyReliabilityNotDispatchedAtomically
  | completeReliabilityInference => exact .inl rfl
  | _ => rfl

/-- The sample request, without a reliability context. -/
def ordinary : ControlledInferenceInput := { input with reliabilityContext := none }

/-- The store of the sample organization, with its mandate active. -/
def store : Db :=
  letI := crypto
  run step Db.empty (Persistence.Sample.draft 20 [] ++ [Persistence.Sample.move .active])

/-- Two calls carry the request. -/
def called : ExecuteWorld (Fin 2) :=
  letI := crypto
  World.start store fun _ => execute config ordinary

/-- The first call is answered by the provider, then the second is made. -/
def retried : ExecuteWorld (Fin 2) :=
  letI := crypto
  called.drive answer [0, 0, 0, 1, 1]

theorem retried_reachable : letI := crypto
    World.Reachable Answers Moves called retried :=
  letI := crypto
  World.drive_reachable answer_truthful called _

end Sample

/-- The first call reaches the provider, the retry does not. -/
theorem dispatched_at_most_once_retried :
    reachesProvider (Sample.retried.process 0) ∧ ¬ reachesProvider (Sample.retried.process 1) :=
  letI := Sample.crypto
  have reaches : reachesProvider (Sample.retried.process 0) := .inl (by decide +kernel)
  ⟨reaches, fun again => absurd
    ((dispatched_at_most_once (fun _ => Sample.config) (fun _ => Sample.ordinary)
      Sample.retried_reachable "org" "first").1 0 1 ⟨rfl, rfl⟩ ⟨rfl, rfl⟩ reaches again)
    (by decide)⟩

end FuseControlPlane.Inference
