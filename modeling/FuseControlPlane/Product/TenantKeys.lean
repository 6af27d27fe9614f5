/-
Keys of several tenants in one map (`product/paymentEvidence.ts`, `product/sandboxRuns.ts`).

* `IsIsolated`: what a store answers for one pair of an organisation and a request does not depend on what is
  recorded for another pair.
* `GivesOwn`: every run that is given for one of two pairs of a workspace and a seed has that workspace and seed.
* `tenant_keys`: as the keys are joined by a colon, both hold **exactly if no pair straddles the other one**.
-/

import FuseControlPlane.Foundation.JoinedTexts
import FuseControlPlane.Product.PaymentEvidence
import FuseControlPlane.Product.SandboxRuns

set_option linter.unusedSectionVars false

namespace FuseControlPlane.Product

open Foundation Foundation.JavaScript Foundation.Method

/-! ### Payment evidence -/

/-- An organisation and a request. -/
def PaymentEvidence.pair (evidence : PaymentEvidence) : String × String := (evidence.organizationId, evidence.requestId)

inductive EvidenceCall
  | record (evidence : PaymentEvidence)
  | get (organizationId requestId : String)
  | listForRequests (organizationId : String) (requestIds : List String)

/-- What a call gives for one pair: of a list, the evidence that is in it for the pair. -/
inductive EvidenceAnswer
  | recorded (result : Except String Unit)
  | found (evidence : Option PaymentEvidence)
  | listed (evidence : List PaymentEvidence)

namespace MemoryPaymentEvidenceStore

def listForRequests (records : Record PaymentEvidence) (organizationId : String) (requestIds : List String) :
    List PaymentEvidence :=
  requestIds.flatMap fun requestId => (get records organizationId requestId).toList

section Calls

variable [Collation]

/-- The store after a call. -/
def callStep (records : Record PaymentEvidence) : EvidenceCall → Record PaymentEvidence
  | .record evidence =>
    match record evidence records with
    | .ok later => later
    | .error _ => records
  | .get _ _ | .listForRequests _ _ => records

/-- What a call gives for a pair, if it is about the pair. -/
def answerFor (pair : String × String) (records : Record PaymentEvidence) : EvidenceCall → Option EvidenceAnswer
  | .record evidence =>
    if evidence.pair = pair then some (.recorded ((record evidence records).map fun _ => ())) else none
  | .get organizationId requestId =>
    if (organizationId, requestId) = pair then some (.found (get records organizationId requestId)) else none
  | .listForRequests organizationId requestIds =>
    if organizationId = pair.1 ∧ pair.2 ∈ requestIds then
      some (.listed (listForRequests records organizationId (requestIds.filter fun requestId => requestId = pair.2)))
    else none

/-- What calls give for a pair, one after the other. -/
def answersFor (pair : String × String) : Record PaymentEvidence → List EvidenceCall → List EvidenceAnswer
  | _, [] => []
  | records, call :: rest => (answerFor pair records call).toList ++ answersFor pair (callStep records call) rest

end Calls

end MemoryPaymentEvidenceStore

open MemoryPaymentEvidenceStore

/-- A call records evidence for the pair. -/
def recordsFor (pair : String × String) : EvidenceCall → Bool
  | .record evidence => evidence.pair = pair
  | _ => false

/-- The calls without the records for a pair. -/
def without (pair : String × String) (calls : List EvidenceCall) : List EvidenceCall :=
  calls.filter fun call => !recordsFor pair call

/-- What calls give for a pair is the same, whatever is recorded for the other one. -/
def IsIsolated [Collation] (pair other : String × String) : Prop :=
  ∀ calls others, without other calls = without other others →
    answersFor pair .empty calls = answersFor pair .empty others

section Evidence

variable [Collation] {pair other : String × String} {records later : Record PaymentEvidence}

/-- The evidence of a key after a call, from the evidence it had. -/
theorem get_record (evidence : PaymentEvidence) (records : Record PaymentEvidence) (name : String) :
    (callStep records (.record evidence)).get name =
      if name = key evidence.organizationId evidence.requestId then
        some ((records.get name).getD evidence)
      else records.get name := by
  unfold callStep record
  dsimp only
  cases found : records.get (key evidence.organizationId evidence.requestId) with
  | none =>
    dsimp only
    rw [Record.get_set]
    split
    · next same =>
      rw [same, found]
      rfl
    · rfl
  | some existing =>
    have kept : (match (if sameEvidence existing evidence then .ok records
        else .error "PAYMENT_EVIDENCE_CONFLICT" : Except String (Record PaymentEvidence)) with
        | .ok later => later
        | .error _ => records) = records := by
      split <;> rename_i shape <;> split at shape <;> cases shape <;> rfl
    dsimp only
    rw [kept]
    split
    · next same =>
      rw [same, found]
      rfl
    · rfl

/-- What is given for a pair depends on the evidence of its key only. -/
theorem answerFor_congr (same : records.get (joined pair) = later.get (joined pair)) (call : EvidenceCall) :
    answerFor pair records call = answerFor pair later call := by
  cases call with
  | record evidence =>
    unfold answerFor
    dsimp only
    split
    · next own =>
      have here : records.get (key evidence.organizationId evidence.requestId) =
          later.get (key evidence.organizationId evidence.requestId) := by
        rw [← own] at same
        exact same
      have alike : (record evidence records).map (fun _ => ()) = (record evidence later).map fun _ => () := by
        unfold record
        rw [here]
        split
        · split <;> rfl
        · rfl
      rw [alike]
    · rfl
  | get organizationId requestId =>
    unfold answerFor
    dsimp only
    split
    · next own =>
      rw [← own] at same
      exact congrArg (fun evidence => some (EvidenceAnswer.found evidence)) same
    · rfl
  | listForRequests organizationId requestIds =>
    unfold answerFor
    dsimp only
    split
    · next own =>
      have alike : listForRequests records organizationId (requestIds.filter fun requestId => requestId = pair.2) =
          listForRequests later organizationId (requestIds.filter fun requestId => requestId = pair.2) := by
        refine List.flatMap_congr fun requestId member => ?_
        have request := of_decide_eq_true (List.mem_filter.mp member).2
        rw [own.1, request]
        exact congrArg Option.toList same
      rw [alike]
    · rfl

theorem callStep_congr (same : records.get (joined pair) = later.get (joined pair)) (call : EvidenceCall) :
    (callStep records call).get (joined pair) = (callStep later call).get (joined pair) := by
  cases call with
  | record evidence => rw [get_record, get_record, same]
  | get | listForRequests => exact same

/-- The records of another key are of no account. -/
theorem answersFor_without (apart : joined pair ≠ joined other) (same : records.get (joined pair) = later.get (joined pair))
    (calls : List EvidenceCall) : answersFor pair records calls = answersFor pair later (without other calls) := by
  induction calls generalizing records later with
  | nil => rfl
  | cons call rest ih =>
    cases recorded : recordsFor other call with
    | false =>
      have kept : without other (call :: rest) = call :: without other rest := List.filter_cons_of_pos (by rw [recorded]; rfl)
      rw [kept, answersFor, answersFor, answerFor_congr same call, ih (callStep_congr same call)]
    | true =>
      have left : without other (call :: rest) = without other rest := List.filter_cons_of_neg (by rw [recorded]; decide)
      cases call with
      | get | listForRequests => cases recorded
      | record evidence =>
        have own : evidence.pair = other := of_decide_eq_true recorded
        have name : joined pair ≠ key evidence.organizationId evidence.requestId := by
          rw [← own] at apart
          exact apart
        have silent : answerFor pair records (.record evidence) = none := by
          refine if_neg fun equal => apart ?_
          rw [← own, ← equal]
        have unchanged : (callStep records (.record evidence)).get (joined pair) = later.get (joined pair) := by
          rw [get_record, if_neg name, same]
        rw [left, answersFor, silent, ih unchanged]
        rfl

/-- **Two pairs are isolated** exactly if their keys differ. -/
theorem isIsolated_iff (different : pair ≠ other) : IsIsolated pair other ↔ joined pair ≠ joined other := by
  constructor
  · intro isolated same
    -- What is recorded for the other pair is found for this one.
    obtain ⟨evidence, own⟩ : ∃ evidence : PaymentEvidence, evidence.pair = other :=
      ⟨⟨other.2, other.1, "0", .null, ""⟩, rfl⟩
    have found : ∀ records : Record PaymentEvidence, answersFor pair records [.get pair.1 pair.2] =
        [.found (records.get (joined pair))] := fun records => by
      rw [answersFor, show answerFor pair records (.get pair.1 pair.2) = some (.found (records.get (joined pair))) from
        if_pos rfl]
      rfl
    have silent : answerFor pair .empty (.record evidence) = none :=
      if_neg fun equal => different (equal.symm.trans own)
    have stored : (callStep .empty (.record evidence)).get (joined pair) = some evidence := by
      rw [get_record]
      rw [← own] at same
      exact if_pos same
    have both := isolated [.record evidence, .get pair.1 pair.2] [.get pair.1 pair.2] (by
      refine List.filter_cons_of_neg ?_
      rw [show recordsFor other (.record evidence) = true from decide_eq_true own]
      decide)
    rw [answersFor, silent, found, stored, found] at both
    cases both
  · intro apart calls others same
    rw [answersFor_without apart rfl, same, ← answersFor_without apart rfl]

end Evidence

/-! ### Sandbox runs -/

section Runs

/-- A call of the service; `restarts` stands for a new service with the same store. -/
inductive SandboxCall
  | run (workspaceId seed : String)
  | runDurable (workspaceId seed : String)
  | restarts

/-- The workspace and the seed of a call. -/
def SandboxCall.pair : SandboxCall → Option (String × String)
  | .run workspaceId seed | .runDurable workspaceId seed => some (workspaceId, seed)
  | .restarts => none

variable [NodeCrypto] (kind : StoreKind)

/-- A call, and the run that it gives. -/
def SandboxRuns.perform : SandboxCall → Method SandboxRuns (Option SandboxRun)
  | .run workspaceId seed => some <$> onService (SandboxRunService.run workspaceId seed)
  | .runDurable workspaceId seed => some <$> runDurable kind workspaceId seed
  | .restarts => do
    modify fun runs => { runs with service := ⟨.empty⟩ }
    return none

/-- What calls return or throw, one after the other. -/
def sandboxAnswers : SandboxRuns → List SandboxCall → List (SandboxCall × Except String (Option SandboxRun))
  | _, [] => []
  | runs, call :: rest =>
    (call, Method.outcome (runs.perform kind call)) :: sandboxAnswers (left (runs.perform kind call)) rest

/-- A workspace and a seed as the service goes by them. -/
def normalized (pair : String × String) : String × String := (trim pair.1, normalizedSeed pair.2)

/-- The service takes the workspace and the seed. -/
def IsTaken (pair : String × String) : Prop := checkReference pair.1 pair.2 = .ok ()

/-- A run has the workspace and the seed. -/
def Carries (run : SandboxRun) (pair : String × String) : Prop := (run.workspaceId, run.seed) = normalized pair

/-- Whatever is called for the two pairs, a call for one that is taken gives a run of its own. -/
def GivesOwn (first second : String × String) : Prop :=
  ∀ calls : List SandboxCall, (∀ call ∈ calls, ∀ pair, call.pair = some pair → pair = first ∨ pair = second) →
    ∀ answer ∈ sandboxAnswers kind ⟨⟨.empty⟩, .empty⟩ calls, ∀ pair, answer.1.pair = some pair → IsTaken pair →
      ∃ run, answer.2 = .ok (some run) ∧ Carries run pair

/-- The id of the run of a pair. -/
def runIdOf (pair : String × String) : String := sandboxRunId (normalized pair).1 (normalized pair).2

/-- The digests of the two texts differ in their first characters, if the texts do. -/
def IsCollisionFree (first second : String) : Prop :=
  take 24 (NodeCrypto.sha256 first) = take 24 (NodeCrypto.sha256 second) → first = second

section Service

variable {service : SandboxRunService} {runs : SandboxRuns} {pair first second : String × String}

theorem runIdOf_eq_sandboxRunId (pair : String × String) :
    runIdOf pair = sandboxRunId (trim pair.1) (normalizedSeed pair.2) := rfl

omit [NodeCrypto] in
theorem map_ok {σ α β : Type} {method : Method σ α} {object after : σ} {value : α} (change : α → β)
    (returned : method object = .ok value after) : (change <$> method) object = .ok (change value) after := by
  show EStateM.map _ method object = _
  unfold EStateM.map
  rw [returned]

omit [NodeCrypto] in
theorem map_error {σ α β : Type} {method : Method σ α} {object after : σ} {error : String} (change : α → β)
    (thrown : method object = .error error after) : (change <$> method) object = .error error after := by
  show EStateM.map _ method object = _
  unfold EStateM.map
  rw [thrown]

theorem runNormalized_cases (workspaceId seed : String) :
    (∃ existing, service.runs.get (sandboxRunId workspaceId seed) = some existing ∧
      SandboxRunService.runNormalized workspaceId seed service = .ok existing service) ∨
    service.runs.get (sandboxRunId workspaceId seed) = none ∧
      ∃ result, (result.workspaceId = workspaceId ∧ result.seed = seed) ∧
        result.runId = sandboxRunId workspaceId seed ∧ SandboxRunService.runNormalized workspaceId seed service =
          .ok result ⟨service.runs.set (sandboxRunId workspaceId seed) result⟩ := by
  unfold SandboxRunService.runNormalized
  rw [get_bind]
  generalize sandboxRunId workspaceId seed = id
  cases service.runs.get id with
  | some existing => exact .inl ⟨existing, rfl, rfl⟩
  | none =>
    obtain ⟨result, made, own, workspace, ownSeed⟩ := newRun_ok id workspaceId seed
    dsimp only
    rw [fromExcept_bind, made]
    exact .inr ⟨rfl, result, ⟨workspace, ownSeed⟩, own, rfl⟩

/-- What `run` gives. -/
theorem run_cases (taken : IsTaken pair) :
    (∃ existing, service.runs.get (runIdOf pair) = some existing ∧
      SandboxRunService.run pair.1 pair.2 service = .ok existing service) ∨
    service.runs.get (runIdOf pair) = none ∧ ∃ result, Carries result pair ∧ result.runId = runIdOf pair ∧
      SandboxRunService.run pair.1 pair.2 service = .ok result ⟨service.runs.set (runIdOf pair) result⟩ := by
  have checked : SandboxRunService.run pair.1 pair.2 service =
      SandboxRunService.runNormalized (trim pair.1) (normalizedSeed pair.2) service := by
    unfold SandboxRunService.run
    rw [fromExcept_bind, taken]
  rw [checked, runIdOf_eq_sandboxRunId]
  rcases @runNormalized_cases _ service (trim pair.1) (normalizedSeed pair.2) with
    found | ⟨absent, result, ⟨workspace, seed⟩, id, returned⟩
  · exact .inl found
  · exact .inr ⟨absent, result, Prod.ext workspace seed, id, returned⟩

/-- What `runDurable` gives. -/
theorem runDurable_cases (taken : IsTaken pair) :
    (∃ existing, runs.fetch (normalized pair).1 (runIdOf pair) = some existing ∧
      SandboxRuns.runDurable kind pair.1 pair.2 runs = .ok existing runs) ∨
    ∃ created service, SandboxRunService.run (normalized pair).1 (normalized pair).2 runs.service = .ok created service ∧
      SandboxRuns.runDurable kind pair.1 pair.2 runs = .ok created (SandboxRuns.put kind created { runs with service }) := by
  have again : IsTaken (normalized pair) := (checkReference_normalized pair.1 pair.2).trans taken
  obtain ⟨created, service, returned⟩ : ∃ created service,
      SandboxRunService.run (normalized pair).1 (normalized pair).2 runs.service = .ok created service := by
    rcases @run_cases _ runs.service (normalized pair) again with ⟨existing, _, returned⟩ | ⟨_, result, _, _, returned⟩
    · exact ⟨existing, _, returned⟩
    · exact ⟨result, _, returned⟩
  have durable : SandboxRuns.runDurable kind pair.1 pair.2 runs =
      SandboxRuns.runNormalized kind (normalized pair).1 (normalized pair).2 runs := by
    unfold SandboxRuns.runDurable
    rw [fromExcept_bind, taken]
    rfl
  rw [durable]
  unfold SandboxRuns.runNormalized
  rw [get_bind, ← runIdOf]
  generalize runIdOf pair = id
  cases runs.fetch (normalized pair).1 id with
  | some existing => exact .inl ⟨existing, rfl, rfl⟩
  | none => exact .inr ⟨created, service, returned, bind_ok (onPart_ok returned)⟩

/-- A pair that is not taken changes nothing. -/
theorem run_refused (refused : ¬ IsTaken pair) :
    ∃ error, SandboxRunService.run pair.1 pair.2 service = .error error service := by
  unfold SandboxRunService.run
  rw [fromExcept_bind]
  cases checked : checkReference pair.1 pair.2 with
  | error error => exact ⟨error, rfl⟩
  | ok _ => exact absurd checked refused

theorem runDurable_refused (refused : ¬ IsTaken pair) :
    ∃ error, SandboxRuns.runDurable kind pair.1 pair.2 runs = .error error runs := by
  unfold SandboxRuns.runDurable
  rw [fromExcept_bind]
  cases checked : checkReference pair.1 pair.2 with
  | error error => exact ⟨error, rfl⟩
  | ok _ => exact absurd checked refused

theorem normalized_normalized (pair : String × String) : normalized (normalized pair) = normalized pair := by
  obtain ⟨workspaceId, seed⟩ := pair
  have workspace := trim_trim workspaceId
  have ownSeed := normalizedSeed_normalizedSeed seed
  simp only [normalized, workspace, ownSeed]

theorem isTaken_congr (same : normalized pair = normalized first) : IsTaken pair ↔ IsTaken first := by
  have checked : ∀ pair, IsTaken (normalized pair) ↔ IsTaken pair := fun pair => by
    unfold IsTaken
    rw [show checkReference (normalized pair).1 (normalized pair).2 = _ from checkReference_normalized pair.1 pair.2]
  rw [← checked pair, same, checked]

/-- To the service, the pair is one of the two. -/
def IsOneOf (first second pair : String × String) : Prop :=
  normalized pair = normalized first ∨ normalized pair = normalized second

/-- A run that is kept under an id was made for one of the two pairs. -/
def IsKnown (first second : String × String) (id : String) (run : SandboxRun) : Prop :=
  ∃ pair, IsOneOf first second pair ∧ IsTaken pair ∧ Carries run pair ∧ id = runIdOf pair ∧ run.runId = id

/-- All runs that are kept were made for one of the two pairs. -/
structure AreKnown (first second : String × String) (runs : SandboxRuns) : Prop where
  kept : ∀ id run, runs.service.runs.get id = some run → IsKnown first second id run
  stored : ∀ id run, runs.stored.get id = some run → IsKnown first second id run

/-- Of two pairs that are taken, neither straddles the other. -/
def AreApart (first second : String × String) : Prop :=
  IsTaken first → IsTaken second → ¬ Straddles (normalized first) (normalized second) ∧
    ¬ Straddles (normalized second) (normalized first)

theorem runIdOf_eq (pair : String × String) :
    runIdOf pair = "sandbox_" ++ take 24 (NodeCrypto.sha256 (joined (normalized pair))) := rfl

section Apart

variable (apart : AreApart first second)
  (free : IsCollisionFree (joined (normalized first)) (joined (normalized second)))

include apart free

/-- Pairs with the same id are the same to the service. -/
theorem normalized_eq (takenFirst : IsTaken first) (takenSecond : IsTaken second)
    (same : runIdOf first = runIdOf second) : normalized first = normalized second := by
  rw [runIdOf_eq, runIdOf_eq] at same
  obtain ⟨one, other⟩ := apart takenFirst takenSecond
  rcases joined_eq_iff.mp (free ((String.append_right_inj _).mp same)) with equal | straddles | straddles
  · exact equal
  · exact absurd straddles one
  · exact absurd straddles other

theorem carries_of_known (about : IsOneOf first second pair) (taken : IsTaken pair) {run : SandboxRun}
    (known : IsKnown first second (runIdOf pair) run) : Carries run pair := by
  obtain ⟨owner, whose, owned, carries, id, _⟩ := known
  refine carries.trans ?_
  rw [runIdOf_eq, runIdOf_eq] at id
  rcases about with here | here <;> rcases whose with there | there
  · rw [here, there]
  · rw [here, there] at id
    rw [here, there]
    exact (normalized_eq apart free ((isTaken_congr here).mp taken) ((isTaken_congr there).mp owned) id).symm
  · rw [here, there] at id
    rw [here, there]
    exact normalized_eq apart free ((isTaken_congr there).mp owned) ((isTaken_congr here).mp taken) id.symm
  · rw [here, there]

omit apart free in
/-- A run that is set among known ones. -/
theorem isKnown_set {records : Record SandboxRun} {id : String} {run : SandboxRun}
    (known : ∀ other held, records.get other = some held → IsKnown first second other held)
    (own : IsKnown first second id run) :
    ∀ other held, (records.set id run).get other = some held → IsKnown first second other held := by
  intro other held found
  rw [Record.get_set] at found
  split at found
  · next same =>
    cases found
    rw [same]
    exact own
  · exact known other held found

/-- `run` gives a run of its own, and keeps known runs. -/
theorem run_known (about : IsOneOf first second pair) (taken : IsTaken pair)
    (known : ∀ id run, service.runs.get id = some run → IsKnown first second id run) :
    ∃ run after, SandboxRunService.run pair.1 pair.2 service = .ok run after ∧ Carries run pair ∧
      IsKnown first second (runIdOf pair) run ∧
      ∀ id run, after.runs.get id = some run → IsKnown first second id run := by
  rcases @run_cases _ service pair taken with ⟨existing, found, returned⟩ | ⟨_, result, carries, own, returned⟩
  · have here := known _ existing found
    exact ⟨existing, service, returned, carries_of_known apart free about taken here, here, known⟩
  · have here : IsKnown first second (runIdOf pair) result := ⟨pair, about, taken, carries, rfl, own⟩
    exact ⟨result, _, returned, carries, here, isKnown_set known here⟩

theorem runDurable_known (about : IsOneOf first second pair) (taken : IsTaken pair) (known : AreKnown first second runs) :
    ∃ run after, SandboxRuns.runDurable kind pair.1 pair.2 runs = .ok run after ∧ Carries run pair ∧
      AreKnown first second after := by
  rcases @runDurable_cases _ kind runs pair taken with ⟨existing, found, returned⟩ | ⟨created, service, created', returned⟩
  · have stored := (Option.filter_eq_some_iff.mp found).1
    exact ⟨existing, runs, returned, carries_of_known apart free about taken (known.stored _ existing stored), known⟩
  · have again := normalized_normalized pair
    have aboutAgain : IsOneOf first second (normalized pair) := by
      unfold IsOneOf
      rw [again]
      exact about
    obtain ⟨run, after, made, carries, own, kept⟩ :=
      run_known apart free aboutAgain ((isTaken_congr again).mpr taken) known.kept
    rw [created'] at made
    cases made
    have carriesPair : Carries created pair := carries.trans again
    refine ⟨created, _, returned, carriesPair, ?_⟩
    unfold SandboxRuns.put
    split
    · exact ⟨kept, known.stored⟩
    · obtain ⟨_, _, _, _, _, id⟩ := id own
      refine ⟨kept, isKnown_set known.stored ?_⟩
      rw [id]
      exact own

/-- What a call gives for its pair, if that is taken. -/
def AnswersOwn (call : SandboxCall) (result : Except String (Option SandboxRun)) : Prop :=
  ∀ pair, call.pair = some pair → IsTaken pair → ∃ run, result = .ok (some run) ∧ Carries run pair

/-- One call keeps known runs, and gives a run of its own. -/
theorem perform_known (known : AreKnown first second runs) (call : SandboxCall)
    (about : ∀ pair, call.pair = some pair → IsOneOf first second pair) :
    Ensures (fun result after => AnswersOwn call result ∧ AreKnown first second after)
      (SandboxRuns.perform kind call) runs := by
  unfold Method.Ensures
  cases call with
  | run workspaceId seed =>
    by_cases taken : IsTaken (workspaceId, seed)
    · obtain ⟨run, after, returned, carries, _, kept⟩ := run_known apart free (about _ rfl) taken known.kept
      have called : SandboxRuns.perform kind (.run workspaceId seed) runs = .ok (some run) { runs with service := after } :=
        map_ok some (onPart_ok returned)
      rw [called]
      refine ⟨fun pair own _ => ⟨run, rfl, ?_⟩, kept, known.stored⟩
      cases own
      exact carries
    · obtain ⟨error, thrown⟩ := @run_refused _ runs.service _ taken
      have called : SandboxRuns.perform kind (.run workspaceId seed) runs = .error error runs :=
        map_error some (onPart_error thrown)
      rw [called]
      refine ⟨fun pair own takenPair => ?_, known⟩
      cases own
      exact absurd takenPair taken
  | runDurable workspaceId seed =>
    by_cases taken : IsTaken (workspaceId, seed)
    · obtain ⟨run, after, returned, carries, kept⟩ := runDurable_known kind apart free (about _ rfl) taken known
      have called : SandboxRuns.perform kind (.runDurable workspaceId seed) runs = .ok (some run) after :=
        map_ok some returned
      rw [called]
      refine ⟨fun pair own _ => ⟨run, rfl, ?_⟩, kept⟩
      cases own
      exact carries
    · obtain ⟨error, thrown⟩ := @runDurable_refused _ kind runs _ taken
      have called : SandboxRuns.perform kind (.runDurable workspaceId seed) runs = .error error runs :=
        map_error some thrown
      rw [called]
      refine ⟨fun pair own takenPair => ?_, known⟩
      cases own
      exact absurd takenPair taken
  | restarts =>
    refine ⟨fun pair own => ?_, fun id run found => ?_, known.stored⟩
    · cases own
    · cases found

/-- Calls give runs of their own, one after the other. -/
theorem sandboxAnswers_own (known : AreKnown first second runs) (calls : List SandboxCall)
    (about : ∀ call ∈ calls, ∀ pair, call.pair = some pair → pair = first ∨ pair = second) :
    ∀ answer ∈ sandboxAnswers kind runs calls, AnswersOwn answer.1 answer.2 := by
  induction calls generalizing runs with
  | nil => exact fun answer member => absurd member List.not_mem_nil
  | cons call rest ih =>
    obtain ⟨own, after⟩ := perform_known kind apart free known call fun pair whose => by
      rcases about call List.mem_cons_self pair whose with rfl | rfl
      · exact .inl rfl
      · exact .inr rfl
    intro answer member
    rcases List.mem_cons.mp member with rfl | later
    · exact own
    · exact ih after (fun other among => about other (List.mem_cons_of_mem _ among)) answer later

end Apart

/-- With the id of another run, the other run is given. -/
theorem run_found {existing : SandboxRun} (taken : IsTaken pair)
    (found : service.runs.get (runIdOf pair) = some existing) :
    SandboxRunService.run pair.1 pair.2 service = .ok existing service := by
  rcases @run_cases _ service pair taken with ⟨held, same, returned⟩ | ⟨absent, _⟩
  · rw [found] at same
    cases same
    exact returned
  · rw [found] at absent
    cases absent

/-- The second of two calls gives the run of the first one, if their ids are the same. -/
theorem not_givesOwn (takenFirst : IsTaken first) (takenSecond : IsTaken second) (same : runIdOf first = runIdOf second)
    (different : normalized first ≠ normalized second) : ¬ GivesOwn kind first second := by
  intro gives
  obtain ⟨existing, carries, made⟩ : ∃ existing, Carries existing first ∧
      SandboxRunService.run first.1 first.2 ⟨.empty⟩ = .ok existing ⟨Record.set .empty (runIdOf first) existing⟩ := by
    rcases @run_cases _ ⟨.empty⟩ first takenFirst with ⟨existing, found, _⟩ | ⟨_, existing, carries, _, returned⟩
    · cases found
    · exact ⟨existing, carries, returned⟩
  have found : (Record.set .empty (runIdOf first) existing).get (runIdOf second) = some existing := by
    rw [Record.get_set, if_pos same.symm]
  have one : SandboxRuns.perform kind (.run first.1 first.2) ⟨⟨.empty⟩, .empty⟩ =
      .ok (some existing) ⟨⟨Record.set .empty (runIdOf first) existing⟩, .empty⟩ := map_ok some (onPart_ok made)
  have other : SandboxRuns.perform kind (.run second.1 second.2)
      ⟨⟨Record.set .empty (runIdOf first) existing⟩, .empty⟩ =
      .ok (some existing) ⟨⟨Record.set .empty (runIdOf first) existing⟩, .empty⟩ :=
    map_ok some (onPart_ok (run_found takenSecond found))
  have answers : (.run second.1 second.2, .ok (some existing)) ∈
      sandboxAnswers kind ⟨⟨.empty⟩, .empty⟩ [.run first.1 first.2, .run second.1 second.2] := by
    rw [sandboxAnswers, one, sandboxAnswers]
    dsimp only [left]
    rw [other]
    exact List.mem_cons_of_mem _ List.mem_cons_self
  obtain ⟨run, given, own⟩ := gives _ (by
    intro call member pair whose
    rcases List.mem_cons.mp member with rfl | later
    · cases whose
      exact .inl rfl
    · cases List.mem_singleton.mp later
      cases whose
      exact .inr rfl) _ answers second rfl takenSecond
  cases given
  exact different (carries.symm.trans own)

/-- **Runs of their own are given** exactly if neither pair straddles the other one. -/
theorem givesOwn_iff (free : IsCollisionFree (joined (normalized first)) (joined (normalized second))) :
    GivesOwn kind first second ↔ AreApart first second := by
  constructor
  · intro gives takenFirst takenSecond
    have differ : joined (normalized first) = joined (normalized second) → normalized first = normalized second := by
      intro equal
      by_contra different
      have same : runIdOf first = runIdOf second := by rw [runIdOf_eq, runIdOf_eq, equal]
      exact not_givesOwn kind takenFirst takenSecond same different gives
    constructor
    · intro straddles
      exact straddles.ne (differ (joined_eq_iff.mpr (.inr (.inl straddles))))
    · intro straddles
      exact straddles.ne (differ (joined_eq_iff.mpr (.inr (.inr straddles)))).symm
  · intro apart calls about answer member pair own taken
    have known : AreKnown first second ⟨⟨.empty⟩, .empty⟩ :=
      ⟨(fun _ _ found => nomatch found), (fun _ _ found => nomatch found)⟩
    exact sandboxAnswers_own kind apart free known calls about answer member pair own taken

end Service

end Runs

/-! ### Tenants -/

/-- **Tenants share no keys** exactly if no pair straddles another one: the organisations and requests of evidence, and
the workspaces and seeds of runs as the service goes by them. -/
theorem tenant_keys [Collation] [NodeCrypto] :
    (∀ pair other : String × String, pair ≠ other →
      (IsIsolated pair other ↔ ¬ Straddles pair other ∧ ¬ Straddles other pair)) ∧
    ∀ (kind : StoreKind) (first second : String × String),
      IsCollisionFree (joined (normalized first)) (joined (normalized second)) →
        (GivesOwn kind first second ↔ AreApart first second) := by
  refine ⟨fun pair other different => ?_, fun kind first second free => givesOwn_iff kind free⟩
  rw [isIsolated_iff different, ne_eq, joined_eq_iff, not_or, not_or]
  exact ⟨And.right, fun apart => ⟨different, apart⟩⟩

/-! ### Examples -/

namespace Sample

@[reducible] def tenantCollation : Collation := ⟨fun left right => if left ≤ right then 0 else 1⟩

@[reducible] def tenantCrypto : NodeCrypto := ⟨fun text =>
  if text = "workspace:one" then "dbe0930ca5dbf24b9a3ef0cf9e841f6076da7c59414be11e64cad406b44e2819"
  else "b4c0bc65a455a356cd0c63580d8405fcc85e1dfb9fe8797e6ee3bdeb14dfcfcf"⟩

theorem not_straddles {pair other : String × String} (plain : ':' ∉ pair.1.toList) : ¬ Straddles pair other := by
  intro straddles
  obtain ⟨middle, front, _⟩ := straddles_iff.mp straddles
  rw [front] at plain
  exact plain (List.mem_append_right _ List.mem_cons_self)

end Sample

theorem tenant_keys_workspaces : letI := Sample.tenantCollation
    letI := Sample.tenantCrypto
    IsIsolated ("workspace", "one") ("workspace", "two") ∧ GivesOwn .postgres ("workspace", "one") ("workspace", "two") := by
  let _ := Sample.tenantCollation
  let _ := Sample.tenantCrypto
  have one : normalized ("workspace", "one") = ("workspace", "one") := by decide +kernel
  have two : normalized ("workspace", "two") = ("workspace", "two") := by decide +kernel
  have free : IsCollisionFree (joined (normalized ("workspace", "one"))) (joined (normalized ("workspace", "two"))) := by
    rw [one, two]
    exact fun same => absurd same (by decide +kernel)
  refine ⟨(tenant_keys.1 _ _ (by decide)).mpr ⟨Sample.not_straddles (by decide), Sample.not_straddles (by decide)⟩,
    (tenant_keys.2 .postgres _ _ free).mpr fun _ _ => ?_⟩
  rw [one, two]
  exact ⟨Sample.not_straddles (by decide), Sample.not_straddles (by decide)⟩

theorem keys_shared : letI := Sample.tenantCollation
    letI := Sample.tenantCrypto
    (¬ ∀ pair other : String × String, pair ≠ other → IsIsolated pair other) ∧
      ¬ ∀ (kind : StoreKind) (first second : String × String), first ≠ second →
        IsCollisionFree (joined (normalized first)) (joined (normalized second)) → GivesOwn kind first second := by
  let _ := Sample.tenantCollation
  let _ := Sample.tenantCrypto
  have one : normalized ("a", "b:c") = ("a", "b:c") := by decide +kernel
  have two : normalized ("a:b", "c") = ("a:b", "c") := by decide +kernel
  refine ⟨fun isolated => ?_, fun gives => ?_⟩
  · exact (isIsolated_iff (by decide)).mp (isolated ("a", "b:c") ("a:b", "c") (by decide)) (by decide)
  · have free : IsCollisionFree (joined (normalized ("a", "b:c"))) (joined (normalized ("a:b", "c"))) := by
      rw [one, two]
      exact fun _ => by decide
    have same : runIdOf ("a", "b:c") = runIdOf ("a:b", "c") := by
      rw [runIdOf_eq, runIdOf_eq, one, two]
      rfl
    have different : normalized ("a", "b:c") ≠ normalized ("a:b", "c") := by
      rw [one, two]
      decide
    have takenOne : IsTaken ("a", "b:c") := by
      unfold IsTaken
      decide +kernel
    have takenTwo : IsTaken ("a:b", "c") := by
      unfold IsTaken
      decide +kernel
    exact not_givesOwn .memory takenOne takenTwo same different (gives .memory _ _ (by decide) free)

end FuseControlPlane.Product
