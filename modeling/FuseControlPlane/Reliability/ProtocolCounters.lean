/-
Counters of a run and the rows they count.

* `Counted`: what the columns of the control row and the events say of attempts and tokens.
* `counters_match`: **the counters match the rows**, in every run that enters no token of an attempt with a
  usable response.
* `not_counters_match`: `markReliabilityDispatchPrimitiveEntered` takes such an attempt out of its state, and
  it stays counted as usable.
-/

import FuseControlPlane.Reliability.AttemptClassification

set_option linter.unusedSectionVars false

namespace FuseControlPlane.Reliability

open Foundation Foundation.JavaScript Domain Evidence

namespace AttemptRow

def isClassified (attempt : AttemptRow) : Bool := attempt.gateClassifiedAt.isSome

end AttemptRow

/-- A transaction enters the token of an attempt with a usable response. -/
def ReliabilityRun.entersUsable (run : ReliabilityRun) (op : ProtocolOp) : Bool :=
  run.entersAny AttemptRow.isUsable op

/-- The gate events of a run. -/
def ReliabilityRun.gateEvents (run : ReliabilityRun) : List EventRow :=
  run.events.filter fun event => event.eventType = .gateClassified

/-- The counters match the rows, and every classified attempt has one gate event. -/
structure Counted (run : ReliabilityRun) : Prop where
  gate : run.control.gateClassificationCount =
    (run.attempts.rows.filter AttemptRow.isClassified).length
  terminal : ∀ attempt ∈ run.attempts, attempt.gateClassifiedAt.isSome = attempt.terminalAt.isSome
  usable : run.control.usableCount = (run.attempts.rows.filter AttemptRow.isUsable).length
  tokens : run.control.dispatchTokenCount = run.dispatchTokens.rows.length
  fence : run.control.dispatchTokenCount ≤ 100
  announced : (run.gateEvents.map EventRow.requestId).Perm
    ((run.attempts.rows.filter AttemptRow.isClassified).map fun attempt => some attempt.requestId)
  sequences : run.events.map EventRow.eventSequence = List.range' 1 run.events.length

section Laws

variable {faults : Faults} {run after : ReliabilityRun}

/-! ### Events -/

/-- Events are numbered from one. -/
def Numbered (run : ReliabilityRun) : Prop :=
  run.events.map EventRow.eventSequence = List.range' 1 run.events.length ∧
    run.nextEventSequence = run.events.length + 1

theorem length_numberEvents (next : ℕ) (entries : List (Option String × EventType)) :
    (ReliabilityRun.numberEvents next entries).length = entries.length := by
  induction entries generalizing next with
  | nil => rfl
  | cons entry rest ih =>
    show (ReliabilityRun.numberEvents (next + 1) rest).length + 1 = rest.length + 1
    rw [ih]

theorem sequences_numberEvents (next : ℕ) (entries : List (Option String × EventType)) :
    (ReliabilityRun.numberEvents next entries).map EventRow.eventSequence =
      List.range' next entries.length := by
  induction entries generalizing next with
  | nil => rfl
  | cons entry rest ih =>
    show next :: (ReliabilityRun.numberEvents (next + 1) rest).map _ = List.range' next (rest.length + 1)
    rw [ih, List.range'_succ]

theorem gateRequests_numberEvents (next : ℕ) (entries : List (Option String × EventType)) :
    ((ReliabilityRun.numberEvents next entries).filter fun event =>
      event.eventType = .gateClassified).map EventRow.requestId = gateRequests entries := by
  unfold gateRequests
  induction entries generalizing next with
  | nil => rfl
  | cons entry rest ih =>
    show ((⟨next, entry.1, entry.2⟩ :: ReliabilityRun.numberEvents (next + 1) rest).filter _).map _ = _
    by_cases classified : entry.2 = .gateClassified
    · simp [classified, ih]
    · simp [classified, ih]

theorem numbered_append (numbered : Numbered run) (entries : List (Option String × EventType)) :
    Numbered (run.appendEvents entries) := by
  obtain ⟨sequences, next⟩ := numbered
  constructor
  · show (run.events ++ _).map _ = List.range' 1 (run.events ++ _).length
    rw [List.map_append, List.length_append, length_numberEvents, sequences_numberEvents, sequences, next,
      Nat.add_comm run.events.length 1, List.range'_append_1]
  · show run.nextEventSequence + entries.length = (run.events ++ _).length + 1
    rw [List.length_append, length_numberEvents, next]
    omega

theorem gateEvents_append (run : ReliabilityRun) (entries : List (Option String × EventType)) :
    (run.appendEvents entries).gateEvents.map EventRow.requestId =
      run.gateEvents.map EventRow.requestId ++ gateRequests entries := by
  unfold ReliabilityRun.gateEvents
  show ((run.events ++ _).filter _).map _ = _
  rw [List.filter_append, List.map_append, gateRequests_numberEvents]

theorem numbered_effect (numbered : Numbered run) (effect : Effect faults run after) :
    Numbered after := by
  have still : ∀ {other : ReliabilityRun}, other.events = run.events →
      other.nextEventSequence = run.nextEventSequence → Numbered other := by
    intro other events next
    unfold Numbered
    rw [events, next]
    exact numbered
  cases effect with
  | quiet others holds => exact still others.events others.nextEventSequence
  | hold effect => exact still effect.quiet.events effect.quiet.nextEventSequence
  | rows effect =>
    cases effect with
    | note entries plain => exact numbered_append numbered entries
    | classify classification released => exact numbered_append (still rfl rfl) classification.entries
    | insertSealed | plan | admitAttempt | issue | enter | pend | cancelTokens | createBarrier | release
    | cancelBarriers => exact still rfl rfl

/-! ### Tokens -/

/-- The tokens are counted, and there are at most a hundred. -/
def TokensCounted (run : ReliabilityRun) : Prop :=
  run.control.dispatchTokenCount = run.dispatchTokens.rows.length ∧ run.control.dispatchTokenCount ≤ 100

theorem tokensCounted_effect (counted : TokensCounted run) (effect : Effect faults run after) :
    TokensCounted after := by
  have still : ∀ {other : ReliabilityRun},
      other.control.dispatchTokenCount = run.control.dispatchTokenCount →
      other.dispatchTokens.rows.length = run.dispatchTokens.rows.length → TokensCounted other := by
    intro other count tokens
    unfold TokensCounted
    rw [count, tokens]
    exact counted
  cases effect with
  | quiet others holds => exact still others.dispatchTokenCount (by rw [others.dispatchTokens])
  | hold effect => exact still effect.quiet.dispatchTokenCount (by rw [effect.quiet.dispatchTokens])
  | rows effect =>
    cases effect with
    | issue input drawn active absent allowed below dispatchable =>
      constructor
      · show run.control.dispatchTokenCount + 1 = (run.dispatchTokens.put _).rows.length
        rw [Table.rows_put_new absent, List.length_append, counted.1]
        rfl
      · show run.control.dispatchTokenCount + 1 ≤ 100
        omega
    | enter requestId now token found enterable allowed => exact still rfl (List.length_map ..)
    | cancelTokens chosen canceledAt canceled ended unentered => exact still rfl (List.length_map ..)
    | note | insertSealed | plan | admitAttempt | pend | classify | createBarrier | release
    | cancelBarriers => exact still rfl rfl

/-! ### Classified attempts -/

/-- The classified attempts are counted and announced. -/
def ClassifiedCounted (run : ReliabilityRun) : Prop :=
  run.control.gateClassificationCount = (run.attempts.rows.filter AttemptRow.isClassified).length ∧
    (run.gateEvents.map EventRow.requestId).Perm
      ((run.attempts.rows.filter AttemptRow.isClassified).map fun attempt => some attempt.requestId)

/-- Attempts that stay as classified as they were, and their ids. -/
theorem classified_update {chosen : AttemptRow → Bool} {rewrite : AttemptRow → AttemptRow}
    {keeps : ∀ row, (rewrite row).requestId = row.requestId}
    (same : ∀ row, (rewrite row).gateClassifiedAt = row.gateClassifiedAt) :
    ((run.updateAttempts chosen rewrite keeps).attempts.rows.filter AttemptRow.isClassified).map
        (fun attempt => some attempt.requestId) =
      (run.attempts.rows.filter AttemptRow.isClassified).map fun attempt => some attempt.requestId := by
  show ((run.attempts.rows.map _).filter _).map _ = _
  rw [List.filter_map, List.map_map]
  refine congrArg₂ List.map (funext fun row => ?_) (List.filter_congr fun row _ => ?_)
  · simp only [Function.comp_apply]
    split
    · rw [keeps]
    · rfl
  · simp only [Function.comp_apply]
    split
    · unfold AttemptRow.isClassified
      rw [same]
    · rfl

/-- Rows of two disjoint conditions. -/
theorem filter_or_perm {α : Type} (rows : List α) {first second : α → Bool}
    (disjoint : ∀ row ∈ rows, second row = true → first row = false) :
    (rows.filter fun row => first row || second row).Perm (rows.filter first ++ rows.filter second) := by
  refine (List.filter_append_perm first (rows.filter fun row => first row || second row)).symm.trans ?_
  rw [List.filter_filter, List.filter_filter]
  refine (List.Perm.of_eq (congrArg₂ _ (List.filter_congr fun row _ => ?_)
    (List.filter_congr fun row member => ?_)))
  · cases first row <;> rfl
  · cases here : second row with
    | false => cases first row <;> rfl
    | true => rw [disjoint row member here]; rfl

/-- The classified attempts after a classification. -/
theorem classified_apply (sound : AttemptsSound run) (classification : Classification run) :
    ((classification.apply.attempts.rows.filter AttemptRow.isClassified).map
        fun attempt => some attempt.requestId).Perm
      ((run.attempts.rows.filter AttemptRow.isClassified).map (fun attempt => some attempt.requestId) ++
        (run.attempts.rows.filter classification.chosen).map fun attempt => some attempt.requestId) := by
  have open_ : ∀ row ∈ run.attempts.rows, classification.chosen row = true →
      AttemptRow.isClassified row = false := by
    intro row member here
    have terminal := (sound.agree row member).terminalAt_of_isOpen
      (classification.unclassified row member here)
    unfold AttemptRow.isClassified
    rw [(sound.agree row member).gate, terminal]
    rfl
  rw [← List.map_append]
  refine List.Perm.trans ?_ ((filter_or_perm run.attempts.rows open_).map _)
  show (((run.attempts.rows.map _).filter _).map _).Perm _
  rw [List.filter_map, List.map_map]
  refine .of_eq (Eq.trans (congrArg₂ List.map (funext fun row => ?_)
    (List.filter_congr fun row member => ?_)) rfl)
  · simp only [Function.comp_apply]
    split
    · rw [classification.keeps]
    · rfl
  · simp only [Function.comp_apply]
    by_cases here : classification.chosen row = true
    · rw [if_pos here, here, Bool.or_true]
      exact (classification.ends row member here).gate
    · rw [if_neg here, (Bool.not_eq_true _).mp here, Bool.or_false]

theorem classifiedCounted_effect (sound : AttemptsSound run) (counted : ClassifiedCounted run)
    (effect : Effect faults run after) : ClassifiedCounted after := by
  obtain ⟨gate, announced⟩ := counted
  -- Both are about the ids of the classified attempts.
  have of_ids : ∀ {other : ReliabilityRun} (ids : List (Option String)),
      other.control.gateClassificationCount = ids.length →
      (other.gateEvents.map EventRow.requestId).Perm ids →
      ((other.attempts.rows.filter AttemptRow.isClassified).map
        fun attempt => some attempt.requestId).Perm ids → ClassifiedCounted other := by
    intro other ids count events attempts
    refine ⟨?_, events.trans attempts.symm⟩
    rw [count, ← attempts.length_eq, List.length_map]
  have still : ∀ {other : ReliabilityRun},
      other.control.gateClassificationCount = run.control.gateClassificationCount →
      other.gateEvents.map EventRow.requestId = run.gateEvents.map EventRow.requestId →
      (other.attempts.rows.filter AttemptRow.isClassified).map (fun attempt => some attempt.requestId) =
        (run.attempts.rows.filter AttemptRow.isClassified).map (fun attempt => some attempt.requestId) →
      ClassifiedCounted other := by
    intro other count events attempts
    refine of_ids _ (by rw [count, gate, List.length_map]) ?_ (.of_eq attempts)
    rw [events]
    exact announced
  have same : ∀ {other : ReliabilityRun}, other.events = run.events →
      other.gateEvents.map EventRow.requestId = run.gateEvents.map EventRow.requestId := by
    intro other events
    unfold ReliabilityRun.gateEvents
    rw [events]
  cases effect with
  | quiet others holds =>
    exact still others.gateClassificationCount (same others.events) (by rw [others.attempts])
  | hold effect =>
    exact still effect.quiet.gateClassificationCount (same effect.quiet.events)
      (by rw [effect.quiet.attempts])
  | rows effect =>
    cases effect with
    | note entries plain =>
      refine still rfl ?_ rfl
      rw [gateEvents_append, plain, List.append_nil]
    | plan sealed stored absent =>
      refine still rfl rfl ?_
      show ((run.attempts.put _).rows.filter _).map _ = _
      rw [Table.rows_put_new absent, List.filter_append]
      simp [AttemptRow.isClassified, SealedCallRow.plannedAttempt]
    | admitAttempt input now active => exact still rfl rfl (classified_update fun _ => rfl)
    | issue input drawn active absent allowed below dispatchable =>
      exact still rfl rfl (classified_update fun _ => rfl)
    | enter requestId now token found enterable allowed =>
      exact still rfl rfl (classified_update fun _ => rfl)
    | pend chosen ambiguityEnteredAt generationId unclassified =>
      exact still rfl rfl (classified_update fun _ => rfl)
    | classify classification released =>
      refine of_ids _ ?_ ?_ (classified_apply sound classification)
      · show run.control.gateClassificationCount + classification.classified = _
        rw [List.length_append, List.length_map, List.length_map, gate, classification.counted]
      · show ((ReliabilityRun.appendEvents _ classification.entries).gateEvents.map _).Perm _
        rw [gateEvents_append]
        exact announced.append classification.announced
    | insertSealed | cancelTokens | createBarrier | release | cancelBarriers => exact still rfl rfl rfl

/-! ### Usable responses -/

/-- The attempts with a usable response are counted. -/
def UsableCounted (run : ReliabilityRun) : Prop :=
  run.control.usableCount = (run.attempts.rows.filter AttemptRow.isUsable).length

theorem isUsable_isClassified {attempt : AttemptRow} (usable : attempt.isUsable = true) :
    attempt.state.isClassified = true := by
  unfold AttemptRow.isUsable at usable
  simp only [Bool.or_eq_true, decide_eq_true_eq] at usable
  rcases usable with completed | reconciled
  · rw [completed]
    rfl
  · rw [reconciled]
    rfl

/-- Nothing open is usable. -/
theorem isUsable_of_isOpen (sound : AttemptsSound run) {attempt : AttemptRow}
    (member : attempt ∈ run.attempts) (unended : attempt.terminalAt = none) :
    attempt.isUsable = false := by
  rw [← Bool.not_eq_true]
  intro usable
  have terminal := (sound.agree attempt member).classified (isUsable_isClassified usable)
  rw [unended] at terminal
  cases terminal

/-- An update that adds some usable attempts to those there are. -/
theorem usable_update {chosen : AttemptRow → Bool} {rewrite : AttemptRow → AttemptRow}
    {keeps : ∀ row, (rewrite row).requestId = row.requestId}
    (unusable : ∀ attempt ∈ run.attempts, chosen attempt = true → attempt.isUsable = false) :
    ((run.updateAttempts chosen rewrite keeps).attempts.rows.filter AttemptRow.isUsable).length =
      (run.attempts.rows.filter AttemptRow.isUsable).length +
        ((run.attempts.rows.filter chosen).filter fun attempt => (rewrite attempt).isUsable).length := by
  rw [List.filter_filter, Table.length_filter run.attempts, Table.length_filter run.attempts]
  have gained := run.attempts.total_update chosen rewrite keeps
    (fun attempt => if attempt.isUsable then 1 else 0)
    (fun attempt => if (rewrite attempt).isUsable then 1 else 0) fun row member here => by
      rw [unusable row member here]
      simp
  refine (Table.length_filter _ _).trans (gained.trans ?_)
  refine congrArg (_ + ·) (Table.total_congr fun row _ => ?_)
  cases chosen row <;> cases (rewrite row).isUsable <;> rfl

/-- An update that neither takes nor gives a usable response. -/
theorem usable_kept {chosen : AttemptRow → Bool} {rewrite : AttemptRow → AttemptRow}
    {keeps : ∀ row, (rewrite row).requestId = row.requestId}
    (before : ∀ attempt ∈ run.attempts, chosen attempt = true → attempt.isUsable = false)
    (unusable : ∀ attempt, (rewrite attempt).isUsable = false) :
    ((run.updateAttempts chosen rewrite keeps).attempts.rows.filter AttemptRow.isUsable).length =
      (run.attempts.rows.filter AttemptRow.isUsable).length := by
  rw [usable_update before]
  simp [unusable]

/-- A state that is not the one of a usable response. -/
theorem isUsable_of_state {attempt : AttemptRow} {state : AttemptState} (own : attempt.state = state)
    (unclassified : state.isClassified = false) : attempt.isUsable = false := by
  rw [← Bool.not_eq_true]
  intro usable
  have classified := isUsable_isClassified usable
  rw [own, unclassified] at classified
  cases classified

theorem usableCounted_effect (sound : AttemptsSound run)
    (unusable : ∀ attempt, faults.enters attempt → attempt.isUsable = false)
    (counted : UsableCounted run) (effect : Effect faults run after) : UsableCounted after := by
  have still : ∀ {other : ReliabilityRun}, other.control.usableCount = run.control.usableCount →
      (other.attempts.rows.filter AttemptRow.isUsable).length =
        (run.attempts.rows.filter AttemptRow.isUsable).length → UsableCounted other := by
    intro other count attempts
    unfold UsableCounted
    rw [count, attempts]
    exact counted
  cases effect with
  | quiet others holds => exact still others.usableCount (by rw [others.attempts])
  | hold effect => exact still effect.quiet.usableCount (by rw [effect.quiet.attempts])
  | rows effect =>
    cases effect with
    | plan sealed stored absent =>
      refine still rfl ?_
      show ((run.attempts.put _).rows.filter _).length = _
      rw [Table.rows_put_new absent, List.filter_append]
      simp [AttemptRow.isUsable, SealedCallRow.plannedAttempt]
    | admitAttempt input now active =>
      refine still rfl (usable_kept (fun attempt member chosen => ?_) fun attempt =>
        isUsable_of_state rfl rfl)
      unfold ReliabilityRun.isAdmissible at chosen
      simp only [Bool.and_eq_true, Bool.or_eq_true, decide_eq_true_eq] at chosen
      rcases chosen.1.2 with planned | admitted
      · exact isUsable_of_state planned rfl
      · exact isUsable_of_state admitted rfl
    | issue input drawn active absent allowed below dispatchable =>
      obtain ⟨own, found, _, _, admitted⟩ := isEarly_of_dispatchable dispatchable
      refine still rfl (usable_kept (fun attempt member chosen => ?_) fun attempt =>
        isUsable_of_state rfl rfl)
      have same : attempt = own := Table.eq_of_key member (Table.mem_of_find? found)
        ((of_decide_eq_true chosen).trans (Table.key_of_find? found).symm)
      rw [same]
      exact isUsable_of_state admitted rfl
    | enter requestId now token found enterable allowed =>
      refine still rfl (usable_kept (fun attempt member chosen => ?_) fun attempt =>
        isUsable_of_state rfl rfl)
      refine unusable attempt (allowed attempt ?_)
      rw [← of_decide_eq_true chosen]
      exact Table.find?_of_mem member
    | pend chosen ambiguityEnteredAt generationId unclassified =>
      refine still rfl (usable_kept (fun attempt member here => ?_) fun attempt =>
        isUsable_of_state rfl rfl)
      exact isUsable_of_isOpen sound member
        ((sound.agree attempt member).terminalAt_of_isOpen (unclassified attempt member here))
    | classify classification released =>
      show run.control.usableCount + classification.usable =
        ((run.updateAttempts _ _ classification.keeps).attempts.rows.filter _).length
      rw [usable_update fun attempt member here => isUsable_of_isOpen sound member
        ((sound.agree attempt member).terminalAt_of_isOpen
          (classification.unclassified attempt member here)), counted, classification.countedUsable]
    | note | insertSealed | cancelTokens | createBarrier | release | cancelBarriers =>
      exact still rfl rfl

end Laws

section Main

variable [NodeCrypto] [Collation] [ProtocolProfiles]

/-- **The counters match the rows** along every run that enters no token of an attempt with a usable
response. -/
theorem counters_match (runId : String) (profile : ReliabilityProtocolProfile) (planFingerprint : String)
    (reconciliationCredentialId : Option String) (laneIds : List String) (ops : List ProtocolOp)
    (spares : Along ReliabilityRun.protocolStep (fun run op => run.entersUsable op = false)
      (.initialRun runId profile planFingerprint reconciliationCredentialId laneIds) ops) :
    Counted (Foundation.run ReliabilityRun.protocolStep
      (.initialRun runId profile planFingerprint reconciliationCredentialId laneIds) ops) := by
  obtain ⟨others, _⟩ := initialRun_quiet runId profile planFingerprint reconciliationCredentialId laneIds
  have within : ∀ (state : ReliabilityRun) (op : ProtocolOp), state.entersUsable op = false →
      ∀ attempt, (faultsOf state op).enters attempt → attempt.isUsable = false := by
    intro state op spares attempt enters
    rw [← Bool.not_eq_true]
    intro usable
    have touches : state.entersUsable op = true := ReliabilityRun.entersAny_of_entersWith enters usable
    rw [spares] at touches
    cases touches
  obtain ⟨⟨sound, numbered, tokens, classified, usable⟩, _⟩ := protocolRun_keeps
    (fun now => AttemptsSound now ∧ Numbered now ∧ TokensCounted now ∧ ClassifiedCounted now ∧
      UsableCounted now) _ _ within
    (fun unusable held effect => ⟨attemptsSound_effect held.1 effect,
      numbered_effect held.2.1 effect, tokensCounted_effect held.2.2.1 effect,
      classifiedCounted_effect held.1 held.2.2.2.1 effect,
      usableCounted_effect held.1 unusable held.2.2.2.2 effect⟩) spares
    (holdsApart_initialRun runId profile planFingerprint reconciliationCredentialId laneIds)
    ⟨attemptsSound_initialRun runId profile planFingerprint reconciliationCredentialId laneIds, by
      unfold Numbered
      rw [others.events, others.nextEventSequence]
      exact ⟨rfl, rfl⟩, by
      unfold TokensCounted
      rw [others.dispatchTokenCount, others.dispatchTokens]
      exact ⟨rfl, Nat.zero_le _⟩, by
      unfold ClassifiedCounted ReliabilityRun.gateEvents
      rw [others.gateClassificationCount, others.attempts, others.events]
      exact ⟨rfl, .refl _⟩, by
      unfold UsableCounted
      rw [others.usableCount, others.attempts]
      rfl⟩
  exact ⟨classified.1, fun attempt member => (sound.agree attempt member).gate, usable, tokens.1,
    tokens.2, classified.2, numbered.1⟩

end Main

/-! ### A usable response that is entered -/

namespace Sample

/-- The findings of a lookup that finds the response. -/
def foundResponse : ReconciliationFindings :=
  ⟨true, ⟨true, .positiveResponse, some 2000⟩, some "response"⟩

/-- A call whose token has not been entered is held, and its response is found. -/
def reconciled : List ProtocolOp :=
  [.registerSealedCalls [sealedCall "call-1" "normal-paced" 1], record "call-1" "normal-paced",
    authorize "call-1" "normal-paced" "token-1",
    .holdReliabilityAttempt ⟨"normal-paced", "call-1", some "generation"⟩ "hold-1" 3000,
    .applyAuthoritativeReconciliation
      ⟨"call-1", "normal-paced", .scheduled 0, .ok foundResponse, true, .ok (some "response")⟩ "hold-2"
      4000]

/-- A run that reconciles one call after its lane has credentials for it. -/
def withCredential : ReliabilityRun :=
  letI := profiles
  .initialRun "run-1" (ProtocolVersion.profile .v2) "plan" (some "credential")
    ["normal-paced", "bounded-burst"]

theorem reconciled_spares :
    letI := crypto
    letI := collation
    letI := profiles
    Along ReliabilityRun.protocolStep (fun run op => run.entersUsable op = false) withCredential
      reconciled := by
  decide +kernel

/-- The response is counted, and then its attempt is entered. -/
theorem entered_after_response :
    letI := crypto
    letI := collation
    letI := profiles
    (Foundation.run ReliabilityRun.protocolStep withCredential
        (reconciled ++ [enter "call-1" "token-1"])).control.usableCount = 1 ∧
      ((Foundation.run ReliabilityRun.protocolStep withCredential
        (reconciled ++ [enter "call-1" "token-1"])).attempts.rows.filter AttemptRow.isUsable).length =
          0 := by
  decide +kernel

end Sample

theorem counters_match_reconciled :
    letI := Sample.crypto
    letI := Sample.collation
    letI := Sample.profiles
    Counted (Foundation.run ReliabilityRun.protocolStep Sample.withCredential Sample.reconciled) :=
  letI := Sample.crypto
  letI := Sample.collation
  letI := Sample.profiles
  counters_match _ _ _ _ _ Sample.reconciled Sample.reconciled_spares

/-- **A response that stays counted without its attempt.** -/
theorem not_counters_match :
    letI := Sample.crypto
    letI := Sample.collation
    letI := Sample.profiles
    ¬ Counted (Foundation.run ReliabilityRun.protocolStep Sample.withCredential
      (Sample.reconciled ++ [Sample.enter "call-1" "token-1"])) := by
  let _ := Sample.crypto
  let _ := Sample.collation
  let _ := Sample.profiles
  intro counted
  obtain ⟨count, attempts⟩ := Sample.entered_after_response
  have usable := counted.usable
  rw [count, attempts] at usable
  cases usable

end FuseControlPlane.Reliability
