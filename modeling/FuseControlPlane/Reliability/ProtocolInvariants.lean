/-
What holds of the rows of a run whatever its transactions do.

* `protocolRun_keeps`: what every write preserves, as far as the faults of the transactions allow, every run
  preserves.
* `HoldsApart`: a lane has one open hold.
* `SoundRows`: an attempt has its two columns of classification together, and no token before it is
  authorized; a token has an attempt.
-/

import FuseControlPlane.Reliability.ProtocolTransactions

set_option linter.unusedSectionVars false

namespace FuseControlPlane.Reliability

open Foundation Foundation.JavaScript Domain Evidence

section Invariants

variable {faults : Faults} {run after : ReliabilityRun}

/-! ### Runs -/

/-- What every write preserves, every sequence of writes preserves. -/
theorem Effects.keeps {inv : ReliabilityRun → Prop}
    (kept : ∀ {run after : ReliabilityRun}, inv run → Effect faults run after → inv after)
    (start : inv run) (effects : Effects faults run after) : inv after := by
  induction effects with
  | refl => exact start
  | tail _ effect held => exact kept held effect

theorem HoldsApart.congr (same : after.holds = run.holds) (apart : HoldsApart run) :
    HoldsApart after := by
  unfold HoldsApart
  rw [same]
  exact apart

/-- A hold that is written under its own key does not meet another open one. -/
theorem holdsApart_put (apart : HoldsApart run) (hold : HoldRow)
    (same : after.holds = run.holds.put hold)
    (alone : ∀ other ∈ run.holds, Keyed.key other ≠ Keyed.key hold → other.resolvedAt = none →
      other.laneId ≠ hold.laneId) : HoldsApart after := by
  intro first here second there opened open_ lane
  rw [same, Table.mem_put] at here there
  rcases here with rfl | ⟨here, apartFirst⟩
  · rcases there with rfl | ⟨there, apartSecond⟩
    · rfl
    · exact absurd lane.symm (alone second there apartSecond open_)
  · rcases there with rfl | ⟨there, apartSecond⟩
    · exact absurd lane (alone first here apartFirst opened)
    · exact apart first here second there opened open_ lane

/-- Next to an open hold its lane has no other one. -/
theorem alone_of_opened (apart : HoldsApart run) {hold : HoldRow}
    (opened : run.openHold hold.laneId = some hold) : ∀ other ∈ run.holds,
      Keyed.key other ≠ Keyed.key hold → other.resolvedAt = none → other.laneId ≠ hold.laneId := by
  intro other member different unresolved lane
  obtain ⟨stored, _, open_⟩ := openHold_eq_some opened
  exact different (by rw [apart other member hold stored unresolved open_ lane])

theorem joinHold_holds (run : ReliabilityRun) (hold : HoldRow) (requestId : String) :
    (run.joinHold hold requestId).holds =
      run.holds.put { hold with heldUnresolved := hold.heldUnresolved ++ [requestId] } := by
  unfold ReliabilityRun.joinHold ReliabilityRun.insertMember
  dsimp only
  split <;> rfl

theorem leaveHold_holds (run : ReliabilityRun) (hold : HoldRow) (requestId : String)
    (controlState : ControlState) (now : ℤ) :
    (run.leaveHold hold requestId controlState now).holds = run.holds.put { hold with
      heldUnresolved := hold.heldUnresolved.filter (· ≠ requestId)
      resolvedAt := if hold.heldUnresolved.filter (· ≠ requestId) = [] then some now
        else hold.resolvedAt } := by
  unfold ReliabilityRun.leaveHold
  dsimp only
  by_cases nobody : hold.heldUnresolved.filter (· ≠ requestId) = []
  · rw [if_neg (not_not.mpr nobody), if_pos nobody, nobody]
  · rw [if_pos nobody, if_neg nobody]

theorem holdsApart_createHold (apart : HoldsApart run) {laneId : String} (holdId : String)
    (members : List String) (noneOpen : run.openHold laneId = none) :
    HoldsApart (run.createHold laneId holdId members) := by
  refine holdsApart_put apart ⟨laneId, holdId, members, none⟩ rfl fun other member _ unresolved lane => ?_
  have closed := List.find?_eq_none.mp noneOpen other member
  simp [HoldRow.isOpenOn, show other.laneId = laneId from lane, unresolved] at closed

theorem holdsApart_joinHold (apart : HoldsApart run) {hold : HoldRow} (requestId : String)
    (opened : run.openHold hold.laneId = some hold) : HoldsApart (run.joinHold hold requestId) :=
  holdsApart_put apart _ (joinHold_holds run hold requestId) fun other =>
    alone_of_opened apart opened other

theorem holdsApart_leaveHold (apart : HoldsApart run) {hold : HoldRow} (requestId : String)
    (controlState : ControlState) (now : ℤ) (opened : run.openHold hold.laneId = some hold) :
    HoldsApart (run.leaveHold hold requestId controlState now) :=
  holdsApart_put apart _ (leaveHold_holds run hold requestId controlState now) fun other =>
    alone_of_opened apart opened other

theorem holdsApart_effect (apart : HoldsApart run) (effect : Effect faults run after) :
    HoldsApart after := by
  cases effect with
  | quiet others holds => exact apart.congr holds.holds
  | rows effect => exact apart.congr effect.sameHolds.holds
  | hold effect =>
    cases effect with
    | create laneId holdId members noneOpen fresh inhabited distinct going =>
      exact holdsApart_createHold apart holdId members noneOpen
    | join hold requestId opened absent going timely => exact holdsApart_joinHold apart requestId opened
    | leave hold requestId controlState now opened listed =>
      exact holdsApart_leaveHold apart requestId controlState now opened
    | mark laneId holdId requestId => exact apart

/-- A run that has just been initialized has its lanes and its control row. -/
theorem initialRun_quiet (runId : String) (profile : ReliabilityProtocolProfile)
    (planFingerprint : String) (reconciliationCredentialId : Option String) (laneIds : List String) :
    Quiet (.initialRun runId profile planFingerprint reconciliationCredentialId [])
        (.initialRun runId profile planFingerprint reconciliationCredentialId laneIds) ∧
      SameHolds (.initialRun runId profile planFingerprint reconciliationCredentialId [])
        (.initialRun runId profile planFingerprint reconciliationCredentialId laneIds) :=
  insertLanes_quiet laneIds _

section Runs

variable [NodeCrypto] [Collation] [ProtocolProfiles]

theorem holdsApart_step (apart : HoldsApart run) (op : ProtocolOp) : HoldsApart (run.protocolStep op) :=
  Effects.keeps holdsApart_effect apart (protocolStep_effects apart op)

/-- What every write preserves, as far as the faults of the transactions allow, every run preserves. -/
theorem protocolRun_keeps (inv : ReliabilityRun → Prop) (allowed : Faults → Prop)
    (ok : ReliabilityRun → ProtocolOp → Prop)
    (within : ∀ run op, ok run op → allowed (faultsOf run op))
    (kept : ∀ {faults : Faults} {run after : ReliabilityRun}, allowed faults → inv run →
      Effect faults run after → inv after)
    {ops : List ProtocolOp} (along : Along ReliabilityRun.protocolStep ok run ops)
    (apart : HoldsApart run) (start : inv run) :
    inv (Foundation.run ReliabilityRun.protocolStep run ops) ∧
      HoldsApart (Foundation.run ReliabilityRun.protocolStep run ops) := by
  refine @Along.invariant _ _ _ _ _ (fun run => inv run ∧ HoldsApart run) _ along ⟨start, apart⟩
    fun state op held fine => ⟨?_, holdsApart_step held.2 op⟩
  exact Effects.keeps (kept (within state op fine)) held.1 (protocolStep_effects held.2 op)

/-- A run that has just been initialized has no holds. -/
theorem holdsApart_initialRun (runId : String) (profile : ReliabilityProtocolProfile)
    (planFingerprint : String) (reconciliationCredentialId : Option String) (laneIds : List String) :
    HoldsApart (.initialRun runId profile planFingerprint reconciliationCredentialId laneIds) :=
  HoldsApart.congr (initialRun_quiet runId profile planFingerprint reconciliationCredentialId
    laneIds).2.holds fun _ member => absurd member (Table.not_mem_empty _)

end Runs

/-! ### Attempts and tokens -/

/-- The attempt is not authorized yet. -/
def AttemptRow.isEarly (attempt : AttemptRow) : Bool :=
  attempt.state = .planned || attempt.state = .admissionStarted

/-- The columns of an attempt and its token agree. -/
structure AttemptSound (token : Option DispatchTokenRow) (attempt : AttemptRow) : Prop where
  gate : attempt.gateClassifiedAt.isSome = attempt.terminalAt.isSome
  classified : attempt.state.isClassified = true → attempt.terminalAt.isSome = true
  early : attempt.isEarly = true → attempt.terminalAt = none ∧ token = none
  undispatched : attempt.state = .notDispatched →
    (token.any fun token => token.primitiveEnteredAt.isSome) = false

/-- Every attempt agrees with its token, and every token has an attempt on its lane. -/
structure SoundRows (attempts : Table AttemptRow) (tokens : Table DispatchTokenRow) : Prop where
  agree : ∀ attempt ∈ attempts, AttemptSound (tokens.find? attempt.requestId) attempt
  owned : ∀ token ∈ tokens, ∃ attempt, attempts.find? token.requestId = some attempt ∧
    attempt.laneId = token.laneId

/-- An attempt that lacks one of the columns of classification lacks the other too. -/
theorem AttemptSound.terminalAt_of_isOpen {token : Option DispatchTokenRow} {attempt : AttemptRow}
    (sound : AttemptSound token attempt) (unclassified : attempt.isOpen) : attempt.terminalAt = none := by
  rcases unclassified with gate | terminal
  · have same := sound.gate
    rw [gate] at same
    exact Option.isNone_iff_eq_none.mp (by simpa using same.symm)
  · exact terminal

/-- The attempt agrees with another token that is there and entered only if the first is. -/
theorem AttemptSound.withToken {token other : Option DispatchTokenRow} {attempt : AttemptRow}
    (sound : AttemptSound token attempt) (absent : token = none → other = none)
    (entered : (other.any fun token => token.primitiveEnteredAt.isSome) = true →
      (token.any fun token => token.primitiveEnteredAt.isSome) = true) :
    AttemptSound other attempt := by
  refine ⟨sound.gate, sound.classified, fun early => ?_, fun undispatched => ?_⟩
  · exact ⟨(sound.early early).1, absent (sound.early early).2⟩
  · have unentered := sound.undispatched undispatched
    rw [← Bool.not_eq_true] at unentered ⊢
    exact fun now => unentered (entered now)

section Rows

variable {attempts : Table AttemptRow} {tokens : Table DispatchTokenRow}

/-- Rewritten attempts stay on their lanes and agree with their tokens. -/
theorem SoundRows.updateAttempts (sound : SoundRows attempts tokens) (chosen : AttemptRow → Bool)
    (rewrite : AttemptRow → AttemptRow) (keeps : ∀ row, Keyed.key (rewrite row) = Keyed.key row)
    (agree : ∀ attempt ∈ attempts, chosen attempt = true →
      (rewrite attempt).laneId = attempt.laneId ∧
        AttemptSound (tokens.find? attempt.requestId) (rewrite attempt)) :
    SoundRows (attempts.update chosen rewrite keeps) tokens where
  agree := by
    intro attempt member
    obtain ⟨old, before, rewritten⟩ := Table.mem_update.mp member
    by_cases here : chosen old = true
    · rw [if_pos here] at rewritten
      subst rewritten
      rw [show (rewrite old).requestId = old.requestId from keeps old]
      exact (agree old before here).2
    · rw [if_neg here] at rewritten
      subst rewritten
      exact sound.agree old before
  owned := by
    intro token member
    obtain ⟨attempt, found, lane⟩ := sound.owned token member
    rw [Table.find?_update, found]
    by_cases here : chosen attempt = true
    · refine ⟨rewrite attempt, by simp [here], ?_⟩
      rw [(agree attempt (Table.mem_of_find? found) here).1, lane]
    · exact ⟨attempt, by simp [here], lane⟩

/-- Rewritten tokens are entered only if they were. -/
theorem SoundRows.updateTokens (sound : SoundRows attempts tokens) (chosen : DispatchTokenRow → Bool)
    (rewrite : DispatchTokenRow → DispatchTokenRow)
    (keeps : ∀ row, Keyed.key (rewrite row) = Keyed.key row)
    (same : ∀ token, (rewrite token).laneId = token.laneId ∧
      (rewrite token).primitiveEnteredAt = token.primitiveEnteredAt) :
    SoundRows attempts (tokens.update chosen rewrite keeps) where
  agree := by
    intro attempt member
    rw [Table.find?_update]
    refine (sound.agree attempt member).withToken (fun absent => by rw [absent]; rfl) fun entered => ?_
    cases found : tokens.find? attempt.requestId with
    | none =>
      rw [found] at entered
      exact entered
    | some token =>
      rw [found] at entered
      by_cases here : chosen token = true
      · simpa [here, (same token).2] using entered
      · simpa [here] using entered
  owned := by
    intro token member
    obtain ⟨old, before, rewritten⟩ := Table.mem_update.mp member
    obtain ⟨attempt, found, lane⟩ := sound.owned old before
    by_cases here : chosen old = true
    · rw [if_pos here] at rewritten
      subst rewritten
      refine ⟨attempt, ?_, lane.trans (same old).1.symm⟩
      rw [show (rewrite old).requestId = old.requestId from keeps old]
      exact found
    · rw [if_neg here] at rewritten
      subst rewritten
      exact ⟨attempt, found, lane⟩

end Rows

/-- A request without an attempt has no token. -/
theorem SoundRows.token_absent {attempts : Table AttemptRow} {tokens : Table DispatchTokenRow}
    (sound : SoundRows attempts tokens) {requestId : String} (absent : attempts.find? requestId = none) :
    tokens.find? requestId = none := by
  cases found : tokens.find? requestId with
  | none => rfl
  | some token =>
    obtain ⟨attempt, owner, _⟩ := sound.owned token (Table.mem_of_find? found)
    rw [show token.requestId = requestId from Table.key_of_find? found, absent] at owner
    cases owner

/-- The attempts of a run agree with its tokens. -/
def AttemptsSound (run : ReliabilityRun) : Prop := SoundRows run.attempts run.dispatchTokens

/-! ### What each write does to them -/

/-- The attempts after a token has been issued. -/
theorem find_attempt_issueToken (run : ReliabilityRun) (input : AuthorizeDispatchInput)
    (drawn requestId : String) : (run.issueToken input drawn).attempts.find? requestId =
      (run.attempts.find? requestId).map fun row =>
        if row.requestId = input.requestId then { row with state := .dispatchAuthorized } else row := by
  show (run.updateAttempts (·.requestId = input.requestId) ({ · with state := .dispatchAuthorized })
    fun _ => rfl).attempts.find? requestId = _
  rw [find_updateAttempts]
  simp only [decide_eq_true_eq]

/-- The attempts after a token has been entered. -/
theorem find_attempt_markEntered (run : ReliabilityRun) (requestId other : String) (now : ℤ) :
    (run.markEntered requestId now).attempts.find? other = (run.attempts.find? other).map fun row =>
      if row.requestId = requestId then { row with state := .primitiveEntered } else row := by
  show (run.updateAttempts (·.requestId = requestId) ({ · with state := .primitiveEntered })
    fun _ => rfl).attempts.find? other = _
  rw [find_updateAttempts]
  simp only [decide_eq_true_eq]

/-- The tokens after one has been entered. -/
theorem find_token_markEntered (run : ReliabilityRun) (requestId other : String) (now : ℤ) :
    (run.markEntered requestId now).dispatchTokens.find? other =
      (run.dispatchTokens.find? other).map fun token =>
        if token.requestId = requestId then { token with primitiveEnteredAt := some now } else token := by
  show (run.updateTokens (·.requestId = requestId) ({ · with primitiveEnteredAt := some now })
    fun _ => rfl).dispatchTokens.find? other = _
  rw [find_updateTokens]
  simp only [decide_eq_true_eq]

theorem mem_token_markEntered {requestId : String} {now : ℤ} {token : DispatchTokenRow} :
    token ∈ (run.markEntered requestId now).dispatchTokens ↔ ∃ old ∈ run.dispatchTokens,
      (if old.requestId = requestId then { old with primitiveEnteredAt := some now } else old) = token := by
  show token ∈ (run.updateTokens (·.requestId = requestId) ({ · with primitiveEnteredAt := some now })
    fun _ => rfl).dispatchTokens ↔ _
  rw [mem_updateTokens]
  simp only [decide_eq_true_eq]

theorem mem_attempt_markEntered {requestId : String} {now : ℤ} {attempt : AttemptRow} :
    attempt ∈ (run.markEntered requestId now).attempts ↔ ∃ old ∈ run.attempts,
      (if old.requestId = requestId then { old with state := .primitiveEntered } else old) = attempt := by
  show attempt ∈ (run.updateAttempts (·.requestId = requestId) ({ · with state := .primitiveEntered })
    fun _ => rfl).attempts ↔ _
  rw [mem_updateAttempts]
  simp only [decide_eq_true_eq]

theorem mem_attempt_issueToken {input : AuthorizeDispatchInput} {drawn : String} {attempt : AttemptRow} :
    attempt ∈ (run.issueToken input drawn).attempts ↔ ∃ old ∈ run.attempts,
      (if old.requestId = input.requestId then { old with state := .dispatchAuthorized } else old) =
        attempt := by
  show attempt ∈ (run.updateAttempts (·.requestId = input.requestId)
    ({ · with state := .dispatchAuthorized }) fun _ => rfl).attempts ↔ _
  rw [mem_updateAttempts]
  simp only [decide_eq_true_eq]

theorem attemptsSound_plan (sound : AttemptsSound run) {sealed : SealedCallRow}
    (absent : run.attempts.find? sealed.requestId = none) :
    AttemptsSound { run with attempts := run.attempts.put sealed.plannedAttempt } where
  agree := by
    intro attempt member
    rcases Table.mem_put.mp member with rfl | ⟨before, _⟩
    · show AttemptSound (run.dispatchTokens.find? sealed.requestId) sealed.plannedAttempt
      rw [sound.token_absent absent]
      exact ⟨rfl, fun classified => (by cases classified), fun _ => ⟨rfl, rfl⟩, fun undispatched =>
        (by cases undispatched)⟩
    · exact sound.agree attempt before
  owned := by
    intro token member
    obtain ⟨attempt, found, lane⟩ := sound.owned token member
    refine ⟨attempt, ?_, lane⟩
    show (run.attempts.put sealed.plannedAttempt).find? token.requestId = some attempt
    rw [Table.find?_put_of_ne, found]
    intro same
    rw [show token.requestId = sealed.requestId from same, absent] at found
    cases found

theorem attemptsSound_admitAttempt (sound : AttemptsSound run) (input : RecordAttemptInput) (now : ℤ) :
    AttemptsSound (run.updateAttempts (run.isAdmissible input) (run.admitAttempt input now) fun _ => rfl) := by
  refine SoundRows.updateAttempts sound (run.isAdmissible input) (run.admitAttempt input now) (fun _ => rfl)
    fun attempt member chosen => ⟨rfl, ?_⟩
  have early : attempt.isEarly = true := by
    unfold ReliabilityRun.isAdmissible at chosen
    simp only [Bool.and_eq_true] at chosen
    exact chosen.1.2
  have agree := sound.agree attempt member
  exact ⟨agree.gate, fun classified => (by cases classified), fun _ => agree.early early,
    fun undispatched => (by cases undispatched)⟩

/-- The attempt of a request that is authorized has just been admitted. -/
theorem isEarly_of_dispatchable {input : AuthorizeDispatchInput}
    (dispatchable : run.attempts.rows.any (run.isDispatchable input) = true) :
    ∃ attempt, run.attempts.find? input.requestId = some attempt ∧ attempt.laneId = input.laneId ∧
      attempt.block = input.block ∧ attempt.state = .admissionStarted := by
  obtain ⟨attempt, member, meets⟩ := List.any_eq_true.mp dispatchable
  unfold ReliabilityRun.isDispatchable at meets
  simp only [Bool.and_eq_true, decide_eq_true_eq] at meets
  obtain ⟨⟨⟨⟨own, lane⟩, block⟩, admitted⟩, _⟩ := meets
  refine ⟨attempt, ?_, lane, block, admitted⟩
  rw [← own]
  exact Table.find?_of_mem member

theorem attemptsSound_issue (sound : AttemptsSound run) {input : AuthorizeDispatchInput} (drawn : String)
    (dispatchable : run.attempts.rows.any (run.isDispatchable input) = true) :
    AttemptsSound (run.issueToken input drawn) := by
  obtain ⟨own, found, lane, _, admitted⟩ := isEarly_of_dispatchable dispatchable
  constructor
  · intro attempt member
    obtain ⟨old, before, rewritten⟩ := mem_attempt_issueToken.mp member
    by_cases here : old.requestId = input.requestId
    · rw [if_pos here] at rewritten
      subst rewritten
      exact ⟨(sound.agree old before).gate, fun classified => (by cases classified),
        fun early => (by cases early), fun undispatched => (by cases undispatched)⟩
    · rw [if_neg here] at rewritten
      subst rewritten
      rw [show (run.issueToken input drawn).dispatchTokens.find? old.requestId =
        run.dispatchTokens.find? old.requestId from Table.find?_put_of_ne _ here]
      exact sound.agree old before
  · intro token member
    rw [find_attempt_issueToken]
    rcases Table.mem_put.mp member with rfl | ⟨before, different⟩
    · refine ⟨{ own with state := .dispatchAuthorized }, ?_, lane⟩
      rw [found, Option.map_some, if_pos (show own.requestId = _ from Table.key_of_find? found)]
    · obtain ⟨attempt, owner, onLane⟩ := sound.owned token before
      refine ⟨attempt, ?_, onLane⟩
      have same : attempt.requestId = token.requestId := Table.key_of_find? owner
      rw [owner, Option.map_some, if_neg (same ▸ different)]

theorem attemptsSound_enter (sound : AttemptsSound run) (requestId : String) (now : ℤ) :
    AttemptsSound (run.markEntered requestId now) := by
  constructor
  · intro attempt member
    obtain ⟨old, before, rewritten⟩ := mem_attempt_markEntered.mp member
    have agree := sound.agree old before
    by_cases here : old.requestId = requestId
    · rw [if_pos here] at rewritten
      subst rewritten
      exact ⟨agree.gate, fun classified => (by cases classified), fun early => (by cases early),
        fun undispatched => (by cases undispatched)⟩
    · rw [if_neg here] at rewritten
      subst rewritten
      rw [find_token_markEntered]
      refine agree.withToken (fun absent => by rw [absent]; rfl) fun entered => ?_
      cases found : run.dispatchTokens.find? old.requestId with
      | none =>
        rw [found] at entered
        exact entered
      | some token =>
        rw [found, Option.map_some] at entered
        have own : token.requestId = old.requestId := Table.key_of_find? found
        rw [if_neg (own ▸ here)] at entered
        exact entered
  · intro token member
    obtain ⟨old, before, rewritten⟩ := mem_token_markEntered.mp member
    obtain ⟨attempt, found, lane⟩ := sound.owned old before
    have same : token.requestId = old.requestId ∧ token.laneId = old.laneId := by
      rw [← rewritten]
      split <;> exact ⟨rfl, rfl⟩
    rw [find_attempt_markEntered, same.1, same.2, found, Option.map_some]
    split
    · exact ⟨{ attempt with state := .primitiveEntered }, rfl, lane⟩
    · exact ⟨attempt, rfl, lane⟩

theorem attemptsSound_pend (sound : AttemptsSound run) (chosen : AttemptRow → Bool)
    (ambiguityEnteredAt : AttemptRow → Option ℤ) (generationId : AttemptRow → Option String) :
    AttemptsSound (run.pendAttempts chosen ambiguityEnteredAt generationId) := by
  refine SoundRows.updateAttempts sound chosen
    (fun attempt =>
      { attempt with
        state := .reconciliationPending
        ambiguityEnteredAt := ambiguityEnteredAt attempt
        providerGenerationId := generationId attempt })
    (fun _ => rfl) fun attempt member here => ⟨rfl, ?_⟩
  have agree := sound.agree attempt member
  exact ⟨agree.gate, fun classified => (by cases classified), fun early => (by cases early),
    fun undispatched => (by cases undispatched)⟩

theorem attemptsSound_classify (sound : AttemptsSound run) (classification : Classification run) :
    AttemptsSound classification.apply := by
  refine SoundRows.updateAttempts sound classification.chosen classification.rewrite
    classification.keeps fun attempt member here => ?_
  have ends := classification.ends attempt member here
  refine ⟨ends.laneId, by rw [ends.gate, ends.terminal], fun _ => ends.terminal, fun early => ?_,
    ends.undispatched⟩
  have state := ends.classified
  unfold AttemptRow.isEarly at early
  simp only [Bool.or_eq_true, decide_eq_true_eq] at early
  rcases early with planned | admitted
  · rw [planned] at state
    cases state
  · rw [admitted] at state
    cases state

theorem attemptsSound_effect (sound : AttemptsSound run) (effect : Effect faults run after) :
    AttemptsSound after := by
  have still : ∀ {other : ReliabilityRun}, Quiet run other → AttemptsSound other := by
    intro other others
    unfold AttemptsSound
    rw [others.attempts, others.dispatchTokens]
    exact sound
  cases effect with
  | quiet others holds => exact still others
  | hold effect => exact still effect.quiet
  | rows effect =>
    cases effect with
    | note entries plain => exact sound
    | insertSealed sealed absent free => exact sound
    | plan sealed stored absent => exact attemptsSound_plan sound absent
    | admitAttempt input now active => exact attemptsSound_admitAttempt sound input now
    | issue input drawn active absent allowed below dispatchable =>
      exact attemptsSound_issue sound drawn dispatchable
    | enter requestId now token found enterable allowed => exact attemptsSound_enter sound requestId now
    | pend chosen ambiguityEnteredAt generationId unclassified =>
      exact attemptsSound_pend sound chosen ambiguityEnteredAt generationId
    | classify classification released => exact attemptsSound_classify sound classification
    | cancelTokens chosen canceledAt canceled ended unentered =>
      exact SoundRows.updateTokens sound chosen
        (fun token => { token with canceledAt := canceledAt token }) (fun _ => rfl) fun _ => ⟨rfl, rfl⟩
    | createBarrier laneId block requestIds absent => exact sound
    | release barrier now active found ready => exact sound
    | cancelBarriers now ended => exact sound

theorem attemptsSound_initialRun (runId : String) (profile : ReliabilityProtocolProfile)
    (planFingerprint : String) (reconciliationCredentialId : Option String) (laneIds : List String) :
    AttemptsSound (.initialRun runId profile planFingerprint reconciliationCredentialId laneIds) := by
  obtain ⟨others, _⟩ := initialRun_quiet runId profile planFingerprint reconciliationCredentialId laneIds
  unfold AttemptsSound
  rw [others.attempts, others.dispatchTokens]
  exact ⟨fun _ member => absurd member (Table.not_mem_empty _), fun _ member =>
    absurd member (Table.not_mem_empty _)⟩

end Invariants

end FuseControlPlane.Reliability
