/-
The recovery of a scheduler worker, and the manifests it leaves.

A worker publishes a manifest for each state of its claim; it may crash after any of them. A later worker
finds the attempt terminal and repairs the manifest. The evidence takes a terminal manifest with
sequence 4.

* `publishAll`, `transitions`: the publications of a worker.
* `recoverSchedulerWorker`: what a later worker does.
* `isAdmissible`: what the reconstruction of the evidence requires of state and sequence.
* `recovered_manifest`: the repair is always accepted, and its manifest is admissible exactly when the
  crash came before the first publication or after the third or the fourth one.
-/

import FuseControlPlane.Evidence.ManifestRuns

set_option linter.unusedSectionVars false

namespace FuseControlPlane.Reliability

open Foundation Foundation.JavaScript Program Evidence

/-! ### The worker -/

/-- Further members of a manifest. -/
abbrev Members := {others : List (String × Json) // ("state" :: "sequence" :: others.map (·.1)).Nodup}

/-- A manifest with further members. -/
def manifest (state : String) (sequence : ℤ) (members : Members) : DurableManifest :=
  ⟨state, sequence, members.1, members.2⟩

/-- The manifests of a worker, in order. -/
def transitions (members : ℕ → Members) : List DurableManifest :=
  [manifest "claimed" 1 (members 1), manifest "admission_started" 2 (members 2),
    manifest "awaiting_outcome" 3 (members 3), manifest "terminal" 4 (members 4)]

section Recovery

variable [NodeCrypto] [Collation]

/-- Publish manifests one after the other. -/
def publishAll (path : String) : List DurableManifest → Program FileCall ManifestError Unit
  | [] => return
  | value :: rest => do
    publishManifestDurably path value
    publishAll path rest

/-! ### The recovery -/

/-- What the store tells of an attempt. -/
structure SchedulerState where
  terminal : Bool
  dispatchToken : Bool
  primitiveEntered : Bool

/-- The calls to the store. -/
inductive StateCall : Type → Type
  | readState : StateCall SchedulerState
  | waitForAuthoritativeOutcome : StateCall Unit
  /-- Whether the attempt is terminal then. -/
  | reconcile : StateCall Bool

/-- The calls of a recovery. -/
abbrev RecoveryCall (β : Type) : Type := FileCall β ⊕ StateCall β

inductive RecoveryError
  /-- `SCHEDULER_MANIFEST_INVALID` -/
  | manifestInvalid
  | publication (error : ManifestError)

inductive RecoveryAction
  | alreadyTerminal
  | reconciled
  | dispatchOriginal
  deriving DecidableEq

structure Recovered where
  action : RecoveryAction
  terminal : Bool
  manifestRepaired : Bool

/-- Read the state, after the outcome is known if the call may be about to be made. -/
def settledState : Program RecoveryCall RecoveryError SchedulerState := do
  let state ← perform (.inr .readState)
  if !state.terminal && state.dispatchToken && !state.primitiveEntered then do
    perform (.inr .waitForAuthoritativeOutcome)
    perform (.inr .readState)
  else return state

/-- The manifest in the file, or `none` if it cannot be read. -/
def readManifest (path : String) : Program RecoveryCall RecoveryError (Option Json) := do
  let result ← ((readFile (ε := FileError) id path).mapCalls Sum.inl).attempt
  match result with
  | .ok text => do
    let parsed ← orThrow (Json.parse text) .manifestInvalid
    return some parsed
  | .error _ => return none

/-- `manifest?.state === "terminal"`. -/
def isTerminal (manifest : Option Json) : Bool :=
  match manifest.bind (Json.field "state") with
  | some (.string state) => state == "terminal"
  | _ => false

/-- `(manifest?.sequence ?? 3) + 1`; zero where the sum is no integer, which no publication takes. -/
def repairSequence (manifest : Option Json) : ℤ :=
  match manifest.bind (Json.field "sequence") with
  | none => 4
  | some .null => 4
  | some value => value.integer?.elim 0 (· + 1)

/-- Publish a terminal manifest, if there is none. -/
def repairManifest (path : String) (members : Members) : Program RecoveryCall RecoveryError Bool := do
  let found ← readManifest path
  if isTerminal found then return false
  else do
    let result ← ((publishManifestDurably path
      (manifest "terminal" (repairSequence found) members)).mapCalls Sum.inl).attempt
    fromExcept (result.mapError .publication)
    return true

/-- What is to be done, and whether the attempt is terminal. -/
def actionFor (state : SchedulerState) :
    Program RecoveryCall RecoveryError (RecoveryAction × Bool) :=
  if state.terminal then pure (.alreadyTerminal, true)
  else if state.dispatchToken then do
    let terminal ← perform (.inr .reconcile)
    pure (.reconciled, terminal)
  else pure (.dispatchOriginal, false)

/-- Recover what a worker left. -/
def recoverSchedulerWorker (path : String) (members : Members) :
    Program RecoveryCall RecoveryError Recovered := do
  let state ← settledState
  let (action, terminal) ← actionFor state
  let manifestRepaired ← if terminal then repairManifest path members else pure false
  pure ⟨action, terminal, manifestRepaired⟩

/-- The state and sequence that `reconstructSchedulerManifestArtifacts` requires. -/
def isAdmissible (text : Option String) : Bool :=
  match text.bind Json.parse with
  | none => false
  | some parsed => isTerminal (some parsed) && (parsed.field "sequence").bind Json.integer? == some 4

/-! ### What a worker leaves -/

variable {path : String} {files : FileSystem}

/-- Manifests that may be published one after the other. -/
def Ordered : Option DurableManifest → List DurableManifest → Prop
  | _, [] => True
  | before, value :: rest => isPublishable value = true ∧
      (∀ old ∈ before, checkTransition value old.parsed = .ok ()) ∧ Ordered (some value) rest

theorem publishAll_works {before : Option DurableManifest} {values : List DurableManifest}
    (ordered : Ordered before values) (free : files.names (lockPathOf path) = none)
    (holds : files.lookup path = before.map bytesOf) :
    Ensures (Works path) (fun outcome after => outcome = .ok () ∧ after.names (lockPathOf path) = none ∧
      after.lookup path = (values.getLast?.or before).map bytesOf) (publishAll path values) files := by
  induction values generalizing before files with
  | nil => exact .done ⟨rfl, free, holds⟩
  | cons value rest ih =>
    obtain ⟨publishable, allowed, later⟩ := ordered
    have follows : MayFollow path value files := by
      cases before with
      | none => exact .inl holds
      | some old => exact .inr ⟨old, holds, .inr (allowed old rfl)⟩
    refine (publish_works publishable free follows).bind
      (fun _ middle ⟨_, unlocked, text⟩ => ?_) fun error middle ⟨same, _⟩ => ?_
    · refine (ih later unlocked text).mono fun outcome after ⟨ended, lock, last⟩ => ?_
      refine ⟨ended, lock, last.trans ?_⟩
      cases rest with
      | nil => rfl
      | cons next others =>
        rw [List.getLast?_cons_cons]
        cases here : (next :: others).getLast? with
        | some final => rfl
        | none =>
          rw [List.getLast?_eq_none_iff] at here
          cases here
    · cases same

theorem ordered_transitions (members : ℕ → Members) (count : ℕ) :
    Ordered none ((transitions members).take count) := by
  have every : Ordered none (transitions members) := by
    refine ⟨rfl, ?_, rfl, ?_, rfl, ?_, rfl, ?_, trivial⟩
    · intro old impossible
      cases impossible
    all_goals
      intro old same
      cases same
    · exact checkTransition_of (show "claimed" ≠ "terminal" by decide) rfl rfl
    · exact checkTransition_of (show "admission_started" ≠ "terminal" by decide) rfl rfl
    · exact checkTransition_of (show "awaiting_outcome" ≠ "terminal" by decide) rfl rfl
  have prefix_of : ∀ (before : Option DurableManifest) (values : List DurableManifest) (count : ℕ),
      Ordered before values → Ordered before (values.take count) := by
    intro before values count ordered
    induction values generalizing before count with
    | nil =>
      rw [List.take_nil]
      trivial
    | cons value rest ih =>
      cases count with
      | zero => trivial
      | succ count => exact ⟨ordered.1, ordered.2.1, ih (some value) count ordered.2.2⟩
  exact prefix_of none _ count every

/-! ### What a recovery does with it -/

/-- Calls to the store are answered in any way; calls for files work. -/
def RecoveryAnswers (path : String) {β : Type} (files : FileSystem) (effect : RecoveryCall β) (reply : β)
    (after : FileSystem) : Prop :=
  match effect with
  | .inl access => Works path files access reply after
  | .inr _ => after = files

/-- The manifest after a repair. -/
def repaired (members : Members) (last : Option DurableManifest) : DurableManifest :=
  match last with
  | none => manifest "terminal" 4 members
  | some value =>
    if value.state = "terminal" then value else manifest "terminal" (value.sequence + 1) members

theorem isTerminal_parsed (value : DurableManifest) :
    isTerminal (some value.parsed) = (value.state == "terminal") := by
  rw [isTerminal, Option.bind_some, parsed_state]

theorem repairSequence_parsed (value : DurableManifest) :
    repairSequence (some value.parsed) = value.sequence + 1 := by
  rw [repairSequence, Option.bind_some, parsed_sequence]
  show (Json.ofInt value.sequence).integer?.elim 0 (· + 1) = value.sequence + 1
  rw [Json.integer?_ofInt, Option.elim_some]

theorem isAdmissible_bytesOf (value : DurableManifest) :
    isAdmissible (some (bytesOf value)) = (value.state == "terminal" && value.sequence == 4) := by
  rw [isAdmissible, Option.bind_some, parse_bytesOf]
  show (isTerminal (some value.parsed) &&
    (value.parsed.field "sequence").bind Json.integer? == some 4) = _
  rw [isTerminal_parsed, parsed_sequence, Option.bind_some, Json.integer?_ofInt]
  rfl

/-- A manifest that a terminal one may follow. -/
def Repairable (value : DurableManifest) : Prop :=
  isPublishable (DurableManifest.bare "terminal" (value.sequence + 1)) = true ∧
    (value.state ≠ "terminal" →
      (manifestStateRank "terminal").atMost (manifestStateRank value.state) = false)

theorem recovery_file {ε α : Type} {post : Except ε α → FileSystem → Prop}
    {program : Program FileCall ε α} (ensures : Ensures (Works path) post program files) :
    Ensures (RecoveryAnswers path) post (program.mapCalls Sum.inl) files :=
  ensures.mapCalls fun _ _ _ _ answered => answered

theorem readManifest_works {last : Option DurableManifest}
    (holds : files.lookup path = last.map bytesOf) :
    Ensures (RecoveryAnswers path)
      (fun outcome after => outcome = .ok (last.map (·.parsed)) ∧ after = files)
      (readManifest path) files := by
  have read : Ensures (Works path) (fun result later => later = files ∧
      result = last.elim (.error .missing) fun value => .ok (bytesOf value))
      (readFile (ε := FileError) id path) files := by
    cases last with
    | none =>
      have missing : ∀ text, files.perform text (.openRead path) = (.error .missing, files) := by
        intro text
        cases named : files.names path with
        | none => simp only [FileSystem.perform, named]
        | some file =>
          rw [FileSystem.lookup, named] at holds
          cases holds
      exact works_call missing (.fail ⟨rfl, rfl⟩)
    | some value =>
      rw [← bind_pure (readFile id path)]
      exact works_readFile holds (.done ⟨rfl, rfl⟩)
  refine (recovery_file read).attempt fun result later ends => ?_
  obtain ⟨unchanged, found⟩ := ends
  subst unchanged
  cases last with
  | none =>
    cases found
    exact .done ⟨rfl, rfl⟩
  | some value =>
    cases found
    refine .orThrow (fun parsed same => ?_) fun unparsed => ?_
    · rw [parse_bytesOf] at same
      cases same
      exact .done ⟨rfl, rfl⟩
    · rw [parse_bytesOf] at unparsed
      cases unparsed

/-- **A repair is accepted.** -/
theorem repairManifest_works (members : Members) {last : Option DurableManifest}
    (free : files.names (lockPathOf path) = none) (holds : files.lookup path = last.map bytesOf)
    (repairable : ∀ value ∈ last, Repairable value) :
    Ensures (RecoveryAnswers path) (fun outcome after => (∃ done, outcome = .ok done) ∧
      after.lookup path = some (bytesOf (repaired members last))) (repairManifest path members) files := by
  refine (readManifest_works holds).bind (fun found later ⟨same, unchanged⟩ => ?_)
    fun error later ⟨same, _⟩ => ?_
  · cases same
    subst unchanged
    have published : ∀ value : DurableManifest, isPublishable value = true →
        MayFollow path value later → Ensures (RecoveryAnswers path)
          (fun outcome after => (∃ done, outcome = .ok done) ∧
            after.lookup path = some (bytesOf value)) (do
          let result ← ((publishManifestDurably path value).mapCalls Sum.inl).attempt
          fromExcept (result.mapError RecoveryError.publication)
          return true) later := by
      intro value publishable follows
      refine (recovery_file (publish_works publishable free follows)).attempt
        fun result after ⟨same, _, text⟩ => ?_
      subst same
      exact .done ⟨⟨true, rfl⟩, text⟩
    cases last with
    | none => exact published (manifest "terminal" 4 members) rfl (.inl holds)
    | some value =>
      obtain ⟨publishable, higher⟩ := repairable value rfl
      by_cases terminal : value.state = "terminal"
      · have stays : isTerminal (some value.parsed) = true := by
          rw [isTerminal_parsed, terminal]
          rfl
        simp only [Option.map_some, stays, if_true, repaired, if_pos terminal]
        exact .done ⟨⟨false, rfl⟩, holds⟩
      · have goes : isTerminal (some value.parsed) = false := by
          rw [isTerminal_parsed]
          exact beq_eq_false_iff_ne.mpr terminal
        simp only [Option.map_some, goes, Bool.false_eq_true, if_false, repaired, if_neg terminal,
          repairSequence_parsed]
        refine published (manifest "terminal" (value.sequence + 1) members) publishable
          (.inr ⟨value, holds, .inr ?_⟩)
        exact checkTransition_of terminal rfl (higher terminal)
  · cases same

/-- What a whole recovery leaves. -/
theorem recoverSchedulerWorker_works (members : Members) {last : Option DurableManifest}
    (free : files.names (lockPathOf path) = none) (holds : files.lookup path = last.map bytesOf)
    (repairable : ∀ value ∈ last, Repairable value) :
    Ensures (RecoveryAnswers path) (fun outcome after => ∃ result, outcome = .ok result ∧
      (result.terminal = true → after.lookup path = some (bytesOf (repaired members last))))
      (recoverSchedulerWorker path members) files := by
  have settled : Ensures (RecoveryAnswers path) (fun outcome after => after = files ∧ ∃ state, outcome = .ok state)
      settledState files := by
    refine .call fun state later unchanged => ?_
    cases (show later = files from unchanged)
    change Ensures (RecoveryAnswers path) _ (if _ then _ else _) files
    split
    · refine .call fun _ later unchanged => .call fun again last unchanged_again => ?_
      cases (show later = files from unchanged)
      cases (show last = files from unchanged_again)
      exact .done ⟨rfl, again, rfl⟩
    · exact .done ⟨rfl, state, rfl⟩
  have decided : ∀ state, Ensures (RecoveryAnswers path)
      (fun outcome after => after = files ∧ ∃ action, outcome = .ok action) (actionFor state) files := by
    intro state
    unfold actionFor
    split
    · exact .done ⟨rfl, _, rfl⟩
    · split
      · refine .call fun terminal later unchanged => ?_
        cases (show later = files from unchanged)
        exact .done ⟨rfl, _, rfl⟩
      · exact .done ⟨rfl, _, rfl⟩
  refine settled.bind (fun state later ⟨unchanged, _⟩ => ?_) fun error later ⟨_, _, same⟩ => ?_
  · subst unchanged
    refine (decided state).bind (fun action later ⟨unchanged, _⟩ => ?_)
      fun error later ⟨_, _, same⟩ => ?_
    · subst unchanged
      obtain ⟨action, terminal⟩ := action
      cases terminal with
      | false => exact .done ⟨_, rfl, fun impossible => by cases impossible⟩
      | true =>
        refine (repairManifest_works members free holds repairable).bind
          (fun _ after ⟨_, text⟩ => ?_) fun error after ⟨⟨_, same⟩, _⟩ => ?_
        · exact .done ⟨_, rfl, fun _ => text⟩
        · cases same
    · cases same
  · cases same

/-! ### The manifests of a recovered worker -/

/-- **The repair is accepted, and admissible exactly when** the worker crashed before the first
publication, or after the third or the fourth one. -/
theorem recovered_manifest (path : String) (members : ℕ → Members) (repair : Members)
    (files crashed after : FileSystem) (count : ℕ) (some_of : count ≤ 4)
    (absent : files.names path = none) (free : files.names (lockPathOf path) = none)
    (worked : Except ManifestError Unit)
    (published : Serves (Works path) (publishAll path ((transitions members).take count)) files worked crashed)
    (outcome : Except RecoveryError Recovered)
    (recovery : Serves (RecoveryAnswers path) (recoverSchedulerWorker path repair) crashed outcome after) :
    ∃ result, outcome = .ok result ∧ (result.terminal = true →
      (isAdmissible (after.lookup path) = true ↔ count = 0 ∨ count = 3 ∨ count = 4)) := by
  have nothing : files.lookup path = (none : Option DurableManifest).map bytesOf := by
    rw [FileSystem.lookup, absent]
    rfl
  obtain ⟨_, unlocked, holds⟩ := (publishAll_works (ordered_transitions members count) free
    nothing).meets worked crashed published
  have repairable : ∀ value ∈ ((transitions members).take count).getLast?.or none,
      Repairable value := by
    intro value last
    rw [Option.or_none] at last
    have member : value ∈ transitions members :=
      List.mem_of_mem_take (List.mem_of_getLast? last)
    simp only [transitions, List.mem_cons, List.not_mem_nil, or_false] at member
    rcases member with rfl | rfl | rfl | rfl
    · exact ⟨rfl, fun _ => rfl⟩
    · exact ⟨rfl, fun _ => rfl⟩
    · exact ⟨rfl, fun _ => rfl⟩
    · exact ⟨rfl, fun open_ => absurd rfl open_⟩
  obtain ⟨result, ended, left⟩ := (recoverSchedulerWorker_works repair unlocked holds
    repairable).meets outcome after recovery
  refine ⟨result, ended, fun terminal => ?_⟩
  rw [left terminal, isAdmissible_bytesOf]
  have cases_of : count = 0 ∨ count = 1 ∨ count = 2 ∨ count = 3 ∨ count = 4 := by omega
  rcases cases_of with rfl | rfl | rfl | rfl | rfl <;> simp [transitions, repaired, manifest]

end Recovery

/-! ### Sample recoveries -/

namespace Recovery.Sample

/-- A collation by code units. -/
abbrev collation : Collation where
  localeCompare first second :=
    if first = second then 0 else if codeUnits first ≤ codeUnits second then -1 else 1

/-- A digest. -/
abbrev crypto : NodeCrypto where
  sha256 text := text

/-- No further members. -/
def members : Members := ⟨[], bare_distinct⟩

/-- The attempt is terminal. -/
def stateReply : {β : Type} → StateCall β → β
  | _, .readState => ⟨true, true, true⟩
  | _, .waitForAuthoritativeOutcome => ()
  | _, .reconcile => true

/-- A temporary name is new. -/
def canDraw {β : Type} (files : FileSystem) (effect : FileCall β) : Bool :=
  !isDraw effect || (files.names (temporaryOf "m" "0")).isNone

/-- The file system of a worker. -/
def fileReply {β : Type} (files : FileSystem) (access : FileCall β) : β × FileSystem :=
  files.perform "0" access

/-- The calls of a recovery. -/
def recoveryReply {β : Type} (files : FileSystem) : RecoveryCall β → β × FileSystem
  | .inl access => fileReply files access
  | .inr asked => (stateReply asked, files)

def canReply {β : Type} (files : FileSystem) : RecoveryCall β → Bool
  | .inl access => canDraw files access
  | .inr _ => true

/-- The publications of a worker that crashes after some of them. -/
def worked (count : ℕ) : Option (Except ManifestError Unit × FileSystem) :=
  letI := collation
  letI := crypto
  settle fileReply canDraw (publishAll "m" ((transitions fun _ => members).take count)) FileSystem.empty

/-- The file system the worker leaves. -/
def crashed (count : ℕ) : FileSystem := (worked count).elim FileSystem.empty (·.2)

/-- The recovery. -/
def recovered (count : ℕ) : Option (Except RecoveryError Recovered × FileSystem) :=
  letI := collation
  letI := crypto
  settle recoveryReply canReply (recoverSchedulerWorker "m" members) (crashed count)

/-- The file system the recovery leaves. -/
def after (count : ℕ) : FileSystem := (recovered count).elim FileSystem.empty (·.2)

theorem fileReply_works {β : Type} (files : FileSystem) (access : FileCall β)
    (can : canDraw files access = true) :
    Works "m" files access (fileReply files access).1 (fileReply files access).2 := by
  refine ⟨"0", fun drawn => ?_, rfl⟩
  rw [canDraw, drawn] at can
  exact Option.isNone_iff_eq_none.mp can

theorem recoveryReply_works {β : Type} (files : FileSystem) (effect : RecoveryCall β)
    (can : canReply files effect = true) :
    RecoveryAnswers "m" files effect (recoveryReply files effect).1 (recoveryReply files effect).2 := by
  cases effect with
  | inl access => exact fileReply_works files access can
  | inr asked => exact rfl

theorem worked_serves (count : ℕ) (ends : (worked count).isSome = true) :
    letI := collation
    letI := crypto
    ∃ outcome, Serves (Works "m") (publishAll "m" ((transitions fun _ => members).take count)) FileSystem.empty
      outcome (crashed count) := by
  obtain ⟨⟨outcome, left⟩, same⟩ := Option.isSome_iff_exists.mp ends
  refine ⟨outcome, serves_of_settle fileReply_works ?_⟩
  rw [crashed, same]
  exact same

theorem recovered_serves (count : ℕ) (ends : (recovered count).isSome = true) :
    letI := collation
    letI := crypto
    ∃ outcome, (recovered count).map (·.1) = some outcome ∧
      Serves (RecoveryAnswers "m") (recoverSchedulerWorker "m" members) (crashed count) outcome
        (after count) := by
  obtain ⟨⟨outcome, left⟩, same⟩ := Option.isSome_iff_exists.mp ends
  refine ⟨outcome, by rw [same]; rfl, serves_of_settle recoveryReply_works ?_⟩
  rw [after, same]
  exact same

/-- The recovery found the attempt terminal. -/
def foundTerminal (count : ℕ) : Bool :=
  match recovered count with
  | some (.ok result, _) => result.terminal
  | _ => false

theorem terminal_of_found {count : ℕ} {result : Recovered} (found : foundTerminal count = true)
    (ended : (recovered count).map (·.1) = some (.ok result)) : result.terminal = true := by
  obtain ⟨⟨outcome, left⟩, same, rfl⟩ := Option.map_eq_some_iff.mp ended
  rw [foundTerminal, same] at found
  exact found

end Recovery.Sample

/-- A worker that crashed after three publications: the repair has sequence 4. -/
theorem recovered_manifest_awaiting :
    letI := Recovery.Sample.collation
    letI := Recovery.Sample.crypto
    isAdmissible ((Recovery.Sample.after 3).lookup "m") = true := by
  let _ := Recovery.Sample.collation
  let _ := Recovery.Sample.crypto
  obtain ⟨worked, published⟩ := Recovery.Sample.worked_serves 3 (by decide +kernel)
  obtain ⟨outcome, ended, recovery⟩ := Recovery.Sample.recovered_serves 3 (by decide +kernel)
  obtain ⟨result, same, admissible⟩ := recovered_manifest "m" (fun _ => Recovery.Sample.members)
    Recovery.Sample.members FileSystem.empty _ _ 3 (by decide) rfl rfl worked published outcome
    recovery
  subst same
  exact (admissible (Recovery.Sample.terminal_of_found (by decide +kernel) ended)).mpr (by decide)

/-- A worker that crashed after its first publication: the repair has sequence 2, and the evidence does
not take it. -/
theorem recovered_manifest_early :
    letI := Recovery.Sample.collation
    letI := Recovery.Sample.crypto
    ¬ ∀ (count : ℕ) (worked : Except ManifestError Unit) (crashed after : FileSystem)
      (outcome : Except RecoveryError Recovered), count ≤ 4 →
      Serves (Works "m") (publishAll "m"
        ((transitions fun _ => Recovery.Sample.members).take count)) FileSystem.empty worked
        crashed →
      Serves (RecoveryAnswers "m") (recoverSchedulerWorker "m" Recovery.Sample.members) crashed
        outcome after →
      ∃ result, outcome = .ok result ∧ (result.terminal = true →
        isAdmissible (after.lookup "m") = true) := by
  let _ := Recovery.Sample.collation
  let _ := Recovery.Sample.crypto
  intro always
  obtain ⟨worked, published⟩ := Recovery.Sample.worked_serves 1 (by decide +kernel)
  obtain ⟨outcome, ended, recovery⟩ := Recovery.Sample.recovered_serves 1 (by decide +kernel)
  obtain ⟨result, same, admissible⟩ := always 1 worked _ _ outcome (by decide) published recovery
  subst same
  have refused : isAdmissible ((Recovery.Sample.after 1).lookup "m") = false := by decide +kernel
  rw [admissible (Recovery.Sample.terminal_of_found (by decide +kernel) ended)] at refused
  cases refused

end FuseControlPlane.Reliability
