/-
Restart manifests only move forward.

Any number of calls publish manifests to one path, one file-system call at a time, in any order; a call
that takes no more steps has crashed.

* `Forward`: the contents of the file only move forward, are never partial, and, when no lock is left,
  are those of a publication that released it; a call that a check rejected has changed nothing.
* `manifests_forward`: this holds in every run in which no state names a member of `Object.prototype`.
* `manifest_rank_lost`: a run with such a state, in which the file goes back to an earlier state.
-/

import FuseControlPlane.Evidence.PublicationOrder

set_option linter.unusedSectionVars false

namespace FuseControlPlane.Evidence

open Foundation Foundation.JavaScript Program

/-! ### Worlds of publications -/

section Worlds

variable {ι : Type} [DecidableEq ι] [NodeCrypto] [Collation]

/-- A file system and the publications to one path. -/
abbrev ManifestWorld (ι : Type) := World FileCall FileSystem ManifestError Unit ι

/-- Nothing but the publications touches the file system. -/
def untouched (_ _ : FileSystem) : Prop := False

/-- All publications at their beginning. -/
def beginning (path : String) (values : ι → DurableManifest) (files : FileSystem) : ManifestWorld ι :=
  World.start files fun name => publishManifestDurably path (values name)

/-- Reachable in any order of steps. -/
abbrev Published (earlier later : ManifestWorld ι) : Prop :=
  World.Reachable FileSystem.Answers untouched earlier later

/-- A manifest that comes next: the sequence is one higher, the state further on. -/
def Raises (old new : DurableManifest) : Prop :=
  new.sequence = old.sequence + 1 ∧ old.state ≠ "terminal" ∧ ∃ lower higher,
    manifestStateRank old.state = .number lower ∧ manifestStateRank new.state = .number higher ∧
      lower < higher

/-- Manifests move forward. -/
structure Forward (path : String) (values : ι → DurableManifest) (world : ManifestWorld ι) : Prop where
  /-- A change is one call's link or rename; it puts a manifest where there was none, or the next one. -/
  changes : ∀ after, World.Step FileSystem.Answers untouched world after →
    after.store.lookup path ≠ world.store.lookup path → ∃ name event,
      (after.process name).history = (world.process name).history ++ [event] ∧
      isPublication event = true ∧ after.store.lookup path = some (bytesOf (values name)) ∧
      (world.store.lookup path = none ∨
        ∃ old, world.store.lookup path = some (bytesOf (values old)) ∧
          Raises (values old) (values name))
  /-- A terminal manifest stays. -/
  terminal : ∀ name later, (values name).state = "terminal" →
    world.store.lookup path = some (bytesOf (values name)) → Published world later →
    later.store.lookup path = some (bytesOf (values name))
  /-- A call that a check rejected has changed nothing. -/
  rejected : ∀ name error, (world.process name).program = .fail error → error.isCheck = true →
    ∀ event ∈ (world.process name).history, isPublication event = false
  /-- The file is never partially written. -/
  whole : ∀ text, world.store.lookup path = some text → ∃ name, text = bytesOf (values name)
  /-- Without a lock, the file holds the text of a publication that removed it. -/
  unlocked : world.store.names (lockPathOf path) = none → ∀ text,
    world.store.lookup path = some text → ∃ name, text = bytesOf (values name) ∧
      ∃ event ∈ (world.process name).history, isUnlock path event = true

/-! ### They move forward -/

variable {path : String} {values : ι → DurableManifest} {files : FileSystem} {world : ManifestWorld ι}

/-- The publications of a reachable world are in order, and go on from their stages. -/
theorem orderly_reachable (absent : files.names path = none)
    (reached : Published (beginning path values files) world) :
    ∃ publishers : ι → Publisher, Orderly path values world.store publishers ∧ ∀ name,
      phaseAfter (reactManifest path (values name)) .idle (world.process name).history =
        some (publishers name) ∧
      Keeps (reactManifest path (values name)) Concludes (publishers name)
        (world.process name).program := by
  refine World.Reachable.machines reached (fun name => publish_keeps path (values name)) ?_ ?_ ?_
  · refine ⟨fun _ _ inside => ?_, fun _ inside => ?_, fun _ _ drawn => ?_, fun _ => trivial,
      fun text holds => ?_⟩
    · cases inside
    · cases inside
    · cases drawn
    · rw [FileSystem.lookup, absent] at holds
      cases holds
  · exact fun _ _ _ _ moved => moved.elim
  · exact fun store after phases name β effect reply later orderly answered reacted =>
      (orderly.called answered reacted).1

/-- What a step does to the file. -/
theorem puts_of_step {after : ManifestWorld ι} (absent : files.names path = none)
    (reached : Published (beginning path values files) world)
    (taken : World.Step FileSystem.Answers untouched world after) :
    ∃ name event, (after.process name).history = (world.process name).history ++ [event] ∧
      Puts path values name event world.store after.store := by
  obtain ⟨publishers, orderly, keeps⟩ := orderly_reachable absent reached
  cases taken with
  | move after moved => exact moved.elim
  | call name effect next reply after here answered =>
    obtain ⟨_, ⟨settles⟩⟩ := keeps name
    rw [here] at settles
    obtain ⟨later, reacted, _⟩ := Settles.call_iff.mp settles reply
    refine ⟨name, ⟨effect, reply⟩, ?_, (orderly.called answered reacted).2⟩
    simp only [Function.update_self]

theorem raises_of_check {old new : DurableManifest} (ordinary_old : objectPrototype old.state = none)
    (ordinary_new : objectPrototype new.state = none) (publishable_old : isPublishable old = true)
    (publishable_new : isPublishable new = true)
    (passed : checkTransition new old.parsed = .ok ()) : Raises old new := by
  have ranked : ∀ value : DurableManifest, objectPrototype value.state = none →
      isPublishable value = true → ∃ rank, manifestStateRank value.state = .number rank := by
    intro value ordinary publishable
    rw [isPublishable, Bool.and_eq_true, bne_iff_ne] at publishable
    have defined := publishable.2
    rw [manifestStateRank, memberOf] at defined ⊢
    cases found : List.lookup value.state
        [("claimed", 0), ("admission_started", 1), ("awaiting_outcome", 2), ("terminal", 3)] with
    | some rank => exact ⟨rank, rfl⟩
    | none =>
      rw [found, ordinary] at defined
      exact absurd rfl defined
  obtain ⟨notTerminal, next, higher⟩ := checkTransition_ok passed
  obtain ⟨lower, rank_old⟩ := ranked old ordinary_old publishable_old
  obtain ⟨upper, rank_new⟩ := ranked new ordinary_new publishable_new
  refine ⟨next, notTerminal, lower, upper, rank_old, rank_new, ?_⟩
  rw [rank_old, rank_new] at higher
  exact Nat.not_le.mp (of_decide_eq_false higher)

/-- A terminal manifest is not replaced. -/
theorem terminal_stays {name : ι} {later : ManifestWorld ι} (absent : files.names path = none)
    (reached : Published (beginning path values files) world)
    (terminal : (values name).state = "terminal")
    (holds : world.store.lookup path = some (bytesOf (values name)))
    (onward : Published world later) :
    later.store.lookup path = some (bytesOf (values name)) := by
  induction onward with
  | refl => exact holds
  | step earlier taken ih =>
    obtain ⟨writer, event, _, same | ⟨_, _, _, cause⟩⟩ :=
      puts_of_step absent (reached.trans earlier) taken
    · exact same.trans ih
    · rcases cause with nothing | ⟨old, _, there, passed⟩
      · rw [ih] at nothing
        cases nothing
      · have same : bytesOf (values old) = bytesOf (values name) :=
          Option.some.inj (there.symm.trans ih)
        have state := state_of_bytesOf same
        exact absurd (state.trans terminal) (checkTransition_ok passed).1

/-- **Restart manifests only move forward**, in every run in which no state names a member of
`Object.prototype`. -/
theorem manifests_forward (path : String) (values : ι → DurableManifest) (files : FileSystem)
    (absent : files.names path = none)
    (ordinary : ∀ name, objectPrototype (values name).state = none) (world : ManifestWorld ι)
    (reached : Published (beginning path values files) world) : Forward path values world := by
  obtain ⟨publishers, orderly, keeps⟩ := orderly_reachable absent reached
  refine ⟨fun after taken changed => ?_, fun name later terminal holds onward =>
    terminal_stays absent reached terminal holds onward, fun name error failed check event member => ?_,
    fun text holds => ?_, fun free text holds => ?_⟩
  · obtain ⟨name, event, extended, same | ⟨took, publishable, put, cause⟩⟩ :=
      puts_of_step absent reached taken
    · exact absurd same changed
    · refine ⟨name, event, extended, took, put, cause.imp_right ?_⟩
      rintro ⟨old, publishable_old, there, passed⟩
      exact ⟨old, there, raises_of_check (ordinary old) (ordinary name) publishable_old publishable
        passed⟩
  · obtain ⟨here, ⟨settles⟩⟩ := keeps name
    rw [failed] at settles
    have hidden : (publishers name).hasPublished = false := Settles.fail_iff.mp settles check
    by_contra took
    rw [Bool.not_eq_false] at took
    rw [hasPublished_of_history here ⟨event, member, took⟩] at hidden
    cases hidden
  · obtain ⟨name, bytes, _, _⟩ := orderly.held text holds
    exact ⟨name, bytes⟩
  · obtain ⟨name, bytes, _, published⟩ := orderly.held text holds
    have outside : (publishers name).isInside = false := by
      by_contra inside
      exact orderly.locked name (Bool.not_eq_false _ ▸ inside) free
    have released : (publishers name).stage = .released := by
      cases here : publishers name with
      | mk temporary stage =>
        rw [here] at published outside
        cases stage with
        | released => rfl
        | published => cases outside
        | _ => cases published
    exact ⟨name, bytes, isUnlock_of_history (keeps name).1 released⟩

end Worlds

/-! ### Sample publications -/

namespace Sample

/-- A collation by code units. -/
abbrev collation : Collation where
  localeCompare first second :=
    if first = second then 0 else if codeUnits first ≤ codeUnits second then -1 else 1

/-- A digest. -/
abbrev crypto : NodeCrypto where
  sha256 text := text

/-- The manifest of a worker, then one of a later state, then the first state again. -/
def manifests (middle : String) : Fin 3 → DurableManifest
  | 0 => .bare "claimed" 1
  | 1 => .bare middle 2
  | 2 => .bare "claimed" 3

/-- The publications after a schedule. -/
def after (middle : String) (schedule : List (Fin 3)) : ManifestWorld (Fin 3) :=
  let _ := collation
  let _ := crypto
  (beginning "m" (manifests middle) FileSystem.empty).drive (FileSystem.perform "0") schedule

/-- The first publication runs to its end, the second up to its `rename`. -/
def schedule : List (Fin 3) := List.replicate 40 0 ++ List.replicate 18 1

/-- All three publications run to their end. -/
def everything : List (Fin 3) := List.replicate 40 0 ++ List.replicate 40 1 ++ List.replicate 40 2

theorem after_reachable (middle : String) (schedule : List (Fin 3)) :
    letI := collation
    letI := crypto
    Published (beginning "m" (manifests middle) FileSystem.empty) (after middle schedule) :=
  World.drive_reachable (fun files effect => FileSystem.perform_truthful "0" files effect) _ _

/-- The next call of the second publication is a step. -/
theorem renamed_step :
    letI := collation
    letI := crypto
    World.Step FileSystem.Answers untouched (after "constructor" schedule)
      ((after "constructor" schedule).advance (FileSystem.perform "0") 1) :=
  World.advance_step (fun files effect => FileSystem.perform_truthful "0" files effect) _ _
    (by decide +kernel)

theorem claimed_before :
    letI := collation
    letI := crypto
    (after "constructor" schedule).store.lookup "m" = some (bytesOf (.bare "claimed" 1)) := by
  decide +kernel

theorem constructor_after :
    letI := collation
    letI := crypto
    ((after "constructor" schedule).advance (FileSystem.perform "0") 1).store.lookup "m" =
      some (bytesOf (.bare "constructor" 2)) := by
  decide +kernel

end Sample

/-- The first two publications of a worker, and what they leave. -/
theorem manifests_forward_advanced :
    letI := Sample.collation
    letI := Sample.crypto
    Forward "m" (Sample.manifests "admission_started")
      (Sample.after "admission_started" (Sample.schedule ++ [1])) :=
  letI := Sample.collation
  letI := Sample.crypto
  manifests_forward "m" (Sample.manifests "admission_started") FileSystem.empty rfl
    (by decide) _ (Sample.after_reachable _ _)

/-- `manifestStateRank` has a member `constructor`, so a publication of this state passes every check;
then the file may go back to an earlier state. -/
theorem manifest_rank_lost :
    letI := Sample.collation
    letI := Sample.crypto
    (¬ ∀ world, Published (beginning "m" (Sample.manifests "constructor") FileSystem.empty) world →
      Forward "m" (Sample.manifests "constructor") world) ∧
    (Sample.after "constructor" Sample.schedule).store.lookup "m" =
      some (bytesOf (.bare "claimed" 1)) ∧
    (Sample.after "constructor" Sample.everything).store.lookup "m" =
      some (bytesOf (.bare "claimed" 3)) := by
  let _ := Sample.collation
  let _ := Sample.crypto
  refine ⟨fun always => ?_, Sample.claimed_before, by decide +kernel⟩
  have forward := always _ (Sample.after_reachable "constructor" Sample.schedule)
  have changed : ((Sample.after "constructor" Sample.schedule).advance
      (FileSystem.perform "0") 1).store.lookup "m" ≠
      (Sample.after "constructor" Sample.schedule).store.lookup "m" := by
    rw [Sample.claimed_before, Sample.constructor_after]
    intro same
    have state := state_of_bytesOf (Option.some.inj same)
    exact absurd state (by decide)
  obtain ⟨name, event, _, _, put, nothing | ⟨old, _, raises⟩⟩ :=
    forward.changes _ Sample.renamed_step changed
  · rw [Sample.claimed_before] at nothing
    cases nothing
  · rw [Sample.constructor_after] at put
    have state := state_of_bytesOf (Option.some.inj put)
    obtain ⟨_, _, lower, higher, _, rank, _⟩ := raises
    rw [← state] at rank
    cases rank

end FuseControlPlane.Evidence
