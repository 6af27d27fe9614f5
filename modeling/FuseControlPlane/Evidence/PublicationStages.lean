/-
How a publication goes on, call by call.

* `Stage`, `nextStage`: how far a publication has come, and how its calls move it on.
* `publish_keeps`: **every publication follows these stages**; a resolved one has released the lock,
  and one that a check rejected has not changed the file.
* `hasPublished_of_history`, `isUnlock_of_history`: what the calls made so far tell of the stage.
-/

import FuseControlPlane.Evidence.ManifestPublication
import Mathlib.Data.List.Induction

set_option linter.unusedSectionVars false

namespace FuseControlPlane.Evidence

open Foundation Foundation.JavaScript Program

/-! ### Stages of a publication -/

/-- How far a publication has come. -/
inductive Stage
  /-- It does not hold the lock. -/
  | outside
  | locked (lock : ℕ)
  /-- The temporary file exists. -/
  | writing (file : ℕ)
  /-- The temporary file holds the whole text. -/
  | written (file : ℕ)
  /-- It reads what is there. -/
  | opened (file reading : ℕ)
  /-- It knows what is there. -/
  | compared (file : ℕ) (existing : Option String)
  | published
  | released
  deriving DecidableEq

/-- A publication: its temporary name, once drawn, and its stage. -/
structure Publisher where
  temporary : Option String
  stage : Stage
  deriving DecidableEq

namespace Publisher

/-- It has taken the lock and not released it. -/
def isInside (publisher : Publisher) : Bool :=
  match publisher.stage with
  | .outside => false
  | .released => false
  | _ => true

/-- It has put its text into the file, or found it there. -/
def hasPublished (publisher : Publisher) : Bool :=
  match publisher.stage with
  | .published => true
  | .released => true
  | _ => false

/-- A publication that has made no call. -/
def idle : Publisher := ⟨none, .outside⟩

end Publisher

section Protocol

variable [NodeCrypto] [Collation] (path : String) (value : DurableManifest)

/-- The text the file holds may be replaced. -/
def replaces (text : String) : Bool :=
  match Json.parse text with
  | some existing => (checkTransition value existing).isOk
  | none => false

/-- The stage after a call. -/
def nextStage (temporary : Option String) (stage : Stage) : Event FileCall → Option Stage
  | ⟨.openNew name, reply⟩ =>
    match stage, reply with
    | .outside, .ok lock => if name = lockPathOf path then some (.locked lock) else none
    | .outside, .error _ => if name = lockPathOf path then some .outside else none
    | .locked _, .ok file => if temporary = some name then some (.writing file) else none
    | .locked lock, .error _ => if temporary = some name then some (.locked lock) else none
    | _, _ => none
  | ⟨.beginWrite handle, _⟩ =>
    match stage with
    | .locked lock => if handle = lock then some stage else none
    | .writing file => if handle = file then some stage else none
    | _ => none
  | ⟨.finishWrite handle text, reply⟩ =>
    match stage, reply with
    | .locked lock, _ => if handle = lock then some stage else none
    | .writing file, .ok () =>
      if handle = file ∧ text = bytesOf value then some (.written file) else none
    | .writing file, .error _ => if handle = file then some stage else none
    | _, _ => none
  | ⟨.openRead name, reply⟩ =>
    match stage, reply with
    | .written file, .ok reading => if name = path then some (.opened file reading) else none
    | .written file, .error .missing => if name = path then some (.compared file none) else none
    | .written _, .error _ => some stage
    | .compared _ _, _ => some stage
    | _, _ => none
  | ⟨.read handle, reply⟩ =>
    match stage, reply with
    | .opened file reading, .ok text =>
      if handle = reading then some (.compared file (some text)) else none
    | .opened file _, .error .missing => some (.compared file none)
    | .opened _ _, .error _ => some stage
    | .compared _ _, _ => some stage
    | _, _ => none
  | ⟨.link source destination, reply⟩ =>
    match stage, reply with
    | .compared _ none, .ok () =>
      if temporary = some source ∧ destination = path then some .published else none
    | .compared _ none, .error _ =>
      if temporary = some source ∧ destination = path then some stage else none
    | _, _ => none
  | ⟨.rename source destination, reply⟩ =>
    match stage, reply with
    | .compared _ (some text), .ok () =>
      if temporary = some source ∧ destination = path ∧ replaces value text = true then
        some .published
      else none
    | .compared _ (some text), .error _ =>
      if temporary = some source ∧ destination = path ∧ replaces value text = true then some stage
      else none
    | _, _ => none
  | ⟨.unlink name, reply⟩ =>
    match stage, reply with
    | .published, .ok () => if name = lockPathOf path then some .released else none
    | .published, .error _ => if name = lockPathOf path then some stage else none
    | .compared _ (some text), .ok () =>
      if name = lockPathOf path ∧ text = bytesOf value then some .released else none
    | .compared _ (some text), .error _ =>
      if name = lockPathOf path ∧ text = bytesOf value then some stage else none
    | _, _ => none
  | ⟨.remove name, _⟩ => if temporary = some name then some stage else none
  | _ => some stage

/-- A publication after a call. -/
def reactManifest (publisher : Publisher) : Event FileCall → Option Publisher
  | ⟨.draw, text⟩ =>
    if publisher = .idle ∧ isPublishable value = true then
      some ⟨some (temporaryOf path text), .outside⟩
    else none
  | event => (nextStage path value publisher.temporary publisher.stage event).map
      (⟨publisher.temporary, ·⟩)

end Protocol

/-! ### Every publication follows the stages -/

section Publications

variable [NodeCrypto] [Collation] {path : String} {value : DurableManifest} {temporary : String}
  {stage : Stage} {lock file : ℕ}

attribute [local simp] nextStage reactManifest

theorem steady_manifest (publisher : Publisher) : Steady (reactManifest path value) publisher where
  sync _ _ := rfl
  close _ _ := rfl
  openDirectory _ := rfl

/-- A part of a publication ends in a stage; a check that fails leaves the file as it is. -/
def Ends {α : Type} (temporary : String) (reached : α → Stage → Prop)
    (result : Except Interrupted α) (publisher : Publisher) : Prop :=
  publisher.temporary = some temporary ∧
    match result with
    | .ok value => reached value publisher.stage
    | .error failed => failed.error.isCheck = true → publisher.hasPublished = false

theorem ends_file {α : Type} {reached : α → Stage → Prop} (error : FileError) :
    Ends temporary reached (.error (.file lock error)) ⟨some temporary, stage⟩ :=
  ⟨rfl, fun check => by cases check⟩

/-- A call that leaves the stage, in the middle of a publication. -/
theorem keeps_stay {α β : Type} {reached : β → Stage → Prop}
    {effect : FileCall (Except FileError α)} {second : α → Program FileCall Interrupted β}
    (stays : ∀ reply, reactManifest path value ⟨some temporary, stage⟩ ⟨effect, reply⟩ =
      some ⟨some temporary, stage⟩)
    (returned : ∀ reply, Keeps (reactManifest path value) (Ends temporary reached)
      ⟨some temporary, stage⟩ (second reply)) :
    Keeps (reactManifest path value) (Ends temporary reached) ⟨some temporary, stage⟩
      (awaitFile (.file lock) effect >>= second) :=
  keeps_awaitFile (fun reply => ⟨_, stays _, returned reply⟩) fun error =>
    ⟨_, stays _, ends_file error⟩

theorem writeLock_keeps (bytes : String) : Keeps (reactManifest path value)
    (Ends temporary fun _ later => later = .locked lock) ⟨some temporary, .locked lock⟩
    (writeLock path bytes lock) := by
  have threw : ∀ (error : FileError) (failed : Interrupted),
      (.error (.file lock error) : Except Interrupted Unit) = .error failed →
      failed.error.isCheck = false := by
    rintro error failed same
    cases same
    rfl
  have wrote : Keeps (reactManifest path value)
      (fun (result : Except Interrupted Unit) later => later = ⟨some temporary, .locked lock⟩ ∧
        ∀ failed : Interrupted, result = .error failed → failed.error.isCheck = false)
      ⟨some temporary, .locked lock⟩ (do
        writeFile (Interrupted.file lock) lock (lockText path bytes)
        awaitFile (Interrupted.file lock) (.sync lock)) := by
    refine .call fun _ => ⟨⟨some temporary, .locked lock⟩, by simp, ?_⟩
    refine keeps_awaitFile (fun _ => ⟨⟨some temporary, .locked lock⟩, ?_, ?_⟩)
      fun error => ⟨⟨some temporary, .locked lock⟩, ?_, rfl, threw error⟩
    · simp
    · exact keeps_lastFile (fun _ => ⟨_, rfl, rfl, fun _ same => by cases same⟩)
        fun error => ⟨_, rfl, rfl, threw error⟩
    · simp
  refine wrote.tryCatch (fun _ later ⟨same, _⟩ => ?_) fun failed later ⟨same, ordinary⟩ => ?_
  · subst same
    exact ⟨rfl, rfl⟩
  · subst same
    exact keeps_stay (fun _ => rfl) fun _ => .fail ⟨rfl, fun _ => rfl⟩

theorem writeTemporary_keeps : Keeps (reactManifest path value)
    (Ends temporary fun _ later => ∃ file, later = .written file) ⟨some temporary, .locked lock⟩
    (writeTemporary temporary (bytesOf value) lock) := by
  refine keeps_awaitFile (fun file => ⟨⟨some temporary, .writing file⟩, ?_, ?_⟩)
    fun error => ⟨⟨some temporary, .locked lock⟩, ?_, ends_file error⟩
  · simp
  · rw [← bind_pure (tryFinally _ _), tryFinally_bind]
    have wrote : Keeps (reactManifest path value)
        (Ends temporary fun _ later => later = .written file) ⟨some temporary, .writing file⟩ (do
          writeFile (.file lock) file (bytesOf value)
          awaitFile (.file lock) (.sync file)) := by
      refine .call fun _ => ⟨⟨some temporary, .writing file⟩, by simp, ?_⟩
      refine keeps_awaitFile (fun _ => ⟨⟨some temporary, .written file⟩, ?_, ?_⟩)
        fun error => ⟨⟨some temporary, .writing file⟩, ?_, ends_file error⟩
      · simp
      · exact keeps_lastFile (fun _ => ⟨_, rfl, rfl, rfl⟩) fun error => ⟨_, rfl, ends_file error⟩
      · simp
    refine wrote.attempt fun result later ⟨named, reached⟩ => ?_
    obtain ⟨name, stage⟩ := later
    cases named
    refine keeps_stay (fun _ => rfl) fun _ => ?_
    cases result with
    | ok _ => exact .done ⟨rfl, file, reached⟩
    | error failed => exact .fail ⟨rfl, reached⟩
  · simp

/-- The stage once the file has been read. -/
def Found (file : ℕ) (result : Except FileError String) (stage : Stage) : Prop :=
  match result with
  | .ok text => stage = .compared file (some text)
  | .error .missing => stage = .compared file none
  | .error _ => True

theorem readExisting_keeps : Keeps (reactManifest path value)
    (Ends temporary fun existing later => later = .compared file existing)
    ⟨some temporary, .written file⟩ (readExisting path lock) := by
  have read : Keeps (reactManifest path value)
      (fun result later => later.temporary = some temporary ∧ Found file result later.stage)
      ⟨some temporary, .written file⟩ (readFile id path) := by
    refine keeps_awaitFile (fun reading => ⟨⟨some temporary, .opened file reading⟩, ?_, ?_⟩)
      fun error => ?_
    · simp
    · refine keeps_lastFile (fun text => ⟨⟨some temporary, .compared file (some text)⟩, ?_, rfl, rfl⟩)
        fun error => ?_
      · simp
      · cases error with
        | missing => exact ⟨⟨some temporary, .compared file none⟩, rfl, rfl, rfl⟩
        | taken => exact ⟨_, rfl, rfl, trivial⟩
        | other message => exact ⟨_, rfl, rfl, trivial⟩
    · cases error with
      | missing => exact ⟨⟨some temporary, .compared file none⟩, by simp, rfl, rfl⟩
      | taken => exact ⟨_, rfl, rfl, trivial⟩
      | other message => exact ⟨_, rfl, rfl, trivial⟩
  refine read.attempt fun result later ⟨named, reached⟩ => ?_
  obtain ⟨name, stage⟩ := later
  cases named
  cases result with
  | ok text => exact .done ⟨rfl, reached⟩
  | error error =>
    cases error with
    | missing => exact .done ⟨rfl, reached⟩
    | taken => exact .fail (ends_file _)
    | other message => exact .fail (ends_file _)

theorem createManifest_keeps : Keeps (reactManifest path value)
    (Ends temporary fun _ later => later = .published) ⟨some temporary, .compared file none⟩
    (createManifest path temporary lock) := by
  refine .call fun reply => ?_
  cases reply with
  | ok _ => exact ⟨⟨some temporary, .published⟩, by simp, .done ⟨rfl, rfl⟩⟩
  | error error =>
    refine ⟨⟨some temporary, .compared file none⟩, by simp, ?_⟩
    cases error with
    | taken => exact .fail ⟨rfl, fun _ => rfl⟩
    | missing => exact .fail (ends_file _)
    | other message => exact .fail (ends_file _)

theorem replaceManifest_keeps (existingBytes : String) : Keeps (reactManifest path value)
    (Ends temporary fun _ later => later = .published)
    ⟨some temporary, .compared file (some existingBytes)⟩
    (replaceManifest path temporary existingBytes value lock) := by
  refine .orThrow (fun existing parsed => ?_) fun _ => ⟨rfl, fun _ => rfl⟩
  refine .fromExcept (fun _ passed => ?_) fun failed thrown => ⟨rfl, fun _ => rfl⟩
  have allowed : replaces value existingBytes = true := by
    rw [replaces, parsed]
    rw [Program.mapError_eq_ok] at passed
    simp only [passed]
    rfl
  rw [readFile, bind_assoc]
  refine keeps_stay (fun _ => rfl) fun reading => keeps_stay (fun _ => rfl) fun again => ?_
  refine .throwUnless (fun _ => ?_) fun _ => ⟨rfl, fun _ => rfl⟩
  refine keeps_lastFile (fun _ => ⟨⟨some temporary, .published⟩, ?_, rfl, rfl⟩)
    fun error => ⟨⟨some temporary, .compared file (some existingBytes)⟩, ?_, ends_file error⟩
  · simp [allowed]
  · simp [allowed]

/-- The publication may release the lock: its text is in the file. -/
def Stage.mayRelease (value : DurableManifest) (stage : Stage) : Prop :=
  stage = .published ∨ ∃ file, stage = .compared file (some (bytesOf value))

theorem placeManifest_keeps : Keeps (reactManifest path value)
    (Ends temporary fun _ later => later.mayRelease value) ⟨some temporary, .written file⟩
    (placeManifest path temporary value lock) := by
  refine readExisting_keeps.bind (fun existing later ⟨named, reached⟩ => ?_)
    fun failed later ended => ended
  obtain ⟨name, stage⟩ := later
  cases named
  cases reached
  have synced : Keeps (reactManifest path value)
      (Ends temporary fun (_ : Unit) later => later.mayRelease value) ⟨some temporary, .published⟩
      (syncDirectory (Interrupted.file lock)) := by
    rw [← bind_pure (syncDirectory (Interrupted.file lock))]
    exact keeps_syncDirectory (steady_manifest _) (.done ⟨rfl, .inl rfl⟩) fun error => ends_file error
  cases existing with
  | none =>
    refine createManifest_keeps.bind (fun _ later ⟨named, reached⟩ => ?_) fun failed later ended => ended
    obtain ⟨name, stage⟩ := later
    cases named
    cases reached
    exact synced
  | some existingBytes =>
    by_cases same : existingBytes = bytesOf value
    · simp only [if_pos same]
      exact .done ⟨rfl, .inr ⟨file, by rw [same]⟩⟩
    · simp only [if_neg same]
      refine (replaceManifest_keeps existingBytes).bind (fun _ later ⟨named, reached⟩ => ?_)
        fun failed later ended => ended
      obtain ⟨name, stage⟩ := later
      cases named
      cases reached
      exact synced

theorem publishLocked_keeps : Keeps (reactManifest path value)
    (Ends temporary fun _ later => later.mayRelease value) ⟨some temporary, .locked lock⟩
    (publishLocked path temporary value lock) := by
  refine (writeLock_keeps (bytesOf value)).bind (fun _ later ⟨named, reached⟩ => ?_)
    fun failed later ended => ended
  obtain ⟨name, stage⟩ := later
  cases named
  cases reached
  refine keeps_syncDirectory (steady_manifest _) ?_ fun error => ends_file error
  refine writeTemporary_keeps.bind (fun _ later ⟨named, file, reached⟩ => ?_)
    fun failed later ended => ended
  obtain ⟨name, stage⟩ := later
  cases named
  cases reached
  exact placeManifest_keeps

/-- How a publication ends: a resolved one has released the lock, and one that a check rejected has
not changed the file. -/
def Concludes (result : Except ManifestError Unit) (publisher : Publisher) : Prop :=
  match result with
  | .ok () => publisher.stage = .released
  | .error error => error.isCheck = true → publisher.hasPublished = false

theorem releaseLock_keeps (may : stage.mayRelease value) :
    Keeps (reactManifest path value) Concludes ⟨some temporary, stage⟩
      (releaseLock (lockPathOf path) lock) := by
  have ordinary : ∀ (error : FileError) (publisher : Publisher),
      Concludes (.error (.file error)) publisher := fun error publisher check => by cases check
  refine keeps_syncDirectory (steady_manifest _) ?_ fun error => ordinary error _
  refine keeps_awaitFile (fun _ => ⟨⟨some temporary, stage⟩, rfl, ?_⟩)
    fun error => ⟨⟨some temporary, stage⟩, rfl, ordinary error _⟩
  have released : Keeps (reactManifest path value) Concludes ⟨some temporary, .released⟩
      (syncDirectory ManifestError.file) := by
    rw [← bind_pure (syncDirectory ManifestError.file)]
    exact keeps_syncDirectory (steady_manifest _) (.done rfl) fun error => ordinary error _
  refine keeps_awaitFile (fun _ => ⟨⟨some temporary, .released⟩, ?_, released⟩)
    fun error => ⟨⟨some temporary, stage⟩, ?_, ordinary error _⟩
  · rcases may with rfl | ⟨file, rfl⟩ <;> simp
  · rcases may with rfl | ⟨file, rfl⟩ <;> simp

/-- **Every publication follows the stages.** -/
theorem publish_keeps (path : String) (value : DurableManifest) :
    Keeps (reactManifest path value) Concludes .idle (publishManifestDurably path value) := by
  have ordinary : ∀ (error : FileError) (publisher : Publisher),
      Concludes (.error (.file error)) publisher := fun error publisher check => by cases check
  refine .throwUnless (fun publishable => ?_) fun _ _ => rfl
  refine keeps_awaitFile (fun _ => ⟨.idle, rfl, ?_⟩) fun error => ⟨.idle, rfl, ordinary error _⟩
  refine .call fun text => ⟨⟨some (temporaryOf path text), .outside⟩, ?_, .call fun reply => ?_⟩
  · simp [publishable]
  cases reply with
  | error error =>
    refine ⟨⟨some (temporaryOf path text), .outside⟩, by simp, ?_⟩
    refine keeps_awaitFile (fun _ => ⟨⟨some (temporaryOf path text), .outside⟩, ?_, ?_⟩)
      fun error => ⟨⟨some (temporaryOf path text), .outside⟩, ?_, ordinary error _⟩
    · simp
    · exact .fail fun _ => rfl
    · simp
  | ok lock =>
    refine ⟨⟨some (temporaryOf path text), .locked lock⟩, by simp, ?_⟩
    refine publishLocked_keeps.attempt fun result later ⟨named, reached⟩ => ?_
    obtain ⟨name, stage⟩ := later
    cases named
    refine keeps_awaitFile (fun _ => ⟨⟨some (temporaryOf path text), stage⟩, ?_, ?_⟩)
      fun error => ⟨⟨some (temporaryOf path text), stage⟩, ?_, ordinary error _⟩
    · simp
    · cases result with
      | ok _ => exact releaseLock_keeps reached
      | error failed =>
        by_cases open_ : failed.lock.isSome = true
        · simp only [if_pos open_]
          refine keeps_awaitFile (fun _ => ⟨⟨some (temporaryOf path text), stage⟩, rfl, ?_⟩)
            fun error => ⟨⟨some (temporaryOf path text), stage⟩, rfl, ordinary error _⟩
          exact .fail reached
        · simp only [if_neg open_]
          exact .fail reached
    · simp

end Publications

/-! ### What histories tell -/

section Histories

variable [NodeCrypto] [Collation] {path : String} {value : DurableManifest}
  {history : List (Event FileCall)} {publisher later : Publisher} {event : Event FileCall}

/-- A link or a rename that took effect. -/
def isPublication : Event FileCall → Bool
  | ⟨.link _ _, .ok ()⟩ => true
  | ⟨.rename _ _, .ok ()⟩ => true
  | _ => false

/-- The lock was removed. -/
def isUnlock (path : String) : Event FileCall → Bool
  | ⟨.unlink name, .ok ()⟩ => name == lockPathOf path
  | _ => false

/-- A publication that has published stays so. -/
theorem hasPublished_of_react (reacted : reactManifest path value publisher event = some later)
    (before : publisher.hasPublished = true ∨ isPublication event = true) :
    later.hasPublished = true := by
  obtain ⟨temporary, stage⟩ := publisher
  obtain ⟨effect, reply⟩ := event
  rcases before with shown | took
  · cases effect with
    | draw =>
      simp only [reactManifest] at reacted
      split at reacted
      · next start =>
        cases start.1
        cases shown
      · cases reacted
    | unlink name =>
      obtain ⟨next, moved, rfl⟩ := Option.map_eq_some_iff.mp reacted
      cases stage with
      | published =>
        cases reply <;> simp only [nextStage] at moved <;> split at moved <;> cases moved <;> rfl
      | released => cases moved
      | _ => cases shown
    | remove name =>
      obtain ⟨next, moved, rfl⟩ := Option.map_eq_some_iff.mp reacted
      simp only [nextStage] at moved
      split at moved
      · cases moved
        exact shown
      · cases moved
    | makeDirectory | sync _ | close _ | openDirectory =>
      cases reacted
      exact shown
    | _ =>
      obtain ⟨next, moved, rfl⟩ := Option.map_eq_some_iff.mp reacted
      cases stage with
      | published | released => cases moved
      | _ => cases shown
  · cases effect with
    | link source destination | rename source destination =>
      obtain ⟨next, moved, rfl⟩ := Option.map_eq_some_iff.mp reacted
      cases reply with
      | error _ => cases took
      | ok _ =>
        cases stage with
        | compared file existing =>
          cases existing with
          | none | some text =>
            simp only [nextStage] at moved
            first
            | cases moved
            | split at moved <;> cases moved
              rfl
        | _ => cases moved
    | _ => cases took

/-- The lock is removed in the step to `released`. -/
theorem isUnlock_of_react (reacted : reactManifest path value publisher event = some later)
    (released : later.stage = .released) :
    publisher.stage = .released ∨ isUnlock path event = true := by
  obtain ⟨temporary, stage⟩ := publisher
  obtain ⟨effect, reply⟩ := event
  cases effect with
  | draw =>
    simp only [reactManifest] at reacted
    split at reacted
    · cases reacted
      cases released
    · cases reacted
  | unlink name =>
    obtain ⟨next, moved, rfl⟩ := Option.map_eq_some_iff.mp reacted
    cases released
    refine .inr ?_
    cases stage with
    | published =>
      cases reply <;> simp only [nextStage] at moved <;> split at moved <;> cases moved
      next same => exact beq_iff_eq.mpr same
    | compared file existing =>
      cases existing with
      | none => cases moved
      | some text =>
        cases reply <;> simp only [nextStage] at moved <;> split at moved <;> cases moved
        next same => exact beq_iff_eq.mpr same.1
    | _ => cases moved
  | makeDirectory | sync _ | close _ | openDirectory =>
    cases reacted
    exact .inl released
  | remove name =>
    obtain ⟨next, moved, rfl⟩ := Option.map_eq_some_iff.mp reacted
    simp only [nextStage] at moved
    split at moved
    · cases moved
      exact .inl released
    · cases moved
  | _ =>
    obtain ⟨next, moved, rfl⟩ := Option.map_eq_some_iff.mp reacted
    cases released
    simp only [nextStage] at moved
    repeat' split at moved
    all_goals cases moved

theorem hasPublished_of_history
    (here : phaseAfter (reactManifest path value) .idle history = some publisher)
    (took : ∃ event ∈ history, isPublication event = true) : publisher.hasPublished = true := by
  induction history using List.reverseRecOn generalizing publisher with
  | nil =>
    obtain ⟨event, member, _⟩ := took
    cases member
  | append_singleton earlier event ih =>
    obtain ⟨before, so_far, moved⟩ := phaseAfter_concat_inv _ here
    obtain ⟨other, member, published⟩ := took
    refine hasPublished_of_react moved ?_
    rcases List.mem_append.mp member with old | last
    · exact .inl (ih so_far ⟨other, old, published⟩)
    · cases List.mem_singleton.mp last
      exact .inr published

theorem isUnlock_of_history
    (here : phaseAfter (reactManifest path value) .idle history = some publisher)
    (released : publisher.stage = .released) : ∃ event ∈ history, isUnlock path event = true := by
  induction history using List.reverseRecOn generalizing publisher with
  | nil =>
    cases here
    cases released
  | append_singleton earlier event ih =>
    obtain ⟨before, so_far, moved⟩ := phaseAfter_concat_inv _ here
    rcases isUnlock_of_react moved released with old | unlocked
    · obtain ⟨other, member, unlocked⟩ := ih so_far old
      exact ⟨other, List.mem_append_left _ member, unlocked⟩
    · exact ⟨event, List.mem_append_right _ List.mem_cons_self, unlocked⟩

end Histories

end FuseControlPlane.Evidence
