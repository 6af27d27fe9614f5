/-
What a file system and the publications to one path keep.

* `Orderly`: at most one publication is between taking and releasing the lock; the file holds what some
  publication put there; the file a publication writes has no other name than its temporary one.
* `Puts`: what a call does to the file.
* `Orderly.called`: **every call keeps this**, and puts a whole text there or leaves the file.
-/

import FuseControlPlane.Evidence.PublicationStages

set_option linter.unusedSectionVars false

namespace FuseControlPlane.Evidence

open Foundation Foundation.JavaScript Program

/-! ### What the file system and the publications keep -/

section World

variable {ι : Type} [DecidableEq ι] [NodeCrypto] [Collation] {path : String}
  {values : ι → DurableManifest} {files after : FileSystem} {publishers : ι → Publisher}

/-- The file a publication writes has no name but its temporary one. -/
structure Own (path : String) (temporary : Option String) (file : ℕ) (files : FileSystem) : Prop where
  apart : files.names path ≠ some file
  named : ∀ name ∈ temporary, files.names name = none ∨ files.names name = some file

/-- What a publication knows of the file system. -/
def Knows (path : String) (value : DurableManifest) (files : FileSystem) (publisher : Publisher) :
    Prop :=
  match publisher.stage with
  | .outside => True
  | .locked lock => files.names path ≠ some lock
  | .writing file => Own path publisher.temporary file files
  | .written file => Own path publisher.temporary file files ∧ files.contents file = bytesOf value
  | .opened file reading => Own path publisher.temporary file files ∧
      files.contents file = bytesOf value ∧ files.names path = some reading
  | .compared file existing => Own path publisher.temporary file files ∧
      files.contents file = bytesOf value ∧ files.lookup path = existing
  | .published => True
  | .released => True

/-- The file system and the publications in order. -/
structure Orderly (path : String) (values : ι → DurableManifest) (files : FileSystem)
    (publishers : ι → Publisher) : Prop where
  exclusive : ∀ first second, (publishers first).isInside = true →
    (publishers second).isInside = true → first = second
  locked : ∀ name, (publishers name).isInside = true → files.names (lockPathOf path) ≠ none
  drawn : ∀ name temporary, (publishers name).temporary = some temporary →
    isPublishable (values name) = true ∧ ∃ text, temporary = temporaryOf path text
  knows : ∀ name, Knows path (values name) files (publishers name)
  held : ∀ text, files.lookup path = some text → ∃ name, text = bytesOf (values name) ∧
    isPublishable (values name) = true ∧ (publishers name).hasPublished = true

theorem knows_of_not_inside {value : DurableManifest} {publisher : Publisher}
    (apart : publisher.isInside = false) : Knows path value files publisher := by
  obtain ⟨temporary, stage⟩ := publisher
  cases stage with
  | outside | published | released => trivial
  | _ => cases apart

/-- A publication that is not the one inside knows nothing that may change. -/
theorem Orderly.knows_other (orderly : Orderly path values files publishers) {name other : ι}
    (inside : (publishers name).isInside = true) (ne : other ≠ name) :
    Knows path (values other) after (publishers other) := by
  refine knows_of_not_inside ?_
  by_contra also
  rw [Bool.not_eq_false] at also
  exact ne (orderly.exclusive other name also inside)

/-- A publication that stays inside or outside, without touching the file or the lock. -/
theorem Orderly.advance (orderly : Orderly path values files publishers) {name : ι}
    {later : Publisher} (file : after.lookup path = files.lookup path)
    (lock : after.names (lockPathOf path) = files.names (lockPathOf path))
    (inside : later.isInside = (publishers name).isInside)
    (drawn : ∀ temporary, later.temporary = some temporary →
      isPublishable (values name) = true ∧ ∃ text, temporary = temporaryOf path text)
    (shown : (publishers name).hasPublished = true → later.hasPublished = true)
    (knows : Knows path (values name) after later)
    (others : ∀ other, other ≠ name → Knows path (values other) after (publishers other)) :
    Orderly path values after (Function.update publishers name later) := by
  have same_inside : ∀ other, (Function.update publishers name later other).isInside =
      (publishers other).isInside := by
    intro other
    by_cases same : other = name
    · rw [same, Function.update_self, inside]
    · rw [Function.update_of_ne same]
  refine ⟨fun first second => ?_, fun other => ?_, fun other temporary => ?_, fun other => ?_,
    fun text holds => ?_⟩
  · rw [same_inside, same_inside]
    exact orderly.exclusive first second
  · rw [same_inside, lock]
    exact orderly.locked other
  · by_cases same : other = name
    · rw [same, Function.update_self]
      exact drawn temporary
    · rw [Function.update_of_ne same]
      exact orderly.drawn other temporary
  · by_cases same : other = name
    · rw [same, Function.update_self]
      exact knows
    · rw [Function.update_of_ne same]
      exact others other same
  · rw [file] at holds
    obtain ⟨owner, bytes, publishable, published⟩ := orderly.held text holds
    refine ⟨owner, bytes, publishable, ?_⟩
    by_cases same : owner = name
    · rw [same] at published ⊢
      rw [Function.update_self]
      exact shown published
    · rw [Function.update_of_ne same]
      exact published

/-- What a call does to the file: nothing, or it puts the text of its publication there. -/
def Puts (path : String) (values : ι → DurableManifest) (name : ι) (event : Event FileCall)
    (files after : FileSystem) : Prop :=
  after.lookup path = files.lookup path ∨
    (isPublication event = true ∧ isPublishable (values name) = true ∧
      after.lookup path = some (bytesOf (values name)) ∧
      (files.lookup path = none ∨ ∃ old, isPublishable (values old) = true ∧
        files.lookup path = some (bytesOf (values old)) ∧
        checkTransition (values name) (values old).parsed = .ok ()))

section Calls

variable {name : ι} {later : Publisher} (orderly : Orderly path values files publishers)
include orderly

theorem Orderly.apart_of_drawn {temporary : String}
    (drawn : (publishers name).temporary = some temporary) :
    temporary ≠ path ∧ temporary ≠ lockPathOf path := by
  obtain ⟨_, text, rfl⟩ := orderly.drawn name temporary drawn
  exact ⟨temporaryOf_ne_path path text, temporaryOf_ne_lockPathOf path text⟩

/-- A call that neither changes the file system nor the publication. -/
theorem Orderly.idle (name : ι) (event : Event FileCall) :
    Orderly path values files (Function.update publishers name (publishers name)) ∧
      Puts path values name event files files := by
  rw [Function.update_eq_self]
  exact ⟨orderly, .inl rfl⟩

/-- A call that only tells the publication something. -/
theorem Orderly.learn {temporary : Option String} {stage next : Stage} (event : Event FileCall)
    (here : publishers name = ⟨temporary, stage⟩) (inside : (Publisher.mk temporary stage).isInside = true)
    (going : (Publisher.mk temporary next).isInside = true)
    (shown : (Publisher.mk temporary stage).hasPublished = false)
    (knows : Knows path (values name) files ⟨temporary, next⟩) :
    Orderly path values files (Function.update publishers name ⟨temporary, next⟩) ∧
      Puts path values name event files files := by
  refine ⟨orderly.advance rfl rfl ?_ ?_ ?_ knows fun other ne => orderly.knows other, .inl rfl⟩
  · rw [here, inside, going]
  · have drawn := orderly.drawn name
    rw [here] at drawn
    exact drawn
  · rw [here, shown]
    intro impossible
    cases impossible

theorem Orderly.removed {temporary : String} (drawn : (publishers name).temporary = some temporary)
    (event : Event FileCall) :
    Orderly path values (files.dropName temporary)
      (Function.update publishers name (publishers name)) ∧
      Puts path values name event files (files.dropName temporary) := by
  obtain ⟨notPath, notLock⟩ := orderly.apart_of_drawn drawn
  have file := files.lookup_dropName notPath.symm
  have own : ∀ {own : Option String} {written : ℕ}, Own path own written files →
      Own path own written (files.dropName temporary) := by
    intro own written owned
    refine ⟨?_, fun other listed => ?_⟩
    · rw [files.names_dropName notPath.symm]
      exact owned.apart
    · by_cases same : other = temporary
      · exact .inl (by rw [same, files.names_dropName_self])
      · rw [files.names_dropName same]
        exact owned.named other listed
  have knows : ∀ other, Knows path (values other) (files.dropName temporary) (publishers other) := by
    intro other
    have known := orderly.knows other
    unfold Knows at known ⊢
    split
    · trivial
    · next here =>
      rw [files.names_dropName notPath.symm]
      simpa only [here] using known
    · next here =>
      simp only [here] at known
      exact own known
    · next here =>
      simp only [here] at known
      exact ⟨own known.1, known.2⟩
    · next here =>
      simp only [here] at known
      exact ⟨own known.1, known.2.1, by rw [files.names_dropName notPath.symm, known.2.2]⟩
    · next here =>
      simp only [here] at known
      exact ⟨own known.1, known.2.1, by rw [file, known.2.2]⟩
    · trivial
    · trivial
  exact ⟨orderly.advance file (files.names_dropName notLock.symm) rfl (orderly.drawn name) id
    (knows name) fun other _ => knows other, .inl file⟩

/-- The lock is taken. -/
theorem Orderly.lock {temporary : Option String} (here : publishers name = ⟨temporary, .outside⟩)
    (free : files.names (lockPathOf path) = none) (event : Event FileCall) :
    Orderly path values (files.create (lockPathOf path))
      (Function.update publishers name ⟨temporary, .locked files.next⟩) ∧
      Puts path values name event files (files.create (lockPathOf path)) := by
  have file := files.lookup_create (lockPathOf_ne_path path).symm
  have nobody : ∀ other, (publishers other).isInside = false := by
    intro other
    by_contra inside
    exact orderly.locked other (Bool.not_eq_false _ ▸ inside) free
  refine ⟨⟨fun first second => ?_, fun other inside => ?_, fun other called => ?_, fun other => ?_,
    fun text holds => ?_⟩, .inl file⟩
  · have only : ∀ other, (Function.update publishers name ⟨temporary, .locked files.next⟩ other).isInside
        = true → other = name := by
      intro other inside
      by_contra ne
      rw [Function.update_of_ne ne, nobody] at inside
      cases inside
    intro left right
    rw [only first left, only second right]
  · rw [files.names_create_self]
    exact Option.some_ne_none _
  · have old := orderly.drawn other called
    by_cases same : other = name
    · rw [same, Function.update_self]
      rw [same, here] at old
      exact old
    · rw [Function.update_of_ne same]
      exact old
  · by_cases same : other = name
    · rw [same, Function.update_self]
      show (files.create (lockPathOf path)).names path ≠ some files.next
      rw [files.names_create (lockPathOf_ne_path path).symm]
      intro named
      exact Nat.lt_irrefl _ (files.bounded path files.next named)
    · rw [Function.update_of_ne same]
      exact knows_of_not_inside (nobody other)
  · rw [file] at holds
    obtain ⟨owner, bytes, publishable, published⟩ := orderly.held text holds
    refine ⟨owner, bytes, publishable, ?_⟩
    by_cases same : owner = name
    · rw [same, here] at published
      cases published
    · rw [Function.update_of_ne same]
      exact published

/-- The temporary file is created. -/
theorem Orderly.createTemporary {temporary : String} {lock : ℕ}
    (here : publishers name = ⟨some temporary, .locked lock⟩) (event : Event FileCall) :
    Orderly path values (files.create temporary)
      (Function.update publishers name ⟨some temporary, .writing files.next⟩) ∧
      Puts path values name event files (files.create temporary) := by
  obtain ⟨notPath, notLock⟩ := orderly.apart_of_drawn (by rw [here])
  have inside : (publishers name).isInside = true := by rw [here]; rfl
  have file := files.lookup_create notPath.symm
  refine ⟨orderly.advance file (files.names_create notLock.symm) ?_ ?_ ?_ ⟨?_, ?_⟩
    fun other ne => orderly.knows_other inside ne, .inl file⟩
  · rw [here]
    rfl
  · have drawn := orderly.drawn name
    rw [here] at drawn
    exact drawn
  · rw [here]
    exact id
  · rw [files.names_create notPath.symm]
    intro named
    exact Nat.lt_irrefl _ (files.bounded path files.next named)
  · intro other same
    cases same
    exact .inr (files.names_create_self temporary)

/-- A file is written that is not the one under the path. -/
theorem Orderly.wrote {temporary : Option String} {stage next : Stage} {written : ℕ} {text : String}
    (here : publishers name = ⟨temporary, stage⟩)
    (inside : (Publisher.mk temporary stage).isInside = true)
    (going : (Publisher.mk temporary next).isInside = true)
    (shown : (Publisher.mk temporary stage).hasPublished = false)
    (apart : files.names path ≠ some written)
    (knows : Knows path (values name) (files.write written text) ⟨temporary, next⟩)
    (event : Event FileCall) :
    Orderly path values (files.write written text)
      (Function.update publishers name ⟨temporary, next⟩) ∧
      Puts path values name event files (files.write written text) := by
  have file := files.lookup_write apart text
  have held : (publishers name).isInside = true := by rw [here, inside]
  refine ⟨orderly.advance file rfl ?_ ?_ ?_ knows fun other ne => orderly.knows_other held ne,
    .inl file⟩
  · rw [here, inside, going]
  · have drawn := orderly.drawn name
    rw [here] at drawn
    exact drawn
  · rw [here, shown]
    intro impossible
    cases impossible

/-- The temporary file becomes the file. -/
theorem Orderly.publish {temporary : String} {file : ℕ} {existing : Option String}
    {event : Event FileCall} (here : publishers name = ⟨some temporary, .compared file existing⟩)
    (present : files.names temporary ≠ none) (took : isPublication event = true)
    (lock : after.names (lockPathOf path) = files.names (lockPathOf path))
    (put : after.lookup path = files.lookup temporary)
    (allowed : existing = none ∨ ∃ text, existing = some text ∧ replaces (values name) text = true) :
    Orderly path values after (Function.update publishers name ⟨some temporary, .published⟩) ∧
      Puts path values name event files after := by
  obtain ⟨owned, contents, there⟩ : Own path (some temporary) file files ∧
      files.contents file = bytesOf (values name) ∧ files.lookup path = existing := by
    have known := orderly.knows name
    rw [here] at known
    exact known
  have inside : (publishers name).isInside = true := by rw [here]; rfl
  have publishable : isPublishable (values name) = true :=
    (orderly.drawn name temporary (by rw [here])).1
  have text : after.lookup path = some (bytesOf (values name)) := by
    rcases owned.named temporary rfl with absent | named
    · exact absurd absent present
    · rw [put, FileSystem.lookup, named, Option.map_some, contents]
  have same_inside : ∀ other,
      (Function.update publishers name ⟨some temporary, .published⟩ other).isInside =
        (publishers other).isInside := by
    intro other
    by_cases same : other = name
    · rw [same, Function.update_self, inside]
      rfl
    · rw [Function.update_of_ne same]
  refine ⟨⟨fun first second => ?_, fun other => ?_, fun other called => ?_, fun other => ?_,
    fun held holds => ?_⟩, .inr ⟨took, publishable, text, ?_⟩⟩
  · rw [same_inside, same_inside]
    exact orderly.exclusive first second
  · rw [same_inside, lock]
    exact orderly.locked other
  · have old := orderly.drawn other called
    by_cases same : other = name
    · rw [same, Function.update_self]
      rw [same, here] at old
      exact old
    · rw [Function.update_of_ne same]
      exact old
  · by_cases same : other = name
    · rw [same, Function.update_self]
      trivial
    · rw [Function.update_of_ne same]
      exact orderly.knows_other inside same
  · rw [text] at holds
    cases holds
    refine ⟨name, rfl, publishable, ?_⟩
    rw [Function.update_self]
    rfl
  · rcases allowed with absent | ⟨old, some_old, may⟩
    · exact .inl (there.trans absent)
    · rw [some_old] at there
      obtain ⟨owner, bytes, old_publishable, _⟩ := orderly.held old there
      refine .inr ⟨owner, old_publishable, there.trans (congrArg some bytes), ?_⟩
      rw [replaces, bytes, parse_bytesOf] at may
      cases passed : checkTransition (values name) (values owner).parsed with
      | ok _ => rfl
      | error error =>
        simp only [passed] at may
        cases may

/-- The lock is released. -/
theorem Orderly.unlock {temporary : Option String} {stage : Stage} {event : Event FileCall}
    (here : publishers name = ⟨temporary, stage⟩)
    (inside : (Publisher.mk temporary stage).isInside = true) :
    Orderly path values (files.dropName (lockPathOf path))
      (Function.update publishers name ⟨temporary, .released⟩) ∧
      Puts path values name event files (files.dropName (lockPathOf path)) := by
  have file := files.lookup_dropName (lockPathOf_ne_path path).symm
  have held : (publishers name).isInside = true := by rw [here, inside]
  have nobody : ∀ other, (Function.update publishers name ⟨temporary, .released⟩ other).isInside =
      false := by
    intro other
    by_cases same : other = name
    · rw [same, Function.update_self]
      rfl
    · rw [Function.update_of_ne same]
      by_contra also
      rw [Bool.not_eq_false] at also
      exact same (orderly.exclusive other name also held)
  refine ⟨⟨fun first second left => ?_, fun other also => ?_, fun other called => ?_, fun other => ?_,
    fun text holds => ?_⟩, .inl file⟩
  · rw [nobody] at left
    cases left
  · rw [nobody] at also
    cases also
  · have old := orderly.drawn other called
    by_cases same : other = name
    · rw [same, Function.update_self]
      rw [same, here] at old
      exact old
    · rw [Function.update_of_ne same]
      exact old
  · exact knows_of_not_inside (nobody other)
  · rw [file] at holds
    obtain ⟨owner, bytes, publishable, published⟩ := orderly.held text holds
    refine ⟨owner, bytes, publishable, ?_⟩
    by_cases same : owner = name
    · rw [same, Function.update_self]
      rfl
    · rw [Function.update_of_ne same]
      exact published

/-! One lemma for each call. -/

section Stages

variable {temporary : Option String} {stage next : Stage}

theorem Orderly.openNewCalled {called : String} {reply : Except FileError ℕ}
    (here : publishers name = ⟨temporary, stage⟩)
    (moved : nextStage path (values name) temporary stage ⟨.openNew called, reply⟩ = some next)
    (answered : files.Answers (.openNew called) reply after) :
    Orderly path values after (Function.update publishers name ⟨temporary, next⟩) ∧
      Puts path values name ⟨.openNew called, reply⟩ files after := by
  have still := orderly.idle name
  rw [here] at still
  simp only [FileSystem.Answers] at answered
  cases stage with
  | outside =>
    cases taken : files.names called with
    | some _ =>
      simp only [taken] at answered
      obtain ⟨rfl, rfl⟩ := answered
      simp only [nextStage] at moved
      split at moved
      · cases moved
        exact still _
      · cases moved
    | none =>
      simp only [taken] at answered
      obtain ⟨rfl, rfl⟩ := answered
      simp only [nextStage] at moved
      split at moved
      · next same =>
        cases moved
        subst same
        exact orderly.lock here taken _
      · cases moved
  | locked lock =>
    cases taken : files.names called with
    | some _ =>
      simp only [taken] at answered
      obtain ⟨rfl, rfl⟩ := answered
      simp only [nextStage] at moved
      split at moved
      · cases moved
        exact still _
      · cases moved
    | none =>
      simp only [taken] at answered
      obtain ⟨rfl, rfl⟩ := answered
      simp only [nextStage] at moved
      split at moved
      · next same =>
        cases moved
        subst same
        exact orderly.createTemporary here _
      · cases moved
  | _ => cases moved

theorem Orderly.beginWriteCalled {handle : ℕ} {reply : Unit}
    (here : publishers name = ⟨temporary, stage⟩)
    (moved : nextStage path (values name) temporary stage ⟨.beginWrite handle, reply⟩ = some next)
    (answered : files.Answers (.beginWrite handle) reply after) :
    Orderly path values after (Function.update publishers name ⟨temporary, next⟩) ∧
      Puts path values name ⟨.beginWrite handle, reply⟩ files after := by
  have known := orderly.knows name
  rw [here] at known
  obtain ⟨part, rfl⟩ := answered
  cases stage with
  | locked lock =>
    simp only [nextStage] at moved
    split at moved
    · next same =>
      cases moved
      subst same
      refine orderly.wrote here rfl rfl rfl ?_ ?_ _
      · exact known
      · exact known
    · cases moved
  | writing file =>
    simp only [nextStage] at moved
    split at moved
    · next same =>
      cases moved
      subst same
      refine orderly.wrote here rfl rfl rfl known.apart ?_ _
      exact ⟨known.apart, known.named⟩
    · cases moved
  | _ => cases moved

theorem Orderly.finishWriteCalled {handle : ℕ} {text : String} {reply : Except FileError Unit}
    (here : publishers name = ⟨temporary, stage⟩)
    (moved : nextStage path (values name) temporary stage ⟨.finishWrite handle text, reply⟩ = some next)
    (answered : files.Answers (.finishWrite handle text) reply after) :
    Orderly path values after (Function.update publishers name ⟨temporary, next⟩) ∧
      Puts path values name ⟨.finishWrite handle text, reply⟩ files after := by
  have known := orderly.knows name
  rw [here] at known
  obtain ⟨part, rfl, complete⟩ : ∃ part, after = files.write handle part ∧
      (reply = .ok () → part = text) := by
    cases reply with
    | ok _ => exact ⟨text, answered, fun _ => rfl⟩
    | error _ =>
      obtain ⟨part, same⟩ := answered
      exact ⟨part, same, fun ok => by cases ok⟩
  cases stage with
  | locked lock =>
    simp only [nextStage] at moved
    split at moved
    · next same =>
      cases moved
      subst same
      refine orderly.wrote here rfl rfl rfl ?_ ?_ _
      · exact known
      · exact known
    · cases moved
  | writing file =>
    cases reply with
    | ok _ =>
      simp only [nextStage] at moved
      split at moved
      · next same =>
        cases moved
        obtain ⟨rfl, rfl⟩ := same
        rw [complete rfl]
        refine orderly.wrote here rfl rfl rfl known.apart ?_ _
        exact ⟨⟨known.apart, known.named⟩, Function.update_self _ _ _⟩
      · cases moved
    | error _ =>
      simp only [nextStage] at moved
      split at moved
      · next same =>
        cases moved
        subst same
        refine orderly.wrote here rfl rfl rfl known.apart ?_ _
        exact ⟨known.apart, known.named⟩
      · cases moved
  | _ => cases moved

theorem Orderly.openReadCalled {called : String} {reply : Except FileError ℕ}
    (here : publishers name = ⟨temporary, stage⟩)
    (moved : nextStage path (values name) temporary stage ⟨.openRead called, reply⟩ = some next)
    (answered : files.Answers (.openRead called) reply after) :
    Orderly path values after (Function.update publishers name ⟨temporary, next⟩) ∧
      Puts path values name ⟨.openRead called, reply⟩ files after := by
  have still := orderly.idle name
  rw [here] at still
  have known := orderly.knows name
  rw [here] at known
  obtain ⟨rfl, answered⟩ := answered
  cases stage with
  | written file =>
    cases reply with
    | ok reading =>
      simp only [nextStage] at moved
      split at moved
      · next same =>
        cases moved
        subst same
        refine orderly.learn _ here rfl rfl rfl ?_
        refine ⟨known.1, known.2, ?_⟩
        cases there : after.names called with
        | none =>
          simp only [there] at answered
          cases answered
        | some other =>
          simp only [there] at answered
          rw [answered.2 reading rfl]
      · cases moved
    | error error =>
      cases error with
      | missing =>
        simp only [nextStage] at moved
        split at moved
        · next same =>
          cases moved
          subst same
          refine orderly.learn _ here rfl rfl rfl ?_
          refine ⟨known.1, known.2, ?_⟩
          cases there : after.names called with
          | none => rw [FileSystem.lookup, there, Option.map_none]
          | some other =>
            simp only [there] at answered
            exact absurd rfl answered.1
        · cases moved
      | taken | other _ =>
        cases moved
        exact still _
  | compared file existing =>
    cases moved
    exact still _
  | _ => cases moved

theorem Orderly.readCalled {handle : ℕ} {reply : Except FileError String}
    (here : publishers name = ⟨temporary, stage⟩)
    (moved : nextStage path (values name) temporary stage ⟨.read handle, reply⟩ = some next)
    (answered : files.Answers (.read handle) reply after) :
    Orderly path values after (Function.update publishers name ⟨temporary, next⟩) ∧
      Puts path values name ⟨.read handle, reply⟩ files after := by
  have still := orderly.idle name
  rw [here] at still
  have known := orderly.knows name
  rw [here] at known
  obtain ⟨rfl, present, answered⟩ := answered
  cases stage with
  | opened file reading =>
    cases reply with
    | ok text =>
      simp only [nextStage] at moved
      split at moved
      · next same =>
        cases moved
        subst same
        refine orderly.learn _ here rfl rfl rfl ?_
        refine ⟨known.1, known.2.1, ?_⟩
        rw [FileSystem.lookup, known.2.2, Option.map_some, answered text rfl]
      · cases moved
    | error error =>
      cases error with
      | missing => exact absurd rfl present
      | taken | other _ =>
        cases moved
        exact still _
  | compared file existing =>
    cases moved
    exact still _
  | _ => cases moved

theorem Orderly.linkCalled {source destination : String} {reply : Except FileError Unit}
    (here : publishers name = ⟨temporary, stage⟩)
    (moved : nextStage path (values name) temporary stage ⟨.link source destination, reply⟩ = some next)
    (answered : files.Answers (.link source destination) reply after) :
    Orderly path values after (Function.update publishers name ⟨temporary, next⟩) ∧
      Puts path values name ⟨.link source destination, reply⟩ files after := by
  have still := orderly.idle name
  rw [here] at still
  cases stage with
  | compared file existing =>
    cases existing with
    | none =>
      cases reply with
      | ok _ =>
        simp only [nextStage] at moved
        split at moved
        · next same =>
          cases moved
          obtain ⟨rfl, rfl⟩ := same
          obtain ⟨present, rfl⟩ : files.names source ≠ none ∧
              after = files.copyName source destination := by
            simp only [FileSystem.Answers] at answered
            split at answered
            · next from_ _ => exact ⟨by rw [from_]; exact Option.some_ne_none _, answered.2⟩
            · cases answered.1
            · rcases answered.1 with impossible | impossible <;> cases impossible
            · cases answered.1
          exact orderly.publish here present rfl
            (files.names_copyName (lockPathOf_ne_path destination))
            (files.lookup_copyName source destination) (.inl rfl)
        · cases moved
      | error error =>
        simp only [nextStage] at moved
        split at moved
        · cases moved
          have same : after = files := by
            simp only [FileSystem.Answers] at answered
            split at answered
            · cases answered.1
            · exact answered.2
            · exact answered.2
            · exact answered.2
          subst same
          exact still _
        · cases moved
    | some _ => cases moved
  | _ => cases moved

theorem Orderly.renameCalled {source destination : String} {reply : Except FileError Unit}
    (here : publishers name = ⟨temporary, stage⟩)
    (moved : nextStage path (values name) temporary stage ⟨.rename source destination, reply⟩ = some next)
    (answered : files.Answers (.rename source destination) reply after) :
    Orderly path values after (Function.update publishers name ⟨temporary, next⟩) ∧
      Puts path values name ⟨.rename source destination, reply⟩ files after := by
  have still := orderly.idle name
  rw [here] at still
  cases stage with
  | compared file existing =>
    cases existing with
    | none => cases moved
    | some text =>
      cases reply with
      | ok _ =>
        simp only [nextStage] at moved
        split at moved
        · next same =>
          cases moved
          obtain ⟨rfl, rfl, may⟩ := same
          have own : (publishers name).temporary = some source := by rw [here]
          obtain ⟨notPath, notLock⟩ := orderly.apart_of_drawn own
          obtain ⟨present, rfl⟩ : files.names source ≠ none ∧
              after = files.moveName source destination := by
            simp only [FileSystem.Answers] at answered
            split at answered
            · next from_ => exact ⟨by rw [from_]; exact Option.some_ne_none _, answered.2⟩
            · cases answered.1
          exact orderly.publish here present rfl
            (files.names_moveName notLock.symm (lockPathOf_ne_path destination))
            (files.lookup_moveName notPath.symm) (.inr ⟨text, rfl, may⟩)
        · cases moved
      | error error =>
        simp only [nextStage] at moved
        split at moved
        · cases moved
          have same : after = files := by
            simp only [FileSystem.Answers] at answered
            split at answered
            · cases answered.1
            · exact answered.2
          subst same
          exact still _
        · cases moved
  | _ => cases moved

theorem Orderly.removeCalled {called : String} {reply : Except FileError Unit}
    (here : publishers name = ⟨temporary, stage⟩)
    (moved : nextStage path (values name) temporary stage ⟨.remove called, reply⟩ = some next)
    (answered : files.Answers (.remove called) reply after) :
    Orderly path values after (Function.update publishers name ⟨temporary, next⟩) ∧
      Puts path values name ⟨.remove called, reply⟩ files after := by
  have still := orderly.idle name
  rw [here] at still
  simp only [nextStage] at moved
  split at moved
  · next drawn =>
    cases moved
    cases reply with
    | ok _ =>
      cases (show after = files.dropName called from answered)
      have own : (publishers name).temporary = some called := by rw [here, drawn]
      have removed := orderly.removed own
      rw [here] at removed
      exact removed _
    | error _ =>
      cases (show after = files from answered)
      exact still _
  · cases moved

theorem Orderly.unlinkCalled {called : String} {reply : Except FileError Unit}
    (here : publishers name = ⟨temporary, stage⟩)
    (moved : nextStage path (values name) temporary stage ⟨.unlink called, reply⟩ = some next)
    (answered : files.Answers (.unlink called) reply after) :
    Orderly path values after (Function.update publishers name ⟨temporary, next⟩) ∧
      Puts path values name ⟨.unlink called, reply⟩ files after := by
  have still := orderly.idle name
  rw [here] at still
  cases reply with
  | error _ =>
    cases (show after = files from answered)
    have same : next = stage := by
      cases stage with
      | published =>
        simp only [nextStage] at moved
        split at moved <;> cases moved
        rfl
      | compared file existing =>
        cases existing with
        | none => cases moved
        | some text =>
          simp only [nextStage] at moved
          split at moved <;> cases moved
          rfl
      | _ => cases moved
    subst same
    exact still _
  | ok _ =>
    obtain ⟨_, rfl⟩ : files.names called ≠ none ∧ after = files.dropName called := answered
    cases stage with
    | published =>
      simp only [nextStage] at moved
      split at moved
      · next same =>
        cases moved
        subst same
        exact orderly.unlock here rfl
      · cases moved
    | compared file existing =>
      cases existing with
      | none => cases moved
      | some text =>
        simp only [nextStage] at moved
        split at moved
        · next same =>
          cases moved
          obtain ⟨rfl, -⟩ := same
          exact orderly.unlock here rfl
        · cases moved
    | _ => cases moved

end Stages

/-- **Every call of a publication keeps the order.** -/
theorem Orderly.called {β : Type} {effect : FileCall β} {reply : β}
    (answered : files.Answers effect reply after)
    (reacted : reactManifest path (values name) (publishers name) ⟨effect, reply⟩ = some later) :
    Orderly path values after (Function.update publishers name later) ∧
      Puts path values name ⟨effect, reply⟩ files after := by
  cases here : publishers name with
  | mk temporary stage =>
  rw [here] at reacted
  have still := orderly.idle name
  rw [here] at still
  cases effect with
  | draw =>
    cases (show after = files from answered)
    simp only [reactManifest] at reacted
    split at reacted
    · next start =>
      cases reacted
      cases start.1
      refine ⟨orderly.advance rfl rfl ?_ ?_ ?_ trivial fun other _ => orderly.knows other, .inl rfl⟩
      · rw [here]
        rfl
      · intro temporary drawn
        cases drawn
        exact ⟨start.2, reply, rfl⟩
      · rw [here]
        exact id
    · cases reacted
  | makeDirectory | sync _ | close _ | openDirectory =>
    cases (show after = files from answered)
    cases reacted
    exact still _
  | openNew called =>
    obtain ⟨next, moved, rfl⟩ := Option.map_eq_some_iff.mp reacted
    exact orderly.openNewCalled here moved answered
  | beginWrite handle =>
    obtain ⟨next, moved, rfl⟩ := Option.map_eq_some_iff.mp reacted
    exact orderly.beginWriteCalled here moved answered
  | finishWrite handle text =>
    obtain ⟨next, moved, rfl⟩ := Option.map_eq_some_iff.mp reacted
    exact orderly.finishWriteCalled here moved answered
  | openRead called =>
    obtain ⟨next, moved, rfl⟩ := Option.map_eq_some_iff.mp reacted
    exact orderly.openReadCalled here moved answered
  | read handle =>
    obtain ⟨next, moved, rfl⟩ := Option.map_eq_some_iff.mp reacted
    exact orderly.readCalled here moved answered
  | link source destination =>
    obtain ⟨next, moved, rfl⟩ := Option.map_eq_some_iff.mp reacted
    exact orderly.linkCalled here moved answered
  | rename source destination =>
    obtain ⟨next, moved, rfl⟩ := Option.map_eq_some_iff.mp reacted
    exact orderly.renameCalled here moved answered
  | remove called =>
    obtain ⟨next, moved, rfl⟩ := Option.map_eq_some_iff.mp reacted
    exact orderly.removeCalled here moved answered
  | unlink called =>
    obtain ⟨next, moved, rfl⟩ := Option.map_eq_some_iff.mp reacted
    exact orderly.unlinkCalled here moved answered

end Calls

end World

end FuseControlPlane.Evidence
