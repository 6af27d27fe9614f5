/-
A publication that runs by itself, in a file system where calls fail only for a name.

* `Works`: what calls are answered with there; a drawn text makes names that are not taken.
* `publish_works`: **a publication that may follow what the file holds is accepted**, and leaves its
  text and no lock.
-/

import FuseControlPlane.Evidence.ManifestPublication
import FuseControlPlane.Foundation.Outcomes

set_option linter.unusedSectionVars false

namespace FuseControlPlane.Evidence

open Foundation Foundation.JavaScript Program

/-- A text for a temporary name is drawn. -/
def isDraw {β : Type} : FileCall β → Bool
  | .draw => true
  | _ => false

/-- Calls fail only for a name, and a drawn text makes a new name. -/
def Works (path : String) {β : Type} (files : FileSystem) (effect : FileCall β) (reply : β)
    (after : FileSystem) : Prop :=
  ∃ text, (isDraw effect = true → files.names (temporaryOf path text) = none) ∧
    files.perform text effect = (reply, after)

section Runs

variable {path : String} {ε α β : Type} {raise : FileError → ε} {post : Except ε α → FileSystem → Prop}
  {files after : FileSystem}

theorem works_call {effect : FileCall β} {next : β → Program FileCall ε α} {reply : β}
    (performed : ∀ text, files.perform text effect = (reply, after))
    (rest : Ensures (Works path) post (next reply) after) :
    Ensures (Works path) post (.call effect next) files := by
  refine .call fun given later ⟨text, _, answered⟩ => ?_
  rw [performed text] at answered
  cases answered
  exact rest

theorem works_await {effect : FileCall (Except FileError β)} {second : β → Program FileCall ε α}
    {value : β} (performed : ∀ text, files.perform text effect = (.ok value, after))
    (rest : Ensures (Works path) post (second value) after) :
    Ensures (Works path) post (awaitFile raise effect >>= second) files :=
  works_call performed rest

theorem works_syncDirectory {second : Unit → Program FileCall ε α}
    (rest : Ensures (Works path) post (second ()) files) :
    Ensures (Works path) post (syncDirectory raise >>= second) files := by
  rw [syncDirectory, bind_assoc]
  refine works_await (fun _ => rfl) ?_
  rw [tryFinally_bind]
  exact works_call (fun _ => rfl) (works_await (fun _ => rfl) rest)

theorem works_writeFile {handle : ℕ} {text : String} {second : Unit → Program FileCall ε α}
    (rest : Ensures (Works path) post (second ()) ((files.write handle "").write handle text)) :
    Ensures (Works path) post (writeFile raise handle text >>= second) files := by
  rw [writeFile, bind_assoc]
  exact works_call (fun _ => rfl) (works_await (fun _ => rfl) rest)

theorem works_readFile {name text : String} {second : String → Program FileCall ε α}
    (holds : files.lookup name = some text) (rest : Ensures (Works path) post (second text) files) :
    Ensures (Works path) post (readFile raise name >>= second) files := by
  obtain ⟨file, named, contents⟩ := Option.map_eq_some_iff.mp holds
  rw [readFile, bind_assoc]
  have opened : ∀ text, files.perform text (.openRead name) = (.ok file, files) := by
    intro text
    simp only [FileSystem.perform, named]
  refine works_await opened (works_await (fun _ => rfl) ?_)
  rw [contents]
  exact rest

end Runs

section Publication

variable [NodeCrypto] [Collation] {path temporary : String} {value : DurableManifest} {lock : ℕ}
  {files : FileSystem}

/-- A publication that may follow what the file holds. -/
def MayFollow (path : String) (value : DurableManifest) (files : FileSystem) : Prop :=
  files.lookup path = none ∨ ∃ old, files.lookup path = some (bytesOf old) ∧
    (bytesOf old = bytesOf value ∨ checkTransition value old.parsed = .ok ())

/-- The text is in the file, and the lock is as it was. -/
def Put (path : String) (value : DurableManifest) (before : FileSystem)
    (outcome : Except Interrupted Unit) (after : FileSystem) : Prop :=
  outcome = .ok () ∧ after.lookup path = some (bytesOf value) ∧
    after.names (lockPathOf path) = before.names (lockPathOf path)

theorem readExisting_works {text : String} (holds : files.lookup path = some text) :
    Ensures (Works path) (fun result later => result = .ok (some text) ∧ later = files)
      (readExisting path lock) files := by
  have read : Ensures (Works path) (fun result later => result = .ok text ∧ later = files)
      (readFile (ε := FileError) id path) files := by
    rw [← bind_pure (readFile id path)]
    exact works_readFile holds (.done ⟨rfl, rfl⟩)
  refine read.attempt fun result later ⟨same, unchanged⟩ => ?_
  subst same unchanged
  exact .done ⟨rfl, rfl⟩

theorem replaceManifest_works {old : DurableManifest} (there : files.lookup path = some (bytesOf old))
    (passed : checkTransition value old.parsed = .ok ()) (present : files.names temporary ≠ none) :
    Ensures (Works path) (fun result later => result = .ok () ∧ later = files.moveName temporary path)
      (replaceManifest path temporary (bytesOf old) value lock) files := by
  refine .orThrow (fun existing parsed => ?_) fun unparsed => ?_
  · rw [parse_bytesOf] at parsed
    cases parsed
    refine .fromExcept (fun _ _ => ?_) fun error thrown => ?_
    · refine works_readFile there (.throwUnless (fun _ => ?_) fun differs => ?_)
      · rw [← bind_pure (awaitFile _ _)]
        obtain ⟨file, named⟩ := Option.ne_none_iff_exists'.mp present
        have renamed : ∀ text, files.perform text (.rename temporary path) =
            (.ok (), files.moveName temporary path) := by
          intro text
          simp only [FileSystem.perform, named]
        exact works_await renamed (.done ⟨rfl, rfl⟩)
      · rw [beq_self_eq_true] at differs
        cases differs
    · rw [passed] at thrown
      cases thrown
  · rw [parse_bytesOf] at unparsed
    cases unparsed

theorem placeManifest_works {file : ℕ} (notPath : path ≠ temporary)
    (notLock : lockPathOf path ≠ temporary)
    (named : files.names temporary = some file) (contents : files.contents file = bytesOf value)
    (follows : MayFollow path value files) :
    Ensures (Works path) (Put path value files) (placeManifest path temporary value lock) files := by
  have whole : files.lookup temporary = some (bytesOf value) := by
    rw [FileSystem.lookup, named, Option.map_some, contents]
  rcases follows with absent | ⟨old, there, fits⟩
  · have nameless : files.names path = none := by
      cases here : files.names path with
      | none => rfl
      | some other =>
        rw [FileSystem.lookup, here] at absent
        cases absent
    have missing : ∀ text, files.perform text (.openRead path) = (.error .missing, files) := by
      intro text
      simp only [FileSystem.perform, nameless]
    have linked : ∀ text, files.perform text (.link temporary path) =
        (.ok (), files.copyName temporary path) := by
      intro text
      simp only [FileSystem.perform, nameless, named]
    refine works_call missing (works_call linked ?_)
    rw [← bind_pure (syncDirectory _)]
    refine works_syncDirectory (.done ⟨rfl, ?_, ?_⟩)
    · rw [files.lookup_copyName, whole]
    · exact files.names_copyName (lockPathOf_ne_path path)
  · refine (readExisting_works there).bind (fun existing later ends => ?_) fun error later ends => ?_
    · obtain ⟨same, unchanged⟩ := ends
      cases same
      subst unchanged
      by_cases equal : bytesOf old = bytesOf value
      · simp only [if_pos equal]
        exact .done ⟨rfl, by rw [there, equal], rfl⟩
      · simp only [if_neg equal]
        have passed : checkTransition value old.parsed = .ok () := fits.resolve_left equal
        have present : later.names temporary ≠ none := by
          rw [named]
          exact Option.some_ne_none _
        refine (replaceManifest_works there passed present).bind (fun _ after ends => ?_)
          fun error after ends => ?_
        · obtain ⟨_, moved⟩ := ends
          subst moved
          rw [← bind_pure (syncDirectory _)]
          refine works_syncDirectory (.done ⟨rfl, ?_, ?_⟩)
          · rw [later.lookup_moveName notPath, whole]
          · exact later.names_moveName notLock (lockPathOf_ne_path path)
        · cases ends.1
    · cases ends.1

theorem writeLock_works (bytes : String) :
    Ensures (Works path) (fun result later => result = .ok () ∧ ∃ text, later = files.write lock text)
      (writeLock path bytes lock) files := by
  have wrote : Ensures (Works path) (fun result later => result = .ok () ∧ later =
      (files.write lock "").write lock (lockText path bytes)) (do
        writeFile (Interrupted.file lock) lock (lockText path bytes)
        awaitFile (Interrupted.file lock) (.sync lock)) files := by
    refine works_writeFile ?_
    rw [← bind_pure (awaitFile _ _)]
    exact works_await (fun _ => rfl) (.done ⟨rfl, rfl⟩)
  refine wrote.tryCatch (fun _ later ⟨_, same⟩ => ⟨rfl, lockText path bytes, ?_⟩)
    fun error later ⟨same, _⟩ => ?_
  · rw [same, FileSystem.write_write]
  · cases same

theorem writeTemporary_works (bytes : String) (free : files.names temporary = none) :
    Ensures (Works path) (fun result later => result = .ok () ∧
      later = (files.create temporary).write files.next bytes)
      (writeTemporary temporary bytes lock) files := by
  have created : ∀ text, files.perform text (.openNew temporary) =
      (.ok files.next, files.create temporary) := by
    intro text
    simp only [FileSystem.perform, free]
  refine works_await created ?_
  rw [← bind_pure (tryFinally _ _), tryFinally_bind]
  have wrote : Ensures (Works path) (fun result later => result = .ok () ∧ later =
      (files.create temporary).write files.next bytes) (do
        writeFile (Interrupted.file lock) files.next bytes
        awaitFile (Interrupted.file lock) (.sync files.next)) (files.create temporary) := by
    refine works_writeFile ?_
    rw [← bind_pure (awaitFile _ _), FileSystem.write_write]
    exact works_await (fun _ => rfl) (.done ⟨rfl, rfl⟩)
  refine wrote.attempt fun result later ends => ?_
  obtain ⟨same, left⟩ := ends
  subst same
  exact works_await (fun _ => rfl) (.done ⟨rfl, left⟩)

theorem publishLocked_works (notPath : path ≠ temporary) (notLock : lockPathOf path ≠ temporary)
    (free : files.names temporary = none) (apart : files.names path ≠ some lock)
    (follows : MayFollow path value files) :
    Ensures (Works path) (Put path value files) (publishLocked path temporary value lock) files := by
  refine (writeLock_works (bytesOf value)).bind (fun _ locked ⟨_, text, left⟩ => ?_)
    fun error later ⟨same, _⟩ => ?_
  · subst left
    have absent : (files.write lock text).names temporary = none := free
    refine works_syncDirectory ?_
    refine (writeTemporary_works (bytesOf value) absent).bind (fun _ written ⟨_, left⟩ => ?_)
      fun error later ⟨same, _⟩ => ?_
    · subst left
      have unnamed : ((files.write lock text).create temporary).names path ≠ some files.next := by
        rw [FileSystem.names_create _ notPath]
        intro named
        exact Nat.lt_irrefl _ (files.bounded path files.next named)
      have file : (((files.write lock text).create temporary).write files.next
          (bytesOf value)).lookup path = files.lookup path := by
        rw [FileSystem.lookup_write _ unnamed, FileSystem.lookup_create _ notPath,
          files.lookup_write apart]
      have still : MayFollow path value (((files.write lock text).create temporary).write files.next
          (bytesOf value)) := by
        unfold MayFollow
        rw [file]
        exact follows
      have named : (((files.write lock text).create temporary).write files.next
          (bytesOf value)).names temporary = some files.next :=
        FileSystem.names_create_self _ temporary
      have whole : (((files.write lock text).create temporary).write files.next
          (bytesOf value)).contents files.next = bytesOf value := Function.update_self _ _ _
      refine (placeManifest_works notPath notLock named whole still).mono fun outcome after put => ?_
      · refine ⟨put.1, put.2.1, put.2.2.trans ?_⟩
        exact FileSystem.names_create _ notLock
    · cases same
  · cases same

/-- **A publication that may follow what the file holds is accepted.** -/
theorem publish_works (publishable : isPublishable value = true)
    (free : files.names (lockPathOf path) = none) (follows : MayFollow path value files) :
    Ensures (Works path) (fun outcome after => outcome = .ok () ∧ after.names (lockPathOf path) = none ∧
      after.lookup path = some (bytesOf value)) (publishManifestDurably path value) files := by
  refine .throwUnless (fun _ => ?_) fun refused => ?_
  · refine works_await (fun _ => rfl) (.call fun text later answers => ?_)
    obtain ⟨drawn, fresh, answered⟩ := answers
    cases answered
    have notPath : path ≠ temporaryOf path text := (temporaryOf_ne_path path text).symm
    have notLock : lockPathOf path ≠ temporaryOf path text :=
      (temporaryOf_ne_lockPathOf path text).symm
    have created : ∀ drawn, files.perform drawn (.openNew (lockPathOf path)) =
        (.ok files.next, files.create (lockPathOf path)) := by
      intro drawn
      simp only [FileSystem.perform, free]
    refine works_call created ?_
    have unnamed : (files.create (lockPathOf path)).names path ≠ some files.next := by
      rw [files.names_create (lockPathOf_ne_path path).symm]
      intro named
      exact Nat.lt_irrefl _ (files.bounded path files.next named)
    have absent : (files.create (lockPathOf path)).names (temporaryOf path text) = none := by
      rw [files.names_create notLock.symm]
      exact fresh rfl
    have still : MayFollow path value (files.create (lockPathOf path)) := by
      unfold MayFollow
      rw [files.lookup_create (lockPathOf_ne_path path).symm]
      exact follows
    refine (publishLocked_works notPath notLock absent unnamed still).attempt
      fun result put ends => ?_
    obtain ⟨same, text_there, lock_there⟩ := ends
    subst same
    have locked : put.names (lockPathOf path) = some files.next :=
      lock_there.trans (files.names_create_self _)
    refine works_await (fun _ => rfl) (works_syncDirectory (works_await (fun _ => rfl) ?_))
    have unlocked : ∀ drawn, (put.dropName (temporaryOf path text)).perform drawn
        (.unlink (lockPathOf path)) =
        (.ok (), (put.dropName (temporaryOf path text)).dropName (lockPathOf path)) := by
      intro drawn
      simp only [FileSystem.perform, put.names_dropName notLock, locked]
    refine works_await unlocked ?_
    rw [← bind_pure (syncDirectory _)]
    refine works_syncDirectory (.done ⟨rfl, FileSystem.names_dropName_self _ _, ?_⟩)
    rw [FileSystem.lookup_dropName _ (lockPathOf_ne_path path).symm, put.lookup_dropName notPath,
      text_there]
  · rw [publishable] at refused
    cases refused

end Publication

end FuseControlPlane.Evidence
