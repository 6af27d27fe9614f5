/-
A file system that programs share: names, files and their contents.

A name stands for a file; several names may stand for one file. Contents belong to the file, so a
handle goes on writing a file that has lost its name.

* `FileSystem`: names and contents; every name stands for a file that was created.
* `FileCall`: the calls a program makes, as the file system of `node:fs` answers them.
* `writeFile`, `readFile`, `syncDirectory`: the calls these are made of.
* `keeps_awaitFile`, `keeps_syncDirectory`: how these calls move a state machine.
* `FileSystem.Answers`: what a call may be answered with. Creating, linking and renaming fail exactly
  when a name is taken or missing; everything else may fail for any reason. While a file is being
  written it holds any text.
* `FileSystem.perform`: a file system in which nothing else fails.
* `lookup_link`, `lookup_rename`, …: what a call does to the contents under a name.
-/

import FuseControlPlane.Foundation.Processes
import Mathlib.Data.Nat.Notation

set_option linter.unusedSectionVars false

namespace Foundation

open Program

/-- A file system. -/
structure FileSystem where
  /-- The file a name stands for. -/
  names : String → Option ℕ
  contents : ℕ → String
  /-- The next file to be created. -/
  next : ℕ
  bounded : ∀ name file, names name = some file → file < next

/-- No files. -/
def FileSystem.empty : FileSystem where
  names _ := none
  contents _ := ""
  next := 0
  bounded _ _ named := by cases named

/-- Why a call was rejected. -/
inductive FileError
  /-- `EEXIST` -/
  | taken
  /-- `ENOENT` -/
  | missing
  | other (message : String)
  deriving DecidableEq

/-- The calls of a program. A handle is the file it was opened on. -/
inductive FileCall : Type → Type
  /-- A text for a temporary name. -/
  | draw : FileCall String
  | makeDirectory : FileCall (Except FileError Unit)
  /-- Create a file that must not exist, and open it. -/
  | openNew (name : String) : FileCall (Except FileError ℕ)
  /-- The first part of a text. -/
  | beginWrite (handle : ℕ) : FileCall Unit
  /-- The rest of a text. -/
  | finishWrite (handle : ℕ) (text : String) : FileCall (Except FileError Unit)
  | sync (handle : ℕ) : FileCall (Except FileError Unit)
  | close (handle : ℕ) : FileCall (Except FileError Unit)
  | openDirectory : FileCall (Except FileError ℕ)
  | openRead (name : String) : FileCall (Except FileError ℕ)
  | read (handle : ℕ) : FileCall (Except FileError String)
  | link (source destination : String) : FileCall (Except FileError Unit)
  | rename (source destination : String) : FileCall (Except FileError Unit)
  /-- Remove a name, if it is there. -/
  | remove (name : String) : FileCall (Except FileError Unit)
  | unlink (name : String) : FileCall (Except FileError Unit)

/-! ### Calls made of calls -/

section Calls

variable {ε α : Type} (raise : FileError → ε)

/-- A call whose rejection is thrown. -/
def awaitFile (effect : FileCall (Except FileError α)) : Program FileCall ε α := do
  let reply ← perform effect
  fromExcept (reply.mapError raise)

/-- `handle.writeFile(text)`. -/
def writeFile (handle : ℕ) (text : String) : Program FileCall ε Unit := do
  perform (.beginWrite handle)
  awaitFile raise (.finishWrite handle text)

/-- `readFile(name)`. -/
def readFile (name : String) : Program FileCall ε String := do
  let handle ← awaitFile raise (.openRead name)
  awaitFile raise (.read handle)

/-- Open a directory, sync it and close it. -/
def syncDirectory : Program FileCall ε Unit := do
  let handle ← awaitFile raise .openDirectory
  tryFinally (awaitFile raise (.sync handle)) (awaitFile raise (.close handle))

end Calls

/-! ### How they move a state machine -/

section Machines

variable {φ ε α β : Type} {react : φ → Event FileCall → Option φ} {post : Except ε β → φ → Prop}
  {phase : φ} {raise : FileError → ε}

theorem keeps_awaitFile {effect : FileCall (Except FileError α)} {second : α → Program FileCall ε β}
    (returned : ∀ value, ∃ later, react phase ⟨effect, .ok value⟩ = some later ∧
      Keeps react post later (second value))
    (threw : ∀ error, ∃ later, react phase ⟨effect, .error error⟩ = some later ∧
      post (.error (raise error)) later) :
    Keeps react post phase (awaitFile raise effect >>= second) := by
  refine .call fun reply => ?_
  cases reply with
  | ok value => exact returned value
  | error error =>
    obtain ⟨later, moved, meets⟩ := threw error
    exact ⟨later, moved, .fail meets⟩

/-- The last call of a program. -/
theorem keeps_lastFile {effect : FileCall (Except FileError β)}
    (returned : ∀ value, ∃ later, react phase ⟨effect, .ok value⟩ = some later ∧
      post (.ok value) later)
    (threw : ∀ error, ∃ later, react phase ⟨effect, .error error⟩ = some later ∧
      post (.error (raise error)) later) :
    Keeps react post phase (awaitFile raise effect) := by
  rw [← bind_pure (awaitFile raise effect)]
  refine keeps_awaitFile (fun value => ?_) threw
  obtain ⟨later, moved, meets⟩ := returned value
  exact ⟨later, moved, .done meets⟩

/-- A machine that bookkeeping leaves where it is. -/
structure Steady (react : φ → Event FileCall → Option φ) (phase : φ) : Prop where
  sync : ∀ handle reply, react phase ⟨.sync handle, reply⟩ = some phase
  close : ∀ handle reply, react phase ⟨.close handle, reply⟩ = some phase
  openDirectory : ∀ reply, react phase ⟨.openDirectory, reply⟩ = some phase

theorem keeps_syncDirectory (steady : Steady react phase) {second : Unit → Program FileCall ε β}
    (returned : Keeps react post phase (second ()))
    (threw : ∀ error, post (.error (raise error)) phase) :
    Keeps react post phase (syncDirectory raise >>= second) := by
  rw [syncDirectory, bind_assoc]
  refine keeps_awaitFile (fun handle => ⟨phase, steady.openDirectory _, ?_⟩)
    fun error => ⟨phase, steady.openDirectory _, threw error⟩
  rw [tryFinally_bind]
  have synced : Keeps react (fun result later => later = phase ∧
      (result = .ok () ∨ ∃ error, result = .error (raise error))) phase
      (awaitFile raise (.sync handle)) :=
    keeps_lastFile (fun _ => ⟨phase, steady.sync _ _, rfl, .inl rfl⟩)
      fun error => ⟨phase, steady.sync _ _, rfl, .inr ⟨error, rfl⟩⟩
  refine synced.attempt fun result later ⟨same, ended⟩ => ?_
  subst same
  refine keeps_awaitFile (fun _ => ⟨later, steady.close _ _, ?_⟩)
    fun error => ⟨later, steady.close _ _, threw error⟩
  rcases ended with rfl | ⟨error, rfl⟩
  · exact returned
  · exact .fail (threw error)

end Machines

namespace FileSystem

/-! ### Changes -/

/-- What a name stands for is a file that holds this text. -/
def lookup (files : FileSystem) (name : String) : Option String :=
  (files.names name).map files.contents

/-- A new empty file under a name. -/
def create (files : FileSystem) (name : String) : FileSystem where
  names := Function.update files.names name (some files.next)
  contents := Function.update files.contents files.next ""
  next := files.next + 1
  bounded := by
    intro other file named
    by_cases same : other = name
    · rw [same, Function.update_self] at named
      cases named
      exact Nat.lt_succ_self _
    · rw [Function.update_of_ne same] at named
      exact Nat.lt_succ_of_lt (files.bounded other file named)

/-- A file with other contents. -/
def write (files : FileSystem) (file : ℕ) (text : String) : FileSystem :=
  { files with contents := Function.update files.contents file text }

/-- A name stands for what another name stands for. -/
def copyName (files : FileSystem) (source destination : String) : FileSystem :=
  { files with
    names := Function.update files.names destination (files.names source)
    bounded := by
      intro other file named
      by_cases same : other = destination
      · rw [same, Function.update_self] at named
        exact files.bounded source file named
      · rw [Function.update_of_ne same] at named
        exact files.bounded other file named }

/-- A name stands for nothing. -/
def dropName (files : FileSystem) (name : String) : FileSystem :=
  { files with
    names := Function.update files.names name none
    bounded := by
      intro other file named
      by_cases same : other = name
      · rw [same, Function.update_self] at named
        cases named
      · rw [Function.update_of_ne same] at named
        exact files.bounded other file named }

/-- `rename`: two names of one file both stay. -/
def moveName (files : FileSystem) (source destination : String) : FileSystem :=
  if files.names source = files.names destination then files
  else (files.copyName source destination).dropName source

/-! ### What calls are answered with -/

/-- What a call may be answered with, and what it leaves. -/
def Answers {β : Type} (files : FileSystem) (effect : FileCall β) (reply : β) (after : FileSystem) :
    Prop :=
  match effect with
  | .draw => after = files
  | .makeDirectory => after = files
  | .openNew name =>
    match files.names name with
    | some _ => reply = .error .taken ∧ after = files
    | none => reply = .ok files.next ∧ after = files.create name
  | .beginWrite handle => ∃ part, after = files.write handle part
  | .finishWrite handle text =>
    match reply with
    | .ok () => after = files.write handle text
    | .error _ => ∃ part, after = files.write handle part
  | .sync _ => after = files
  | .close _ => after = files
  | .openDirectory => after = files
  | .openRead name =>
    after = files ∧
      match files.names name with
      | none => reply = .error .missing
      | some file => reply ≠ .error .missing ∧ ∀ handle, reply = .ok handle → handle = file
  | .read handle =>
    after = files ∧ reply ≠ .error .missing ∧ ∀ text, reply = .ok text → text = files.contents handle
  | .link source destination =>
    match files.names source, files.names destination with
    | some _, none => reply = .ok () ∧ after = files.copyName source destination
    | some _, some _ => reply = .error .taken ∧ after = files
    | none, some _ => (reply = .error .missing ∨ reply = .error .taken) ∧ after = files
    | none, none => reply = .error .missing ∧ after = files
  | .rename source destination =>
    match files.names source with
    | some _ => reply = .ok () ∧ after = files.moveName source destination
    | none => reply = .error .missing ∧ after = files
  | .remove name =>
    match reply with
    | .ok () => after = files.dropName name
    | .error _ => after = files
  | .unlink name =>
    match reply with
    | .ok () => files.names name ≠ none ∧ after = files.dropName name
    | .error _ => after = files

/-- A file system in which a call fails only for a name. Temporary names are made of `text`. -/
def perform (text : String) {β : Type} (files : FileSystem) : FileCall β → β × FileSystem
  | .draw => (text, files)
  | .makeDirectory => (.ok (), files)
  | .openNew name =>
    match files.names name with
    | some _ => (.error .taken, files)
    | none => (.ok files.next, files.create name)
  | .beginWrite handle => ((), files.write handle "")
  | .finishWrite handle text => (.ok (), files.write handle text)
  | .sync _ => (.ok (), files)
  | .close _ => (.ok (), files)
  | .openDirectory => (.ok 0, files)
  | .openRead name =>
    match files.names name with
    | some file => (.ok file, files)
    | none => (.error .missing, files)
  | .read handle => (.ok (files.contents handle), files)
  | .link source destination =>
    match files.names source, files.names destination with
    | some _, none => (.ok (), files.copyName source destination)
    | some _, some _ => (.error .taken, files)
    | none, _ => (.error .missing, files)
  | .rename source destination =>
    match files.names source with
    | some _ => (.ok (), files.moveName source destination)
    | none => (.error .missing, files)
  | .remove name => (.ok (), files.dropName name)
  | .unlink name =>
    match files.names name with
    | some _ => (.ok (), files.dropName name)
    | none => (.error .missing, files)

theorem perform_truthful (text : String) {β : Type} (files : FileSystem) (effect : FileCall β) :
    Answers files effect (perform text files effect).1 (perform text files effect).2 := by
  cases effect with
  | openNew name | openRead name => cases here : files.names name <;> simp [Answers, perform, here]
  | rename source destination => cases here : files.names source <;> simp [Answers, perform, here]
  | link source destination =>
    cases there : files.names source <;> cases here : files.names destination <;>
      simp [Answers, perform, here, there]
  | unlink name => cases here : files.names name <;> simp [Answers, perform, here]
  | beginWrite handle => exact ⟨"", rfl⟩
  | _ => simp [Answers, perform]

/-! ### What changes do to a name -/

variable (files : FileSystem)

@[simp] theorem names_write (file : ℕ) (text : String) : (files.write file text).names = files.names := rfl

theorem write_write (file : ℕ) (first second : String) :
    (files.write file first).write file second = files.write file second := by
  simp only [write, Function.update_idem]

theorem names_create_self (name : String) : (files.create name).names name = some files.next :=
  Function.update_self _ _ _

theorem names_create {name other : String} (ne : other ≠ name) :
    (files.create name).names other = files.names other := Function.update_of_ne ne _ _

theorem names_dropName {name other : String} (ne : other ≠ name) :
    (files.dropName name).names other = files.names other := Function.update_of_ne ne _ _

theorem names_dropName_self (name : String) : (files.dropName name).names name = none :=
  Function.update_self _ _ _

theorem names_copyName {source destination other : String} (ne : other ≠ destination) :
    (files.copyName source destination).names other = files.names other := Function.update_of_ne ne _ _

theorem names_copyName_self (source destination : String) :
    (files.copyName source destination).names destination = files.names source :=
  Function.update_self _ _ _

theorem lookup_write {name : String} {file : ℕ} (ne : files.names name ≠ some file) (text : String) :
    (files.write file text).lookup name = files.lookup name := by
  unfold lookup
  rw [names_write]
  cases named : files.names name with
  | none => rfl
  | some other =>
    have different : other ≠ file := by
      rintro rfl
      exact ne named
    exact congrArg some (Function.update_of_ne different _ _)

theorem contents_create {file : ℕ} (old : file < files.next) (name : String) :
    (files.create name).contents file = files.contents file :=
  Function.update_of_ne (Nat.ne_of_lt old) _ _

theorem lookup_create {name other : String} (ne : other ≠ name) :
    (files.create name).lookup other = files.lookup other := by
  unfold lookup
  rw [names_create files ne]
  cases named : files.names other with
  | none => rfl
  | some file => exact congrArg some (files.contents_create (files.bounded other file named) name)

theorem lookup_dropName {name other : String} (ne : other ≠ name) :
    (files.dropName name).lookup other = files.lookup other := by
  unfold lookup
  rw [names_dropName files ne]
  rfl

theorem lookup_copyName (source destination : String) :
    (files.copyName source destination).lookup destination = files.lookup source := by
  unfold lookup
  rw [names_copyName_self]
  rfl

/-- A renamed file is found under its new name. -/
theorem lookup_moveName {source destination : String} (ne : destination ≠ source) :
    (files.moveName source destination).lookup destination = files.lookup source := by
  unfold moveName
  by_cases same : files.names source = files.names destination
  · rw [if_pos same, lookup, lookup, same]
  · rw [if_neg same, lookup_dropName _ ne, lookup_copyName]

theorem names_moveName {source destination other : String} (first : other ≠ source)
    (second : other ≠ destination) :
    (files.moveName source destination).names other = files.names other := by
  unfold moveName
  by_cases same : files.names source = files.names destination
  · rw [if_pos same]
  · rw [if_neg same, names_dropName _ first, names_copyName _ second]

end FileSystem

end Foundation
