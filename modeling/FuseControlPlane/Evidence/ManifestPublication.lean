/-
The publication of restart manifests.

* `DurableManifest`: a state, a sequence number, and any other members.
* `canonicalJson`, `bytesOf`: the text of a value with sorted members, and of a manifest.
* `checkTransition`: whether a manifest may replace the one in the file.
* `publishManifestDurably`: take the write lock, write a temporary file, read what is there, link or
  rename the temporary file, and release the lock if all went well.
* `parse_bytesOf`, `parsed_state`, `parsed_sequence`: what a reader of a published manifest finds.
-/

import FuseControlPlane.Foundation.Files
import FuseControlPlane.Foundation.Json

set_option linter.unusedSectionVars false

namespace FuseControlPlane.Evidence

open Foundation Foundation.JavaScript Program

/-! ### Manifests -/

/-- A manifest: `state`, `sequence` and further members of other names. -/
structure DurableManifest where
  state : String
  sequence : ℤ
  others : List (String × Json)
  distinct : ("state" :: "sequence" :: others.map (·.1)).Nodup

/-- The members of a manifest. -/
def DurableManifest.members (value : DurableManifest) : List (String × Json) :=
  ("state", .string value.state) :: ("sequence", .ofInt value.sequence) :: value.others

/-- The manifest as an object. -/
def DurableManifest.toJson (value : DurableManifest) : Json := .object value.members

theorem bare_distinct : ("state" :: "sequence" :: ([] : List (String × Json)).map (·.1)).Nodup := by
  decide

/-- A manifest without further members. -/
def DurableManifest.bare (state : String) (sequence : ℤ) : DurableManifest :=
  ⟨state, sequence, [], bare_distinct⟩

/-- `manifestStateRank[state]`. -/
def manifestStateRank (state : String) : Member :=
  memberOf [("claimed", 0), ("admission_started", 1), ("awaiting_outcome", 2), ("terminal", 3)] state

/-- `manifestStateRank[existing.state]`. A state that is not a text names no member. (The name of an
array is made of its elements; no published file has one.) -/
def rankOf : Option Json → Member
  | some (.string state) => manifestStateRank state
  | _ => .undefined

/-- `sequence === existing.sequence + 1`, for an integer `sequence`. -/
def isNext (sequence : ℤ) : Option Json → Bool
  | some .null => sequence == 1
  | some (.bool value) => sequence == if value then 2 else 1
  | some value => (value.integer?.map (· + 1)) == some sequence
  | none => false

variable [NodeCrypto] [Collation]

/-- The text of a value, the members of its objects sorted with `localeCompare`. -/
def canonicalJson (value : Json) : String :=
  (value.sortKeys fun first second => Collation.localeCompare first second ≤ 0).stringify

/-- `${canonicalJson(value)}\n`. -/
def bytesOf (value : DurableManifest) : String := canonicalJson value.toJson ++ "\n"

/-! ### Publication -/

/-- The errors of a publication: its own checks, and rejected calls. -/
inductive ManifestError
  | invalid
  | publicationBusy
  | createConflict
  | existingInvalid
  | terminalConflict
  | transitionConflict
  | replacementConflict
  /-- The `TypeError` of reading a property of `null`. -/
  | nullExisting
  | file (error : FileError)
  deriving DecidableEq

/-- An error of the publication's checks, not of a call. -/
def ManifestError.isCheck : ManifestError → Bool
  | file _ => false
  | _ => true

/-- `Number.isSafeInteger(value.sequence) && value.sequence >= 1 && manifestStateRank[value.state] !==
undefined`. -/
def isPublishable (value : DurableManifest) : Bool :=
  isSafeInteger value.sequence && decide (1 ≤ value.sequence) &&
    manifestStateRank value.state != .undefined

/-- Whether a manifest may replace what the file holds. -/
def checkTransition (value : DurableManifest) : Json → Except ManifestError Unit
  | .null => .error .nullExisting
  | existing =>
    match existing.field "state" with
    | some (.string "terminal") =>
      .error (if value.state = "terminal" then .terminalConflict else .transitionConflict)
    | state =>
      if !isNext value.sequence (existing.field "sequence") ||
          (manifestStateRank value.state).atMost (rankOf state) then
        .error .transitionConflict
      else .ok ()

/-- An error, and the write lock if it is still open. -/
structure Interrupted where
  error : ManifestError
  lock : Option ℕ

/-- A rejected call while the lock is open. -/
def Interrupted.file (lock : ℕ) (error : FileError) : Interrupted := ⟨.file error, some lock⟩

/-- The text of the write lock. -/
def lockText (path bytes : String) : String :=
  canonicalJson (.object [("schemaVersion", .ofInt 1), ("destination", .string path),
    ("sha256", .string ("sha256:" ++ NodeCrypto.sha256 bytes))]) ++ "\n"

/-- Write and sync the lock; if that fails, close it. -/
def writeLock (path bytes : String) (lock : ℕ) : Program FileCall Interrupted Unit :=
  Program.tryCatch (do
    writeFile (.file lock) lock (lockText path bytes)
    awaitFile (.file lock) (.sync lock))
  fun failed => do
    awaitFile (.file lock) (.close lock)
    throw ⟨failed.error, none⟩

/-- Write and sync the temporary file, and close it. -/
def writeTemporary (temporary bytes : String) (lock : ℕ) : Program FileCall Interrupted Unit := do
  let file ← awaitFile (.file lock) (.openNew temporary)
  tryFinally (do
    writeFile (.file lock) file bytes
    awaitFile (.file lock) (.sync file))
    (awaitFile (.file lock) (.close file))

/-- What the file holds, or `none` if there is no file. -/
def readExisting (path : String) (lock : ℕ) : Program FileCall Interrupted (Option String) := do
  let result ← (readFile id path).attempt
  match result with
  | .ok text => return some text
  | .error .missing => return none
  | .error error => throw (.file lock error)

/-- Link the temporary file, if there is no file yet. -/
def createManifest (path temporary : String) (lock : ℕ) : Program FileCall Interrupted Unit := do
  match ← perform (.link temporary path) with
  | .ok () => return
  | .error .taken => throw ⟨.createConflict, some lock⟩
  | .error error => throw (.file lock error)

/-- Rename the temporary file, if it may replace what the file holds. -/
def replaceManifest (path temporary existingBytes : String) (value : DurableManifest) (lock : ℕ) :
    Program FileCall Interrupted Unit := do
  let existing ← orThrow (Json.parse existingBytes) ⟨.existingInvalid, some lock⟩
  fromExcept ((checkTransition value existing).mapError fun error => ⟨error, some lock⟩)
  let again ← readFile (.file lock) path
  throwUnless (again == existingBytes) ⟨.replacementConflict, some lock⟩
  awaitFile (.file lock) (.rename temporary path)

/-- Put the temporary file in its place, unless the file holds the same text. -/
def placeManifest (path temporary : String) (value : DurableManifest) (lock : ℕ) :
    Program FileCall Interrupted Unit := do
  match ← readExisting path lock with
  | none => do
    createManifest path temporary lock
    syncDirectory (.file lock)
  | some existingBytes =>
    if existingBytes = bytesOf value then return
    else do
      replaceManifest path temporary existingBytes value lock
      syncDirectory (.file lock)

/-- The publication under the write lock. -/
def publishLocked (path temporary : String) (value : DurableManifest) (lock : ℕ) :
    Program FileCall Interrupted Unit := do
  writeLock path (bytesOf value) lock
  syncDirectory (.file lock)
  writeTemporary temporary (bytesOf value) lock
  placeManifest path temporary value lock

/-- What `finally` does with the lock. -/
def releaseLock (lockPath : String) (lock : ℕ) : Program FileCall ManifestError Unit := do
  syncDirectory .file
  awaitFile .file (.close lock)
  awaitFile .file (.unlink lockPath)
  syncDirectory .file

/-- `${path}.write-lock`. -/
def lockPathOf (path : String) : String := path ++ ".write-lock"

/-- A temporary name for a path. -/
def temporaryOf (path text : String) : String := path ++ ".tmp-" ++ text

/-- Publish a manifest. -/
def publishManifestDurably (path : String) (value : DurableManifest) :
    Program FileCall ManifestError Unit := do
  throwUnless (isPublishable value) .invalid
  awaitFile .file .makeDirectory
  let text ← perform .draw
  let temporary := temporaryOf path text
  match ← perform (.openNew (lockPathOf path)) with
  | .error error => do
    awaitFile .file (.remove temporary)
    throw (if error = .taken then .publicationBusy else .file error)
  | .ok lock => do
    let result ← (publishLocked path temporary value lock).attempt
    awaitFile .file (.remove temporary)
    match result with
    | .ok () => releaseLock (lockPathOf path) lock
    | .error failed => do
      if failed.lock.isSome then awaitFile .file (.close lock)
      throw failed.error

/-! ### Names -/

theorem temporaryOf_ne_path (path text : String) : temporaryOf path text ≠ path := by
  intro same
  have length := congrArg (fun name : String => name.toList.length) same
  simp [temporaryOf] at length

theorem lockPathOf_ne_path (path : String) : lockPathOf path ≠ path := by
  intro same
  have length := congrArg (fun name : String => name.toList.length) same
  simp [lockPathOf] at length

theorem temporaryOf_ne_lockPathOf (path text : String) : temporaryOf path text ≠ lockPathOf path := by
  intro same
  have letters := congrArg String.toList same
  simp only [temporaryOf, lockPathOf, String.toList_append, List.append_assoc] at letters
  have rest : '.' :: 't' :: _ = '.' :: 'w' :: _ := List.append_cancel_left letters
  cases rest

/-! ### Reading what was published -/

theorem newline_blank : ∀ character ∈ "\n".toList, Json.isSpace character = true := by
  intro character within
  have shape : character = '\n' := by simpa using within
  rw [shape]
  rfl

/-- The value a reader finds in a published file. -/
def DurableManifest.parsed (value : DurableManifest) : Json :=
  value.toJson.sortKeys fun first second => Collation.localeCompare first second ≤ 0

theorem parse_bytesOf (value : DurableManifest) :
    Json.parse (bytesOf value) = some value.parsed :=
  Json.parse_stringify_append _ newline_blank

theorem parsed_member (value : DurableManifest) {name : String} {inner : Json}
    (member : (name, inner) ∈ value.members) : value.parsed.field name =
      some (inner.sortKeys fun first second => Collation.localeCompare first second ≤ 0) := by
  have distinct : (value.members.map (·.1)).Nodup := value.distinct
  exact Json.field_sortKeys _ distinct member

theorem parsed_state (value : DurableManifest) :
    value.parsed.field "state" = some (.string value.state) :=
  parsed_member value List.mem_cons_self

theorem parsed_sequence (value : DurableManifest) :
    value.parsed.field "sequence" = some (.ofInt value.sequence) :=
  parsed_member value (List.mem_cons_of_mem _ List.mem_cons_self)

theorem parsed_object (value : DurableManifest) : ∃ members, value.parsed = .object members :=
  ⟨_, rfl⟩

/-- Manifests with the same bytes have the same state and sequence. -/
theorem state_of_bytesOf {first second : DurableManifest} (same : bytesOf first = bytesOf second) :
    first.state = second.state := by
  have parsed := parse_bytesOf first
  rw [same, parse_bytesOf] at parsed
  have state := parsed_state first
  rw [← Option.some.inj parsed, parsed_state] at state
  exact (Json.string.inj (Option.some.inj state)).symm

/-- What a passed check says of the manifest in the file. -/
theorem checkTransition_ok {value existing : DurableManifest}
    (passed : checkTransition value existing.parsed = .ok ()) :
    existing.state ≠ "terminal" ∧ value.sequence = existing.sequence + 1 ∧
      (manifestStateRank value.state).atMost (manifestStateRank existing.state) = false := by
  obtain ⟨members, shape⟩ := parsed_object existing
  have state := parsed_state existing
  have sequence := parsed_sequence existing
  rw [shape] at state sequence passed
  simp only [checkTransition, state, sequence] at passed
  split at passed
  · cases passed
  · next found =>
    split at passed
    · cases passed
    · next fits =>
      simp only [Bool.or_eq_true, Bool.not_eq_true', not_or, Bool.not_eq_false,
        Bool.not_eq_true] at fits
      refine ⟨?_, ?_, fits.2⟩
      · intro terminal
        exact found (by rw [terminal])
      · have next : ((Json.ofInt existing.sequence).integer?.map (· + 1) == some value.sequence) =
            true := fits.1
        rw [Json.integer?_ofInt, beq_iff_eq] at next
        exact (Option.some.inj next).symm

/-- When a manifest may replace the one in the file. -/
theorem checkTransition_of {value existing : DurableManifest} (open_ : existing.state ≠ "terminal")
    (next : value.sequence = existing.sequence + 1)
    (higher : (manifestStateRank value.state).atMost (manifestStateRank existing.state) = false) :
    checkTransition value existing.parsed = .ok () := by
  obtain ⟨members, shape⟩ := parsed_object existing
  have state := parsed_state existing
  have sequence := parsed_sequence existing
  have follows : isNext value.sequence (some (.ofInt existing.sequence)) = true := by
    show ((Json.ofInt existing.sequence).integer?.map (· + 1) == some value.sequence) = true
    rw [Json.integer?_ofInt, next]
    exact beq_self_eq_true _
  rw [shape] at state sequence ⊢
  simp only [checkTransition, state, sequence]
  split
  · next same => exact absurd (Json.string.inj (Option.some.inj same)) open_
  · have rank : (manifestStateRank value.state).atMost (rankOf (some (.string existing.state))) =
        false := higher
    rw [follows, rank]
    rfl

end FuseControlPlane.Evidence
