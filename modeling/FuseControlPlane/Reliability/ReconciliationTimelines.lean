/-
Timelines of ambiguous requests (`executeConcurrentReconciliation` of `reliability/operationalV2.ts`).

Every request is looked up at its own offsets, one timeline for each, all at the same time. The callbacks
may answer as they like and may reject at any call; they share a store of any kind.

* `reconciliationWindow`: the times of an offset.
* `lookUpAt`: one offset of one request, the body of the `try` block.
* `timeline`: the offsets of a request in order, until a lookup is terminal.
* `executeConcurrentReconciliation`: the timelines, by the position of their request.
* `Backed`, `Stops`: what is expected of the calls of a timeline.
* `timelines_allowed`: **every lookup is at a later sealed offset than the one before, authorized and with
  a persisted start**; there is none after a terminal one unless a failure was persisted since.
* `timelines_independent`: **the calls for a request depend on the replies to them alone.**
* `concurrent_reconciliation`: **after a terminal lookup there is no other**, in runs in which no failure
  is persisted after a terminal lookup and before the last offset; `timelines_go_on`: else there may be.
-/

import FuseControlPlane.Foundation.Histories
import FuseControlPlane.Reliability.ReconciliationPlans
import FuseControlPlane.Reliability.SchedulerClaims

set_option linter.unusedSectionVars false

namespace FuseControlPlane.Reliability

open Foundation Foundation.JavaScript Program

/-! ### Windows -/

/-- The times of an offset. -/
structure ReconciliationWindow where
  scheduledAt : String
  startsBefore : String
  evidenceCutoff : String
  classificationDeadline : String

/-- `new Date(milliseconds).toISOString()`, which throws for a time that is none. -/
def isoText (milliseconds : ℤ) : Except Thrown String :=
  if milliseconds.natAbs ≤ 8640000000000000 then .ok (toISOString milliseconds)
  else .error (.error "Invalid time value")

/-- The window of an offset; `ambiguityEnteredAt` is the time its text parses to, if it does. -/
def reconciliationWindow (ambiguityEnteredAt : Option ℤ) (offsetSeconds : ℤ) :
    Except Thrown ReconciliationWindow := do
  if reconciliationOffsetsSeconds.contains offsetSeconds = false then
    throw (.error "RECONCILIATION_OFFSET_INVALID")
  match ambiguityEnteredAt with
  | none => throw (.error "AMBIGUITY_TIME_INVALID")
  | some entered =>
    return {
      scheduledAt := ← isoText (entered + offsetSeconds * 1000)
      startsBefore := ← isoText (entered + offsetSeconds * 1000 + 1000)
      evidenceCutoff := ← isoText (entered + 86400000)
      classificationDeadline := ← isoText (entered + 86431000) }

/-! ### Calls -/

structure ReconciliationSchedulerRequest where
  requestId : String
  generationId : Option String
  ambiguityEnteredAt : Option ℤ
  deriving DecidableEq

structure ReconciliationOffsetAuthorization where
  credentialId : String
  authorizationSha256 : String
  deriving DecidableEq

/-- What a lookup reports. -/
structure LookupOutcome where
  disposition : String
  terminal : Option Bool
  deriving DecidableEq

/-- `outcome.terminal || outcome.disposition === "terminal"`. -/
def LookupOutcome.isTerminal (outcome : LookupOutcome) : Bool :=
  outcome.terminal == some true || outcome.disposition == "terminal"

inductive SchedulerPhase
  | authorized | lookupStarted | lookupFinished | failed
  deriving DecidableEq

/-- What is persisted of a phase. -/
structure PhaseRecord where
  requestId : String
  offsetSeconds : ℤ
  phase : SchedulerPhase
  measuredAtMs : ℤ
  authorization : Option ReconciliationOffsetAuthorization
  disposition : Option String
  errorCode : Option String
  deriving DecidableEq

/-- The record with the time it was measured at. -/
def PhaseRecord.measured (record : PhaseRecord) (measuredAtMs : ℤ) : PhaseRecord :=
  { record with measuredAtMs := measuredAtMs }

/-- The callbacks, and the clock. -/
inductive ReconciliationCall : Type → Type
  | now : ReconciliationCall ℤ
  | authorizeOffset (requestId : String) (offsetSeconds : ℤ) :
    ReconciliationCall (Except Thrown ReconciliationOffsetAuthorization)
  | waitUntil (scheduledAt : String) : ReconciliationCall (Except Thrown Unit)
  | lookup (request : ReconciliationSchedulerRequest) (offsetSeconds : ℤ)
      (authorization : ReconciliationOffsetAuthorization) :
    ReconciliationCall (Except Thrown LookupOutcome)
  | persistPhase (record : PhaseRecord) : ReconciliationCall (Except Thrown Unit)

/-- A program of these calls. -/
abbrev Scheduling (α : Type) : Type 1 := Program ReconciliationCall Thrown α

/-- A callback whose rejection is thrown. -/
def awaitCallback {α : Type} (effect : ReconciliationCall (Except Thrown α)) : Scheduling α := do
  let reply ← perform effect
  fromExcept reply

/-- `persistPhase` with the time of the clock. -/
def persistPhase (record : PhaseRecord) : Scheduling Unit := do
  let measuredAtMs ← perform .now
  awaitCallback (.persistPhase (record.measured measuredAtMs))

/-- `credentialId.trim()` is not empty and the fingerprint is one. -/
def ReconciliationOffsetAuthorization.isValid (authorization : ReconciliationOffsetAuthorization) :
    Bool :=
  !isBlank authorization.credentialId && isManifestDigest authorization.authorizationSha256

/-! ### Timelines -/

/-- One offset of a request, and whether its lookup was terminal. -/
def lookUpAt (request : ReconciliationSchedulerRequest) (offsetSeconds : ℤ) : Scheduling Bool := do
  throwUnless (reconciliationOffsetsSeconds.contains offsetSeconds)
    (.error "RECONCILIATION_OFFSET_INVALID")
  let window ← fromExcept (reconciliationWindow request.ambiguityEnteredAt offsetSeconds)
  let authorization ← awaitCallback (.authorizeOffset request.requestId offsetSeconds)
  throwUnless authorization.isValid (.error "RECONCILIATION_OFFSET_AUTHORIZATION_INVALID")
  persistPhase ⟨request.requestId, offsetSeconds, .authorized, 0, some authorization, none, none⟩
  awaitCallback (.waitUntil window.scheduledAt)
  persistPhase ⟨request.requestId, offsetSeconds, .lookupStarted, 0, some authorization, none, none⟩
  let outcome ← awaitCallback (.lookup request offsetSeconds authorization)
  persistPhase ⟨request.requestId, offsetSeconds, .lookupFinished, 0, some authorization,
    some outcome.disposition, none⟩
  return outcome.isTerminal

/-- What a timeline adds to the counters. -/
structure TimelineCounts where
  terminal : ℕ
  failed : ℕ
  deriving DecidableEq

/-- The offsets of a request, one after the other, until a lookup is terminal. -/
def timeline (request : ReconciliationSchedulerRequest) : List ℤ → Scheduling TimelineCounts
  | [] => return ⟨0, 0⟩
  | offsetSeconds :: rest => do
    match ← (lookUpAt request offsetSeconds).attempt with
    | .ok true => return ⟨1, 0⟩
    | .ok false => timeline request rest
    | .error thrown => do
      persistPhase ⟨request.requestId, offsetSeconds, .failed, 0, none, none,
        some (thrown.messageOr "RECONCILIATION_SCHEDULER_FAILURE")⟩
      let counts ← timeline request rest
      return ⟨counts.terminal, counts.failed + 1⟩

/-- The timelines, with the default offsets. -/
def executeConcurrentReconciliation (requests : List ReconciliationSchedulerRequest)
    (index : Fin requests.length) : Scheduling TimelineCounts :=
  timeline (requests.get index) reconciliationOffsetsSeconds

/-! ### What is expected of the calls -/

/-- A lookup that was made, and whether it reported a terminal outcome. -/
structure Lookup where
  offsetSeconds : ℤ
  terminal : Bool
  deriving DecidableEq

/-- The lookup a call makes. -/
def lookupOf : Event ReconciliationCall → Option Lookup
  | ⟨.lookup _ offsetSeconds _, .ok outcome⟩ => some ⟨offsetSeconds, outcome.isTerminal⟩
  | ⟨.lookup _ offsetSeconds _, .error _⟩ => some ⟨offsetSeconds, false⟩
  | _ => none

/-- The lookups of a history, in order. -/
def lookupsOf (history : List (Event ReconciliationCall)) : List Lookup := history.filterMap lookupOf

/-- A call that authorizes an offset. -/
def Authorizes (requestId : String) (offsetSeconds : ℤ)
    (authorization : ReconciliationOffsetAuthorization) (event : Event ReconciliationCall) : Prop :=
  event = ⟨.authorizeOffset requestId offsetSeconds, .ok authorization⟩

/-- A call that persists the start of a lookup. -/
def PersistsStart (requestId : String) (offsetSeconds : ℤ) (event : Event ReconciliationCall) : Prop :=
  ∃ record : PhaseRecord, event = ⟨.persistPhase record, .ok ()⟩ ∧ record.requestId = requestId ∧
    record.offsetSeconds = offsetSeconds ∧ record.phase = .lookupStarted

/-- A lookup is for this request, at a sealed offset after the ones of the lookups before it, with a valid
authorization and a persisted start. -/
def Backed (request : ReconciliationSchedulerRequest) (before : List (Event ReconciliationCall))
    (event : Event ReconciliationCall) : Prop :=
  match event with
  | ⟨.lookup asked offsetSeconds authorization, _⟩ =>
    asked = request ∧ offsetSeconds ∈ reconciliationOffsetsSeconds ∧
    (∀ earlier ∈ lookupsOf before, earlier.offsetSeconds < offsetSeconds) ∧
    authorization.isValid = true ∧
    (∃ authorizes ∈ before, Authorizes request.requestId offsetSeconds authorization authorizes) ∧
    ∃ starts ∈ before, PersistsStart request.requestId offsetSeconds starts
  | _ => True

/-- No lookup but the last one was terminal. -/
def Stops (history : List (Event ReconciliationCall)) : Prop :=
  ∀ lookup ∈ (lookupsOf history).dropLast, lookup.terminal = false

instance (history : List (Event ReconciliationCall)) : Decidable (Stops history) := by
  unfold Stops
  infer_instance

/-- A failure is persisted after a terminal lookup, and the offset is not the last one. -/
def Reopens (before : List (Event ReconciliationCall)) (event : Event ReconciliationCall) : Prop :=
  match event with
  | ⟨.persistPhase record, .ok ()⟩ =>
    record.phase = .failed ∧ record.offsetSeconds ≠ 86300 ∧
      ⟨record.offsetSeconds, true⟩ ∈ lookupsOf before
  | _ => False

/-- A failure was persisted after a terminal lookup. -/
def Reopened (history : List (Event ReconciliationCall)) : Prop :=
  ∃ before event rest, history = before ++ event :: rest ∧ Reopens before event

/-! ### Histories -/

section Histories

variable {history before added rest : List (Event ReconciliationCall)}
  {event : Event ReconciliationCall}

theorem lookupsOf_append (first second : List (Event ReconciliationCall)) :
    lookupsOf (first ++ second) = lookupsOf first ++ lookupsOf second := List.filterMap_append ..

theorem lookupsOf_concat_of_none (none_of : lookupOf event = none) :
    lookupsOf (history ++ [event]) = lookupsOf history := by
  rw [lookupsOf_append, show lookupsOf [event] = [] by simp [lookupsOf, none_of], List.append_nil]

theorem Reopened.append (reopened : Reopened history) (added : List (Event ReconciliationCall)) :
    Reopened (history ++ added) := by
  obtain ⟨before, event, rest, rfl, reopens⟩ := reopened
  exact ⟨before, event, rest ++ added, by simp, reopens⟩

/-- A lookup after a terminal one. -/
theorem later_lookup_of_not_stops (goes : ¬ Stops history) :
    ∃ before event rest, history = before ++ event :: rest ∧ (lookupOf event).isSome = true ∧
      ∃ lookup ∈ lookupsOf before, lookup.terminal = true := by
  induction history using List.reverseRecOn with
  | nil => exact absurd (fun lookup member => by cases member) goes
  | append_singleton history last ih =>
    cases looks : lookupOf last with
    | none =>
      unfold Stops at goes
      rw [lookupsOf_concat_of_none looks] at goes
      obtain ⟨before, event, rest, rfl, later, terminal⟩ := ih goes
      exact ⟨before, event, rest ++ [last], by simp, later, terminal⟩
    | some lookup =>
      refine ⟨history, last, [], rfl, by rw [looks]; rfl, ?_⟩
      by_contra quiet
      refine goes fun earlier member => ?_
      rw [lookupsOf_append, show lookupsOf [last] = [lookup] by simp [lookupsOf, looks],
        List.dropLast_concat] at member
      by_contra terminal
      exact quiet ⟨earlier, member, Bool.not_eq_false _ ▸ terminal⟩

/-- After a terminal lookup a failure was persisted. -/
def Excused (history : List (Event ReconciliationCall)) : Prop :=
  (∃ lookup ∈ lookupsOf history, lookup.terminal = true) → Reopened history

/-- What the calls of a timeline keep to. -/
def Allowed (request : ReconciliationSchedulerRequest) (before : List (Event ReconciliationCall))
    (event : Event ReconciliationCall) : Prop :=
  Backed request before event ∧ ((lookupOf event).isSome = true → Excused before)

end Histories

/-! ### What timelines keep to -/

section Timelines

variable {request : ReconciliationSchedulerRequest} {α β : Type}
  {history : List (Event ReconciliationCall)}
  {post : Except Thrown β → List (Event ReconciliationCall) → Prop}

/-- A callback other than a lookup. -/
theorem keeps_awaitCallback {effect : ReconciliationCall (Except Thrown α)} {second : α → Scheduling β}
    (allowed : ∀ reply, Allowed request history ⟨effect, reply⟩)
    (returned : ∀ value, Keeps (guarded (Allowed request)) post (history ++ [⟨effect, .ok value⟩])
      (second value))
    (threw : ∀ error, post (.error error) (history ++ [⟨effect, .error error⟩])) :
    Keeps (guarded (Allowed request)) post history (awaitCallback effect >>= second) := by
  refine .call fun reply => ⟨_, guarded_of_allowed (allowed reply), ?_⟩
  cases reply with
  | ok value => exact returned value
  | error error => exact .fail (threw error)

/-- The calls of `persistPhase`. -/
def persisting (record : PhaseRecord) (measuredAtMs : ℤ) (reply : Except Thrown Unit) :
    List (Event ReconciliationCall) :=
  [⟨.now, measuredAtMs⟩, ⟨.persistPhase (record.measured measuredAtMs), reply⟩]

theorem keeps_persistPhase {record : PhaseRecord} {second : Unit → Scheduling β}
    (returned : ∀ measuredAtMs, Keeps (guarded (Allowed request)) post
      (history ++ persisting record measuredAtMs (.ok ())) (second ()))
    (threw : ∀ measuredAtMs error,
      post (.error error) (history ++ persisting record measuredAtMs (.error error))) :
    Keeps (guarded (Allowed request)) post history (persistPhase record >>= second) := by
  have clock : ∀ measuredAtMs : ℤ, Allowed request history ⟨.now, measuredAtMs⟩ :=
    fun _ => ⟨trivial, fun looks => by cases looks⟩
  refine .call fun measuredAtMs => ⟨_, guarded_of_allowed (clock measuredAtMs), ?_⟩
  refine keeps_awaitCallback (fun reply => ⟨trivial, fun looks => by cases looks⟩)
    (fun _ => ?_) fun error => ?_
  · have rest := returned measuredAtMs
    rw [persisting, ← List.singleton_append, ← List.append_assoc] at rest
    exact rest
  · have rest := threw measuredAtMs error
    rw [persisting, ← List.singleton_append, ← List.append_assoc] at rest
    exact rest

theorem persistsStart_persisting (record : PhaseRecord) (measuredAtMs : ℤ)
    (starts : record.phase = .lookupStarted) : ∃ event ∈ persisting record measuredAtMs (.ok ()),
      PersistsStart record.requestId record.offsetSeconds event :=
  ⟨_, List.mem_cons_of_mem _ List.mem_cons_self, record.measured measuredAtMs, rfl, rfl, rfl, starts⟩

/-- A lookup that is authorized and started. -/
theorem keeps_lookup {offsetSeconds : ℤ} {authorization : ReconciliationOffsetAuthorization}
    {added : List (Event ReconciliationCall)} {second : LookupOutcome → Scheduling β}
    (member : offsetSeconds ∈ reconciliationOffsetsSeconds)
    (below : ∀ lookup ∈ lookupsOf history, lookup.offsetSeconds < offsetSeconds)
    (excused : Excused history) (quiet : lookupsOf added = []) (valid : authorization.isValid = true)
    (authorized : ∃ event ∈ added, Authorizes request.requestId offsetSeconds authorization event)
    (started : ∃ event ∈ added, PersistsStart request.requestId offsetSeconds event)
    (returned : ∀ outcome, Keeps (guarded (Allowed request)) post
      (history ++ added ++ [⟨.lookup request offsetSeconds authorization, .ok outcome⟩])
      (second outcome))
    (threw : ∀ error, post (.error error)
      (history ++ added ++ [⟨.lookup request offsetSeconds authorization, .error error⟩])) :
    Keeps (guarded (Allowed request)) post (history ++ added)
      (awaitCallback (.lookup request offsetSeconds authorization) >>= second) := by
  have same : lookupsOf (history ++ added) = lookupsOf history := by
    rw [lookupsOf_append, quiet, List.append_nil]
  refine keeps_awaitCallback (fun _ => ⟨⟨rfl, member, ?_, valid, ?_, ?_⟩, fun _ => ?_⟩) returned threw
  · rw [same]
    exact below
  · obtain ⟨event, within, authorizes⟩ := authorized
    exact ⟨event, List.mem_append_right _ within, authorizes⟩
  · obtain ⟨event, within, starts⟩ := started
    exact ⟨event, List.mem_append_right _ within, starts⟩
  · unfold Excused
    rw [same]
    exact fun terminal => (excused terminal).append added

/-- An offset ends with at most one lookup of its own; it returns what this one reported. -/
def Looked (start : List (Event ReconciliationCall)) (offsetSeconds : ℤ) :
    Except Thrown Bool → List (Event ReconciliationCall) → Prop
  | .ok terminal, later => ∃ added, later = start ++ added ∧ lookupsOf added = [⟨offsetSeconds, terminal⟩]
  | .error _, later => ∃ added, later = start ++ added ∧
      (lookupsOf added = [] ∨ ∃ terminal, lookupsOf added = [⟨offsetSeconds, terminal⟩])

theorem lookUpAt_keeps {offsetSeconds : ℤ}
    (below : ∀ lookup ∈ lookupsOf history, lookup.offsetSeconds < offsetSeconds)
    (excused : Excused history) :
    Keeps (guarded (Allowed request)) (Looked history offsetSeconds) history
      (lookUpAt request offsetSeconds) := by
  have idle : ∀ {added : List (Event ReconciliationCall)} {error : Thrown}, lookupsOf added = [] →
      Looked history offsetSeconds (.error error) (history ++ added) :=
    fun none_of => ⟨_, rfl, .inl none_of⟩
  have unheard : Looked history offsetSeconds (.error .other) history :=
    ⟨[], (List.append_nil _).symm, .inl rfl⟩
  unfold lookUpAt
  refine .throwUnless (fun listed => ?_) fun _ => unheard
  have member : offsetSeconds ∈ reconciliationOffsetsSeconds := List.contains_iff_mem.mp listed
  refine .fromExcept (fun window _ => ?_) fun _ _ => unheard
  refine keeps_awaitCallback (fun _ => ⟨trivial, fun looks => by cases looks⟩)
    (fun authorization => ?_) fun _ => idle rfl
  refine .throwUnless (fun valid => ?_) fun _ => idle rfl
  refine keeps_persistPhase (fun authorizedAt => ?_) fun _ _ => ?_
  on_goal 2 => rw [List.append_assoc]; exact idle rfl
  refine keeps_awaitCallback (fun _ => ⟨trivial, fun looks => by cases looks⟩) (fun _ => ?_) fun _ => ?_
  on_goal 2 => simp only [List.append_assoc]; exact idle rfl
  refine keeps_persistPhase (fun startedAt => ?_) fun _ _ => ?_
  on_goal 2 => simp only [List.append_assoc]; exact idle rfl
  simp only [List.append_assoc]
  refine keeps_lookup member below excused rfl valid ⟨_, .head _, rfl⟩ ?_ (fun outcome => ?_)
    fun _ => ?_
  · obtain ⟨event, within, starts⟩ := persistsStart_persisting
      ⟨request.requestId, offsetSeconds, .lookupStarted, 0, some authorization, none, none⟩ startedAt rfl
    exact ⟨event, by simp [within], starts⟩
  · refine keeps_persistPhase (fun finishedAt => ?_) fun _ _ => ?_
    · simp only [List.append_assoc]
      exact .done ⟨_, rfl, rfl⟩
    · simp only [List.append_assoc]
      exact ⟨_, rfl, .inr ⟨outcome.isTerminal, rfl⟩⟩
  · exact ⟨_, List.append_assoc .., .inr ⟨_, rfl⟩⟩

theorem offset_le {offset : ℤ} (listed : offset ∈ reconciliationOffsetsSeconds) : offset ≤ 86300 := by
  have each : ∀ offset ∈ reconciliationOffsetsSeconds, offset ≤ 86300 := by decide
  exact each offset listed

/-- The lookups of an offset come before the later offsets. -/
theorem below_append {added : List (Event ReconciliationCall)} {offset : ℤ} {rest : List ℤ}
    (below : ∀ lookup ∈ lookupsOf history, ∀ later ∈ offset :: rest, lookup.offsetSeconds < later)
    (first : ∀ later ∈ rest, offset < later)
    (some_of : lookupsOf added = [] ∨ ∃ terminal, lookupsOf added = [⟨offset, terminal⟩]) :
    ∀ lookup ∈ lookupsOf (history ++ added), ∀ later ∈ rest, lookup.offsetSeconds < later := by
  intro lookup member later within
  rw [lookupsOf_append, List.mem_append] at member
  rcases member with old | new
  · exact below lookup old later (List.mem_cons_of_mem _ within)
  · rcases some_of with none_of | ⟨terminal, one⟩
    · rw [none_of] at new
      cases new
    · rw [one, List.mem_singleton] at new
      rw [new]
      exact first later within

theorem Excused.append {added : List (Event ReconciliationCall)} {offset : ℤ}
    (excused : Excused history)
    (open_ : lookupsOf added = [] ∨ lookupsOf added = [⟨offset, false⟩]) :
    Excused (history ++ added) := by
  rintro ⟨lookup, member, terminal⟩
  rw [lookupsOf_append, List.mem_append] at member
  rcases member with old | new
  · exact (excused ⟨lookup, old, terminal⟩).append added
  · rcases open_ with none_of | one
    · rw [none_of] at new
      cases new
    · rw [one, List.mem_singleton] at new
      rw [new] at terminal
      cases terminal

/-- A failure that was persisted excuses the lookups after it. -/
theorem Excused.persisted {added : List (Event ReconciliationCall)} {record : PhaseRecord}
    (excused : Excused history) (failedAt : ℤ) (failure : record.phase = .failed)
    (some_of : lookupsOf added = [] ∨ ∃ terminal, lookupsOf added = [⟨record.offsetSeconds, terminal⟩])
    (early : record.offsetSeconds ≠ 86300) :
    Excused (history ++ added ++ persisting record failedAt (.ok ())) := by
  rintro ⟨lookup, member, terminal⟩
  rw [lookupsOf_append, show lookupsOf (persisting record failedAt (.ok ())) = [] from rfl,
    List.append_nil, lookupsOf_append, List.mem_append] at member
  rcases member with old | new
  · exact ((excused ⟨lookup, old, terminal⟩).append added).append _
  · rcases some_of with none_of | ⟨reported, one⟩
    · rw [none_of] at new
      cases new
    · rw [one, List.mem_singleton] at new
      rw [new] at terminal
      have reports : reported = true := terminal
      subst reports
      refine ⟨history ++ added ++ [⟨.now, failedAt⟩],
        ⟨.persistPhase (record.measured failedAt), .ok ()⟩, [], by simp [persisting], ?_⟩
      have heard : ⟨record.offsetSeconds, true⟩ ∈ lookupsOf (history ++ added ++ [⟨.now, failedAt⟩]) := by
        rw [lookupsOf_concat_of_none rfl, lookupsOf_append, one]
        exact List.mem_append_right _ List.mem_cons_self
      exact ⟨failure, early, heard⟩

/-- **Every call of a timeline is allowed.** -/
theorem timeline_keeps {offsets : List ℤ} (rising : offsets.Pairwise (· < ·))
    (sealedOffsets : ∀ offset ∈ offsets, offset ∈ reconciliationOffsetsSeconds)
    (below : ∀ lookup ∈ lookupsOf history, ∀ offset ∈ offsets, lookup.offsetSeconds < offset)
    (excused : offsets = [] ∨ Excused history) :
    Keeps (guarded (Allowed request)) (fun _ _ => True) history (timeline request offsets) := by
  induction offsets generalizing history with
  | nil => exact .done trivial
  | cons offset rest ih =>
    have here : Excused history := excused.resolve_left (List.cons_ne_nil _ _)
    obtain ⟨first, later⟩ := List.pairwise_cons.mp rising
    have tail := fun other member => sealedOffsets other (List.mem_cons_of_mem _ member)
    have looked : Keeps (guarded (Allowed request)) (Looked history offset) history
        (lookUpAt request offset) :=
      lookUpAt_keeps (fun lookup member => below lookup member offset List.mem_cons_self) here
    refine .attempt looked fun result after ended => ?_
    cases result with
    | ok terminal =>
      obtain ⟨added, rfl, one⟩ := ended
      cases terminal with
      | true => exact .done trivial
      | false =>
        exact ih later tail (below_append below first (.inr ⟨false, one⟩))
          (.inr (here.append (.inr one)))
    | error thrown =>
      obtain ⟨added, rfl, some_of⟩ := ended
      refine keeps_persistPhase (fun failedAt => ?_) fun _ _ => trivial
      refine .bind (ih later tail ?_ ?_) (fun _ _ _ => .done trivial) fun _ _ _ => trivial
      · rw [lookupsOf_append, show lookupsOf (persisting _ failedAt (.ok ())) = [] from rfl,
          List.append_nil]
        exact below_append below first some_of
      · by_cases last : rest = []
        · exact .inl last
        · refine .inr (here.persisted failedAt rfl some_of ?_)
          show offset ≠ 86300
          obtain ⟨next, within⟩ := List.exists_mem_of_ne_nil rest last
          exact ne_of_lt ((first next within).trans_le (offset_le (tail next within)))

end Timelines

/-! ### Runs -/

section Runs

variable {σ : Type} {answers : {β : Type} → σ → ReconciliationCall β → β → σ → Prop}
  {moves : σ → σ → Prop} {store : σ} {requests : List ReconciliationSchedulerRequest}
  {world : World ReconciliationCall σ Thrown TimelineCounts (Fin requests.length)}

/-- Every call of every timeline is allowed, whatever the callbacks answer. -/
theorem timelines_allowed (reached : World.Reachable answers moves
      (World.start store (executeConcurrentReconciliation requests)) world)
    (index : Fin requests.length) {before rest : List (Event ReconciliationCall)}
    {event : Event ReconciliationCall} (split : (world.process index).history = before ++ event :: rest) :
    Allowed (requests.get index) before event := by
  have each : ∀ name, Keeps (guarded (Allowed (requests.get name))) (fun _ _ => True) []
      (executeConcurrentReconciliation requests name) := fun name =>
    timeline_keeps (by decide) (fun _ listed => listed) (fun _ member => by cases member)
      (.inr fun ⟨_, member, _⟩ => by cases member)
  exact reached.guarded each index split

/-- **Terminal lookups are the last ones**, unless a failure is persisted after one. -/
theorem timelines_stop (reached : World.Reachable answers moves
      (World.start store (executeConcurrentReconciliation requests)) world)
    (index : Fin requests.length) (never : ¬ Reopened (world.process index).history) :
    Stops (world.process index).history := by
  by_contra goes
  obtain ⟨before, event, rest, split, looks, terminal⟩ := later_lookup_of_not_stops goes
  have reopened := (timelines_allowed reached index split).2 looks terminal
  rw [split] at never
  exact never (reopened.append (event :: rest))

/-- The calls of a timeline are the same in every run in which they are answered alike: as far as both
go, and altogether where both are over. -/
def Independent (request : ReconciliationSchedulerRequest)
    (process : Process ReconciliationCall Thrown TimelineCounts) : Prop :=
  ∀ (τ : Type) (answers : {β : Type} → τ → ReconciliationCall β → β → τ → Prop) (moves : τ → τ → Prop)
    (store : τ) (requests : List ReconciliationSchedulerRequest)
    (world : World ReconciliationCall τ Thrown TimelineCounts (Fin requests.length))
    (index : Fin requests.length)
    (behave : List (Event ReconciliationCall) → {β : Type} → ReconciliationCall β → β),
    World.Reachable answers moves (World.start store (executeConcurrentReconciliation requests)) world →
    requests.get index = request → Scripted behave [] process.history →
    Scripted behave [] (world.process index).history →
    (process.history <+: (world.process index).history ∨
      (world.process index).history <+: process.history) ∧
    (process.program.goesOn = false → (world.process index).program.goesOn = false →
      process.history = (world.process index).history ∧
      process.program = (world.process index).program)

/-- **Timelines do not depend on each other.** -/
theorem timelines_independent (reached : World.Reachable answers moves
      (World.start store (executeConcurrentReconciliation requests)) world)
    (index : Fin requests.length) : Independent (requests.get index) (world.process index) := by
  intro τ others moved begun requested elsewhere position behave other same scripted also
  have here := reached.path index
  have there := other.path position
  unfold executeConcurrentReconciliation at here there
  rw [same] at there
  refine ⟨?_, here.unique there scripted also⟩
  rcases here.comparable there scripted also with ⟨more, longer, _⟩ | ⟨more, longer, _⟩
  · exact .inl ⟨more, longer.symm⟩
  · exact .inr ⟨more, longer.symm⟩

/-- **Concurrent reconciliation.** In every run in which no failure is persisted after a terminal lookup
and before the last offset, the lookups of every request are in order and backed, the terminal one is the
last, and its calls depend on the replies to them alone. -/
theorem concurrent_reconciliation (reached : World.ReachableAlong answers moves
      (World.EachEvent fun before event => ¬ Reopens before event)
      (World.start store (executeConcurrentReconciliation requests)) world)
    (index : Fin requests.length) :
    (∀ before event rest, (world.process index).history = before ++ event :: rest →
      Backed (requests.get index) before event) ∧
    Stops (world.process index).history ∧ Independent (requests.get index) (world.process index) := by
  refine ⟨fun before event rest split => (timelines_allowed reached.reachable index split).1,
    timelines_stop reached.reachable index ?_, timelines_independent reached.reachable index⟩
  rintro ⟨before, event, rest, split, reopens⟩
  exact reached.each_event index split reopens

end Runs

namespace Sample

/-- A request that became ambiguous at the beginning of 1970. -/
def ambiguous : ReconciliationSchedulerRequest := ⟨"request", some "generation", some 0⟩

/-- Callbacks whose lookups are terminal. They do not persist a phase named here. -/
def callbacks (unpersisted : SchedulerPhase) {β : Type} (store : Unit) :
    ReconciliationCall β → β × Unit
  | .now => (0, store)
  | .authorizeOffset _ _ =>
    (.ok ⟨"reconciler", "sha256:" ++ String.ofList (List.replicate 64 'a')⟩, store)
  | .waitUntil _ => (.ok (), store)
  | .lookup _ _ _ => (.ok ⟨"terminal", some true⟩, store)
  | .persistPhase record =>
    (if record.phase = unpersisted then .error (.error "PERSIST_FAILED") else .ok (), store)

/-- What these callbacks answer. -/
def Answered (unpersisted : SchedulerPhase) {β : Type} (store : Unit) (effect : ReconciliationCall β)
    (reply : β) (_after : Unit) : Prop := reply = (callbacks unpersisted store effect).1

/-- A run of that many calls. -/
def scheduled (unpersisted : SchedulerPhase) (count : ℕ) :
    World ReconciliationCall Unit Thrown TimelineCounts (Fin [ambiguous].length) :=
  (World.start () (executeConcurrentReconciliation [ambiguous])).drive
    (fun store effect => callbacks unpersisted store effect) (List.replicate count 0)

theorem scheduled_reachable (unpersisted : SchedulerPhase) (count : ℕ) :
    World.Reachable (Answered unpersisted) (fun _ _ => False)
      (World.start () (executeConcurrentReconciliation [ambiguous])) (scheduled unpersisted count) :=
  World.drive_reachable (fun _ _ => rfl) _ _

/-- Callbacks that persist no failure reopen nothing. -/
theorem scheduled_along (count : ℕ) :
    World.ReachableAlong (Answered .failed) (fun _ _ => False)
      (World.EachEvent fun before event => ¬ Reopens before event)
      (World.start () (executeConcurrentReconciliation [ambiguous])) (scheduled .failed count) := by
  refine (scheduled_reachable .failed count).along_events ?_
  rintro before store β effect reply after answered reopens
  cases effect with
  | persistPhase record =>
    have failure : record.phase = .failed := by
      cases reply with
      | error thrown => cases reopens
      | ok value => exact reopens.1
    have rejected : reply = .error (.error "PERSIST_FAILED") := by
      rw [show reply = _ from answered, callbacks, if_pos failure]
    subst rejected
    cases reopens
  | _ => cases reopens

theorem goes_on : ¬ Stops ((scheduled .lookupFinished 18).process 0).history := by decide +kernel

end Sample

/-- A run that ends with its first lookup. -/
theorem concurrent_reconciliation_sample :
    (∀ before event rest, ((Sample.scheduled .failed 9).process 0).history = before ++ event :: rest →
      Backed Sample.ambiguous before event) ∧
    Stops ((Sample.scheduled .failed 9).process 0).history ∧
    Independent Sample.ambiguous ((Sample.scheduled .failed 9).process 0) :=
  concurrent_reconciliation (Sample.scheduled_along 9) 0

/-- The end of a terminal lookup could not be persisted, its failure could: the request is looked up again
at the next offset. -/
theorem timelines_go_on :
    World.Reachable (Sample.Answered .lookupFinished) (fun _ _ => False)
      (World.start () (executeConcurrentReconciliation [Sample.ambiguous]))
      (Sample.scheduled .lookupFinished 18) ∧
    ¬ Stops ((Sample.scheduled .lookupFinished 18).process 0).history :=
  ⟨Sample.scheduled_reachable .lookupFinished 18, Sample.goes_on⟩

end FuseControlPlane.Reliability
