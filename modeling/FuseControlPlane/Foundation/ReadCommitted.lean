/-
Transactions under READ COMMITTED with row locks.

A transaction is a `Program` whose calls are single statements. `Semantics` gives a statement, in the
store it sees, the locks it takes, the writes it makes and the rows it returns. There are two
readings of the same transaction text:

* `atomic`: the whole transaction runs against the store with nothing in between; an error throws
  its writes away.
* `Step`: any number of transactions advance one statement at a time. A statement sees the committed
  store under the transaction's own pending writes; it waits for locks other transactions hold;
  locks are kept to the end; a commit publishes all pending writes at once; any transaction may
  abort at any point (a thrown error, a deadlock victim, a lost connection). `guard` can rule out
  chosen statement executions.

`atomic_reachable` embeds the first reading in the second: an atomic run is the interleaving in which
nobody else moves.

**The rule for the second reading is rely-guarantee.** `Frame held s s'` says what the commit of a
transaction that holds `held` may do to the store. Of the others a transaction may assume that each
of their commits is framed by locks disjoint from its own. `Safe` is the proof obligation of one
transaction: whatever it knows about the committed store must survive such commits (`Stable`), and
its own commit must keep the invariant and respect the frame. `store_invariant` concludes that the
committed store satisfies the invariant in every reachable system, for any set of transactions.

`Safe.call`, `Safe.throwUnless_bind`, … discharge the obligation along the text of a transaction;
`Safe.idle_bind` skips a part that does nothing the invariant can see. `play` runs a given schedule,
for systems that are to be exhibited.
-/

import FuseControlPlane.Foundation.Program
import Mathlib.Data.Fintype.Defs
import Mathlib.Data.List.Basic
import Mathlib.Logic.Function.Basic

set_option linter.unusedSectionVars false

namespace Foundation

/-- What a statement does in the store it sees. -/
structure Semantics (E : Type → Type) (σ ω Λ : Type) where
  apply : ω → σ → σ
  locks : {β : Type} → E β → σ → List Λ
  writes : {β : Type} → E β → σ → List ω
  result : {β : Type} → E β → σ → β

namespace Semantics

variable {E : Type → Type} {σ ω Λ ε α β : Type} (sem : Semantics E σ ω Λ)

/-- Apply writes in order. -/
def applyAll (writes : List ω) (store : σ) : σ :=
  writes.foldl (fun store write => sem.apply write store) store

@[simp] theorem applyAll_nil (store : σ) : sem.applyAll [] store = store := rfl

@[simp] theorem applyAll_cons (write : ω) (writes : List ω) (store : σ) :
    sem.applyAll (write :: writes) store = sem.applyAll writes (sem.apply write store) := rfl

theorem applyAll_append (first second : List ω) (store : σ) :
    sem.applyAll (first ++ second) store = sem.applyAll second (sem.applyAll first store) :=
  List.foldl_append

/-! ### One transaction alone -/

/-- Run a transaction with nothing in between. -/
def atomic : Program E ε α → σ → Except ε (α × σ)
  | .done value, store => .ok (value, store)
  | .fail error, _ => .error error
  | .call effect next, store =>
    atomic (next (sem.result effect store)) (sem.applyAll (sem.writes effect store) store)

@[simp] theorem atomic_done (value : α) (store : σ) :
    sem.atomic (.done value : Program E ε α) store = .ok (value, store) := rfl

@[simp] theorem atomic_fail (error : ε) (store : σ) :
    sem.atomic (.fail error : Program E ε α) store = .error error := rfl

@[simp] theorem atomic_call (effect : E β) (next : β → Program E ε α) (store : σ) :
    sem.atomic (.call effect next) store =
      sem.atomic (next (sem.result effect store)) (sem.applyAll (sem.writes effect store) store) :=
  rfl

/-- A sequence of two parts runs the second on what the first returned and left. -/
theorem atomic_bind (first : Program E ε α) (second : α → Program E ε β) (store : σ) :
    sem.atomic (first >>= second) store =
      match sem.atomic first store with
      | .ok (value, after) => sem.atomic (second value) after
      | .error error => .error error := by
  induction first generalizing store with
  | done value => rfl
  | fail error => rfl
  | call effect next ih => exact ih _ _

/-- A committed sequence is a committed first part followed by a committed second part. -/
theorem atomic_bind_ok {first : Program E ε α} {second : α → Program E ε β} {store after : σ}
    {value : β} (ran : sem.atomic (first >>= second) store = .ok (value, after)) :
    ∃ middle between, sem.atomic first store = .ok (middle, between) ∧
      sem.atomic (second middle) between = .ok (value, after) := by
  rw [atomic_bind] at ran
  split at ran
  · next middle between head => exact ⟨middle, between, head, ran⟩
  · cases ran

/-! A committed run passed every check on its way. -/

@[simp] theorem atomic_perform (effect : E β) (store : σ) :
    sem.atomic (Program.perform effect : Program E ε β) store =
      .ok (sem.result effect store, sem.applyAll (sem.writes effect store) store) := rfl

@[simp] theorem atomic_throwUnless {condition : Bool} {error : ε} {store : σ} {outcome : Unit × σ} :
    sem.atomic (Program.throwUnless condition error : Program E ε Unit) store = .ok outcome ↔
      condition = true ∧ ((), store) = outcome := by
  cases condition <;> simp [Program.throwUnless]

@[simp] theorem atomic_fromExcept {result : Except ε α} {store : σ} {outcome : α × σ} :
    sem.atomic (Program.fromExcept result : Program E ε α) store = .ok outcome ↔
      ∃ value, result = .ok value ∧ (value, store) = outcome := by
  cases result <;> simp [Program.fromExcept]

@[simp] theorem atomic_perform_bind (effect : E β) (second : β → Program E ε α) (store : σ) :
    sem.atomic (Program.perform effect >>= second) store =
      sem.atomic (second (sem.result effect store))
        (sem.applyAll (sem.writes effect store) store) := rfl

@[simp] theorem atomic_throwUnless_bind {condition : Bool} {error : ε}
    {second : Unit → Program E ε α} {store : σ} {outcome : α × σ} :
    sem.atomic (Program.throwUnless condition error >>= second) store = .ok outcome ↔
      condition = true ∧ sem.atomic (second ()) store = .ok outcome := by
  cases condition <;> simp [Program.throwUnless]

@[simp] theorem atomic_orThrow_bind {found : Option β} {error : ε}
    {second : β → Program E ε α} {store : σ} {outcome : α × σ} :
    sem.atomic (Program.orThrow found error >>= second) store = .ok outcome ↔
      ∃ value, found = some value ∧ sem.atomic (second value) store = .ok outcome := by
  cases found <;> simp [Program.orThrow]

@[simp] theorem atomic_fromExcept_bind {result : Except ε β} {second : β → Program E ε α} {store : σ}
    {outcome : α × σ} :
    sem.atomic (Program.fromExcept result >>= second) store = .ok outcome ↔
      ∃ value, result = .ok value ∧ sem.atomic (second value) store = .ok outcome := by
  cases result <;> simp [Program.fromExcept]

/-! ### Many transactions, statement by statement -/

/-- A transaction in progress: what is left to run, what it has written, what it has locked. -/
structure Session (E : Type → Type) (ω Λ ε α : Type) : Type 1 where
  program : Program E ε α
  pending : List ω
  held : List Λ

/-- A transaction in progress or ended. -/
inductive Status (E : Type → Type) (ω Λ ε α : Type) : Type 1
  | running (session : Session E ω Λ ε α)
  | committed (value : α)
  | aborted

/-- The locks a transaction holds; an ended one holds none. -/
def Status.held {E : Type → Type} : Status E ω Λ ε α → List Λ
  | .running session => session.held
  | .committed _ => []
  | .aborted => []

/-- A transaction has ended. -/
def Status.ended {E : Type → Type} : Status E ω Λ ε α → Bool
  | .running _ => false
  | .committed _ => true
  | .aborted => true

/-- The committed store and the transactions, named by `ι`. -/
structure System (E : Type → Type) (σ ω Λ ε α ι : Type) : Type 1 where
  store : σ
  status : ι → Status E ω Λ ε α

/-- Every transaction at its beginning. -/
def System.start {ι : Type} (store : σ) (programs : ι → Program E ε α) :
    System E σ ω Λ ε α ι :=
  ⟨store, fun name => .running ⟨programs name, [], []⟩⟩

section Interleaving

variable {ι : Type} [DecidableEq ι] (guard : {β : Type} → E β → σ → Prop)

/-- One step of one transaction. -/
inductive Step : System E σ ω Λ ε α ι → System E σ ω Λ ε α ι → Prop
  /-- A statement runs in the committed store under the transaction's own writes, once no other
  transaction holds a lock it needs. -/
  | statement (system : System E σ ω Λ ε α ι) (name : ι) {β : Type} (effect : E β)
      (next : β → Program E ε α) (pending : List ω) (held : List Λ)
      (here : system.status name = .running ⟨.call effect next, pending, held⟩)
      (free : ∀ lock ∈ sem.locks effect (sem.applyAll pending system.store), ∀ other, other ≠ name →
        lock ∉ (system.status other).held)
      (allowed : guard effect (sem.applyAll pending system.store)) :
      Step system ⟨system.store, Function.update system.status name (.running
        ⟨next (sem.result effect (sem.applyAll pending system.store)),
          pending ++ sem.writes effect (sem.applyAll pending system.store),
          held ++ sem.locks effect (sem.applyAll pending system.store)⟩)⟩
  /-- A finished transaction publishes its writes and gives up its locks. -/
  | commit (system : System E σ ω Λ ε α ι) (name : ι) (value : α) (pending : List ω) (held : List Λ)
      (here : system.status name = .running ⟨.done value, pending, held⟩) :
      Step system ⟨sem.applyAll pending system.store,
        Function.update system.status name (.committed value)⟩
  /-- A transaction ends without effect, at any point. -/
  | abort (system : System E σ ω Λ ε α ι) (name : ι) (session : Session E ω Λ ε α)
      (here : system.status name = .running session) :
      Step system ⟨system.store, Function.update system.status name .aborted⟩

/-- Reachable by any interleaving. -/
inductive Reachable (initial : System E σ ω Λ ε α ι) : System E σ ω Λ ε α ι → Prop
  | start : Reachable initial initial
  | step {system after : System E σ ω Λ ε α ι} (earlier : Reachable initial system)
      (taken : Step sem guard system after) : Reachable initial after

variable {sem guard}

theorem Reachable.trans {initial middle final : System E σ ω Λ ε α ι}
    (first : Reachable sem guard initial middle) (second : Reachable sem guard middle final) :
    Reachable sem guard initial final := by
  induction second with
  | start => exact first
  | step _ taken ih => exact .step ih taken

end Interleaving

/-! ### Given schedules -/

section Schedules

variable {ι : Type} [DecidableEq ι] [Fintype ι] [DecidableEq Λ]
  (guard : {β : Type} → E β → σ → Prop)
  [∀ {β : Type} (effect : E β) (view : σ), Decidable (guard effect view)]

/-- Let one transaction take its next step; it waits when another one holds a lock it needs, or when
the guard rules the statement out. -/
def advance (system : System E σ ω Λ ε α ι) (name : ι) : System E σ ω Λ ε α ι :=
  match system.status name with
  | .running ⟨.call effect next, pending, held⟩ =>
    if (∀ lock ∈ sem.locks effect (sem.applyAll pending system.store), ∀ other, other ≠ name →
        lock ∉ (system.status other).held) ∧ guard effect (sem.applyAll pending system.store) then
      ⟨system.store, Function.update system.status name (.running
        ⟨next (sem.result effect (sem.applyAll pending system.store)),
          pending ++ sem.writes effect (sem.applyAll pending system.store),
          held ++ sem.locks effect (sem.applyAll pending system.store)⟩)⟩
    else system
  | .running ⟨.done value, pending, _⟩ =>
    ⟨sem.applyAll pending system.store, Function.update system.status name (.committed value)⟩
  | .running ⟨.fail _, _, _⟩ => ⟨system.store, Function.update system.status name .aborted⟩
  | _ => system

/-- Let transactions step in the given order. -/
def play (system : System E σ ω Λ ε α ι) (schedule : List ι) : System E σ ω Λ ε α ι :=
  schedule.foldl (sem.advance guard) system

variable {sem guard}

theorem advance_reachable (system : System E σ ω Λ ε α ι) (name : ι) :
    Reachable sem guard system (sem.advance guard system name) := by
  unfold advance
  split
  · next effect next pending held here =>
    split
    · next enabled =>
      exact .step .start (.statement system name effect next pending held here enabled.1 enabled.2)
    · exact .start
  · next value pending held here => exact .step .start (.commit system name value pending held here)
  · next error pending held here => exact .step .start (.abort system name _ here)
  · exact .start

/-- A schedule that is played is an interleaving. -/
theorem play_reachable (system : System E σ ω Λ ε α ι) (schedule : List ι) :
    Reachable sem guard system (sem.play guard system schedule) := by
  induction schedule generalizing system with
  | nil => exact .start
  | cons name rest ih => exact (advance_reachable system name).trans (ih _)

end Schedules

/-! ### Rely and guarantee -/

section RelyGuarantee

variable (inv : σ → Prop) (frame : List Λ → σ → σ → Prop)

/-- Knowledge about the committed store that no commit of a transaction with disjoint locks can
destroy. -/
def Stable (held : List Λ) (known : σ → Prop) : Prop :=
  ∀ store after others, List.Disjoint held others → inv store → inv after → known store →
    frame others store after → known after

variable {inv frame} in
/-- More locks make knowledge more stable. -/
theorem Stable.mono {held more : List Λ} {known : σ → Prop} (stable : Stable inv frame held known)
    (subset : held ⊆ more) : Stable inv frame more known :=
  fun store after others disjoint => stable store after others fun _ here there =>
    disjoint (subset here) there

variable {inv frame} in
theorem Stable.and {held : List Λ} {first second : σ → Prop} (left : Stable inv frame held first)
    (right : Stable inv frame held second) :
    Stable inv frame held fun store => first store ∧ second store :=
  fun store after others disjoint before later known framed =>
    ⟨left store after others disjoint before later known.1 framed,
      right store after others disjoint before later known.2 framed⟩

variable {inv frame} in
theorem Stable.const {held : List Λ} (fact : Prop) : Stable inv frame held fun _ => fact :=
  fun _ _ _ _ _ _ known _ => known

variable (guard : {β : Type} → E β → σ → Prop)

/-- The proof obligation of a transaction that has written `pending`, holds `held` and knows `known`
of the committed store. -/
def Safe : Program E ε α → List ω → List Λ → (σ → Prop) → Prop
  | .done _, pending, held, known => ∀ store, inv store → known store →
      inv (sem.applyAll pending store) ∧ frame held store (sem.applyAll pending store)
  | .fail _, _, _, _ => True
  | .call effect next, pending, held, known => ∀ store, inv store → known store →
      guard effect (sem.applyAll pending store) →
      ∃ learned : σ → Prop, learned store ∧
        Stable inv frame (held ++ sem.locks effect (sem.applyAll pending store)) learned ∧
        Safe (next (sem.result effect (sem.applyAll pending store)))
          (pending ++ sem.writes effect (sem.applyAll pending store))
          (held ++ sem.locks effect (sem.applyAll pending store)) learned

variable {inv frame guard sem} {ι : Type} [DecidableEq ι]

theorem safe_done {value : α} {pending : List ω} {held : List Λ} {known : σ → Prop} :
    sem.Safe inv frame guard (.done value : Program E ε α) pending held known ↔
      ∀ store, inv store → known store →
        inv (sem.applyAll pending store) ∧ frame held store (sem.applyAll pending store) := Iff.rfl

theorem safe_fail {error : ε} {pending : List ω} {held : List Λ} {known : σ → Prop} :
    sem.Safe inv frame guard (.fail error : Program E ε α) pending held known := trivial

theorem safe_call {effect : E β} {next : β → Program E ε α} {pending : List ω} {held : List Λ}
    {known : σ → Prop} :
    sem.Safe inv frame guard (.call effect next) pending held known ↔
      ∀ store, inv store → known store → guard effect (sem.applyAll pending store) →
        ∃ learned : σ → Prop, learned store ∧
          Stable inv frame (held ++ sem.locks effect (sem.applyAll pending store)) learned ∧
          sem.Safe inv frame guard (next (sem.result effect (sem.applyAll pending store)))
            (pending ++ sem.writes effect (sem.applyAll pending store))
            (held ++ sem.locks effect (sem.applyAll pending store)) learned := Iff.rfl

-- From here on an obligation is only taken apart by the three rules above: a program in it is never
-- evaluated by accident.
attribute [irreducible] Safe

namespace Safe

variable {pending : List ω} {held : List Λ} {known : σ → Prop}

/-- A statement may add a stable fact to what is known. -/
theorem call {effect : E β} {next : β → Program E ε α} (stable : Stable inv frame held known)
    (rest : ∀ store, inv store → known store → guard effect (sem.applyAll pending store) →
      ∃ fact : σ → Prop, fact store ∧
        Stable inv frame (held ++ sem.locks effect (sem.applyAll pending store)) fact ∧
        sem.Safe inv frame guard (next (sem.result effect (sem.applyAll pending store)))
          (pending ++ sem.writes effect (sem.applyAll pending store))
          (held ++ sem.locks effect (sem.applyAll pending store))
          fun store => known store ∧ fact store) :
    sem.Safe inv frame guard (.call effect next) pending held known := by
  refine safe_call.mpr fun store holds knows allowed => ?_
  obtain ⟨fact, found, kept, safe⟩ := rest store holds knows allowed
  exact ⟨_, ⟨knows, found⟩, (stable.mono (List.subset_append_left _ _)).and kept, safe⟩

/-- A statement of which nothing is remembered. -/
theorem call_keep {effect : E β} {next : β → Program E ε α} (stable : Stable inv frame held known)
    (rest : ∀ store, inv store → known store → guard effect (sem.applyAll pending store) →
      sem.Safe inv frame guard (next (sem.result effect (sem.applyAll pending store)))
        (pending ++ sem.writes effect (sem.applyAll pending store))
        (held ++ sem.locks effect (sem.applyAll pending store)) known) :
    sem.Safe inv frame guard (.call effect next) pending held known :=
  safe_call.mpr fun store holds knows allowed =>
    ⟨known, knows, stable.mono (List.subset_append_left _ _), rest store holds knows allowed⟩

theorem throwUnless_bind {condition : Bool} {error : ε} {next : Unit → Program E ε α}
    (rest : condition = true → sem.Safe inv frame guard (next ()) pending held known) :
    sem.Safe inv frame guard (Program.throwUnless condition error >>= next) pending held known := by
  cases condition with
  | false => exact safe_fail
  | true => exact rest rfl

theorem orThrow_bind {found : Option β} {error : ε} {next : β → Program E ε α}
    (rest : ∀ value, found = some value →
      sem.Safe inv frame guard (next value) pending held known) :
    sem.Safe inv frame guard (Program.orThrow found error >>= next) pending held known := by
  cases found with
  | none => exact safe_fail
  | some value => exact rest value rfl

theorem fromExcept_bind {result : Except ε β} {next : β → Program E ε α}
    (rest : ∀ value, result = .ok value →
      sem.Safe inv frame guard (next value) pending held known) :
    sem.Safe inv frame guard (Program.fromExcept result >>= next) pending held known := by
  cases result with
  | error error => exact safe_fail
  | ok value => exact rest value rfl

/-- A part that makes idle calls only. `ready` is what is known of the writes and locks so far, and
no idle call destroys it. -/
theorem idle_bind {idle : {β : Type} → E β → Prop} (ready : List ω → List Λ → Prop)
    (extend : ∀ {β : Type} (effect : E β), idle effect → ∀ pending held view, ready pending held →
      ready (pending ++ sem.writes effect view) (held ++ sem.locks effect view))
    {first : Program E ε β} {second : β → Program E ε α} (calls : AllCalls idle first)
    (tail : ∀ value pending held, ready pending held → Stable inv frame held known →
      sem.Safe inv frame guard (second value) pending held known)
    (begun : ready pending held) (stable : Stable inv frame held known) :
    sem.Safe inv frame guard (first >>= second) pending held known := by
  induction first generalizing pending held with
  | done value => exact tail value pending held begun stable
  | fail error => exact safe_fail
  | call effect next ih =>
    obtain ⟨own, rest⟩ := AllCalls.call_iff.mp calls
    refine call_keep stable fun store _ _ _ => ?_
    exact ih _ (rest _) (extend effect own _ _ _ begun)
      (stable.mono (List.subset_append_left _ _))

end Safe

/-- What holds between the steps: the invariant, disjoint locks, and for every transaction in
progress some stable knowledge under which it is safe. -/
structure Guarded (inv : σ → Prop) (frame : List Λ → σ → σ → Prop)
    (guard : {β : Type} → E β → σ → Prop) (sem : Semantics E σ ω Λ)
    (system : System E σ ω Λ ε α ι) : Prop where
  store : inv system.store
  disjoint : ∀ first second, first ≠ second →
    List.Disjoint (system.status first).held (system.status second).held
  safe : ∀ name session, system.status name = .running session →
    ∃ known : σ → Prop, known system.store ∧ Stable inv frame session.held known ∧
      sem.Safe inv frame guard session.program session.pending session.held known

/-- Replacing one status keeps locks disjoint when the new locks are disjoint from all others. -/
theorem disjoint_update {status : ι → Status E ω Λ ε α} {name : ι} {replacement : Status E ω Λ ε α}
    (disjoint : ∀ first second, first ≠ second →
      List.Disjoint (status first).held (status second).held)
    (fresh : ∀ other, other ≠ name → List.Disjoint replacement.held (status other).held)
    (first second : ι) (different : first ≠ second) :
    List.Disjoint (Function.update status name replacement first).held
      (Function.update status name replacement second).held := by
  by_cases atFirst : first = name
  · subst atFirst
    rw [Function.update_self, Function.update_of_ne different.symm]
    exact fresh second different.symm
  · by_cases atSecond : second = name
    · subst atSecond
      rw [Function.update_self, Function.update_of_ne atFirst]
      exact fun lock mine theirs => fresh first atFirst theirs mine
    · rw [Function.update_of_ne atFirst, Function.update_of_ne atSecond]
      exact disjoint first second different

/-- Every step keeps `Guarded`. -/
theorem Guarded.step {system after : System E σ ω Λ ε α ι}
    (guarded : Guarded inv frame guard sem system) (taken : Step sem guard system after) :
    Guarded inv frame guard sem after := by
  cases taken with
  | statement name effect next pending held here free allowed =>
    obtain ⟨known, knows, _, safe⟩ := guarded.safe name _ here
    obtain ⟨learned, learns, stable, rest⟩ :=
      safe_call.mp safe system.store guarded.store knows allowed
    refine ⟨guarded.store, disjoint_update guarded.disjoint fun other different => ?_, ?_⟩
    · intro lock mine theirs
      rcases List.mem_append.mp mine with old | new
      · have apart := guarded.disjoint name other different.symm
        rw [here] at apart
        exact apart old theirs
      · exact free lock new other different theirs
    · intro other session running
      by_cases same : other = name
      · subst same
        simp only [Function.update_self, Status.running.injEq] at running
        subst running
        exact ⟨learned, learns, stable, rest⟩
      · simp only [Function.update_of_ne same] at running
        exact guarded.safe other session running
  | commit name value pending held here =>
    obtain ⟨known, knows, _, safe⟩ := guarded.safe name _ here
    obtain ⟨kept, framed⟩ := safe_done.mp safe system.store guarded.store knows
    refine ⟨kept, disjoint_update guarded.disjoint fun other different => ?_, ?_⟩
    · exact List.disjoint_nil_left _
    · intro other session running
      by_cases same : other = name
      · subst same
        simp [Function.update_self] at running
      · simp only [Function.update_of_ne same] at running
        obtain ⟨theirs, theyKnow, stable, theirSafe⟩ := guarded.safe other session running
        have apart := guarded.disjoint other name same
        rw [here, running] at apart
        exact ⟨theirs, stable _ _ held apart guarded.store kept theyKnow framed, stable, theirSafe⟩
  | abort name session here =>
    refine ⟨guarded.store, disjoint_update guarded.disjoint fun other different => ?_, ?_⟩
    · exact List.disjoint_nil_left _
    · intro other session' running
      by_cases same : other = name
      · subst same
        simp [Function.update_self] at running
      · simp only [Function.update_of_ne same] at running
        exact guarded.safe other session' running

/-- **The rely-guarantee rule.** If every transaction is safe from its beginning, the committed
store satisfies the invariant in every reachable system. -/
theorem store_invariant {store : σ} {programs : ι → Program E ε α} (initial : inv store)
    (safe : ∀ name, sem.Safe inv frame guard (programs name) [] [] fun _ => True)
    {system : System E σ ω Λ ε α ι}
    (reached : Reachable sem guard (System.start store programs) system) : inv system.store := by
  have guarded : Guarded inv frame guard sem system := by
    induction reached with
    | start =>
      refine ⟨initial, fun _ _ _ => List.disjoint_nil_left _, fun name session running => ?_⟩
      obtain rfl : (⟨programs name, [], []⟩ : Session E ω Λ ε α) = session :=
        Status.running.inj running
      exact ⟨fun _ => True, trivial, Stable.const True, safe name⟩
    | step _ taken ih => exact ih.step taken
  exact guarded.store

end RelyGuarantee

end Semantics

end Foundation
