/-
Processes that share a store.

Each process runs a `Program`, one call at a time. `answers` says which replies a call may get and what
becomes of the store with each; `moves` is what else may happen to the store. Processes take their
steps in any order. One that takes no more steps has crashed.

* `Ran`: what a call of a transaction may be answered with, and what it leaves.
* `Follows react post phase program`: on every path the calls of the program, with their replies, move
  a state machine `react` that never gets stuck; at a returned value the machine meets `post`.
* `Settles`: the same, with what holds when the program throws; `Keeps` packs it, with a rule for every
  way a program is built.
* `Reachable.follows`, `Reachable.settles`: in every reachable world the calls a process has made have
  moved its machine to a phase from which the rest of its program goes on.
* `ReachableAlong.machines`, `Reachable.machines`: what the store and the machines keep together.
* `drive`: the world after a given schedule, in an environment that answers by itself.
-/

import FuseControlPlane.Foundation.Program
import Mathlib.Data.Fintype.Defs
import Mathlib.Logic.Function.Basic

set_option linter.unusedSectionVars false

namespace Foundation

variable {E : Type → Type} {σ ε α β ι : Type} {φ : Type*}

/-! ### Worlds -/

/-- What is left of a program, and the calls made so far, in order. -/
structure Process (E : Type → Type) (ε α : Type) : Type 1 where
  program : Program E ε α
  history : List (Event E)

/-- The shared store and the processes, named by `ι`. -/
structure World (E : Type → Type) (σ ε α ι : Type) : Type 1 where
  store : σ
  process : ι → Process E ε α

namespace World

/-- Every process at its beginning. -/
def start (store : σ) (programs : ι → Program E ε α) : World E σ ε α ι :=
  ⟨store, fun name => ⟨programs name, []⟩⟩

variable [DecidableEq ι] (answers : {β : Type} → σ → E β → β → σ → Prop) (moves : σ → σ → Prop)

/-- One step of the world. -/
inductive Step : World E σ ε α ι → World E σ ε α ι → Prop
  /-- A process makes its next call and gets a reply. -/
  | call (world : World E σ ε α ι) (name : ι) {β : Type} (effect : E β) (next : β → Program E ε α)
      (reply : β) (after : σ) (here : (world.process name).program = .call effect next)
      (answered : answers world.store effect reply after) :
      Step world ⟨after, Function.update world.process name
        ⟨next reply, (world.process name).history ++ [⟨effect, reply⟩]⟩⟩
  /-- The store changes by itself. -/
  | move (world : World E σ ε α ι) (after : σ) (moved : moves world.store after) :
      Step world ⟨after, world.process⟩

/-- Reachable in any order of steps. -/
inductive Reachable (initial : World E σ ε α ι) : World E σ ε α ι → Prop
  | refl : Reachable initial initial
  | step {world after : World E σ ε α ι} (earlier : Reachable initial world)
      (taken : Step answers moves world after) : Reachable initial after

/-- Reachable by steps that meet a condition on the worlds before and after. -/
inductive ReachableAlong (ok : World E σ ε α ι → World E σ ε α ι → Prop)
    (initial : World E σ ε α ι) : World E σ ε α ι → Prop
  | refl : ReachableAlong ok initial initial
  | step {world after : World E σ ε α ι} (earlier : ReachableAlong ok initial world)
      (taken : Step answers moves world after) (meets : ok world after) :
      ReachableAlong ok initial after

variable {answers moves}

theorem ReachableAlong.reachable {ok : World E σ ε α ι → World E σ ε α ι → Prop}
    {initial world : World E σ ε α ι} (along : ReachableAlong answers moves ok initial world) :
    Reachable answers moves initial world := by
  induction along with
  | refl => exact .refl
  | step _ taken _ ih => exact .step ih taken

theorem Reachable.trans {initial middle final : World E σ ε α ι}
    (first : Reachable answers moves initial middle) (second : Reachable answers moves middle final) :
    Reachable answers moves initial final := by
  induction second with
  | refl => exact first
  | step _ taken ih => exact .step ih taken

/-- What every step preserves holds in every reachable world. -/
theorem Reachable.invariant {inv : World E σ ε α ι → Prop} {initial world : World E σ ε α ι}
    (reached : Reachable answers moves initial world) (begun : inv initial)
    (kept : ∀ world after, inv world → Step answers moves world after → inv after) : inv world := by
  induction reached with
  | refl => exact begun
  | step _ taken ih => exact kept _ _ ih taken

end World

/-! ### Transactions -/

section Transactions

variable {δ : Type} {store after : σ} {result : Except ε (α × σ)} {reply : Except δ α}

/-- The reply of a method that runs one transaction. A rejected call was rolled back, or it was
committed and its reply lost. -/
def Ran (store : σ) (result : Except ε (α × σ)) : Except δ α → σ → Prop
  | .ok value, after => result = .ok (value, after)
  | .error _, after => after = store ∨ ∃ value, result = .ok (value, after)

/-- A rejected call changed nothing, or did what an accepted one does. -/
theorem Ran.cases (ran : Ran store result reply after) :
    (after = store ∧ ∃ error, reply = .error error) ∨
      ∃ value, result = .ok (value, after) ∧ ∀ other, reply = .ok other → other = value := by
  cases reply with
  | ok value =>
    have accepted : result = .ok (value, after) := ran
    refine .inr ⟨value, accepted, fun other same => ?_⟩
    cases same
    rfl
  | error error =>
    rcases ran with same | ⟨value, accepted⟩
    · exact .inl ⟨same, error, rfl⟩
    · exact .inr ⟨value, accepted, fun other same => by cases same⟩

/-- The reply of a method that is not lost. -/
def replied (rethrow : ε → δ) (store : σ) (result : Except ε (α × σ)) : Except δ α × σ :=
  match result with
  | .ok (value, after) => (.ok value, after)
  | .error error => (.error (rethrow error), store)

theorem ran_replied (rethrow : ε → δ) (store : σ) (result : Except ε (α × σ)) :
    Ran store result (replied rethrow store result).1 (replied rethrow store result).2 := by
  cases result with
  | ok value => exact rfl
  | error error => exact .inl rfl

end Transactions

/-! ### Protocols -/

section Protocols

variable (react : φ → Event E → Option φ)

/-- The machine after the calls so far. -/
def phaseAfter (phase : φ) (history : List (Event E)) : Option φ := history.foldlM react phase

theorem phaseAfter_concat {start phase : φ} {history : List (Event E)}
    (so_far : phaseAfter react start history = some phase) (event : Event E) :
    phaseAfter react start (history ++ [event]) = react phase event := by
  rw [phaseAfter, List.foldlM_append, show history.foldlM react start = some phase from so_far]
  simp

theorem phaseAfter_concat_inv {start last : φ} {history : List (Event E)} {event : Event E}
    (after : phaseAfter react start (history ++ [event]) = some last) :
    ∃ phase, phaseAfter react start history = some phase ∧ react phase event = some last := by
  rw [phaseAfter, List.foldlM_append] at after
  obtain ⟨phase, so_far, last⟩ := Option.bind_eq_some_iff.mp after
  exact ⟨phase, so_far, by simpa using last⟩

/-- Every path of the program moves the machine from `phase`; returned values meet `post`. -/
def Follows (post : α → φ → Prop) : φ → Program E ε α → Prop
  | phase, .done value => post value phase
  | _, .fail _ => True
  | phase, .call effect next => ∀ reply, ∃ later, react phase ⟨effect, reply⟩ = some later ∧
      Follows post later (next reply)

namespace Follows

variable {react} {post : α → φ → Prop} {phase : φ}

theorem done {value : α} (meets : post value phase) :
    Follows react post phase (.done value : Program E ε α) := meets

theorem fail {error : ε} : Follows react post phase (.fail error : Program E ε α) := trivial

theorem call {effect : E β} {next : β → Program E ε α}
    (each : ∀ reply, ∃ later, react phase ⟨effect, reply⟩ = some later ∧
      Follows react post later (next reply)) :
    Follows react post phase (.call effect next) := each

theorem call_iff {effect : E β} {next : β → Program E ε α} :
    Follows react post phase (.call effect next) ↔ ∀ reply, ∃ later,
      react phase ⟨effect, reply⟩ = some later ∧ Follows react post later (next reply) := .rfl

theorem bind {middle : β → φ → Prop} {first : Program E ε β} {second : β → Program E ε α}
    (head : Follows react middle phase first)
    (tail : ∀ value later, middle value later → Follows react post later (second value)) :
    Follows react post phase (first >>= second) := by
  induction first generalizing phase with
  | done value => exact tail value phase head
  | fail error => exact fail
  | call effect next ih =>
    intro reply
    obtain ⟨later, moved, rest⟩ := head reply
    exact ⟨later, moved, ih reply rest⟩

/-- Calls that leave the machine where it is. -/
theorem idle {idle : {β : Type} → E β → Prop} {program : Program E ε α}
    (calls : AllCalls idle program)
    (stays : ∀ event : Event E, idle event.effect → react phase event = some phase) :
    Follows react (fun _ later => later = phase) phase program := by
  induction program with
  | done value => exact rfl
  | fail error => exact fail
  | call effect next ih =>
    obtain ⟨own, rest⟩ := AllCalls.call_iff.mp calls
    exact fun reply => ⟨phase, stays ⟨effect, reply⟩ own, ih reply (rest reply)⟩

/-- A first part that leaves the machine where it is. -/
theorem idle_bind {idle : {β : Type} → E β → Prop} {first : Program E ε β}
    {second : β → Program E ε α} (calls : AllCalls idle first)
    (stays : ∀ event : Event E, idle event.effect → react phase event = some phase)
    (tail : ∀ value, Follows react post phase (second value)) :
    Follows react post phase (first >>= second) :=
  (Follows.idle calls stays).bind fun value _ same => same ▸ tail value

theorem mono {weaker : α → φ → Prop} {program : Program E ε α}
    (follows : Follows react post phase program)
    (weaken : ∀ value later, post value later → weaker value later) :
    Follows react weaker phase program := by
  induction program generalizing phase with
  | done value => exact weaken value phase follows
  | fail error => exact fail
  | call effect next ih =>
    intro reply
    obtain ⟨later, moved, rest⟩ := follows reply
    exact ⟨later, moved, ih reply rest⟩

end Follows

/-- As `Follows`; returned values and thrown errors both meet `post`. -/
def Settles (post : Except ε α → φ → Prop) : φ → Program E ε α → Prop
  | phase, .done value => post (.ok value) phase
  | phase, .fail error => post (.error error) phase
  | phase, .call effect next => ∀ reply, ∃ later, react phase ⟨effect, reply⟩ = some later ∧
      Settles post later (next reply)

namespace Settles

variable {react} {post : Except ε α → φ → Prop} {phase : φ}

theorem done_iff {value : α} :
    Settles react post phase (.done value : Program E ε α) ↔ post (.ok value) phase := .rfl

theorem fail_iff {error : ε} :
    Settles react post phase (.fail error : Program E ε α) ↔ post (.error error) phase := .rfl

theorem call_iff {effect : E β} {next : β → Program E ε α} :
    Settles react post phase (.call effect next) ↔ ∀ reply, ∃ later,
      react phase ⟨effect, reply⟩ = some later ∧ Settles react post later (next reply) := .rfl

theorem call {effect : E β} {next : β → Program E ε α}
    (each : ∀ reply, ∃ later, react phase ⟨effect, reply⟩ = some later ∧
      Settles react post later (next reply)) :
    Settles react post phase (.call effect next) := each

theorem bind {middle : Except ε β → φ → Prop} {first : Program E ε β} {second : β → Program E ε α}
    (head : Settles react middle phase first)
    (returned : ∀ value later, middle (.ok value) later → Settles react post later (second value))
    (threw : ∀ error later, middle (.error error) later → post (.error error) later) :
    Settles react post phase (first >>= second) := by
  induction first generalizing phase with
  | done value => exact returned value phase head
  | fail error => exact threw error phase head
  | call effect next ih =>
    intro reply
    obtain ⟨later, moved, rest⟩ := head reply
    exact ⟨later, moved, ih reply rest⟩

theorem tryCatch {middle : Except ε α → φ → Prop} {body : Program E ε α}
    {handler : ε → Program E ε α} (head : Settles react middle phase body)
    (returned : ∀ value later, middle (.ok value) later → post (.ok value) later)
    (caught : ∀ error later, middle (.error error) later → Settles react post later (handler error)) :
    Settles react post phase (body.tryCatch handler) := by
  induction body generalizing phase with
  | done value => exact returned value phase head
  | fail error => exact caught error phase head
  | call effect next ih =>
    intro reply
    obtain ⟨later, moved, rest⟩ := head reply
    exact ⟨later, moved, ih reply rest⟩

theorem attempt {δ : Type} {middle : Except ε β → φ → Prop} {body : Program E ε β}
    {after : Except ε β → Program E δ α} {post : Except δ α → φ → Prop}
    (head : Settles react middle phase body)
    (settled : ∀ result later, middle result later → Settles react post later (after result)) :
    Settles react post phase (body.attempt >>= after) := by
  induction body generalizing phase with
  | done value => exact settled (.ok value) phase head
  | fail error => exact settled (.error error) phase head
  | call effect next ih =>
    intro reply
    obtain ⟨later, moved, rest⟩ := head reply
    exact ⟨later, moved, ih reply rest⟩

/-- Calls that leave the machine where it is. -/
theorem idle {idle : {β : Type} → E β → Prop} {program : Program E ε α}
    (calls : AllCalls idle program)
    (stays : ∀ event : Event E, idle event.effect → react phase event = some phase) :
    Settles react (fun _ later => later = phase) phase program := by
  induction program with
  | done value => exact rfl
  | fail error => exact rfl
  | call effect next ih =>
    obtain ⟨own, rest⟩ := AllCalls.call_iff.mp calls
    exact fun reply => ⟨phase, stays ⟨effect, reply⟩ own, ih reply (rest reply)⟩

theorem mono {weaker : Except ε α → φ → Prop} {program : Program E ε α}
    (settles : Settles react post phase program)
    (weaken : ∀ result later, post result later → weaker result later) :
    Settles react weaker phase program := by
  induction program generalizing phase with
  | done value => exact weaken (.ok value) phase settles
  | fail error => exact weaken (.error error) phase settles
  | call effect next ih =>
    intro reply
    obtain ⟨later, moved, rest⟩ := settles reply
    exact ⟨later, moved, ih reply rest⟩

/-- A first part that leaves the machine where it is. -/
theorem idle_bind {idle : {β : Type} → E β → Prop} {first : Program E ε β}
    {second : β → Program E ε α} (calls : AllCalls idle first)
    (stays : ∀ event : Event E, idle event.effect → react phase event = some phase)
    (returned : ∀ value, Settles react post phase (second value))
    (threw : ∀ error, post (.error error) phase) : Settles react post phase (first >>= second) :=
  (Settles.idle calls stays).bind (fun value _ same => same ▸ returned value)
    fun error _ same => same ▸ threw error

end Settles

/-- `Settles`, packed: a proof follows the program by the rules below and never unfolds it. -/
structure Keeps (react : φ → Event E → Option φ) (post : Except ε α → φ → Prop) (phase : φ)
    (program : Program E ε α) : Prop where
  settles : Settles react post phase program

namespace Keeps

open Program

variable {react} {post : Except ε α → φ → Prop} {phase : φ}

theorem done {value : α} (meets : post (.ok value) phase) :
    Keeps react post phase (.done value : Program E ε α) := ⟨meets⟩

theorem fail {error : ε} (meets : post (.error error) phase) :
    Keeps react post phase (.fail error : Program E ε α) := ⟨meets⟩

theorem call {effect : E β} {next : β → Program E ε α}
    (each : ∀ reply, ∃ later, react phase ⟨effect, reply⟩ = some later ∧
      Keeps react post later (next reply)) : Keeps react post phase (.call effect next) :=
  ⟨.call fun reply =>
    let ⟨later, moved, rest⟩ := each reply
    ⟨later, moved, rest.settles⟩⟩

theorem perform {effect : E β} {second : β → Program E ε α}
    (each : ∀ reply, ∃ later, react phase ⟨effect, reply⟩ = some later ∧
      Keeps react post later (second reply)) :
    Keeps react post phase (Program.perform effect >>= second) := call each

theorem bind {middle : Except ε β → φ → Prop} {first : Program E ε β} {second : β → Program E ε α}
    (head : Keeps react middle phase first)
    (returned : ∀ value later, middle (.ok value) later → Keeps react post later (second value))
    (threw : ∀ error later, middle (.error error) later → post (.error error) later) :
    Keeps react post phase (first >>= second) :=
  ⟨head.settles.bind (fun value later meets => (returned value later meets).settles) threw⟩

theorem tryCatch {middle : Except ε α → φ → Prop} {body : Program E ε α}
    {handler : ε → Program E ε α} (head : Keeps react middle phase body)
    (returned : ∀ value later, middle (.ok value) later → post (.ok value) later)
    (caught : ∀ error later, middle (.error error) later → Keeps react post later (handler error)) :
    Keeps react post phase (body.tryCatch handler) :=
  ⟨head.settles.tryCatch returned fun error later meets => (caught error later meets).settles⟩

theorem attempt {δ : Type} {middle : Except ε β → φ → Prop} {body : Program E ε β}
    {after : Except ε β → Program E δ α} {post : Except δ α → φ → Prop}
    (head : Keeps react middle phase body)
    (settled : ∀ result later, middle result later → Keeps react post later (after result)) :
    Keeps react post phase (body.attempt >>= after) :=
  ⟨head.settles.attempt fun result later meets => (settled result later meets).settles⟩

theorem throwUnless {condition : Bool} {error : ε} {second : Unit → Program E ε α}
    (holds : condition = true → Keeps react post phase (second ()))
    (fails : condition = false → post (.error error) phase) :
    Keeps react post phase (throwUnless condition error >>= second) := by
  cases condition with
  | true => exact holds rfl
  | false => exact fail (fails rfl)

theorem orThrow {found : Option β} {error : ε} {second : β → Program E ε α}
    (some_of : ∀ value, found = some value → Keeps react post phase (second value))
    (none_of : found = none → post (.error error) phase) :
    Keeps react post phase (orThrow found error >>= second) := by
  cases found with
  | none => exact fail (none_of rfl)
  | some value => exact some_of value rfl

theorem fromExcept {result : Except ε β} {second : β → Program E ε α}
    (ok_of : ∀ value, result = .ok value → Keeps react post phase (second value))
    (error_of : ∀ error, result = .error error → post (.error error) phase) :
    Keeps react post phase (fromExcept result >>= second) := by
  cases result with
  | error error => exact fail (error_of error rfl)
  | ok value => exact ok_of value rfl

end Keeps

end Protocols

namespace World

variable [DecidableEq ι] {answers : {β : Type} → σ → E β → β → σ → Prop} {moves : σ → σ → Prop}

/-- **Processes follow their protocols.** -/
theorem Reachable.follows {store : σ} {programs : ι → Program E ε α} {world : World E σ ε α ι}
    (reached : Reachable answers moves (start store programs) world)
    {react : ι → φ → Event E → Option φ} {begin : ι → φ} {post : α → φ → Prop}
    (each : ∀ name, Follows (react name) post (begin name) (programs name)) (name : ι) :
    ∃ phase, phaseAfter (react name) (begin name) (world.process name).history = some phase ∧
      Follows (react name) post phase (world.process name).program := by
  induction reached with
  | refl => exact ⟨begin name, rfl, each name⟩
  | step _ taken ih =>
    cases taken with
    | move after moved => exact ih
    | call caller effect next reply after here answered =>
      by_cases same : name = caller
      · subst same
        obtain ⟨phase, so_far, follows⟩ := ih
        rw [here] at follows
        obtain ⟨later, moved, rest⟩ := follows reply
        refine ⟨later, ?_, ?_⟩
        · simp only [Function.update_self]
          rw [phaseAfter_concat (react name) so_far, moved]
        · simp only [Function.update_self]
          exact rest
      · simp only [Function.update_of_ne same]
        exact ih

/-- **Processes settle as their protocols say.** -/
theorem Reachable.settles {store : σ} {programs : ι → Program E ε α} {world : World E σ ε α ι}
    (reached : Reachable answers moves (start store programs) world)
    {react : ι → φ → Event E → Option φ} {begin : ι → φ} {post : ι → Except ε α → φ → Prop}
    (each : ∀ name, Settles (react name) (post name) (begin name) (programs name)) (name : ι) :
    ∃ phase, phaseAfter (react name) (begin name) (world.process name).history = some phase ∧
      Settles (react name) (post name) phase (world.process name).program := by
  induction reached with
  | refl => exact ⟨begin name, rfl, each name⟩
  | step _ taken ih =>
    cases taken with
    | move after moved => exact ih
    | call caller effect next reply after here answered =>
      by_cases same : name = caller
      · subst same
        obtain ⟨phase, so_far, settles⟩ := ih
        rw [here] at settles
        obtain ⟨later, moved, rest⟩ := settles reply
        refine ⟨later, ?_, ?_⟩
        · simp only [Function.update_self]
          rw [phaseAfter_concat (react name) so_far, moved]
        · simp only [Function.update_self]
          exact rest
      · simp only [Function.update_of_ne same]
        exact ih

/-! ### The machines of a world -/

/-- Every call of a step meets a condition on its event and the stores before and after. -/
def EachCall (ok : σ → Event E → σ → Prop) (world after : World E σ ε α ι) : Prop :=
  ∀ name, ∀ event ∈ (after.process name).history.drop (world.process name).history.length,
    ok world.store event after.store

instance [Fintype ι] (ok : σ → Event E → σ → Prop) [∀ store event after, Decidable (ok store event after)]
    (world after : World E σ ε α ι) : Decidable (EachCall ok world after) := by
  unfold EachCall
  infer_instance

/-- **The store and the machines.** What every move and every allowed call keeps of the store and the
phases holds in every world; and the programs go on from these phases. -/
theorem ReachableAlong.machines {ok : σ → Event E → σ → Prop} {store : σ}
    {programs : ι → Program E ε α} {world : World E σ ε α ι}
    (reached : ReachableAlong answers moves (EachCall ok) (start store programs) world)
    {react : ι → φ → Event E → Option φ} {begin : ι → φ} {post : ι → Except ε α → φ → Prop}
    (each : ∀ name, Keeps (react name) (post name) (begin name) (programs name))
    {inv : σ → (ι → φ) → Prop} (begun : inv store begin)
    (moved : ∀ store after phases, inv store phases → moves store after → inv after phases)
    (called : ∀ store after phases name (β : Type) (effect : E β) (reply : β) later,
      inv store phases → answers store effect reply after →
      react name (phases name) ⟨effect, reply⟩ = some later → ok store ⟨effect, reply⟩ after →
      inv after (Function.update phases name later)) :
    ∃ phases : ι → φ, inv world.store phases ∧ ∀ name,
      phaseAfter (react name) (begin name) (world.process name).history = some (phases name) ∧
      Keeps (react name) (post name) (phases name) (world.process name).program := by
  induction reached with
  | refl => exact ⟨begin, begun, fun name => ⟨rfl, each name⟩⟩
  | step _ taken meets ih =>
    obtain ⟨phases, holds, keeps⟩ := ih
    cases taken with
    | move after change => exact ⟨phases, moved _ _ phases holds change, keeps⟩
    | call caller effect next reply after here answered =>
      obtain ⟨so_far, ⟨settles⟩⟩ := keeps caller
      rw [here] at settles
      obtain ⟨later, reacted, rest⟩ := settles reply
      refine ⟨Function.update phases caller later,
        called _ _ phases caller _ effect reply later holds answered reacted ?_, fun name => ?_⟩
      · exact meets caller _ (by simp)
      · by_cases same : name = caller
        · subst same
          simp only [Function.update_self]
          exact ⟨(phaseAfter_concat (react name) so_far _).trans reacted, ⟨rest⟩⟩
        · simp only [Function.update_of_ne same]
          exact keeps name

theorem Reachable.along {initial world : World E σ ε α ι}
    (reached : Reachable answers moves initial world) :
    ReachableAlong answers moves (EachCall fun _ _ _ => True) initial world := by
  induction reached with
  | refl => exact .refl
  | step _ taken ih => exact .step ih taken fun _ _ _ => trivial

/-- `ReachableAlong.machines`, where every call is allowed. -/
theorem Reachable.machines {store : σ} {programs : ι → Program E ε α} {world : World E σ ε α ι}
    (reached : Reachable answers moves (start store programs) world)
    {react : ι → φ → Event E → Option φ} {begin : ι → φ} {post : ι → Except ε α → φ → Prop}
    (each : ∀ name, Keeps (react name) (post name) (begin name) (programs name))
    {inv : σ → (ι → φ) → Prop} (begun : inv store begin)
    (moved : ∀ store after phases, inv store phases → moves store after → inv after phases)
    (called : ∀ store after phases name (β : Type) (effect : E β) (reply : β) later,
      inv store phases → answers store effect reply after →
      react name (phases name) ⟨effect, reply⟩ = some later →
      inv after (Function.update phases name later)) :
    ∃ phases : ι → φ, inv world.store phases ∧ ∀ name,
      phaseAfter (react name) (begin name) (world.process name).history = some (phases name) ∧
      Keeps (react name) (post name) (phases name) (world.process name).program :=
  reached.along.machines each begun moved
    fun store after phases name β effect reply later holds answered reacted _ =>
      called store after phases name β effect reply later holds answered reacted

/-! ### Given schedules -/

variable (environment : {β : Type} → σ → E β → β × σ)

/-- Let a process make its next call. -/
def advance (world : World E σ ε α ι) (name : ι) : World E σ ε α ι :=
  match world.process name with
  | ⟨.call effect next, history⟩ =>
    ⟨(environment world.store effect).2, Function.update world.process name
      ⟨next (environment world.store effect).1,
        history ++ [⟨effect, (environment world.store effect).1⟩]⟩⟩
  | _ => world

/-- Let processes make calls in the given order. -/
def drive (world : World E σ ε α ι) (schedule : List ι) : World E σ ε α ι :=
  schedule.foldl (advance environment) world

variable {environment}

/-- A call that is made is a step. -/
theorem advance_step
    (truthful : ∀ {β : Type} (store : σ) (effect : E β),
      answers store effect (environment store effect).1 (environment store effect).2)
    (world : World E σ ε α ι) (name : ι) (goes : (world.process name).program.goesOn = true) :
    Step answers moves world (world.advance environment name) := by
  unfold advance
  split
  · next effect next history here =>
    have taken : Step answers moves world _ :=
      .call world name effect next _ _ (by rw [here]) (truthful world.store effect)
    rw [here] at taken
    exact taken
  · next other =>
    cases here : world.process name with
    | mk program history =>
      rw [here] at goes
      cases program with
      | call effect next => exact (other _ effect next history here).elim
      | done value => cases goes
      | fail error => cases goes

theorem drive_reachable
    (truthful : ∀ {β : Type} (store : σ) (effect : E β),
      answers store effect (environment store effect).1 (environment store effect).2)
    (world : World E σ ε α ι) (schedule : List ι) :
    Reachable answers moves world (world.drive environment schedule) := by
  induction schedule generalizing world with
  | nil => exact .refl
  | cons name rest ih =>
    refine Reachable.trans ?_ (ih (world.advance environment name))
    unfold advance
    split
    · next effect next history here =>
      have taken : Step answers moves world _ :=
        .call world name effect next _ _ (by rw [here]) (truthful world.store effect)
      rw [here] at taken
      exact .step .refl taken
    · exact .refl

variable (environment) in
/-- Every step of the schedule meets a condition. -/
def Meets (ok : World E σ ε α ι → World E σ ε α ι → Prop) (world : World E σ ε α ι) :
    List ι → Prop
  | [] => True
  | name :: rest => ok world (world.advance environment name) ∧
      Meets ok (world.advance environment name) rest

instance decidableMeets (ok : World E σ ε α ι → World E σ ε α ι → Prop)
    [∀ world after, Decidable (ok world after)] (world : World E σ ε α ι) :
    (schedule : List ι) → Decidable (Meets environment ok world schedule)
  | [] => isTrue trivial
  | name :: rest =>
    have := decidableMeets ok (world.advance environment name) rest
    inferInstanceAs (Decidable (ok world (world.advance environment name) ∧
      Meets environment ok (world.advance environment name) rest))

theorem drive_reachableAlong
    (truthful : ∀ {β : Type} (store : σ) (effect : E β),
      answers store effect (environment store effect).1 (environment store effect).2)
    {ok : World E σ ε α ι → World E σ ε α ι → Prop} {initial world : World E σ ε α ι}
    (along : ReachableAlong answers moves ok initial world) {schedule : List ι}
    (meets : Meets environment ok world schedule) :
    ReachableAlong answers moves ok initial (world.drive environment schedule) := by
  induction schedule generalizing world with
  | nil => exact along
  | cons name rest ih =>
    refine ih ?_ meets.2
    have allowed := meets.1
    unfold advance at allowed ⊢
    split at allowed
    · next effect next history here =>
      have taken : Step answers moves world _ :=
        .call world name effect next _ _ (by rw [here]) (truthful world.store effect)
      rw [here] at taken
      exact .step along taken allowed
    · exact along

end World

-- an elaborator that looks for a function type would run the program
attribute [irreducible] Follows Settles

end Foundation
