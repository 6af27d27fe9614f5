/-
What a program does to a store when it runs by itself.

As in `Processes.lean`, `answers` says which replies a call may get and what becomes of the store.

* `Serves`: a complete run of a program, from one store to another.
* `settle`: how it ends in an environment that answers by itself.
* `Ensures post program store`: every run from `store` ends in an outcome and a store that meet `post`.
* `Ensures.bind`, `Ensures.tryCatch`, `Ensures.invariant`: the rules by which a proof follows a program.
-/

import FuseControlPlane.Foundation.Program

namespace Foundation

open Program

variable {E : Type → Type} {σ ε α β : Type} (answers : {β : Type} → σ → E β → β → σ → Prop)

/-! ### Runs -/

/-- A complete run of a program: how it ended, and the store it left. -/
inductive Serves : Program E ε α → σ → Except ε α → σ → Prop
  | done (value : α) (store : σ) : Serves (.done value) store (.ok value) store
  | fail (error : ε) (store : σ) : Serves (.fail error) store (.error error) store
  | call {β : Type} {effect : E β} {next : β → Program E ε α} {store middle after : σ}
      {outcome : Except ε α} (reply : β) (answered : answers store effect reply middle)
      (rest : Serves (next reply) middle outcome after) :
      Serves (.call effect next) store outcome after

variable {answers}

namespace Serves

variable {store after : σ}

theorem bind_inv {first : Program E ε β} {second : β → Program E ε α} {outcome : Except ε α}
    (run : Serves answers (first >>= second) store outcome after) :
    (∃ error, Serves answers first store (.error error) after ∧ outcome = .error error) ∨
      ∃ value middle, Serves answers first store (.ok value) middle ∧
        Serves answers (second value) middle outcome after := by
  induction first generalizing store with
  | done value => exact .inr ⟨value, _, .done value _, run⟩
  | fail error =>
    cases run
    exact .inl ⟨error, .fail error _, rfl⟩
  | call effect next ih =>
    cases run with
    | call reply answered rest =>
      rcases ih reply rest with ⟨error, threw, rfl⟩ | ⟨value, middle, head, last⟩
      · exact .inl ⟨error, .call reply answered threw, rfl⟩
      · exact .inr ⟨value, middle, .call reply answered head, last⟩

theorem tryCatch_inv {body : Program E ε α} {handler : ε → Program E ε α} {outcome : Except ε α}
    (run : Serves answers (body.tryCatch handler) store outcome after) :
    (∃ value, Serves answers body store (.ok value) after ∧ outcome = .ok value) ∨
      ∃ error middle, Serves answers body store (.error error) middle ∧
        Serves answers (handler error) middle outcome after := by
  induction body generalizing store with
  | done value =>
    cases run
    exact .inl ⟨value, .done value _, rfl⟩
  | fail error => exact .inr ⟨error, _, .fail error _, run⟩
  | call effect next ih =>
    cases run with
    | call reply answered rest =>
      rcases ih reply rest with ⟨value, returned, rfl⟩ | ⟨error, middle, head, last⟩
      · exact .inl ⟨value, .call reply answered returned, rfl⟩
      · exact .inr ⟨error, middle, .call reply answered head, last⟩

end Serves

/-! ### Runs in an environment that answers by itself -/

/-- How a program ends in an environment, unless it makes a call that the environment cannot answer. -/
def settle (environment : {β : Type} → σ → E β → β × σ) (answerable : {β : Type} → σ → E β → Bool) :
    Program E ε α → σ → Option (Except ε α × σ)
  | .done value, store => some (.ok value, store)
  | .fail error, store => some (.error error, store)
  | .call effect next, store =>
    if answerable store effect then
      settle environment answerable (next (environment store effect).1) (environment store effect).2
    else none

theorem serves_of_settle {environment : {β : Type} → σ → E β → β × σ}
    {answerable : {β : Type} → σ → E β → Bool}
    (truthful : ∀ {β : Type} (store : σ) (effect : E β), answerable store effect = true →
      answers store effect (environment store effect).1 (environment store effect).2)
    {program : Program E ε α} {store after : σ} {outcome : Except ε α}
    (ended : settle environment answerable program store = some (outcome, after)) :
    Serves answers program store outcome after := by
  induction program generalizing store with
  | done value =>
    cases ended
    exact .done value _
  | fail error =>
    cases ended
    exact .fail error _
  | call effect next ih =>
    rw [settle] at ended
    split at ended
    · next can => exact .call _ (truthful store effect can) (ih _ ended)
    · cases ended

/-! ### Postconditions -/

/-- Every run of the program from this store meets the postcondition. -/
structure Ensures (answers : {β : Type} → σ → E β → β → σ → Prop) (post : Except ε α → σ → Prop)
    (program : Program E ε α) (store : σ) : Prop where
  meets : ∀ outcome after, Serves answers program store outcome after → post outcome after

namespace Ensures

variable {post : Except ε α → σ → Prop} {store : σ}

theorem done {value : α} (holds : post (.ok value) store) :
    Ensures answers post (.done value) store := by
  refine ⟨fun outcome after run => ?_⟩
  cases run
  exact holds

theorem fail {error : ε} (holds : post (.error error) store) :
    Ensures answers post (.fail error) store := by
  refine ⟨fun outcome after run => ?_⟩
  cases run
  exact holds

theorem call {effect : E β} {next : β → Program E ε α}
    (each : ∀ reply middle, answers store effect reply middle →
      Ensures answers post (next reply) middle) :
    Ensures answers post (.call effect next) store := by
  refine ⟨fun outcome after run => ?_⟩
  cases run with
  | call reply answered rest => exact (each reply _ answered).meets outcome after rest

theorem mono {stronger : Except ε α → σ → Prop} {program : Program E ε α}
    (ensures : Ensures answers stronger program store)
    (weaken : ∀ outcome after, stronger outcome after → post outcome after) :
    Ensures answers post program store :=
  ⟨fun outcome after run => weaken outcome after (ensures.meets outcome after run)⟩

theorem bind {middle : Except ε β → σ → Prop} {first : Program E ε β} {second : β → Program E ε α}
    (head : Ensures answers middle first store)
    (returned : ∀ value later, middle (.ok value) later → Ensures answers post (second value) later)
    (threw : ∀ error later, middle (.error error) later → post (.error error) later) :
    Ensures answers post (first >>= second) store := by
  refine ⟨fun outcome after run => ?_⟩
  rcases run.bind_inv with ⟨error, failed, rfl⟩ | ⟨value, later, done, rest⟩
  · exact threw error after (head.meets _ _ failed)
  · exact (returned value later (head.meets _ _ done)).meets outcome after rest

theorem tryCatch {middle : Except ε α → σ → Prop} {body : Program E ε α}
    {handler : ε → Program E ε α} (head : Ensures answers middle body store)
    (returned : ∀ value later, middle (.ok value) later → post (.ok value) later)
    (caught : ∀ error later, middle (.error error) later →
      Ensures answers post (handler error) later) :
    Ensures answers post (body.tryCatch handler) store := by
  refine ⟨fun outcome after run => ?_⟩
  rcases run.tryCatch_inv with ⟨value, done, rfl⟩ | ⟨error, later, failed, rest⟩
  · exact returned value after (head.meets _ _ done)
  · exact (caught error later (head.meets _ _ failed)).meets outcome after rest

theorem attempt {δ : Type} {middle : Except ε β → σ → Prop} {body : Program E ε β}
    {second : Except ε β → Program E δ α} {post : Except δ α → σ → Prop}
    (head : Ensures answers middle body store)
    (settled : ∀ result later, middle result later → Ensures answers post (second result) later) :
    Ensures answers post (body.attempt >>= second) store := by
  induction body generalizing store with
  | done value => exact settled (.ok value) store (head.meets _ _ (.done value store))
  | fail error => exact settled (.error error) store (head.meets _ _ (.fail error store))
  | call effect next ih =>
    refine call fun reply later answered => ih reply ⟨fun outcome after run => ?_⟩
    exact head.meets outcome after (.call reply answered run)

theorem throwUnless {condition : Bool} {error : ε} {second : Unit → Program E ε α}
    (holds : condition = true → Ensures answers post (second ()) store)
    (fails : condition = false → post (.error error) store) :
    Ensures answers post (throwUnless condition error >>= second) store := by
  cases condition with
  | true => exact holds rfl
  | false => exact fail (fails rfl)

theorem orThrow {found : Option β} {error : ε} {second : β → Program E ε α}
    (some_of : ∀ value, found = some value → Ensures answers post (second value) store)
    (none_of : found = none → post (.error error) store) :
    Ensures answers post (orThrow found error >>= second) store := by
  cases found with
  | none => exact fail (none_of rfl)
  | some value => exact some_of value rfl

theorem fromExcept {result : Except ε β} {second : β → Program E ε α}
    (ok_of : ∀ value, result = .ok value → Ensures answers post (second value) store)
    (error_of : ∀ error, result = .error error → post (.error error) store) :
    Ensures answers post (fromExcept result >>= second) store := by
  cases result with
  | error error => exact fail (error_of error rfl)
  | ok value => exact ok_of value rfl

/-- A program among other calls does what it does by itself. -/
theorem mapCalls {F : Type → Type} {others : {β : Type} → σ → F β → β → σ → Prop}
    {embed : {β : Type} → E β → F β} {program : Program E ε α}
    (ensures : Ensures answers post program store)
    (same : ∀ {β : Type} (effect : E β) (before : σ) (reply : β) (later : σ),
      others before (embed effect) reply later → answers before effect reply later) :
    Ensures others post (program.mapCalls embed) store := by
  induction program generalizing store with
  | done value => exact done (ensures.meets _ _ (.done value store))
  | fail error => exact fail (ensures.meets _ _ (.fail error store))
  | call effect next ih =>
    refine call fun reply later answered => ih reply ⟨fun outcome after run => ?_⟩
    exact ensures.meets outcome after (.call reply (same effect store reply later answered) run)

end Ensures

end Foundation
