/-
Programs that call out to an environment: a free monad with an error leaf.

A `Program E ε α` is a tree of calls. A call `effect : E β` is answered by some `reply : β` and the
program goes on with it; a leaf is a value or a thrown error. The type says nothing about what a
call does: one reading runs every call against a store (`ReadCommitted.lean`), another only records
the calls and their replies (`Execution` below).

* `bind`, `tryCatch` and the two instances give `do`, `throw` and `try`/`catch`; `attempt` and
  `tryFinally` give `try`/`finally`.
* `throwUnless`, `orThrow`, `fromExcept`: the ways a program throws.
* `Execution program events outcome`: one complete run, with the calls it made in order.
* `Execution.bind_inv`, `Execution.tryCatch_inv`, `Execution.perform_inv`: a run of a composite is
  composed of runs of its parts. Proofs about a concrete program take it apart with these.
* `AllCalls P program`: every call on every path satisfies `P`.
-/

import Mathlib.Data.List.Basic
import Mathlib.Tactic.Common

namespace Foundation

/-- A program over the effects `E`, which throws errors `ε` and returns an `α`. -/
inductive Program (E : Type → Type) (ε α : Type) : Type 1
  | done (value : α)
  | fail (error : ε)
  | call {β : Type} (effect : E β) (next : β → Program E ε α)

namespace Program

variable {E : Type → Type} {ε α β γ : Type}

/-- Sequencing: run the first program, then the second on its value. -/
protected def bind (first : Program E ε α) (second : α → Program E ε β) : Program E ε β :=
  match first with
  | done value => second value
  | fail error => fail error
  | call effect next => call effect fun reply => (next reply).bind second

/-- Run `body`; an error it throws goes to `handler`. -/
protected def tryCatch (body : Program E ε α) (handler : ε → Program E ε α) : Program E ε α :=
  match body with
  | done value => done value
  | fail error => handler error
  | call effect next => call effect fun reply => (next reply).tryCatch handler

instance : Monad (Program E ε) where
  pure := done
  bind := Program.bind

instance : MonadExcept ε (Program E ε) where
  throw := fail
  tryCatch := Program.tryCatch

/-- A single call, returning its reply. -/
def perform (effect : E β) : Program E ε β := call effect done

@[simp] theorem pure_eq (value : α) : (pure value : Program E ε α) = done value := rfl

@[simp] theorem throw_eq (error : ε) : (throw error : Program E ε α) = fail error := rfl

@[simp] theorem done_bind (value : α) (second : α → Program E ε β) :
    (done value >>= second) = second value := rfl

@[simp] theorem fail_bind (error : ε) (second : α → Program E ε β) :
    ((fail error : Program E ε α) >>= second) = fail error := rfl

@[simp] theorem call_bind (effect : E γ) (next : γ → Program E ε α) (second : α → Program E ε β) :
    (call effect next >>= second) = call effect fun reply => next reply >>= second := rfl

@[simp] theorem perform_bind (effect : E γ) (second : γ → Program E ε β) :
    (perform effect >>= second) = call effect second := rfl

/-- Throw `error` unless the condition holds. -/
def throwUnless (condition : Bool) (error : ε) : Program E ε Unit :=
  if condition then done () else fail error

/-- The value, or throw `error` if there is none. -/
def orThrow (found : Option α) (error : ε) : Program E ε α :=
  match found with
  | some value => done value
  | none => fail error

/-- The value, or rethrow the error. -/
def fromExcept (result : Except ε α) : Program E ε α :=
  match result with
  | .ok value => done value
  | .error error => fail error

/-- Run `body`; give what it returned or threw to what follows. -/
protected def attempt {δ : Type} (body : Program E ε α) : Program E δ (Except ε α) :=
  match body with
  | done value => done (.ok value)
  | fail error => done (.error error)
  | call effect next => call effect fun reply => (next reply).attempt

/-- `try { body } finally { cleanup }`. -/
def tryFinally (body : Program E ε α) (cleanup : Program E ε Unit) : Program E ε α := do
  let result ← body.attempt
  cleanup
  fromExcept result

/-- The program with its calls among other calls. -/
def mapCalls {F : Type → Type} (embed : {β : Type} → E β → F β) : Program E ε α → Program F ε α
  | done value => done value
  | fail error => fail error
  | call effect next => call (embed effect) fun reply => (next reply).mapCalls embed

/-- The program makes another call. -/
def goesOn : Program E ε α → Bool
  | call _ _ => true
  | _ => false

theorem mapError_eq_ok {δ : Type} {rethrow : ε → δ} {result : Except ε α} {value : α} :
    result.mapError rethrow = .ok value ↔ result = .ok value := by
  cases result <;> simp [Except.mapError]

theorem mapError_eq_error {δ : Type} {rethrow : ε → δ} {result : Except ε α} {thrown : δ} :
    result.mapError rethrow = .error thrown ↔ ∃ error, result = .error error ∧ rethrow error = thrown := by
  cases result <;> simp [Except.mapError]

theorem id_map' (program : Program E ε α) : id <$> program = program := by
  induction program with
  | done value => rfl
  | fail error => rfl
  | call effect next ih => exact congrArg (call effect) (funext ih)

theorem bind_assoc' (first : Program E ε α) (second : α → Program E ε β)
    (third : β → Program E ε γ) :
    first >>= second >>= third = first >>= fun value => second value >>= third := by
  induction first with
  | done value => rfl
  | fail error => rfl
  | call effect next ih => exact congrArg (call effect) (funext ih)

instance : LawfulMonad (Program E ε) :=
  LawfulMonad.mk' _ id_map' (fun _ _ => rfl) bind_assoc'

theorem tryFinally_bind (body : Program E ε α) (cleanup : Program E ε Unit)
    (second : α → Program E ε β) : tryFinally body cleanup >>= second =
      body.attempt >>= fun result => cleanup >>= fun _ => fromExcept result >>= second := by
  simp only [tryFinally, bind_assoc]

end Program

/-! ### Runs that record their calls -/

/-- A call together with the reply it got. -/
structure Event (E : Type → Type) : Type 1 where
  {Reply : Type}
  effect : E Reply
  reply : Reply

/-- A complete run of a program: the calls it made, in order, and how it ended. -/
inductive Execution {E : Type → Type} {ε α : Type} :
    Program E ε α → List (Event E) → Except ε α → Prop
  | done (value : α) : Execution (.done value) [] (.ok value)
  | fail (error : ε) : Execution (.fail error) [] (.error error)
  | call {β : Type} (effect : E β) (next : β → Program E ε α) (reply : β)
      {events : List (Event E)} {outcome : Except ε α} (rest : Execution (next reply) events outcome) :
      Execution (.call effect next) (⟨effect, reply⟩ :: events) outcome

namespace Execution

variable {E : Type → Type} {ε α β : Type} {events : List (Event E)}

theorem done_inv {value : α} {outcome : Except ε α}
    (run : Execution (E := E) (.done value) events outcome) : events = [] ∧ outcome = .ok value := by
  cases run
  exact ⟨rfl, rfl⟩

theorem fail_inv {error : ε} {outcome : Except ε α}
    (run : Execution (E := E) (.fail error) events outcome) :
    events = [] ∧ outcome = .error error := by
  cases run
  exact ⟨rfl, rfl⟩

theorem call_inv {effect : E β} {next : β → Program E ε α} {outcome : Except ε α}
    (run : Execution (.call effect next) events outcome) :
    ∃ reply rest, events = ⟨effect, reply⟩ :: rest ∧ Execution (next reply) rest outcome := by
  cases run with
  | call _ _ reply rest => exact ⟨reply, _, rfl, rest⟩

/-- A run of `first >>= second` is a run of `first` that threw, or one that returned a value and a
run of `second` on that value. -/
theorem bind_inv {first : Program E ε α} {second : α → Program E ε β} {outcome : Except ε β}
    (run : Execution (first >>= second) events outcome) :
    (∃ error, Execution first events (.error error) ∧ outcome = .error error) ∨
      ∃ value before after, events = before ++ after ∧ Execution first before (.ok value) ∧
        Execution (second value) after outcome := by
  induction first generalizing events with
  | done value => exact .inr ⟨value, [], events, rfl, .done value, run⟩
  | fail error =>
    obtain ⟨rfl, rfl⟩ := fail_inv run
    exact .inl ⟨error, .fail error, rfl⟩
  | call effect next ih =>
    obtain ⟨reply, rest, rfl, tail⟩ := call_inv run
    rcases ih reply tail with ⟨error, threw, rfl⟩ | ⟨value, before, after, rfl, head, last⟩
    · exact .inl ⟨error, .call effect next reply threw, rfl⟩
    · exact .inr ⟨value, _ :: before, after, rfl, .call effect next reply head, last⟩

/-- A run of `first` that returned and a run of `second` on its value are a run of `first >>= second`. -/
theorem bind {first : Program E ε α} {second : α → Program E ε β} {value : α} {before after : List (Event E)}
    {outcome : Except ε β} (head : Execution first before (.ok value))
    (tail : Execution (second value) after outcome) : Execution (first >>= second) (before ++ after) outcome := by
  induction first generalizing before with
  | done returned =>
    obtain ⟨rfl, ⟨⟩⟩ := done_inv head
    exact tail
  | fail error => cases (fail_inv head).2
  | call effect next ih =>
    obtain ⟨reply, rest, rfl, later⟩ := call_inv head
    exact .call effect _ reply (ih reply later)

end Execution

/-- The run in which every call is answered by an oracle. -/
def Program.answer {E : Type → Type} {ε α : Type} (oracle : {β : Type} → E β → β) :
    Program E ε α → List (Event E) × Except ε α
  | .done value => ([], .ok value)
  | .fail error => ([], .error error)
  | .call effect next =>
    let (events, outcome) := (next (oracle effect)).answer oracle
    (⟨effect, oracle effect⟩ :: events, outcome)

theorem Execution.answer {E : Type → Type} {ε α : Type} (oracle : {β : Type} → E β → β)
    (program : Program E ε α) :
    Execution program (program.answer oracle).1 (program.answer oracle).2 := by
  induction program with
  | done value => exact .done value
  | fail error => exact .fail error
  | call effect next ih => exact .call effect next (oracle effect) (ih (oracle effect))

/-! ### Properties of every call -/

/-- Every call of the program, on every path, satisfies `P`. -/
def AllCalls {E : Type → Type} {ε α : Type} (P : {β : Type} → E β → Prop) : Program E ε α → Prop
  | .done _ => True
  | .fail _ => True
  | .call effect next => P effect ∧ ∀ reply, AllCalls P (next reply)

namespace AllCalls

variable {E : Type → Type} {ε α β : Type} {P : {β : Type} → E β → Prop}

theorem done {value : α} : AllCalls P (.done value : Program E ε α) := trivial

theorem fail {error : ε} : AllCalls P (.fail error : Program E ε α) := trivial

theorem call_iff {effect : E β} {next : β → Program E ε α} :
    AllCalls P (Program.call effect next : Program E ε α) ↔ P effect ∧ ∀ reply, AllCalls P (next reply) :=
  .rfl

theorem mono {Q : {β : Type} → E β → Prop} {program : Program E ε α} (calls : AllCalls P program)
    (weaken : ∀ {β : Type} (effect : E β), P effect → Q effect) : AllCalls Q program := by
  induction program with
  | done value => trivial
  | fail error => trivial
  | call effect next ih => exact ⟨weaken effect calls.1, fun reply => ih reply (calls.2 reply)⟩

theorem perform {effect : E β} (holds : P effect) :
    AllCalls P (Program.perform effect : Program E ε β) := ⟨holds, fun _ => trivial⟩

theorem throwUnless {condition : Bool} {error : ε} :
    AllCalls P (Program.throwUnless condition error : Program E ε Unit) := by
  cases condition <;> trivial

theorem orThrow {found : Option β} {error : ε} :
    AllCalls P (Program.orThrow found error : Program E ε β) := by
  cases found <;> trivial

theorem fromExcept {result : Except ε β} :
    AllCalls P (Program.fromExcept result : Program E ε β) := by
  cases result <;> trivial

theorem bind {first : Program E ε α} {second : α → Program E ε β} (head : AllCalls P first)
    (tail : ∀ value, AllCalls P (second value)) : AllCalls P (first >>= second) := by
  induction first with
  | done value => exact tail value
  | fail error => trivial
  | call effect next ih => exact ⟨head.1, fun reply => ih reply (head.2 reply)⟩

theorem tryCatch {body : Program E ε α} {handler : ε → Program E ε α} (head : AllCalls P body)
    (tail : ∀ error, AllCalls P (handler error)) : AllCalls P (body.tryCatch handler) := by
  induction body with
  | done value => trivial
  | fail error => exact tail error
  | call effect next ih => exact ⟨head.1, fun reply => ih reply (head.2 reply)⟩

/-- What holds of every call of a program holds of the calls of a run. -/
theorem events {program : Program E ε α} (calls : AllCalls P program) {events : List (Event E)}
    {outcome : Except ε α} (run : Execution program events outcome) :
    ∀ event ∈ events, P event.effect := by
  induction run with
  | done value => simp
  | fail error => simp
  | call effect next reply rest ih =>
    intro event member
    rcases List.mem_cons.mp member with rfl | later
    · exact calls.1
    · exact ih (calls.2 reply) event later

/-- A run that makes a call `first` does not make has gone through `first`. -/
theorem skip {first : Program E ε α} (calls : AllCalls P first) {second : α → Program E ε β}
    {events : List (Event E)} {outcome : Except ε β} (run : Execution (first >>= second) events outcome)
    {event : Event E} (member : event ∈ events) (other : ¬ P event.effect) :
    ∃ value before after, events = before ++ after ∧ (∀ earlier ∈ before, P earlier.effect) ∧
      event ∈ after ∧ Execution (second value) after outcome := by
  rcases run.bind_inv with ⟨error, threw, _⟩ | ⟨value, before, after, rfl, head, tail⟩
  · exact absurd (calls.events threw event member) other
  · refine ⟨value, before, after, rfl, calls.events head, ?_, tail⟩
    exact (List.mem_append.mp member).resolve_left fun early =>
      other (calls.events head event early)

-- an elaborator that looks for a function type would run the program
attribute [irreducible] AllCalls

end AllCalls

end Foundation
