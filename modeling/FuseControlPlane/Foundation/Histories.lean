/-
What the history of a process says by itself.

* `Path program history rest`: the calls of `history` lead from `program` to `rest`.
* `Scripted behave before history`: every reply of the history is what `behave` says after the calls
  before it.
* `Path.comparable`, `Path.unique`: two paths of one program whose replies are scripted alike are the same
  as far as both go.
* `Reachable.path`: a process is on a path of its own program, whatever the others do.
* `guarded allowed`: the machine whose phase is the history and which takes the calls that `allowed` lets
  through; `Reachable.guarded`: every call of a program that keeps to it was allowed.
* `ReachableAlong.each_event`: a condition on every step holds of every event of a history.
-/

import FuseControlPlane.Foundation.Processes
import Mathlib.Data.List.Induction

set_option linter.unusedSectionVars false

namespace Foundation

variable {E : Type → Type} {σ ε α β ι : Type}

/-! ### Paths -/

/-- The calls that lead from a program to what is left of it. -/
inductive Path : Program E ε α → List (Event E) → Program E ε α → Prop
  | refl (program : Program E ε α) : Path program [] program
  | call {β : Type} (effect : E β) (next : β → Program E ε α) (reply : β) {events : List (Event E)}
      {rest : Program E ε α} (path : Path (next reply) events rest) :
      Path (.call effect next) (⟨effect, reply⟩ :: events) rest

/-- Every reply is what `behave` says, after the calls before it. -/
def Scripted (behave : List (Event E) → {β : Type} → E β → β) :
    List (Event E) → List (Event E) → Prop
  | _, [] => True
  | before, event :: rest =>
    event.reply = behave before event.effect ∧ Scripted behave (before ++ [event]) rest

namespace Path

theorem concat {program : Program E ε α} {events : List (Event E)} {effect : E β}
    {next : β → Program E ε α} (path : Path program events (.call effect next)) (reply : β) :
    Path program (events ++ [⟨effect, reply⟩]) (next reply) := by
  generalize here : Program.call effect next = rest at path
  induction path with
  | refl program =>
    subst here
    exact .call effect next reply (.refl _)
  | call other after answer _ ih => exact .call other after answer (ih here)

theorem stuck {program rest : Program E ε α} {events : List (Event E)}
    (path : Path program events rest) (ended : program.goesOn = false) :
    events = [] ∧ rest = program := by
  cases path with
  | refl => exact ⟨rfl, rfl⟩
  | call => cases ended

/-- **Two paths of one program with replies scripted alike** are the same as far as both go. -/
theorem comparable {behave : List (Event E) → {β : Type} → E β → β}
    {program first second : Program E ε α} {before left right : List (Event E)}
    (here : Path program left first) (there : Path program right second)
    (scripted_left : Scripted behave before left) (scripted_right : Scripted behave before right) :
    (∃ more, right = left ++ more ∧ Path first more second) ∨
      ∃ more, left = right ++ more ∧ Path second more first := by
  induction here generalizing before right with
  | refl program => exact .inl ⟨right, rfl, there⟩
  | call effect next reply path ih =>
    cases there with
    | refl => exact .inr ⟨_, rfl, .call effect next reply path⟩
    | call _ _ answer other =>
      have same : reply = answer := scripted_left.1.trans scripted_right.1.symm
      subst same
      rcases ih other scripted_left.2 scripted_right.2 with ⟨more, rfl, rest⟩ | ⟨more, rfl, rest⟩
      · exact .inl ⟨more, rfl, rest⟩
      · exact .inr ⟨more, rfl, rest⟩

/-- Two such paths that both ended made the same calls. -/
theorem unique {behave : List (Event E) → {β : Type} → E β → β}
    {program first second : Program E ε α} {before left right : List (Event E)}
    (here : Path program left first) (there : Path program right second)
    (scripted_left : Scripted behave before left) (scripted_right : Scripted behave before right)
    (ended_left : first.goesOn = false) (ended_right : second.goesOn = false) :
    left = right ∧ first = second := by
  rcases here.comparable there scripted_left scripted_right with ⟨more, rfl, rest⟩ | ⟨more, rfl, rest⟩
  · obtain ⟨rfl, rfl⟩ := rest.stuck ended_left
    exact ⟨(List.append_nil _).symm, rfl⟩
  · obtain ⟨rfl, rfl⟩ := rest.stuck ended_right
    exact ⟨List.append_nil _, rfl⟩

end Path

/-! ### Guards -/

open Classical in
/-- The machine whose phase is the history, and which takes only the calls that are allowed. -/
noncomputable def guarded (allowed : List (Event E) → Event E → Prop) (history : List (Event E))
    (event : Event E) : Option (List (Event E)) :=
  if allowed history event then some (history ++ [event]) else none

variable {allowed : List (Event E) → Event E → Prop}

theorem guarded_of_allowed {history : List (Event E)} {event : Event E}
    (allows : allowed history event) : guarded allowed history event = some (history ++ [event]) :=
  if_pos allows

theorem guarded_eq_some {history later : List (Event E)} {event : Event E}
    (moved : guarded allowed history event = some later) :
    allowed history event ∧ later = history ++ [event] := by
  unfold guarded at moved
  split at moved
  · next allows => exact ⟨allows, (Option.some.inj moved).symm⟩
  · cases moved

/-- An element of a list with a last one is the last one, or stands before it. -/
theorem split_concat {γ : Type*} {history before rest : List γ} {last event : γ}
    (split : history ++ [last] = before ++ event :: rest) :
    (before = history ∧ event = last) ∨ ∃ middle, history = before ++ event :: middle := by
  induction rest using List.reverseRecOn with
  | nil =>
    obtain ⟨same, ends⟩ := List.append_inj' split rfl
    exact .inl ⟨same.symm, (List.cons.inj ends).1.symm⟩
  | append_singleton middle final _ =>
    rw [← List.cons_append, ← List.append_assoc] at split
    exact .inr ⟨middle, (List.append_inj' split rfl).1⟩

/-- The calls that moved such a machine were all allowed. -/
theorem allowed_of_phaseAfter {history later : List (Event E)}
    (moved : phaseAfter (guarded allowed) [] history = some later) :
    later = history ∧
      ∀ before event rest, history = before ++ event :: rest → allowed before event := by
  induction history using List.reverseRecOn generalizing later with
  | nil =>
    refine ⟨(Option.some.inj moved).symm, fun before event rest split => ?_⟩
    cases before <;> cases split
  | append_singleton history last ih =>
    obtain ⟨phase, so_far, final⟩ := phaseAfter_concat_inv (guarded allowed) moved
    obtain ⟨rfl, earlier⟩ := ih so_far
    obtain ⟨allows, rfl⟩ := guarded_eq_some final
    refine ⟨rfl, fun before event rest split => ?_⟩
    rcases split_concat split with ⟨rfl, rfl⟩ | ⟨middle, split⟩
    · exact allows
    · exact earlier before event middle split

namespace World

variable [DecidableEq ι] {answers : {β : Type} → σ → E β → β → σ → Prop} {moves : σ → σ → Prop}
  {store : σ} {programs : ι → Program E ε α} {world : World E σ ε α ι}

/-- **A process is on a path of its own program.** -/
theorem Reachable.path (reached : Reachable answers moves (start store programs) world) (name : ι) :
    Path (programs name) (world.process name).history (world.process name).program := by
  induction reached with
  | refl => exact .refl _
  | step _ taken ih =>
    cases taken with
    | move after moved => exact ih
    | call caller effect next reply after here answered =>
      by_cases same : name = caller
      · subst same
        rw [here] at ih
        simp only [Function.update_self]
        exact ih.concat reply
      · simp only [Function.update_of_ne same]
        exact ih

/-- **Every call of a process was allowed**, if its program keeps to what is. -/
theorem Reachable.guarded {allowed : ι → List (Event E) → Event E → Prop}
    (reached : Reachable answers moves (start store programs) world)
    {post : ι → Except ε α → List (Event E) → Prop}
    (each : ∀ name, Keeps (guarded (allowed name)) (post name) [] (programs name)) (name : ι)
    {before : List (Event E)} {event : Event E} {rest : List (Event E)}
    (split : (world.process name).history = before ++ event :: rest) : allowed name before event := by
  obtain ⟨phase, so_far, _⟩ := reached.settles (fun name => (each name).settles) name
  exact (allowed_of_phaseAfter so_far).2 before event rest split

/-- A condition on the calls before a call and on the call with its reply. -/
def EachEvent (ok : List (Event E) → Event E → Prop) (world after : World E σ ε α ι) : Prop :=
  ∀ name event, (after.process name).history = (world.process name).history ++ [event] →
    ok (world.process name).history event

/-- **A condition on every step holds of every event.** -/
theorem ReachableAlong.each_event {ok : List (Event E) → Event E → Prop}
    (reached : ReachableAlong answers moves (EachEvent ok) (start store programs) world) (name : ι)
    {before : List (Event E)} {event : Event E} {rest : List (Event E)}
    (split : (world.process name).history = before ++ event :: rest) : ok before event := by
  induction reached generalizing before event rest with
  | refl =>
    have empty : [] = before ++ event :: rest := split
    cases before <;> cases empty
  | step _ taken meets ih =>
    cases taken with
    | move after moved => exact ih split
    | call caller effect next reply after here answered =>
      by_cases same : name = caller
      · subst same
        have added := meets name ⟨effect, reply⟩ (by simp only [Function.update_self])
        simp only [Function.update_self] at split
        rcases split_concat split with ⟨rfl, rfl⟩ | ⟨middle, split⟩
        · exact added
        · exact ih split
      · simp only [Function.update_of_ne same] at split
        exact ih split

/-- A condition that every reply meets holds in every run. -/
theorem Reachable.along_events {ok : List (Event E) → Event E → Prop}
    {initial world : World E σ ε α ι} (reached : Reachable answers moves initial world)
    (always : ∀ before store (β : Type) (effect : E β) (reply : β) after,
      answers store effect reply after → ok before ⟨effect, reply⟩) :
    ReachableAlong answers moves (EachEvent ok) initial world := by
  induction reached with
  | refl => exact .refl
  | step _ taken ih =>
    refine .step ih taken fun name event added => ?_
    cases taken with
    | move after moved => exact absurd (congrArg List.length added) (by simp)
    | call caller effect next reply after here answered =>
      by_cases same : name = caller
      · subst same
        simp only [Function.update_self, List.append_cancel_left_eq, List.cons.injEq, and_true]
          at added
        subst added
        exact always _ _ _ effect reply after answered
      · simp only [Function.update_of_ne same] at added
        exact absurd (congrArg List.length added) (by simp)

end World

end Foundation
