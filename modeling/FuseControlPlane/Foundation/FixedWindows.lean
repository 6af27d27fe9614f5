/-
Limiters that count the calls of a key in windows.

* `Answer`, `granted`: what a limiter answers, and the answers to a key that are allowed.
* `IsBounded`: a window has at most the maximum, **any interval of its width has at most twice the maximum**, and a
  call is allowed once the windows before it are over.
* `Counts`: what is allowed in the current epoch is counted, and earlier epochs are apart from it. `Counts.skip`,
  `Counts.restart`, `Counts.grant`: what a call makes of this.
* `Counts.interval`, `Counts.window`: two epochs cover an interval, since the calls of a third one are too far off.
-/

import Mathlib.Algebra.Order.Ring.Nat
import Mathlib.Data.List.Count

set_option linter.unusedSectionVars false

namespace Foundation

/-- What a limiter answers. Calls are counted since the epoch; the window of a key may be opened later than that, and
a call that fails is in no window. -/
structure Answer (Key : Type) where
  key : Key
  instant : ℤ
  epoch : ℤ
  openedAt : Option ℤ
  allowed : Bool

section Answers

variable {Key : Type} [DecidableEq Key] {width : ℤ} {maximum count : ℕ} {key : Key} {epoch : ℤ}
  {answers : List (Answer Key)} {answer : Answer Key}

/-- The answers to a key that are allowed. -/
def granted (key : Key) (answers : List (Answer Key)) : List (Answer Key) :=
  answers.filter fun answer => answer.key = key ∧ answer.allowed = true

/-- A call is allowed, whatever was denied before, once the windows of its key are over. -/
def Recovers (width : ℤ) (key : Key) (answers : List (Answer Key)) : Prop :=
  ∀ before answer after, answers = before ++ answer :: after → answer.key = key →
    (∀ earlier ∈ before, earlier.key = key → ∀ opened, earlier.openedAt = some opened →
      opened + width ≤ answer.instant) → answer.allowed = true

structure IsBounded (width : ℤ) (maximum : ℕ) (key : Key) (answers : List (Answer Key)) : Prop where
  interval : ∀ start, ((granted key answers).countP fun answer =>
    start ≤ answer.instant ∧ answer.instant ≤ start + width) ≤ 2 * maximum
  window : ∀ opened, ((granted key answers).countP fun answer => answer.openedAt = some opened) ≤ maximum
  recovers : Recovers width key answers

/-- What was allowed in the current epoch is counted, and no epoch had more than the maximum. -/
structure Counts (width : ℤ) (maximum : ℕ) (key : Key) (epoch : ℤ) (count : ℕ) (answers : List (Answer Key)) : Prop where
  within : ∀ answer ∈ granted key answers, ∃ opened, answer.openedAt = some opened ∧ answer.epoch ≤ opened ∧
    opened ≤ answer.instant ∧ answer.instant < answer.epoch + width
  apart : ∀ answer ∈ granted key answers, ∀ other ∈ granted key answers, answer.epoch = other.epoch ∨
    answer.epoch + width ≤ other.epoch ∨ other.epoch + width ≤ answer.epoch
  few : ∀ epoch, ((granted key answers).countP fun answer => answer.epoch = epoch) ≤ maximum
  earlier : ∀ answer ∈ granted key answers, answer.epoch = epoch ∨ answer.epoch + width ≤ epoch
  counted : ((granted key answers).countP fun answer => answer.epoch = epoch) ≤ count

/-! ### One more answer -/

theorem granted_append_of_not (denied : ¬ (answer.key = key ∧ answer.allowed = true)) :
    granted key (answers ++ [answer]) = granted key answers := by
  unfold granted
  rw [List.filter_append, List.filter_cons_of_neg (by rwa [decide_eq_true_iff]), List.filter_nil, List.append_nil]

theorem granted_append (own : answer.key = key) (allowed : answer.allowed = true) :
    granted key (answers ++ [answer]) = granted key answers ++ [answer] := by
  unfold granted
  rw [List.filter_append]
  exact congrArg _ (List.filter_cons_of_pos (decide_eq_true ⟨own, allowed⟩))

theorem Recovers.append (recovers : Recovers width key answers)
    (last : answer.key = key → (∀ earlier ∈ answers, earlier.key = key → ∀ opened, earlier.openedAt = some opened →
      opened + width ≤ answer.instant) → answer.allowed = true) : Recovers width key (answers ++ [answer]) := by
  intro before other after split own elapsed
  rcases List.eq_nil_or_concat after with rfl | ⟨front, final, rfl⟩
  · obtain ⟨rfl, same⟩ := List.append_inj' split rfl
    cases same
    exact last own elapsed
  · rw [List.concat_eq_append, ← List.cons_append, ← List.append_assoc] at split
    exact recovers before other front (List.append_inj' split rfl).1 own elapsed

namespace Counts

theorem of_granted_nil (none : granted key answers = []) (epoch : ℤ) (count : ℕ) :
    Counts width maximum key epoch count answers := by
  constructor <;> rw [none]
  · exact fun _ member => absurd member List.not_mem_nil
  · exact fun _ member => absurd member List.not_mem_nil
  · exact fun _ => Nat.zero_le _
  · exact fun _ member => absurd member List.not_mem_nil
  · exact Nat.zero_le _

/-- An answer that allows the key nothing. -/
theorem skip (counts : Counts width maximum key epoch count answers)
    (denied : ¬ (answer.key = key ∧ answer.allowed = true)) {later : ℕ} (more : count ≤ later) :
    Counts width maximum key epoch later (answers ++ [answer]) := by
  have same := @granted_append_of_not _ _ key answers answer denied
  constructor <;> rw [same]
  · exact counts.within
  · exact counts.apart
  · exact counts.few
  · exact counts.earlier
  · exact counts.counted.trans more

/-- A new epoch. -/
theorem restart (counts : Counts width maximum key epoch count answers) (positive : 0 < width) {later : ℤ}
    (elapsed : epoch + width ≤ later) : Counts width maximum key later 0 answers := by
  have past : ∀ answer ∈ granted key answers, answer.epoch + width ≤ later := fun answer member => by
    rcases counts.earlier answer member with same | before
    · omega
    · omega
  refine ⟨counts.within, counts.apart, counts.few, fun answer member => .inr (past answer member), ?_⟩
  refine (List.countP_eq_zero.mpr fun answer member => ?_).le
  rw [decide_eq_true_iff]
  have before := past answer member
  omega

/-- A call that is allowed in the current epoch. -/
theorem grant (counts : Counts width maximum key epoch count answers) (own : answer.key = key)
    (allowed : answer.allowed = true) (current : answer.epoch = epoch) {opened : ℤ} (window : answer.openedAt = some opened)
    (after : epoch ≤ opened) (before : opened ≤ answer.instant) (inside : answer.instant < epoch + width)
    (room : count + 1 ≤ maximum) : Counts width maximum key epoch (count + 1) (answers ++ [answer]) := by
  have one : ∀ epoch, ([answer].countP fun answer => answer.epoch = epoch) = if answer.epoch = epoch then 1 else 0 := by
    intro epoch
    rw [List.countP_singleton]
    split <;> simp_all
  have ownWithin : ∃ opened, answer.openedAt = some opened ∧ answer.epoch ≤ opened ∧ opened ≤ answer.instant ∧
      answer.instant < answer.epoch + width :=
    ⟨opened, window, by omega, before, by omega⟩
  constructor <;> rw [granted_append own allowed]
  · intro other member
    rcases List.mem_append.mp member with past | last
    · exact counts.within other past
    · cases List.mem_singleton.mp last
      exact ownWithin
  · intro first firstIn second secondIn
    rcases List.mem_append.mp firstIn with past | last <;> rcases List.mem_append.mp secondIn with other | final
    · exact counts.apart first past second other
    · cases List.mem_singleton.mp final
      rw [current]
      exact (counts.earlier first past).imp_right .inl
    · cases List.mem_singleton.mp last
      rw [current]
      exact (counts.earlier second other).elim (fun same => .inl same.symm) fun before => .inr (.inr before)
    · cases List.mem_singleton.mp last
      cases List.mem_singleton.mp final
      exact .inl rfl
  · intro other
    rw [List.countP_append, one]
    split
    · next same =>
      have counted := counts.counted
      rw [current] at same
      rw [same] at counted
      omega
    · exact counts.few other
  · intro other member
    rcases List.mem_append.mp member with past | last
    · exact counts.earlier other past
    · cases List.mem_singleton.mp last
      exact .inl current
  · rw [List.countP_append, one, if_pos current]
    exact Nat.add_le_add_right counts.counted 1

/-! ### Bounds -/

/-- **An interval of the width** has calls of two epochs at most: a third one starts after it. -/
theorem interval (counts : Counts width maximum key epoch count answers) (start : ℤ) :
    ((granted key answers).countP fun answer => start ≤ answer.instant ∧ answer.instant ≤ start + width) ≤
      2 * maximum := by
  have near : ∀ first ∈ granted key answers, ∀ second ∈ granted key answers, ∀ third ∈ granted key answers,
      (start ≤ first.instant ∧ first.instant ≤ start + width) → (start ≤ second.instant ∧ second.instant ≤ start + width) →
      (start ≤ third.instant ∧ third.instant ≤ start + width) → first.epoch ≠ second.epoch → first.epoch ≠ third.epoch →
      third.epoch = second.epoch := by
    intro first firstIn second secondIn third thirdIn inFirst inSecond inThird other another
    obtain ⟨_, _, _, _, _⟩ := counts.within first firstIn
    obtain ⟨_, _, _, _, _⟩ := counts.within second secondIn
    obtain ⟨_, _, _, _, _⟩ := counts.within third thirdIn
    have firstSecond := counts.apart first firstIn second secondIn
    have firstThird := counts.apart first firstIn third thirdIn
    have secondThird := counts.apart second secondIn third thirdIn
    omega
  by_cases some : ∃ first ∈ granted key answers, start ≤ first.instant ∧ first.instant ≤ start + width
  · obtain ⟨first, firstIn, inFirst⟩ := some
    rw [List.countP_eq_countP_filter_add _ _ fun answer => answer.epoch = first.epoch, two_mul]
    refine Nat.add_le_add ?_ ?_
    · refine List.countP_le_length.trans ?_
      rw [← List.countP_eq_length_filter]
      exact counts.few first.epoch
    · by_cases another : ∃ second ∈ granted key answers, second.epoch ≠ first.epoch ∧
          start ≤ second.instant ∧ second.instant ≤ start + width
      · obtain ⟨second, secondIn, different, inSecond⟩ := another
        refine le_trans (List.countP_mono_left fun third thirdIn inThird => ?_)
          ((List.Sublist.countP_le List.filter_sublist).trans (counts.few second.epoch))
        obtain ⟨member, other⟩ := List.mem_filter.mp thirdIn
        exact decide_eq_true (near first firstIn second secondIn third member inFirst inSecond
          (of_decide_eq_true inThird) different.symm fun same => by simp [same] at other)
      · refine (List.countP_eq_zero.mpr fun second secondIn inSecond => another ?_).le.trans (Nat.zero_le _)
        obtain ⟨member, other⟩ := List.mem_filter.mp secondIn
        exact ⟨second, member, fun same => by simp [same] at other, of_decide_eq_true inSecond⟩
  · refine (List.countP_eq_zero.mpr fun answer member inside => some ?_).le.trans (Nat.zero_le _)
    exact ⟨answer, member, of_decide_eq_true inside⟩

/-- A window belongs to one epoch. -/
theorem window (counts : Counts width maximum key epoch count answers) (opened : ℤ) :
    ((granted key answers).countP fun answer => answer.openedAt = some opened) ≤ maximum := by
  by_cases some : ∃ first ∈ granted key answers, first.openedAt = some opened
  · obtain ⟨first, firstIn, openedFirst⟩ := some
    refine (List.countP_mono_left fun other otherIn same => ?_).trans (counts.few first.epoch)
    obtain ⟨one, openedOne, _, _, _⟩ := counts.within first firstIn
    obtain ⟨two, openedTwo, _, _, _⟩ := counts.within other otherIn
    have apart := counts.apart first firstIn other otherIn
    cases openedFirst.symm.trans openedOne
    cases (of_decide_eq_true same : other.openedAt = _).symm.trans openedTwo
    refine decide_eq_true ?_
    omega
  · refine (List.countP_eq_zero.mpr fun answer member same => some ?_).le.trans (Nat.zero_le _)
    exact ⟨answer, member, of_decide_eq_true same⟩

/-- **Counting bounds** what is allowed. -/
theorem isBounded (counts : Counts width maximum key epoch count answers) (recovers : Recovers width key answers) :
    IsBounded width maximum key answers :=
  ⟨counts.interval, counts.window, recovers⟩

end Counts

end Answers

/-! ### Runs -/

section Runs

variable {Key State Call : Type} (next : State → Call → State) (answer : State → Call → Answer Key)

/-- What a limiter answers, one call after the other. -/
def answersOf : State → List Call → List (Answer Key)
  | _, [] => []
  | state, call :: rest => answer state call :: answersOf (next state call) rest

/-- What each call keeps is true after calls in the order of their times. -/
theorem answersOf_keeps {time : Call → ℤ} {admits : Call → Prop} {keeps : ℤ → State → List (Answer Key) → Prop}
    (step : ∀ latest state past call, keeps latest state past → latest ≤ time call → admits call →
      keeps (time call) (next state call) (past ++ [answer state call])) :
    ∀ (calls : List Call) (latest : ℤ) (state : State) (past : List (Answer Key)), keeps latest state past →
      (∀ call ∈ calls, latest ≤ time call ∧ admits call) → calls.Pairwise (fun first second => time first ≤ time second) →
      ∃ last after, keeps last after (past ++ answersOf next answer state calls) := by
  intro calls
  induction calls with
  | nil =>
    intro latest state past kept _ _
    exact ⟨latest, state, by rwa [answersOf, List.append_nil]⟩
  | cons call rest ih =>
    intro latest state past kept admitted ordered
    obtain ⟨first, others⟩ := List.pairwise_cons.mp ordered
    obtain ⟨later, own⟩ := admitted call List.mem_cons_self
    obtain ⟨last, after, all⟩ := ih (time call) (next state call) _ (step latest state past call kept later own)
      (fun other member => ⟨first other member, (admitted other (List.mem_cons_of_mem _ member)).2⟩) others
    rw [List.append_assoc] at all
    exact ⟨last, after, all⟩

end Runs

end Foundation
