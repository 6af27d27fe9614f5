/-
The limits of a mandate: its ceiling, and the sliding windows of its policy.

An admission reads counters, and the policy decides on the counters. `RoomFor` says in terms of
committed spend what an admitted request leaves; `admission_room` derives it from the decision. The
run theorems follow, since no other commit raises a sum.

* `committedSpend_le_maximum`: the committed spend of a mandate stays within its maximum.
* `windows_bounded`: in every closed hour, day and minute the spend and the number of requests stay
  within the policy. The counters of an admission have no upper end, so a window that ends later than
  the admission is covered as well, and the order of the decision times does not matter.
-/

import FuseControlPlane.Persistence.Spend

set_option linter.unusedSectionVars false

namespace FuseControlPlane.Persistence

open Foundation Foundation.JavaScript Domain Identity FuseControlPlane.Core Program

/-! ### Sums over time -/

namespace Db

variable (db : Db) (organizationId mandateId : String)

/-- The committed spend of the executions created at or after an instant. -/
def spentSince (start : ℤ) : ℕ :=
  db.inferenceExecutions.total fun row =>
    if row.ofMandate organizationId mandateId && start ≤ row.createdAt then row.committed else 0

/-- The number of requests created at or after an instant. -/
def requestsSince (start : ℤ) : ℕ :=
  db.inferenceExecutions.total fun row =>
    if row.ofMandate organizationId mandateId && start ≤ row.createdAt then row.requestCount else 0

/-- The committed spend of the executions created in the closed window from `start`. -/
def windowSpend (start width : ℤ) : ℕ :=
  db.inferenceExecutions.total fun row =>
    if row.ofMandate organizationId mandateId && start ≤ row.createdAt &&
      row.createdAt ≤ start + width then row.committed else 0

/-- The number of requests created in the closed window from `start`. -/
def windowRequests (start width : ℤ) : ℕ :=
  db.inferenceExecutions.total fun row =>
    if row.ofMandate organizationId mandateId && start ≤ row.createdAt &&
      row.createdAt ≤ start + width then row.requestCount else 0

end Db

/-- An hour, a day and a minute in milliseconds. -/
def hour : ℤ := 60 * 60 * 1000

def day : ℤ := 24 * 60 * 60 * 1000

def minute : ℤ := 60 * 1000

/-! ### What an admitted request leaves -/

section Room

variable [NodeCrypto] {db : Db} {input : AdmitInferenceInput} {decidedAt : ℤ}
  {row : MandatePolicyRow} {result : PolicyDecisionResult}

/-- The request fits in what was left of the mandate and, in `enforce`, of the windows that end with
it. -/
structure RoomFor (db : Db) (input : AdmitInferenceInput) (decidedAt : ℤ) (row : MandatePolicyRow)
    (execution : ExecutionRow) : Prop where
  ceiling : (db.committedSpend input.organizationId input.mandateId : ℤ) + execution.committed ≤
    row.mandate.maximumSpendAtomic
  hourly : row.policy.mode = .enforce →
    (db.spentSince input.organizationId input.mandateId (decidedAt - hour) : ℤ) +
      execution.committed ≤ row.policy.limits.maxHourlyAtomic
  daily : row.policy.mode = .enforce →
    (db.spentSince input.organizationId input.mandateId (decidedAt - day) : ℤ) +
      execution.committed ≤ row.policy.limits.maxDailyAtomic
  rate : row.policy.mode = .enforce →
    (db.requestsSince input.organizationId input.mandateId (decidedAt - minute) : ℤ) +
      execution.requestCount ≤ row.policy.limits.maxRequestsPerMinute

/-- A counter of an admission under an active mandate, in terms of committed spend. -/
theorem counter_eq (wf : WellFormed db) {organizationId mandateId : String} {mandate : MandateRow}
    (found : db.mandate organizationId mandateId = some mandate) (active : mandate.state = .active)
    (start : ℤ) :
    ((db.executionsOf organizationId mandateId).map fun row =>
      if start ≤ row.createdAt then row.counterSpend else 0).sum =
      db.spentSince organizationId mandateId start := by
  rw [Db.sum_executionsOf]
  refine Table.total_congr fun row member => ?_
  by_cases owned : row.ofMandate organizationId mandateId = true
  · simp [owned, Db.counterSpend_eq wf found active member owned]
  · simp [owned]

/-- **A recorded request is denied and commits nothing, or there was room for it.** -/
theorem admission_room (wf : WellFormed db) (begun : Begun db input decidedAt row)
    (evaluated : db.evaluateAdmission input decidedAt row = .ok result) (decisionId : String) :
    let execution := admittedExecution input decidedAt
      (db.newDecision input decisionId decidedAt row result)
    (execution.committed = 0 ∧ execution.requestCount = 0) ∨
      RoomFor db input decidedAt row execution := by
  intro execution
  rcases newExecution_status decisionId evaluated with ⟨denied, _⟩ | ⟨running, admissible, reserved⟩
  · refine .inl ⟨?_, if_pos denied⟩
    rw [ExecutionRow.committed, denied]
  · have found := (Db.mandatePolicy_eq_some.mp begun.found).1
    have active : row.mandate.state = .active := admissible.active
    have committed : (execution.committed : ℤ) = input.estimatedCostAtomic := by
      rw [ExecutionRow.committed, running]
      exact reserved
    have counted : execution.requestCount = 1 := if_neg (by rw [running]; decide)
    have spent : (db.countersAt input decidedAt).mandateSpentAtomic =
        db.committedSpend input.organizationId input.mandateId := by
      refine (Db.sum_executionsOf _ _ _ _).trans (Table.total_congr fun other member => ?_)
      split
      · next owned => exact Db.counterSpend_eq wf found active member owned
      · rfl
    have requests : (db.countersAt input decidedAt).requestCountLastMinute =
        db.requestsSince input.organizationId input.mandateId (decidedAt - minute) := by
      refine (Db.sum_executionsOf _ _ _ _).trans (Table.total_congr fun other member => ?_)
      by_cases owned : other.ofMandate input.organizationId input.mandateId = true
      · simp [owned, minute]
      · simp [owned]
    have hourSpent : (db.countersAt input decidedAt).spentHourAtomic = _ :=
      counter_eq wf found active (decidedAt - hour)
    have daySpent : (db.countersAt input decidedAt).spentDayAtomic = _ :=
      counter_eq wf found active (decidedAt - day)
    refine .inr ⟨?_, fun enforce => ?_, fun enforce => ?_, fun enforce => ?_⟩
    · rw [committed, ← spent]
      exact admissible.mandate
    · rw [committed, ← hourSpent]
      exact (admissible.limits enforce).1
    · rw [committed, ← daySpent]
      exact (admissible.limits enforce).2.1
    · rw [counted, ← requests]
      exact (admissible.limits enforce).2.2

end Room

/-! ### The ceiling -/

section Ceiling

variable [NodeCrypto] {db after : Db} {op : Op} {reply : Reply}

/-- The committed spend of every mandate is within its maximum. -/
def WithinCeiling (db : Db) : Prop :=
  ∀ organizationId mandateId row, db.mandate organizationId mandateId = some row →
    (db.committedSpend organizationId mandateId : ℤ) ≤ row.maximumSpendAtomic

/-- A mandate that does not exist has no executions. -/
theorem committedSpend_of_unknown (wf : WellFormed db) {organizationId mandateId : String}
    (unknown : db.mandate organizationId mandateId = none) :
    db.committedSpend organizationId mandateId = 0 := by
  refine Table.total_eq_zero fun row member => if_neg fun owned => ?_
  obtain ⟨rfl, rfl⟩ := of_decide_eq_true owned
  obtain ⟨mandate, found⟩ := wf.mandateOf (Table.find?_of_mem member)
  exact absurd (unknown.symm.trans found) nofun

/-- The executions after a commit stay within the maximum a mandate had before. -/
theorem Commit.committedSpend_le (commit : Commit db op reply after) (wf : WellFormed db)
    (within : SettlesWithin db op) (ceiling : WithinCeiling db) {organizationId mandateId : String}
    {row : MandateRow} (found : db.mandate organizationId mandateId = some row) :
    (after.committedSpend organizationId mandateId : ℤ) ≤ row.maximumSpendAtomic := by
  refine (commit.moved wf).total_le
    (shrinks_committed fun _ _ preserves => preserves.ofMandate organizationId mandateId)
    within (ceiling _ _ row found) ?_
  intro decisionId input decidedAt policyRow result _ begun evaluated execution
  by_cases owned : input.organizationId = organizationId ∧ input.mandateId = mandateId
  · obtain ⟨rfl, rfl⟩ := owned
    have here : execution.ofMandate input.organizationId input.mandateId = true :=
      decide_eq_true ⟨rfl, rfl⟩
    have same := (Db.mandatePolicy_eq_some.mp begun.found).1
    rw [found, Option.some.injEq] at same
    rw [if_pos here, same]
    exact (admission_room wf begun evaluated decisionId).imp And.left RoomFor.ceiling
  · exact .inl (if_neg fun here => owned (of_decide_eq_true here))

/-- Every commit whose settlements stay within their reservations keeps the ceiling. -/
theorem WithinCeiling.commit (ceiling : WithinCeiling db) (commit : Commit db op reply after)
    (wf : WellFormed db) (within : SettlesWithin db op) : WithinCeiling after := by
  intro organizationId mandateId row found
  cases before : db.mandate organizationId mandateId with
  | some old =>
    obtain ⟨new, there, kept⟩ := commit.mandate_kept before
    rw [found, Option.some.injEq] at there
    rw [there, kept.maximum]
    exact commit.committedSpend_le wf within ceiling before
  | none =>
    have unspent : after.committedSpend organizationId mandateId ≤ (0 : ℤ) := by
      refine (commit.moved wf).total_le
        (shrinks_committed fun _ _ preserves => preserves.ofMandate organizationId mandateId) within ?_ ?_
      · exact_mod_cast (committedSpend_of_unknown wf before).le
      · intro decisionId input decidedAt policyRow result _ begun evaluated execution
        refine .inl (if_neg fun here => ?_)
        obtain ⟨rfl, rfl⟩ : input.organizationId = organizationId ∧ input.mandateId = mandateId :=
          of_decide_eq_true here
        exact absurd (before.symm.trans (Db.mandatePolicy_eq_some.mp begun.found).1) nofun
    omega

/-- **The ceiling of a mandate.** In every run whose settlements stay within their reservations, the
committed spend of a mandate never exceeds its maximum. -/
theorem committedSpend_le_maximum (ops : List Op) (within : Along step SettlesWithin Db.empty ops)
    {organizationId mandateId : String} {row : MandateRow}
    (found : (run step Db.empty ops).mandate organizationId mandateId = some row) :
    (run step Db.empty ops).committedSpend organizationId mandateId ≤ row.maximumSpendAtomic := by
  have ceiling : WithinCeiling (run step Db.empty ops) :=
    invariant_of_commits within nofun fun wf ceiling within commit => ceiling.commit commit wf within
  exact_mod_cast ceiling _ _ row found

end Ceiling

theorem committedSpend_le_maximum_billed :
    letI := Sample.crypto
    (run step Db.empty Sample.billed).committedSpend "org" "mandate" = 10 ∧
      (run step Db.empty Sample.billed).committedSpend "org" "mandate" ≤ 20 :=
  ⟨by decide +kernel, @committedSpend_le_maximum Sample.crypto Sample.billed (by decide +kernel)
    "org" "mandate" { newMandate (Sample.mandate 20) with state := .paused } (by decide +kernel)⟩

/-! ### The windows -/

section Windows

variable [NodeCrypto] {db after : Db} {op : Op} {reply : Reply} {organizationId mandateId : String}

/-- Every published policy is valid, and every mandate is bound to a published one. -/
structure PoliciesKnown (db : Db) : Prop where
  valid : ∀ {organizationId policyId : String} {version : ℤ} {policy : PolicyVersion},
    db.policy organizationId policyId version = some policy → validatePolicy policy = .ok ()
  known : ∀ {organizationId mandateId : String} {row : MandateRow},
    db.mandate organizationId mandateId = some row →
    (db.policy organizationId row.policyId row.policyVersion).isSome = true

/-- A policy that is found after a commit was there before, or is valid. -/
theorem Commit.policy_cases (commit : Commit db op reply after) {policyId : String} {version : ℤ}
    {policy : PolicyVersion} (found : after.policy organizationId policyId version = some policy) :
    db.policy organizationId policyId version = some policy ∨ validatePolicy policy = .ok () := by
  cases commit with
  | organization | agent | mandate | assigned | branch | transition | policySet =>
    exact .inl (by simpa using found)
  | previewed | replayed | notFailed | resolvedBefore | admitted => exact .inl found
  | completed | failed => exact .inl (by simpa using found)
  | policy published context valid fresh =>
    simp only [policy_apply] at found
    split at found
    · cases found
      exact .inr valid
    · exact .inl found
  | held op reply execution update holds quiet known =>
    rw [Db.holdExecution, policy_holdMandate] at found
    exact .inl found
  | resolved input execution cost occurredAt after known onHold fresh priced released =>
    cases released <;> exact .inl found

/-- A policy that is set is published. -/
theorem Commit.policy_set (commit : Commit db op reply after) {row : MandateRow}
    (sets : op.setsPolicyOf organizationId mandateId = true)
    (found : after.mandate organizationId mandateId = some row) :
    (db.policy organizationId row.policyId row.policyVersion).isSome = true := by
  cases commit with
  | policySet organization mandate policyId policyVersion context old known unlocked published =>
    obtain ⟨rfl, rfl⟩ : organization = organizationId ∧ mandate = mandateId :=
      of_decide_eq_true sets
    obtain ⟨sameOrganization, sameMandate⟩ := Db.key_of_mandate known
    simp only [mandate_apply, sameOrganization, sameMandate, and_self, if_true,
      Option.some.injEq] at found
    subst found
    exact published
  | held op reply execution update holds quiet known =>
    cases op <;> simp [Op.setsPolicyOf, heldExecution] at sets holds
  | _ => simp [Op.setsPolicyOf] at sets

theorem PoliciesKnown.commit (known : PoliciesKnown db) (commit : Commit db op reply after) :
    PoliciesKnown after := by
  have kept : ∀ {organizationId policyId : String} {version : ℤ},
      (db.policy organizationId policyId version).isSome = true →
      (after.policy organizationId policyId version).isSome = true := by
    intro organizationId policyId version published
    obtain ⟨policy, found⟩ := Option.isSome_iff_exists.mp published
    rw [commit.policy_kept found]
    rfl
  refine ⟨fun found => ?_, fun {organizationId mandateId row} found => ?_⟩
  · exact (commit.policy_cases found).elim known.valid id
  · cases before : db.mandate organizationId mandateId with
    | none => exact kept (commit.mandate_created before found).2
    | some old =>
      by_cases sets : op.setsPolicyOf organizationId mandateId = true
      · exact kept (commit.policy_set sets found)
      · obtain ⟨new, there, same⟩ := commit.mandate_kept before
        obtain ⟨rfl, rfl⟩ := Db.key_of_mandate before
        rw [found, Option.some.injEq] at there
        subst there
        obtain ⟨samePolicy, sameVersion⟩ := same.policy (by simpa using sets)
        rw [samePolicy, sameVersion]
        exact kept (known.known before)

/-- The mandate is bound to this policy version. -/
def BoundTo (organizationId mandateId policyId : String) (version : ℤ) (db : Db) : Prop :=
  ∀ row ∈ db.mandate organizationId mandateId, row.policyId = policyId ∧ row.policyVersion = version

instance (organizationId mandateId policyId : String) (version : ℤ) (db : Db) :
    Decidable (BoundTo organizationId mandateId policyId version db) :=
  inferInstanceAs (Decidable (∀ row ∈ db.mandate organizationId mandateId, _))

/-- In every closed hour, day and minute the mandate stays within the limits of the policy. -/
structure WithinWindows (db : Db) (organizationId mandateId : String) (limits : PolicyLimits) :
    Prop where
  hourly : ∀ start, (db.windowSpend organizationId mandateId start hour : ℤ) ≤
    limits.maxHourlyAtomic
  daily : ∀ start, (db.windowSpend organizationId mandateId start day : ℤ) ≤ limits.maxDailyAtomic
  rate : ∀ start, (db.windowRequests organizationId mandateId start minute : ℤ) ≤
    limits.maxRequestsPerMinute

/-- A mandate without executions is within all windows of a valid policy. -/
theorem WithinWindows.of_unused {policy : PolicyVersion} (valid : validatePolicy policy = .ok ())
    (unused : ∀ row ∈ db.inferenceExecutions, row.ofMandate organizationId mandateId = false) :
    WithinWindows db organizationId mandateId policy.limits := by
  obtain ⟨hourly, daily, rate⟩ := limits_of_validatePolicy valid
  have nothing : ∀ start width, db.windowSpend organizationId mandateId start width = 0 :=
    fun start width => Table.total_eq_zero fun row member => by simp [unused row member]
  have none_ : ∀ start width, db.windowRequests organizationId mandateId start width = 0 :=
    fun start width => Table.total_eq_zero fun row member => by simp [unused row member]
  exact ⟨fun start => by simpa [nothing] using hourly, fun start => by simpa [nothing] using daily,
    fun start => by simpa [none_] using rate⟩

theorem window_fixed (organizationId mandateId : String) (start width : ℤ) (old new : ExecutionRow)
    (preserves : ExecutionUpdate.Preserves old new) :
    (new.ofMandate organizationId mandateId && start ≤ new.createdAt &&
        new.createdAt ≤ start + width) =
      (old.ofMandate organizationId mandateId && start ≤ old.createdAt &&
        old.createdAt ≤ start + width) := by
  simp only [preserves.ofMandate, preserves.createdAt]

/-- What fits in the window that ends with it fits in every window it lies in. -/
theorem window_fits (weight : ExecutionRow → ℕ) {execution : ExecutionRow} {limit : ℤ}
    (start width : ℤ)
    (room : execution.ofMandate organizationId mandateId = true → weight execution = 0 ∨
      ((db.inferenceExecutions.total fun row =>
        if row.ofMandate organizationId mandateId && execution.createdAt - width ≤ row.createdAt then
          weight row else 0) : ℤ) + weight execution ≤ limit) :
    let inside := fun row : ExecutionRow =>
      if row.ofMandate organizationId mandateId && start ≤ row.createdAt &&
        row.createdAt ≤ start + width then weight row else 0
    inside execution = 0 ∨
      (db.inferenceExecutions.total inside : ℤ) + inside execution ≤ limit := by
  intro inside
  by_cases within : execution.ofMandate organizationId mandateId = true ∧
      execution.createdAt ≤ start + width
  · rcases room within.1 with nothing | room
    · exact .inl (by simp only [inside, nothing, ite_self])
    · have trailing : db.inferenceExecutions.total inside ≤
          db.inferenceExecutions.total fun row =>
            if row.ofMandate organizationId mandateId &&
              execution.createdAt - width ≤ row.createdAt then weight row else 0 := by
        refine Table.total_le_total fun row _ => ?_
        simp only [inside, Bool.and_eq_true, decide_eq_true_eq]
        split
        · next inWindow =>
          rw [if_pos ⟨inWindow.1.1, by omega⟩]
        · exact Nat.zero_le _
      have own : inside execution ≤ weight execution := by
        simp only [inside]
        split
        · exact le_rfl
        · exact Nat.zero_le _
      exact .inr (by omega)
  · refine .inl (if_neg fun here => within ?_)
    simp only [Bool.and_eq_true, decide_eq_true_eq] at here
    exact ⟨here.1.1, here.2⟩

/-- **A commit keeps the windows** of the policy the mandate is bound to. -/
theorem WithinWindows.commit {policy : PolicyVersion}
    (windows : WithinWindows db organizationId mandateId policy.limits)
    (enforce : policy.mode = .enforce) (commit : Commit db op reply after) (wf : WellFormed db)
    (within : SettlesWithin db op)
    (bound : ∀ row, db.mandatePolicy organizationId mandateId = some row → row.policy = policy) :
    WithinWindows after organizationId mandateId policy.limits := by
  have moved := commit.moved wf
  have room : ∀ {decisionId input decidedAt row result}, Begun db input decidedAt row →
      db.evaluateAdmission input decidedAt row = .ok result →
      let execution := admittedExecution input decidedAt
        (db.newDecision input decisionId decidedAt row result)
      execution.ofMandate organizationId mandateId = true →
        (input.organizationId = organizationId ∧ input.mandateId = mandateId) ∧
          row.policy = policy ∧ ((execution.committed = 0 ∧ execution.requestCount = 0) ∨
            RoomFor db input decidedAt row execution) := by
    intro decisionId input decidedAt row result begun evaluated execution owned
    obtain ⟨rfl, rfl⟩ : input.organizationId = organizationId ∧ input.mandateId = mandateId :=
      of_decide_eq_true owned
    exact ⟨⟨rfl, rfl⟩, bound row begun.found, admission_room wf begun evaluated decisionId⟩
  refine ⟨fun start => ?_, fun start => ?_, fun start => ?_⟩
  · refine moved.total_le (shrinks_committed (window_fixed organizationId mandateId start hour))
      within (windows.hourly start) ?_
    intro decisionId input decidedAt row result _ begun evaluated execution
    refine window_fits ExecutionRow.committed start hour fun owned => ?_
    obtain ⟨⟨rfl, rfl⟩, rfl, fits⟩ := room begun evaluated owned
    exact fits.imp And.left fun room => room.hourly enforce
  · refine moved.total_le (shrinks_committed (window_fixed organizationId mandateId start day))
      within (windows.daily start) ?_
    intro decisionId input decidedAt row result _ begun evaluated execution
    refine window_fits ExecutionRow.committed start day fun owned => ?_
    obtain ⟨⟨rfl, rfl⟩, rfl, fits⟩ := room begun evaluated owned
    exact fits.imp And.left fun room => room.daily enforce
  · refine moved.total_le (shrinks_requestCount (window_fixed organizationId mandateId start minute))
      within (windows.rate start) ?_
    intro decisionId input decidedAt row result _ begun evaluated execution
    refine window_fits ExecutionRow.requestCount start minute fun owned => ?_
    obtain ⟨⟨rfl, rfl⟩, rfl, fits⟩ := room begun evaluated owned
    exact fits.imp And.right fun room => room.rate enforce

/-- **The sliding windows.** In every run in which a mandate is bound throughout to one policy version
in `enforce`, and whose settlements stay within their reservations, the mandate stays within the
limits of the policy in every closed hour, day and minute. -/
theorem windows_bounded (ops : List Op) {policyId : String} {version : ℤ} {policy : PolicyVersion}
    (within : Along step SettlesWithin Db.empty ops)
    (bound : Along step (fun db _ => BoundTo organizationId mandateId policyId version db) Db.empty ops)
    (published : (run step Db.empty ops).policy organizationId policyId version = some policy)
    (enforce : policy.mode = .enforce) :
    WithinWindows (run step Db.empty ops) organizationId mandateId policy.limits := by
  have both : Along step (fun db op => SettlesWithin db op ∧
      BoundTo organizationId mandateId policyId version db) Db.empty ops := within.and bound
  have kept : PoliciesKnown (run step Db.empty ops) ∧
      ∀ policy, (run step Db.empty ops).policy organizationId policyId version = some policy →
        policy.mode = .enforce →
        WithinWindows (run step Db.empty ops) organizationId mandateId policy.limits := by
    refine @invariant_of_commits _ (fun db => PoliciesKnown db ∧
      ∀ policy, db.policy organizationId policyId version = some policy → policy.mode = .enforce →
        WithinWindows db organizationId mandateId policy.limits) _ _ both
      ⟨⟨nofun, nofun⟩, fun _ found => absurd found nofun⟩ ?_
    rintro db after op reply wf ⟨known, windows⟩ ⟨within, bound⟩ commit
    refine ⟨known.commit commit, fun policy found enforce => ?_⟩
    have before : WithinWindows db organizationId mandateId policy.limits := by
      cases published : db.policy organizationId policyId version with
      | some old =>
        have same := commit.policy_kept published
        rw [found, Option.some.injEq] at same
        subst same
        exact windows policy published enforce
      | none =>
        refine .of_unused ((known.commit commit).valid found) fun row member => ?_
        refine Bool.eq_false_iff.mpr fun owned => ?_
        obtain ⟨rfl, rfl⟩ := of_decide_eq_true owned
        obtain ⟨mandate, here⟩ := wf.mandateOf (Table.find?_of_mem member)
        obtain ⟨rfl, rfl⟩ := bound mandate here
        have published' := known.known here
        rw [published] at published'
        cases published'
    refine before.commit enforce commit wf within fun row here => ?_
    obtain ⟨mandate, reads⟩ := Db.mandatePolicy_eq_some.mp here
    obtain ⟨rfl, rfl⟩ := bound _ mandate
    have same := commit.policy_kept reads
    rw [found, Option.some.injEq] at same
    exact same.symm
  exact kept.2 policy published enforce

end Windows

theorem windows_bounded_billed :
    letI := Sample.crypto
    WithinWindows (run step Db.empty Sample.billed) "org" "mandate" (Sample.policy 20 []).limits :=
  @windows_bounded Sample.crypto "org" "mandate" Sample.billed "policy" 1 (Sample.policy 20 [])
    (by decide +kernel) (by decide +kernel) (by decide +kernel) rfl

end FuseControlPlane.Persistence
