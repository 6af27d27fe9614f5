/-
What the balances of a journal say about its entries.

* `accepted`: the entries of a sequence that are well formed, balanced in every asset and new.
* `append_cases`: what `append` comes to.
* `JournalBalances`: every balance is the sum of its own postings, the balances of an asset sum to zero, and
  a rejected entry changes nothing.
* `journalBalances_iff`: **the journal balances exactly if ids whose keys coincide net to zero**: a key joins
  an account and an asset with a character that either of them may contain.
-/

import FuseControlPlane.Domain.FinancialLedger
import FuseControlPlane.Foundation.Runs
import Mathlib.Algebra.BigOperators.Group.Finset.Piecewise
import Mathlib.Algebra.BigOperators.Ring.Finset
import Mathlib.Algebra.Order.Ring.Int
import Mathlib.Data.Finset.Image
import Mathlib.Tactic.Linarith

set_option linter.unusedSectionVars false

namespace FuseControlPlane.Domain

open Foundation Foundation.JavaScript Foundation.Method

/-! ### Sums of postings -/

/-- A debit counts, a credit counts against. -/
def JournalPosting.signed (posting : JournalPosting) : ℤ :=
  (if posting.side = .debit then 1 else -1) * posting.amountAtomic

/-- The signed sum of the chosen postings. -/
def signedSum (chosen : JournalPosting → Bool) (postings : List JournalPosting) : ℤ :=
  ((postings.filter chosen).map JournalPosting.signed).sum

section Sums

variable {chosen other : JournalPosting → Bool} {posting : JournalPosting} {postings rest : List JournalPosting}

@[simp] theorem signedSum_nil : signedSum chosen [] = 0 := rfl

theorem signedSum_cons :
    signedSum chosen (posting :: postings) =
      (if chosen posting then posting.signed else 0) + signedSum chosen postings := by
  unfold signedSum
  by_cases here : chosen posting = true
  · rw [List.filter_cons_of_pos here, if_pos here, List.map_cons, List.sum_cons]
  · rw [List.filter_cons_of_neg here, if_neg here, zero_add]

theorem signedSum_append :
    signedSum chosen (postings ++ rest) = signedSum chosen postings + signedSum chosen rest := by
  unfold signedSum
  rw [List.filter_append, List.map_append, List.sum_append]

theorem signedSum_congr (same : ∀ posting ∈ postings, chosen posting = other posting) :
    signedSum chosen postings = signedSum other postings := by
  unfold signedSum
  rw [List.filter_congr same]

theorem signedSum_eq_zero (none_ : ∀ posting ∈ postings, chosen posting = false) :
    signedSum chosen postings = 0 := by
  unfold signedSum
  rw [List.filter_eq_nil_iff.mpr fun posting member => by simp [none_ posting member]]
  rfl

/-- The chosen postings, label by label. -/
theorem sum_signedSum {β : Type} [DecidableEq β] (label : JournalPosting → β) (labels : Finset β)
    (labelled : ∀ posting ∈ postings, chosen posting = true → label posting ∈ labels) :
    ∑ name ∈ labels, signedSum (fun posting => chosen posting && label posting = name) postings =
      signedSum chosen postings := by
  induction postings with
  | nil => exact Finset.sum_const_zero
  | cons posting postings ih =>
    have later := ih fun other member => labelled other (List.mem_cons_of_mem _ member)
    simp only [signedSum_cons, Finset.sum_add_distrib, later]
    congr 1
    by_cases here : chosen posting = true
    · simp only [here, Bool.true_and, decide_eq_true_eq, if_true]
      rw [Finset.sum_ite_eq, if_pos (labelled posting List.mem_cons_self here)]
    · simp only [Bool.not_eq_true _ ▸ here, Bool.false_and, Bool.false_eq_true, if_false]
      exact Finset.sum_const_zero

end Sums

/-! ### Entries that are accepted -/

/-- The posting is in this asset. -/
def inAsset (assetId : String) (posting : JournalPosting) : Bool := posting.assetId = assetId

/-- The posting is of this account and asset. -/
def isOf (accountId assetId : String) (posting : JournalPosting) : Bool :=
  posting.accountId = accountId && posting.assetId = assetId

/-- The posting changes the balance under this key. -/
def isUnder (key : String) (posting : JournalPosting) : Bool :=
  FinancialLedger.balanceKey posting.accountId posting.assetId = key

/-- A posting of some amount to an account in an asset. -/
def JournalPosting.IsAcceptable (posting : JournalPosting) : Prop :=
  isBlank posting.accountId = false ∧ isBlank posting.assetId = false ∧
    (posting.side = .debit ∨ posting.side = .credit) ∧ 0 < posting.amountAtomic

instance (posting : JournalPosting) : Decidable posting.IsAcceptable := inferInstanceAs (Decidable (_ ∧ _))

/-- The entry is well formed, and balanced in every asset. -/
def JournalEntry.IsAcceptable (entry : JournalEntry) : Prop :=
  isBlank entry.id = false ∧ isBlank entry.actorId = false ∧ isBlank entry.causationId = false ∧
    isBlank entry.description = false ∧ entry.occurredAt.isSome = true ∧ 2 ≤ entry.postings.length ∧
    (∀ posting ∈ entry.postings, posting.IsAcceptable) ∧
    ∀ posting ∈ entry.postings, signedSum (inAsset posting.assetId) entry.postings = 0

instance (entry : JournalEntry) : Decidable entry.IsAcceptable := inferInstanceAs (Decidable (_ ∧ _))

/-- The acceptable entries whose ids are new. -/
def accepted : List String → List JournalEntry → List JournalEntry
  | _, [] => []
  | ids, entry :: entries =>
    if entry.IsAcceptable ∧ entry.id ∉ ids then entry :: accepted (ids ++ [entry.id]) entries
    else accepted ids entries

/-- The postings of entries. -/
def postingsOf (entries : List JournalEntry) : List JournalPosting := entries.flatMap JournalEntry.postings

/-- The signed sum of an account's postings in an asset. -/
def netted (entries : List JournalEntry) (accountId assetId : String) : ℤ :=
  signedSum (isOf accountId assetId) (postingsOf entries)

/-- An entry that is acceptable is balanced in assets that it does not mention, too. -/
theorem JournalEntry.IsAcceptable.balanced {entry : JournalEntry} (acceptable : entry.IsAcceptable)
    (assetId : String) : signedSum (inAsset assetId) entry.postings = 0 := by
  obtain ⟨_, _, _, _, _, _, _, balanced⟩ := acceptable
  by_cases mentioned : ∃ posting ∈ entry.postings, posting.assetId = assetId
  · obtain ⟨posting, member, rfl⟩ := mentioned
    exact balanced posting member
  · refine signedSum_eq_zero fun posting member => decide_eq_false fun same => ?_
    exact mentioned ⟨posting, member, same⟩

theorem acceptable_of_mem_accepted {ids : List String} {entries : List JournalEntry} {entry : JournalEntry}
    (member : entry ∈ accepted ids entries) : entry.IsAcceptable := by
  induction entries generalizing ids with
  | nil => cases member
  | cons first entries ih =>
    unfold accepted at member
    split at member
    · next fine =>
      rcases List.mem_cons.mp member with rfl | later
      · exact fine.1
      · exact ih later
    · exact ih member

/-- Accepted entries are balanced in every asset. -/
theorem signedSum_inAsset_accepted (ids : List String) (entries : List JournalEntry) (assetId : String) :
    signedSum (inAsset assetId) (postingsOf (accepted ids entries)) = 0 := by
  induction entries generalizing ids with
  | nil => rfl
  | cons entry entries ih =>
    unfold accepted
    split
    · next fine =>
      unfold postingsOf at ih ⊢
      rw [List.flatMap_cons, signedSum_append, fine.1.balanced, ih, add_zero]
    · exact ih ids

/-! ### Checks -/

namespace FinancialLedger

/-- What totals say of the postings they are made of. -/
def TotalsOf (totals : Record AssetTotal) (postings : List JournalPosting) : Prop :=
  ∀ assetId, ((totals.get assetId).isSome ↔ ∃ posting ∈ postings, posting.assetId = assetId) ∧
    ((totals.get assetId).getD ⟨0, 0⟩).debits - ((totals.get assetId).getD ⟨0, 0⟩).credits =
      signedSum (inAsset assetId) postings

theorem totalsOf_nil : TotalsOf .empty [] := fun _ => ⟨by simp [Record.get], rfl⟩

variable {totals after : Record AssetTotal} {postings : List JournalPosting} {posting : JournalPosting}

theorem addToTotals_eq_ok : addToTotals totals posting = .ok after ↔ posting.IsAcceptable ∧
    totals.set posting.assetId (((totals.get posting.assetId).getD ⟨0, 0⟩).add posting) = after := by
  unfold addToTotals JournalPosting.IsAcceptable
  simp only [bind_unit_eq_ok, require_eq_ok, Bool.not_eq_true', Bool.or_eq_true, decide_eq_true_eq,
    and_assoc]
  exact and_congr_right fun _ => and_congr_right fun _ => and_congr_right fun _ => and_congr_right fun _ =>
    ⟨Except.ok.inj, congrArg _⟩

/-- A posting adds its signed amount to the difference of its asset. -/
theorem AssetTotal.add_difference (total : AssetTotal) :
    (total.add posting).debits - (total.add posting).credits =
      total.debits - total.credits + posting.signed := by
  unfold AssetTotal.add JournalPosting.signed
  split
  · exact (add_sub_right_comm _ _ _).trans (by rw [one_mul])
  · exact (sub_add_eq_sub_sub _ _ _).trans (by rw [neg_one_mul, sub_eq_add_neg])

theorem TotalsOf.add (made : TotalsOf totals postings) :
    TotalsOf (totals.set posting.assetId (((totals.get posting.assetId).getD ⟨0, 0⟩).add posting))
      (postings ++ [posting]) := by
  intro assetId
  obtain ⟨mentioned, difference⟩ := made assetId
  rw [Record.get_set, signedSum_append, signedSum_cons, signedSum_nil, add_zero, ← difference]
  by_cases here : assetId = posting.assetId
  · subst here
    rw [if_pos rfl, if_pos (show inAsset posting.assetId posting = true from decide_eq_true rfl)]
    exact ⟨⟨fun _ => ⟨posting, by simp, rfl⟩, fun _ => rfl⟩, AssetTotal.add_difference _⟩
  · rw [if_neg here, if_neg (by simpa [inAsset] using Ne.symm here), add_zero]
    refine ⟨mentioned.trans ?_, rfl⟩
    simp [List.mem_append, or_and_right, exists_or, Ne.symm here]

/-- Totals are made of acceptable postings. -/
theorem foldlM_addToTotals {earlier : List JournalPosting} (made : TotalsOf totals earlier)
    (added : postings.foldlM addToTotals totals = .ok after) :
    (∀ posting ∈ postings, posting.IsAcceptable) ∧ TotalsOf after (earlier ++ postings) := by
  induction postings generalizing totals earlier with
  | nil =>
    cases added
    rw [List.append_nil]
    exact ⟨fun posting member => absurd member List.not_mem_nil, made⟩
  | cons posting postings ih =>
    rw [List.foldlM_cons] at added
    obtain ⟨middle, first, rest⟩ := bind_eq_ok.mp added
    obtain ⟨acceptable, rfl⟩ := addToTotals_eq_ok.mp first
    obtain ⟨others, complete⟩ := ih made.add rest
    rw [List.append_assoc, List.singleton_append] at complete
    exact ⟨List.forall_mem_cons.mpr ⟨acceptable, others⟩, complete⟩

/-- Acceptable postings have totals. -/
theorem exists_foldlM_addToTotals (acceptable : ∀ posting ∈ postings, posting.IsAcceptable) :
    ∃ after, postings.foldlM addToTotals totals = .ok after := by
  induction postings generalizing totals with
  | nil => exact ⟨totals, rfl⟩
  | cons posting postings ih =>
    rw [List.forall_mem_cons] at acceptable
    obtain ⟨after, rest⟩ := ih acceptable.2
    refine ⟨after, ?_⟩
    rw [List.foldlM_cons]
    exact bind_eq_ok.mpr ⟨_, addToTotals_eq_ok.mpr ⟨acceptable.1, rfl⟩, rest⟩

/-- The checks pass on acceptable postings that are balanced in every asset. -/
theorem checkPostings_eq_ok : checkPostings postings = .ok () ↔
    (∀ posting ∈ postings, posting.IsAcceptable) ∧
      ∀ posting ∈ postings, signedSum (inAsset posting.assetId) postings = 0 := by
  have balanced {totals : Record AssetTotal} (made : TotalsOf totals postings) :
      totals.rows.forM checkBalanced = .ok () ↔
        ∀ posting ∈ postings, signedSum (inAsset posting.assetId) postings = 0 := by
    rw [forM_eq_ok]
    constructor
    · intro each posting member
      obtain ⟨mentioned, difference⟩ := made posting.assetId
      obtain ⟨total, found⟩ := Option.isSome_iff_exists.mp (mentioned.mpr ⟨posting, member, rfl⟩)
      have equal := each ⟨_, total⟩ (Table.mem_of_find? (Record.get_eq_some.mp found))
      rw [found] at difference
      unfold checkBalanced at equal
      rw [require_eq_ok, decide_eq_true_eq] at equal
      exact difference.symm.trans (sub_eq_zero.mpr equal)
    · intro each total member
      have found := Record.get_eq_some.mpr (Table.find?_of_mem member)
      obtain ⟨mentioned, difference⟩ := made total.name
      have counted : (totals.get total.name).isSome = true := by
        rw [show totals.get total.name = some total.value from found]
        rfl
      obtain ⟨posting, there, same⟩ := mentioned.mp counted
      unfold checkBalanced
      rw [require_eq_ok, decide_eq_true_eq, ← sub_eq_zero]
      rw [show totals.get total.name = some total.value from found, ← same, each posting there] at difference
      exact difference
  unfold checkPostings
  rw [bind_eq_ok]
  constructor
  · rintro ⟨totals, added, passed⟩
    obtain ⟨acceptable, made⟩ := foldlM_addToTotals totalsOf_nil added
    exact ⟨acceptable, (balanced made).mp passed⟩
  · rintro ⟨acceptable, zero⟩
    obtain ⟨totals, added⟩ := @exists_foldlM_addToTotals .empty _ acceptable
    exact ⟨totals, added, (balanced (foldlM_addToTotals totalsOf_nil added).2).mpr zero⟩

/-! ### Appending -/

/-- The ledger after an accepted entry. -/
def appended (ledger : FinancialLedger) (entry : JournalEntry) : FinancialLedger where
  journal := ledger.journal ++ [entry]
  entryIds := ledger.entryIds ++ [entry.id]
  balances := entry.postings.foldl post ledger.balances

/-- **An entry is appended if it is acceptable and its id is new, and changes nothing otherwise.** -/
theorem append_decides (ledger : FinancialLedger) (entry : JournalEntry) :
    Decides (entry.IsAcceptable ∧ entry.id ∉ ledger.entryIds) (append entry) ledger
      (ledger.appended entry) := by
  have decides : Decides ((!isBlank entry.id) = true ∧ (!isBlank entry.actorId) = true ∧
      (!isBlank entry.causationId) = true ∧ (!isBlank entry.description) = true ∧
      entry.occurredAt.isSome = true ∧ (!ledger.entryIds.contains entry.id) = true ∧
      decide (2 ≤ entry.postings.length) = true ∧ checkPostings entry.postings = .ok () ∧ True)
      (append entry) ledger (ledger.appended entry) := by
    unfold append
    iterate 5 apply Decides.check
    apply Decides.get
    iterate 2 apply Decides.check
    apply Decides.fromExcept
    exact .writes rfl
  refine decides.congr ?_
  rw [checkPostings_eq_ok]
  simp only [JournalEntry.IsAcceptable, Bool.not_eq_true', decide_eq_true_eq, List.contains_eq_mem,
    decide_eq_false_iff_not]
  constructor
  · rintro ⟨id, actor, cause, description, dated, new, two, ⟨postings, balanced⟩, _⟩
    exact ⟨⟨id, actor, cause, description, dated, two, postings, balanced⟩, new⟩
  · rintro ⟨⟨id, actor, cause, description, dated, two, postings, balanced⟩, new⟩
    exact ⟨id, actor, cause, description, dated, new, two, ⟨postings, balanced⟩, trivial⟩

/-- Every posting is added under its key. -/
theorem get_foldl_post (balances : Record ℤ) (key : String) :
    ((postings.foldl post balances).get key).getD 0 =
      (balances.get key).getD 0 + signedSum (isUnder key) postings := by
  induction postings generalizing balances with
  | nil => exact (add_zero _).symm
  | cons posting postings ih =>
    rw [List.foldl_cons, ih, signedSum_cons, ← add_assoc]
    congr 1
    unfold post JournalPosting.signed
    dsimp only
    rw [Record.get_set]
    by_cases here : key = balanceKey posting.accountId posting.assetId
    · rw [if_pos here, if_pos (show isUnder key posting = true from decide_eq_true here.symm), here]
      rfl
    · rw [if_neg here, if_neg (by simpa [isUnder] using Ne.symm here), add_zero]

/-! ### Runs -/

/-- The ledger after a call, whether it returns or throws. -/
def appendTo (ledger : FinancialLedger) (entry : JournalEntry) : FinancialLedger := left (append entry ledger)

/-- The ledger after these calls. -/
def appendAll (entries : List JournalEntry) : FinancialLedger := run appendTo new entries

/-- The entries whose calls return. -/
def recorded : FinancialLedger → List JournalEntry → List JournalEntry
  | _, [] => []
  | ledger, entry :: entries =>
    match append entry ledger with
    | .ok _ after => entry :: recorded after entries
    | .error _ after => recorded after entries

/-- The entries whose calls return are the acceptable ones whose ids are new. -/
theorem recorded_eq_accepted (ledger : FinancialLedger) (entries : List JournalEntry) :
    recorded ledger entries = accepted ledger.entryIds entries := by
  induction entries generalizing ledger with
  | nil => rfl
  | cons entry entries ih =>
    unfold recorded accepted
    rcases append_decides ledger entry with ⟨fine, appends⟩ | ⟨bad, error, throws⟩
    · rw [if_pos fine, appends]
      exact congrArg _ (ih _)
    · rw [if_neg bad, throws]
      exact ih _

/-- The ledger is made of these entries. -/
structure MadeOf (ledger : FinancialLedger) (entries : List JournalEntry) : Prop where
  journal : ledger.journal = entries
  entryIds : ledger.entryIds = entries.map JournalEntry.id
  balances : ∀ key, (ledger.balances.get key).getD 0 = signedSum (isUnder key) (postingsOf entries)

theorem madeOf_new : MadeOf new [] := ⟨rfl, rfl, fun _ => rfl⟩

theorem MadeOf.append {ledger : FinancialLedger} {entries : List JournalEntry} (made : MadeOf ledger entries)
    (entry : JournalEntry) : MadeOf (ledger.appended entry) (entries ++ [entry]) := by
  refine ⟨congrArg (· ++ [entry]) made.journal, ?_, fun key => ?_⟩
  · rw [List.map_append]
    exact congrArg (· ++ [entry.id]) made.entryIds
  · refine (get_foldl_post _ key).trans ?_
    unfold postingsOf
    rw [made.balances, List.flatMap_append, signedSum_append, List.flatMap_singleton]
    rfl

/-- A ledger is made of the entries whose calls return. -/
theorem MadeOf.run {ledger : FinancialLedger} {earlier : List JournalEntry} (made : MadeOf ledger earlier)
    (entries : List JournalEntry) :
    MadeOf (Foundation.run appendTo ledger entries) (earlier ++ recorded ledger entries) := by
  induction entries generalizing ledger earlier with
  | nil =>
    rw [show recorded ledger [] = [] from rfl, List.append_nil]
    exact made
  | cons entry entries ih =>
    rw [run_cons]
    unfold recorded appendTo
    rcases append_decides ledger entry with ⟨_, appends⟩ | ⟨_, error, throws⟩
    · rw [appends]
      show MadeOf _ (earlier ++ entry :: recorded (ledger.appended entry) entries)
      rw [List.append_cons]
      exact ih (made.append entry)
    · rw [throws]
      exact ih made

theorem madeOf_appendAll (entries : List JournalEntry) :
    MadeOf (appendAll entries) (recorded new entries) := madeOf_new.run entries

/-! ### Keys -/

section Keys

variable {entries : List JournalEntry} {accountId assetId otherAccount otherAsset : String}

/-- Account and asset ids that are not blank. -/
def AreIds (ids : String × String) : Prop := isBlank ids.1 = false ∧ isBlank ids.2 = false

/-- The postings of accepted entries have ids. -/
theorem areIds_of_accepted {known : List String} {posting : JournalPosting}
    (member : posting ∈ postingsOf (accepted known entries)) :
    AreIds (posting.accountId, posting.assetId) := by
  obtain ⟨entry, there, within⟩ := List.mem_flatMap.mp member
  obtain ⟨_, _, _, _, _, _, each, _⟩ := acceptable_of_mem_accepted there
  exact ⟨(each posting within).1, (each posting within).2.1⟩

/-- The accepted postings under a key, account and asset by account and asset. -/
theorem sum_netted {pairs : Finset (String × String)} {key : String}
    (under : ∀ pair ∈ pairs, balanceKey pair.1 pair.2 = key)
    (every : ∀ posting ∈ postingsOf entries, balanceKey posting.accountId posting.assetId = key →
      (posting.accountId, posting.assetId) ∈ pairs) :
    ∑ pair ∈ pairs, netted entries pair.1 pair.2 = signedSum (isUnder key) (postingsOf entries) := by
  refine Eq.trans ?_ (sum_signedSum (fun posting => (posting.accountId, posting.assetId)) pairs
    fun posting member here => every posting member (of_decide_eq_true here))
  refine Finset.sum_congr rfl fun pair member => signedSum_congr fun posting _ => ?_
  unfold isOf isUnder
  rw [← under pair member, Bool.eq_iff_iff]
  simp only [Bool.and_eq_true, decide_eq_true_eq, Prod.ext_iff]
  constructor
  · rintro ⟨account, asset⟩
    exact ⟨by rw [account, asset], account, asset⟩
  · exact fun both => both.2

/-- The accounts and assets with postings under a key. -/
def pairsUnder (entries : List JournalEntry) (key : String) : Finset (String × String) :=
  (((postingsOf entries).filter (isUnder key)).map fun posting => (posting.accountId, posting.assetId)).toFinset

theorem mem_pairsUnder {key : String} {pair : String × String} : pair ∈ pairsUnder entries key ↔
    ∃ posting ∈ postingsOf entries, balanceKey posting.accountId posting.assetId = key ∧
      (posting.accountId, posting.assetId) = pair := by
  simp [pairsUnder, isUnder, and_assoc]

theorem areIds_of_mem_pairsUnder {known : List String} {key : String} {pair : String × String}
    (member : pair ∈ pairsUnder (accepted known entries) key) : AreIds pair := by
  obtain ⟨posting, there, _, rfl⟩ := mem_pairsUnder.mp member
  exact areIds_of_accepted there

theorem balanceKey_of_mem_pairsUnder {key : String} {pair : String × String}
    (member : pair ∈ pairsUnder entries key) : balanceKey pair.1 pair.2 = key := by
  obtain ⟨posting, _, here, rfl⟩ := mem_pairsUnder.mp member
  exact here

/-- An account and an asset without postings net to zero. -/
theorem netted_eq_zero (none_ : ∀ posting ∈ postingsOf entries,
    (posting.accountId, posting.assetId) ≠ (accountId, assetId)) : netted entries accountId assetId = 0 := by
  refine signedSum_eq_zero fun posting member => ?_
  by_contra some_
  rw [Bool.not_eq_false] at some_
  simp only [isOf, Bool.and_eq_true, decide_eq_true_eq] at some_
  exact none_ posting member (Prod.ext some_.1 some_.2)

end Keys

/-! ### The journal -/

/-- Ids that share their key with other ids net to zero over the accepted entries. -/
def SharedKeysNetToZero (entries : List JournalEntry) : Prop :=
  ∀ pair other, AreIds pair → AreIds other → pair ≠ other →
    balanceKey pair.1 pair.2 = balanceKey other.1 other.2 → netted (accepted [] entries) pair.1 pair.2 = 0

/-- The balances say what the accepted entries say. -/
structure JournalBalances (entries : List JournalEntry) : Prop where
  /-- A balance is the sum of the account's postings in the asset. -/
  balance : ∀ accountId assetId, isBlank accountId = false → isBlank assetId = false →
    (appendAll entries).balance accountId assetId = netted (recorded new entries) accountId assetId
  /-- The balances of an asset sum to zero. -/
  conserved : ∀ assetId, isBlank assetId = false → ∃ accounts : Finset String,
    (∀ accountId, accountId ∈ accounts ↔
      isBlank accountId = false ∧ (appendAll entries).balance accountId assetId ≠ 0) ∧
    ∑ accountId ∈ accounts, (appendAll entries).balance accountId assetId = 0
  /-- A rejected entry changes nothing. -/
  rejected : ∀ earlier entry, earlier ++ [entry] <+: entries → ∀ error after,
    append entry (appendAll earlier) = .error error after → after = appendAll earlier

section Journal

variable {entries : List JournalEntry}

/-- The entries that are recorded. -/
theorem recorded_new (entries : List JournalEntry) : recorded new entries = accepted [] entries :=
  recorded_eq_accepted new entries

/-- A balance is the sum of the postings under its key. -/
theorem balance_eq (entries : List JournalEntry) (accountId assetId : String) :
    (appendAll entries).balance accountId assetId =
      signedSum (isUnder (balanceKey accountId assetId)) (postingsOf (accepted [] entries)) := by
  rw [← recorded_new]
  exact (madeOf_appendAll entries).balances _

/-- Ids that share no key have a balance of their own. -/
theorem balance_of_shared (zero : SharedKeysNetToZero entries) {accountId assetId : String}
    (account : isBlank accountId = false) (asset : isBlank assetId = false) :
    (appendAll entries).balance accountId assetId = netted (accepted [] entries) accountId assetId := by
  have under : ∀ pair ∈ insert (accountId, assetId) (pairsUnder (accepted [] entries)
      (balanceKey accountId assetId)), balanceKey pair.1 pair.2 = balanceKey accountId assetId := by
    intro pair member
    rcases Finset.mem_insert.mp member with rfl | posted
    · rfl
    · exact balanceKey_of_mem_pairsUnder posted
  rw [balance_eq, ← sum_netted under fun posting member here =>
    Finset.mem_insert_of_mem (mem_pairsUnder.mpr ⟨posting, member, here, rfl⟩)]
  refine Finset.sum_eq_single_of_mem _ (Finset.mem_insert_self _ _) fun pair member other => ?_
  have posted := (Finset.mem_insert.mp member).resolve_left other
  refine zero pair (accountId, assetId) (areIds_of_mem_pairsUnder posted) ⟨account, asset⟩ other ?_
  exact under pair member

/-- The balances of the accounts that have one in an asset sum to zero. -/
theorem conserved_of_shared (zero : SharedKeysNetToZero entries) {assetId : String}
    (asset : isBlank assetId = false) : ∃ accounts : Finset String,
    (∀ accountId, accountId ∈ accounts ↔
      isBlank accountId = false ∧ (appendAll entries).balance accountId assetId ≠ 0) ∧
    ∑ accountId ∈ accounts, (appendAll entries).balance accountId assetId = 0 := by
  have own {accountId : String} (account : isBlank accountId = false) :=
    balance_of_shared zero account asset
  let posted := ((postingsOf (accepted [] entries)).map JournalPosting.accountId).toFinset
  have ids : ∀ accountId ∈ posted, isBlank accountId = false := by
    intro accountId member
    obtain ⟨posting, there, rfl⟩ := List.mem_map.mp (List.mem_toFinset.mp member)
    exact (areIds_of_accepted there).1
  refine ⟨posted.filter fun accountId => (appendAll entries).balance accountId assetId ≠ 0,
    fun accountId => ?_, ?_⟩
  · rw [Finset.mem_filter]
    refine ⟨fun both => ⟨ids accountId both.1, both.2⟩, fun both => ⟨?_, both.2⟩⟩
    by_contra absent
    refine both.2 ((own both.1).trans (netted_eq_zero fun posting member same => absent ?_))
    rw [← show posting.accountId = accountId from congrArg Prod.fst same]
    exact List.mem_toFinset.mpr (List.mem_map_of_mem member)
  · rw [Finset.sum_filter_ne_zero]
    calc ∑ accountId ∈ posted, (appendAll entries).balance accountId assetId
        = ∑ accountId ∈ posted, netted (accepted [] entries) accountId assetId :=
          Finset.sum_congr rfl fun accountId member => own (ids accountId member)
      _ = signedSum (inAsset assetId) (postingsOf (accepted [] entries)) := by
          refine Eq.trans ?_ (sum_signedSum JournalPosting.accountId posted
            fun posting member _ => List.mem_toFinset.mpr (List.mem_map_of_mem member))
          refine Finset.sum_congr rfl fun accountId _ => signedSum_congr fun posting _ => ?_
          exact Bool.and_comm _ _
      _ = 0 := signedSum_inAsset_accepted [] entries assetId

/-- Ids that share a key with others have the same balance, and so none if it is right. -/
theorem shared_of_balance (balance : ∀ accountId assetId, isBlank accountId = false →
    isBlank assetId = false →
    (appendAll entries).balance accountId assetId = netted (recorded new entries) accountId assetId) :
    SharedKeysNetToZero entries := by
  intro pair other ids otherIds different same
  let key := balanceKey pair.1 pair.2
  let pairs := insert pair (insert other (pairsUnder (accepted [] entries) key))
  have under : ∀ one ∈ pairs, balanceKey one.1 one.2 = key := by
    intro one member
    rcases Finset.mem_insert.mp member with rfl | member
    · rfl
    rcases Finset.mem_insert.mp member with rfl | posted
    · exact same.symm
    · exact balanceKey_of_mem_pairsUnder posted
  have visible : ∀ one ∈ pairs, AreIds one := by
    intro one member
    rcases Finset.mem_insert.mp member with rfl | member
    · exact ids
    rcases Finset.mem_insert.mp member with rfl | posted
    · exact otherIds
    · exact areIds_of_mem_pairsUnder posted
  have each : ∀ one ∈ pairs, netted (accepted [] entries) one.1 one.2 =
      signedSum (isUnder key) (postingsOf (accepted [] entries)) := by
    intro one member
    rw [← recorded_new, ← balance one.1 one.2 (visible one member).1 (visible one member).2, balance_eq,
      under one member, recorded_new]
  have total := sum_netted under fun posting member here =>
    Finset.mem_insert_of_mem (Finset.mem_insert_of_mem (mem_pairsUnder.mpr ⟨posting, member, here, rfl⟩))
  rw [Finset.sum_congr rfl each, Finset.sum_const, nsmul_eq_mul] at total
  have two : 1 < pairs.card := Finset.one_lt_card.mpr
    ⟨pair, Finset.mem_insert_self _ _, other, Finset.mem_insert_of_mem (Finset.mem_insert_self _ _), different⟩
  rw [each pair (Finset.mem_insert_self _ _)]
  have many : (pairs.card : ℤ) ≠ 1 := by exact_mod_cast two.ne'
  by_contra some_
  exact many (mul_right_cancel₀ some_ (total.trans (one_mul _).symm))

/-- A call that throws leaves the ledger. -/
theorem left_of_error {ledger after : FinancialLedger} {entry : JournalEntry} {error : String}
    (throws : append entry ledger = .error error after) : after = ledger := by
  rcases append_decides ledger entry with ⟨_, appends⟩ | ⟨_, other, unchanged⟩
  · rw [appends] at throws
    cases throws
  · rw [unchanged] at throws
    cases throws
    rfl

end Journal

end FinancialLedger

/-- **The journal balances exactly if ids that share a key net to zero.** -/
theorem journalBalances_iff (entries : List JournalEntry) :
    FinancialLedger.JournalBalances entries ↔ FinancialLedger.SharedKeysNetToZero entries := by
  constructor
  · exact fun balances => FinancialLedger.shared_of_balance balances.balance
  · intro zero
    refine ⟨fun accountId assetId account asset => ?_, fun assetId asset =>
      FinancialLedger.conserved_of_shared zero asset, fun _ _ _ _ _ throws =>
      FinancialLedger.left_of_error throws⟩
    rw [FinancialLedger.recorded_new]
    exact FinancialLedger.balance_of_shared zero account asset

/-- An account whose id has the character that joins it with its asset. -/
def splitEntry : JournalEntry where
  id := "e"
  actorId := "s"
  causationId := "r"
  occurredAt := some 0
  description := "d"
  postings := [⟨"a\x00b", "c", .debit, 1⟩, ⟨"d", "c", .credit, 1⟩]

/-- Another account shows its balance. -/
theorem splitEntry_misleads : ¬ FinancialLedger.JournalBalances [splitEntry] := by
  intro balances
  have own := balances.balance "a" "b\x00c" (by decide +kernel) (by decide +kernel)
  revert own
  decide +kernel

end FuseControlPlane.Domain
