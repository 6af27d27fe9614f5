/-
The journal of postings and the balances it keeps (`domain/financialLedger.ts`).

* `JournalEntry`, `JournalPosting`: an entry and its debits and credits.
* `FinancialLedger`: the entries, their ids, and the balances under keys of an account and an asset.
* `append`, `balance`, `entries`: the methods.
-/

import FuseControlPlane.Domain.Policy
import FuseControlPlane.Foundation.Methods
import FuseControlPlane.Foundation.Records

set_option linter.unusedSectionVars false

namespace FuseControlPlane.Domain

open Foundation Foundation.JavaScript Foundation.Method

/-! ### Data -/

/-- A side; `other` is what a caller that is not type-checked may give. -/
inductive PostingSide
  | debit | credit
  | other (side : String)
  deriving DecidableEq

structure JournalPosting where
  accountId : String
  assetId : String
  side : PostingSide
  amountAtomic : ℤ
  deriving DecidableEq

structure JournalEntry where
  id : String
  actorId : String
  causationId : String
  occurredAt : Option ℤ
  description : String
  postings : List JournalPosting
  deriving DecidableEq

/-- What an entry debits and credits in one asset. -/
structure AssetTotal where
  debits : ℤ
  credits : ℤ

def AssetTotal.add (total : AssetTotal) (posting : JournalPosting) : AssetTotal :=
  if posting.side = .debit then { total with debits := total.debits + posting.amountAtomic }
  else { total with credits := total.credits + posting.amountAtomic }

structure FinancialLedger where
  journal : List JournalEntry
  entryIds : List String
  balances : Record ℤ

namespace FinancialLedger

/-- `new FinancialLedger()`. -/
def new : FinancialLedger := ⟨[], [], .empty⟩

/-! ### Balances -/

def balanceKey (accountId assetId : String) : String := accountId ++ "\x00" ++ assetId

def balance (ledger : FinancialLedger) (accountId assetId : String) : ℤ :=
  (ledger.balances.get (balanceKey accountId assetId)).getD 0

def entries (ledger : FinancialLedger) : List JournalEntry := ledger.journal

/-- The balances after a posting. -/
def post (balances : Record ℤ) (posting : JournalPosting) : Record ℤ :=
  let key := balanceKey posting.accountId posting.assetId
  let direction := if posting.side = .debit then 1 else -1
  balances.set key ((balances.get key).getD 0 + direction * posting.amountAtomic)

/-! ### Checks -/

/-- `totals` after a posting. -/
def addToTotals (totals : Record AssetTotal) (posting : JournalPosting) :
    Except String (Record AssetTotal) := do
  require (!isBlank posting.accountId) "JOURNAL_POSTING_ACCOUNT_REQUIRED"
  require (!isBlank posting.assetId) "JOURNAL_POSTING_ASSET_REQUIRED"
  require (posting.side = .debit || posting.side = .credit) "JOURNAL_POSTING_SIDE_INVALID"
  require (0 < posting.amountAtomic) "JOURNAL_POSTING_AMOUNT_INVALID"
  let total := (totals.get posting.assetId).getD ⟨0, 0⟩
  return totals.set posting.assetId (total.add posting)

/-- The debits of an asset are its credits. -/
def checkBalanced (total : Entry AssetTotal) : Except String Unit :=
  require (total.value.debits = total.value.credits) ("JOURNAL_ENTRY_UNBALANCED:" ++ total.name)

/-- The checks of an entry's postings. -/
def checkPostings (postings : List JournalPosting) : Except String Unit := do
  let totals ← postings.foldlM addToTotals .empty
  totals.rows.forM checkBalanced

/-! ### Entries -/

def append (candidate : JournalEntry) : Method FinancialLedger Unit := do
  check (!isBlank candidate.id) "JOURNAL_ENTRY_ID_REQUIRED"
  check (!isBlank candidate.actorId) "JOURNAL_ENTRY_ACTOR_REQUIRED"
  check (!isBlank candidate.causationId) "JOURNAL_ENTRY_CAUSATION_REQUIRED"
  check (!isBlank candidate.description) "JOURNAL_ENTRY_DESCRIPTION_REQUIRED"
  check candidate.occurredAt.isSome "JOURNAL_ENTRY_OCCURRED_AT_INVALID"
  let ledger ← get
  check (!ledger.entryIds.contains candidate.id) ("JOURNAL_ENTRY_DUPLICATE:" ++ candidate.id)
  check (2 ≤ candidate.postings.length) "JOURNAL_ENTRY_POSTINGS_REQUIRED"
  fromExcept (checkPostings candidate.postings)
  modify fun ledger => { ledger with balances := candidate.postings.foldl post ledger.balances }
  modify fun ledger => { ledger with entryIds := ledger.entryIds ++ [candidate.id] }
  modify fun ledger => { ledger with journal := ledger.journal ++ [candidate] }

end FinancialLedger

end FuseControlPlane.Domain
