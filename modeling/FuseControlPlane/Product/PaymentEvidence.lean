/-
Payment evidence (`product/paymentEvidence.ts`): what was paid for a request, recorded once.

* `sameEvidence`: the evidence of a retry is that on record, payments compared by their canonical texts.
* `record_eq_ok_iff`: **a store takes evidence for a request it has if it is the same, and keeps the old one.**
-/

import FuseControlPlane.Foundation.Json
import FuseControlPlane.Foundation.Records

namespace FuseControlPlane.Product

open Foundation Foundation.JavaScript

structure PaymentEvidence where
  requestId : String
  organizationId : String
  actualCostAtomic : String
  payment : Json
  recordedAt : String

section Comparison

variable [Collation]

/-- The text of a value, the members of its objects sorted with `localeCompare`. -/
def canonicalJson (value : Json) : String :=
  (value.sortKeys fun left right => Collation.localeCompare left right ≤ 0).stringify

def sameEvidence (left right : PaymentEvidence) : Bool :=
  left.organizationId = right.organizationId && left.requestId = right.requestId &&
    left.actualCostAtomic = right.actualCostAtomic &&
    canonicalJson left.payment = canonicalJson right.payment

end Comparison

namespace MemoryPaymentEvidenceStore

def key (organizationId requestId : String) : String := organizationId ++ ":" ++ requestId

section Record

variable [Collation] (evidence : PaymentEvidence) (records : Record PaymentEvidence)

def record : Except String (Record PaymentEvidence) :=
  match records.get (key evidence.organizationId evidence.requestId) with
  | some existing =>
    if sameEvidence existing evidence then .ok records else .error "PAYMENT_EVIDENCE_CONFLICT"
  | none => .ok (records.set (key evidence.organizationId evidence.requestId) evidence)

def get (organizationId requestId : String) : Option PaymentEvidence := records.get (key organizationId requestId)

variable {evidence records}

theorem record_eq_ok_iff {existing : PaymentEvidence} {later : Record PaymentEvidence}
    (found : get records evidence.organizationId evidence.requestId = some existing) :
    record evidence records = .ok later ↔ sameEvidence existing evidence = true ∧ later = records := by
  unfold get at found
  unfold record
  rw [found]
  by_cases same : sameEvidence existing evidence = true
  · simp [same, eq_comm]
  · simp [same]

end Record

end MemoryPaymentEvidenceStore

end FuseControlPlane.Product
