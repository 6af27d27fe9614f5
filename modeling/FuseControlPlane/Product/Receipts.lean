/-
Receipts and their pages (`product/receipts.ts`, `persistence/policyStore.ts`).

* `listDecisions`, `listDecisionsPage`: the decisions of a mandate by time and id; a page starts after a cursor.
* `cursorText`, `readCursor`: a cursor as it is handed out, and as it is read again.
* `ProductReceiptService`: all receipts, or a page of them; `followPages` follows the cursors.
* `receipt_pages`: with pages of the store **every receipt comes exactly once, in order**; a port without pages gives
  the first page alone.
-/

import FuseControlPlane.Foundation.Buffers
import FuseControlPlane.Foundation.JsonValues
import FuseControlPlane.Foundation.KeysetPages
import FuseControlPlane.Identity.IdentityStore
import FuseControlPlane.Persistence.Rows
import FuseControlPlane.Product.PaymentEvidence
import FuseControlPlane.Reliability.ReconciliationKernel

set_option linter.unusedSectionVars false

namespace FuseControlPlane.Product

open Foundation Foundation.JavaScript Persistence Identity
open Reliability.Kernel (DateParse)

/-! ### The store -/

/-- How the database orders texts and reads timestamps. -/
class Postgres where
  before : String → String → Bool
  preorder : IsPreorder before
  antisymm : ∀ {first second}, tied before first second = true → first = second
  /-- `text::timestamptz`, in milliseconds. -/
  timestamptz : String → Option ℤ

instance : Keyed PaymentEvidence (String × String) := 
  ⟨fun evidence => (evidence.organizationId, evidence.requestId)⟩

structure ExecutionSettlement where
  requestId : String
  status : ExecutionStatus
  reservedCostAtomic : ℕ
  actualCostAtomic : Option ℕ
  failureCode : Option String
  resolved : Bool

/-- A cursor as it is read from its text. -/
structure DecisionPageCursor where
  decidedAt : String
  id : String

/-- A page; its cursor has the time of the last row, which is a `Date`. -/
structure DecisionPage where
  decisions : List StoredPolicyDecision
  hasMore : Bool
  nextCursor : Option (ℤ × String)

section Store

variable [Postgres]

/-- `ORDER BY` a time and then a text. -/
def byTimeAndText {α : Type} (time : α → ℤ) (text : α → String) (first second : α) : Bool :=
  time first < time second || (time first = time second && Postgres.before (text first) (text second))

/-- `ORDER BY decided_at ASC, id ASC`. -/
def decidedBefore : StoredPolicyDecision → StoredPolicyDecision → Bool :=
  byTimeAndText (fun row => row.input.decidedAt) StoredPolicyDecision.id

/-- `decided_at > $3 OR (decided_at = $3 AND id > $4)`. -/
def isAfter (decidedAt : ℤ) (id : String) (row : StoredPolicyDecision) : Bool :=
  decidedAt < row.input.decidedAt || (row.input.decidedAt = decidedAt && !Postgres.before row.id id)

def ofMandate (organizationId mandateId : String) (row : StoredPolicyDecision) : Bool :=
  row.organizationId = organizationId && row.mandateId = mandateId

def listDecisions (db : Persistence.Db) (organizationId mandateId : String) : List StoredPolicyDecision :=
  (db.policyDecisions.rows.filter (ofMandate organizationId mandateId)).insertionSort (decidedBefore · ·)

/-- The rows after a cursor, whose time the database reads. -/
def afterCursor : Option DecisionPageCursor → Except String (StoredPolicyDecision → Bool)
  | none => .ok fun _ => true
  | some cursor =>
    match Postgres.timestamptz cursor.decidedAt with
    | some decidedAt => .ok (isAfter decidedAt cursor.id)
    | none => .error "invalid input syntax for type timestamp with time zone"

def listDecisionsPage (db : Persistence.Db) (organizationId mandateId : String) (limit : ℕ) (cursor : Option DecisionPageCursor)
    (agentId : Option String) : Except String DecisionPage := do
  let after ← afterCursor cursor
  let chosen := db.policyDecisions.rows.filter fun row =>
    ofMandate organizationId mandateId row && after row && agentId.all fun agentId => row.agentId = agentId
  let result := (chosen.insertionSort (decidedBefore · ·)).take (limit + 1)
  let hasMore := limit < result.length
  let rows := result.take limit
  return {
    decisions := rows
    hasMore
    nextCursor := if hasMore then rows.getLast?.map fun last => (last.input.decidedAt, last.id) else none }

/-- A row of the execution joined with its resolution. -/
def settlementOf (db : Persistence.Db) (row : ExecutionRow) : ExecutionSettlement :=
  ⟨row.requestId, row.status, row.reservedCostAtomic, row.actualCostAtomic, row.failureCode,
    (db.resolution row.organizationId row.requestId).isSome⟩

/-- `ORDER BY executions.created_at ASC, executions.request_id ASC`. -/
def createdBefore : ExecutionRow → ExecutionRow → Bool := byTimeAndText ExecutionRow.createdAt ExecutionRow.requestId

def listExecutionSettlements (db : Persistence.Db) (organizationId mandateId : String) : List ExecutionSettlement :=
  ((db.inferenceExecutions.rows.filter (·.ofMandate organizationId mandateId)).insertionSort (createdBefore · ·)).map
    (settlementOf db)

def listExecutionSettlementsForRequests (db : Persistence.Db) (organizationId mandateId : String) (requestIds : List String) :
    List ExecutionSettlement :=
  (db.inferenceExecutions.rows.filter fun row =>
    row.ofMandate organizationId mandateId && requestIds.contains row.requestId).map (settlementOf db)

def listPaymentEvidence (evidence : Table PaymentEvidence) (organizationId : String) (requestIds : List String) :
    List PaymentEvidence :=
  evidence.rows.filter fun entry => entry.organizationId = organizationId && requestIds.contains entry.requestId

end Store

/-! ### Receipts -/

structure ProductReceiptPayment where
  verified : Bool
  transactionId : Option String
  network : Option String
  payer : Option String

structure ProductReceipt where
  decisionId : String
  requestId : String
  workspaceId : String
  mandateId : String
  agentId : String
  policyId : String
  policyVersion : ℤ
  outcome : Domain.PolicyOutcome
  wouldOutcome : Domain.PolicyOutcome
  enforced : Bool
  reasonCodes : List Domain.PolicyReasonCode
  estimatedCostAtomic : String
  reservedCostAtomic : Option String
  actualCostAtomic : Option String
  executionStatus : Option ExecutionStatus
  failureCode : Option String
  reconciliationResolved : Bool
  payment : Option ProductReceiptPayment

structure ProductReceiptPage where
  receipts : List ProductReceipt
  nextCursor : Option String

/-- What a receipt needs of whoever asks for it. -/
structure AdministrativePrincipal where
  principalType : PrincipalType
  principalId : String
  organizationId : String

/-- What a service asks: the store, and which of the optional queries there are. Both queries for settlements are
there, or neither. -/
structure ProductReceiptQueryPort where
  db : Persistence.Db
  evidence : Option (Table PaymentEvidence)
  hasSettlements : Bool
  hasPages : Bool

/-- The text of a member, if it is one. -/
def textMember (name : String) (payment : Json) : Option String :=
  match payment.field name with
  | some (.string text) => some text
  | _ => none

def projectPayment (evidence : PaymentEvidence) : ProductReceiptPayment where
  verified :=
    match evidence.payment.field "verified" with
    | some (.bool verified) => verified
    | _ => false
  transactionId := (textMember "transaction" evidence.payment).or (textMember "txHash" evidence.payment)
  network := textMember "network" evidence.payment
  payer := textMember "payer" evidence.payment

def project (workspaceId : String) (decision : StoredPolicyDecision) (settlement : Option ExecutionSettlement)
    (evidence : Option PaymentEvidence) : ProductReceipt where
  decisionId := decision.id
  requestId := decision.requestId
  workspaceId := workspaceId
  mandateId := decision.mandateId
  agentId := decision.agentId
  policyId := decision.policyId
  policyVersion := decision.policyVersion
  outcome := decision.result.outcome
  wouldOutcome := decision.result.wouldOutcome
  enforced := decision.result.enforced
  reasonCodes := decision.result.reasonCodes
  estimatedCostAtomic := toString decision.input.estimatedCostAtomic
  reservedCostAtomic := settlement.map fun settlement => toString settlement.reservedCostAtomic
  actualCostAtomic := settlement.bind fun settlement => settlement.actualCostAtomic.map toString
  executionStatus := settlement.map ExecutionSettlement.status
  failureCode := settlement.bind ExecutionSettlement.failureCode
  reconciliationResolved := settlement.any ExecutionSettlement.resolved
  payment := evidence.map projectPayment

/-- `new Map(values.map((value) => [name(value), value])).get(key)`: the last value of a key counts. -/
def lookup {α : Type} (name : α → String) (values : List α) (key : String) : Option α :=
  values.reverse.find? fun value => name value = key

/-! ### Cursors -/

/-- `Buffer.from(JSON.stringify({ v: 2, decidedAt, id })).toString("base64url")`, of a `Date`. -/
def cursorText (decidedAt : ℤ) (id : String) : String :=
  base64url (utf8 (Json.object [("v", .ofInt 2), ("decidedAt", .string (toISOString decidedAt)), ("id", .string id)]).stringify)

def readCursor [Replacement] [DateParse] (text : String) : Except String DecisionPageCursor :=
  match Json.parse (ofUtf8 (ofBase64url text)) with
  | none => .error "INVALID_RECEIPT_CURSOR"
  | some decoded =>
    if (decoded.field "v").bind Json.integer? = some 2 then
      match textMember "decidedAt" decoded, textMember "id" decoded with
      | some decidedAt, some id =>
        if id = "" ∨ DateParse.parse decidedAt = none then .error "INVALID_RECEIPT_CURSOR" else .ok ⟨decidedAt, id⟩
      | _, _ => .error "INVALID_RECEIPT_CURSOR"
    else .error "INVALID_RECEIPT_CURSOR"

/-- The cursor of a page that may be the first one. -/
def readOptionalCursor [Replacement] [DateParse] (cursor : Option String) : Except String (Option DecisionPageCursor) :=
  match cursor.filter (· ≠ "") with
  | none => .ok none
  | some text => (readCursor text).map some

/-! ### The service -/

namespace ProductReceiptService

variable [Postgres] [Replacement] [DateParse] (port : ProductReceiptQueryPort) (principal : AdministrativePrincipal)
  (mandateId : String)

/-- The agent whose receipts may be seen alone. -/
def onlyAgent : Option String :=
  match principal.principalType with
  | .agent => some principal.principalId
  | .serviceAccount => none

/-- The receipts of decisions, with the settlements and the evidence that were found for them. -/
def receiptsOf (settlements : List ExecutionSettlement) (evidence : List PaymentEvidence)
    (decisions : List StoredPolicyDecision) : List ProductReceipt :=
  decisions.map fun decision => project principal.organizationId decision
    (lookup ExecutionSettlement.requestId settlements decision.requestId)
    (lookup PaymentEvidence.requestId evidence decision.requestId)

def evidenceFor (requestIds : List String) : List PaymentEvidence :=
  match port.evidence with
  | some evidence => listPaymentEvidence evidence principal.organizationId requestIds
  | none => []

def list : Except String (List ProductReceipt) :=
  if isBlank mandateId then .error "MANDATE_REQUIRED"
  else
    let decisions := listDecisions port.db principal.organizationId mandateId
    let settlements := if port.hasSettlements then listExecutionSettlements port.db principal.organizationId mandateId else []
    let receipts := receiptsOf principal settlements (evidenceFor port principal (decisions.map StoredPolicyDecision.requestId))
      decisions
    .ok (receipts.filter fun receipt => (onlyAgent principal).all fun agentId => receipt.agentId = agentId)

def defaultReceiptPageSize : ℤ := 50

def maxReceiptPageSize : ℤ := 100

/-- A page of the decisions that the store pages through. -/
def pageOfStore (limit : ℕ) (cursor : Option DecisionPageCursor) : Except String ProductReceiptPage :=
  (listDecisionsPage port.db principal.organizationId mandateId limit cursor (onlyAgent principal)).map fun page =>
    let requestIds := page.decisions.map StoredPolicyDecision.requestId
    let settlements := if port.hasSettlements then
      listExecutionSettlementsForRequests port.db principal.organizationId mandateId requestIds else []
    { receipts := receiptsOf principal settlements (evidenceFor port principal requestIds) page.decisions
      nextCursor := page.nextCursor.map fun next => cursorText next.1 next.2 }

/-- A page; a limit is an integer. -/
def listPage (cursor : Option String) (limit : Option ℤ) : Except String ProductReceiptPage :=
  let limit := limit.getD defaultReceiptPageSize
  if limit < 1 ∨ maxReceiptPageSize < limit then .error "INVALID_RECEIPT_PAGE_SIZE"
  else
    match readOptionalCursor cursor with
    | .error error => .error error
    | .ok cursor =>
      if port.hasPages then pageOfStore port principal mandateId limit.toNat cursor
      else if cursor.isSome then .error "RECEIPT_CURSOR_UNSUPPORTED"
      else (list port principal mandateId).map fun receipts => ⟨receipts.take limit.toNat, none⟩

/-- The pages from a cursor on, if there are no more than the fuel. -/
def followPages (limit : ℤ) : ℕ → Option String → Except String (Option (List (List ProductReceipt)))
  | 0, _ => .ok none
  | fuel + 1, cursor =>
    match listPage port principal mandateId cursor (some limit) with
    | .error error => .error error
    | .ok page =>
      match page.nextCursor with
      | none => .ok (some [page.receipts])
      | some next => (followPages limit fuel (some next)).map fun pages => pages.map (page.receipts :: ·)

end ProductReceiptService

/-! ### The order of decisions -/

section Order

variable [Postgres] {db : Persistence.Db} {organizationId mandateId : String}

theorem byTimeAndText_preorder {α : Type} (time : α → ℤ) (text : α → String) : IsPreorder (byTimeAndText time text) where
  total first second := by
    rcases lt_trichotomy (time first) (time second) with less | same | more
    · exact .inl (by simp [byTimeAndText, less])
    · rcases Postgres.preorder.total (text first) (text second) with below | above
      · exact .inl (by simp [byTimeAndText, same, below])
      · exact .inr (by simp [byTimeAndText, same, above])
    · exact .inr (by simp [byTimeAndText, more])
  trans := by
    intro first second third one other
    simp only [byTimeAndText, Bool.or_eq_true, Bool.and_eq_true, decide_eq_true_eq] at one other ⊢
    rcases one with less | ⟨same, below⟩ <;> rcases other with less' | ⟨same', below'⟩
    · exact .inl (less.trans less')
    · exact .inl (same' ▸ less)
    · exact .inl (same ▸ less')
    · exact .inr ⟨same.trans same', Postgres.preorder.trans below below'⟩

theorem decidedBefore_preorder : IsPreorder decidedBefore := byTimeAndText_preorder _ _

/-- The condition of the query is the order of the rows. -/
theorem isAfter_eq (last row : StoredPolicyDecision) :
    isAfter last.input.decidedAt last.id row = isBefore decidedBefore last row := by
  unfold isAfter isBefore decidedBefore byTimeAndText
  rcases lt_trichotomy last.input.decidedAt row.input.decidedAt with less | same | more
  · simp [less, less.not_gt, less.ne']
  · simp [same]
  · simp [more, more.not_gt, more.ne]

theorem mem_listDecisions {row : StoredPolicyDecision} : row ∈ listDecisions db organizationId mandateId ↔
    row ∈ db.policyDecisions ∧ ofMandate organizationId mandateId row = true := by
  unfold listDecisions
  rw [List.mem_insertionSort, List.mem_filter]
  rfl

theorem listDecisions_nodup : (listDecisions db organizationId mandateId).Nodup :=
  (List.perm_insertionSort _ _).nodup_iff.mpr ((List.Nodup.of_map _ db.policyDecisions.unique).filter _)

/-- Decisions of a mandate have different ids. -/
theorem eq_of_ids {first second : StoredPolicyDecision} (one : first ∈ listDecisions db organizationId mandateId)
    (other : second ∈ listDecisions db organizationId mandateId) (same : first.id = second.id) : first = second := by
  have ofFirst := (mem_listDecisions.mp one).2
  have ofSecond := (mem_listDecisions.mp other).2
  simp only [ofMandate, Bool.and_eq_true, decide_eq_true_eq] at ofFirst ofSecond
  exact Table.eq_of_key (mem_listDecisions.mp one).1 (mem_listDecisions.mp other).1
    (Prod.ext (ofFirst.1.trans ofSecond.1.symm) same)

/-- So they are not tied with each other. -/
theorem listDecisions_strict : (listDecisions db organizationId mandateId).Pairwise fun first second =>
    isBefore decidedBefore first second = true := by
  refine strict_of_sorted (pairwise_sorted decidedBefore_preorder _)
    (listDecisions_nodup.imp_of_mem fun {first second} one other different => ?_)
  by_contra ties
  rw [Bool.not_eq_false] at ties
  simp only [tied, decidedBefore, byTimeAndText, Bool.and_eq_true, Bool.or_eq_true, decide_eq_true_eq] at ties
  refine different (eq_of_ids one other ?_)
  rcases ties with ⟨less | ⟨_, below⟩, less' | ⟨_, above⟩⟩
  · omega
  · omega
  · omega
  · exact Postgres.antisymm (tied_eq_true.mpr ⟨below, above⟩)

end Order

/-! ### What is found for a request -/

section Lookup

variable {α : Type} {name : α → String} {values others : List α} {key : String}

theorem lookup_eq_some (unique : (values.map name).Nodup) {value : α} :
    lookup name values key = some value ↔ value ∈ values ∧ name value = key := by
  unfold lookup
  constructor
  · intro found
    exact ⟨List.mem_reverse.mp (List.mem_of_find?_eq_some found),
      of_decide_eq_true (List.find?_some (p := fun value => decide (name value = key)) found)⟩
  · rintro ⟨member, rfl⟩
    cases found : values.reverse.find? fun other => name other = name value with
    | none =>
      have absent := List.find?_eq_none.mp found value (List.mem_reverse.mpr member)
      exact absurd (decide_eq_true rfl) absent
    | some other =>
      have same : name other = name value :=
        of_decide_eq_true (List.find?_some (p := fun other => decide (name other = name value)) found)
      rw [List.inj_on_of_nodup_map unique (List.mem_reverse.mp (List.mem_of_find?_eq_some found)) member same]

/-- Lists with the same value for a key. -/
theorem lookup_congr (unique : (values.map name).Nodup) (alsoUnique : (others.map name).Nodup)
    (same : ∀ value, name value = key → (value ∈ values ↔ value ∈ others)) :
    lookup name values key = lookup name others key := by
  refine Option.ext fun value => ?_
  rw [lookup_eq_some unique, lookup_eq_some alsoUnique]
  exact ⟨fun found => ⟨(same value found.2).mp found.1, found.2⟩,
    fun found => ⟨(same value found.2).mpr found.1, found.2⟩⟩

end Lookup

/-! ### Pages -/

section Pages

variable [Postgres] [Replacement] [DateParse] {port : ProductReceiptQueryPort} {principal : AdministrativePrincipal}
  {mandateId : String}

open ProductReceiptService

/-- A decision as it is admitted: it has an id, and its time is read as the cursor writes it. -/
structure IsWritten (row : StoredPolicyDecision) : Prop where
  id : row.id ≠ ""
  parsed : DateParse.parse (toISOString row.input.decidedAt) ≠ none
  timestamp : Postgres.timestamptz (toISOString row.input.decidedAt) = some row.input.decidedAt

/-- **A cursor is read** as it was handed out. -/
theorem readOptionalCursor_cursorText {row : StoredPolicyDecision} (written : IsWritten row) :
    readOptionalCursor (some (cursorText row.input.decidedAt row.id)) =
      .ok (some ⟨toISOString row.input.decidedAt, row.id⟩) := by
  have shown : cursorText row.input.decidedAt row.id ≠ "" := by
    intro empty
    unfold cursorText at empty
    obtain ⟨character, rest, shape, _⟩ := Json.stringify_head
      (.object [("v", .ofInt 2), ("decidedAt", .string (toISOString row.input.decidedAt)), ("id", .string row.id)])
    rw [utf8_eq_nil.mp (base64url_eq_empty.mp empty)] at shape
    cases shape
  have read : readCursor (cursorText row.input.decidedAt row.id) = .ok ⟨toISOString row.input.decidedAt, row.id⟩ := by
    unfold readCursor cursorText
    rw [ofBase64url_base64url, ofUtf8_utf8, Json.parse_stringify]
    have version : (Json.field "v" (.object [("v", .ofInt 2), ("decidedAt", .string (toISOString row.input.decidedAt)),
        ("id", .string row.id)])).bind Json.integer? = some 2 := by
      rw [show Json.field "v" _ = some (Json.ofInt 2) from rfl, Option.bind_some, Json.integer?_ofInt]
    have time : textMember "decidedAt" (.object [("v", .ofInt 2), ("decidedAt", .string (toISOString row.input.decidedAt)),
        ("id", .string row.id)]) = some (toISOString row.input.decidedAt) := rfl
    have id : textMember "id" (.object [("v", .ofInt 2), ("decidedAt", .string (toISOString row.input.decidedAt)),
        ("id", .string row.id)]) = some row.id := rfl
    dsimp only
    rw [if_pos version, time, id]
    exact if_neg fun either => either.elim written.id written.parsed
  have given : (some (cursorText row.input.decidedAt row.id)).filter (· ≠ "") =
      some (cursorText row.input.decidedAt row.id) := Option.filter_some_pos (decide_eq_true shown)
  unfold readOptionalCursor
  rw [given]
  dsimp only
  rw [read]
  rfl

/-- The decisions whose receipts the principal may see. -/
def visible (port : ProductReceiptQueryPort) (principal : AdministrativePrincipal) (mandateId : String) :
    List StoredPolicyDecision :=
  (listDecisions port.db principal.organizationId mandateId).filter fun row =>
    (onlyAgent principal).all fun agentId => row.agentId = agentId

/-- A cursor that the decisions go on from. -/
structure Leaves (port : ProductReceiptQueryPort) (principal : AdministrativePrincipal) (mandateId : String)
    (cursor : Option String) (rest : List StoredPolicyDecision) : Prop where
  read : ∃ decoded after, readOptionalCursor cursor = .ok decoded ∧ afterCursor decoded = .ok after ∧
    (visible port principal mandateId).filter after = rest
  closed : ∀ row ∈ rest, rest.filter (isBefore decidedBefore row) =
    (visible port principal mandateId).filter (isBefore decidedBefore row)

theorem leaves_all : Leaves port principal mandateId none (visible port principal mandateId) :=
  ⟨⟨none, fun _ => true, rfl, rfl, List.filter_true _⟩, fun _ _ => rfl⟩

theorem leaves_strict {cursor : Option String} {rest : List StoredPolicyDecision}
    (leaves : Leaves port principal mandateId cursor rest) :
    rest.Pairwise fun first second => isBefore decidedBefore first second = true := by
  obtain ⟨decoded, after, _, _, rfl⟩ := leaves.read
  exact (listDecisions_strict.filter _).filter _

/-- **The next cursor leaves** what the page has left. -/
theorem leaves_next {cursor : Option String} {rest : List StoredPolicyDecision} {limit : ℕ}
    {last : StoredPolicyDecision} (leaves : Leaves port principal mandateId cursor rest) (written : IsWritten last)
    (shown : (rest.take limit).getLast? = some last) :
    Leaves port principal mandateId (some (cursorText last.input.decidedAt last.id)) (rest.drop limit) := by
  have member : last ∈ rest := List.mem_of_mem_take (List.mem_of_getLast? shown)
  have left : (visible port principal mandateId).filter (isBefore decidedBefore last) = rest.drop limit := by
    rw [← leaves.closed last member]
    exact filter_after decidedBefore_preorder (leaves_strict leaves) shown
  refine ⟨⟨_, isAfter last.input.decidedAt last.id, readOptionalCursor_cursorText written, ?_, ?_⟩, fun row later => ?_⟩
  · unfold afterCursor
    dsimp only
    rw [written.timestamp]
  · rw [← left]
    exact List.filter_congr fun row _ => isAfter_eq last row
  · rw [← left] at later ⊢
    exact filter_after_after decidedBefore_preorder (List.mem_filter.mp later).2

/-- A page of the store. -/
theorem listDecisionsPage_eq {cursor : Option String} {rest : List StoredPolicyDecision} {limit : ℕ}
    (leaves : Leaves port principal mandateId cursor rest) :
    ∃ decoded, readOptionalCursor cursor = .ok decoded ∧
      listDecisionsPage port.db principal.organizationId mandateId limit decoded (onlyAgent principal) =
        .ok ⟨rest.take limit, limit < rest.length,
          if limit < rest.length then (rest.take limit).getLast?.map fun last => (last.input.decidedAt, last.id) else none⟩ := by
  obtain ⟨decoded, after, read, applied, rfl⟩ := leaves.read
  refine ⟨decoded, read, ?_⟩
  have chosen : (port.db.policyDecisions.rows.filter fun row => ofMandate principal.organizationId mandateId row &&
      after row && (onlyAgent principal).all fun agentId => row.agentId = agentId).insertionSort (decidedBefore · ·) =
      (visible port principal mandateId).filter after := by
    unfold visible listDecisions
    rw [← insertionSort_filter decidedBefore_preorder, ← insertionSort_filter decidedBefore_preorder, List.filter_filter,
      List.filter_filter]
    congr 1
    refine List.filter_congr fun row _ => ?_
    rw [Bool.and_assoc, Bool.and_comm, Bool.and_comm (after row)]
  unfold listDecisionsPage
  rw [applied]
  show Except.ok (DecisionPage.mk _ _ _) = _
  rw [chosen]
  have length : (limit < (((visible port principal mandateId).filter after).take (limit + 1)).length) ↔
      limit < ((visible port principal mandateId).filter after).length := by
    rw [List.length_take]
    omega
  simp only [length, List.take_take, Nat.min_eq_left (Nat.le_succ limit)]

/-! ### Receipts of a page -/

/-- The receipt of a decision, as `list` makes it. -/
def receiptOf (port : ProductReceiptQueryPort) (principal : AdministrativePrincipal) (mandateId : String)
    (decision : StoredPolicyDecision) : ProductReceipt :=
  project principal.organizationId decision
    (lookup ExecutionSettlement.requestId
      (if port.hasSettlements then listExecutionSettlements port.db principal.organizationId mandateId else [])
      decision.requestId)
    (lookup PaymentEvidence.requestId (evidenceFor port principal
      ((listDecisions port.db principal.organizationId mandateId).map StoredPolicyDecision.requestId)) decision.requestId)

theorem list_eq (given : isBlank mandateId = false) :
    list port principal mandateId = .ok ((visible port principal mandateId).map (receiptOf port principal mandateId)) := by
  unfold list
  rw [given]
  show Except.ok (List.filter _ (List.map _ _)) = _
  rw [List.filter_map]
  rfl

/-- The executions of a mandate have different requests. -/
theorem requests_unique (db : Persistence.Db) (organizationId : String) {keep : ExecutionRow → Bool}
    (own : ∀ row, keep row = true → row.organizationId = organizationId) :
    ((db.inferenceExecutions.rows.filter keep).map ExecutionRow.requestId).Nodup := by
  have nodup : (db.inferenceExecutions.rows.filter keep).Nodup :=
    (List.Nodup.of_map _ db.inferenceExecutions.unique).filter keep
  refine nodup.map_on fun first one second other same => ?_
  obtain ⟨here, kept⟩ := List.mem_filter.mp one
  obtain ⟨there, alsoKept⟩ := List.mem_filter.mp other
  exact Table.eq_of_key here there (Prod.ext ((own first kept).trans (own second alsoKept).symm) same)

theorem organization_of_ofMandate {row : ExecutionRow} {organizationId : String}
    (own : row.ofMandate organizationId mandateId = true) : row.organizationId = organizationId :=
  (of_decide_eq_true own).1

/-- The same settlement is found among those of some requests. -/
theorem settlement_congr (db : Persistence.Db) (organizationId : String) {requestIds : List String} {requestId : String}
    (asked : requestId ∈ requestIds) :
    lookup ExecutionSettlement.requestId (listExecutionSettlementsForRequests db organizationId mandateId requestIds)
      requestId =
    lookup ExecutionSettlement.requestId (listExecutionSettlements db organizationId mandateId) requestId := by
  have some : ((listExecutionSettlementsForRequests db organizationId mandateId requestIds).map
      ExecutionSettlement.requestId).Nodup := by
    unfold listExecutionSettlementsForRequests
    rw [List.map_map]
    exact requests_unique db organizationId fun row kept =>
      organization_of_ofMandate (Bool.and_eq_true_iff.mp kept).1
  have all : ((listExecutionSettlements db organizationId mandateId).map ExecutionSettlement.requestId).Nodup := by
    unfold listExecutionSettlements
    rw [List.map_map]
    exact ((List.perm_insertionSort _ _).map _).nodup_iff.mpr
      (requests_unique db organizationId fun row kept => organization_of_ofMandate kept)
  refine lookup_congr some all fun settlement own => ?_
  unfold listExecutionSettlementsForRequests listExecutionSettlements
  rw [List.mem_map, List.mem_map]
  constructor
  · rintro ⟨row, member, rfl⟩
    obtain ⟨stored, kept⟩ := List.mem_filter.mp member
    exact ⟨row, (List.mem_insertionSort _).mpr (List.mem_filter.mpr ⟨stored, (Bool.and_eq_true_iff.mp kept).1⟩), rfl⟩
  · rintro ⟨row, member, rfl⟩
    obtain ⟨stored, kept⟩ := List.mem_filter.mp ((List.mem_insertionSort _).mp member)
    have requested : row.requestId = requestId := own
    have contained : requestIds.contains row.requestId = true := List.contains_iff_mem.mpr (requested ▸ asked)
    exact ⟨row, List.mem_filter.mpr ⟨stored, Bool.and_eq_true_iff.mpr ⟨kept, contained⟩⟩, rfl⟩

theorem evidence_congr {requestIds others : List String} {requestId : String} (asked : requestId ∈ requestIds)
    (alsoAsked : requestId ∈ others) :
    lookup PaymentEvidence.requestId (evidenceFor port principal requestIds) requestId =
      lookup PaymentEvidence.requestId (evidenceFor port principal others) requestId := by
  unfold evidenceFor
  cases port.evidence with
  | none => rfl
  | some evidence =>
    have unique : ∀ requestIds, ((listPaymentEvidence evidence principal.organizationId requestIds).map
        PaymentEvidence.requestId).Nodup := by
      intro requestIds
      have nodup : (listPaymentEvidence evidence principal.organizationId requestIds).Nodup :=
        (List.Nodup.of_map _ evidence.unique).filter _
      refine nodup.map_on fun first one second other same => ?_
      obtain ⟨here, kept⟩ := List.mem_filter.mp one
      obtain ⟨there, alsoKept⟩ := List.mem_filter.mp other
      have own := of_decide_eq_true (Bool.and_eq_true_iff.mp kept).1
      have alsoOwn := of_decide_eq_true (Bool.and_eq_true_iff.mp alsoKept).1
      exact Table.eq_of_key here there (Prod.ext (own.trans alsoOwn.symm) same)
    refine lookup_congr (unique requestIds) (unique others) fun entry own => ?_
    have here : requestIds.contains entry.requestId = true := List.contains_iff_mem.mpr (own ▸ asked)
    have there : others.contains entry.requestId = true := List.contains_iff_mem.mpr (own ▸ alsoAsked)
    unfold listPaymentEvidence
    rw [List.mem_filter, List.mem_filter, here, there]

/-- **The receipts of a page** are those of the list. -/
theorem receiptsOf_page {decisions : List StoredPolicyDecision}
    (listed : ∀ decision ∈ decisions, decision ∈ listDecisions port.db principal.organizationId mandateId) :
    receiptsOf principal (if port.hasSettlements then listExecutionSettlementsForRequests port.db
        principal.organizationId mandateId (decisions.map StoredPolicyDecision.requestId) else [])
      (evidenceFor port principal (decisions.map StoredPolicyDecision.requestId)) decisions =
      decisions.map (receiptOf port principal mandateId) := by
  refine List.map_congr_left fun decision member => ?_
  have asked := List.mem_map_of_mem (f := StoredPolicyDecision.requestId) member
  have everAsked := List.mem_map_of_mem (f := StoredPolicyDecision.requestId) (listed decision member)
  unfold receiptOf
  rw [evidence_congr asked everAsked]
  cases port.hasSettlements with
  | false => rfl
  | true =>
    rw [if_pos rfl, if_pos rfl, settlement_congr port.db principal.organizationId asked]

/-! ### All pages -/

theorem listPage_eq (paged : port.hasPages = true) {limit : ℕ} (positive : 1 ≤ limit) (most : limit ≤ 100)
    {cursor : Option String} {rest : List StoredPolicyDecision} (leaves : Leaves port principal mandateId cursor rest) :
    listPage port principal mandateId cursor (some limit) =
      .ok ⟨(rest.take limit).map (receiptOf port principal mandateId),
        if limit < rest.length then (rest.take limit).getLast?.map fun last => cursorText last.input.decidedAt last.id
        else none⟩ := by
  obtain ⟨decoded, read, page⟩ := @listDecisionsPage_eq _ _ _ port principal mandateId cursor rest limit leaves
  have listed : ∀ decision ∈ rest.take limit, decision ∈ listDecisions port.db principal.organizationId mandateId := by
    intro decision member
    obtain ⟨_, after, _, _, rfl⟩ := leaves.read
    exact (List.mem_filter.mp (List.mem_filter.mp (List.mem_of_mem_take member)).1).1
  have inside : ¬ ((limit : ℤ) < 1 ∨ maxReceiptPageSize < (limit : ℤ)) := by
    unfold maxReceiptPageSize
    omega
  unfold listPage pageOfStore
  rw [Option.getD_some]
  dsimp only
  rw [if_neg inside, read]
  dsimp only
  rw [if_pos paged, Int.toNat_natCast, page, ← receiptsOf_page listed]
  refine congrArg Except.ok (congrArg (ProductReceiptPage.mk _) ?_)
  dsimp only
  split
  · rw [Option.map_map]
    rfl
  · rfl

/-- **Following the cursors** gives what is left, page by page. -/
theorem followPages_eq (paged : port.hasPages = true) (written : ∀ row ∈ port.db.policyDecisions, IsWritten row)
    {limit : ℕ} (positive : 1 ≤ limit) (most : limit ≤ 100) (fuel : ℕ) :
    ∀ {cursor : Option String} {rest : List StoredPolicyDecision}, Leaves port principal mandateId cursor rest →
      rest.length < fuel → ∃ pages, followPages port principal mandateId limit fuel cursor = .ok (some pages) ∧
        pages.flatten = rest.map (receiptOf port principal mandateId) := by
  induction fuel with
  | zero => exact fun _ short => absurd short (Nat.not_lt_zero _)
  | succ fuel ih =>
    intro cursor rest leaves short
    have page := listPage_eq paged positive most leaves
    unfold followPages
    rw [page]
    by_cases more : limit < rest.length
    · have filled : rest.take limit ≠ [] := by
        intro empty
        have length := congrArg List.length empty
        rw [List.length_take, List.length_nil] at length
        omega
      obtain ⟨last, shown⟩ : ∃ last, (rest.take limit).getLast? = some last := ⟨_, List.getLast?_eq_some_getLast filled⟩
      have stored : last ∈ port.db.policyDecisions := by
        obtain ⟨_, after, _, _, rfl⟩ := leaves.read
        have member := List.mem_of_mem_take (List.mem_of_getLast? shown)
        exact (mem_listDecisions.mp (List.mem_filter.mp (List.mem_filter.mp member).1).1).1
      obtain ⟨pages, followed, flattened⟩ := ih (leaves_next leaves (written last stored) shown) (by
        rw [List.length_drop]
        omega)
      refine ⟨(rest.take limit).map (receiptOf port principal mandateId) :: pages, ?_, ?_⟩
      · rw [if_pos more, shown]
        dsimp only [Option.map_some]
        rw [followed]
        rfl
      · rw [List.flatten_cons, flattened, ← List.map_append, List.take_append_drop]
    · rw [if_neg more]
      refine ⟨[rest.map (receiptOf port principal mandateId)], ?_, List.flatten_singleton⟩
      rw [List.take_of_length_le (Nat.not_lt.mp more)]

/-- Receipts have different decisions. -/
theorem decisions_unique : (((visible port principal mandateId).map (receiptOf port principal mandateId)).map
    ProductReceipt.decisionId).Nodup := by
  rw [List.map_map]
  have distinct : (visible port principal mandateId).Nodup := listDecisions_nodup.filter _
  refine distinct.map_on fun first one second other same => ?_
  exact eq_of_ids (List.mem_filter.mp one).1 (List.mem_filter.mp other).1 same

/-- A port without pages gives the first page alone. -/
theorem followPages_first (unpaged : port.hasPages = false) (given : isBlank mandateId = false) {limit : ℕ}
    (positive : 1 ≤ limit) (most : limit ≤ 100) (fuel : ℕ) : followPages port principal mandateId limit (fuel + 1) none =
      .ok (some [((visible port principal mandateId).map (receiptOf port principal mandateId)).take limit]) := by
  have inside : ¬ ((limit : ℤ) < 1 ∨ maxReceiptPageSize < (limit : ℤ)) := by
    unfold maxReceiptPageSize
    omega
  have page : listPage port principal mandateId none (some limit) =
      .ok ⟨((visible port principal mandateId).map (receiptOf port principal mandateId)).take limit, none⟩ := by
    unfold listPage
    rw [Option.getD_some]
    dsimp only
    rw [if_neg inside]
    show (if port.hasPages = true then _ else _) = _
    rw [if_neg (by rw [unpaged]; decide), list_eq given, Int.toNat_natCast]
    rfl
  unfold followPages
  rw [page]

/-- **Pages of the store lose and repeat nothing.** Their receipts are those of `list`, in the same order. A port that
has no pages gives the first page and no cursor, so that it loses what is longer than a page. -/
theorem receipt_pages (port : ProductReceiptQueryPort) (principal : AdministrativePrincipal) (mandateId : String)
    (written : ∀ row ∈ port.db.policyDecisions, IsWritten row) (given : isBlank mandateId = false) (limit : ℕ)
    (positive : 1 ≤ limit) (most : limit ≤ 100) :
    ∃ receipts, list port principal mandateId = .ok receipts ∧ (receipts.map ProductReceipt.decisionId).Nodup ∧
      (port.hasPages = true → ∃ fuel pages, followPages port principal mandateId limit fuel none = .ok (some pages) ∧
        pages.flatten = receipts) ∧
      (port.hasPages = false → ∃ pages, followPages port principal mandateId limit 1 none = .ok (some pages) ∧
        pages.flatten = receipts.take limit ∧ (pages.flatten = receipts ↔ receipts.length ≤ limit)) := by
  refine ⟨_, list_eq given, decisions_unique, fun paged => ?_, fun unpaged => ?_⟩
  · obtain ⟨pages, followed, flattened⟩ := followPages_eq paged written positive most
      ((visible port principal mandateId).length + 1) (leaves_all) (Nat.lt_succ_self _)
    exact ⟨_, pages, followed, flattened⟩
  · refine ⟨_, followPages_first unpaged given positive most 0, List.flatten_singleton, ?_⟩
    rw [List.flatten_singleton, List.take_eq_self_iff]

end Pages

/-! ### Examples -/

section Examples

open ProductReceiptService

namespace Sample

@[reducible] def postgres : Postgres where
  before := beforeByUnits
  preorder := beforeByUnits_preorder
  antisymm := beforeByUnits_antisymm
  timestamptz text := if text = "2026-01-02T03:04:05.678Z" then some 1767323045678 else none

@[reducible] def dates : DateParse := ⟨fun text =>
  if text = "2026-01-02T03:04:05.678Z" then some 1767323045678 else none⟩

@[reducible] def replacements : Replacement := ⟨fun _ => "\uFFFD"⟩

/-- A decision of the mandate; all are made at the same time. -/
def decision (id requestId : String) : StoredPolicyDecision where
  id := id
  requestId := requestId
  organizationId := "workspace"
  mandateId := "mandate"
  agentId := "agent"
  policyId := "policy"
  policyVersion := 1
  result := ⟨.allow, .allow, true, []⟩
  input :=
    { id, requestId, organizationId := "workspace", mandateId := "mandate", agentId := "agent", agentCapabilities := []
      provider := "openrouter", model := "model", branchId := none, workloadClass := none, estimatedCostAtomic := 10
      inputTokens := 1, maxOutputTokens := 1, spentHourAtomic := 0, spentDayAtomic := 0, mandateSpentAtomic := 0
      mandateMaximumAtomic := 100, requestCountLastMinute := 0, workload := none, exposure := none
      decidedAt := 1767323045678 }

def decisions : Table StoredPolicyDecision := ⟨[decision "second" "request-2", decision "first" "request-1"], by decide⟩

def receiptPort (hasPages : Bool) : ProductReceiptQueryPort :=
  ⟨{ Persistence.Db.empty with policyDecisions := decisions }, none, true, hasPages⟩

def operator : AdministrativePrincipal := ⟨.serviceAccount, "operator", "workspace"⟩

theorem written : letI := postgres
    letI := dates
    ∀ row ∈ decisions, IsWritten row := by
  let _ := postgres
  let _ := dates
  have shown : toISOString 1767323045678 = "2026-01-02T03:04:05.678Z" := by decide +kernel
  intro row member
  have ids : row.id ≠ "" ∧ row.input.decidedAt = 1767323045678 := by
    rcases List.mem_pair.mp member with rfl | rfl <;> exact ⟨by decide, rfl⟩
  refine ⟨ids.1, ?_, ?_⟩
  · rw [ids.2, shown]
    decide
  · rw [ids.2, shown]
    rfl

end Sample

theorem receipt_pages_ties : letI := Sample.postgres
    letI := Sample.dates
    letI := Sample.replacements
    ∃ fuel pages receipts, followPages (Sample.receiptPort true) Sample.operator "mandate" 1 fuel none = .ok (some pages) ∧
      list (Sample.receiptPort true) Sample.operator "mandate" = .ok receipts ∧ pages.flatten = receipts := by
  let _ := Sample.postgres
  let _ := Sample.dates
  let _ := Sample.replacements
  obtain ⟨receipts, listed, _, paged, _⟩ := receipt_pages (Sample.receiptPort true) Sample.operator "mandate"
    Sample.written (by decide) 1 (by decide) (by decide)
  obtain ⟨fuel, pages, followed, flattened⟩ := paged rfl
  exact ⟨fuel, pages, receipts, followed, listed, flattened⟩

theorem pages_cut_off : letI := Sample.postgres
    letI := Sample.dates
    letI := Sample.replacements
    ¬ ∀ (port : ProductReceiptQueryPort) (principal : AdministrativePrincipal) (mandateId : String) (limit : ℕ),
      (∀ row ∈ port.db.policyDecisions, IsWritten row) → isBlank mandateId = false → 1 ≤ limit → limit ≤ 100 →
        ∃ fuel pages, followPages port principal mandateId limit fuel none = .ok (some pages) ∧
          list port principal mandateId = .ok pages.flatten := by
  let _ := Sample.postgres
  let _ := Sample.dates
  let _ := Sample.replacements
  intro always
  obtain ⟨fuel, pages, followed, listed⟩ := always (Sample.receiptPort false) Sample.operator "mandate" 1 Sample.written
    (by decide) (by decide) (by decide)
  have given : isBlank "mandate" = false := by decide
  cases fuel with
  | zero => cases followed
  | succ fuel =>
    rw [@followPages_first Sample.postgres Sample.replacements Sample.dates (Sample.receiptPort false) Sample.operator
      "mandate" rfl given 1 (by decide) (by decide) fuel] at followed
    rw [list_eq given] at listed
    cases followed
    rw [List.flatten_singleton] at listed
    have lengths := congrArg List.length (Except.ok.inj listed)
    rw [List.length_take, List.length_map] at lengths
    have two : (visible (Sample.receiptPort false) Sample.operator "mandate").length = 2 := by decide +kernel
    rw [two] at lengths
    cases lengths

end Examples

end FuseControlPlane.Product
