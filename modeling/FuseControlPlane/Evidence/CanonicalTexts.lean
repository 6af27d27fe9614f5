/-
When canonical texts tell values apart.

Members are sorted with `localeCompare`, which takes some different texts for the same; members under such
names keep the order they had. The same holds for the rows of an inventory with such texts.

* `canonicalJson_eq_iff`: texts are equal exactly if the values are the same and their ties agree.
* `canonicalInventory_eq_iff`: inventories have one text exactly if every table has the same rows, and rows
  whose texts are tied are in the same order.
* `canonicalTexts_iff`: **canonical texts are canonical exactly where ties agree between equal values**.
-/

import FuseControlPlane.Evidence.AuthoritativeSettlement
import FuseControlPlane.Evidence.ManifestPublication
import FuseControlPlane.Product.PaymentEvidence
import FuseControlPlane.Signer.SignRequests

set_option linter.unusedSectionVars false

namespace FuseControlPlane.Evidence

open Foundation Foundation.JavaScript Foundation.Json Product

/-! ### Values -/

/-- The order of a collation. -/
def byLocale [Collation] (first second : String) : Bool := Collation.localeCompare first second ≤ 0

theorem canonical_eq_iff {first second : Json} (distinct : isDistinct first = true)
    (alsoDistinct : isDistinct second = true) : canonical first = canonical second ↔ sameValue first second = true := by
  unfold canonical
  rw [stringify_injective.eq_iff,
    sortKeys_linear_eq_iff beforeByUnits_preorder beforeByUnits_antisymm distinct alsoDistinct]

theorem canonicalJson_eq_iff [Collation] (preorder : IsPreorder byLocale) {first second : Json}
    (distinct : isDistinct first = true) (alsoDistinct : isDistinct second = true) :
    Evidence.canonicalJson first = Evidence.canonicalJson second ↔
      sameValue first second = true ∧ tiesAgree byLocale first second = true := by
  unfold Evidence.canonicalJson
  rw [stringify_injective.eq_iff]
  exact sortKeys_eq_iff preorder distinct alsoDistinct

/-! ### Rows -/

section Rows

variable [Collation] {inventory other : List Json} {rows others : SettlementRows}

theorem sameElements_iff_canonical (distinct : areDistinct inventory = true) (alsoDistinct : areDistinct other = true) :
    sameElements inventory other = true ↔ inventory.map canonical = other.map canonical := by
  induction inventory generalizing other with
  | nil => cases other <;> simp [sameElements]
  | cons row rest ih =>
    cases other with
    | nil => simp [sameElements]
    | cons one more =>
      rw [areDistinct, Bool.and_eq_true] at distinct alsoDistinct
      rw [sameElements, Bool.and_eq_true, ih distinct.2 alsoDistinct.2, List.map_cons, List.map_cons,
        List.cons.injEq, canonical_eq_iff distinct.1 alsoDistinct.1]

theorem perm_sortedRows (inventory : List Json) : (sortedRows inventory).Perm inventory := by
  have sorted := (List.perm_insertionSort (fun left right : String × Json =>
    Collation.localeCompare left.1 right.1 ≤ 0) (inventory.map fun row => (canonical row, row))).map (·.2)
  rw [List.map_map] at sorted
  exact sorted.trans (.of_eq (List.map_id inventory))

/-- The texts of sorted rows are the texts of the rows, sorted. -/
theorem canonical_sortedRows (inventory : List Json) :
    (sortedRows inventory).map canonical = (inventory.map canonical).insertionSort (byLocale · ·) := by
  have paired : ∀ pair ∈ (inventory.map fun row => (canonical row, row)).insertionSort fun left right =>
      Collation.localeCompare left.1 right.1 ≤ 0, canonical pair.2 = pair.1 := fun pair member => by
    rw [List.mem_insertionSort] at member
    obtain ⟨row, _, rfl⟩ := List.mem_map.mp member
    rfl
  unfold sortedRows
  rw [List.map_map]
  calc List.map (canonical ∘ fun pair : String × Json => pair.2) _
      = List.map (·.1) _ := List.map_congr_left paired
    _ = ((inventory.map fun row => (canonical row, row)).map (·.1)).insertionSort (byLocale · ·) :=
        List.map_insertionSort _ _ _ _ fun one _ another _ => decide_eq_true_iff.symm
    _ = _ := by
        rw [List.map_map]
        rfl

/-- Every row occurs as often in one table as in the other. -/
def SameRows (inventory other : List Json) : Prop :=
  ∀ row, isDistinct row = true → inventory.countP (sameValue row) = other.countP (sameValue row)

theorem countP_sameValue (distinct : areDistinct inventory = true) {row : Json} (fine : isDistinct row = true) :
    inventory.countP (sameValue row) = (inventory.map canonical).count (canonical row) := by
  rw [List.count, List.countP_map]
  refine List.countP_congr fun one member => ?_
  rw [← canonical_eq_iff fine (areDistinct_iff.mp distinct one member), Function.comp_apply, beq_iff_eq]
  exact eq_comm

theorem sameRows_iff_perm (distinct : areDistinct inventory = true) (alsoDistinct : areDistinct other = true) :
    SameRows inventory other ↔ (inventory.map canonical).Perm (other.map canonical) := by
  rw [List.perm_iff_count]
  constructor
  · intro same text
    by_cases inside : ∃ row, isDistinct row = true ∧ canonical row = text
    · obtain ⟨row, fine, rfl⟩ := inside
      rw [← countP_sameValue distinct fine, ← countP_sameValue alsoDistinct fine]
      exact same row fine
    · have none {rows : List Json} (fine : areDistinct rows = true) : text ∉ rows.map canonical := fun member => by
        obtain ⟨row, here, same⟩ := List.mem_map.mp member
        exact inside ⟨row, areDistinct_iff.mp fine row here, same⟩
      rw [List.count_eq_zero_of_not_mem (none distinct), List.count_eq_zero_of_not_mem (none alsoDistinct)]
  · intro counts row fine
    rw [countP_sameValue distinct fine, countP_sameValue alsoDistinct fine]
    exact counts _

/-- Lists sort to one list exactly if they have the same elements and their ties agree. -/
theorem sorted_texts_iff (preorder : IsPreorder byLocale) {texts more : List String} :
    texts.insertionSort (byLocale · ·) = more.insertionSort (byLocale · ·) ↔
      texts.Perm more ∧ sameTies byLocale texts more = true := by
  rw [insertionSort_eq_iff preorder]
  constructor
  · intro ties
    have sorted := (insertionSort_eq_iff preorder).mpr ties
    have perm : texts.Perm more := by
      have own (list : List String) := List.perm_insertionSort (fun one other => byLocale one other = true) list
      refine (own texts).symm.trans ?_
      rw [sorted]
      exact own more
    exact ⟨perm, (sameTies_iff preorder fun _ => perm.mem_iff).mpr ties⟩
  · rintro ⟨perm, ties⟩
    exact (sameTies_iff preorder fun _ => perm.mem_iff).mp ties

/-- **Sorted rows are the same elements exactly if the tables have the same rows and their ties agree.** -/
theorem sameElements_sortedRows (preorder : IsPreorder byLocale) (distinct : areDistinct inventory = true)
    (alsoDistinct : areDistinct other = true) :
    sameElements (sortedRows inventory) (sortedRows other) = true ↔ SameRows inventory other ∧
      sameTies byLocale (inventory.map canonical) (other.map canonical) = true := by
  have sorted {rows : List Json} (fine : areDistinct rows = true) : areDistinct (sortedRows rows) = true :=
    areDistinct_iff.mpr fun row member =>
      areDistinct_iff.mp fine row ((perm_sortedRows rows).mem_iff.mp member)
  rw [sameElements_iff_canonical (sorted distinct) (sorted alsoDistinct), canonical_sortedRows,
    canonical_sortedRows, sorted_texts_iff preorder, sameRows_iff_perm distinct alsoDistinct]

/-! ### Inventories -/

/-- The inventory of an object: distinct tables, and rows that are values. -/
structure IsInventory (rows : SettlementRows) : Prop where
  tables : (rows.map (·.1)).Nodup
  values : ∀ table ∈ rows, areDistinct table.2 = true

/-- Inventories of the same tables, each with the same rows. -/
structure SameInventory (rows others : SettlementRows) : Prop where
  tables : ∀ name, name ∈ rows.map (·.1) ↔ name ∈ others.map (·.1)
  rows : ∀ table ∈ rows, ∀ other, (table.1, other) ∈ others → SameRows table.2 other

/-- In every table, rows whose texts are tied are in the same order. -/
def RowTiesAgree (rows others : SettlementRows) : Prop :=
  ∀ table ∈ rows, ∀ other, (table.1, other) ∈ others →
    sameTies byLocale (table.2.map canonical) (other.map canonical) = true

/-- The tables of an inventory with their sorted rows. -/
def sortedTables (rows : SettlementRows) : List (String × Json) :=
  (rows.insertionSort fun left right => beforeByUnits left.1 right.1).map fun table =>
    (table.1, .array (sortedRows table.2))

theorem mem_sortedTables {member : String × Json} : member ∈ sortedTables rows ↔
    ∃ table ∈ rows, (table.1, Json.array (sortedRows table.2)) = member := by
  unfold sortedTables
  rw [List.mem_map]
  simp only [List.mem_insertionSort]

theorem names_sortedTables (rows : SettlementRows) :
    ((sortedTables rows).map (·.1)).Perm (rows.map (·.1)) := by
  unfold sortedTables
  rw [List.map_map]
  exact (List.perm_insertionSort _ rows).map _

theorem isDistinct_sortedTables (inventory : IsInventory rows) : isDistinct (.object (sortedTables rows)) = true := by
  refine isDistinct_object.mpr ⟨(names_sortedTables rows).nodup_iff.mpr inventory.tables, fun member here => ?_⟩
  obtain ⟨table, there, rfl⟩ := mem_sortedTables.mp here
  exact areDistinct_iff.mpr fun row inside => areDistinct_iff.mp (inventory.values table there) row
    ((perm_sortedRows table.2).mem_iff.mp inside)

/-- **Inventories have one text exactly if they have the same rows and the ties of the rows agree.** -/
theorem canonicalInventory_eq_iff (preorder : IsPreorder byLocale) (one : IsInventory rows)
    (another : IsInventory others) : canonicalInventory rows = canonicalInventory others ↔
      SameInventory rows others ∧ RowTiesAgree rows others := by
  have distinct := isDistinct_sortedTables one
  have alsoDistinct := isDistinct_sortedTables another
  show canonical (.object (sortedTables rows)) = canonical (.object (sortedTables others)) ↔ _
  rw [canonical_eq_iff distinct alsoDistinct, sameValue_object_iff (isDistinct_object.mp distinct).1
    (isDistinct_object.mp alsoDistinct).1]
  have each {table : String × List Json} (here : table ∈ rows) {other : List Json}
      (there : (table.1, other) ∈ others) :=
    sameElements_sortedRows preorder (one.values table here) (another.values _ there)
  constructor
  · rintro ⟨names, values⟩
    have same : ∀ table ∈ rows, ∀ other, (table.1, other) ∈ others →
        sameElements (sortedRows table.2) (sortedRows other) = true := fun table here other there =>
      values _ (mem_sortedTables.mpr ⟨table, here, rfl⟩) _ (mem_sortedTables.mpr ⟨_, there, rfl⟩)
    refine ⟨⟨fun name => ?_, fun table here other there => ((each here there).mp (same _ here _ there)).1⟩,
      fun table here other there => ((each here there).mp (same _ here _ there)).2⟩
    rw [← (names_sortedTables rows).mem_iff, ← (names_sortedTables others).mem_iff]
    exact names name
  · rintro ⟨same, ties⟩
    refine ⟨fun name => ?_, fun member here other there => ?_⟩
    · rw [(names_sortedTables rows).mem_iff, (names_sortedTables others).mem_iff]
      exact same.tables name
    · obtain ⟨table, isHere, rfl⟩ := mem_sortedTables.mp here
      obtain ⟨⟨name, found⟩, isThere, equal⟩ := mem_sortedTables.mp there
      cases equal
      exact (each isHere isThere).mpr ⟨same.rows table isHere found isThere, ties table isHere found isThere⟩

end Rows

/-! ### The three uses -/

section Uses

variable [NodeCrypto] [Collation]

/-- The retry is for the recorded request, with the same cost and the same payment. -/
structure SamePayment (recorded retry : PaymentEvidence) : Prop where
  organization : recorded.organizationId = retry.organizationId
  request : recorded.requestId = retry.requestId
  cost : recorded.actualCostAtomic = retry.actualCostAtomic
  payment : sameValue recorded.payment retry.payment = true

/-- The canonical texts of two values, of two inventories, and of recorded evidence and its retry. -/
structure CanonicalTexts (first second : Json) (rows others : SettlementRows)
    (recorded retry : PaymentEvidence) : Prop where
  value : Evidence.canonicalJson first = Evidence.canonicalJson second ↔ sameValue first second = true
  inventory : canonicalInventory rows = canonicalInventory others ↔ SameInventory rows others
  /-- A signer takes a retry for the same request, unless the digests of two texts collide. -/
  fingerprint :
    (NodeCrypto.sha256 (Evidence.canonicalJson first) = NodeCrypto.sha256 (Evidence.canonicalJson second) →
      Evidence.canonicalJson first = Evidence.canonicalJson second) →
    (Signer.fingerprint first = Signer.fingerprint second ↔ sameValue first second = true)
  /-- A store that finds the evidence accepts a retry exactly if it is the same. -/
  evidence : ∀ records,
    MemoryPaymentEvidenceStore.get records retry.organizationId retry.requestId = some recorded →
      ((∃ later, MemoryPaymentEvidenceStore.record retry records = .ok later) ↔ SamePayment recorded retry)

theorem sameEvidence_iff (preorder : IsPreorder byLocale) {recorded retry : PaymentEvidence}
    (distinct : isDistinct recorded.payment = true) (alsoDistinct : isDistinct retry.payment = true) :
    sameEvidence recorded retry = true ↔
      SamePayment recorded retry ∧ tiesAgree byLocale recorded.payment retry.payment = true := by
  have texts : Product.canonicalJson recorded.payment = Product.canonicalJson retry.payment ↔ _ :=
    canonicalJson_eq_iff preorder distinct alsoDistinct
  simp only [sameEvidence, Bool.and_eq_true, decide_eq_true_eq, texts]
  constructor
  · rintro ⟨⟨⟨organization, request⟩, cost⟩, payment, ties⟩
    exact ⟨⟨organization, request, cost, payment⟩, ties⟩
  · rintro ⟨⟨organization, request, cost, payment⟩, ties⟩
    exact ⟨⟨⟨organization, request⟩, cost⟩, payment, ties⟩

/-- A retry is accepted by a store that finds the evidence exactly if the comparison says so. -/
theorem accepted_iff {recorded retry : PaymentEvidence} {records : Record PaymentEvidence}
    (found : MemoryPaymentEvidenceStore.get records retry.organizationId retry.requestId = some recorded) :
    (∃ later, MemoryPaymentEvidenceStore.record retry records = .ok later) ↔
      sameEvidence recorded retry = true := by
  simp only [MemoryPaymentEvidenceStore.record_eq_ok_iff found, exists_and_left, exists_eq, and_true]

/-- **Canonical texts are canonical exactly where the ties of equal values agree.** -/
theorem canonicalTexts_iff (preorder : IsPreorder byLocale) {first second : Json}
    (distinct : isDistinct first = true) (alsoDistinct : isDistinct second = true) {rows others : SettlementRows}
    (one : IsInventory rows) (another : IsInventory others) {recorded retry : PaymentEvidence}
    (paid : isDistinct recorded.payment = true) (alsoPaid : isDistinct retry.payment = true) :
    CanonicalTexts first second rows others recorded retry ↔
      (sameValue first second = true → tiesAgree byLocale first second = true) ∧
        (SameInventory rows others → RowTiesAgree rows others) ∧
          (SamePayment recorded retry → tiesAgree byLocale recorded.payment retry.payment = true) := by
  have texts := canonicalJson_eq_iff preorder distinct alsoDistinct
  have inventories := canonicalInventory_eq_iff preorder one another
  have same := sameEvidence_iff preorder paid alsoPaid
  constructor
  · intro canonical
    refine ⟨fun equal => (texts.mp (canonical.value.mpr equal)).2,
      fun equal => (inventories.mp (canonical.inventory.mpr equal)).2, fun equal => ?_⟩
    -- a store with nothing but the evidence
    let records := Record.set Table.empty
      (MemoryPaymentEvidenceStore.key retry.organizationId retry.requestId) recorded
    have found : MemoryPaymentEvidenceStore.get records retry.organizationId retry.requestId = some recorded := by
      unfold MemoryPaymentEvidenceStore.get
      rw [Record.get_set, if_pos rfl]
    exact (same.mp ((accepted_iff found).mp ((canonical.evidence records found).mpr equal))).2
  · rintro ⟨values, rowTies, payments⟩
    have value : Evidence.canonicalJson first = Evidence.canonicalJson second ↔ sameValue first second = true :=
      texts.trans (and_iff_left_of_imp values)
    refine ⟨value, inventories.trans (and_iff_left_of_imp rowTies), fun apart => ?_, fun records found => ?_⟩
    · rw [← value]
      exact ⟨apart, fun equal => congrArg NodeCrypto.sha256 equal⟩
    · rw [accepted_iff found, same]
      exact and_iff_left_of_imp payments

end Uses

/-! ### A letter and its decomposition -/

namespace Accents

/-- The codes of a text, its accented letters decomposed. -/
def decomposed (text : String) : List ℕ :=
  text.toList.flatMap fun character => if character = 'é' then [101, 769] else [character.toNat]

/-- A collation that takes a letter and its decomposition for the same text. -/
@[reducible] def collation : Collation :=
  ⟨fun first second => if decomposed first < decomposed second then -1
    else if decomposed first = decomposed second then 0 else 1⟩

@[reducible] def crypto : NodeCrypto := ⟨id⟩

theorem byLocale_iff {first second : String} :
    @byLocale collation first second = true ↔ decomposed first ≤ decomposed second := by
  unfold byLocale
  rw [decide_eq_true_eq]
  show (if decomposed first < decomposed second then (-1 : ℤ)
    else if decomposed first = decomposed second then 0 else 1) ≤ 0 ↔ _
  rcases lt_trichotomy (decomposed first) (decomposed second) with before | same | after
  · simp [before, before.le]
  · simp [same]
  · simp [not_lt_of_gt after, after.ne', not_le_of_gt after]

theorem preorder : IsPreorder (@byLocale collation) where
  total first second := by
    rw [byLocale_iff, byLocale_iff]
    exact le_total _ _
  trans := by
    intro first second third one another
    rw [byLocale_iff] at *
    exact one.trans another

/-- Two members whose names are the accented letter and its decomposition. -/
def payload : Json := .object [("é", .bool true), ("e\u0301", .bool false)]

/-- The same members in the other order. -/
def reordered : Json := .object [("e\u0301", .bool false), ("é", .bool true)]

def evidence (payment : Json) : PaymentEvidence := ⟨"request", "organization", "1", payment, "2026-01-01"⟩

def rows : SettlementRows := [("attempts", [payload])]

/-- One value has two texts. -/
theorem one_value_two_texts :
    ¬ @CanonicalTexts crypto collation payload reordered rows rows (evidence payload) (evidence payload) := by
  intro canonical
  have same := (@CanonicalTexts.value crypto collation _ _ _ _ _ _ canonical).mpr (by decide)
  have agree := ((@canonicalJson_eq_iff collation preorder payload reordered (by decide) (by decide)).mp same).2
  revert agree
  decide

theorem canonicalTexts_iff_payload :
    @CanonicalTexts crypto collation payload payload rows rows (evidence payload) (evidence payload) ↔
      (sameValue payload payload = true → tiesAgree (@byLocale collation) payload payload = true) ∧
        (SameInventory rows rows → @RowTiesAgree collation rows rows) ∧
          (SamePayment (evidence payload) (evidence payload) →
            tiesAgree (@byLocale collation) payload payload = true) :=
  have inventory : IsInventory rows := ⟨by decide, by decide⟩
  @canonicalTexts_iff crypto collation preorder _ _ (by decide) (by decide) _ _ inventory inventory
    (evidence payload) (evidence payload) (by decide) (by decide)

end Accents

end FuseControlPlane.Evidence
