/-
The inventory of a settlement (`evidence/authoritativeSettlement.ts`): the rows of every table, as one text.

* `canonicalInventory`: the rows of each table sorted with `localeCompare` by their canonical texts, and the
  tables by the code units of their names.
* `authoritativeSnapshotDigest`, `authoritativeSnapshotCardinality`: the digest of the text, the number of rows.
-/

import FuseControlPlane.Foundation.JsonValues

namespace FuseControlPlane.Evidence

open Foundation Foundation.JavaScript

/-- The rows of every table, under the name of the table. -/
abbrev SettlementRows := List (String × List Json)

/-- The text of a value, the members of its objects sorted by the code units of their names. -/
def canonical (value : Json) : String := (value.sortKeys beforeByUnits).stringify

section Inventory

variable [Collation]

/-- The rows of a table, sorted by their texts. -/
def sortedRows (inventory : List Json) : List Json :=
  ((inventory.map fun row => (canonical row, row)).insertionSort fun left right =>
    Collation.localeCompare left.1 right.1 ≤ 0).map (·.2)

def canonicalInventory (rows : SettlementRows) : String :=
  canonical (.object ((rows.insertionSort fun left right => beforeByUnits left.1 right.1).map fun table =>
    (table.1, .array (sortedRows table.2))))

def authoritativeSnapshotDigest [NodeCrypto] (rows : SettlementRows) : String :=
  "sha256:" ++ NodeCrypto.sha256 (canonicalInventory rows)

end Inventory

def authoritativeSnapshotCardinality (rows : SettlementRows) : ℕ := (rows.map fun table => table.2.length).sum

end FuseControlPlane.Evidence
