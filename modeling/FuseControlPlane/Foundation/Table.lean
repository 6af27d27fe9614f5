/-
Tables with a primary key.

A `Table ρ` is a list of rows no two of which have the same key, in insertion order. The uniqueness
of keys is a field, so a table with a duplicate cannot be built.

* `find? key`, `put row` (insert, or replace the row with that key), `erase key`, `filter keep`,
  `map rewrite`, `update chosen rewrite` (rewrite the chosen rows).
* `total weight`: the sum of a weight over all rows. A filtered sum is a `total` of a weight that is
  zero outside the filter.
* `find?_put`, `find?_erase`, `find?_filter`, `find?_map`: what each write does to each lookup.
* `total_put_new`, `total_put_existing`, `total_put_le`, `total_update`: what a write does to a sum.
* `sum`: the same of weights in a monoid. `foldl_put_existing`, `foldl_put_empty`: rows that are put one
  after the other.
* `sum_le_total`: what rows with distinct keys back comes to no more than all rows.
* `sum_map_group`: grouping the rows by a label and adding the groups up gives the whole sum.
-/

import Mathlib.Algebra.BigOperators.Group.List.Lemmas
import Mathlib.Algebra.Order.BigOperators.Group.List
import Mathlib.Algebra.Order.Ring.Nat
import Mathlib.Data.List.Nodup
import Mathlib.Tactic.Common

set_option linter.unusedSectionVars false

namespace Foundation

/-- The primary key of a row type. -/
class Keyed (ρ : Type) (κ : outParam Type) where
  key : ρ → κ

/-- Rows with pairwise distinct primary keys. -/
structure Table (ρ : Type) {κ : Type} [Keyed ρ κ] where
  rows : List ρ
  unique : (rows.map Keyed.key).Nodup

namespace Table

variable {ρ κ : Type} [Keyed ρ κ]

@[ext] theorem ext {first second : Table ρ} (same : first.rows = second.rows) : first = second := by
  obtain ⟨rows, unique⟩ := first
  obtain ⟨rows', unique'⟩ := second
  cases same
  rfl

instance : Membership ρ (Table ρ) where
  mem table row := row ∈ table.rows

theorem mem_def {table : Table ρ} {row : ρ} : row ∈ table ↔ row ∈ table.rows := Iff.rfl

/-- The table without rows. -/
def empty : Table ρ := ⟨[], List.nodup_nil⟩

@[simp] theorem not_mem_empty (row : ρ) : row ∉ (empty : Table ρ) := List.not_mem_nil

/-- Two rows of one table with the same key are the same row. -/
theorem eq_of_key {table : Table ρ} {first second : ρ} (here : first ∈ table) (there : second ∈ table)
    (same : Keyed.key first = Keyed.key second) : first = second :=
  List.inj_on_of_nodup_map table.unique here there same

variable [DecidableEq κ]

/-- The row with a key. -/
def find? (table : Table ρ) (key : κ) : Option ρ :=
  table.rows.find? fun row => Keyed.key row = key

@[simp] theorem find?_empty (key : κ) : (empty : Table ρ).find? key = none := rfl

/-- Looking a key up finds exactly the member with that key. -/
theorem find?_eq_some {table : Table ρ} {key : κ} {row : ρ} :
    table.find? key = some row ↔ row ∈ table ∧ Keyed.key row = key := by
  constructor
  · intro found
    have keyed := List.find?_some found
    exact ⟨List.mem_of_find?_eq_some found, of_decide_eq_true keyed⟩
  · rintro ⟨member, rfl⟩
    cases found : table.find? (Keyed.key row) with
    | none =>
      have absent := List.find?_eq_none.mp found row member
      simp at absent
    | some other =>
      have keyed : Keyed.key other = Keyed.key row :=
        of_decide_eq_true (List.find?_some (p := fun r => decide (Keyed.key r = Keyed.key row)) found)
      rw [eq_of_key (List.mem_of_find?_eq_some found) member keyed]

theorem find?_eq_none {table : Table ρ} {key : κ} :
    table.find? key = none ↔ ∀ row ∈ table, Keyed.key row ≠ key := by
  unfold find?
  rw [List.find?_eq_none]
  simp [mem_def]

theorem key_of_find? {table : Table ρ} {key : κ} {row : ρ} (found : table.find? key = some row) :
    Keyed.key row = key := (find?_eq_some.mp found).2

theorem mem_of_find? {table : Table ρ} {key : κ} {row : ρ} (found : table.find? key = some row) :
    row ∈ table := (find?_eq_some.mp found).1

theorem find?_of_mem {table : Table ρ} {row : ρ} (member : row ∈ table) :
    table.find? (Keyed.key row) = some row := find?_eq_some.mpr ⟨member, rfl⟩

/-! ### Writing a row -/

/-- The rows after a `put`: the row with that key replaced, or the row appended. -/
def putRows (rows : List ρ) (row : ρ) : List ρ :=
  if rows.any fun old => Keyed.key old = Keyed.key row then
    rows.map fun old => if Keyed.key old = Keyed.key row then row else old
  else rows ++ [row]

theorem any_key_iff {rows : List ρ} {key : κ} :
    (rows.any fun old => Keyed.key old = key) = true ↔ key ∈ rows.map Keyed.key := by
  simp [List.any_eq_true]

theorem putRows_unique {rows : List ρ} (unique : (rows.map Keyed.key).Nodup) (row : ρ) :
    ((putRows rows row).map Keyed.key).Nodup := by
  unfold putRows
  split
  · have keys : (rows.map fun old => if Keyed.key old = Keyed.key row then row else old).map
        Keyed.key = rows.map Keyed.key := by
      rw [List.map_map]
      refine List.map_congr_left fun old _ => ?_
      simp only [Function.comp_apply]
      split
      · next same => exact same.symm
      · rfl
    rw [keys]
    exact unique
  · next absent =>
    rw [any_key_iff] at absent
    rw [List.map_append, List.nodup_append]
    refine ⟨unique, List.nodup_singleton _, ?_⟩
    intro first here second there same
    rw [List.map_singleton, List.mem_singleton] at there
    rw [same, there] at here
    exact absent here

/-- Insert the row, or replace the row that has its key. -/
def put (table : Table ρ) (row : ρ) : Table ρ :=
  ⟨putRows table.rows row, putRows_unique table.unique row⟩

theorem mem_put {table : Table ρ} {row other : ρ} :
    other ∈ table.put row ↔ other = row ∨ (other ∈ table ∧ Keyed.key other ≠ Keyed.key row) := by
  show other ∈ putRows table.rows row ↔ _
  unfold putRows
  split
  · next present =>
    obtain ⟨old, here, same⟩ := List.any_eq_true.mp present
    rw [List.mem_map]
    constructor
    · rintro ⟨source, member, rfl⟩
      split
      · exact .inl rfl
      · next different => exact .inr ⟨member, different⟩
    · rintro (rfl | ⟨member, different⟩)
      · exact ⟨old, here, if_pos (of_decide_eq_true same)⟩
      · exact ⟨other, member, if_neg different⟩
  · next absent =>
    rw [List.mem_append, List.mem_singleton, or_comm]
    refine or_congr_right ⟨fun member => ⟨member, fun same => absent ?_⟩, And.left⟩
    exact List.any_eq_true.mpr ⟨other, member, decide_eq_true same⟩

theorem find?_put (table : Table ρ) (row : ρ) (key : κ) :
    (table.put row).find? key = if key = Keyed.key row then some row else table.find? key := by
  split
  · next same => exact find?_eq_some.mpr ⟨mem_put.mpr (.inl rfl), same.symm⟩
  · next different =>
    cases found : table.find? key with
    | none =>
      rw [find?_eq_none]
      intro other member keyed
      rcases mem_put.mp member with rfl | ⟨member, _⟩
      · exact different keyed.symm
      · exact find?_eq_none.mp found other member keyed
    | some other =>
      obtain ⟨member, keyed⟩ := find?_eq_some.mp found
      exact find?_eq_some.mpr ⟨mem_put.mpr (.inr ⟨member, fun same => different (keyed ▸ same)⟩), keyed⟩

@[simp] theorem find?_put_self (table : Table ρ) (row : ρ) :
    (table.put row).find? (Keyed.key row) = some row := by rw [find?_put, if_pos rfl]

theorem find?_put_of_ne (table : Table ρ) {row : ρ} {key : κ} (different : key ≠ Keyed.key row) :
    (table.put row).find? key = table.find? key := by rw [find?_put, if_neg different]

/-! ### Deleting a row -/

/-- Delete the row with a key, if there is one. -/
def erase (table : Table ρ) (key : κ) : Table ρ :=
  ⟨table.rows.filter fun row => Keyed.key row ≠ key,
    table.unique.sublist (List.filter_sublist.map _)⟩

theorem mem_erase {table : Table ρ} {key : κ} {row : ρ} :
    row ∈ table.erase key ↔ row ∈ table ∧ Keyed.key row ≠ key := by
  simp [erase, mem_def]

theorem find?_erase (table : Table ρ) (erased key : κ) :
    (table.erase erased).find? key = if key = erased then none else table.find? key := by
  split
  · next same =>
    rw [find?_eq_none]
    intro row member keyed
    exact (mem_erase.mp member).2 (keyed.trans same)
  · next different =>
    cases found : table.find? key with
    | none =>
      rw [find?_eq_none] at found ⊢
      exact fun row member => found row (mem_erase.mp member).1
    | some row =>
      obtain ⟨member, keyed⟩ := find?_eq_some.mp found
      exact find?_eq_some.mpr ⟨mem_erase.mpr ⟨member, fun same => different (keyed ▸ same)⟩, keyed⟩

/-- Keep the rows that meet a condition. -/
def filter (table : Table ρ) (keep : ρ → Bool) : Table ρ :=
  ⟨table.rows.filter keep, table.unique.sublist (List.filter_sublist.map _)⟩

/-- Rewrite every row, each under its own key. -/
def map (table : Table ρ) (rewrite : ρ → ρ) (keeps : ∀ row, Keyed.key (rewrite row) = Keyed.key row) :
    Table ρ :=
  ⟨table.rows.map rewrite, by
    have keys : Keyed.key ∘ rewrite = (Keyed.key : ρ → κ) := funext keeps
    rw [List.map_map, keys]
    exact table.unique⟩

theorem mem_map {table : Table ρ} {rewrite : ρ → ρ}
    {keeps : ∀ row, Keyed.key (rewrite row) = Keyed.key row} {row : ρ} :
    row ∈ table.map rewrite keeps ↔ ∃ old ∈ table, rewrite old = row := List.mem_map

theorem find?_map (table : Table ρ) (rewrite : ρ → ρ)
    (keeps : ∀ row, Keyed.key (rewrite row) = Keyed.key row) (key : κ) :
    (table.map rewrite keeps).find? key = (table.find? key).map rewrite := by
  refine Option.ext fun row => ?_
  rw [find?_eq_some, mem_map, Option.map_eq_some_iff]
  constructor
  · rintro ⟨⟨old, member, rfl⟩, keyed⟩
    exact ⟨old, find?_eq_some.mpr ⟨member, (keeps old).symm.trans keyed⟩, rfl⟩
  · rintro ⟨old, found, rfl⟩
    exact ⟨⟨old, mem_of_find? found, rfl⟩, (keeps old).trans (key_of_find? found)⟩

/-- Rewrite the rows that meet a condition, each under its own key. -/
def update (table : Table ρ) (chosen : ρ → Bool) (rewrite : ρ → ρ)
    (keeps : ∀ row, Keyed.key (rewrite row) = Keyed.key row) : Table ρ :=
  table.map (fun row => if chosen row then rewrite row else row) fun row => by
    split
    · exact keeps row
    · rfl

section Update

variable {table : Table ρ} {chosen : ρ → Bool} {rewrite : ρ → ρ}
  {keeps : ∀ row, Keyed.key (rewrite row) = Keyed.key row} {key : κ} {row : ρ}

theorem find?_update : (table.update chosen rewrite keeps).find? key =
    (table.find? key).map fun row => if chosen row then rewrite row else row :=
  find?_map ..

/-- A row of an updated table is an old one, rewritten if it was chosen. -/
theorem mem_update : row ∈ table.update chosen rewrite keeps ↔
    ∃ old ∈ table, (if chosen old then rewrite old else old) = row := mem_map

end Update

/-- A row with a new key comes last. -/
theorem rows_put_new {table : Table ρ} {row : ρ} (absent : table.find? (Keyed.key row) = none) :
    (table.put row).rows = table.rows ++ [row] := by
  refine if_neg fun present => ?_
  obtain ⟨old, here, same⟩ := List.any_eq_true.mp present
  exact find?_eq_none.mp absent old here (of_decide_eq_true same)

/-- An update of the last row alone. -/
theorem rows_update_last {table : Table ρ} {chosen : ρ → Bool} (rewrite : ρ → ρ)
    (keeps : ∀ row, Keyed.key (rewrite row) = Keyed.key row) {earlier : List ρ} {last : ρ}
    (split : table.rows = earlier ++ [last]) (spared : ∀ row ∈ earlier, chosen row = false)
    (taken : chosen last = true) :
    (table.update chosen rewrite keeps).rows = earlier ++ [rewrite last] := by
  show table.rows.map _ = _
  rw [split, List.map_append, List.map_singleton, if_pos taken]
  congr 1
  conv_rhs => rw [← List.map_id earlier]
  refine List.map_congr_left fun row member => if_neg ?_
  rw [spared row member]
  exact Bool.false_ne_true

/-- Putting a row that is there changes nothing. -/
theorem put_of_find? {table : Table ρ} {row : ρ} (found : table.find? (Keyed.key row) = some row) :
    table.put row = table := by
  refine ext ?_
  have present : (table.rows.any fun old => Keyed.key old = Keyed.key row) = true :=
    List.any_eq_true.mpr ⟨row, mem_of_find? found, decide_eq_true rfl⟩
  show putRows table.rows row = table.rows
  rw [putRows, if_pos present]
  conv_rhs => rw [← List.map_id table.rows]
  refine List.map_congr_left fun old here => ?_
  split
  · next same => exact (eq_of_key (mem_of_find? found) here same.symm)
  · rfl

/-- A row that is put over another one replaces it. -/
theorem put_put (table : Table ρ) {first second : ρ} (same : Keyed.key first = Keyed.key second) :
    (table.put first).put second = table.put second := by
  refine ext ?_
  show putRows (putRows table.rows first) second = putRows table.rows second
  have stored : ((putRows table.rows first).any fun old => Keyed.key old = Keyed.key second) = true := by
    refine List.any_eq_true.mpr ⟨first, ?_, decide_eq_true same⟩
    exact mem_put.mpr (.inl rfl)
  by_cases present : (table.rows.any fun old => Keyed.key old = Keyed.key second) = true
  · have before : (table.rows.any fun old => Keyed.key old = Keyed.key first) = true := by
      rw [same]
      exact present
    rw [putRows, if_pos stored, putRows, if_pos before, putRows, if_pos present, List.map_map]
    refine List.map_congr_left fun old _ => ?_
    simp only [Function.comp_apply, same]
    by_cases own : Keyed.key old = Keyed.key second
    · simp only [if_pos own, same, if_true]
    · simp only [if_neg own]
  · have before : ¬ (table.rows.any fun old => Keyed.key old = Keyed.key first) = true := by
      rw [same]
      exact present
    have untouched : (table.rows.map fun old => if Keyed.key old = Keyed.key second then second else old) =
        table.rows := by
      conv_rhs => rw [← List.map_id table.rows]
      refine List.map_congr_left fun old here => if_neg fun own => present ?_
      exact List.any_eq_true.mpr ⟨old, here, decide_eq_true own⟩
    rw [putRows, if_pos stored, putRows, if_neg before, putRows, if_neg present, List.map_append,
      untouched, List.map_singleton, if_pos same]

/-! ### Sums over a table -/

/-- The sum of a weight over all rows. -/
def total (table : Table ρ) (weight : ρ → ℕ) : ℕ := (table.rows.map weight).sum

@[simp] theorem total_empty (weight : ρ → ℕ) : (empty : Table ρ).total weight = 0 := rfl

theorem total_le_total {table : Table ρ} {first second : ρ → ℕ}
    (le : ∀ row ∈ table, first row ≤ second row) : table.total first ≤ table.total second :=
  List.sum_le_sum le

theorem total_congr {table : Table ρ} {first second : ρ → ℕ}
    (same : ∀ row ∈ table, first row = second row) : table.total first = table.total second :=
  congrArg List.sum (List.map_congr_left same)

theorem total_add (table : Table ρ) (first second : ρ → ℕ) :
    table.total (fun row => first row + second row) = table.total first + table.total second :=
  List.sum_map_add

/-- A sum of weights that are all zero is zero. -/
theorem total_eq_zero {table : Table ρ} {weight : ρ → ℕ} (zero : ∀ row ∈ table, weight row = 0) :
    table.total weight = 0 := by
  rw [total_congr zero]
  simp [total]

/-- A row with a new key adds its weight. -/
theorem total_put_new {table : Table ρ} {row : ρ} (absent : table.find? (Keyed.key row) = none)
    (weight : ρ → ℕ) : (table.put row).total weight = table.total weight + weight row := by
  unfold total
  rw [rows_put_new absent, List.map_append, List.sum_append]
  simp

/-- Replacing a row in a list with distinct keys exchanges its weight. -/
theorem sum_replace {M : Type} [AddCommMonoid M] {row old : ρ} (weight : ρ → M)
    (keyed : Keyed.key old = Keyed.key row) :
    ∀ rows : List ρ, (rows.map Keyed.key).Nodup → old ∈ rows →
      ((rows.map fun other => if Keyed.key other = Keyed.key row then row else other).map
        weight).sum + weight old = (rows.map weight).sum + weight row := by
  intro rows
  induction rows with
  | nil => intro _ member; cases member
  | cons head rest ih =>
    intro unique member
    rw [List.map_cons, List.nodup_cons] at unique
    rcases List.mem_cons.mp member with rfl | later
    · have untouched : (rest.map fun other =>
          if Keyed.key other = Keyed.key row then row else other) = rest := by
        conv_rhs => rw [← List.map_id rest]
        refine List.map_congr_left fun other here => if_neg fun same => ?_
        exact unique.1 (keyed.trans same.symm ▸ List.mem_map_of_mem here)
      simp only [List.map_cons, List.sum_cons, if_pos keyed, untouched]
      ac_rfl
    · have different : Keyed.key head ≠ Keyed.key row := fun same =>
        unique.1 (same.trans keyed.symm ▸ List.mem_map_of_mem later)
      have tail := ih unique.2 later
      simp only [List.map_cons, List.sum_cons, if_neg different]
      rw [add_assoc, tail, add_assoc]

/-- A row with an existing key exchanges the weight of the old row for its own. -/
theorem total_put_existing {table : Table ρ} {row old : ρ}
    (found : table.find? (Keyed.key row) = some old) (weight : ρ → ℕ) :
    (table.put row).total weight + weight old = table.total weight + weight row := by
  have present : (table.rows.any fun other => Keyed.key other = Keyed.key row) = true :=
    List.any_eq_true.mpr ⟨old, mem_of_find? found, decide_eq_true (key_of_find? found)⟩
  show ((putRows table.rows row).map weight).sum + weight old = _
  rw [putRows, if_pos present]
  exact sum_replace weight (key_of_find? found) table.rows table.unique (mem_of_find? found)

/-- Things that have rows with distinct keys come to no more than all rows. -/
theorem sum_le_total {α : Type} (table : Table ρ) {items : List α} {key : α → κ} {amount : α → ℕ}
    {weight : ρ → ℕ} (distinct : (items.map key).Nodup)
    (backed : ∀ item ∈ items, ∃ row, table.find? (key item) = some row ∧ amount item = weight row) :
    (items.map amount).sum ≤ table.total weight := by
  have listed : ∃ rows : List ρ, (∀ row ∈ rows, row ∈ table.rows) ∧
      rows.map Keyed.key = items.map key ∧ rows.map weight = items.map amount := by
    clear distinct
    induction items with
    | nil => exact ⟨[], fun _ none => absurd none List.not_mem_nil, rfl, rfl⟩
    | cons item items ih =>
      obtain ⟨row, found, same⟩ := backed item List.mem_cons_self
      obtain ⟨rows, inside, keys, weights⟩ := ih fun other here => backed other (List.mem_cons_of_mem _ here)
      refine ⟨row :: rows, fun other here => ?_, ?_, ?_⟩
      · rcases List.mem_cons.mp here with rfl | later
        · exact mem_of_find? found
        · exact inside other later
      · rw [List.map_cons, List.map_cons, key_of_find? found, keys]
      · rw [List.map_cons, List.map_cons, same, weights]
  obtain ⟨rows, inside, keys, weights⟩ := listed
  rw [← keys] at distinct
  obtain ⟨chosen, permuted, sublist⟩ := List.subperm_of_subset distinct.of_map inside
  rw [← weights, ← (permuted.map weight).sum_eq]
  exact (sublist.map weight).sum_le_sum fun _ _ => Nat.zero_le _

/-- A row that weighs no more than the one it replaces does not raise the sum. -/
theorem total_put_le {table : Table ρ} {row old : ρ}
    (found : table.find? (Keyed.key row) = some old) {weight : ρ → ℕ}
    (le : weight row ≤ weight old) : (table.put row).total weight ≤ table.total weight := by
  have exchanged := total_put_existing found weight
  omega

/-- An update adds the difference of the weights of the rows it rewrites. -/
theorem total_update (table : Table ρ) (chosen : ρ → Bool) (rewrite : ρ → ρ)
    (keeps : ∀ row, Keyed.key (rewrite row) = Keyed.key row) (weight gain : ρ → ℕ)
    (gains : ∀ row ∈ table, chosen row = true → weight (rewrite row) = weight row + gain row) :
    (table.update chosen rewrite keeps).total weight =
      table.total weight + table.total fun row => if chosen row then gain row else 0 := by
  rw [← total_add]
  show ((table.rows.map _).map weight).sum = _
  rw [List.map_map]
  refine congrArg List.sum (List.map_congr_left fun row member => ?_)
  simp only [Function.comp_apply]
  split
  · next here => exact gains row member here
  · rfl

/-- A condition that one row alone meets picks that row. -/
theorem filter_eq_singleton {table : Table ρ} {chosen : ρ → Bool} {row : ρ} (member : row ∈ table)
    (picked : chosen row = true)
    (only : ∀ other ∈ table, chosen other = true → Keyed.key other = Keyed.key row) :
    table.rows.filter chosen = [row] := by
  have unique := table.unique
  have here : row ∈ table.rows := member
  have each : ∀ other ∈ table.rows, chosen other = true → Keyed.key other = Keyed.key row := only
  revert unique here each
  induction table.rows with
  | nil => intro _ here; cases here
  | cons head rest ih =>
    intro unique here each
    rw [List.map_cons, List.nodup_cons] at unique
    rcases List.mem_cons.mp here with rfl | later
    · have others : rest.filter chosen = [] := by
        rw [List.filter_eq_nil_iff]
        intro other there meets
        have same := each other (List.mem_cons_of_mem _ there) meets
        exact unique.1 (same ▸ List.mem_map_of_mem there)
      rw [List.filter_cons_of_pos picked, others]
    · have different : ¬ chosen head = true := fun meets =>
        unique.1 (each head List.mem_cons_self meets ▸ List.mem_map_of_mem later)
      rw [List.filter_cons_of_neg different]
      exact ih unique.2 later fun other there => each other (List.mem_cons_of_mem _ there)

/-- A key has one row or none. -/
theorem countP_key (table : Table ρ) (key : κ) :
    table.rows.countP (fun row => decide (Keyed.key row = key)) =
      if (table.find? key).isSome then 1 else 0 := by
  rw [List.countP_eq_length_filter]
  cases found : table.find? key with
  | none =>
    rw [List.filter_eq_nil_iff.mpr fun row here same =>
      find?_eq_none.mp found row here (of_decide_eq_true same)]
    rfl
  | some row =>
    obtain ⟨member, own⟩ := find?_eq_some.mp found
    rw [filter_eq_singleton member (decide_eq_true own) fun other _ same =>
      (of_decide_eq_true same).trans own.symm]
    rfl

/-- An update of rows to ones that do not count lowers the count, if one of them did. -/
theorem countP_update_lt {table : Table ρ} {chosen counted : ρ → Bool} {rewrite : ρ → ρ}
    (keeps : ∀ row, Keyed.key (rewrite row) = Keyed.key row)
    (spent : ∀ row, chosen row = true → counted (rewrite row) = false) {row : ρ} (member : row ∈ table)
    (taken : chosen row = true) (was : counted row = true) :
    (table.update chosen rewrite keeps).rows.countP counted < table.rows.countP counted := by
  let rewritten (row : ρ) : ρ := if chosen row then rewrite row else row
  have fewer : (table.rows.filter (counted ∘ rewritten)).Sublist (table.rows.filter counted) := by
    refine List.monotone_filter_right _ fun old still => ?_
    simp only [rewritten, Function.comp_apply] at still
    split at still
    · next here =>
      rw [spent old here] at still
      cases still
    · exact still
  show (table.rows.map rewritten).countP counted < _
  rw [List.countP_map, List.countP_eq_length_filter, List.countP_eq_length_filter]
  refine lt_of_le_of_ne fewer.length_le fun same => ?_
  have there : row ∈ table.rows.filter (counted ∘ rewritten) := by
    rw [fewer.eq_of_length same]
    exact List.mem_filter.mpr ⟨member, was⟩
  have counts := (List.mem_filter.mp there).2
  simp only [rewritten, Function.comp_apply, if_pos taken, spent row taken] at counts
  cases counts

/-- Counting the rows of a filter. -/
theorem length_filter (table : Table ρ) (chosen : ρ → Bool) :
    (table.rows.filter chosen).length = table.total fun row => if chosen row then 1 else 0 := by
  unfold total
  induction table.rows with
  | nil => rfl
  | cons head rest ih =>
    cases here : chosen head <;> simp [here, ih, Nat.add_comm]

/-! ### Sums in a monoid -/

section Sums

variable {M : Type} [AddCommMonoid M]

/-- The sum of a weight over all rows. -/
def sum (table : Table ρ) (weight : ρ → M) : M := (table.rows.map weight).sum

@[simp] theorem sum_empty (weight : ρ → M) : (empty : Table ρ).sum weight = 0 := rfl

theorem sum_put_new {table : Table ρ} {row : ρ} (absent : table.find? (Keyed.key row) = none)
    (weight : ρ → M) : (table.put row).sum weight = table.sum weight + weight row := by
  unfold sum
  rw [rows_put_new absent, List.map_append, List.sum_append]
  simp

theorem sum_put_existing {table : Table ρ} {row old : ρ}
    (found : table.find? (Keyed.key row) = some old) (weight : ρ → M) :
    (table.put row).sum weight + weight old = table.sum weight + weight row := by
  have present : (table.rows.any fun other => Keyed.key other = Keyed.key row) = true :=
    List.any_eq_true.mpr ⟨old, mem_of_find? found, decide_eq_true (key_of_find? found)⟩
  show ((putRows table.rows row).map weight).sum + weight old = _
  rw [putRows, if_pos present]
  exact sum_replace weight (key_of_find? found) table.rows table.unique (mem_of_find? found)

variable [PartialOrder M] [IsOrderedAddMonoid M] {table : Table ρ}

theorem sum_nonneg {weight : ρ → M} (nonnegative : ∀ row ∈ table, 0 ≤ weight row) :
    0 ≤ table.sum weight := by
  refine List.sum_nonneg fun value member => ?_
  obtain ⟨row, here, rfl⟩ := List.mem_map.mp member
  exact nonnegative row here

theorem sum_le_sum {first second : ρ → M} (le : ∀ row ∈ table, first row ≤ second row) :
    table.sum first ≤ table.sum second :=
  List.sum_le_sum le

/-- A weight is at most the sum of weights that are not negative. -/
theorem le_sum {weight : ρ → M} (nonnegative : ∀ row ∈ table, 0 ≤ weight row) {row : ρ}
    (member : row ∈ table) : weight row ≤ table.sum weight := by
  refine List.single_le_sum (fun value here => ?_) _ (List.mem_map_of_mem member)
  obtain ⟨other, there, rfl⟩ := List.mem_map.mp here
  exact nonnegative other there

end Sums

/-! ### Rows put one after the other -/

theorem putRows_of_mem {done rest : List ρ} {old row : ρ}
    (unique : ((done ++ old :: rest).map Keyed.key).Nodup) (same : Keyed.key old = Keyed.key row) :
    putRows (done ++ old :: rest) row = done ++ row :: rest := by
  have present : ((done ++ old :: rest).any fun other => Keyed.key other = Keyed.key row) = true :=
    List.any_eq_true.mpr ⟨old, by simp, decide_eq_true same⟩
  rw [List.map_append, List.map_cons, List.nodup_append, List.nodup_cons] at unique
  obtain ⟨_, ⟨alone, _⟩, apart⟩ := unique
  have untouched : ∀ rows : List ρ, (∀ other ∈ rows, Keyed.key other ≠ Keyed.key row) →
      (rows.map fun other => if Keyed.key other = Keyed.key row then row else other) = rows := by
    intro rows different
    conv_rhs => rw [← List.map_id rows]
    exact List.map_congr_left fun other here => if_neg (different other here)
  rw [putRows, if_pos present, List.map_append, List.map_cons, if_pos same,
    untouched done fun other here equal => ?_, untouched rest fun other here equal => ?_]
  · exact alone (same.trans equal.symm ▸ List.mem_map_of_mem here)
  · exact apart _ (List.mem_map_of_mem here) _ List.mem_cons_self (equal.trans same.symm)

/-- Rows with the keys of a table, put one after the other, replace it. -/
theorem foldl_put_existing {rows : List ρ} : ∀ {table : Table ρ} (done old : List ρ),
    table.rows = done ++ old → old.map Keyed.key = rows.map Keyed.key →
      (rows.foldl put table).rows = done ++ rows := by
  induction rows with
  | nil =>
    intro table done old split_ keys
    rw [List.map_nil, List.map_eq_nil_iff] at keys
    rw [List.foldl_nil, split_, keys]
  | cons row rest ih =>
    intro table done old split_ keys
    cases old with
    | nil => cases keys
    | cons head old =>
      obtain ⟨same, keys⟩ := List.cons.inj keys
      have unique := table.unique
      rw [split_] at unique
      have replaced : (table.put row).rows = (done ++ [row]) ++ old := by
        show putRows table.rows row = _
        rw [split_, putRows_of_mem unique same, List.append_assoc]
        rfl
      rw [List.foldl_cons, ih (done ++ [row]) old replaced keys, List.append_assoc]
      rfl

/-- The rows of a table, put one after the other into an empty one, are the table. -/
theorem foldl_put_empty (table : Table ρ) : table.rows.foldl put empty = table := by
  have each : ∀ (rows : List ρ) (before : Table ρ), ((before.rows ++ rows).map Keyed.key).Nodup →
      (rows.foldl put before).rows = before.rows ++ rows := by
    intro rows
    induction rows with
    | nil => exact fun before _ => (List.append_nil before.rows).symm
    | cons row rest ih =>
      intro before unique
      have absent : before.find? (Keyed.key row) = none := by
        refine find?_eq_none.mpr fun other here same => ?_
        rw [List.map_append, List.nodup_append] at unique
        exact unique.2.2 _ (List.mem_map_of_mem here) _ List.mem_cons_self same
      have added : (before.put row).rows ++ rest = before.rows ++ row :: rest := by
        rw [rows_put_new absent, List.append_assoc]
        rfl
      rw [List.foldl_cons, ih (before.put row) (by rw [added]; exact unique), added]
  exact ext (each table.rows empty table.unique)

/-! ### Grouping -/

/-- A name that occurs once in a list picks one summand. -/
theorem sum_map_pick {label : Type} [DecidableEq label] (picked : label) (amount : ℕ) :
    ∀ names : List label, names.Nodup → picked ∈ names →
      (names.map fun name => if picked = name then amount else 0).sum = amount := by
  intro names
  induction names with
  | nil => intro _ member; cases member
  | cons head rest ih =>
    intro unique member
    rw [List.nodup_cons] at unique
    rw [List.map_cons, List.sum_cons]
    by_cases same : picked = head
    · subst same
      have nothing : (rest.map fun name => if picked = name then amount else 0).sum = 0 := by
        rw [List.map_congr_left (g := fun _ => 0) fun name here =>
          if_neg fun (equal : picked = name) => unique.1 (equal ▸ here)]
        simp
      rw [if_pos rfl, nothing, Nat.add_zero]
    · have later : picked ∈ rest := (List.mem_cons.mp member).resolve_left same
      rw [if_neg same, ih unique.2 later, Nat.zero_add]

/-- A sum over the rows of a filter is a sum of weights that are zero outside it. -/
theorem sum_map_filter {α : Type} (chosen : α → Bool) (weight : α → ℕ) (rows : List α) :
    ((rows.filter chosen).map weight).sum =
      (rows.map fun row => if chosen row then weight row else 0).sum := by
  induction rows with
  | nil => rfl
  | cons head rest ih => cases here : chosen head <;> simp [here, ih]

/-- Adding up the groups of a label gives the whole sum, when every group is named once. -/
theorem sum_map_group {α label : Type} [DecidableEq label] (group : α → label) (weight : α → ℕ)
    {names : List label} (unique : names.Nodup) :
    ∀ rows : List α, (∀ row ∈ rows, group row ∈ names) →
      (names.map fun name =>
        (rows.map fun row => if group row = name then weight row else 0).sum).sum =
        (rows.map weight).sum := by
  intro rows
  induction rows with
  | nil => intro _; simp
  | cons head rest ih =>
    intro named
    have tail := ih fun row here => named row (List.mem_cons_of_mem _ here)
    simp only [List.map_cons, List.sum_cons]
    rw [List.sum_map_add, tail, sum_map_pick _ _ names unique (named head List.mem_cons_self)]

end Table

end Foundation
