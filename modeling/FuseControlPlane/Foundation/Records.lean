/-
Plain objects and maps under text keys.

* `Record α`: a `Record<string, α>` or a `Map<string, α>`. In which order a plain object enumerates its
  properties is left out.
* `Record.property`: what `object[name]` is: a value of its own, something inherited, or `undefined`.
-/

import FuseControlPlane.Foundation.JavaScript
import FuseControlPlane.Foundation.Table

namespace Foundation

/-- A value under a name. -/
structure Entry (α : Type) where
  name : String
  value : α
  deriving DecidableEq

instance {α : Type} : Keyed (Entry α) String := ⟨Entry.name⟩

/-- Values under distinct names. -/
abbrev Record (α : Type) := Table (Entry α)

/-- `object[name]`. -/
inductive Property (α : Type)
  | own (value : α)
  | inherited
  | undefined

namespace Record

variable {α β : Type}

/-- `map.get(name)`. -/
def get (record : Record α) (name : String) : Option α := (record.find? name).map Entry.value

/-- `object[name] = value`, `map.set(name, value)`. -/
def set (record : Record α) (name : String) (value : α) : Record α := record.put ⟨name, value⟩

/-- `object[name]`. A plain object inherits members of `Object.prototype`. -/
def property (record : Record α) (name : String) : Property α :=
  match record.get name with
  | some value => .own value
  | none => if (JavaScript.objectPrototype name).isSome then .inherited else .undefined

/-- `Object.fromEntries(Object.entries(record).map(([name, value]) => [name, rewrite(value)]))`. -/
def mapValues (rewrite : α → β) (record : Record α) : Record β :=
  ⟨record.rows.map fun entry => ⟨entry.name, rewrite entry.value⟩, by
    rw [List.map_map]
    exact record.unique⟩

theorem get_eq_some {record : Record α} {name : String} {value : α} :
    record.get name = some value ↔ record.find? name = some ⟨name, value⟩ := by
  unfold get
  rw [Option.map_eq_some_iff]
  constructor
  · rintro ⟨entry, found, rfl⟩
    have own : entry.name = name := Table.key_of_find? found
    rw [found, ← own]
  · exact fun found => ⟨_, found, rfl⟩

theorem property_eq_own {record : Record α} {name : String} {value : α} :
    record.property name = .own value ↔ record.get name = some value := by
  unfold property
  constructor
  · intro own
    split at own
    · next found =>
      cases own
      exact found
    · split at own <;> cases own
  · intro found
    rw [found]

theorem get_set (record : Record α) (name other : String) (value : α) :
    (record.set name value).get other = if other = name then some value else record.get other := by
  unfold get set
  rw [Table.find?_put]
  show (if other = name then _ else _ : Option (Entry α)).map Entry.value = _
  split <;> rfl

/-- Setting a value that is there changes nothing. -/
theorem set_of_get {record : Record α} {name : String} {value : α} (found : record.get name = some value) :
    record.set name value = record :=
  Table.put_of_find? (get_eq_some.mp found)

theorem set_set (record : Record α) (name : String) (first second : α) :
    (record.set name first).set name second = record.set name second :=
  Table.put_put record rfl

theorem mem_mapValues {rewrite : α → β} {record : Record α} {entry : Entry β} :
    entry ∈ record.mapValues rewrite ↔
      ∃ old ∈ record, (⟨old.name, rewrite old.value⟩ : Entry β) = entry := List.mem_map

/-- A value that is set again exchanges its weight. -/
theorem sum_set_existing {M : Type} [AddCommMonoid M] {record : Record α} {name : String} {old : α}
    (found : record.get name = some old) (value : α) (weight : Entry α → M) :
    (record.set name value).sum weight + weight ⟨name, old⟩ = record.sum weight + weight ⟨name, value⟩ :=
  Table.sum_put_existing (get_eq_some.mp found) weight

/-- The sum of a weight over rewritten values. -/
theorem sum_mapValues {M : Type} [AddCommMonoid M] (rewrite : α → β) (record : Record α)
    (weight : Entry β → M) : (record.mapValues rewrite).sum weight =
      record.sum fun entry => weight ⟨entry.name, rewrite entry.value⟩ := by
  unfold Table.sum mapValues
  rw [List.map_map]
  rfl

/-- What is rewritten to itself in two steps. -/
theorem mapValues_mapValues {γ : Type} (first : α → β) (second : β → γ) (record : Record α) :
    (record.mapValues first).mapValues second = record.mapValues (second ∘ first) :=
  Table.ext (List.map_map ..)

theorem mapValues_id (record : Record α) : record.mapValues id = record :=
  Table.ext (List.map_id record.rows)

theorem names_mapValues (rewrite : α → β) (record : Record α) :
    (record.mapValues rewrite).rows.map Entry.name = record.rows.map Entry.name := by
  unfold mapValues
  rw [List.map_map]
  rfl

/-- A value that is set again leaves the names. -/
theorem names_set_existing {record : Record α} {name : String} {old : α} (found : record.get name = some old)
    (value : α) : (record.set name value).rows.map Entry.name = record.rows.map Entry.name := by
  have present : (record.rows.any fun entry => Keyed.key entry = Keyed.key (⟨name, value⟩ : Entry α)) = true :=
    List.any_eq_true.mpr ⟨_, Table.mem_of_find? (get_eq_some.mp found), decide_eq_true rfl⟩
  show (Table.putRows record.rows ⟨name, value⟩).map Entry.name = _
  unfold Table.putRows
  rw [if_pos present, List.map_map]
  refine List.map_congr_left fun entry _ => ?_
  rw [Function.comp_apply]
  split
  · next same => exact same.symm
  · rfl

/-- A record whose values are all set again is the record they are taken from. -/
theorem foldl_set_mapValues (rewrite : α → α) (record : Record α) :
    record.rows.foldl Table.put (record.mapValues rewrite) = record := by
  refine Table.ext ?_
  rw [Table.foldl_put_existing [] (record.mapValues rewrite).rows rfl]
  · rfl
  · show (record.rows.map _).map Keyed.key = _
    rw [List.map_map]
    rfl

end Record

end Foundation
