/-
JSON values whose objects have their members in some order.

* `induct`: induction on a value, by its elements and its members.
* `isDistinct`: no object in the value has two members of one name.
* `sameValue`: the same value, whatever the order of the members of its objects.
* `tiesAgree`: members whose names are tied stand in the same order, wherever both values have an object.
* `sortKeys_eq_iff`: **with sorted members two values are equal exactly if they are the same value and their
  ties agree**; in a linear order of names there are no ties (`sortKeys_linear_eq_iff`).
-/

import FuseControlPlane.Foundation.Json
import FuseControlPlane.Foundation.StableSort

set_option linter.unusedSectionVars false

namespace Foundation

open Foundation.JavaScript

/-! ### The order of tied elements -/

section Ties

variable {α : Type} [DecidableEq α] {before : α → α → Bool}

/-- Elements of the first list that are tied stand in the same order in the second one. -/
def sameTies (before : α → α → Bool) (first second : List α) : Bool :=
  first.all fun pivot => first.filter (tied before pivot) = second.filter (tied before pivot)

/-- Elements tied with one of two that are tied are tied with the other. -/
theorem IsPreorder.tied_congr (preorder : IsPreorder before) {pivot element : α}
    (both : tied before pivot element = true) (other : α) : tied before pivot other = tied before element other := by
  obtain ⟨above, below⟩ := tied_eq_true.mp both
  rw [Bool.eq_iff_iff, tied_eq_true, tied_eq_true]
  exact ⟨fun ⟨one, another⟩ => ⟨preorder.trans below one, preorder.trans another above⟩,
    fun ⟨one, another⟩ => ⟨preorder.trans above one, preorder.trans another below⟩⟩

/-- Of lists with the same elements, the ties are those of any pivot. -/
theorem sameTies_iff (preorder : IsPreorder before) {first second : List α}
    (same : ∀ element, element ∈ first ↔ element ∈ second) : sameTies before first second = true ↔
      ∀ pivot, first.filter (tied before pivot) = second.filter (tied before pivot) := by
  unfold sameTies
  rw [List.all_eq_true]
  constructor
  · intro listed pivot
    by_cases inside : ∃ element ∈ first, tied before pivot element = true
    · obtain ⟨element, member, both⟩ := inside
      have congr : tied before pivot = tied before element := funext (preorder.tied_congr both)
      rw [congr]
      exact of_decide_eq_true (listed element member)
    · have nothing : ∀ element ∈ first, ¬ tied before pivot element = true :=
        fun element member both => inside ⟨element, member, both⟩
      rw [List.filter_eq_nil_iff.mpr nothing, List.filter_eq_nil_iff.mpr fun element member =>
        nothing element ((same element).mpr member)]
  · intro each pivot _
    exact decide_eq_true (each pivot)

/-- Without ties, lists with the same elements have the same ties. -/
theorem sameTies_of_antisymm (preorder : IsPreorder before)
    (antisymm : ∀ {one other : α}, tied before one other = true → one = other) {first second : List α}
    (distinct : first.Nodup) (alsoDistinct : second.Nodup)
    (same : ∀ element, element ∈ first ↔ element ∈ second) : sameTies before first second = true := by
  refine List.all_eq_true.mpr fun pivot member => decide_eq_true ?_
  have alone : tied before pivot = fun other => decide (other = pivot) := by
    funext other
    rw [Bool.eq_iff_iff, decide_eq_true_eq]
    refine ⟨fun both => (antisymm both).symm, ?_⟩
    rintro rfl
    exact preorder.tied_self other
  have single {elements : List α} (distinct : elements.Nodup) (member : pivot ∈ elements) :
      elements.filter (tied before pivot) = [pivot] := by
    rw [alone, List.filter_eq, List.count_eq_one_of_mem distinct member]
    rfl
  rw [single distinct member, single alsoDistinct ((same pivot).mp member)]

end Ties

namespace Json

/-! ### Induction -/

mutual

theorem induct_value {motive : Json → Prop} (null : motive null) (bool : ∀ value, motive (bool value))
    (number : ∀ literal, motive (number literal)) (string : ∀ text, motive (string text))
    (array : ∀ elements, (∀ element ∈ elements, motive element) → motive (array elements))
    (object : ∀ members, (∀ member ∈ members, motive member.2) → motive (object members)) :
    ∀ value, motive value
  | .null => null
  | .bool value => bool value
  | .number literal => number literal
  | .string text => string text
  | .array elements => array elements (induct_elements null bool number string array object elements)
  | .object members => object members (induct_members null bool number string array object members)
termination_by structural value => value

theorem induct_elements {motive : Json → Prop} (null : motive null) (bool : ∀ value, motive (bool value))
    (number : ∀ literal, motive (number literal)) (string : ∀ text, motive (string text))
    (array : ∀ elements, (∀ element ∈ elements, motive element) → motive (array elements))
    (object : ∀ members, (∀ member ∈ members, motive member.2) → motive (object members)) :
    ∀ elements : List Json, ∀ element ∈ elements, motive element
  | [] => fun _ member => absurd member List.not_mem_nil
  | value :: rest => List.forall_mem_cons.mpr ⟨induct_value null bool number string array object value,
      induct_elements null bool number string array object rest⟩
termination_by structural elements => elements

theorem induct_members {motive : Json → Prop} (null : motive null) (bool : ∀ value, motive (bool value))
    (number : ∀ literal, motive (number literal)) (string : ∀ text, motive (string text))
    (array : ∀ elements, (∀ element ∈ elements, motive element) → motive (array elements))
    (object : ∀ members, (∀ member ∈ members, motive member.2) → motive (object members)) :
    ∀ members : List (String × Json), ∀ member ∈ members, motive member.2
  | [] => fun _ member => absurd member List.not_mem_nil
  | (_, value) :: rest => List.forall_mem_cons.mpr ⟨induct_value null bool number string array object value,
      induct_members null bool number string array object rest⟩
termination_by structural members => members

end

/-- Induction on a value, by its elements and its members. -/
@[elab_as_elim]
theorem induct {motive : Json → Prop} (value : Json) (null : motive null)
    (bool : ∀ value, motive (bool value)) (number : ∀ literal, motive (number literal))
    (string : ∀ text, motive (string text))
    (array : ∀ elements, (∀ element ∈ elements, motive element) → motive (array elements))
    (object : ∀ members, (∀ member ∈ members, motive member.2) → motive (object members)) : motive value :=
  induct_value null bool number string array object value

/-! ### Values -/

mutual

/-- No object has two members of one name. -/
def isDistinct : Json → Bool
  | array elements => areDistinct elements
  | object members => decide (members.map (·.1)).Nodup && membersDistinct members
  | _ => true
termination_by structural value => value

def areDistinct : List Json → Bool
  | [] => true
  | value :: rest => isDistinct value && areDistinct rest
termination_by structural values => values

def membersDistinct : List (String × Json) → Bool
  | [] => true
  | (_, value) :: rest => isDistinct value && membersDistinct rest
termination_by structural members => members

end

mutual

/-- The same value, whatever the order of the members of its objects. -/
def sameValue : Json → Json → Bool
  | null, null => true
  | bool value, bool other => value = other
  | number literal, number other => literal = other
  | string text, string other => text = other
  | array elements, array others => sameElements elements others
  | object members, object others => members.length = others.length && sameMembers members others
  | _, _ => false
termination_by structural value => value

def sameElements : List Json → List Json → Bool
  | [], [] => true
  | value :: rest, other :: others => sameValue value other && sameElements rest others
  | _, _ => false
termination_by structural values => values

/-- Every member is the same value as the one of its name in the other object. -/
def sameMembers : List (String × Json) → List (String × Json) → Bool
  | [], _ => true
  | (name, value) :: rest, others =>
    (field name (object others)).any (sameValue value) && sameMembers rest others
termination_by structural members => members

end

section Order

variable (before : String → String → Bool)

mutual

/-- Members whose names are tied stand in the same order, wherever both values have an object. -/
def tiesAgree : Json → Json → Bool
  | array elements, array others => elementsAgree elements others
  | object members, object others =>
    sameTies before (members.map (·.1)) (others.map (·.1)) && membersAgree members others
  | _, _ => true
termination_by structural value => value

def elementsAgree : List Json → List Json → Bool
  | value :: rest, other :: others => tiesAgree value other && elementsAgree rest others
  | _, _ => true
termination_by structural values => values

def membersAgree : List (String × Json) → List (String × Json) → Bool
  | [], _ => true
  | (name, value) :: rest, others =>
    (field name (object others)).all (tiesAgree value) && membersAgree rest others
termination_by structural members => members

end

end Order

/-! ### Members by their names -/

variable {name : String} {value : Json} {members others : List (String × Json)}

theorem areDistinct_iff {elements : List Json} :
    areDistinct elements = true ↔ ∀ element ∈ elements, isDistinct element = true := by
  induction elements with
  | nil => simp [areDistinct]
  | cons element rest ih => rw [areDistinct, Bool.and_eq_true, ih, List.forall_mem_cons]

theorem membersDistinct_iff :
    membersDistinct members = true ↔ ∀ member ∈ members, isDistinct member.2 = true := by
  induction members with
  | nil => simp [membersDistinct]
  | cons member rest ih => rw [membersDistinct, Bool.and_eq_true, ih, List.forall_mem_cons]

theorem isDistinct_object : isDistinct (object members) = true ↔
    (members.map (·.1)).Nodup ∧ ∀ member ∈ members, isDistinct member.2 = true := by
  rw [isDistinct, Bool.and_eq_true, decide_eq_true_eq, membersDistinct_iff]

/-- A member that is found is there. -/
theorem mem_of_field (found : field name (object members) = some value) : (name, value) ∈ members := by
  unfold field at found
  obtain ⟨member, here, rfl⟩ := Option.map_eq_some_iff.mp found
  have named : member.1 = name := by simpa using List.find?_some here
  rw [← named]
  exact List.mem_reverse.mp (List.mem_of_find?_eq_some here)

theorem field_iff (distinct : (members.map (·.1)).Nodup) :
    field name (object members) = some value ↔ (name, value) ∈ members :=
  ⟨mem_of_field, field_of_mem distinct⟩

theorem length_of_sameElements {elements others : List Json} (same : sameElements elements others = true) :
    elements.length = others.length := by
  induction elements generalizing others with
  | nil =>
    cases others with
    | nil => rfl
    | cons other others => cases same
  | cons element rest ih =>
    cases others with
    | nil => cases same
    | cons other others =>
      rw [sameElements, Bool.and_eq_true] at same
      rw [List.length_cons, List.length_cons, ih same.2]

theorem sameMembers_iff (distinct : (others.map (·.1)).Nodup) : sameMembers members others = true ↔
    ∀ member ∈ members, ∃ other, (member.1, other) ∈ others ∧ sameValue member.2 other = true := by
  induction members with
  | nil => simp [sameMembers]
  | cons member rest ih =>
    rw [sameMembers, Bool.and_eq_true, ih, List.forall_mem_cons, Option.any_eq_true]
    simp only [field_iff distinct]

theorem membersAgree_iff {before : String → String → Bool} (distinct : (others.map (·.1)).Nodup) :
    membersAgree before members others = true ↔ ∀ member ∈ members, ∀ other,
      (member.1, other) ∈ others → tiesAgree before member.2 other = true := by
  induction members with
  | nil => simp [membersAgree]
  | cons member rest ih =>
    rw [membersAgree, Bool.and_eq_true, ih, List.forall_mem_cons, Option.all_eq_true]
    simp only [field_iff distinct]

/-- Objects of one length have the same names, if all names of the first are in the second. -/
theorem mem_names_iff (distinct : (members.map (·.1)).Nodup) (length : members.length = others.length)
    (named : ∀ member ∈ members, member.1 ∈ others.map (·.1)) (name : String) :
    name ∈ members.map (·.1) ↔ name ∈ others.map (·.1) := by
  have subset : (members.map (·.1)).Subperm (others.map (·.1)) := by
    refine List.subperm_of_subset distinct fun name listed => ?_
    obtain ⟨member, there, rfl⟩ := List.mem_map.mp listed
    exact named member there
  have perm := subset.perm_of_length_le (by rw [List.length_map, List.length_map, length])
  exact perm.mem_iff

/-- **Objects are the same value if they have the same names, and the same values under them.** -/
theorem sameValue_object_iff (distinct : (members.map (·.1)).Nodup) (alsoDistinct : (others.map (·.1)).Nodup) :
    sameValue (object members) (object others) = true ↔
      (∀ name, name ∈ members.map (·.1) ↔ name ∈ others.map (·.1)) ∧
        ∀ member ∈ members, ∀ other, (member.1, other) ∈ others → sameValue member.2 other = true := by
  rw [sameValue, Bool.and_eq_true, decide_eq_true_eq, sameMembers_iff alsoDistinct]
  constructor
  · rintro ⟨length, found⟩
    refine ⟨mem_names_iff distinct length fun member here => ?_, fun member here other there => ?_⟩
    · obtain ⟨other, there, _⟩ := found member here
      exact List.mem_map.mpr ⟨_, there, rfl⟩
    · obtain ⟨equal, isThere, same⟩ := found member here
      have one : (member.1, equal) = (member.1, other) := List.inj_on_of_nodup_map alsoDistinct isThere there rfl
      cases one
      exact same
  · rintro ⟨listed, same⟩
    have length := ((List.perm_ext_iff_of_nodup distinct alsoDistinct).mpr listed).length_eq
    rw [List.length_map, List.length_map] at length
    refine ⟨length, fun member here => ?_⟩
    obtain ⟨⟨name, other⟩, there, rfl⟩ := List.mem_map.mp ((listed member.1).mp (List.mem_map_of_mem here))
    exact ⟨other, there, same member here other there⟩

/-- Lists of pairs with the same first components, equal wherever these are. -/
theorem eq_of_names {first second : List (String × Json)} (names : first.map (·.1) = second.map (·.1))
    (values : ∀ member ∈ first, ∀ other ∈ second, member.1 = other.1 → member.2 = other.2) : first = second := by
  induction first generalizing second with
  | nil => exact (List.map_eq_nil_iff.mp names.symm).symm
  | cons member rest ih =>
    cases second with
    | nil => cases names
    | cons other others =>
      obtain ⟨here, there⟩ := List.cons.inj names
      have same := values member List.mem_cons_self other List.mem_cons_self here
      rw [Prod.ext here same, ih there fun one listed another inside =>
        values one (List.mem_cons_of_mem _ listed) another (List.mem_cons_of_mem _ inside)]

/-! ### Sorted members -/

variable {before : String → String → Bool}

/-- Members sort to the same list exactly if their names have the same ties, and the same values. -/
theorem sorted_eq_iff (preorder : IsPreorder before) (distinct : (others.map (·.1)).Nodup) :
    members.insertionSort (fun first second => before first.1 second.1) =
        others.insertionSort (fun first second => before first.1 second.1) ↔
      (∀ pivot, (members.map (·.1)).filter (tied before pivot) =
          (others.map (·.1)).filter (tied before pivot)) ∧
        ∀ member ∈ members, ∀ other ∈ others, member.1 = other.1 → member.2 = other.2 := by
  have byName := preorder.comap (Prod.fst (α := String) (β := Json))
  rw [insertionSort_eq_iff byName]
  constructor
  · intro same
    refine ⟨fun pivot => ?_, fun member here other there named => ?_⟩
    · have filtered := congrArg (List.map Prod.fst) (same (pivot, .null))
      rw [List.filter_map, List.filter_map]
      exact filtered
    · have kept : member ∈ members.filter
          (tied (fun first second : String × Json => before first.1 second.1) member) :=
        List.mem_filter.mpr ⟨here, byName.tied_self member⟩
      rw [same] at kept
      rw [List.inj_on_of_nodup_map distinct (List.mem_filter.mp kept).1 there named]
  · rintro ⟨names, values⟩ pivot
    refine eq_of_names ?_ fun member here other there => values member (List.mem_filter.mp here).1 other
      (List.mem_filter.mp there).1
    have filtered := names pivot.1
    rw [List.filter_map, List.filter_map] at filtered
    exact filtered

theorem mem_sortMembers_iff {sorted : Json} : (name, sorted) ∈ sortMembers before members ↔
    ∃ value, (name, value) ∈ members ∧ sortKeys before value = sorted := by
  induction members with
  | nil => simp [sortMembers]
  | cons member rest ih =>
    obtain ⟨label, own⟩ := member
    rw [sortMembers, List.mem_cons, ih]
    constructor
    · rintro (same | ⟨value, there, rfl⟩)
      · cases same
        exact ⟨own, List.mem_cons_self, rfl⟩
      · exact ⟨value, List.mem_cons_of_mem _ there, rfl⟩
    · rintro ⟨value, there, rfl⟩
      rcases List.mem_cons.mp there with same | later
      · cases same
        exact .inl rfl
      · exact .inr ⟨value, later, rfl⟩

theorem sortElements_eq_iff {elements others : List Json}
    (each : ∀ element ∈ elements, ∀ other, isDistinct other = true →
      (sortKeys before element = sortKeys before other ↔
        sameValue element other = true ∧ tiesAgree before element other = true))
    (distinct : areDistinct others = true) : sortElements before elements = sortElements before others ↔
      sameElements elements others = true ∧ elementsAgree before elements others = true := by
  induction elements generalizing others with
  | nil => cases others <;> simp [sortElements, sameElements, elementsAgree]
  | cons element rest ih =>
    cases others with
    | nil => simp [sortElements, sameElements]
    | cons other others =>
      obtain ⟨here, later⟩ := List.forall_mem_cons.mp each
      rw [areDistinct, Bool.and_eq_true] at distinct
      rw [sortElements, sortElements, List.cons.injEq, here other distinct.1, ih later distinct.2,
        sameElements, elementsAgree, Bool.and_eq_true, Bool.and_eq_true]
      exact ⟨fun ⟨⟨one, two⟩, three, four⟩ => ⟨⟨one, three⟩, two, four⟩,
        fun ⟨⟨one, two⟩, three, four⟩ => ⟨⟨one, three⟩, two, four⟩⟩

theorem sortObject_eq_iff (preorder : IsPreorder before)
    (each : ∀ member ∈ members, ∀ other, isDistinct other = true →
      (sortKeys before member.2 = sortKeys before other ↔
        sameValue member.2 other = true ∧ tiesAgree before member.2 other = true))
    (distinct : (members.map (·.1)).Nodup) (alsoDistinct : isDistinct (object others) = true) :
    sortKeys before (object members) = sortKeys before (object others) ↔
      sameValue (object members) (object others) = true ∧
        tiesAgree before (object members) (object others) = true := by
  obtain ⟨otherNames, otherValues⟩ := isDistinct_object.mp alsoDistinct
  have sortedNames : ((sortMembers before others).map (·.1)).Nodup := by
    rw [names_sortMembers]
    exact otherNames
  rw [sortKeys, sortKeys, object.injEq, sorted_eq_iff preorder sortedNames, names_sortMembers,
    names_sortMembers, sameValue_object_iff distinct otherNames, tiesAgree, Bool.and_eq_true,
    membersAgree_iff otherNames]
  constructor
  · rintro ⟨ties, values⟩
    have listed (name : String) : name ∈ members.map (·.1) ↔ name ∈ others.map (·.1) := by
      have inside (names : List String) : name ∈ names ↔ name ∈ names.filter (tied before name) := by
        rw [List.mem_filter, preorder.tied_self, and_iff_left rfl]
      rw [inside, ties, ← inside]
    have both : ∀ member ∈ members, ∀ other, (member.1, other) ∈ others →
        sameValue member.2 other = true ∧ tiesAgree before member.2 other = true :=
      fun member here other there => (each member here other (otherValues _ there)).mp
        (values _ (mem_sortMembers before here) _ (mem_sortMembers before there) rfl)
    exact ⟨⟨listed, fun member here other there => (both member here other there).1⟩,
      (sameTies_iff preorder listed).mpr ties, fun member here other there => (both member here other there).2⟩
  · rintro ⟨⟨listed, same⟩, ties, agree⟩
    refine ⟨(sameTies_iff preorder listed).mp ties, ?_⟩
    rintro ⟨label, sorted⟩ here ⟨_, otherSorted⟩ there rfl
    obtain ⟨value, member, rfl⟩ := mem_sortMembers_iff.mp here
    obtain ⟨other, listedThere, rfl⟩ := mem_sortMembers_iff.mp there
    exact (each _ member other (otherValues _ listedThere)).mpr
      ⟨same _ member other listedThere, agree _ member other listedThere⟩

/-- **Values with sorted members are equal exactly if they are the same value and their ties agree.** -/
theorem sortKeys_eq_iff (preorder : IsPreorder before) {first second : Json}
    (distinct : isDistinct first = true) (alsoDistinct : isDistinct second = true) :
    sortKeys before first = sortKeys before second ↔
      sameValue first second = true ∧ tiesAgree before first second = true := by
  induction first using induct generalizing second with
  | null | bool | number | string => cases second <;> simp [sortKeys, sameValue, tiesAgree]
  | array elements ih =>
    cases second with
    | array others =>
      rw [sortKeys, sortKeys, array.injEq, sameValue, tiesAgree]
      exact sortElements_eq_iff (fun element here other fine =>
        ih element here (areDistinct_iff.mp distinct element here) fine) alsoDistinct
    | _ => simp [sortKeys, sameValue]
  | object members ih =>
    obtain ⟨names, values⟩ := isDistinct_object.mp distinct
    cases second with
    | object others =>
      exact sortObject_eq_iff preorder (fun member here other fine =>
        ih member here (values member here) fine) names alsoDistinct
    | _ => simp [sortKeys, sameValue]

/-! ### Linear orders of names -/

theorem elementsAgree_of {elements others : List Json}
    (each : ∀ element ∈ elements, ∀ other ∈ others, sameValue element other = true →
      tiesAgree before element other = true) (same : sameElements elements others = true) :
    elementsAgree before elements others = true := by
  induction elements generalizing others with
  | nil => rfl
  | cons element rest ih =>
    cases others with
    | nil => rfl
    | cons other others =>
      rw [sameElements, Bool.and_eq_true] at same
      rw [elementsAgree, Bool.and_eq_true]
      exact ⟨each element List.mem_cons_self other List.mem_cons_self same.1,
        ih (fun one here another there => each one (List.mem_cons_of_mem _ here) another
          (List.mem_cons_of_mem _ there)) same.2⟩

/-- Where no two names are tied, all ties agree. -/
theorem tiesAgree_of_antisymm (preorder : IsPreorder before)
    (antisymm : ∀ {one other : String}, tied before one other = true → one = other) {first second : Json}
    (distinct : isDistinct first = true) (alsoDistinct : isDistinct second = true)
    (same : sameValue first second = true) : tiesAgree before first second = true := by
  induction first using induct generalizing second with
  | null | bool | number | string => cases second <;> rfl
  | array elements ih =>
    cases second with
    | array others =>
      rw [sameValue] at same
      exact elementsAgree_of (fun element here other there equal => ih element here
        (areDistinct_iff.mp distinct element here) (areDistinct_iff.mp alsoDistinct other there) equal) same
    | _ => rfl
  | object members ih =>
    cases second with
    | object others =>
      obtain ⟨names, values⟩ := isDistinct_object.mp distinct
      obtain ⟨otherNames, otherValues⟩ := isDistinct_object.mp alsoDistinct
      obtain ⟨listed, same⟩ := (sameValue_object_iff names otherNames).mp same
      rw [tiesAgree, Bool.and_eq_true, membersAgree_iff otherNames]
      exact ⟨sameTies_of_antisymm preorder antisymm names otherNames listed, fun member here other there =>
        ih member here (values member here) (otherValues _ there) (same member here other there)⟩
    | _ => rfl

/-- **In a linear order of names, values with sorted members are equal exactly if they are the same value.** -/
theorem sortKeys_linear_eq_iff (preorder : IsPreorder before)
    (antisymm : ∀ {one other : String}, tied before one other = true → one = other) {first second : Json}
    (distinct : isDistinct first = true) (alsoDistinct : isDistinct second = true) :
    sortKeys before first = sortKeys before second ↔ sameValue first second = true := by
  rw [sortKeys_eq_iff preorder distinct alsoDistinct]
  exact and_iff_left_of_imp (tiesAgree_of_antisymm preorder antisymm distinct alsoDistinct)

end Json

/-! ### The order of code units -/

/-- The code units of a character. -/
def unitsOf (character : Char) : List ℕ :=
  let code := character.toNat
  if code < 0x10000 then [code] else [0xD800 + (code - 0x10000) / 0x400, 0xDC00 + (code - 0x10000) % 0x400]

theorem codeUnits_eq (text : String) : codeUnits text = text.toList.flatMap unitsOf := rfl

theorem unitsOf_ne_nil (character : Char) : unitsOf character ≠ [] := by
  unfold unitsOf
  dsimp only
  split <;> exact List.cons_ne_nil _ _

theorem codeUnits_cons_inj {first second : Char} {rest others : List ℕ}
    (same : unitsOf first ++ rest = unitsOf second ++ others) : first = second ∧ rest = others := by
  have valid := first.valid
  have alsoValid := second.valid
  simp only [UInt32.isValidChar, Nat.isValidChar] at valid alsoValid
  have code : first.toNat = second.toNat → first = second := fun equal => Char.toNat_inj.mp equal
  unfold unitsOf at same
  simp only [Char.toNat] at same code
  split at same <;> split at same
  · obtain ⟨head, tail⟩ := List.cons.inj same
    exact ⟨code head, tail⟩
  · obtain ⟨head, _⟩ := List.cons.inj same
    omega
  · obtain ⟨head, _⟩ := List.cons.inj same
    omega
  · obtain ⟨high, later⟩ := List.cons.inj same
    obtain ⟨low, tail⟩ := List.cons.inj later
    exact ⟨code (by omega), tail⟩

/-- A text is told by its code units. -/
theorem codeUnits_injective : Function.Injective codeUnits := by
  intro first second same
  rw [codeUnits_eq, codeUnits_eq] at same
  refine String.toList_inj.mp ?_
  generalize first.toList = characters at same
  generalize second.toList = others at same
  induction characters generalizing others with
  | nil =>
    cases others with
    | nil => rfl
    | cons other others => exact absurd (List.append_eq_nil_iff.mp same.symm).1 (unitsOf_ne_nil other)
  | cons character rest ih =>
    cases others with
    | nil => exact absurd (List.append_eq_nil_iff.mp same).1 (unitsOf_ne_nil character)
    | cons other others =>
      obtain ⟨rfl, tails⟩ := codeUnits_cons_inj same
      rw [ih others tails]

/-- Texts by their code units. -/
def beforeByUnits (first second : String) : Bool := codeUnits first ≤ codeUnits second

theorem beforeByUnits_preorder : IsPreorder beforeByUnits where
  total first second := by
    simp only [beforeByUnits, decide_eq_true_eq]
    exact le_total _ _
  trans := by
    intro first second third one other
    simp only [beforeByUnits, decide_eq_true_eq] at one other ⊢
    exact one.trans other

theorem beforeByUnits_antisymm {first second : String} (both : tied beforeByUnits first second = true) :
    first = second := by
  simp only [tied_eq_true, beforeByUnits, decide_eq_true_eq] at both
  exact codeUnits_injective (le_antisymm both.1 both.2)

end Foundation
