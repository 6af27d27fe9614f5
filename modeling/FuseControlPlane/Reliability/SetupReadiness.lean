/-
The readiness of a setup (`reliability/operationalV2.ts`, `reliability/protocolStore.ts`).

`setupSnapshotDifferences` walks the expected snapshot and looks up every member of it in the actual one.

* `included`: the actual value has what the expected one has: the elements of its arrays and, in its objects,
  at least the members. A member `__proto__` that is not there is found on `Object.prototype`.
* `setupSnapshotDifferences_eq_nil`: **there is no difference exactly if the expected value is included**.
* `sameValue_iff`: it is the same value if also the objects in the same place have the same names.
* `reported_differs`: every reported path is one at which the two values differ.
-/

import FuseControlPlane.Foundation.JsonValues
import FuseControlPlane.Reliability.ReliabilityRun
import FuseControlPlane.Reliability.SchedulerClaims

set_option linter.unusedSectionVars false

namespace FuseControlPlane.Reliability

open Foundation Foundation.JavaScript Foundation.Json Domain

/-! ### Paths -/

inductive PathStep
  | member (name : String)
  | element (index : ℕ)

/-- A path with one more step. -/
def PathStep.append (path : String) : PathStep → String
  | .member name => if path = "" then name else path ++ "." ++ name
  | .element index => path ++ "[" ++ toString index ++ "]"

def pathText (steps : List PathStep) : String := steps.foldl PathStep.append ""

/-- The path of the length of an array. -/
def lengthPath (path : String) : String := if path = "" then "length" else path ++ ".length"

theorem pathText_append (steps : List PathStep) (step : PathStep) :
    pathText (steps ++ [step]) = step.append (pathText steps) := by
  unfold pathText
  rw [List.foldl_append]
  rfl

/-- What a value has after some steps, among its own members and elements. -/
def valueAt : Json → List PathStep → Option Json
  | value, [] => some value
  | .object members, .member name :: rest => (field name (.object members)).bind (valueAt · rest)
  | .array elements, .element index :: rest => elements[index]?.bind (valueAt · rest)
  | _, _ => none

/-! ### The comparison -/

/-- What a lookup on the actual side can give. -/
inductive Operand
  | value (value : Json)
  | undefined
  /-- `Object.prototype`. -/
  | prototype
  /-- A function of `Object.prototype`. -/
  | function

namespace Operand

/-- `right[key]`, where `right` is an object. -/
def property (name : String) : Operand → Operand
  | .value (.object members) =>
    match field name (.object members) with
    | some own => .value own
    | none =>
      if name = "__proto__" then prototype
      else if (objectPrototype name).isSome then function
      else undefined
  | .prototype =>
    -- the prototype of `Object.prototype` is `null`
    if name = "__proto__" then .value .null
    else if (objectPrototype name).isSome then function
    else undefined
  | _ => .undefined

/-- `right[index]`, where `right` is an array. -/
def element : List Json → Operand
  | [] => .undefined
  | other :: _ => .value other

/-- `right !== null && typeof right === "object" && !Array.isArray(right)`. -/
def isObject : Operand → Bool
  | .value (.object _) => true
  | .prototype => true
  | _ => false

/-- The value, if it is the actual setup's own. -/
def own : Operand → Option Json
  | .value own => some own
  | _ => none

end Operand

/-- `Object.is(left, right)`, where `left` is neither an array nor an object. Every number has its own text. -/
def objectIs : Json → Operand → Bool
  | .null, .value .null => true
  | .bool value, .value (.bool other) => value = other
  | .number literal, .value (.number other) => literal = other
  | .string text, .value (.string other) => text = other
  | _, _ => false

mutual

def walk : Json → Operand → String → List String
  | .array elements, .value (.array others), path =>
    (if elements.length = others.length then [] else [lengthPath path]) ++ walkElements elements others 0 path
  | .array _, _, path => [path]
  | .object members, right, path =>
    if right.isObject then
      -- the members in the order of the code units of their names
      ((walkMembers members right path).insertionSort fun first second =>
        beforeByUnits first.1 second.1).flatMap (·.2)
    else [path]
  | left, right, path => if objectIs left right then [] else [path]
termination_by structural left => left

def walkElements : List Json → List Json → ℕ → String → List String
  | [], _, _, _ => []
  | left :: rest, others, index, path =>
    walk left (Operand.element others) ((PathStep.element index).append path) ++
      walkElements rest others.tail (index + 1) path
termination_by structural elements => elements

/-- The differences under each name. -/
def walkMembers : List (String × Json) → Operand → String → List (String × List String)
  | [], _, _ => []
  | (name, left) :: rest, right, path =>
    (name, walk left (right.property name) ((PathStep.member name).append path)) :: walkMembers rest right path
termination_by structural members => members

end

def setupSnapshotDifferences (expected actual : Json) : List String := walk expected (.value actual) ""

/-! ### What is compared -/

/-- What `Object.prototype` has: no members of its own but its prototype, `null`. -/
def isPrototype : Json → Bool
  | .object members => members.all fun member => member.1 = "__proto__" && objectIs .null (.value member.2)
  | _ => false

mutual

/-- The actual value has what the expected one has. -/
def included : Json → Json → Bool
  | .null, .null => true
  | .bool value, .bool other => value = other
  | .number literal, .number other => literal = other
  | .string text, .string other => text = other
  | .array elements, .array others => elementsIncluded elements others
  | .object members, .object others => membersIncluded members others
  | _, _ => false
termination_by structural expected => expected

def elementsIncluded : List Json → List Json → Bool
  | [], [] => true
  | value :: rest, other :: others => included value other && elementsIncluded rest others
  | _, _ => false
termination_by structural elements => elements

def membersIncluded : List (String × Json) → List (String × Json) → Bool
  | [], _ => true
  | (name, value) :: rest, others =>
    (match field name (.object others) with
      | some other => included value other
      | none => name = "__proto__" && isPrototype value) && membersIncluded rest others
termination_by structural members => members

end

mutual

/-- Wherever both values have an object, these have the same names. -/
def sameNames : Json → Json → Bool
  | .array elements, .array others => elementsNamed elements others
  | .object members, .object others =>
    members.all (fun member => (others.map (·.1)).contains member.1) &&
      others.all (fun other => (members.map (·.1)).contains other.1) && membersNamed members others
  | _, _ => true
termination_by structural expected => expected

def elementsNamed : List Json → List Json → Bool
  | value :: rest, other :: others => sameNames value other && elementsNamed rest others
  | _, _ => true
termination_by structural elements => elements

def membersNamed : List (String × Json) → List (String × Json) → Bool
  | [], _ => true
  | (name, value) :: rest, others =>
    (field name (.object others)).all (sameNames value) && membersNamed rest others
termination_by structural members => members

end

/-! ### No difference -/

section Walk

variable {members others : List (String × Json)} {elements : List Json} {right : Operand} {path : String}

theorem walk_object (members : List (String × Json)) (right : Operand) (path : String) :
    walk (.object members) right path =
      if right.isObject then
        ((walkMembers members right path).insertionSort fun first second =>
          beforeByUnits first.1 second.1).flatMap (·.2)
      else [path] := by
  cases right <;> rfl

theorem walk_leaf (left : Json) (right : Operand) (path : String) (noArray : ∀ elements, left ≠ .array elements)
    (noObject : ∀ members, left ≠ .object members) :
    walk left right path = if objectIs left right then [] else [path] := by
  cases left with
  | array elements => exact absurd rfl (noArray elements)
  | object members => exact absurd rfl (noObject members)
  | _ => rfl

theorem walkMembers_eq : walkMembers members right path = members.map fun member =>
    (member.1, walk member.2 (right.property member.1) ((PathStep.member member.1).append path)) := by
  induction members with
  | nil => rfl
  | cons member rest ih => exact congrArg (List.cons _) ih

/-- The differences of an object are those of its members. -/
theorem mem_walk_object (isObject : right.isObject = true) {found : String} :
    found ∈ walk (.object members) right path ↔ ∃ member ∈ members,
      found ∈ walk member.2 (right.property member.1) ((PathStep.member member.1).append path) := by
  rw [walk_object, if_pos isObject, List.mem_flatMap]
  simp only [(List.perm_insertionSort _ _).mem_iff, walkMembers_eq, List.mem_map]
  constructor
  · rintro ⟨_, ⟨member, here, rfl⟩, there⟩
    exact ⟨member, here, there⟩
  · rintro ⟨member, here, there⟩
    exact ⟨_, ⟨member, here, rfl⟩, there⟩

theorem walk_object_eq_nil (isObject : right.isObject = true) :
    walk (.object members) right path = [] ↔ ∀ member ∈ members,
      walk member.2 (right.property member.1) ((PathStep.member member.1).append path) = [] := by
  simp only [List.eq_nil_iff_forall_not_mem, mem_walk_object isObject, not_exists, not_and]
  exact ⟨fun none member here found => none found member here, fun none found member here => none member here found⟩

/-- The operand has what the value has. -/
def covered (left : Json) : Operand → Bool
  | .value other => included left other
  | .prototype => isPrototype left
  | _ => false

theorem objectIs_eq_covered (left : Json) (right : Operand) (noArray : ∀ elements, left ≠ .array elements)
    (noObject : ∀ members, left ≠ .object members) : objectIs left right = covered left right := by
  cases left with
  | array elements => exact absurd rfl (noArray elements)
  | object members => exact absurd rfl (noObject members)
  | _ =>
    cases right with
    | value other => cases other <;> rfl
    | _ => rfl

theorem property_of_field {name : String} {other : Json} (found : field name (.object others) = some other) :
    (Operand.value (.object others)).property name = .value other := by
  simp only [Operand.property, found]

theorem covered_inherited {left : Json} {name : String} (absent : field name (.object others) = none) :
    covered left ((Operand.value (.object others)).property name) =
      (decide (name = "__proto__") && isPrototype left) := by
  simp only [Operand.property, absent]
  by_cases proto : name = "__proto__"
  · simp [proto, covered]
  · by_cases known : (objectPrototype name).isSome = true
    · rw [if_neg proto, if_pos known, decide_eq_false proto]
      rfl
    · rw [if_neg proto, if_neg known, decide_eq_false proto]
      rfl

theorem membersIncluded_iff : membersIncluded members others = true ↔ ∀ member ∈ members,
    covered member.2 ((Operand.value (.object others)).property member.1) = true := by
  induction members with
  | nil => simp [membersIncluded]
  | cons member rest ih =>
    rw [membersIncluded, Bool.and_eq_true, ih, List.forall_mem_cons]
    refine and_congr_left fun _ => ?_
    cases found : field member.1 (.object others) with
    | some other => rw [property_of_field found, covered]
    | none => rw [covered_inherited found]

theorem isPrototype_iff : isPrototype (.object members) = true ↔ ∀ member ∈ members,
    covered member.2 (Operand.prototype.property member.1) = true := by
  rw [isPrototype, List.all_eq_true]
  refine forall₂_congr fun member _ => ?_
  unfold Operand.property
  by_cases proto : member.1 = "__proto__"
  · have null : objectIs .null (.value member.2) = included member.2 .null := by cases member.2 <;> rfl
    simp [proto, covered, null]
  · by_cases known : (objectPrototype member.1).isSome = true
    · simp [proto, known, covered]
    · simp [proto, known, covered]

theorem walkElements_eq_nil {others : List Json} (index : ℕ)
    (each : ∀ element ∈ elements, ∀ right path, walk element right path = [] ↔ covered element right = true)
    (length : elements.length = others.length) :
    walkElements elements others index path = [] ↔ elementsIncluded elements others = true := by
  induction elements generalizing others index with
  | nil =>
    cases others with
    | nil => simp [walkElements, elementsIncluded]
    | cons other others => cases length
  | cons element rest ih =>
    cases others with
    | nil => cases length
    | cons other others =>
      obtain ⟨here, later⟩ := List.forall_mem_cons.mp each
      rw [walkElements, elementsIncluded, List.append_eq_nil_iff, here, Bool.and_eq_true,
        List.tail_cons, ih _ later (Nat.succ.inj length)]
      rfl

theorem length_of_elementsIncluded {others : List Json} (all : elementsIncluded elements others = true) :
    elements.length = others.length := by
  induction elements generalizing others with
  | nil =>
    cases others with
    | nil => rfl
    | cons other others => cases all
  | cons element rest ih =>
    cases others with
    | nil => cases all
    | cons other others =>
      rw [elementsIncluded, Bool.and_eq_true] at all
      rw [List.length_cons, List.length_cons, ih all.2]

theorem walk_eq_nil (left : Json) (right : Operand) (path : String) :
    walk left right path = [] ↔ covered left right = true := by
  induction left using Json.induct generalizing right path with
  | null | bool | number | string =>
    rw [← objectIs_eq_covered _ _ (by simp) (by simp), walk_leaf _ _ _ (by simp) (by simp)]
    simp
  | array elements ih =>
    cases right with
    | value other =>
      cases other with
      | array others =>
        rw [walk, List.append_eq_nil_iff]
        by_cases length : elements.length = others.length
        · rw [if_pos length, walkElements_eq_nil 0 ih length]
          exact and_iff_right rfl
        · rw [if_neg length]
          exact ⟨fun ⟨empty, _⟩ => absurd empty (List.cons_ne_nil _ _),
            fun all => absurd (length_of_elementsIncluded all) length⟩
      | _ => simp [walk, covered, included]
    | _ => simp [walk, covered, isPrototype]
  | object members ih =>
    cases right with
    | value other =>
      cases other with
      | object others =>
        rw [walk_object_eq_nil rfl, covered, included, membersIncluded_iff]
        exact forall₂_congr fun member here => ih member here _ _
      | _ => simp [walk_object, Operand.isObject, covered, included]
    | prototype =>
      rw [walk_object_eq_nil rfl, covered, isPrototype_iff]
      exact forall₂_congr fun member here => ih member here _ _
    | _ => simp [walk_object, Operand.isObject, covered]

/-- **There is no difference exactly if the actual value has what the expected one has.** -/
theorem setupSnapshotDifferences_eq_nil (expected actual : Json) :
    setupSnapshotDifferences expected actual = [] ↔ included expected actual = true :=
  walk_eq_nil expected (.value actual) ""

end Walk

/-! ### The same value -/

section Same

variable {members others : List (String × Json)}

theorem membersNamed_iff (distinct : (others.map (·.1)).Nodup) : membersNamed members others = true ↔
    ∀ member ∈ members, ∀ other, (member.1, other) ∈ others → sameNames member.2 other = true := by
  induction members with
  | nil => simp [membersNamed]
  | cons member rest ih =>
    rw [membersNamed, Bool.and_eq_true, ih, List.forall_mem_cons, Option.all_eq_true]
    simp only [field_iff distinct]

theorem elements_same_iff {elements others : List Json}
    (each : ∀ element ∈ elements, ∀ other ∈ others, sameValue element other = true ↔
      included element other = true ∧ sameNames element other = true) :
    sameElements elements others = true ↔
      elementsIncluded elements others = true ∧ elementsNamed elements others = true := by
  induction elements generalizing others with
  | nil => cases others <;> simp [sameElements, elementsIncluded, elementsNamed]
  | cons element rest ih =>
    cases others with
    | nil => simp [sameElements, elementsIncluded]
    | cons other others =>
      have here := each element List.mem_cons_self other List.mem_cons_self
      have later := ih fun one inRest another inOthers =>
        each one (List.mem_cons_of_mem _ inRest) another (List.mem_cons_of_mem _ inOthers)
      simp only [sameElements, elementsIncluded, elementsNamed, Bool.and_eq_true, here, later]
      exact and_and_and_comm

theorem object_same_iff (distinct : (members.map (·.1)).Nodup) (alsoDistinct : (others.map (·.1)).Nodup)
    (each : ∀ member ∈ members, ∀ other ∈ others, sameValue member.2 other.2 = true ↔
      included member.2 other.2 = true ∧ sameNames member.2 other.2 = true) :
    sameValue (.object members) (.object others) = true ↔
      included (.object members) (.object others) = true ∧
        sameNames (.object members) (.object others) = true := by
  rw [sameValue_object_iff distinct alsoDistinct, included, sameNames, Bool.and_eq_true, Bool.and_eq_true,
    membersIncluded_iff, membersNamed_iff alsoDistinct, List.all_eq_true, List.all_eq_true]
  constructor
  · rintro ⟨listed, same⟩
    have both : ∀ member ∈ members, ∀ other, (member.1, other) ∈ others →
        included member.2 other = true ∧ sameNames member.2 other = true :=
      fun member here other there => (each member here _ there).mp (same member here other there)
    refine ⟨fun member here => ?_, ⟨fun member here => ?_, fun other there => ?_⟩,
      fun member here other there => (both member here other there).2⟩
    · obtain ⟨⟨name, other⟩, there, rfl⟩ :=
        List.mem_map.mp ((listed member.1).mp (List.mem_map_of_mem here))
      rw [property_of_field (field_of_mem alsoDistinct there)]
      exact (both member here other there).1
    · exact List.contains_iff_mem.mpr ((listed member.1).mp (List.mem_map_of_mem here))
    · exact List.contains_iff_mem.mpr ((listed other.1).mpr (List.mem_map_of_mem there))
  · rintro ⟨included, ⟨named, alsoNamed⟩, agree⟩
    refine ⟨fun name => ⟨fun inside => ?_, fun inside => ?_⟩, fun member here other there => ?_⟩
    · obtain ⟨member, here, rfl⟩ := List.mem_map.mp inside
      exact List.contains_iff_mem.mp (named member here)
    · obtain ⟨other, there, rfl⟩ := List.mem_map.mp inside
      exact List.contains_iff_mem.mp (alsoNamed other there)
    · have inside := included member here
      rw [property_of_field (field_of_mem alsoDistinct there)] at inside
      exact (each member here _ there).mpr ⟨inside, agree member here other there⟩

/-- **Values are the same if the actual one has what the expected one has, and its objects have no other names.** -/
theorem sameValue_iff {expected actual : Json} (distinct : isDistinct expected = true)
    (alsoDistinct : isDistinct actual = true) : sameValue expected actual = true ↔
      included expected actual = true ∧ sameNames expected actual = true := by
  induction expected using Json.induct generalizing actual with
  | null | bool | number | string => cases actual <;> simp [sameValue, included, sameNames]
  | array elements ih =>
    cases actual with
    | array others =>
      exact elements_same_iff fun element here other there => ih element here
        (areDistinct_iff.mp distinct element here) (areDistinct_iff.mp alsoDistinct other there)
    | _ => simp [sameValue, included]
  | object members ih =>
    cases actual with
    | object others =>
      obtain ⟨names, values⟩ := isDistinct_object.mp distinct
      obtain ⟨otherNames, otherValues⟩ := isDistinct_object.mp alsoDistinct
      exact object_same_iff names otherNames fun member here other there => ih member here
        (values member here) (otherValues other there)
    | _ => simp [sameValue, included]

end Same

/-! ### Reported paths -/

section Reported

/-- After the steps the operand has no value of its own, or another one. -/
def Operand.DiffersAt (right : Operand) (steps : List PathStep) (value : Json) : Prop :=
  ∀ other, right.own.bind (valueAt · steps) = some other → sameValue value other = false

/-- A path of a value, or of the length of an array, at which the operand differs. -/
def Reported (left : Json) (right : Operand) (start : List PathStep) (path : String) : Prop :=
  ∃ steps value, valueAt left steps = some value ∧ right.DiffersAt steps value ∧
    (path = pathText (start ++ steps) ∨
      ∃ elements, value = .array elements ∧ path = lengthPath (pathText (start ++ steps)))

variable {left : Json} {right : Operand} {start : List PathStep} {path : String}

theorem Reported.here (differs : ∀ other, right.own = some other → sameValue left other = false) :
    Reported left right start (pathText start) := by
  refine ⟨[], left, by cases left <;> rfl, fun other found => ?_, .inl ?_⟩
  · obtain ⟨own, isOwn, same⟩ := Option.bind_eq_some_iff.mp found
    have one : own = other := by cases own <;> exact Option.some.inj same
    exact differs other (one ▸ isOwn)
  · rw [List.append_nil]

theorem valueAt_member {members : List (String × Json)} {name : String} {value : Json} {steps : List PathStep}
    (found : field name (.object members) = some value) :
    valueAt (.object members) (.member name :: steps) = valueAt value steps := by
  rw [valueAt, found, Option.bind_some]

theorem valueAt_element {elements : List Json} {index : ℕ} {value : Json} {steps : List PathStep}
    (found : elements[index]? = some value) :
    valueAt (.array elements) (.element index :: steps) = valueAt value steps := by
  rw [valueAt, found, Option.bind_some]

/-- The own value of a property is the own member. -/
theorem own_property {name : String} {own other : Json} {steps : List PathStep} (isOwn : right.own = some own)
    (found : valueAt own (.member name :: steps) = some other) :
    (right.property name).own.bind (valueAt · steps) = some other := by
  cases right with
  | value value =>
    cases isOwn
    cases own with
    | object members =>
      rw [valueAt] at found
      obtain ⟨member, there, rest⟩ := Option.bind_eq_some_iff.mp found
      rw [property_of_field there]
      exact rest
    | _ => cases found
  | _ => cases isOwn

theorem Reported.of_member {members : List (String × Json)} {name : String} {value : Json}
    (found : field name (.object members) = some value)
    (reported : Reported value (right.property name) (start ++ [.member name]) path) :
    Reported (.object members) right start path := by
  obtain ⟨steps, inner, reached, differs, named⟩ := reported
  refine ⟨.member name :: steps, inner, (valueAt_member found).trans reached, fun other there => ?_, ?_⟩
  · obtain ⟨own, isOwn, rest⟩ := Option.bind_eq_some_iff.mp there
    exact differs other (own_property isOwn rest)
  · rw [List.append_assoc] at named
    exact named

theorem Reported.of_element {elements others : List Json} {index : ℕ} {value : Json}
    (found : elements[index]? = some value)
    (reported : Reported value (Operand.element (others.drop index)) (start ++ [.element index]) path) :
    Reported (.array elements) (.value (.array others)) start path := by
  obtain ⟨steps, inner, reached, differs, named⟩ := reported
  refine ⟨.element index :: steps, inner, (valueAt_element found).trans reached, fun other there => ?_, ?_⟩
  · obtain ⟨own, isOwn, rest⟩ := Option.bind_eq_some_iff.mp there
    cases isOwn
    rw [valueAt] at rest
    obtain ⟨element, isThere, inside⟩ := Option.bind_eq_some_iff.mp rest
    refine differs other ?_
    rw [← List.head?_drop] at isThere
    obtain ⟨tail, shape⟩ := List.head?_eq_some_iff.mp isThere
    rw [shape]
    exact inside
  · rw [List.append_assoc] at named
    exact named

theorem mem_walkElements {elements others : List Json} {index : ℕ} {found : String}
    (reported : found ∈ walkElements elements others index path) : ∃ more value, elements[more]? = some value ∧
      found ∈ walk value (Operand.element (others.drop more)) ((PathStep.element (index + more)).append path) := by
  induction elements generalizing others index with
  | nil => cases reported
  | cons element rest ih =>
    rw [walkElements, List.mem_append] at reported
    rcases reported with here | later
    · exact ⟨0, element, rfl, here⟩
    · obtain ⟨more, value, isThere, inside⟩ := ih later
      refine ⟨more + 1, value, isThere, ?_⟩
      rw [List.drop_tail] at inside
      rw [Nat.add_right_comm, Nat.add_assoc] at inside
      exact inside

theorem objectIs_of_same {other : Json} (noArray : ∀ elements, left ≠ .array elements)
    (noObject : ∀ members, left ≠ .object members) (same : sameValue left other = true) :
    objectIs left (.value other) = true := by
  cases left with
  | array elements => exact absurd rfl (noArray elements)
  | object members => exact absurd rfl (noObject members)
  | _ => cases other <;> exact same

theorem walk_reported (distinct : isDistinct left = true) (found : path ∈ walk left right (pathText start)) :
    Reported left right start path := by
  induction left using Json.induct generalizing right start with
  | null | bool | number | string =>
    rw [walk_leaf _ _ _ (by simp) (by simp)] at found
    split at found
    · cases found
    next differs =>
      cases List.mem_singleton.mp found
      refine Reported.here fun other own => Bool.eq_false_iff.mpr fun same => differs ?_
      cases right <;> cases own
      exact objectIs_of_same (by simp) (by simp) same
  | array elements ih =>
    have apart (noArray : ∀ others, right ≠ .value (.array others)) : Reported (.array elements) right start path := by
      have one : walk (.array elements) right (pathText start) = [pathText start] := by
        cases right with
        | value other =>
          cases other with
          | array others => exact absurd rfl (noArray others)
          | _ => rfl
        | _ => rfl
      rw [one] at found
      cases List.mem_singleton.mp found
      refine Reported.here fun other own => ?_
      cases right <;> cases own
      cases other with
      | array others => exact absurd rfl (noArray others)
      | _ => rfl
    cases right with
    | value other =>
      cases other with
      | array others =>
        rw [walk, List.mem_append] at found
        rcases found with length | inside
        · split at length
          · cases length
          next differ =>
            refine ⟨[], _, rfl, fun other there => ?_, .inr ⟨elements, rfl, ?_⟩⟩
            · cases there
              refine Bool.eq_false_iff.mpr fun same => differ ?_
              exact length_of_sameElements same
            · rw [List.append_nil]
              exact List.mem_singleton.mp length
        · obtain ⟨index, value, isThere, walked⟩ := mem_walkElements inside
          rw [Nat.zero_add, ← pathText_append] at walked
          have member := List.mem_of_getElem? isThere
          exact Reported.of_element isThere (ih value member (areDistinct_iff.mp distinct value member) walked)
      | _ => exact apart (by simp)
    | _ => exact apart (by simp)
  | object members ih =>
    obtain ⟨names, values⟩ := isDistinct_object.mp distinct
    by_cases isObject : right.isObject = true
    · obtain ⟨member, here, walked⟩ := (mem_walk_object isObject).mp found
      rw [← pathText_append] at walked
      exact Reported.of_member (field_of_mem names here) (ih member here (values member here) walked)
    · rw [walk_object, if_neg isObject] at found
      cases List.mem_singleton.mp found
      refine Reported.here fun other own => ?_
      cases right <;> cases own
      cases other with
      | object others => exact absurd rfl isObject
      | _ => rfl

end Reported

/-! ### Receipts -/

/-- A row of `reliability_setup_readiness_receipts`, and what recording it returns. -/
structure SetupReadinessReceipt where
  expectedSnapshot : Json
  actualSnapshot : Json
  differingFields : List String
  snapshotDigest : String
  ready : Bool

/-- The rows of a run with its receipt. -/
structure SetupRun where
  run : ProtocolRun
  receipt : Option SetupReadinessReceipt

/-- The text that the digest of a receipt is of. -/
def receiptText (expectedSnapshot actualSnapshot : Json) (differingFields : List String) : String :=
  stringify (.object [("expected", expectedSnapshot), ("actual", actualSnapshot),
    ("differingFields", .array (differingFields.map .string))])

section Receipts

variable [NodeCrypto]

def recordSetupReadinessReceipt [ProtocolProfiles] (expectedSnapshot actualSnapshot : Json) (state : SetupRun) :
    Except String (SetupReadinessReceipt × SetupRun) := do
  let differingFields := setupSnapshotDifferences expectedSnapshot actualSnapshot
  let receipt : SetupReadinessReceipt :=
    { expectedSnapshot, actualSnapshot, differingFields
      snapshotDigest := ReliabilityRun.sha256Text (receiptText expectedSnapshot actualSnapshot differingFields)
      ready := differingFields.length = 0 }
  let _ ← state.run.lockControlProfile
  return (receipt, { state with receipt := some receipt })

def requireSetupReadinessReceipt (planFingerprint : String) (state : SetupRun) : Except String String :=
  match state.receipt.filter fun receipt =>
    state.run.control.planFingerprint = planFingerprint && receipt.ready &&
      receipt.differingFields = [] && isManifestDigest receipt.snapshotDigest with
  | some receipt => .ok receipt.snapshotDigest
  | none => .error "SETUP_READINESS_RECEIPT_REQUIRED"

/-- The receipt of the run says what the comparison of its snapshots found. -/
def ReceiptSound (state : SetupRun) : Prop :=
  ∀ receipt, state.receipt = some receipt →
    receipt.differingFields = setupSnapshotDifferences receipt.expectedSnapshot receipt.actualSnapshot ∧
      (receipt.ready = true ↔ receipt.differingFields = [])

theorem recordSetupReadinessReceipt_eq_ok [ProtocolProfiles] {expectedSnapshot actualSnapshot : Json}
    {state recorded : SetupRun} {receipt : SetupReadinessReceipt}
    (done : recordSetupReadinessReceipt expectedSnapshot actualSnapshot state = .ok (receipt, recorded)) :
    receipt.expectedSnapshot = expectedSnapshot ∧ receipt.actualSnapshot = actualSnapshot ∧
      recorded.run = state.run ∧ recorded.receipt = some receipt ∧ ReceiptSound recorded := by
  unfold recordSetupReadinessReceipt at done
  obtain ⟨control, _, rest⟩ := bind_eq_ok.mp done
  cases rest
  refine ⟨rfl, rfl, rfl, rfl, fun stored same => ?_⟩
  cases same
  exact ⟨rfl, decide_eq_true_iff.trans List.length_eq_zero_iff⟩

end Receipts

/-! ### Exact readiness -/

/-- At the place of the path, or of the array whose length it names, the actual value has no value or another one. -/
def PathDiffers (expected actual : Json) (path : String) : Prop :=
  ∃ steps value, valueAt expected steps = some value ∧
    (∀ other, valueAt actual steps = some other → sameValue value other = false) ∧
    (path = pathText steps ∨ ∃ elements, value = .array elements ∧ path = lengthPath (pathText steps))

/-- Setup readiness is exact. -/
structure ReadinessExact (expected actual : Json) : Prop where
  /-- There is no difference exactly between equal values. -/
  empty_iff : setupSnapshotDifferences expected actual = [] ↔ sameValue expected actual = true
  /-- A receipt is stored as ready only for a setup that is the expected one. -/
  ready : ∀ [NodeCrypto] [ProtocolProfiles] (state recorded : SetupRun) (receipt : SetupReadinessReceipt),
    recordSetupReadinessReceipt expected actual state = .ok (receipt, recorded) →
      recorded.receipt = some receipt ∧ (receipt.ready = true → sameValue expected actual = true)
  /-- Every path is one at which the values differ. -/
  paths : ∀ path ∈ setupSnapshotDifferences expected actual, PathDiffers expected actual path

/-- **Readiness is exact, unless the actual setup has all that is expected and objects with other names.** -/
theorem readinessExact_iff {expected actual : Json} (distinct : isDistinct expected = true)
    (alsoDistinct : isDistinct actual = true) :
    ReadinessExact expected actual ↔ (included expected actual = true → sameNames expected actual = true) := by
  have same := sameValue_iff distinct alsoDistinct
  have none := setupSnapshotDifferences_eq_nil expected actual
  constructor
  · intro exact inside
    exact (same.mp (exact.empty_iff.mp (none.mpr inside))).2
  · intro named
    have empty : setupSnapshotDifferences expected actual = [] ↔ sameValue expected actual = true := by
      rw [none, same]
      exact (and_iff_left_of_imp named).symm
    refine ⟨empty, fun state recorded receipt done => ?_, fun path found => ?_⟩
    · obtain ⟨isExpected, isActual, _, stored, sound⟩ := recordSetupReadinessReceipt_eq_ok done
      obtain ⟨compared, ready⟩ := sound receipt stored
      refine ⟨stored, fun isReady => empty.mp ?_⟩
      rw [← isExpected, ← isActual, ← compared]
      exact ready.mp isReady
    · have reported : Reported expected (.value actual) [] path := walk_reported distinct found
      obtain ⟨steps, value, reached, differs, named⟩ := reported
      exact ⟨steps, value, reached, differs, named⟩

theorem readinessExact_iff_closed :
    isDistinct (.object [("status", .string "active")]) = true ∧
      (ReadinessExact (.object [("status", .string "active")]) (.object [("status", .string "active")]) ↔
        (included (.object [("status", .string "active")]) (.object [("status", .string "active")]) = true →
          sameNames (.object [("status", .string "active")]) (.object [("status", .string "active")]) = true)) :=
  ⟨by decide, readinessExact_iff (by decide) (by decide)⟩

/-- A setup with one more member is taken for the expected one. -/
theorem surplus_taken_for_expected :
    ¬ ReadinessExact (.object [("status", .string "active")])
      (.object [("status", .string "active"), ("fallback", .bool true)]) := by
  intro exact
  have same := exact.empty_iff.mp (by decide)
  revert same
  decide

end FuseControlPlane.Reliability
