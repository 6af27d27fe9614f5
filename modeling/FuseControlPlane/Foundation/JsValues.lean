/-
Values with integers of any size, saved as JSON texts.

* `JsValue`: a value of plain data; a member may be `undefined`.
* `encode`, `revive`: a `bigint` is written as an object with one member, and such an object is read back as one.
* `compact`: a value without its undefined members; `saved`: what is read back of it.
* `revive_encode`: **what is read back of a value without such objects is known**; `saved_eq_compact_iff`: it is
  the value exactly if it has only what JSON can say.
-/

import FuseControlPlane.Foundation.Json

set_option linter.unusedSectionVars false

namespace Foundation

open Foundation.JavaScript

/-- A value of plain data. A number is given by the text that `String` makes of it, if it is finite, and a function
by its source text. -/
inductive JsValue
  | undefined
  | null
  | bool (value : Bool)
  | number (literal : Option NumberText)
  | bigint (value : ℤ)
  | string (text : String)
  | function (source : String)
  | array (elements : List JsValue)
  | object (members : List (String × JsValue))

namespace JsValue

/-! ### Induction -/

section Induction

variable {motive : JsValue → Prop} (undefined : motive undefined) (null : motive null)
  (bool : ∀ value, motive (bool value)) (number : ∀ literal, motive (number literal))
  (bigint : ∀ value, motive (bigint value)) (string : ∀ text, motive (string text))
  (function : ∀ source, motive (function source))
  (array : ∀ elements, (∀ element ∈ elements, motive element) → motive (array elements))
  (object : ∀ members, (∀ member ∈ members, motive member.2) → motive (object members))

include undefined null bool number bigint string function array object

mutual

theorem induct_value : ∀ value, motive value
  | .undefined => undefined
  | .null => null
  | .bool value => bool value
  | .number literal => number literal
  | .bigint value => bigint value
  | .string text => string text
  | .function source => function source
  | .array elements => array elements (induct_elements elements)
  | .object members => object members (induct_members members)
termination_by structural value => value

theorem induct_elements : ∀ elements : List JsValue, ∀ element ∈ elements, motive element
  | [] => fun _ member => absurd member List.not_mem_nil
  | value :: rest => List.forall_mem_cons.mpr ⟨induct_value value, induct_elements rest⟩
termination_by structural elements => elements

theorem induct_members : ∀ members : List (String × JsValue), ∀ member ∈ members, motive member.2
  | [] => fun _ member => absurd member List.not_mem_nil
  | (_, value) :: rest => List.forall_mem_cons.mpr ⟨induct_value value, induct_members rest⟩
termination_by structural members => members

end

end Induction

/-- Induction on a value, by its elements and its members. -/
@[elab_as_elim]
theorem induct {motive : JsValue → Prop} (value : JsValue) (undefined : motive undefined) (null : motive null)
    (bool : ∀ value, motive (bool value)) (number : ∀ literal, motive (number literal))
    (bigint : ∀ value, motive (bigint value)) (string : ∀ text, motive (string text))
    (function : ∀ source, motive (function source))
    (array : ∀ elements, (∀ element ∈ elements, motive element) → motive (array elements))
    (object : ∀ members, (∀ member ∈ members, motive member.2) → motive (object members)) : motive value :=
  induct_value undefined null bool number bigint string function array object value

/-! ### Members -/

def isDefined : JsValue → Bool
  | undefined => false
  | _ => true

/-- `value[name]`. A member that is undefined is as good as none. -/
def field (name : String) : JsValue → JsValue
  | object members => ((members.find? fun member => member.1 == name && member.2.isDefined).map (·.2)).getD undefined
  | _ => undefined

@[simp] theorem isDefined_undefined : undefined.isDefined = false := rfl

@[simp] theorem isDefined_array (elements : List JsValue) : (array elements).isDefined = true := rfl

@[simp] theorem ite_isDefined (value : JsValue) : (if value.isDefined then value else undefined) = value := by
  cases value <;> rfl

@[simp] theorem field_nil (name : String) : field name (object []) = undefined := rfl

@[simp] theorem field_cons (name other : String) (value : JsValue) (members : List (String × JsValue)) :
    field name (object ((other, value) :: members)) =
      if other = name ∧ value.isDefined = true then value else field name (object members) := by
  unfold field
  dsimp only
  rw [List.find?_cons]
  by_cases named : other = name
  · cases defined : value.isDefined <;> simp [named]
  · have different : (other == name) = false := beq_eq_false_iff_ne.mpr named
    simp [named, different]

/-! ### Undefined members -/

mutual

/-- The value without the members that are undefined. -/
def compact : JsValue → JsValue
  | array elements => array (compactElements elements)
  | object members => object (compactMembers members)
  | value => value
termination_by structural value => value

def compactElements : List JsValue → List JsValue
  | [] => []
  | value :: rest => compact value :: compactElements rest
termination_by structural values => values

def compactMembers : List (String × JsValue) → List (String × JsValue)
  | [] => []
  | (_, undefined) :: rest => compactMembers rest
  | (name, value) :: rest => (name, compact value) :: compactMembers rest
termination_by structural members => members

end

theorem isDefined_compact (value : JsValue) : value.compact.isDefined = value.isDefined := by
  cases value <;> rfl

theorem compactMembers_cons (name : String) (value : JsValue) (rest : List (String × JsValue)) :
    compactMembers ((name, value) :: rest) =
      if value.isDefined then (name, compact value) :: compactMembers rest else compactMembers rest := by
  cases value <;> rfl

/-- The members that are there stay the same. -/
theorem field_compact (name : String) (value : JsValue) : field name value.compact = (field name value).compact := by
  cases value with
  | object members =>
    rw [compact]
    induction members with
    | nil => rfl
    | cons member rest ih =>
      obtain ⟨other, value⟩ := member
      rw [compactMembers_cons, field_cons]
      cases defined : value.isDefined with
      | false => simpa using ih
      | true =>
        rw [if_pos rfl, field_cons, isDefined_compact, defined, ih]
        split <;> rfl
  | undefined | null | bool | number | bigint | string | function | array => rfl

/-! ### Texts -/

/-- The name of the one member of an object that stands for a `bigint`. -/
def tag : String := "$bigint"

/-- `value.toString()` of a `bigint`. -/
def bigintText (value : ℤ) : String := String.ofList (Json.integerText value)

mutual

/-- What `JSON.stringify` writes, with a replacer that tags what is a `bigint`. A number that is not finite is
written as `null`, and so is an element that is undefined or a function; such a member is left out. -/
def encode : JsValue → Json
  | undefined | function _ | null | number none => .null
  | bool value => .bool value
  | number (some literal) => .number literal
  | bigint value => .object [(tag, .string (bigintText value))]
  | string text => .string text
  | array elements => .array (encodeElements elements)
  | object members => .object (encodeMembers members)
termination_by structural value => value

def encodeElements : List JsValue → List Json
  | [] => []
  | value :: rest => encode value :: encodeElements rest
termination_by structural values => values

def encodeMembers : List (String × JsValue) → List (String × Json)
  | [] => []
  | (_, undefined) :: rest | (_, function _) :: rest => encodeMembers rest
  | (name, value) :: rest => (name, encode value) :: encodeMembers rest
termination_by structural members => members

end

mutual

/-- `String(value)`, or `none` if it throws. -/
def text? : JsValue → Option String
  | undefined => some "undefined"
  | null => some "null"
  | bool true => some "true"
  | bool false => some "false"
  | number none => some "Infinity"
  | number (some literal) => some (String.ofList literal.characters)
  | bigint value => some (bigintText value)
  | string text => some text
  | function source => some source
  | array elements => (elementTexts elements).map fun texts => ",".intercalate texts
  | object members => if (members.map (·.1)).contains "toString" then none else some "[object Object]"
termination_by structural value => value

/-- The texts that the elements of an array are joined from. -/
def elementTexts : List JsValue → Option (List String)
  | [] => some []
  | undefined :: rest | null :: rest => (elementTexts rest).map ("" :: ·)
  | value :: rest =>
    match text? value with
    | none => none
    | some text => (elementTexts rest).map (text :: ·)
termination_by structural values => values

end

/-- A number in digits of a base up to sixteen. -/
def radix? (base : ℕ) (digits : List Char) : Option ℤ := do
  let values ← digits.mapM Json.hexDigit
  if !values.isEmpty && values.all (· < base) then
    some (values.foldl (fun value digit => value * base + digit) 0 : ℕ)
  else none

/-- A number in decimal digits. -/
def decimal? (digits : List Char) : Option ℤ :=
  if areDigits digits then some (Nat.ofDigitChars 10 digits 0) else none

/-- `BigInt(text)`, or `none` if it throws. -/
def bigintOfText (text : String) : Option ℤ :=
  match (trim text).toList with
  | [] => some 0
  | '-' :: digits => (decimal? digits).map (- ·)
  | '+' :: digits => decimal? digits
  | '0' :: mark :: digits =>
    if mark = 'x' ∨ mark = 'X' then radix? 16 digits
    else if mark = 'o' ∨ mark = 'O' then radix? 8 digits
    else if mark = 'b' ∨ mark = 'B' then radix? 2 digits
    else decimal? ('0' :: mark :: digits)
  | digits => decimal? digits

/-- `BigInt(value)`, or `none` if it throws. Of the numbers, only the safe integers are read here. -/
def bigintOf : JsValue → Option ℤ
  | bigint value => some value
  | bool value => some (if value then 1 else 0)
  | number (some literal) => (Json.integer? (.number literal)).filter fun value => isSafeInteger value
  | string text => bigintOfText text
  | array elements => (text? (array elements)).bind bigintOfText
  | _ => none

/-- An object once its members have been read: one that has only the tag is a `bigint`. -/
def untag : List (String × JsValue) → Option JsValue
  | [(name, value)] => if name = tag then (bigintOf value).map bigint else some (object [(name, value)])
  | members => some (object members)

mutual

/-- What `JSON.parse` gives with a reviver that reads tagged objects, or `none` if it throws. -/
def revive : Json → Option JsValue
  | .null => some null
  | .bool value => some (bool value)
  | .number literal => some (number literal)
  | .string text => some (string text)
  | .array elements => (reviveElements elements).map array
  | .object members => (reviveMembers members).bind untag
termination_by structural value => value

def reviveElements : List Json → Option (List JsValue)
  | [] => some []
  | value :: rest =>
    match revive value with
    | none => none
    | some value => (reviveElements rest).map (value :: ·)
termination_by structural values => values

def reviveMembers : List (String × Json) → Option (List (String × JsValue))
  | [] => some []
  | (name, value) :: rest =>
    match revive value with
    | none => none
    | some value => (reviveMembers rest).map ((name, value) :: ·)
termination_by structural members => members

end

/-! ### What is read back -/

mutual

/-- What is read back of a value that is saved. -/
def saved : JsValue → JsValue
  | undefined | function _ | number none => null
  | array elements => array (savedElements elements)
  | object members => object (savedMembers members)
  | value => value
termination_by structural value => value

def savedElements : List JsValue → List JsValue
  | [] => []
  | value :: rest => saved value :: savedElements rest
termination_by structural values => values

def savedMembers : List (String × JsValue) → List (String × JsValue)
  | [] => []
  | (_, undefined) :: rest | (_, function _) :: rest => savedMembers rest
  | (name, value) :: rest => (name, saved value) :: savedMembers rest
termination_by structural members => members

end

mutual

/-- No object is written with the tag as its only member. -/
def isUntagged : JsValue → Bool
  | array elements => areUntagged elements
  | object members => (savedMembers members).map (·.1) ≠ [tag] && membersUntagged members
  | _ => true
termination_by structural value => value

def areUntagged : List JsValue → Bool
  | [] => true
  | value :: rest => isUntagged value && areUntagged rest
termination_by structural values => values

def membersUntagged : List (String × JsValue) → Bool
  | [] => true
  | (_, value) :: rest => isUntagged value && membersUntagged rest
termination_by structural members => members

end

mutual

/-- JSON can say all of the value: every number is finite, and no element is undefined. -/
def isSavable : JsValue → Bool
  | undefined | function _ | number none => false
  | array elements => areSavable elements
  | object members => membersSavable members
  | _ => true
termination_by structural value => value

def areSavable : List JsValue → Bool
  | [] => true
  | value :: rest => isSavable value && areSavable rest
termination_by structural values => values

def membersSavable : List (String × JsValue) → Bool
  | [] => true
  | (_, undefined) :: rest => membersSavable rest
  | (_, value) :: rest => isSavable value && membersSavable rest
termination_by structural members => members

end

/-- A text without white space is its own trimmed text. -/
theorem trim_eq {characters : List Char} (visible : ∀ character ∈ characters, isWhiteSpace character = false) :
    trim (String.ofList characters) = String.ofList characters := by
  have front {shown : List Char} (inside : ∀ character ∈ shown, isWhiteSpace character = false) :
      trimFront shown = shown :=
    List.dropWhile_eq_self_iff.mpr fun filled => by
      rw [inside _ (List.getElem_mem filled)]
      exact Bool.false_ne_true
  unfold trim
  rw [String.toList_ofList, front visible, front fun character member => visible character (List.mem_reverse.mp member),
    List.reverse_reverse]

/-- A digit is not white space. -/
theorem isWhiteSpace_digit {digit : Char} (valid : digit.isDigit = true) : isWhiteSpace digit = false := by
  have range : 48 ≤ digit.toNat ∧ digit.toNat ≤ 57 := by
    simp only [Char.isDigit, Bool.and_eq_true, decide_eq_true_eq] at valid
    exact valid
  unfold isWhiteSpace
  simp
  omega

/-- Digits are read as a decimal number, with a sign or without one. -/
theorem bigintOfText_digits {digits : List Char} (valid : areDigits digits = true) :
    bigintOfText (String.ofList digits) = some ((Nat.ofDigitChars 10 digits 0 : ℕ) : ℤ) ∧
      bigintOfText (String.ofList ('-' :: digits)) = some (-((Nat.ofDigitChars 10 digits 0 : ℕ) : ℤ)) := by
  have filled := valid
  rw [areDigits, Bool.and_eq_true, List.all_eq_true] at filled
  have visible : ∀ digit ∈ digits, isWhiteSpace digit = false := fun digit member =>
    isWhiteSpace_digit (filled.2 digit member)
  have decimal : decimal? digits = some ((Nat.ofDigitChars 10 digits 0 : ℕ) : ℤ) := if_pos valid
  unfold bigintOfText
  rw [trim_eq visible, trim_eq (List.forall_mem_cons.mpr ⟨by decide, visible⟩), String.toList_ofList,
    String.toList_ofList]
  refine ⟨?_, ?_⟩
  · split
    · cases filled.1
    · exact absurd (filled.2 '-' List.mem_cons_self) (by decide)
    · exact absurd (filled.2 '+' List.mem_cons_self) (by decide)
    · -- What follows a zero is a digit as well, and no mark of another base.
      next mark rest =>
      have digit : mark.isDigit = true := filled.2 mark (List.mem_cons_of_mem _ List.mem_cons_self)
      have unmarked : ∀ {other : Char}, other.isDigit = false → mark ≠ other := by
        rintro other letter rfl
        rw [digit] at letter
        cases letter
      rw [if_neg, if_neg, if_neg, decimal]
      all_goals
        rintro (same | same)
        · exact unmarked (by decide) same
        · exact unmarked (by decide) same
    · exact decimal
  · show (decimal? digits).map _ = _
    rw [decimal, Option.map_some]

theorem bigintOf_bigintText (value : ℤ) : bigintOf (string (bigintText value)) = some value := by
  have digits := bigintOfText_digits (Json.areDigits_toDigits value.natAbs)
  rw [Nat.ofDigitChars_ten_toDigits, Int.natCast_natAbs] at digits
  rw [bigintOf, bigintText, Json.integerText]
  by_cases negative : value < 0
  · rw [if_pos negative, digits.2, abs_of_neg negative, neg_neg]
  · rw [if_neg negative, digits.1, abs_of_nonneg (not_lt.mp negative)]

/-- Members without the tag as the only one stay an object. -/
theorem untag_of_ne {members : List (String × JsValue)} (other : members.map (·.1) ≠ [tag]) :
    untag members = some (object members) := by
  unfold untag
  split
  · next name value =>
    rw [if_neg]
    rintro rfl
    exact other rfl
  · rfl

/-- The elements that are read back, if each of them is. -/
theorem reviveElements_of {elements : List JsValue} (each : ∀ element ∈ elements, element.isUntagged = true →
    revive (encode element) = some (saved element)) (plain : areUntagged elements = true) :
    reviveElements (encodeElements elements) = some (savedElements elements) := by
  induction elements with
  | nil => rfl
  | cons element rest ih =>
    obtain ⟨here, later⟩ := List.forall_mem_cons.mp each
    rw [areUntagged, Bool.and_eq_true] at plain
    rw [encodeElements, reviveElements, here plain.1, ih later plain.2]
    rfl

theorem reviveMembers_of {members : List (String × JsValue)} (each : ∀ member ∈ members, member.2.isUntagged = true →
    revive (encode member.2) = some (saved member.2)) (plain : membersUntagged members = true) :
    reviveMembers (encodeMembers members) = some (savedMembers members) := by
  induction members with
  | nil => rfl
  | cons member rest ih =>
    obtain ⟨name, value⟩ := member
    obtain ⟨here, later⟩ := List.forall_mem_cons.mp each
    rw [membersUntagged, Bool.and_eq_true] at plain
    cases value with
    | undefined | function => exact ih later plain.2
    | null | bool | number | bigint | string | array | object =>
      simp only [encodeMembers, reviveMembers, here plain.1, ih later plain.2, savedMembers, Option.map_some]

theorem revive_tagged (value : ℤ) : revive (encode (bigint value)) = some (bigint value) := by
  simp only [encode, revive, reviveMembers, Option.map_some, Option.bind_some, untag, if_true, bigintOf_bigintText]

/-- **What is read back of a value without tagged objects.** -/
theorem revive_encode {value : JsValue} (plain : value.isUntagged = true) :
    revive (encode value) = some (saved value) := by
  induction value using induct with
  | undefined | null | function | bool | string => simp only [encode, revive, saved]
  | number literal => cases literal <;> simp only [encode, revive, saved]
  | bigint value => simp only [revive_tagged, saved]
  | array elements ih =>
    rw [isUntagged] at plain
    rw [encode, revive, reviveElements_of ih plain, saved, Option.map_some]
  | object members ih =>
    rw [isUntagged, Bool.and_eq_true, decide_eq_true_eq] at plain
    rw [encode, revive, reviveMembers_of ih plain.2, saved, Option.bind_some, untag_of_ne plain.1]

/-! ### What stays the same -/

section Members

variable {members : List (String × JsValue)}

/-- Some members are not written. -/
theorem length_savedMembers_le (members : List (String × JsValue)) :
    (savedMembers members).length ≤ (compactMembers members).length := by
  induction members with
  | nil => exact le_rfl
  | cons member rest ih =>
    obtain ⟨name, value⟩ := member
    cases value with
    | undefined => exact ih
    | function source => exact Nat.le_succ_of_le ih
    | null | bool | number | bigint | string | array | object => exact Nat.succ_le_succ ih

theorem savedElements_eq_iff {elements : List JsValue}
    (each : ∀ element ∈ elements, saved element = compact element ↔ element.isSavable = true) :
    savedElements elements = compactElements elements ↔ areSavable elements = true := by
  induction elements with
  | nil => exact ⟨fun _ => rfl, fun _ => rfl⟩
  | cons element rest ih =>
    obtain ⟨here, later⟩ := List.forall_mem_cons.mp each
    rw [savedElements, compactElements, areSavable, List.cons.injEq, here, ih later, Bool.and_eq_true]

theorem savedMembers_eq_iff
    (each : ∀ member ∈ members, saved member.2 = compact member.2 ↔ member.2.isSavable = true) :
    savedMembers members = compactMembers members ↔ membersSavable members = true := by
  induction members with
  | nil => exact ⟨fun _ => rfl, fun _ => rfl⟩
  | cons member rest ih =>
    obtain ⟨name, value⟩ := member
    obtain ⟨here, later⟩ := List.forall_mem_cons.mp each
    cases value with
    | undefined => exact ih later
    | function source =>
      -- A function is a member that is there and is not written.
      have fewer := length_savedMembers_le rest
      simp only [savedMembers, compactMembers, membersSavable, isSavable, Bool.false_and, Bool.false_eq_true, iff_false]
      intro same
      rw [same, List.length_cons] at fewer
      omega
    | null | bool | number | bigint | string | array | object =>
      simp only [savedMembers, compactMembers, membersSavable, List.cons.injEq, Prod.mk.injEq, true_and, here,
        ih later, Bool.and_eq_true]

/-- **What is read back is the value** up to undefined members, exactly if JSON can say all of it. -/
theorem saved_eq_compact_iff (value : JsValue) : saved value = compact value ↔ value.isSavable = true := by
  induction value using induct with
  | undefined | null | function | bool | bigint | string => simp [saved, compact, isSavable]
  | number literal => cases literal <;> simp [saved, compact, isSavable]
  | array elements ih =>
    rw [saved, compact, isSavable, array.injEq]
    exact savedElements_eq_iff ih
  | object members ih =>
    rw [saved, compact, isSavable, object.injEq]
    exact savedMembers_eq_iff ih

theorem isDefined_saved (value : JsValue) : (saved value).isDefined = true := by
  cases value with
  | number literal => cases literal <;> rfl
  | undefined | null | bool | bigint | string | function | array | object => rfl

theorem compactElements_saved {elements : List JsValue}
    (each : ∀ element ∈ elements, compact (saved element) = saved element) :
    compactElements (savedElements elements) = savedElements elements := by
  induction elements with
  | nil => rfl
  | cons element rest ih =>
    obtain ⟨here, later⟩ := List.forall_mem_cons.mp each
    rw [savedElements, compactElements, here, ih later]

theorem compactMembers_saved (each : ∀ member ∈ members, compact (saved member.2) = saved member.2) :
    compactMembers (savedMembers members) = savedMembers members := by
  induction members with
  | nil => rfl
  | cons member rest ih =>
    obtain ⟨name, value⟩ := member
    obtain ⟨here, later⟩ := List.forall_mem_cons.mp each
    cases value with
    | undefined | function => exact ih later
    | null | bool | number | bigint | string | array | object =>
      simp only [savedMembers, compactMembers_cons, isDefined_saved, if_true, here, ih later]

/-- What is read back has no undefined members. -/
theorem compact_saved (value : JsValue) : compact (saved value) = saved value := by
  induction value using induct with
  | undefined | null | function | bool | bigint | string => simp only [saved, compact]
  | number literal => cases literal <;> simp only [saved, compact]
  | array elements ih => rw [saved, compact, compactElements_saved ih]
  | object members ih => rw [saved, compact, compactMembers_saved ih]

/-! ### Elements and members -/

@[simp] theorem compactElements_eq (elements : List JsValue) : compactElements elements = elements.map compact := by
  induction elements with
  | nil => rfl
  | cons element rest ih => rw [compactElements, ih, List.map_cons]

@[simp] theorem areUntagged_eq (elements : List JsValue) : areUntagged elements = elements.all isUntagged := by
  induction elements with
  | nil => rfl
  | cons element rest ih => rw [areUntagged, ih, List.all_cons]

@[simp] theorem areSavable_eq (elements : List JsValue) : areSavable elements = elements.all isSavable := by
  induction elements with
  | nil => rfl
  | cons element rest ih => rw [areSavable, ih, List.all_cons]

/-- A member with the value is written. -/
def isWritten : JsValue → Bool
  | undefined | function _ => false
  | _ => true

theorem compactMembers_eq (members : List (String × JsValue)) : compactMembers members =
    (members.filter fun member => member.2.isDefined).map fun member => (member.1, member.2.compact) := by
  induction members with
  | nil => rfl
  | cons member rest ih =>
    obtain ⟨name, value⟩ := member
    rw [compactMembers_cons, List.filter_cons, ih]
    split <;> rfl

theorem names_savedMembers (members : List (String × JsValue)) :
    (savedMembers members).map (·.1) = (members.filter fun member => member.2.isWritten).map (·.1) := by
  induction members with
  | nil => rfl
  | cons member rest ih =>
    obtain ⟨name, value⟩ := member
    cases value with
    | undefined | function => exact ih
    | null | bool | number | bigint | string | array | object => exact congrArg (name :: ·) ih

theorem membersUntagged_eq (members : List (String × JsValue)) :
    membersUntagged members = members.all fun member => member.2.isUntagged := by
  induction members with
  | nil => rfl
  | cons member rest ih => rw [membersUntagged, ih, List.all_cons]

theorem membersSavable_eq (members : List (String × JsValue)) :
    membersSavable members = members.all fun member => !member.2.isDefined || member.2.isSavable := by
  induction members with
  | nil => rfl
  | cons member rest ih =>
    obtain ⟨name, value⟩ := member
    rw [List.all_cons, ← ih]
    cases value <;> rfl

/-- An object with a member besides the tag is not a tagged one. -/
theorem isUntagged_cons {name : String} {value : JsValue} (other : name ≠ tag) (written : value.isWritten = true) :
    isUntagged (object ((name, value) :: members)) = (value.isUntagged && membersUntagged members) := by
  have named : (savedMembers ((name, value) :: members)).map (·.1) ≠ [tag] := by
    rw [names_savedMembers, List.filter_cons, if_pos written, List.map_cons]
    exact fun same => other (List.cons.inj same).1
  rw [isUntagged, membersUntagged, decide_eq_true named, Bool.true_and]

end Members

/-! ### Types whose values are plain data -/

/-- A number that is an integer. -/
def integer (value : ℤ) : JsValue := number (some ⟨Json.integerText value, Json.isNumber_integerText value⟩)

/-- `write` makes plain data of the values of a type: the values are told apart by it, and no object that it
writes has the tag as its only member. -/
structure IsPlain {α : Type} (write : α → JsValue) : Prop where
  written : ∀ value, (write value).isWritten = true
  untagged : ∀ value, (write value).isUntagged = true
  injective : ∀ {first second}, (write first).compact = (write second).compact → first = second

/-- A member that may be undefined. -/
def orUndefined {α : Type} (write : α → JsValue) : Option α → JsValue
  | none => undefined
  | some value => write value

section Plain

variable {α : Type} {write : α → JsValue}

theorem isDefined_of_isWritten {value : JsValue} (written : value.isWritten = true) : value.isDefined = true := by
  cases value with
  | undefined => cases written
  | null | bool | number | bigint | string | function | array | object => rfl

/-- The same data have the same members. -/
theorem field_congr {first second : JsValue} (same : first.compact = second.compact) (name : String) :
    (field name first).compact = (field name second).compact := by
  rw [← field_compact, same, field_compact]

theorem isPlain_bool : IsPlain bool := ⟨fun _ => rfl, fun _ => rfl, fun same => bool.inj same⟩

theorem isPlain_bigint : IsPlain bigint := ⟨fun _ => rfl, fun _ => rfl, fun same => bigint.inj same⟩

theorem isPlain_string : IsPlain string := ⟨fun _ => rfl, fun _ => rfl, fun same => string.inj same⟩

theorem isPlain_integer : IsPlain integer := by
  refine ⟨fun _ => rfl, fun _ => rfl, fun {first second} same => ?_⟩
  have literals : Json.ofInt first = Json.ofInt second :=
    congrArg Json.number (Option.some.inj (number.inj same))
  have read := Json.integer?_ofInt first
  rw [literals, Json.integer?_ofInt] at read
  exact (Option.some.inj read).symm

/-- The values of an enumeration are their texts. -/
theorem isPlain_text {text : α → String} (distinct : ∀ {first second}, text first = text second → first = second) :
    IsPlain fun value => string (text value) :=
  ⟨fun _ => rfl, fun _ => rfl, fun same => distinct (string.inj same)⟩

namespace IsPlain

theorem orUndefined_untagged (plain : IsPlain write) (value : Option α) : (orUndefined write value).isUntagged = true := by
  cases value with
  | none => rfl
  | some value => exact plain.untagged value

theorem orUndefined_injective (plain : IsPlain write) {first second : Option α}
    (same : (orUndefined write first).compact = (orUndefined write second).compact) : first = second := by
  have absent : ∀ value, (write value).compact ≠ undefined := by
    intro value missing
    have defined := isDefined_of_isWritten (plain.written value)
    rw [← isDefined_compact, missing] at defined
    cases defined
  cases first with
  | none =>
    cases second with
    | none => rfl
    | some value => exact absurd same.symm (absent value)
  | some value =>
    cases second with
    | none => exact absurd same (absent value)
    | some other => exact congrArg some (plain.injective same)

/-- An array of such values. -/
theorem list (plain : IsPlain write) : IsPlain fun values : List α => array (values.map write) := by
  refine ⟨fun _ => rfl, fun values => ?_, fun {first second} same => ?_⟩
  · rw [isUntagged, areUntagged_eq, List.all_eq_true]
    intro element member
    obtain ⟨value, _, rfl⟩ := List.mem_map.mp member
    exact plain.untagged value
  · simp only [compact, compactElements_eq, List.map_map, array.injEq] at same
    exact List.map_injective_iff.mpr (fun _ _ equal => plain.injective equal) same

/-- An array of a name and such a value. -/
theorem named (plain : IsPlain write) :
    IsPlain fun entry : String × α => array [string entry.1, write entry.2] := by
  refine ⟨fun _ => rfl, fun entry => ?_, fun {first second} same => ?_⟩
  · simp [isUntagged, plain.untagged entry.2]
  · simp only [compact, compactElements_eq, List.map_cons, List.map_nil, array.injEq, List.cons.injEq,
      string.injEq, and_true] at same
    exact Prod.ext same.1 (plain.injective same.2)

/-- An object with such values under any names. -/
theorem members_injective (plain : IsPlain write) {first second : List (String × α)}
    (same : (object (first.map fun entry => (entry.1, write entry.2))).compact =
      (object (second.map fun entry => (entry.1, write entry.2))).compact) : first = second := by
  have shown : ∀ entries : List (String × α), compactMembers (entries.map fun entry => (entry.1, write entry.2)) =
      entries.map fun entry => (entry.1, (write entry.2).compact) := by
    intro entries
    rw [compactMembers_eq, List.filter_eq_self.mpr, List.map_map]
    · rfl
    · intro member here
      obtain ⟨entry, _, rfl⟩ := List.mem_map.mp here
      exact isDefined_of_isWritten (plain.written entry.2)
  simp only [compact, object.injEq, shown] at same
  refine List.map_injective_iff.mpr (fun left right equal => ?_) same
  exact Prod.ext (Prod.mk.inj equal).1 (plain.injective (Prod.mk.inj equal).2)

theorem members_untagged (plain : IsPlain write) {entries : List (String × α)} (other : entries.map (·.1) ≠ [tag]) :
    isUntagged (object (entries.map fun entry => (entry.1, write entry.2))) = true := by
  rw [isUntagged, names_savedMembers, List.filter_eq_self.mpr, membersUntagged_eq, List.map_map, Bool.and_eq_true,
    List.all_eq_true]
  · refine ⟨decide_eq_true other, fun member here => ?_⟩
    obtain ⟨entry, _, rfl⟩ := List.mem_map.mp here
    exact plain.untagged entry.2
  · intro member here
    obtain ⟨entry, _, rfl⟩ := List.mem_map.mp here
    exact plain.written entry.2

end IsPlain

end Plain

end JsValue

end Foundation
