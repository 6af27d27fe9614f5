/-
Conversions of JSON values, as JavaScript makes them.

* `NumberFormat`: the text of a number and the byte of an element, of which nothing is assumed.
* `stringOf`: `String(value)`, or the message of the `TypeError` of an object whose `toString` is no function.
* `isTruthy`, `strictEquals`: a value as a condition, and `===`.
* `hexBytes`, `isBase64`: hexadecimal bytes, and texts in base64; `Base64`: its digits.
* `eq_of_join_eq`: **lists with the same joined text are equal, if of two neighbours in the second one is in the
  first**.
-/

import Mathlib.Data.List.Chain
import FuseControlPlane.Foundation.Json

set_option linter.unusedSectionVars false

namespace Foundation

open Foundation.JavaScript

/-- Numbers of JavaScript. -/
class NumberFormat where
  /-- `String(number)`. -/
  text : NumberText → String
  /-- The byte of an element of an array in `Buffer.from(array)`. -/
  byte : Json → UInt8

namespace Json

/-! ### Conversions -/

section Conversions

variable [NumberFormat]

/-- The message of the error of a value that has no primitive value. -/
def noPrimitive : String := "Cannot convert object to primitive value"

mutual

/-- `String(value)`. -/
def stringOf : Json → Except String String
  | null => .ok "null"
  | bool true => .ok "true"
  | bool false => .ok "false"
  | number literal => .ok (NumberFormat.text literal)
  | string text => .ok text
  | array elements => (joinTexts elements).map fun texts => ",".intercalate texts
  | object members =>
    if (members.map (·.1)).contains "toString" then .error noPrimitive else .ok "[object Object]"
termination_by structural value => value

/-- The elements of an array as `join` writes them. -/
def joinTexts : List Json → Except String (List String)
  | [] => .ok []
  | null :: rest => (joinTexts rest).map ("" :: ·)
  | value :: rest =>
    match stringOf value with
    | .error message => .error message
    | .ok text => (joinTexts rest).map (text :: ·)
termination_by structural values => values

end

/-- `String(object[name])`. -/
def stringOfField : Option Json → Except String String
  | none => .ok "undefined"
  | some value => stringOf value

/-- `!!value`. Zero is the only number with its text. -/
def isTruthy : Json → Bool
  | null => false
  | bool value => value
  | number literal => NumberFormat.text literal ≠ "0"
  | string text => text ≠ ""
  | array _ | object _ => true

/-- `first === second`, of values with different arrays and objects. -/
def strictEquals : Option Json → Option Json → Bool
  | none, none => true
  | some null, some null => true
  | some (bool value), some (bool other) => value = other
  | some (number literal), some (number other) => NumberFormat.text literal = NumberFormat.text other
  | some (string text), some (string other) => text = other
  | _, _ => false

theorem length_joinTexts : ∀ {elements : List Json} {texts : List String},
    joinTexts elements = .ok texts → texts.length = elements.length := by
  intro elements
  induction elements with
  | nil =>
    intro texts joined
    cases joined
    rfl
  | cons value rest ih =>
    intro texts joined
    rw [joinTexts.eq_def] at joined
    split at joined
    · next empty => cases empty
    · next shape =>
      cases shape
      cases others : joinTexts rest with
      | error message => rw [others] at joined; cases joined
      | ok texts' =>
        rw [others] at joined
        cases joined
        exact congrArg (· + 1) (ih others)
    · next shape =>
      cases shape
      split at joined
      · cases joined
      · cases others : joinTexts rest with
        | error message => rw [others] at joined; cases joined
        | ok texts' =>
          rw [others] at joined
          cases joined
          exact congrArg (· + 1) (ih others)

/-- The text of an array without commas is that of at most one element. -/
theorem length_of_stringOf_array {elements : List Json} {text : String} (written : stringOf (array elements) = .ok text)
    (plain : ',' ∉ text.toList) : elements.length ≤ 1 := by
  rw [stringOf] at written
  cases joined : joinTexts elements with
  | error message => rw [joined] at written; cases written
  | ok texts =>
    rw [joined] at written
    cases written
    rw [← length_joinTexts joined]
    match texts with
    | [] | [_] => simp
    | first :: second :: rest => simp at plain

end Conversions

/-- `Object.keys(value)` of an object or an array. -/
def ownKeys : Json → Option (List String)
  | object members => some (members.map (·.1))
  | array elements => some ((List.range elements.length).map toString)
  | _ => none

end Json

/-! ### Bytes of texts -/

/-- `Buffer.from(text, "hex")`. -/
def hexBytes : List Char → List UInt8
  | high :: low :: rest =>
    match Json.hexDigit high, Json.hexDigit low with
    | some high, some low => UInt8.ofNat (high * 16 + low) :: hexBytes rest
    | _, _ => []
  | _ => []

/-- A character in `[A-Za-z0-9+/]`. -/
def isBase64Character (character : Char) : Bool :=
  character.isUpper || character.isLower || character.isDigit || character = '+' || character = '/'

/-- `/^[A-Za-z0-9+/]+={0,2}$/`. -/
def isBase64 (text : String) : Bool :=
  !(text.toList.takeWhile isBase64Character).isEmpty &&
    [[], ['='], ['=', '=']].contains (text.toList.dropWhile isBase64Character)

theorem comma_of_isBase64 {text : String} (valid : isBase64 text = true) : ',' ∉ text.toList := by
  unfold isBase64 at valid
  rw [Bool.and_eq_true] at valid
  intro inside
  rw [← List.takeWhile_append_dropWhile (p := isBase64Character) (l := text.toList), List.mem_append] at inside
  rcases inside with front | back
  · exact absurd (List.mem_takeWhile_imp front) (by decide)
  · have padding := List.contains_iff_mem.mp valid.2
    simp only [List.mem_cons, List.not_mem_nil, or_false] at padding
    rcases padding with shape | shape | shape <;> rw [shape] at back <;> simp at back

namespace Base64

/-- The digits, from 0 to 63. -/
def alphabet : List Char :=
  "ABCDEFGHIJKLMNOPQRSTUVWXYZabcdefghijklmnopqrstuvwxyz0123456789+/".toList

/-- The digit of a value below 64. -/
def digit (value : ℕ) : Char := alphabet.getD value '='

/-- The value of a digit, the ones of URLs included. -/
def value? (character : Char) : Option ℕ :=
  if character = '-' then some 62
  else if character = '_' then some 63
  else if character ∈ alphabet then some (alphabet.idxOf character)
  else none

/-- The digits of bytes, three at a time, with padding. -/
def encodeBytes : List ℕ → List Char
  | first :: second :: third :: rest =>
    digit (first / 4) :: digit (first % 4 * 16 + second / 16) ::
      digit (second % 16 * 4 + third / 64) :: digit (third % 64) :: encodeBytes rest
  | [first, second] =>
    [digit (first / 4), digit (first % 4 * 16 + second / 16), digit (second % 16 * 4), '=']
  | [first] => [digit (first / 4), digit (first % 4 * 16), '=', '=']
  | [] => []

/-- The bytes of values below 64, four at a time. -/
def decodeValues : List ℕ → List ℕ
  | first :: second :: third :: fourth :: rest =>
    (first * 4 + second / 16) :: (second % 16 * 16 + third / 4) :: (third % 4 * 64 + fourth) ::
      decodeValues rest
  | [first, second, third] => [first * 4 + second / 16, second % 16 * 16 + third / 4]
  | [first, second] => [first * 4 + second / 16]
  | _ => []

end Base64

/-! ### Joined texts -/

section Joined

variable {α : Type} [DecidableEq α] {separator : α}

/-- The pieces of a joined list are the pieces of its elements. -/
theorem splitOn_intercalate_eq : ∀ {lists : List (List α)}, lists ≠ [] →
    ([separator].intercalate lists).splitOn separator = lists.flatMap (·.splitOn separator)
  | [list], _ => by simp
  | list :: next :: rest, _ => by
    have here : ([separator].intercalate (next :: rest)).splitOn separator = (next :: rest).flatMap (·.splitOn separator) :=
      splitOn_intercalate_eq (List.cons_ne_nil _ _)
    rw [List.intercalate_cons_cons, List.append_assoc, List.singleton_append, List.splitOn_append_cons_self, here,
      List.flatMap_cons (x := list)]

theorem flatMap_splitOn_of_plain {lists : List (List α)} (plain : ∀ list ∈ lists, separator ∉ list) :
    lists.flatMap (·.splitOn separator) = lists := by
  induction lists with
  | nil => rfl
  | cons list rest ih =>
    rw [List.flatMap_cons, List.splitOn_eq_singleton (plain list List.mem_cons_self),
      ih fun other member => plain other (List.mem_cons_of_mem _ member)]
    rfl

/-- Of two neighbours among the names one is among the keys: then no key is joined of several names. -/
theorem plain_of_flatMap_eq {keys names : List (List α)} (plain : ∀ name ∈ names, separator ∉ name)
    (distinct : names.Nodup) (covered : names.IsChain fun name next => name ∈ keys ∨ next ∈ keys)
    (same : keys.flatMap (·.splitOn separator) = names) : ∀ key ∈ keys, separator ∉ key := by
  intro key member inside
  obtain ⟨before, after, rfl⟩ := List.append_of_mem member
  obtain ⟨first, others, rfl, alone⟩ := List.eq_append_cons_of_mem inside
  obtain ⟨second, rest, shape⟩ := List.exists_cons_of_ne_nil (List.splitOn_ne_nil separator others)
  rw [List.flatMap_append, List.flatMap_cons, List.splitOn_append_cons_self_of_not_mem alone, shape] at same
  -- A name that is a piece of this key and a key itself occurs twice.
  have once : ∀ name ∈ first :: second :: rest, name ∉ before ++ (first ++ separator :: others) :: after := by
    intro name piece key
    have single : name ∈ names := by
      rw [← same]
      exact List.mem_append_right _ (List.mem_append_left _ piece)
    have split : [name] = name.splitOn separator := (List.splitOn_eq_singleton (plain name single)).symm
    have elsewhere : ∀ list ∈ before ++ after, name ≠ list := by
      intro list either rfl
      rw [← same] at distinct
      rcases List.mem_append.mp either with front | back
      · refine (List.nodup_append.mp distinct).2.2 name (List.mem_flatMap.mpr ⟨name, front, ?_⟩) name
          (List.mem_append_left _ piece) rfl
        rw [← split]
        exact List.mem_singleton_self name
      · refine (List.nodup_append.mp (List.nodup_append.mp distinct).2.1).2.2 name piece name
          (List.mem_flatMap.mpr ⟨name, back, ?_⟩) rfl
        rw [← split]
        exact List.mem_singleton_self name
    rcases List.mem_append.mp key with front | back
    · exact elsewhere name (List.mem_append_left _ front) rfl
    · rcases List.mem_cons.mp back with rfl | back
      · exact plain _ single (List.mem_append_right _ List.mem_cons_self)
      · exact elsewhere name (List.mem_append_right _ back) rfl
  rw [← same] at covered
  have neighbours : first ∈ before ++ (first ++ separator :: others) :: after ∨
      second ∈ before ++ (first ++ separator :: others) :: after :=
    (List.isChain_append_cons_cons.mp covered).2.1
  rcases neighbours with one | other
  · exact once first List.mem_cons_self one
  · exact once second (List.mem_cons_of_mem _ List.mem_cons_self) other

/-- **Lists with the same joined text are equal**, if of two neighbours in the second one is in the first. -/
theorem eq_of_join_eq {keys names : List String} (filled : keys ≠ []) (named : names ≠ [])
    (plain : ∀ name ∈ names, ',' ∉ name.toList) (distinct : names.Nodup)
    (covered : names.IsChain fun name next => name ∈ keys ∨ next ∈ keys)
    (same : ",".intercalate keys = ",".intercalate names) : keys = names := by
  have listed : ∀ list ∈ names.map String.toList, ',' ∉ list :=
    fun list member => by
      obtain ⟨name, inside, rfl⟩ := List.mem_map.mp member
      exact plain name inside
  have joined : [','].intercalate (keys.map String.toList) = [','].intercalate (names.map String.toList) := by
    have texts := congrArg String.toList same
    rwa [String.toList_intercalate, String.toList_intercalate] at texts
  have pieces : (keys.map String.toList).flatMap (·.splitOn ',') = names.map String.toList := by
    rw [← splitOn_intercalate_eq (List.map_eq_nil_iff.not.mpr filled), joined,
      splitOn_intercalate_eq (List.map_eq_nil_iff.not.mpr named), flatMap_splitOn_of_plain listed]
  have alone := plain_of_flatMap_eq listed (distinct.map fun _ _ => String.toList_inj.mp)
    (List.isChain_map_of_isChain String.toList (fun _ _ => Or.imp List.mem_map_of_mem List.mem_map_of_mem) covered)
    pieces
  rw [flatMap_splitOn_of_plain alone] at pieces
  exact List.map_injective_iff.mpr (fun _ _ => String.toList_inj.mp) pieces

end Joined

end Foundation
