/-
Bytes of texts, and texts of bytes.

* `utf8`, `ofUtf8`: `Buffer.from(text, "utf8")` and `buffer.toString("utf8")`; `ofUtf8_utf8`: **a text comes back**.
* `base64url`, `ofBase64url`: the same for `"base64url"`, without padding; `ofBase64url_base64url`: **bytes come back**.
* `splitText`, `splitText_join`: `text.split(separator)`, of texts that are joined with the separator.
-/

import FuseControlPlane.Foundation.Conversions

set_option linter.unusedSectionVars false

namespace Foundation

/-! ### Bytes of texts -/

def utf8 (text : String) : List UInt8 := text.toByteArray.data.toList

/-- How bytes that are not valid in UTF-8 are replaced. -/
class Replacement where
  replaced : List UInt8 → String

def ofUtf8 [Replacement] (bytes : List UInt8) : String :=
  (String.fromUTF8? ⟨⟨bytes⟩⟩).getD (Replacement.replaced bytes)

theorem ofUtf8_utf8 [Replacement] (text : String) : ofUtf8 (utf8 text) = text := by
  have found : String.fromUTF8? ⟨⟨utf8 text⟩⟩ = some text := dif_pos text.isValidUTF8
  unfold ofUtf8
  rw [found]
  rfl

theorem utf8_injective : Function.Injective utf8 := by
  let _ : Replacement := ⟨fun _ => ""⟩
  intro first second same
  rw [← ofUtf8_utf8 first, same, ofUtf8_utf8]

theorem utf8_eq_nil {text : String} : utf8 text = [] ↔ text = "" :=
  ⟨fun empty => utf8_injective empty, fun empty => by rw [empty]; rfl⟩

/-! ### Base64 -/

def base64Alphabet : List Char := "ABCDEFGHIJKLMNOPQRSTUVWXYZabcdefghijklmnopqrstuvwxyz0123456789-_".toList

def base64Digit (value : ℕ) : Char := (base64Alphabet[value]?).getD 'A'

/-- The value of a digit; both alphabets are understood. -/
def base64Value (character : Char) : Option ℕ :=
  if character = '+' then some 62 else if character = '/' then some 63 else base64Alphabet.findIdx? (· = character)

/-- The digits of bytes: four of three bytes, and fewer at the end. -/
def base64Digits : List UInt8 → List ℕ
  | [] => []
  | [first] => [first.toNat / 4, first.toNat % 4 * 16]
  | [first, second] => [first.toNat / 4, first.toNat % 4 * 16 + second.toNat / 16, second.toNat % 16 * 4]
  | first :: second :: third :: rest =>
    first.toNat / 4 :: (first.toNat % 4 * 16 + second.toNat / 16) :: (second.toNat % 16 * 4 + third.toNat / 64) ::
      third.toNat % 64 :: base64Digits rest

def base64Bytes : List ℕ → List UInt8
  | first :: second :: third :: fourth :: rest =>
    .ofNat (first * 4 + second / 16) :: .ofNat (second % 16 * 16 + third / 4) :: .ofNat (third % 4 * 64 + fourth) ::
      base64Bytes rest
  | [first, second, third] => [.ofNat (first * 4 + second / 16), .ofNat (second % 16 * 16 + third / 4)]
  | [first, second] => [.ofNat (first * 4 + second / 16)]
  | _ => []

def base64url (bytes : List UInt8) : String := String.ofList ((base64Digits bytes).map base64Digit)

/-- `Buffer.from(text, "base64url")`; other characters are skipped. -/
def ofBase64url (text : String) : List UInt8 := base64Bytes (text.toList.filterMap base64Value)

theorem base64Value_base64Digit : ∀ value < 64, base64Value (base64Digit value) = some value := by decide +kernel

theorem base64Digit_ne_dot : ∀ value < 64, base64Digit value ≠ '.' := by decide +kernel

theorem base64Digits_lt (bytes : List UInt8) : ∀ digit ∈ base64Digits bytes, digit < 64 := by
  induction bytes using base64Digits.induct with
  | case1 => exact fun digit member => absurd member List.not_mem_nil
  | case2 first =>
    have bound := first.toNat_lt
    simp only [base64Digits, List.mem_cons, List.not_mem_nil, or_false, forall_eq_or_imp, forall_eq]
    omega
  | case3 first second =>
    have bound := first.toNat_lt
    have also := second.toNat_lt
    simp only [base64Digits, List.mem_cons, List.not_mem_nil, or_false, forall_eq_or_imp, forall_eq]
    omega
  | case4 first second third rest ih =>
    have bound := first.toNat_lt
    have also := second.toNat_lt
    have last := third.toNat_lt
    simp only [base64Digits, List.mem_cons, forall_eq_or_imp]
    exact ⟨by omega, by omega, by omega, by omega, ih⟩

theorem base64Bytes_base64Digits (bytes : List UInt8) : base64Bytes (base64Digits bytes) = bytes := by
  have byte : ∀ (value : ℕ) (byte : UInt8), value = byte.toNat → UInt8.ofNat value = byte := by
    rintro _ byte rfl
    exact UInt8.ofNat_toNat
  induction bytes using base64Digits.induct with
  | case1 => rfl
  | case2 first => exact congrArg (fun byte => [byte]) (byte _ first (by omega))
  | case3 first second =>
    have bound := second.toNat_lt
    show [UInt8.ofNat _, UInt8.ofNat _] = _
    rw [byte _ first (by omega), byte _ second (by omega)]
  | case4 first second third rest ih =>
    have bound := second.toNat_lt
    have also := third.toNat_lt
    rw [base64Digits, base64Bytes, ih, byte _ first (by omega), byte _ second (by omega), byte _ third (by omega)]

theorem ofBase64url_base64url (bytes : List UInt8) : ofBase64url (base64url bytes) = bytes := by
  have values : ((base64Digits bytes).map base64Digit).filterMap base64Value = base64Digits bytes := by
    rw [List.filterMap_map]
    have own : ∀ digit ∈ base64Digits bytes, (base64Value ∘ base64Digit) digit = some digit :=
      fun digit member => base64Value_base64Digit digit (base64Digits_lt bytes digit member)
    exact (List.filterMap_congr own).trans (List.filterMap_some ..)
  unfold ofBase64url base64url
  rw [String.toList_ofList, values, base64Bytes_base64Digits]

theorem base64url_injective : Function.Injective base64url := fun first second same => by
  rw [← ofBase64url_base64url first, same, ofBase64url_base64url]

theorem base64url_plain (bytes : List UInt8) : '.' ∉ (base64url bytes).toList := by
  unfold base64url
  rw [String.toList_ofList, List.mem_map]
  rintro ⟨digit, member, dot⟩
  exact base64Digit_ne_dot digit (base64Digits_lt bytes digit member) dot

theorem base64url_eq_empty {bytes : List UInt8} : base64url bytes = "" ↔ bytes = [] :=
  ⟨fun empty => base64url_injective empty, fun empty => by rw [empty]; rfl⟩

/-! ### Texts with separators -/

/-- `text.split(separator)`. -/
def splitText (separator : Char) (text : String) : List String :=
  (text.toList.splitOn separator).map String.ofList

/-- **Texts that are joined** with a separator that none of them has are split again. -/
theorem splitText_join {separator : Char} {texts : List String} (some : texts ≠ [])
    (plain : ∀ text ∈ texts, separator ∉ text.toList) :
    splitText separator ((String.singleton separator).intercalate texts) = texts := by
  have listed : ∀ list ∈ texts.map String.toList, separator ∉ list := fun list member => by
    obtain ⟨text, inside, rfl⟩ := List.mem_map.mp member
    exact plain text inside
  have single : (String.singleton separator).toList = [separator] := String.toList_singleton separator
  unfold splitText
  rw [String.toList_intercalate, single, splitOn_intercalate_eq (List.map_eq_nil_iff.not.mpr some),
    flatMap_splitOn_of_plain listed, List.map_map]
  exact (List.map_congr_left fun text _ => String.ofList_toList).trans (List.map_id texts)

end Foundation
