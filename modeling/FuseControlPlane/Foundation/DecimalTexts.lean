/-
Texts of decimal numbers and what they denote.

* `digitsValue`, `fractionValue`: digits as a natural number, and as the digits after a point.
* `DecimalText`: digits, an optional fraction and an optional exponent; `DecimalText.value` is what it denotes.
* `value_mul`: all its digits as one number, shifted by a power of ten.
-/

import FuseControlPlane.Foundation.Json
import Mathlib.Algebra.Order.Field.Rat
import Mathlib.Data.List.Induction
import Mathlib.Data.Nat.Digits.Defs
import Mathlib.Tactic.FieldSimp
import Mathlib.Tactic.Ring

set_option linter.unusedSectionVars false

namespace Foundation

/-! ### Digits -/

/-- The number that digits denote. -/
def digitsValue (digits : List Char) : ℕ :=
  Nat.ofDigits 10 (digits.reverse.map fun digit => digit.toNat - '0'.toNat)

variable {digits more : List Char}

theorem digitsValue_append :
    digitsValue (digits ++ more) = digitsValue digits * 10 ^ more.length + digitsValue more := by
  unfold digitsValue
  rw [List.reverse_append, List.map_append, Nat.ofDigits_append, List.length_map, List.length_reverse,
    mul_comm, add_comm]

/-- Reading digits one after the other. -/
theorem foldl_digits :
    digits.foldl (fun (value : ℤ) digit => value * 10 + (digit.toNat - '0'.toNat : ℕ)) 0 =
      digitsValue digits := by
  induction digits using List.reverseRecOn with
  | nil => rfl
  | append_singleton digits digit ih =>
    rw [List.foldl_append, ih, digitsValue_append]
    simp [digitsValue]

/-- Zeros denote zero. -/
theorem digitsValue_zeros (zeros : ∀ digit ∈ digits, digit = '0') : digitsValue digits = 0 := by
  induction digits with
  | nil => rfl
  | cons digit digits ih =>
    obtain ⟨rfl, rest⟩ := List.forall_mem_cons.mp zeros
    rw [← List.singleton_append, digitsValue_append, ih rest]
    simp [digitsValue]

theorem isDigit_toNat {digit : Char} (valid : digit.isDigit = true) : 48 ≤ digit.toNat ∧ digit.toNat ≤ 57 := by
  simp only [Char.isDigit, ge_iff_le, Bool.and_eq_true, decide_eq_true_eq, UInt32.le_iff_toNat_le] at valid
  exact valid

/-- The digits of a number without zeros in front, the last one first. -/
theorem digits_digitsValue (valid : areDigits digits = true) (plain : digits.head? ≠ some '0') :
    Nat.digits 10 (digitsValue digits) = digits.reverse.map fun digit => digit.toNat - '0'.toNat := by
  rw [areDigits, Bool.and_eq_true, List.all_eq_true] at valid
  obtain ⟨_, all⟩ := valid
  refine Nat.digits_ofDigits 10 (by decide) _ (fun value member => ?_) fun nonempty => ?_
  · obtain ⟨digit, inside, rfl⟩ := List.mem_map.mp member
    obtain ⟨least, most⟩ := isDigit_toNat (all digit (List.mem_reverse.mp inside))
    show digit.toNat - 48 < 10
    omega
  · cases digits with
    | nil => exact absurd rfl nonempty
    | cons digit rest =>
      simp only [List.reverse_cons, List.map_append, List.map_cons, List.map_nil, List.getLast_append_singleton]
      obtain ⟨least, most⟩ := isDigit_toNat (all digit List.mem_cons_self)
      have apart : digit.toNat ≠ 48 := fun same =>
        plain (congrArg some (Char.toNat_inj.mp (same : digit.toNat = '0'.toNat)))
      show digit.toNat - 48 ≠ 0
      omega

/-- Digits without zeros in front are told apart by their numbers. -/
theorem digitsValue_inj (valid : areDigits digits = true) (alsoValid : areDigits more = true)
    (plain : digits.head? ≠ some '0') (alsoPlain : more.head? ≠ some '0')
    (same : digitsValue digits = digitsValue more) : digits = more := by
  have restored {digits : List Char} (valid : areDigits digits = true) :
      (digits.reverse.map fun digit => digit.toNat - '0'.toNat).map (fun value => Char.ofNat (value + '0'.toNat)) =
        digits.reverse := by
    rw [areDigits, Bool.and_eq_true, List.all_eq_true] at valid
    rw [List.map_map]
    refine (List.map_congr_left fun digit member => ?_).trans (List.map_id _)
    have least : '0'.toNat ≤ digit.toNat := (isDigit_toNat (valid.2 digit (List.mem_reverse.mp member))).1
    simp only [Function.comp_apply, Nat.sub_add_cancel least, Char.ofNat_toNat, id_eq]
  have numerals := digits_digitsValue valid plain
  rw [same, digits_digitsValue alsoValid alsoPlain] at numerals
  have reversed := congrArg (List.map fun value => Char.ofNat (value + '0'.toNat)) numerals
  rw [restored valid, restored alsoValid] at reversed
  exact (List.reverse_injective reversed).symm

/-- What digits after a point denote. -/
def fractionValue (digits : List Char) : ℚ := digitsValue digits / 10 ^ digits.length

/-- Zeros at the end of a fraction do not matter. -/
theorem fractionValue_append_zeros (zeros : ∀ digit ∈ more, digit = '0') :
    fractionValue (digits ++ more) = fractionValue digits := by
  unfold fractionValue
  rw [digitsValue_append, digitsValue_zeros zeros, List.length_append, pow_add, add_zero, Nat.cast_mul,
    Nat.cast_pow]
  exact mul_div_mul_right _ _ (pow_ne_zero _ (by norm_num))

/-! ### Texts -/

inductive Sign
  | none | plus | minus
  deriving DecidableEq

namespace Sign

def toText : Sign → List Char
  | none => []
  | plus => ['+']
  | minus => ['-']

def value : Sign → ℤ
  | none | plus => 1
  | minus => -1

end Sign

/-- A mark, a sign and digits. -/
structure Exponent where
  mark : Char
  sign : Sign
  digits : List Char
  marked : mark = 'e' ∨ mark = 'E'
  valid : areDigits digits = true

namespace Exponent

def toText (exponent : Exponent) : List Char := exponent.mark :: (exponent.sign.toText ++ exponent.digits)

def value (exponent : Exponent) : ℤ := exponent.sign.value * digitsValue exponent.digits

end Exponent

/-- Digits, the digits after a point if there is one, and an optional exponent. -/
structure DecimalText where
  whole : List Char
  fraction : List Char
  exponent : Option Exponent
  valid : areDigits whole = true
  digits : ∀ digit ∈ fraction, digit.isDigit = true

namespace DecimalText

/-- The point with the digits after it. -/
def pointed (fraction : List Char) : List Char := if fraction = [] then [] else '.' :: fraction

def toText (literal : DecimalText) : List Char :=
  literal.whole ++ (pointed literal.fraction ++ (literal.exponent.map Exponent.toText).getD [])

def exponentValue (literal : DecimalText) : ℤ := (literal.exponent.map Exponent.value).getD 0

/-- What the text denotes. -/
def value (literal : DecimalText) : ℚ :=
  (digitsValue literal.whole + fractionValue literal.fraction) * 10 ^ literal.exponentValue

/-- All digits as one number, shifted by a power of ten. -/
theorem value_mul (literal : DecimalText) (places : ℤ) :
    literal.value * 10 ^ places = digitsValue (literal.whole ++ literal.fraction) *
      10 ^ (places + literal.exponentValue - literal.fraction.length) := by
  have ten : (10 : ℚ) ≠ 0 := by norm_num
  unfold value fractionValue
  rw [digitsValue_append, zpow_sub₀ ten, zpow_add₀ ten, zpow_natCast]
  push_cast
  field_simp

end DecimalText

end Foundation
