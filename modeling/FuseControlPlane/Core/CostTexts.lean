/-
What a cost text of a provider comes to.

* `splitFraction_pointed`, `splitExponent_toText`: how the parts of a decimal text are read.
* `exists_decimalText`: a text whose parts are read to its end is a decimal text.
* `usdToMicros_eq_ok`: **a cost is read exactly and rounded up to the next micro-dollar**.
-/

import FuseControlPlane.Core.Pricing
import FuseControlPlane.Foundation.DecimalTexts
import Mathlib.Algebra.Order.Floor.Ring
import Mathlib.Data.Rat.Floor
import Mathlib.Tactic.Linarith

set_option linter.unusedSectionVars false

namespace FuseControlPlane.Core

open Foundation Foundation.DecimalText

variable {digits rest : List Char}

/-- `BigInt` reads digits. -/
theorem bigInt_eq (digits : List Char) : bigInt digits = digitsValue digits := foldl_digits

/-! ### Reading the parts of a text -/

/-- What follows digits does not begin with one. -/
def Stops (rest : List Char) : Prop := ∀ character ∈ rest.head?, character.isDigit = false

theorem takeWhile_digits (all : ∀ digit ∈ digits, digit.isDigit = true) (stops : Stops rest) :
    (digits ++ rest).takeWhile Char.isDigit = digits ∧ (digits ++ rest).dropWhile Char.isDigit = rest := by
  rw [List.takeWhile_append_of_pos all, List.dropWhile_append_of_pos all]
  cases rest with
  | nil => exact ⟨List.append_nil _, rfl⟩
  | cons character rest =>
    have here : ¬ character.isDigit = true := by simp [stops character rfl]
    rw [List.takeWhile_cons_of_neg here, List.dropWhile_cons_of_neg here]
    exact ⟨List.append_nil _, rfl⟩

theorem stops_exponent (exponent : Option Exponent) :
    Stops ((exponent.map Exponent.toText).getD []) := by
  intro character first
  cases exponent with
  | none => cases first
  | some exponent =>
    cases first
    rcases exponent.marked with mark | mark <;> rw [mark] <;> decide

theorem splitFraction_pointed {fraction : List Char} (all : ∀ digit ∈ fraction, digit.isDigit = true)
    (exponent : Option Exponent) :
    splitFraction (pointed fraction ++ (exponent.map Exponent.toText).getD []) =
      (fraction, (exponent.map Exponent.toText).getD []) := by
  unfold pointed
  split
  · next none_ =>
    subst none_
    cases exponent with
    | none => rfl
    | some exponent =>
      show splitFraction (exponent.mark :: _) = _
      rcases exponent.marked with mark | mark <;> simp [splitFraction, Exponent.toText, mark]
  · next some_ =>
    obtain ⟨taken, dropped⟩ := takeWhile_digits all (stops_exponent exponent)
    simp [splitFraction, taken, dropped, some_]

theorem areDigits_iff : areDigits digits = true ↔ digits ≠ [] ∧ ∀ digit ∈ digits, digit.isDigit = true := by
  simp [areDigits]

/-- A sign and what follows it. -/
def splitSign : List Char → ℤ × List Char
  | '+' :: digits => (1, digits)
  | '-' :: digits => (-1, digits)
  | digits => (1, digits)

theorem splitExponent_cons (mark : Char) (rest : List Char) :
    splitExponent (mark :: rest) =
      if (mark = 'e' ∨ mark = 'E') ∧ (splitSign rest).2.takeWhile Char.isDigit ≠ [] then
        ((splitSign rest).1 * bigInt ((splitSign rest).2.takeWhile Char.isDigit),
          (splitSign rest).2.dropWhile Char.isDigit)
      else (0, mark :: rest) := rfl

theorem splitSign_toText {digits : List Char} (sign : Sign) (valid : areDigits digits = true) :
    splitSign (sign.toText ++ digits) = (sign.value, digits) := by
  obtain ⟨_, all⟩ := areDigits_iff.mp valid
  cases sign with
  | plus => rfl
  | minus => rfl
  | none =>
    show splitSign digits = (1, digits)
    unfold splitSign
    split
    · exact absurd (all '+' List.mem_cons_self) (by decide)
    · exact absurd (all '-' List.mem_cons_self) (by decide)
    · rfl

theorem splitExponent_toText (exponent : Option Exponent) :
    splitExponent ((exponent.map Exponent.toText).getD []) =
      ((exponent.map Exponent.value).getD 0, []) := by
  cases exponent with
  | none => rfl
  | some exponent =>
    obtain ⟨mark, sign, digits, marked, valid⟩ := exponent
    obtain ⟨some_, all⟩ := areDigits_iff.mp valid
    obtain ⟨taken, dropped⟩ := @takeWhile_digits digits [] all (fun _ first => nomatch first)
    rw [List.append_nil] at taken dropped
    show splitExponent (mark :: (sign.toText ++ digits)) = (sign.value * digitsValue digits, [])
    rw [splitExponent_cons, splitSign_toText sign valid, taken, dropped, if_pos ⟨marked, some_⟩, bigInt_eq]

/-! ### Texts that are read to their end -/

theorem splitFraction_eq {characters fraction : List Char}
    (split_ : splitFraction characters = (fraction, rest)) :
    characters = pointed fraction ++ rest ∧ ∀ digit ∈ fraction, digit.isDigit = true := by
  unfold splitFraction at split_
  split at split_
  · next characters =>
    dsimp only at split_
    split at split_
    · next none_ =>
      cases split_
      exact ⟨rfl, fun _ member => nomatch member⟩
    · next some_ =>
      cases split_
      unfold pointed
      rw [if_neg some_, List.cons_append, List.takeWhile_append_dropWhile]
      exact ⟨rfl, fun digit member => List.mem_takeWhile_imp member⟩
  · cases split_
    exact ⟨rfl, fun _ member => nomatch member⟩

/-- A sign is at the front of what it is taken off. -/
theorem exists_sign (characters : List Char) : ∃ sign : Sign, ∃ digits,
    characters = sign.toText ++ digits ∧ splitSign characters = (sign.value, digits) := by
  unfold splitSign
  split
  · exact ⟨.plus, _, rfl, rfl⟩
  · exact ⟨.minus, _, rfl, rfl⟩
  · exact ⟨.none, _, rfl, rfl⟩

theorem splitExponent_eq {characters : List Char} {value : ℤ}
    (split_ : splitExponent characters = (value, [])) :
    ∃ exponent : Option Exponent, characters = (exponent.map Exponent.toText).getD [] ∧
      value = (exponent.map Exponent.value).getD 0 := by
  cases characters with
  | nil =>
    cases split_
    exact ⟨none, rfl, rfl⟩
  | cons mark rest =>
    obtain ⟨sign, digits, rfl, taken⟩ := exists_sign rest
    rw [splitExponent_cons, taken] at split_
    split at split_
    · next marked =>
      obtain ⟨number, ended⟩ := Prod.mk.inj split_
      have all := List.takeWhile_append_dropWhile (p := Char.isDigit) (l := digits)
      rw [ended, List.append_nil] at all
      have valid : areDigits digits = true := areDigits_iff.mpr
        ⟨all ▸ marked.2, fun digit member => List.mem_takeWhile_imp (all.symm ▸ member)⟩
      rw [all, bigInt_eq] at number
      exact ⟨some ⟨mark, sign, digits, marked.1, valid⟩, rfl, number.symm⟩
    · cases split_

/-- A text that is read to its end is a decimal text. -/
theorem exists_decimalText {characters fraction afterFraction : List Char} {value : ℤ}
    (some_ : characters.takeWhile Char.isDigit ≠ [])
    (fractions : splitFraction (characters.dropWhile Char.isDigit) = (fraction, afterFraction))
    (exponents : splitExponent afterFraction = (value, [])) :
    ∃ literal : DecimalText, literal.toText = characters ∧
      literal.whole = characters.takeWhile Char.isDigit ∧ literal.fraction = fraction ∧
      literal.exponentValue = value := by
  obtain ⟨following, all⟩ := splitFraction_eq fractions
  obtain ⟨exponent, rfl, rfl⟩ := splitExponent_eq exponents
  have valid : areDigits (characters.takeWhile Char.isDigit) = true :=
    areDigits_iff.mpr ⟨some_, fun digit member => List.mem_takeWhile_imp member⟩
  refine ⟨⟨_, fraction, exponent, valid, all⟩, ?_, rfl, rfl, rfl⟩
  unfold DecimalText.toText
  rw [← following]
  exact List.takeWhile_append_dropWhile

/-- A decimal text is read part by part. -/
theorem read_decimalText (literal : DecimalText) :
    literal.toText.takeWhile Char.isDigit = literal.whole ∧
      splitFraction (literal.toText.dropWhile Char.isDigit) =
        (literal.fraction, (literal.exponent.map Exponent.toText).getD []) ∧
      splitExponent ((literal.exponent.map Exponent.toText).getD []) = (literal.exponentValue, []) := by
  obtain ⟨_, all⟩ := areDigits_iff.mp literal.valid
  have stops : Stops (pointed literal.fraction ++ (literal.exponent.map Exponent.toText).getD []) := by
    unfold pointed
    split
    · exact stops_exponent literal.exponent
    · intro character first
      cases first
      decide
  obtain ⟨taken, dropped⟩ := takeWhile_digits all stops
  unfold DecimalText.toText
  rw [taken, dropped]
  exact ⟨rfl, splitFraction_pointed literal.digits literal.exponent, splitExponent_toText literal.exponent⟩

/-! ### Rounding -/

theorem ceilDiv_eq {numerator denominator : ℤ} (nonnegative : 0 ≤ numerator) (positive : 0 < denominator) :
    ceilDiv numerator denominator = ⌈(numerator / denominator : ℚ)⌉ := by
  have denominatorPositive : (0 : ℚ) < denominator := by exact_mod_cast positive
  have least := Int.emod_nonneg (numerator + denominator - 1) positive.ne'
  have most := Int.emod_lt_of_pos (numerator + denominator - 1) positive
  have whole := Int.mul_ediv_add_emod (numerator + denominator - 1) denominator
  unfold ceilDiv
  rw [Int.tdiv_eq_ediv_of_nonneg (by omega)]
  refine (Int.ceil_eq_iff.mpr ⟨?_, ?_⟩).symm
  · rw [lt_div_iff₀ denominatorPositive]
    have below : ((numerator + denominator - 1) / denominator - 1) * denominator < numerator := by
      rw [sub_mul, one_mul, mul_comm]
      omega
    exact_mod_cast below
  · rw [div_le_iff₀ denominatorPositive]
    have above : numerator ≤ (numerator + denominator - 1) / denominator * denominator := by
      rw [mul_comm]
      omega
    exact_mod_cast above

/-- All digits shifted by a power of ten, rounded up. -/
theorem ceil_shift (digits : ℕ) (power : ℤ) :
    (if 0 ≤ power then (digits : ℤ) * 10 ^ power.toNat else ceilDiv digits (10 ^ (-power).toNat)) =
      ⌈(digits * 10 ^ power : ℚ)⌉ := by
  split
  · next up =>
    obtain ⟨places, rfl⟩ := Int.eq_ofNat_of_zero_le up
    rw [Int.toNat_natCast, zpow_natCast]
    exact_mod_cast (Int.ceil_intCast (digits * 10 ^ places : ℤ)).symm
  · next down =>
    obtain ⟨places, same⟩ := Int.eq_ofNat_of_zero_le (show 0 ≤ -power by omega)
    rw [same, Int.toNat_natCast, ceilDiv_eq (Int.natCast_nonneg _) (pow_pos (by decide) _), ← neg_neg power,
      same, zpow_neg, zpow_natCast, ← div_eq_mul_inv]
    push_cast
    rfl

/-- **A cost is read exactly and rounded up.** -/
theorem usdToMicros_eq_ok {text : String} {micros : ℤ} : usdToMicros text = .ok micros ↔
    ∃ literal : DecimalText, literal.toText = text.toList ∧ literal.exponentValue.natAbs ≤ 100 ∧
      micros = ⌈literal.value * 10 ^ 6⌉ := by
  have rounded (literal : DecimalText) : (if 0 ≤ 6 + literal.exponentValue - literal.fraction.length then
      bigInt (literal.whole ++ literal.fraction) *
        10 ^ (6 + literal.exponentValue - literal.fraction.length).toNat
      else ceilDiv (bigInt (literal.whole ++ literal.fraction))
        (10 ^ (-(6 + literal.exponentValue - literal.fraction.length)).toNat)) =
      ⌈literal.value * 10 ^ 6⌉ := by
    have shifted := literal.value_mul 6
    rw [bigInt_eq, ceil_shift, ← shifted]
    rfl
  unfold usdToMicros
  dsimp only
  constructor
  · intro converted
    split at converted
    · cases converted
    · next fine =>
      push Not at fine
      obtain ⟨some_, ended, within⟩ := fine
      obtain ⟨literal, text_, whole, fraction, exponent⟩ :=
        exists_decimalText some_ rfl (Prod.ext rfl ended)
      refine ⟨literal, text_, exponent ▸ within, ?_⟩
      rw [← rounded, whole, fraction, exponent]
      exact (Except.ok.inj converted).symm
  · rintro ⟨literal, text_, within, rfl⟩
    obtain ⟨whole, fraction, exponent⟩ := read_decimalText literal
    obtain ⟨some_, _⟩ := areDigits_iff.mp literal.valid
    rw [← text_, whole, fraction]
    dsimp only
    rw [exponent, if_neg (by
      push Not
      exact ⟨some_, rfl, within⟩)]
    exact congrArg Except.ok (rounded literal)

end FuseControlPlane.Core
